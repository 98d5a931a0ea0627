/-! Internet addresses as they stand in the host part of a URL. -/

namespace SqlMapper.Url

def isHexDigit (c : Char) : Bool :=
  c.isDigit || ('a' ≤ c && c ≤ 'f') || ('A' ≤ c && c ≤ 'F')

def hexValue (c : Char) : Nat :=
  if c.isDigit then c.toNat - 48
  else if 'a' ≤ c then c.toNat - 87
  else c.toNat - 55

def valueIn (base : Nat) (cs : List Char) : Nat :=
  cs.foldl (fun n c => n * base + hexValue c) 0

/-- One number of an address: hexadecimal after `0x`, octal after `0`, else decimal. A mark
with nothing after it is zero. -/
def addressNumber? (cs : List Char) : Option Nat :=
  match cs with
  | [] => none
  | '0' :: 'x' :: rest | '0' :: 'X' :: rest =>
    if rest.all isHexDigit then some (valueIn 16 rest) else none
  | '0' :: c :: rest =>
    if (c :: rest).all (fun d => '0' ≤ d && d ≤ '7') then some (valueIn 8 (c :: rest)) else none
  | _ => if cs.all Char.isDigit then some (valueIn 10 cs) else none

/-- The parts between the dots, without an empty last one. -/
def dottedParts (cs : List Char) : List (List Char) :=
  let parts := cs.splitOn '.'
  if parts.getLast? = some [] then parts.dropLast else parts

/-- Whether the last part of a name makes the whole an address of four bytes. -/
def endsInNumber (cs : List Char) : Bool :=
  match (dottedParts cs).getLast? with
  | none => false
  | some last => (!last.isEmpty && last.all Char.isDigit) || (addressNumber? last).isSome

/-- Whether dotted numbers fit four bytes: one byte each, the last one the bytes left. -/
def isIpv4 (cs : List Char) : Bool :=
  let parts := dottedParts cs
  match parts.mapM addressNumber? with
  | none => false
  | some numbers =>
    match numbers.reverse with
    | [] => false
    | last :: front =>
      numbers.length ≤ 4 && front.all (· < 256) && last < Nat.pow 256 (5 - numbers.length)

/-- A byte in decimal digits without a zero in front. -/
def isPlainByte (cs : List Char) : Bool :=
  !cs.isEmpty && cs.all Char.isDigit && (cs.head? != some '0' || cs.length == 1) &&
    valueIn 10 cs < 256

def isPlainIpv4 (cs : List Char) : Bool :=
  let parts := cs.splitOn '.'
  parts.length == 4 && parts.all isPlainByte

def isPiece (cs : List Char) : Bool :=
  !cs.isEmpty && cs.length ≤ 4 && cs.all isHexDigit

/-- How many 16-bit pieces colon-separated texts stand for; the very last text of an address
may be four bytes with dots. -/
def countPieces? (mayDot : Bool) : List (List Char) → Option Nat
  | [] => some 0
  | [last] =>
    if isPiece last then some 1
    else if mayDot && isPlainIpv4 last then some 2
    else none
  | p :: ps => if isPiece p then (countPieces? mayDot ps).map (· + 1) else none

/-- The text before and after the first double colon. -/
def splitDoubleColon? : List Char → Option (List Char × List Char)
  | ':' :: ':' :: rest => some ([], rest)
  | c :: cs => (splitDoubleColon? cs).map fun r => (c :: r.1, r.2)
  | [] => none

def pieces? (mayDot : Bool) (cs : List Char) : Option Nat :=
  if cs.isEmpty then some 0 else countPieces? mayDot (cs.splitOn ':')

/-- Eight pieces, of which a double colon may stand for one or more that are zero. -/
def isIpv6 (cs : List Char) : Bool :=
  match splitDoubleColon? cs with
  | none => pieces? true cs == some 8
  | some (front, back) =>
    match pieces? false front, pieces? true back with
    | some m, some n => m + n ≤ 7
    | _, _ => false

end SqlMapper.Url
