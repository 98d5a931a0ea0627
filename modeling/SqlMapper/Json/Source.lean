/-! What the grammar of JSON makes of a text, before any limit on numbers, escapes or
nesting is applied: members stay in their order with repeated keys, numbers stay digits,
and a string that an escape makes meaningless is kept as such. -/

namespace SqlMapper.Json

/-- The parts of a number: whole digits, digits after a point, and an exponent. -/
structure Numeral where
  negative : Bool
  whole : List Char
  fraction : Option (List Char)
  exponent : Option (Bool × List Char)
  deriving DecidableEq, Repr

/-- A grammatical text. A string is `none` where an escape names half of a pair. -/
inductive Source where
  | null
  | bool (b : Bool)
  | number (n : Numeral)
  | string (s : Option String)
  | array (items : List Source)
  | object (members : List (Option String × Source))

namespace Source

def isSpace (c : Char) : Bool :=
  c == ' ' || c == '\t' || c == '\n' || c == '\r'

def skipSpace (cs : List Char) : List Char :=
  cs.dropWhile isSpace

def hexDigit? (c : Char) : Option Nat :=
  if '0' ≤ c && c ≤ '9' then some (c.toNat - 48)
  else if 'a' ≤ c && c ≤ 'f' then some (c.toNat - 87)
  else if 'A' ≤ c && c ≤ 'F' then some (c.toNat - 55)
  else none

def hex4? (a b c d : Char) : Option Nat := do
  let w ← hexDigit? a
  let x ← hexDigit? b
  let y ← hexDigit? c
  let z ← hexDigit? d
  some (((w * 16 + x) * 16 + y) * 16 + z)

def isHighHalf (n : Nat) : Bool := 0xd800 ≤ n && n < 0xdc00

def isLowHalf (n : Nat) : Bool := 0xdc00 ≤ n && n < 0xe000

def pairChar (high low : Nat) : Char :=
  Char.ofNat (0x10000 + (high - 0xd800) * 0x400 + (low - 0xdc00))

def simpleEscape? : Char → Option Char
  | '"' => some '"'
  | '\\' => some '\\'
  | '/' => some '/'
  | 'b' => some '\u0008'
  | 'f' => some '\u000c'
  | 'n' => some '\n'
  | 'r' => some '\r'
  | 't' => some '\t'
  | _ => none

/-- Puts a character in front of what was read; a meaningless string stays meaningless. -/
def consChar (c : Char) (r : Option (List Char) × List Char) : Option (List Char) × List Char :=
  (r.1.map (c :: ·), r.2)

/-- Reads a string after its opening quote. The first part of the result is `none` where
the string holds half of a pair. -/
def stringRest? : List Char → Option (Option (List Char) × List Char)
  | [] => none
  | '"' :: cs => some (some [], cs)
  | '\\' :: 'u' :: a :: b :: c :: d :: '\\' :: 'u' :: e :: f :: g :: h :: cs => do
    let n ← hex4? a b c d
    let m ← hex4? e f g h
    if isHighHalf n && isLowHalf m then
      (stringRest? cs).map (consChar (pairChar n m))
    else
      let r ← stringRest? ('\\' :: 'u' :: e :: f :: g :: h :: cs)
      if isHighHalf n || isLowHalf n then some (none, r.2) else some (consChar (Char.ofNat n) r)
  | '\\' :: 'u' :: a :: b :: c :: d :: cs => do
    let n ← hex4? a b c d
    let r ← stringRest? cs
    if isHighHalf n || isLowHalf n then some (none, r.2) else some (consChar (Char.ofNat n) r)
  | '\\' :: c :: cs => do
    let e ← simpleEscape? c
    (stringRest? cs).map (consChar e)
  | c :: cs =>
    if c.toNat < 32 || c == '\\' then none else (stringRest? cs).map (consChar c)

def string? (cs : List Char) : Option (Option String × List Char) :=
  (stringRest? cs).map fun r => (r.1.map String.ofList, r.2)

def spanDigits (cs : List Char) : List Char × List Char :=
  (cs.takeWhile Char.isDigit, cs.dropWhile Char.isDigit)

/-- The digits after a point, which needs one. -/
def fraction? : List Char → Option (Option (List Char) × List Char)
  | '.' :: cs =>
    let (digits, rest) := spanDigits cs
    if digits.isEmpty then none else some (some digits, rest)
  | cs => some (none, cs)

def exponentDigits? (negative : Bool) (cs : List Char) :
    Option (Option (Bool × List Char) × List Char) :=
  let (digits, rest) := spanDigits cs
  if digits.isEmpty then none else some (some (negative, digits), rest)

def exponent? : List Char → Option (Option (Bool × List Char) × List Char)
  | c :: cs =>
    if c == 'e' || c == 'E' then
      match cs with
      | '-' :: ds => exponentDigits? true ds
      | '+' :: ds => exponentDigits? false ds
      | ds => exponentDigits? false ds
    else some (none, c :: cs)
  | [] => some (none, [])

/-- A number after its sign. It begins with a digit, and with a zero only if no other whole
digit follows. -/
def unsigned? (negative : Bool) (cs : List Char) : Option (Numeral × List Char) := do
  let (whole, rest) := spanDigits cs
  if whole.isEmpty || (whole.head? == some '0' && whole.length != 1) then none
  else
    let (fraction, rest) ← fraction? rest
    let (exponent, rest) ← exponent? rest
    some (⟨negative, whole, fraction, exponent⟩, rest)

def number? : List Char → Option (Numeral × List Char)
  | '-' :: cs => unsigned? true cs
  | cs => unsigned? false cs

mutual

/-- Reads one value; `fuel` bounds the depth and the number of items together. -/
def value? : Nat → List Char → Option (Source × List Char)
  | 0, _ => none
  | fuel + 1, cs =>
    match skipSpace cs with
    | 'n' :: 'u' :: 'l' :: 'l' :: rest => some (.null, rest)
    | 't' :: 'r' :: 'u' :: 'e' :: rest => some (.bool true, rest)
    | 'f' :: 'a' :: 'l' :: 's' :: 'e' :: rest => some (.bool false, rest)
    | '"' :: rest => (string? rest).map fun r => (.string r.1, r.2)
    | '[' :: rest =>
      match skipSpace rest with
      | ']' :: rest => some (.array [], rest)
      | rest => (items? fuel rest).map fun r => (.array r.1, r.2)
    | '{' :: rest =>
      match skipSpace rest with
      | '}' :: rest => some (.object [], rest)
      | rest => (members? fuel rest).map fun r => (.object r.1, r.2)
    | rest => (number? rest).map fun r => (.number r.1, r.2)

def items? : Nat → List Char → Option (List Source × List Char)
  | 0, _ => none
  | fuel + 1, cs => do
    let (x, rest) ← value? fuel cs
    match skipSpace rest with
    | ']' :: rest => some ([x], rest)
    | ',' :: rest => (items? fuel rest).map fun r => (x :: r.1, r.2)
    | _ => none

def members? : Nat → List Char → Option (List (Option String × Source) × List Char)
  | 0, _ => none
  | fuel + 1, cs =>
    match skipSpace cs with
    | '"' :: rest => do
      let (key, rest) ← string? rest
      match skipSpace rest with
      | ':' :: rest =>
        let (x, rest) ← value? fuel rest
        match skipSpace rest with
        | '}' :: rest => some ([(key, x)], rest)
        | ',' :: rest => (members? fuel rest).map fun r => ((key, x) :: r.1, r.2)
        | _ => none
      | _ => none
    | _ => none

end

def ofText? (s : String) : Option Source :=
  let cs := s.toList
  match value? (2 * cs.length + 2) cs with
  | some (x, rest) => if (skipSpace rest).isEmpty then some x else none
  | none => none

end Source

end SqlMapper.Json
