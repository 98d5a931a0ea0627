import SqlMapper.Decimal.Integer

/-! Universally unique identifiers: 128 bits, written as five groups of hexadecimal digits.
Reading also takes the digits without hyphens, and the hyphenated form in braces or after
`urn:uuid:`. -/

namespace SqlMapper

structure Uuid where
  bits : BitVec 128
  deriving DecidableEq

namespace Uuid

inductive ReadError where
  | character (c : Char) (index : Nat)
  | length (found : Nat)
  | groupCount (found : Nat)
  | groupLength (group found : Nat)
  deriving DecidableEq

def groupLengths : List Nat := [8, 4, 4, 4, 12]

def ReadError.message : ReadError → String
  | .character c index =>
    "invalid character: found \x60" ++ c.toString ++ "\x60 at " ++ Decimal.ofNat index
  | .length found => "invalid length: found " ++ Decimal.ofNat found
  | .groupCount found => "invalid group count: expected 5, found " ++ Decimal.ofNat found
  | .groupLength group found =>
    "invalid group length in group " ++ Decimal.ofNat group ++ ": expected " ++
      Decimal.ofNat (groupLengths.getD group 0) ++ ", found " ++ Decimal.ofNat found

def nil : Uuid := ⟨0⟩

def hexDigits (u : Uuid) : List Char :=
  List.leftpad 32 '0' (Nat.toDigits 16 u.bits.toNat)

def cut : List Nat → List Char → List (List Char)
  | [], _ => []
  | n :: ns, cs => cs.take n :: cut ns (cs.drop n)

def toText (u : Uuid) : String :=
  String.ofList (['-'].intercalate (cut groupLengths u.hexDigits))

def hexValue? (c : Char) : Option Nat :=
  if c.isDigit then some (c.toNat - 48)
  else if 'a' ≤ c && c ≤ 'f' then some (c.toNat - 87)
  else if 'A' ≤ c && c ≤ 'F' then some (c.toNat - 55)
  else none

def ofHex? (cs : List Char) : Option Uuid :=
  if cs.length = 32 then
    (cs.mapM hexValue?).map fun ds => ⟨BitVec.ofNat 128 (ds.foldl (fun n d => n * 16 + d) 0)⟩
  else none

def ofGroups? (cs : List Char) : Option Uuid :=
  let groups := cs.splitOn '-'
  if groups.map List.length = groupLengths then ofHex? groups.flatten else none

/-- A text without its braces or its `urn:uuid:`, if it has them. -/
def unwrap? (cs : List Char) : Option (List Char × Nat) :=
  match cs with
  | '{' :: rest => if rest.getLast? = some '}' then some (rest.dropLast, 1) else none
  | _ =>
    let mark := cs.take 9
    if mark = "urn:uuid:".toList ∨ mark = "URN:UUID:".toList then some (cs.drop 9, 9) else none

/-- The first character that is neither a hexadecimal digit nor a hyphen, with the number
of bytes before it. -/
def badCharacter? (index : Nat) : List Char → Option (Char × Nat)
  | [] => none
  | c :: cs =>
    if c = '-' ∨ (hexValue? c).isSome then badCharacter? (index + c.utf8Size) cs
    else some (c, index)

/-- The first of the leading groups whose length is wrong. -/
def badGroup? (group : Nat) : List Nat → List (List Char) → Option (Nat × Nat)
  | n :: ns, g :: gs => if g.length = n then badGroup? (group + 1) ns gs else some (group, g.length)
  | _, _ => none

/-- The length of the longest form, the one after `urn:uuid:`. -/
def longest : Nat := 45

/-- Why a text is no identifier. Of a text beyond every form only the length is told, and the
last group is measured to the end of the whole text. -/
def diagnose (cs : List Char) : ReadError :=
  let size := (String.ofList cs).utf8ByteSize
  if longest < size then .length size
  else
  let (body, offset, plain) := match unwrap? cs with
    | some (body, offset) => (body, offset, false)
    | none => (cs, 0, true)
  match badCharacter? offset body with
  | some (c, index) => .character c index
  | none =>
    let groups := body.splitOn '-'
    if plain && groups.length == 1 then .length cs.length
    else if groups.length ≠ 5 then .groupCount groups.length
    else
      match badGroup? 0 (groupLengths.take 4) groups with
      | some (group, found) => .groupLength group found
      | none => .groupLength 4 (cs.length - 24)

def read (s : String) : Except ReadError Uuid :=
  let cs := s.toList
  let found := match unwrap? cs with
    | some (body, _) => ofGroups? body
    | none => (ofHex? cs).or (ofGroups? cs)
  match found with
  | some u => .ok u
  | none => .error (diagnose cs)

end Uuid

end SqlMapper
