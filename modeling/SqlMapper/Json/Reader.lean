import SqlMapper.Json.Basic
import SqlMapper.Json.Source

/-! JSON values read from texts. Containers nest at most 127 deep and a number must not
exceed the doubles; a decimal number is formed from the digits that fit an unsigned 64-bit
word by one multiplication or division with a power of ten at a time, each rounded. -/

namespace SqlMapper.Json

/-- How deep arrays and objects may stand inside one another. -/
def nestingLimit : Nat := 127

namespace Numeral

def wordLimit : Nat := 0x10000000000000000

/-- The digits collected so far, and the power of ten still to apply. -/
structure Scaled where
  significand : Nat
  exponent : Int

/-- Takes whole digits while they fit a word; each one after that scales by ten. -/
def takeWhole (s : Nat) : List Char → Scaled
  | [] => ⟨s, 0⟩
  | c :: cs =>
    let next := s * 10 + (c.toNat - 48)
    if next < wordLimit then takeWhole next cs else ⟨s, (c :: cs).length⟩

/-- Takes digits after the point while they fit a word; the rest are dropped. -/
def takeFraction (s : Scaled) : List Char → Scaled
  | [] => s
  | c :: cs =>
    let next := s.significand * 10 + (c.toNat - 48)
    if next < wordLimit then takeFraction ⟨next, s.exponent - 1⟩ cs else s

def powerOfTen (n : Nat) : Binary.Double :=
  Binary.Double.ofRatio (Nat.pow 10 n) 1

/-- Divides by `10 ^ n`, at most `10 ^ 308` at a time, until nothing is left. -/
def divPower (x : Binary.Double) (n : Nat) : Binary.Double :=
  if n ≤ 308 then x.divMagnitude (powerOfTen n)
  else if x.isZero then x
  else divPower (x.divMagnitude (powerOfTen 308)) (n - 308)
termination_by n

/-- The double of collected digits; none if it would exceed the doubles. -/
def Scaled.toDouble? (s : Scaled) : Option Binary.Double :=
  let x := Binary.Double.ofInt s.significand
  match s.exponent with
  | .ofNat e =>
    if e ≤ 308 then
      let y := x.mulMagnitude (powerOfTen e)
      if y.number.isFinite then some y else none
    else if x.isZero then some x
    else none
  | .negSucc e => some (divPower x (e + 1))

/-- Digits, point and exponent together. An exponent beyond a 32-bit word leaves zero or
exceeds the doubles. -/
def magnitude? (n : Numeral) : Option Binary.Double :=
  let s := takeFraction (takeWhole 0 n.whole) (n.fraction.getD [])
  match n.exponent with
  | none => s.toDouble?
  | some (negative, digits) =>
    let e := Nat.ofDigitChars 10 digits 0
    if e < 0x80000000 then
      Scaled.toDouble? ⟨s.significand, if negative then s.exponent - e else s.exponent + e⟩
    else if s.significand = 0 || negative then some .zero
    else none

/-- The double of the numeral, if it is finite. -/
def toDouble? (n : Numeral) : Option Number :=
  match n.magnitude? with
  | none => none
  | some x =>
    let y := if n.negative then x.neg else x
    if h : y.number.isFinite = true then some (.double y h) else none

/-- A numeral without point and exponent is whole where a 64-bit word can hold it; minus
zero is a double. -/
def toNumber? (n : Numeral) : Option Number :=
  if n.fraction.isSome || n.exponent.isSome then n.toDouble?
  else
    let m : Int := Nat.ofDigitChars 10 n.whole 0
    let signed := if n.negative then -m else m
    if n.negative && m == 0 then n.toDouble?
    else if h : -0x8000000000000000 ≤ signed ∧ signed < 0x10000000000000000 then
      some (.integer signed h.1 h.2)
    else n.toDouble?

end Numeral

namespace Source

mutual

/-- The value of a grammatical text; containers may still nest `depth` deep. -/
def toJson? : Source → Nat → Option Json
  | .null, _ => some .null
  | .bool b, _ => some (.bool b)
  | .number n, _ => n.toNumber?.map .number
  | .string s, _ => s.map .string
  | .array _, 0 => none
  | .array items, depth + 1 => (itemsToJson? items depth).map .array
  | .object _, 0 => none
  | .object members, depth + 1 => (membersToJson? members depth).map ofMembers

def itemsToJson? : List Source → Nat → Option (List Json)
  | [], _ => some []
  | x :: xs, depth => do
    let y ← toJson? x depth
    let ys ← itemsToJson? xs depth
    some (y :: ys)

def membersToJson? : List (Option String × Source) → Nat → Option (List (String × Json))
  | [], _ => some []
  | (key, x) :: xs, depth => do
    let k ← key
    let y ← toJson? x depth
    let ys ← membersToJson? xs depth
    some ((k, y) :: ys)

end

end Source

def ofText? (s : String) : Option Json := do
  let source ← Source.ofText? s
  source.toJson? nestingLimit

end SqlMapper.Json
