import SqlMapper.Json.Basic

/-! The interchange form of values: JSON that keeps their kinds, for programs that hand
values over and take them back. A member that may be left out may also be null. -/

namespace SqlMapper

class Decode (α : Type) where
  decode? : Json → Option α

class Encode (α : Type) where
  encode : α → Json

export Decode (decode?)

export Encode (encode)

namespace Json

def get? (j : Json) (key : String) : Option Json :=
  match j with
  | .object members => members.lookup key
  | _ => none

def at? [Decode α] (j : Json) (key : String) : Option α :=
  (j.get? key).bind decode?

/-- What a member holds that may be left out. -/
def atD [Decode α] (j : Json) (key : String) (fallback : α) : Option α :=
  match j.get? key with
  | none | some .null => some fallback
  | some v => decode? v

/-- The whole number, if it is one. -/
def int? : Json → Option Int
  | .number (.integer n ..) => some n
  | _ => none

/-- The whole number, if it lies between two bounds. -/
def intWithin? (least greatest : Int) (j : Json) : Option Int :=
  j.int?.filter fun n => least ≤ n ∧ n ≤ greatest

def natBelow? (bound : Nat) (j : Json) : Option Nat :=
  (j.intWithin? 0 (bound - 1 : Nat)).map Int.toNat

/-- A whole number; one that no 64-bit word holds becomes null. -/
def ofInt (n : Int) : Json :=
  if h : -0x8000000000000000 ≤ n ∧ n < 0x10000000000000000 then .number (.integer n h.1 h.2)
  else .null

end Json

instance : Decode Json := ⟨some⟩

instance : Encode Json := ⟨id⟩

instance : Encode Unit := ⟨fun _ => .null⟩

instance : Decode Bool where
  decode?
    | .bool b => some b
    | _ => none

instance : Encode Bool := ⟨.bool⟩

instance : Decode String where
  decode?
    | .string s => some s
    | _ => none

instance : Encode String := ⟨.string⟩

/-- A text of exactly one character. -/
instance : Decode Char where
  decode? j := do
    match (← (decode? j : Option String)).toList with
    | [c] => some c
    | _ => none

instance : Encode Char := ⟨fun c => .string c.toString⟩

instance : Decode Int := ⟨Json.int?⟩

instance : Encode Int := ⟨Json.ofInt⟩

instance : Decode Nat := ⟨Json.natBelow? 0x10000000000000000⟩

instance : Encode Nat := ⟨fun n => .ofInt n⟩

instance : Decode Int8 := ⟨fun j => (j.intWithin? (-0x80) 0x7f).map Int8.ofInt⟩

instance : Encode Int8 := ⟨fun n => .ofInt n.toInt⟩

instance : Decode Int16 := ⟨fun j => (j.intWithin? (-0x8000) 0x7fff).map Int16.ofInt⟩

instance : Encode Int16 := ⟨fun n => .ofInt n.toInt⟩

instance : Decode Int32 := ⟨fun j => (j.intWithin? (-0x80000000) 0x7fffffff).map Int32.ofInt⟩

instance : Encode Int32 := ⟨fun n => .ofInt n.toInt⟩

instance : Decode Int64 :=
  ⟨fun j => (j.intWithin? (-0x8000000000000000) 0x7fffffffffffffff).map Int64.ofInt⟩

instance : Encode Int64 := ⟨Json.ofInt64⟩

instance : Decode UInt8 := ⟨fun j => (j.natBelow? 0x100).map UInt8.ofNat⟩

instance : Encode UInt8 := ⟨fun n => .ofInt n.toNat⟩

instance : Decode UInt16 := ⟨fun j => (j.natBelow? 0x10000).map UInt16.ofNat⟩

instance : Encode UInt16 := ⟨fun n => .ofInt n.toNat⟩

instance : Decode UInt32 := ⟨fun j => (j.natBelow? 0x100000000).map UInt32.ofNat⟩

instance : Encode UInt32 := ⟨fun n => .ofInt n.toNat⟩

instance : Decode UInt64 := ⟨fun j => (j.natBelow? 0x10000000000000000).map UInt64.ofNat⟩

instance : Encode UInt64 := ⟨fun n => .ofInt n.toNat⟩

/-- Null is the missing value. -/
instance [Decode α] : Decode (Option α) where
  decode?
    | .null => some none
    | j => (decode? j).map some

instance [Encode α] : Encode (Option α) where
  encode
    | none => .null
    | some a => encode a

instance [Decode α] : Decode (List α) where
  decode?
    | .array items => items.mapM decode?
    | _ => none

instance [Encode α] : Encode (List α) := ⟨fun as => .array (as.map encode)⟩

instance [Decode α] [Decode β] : Decode (α × β) where
  decode?
    | .array [a, b] => do some (← decode? a, ← decode? b)
    | _ => none

instance [Encode α] [Encode β] : Encode (α × β) := ⟨fun p => .array [encode p.1, encode p.2]⟩

end SqlMapper
