import SqlMapper.Binary.Float

/-! JSON values. Whole numbers between the least signed and the greatest unsigned 64-bit
number are kept exactly, every other number as a finite double; the members of an object
are listed in the order of their keys, each key once. -/

namespace SqlMapper

inductive Json.Number where
  | integer (val : Int) (lower : -0x8000000000000000 ≤ val) (upper : val < 0x10000000000000000)
  | double (val : Binary.Double) (finite : val.number.isFinite = true)
  deriving DecidableEq

inductive Json where
  | null
  | bool (b : Bool)
  | number (n : Json.Number)
  | string (s : String)
  | array (items : List Json)
  | object (members : List (String × Json))

namespace Json

/-- The number as a double, rounded if it is whole and large. -/
def Number.toDouble : Number → Binary.Double
  | .integer n .. => Binary.Double.ofInt n
  | .double x .. => x

/-- The whole number, if it is one and fits a signed 64-bit word. -/
def Number.toInt64? : Number → Option Int
  | .integer n .. => if n < 0x8000000000000000 then some n else none
  | .double .. => none

def Number.eq : Number → Number → Bool
  | .integer m .., .integer n .. => m == n
  | .double x .., .double y .. => x.eq y
  | _, _ => false

def ofInt64 (n : Int64) : Json :=
  .number (.integer n.toInt (Int64.le_toInt n) (by have := Int64.toInt_lt n; omega))

/-- A double; JSON has no text for one that is not finite. -/
def ofDouble (x : Binary.Double) : Json :=
  if h : x.number.isFinite = true then .number (.double x h) else .null

/-- Adds a member in the order of the keys; a key that is there takes the new value. -/
def insertMember (key : String) (value : Json) : List (String × Json) → List (String × Json)
  | [] => [(key, value)]
  | (k, v) :: rest =>
    if key < k then (key, value) :: (k, v) :: rest
    else if key = k then (key, value) :: rest
    else (k, v) :: insertMember key value rest

/-- The object with the given members, the last of those with one key counting. -/
def ofMembers (members : List (String × Json)) : Json :=
  .object (members.foldl (fun sorted m => insertMember m.1 m.2 sorted) [])

mutual

/-- Equality of values, in which doubles compare as numbers. -/
def eq : Json → Json → Bool
  | .null, .null => true
  | .bool a, .bool b => a == b
  | .number m, .number n => m.eq n
  | .string s, .string t => s == t
  | .array xs, .array ys => eqItems xs ys
  | .object xs, .object ys => eqMembers xs ys
  | _, _ => false

def eqItems : List Json → List Json → Bool
  | [], [] => true
  | x :: xs, y :: ys => eq x y && eqItems xs ys
  | _, _ => false

def eqMembers : List (String × Json) → List (String × Json) → Bool
  | [], [] => true
  | (k, x) :: xs, (l, y) :: ys => k == l && eq x y && eqMembers xs ys
  | _, _ => false

end

end Json

end SqlMapper
