import SqlMapper.Binary.Float
import SqlMapper.Interchange.Basic

/-! Words and bytes by their hexadecimal digits in lower case. A floating point number is
given by its bits, so that none is lost, and what is not a number by its name. -/

namespace SqlMapper.Hexadecimal

def digit (n : Nat) : Char :=
  if n < 10 then Char.ofNat (48 + n) else Char.ofNat (87 + n)

def digitValue? (c : Char) : Option Nat :=
  if c.isDigit then some (c.toNat - 48)
  else if 'a' ≤ c ∧ c ≤ 'f' then some (c.toNat - 87)
  else none

/-- The lowest digits of a number, the highest of them first. -/
def digits (count n : Nat) : List Char :=
  (List.range count).reverse.map fun i => digit (n / Nat.pow 16 i % 16)

def value? (cs : List Char) : Option Nat :=
  (cs.mapM digitValue?).map fun ds => ds.foldl (fun n d => n * 16 + d) 0

def ofBytes (bytes : List UInt8) : List Char :=
  bytes.flatMap fun b => digits 2 b.toNat

def bytes? : List Char → Option (List UInt8)
  | [] => some []
  | a :: b :: rest => do some (UInt8.ofNat (← value? [a, b]) :: (← bytes? rest))
  | _ => none

/-- A word of so many digits, or the word that stands for what is not a number. -/
def word? (count notNumber : Nat) (j : Json) : Option Nat := do
  match (← (decode? j : Option String)).toList with
  | ['n', 'a', 'n'] => some notNumber
  | '0' :: 'x' :: cs => if cs.length = count then value? cs else none
  | _ => none

def ofWord (count n : Nat) : Json :=
  .string (String.ofList ('0' :: 'x' :: digits count n))

end SqlMapper.Hexadecimal

namespace SqlMapper

instance : Decode Binary.Single where
  decode? j := (Hexadecimal.word? 8 0x7fc00000 j).map fun n => ⟨UInt32.ofNat n⟩

instance : Encode Binary.Single where
  encode x := if x.isNaN then .string "nan" else Hexadecimal.ofWord 8 x.bits.toNat

instance : Decode Binary.Double where
  decode? j := (Hexadecimal.word? 16 0x7ff8000000000000 j).map fun n => ⟨UInt64.ofNat n⟩

instance : Encode Binary.Double where
  encode x := if x.isNaN then .string "nan" else Hexadecimal.ofWord 16 x.bits.toNat

end SqlMapper
