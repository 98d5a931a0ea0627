/-! Decimal texts of whole numbers: writing them, and reading them back with an
optional sign. -/

namespace SqlMapper.Decimal

def ofNat (n : Nat) : String :=
  String.ofList (Nat.toDigits 10 n)

def ofInt : Int → String
  | .ofNat n => ofNat n
  | .negSucc n => "-" ++ ofNat (n + 1)

/-- The number a text of digits denotes; a text without a digit denotes none. -/
def toNat? (cs : List Char) : Option Nat :=
  if !cs.isEmpty && cs.all Char.isDigit then some (Nat.ofDigitChars 10 cs 0) else none

/-- The number that digits with at most one sign before them denote. -/
def toInt? : List Char → Option Int
  | '-' :: cs => (toNat? cs).map (fun n => -(n : Int))
  | '+' :: cs => (toNat? cs).map Int.ofNat
  | cs => (toNat? cs).map Int.ofNat

/-- The number written with at least `width` digits, zeros in front. -/
def padded (width n : Nat) : String :=
  String.ofList (List.leftpad width '0' (Nat.toDigits 10 n))

@[simp]
theorem toList_ofNat (n : Nat) : (ofNat n).toList = Nat.toDigits 10 n := by
  simp [ofNat]

end SqlMapper.Decimal
