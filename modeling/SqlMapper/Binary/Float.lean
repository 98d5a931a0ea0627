import SqlMapper.Binary.Format

/-! Single and double precision numbers as their words of bits, with the operations
that values, columns and texts need. -/

namespace SqlMapper.Binary

structure Single where
  bits : UInt32
  deriving DecidableEq, Repr

structure Double where
  bits : UInt64
  deriving DecidableEq, Repr

/-- Equality of numbers: nothing equals a result that is not a number, and the two
zeros are equal. -/
def Number.eq : Number → Number → Bool
  | .infinite s, .infinite t => s == t
  | .finite _ 0 _, .finite _ 0 _ => true
  | .finite s m e, .finite t n k => s == t && m == n && e == k
  | _, _ => false

def Number.isZero : Number → Bool
  | .finite _ 0 _ => true
  | _ => false

def Number.isFinite : Number → Bool
  | .finite .. => true
  | _ => false

namespace Single

def number (x : Single) : Number := Number.ofWord .single x.bits.toNat

def ofNumber (n : Number) : Single := ⟨UInt32.ofNat (n.toWord .single)⟩

def ofInt (n : Int) : Single := ofNumber (.finite (n < 0) n.natAbs 0)

def eq (x y : Single) : Bool := x.number.eq y.number

def isZero (x : Single) : Bool := x.number.isZero

def isNaN (x : Single) : Bool := x.number == .nan

def zero : Single := ⟨0⟩

end Single

namespace Double

def number (x : Double) : Number := Number.ofWord .double x.bits.toNat

def ofNumber (n : Number) : Double := ⟨UInt64.ofNat (n.toWord .double)⟩

def ofInt (n : Int) : Double := ofNumber (.finite (n < 0) n.natAbs 0)

def eq (x y : Double) : Bool := x.number.eq y.number

def isZero (x : Double) : Bool := x.number.isZero

def isNaN (x : Double) : Bool := x.number == .nan

def zero : Double := ⟨0⟩

def neg (x : Double) : Double := ⟨x.bits ^^^ 0x8000000000000000⟩

def ofRatio (num den : Nat) : Double := ⟨UInt64.ofNat (roundRatio .double num den)⟩

def magnitude (x : Double) : Nat × Nat :=
  match x.number with
  | .finite _ m e => ratio m e
  | _ => (0, 1)

def mulMagnitude (x y : Double) : Double :=
  ofRatio (x.magnitude.1 * y.magnitude.1) (x.magnitude.2 * y.magnitude.2)

/-- The rounded quotient of two magnitudes; the second is not zero. -/
def divMagnitude (x y : Double) : Double :=
  ofRatio (x.magnitude.1 * y.magnitude.2) (x.magnitude.2 * y.magnitude.1)

end Double

def Single.toDouble (x : Single) : Double := Double.ofNumber x.number

def Double.toSingle (x : Double) : Single := Single.ofNumber x.number

end SqlMapper.Binary
