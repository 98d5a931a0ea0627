/-! The binary interchange formats of floating point: a sign bit, a biased exponent
and a fraction. A word of bits is taken apart exactly, and a quotient of two
natural numbers is rounded to the nearest word, a tie to the even one. -/

namespace SqlMapper.Binary

structure Format where
  fractionBits : Nat
  exponentBits : Nat
  deriving DecidableEq, Repr

def Format.single : Format := ⟨23, 8⟩

def Format.double : Format := ⟨52, 11⟩

namespace Format

/-- The exponent of the last fraction bit of the smallest numbers. -/
def leastExponent (f : Format) : Int :=
  2 - (Nat.pow 2 (f.exponentBits - 1) : Nat) - f.fractionBits

/-- The word whose exponent field is full and whose fraction is zero. -/
def infinity (f : Format) : Nat :=
  (Nat.pow 2 f.exponentBits - 1) * Nat.pow 2 f.fractionBits

def signBit (f : Format) : Nat :=
  Nat.pow 2 (f.exponentBits + f.fractionBits)

def quietNaN (f : Format) : Nat :=
  f.infinity + Nat.pow 2 (f.fractionBits - 1)

end Format

/-- What a word of bits denotes; a finite number is `± significand · 2 ^ exponent`. -/
inductive Number where
  | nan
  | infinite (negative : Bool)
  | finite (negative : Bool) (significand : Nat) (exponent : Int)
  deriving DecidableEq, Repr

def Number.ofWord (f : Format) (word : Nat) : Number :=
  let negative := word / f.signBit % 2 == 1
  let biased := word / Nat.pow 2 f.fractionBits % Nat.pow 2 f.exponentBits
  let fraction := word % Nat.pow 2 f.fractionBits
  if biased = Nat.pow 2 f.exponentBits - 1 then
    if fraction = 0 then .infinite negative else .nan
  else if biased = 0 then
    .finite negative fraction f.leastExponent
  else
    .finite negative (Nat.pow 2 f.fractionBits + fraction) (f.leastExponent + (biased - 1 : Nat))

/-- `significand · 2 ^ exponent` as a numerator over a denominator. -/
def ratio (significand : Nat) (exponent : Int) : Nat × Nat :=
  match exponent with
  | .ofNat e => (significand * Nat.pow 2 e, 1)
  | .negSucc e => (significand, Nat.pow 2 (e + 1))

/-- The quotient rounded to a whole number, a half to the even one. -/
def roundHalfEven (num den : Nat) : Nat :=
  let quotient := num / den
  let twice := 2 * (num % den)
  if twice < den || (twice == den && quotient % 2 == 0) then quotient else quotient + 1

/-- The exponent of the leading bit of `num / den`. -/
def leadingExponent (num den : Nat) : Int :=
  let guess : Int := (num.log2 : Int) - den.log2
  let reached : Bool := match guess with
    | .ofNat e => den * Nat.pow 2 e ≤ num
    | .negSucc e => den ≤ num * Nat.pow 2 (e + 1)
  if reached then guess else guess - 1

/-- The word nearest to `num / den`, without a sign. Fields of a word are laid out so
that counting up the words counts up the numbers, which is why a significand that
rounds past its last bit carries into the exponent by plain addition. -/
def roundRatio (f : Format) (num den : Nat) : Nat :=
  if num = 0 then 0
  else
    let exponent := max (leadingExponent num den - f.fractionBits) f.leastExponent
    let significand := match exponent with
      | .ofNat e => roundHalfEven num (den * Nat.pow 2 e)
      | .negSucc e => roundHalfEven (num * Nat.pow 2 (e + 1)) den
    min ((exponent - f.leastExponent).toNat * Nat.pow 2 f.fractionBits + significand) f.infinity

/-- The word of a number in a format, rounded where the format has no such number. -/
def Number.toWord (f : Format) : Number → Nat
  | .nan => f.quietNaN
  | .infinite negative => f.infinity + (if negative then f.signBit else 0)
  | .finite negative significand exponent =>
    let (num, den) := ratio significand exponent
    roundRatio f num den + (if negative then f.signBit else 0)

end SqlMapper.Binary
