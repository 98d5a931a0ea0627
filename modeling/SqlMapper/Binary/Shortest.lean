import SqlMapper.Binary.Format

/-! The fewest decimal digits that read back as a given number: of the points of the
coarsest decimal grid that meets the interval of reals rounding to the number, the
nearest. -/

namespace SqlMapper.Binary

/-- Which digit string to take when two of one length are equally near. -/
inductive Tie where
  | up
  | even
  deriving DecidableEq, Repr

/-- `digits` read as a whole number, times ten to the `exponent`. -/
structure Scientific where
  digits : Nat
  exponent : Int
  deriving DecidableEq, Repr

/-- The reals that round to a number, all over one denominator, with the number itself. -/
structure Rounding where
  value : Nat
  lower : Nat
  upper : Nat
  denominator : Nat
  closed : Bool

/-- The interval of a positive number. It reaches half a unit of the last place to either
side, but only a quarter below a power of two, where the next lower numbers lie closer. -/
def Rounding.ofNumber (f : Format) (significand : Nat) (exponent : Int) : Rounding :=
  let (num, den) := ratio (4 * significand) (exponent - 2)
  let (unit, _) := ratio 1 (exponent - 2)
  let narrow := significand == Nat.pow 2 f.fractionBits && f.leastExponent < exponent
  { value := num
    lower := num - (if narrow then unit else 2 * unit)
    upper := num + 2 * unit
    denominator := den
    closed := significand % 2 == 0 }

namespace Rounding

/-- Whether `digits · 10 ^ exponent` rounds to the number. -/
def contains (r : Rounding) (digits : Nat) (exponent : Int) : Bool :=
  let (p, q) := match exponent with
    | .ofNat e => (digits * Nat.pow 10 e * r.denominator, 1)
    | .negSucc e => (digits * r.denominator, Nat.pow 10 (e + 1))
  if r.closed then r.lower * q ≤ p && p ≤ r.upper * q else r.lower * q < p && p < r.upper * q

/-- The shortest digits on the grid of `10 ^ exponent`, if the grid meets the interval. -/
def onGrid? (r : Rounding) (tie : Tie) (exponent : Int) : Option Nat :=
  let (num, den) := match exponent with
    | .ofNat e => (r.value, r.denominator * Nat.pow 10 e)
    | .negSucc e => (r.value * Nat.pow 10 (e + 1), r.denominator)
  let below := num / den
  let twice := 2 * (num % den)
  let preferAbove := twice > den || (twice == den && (tie == .up || below % 2 == 1))
  match r.contains below exponent && below != 0, r.contains (below + 1) exponent with
  | true, true => some (if preferAbove then below + 1 else below)
  | true, false => some below
  | false, true => some (below + 1)
  | false, false => none

/-- The first grid that meets the interval, from `exponent` downwards. -/
def search (r : Rounding) (tie : Tie) (exponent : Int) : Nat → Scientific
  | 0 => ⟨0, 0⟩
  | steps + 1 =>
    match r.onGrid? tie exponent with
    | some digits => ⟨digits, exponent⟩
    | none => r.search tie (exponent - 1) steps

end Rounding

/-- The number of decimal places before the point of `num / den`, or minus the zeros after
it, up to one place too many. -/
def decimalPlaces (num den : Nat) : Int :=
  if den ≤ num then ((Nat.toDigits 10 (num / den)).length : Int)
  else 1 - ((Nat.toDigits 10 (den / num)).length : Int)

/-- The fewest digits of a finite number; zero has the digit 0. -/
def shortest (f : Format) (tie : Tie) (significand : Nat) (exponent : Int) : Scientific :=
  if significand = 0 then ⟨0, 0⟩
  else
    let r := Rounding.ofNumber f significand exponent
    r.search tie (decimalPlaces r.value r.denominator) 20

end SqlMapper.Binary
