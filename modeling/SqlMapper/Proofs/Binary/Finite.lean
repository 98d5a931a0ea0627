import Mathlib.Algebra.Order.Ring.Int
import SqlMapper.Binary.Float

/-! Whole numbers of 64 bits are within the finite doubles. -/

namespace SqlMapper.Binary

theorem roundHalfEven_le (num den : Nat) : roundHalfEven num den ≤ num / den + 1 := by
  rw [roundHalfEven]
  split <;> omega

theorem Number.isFinite_ofWord_iff {f : Format} {word : Nat} :
    (Number.ofWord f word).isFinite = true ↔
      word / Nat.pow 2 f.fractionBits % Nat.pow 2 f.exponentBits ≠
        Nat.pow 2 f.exponentBits - 1 := by
  rw [Number.ofWord]
  split
  · rename_i h
    refine iff_of_false ?_ (not_not_intro h)
    split <;> simp [isFinite]
  · rename_i h
    refine iff_of_true ?_ h
    split <;> rfl

theorem leadingExponent_one (n : Nat) :
    leadingExponent n 1 ≤ n.log2 ∧ (n.log2 : Int) - 1 ≤ leadingExponent n 1 := by
  have hone : ((1 : Nat).log2 : Int) = 0 := rfl
  rw [leadingExponent, hone, Int.sub_zero]
  split <;> split <;> omega

/-- A significand is rounded to at most one bit more than the fraction and its leading bit. -/
theorem roundHalfEven_le_of_exponent {n : Nat} {exponent : Int}
    (h : (n.log2 : Int) - 53 ≤ exponent) :
    (match exponent with
      | .ofNat e => roundHalfEven n (1 * Nat.pow 2 e)
      | .negSucc e => roundHalfEven (n * Nat.pow 2 (e + 1)) 1) ≤ 2 ^ 54 := by
  have hn : n < 2 ^ (n.log2 + 1) := Nat.lt_log2_self
  cases exponent with
  | ofNat e =>
    have he : n.log2 + 1 ≤ 54 + e := by
      rw [Int.ofNat_eq_natCast] at h
      omega
    have hlt : n < 2 ^ 54 * 2 ^ e :=
      calc n < 2 ^ (n.log2 + 1) := hn
        _ ≤ 2 ^ (54 + e) := Nat.pow_le_pow_right (by decide) he
        _ = 2 ^ 54 * 2 ^ e := Nat.pow_add 2 54 e
    have hdiv : n / 2 ^ e < 2 ^ 54 := Nat.div_lt_of_lt_mul (Nat.mul_comm .. ▸ hlt)
    have hround := roundHalfEven_le n (2 ^ e)
    simp only [Nat.one_mul, Nat.pow_eq]
    omega
  | negSucc e =>
    have he : n.log2 + 1 + (e + 1) ≤ 54 := by omega
    have hlt : n * 2 ^ (e + 1) < 2 ^ 54 :=
      calc n * 2 ^ (e + 1) < 2 ^ (n.log2 + 1) * 2 ^ (e + 1) :=
            Nat.mul_lt_mul_of_pos_right hn (Nat.two_pow_pos _)
        _ = 2 ^ (n.log2 + 1 + (e + 1)) := (Nat.pow_add 2 _ _).symm
        _ ≤ 2 ^ 54 := Nat.pow_le_pow_right (by decide) he
    have hround := roundHalfEven_le (n * 2 ^ (e + 1)) 1
    simp only [Nat.pow_eq]
    omega

theorem roundRatio_one_lt {n : Nat} (h : n < 2 ^ 64) :
    roundRatio .double n 1 < 0x7ff0000000000000 := by
  rw [roundRatio]
  split
  · decide
  · rename_i hn
    have hlog : n.log2 < 64 := (Nat.log2_lt hn).mpr h
    obtain ⟨hle, hge⟩ := leadingExponent_one n
    have hexp : max (leadingExponent n 1 - Format.double.fractionBits) Format.double.leastExponent =
        max (leadingExponent n 1 - 52) (-1074) := rfl
    rw [hexp]
    have hround := roundHalfEven_le_of_exponent
      (show (n.log2 : Int) - 53 ≤ max (leadingExponent n 1 - 52) (-1074) by omega)
    have hwidth : Nat.pow 2 Format.double.fractionBits = 4503599627370496 := rfl
    have hleast : Format.double.leastExponent = -1074 := rfl
    have hplaces : (max (leadingExponent n 1 - 52) (-1074) - Format.double.leastExponent).toNat ≤
        1085 := by omega
    rw [hwidth]
    refine Nat.lt_of_le_of_lt (Nat.min_le_left _ _) ?_
    exact Nat.lt_of_le_of_lt (Nat.add_le_add (Nat.mul_le_mul_right _ hplaces) hround) (by decide)

/-- The double nearest to a whole number of 64 bits is finite. -/
theorem Double.isFinite_ofInt {n : Int} (h : n.natAbs < 2 ^ 64) :
    (Double.ofInt n).number.isFinite = true := by
  have hround := roundRatio_one_lt h
  have hword : (Number.finite (n < 0) n.natAbs 0).toWord .double =
      roundRatio .double (n.natAbs * 1) 1 +
        if decide (n < 0) = true then 0x8000000000000000 else 0 := rfl
  rw [Double.ofInt, Double.ofNumber, Double.number, Number.isFinite_ofWord_iff, hword,
    UInt64.toNat_ofNat', Nat.mul_one]
  have hwidth : Nat.pow 2 Format.double.fractionBits = 4503599627370496 := rfl
  have hfull : Nat.pow 2 Format.double.exponentBits = 2048 := rfl
  rw [hwidth, hfull]
  split <;> omega

end SqlMapper.Binary
