import Mathlib.Algebra.Group.Nat.Defs
import Mathlib.Data.List.Induction
import SqlMapper.Decimal.Integer
import SqlMapper.Proofs.Text.Trim

/-! What the decimal texts of whole numbers denote. Reading finds just that, and what is written of
a number denotes it, with blanks around it or without. -/

namespace SqlMapper

theorem Text.isBlank_of_isDigit {c : Char} (h : c.isDigit = true) : isBlank c = false := by
  have hd := Char.isDigit_iff_toNat.mp h
  simp only [isBlank, Bool.or_eq_false_iff, Bool.and_eq_false_iff, beq_eq_false_iff_ne,
    decide_eq_false_iff_not, Char.le_def, ne_eq, UInt32.le_iff_toNat_le, ← Char.toNat_inj]
  simp only [Char.reduceVal, UInt32.reduceToNat, Char.toNat] at *
  omega

namespace Decimal

/-- Digits in a row, and the number that they denote together. -/
inductive Digits : List Char → Nat → Prop
  | single {d : Nat} (hd : d < 10) : Digits [Nat.digitChar d] d
  | concat {cs : List Char} {n d : Nat} (h : Digits cs n) (hd : d < 10) :
      Digits (cs ++ [Nat.digitChar d]) (10 * n + d)

/-- Digits with at most one sign before them. -/
inductive Denotes : List Char → Int → Prop
  | plain {cs : List Char} {n : Nat} (h : Digits cs n) : Denotes cs n
  | plus {cs : List Char} {n : Nat} (h : Digits cs n) : Denotes ('+' :: cs) n
  | minus {cs : List Char} {n : Nat} (h : Digits cs n) : Denotes ('-' :: cs) (-n)

theorem isDigit_of_mem_toDigits {n : Nat} {c : Char} (h : c ∈ Nat.toDigits 10 n) :
    c.isDigit = true :=
  Nat.isDigit_of_mem_toDigits (by decide) (by decide) h

theorem toNat?_toDigits (n : Nat) : toNat? (Nat.toDigits 10 n) = some n := by
  have hall : (Nat.toDigits 10 n).all Char.isDigit = true :=
    List.all_eq_true.mpr fun _ => isDigit_of_mem_toDigits
  simp [toNat?, Nat.toDigits_ne_nil, hall, Nat.ofDigitChars_ten_toDigits]

theorem toInt?_of_not_sign {cs : List Char} (h : ∀ c ∈ cs.head?, c ≠ '-' ∧ c ≠ '+') :
    toInt? cs = (toNat? cs).map Int.ofNat := by
  unfold toInt?
  split
  · simp at h
  · simp at h
  · rfl

theorem toInt?_minus (cs : List Char) :
    toInt? ('-' :: cs) = (toNat? cs).map fun n : Nat => -(n : Int) := by
  rw [toInt?]
  cases toNat? cs <;> rfl

theorem ne_sign_of_isDigit {c : Char} (h : c.isDigit = true) : c ≠ '-' ∧ c ≠ '+' := by
  constructor <;> rintro rfl <;> simp at h

theorem toInt?_toDigits (n : Nat) : toInt? (Nat.toDigits 10 n) = some (n : Int) := by
  rw [toInt?_of_not_sign, toNat?_toDigits]
  · rfl
  · exact fun c hc => ne_sign_of_isDigit (isDigit_of_mem_toDigits (List.mem_of_mem_head? hc))

theorem trimChars_toDigits (n : Nat) : Text.trimChars (Nat.toDigits 10 n) = Nat.toDigits 10 n := by
  have hblank : ∀ c ∈ Nat.toDigits 10 n, Text.isBlank c = false := fun _ hc =>
    Text.isBlank_of_isDigit (isDigit_of_mem_toDigits hc)
  exact Text.trimChars_eq_self (fun c hc => hblank c (List.mem_of_mem_head? hc))
    fun c hc => hblank c (List.mem_of_mem_getLast? hc)

theorem exists_digitChar {c : Char} (h : c.isDigit = true) :
    ∃ d < 10, c = Nat.digitChar d ∧ c.toNat - '0'.toNat = d := by
  have hc := Char.isDigit_iff_toNat.mp h
  have hzero : '0'.toNat = 48 := rfl
  have hnine : '9'.toNat = 57 := rfl
  refine ⟨c.toNat - '0'.toNat, by omega, Char.toNat_inj.mp ?_, rfl⟩
  rw [Nat.toNat_digitChar_of_lt_ten (by omega)]
  omega

theorem toNat?_eq_some_iff {cs : List Char} {n : Nat} :
    toNat? cs = some n ↔ (cs ≠ [] ∧ ∀ c ∈ cs, c.isDigit = true) ∧ Nat.ofDigitChars 10 cs 0 = n := by
  simp [toNat?]

theorem digits_of_toNat? {cs : List Char} {n : Nat} (h : toNat? cs = some n) : Digits cs n := by
  obtain ⟨⟨hne, hall⟩, rfl⟩ := toNat?_eq_some_iff.mp h
  clear h
  induction cs using List.reverseRecOn with
  | nil => exact absurd rfl hne
  | append_singleton cs c ih =>
    obtain ⟨d, hd, rfl, hval⟩ := exists_digitChar (hall c (by simp))
    rw [Nat.ofDigitChars_append, Nat.ofDigitChars_cons, hval, Nat.ofDigitChars_nil]
    cases cs with
    | nil => simpa using Digits.single hd
    | cons e es =>
      have hes := ih (List.cons_ne_nil e es) fun c hc => hall c (List.mem_append_left _ hc)
      exact .concat hes hd

theorem toNat?_of_digits {cs : List Char} {n : Nat} (h : Digits cs n) : toNat? cs = some n := by
  have hdigit : ∀ d < 10, (Nat.digitChar d).isDigit = true ∧
      (Nat.digitChar d).toNat - '0'.toNat = d := by decide
  induction h with
  | single hd =>
    obtain ⟨hc, hval⟩ := hdigit _ hd
    simp [toNat?_eq_some_iff, Nat.ofDigitChars_cons, hc, -Char.reduceToNat, hval]
  | concat h hd ih =>
    obtain ⟨⟨hne, hall⟩, hn⟩ := toNat?_eq_some_iff.mp ih
    refine toNat?_eq_some_iff.mpr ⟨⟨by simp, fun c hc => ?_⟩, ?_⟩
    · rcases List.mem_append.mp hc with hc | hc
      · exact hall c hc
      · exact List.mem_singleton.mp hc ▸ (hdigit _ hd).1
    · rw [Nat.ofDigitChars_append, hn, Nat.ofDigitChars_cons, (hdigit _ hd).2,
        Nat.ofDigitChars_nil]

theorem toInt?_eq_some_iff {cs : List Char} {n : Int} : toInt? cs = some n ↔ Denotes cs n := by
  constructor
  · intro h
    unfold toInt? at h
    split at h
    · change toInt? ('-' :: _) = some n at h
      rw [toInt?_minus] at h
      obtain ⟨m, hm, rfl⟩ := Option.map_eq_some_iff.mp h
      exact .minus (digits_of_toNat? hm)
    · obtain ⟨m, hm, rfl⟩ := Option.map_eq_some_iff.mp h
      exact .plus (digits_of_toNat? hm)
    · change (toNat? cs).map Int.ofNat = some n at h
      obtain ⟨m, hm, rfl⟩ := Option.map_eq_some_iff.mp h
      exact .plain (digits_of_toNat? hm)
  · intro h
    cases h with
    | plain h =>
      have hn := toNat?_of_digits h
      have hall := (toNat?_eq_some_iff.mp hn).1.2
      rw [toInt?_of_not_sign fun c hc => ne_sign_of_isDigit (hall c (List.mem_of_mem_head? hc)), hn]
      rfl
    | plus h | minus h => simp [toInt?, toNat?_of_digits h]

theorem toList_ofInt (n : Int) :
    (ofInt n).toList = (if n < 0 then ['-'] else []) ++ Nat.toDigits 10 n.natAbs := by
  cases n with
  | ofNat n => simp [ofInt]
  | negSucc n => simp [ofInt]

theorem toInt?_ofInt (n : Int) : toInt? (ofInt n).toList = some n := by
  rw [toList_ofInt]
  split
  · rw [List.singleton_append, toInt?_minus, toNat?_toDigits, Option.map_some]
    exact congrArg some (by omega)
  · rw [List.nil_append, toInt?_toDigits]
    exact congrArg some (by omega)

theorem trimChars_ofInt (n : Int) : Text.trimChars (ofInt n).toList = (ofInt n).toList := by
  have hblank : ∀ c ∈ (ofInt n).toList, Text.isBlank c = false := by
    intro c hc
    rw [toList_ofInt] at hc
    rcases List.mem_append.mp hc with hc | hc
    · have hminus : Text.isBlank '-' = false := by decide
      split at hc
      · exact List.mem_singleton.mp hc ▸ hminus
      · exact absurd hc List.not_mem_nil
    · exact Text.isBlank_of_isDigit (isDigit_of_mem_toDigits hc)
  exact Text.trimChars_eq_self (fun c hc => hblank c (List.mem_of_mem_head? hc))
    fun c hc => hblank c (List.mem_of_mem_getLast? hc)

section Padded

variable {width n : Nat}

theorem toList_padded (width n : Nat) : (padded width n).toList =
    List.replicate (width - (Nat.toDigits 10 n).length) '0' ++ Nat.toDigits 10 n :=
  String.toList_ofList

theorem isDigit_of_mem_padded {c : Char} (h : c ∈ (padded width n).toList) : c.isDigit = true := by
  rw [toList_padded] at h
  rcases List.mem_append.mp h with h | h
  · exact List.eq_of_mem_replicate h ▸ rfl
  · exact isDigit_of_mem_toDigits h

theorem padded_ne_nil (width n : Nat) : (padded width n).toList ≠ [] := by
  rw [toList_padded]
  exact List.append_ne_nil_of_right_ne_nil _ Nat.toDigits_ne_nil

theorem length_padded (h : n < 10 ^ width) (hw : 0 < width) :
    (padded width n).toList.length = width := by
  have hle := (Nat.length_toDigits_le_iff (by decide) hw).mpr h
  rw [toList_padded, List.length_append, List.length_replicate]
  omega

theorem ofDigitChars_padded (width n : Nat) :
    Nat.ofDigitChars 10 (padded width n).toList 0 = n := by
  have hzeros (k : Nat) : Nat.ofDigitChars 10 (List.replicate k '0') 0 = 0 := by
    induction k with
    | zero => rfl
    | succ k ih => rwa [List.replicate_succ, Nat.ofDigitChars_cons]
  rw [toList_padded, Nat.ofDigitChars_append, hzeros, Nat.ofDigitChars_ten_toDigits]

end Padded

end Decimal

end SqlMapper
