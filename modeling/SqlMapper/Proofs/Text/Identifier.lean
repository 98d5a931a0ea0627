import Mathlib.Computability.Language
import Mathlib.Data.Char
import SqlMapper.Text.Ascii

/-! Bare identifiers as a language. -/

namespace SqlMapper.Text

open scoped Computability

def letters : Set Char := Set.Icc 'A' 'Z' ∪ Set.Icc 'a' 'z'

def digits : Set Char := Set.Icc '0' '9'

/-- The texts of one character. -/
def oneOf (cs : Set Char) : Language Char := {text | ∃ c ∈ cs, text = [c]}

/-- The texts of the form `[A-Za-z_][A-Za-z0-9_]*`. -/
def identifiers : Language Char :=
  oneOf (letters ∪ {'_'}) * (oneOf (letters ∪ digits ∪ {'_'}))∗

theorem isUpper_iff (c : Char) : c.isUpper = true ↔ c ∈ Set.Icc 'A' 'Z' :=
  decide_eq_true_iff

theorem isLower_iff (c : Char) : c.isLower = true ↔ c ∈ Set.Icc 'a' 'z' := by
  have hlower : c.isLower = (decide ('a'.val ≤ c.val) && decide (c.val ≤ 'z'.val)) := rfl
  rw [hlower, Bool.and_eq_true, decide_eq_true_iff, decide_eq_true_iff]
  rfl

theorem isAlpha_iff (c : Char) : c.isAlpha = true ↔ c ∈ letters := by
  have halpha : c.isAlpha = (c.isUpper || c.isLower) := rfl
  rw [halpha, Bool.or_eq_true, isUpper_iff, isLower_iff]
  rfl

theorem isDigit_iff (c : Char) : c.isDigit = true ↔ c ∈ digits := by
  simp [Char.isDigit, digits, Set.mem_Icc, Char.le_def]

theorem isInitial_iff (c : Char) : (c.isAlpha || c == '_') = true ↔ c ∈ letters ∪ {'_'} := by
  rw [Bool.or_eq_true, isAlpha_iff, beq_iff_eq]
  rfl

theorem isAlphanum_iff (c : Char) : c.isAlphanum = true ↔ c ∈ letters ∪ digits := by
  rw [Char.isAlphanum, Bool.or_eq_true, isAlpha_iff, isDigit_iff]
  rfl

theorem isLater_iff (c : Char) :
    (c.isAlphanum || c == '_') = true ↔ c ∈ letters ∪ digits ∪ {'_'} := by
  rw [Bool.or_eq_true, isAlphanum_iff, beq_iff_eq]
  rfl

theorem mem_kstar_oneOf {cs : Set Char} {text : List Char} :
    text ∈ (oneOf cs)∗ ↔ ∀ c ∈ text, c ∈ cs := by
  rw [Language.mem_kstar]
  constructor
  · rintro ⟨words, rfl, hwords⟩ c hc
    obtain ⟨word, hword, hc⟩ := List.mem_flatten.mp hc
    obtain ⟨d, hd, rfl⟩ := hwords word hword
    rwa [List.mem_singleton.mp hc]
  · intro h
    refine ⟨text.map fun c => [c], (List.flatMap_singleton' text).symm, fun word hword => ?_⟩
    obtain ⟨c, hc, rfl⟩ := List.mem_map.mp hword
    exact ⟨c, h c hc, rfl⟩

section Headed

variable {first later : Set Char}

theorem nil_not_mem_headed : [] ∉ oneOf first * (oneOf later)∗ := by
  intro h
  obtain ⟨_, ⟨c, -, rfl⟩, rest, -, he⟩ := Language.mem_mul.mp h
  cases he

theorem cons_mem_headed {c : Char} {cs : List Char} :
    c :: cs ∈ oneOf first * (oneOf later)∗ ↔ c ∈ first ∧ ∀ d ∈ cs, d ∈ later := by
  rw [← mem_kstar_oneOf]
  constructor
  · intro h
    obtain ⟨_, ⟨b, hb, rfl⟩, rest, hrest, he⟩ := Language.mem_mul.mp h
    obtain ⟨rfl, rfl⟩ := List.cons.inj he
    exact ⟨hb, hrest⟩
  · rintro ⟨hc, hcs⟩
    exact Language.mem_mul.mpr ⟨[c], ⟨c, hc, rfl⟩, cs, hcs, rfl⟩

end Headed

theorem isIdentifier_iff (cs : List Char) : isIdentifier cs = true ↔ cs ∈ identifiers := by
  cases cs with
  | nil => exact iff_of_false nofun nil_not_mem_headed
  | cons c cs =>
    rw [isIdentifier, Bool.and_eq_true, isInitial_iff, List.all_eq_true, identifiers,
      cons_mem_headed]
    exact and_congr_right' (forall₂_congr fun d _ => isLater_iff d)

theorem mem_of_mem_identifiers {cs : List Char} (h : cs ∈ identifiers) {c : Char} (hc : c ∈ cs) :
    c ∈ letters ∪ digits ∪ {'_'} :=
  (isLater_iff c).mp (alphanum_of_mem_identifier ((isIdentifier_iff cs).mpr h) hc)

end SqlMapper.Text
