import Mathlib
import SqlMapper.Proofs.Text.Identifier
import SqlMapper.Text.Case

/-! The underscore form of names. It has no upper case left, so that it is its own underscore form,
and every mark in it stands for the capital behind it as long as the name has no marks of its own. -/

namespace SqlMapper.Text

open scoped Computability

def wordChars : Set Char := letters ∪ digits ∪ {'_'}

/-- The texts of the form `[A-Za-z0-9_]*`. -/
def words : Language Char := (oneOf wordChars)∗

/-- The texts of the form `[A-Z][A-Za-z0-9]*`. -/
def camelNames : Language Char := oneOf (Set.Icc 'A' 'Z') * (oneOf (letters ∪ digits))∗

theorem cons_mem_camelNames_iff {c : Char} {cs : List Char} :
    c :: cs ∈ camelNames ↔ c.isUpper = true ∧ cs.all Char.isAlphanum = true := by
  rw [camelNames, cons_mem_headed, isUpper_iff, List.all_eq_true]
  exact and_congr_right' (forall₂_congr fun d _ => (isAlphanum_iff d).symm)

instance : (cs : List Char) → Decidable (cs ∈ camelNames)
  | [] => .isFalse nil_not_mem_headed
  | _ :: _ => decidable_of_iff _ cons_mem_camelNames_iff.symm

theorem words_of_camelNames {cs : List Char} (h : cs ∈ camelNames) : cs ∈ words := by
  cases cs with
  | nil => exact absurd h nil_not_mem_headed
  | cons c cs =>
    obtain ⟨hc, hcs⟩ := cons_mem_headed.mp h
    refine mem_kstar_oneOf.mpr fun d hd => .inl ?_
    rcases List.mem_cons.mp hd with rfl | hd
    · exact .inl (.inl hc)
    · exact hcs d hd

theorem toNat_of_mem_wordChars {c : Char} (h : c ∈ wordChars) : c.toNat < 0x80 := by
  have hle : c ≤ 'z' := by
    rcases h with ((h | h) | h) | rfl
    · exact h.2.trans (by decide)
    · exact h.2
    · exact h.2.trans (by decide)
    · decide
  have hnat : c.toNat ≤ 'z'.toNat := hle
  exact hnat.trans_lt (by decide)

section Word

variable {c : Char} (h : c ∈ wordChars)

include h

theorem isUppercase_of_word : isUppercase c = c.isUpper :=
  if_pos (toNat_of_mem_wordChars h)

theorem lowerChar_of_word : lowerChar c = [c.toLower] :=
  if_pos (toNat_of_mem_wordChars h)

theorem underscoreChar_of_word :
    underscoreChar c = if c.isUpper then ['_', c.toLower] else [c] := by
  rw [underscoreChar, isUppercase_of_word h, lowerChar_of_word h]

theorem underscoreChars_cons_of_word (cs : List Char) :
    underscoreChars (c :: cs) = c.toLower :: cs.flatMap underscoreChar := by
  rw [underscoreChars, isUppercase_of_word h, lowerChar_of_word h]
  by_cases hu : c.isUpper = true
  · rw [if_pos hu, List.singleton_append]
  · rw [if_neg hu, List.singleton_append, Char.toLower_eq_of_not_isUpper hu]

theorem toLower_mem_wordChars : c.toLower ∈ wordChars := by
  rw [wordChars, ← isLater_iff] at h ⊢
  by_cases hu : c.isUpper = true
  · have ha : c.isAlpha = true := by simp [Char.isAlpha, hu]
    simp [Char.isAlphanum, ha]
  · rwa [Char.toLower_eq_of_not_isUpper hu]

theorem lower_of_mem_underscoreChar {d : Char} (hd : d ∈ underscoreChar c) :
    d ∈ wordChars ∧ d.isUpper = false := by
  rw [underscoreChar_of_word h] at hd
  split at hd
  · rcases List.mem_cons.mp hd with rfl | hd
    · exact ⟨.inr rfl, rfl⟩
    · rw [List.mem_singleton.mp hd]
      exact ⟨toLower_mem_wordChars h, Char.isUpper_toLower_eq_false c⟩
  · rename_i hu
    rw [List.mem_singleton.mp hd]
    exact ⟨h, by simpa using hu⟩

end Word

theorem lower_of_mem_underscoreChars {cs : List Char} (h : ∀ c ∈ cs, c ∈ wordChars) {d : Char}
    (hd : d ∈ underscoreChars cs) : d ∈ wordChars ∧ d.isUpper = false := by
  cases cs with
  | nil => cases hd
  | cons c cs =>
    have hc := h c List.mem_cons_self
    rw [underscoreChars_cons_of_word hc] at hd
    rcases List.mem_cons.mp hd with rfl | hd
    · exact ⟨toLower_mem_wordChars hc, Char.isUpper_toLower_eq_false c⟩
    · obtain ⟨b, hb, hd⟩ := List.mem_flatMap.mp hd
      exact lower_of_mem_underscoreChar (h b (List.mem_cons_of_mem _ hb)) hd

theorem isUppercase_of_mem_underscoreChars {cs : List Char} (h : ∀ c ∈ cs, c ∈ wordChars)
    {d : Char} (hd : d ∈ underscoreChars cs) : isUppercase d = false := by
  obtain ⟨hword, hlower⟩ := lower_of_mem_underscoreChars h hd
  rw [isUppercase_of_word hword, hlower]

/-- A name without capitals of any script is its own underscore form. -/
theorem underscoreChars_eq_self {cs : List Char} (h : ∀ c ∈ cs, isUppercase c = false) :
    underscoreChars cs = cs := by
  cases cs with
  | nil => rfl
  | cons c cs =>
    have hlater : cs.flatMap underscoreChar = cs.flatMap fun d => [d] :=
      List.flatMap_congr fun d hd => by
        rw [underscoreChar, h d (List.mem_cons_of_mem _ hd), if_neg Bool.false_ne_true]
    rw [underscoreChars, h c List.mem_cons_self, if_neg Bool.false_ne_true, hlater,
      List.flatMap_singleton', List.singleton_append]

/-- Reads a mark and the letter behind it as the capital. -/
def capitalize : List Char → List Char
  | '_' :: c :: cs => c.toUpper :: capitalize cs
  | c :: cs => c :: capitalize cs
  | [] => []

def camelChars : List Char → List Char
  | [] => []
  | c :: cs => c.toUpper :: capitalize cs

theorem toUpper_toLower_of_isUpper {c : Char} (h : c.isUpper = true) : c.toLower.toUpper = c := by
  rw [Char.toUpper_toLower_eq_toUpper,
    Char.toUpper_eq_of_not_isLower (Char.not_isLower_of_isUpper h)]

theorem capitalize_cons_of_ne {c : Char} (h : c ≠ '_') (cs : List Char) :
    capitalize (c :: cs) = c :: capitalize cs := by
  rw [capitalize]
  exact fun _ _ hc => absurd hc h

theorem ne_mark_of_mem {c : Char} (h : c ∈ letters ∪ digits) : c ≠ '_' := by
  rintro rfl
  exact absurd ((isAlphanum_iff '_').mpr h) (by decide)

theorem capitalize_underscoreChar_append {c : Char} (h : c ∈ letters ∪ digits) (cs : List Char) :
    capitalize (underscoreChar c ++ cs) = c :: capitalize cs := by
  rw [underscoreChar_of_word (.inl h)]
  by_cases hu : c.isUpper = true
  · rw [if_pos hu, List.cons_append, List.singleton_append, capitalize,
      toUpper_toLower_of_isUpper hu]
  · rw [if_neg hu, List.singleton_append, capitalize_cons_of_ne (ne_mark_of_mem h)]

theorem capitalize_flatMap {cs : List Char} (h : ∀ c ∈ cs, c ∈ letters ∪ digits) :
    capitalize (cs.flatMap underscoreChar) = cs := by
  induction cs with
  | nil => rfl
  | cons c cs ih =>
    rw [List.flatMap_cons, capitalize_underscoreChar_append (h c List.mem_cons_self),
      ih fun d hd => h d (List.mem_cons_of_mem _ hd)]

theorem camelChars_underscoreChars {cs : List Char} (h : cs ∈ camelNames) :
    camelChars (underscoreChars cs) = cs := by
  cases cs with
  | nil => exact absurd h nil_not_mem_headed
  | cons c cs =>
    have hword := mem_kstar_oneOf.mp (words_of_camelNames h) c List.mem_cons_self
    obtain ⟨hc, hcs⟩ := cons_mem_headed.mp h
    rw [underscoreChars_cons_of_word hword, camelChars,
      toUpper_toLower_of_isUpper ((isUpper_iff c).mpr hc), capitalize_flatMap hcs]

theorem underscoreChars_injOn : Set.InjOn underscoreChars {cs | cs ∈ camelNames} := by
  have hinv : Set.LeftInvOn camelChars underscoreChars {cs | cs ∈ camelNames} :=
    fun _ => camelChars_underscoreChars
  exact hinv.injOn

theorem exists_rawMarks (cs : List Char) :
    ∃ n, cs = (List.replicate n ['r', '#']).flatten ++ stripRawMark cs ∧
      ¬['r', '#'] <+: stripRawMark cs := by
  fun_induction stripRawMark cs with
  | case1 cs ih =>
    obtain ⟨n, hcs, hnot⟩ := ih
    refine ⟨n + 1, ?_, hnot⟩
    rw [List.replicate_succ, List.flatten_cons, List.append_assoc, ← hcs]
    rfl
  | case2 cs hne =>
    refine ⟨0, rfl, ?_⟩
    rintro ⟨rest, rfl⟩
    exact hne rest rfl

theorem stripRawMark_of_not_prefix {cs : List Char} (h : ¬['r', '#'] <+: cs) :
    stripRawMark cs = cs := by
  unfold stripRawMark
  split
  · exact absurd ⟨_, rfl⟩ h
  · rfl

theorem stripRawMark_of_words {cs : List Char} (h : cs ∈ words) : stripRawMark cs = cs := by
  refine stripRawMark_of_not_prefix ?_
  rintro ⟨rest, rfl⟩
  have hmark := (isLater_iff '#').mpr (mem_kstar_oneOf.mp h '#' (by simp))
  exact absurd hmark (by decide)

theorem isUppercase_of_mem_underscore {name : String} (h : name.toList ∈ words) {c : Char}
    (hc : c ∈ (underscore name).toList) : isUppercase c = false := by
  rw [underscore, String.toList_ofList] at hc
  exact isUppercase_of_mem_underscoreChars (mem_kstar_oneOf.mp h) hc

theorem underscore_underscore {name : String} (h : name.toList ∈ words) :
    underscore (underscore name) = underscore name :=
  calc underscore (underscore name)
    _ = String.ofList (underscoreChars (underscore name).toList) := rfl
    _ = String.ofList (underscore name).toList := by
        rw [underscoreChars_eq_self fun _ => isUppercase_of_mem_underscore h]
    _ = underscore name := String.ofList_toList

theorem underscore_injOn : Set.InjOn underscore {name | name.toList ∈ camelNames} :=
  fun _ hs _ ht h => String.toList_inj.mp (underscoreChars_injOn hs ht (String.ofList_inj.mp h))

theorem exists_underscoreDeclared_eq (name : String) : ∃ n rest,
    name.toList = (List.replicate n "r#".toList).flatten ++ rest.toList ∧
      ¬"r#".toList <+: rest.toList ∧ underscoreDeclared name = underscore rest := by
  obtain ⟨n, hname, hnot⟩ := exists_rawMarks name.toList
  have hrest : (String.ofList (stripRawMark name.toList)).toList = stripRawMark name.toList :=
    String.toList_ofList
  refine ⟨n, String.ofList (stripRawMark name.toList), ?_, ?_, ?_⟩
  · rw [hrest]
    exact hname
  · rw [hrest]
    exact hnot
  · rw [underscoreDeclared, underscore, hrest]

theorem underscoreDeclared_of_words {name : String} (h : name.toList ∈ words) :
    underscoreDeclared name = underscore name := by
  rw [underscoreDeclared, stripRawMark_of_words h, underscore]

end SqlMapper.Text
