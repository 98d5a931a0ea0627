import SqlMapper.Text.Blank
import SqlMapper.Text.Word

/-! Whole words in a text. A character that belongs to no word, a blank among them, ends every word
before it. -/

namespace SqlMapper.Text

theorem startsWord_iff (name cs : List Char) :
    startsWord name cs = true ↔
      ∃ word after, cs = word ++ after ∧ word.map Char.toLower = name ∧
        ∀ c ∈ after.head?, isWordChar c = false := by
  simp only [startsWord, List.splitAt_eq, Bool.and_eq_true, beq_iff_eq]
  constructor
  · rintro ⟨hw, ha⟩
    refine ⟨cs.take name.length, cs.drop name.length, (List.take_append_drop _ _).symm, hw, ?_⟩
    cases hd : cs.drop name.length with
    | nil => simp
    | cons c rest => simpa [hd] using ha
  · rintro ⟨word, after, rfl, rfl, ha⟩
    simp only [List.length_map, List.take_left', List.drop_left']
    refine ⟨trivial, ?_⟩
    cases after with
    | nil => rfl
    | cons c rest => simp [ha c rfl]

theorem startsWord_append_break {name : List Char} {c : Char} (hname : c.toLower ∉ name)
    (hc : isWordChar c = false) (a b : List Char) :
    startsWord name (a ++ c :: b) = startsWord name a := by
  rw [Bool.eq_iff_iff, startsWord_iff, startsWord_iff]
  constructor
  · rintro ⟨word, after, he, hw, ha⟩
    have hword : c ∉ word := fun h => hname (hw ▸ List.mem_map_of_mem h)
    rcases List.append_eq_append_iff.mp he with ⟨more, rfl, hafter⟩ | ⟨more, rfl, rfl⟩
    · cases more with
      | nil => exact ⟨a, [], (List.append_nil a).symm, by simpa using hw, by simp⟩
      | cons d more =>
        obtain ⟨rfl, -⟩ := List.cons.inj hafter
        exact absurd (by simp) hword
    · refine ⟨word, more, rfl, hw, fun d hd => ha d ?_⟩
      rw [List.head?_append, Option.mem_def.mp hd]
      rfl
  · rintro ⟨word, after, rfl, hw, ha⟩
    refine ⟨word, after ++ c :: b, List.append_assoc .., hw, fun d hd => ?_⟩
    cases after with
    | nil =>
      obtain rfl : c = d := by simpa using hd
      exact hc
    | cons e after => exact ha d (by simpa using hd)

/-- The code points of the blanks. -/
def blankCodes : List Nat :=
  [0x9, 0xa, 0xb, 0xc, 0xd, 0x20, 0x85, 0xa0, 0x1680, 0x2000, 0x2001, 0x2002, 0x2003, 0x2004,
    0x2005, 0x2006, 0x2007, 0x2008, 0x2009, 0x200a, 0x2028, 0x2029, 0x202f, 0x205f, 0x3000]

theorem toNat_of_isBlank {c : Char} (h : isBlank c = true) : c.toNat ∈ blankCodes := by
  simp only [isBlank, Bool.or_eq_true, Bool.and_eq_true, decide_eq_true_eq, beq_iff_eq] at h
  rcases h with (((((((((h | rfl) | rfl) | rfl) | rfl) | h) | rfl) | rfl) | rfl) | rfl) | rfl
  any_goals decide
  · have hlow : 0x9 ≤ c.toNat := h.1
    have hhigh : c.toNat ≤ 0xd := h.2
    simp only [blankCodes, List.mem_cons]
    omega
  · have hlow : 0x2000 ≤ c.toNat := h.1
    have hhigh : c.toNat ≤ 0x200a := h.2
    simp only [blankCodes, List.mem_cons]
    omega

theorem isWordChar_of_isBlank {c : Char} (h : isBlank c = true) : isWordChar c = false := by
  have hall : ∀ n ∈ blankCodes, isWordChar (Char.ofNat n) = false := by decide +kernel
  rw [← Char.ofNat_toNat c]
  exact hall _ (toNat_of_isBlank h)

end SqlMapper.Text
