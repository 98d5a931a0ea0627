/-! Letters compared without regard to case, within ASCII only. -/

namespace SqlMapper.Text

/-- Whether two texts agree once `A` to `Z` are read as `a` to `z`. -/
def eqIgnoreAsciiCase (s t : String) : Bool :=
  s.toList.map Char.toLower == t.toList.map Char.toLower

/-- An identifier of the plain form `[A-Za-z_][A-Za-z0-9_]*`. -/
def isIdentifier : List Char → Bool
  | [] => false
  | c :: cs => (c.isAlpha || c == '_') && cs.all (fun d => d.isAlphanum || d == '_')

theorem alphanum_of_mem_identifier {cs : List Char} (h : isIdentifier cs = true) {c : Char}
    (hc : c ∈ cs) : (c.isAlphanum || c == '_') = true := by
  cases cs with
  | nil => simp at hc
  | cons d ds =>
    rw [isIdentifier, Bool.and_eq_true, List.all_eq_true] at h
    rcases List.mem_cons.mp hc with rfl | hc
    · have hd := h.1
      rw [Bool.or_eq_true] at hd ⊢
      exact hd.imp_left fun ha => by simp [Char.isAlphanum, ha]
    · exact h.2 c hc

end SqlMapper.Text
