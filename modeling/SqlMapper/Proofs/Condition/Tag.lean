import SqlMapper.Proofs.Condition.Reader

/-! The tags of conditions. What is in front of the first comma names the operator, and what is
behind it a column, unless it is blank. -/

namespace SqlMapper

namespace Text

/-- The text, unless it is empty. -/
def present? (s : String) : Option String := if s = "" then none else some s

theorem filter_isEmpty_eq_bind (s? : Option String) :
    (s?.filter fun s => !s.isEmpty) = s?.bind present? := by
  cases s? with
  | none => rfl
  | some s => by_cases hs : s = "" <;> simp [present?, hs]

theorem present?_getD (s? : Option String) : present? (s?.getD "") = s?.bind present? := by
  cases s? <;> rfl

def beforeComma (s : String) : String := String.ofList (s.toList.takeWhile (· != ','))

/-- What stands behind the first comma, unless it is blank. -/
def afterComma? (s : String) : Option String :=
  present? (trim (String.ofList (s.toList.dropWhile (· != ',')).tail))

theorem afterComma?_getD (s? : Option String) :
    afterComma? (s?.getD "") = s?.bind afterComma? := by
  cases s? with
  | none => decide
  | some s => rw [Option.getD_some, Option.bind_some]

end Text

namespace Keyword

/-- The name of the operator, blanks around it and the case of ASCII letters aside. -/
def IsNamed (k : Keyword) (name : String) : Prop :=
  Text.eqIgnoreAsciiCase k.tag (Text.trim name) = true

instance (k : Keyword) (name : String) : Decidable (k.IsNamed name) :=
  inferInstanceAs (Decidable (_ = true))

theorem eq_of_isNamed {j k : Keyword} {name : String} (hj : j.IsNamed name) (hk : k.IsNamed name) :
    j = k := by
  have htags : Text.eqIgnoreAsciiCase j.tag k.tag = true :=
    beq_iff_eq.mpr ((eq_of_beq hj).trans (eq_of_beq hk).symm)
  clear hj hk
  revert htags
  cases j <;> cases k <;> decide

theorem parse_of_isNamed {k : Keyword} {name : String} (h : k.IsNamed name) : parse name = k := by
  rw [parse, ofName?]
  cases hfind : all.find? fun j => Text.eqIgnoreAsciiCase j.tag (Text.trim name) with
  | none => exact absurd h (List.find?_eq_none.mp hfind k (mem_all k))
  | some j =>
    have hj := List.find?_some hfind
    rw [Option.getD_some, eq_of_isNamed hj h]

theorem parse_of_not_isNamed {name : String} (h : ∀ k : Keyword, ¬k.IsNamed name) :
    parse name = .eq := by
  rw [parse, ofName?, List.find?_eq_none.mpr fun k _ => h k, Option.getD_none]

theorem parseTag_eq (tag : String) :
    parseTag tag = (parse (Text.beforeComma tag), Text.afterComma? tag) := by
  obtain ⟨front, back, htag, hfront, hback⟩ :
      ∃ front back, tag.toList = front ++ back ∧
        tag.toList.takeWhile (· != ',') = front ∧ tag.toList.dropWhile (· != ',') = back :=
    ⟨_, _, List.takeWhile_append_dropWhile.symm, rfl, rfl⟩
  rw [parseTag, splitTag, Text.beforeComma, Text.afterComma?, hfront, hback, htag, List.drop_left]
  cases back with
  | nil =>
    rw [List.append_nil] at htag
    rw [← htag, String.ofList_toList]
    rfl
  | cons comma rest =>
    simp only [Option.map_some, List.tail_cons, Text.filter_isEmpty_eq_bind, Option.bind_some]

end Keyword

end SqlMapper
