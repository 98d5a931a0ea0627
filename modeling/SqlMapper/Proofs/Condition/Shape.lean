import SqlMapper.Proofs.Condition.Reader
import SqlMapper.Proofs.Text.QuestionMark

/-! What becomes of a condition by its operator and the shape of its value. It is left out, refused
or rendered, and a rendered one has a question mark for each of the values that it binds. -/

namespace SqlMapper

open Text (Reads Unmarked)

/-- The values that one value stands for in a condition. -/
def SqlValue.parts : SqlValue → List SqlValue
  | .list items => items
  | .between left right => [left, right]
  | v => [v]

theorem SqlValue.shape (v : SqlValue) :
    (∃ items, v = .list items) ∨ (∃ left right, v = .between left right) ∨ v.isScalar = true := by
  cases v with
  | list items => exact .inl ⟨items, rfl⟩
  | between left right => exact .inr (.inl ⟨left, right, rfl⟩)
  | _ => exact .inr (.inr rfl)

namespace Keyword

/-- Whether nothing is asked for: the value is blank, or it is a list without items or a range with
a blank bound for an operator that looks at these. -/
def Omits (k : Keyword) : SqlValue → Prop
  | .list items => k.isList = true ∧ items = []
  | .between left right => k.isRange = true ∧ (left.isBlank = true ∨ right.isBlank = true)
  | v => v.isBlank = true

/-- Whether the value has the shape that the operator is for. A single value does as a list of one,
but not as a range. -/
def Fits (k : Keyword) : SqlValue → Prop
  | .list items => k.isList = true ∧ ∀ x ∈ items, x.isScalar = true
  | .between left right => k.isRange = true ∧ left.isScalar = true ∧ right.isScalar = true
  | _ => k.isRange = false

theorem isRange_of_isList {k : Keyword} (h : k.isList = true) : k.isRange = false := by
  revert h
  cases k <;> decide

section Scalar

variable {k : Keyword} {v : SqlValue}

theorem omits_of_isScalar (hv : v.isScalar = true) : k.Omits v ↔ v.isBlank = true := by
  cases v with
  | list | between => simp [SqlValue.isScalar] at hv
  | _ => rfl

theorem fits_of_isScalar (hv : v.isScalar = true) : k.Fits v ↔ k.isRange = false := by
  cases v with
  | list | between => simp [SqlValue.isScalar] at hv
  | _ => rfl

theorem parts_of_isScalar (hv : v.isScalar = true) : v.parts = [v] := by
  cases v with
  | list | between => simp [SqlValue.isScalar] at hv
  | _ => rfl

theorem listItems_of_isScalar (hv : v.isScalar = true) : Fragment.listItems v = some [v] := by
  cases v with
  | list | between => simp [SqlValue.isScalar] at hv
  | _ => rfl

end Scalar

theorem bound?_eq_some_iff {k : Keyword} {v : SqlValue} {values : List SqlValue} :
    k.bound? v = some values ↔ ¬k.Omits v ∧ k.Fits v ∧ v.parts = values := by
  rcases v.shape with ⟨items, rfl⟩ | ⟨left, right, rfl⟩ | hv
  · have hb : (SqlValue.list items).isBlank = false := rfl
    have hs : (SqlValue.list items).isScalar = false := rfl
    by_cases hl : k.isList = true
    · have hitems : k.bound? (.list items) =
          (some items).filter fun items => !items.isEmpty && items.all SqlValue.isScalar := by
        simp [bound?, hb, hl, Fragment.listItems]
      rw [hitems, Option.filter_some]
      by_cases hne : items = [] <;> simp [Omits, Fits, SqlValue.parts, hl, hne]
    · by_cases hr : k.isRange = true <;> simp [bound?, hb, hs, hl, hr, Fits]
  · have hb : (SqlValue.between left right).isBlank = false := rfl
    have hs : (SqlValue.between left right).isScalar = false := rfl
    by_cases hl : k.isList = true
    · simp [bound?, hb, Fragment.listItems, hl, Fits, isRange_of_isList hl]
    · by_cases hr : k.isRange = true
      · simp [bound?, hb, Between.isComplete, hl, hr, Omits, Fits, SqlValue.parts, and_assoc]
      · simp [bound?, hb, hs, hl, hr, Fits]
  · rw [omits_of_isScalar hv, fits_of_isScalar hv, parts_of_isScalar hv]
    by_cases hb : v.isBlank = true
    · simp [bound?, hb]
    by_cases hl : k.isList = true
    · simp [bound?, hb, hl, listItems_of_isScalar hv, isRange_of_isList hl, Option.filter_some, hv]
    · by_cases hr : k.isRange = true
      · have hnone : k.bound? v = none := by
          cases v with
          | list | between => simp [SqlValue.isScalar] at hv
          | _ => simp [bound?, hl, hr]
        simp [hnone, hr]
      · simp [bound?, hb, hl, hr, hv]

theorem isScalar_of_fits {k : Keyword} {v : SqlValue} (h : k.Fits v) :
    ∀ x ∈ v.parts, x.isScalar = true := by
  rcases v.shape with ⟨items, rfl⟩ | ⟨left, right, rfl⟩ | hv
  · exact h.2
  · simpa [SqlValue.parts] using h.2
  · simpa [parts_of_isScalar hv] using hv

end Keyword

theorem reads_placeholders {separator : String} (hs : Unmarked separator)
    (values : List SqlValue) :
    Reads (placeholders separator values.length) values
      ((separator.toList.map .inl).intercalate (values.map fun v => [.inr v])) := by
  have hmarks : Reads (separator.intercalate (values.map fun _ => "?"))
      (values.flatMap fun v => [v])
      ((separator.toList.map .inl).intercalate (values.map fun v => [.inr v])) :=
    Reads.intercalate (Reads.of_unmarked hs) fun v _ => Reads.mark v
  rw [placeholders, ← List.map_const']
  rwa [← List.map_eq_flatMap, List.map_id'] at hmarks

theorem Keyword.count_operator {k : Keyword} {n : Nat} (h : k.Takes n) :
    (k.operator n).toList.count '?' = n := by
  by_cases hl : k.isList = true
  · have hword : Unmarked (if k = .notIn then " not in (" else " in (") := by split <;> decide
    have hcomma : Unmarked "," := by decide
    have hclose : Unmarked ")" := by decide
    have hmarks := (reads_placeholders hcomma (List.replicate n .null)).count_eq
    rw [List.length_replicate] at hmarks
    rw [operator, if_pos hl, String.toList_append, String.toList_append, List.count_append,
      List.count_append, hmarks, List.count_eq_zero.mpr hword, List.count_eq_zero.mpr hclose]
    omega
  · by_cases hr : k.isRange = true
    · obtain rfl : n = 2 := by simpa [Takes, hl, hr] using h
      revert hl hr
      cases k <;> decide
    · obtain rfl : n = 1 := by simpa [Takes, hl, hr] using h
      revert hl hr
      cases k <;> decide

namespace Fragment

/-- A condition on a column that binds all parts of a value. -/
structure Conveys (f : Fragment) (column : String) (v : SqlValue) (link : Link) : Prop where
  link_eq : f.link = link
  begins : (column ++ " ").toList <+: f.body.toList
  values_eq : f.values = v.parts
  scalar : ∀ x ∈ f.values, x.isScalar = true
  marks : f.body.toList.count '?' = column.toList.count '?' + f.values.length

theorem render_eq_ok_none_iff {column : String} {k : Keyword} {v : SqlValue} {link : Link} :
    render column k v link = .ok none ↔ k.Omits v := by
  rcases v.shape with ⟨items, rfl⟩ | ⟨left, right, rfl⟩ | hv
  · have hb : (SqlValue.list items).isBlank = false := rfl
    have hs : (SqlValue.list items).isScalar = false := rfl
    by_cases hl : k.isList = true
    · cases items with
      | nil => simp [render, hb, hl, renderList, listItems, Keyword.Omits]
      | cons x xs =>
        cases hn : (x :: xs).find? fun v => !v.isScalar <;>
          simp [render, hb, hl, renderList, listItems, Keyword.Omits, hn]
    · by_cases hr : k.isRange = true <;>
        simp [render, hb, hl, hr, renderRange, renderScalar, hs, Keyword.Omits]
  · have hb : (SqlValue.between left right).isBlank = false := rfl
    have hs : (SqlValue.between left right).isScalar = false := rfl
    by_cases hl : k.isList = true
    · simp [render, hb, hl, renderList, listItems, Keyword.Omits, Keyword.isRange_of_isList hl]
    · by_cases hr : k.isRange = true
      · by_cases ho : left.isBlank = true ∨ right.isBlank = true
        · simp [render, hb, hl, hr, renderRange, Keyword.Omits, ho]
        · cases ht : !left.isScalar || !right.isScalar <;>
            simp [render, hb, hl, hr, renderRange, Keyword.Omits, ho, ht]
      · simp [render, hb, hl, hr, renderScalar, hs, Keyword.Omits]
  · rw [Keyword.omits_of_isScalar hv]
    by_cases hb : v.isBlank = true
    · simp [render, hb]
    by_cases hl : k.isList = true
    · simp [render, hb, hl, renderList, Keyword.listItems_of_isScalar hv, hv]
    · by_cases hr : k.isRange = true
      · have hrange : renderRange column k v link =
            .error (malformed column k (.notRange v.typeName)) := by
          cases v with
          | list | between => simp [SqlValue.isScalar] at hv
          | _ => rfl
        simp [render, hb, hl, hr, hrange]
      · simp [render, hb, hl, hr, renderScalar, hv]

theorem render_eq_ok_some_iff {column : String} {k : Keyword} {v : SqlValue} {link : Link}
    {f : Fragment} :
    render column k v link = .ok (some f) ↔
      (¬k.Omits v ∧ k.Fits v) ∧ f = ⟨link, column ++ k.operator v.parts.length, v.parts⟩ := by
  have hr : render column k v link = .ok (some f) ↔ rendered? column k v link = some f :=
    ⟨fun h => by rw [rendered?, h], render_eq_ok_of_rendered?⟩
  rw [hr, rendered?_eq, Option.map_eq_some_iff]
  constructor
  · rintro ⟨values, hv, rfl⟩
    obtain ⟨ho, hf, rfl⟩ := Keyword.bound?_eq_some_iff.mp hv
    exact ⟨⟨ho, hf⟩, rfl⟩
  · rintro ⟨⟨ho, hf⟩, rfl⟩
    exact ⟨v.parts, Keyword.bound?_eq_some_iff.mpr ⟨ho, hf, rfl⟩, rfl⟩

theorem conveys_of_render {column : String} {k : Keyword} {v : SqlValue} {link : Link}
    {f : Fragment} (h : render column k v link = .ok (some f)) : f.Conveys column v link := by
  have hrenders := renders_of_render h
  obtain ⟨⟨ho, hf⟩, rfl⟩ := render_eq_ok_some_iff.mp h
  obtain ⟨rest, hop⟩ := List.head?_eq_some_iff.mp (k.head?_operator v.parts.length)
  refine ⟨rfl, ⟨rest, ?_⟩, rfl, Keyword.isScalar_of_fits hf, ?_⟩
  · rw [String.toList_append, String.toList_append, hop, List.append_assoc]
    rfl
  · rw [String.toList_append, List.count_append, Keyword.count_operator hrenders.takes]

/-- Every condition is left out, refused or rendered by its operator and its value alone. A rendered
one begins with its column and binds the parts of its value, each of which is a single value and has
its own question mark. -/
theorem render_outcomes (column : String) (k : Keyword) (v : SqlValue) (link : Link) :
    (render column k v link = .ok none ↔ k.Omits v) ∧
    ((∃ reason, render column k v link = .error (malformed column k reason)) ↔
      ¬k.Omits v ∧ ¬k.Fits v) ∧
    ((∃ f, render column k v link = .ok (some f) ∧ f.Conveys column v link) ↔
      ¬k.Omits v ∧ k.Fits v) := by
  have hsome : (∃ f, render column k v link = .ok (some f)) ↔ ¬k.Omits v ∧ k.Fits v := by
    simp [render_eq_ok_some_iff]
  have hconveys : (∃ f, render column k v link = .ok (some f) ∧ f.Conveys column v link) ↔
      ∃ f, render column k v link = .ok (some f) :=
    exists_congr fun f => and_iff_left_of_imp conveys_of_render
  refine ⟨render_eq_ok_none_iff, ?_, hconveys.trans hsome⟩
  constructor
  · rintro ⟨reason, h⟩
    have hnot : ¬k.Omits v := fun ho => by cases h.symm.trans (render_eq_ok_none_iff.mpr ho)
    refine ⟨hnot, fun hf => ?_⟩
    obtain ⟨f, hok⟩ := hsome.mpr ⟨hnot, hf⟩
    cases h.symm.trans hok
  · rintro ⟨ho, hf⟩
    cases hr : render column k v link with
    | error e =>
      obtain ⟨reason, rfl⟩ := complains_render column k v link e hr
      exact ⟨reason, rfl⟩
    | ok f =>
      cases f with
      | none => exact absurd (render_eq_ok_none_iff.mp hr) ho
      | some f => exact absurd (render_eq_ok_some_iff.mp hr).1.2 hf

end Fragment

end SqlMapper
