import SqlMapper.Proofs.Select.Applied
import SqlMapper.Proofs.Select.Where
import SqlMapper.Proofs.Statement.Assembly
import SqlMapper.Proofs.Text.Trim

/-! The conditions of a descriptor behind the name of its table. They do not depend on what is
selected, and a deletion has all of them that compare a column with a value. -/

namespace SqlMapper

namespace Select

/-- A selection that hides nothing of the text behind it and has no `where` of its own. -/
structure Selects (selection : String) : Prop where
  balanced : Balanced selection
  no_where : ¬OuterWhere selection

theorem selects_all : Selects "*" := by
  constructor <;> decide

theorem selects_count : Selects "count(*)" := by
  constructor <;> decide

/-- A statement up to the name of its table. -/
def head (selection table : String) : String :=
  "SELECT " ++ selection ++ " FROM " ++ String.ofList (Text.trimEnd table.toList)

def seed (table : String) : String :=
  if OuterWhere table then "" else " WHERE 1=1"

theorem selection_split (selection table : String) :
    "SELECT " ++ selection ++ " FROM " ++ table =
      "SELECT" ++ " " ++ selection ++ " " ++ "FROM" ++ " " ++ table := by
  have hselect : "SELECT" ++ " " = "SELECT " := by decide
  have hfrom : " " ++ ("FROM" ++ " ") = " FROM " := by decide
  rw [← hselect, ← hfrom]
  simp only [String.append_assoc]

theorem Selects.outerWhere_iff {selection : String} (h : Selects selection) (table : String) :
    OuterWhere ("SELECT " ++ selection ++ " FROM " ++ table) ↔ OuterWhere table := by
  have hselect : Balanced "SELECT" := by decide
  have hfrom : Balanced "FROM" := by decide
  have hhead := hselect.append_space h.balanced
  have hno : hasOuterWhere selection = false := by
    rw [← Bool.not_eq_true, hasOuterWhere_iff]
    exact h.no_where
  have hwords : hasOuterWhere "SELECT" = false ∧ hasOuterWhere "FROM" = false := by decide
  rw [← hasOuterWhere_iff, ← hasOuterWhere_iff, selection_split,
    (hhead.append_space hfrom).hasOuterWhere_append_space, hhead.hasOuterWhere_append_space,
    hselect.hasOuterWhere_append_space, hno, hwords.1, hwords.2]
  rfl

theorem trim_selection (selection : String) {table : String} (ht : Text.trim table ≠ "") :
    Text.trim ("SELECT " ++ selection ++ " FROM " ++ table) = head selection table := by
  have hhead : ("SELECT " ++ selection ++ " FROM ").toList.head? = some 'S' := by simp
  refine Text.trim_append ?_ ?_ ht
  · intro he
    simp [he] at hhead
  · intro c hc
    obtain rfl : 'S' = c := Option.some.inj (hhead.symm.trans hc)
    decide

theorem Selects.opened_eq {selection table : String} (h : Selects selection)
    (ht : Text.trim table ≠ "") :
    opened ("SELECT " ++ selection ++ " FROM " ++ table) = head selection table ++ seed table := by
  rw [opened, trim_selection selection ht, seed]
  simp only [h.outerWhere_iff]

/-- What stands behind the table of a descriptor, or the first complaint about its values. -/
def tail (t : TableDescriptor) : Except DataError Statement :=
  (filter t.fields).map fun f => ⟨seed t.table ++ f.sql, f.params⟩

theorem Selects.tryBuild_eq {selection : String} {t : TableDescriptor} (h : Selects selection)
    (ht : Text.trim t.table ≠ "") :
    ((ofBase ("SELECT " ++ selection ++ " FROM " ++ t.table)).apply t).tryBuild =
      (tail t).map fun f => ⟨head selection t.table ++ f.sql, f.params⟩ := by
  have hne : Text.trim ("SELECT " ++ selection ++ " FROM " ++ t.table) ≠ "" := by
    simp [trim_selection selection ht, head]
  rw [tryBuild_apply_eq hne, h.opened_eq ht, tail]
  cases filter t.fields with
  | error e => rfl
  | ok f => simp only [map_ok, String.append_assoc]

theorem exists_of_tail_eq_error {t : TableDescriptor} {e : DataError} (h : tail t = .error e) :
    ∃ f ∈ t.fields, ∃ reason, e = Fragment.malformed f.compareColumn f.keyword reason :=
  exists_of_filter_eq_error (eq_error_of_map_eq_error h)

theorem ofDescriptor_eq_tail {t : TableDescriptor} (ht : Text.trim t.table ≠ "") :
    (ofDescriptor t none).tryBuild =
      (tail t).map fun f => ⟨head "*" t.table ++ f.sql, f.params⟩ := by
  have hsplit : "SELECT " ++ "*" ++ " FROM " = "SELECT * FROM " := by decide
  have hbuild := selects_all.tryBuild_eq ht
  rw [hsplit] at hbuild
  exact hbuild

end Select

namespace Dialect

theorem matching_eq (d : Dialect) {selection : String} {t : TableDescriptor}
    (h : Select.Selects selection) (ht : Text.trim t.table ≠ "") :
    d.matching ("SELECT " ++ selection ++ " FROM " ++ t.table) t =
      ((Select.tail t).map fun f => d.finish (Select.head selection t.table ++ f.sql)
        f.params).mapError .data := by
  rw [matching, h.tryBuild_eq ht]
  cases Select.tail t <;> rfl

theorem select_eq_tail (d : Dialect) {t : TableDescriptor} {columns : List String}
    (h : Select.Selects (columnList columns)) (ht : Text.trim t.table ≠ "") :
    d.select t columns =
      ((Select.tail t).map fun f => d.finish (Select.head (columnList columns) t.table ++ f.sql)
        f.params).mapError .data := by
  rw [select_eq, if_neg (by simpa using ht), d.matching_eq h ht]

theorem count_eq_tail (d : Dialect) {t : TableDescriptor} (ht : Text.trim t.table ≠ "") :
    d.count t =
      ((Select.tail t).map fun f => d.finish (Select.head "count(*)" t.table ++ f.sql)
        f.params).mapError .data := by
  have hsplit : "SELECT " ++ "count(*)" ++ " FROM " = "SELECT count(*) FROM " := by decide
  have hmatching := d.matching_eq Select.selects_count ht
  rw [hsplit] at hmatching
  rw [count_eq, if_neg (by simpa using ht), hmatching]

end Dialect

/-- A field that stands for a column and the single value that it is to have. -/
structure FieldDescriptor.Equates (f : FieldDescriptor) : Prop where
  keyword : f.keyword = .eq
  column : f.compareColumn = f.column
  scalar : f.value.isScalar = true

namespace TableDescriptor

def equalities (t : TableDescriptor) : List (String × SqlValue) :=
  t.fields.map fun f => (f.column, f.value)

/-- The equalities that a selection keeps. -/
def filled (t : TableDescriptor) : List (String × SqlValue) :=
  t.equalities.filter fun c => !c.2.isBlank

theorem filled_sublist (t : TableDescriptor) : t.filled.Sublist t.equalities :=
  List.filter_sublist

end TableDescriptor

/-- Columns and values joined by a link, and the values that are bound. -/
def conjunction (link : String) (cells : List (String × SqlValue)) : Statement :=
  ⟨String.join (cells.map fun c => link ++ Dialect.equation c.1), cells.map Prod.snd⟩

namespace Select

theorem render_of_equates {f : FieldDescriptor} (h : f.Equates) :
    Fragment.render f.compareColumn f.keyword f.value .and =
      .ok (if f.value.isBlank then none
        else some ⟨.and, Dialect.equation f.column, [f.value]⟩) := by
  have hlist : Keyword.isList .eq = false := by decide
  have hrange : Keyword.isRange .eq = false := by decide
  rw [h.keyword, h.column, Fragment.render, hlist, hrange, Fragment.renderScalar, h.scalar]
  split <;> rfl

theorem rendered_of_equates {t : TableDescriptor} (h : ∀ f ∈ t.fields, f.Equates) :
    rendered t.fields = t.filled.map fun c => ⟨.and, Dialect.equation c.1, [c.2]⟩ := by
  have hrendered : ∀ f ∈ t.fields,
      Fragment.rendered? f.compareColumn f.keyword f.value .and =
        if f.value.isBlank then none else some ⟨.and, Dialect.equation f.column, [f.value]⟩ := by
    intro f hf
    rw [Fragment.rendered?, render_of_equates (h f hf)]
  rw [rendered, List.filterMap_congr hrendered, TableDescriptor.filled, TableDescriptor.equalities]
  induction t.fields with
  | nil => rfl
  | cons f fields ih =>
    cases hb : f.value.isBlank <;> simp [hb, ih]

theorem filter_of_equates {t : TableDescriptor} (h : ∀ f ∈ t.fields, f.Equates) :
    filter t.fields = .ok (conjunction " and " t.filled) := by
  have hnone : ∀ f ∈ t.fields,
      Fragment.malformation? f.compareColumn f.keyword f.value = none := by
    intro f hf
    exact Fragment.malformation?_eq_none_of_ok (render_of_equates (h f hf))
  have hvalues : t.filled.flatMap (fun c => [c.2]) = t.filled.map Prod.snd :=
    List.flatMap_pure_eq_map Prod.snd t.filled
  rw [filter_eq_ok hnone, rendered_of_equates h, List.map_map, List.flatMap_map, hvalues]
  rfl

end Select

theorem Dialect.delete_of_scalar (d : Dialect) {t : TableDescriptor} (ht : Text.trim t.table ≠ "")
    (hne : t.fields ≠ []) (hs : ∀ f ∈ t.fields, f.value.isScalar = true) :
    d.delete t = .ok (d.finish
      ("DELETE FROM " ++ t.table ++ " WHERE 1=1" ++ (conjunction " AND " t.equalities).sql)
      (conjunction " AND " t.equalities).params) := by
  have hcells : t.fields.mapM fieldCell = .ok t.equalities := by
    refine mapM_eq_ok fun f hf => ?_
    rw [fieldCell, stored, if_pos (hs f hf)]
    rfl
  have htable : (Text.trim t.table).isEmpty = false := by simpa using ht
  have hfields : t.isEmpty = false := by simpa [TableDescriptor.isEmpty] using hne
  rw [delete_eq, htable, hfields, hcells]
  rfl

end SqlMapper
