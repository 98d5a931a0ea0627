import SqlMapper.Proofs.Field.Equality
import SqlMapper.Proofs.Record.Filling

/-! Objects written to a row and read from it. The row has no cell for an empty field, which
therefore reads as the default of its type; where columns are distinct every other field finds its
own cell, however deep it is nested. -/

namespace SqlMapper

/-- The cells that are not empty. -/
def present (cells : List (String × Option β)) : List (String × β) :=
  cells.filterMap fun cell => cell.2.map fun x => (cell.1, x)

theorem columns_present_sublist (cells : List (String × Option β)) :
    ((present cells).map Prod.fst).Sublist (cells.map Prod.fst) := by
  induction cells with
  | nil => exact .slnil
  | cons cell rest ih =>
    obtain ⟨c, x⟩ := cell
    cases x with
    | none => exact ih.cons c
    | some x => exact ih.cons_cons c

theorem lookup_present {cells : List (String × Option β)} (h : (cells.map Prod.fst).Nodup)
    {column : String} {x : Option β} (hx : (column, x) ∈ cells) :
    (present cells).lookup column = x := by
  induction cells with
  | nil => simp at hx
  | cons cell rest ih =>
    obtain ⟨hnot, hrest⟩ := List.nodup_cons.mp h
    rcases List.mem_cons.mp hx with rfl | hmore
    · have hnone : (present rest).lookup column = none :=
        OrderedMap.lookup_eq_none fun hm => hnot ((columns_present_sublist rest).subset hm)
      cases x with
      | none => exact hnone
      | some x => exact (OrderedMap.lookup_cons_eq ..).trans (if_pos rfl)
    · have hne : column ≠ cell.1 := fun he => hnot (he ▸ List.mem_map_of_mem hmore)
      obtain ⟨c, y⟩ := cell
      have hlater := ih hrest hmore
      cases y with
      | none => exact hlater
      | some y => exact (OrderedMap.lookup_cons_eq ..).trans ((if_neg hne).trans hlater)

theorem Row.getOrDefault_of_some {row : Row} {column : String} {t : FieldType} {x : SqlValue}
    (hrow : row.get? column = some x) (hx : x ≠ .null) :
    row.getOrDefault t column = t.ofSql x := by
  rw [getOrDefault, hrow]
  cases x with
  | null => exact absurd rfl hx
  | _ => rfl

namespace FieldType

theorem isZero_of_toSql_eq_null {t : FieldType} (ht : t.Unambiguous) {v : t.Value}
    (h : t.toSql v = .null) : t.isZero v = true := by
  cases t with
  | base b =>
    by_cases hb : b = .any
    · subst hb
      obtain rfl : v = SqlValue.null := h
      rfl
    · exact absurd h (toSql_ne_null (t := .base b) (by simpa [admitsNull] using hb) v)
  | option t =>
    cases v with
    | none => rfl
    | some v => exact absurd h (toSql_ne_null ht.1 v)
  | list t => simp [toSql] at h

/-- Types whose values are known by their cells: those of full cells come back, and the only empty
value is the default. -/
def Restorable (t : FieldType) : Prop :=
  t.Unambiguous ∧ t ≠ .base .between ∧ t ≠ .base .any

instance (t : FieldType) : Decidable t.Restorable :=
  inferInstanceAs (Decidable (_ ∧ _))

def defaulted (t : FieldType) (v : t.Value) : t.Value :=
  if t.isZero v then t.default else v

theorem same_defaulted {t : FieldType} (ht : t ≠ .base .between ∧ t ≠ .base .any)
    {v : t.Value} (hv : t.FreeOfNaN v) : t.Same v (t.defaulted v) := by
  rw [defaulted]
  split
  · exact same_default_of_isZero ht ‹_›
  · exact same_self hv

end FieldType

namespace Fields

/-- A statement about all fields with a column. -/
def Every (P : (t : FieldType) → t.Value → Prop) : (f : Fields) → f.Object → Prop
  | .nil, _ => True
  | .value spec type rest, (v, vs) => (spec.exist = true → P type v) ∧ rest.Every P vs
  | .nested spec inner rest, (v, vs) => (spec.exist = true → inner.Every P v) ∧ rest.Every P vs

/-- The object with the default in whatever does not exist in the table. -/
def tabled : (f : Fields) → f.Object → f.Object
  | .nil, _ => ()
  | .value spec type rest, (v, vs) => (if spec.exist then v else type.default, rest.tabled vs)
  | .nested spec inner rest, (v, vs) =>
    (if spec.exist then inner.tabled v else inner.default, rest.tabled vs)

/-- What is left of an object in its row: the default takes the place of empty fields too. -/
def restored : (f : Fields) → f.Object → f.Object
  | .nil, _ => ()
  | .value spec type rest, (v, vs) =>
    (if spec.exist then type.defaulted v else type.default, rest.restored vs)
  | .nested spec inner rest, (v, vs) =>
    (if spec.exist then inner.restored v else inner.default, rest.restored vs)

theorem getOrDefault_of_cell {row : Row} {column : String} {t : FieldType} {v : t.Value}
    (hrow : row.get? column = cell t v) (ht : t.Unambiguous)
    (hv : ∀ n ∈ t.words v, n ≤ greatestSigned) :
    row.getOrDefault t column = .ok (t.defaulted v) := by
  rw [FieldType.defaulted]
  by_cases hz : t.isZero v = true
  · rw [cell, if_pos hz] at hrow
    rw [Row.getOrDefault, hrow, if_pos hz]
  · rw [cell, if_neg hz] at hrow
    have hnull : t.toSql v ≠ .null := fun h => hz (FieldType.isZero_of_toSql_eq_null ht h)
    rw [Row.getOrDefault_of_some hrow hnull, if_neg hz, FieldType.ofSql_toSql_eq ht]
    exact BaseType.readBack_eq_ok_iff.mpr hv

theorem ofRow_of_cells {f : Fields} {row : Row} {object : f.Object}
    (hrow : ∀ cell ∈ f.columnNames.zip (f.values object), row.get? cell.1 = cell.2)
    (h : f.Every (fun t v => t.Restorable ∧ ∀ n ∈ t.words v, n ≤ greatestSigned) object) :
    f.ofRow row = .ok (f.restored object) := by
  induction f with
  | nil => rfl
  | value spec type rest ih =>
    obtain ⟨v, vs⟩ := object
    rw [zip_columnNames_value] at hrow
    have hrest := ih (fun cell hc => hrow cell (List.mem_append_right _ hc)) h.2
    rw [ofRow, restored, hrest]
    by_cases he : spec.exist = true
    · obtain ⟨ht, hv⟩ := h.1 he
      have hcell : row.get? spec.column = cell type v :=
        hrow (spec.column, cell type v) (by simp [he])
      rw [if_pos he, if_pos he, getOrDefault_of_cell hcell ht.1 hv]
      rfl
    · rw [if_neg he, if_neg he]
      rfl
  | nested spec inner rest ihi ih =>
    obtain ⟨v, vs⟩ := object
    rw [zip_columnNames_nested] at hrow
    have hrest := ih (fun cell hc => hrow cell (List.mem_append_right _ hc)) h.2
    rw [ofRow, restored, hrest]
    by_cases he : spec.exist = true
    · rw [if_pos he, if_pos he, ihi (fun cell hc => hrow cell (by simp [he, hc])) (h.1 he)]
      rfl
    · rw [if_neg he, if_neg he]
      rfl

theorem fieldwise_restored {f : Fields} {object : f.Object}
    (h : f.Every (fun t v => t.Restorable ∧ t.FreeOfNaN v) object) :
    f.Fieldwise (fun _ t v w => t.Same v w) (f.tabled object) (f.restored object) := by
  induction f with
  | nil => trivial
  | value spec type rest ih =>
    obtain ⟨v, vs⟩ := object
    have hrest := ih h.2
    by_cases he : spec.exist = true
    · obtain ⟨ht, hv⟩ := h.1 he
      simpa [Fieldwise, Related, tabled, restored, he, hrest] using
        FieldType.same_defaulted ht.2 hv
    · simpa [Fieldwise, Related, tabled, restored, he] using hrest
  | nested spec inner rest ihi ih =>
    obtain ⟨v, vs⟩ := object
    have hrest := ih h.2
    by_cases he : spec.exist = true
    · simpa [Fieldwise, Related, tabled, restored, he, hrest] using ihi (h.1 he)
    · simpa [Fieldwise, Related, tabled, restored, he] using hrest

theorem Every.imp {P Q : (t : FieldType) → t.Value → Prop} {f : Fields} {object : f.Object}
    (hpq : ∀ t v, P t v → Q t v) (h : f.Every P object) : f.Every Q object := by
  induction f with
  | nil => trivial
  | value spec type rest ih => exact ⟨fun he => hpq _ _ (h.1 he), ih h.2⟩
  | nested spec inner rest ihi ih => exact ⟨fun he => ihi (h.1 he), ih h.2⟩

end Fields

namespace Record

/-- The row of an object: a cell for every column whose field is not empty. -/
def row (r : Record) (object : r.Object) : Row :=
  .ofList ((r.criteria.extract object).fields.map fun d => (d.column, d.value))

theorem cells_extract (r : Record) (object : r.Object) :
    (r.criteria.extract object).fields.map (fun d => (d.column, d.value)) =
      present (r.fields.columnNames.zip (r.fields.values object)) := by
  rw [zip_columnNames, present, List.filterMap_map, Criteria.extract, TableDescriptor.ofMeta,
    List.map_filterMap]
  congr 1
  funext cell
  simp [FieldDescriptor.ofColumn, Function.comp_def]

theorem get?_row {r : Record} (hr : r.fields.columnNames.Nodup) (object : r.Object)
    {cell : String × Option SqlValue}
    (hc : cell ∈ r.fields.columnNames.zip (r.fields.values object)) :
    (r.row object).get? cell.1 = cell.2 := by
  have hlen : r.fields.columnNames.length ≤ (r.fields.values object).length := by
    simp [Fields.columnNames, Fields.length_values]
  have hnodup : ((r.fields.columnNames.zip (r.fields.values object)).map Prod.fst).Nodup := by
    rwa [List.map_fst_zip hlen]
  rw [row, Row.get?, Row.ofList, cells_extract, OrderedMap.get?_ofList]
  · exact lookup_present hnodup hc
  · exact hnodup.sublist (columns_present_sublist _)

/-- An object comes back from its row: equal in every field with a column, nested or not, and with
the default everywhere else. -/
theorem ofRow_row (r : Record) (hr : r.fields.columnNames.Nodup) (object : r.Object)
    (h : r.fields.Every (fun t v => t.Restorable ∧ (∀ n ∈ t.words v, n ≤ greatestSigned) ∧
      t.FreeOfNaN v) object) :
    ∃ after, r.fields.ofRow (r.row object) = .ok after ∧
      r.fields.Fieldwise (fun _ t v w => t.Same v w) (r.fields.tabled object) after :=
  ⟨r.fields.restored object,
    Fields.ofRow_of_cells (fun _ hc => get?_row hr object hc) (h.imp fun _ _ hv => ⟨hv.1, hv.2.1⟩),
    Fields.fieldwise_restored (h.imp fun _ _ hv => ⟨hv.1, hv.2.2⟩)⟩

/-- Probes with a level, tags and an optional revision, and a note outside of the table. -/
def probes : Record where
  name := "Probe"
  table := "probe"
  fields :=
    .value ⟨"level", "level", "", "", false, true, false⟩ (.base .double)
    (.value ⟨"note", "note", "", "", false, false, false⟩ (.base .text)
    (.nested ⟨"stamp", "stamp", "", "", false, true, true⟩
      (.value ⟨"revision", "revision", "", "", false, true, false⟩ (.option (.base .nat8)) .nil)
    (.value ⟨"tags", "tags", "", "", false, true, false⟩ (.list (.base .text)) .nil)))

/-- A negative zero comes back as a zero, and a zero in an option as itself. -/
theorem ofRow_row_probes :
    let object : probes.Object := (⟨0x8000000000000000⟩, "kept", (some 0, ()), ["a", ""], ())
    probes.fields.columnNames.Nodup ∧
      ∃ after : probes.Object, probes.fields.ofRow (probes.row object) = .ok after ∧
        Binary.Double.eq ⟨0x8000000000000000⟩ after.1 = true ∧ after.2.1 = "" ∧
        after.2.2.1.1 = some 0 ∧ after.2.2.2.1 = ["a", ""] := by
  intro object
  have hdistinct : probes.fields.columnNames.Nodup := by decide
  have hevery : probes.fields.Every (fun t v => t.Restorable ∧
      (∀ n ∈ t.words v, n ≤ greatestSigned) ∧ t.FreeOfNaN v) object :=
    ⟨fun _ => ⟨by decide, List.forall_mem_nil _, rfl⟩, nofun,
      fun _ => ⟨fun _ => ⟨by decide, List.forall_mem_nil _, fun _ _ => trivial⟩, trivial⟩,
      fun _ => ⟨by decide, List.forall_mem_nil _, fun _ _ => trivial⟩, trivial⟩
  obtain ⟨after, hafter, hlevel, hnote, ⟨hrevision, -⟩, htags, -⟩ :=
    ofRow_row probes hdistinct object hevery
  have hrev : Option.Rel Eq (some 0) after.2.2.1.1 := hrevision
  have htag : List.Forall₂ Eq ["a", ""] after.2.2.2.1 := htags
  refine ⟨hdistinct, after, hafter, hlevel, hnote, ?_, ?_⟩
  · generalize after.2.2.1.1 = revision at hrev
    cases hrev with
    | some h => rw [← h]
  · rw [List.forall₂_eq_eq_eq] at htag
    exact htag.symm

end Record

end SqlMapper
