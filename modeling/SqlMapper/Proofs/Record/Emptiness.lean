import SqlMapper.Proofs.Condition.Shape
import SqlMapper.Proofs.Field.Emptiness
import SqlMapper.Proofs.Record.Slots

/-! Empty fields in queries. Only a field that is not empty takes part in a query, and unless it is
an option, its condition is rendered or refused there, but for a range with one blank bound. -/

namespace SqlMapper

open Fragment (render)

theorem Keyword.omits_iff_of_not_isZero {k : Keyword} {v : SqlValue} (hv : v.isZero = false) :
    k.Omits v ↔ k.isRange = true ∧
      ∃ left right, v = .between left right ∧ left.isBlank ≠ right.isBlank := by
  rcases v.shape with ⟨items, rfl⟩ | ⟨left, right, rfl⟩ | hs
  · have hitems : items ≠ [] := by
      rintro rfl
      cases hv
    simp [Omits, hitems]
  · have hbounds : ¬(left.isBlank = true ∧ right.isBlank = true) := by
      simpa [SqlValue.isZero] using hv
    cases hl : left.isBlank <;> cases hr : right.isBlank <;> simp_all [Omits]
  · rw [omits_of_isScalar hs, SqlValue.isBlank_of_not_isZero hv]
    refine iff_of_false Bool.false_ne_true ?_
    rintro ⟨-, left, right, rfl, -⟩
    cases hs

theorem Fields.isZero_of_cell {t : FieldType} (ht : ∀ u, t ≠ .option u) {v : t.Value} {x : SqlValue}
    (h : cell t v = some x) : x.isZero = false := by
  rw [cell] at h
  split at h
  · cases h
  · rename_i hz
    rw [← Option.some.inj h, FieldType.isZero_toSql ht]
    simpa using hz

namespace Record

theorem fields_extract (r : Record) (object : r.Object) :
    (r.criteria.extract object).fields = r.fields.slots.filterMap fun s =>
      (Fields.cell s.type (s.get object)).map (FieldDescriptor.ofColumn s.spec.columnMeta) := by
  have hcells : r.criteria.cells object =
      r.fields.slots.map fun s => (s.spec.columnMeta, Fields.cell s.type (s.get object)) := by
    change r.fields.columns.zip (r.fields.values object) = _
    rw [Fields.columns_eq_map_slots, Fields.values_eq_map_slots, List.zip_map']
  rw [Criteria.extract, hcells, TableDescriptor.ofMeta, List.filterMap_map]
  rfl

/-- Native values and bind values agree on what is empty, and for all types but ranges and values of
any kind it is what equals the default. An option is empty exactly if it is bound to null, as long
as nothing in it can be null. Hence a field in a query that is not an option is never blank, and its
condition is left out only if it is a range with one blank bound. -/
theorem emptiness_agrees :
    (∀ (b : BaseType) (v : b.Value), b.isZero v = (b.toSql v).isZero ∧
      (b ≠ .between ∧ b ≠ .any → (b.isZero v = true ↔ b.Same v b.default))) ∧
    (∀ (t : FieldType) (vs : List t.Value),
      (FieldType.list t).isZero vs = ((FieldType.list t).toSql vs).isZero) ∧
    (∀ t : FieldType, (t ≠ .base .any ∧ ∀ u, t ≠ .option u) ↔
      ∀ v : Option t.Value,
        (FieldType.option t).isZero v = true ↔ (FieldType.option t).toSql v = .null) ∧
    (∀ v : SqlValue, v.isBlank = true → v.isZero = true) ∧
    ∀ (r : Record) (object : r.Object) (s : Fields.Slot r.fields) (x : SqlValue),
      s ∈ r.fields.slots → (∀ u, s.type ≠ .option u) → Fields.cell s.type (s.get object) = some x →
      FieldDescriptor.ofColumn s.spec.columnMeta x ∈ (r.criteria.extract object).fields ∧
      x.isBlank = false ∧ x ≠ .list [] ∧
      ∀ column k link, render column k x link = .ok none ↔
        k.isRange = true ∧ ∃ left right, x = .between left right ∧ left.isBlank ≠ right.isBlank := by
  refine ⟨fun b v => ⟨(b.isZero_toSql v).symm, fun hb => b.isZero_iff_same_default hb v⟩,
    fun t vs => (FieldType.isZero_toSql (t := .list t) (fun _ => nofun) vs).symm,
    fun t => t.admitsNull_eq_false_iff.symm.trans FieldType.isZero_option_iff_null.symm,
    fun v => SqlValue.isZero_of_isBlank, ?_⟩
  intro r object s x hs ht hx
  have hzero := Fields.isZero_of_cell ht hx
  refine ⟨?_, SqlValue.isBlank_of_not_isZero hzero, ?_, fun column k link => ?_⟩
  · rw [fields_extract, List.mem_filterMap]
    exact ⟨s, hs, congrArg (Option.map _) hx⟩
  · rintro rfl
    cases hzero
  · rw [Fragment.render_eq_ok_none_iff, Keyword.omits_iff_of_not_isZero hzero]

def searches : Record where
  name := "Search"
  table := "search"
  fields :=
    .value ⟨"age", "age", "between", "", false, true, false⟩ (.base .between)
    (.value ⟨"tags", "tags", "in", "", false, true, false⟩ (.list (.base .text)) .nil)

/-- A range with one bound is in the query and has no condition; a list with a blank item has one. -/
theorem emptiness_agrees_searches :
    let object : searches.Object := (⟨.null, .int 30⟩, [""], ())
    let age : Fields.Slot searches.fields := .here
    let tags : Fields.Slot searches.fields := .later .here
    (age ∈ searches.fields.slots ∧ (∀ u, age.type ≠ .option u) ∧
      Fields.cell age.type (age.get object) = some (.between .null (.int 30))) ∧
    (tags ∈ searches.fields.slots ∧ (∀ u, tags.type ≠ .option u) ∧
      Fields.cell tags.type (tags.get object) = some (.list [.text ""])) ∧
    render "age" .between (.between .null (.int 30)) .and = .ok none ∧
    render "tags" .isIn (.list [.text ""]) .and ≠ .ok none ∧
    (SqlValue.text "").isZero = true ∧
    BaseType.double.isZero ⟨0x8000000000000000⟩ = true := by
  intro object age tags
  obtain ⟨hbase, -, -, hblank, hquery⟩ := emptiness_agrees
  have hage : age ∈ searches.fields.slots ∧ (∀ u, age.type ≠ .option u) ∧
      Fields.cell age.type (age.get object) = some (.between .null (.int 30)) :=
    ⟨List.mem_cons_self, nofun, rfl⟩
  have htags : tags ∈ searches.fields.slots ∧ (∀ u, tags.type ≠ .option u) ∧
      Fields.cell tags.type (tags.get object) = some (.list [.text ""]) :=
    ⟨List.mem_cons_of_mem _ List.mem_cons_self, fun _ => nofun, rfl⟩
  refine ⟨hage, htags, ?_, ?_, hblank _ rfl, ?_⟩
  · have hopen := (hquery searches object age _ hage.1 hage.2.1 hage.2.2).2.2.2
    exact (hopen "age" .between .and).mpr ⟨rfl, .null, .int 30, rfl, by decide⟩
  · have hkept := (hquery searches object tags _ htags.1 htags.2.1 htags.2.2).2.2.2
    exact fun h => absurd ((hkept "tags" .isIn .and).mp h).1 (by decide)
  · have hsame : Binary.Double.eq ⟨0x8000000000000000⟩ .zero = true := by decide
    exact ((hbase .double ⟨0x8000000000000000⟩).2 (by decide)).mpr hsame

end Record

end SqlMapper
