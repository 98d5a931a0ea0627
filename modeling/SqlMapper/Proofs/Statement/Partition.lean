import Mathlib.Data.List.Nodup
import SqlMapper.Proofs.Statement.Scalars

/-! What becomes of the fields of an update. It divides them: those whose columns it names are its
conditions, in the order in which it names them, and all others are set, in their own order. -/

namespace SqlMapper

namespace TableDescriptor

variable {t : TableDescriptor}

theorem field?_of_mem (h : t.columns.Nodup) {f : FieldDescriptor} (hf : f ∈ t.fields) :
    t.field? f.column = some f := by
  cases hfound : t.field? f.column with
  | none =>
    have hne := List.find?_eq_none.mp hfound f hf
    simp at hne
  | some g =>
    have hcolumn : g.column = f.column := by simpa using List.find?_some hfound
    have hg : g ∈ t.fields := List.mem_of_find?_eq_some hfound
    rw [List.inj_on_of_nodup_map h hg hf hcolumn]

theorem field?_eq_some_iff (h : t.columns.Nodup) {column : String} {f : FieldDescriptor} :
    t.field? column = some f ↔ f ∈ t.fields ∧ f.column = column := by
  constructor
  · intro hf
    exact ⟨List.mem_of_find?_eq_some hf, by simpa using List.find?_some hf⟩
  · rintro ⟨hf, rfl⟩
    exact field?_of_mem h hf

theorem isSome_field?_iff {column : String} :
    (t.field? column).isSome = true ↔ column ∈ t.columns := by
  simp [field?, columns, List.find?_isSome]

/-- The fields that are named are the fields with the names, in another order. -/
theorem named_perm (h : t.columns.Nodup) {names : List String} (hnames : names.Nodup) :
    (names.filterMap t.field?).Perm (t.fields.filter fun f => names.contains f.column) := by
  have hinjective (a b : String) (f : FieldDescriptor) (ha : f ∈ t.field? a) (hb : f ∈ t.field? b) :
      a = b :=
    ((field?_eq_some_iff h).mp ha).2.symm.trans ((field?_eq_some_iff h).mp hb).2
  refine (List.perm_ext_iff_of_nodup (hnames.filterMap hinjective)
    ((List.Nodup.of_map _ h).filter _)).mpr fun f => ?_
  simp only [List.mem_filterMap, field?_eq_some_iff h, List.mem_filter, List.contains_iff_mem]
  constructor
  · rintro ⟨column, hcolumn, hf, rfl⟩
    exact ⟨hf, hcolumn⟩
  · rintro ⟨hf, hcolumn⟩
    exact ⟨f.column, hcolumn, hf, rfl⟩

end TableDescriptor

namespace Dialect

/-- The fields that address the rows of an update. -/
def conditionFields (t : TableDescriptor) (conditions : List String) : List FieldDescriptor :=
  conditions.filterMap t.field?

theorem setFields_append_conditionFields {t : TableDescriptor} {conditions : List String}
    (ht : t.columns.Nodup) (hc : conditions.Nodup) :
    (setFields t conditions ++ conditionFields t conditions).Perm t.fields := by
  have hsplit := List.filter_append_perm (fun f : FieldDescriptor => conditions.contains f.column)
    t.fields
  exact (List.perm_append_comm.trans ((TableDescriptor.named_perm ht hc).append_right _)).trans
    hsplit

/-- What an update needs of its fields and of the columns that it names. -/
structure Updatable (t : TableDescriptor) (conditions : List String) : Prop where
  table : Text.trim t.table ≠ ""
  addressed : conditions ≠ []
  found : ∀ c ∈ conditions, c ∈ t.columns
  scalar : ∀ f ∈ t.fields, f.value.isScalar = true
  set : ∃ f ∈ t.fields, f.column ∉ conditions

theorem mem_setFields_iff {t : TableDescriptor} {conditions : List String} {f : FieldDescriptor} :
    f ∈ setFields t conditions ↔ f ∈ t.fields ∧ f.column ∉ conditions := by
  simp [setFields]

theorem setFields_ne_nil_iff {t : TableDescriptor} {conditions : List String} :
    setFields t conditions ≠ [] ↔ ∃ f ∈ t.fields, f.column ∉ conditions := by
  simp only [ne_eq, List.eq_nil_iff_forall_not_mem, mem_setFields_iff, not_forall,
    not_not]

/-- An update sets fields and has conditions on fields, and binds their values in this order. -/
theorem eq_updating_fields {d : Dialect} {t : TableDescriptor} {conditions : List String}
    {st : Statement} (h : d.update t conditions = .ok st) :
    st = d.finish
      (updating t.table ((setFields t conditions).map FieldDescriptor.cell)
        ((conditionFields t conditions).map FieldDescriptor.cell)).sql
      ((setFields t conditions ++ conditionFields t conditions).map fun f => f.value) := by
  have hadapt := (Assembly.statement_adapt d (.update t conditions)).symm.trans h
  obtain ⟨plain, hplain, rfl⟩ := exists_of_map_eq_ok hadapt
  obtain ⟨set, addressed, -, haddressed, rfl, -, hset⟩ := eq_updating_of_update hplain
  obtain rfl := eq_map_of_mapM_eq_ok (fun f cell hf => cell_of_fieldCell hf) hset
  obtain rfl := cells_of_mapM_conditionCell haddressed
  simp [updating, finish, setFields, conditionFields, FieldDescriptor.cell, Function.comp_def]

theorem columns_conditionFields {t : TableDescriptor} {conditions : List String}
    (h : ∀ c ∈ conditions, c ∈ t.columns) :
    (conditionFields t conditions).map (fun f => f.column) = conditions := by
  induction conditions with
  | nil => rfl
  | cons column rest ih =>
    obtain ⟨hcolumn, hrest⟩ := List.forall_mem_cons.mp h
    obtain ⟨f, hf⟩ := Option.isSome_iff_exists.mp (TableDescriptor.isSome_field?_iff.mpr hcolumn)
    have hname : f.column = column := by simpa using List.find?_some hf
    rw [conditionFields, List.filterMap_cons_some hf, List.map_cons, hname]
    exact congrArg (column :: ·) (ih hrest)

section Partition

variable {t : TableDescriptor} {conditions : List String}

theorem updatable_of_storing (ht : t.columns.Nodup) (hc : conditions.Nodup)
    {cells : List (String × SqlValue)} (h : (Assembly.update t conditions).Storing cells)
    (hcells : ∀ cell ∈ cells, cell.2.isScalar = true) : Updatable t conditions := by
  cases h with
  | update table addressed found set =>
    rw [← List.map_append] at hcells
    refine ⟨table, addressed, fun c hc => TableDescriptor.isSome_field?_iff.mp (found c hc),
      fun f hf => ?_, setFields_ne_nil_iff.mp set⟩
    have hbound := (setFields_append_conditionFields ht hc).mem_iff.mpr hf
    exact hcells f.cell (List.mem_map_of_mem hbound)

theorem Updatable.storing (h : Updatable t conditions) :
    (Assembly.update t conditions).Storing
      ((setFields t conditions ++ conditionFields t conditions).map FieldDescriptor.cell) := by
  rw [List.map_append]
  exact .update h.table h.addressed
    (fun c hc => TableDescriptor.isSome_field?_iff.mpr (h.found c hc))
    (setFields_ne_nil_iff.mpr h.set)

theorem exists_update_iff (d : Dialect) (ht : t.columns.Nodup) (hc : conditions.Nodup) :
    (∃ st, d.update t conditions = .ok st) ↔ Updatable t conditions := by
  refine (Assembly.exists_statement_iff (a := .update t conditions) rfl d).trans ⟨?_, fun h => ?_⟩
  · rintro ⟨cells, hstoring, hscalar⟩
    exact updatable_of_storing ht hc hstoring hscalar
  · refine ⟨_, h.storing, List.forall_mem_map.mpr fun f hf => ?_⟩
    exact h.scalar f ((setFields_append_conditionFields ht hc).mem_iff.mp hf)

/-- An update can be made if and only if nothing that it needs is missing, and then each field is
bound once: as a condition if its column is named, and set if it is not. -/
theorem update_partitions (d : Dialect) (ht : t.columns.Nodup) (hc : conditions.Nodup) :
    ((∃ st, d.update t conditions = .ok st) ↔ Updatable t conditions) ∧
    ∀ st, d.update t conditions = .ok st → ∃ set addressed : List FieldDescriptor,
      set = t.fields.filter (fun f => f.column ∉ conditions) ∧
      addressed.map (fun f => f.column) = conditions ∧
      (set ++ addressed).Perm t.fields ∧
      st.sql = d.adapt ("UPDATE " ++ t.table ++
        " SET " ++ ", ".intercalate (set.map fun f => f.column ++ " = ?") ++
        " WHERE 1=1" ++ String.join (addressed.map fun f => " AND " ++ f.column ++ " = ?")) ∧
      st.params = (set ++ addressed).map fun f => f.value := by
  have hiff := exists_update_iff d ht hc
  refine ⟨hiff, fun st hst => ?_⟩
  have hneeds : Updatable t conditions := hiff.mp ⟨st, hst⟩
  have hset : setFields t conditions = t.fields.filter fun f => f.column ∉ conditions := by
    simp [setFields]
  obtain rfl := eq_updating_fields hst
  refine ⟨setFields t conditions, conditionFields t conditions, hset,
    columns_conditionFields hneeds.found, setFields_append_conditionFields ht hc, ?_, rfl⟩
  simp [finish, updating, conjuncts, FieldDescriptor.cell, Function.comp_def]

end Partition

def contactUpdate : TableDescriptor :=
  ⟨"contact", some "id",
    [⟨"id", "id", .eq, "id", .bigint 7⟩, ⟨"name", "name", .like, "name", .text "ann"⟩,
      ⟨"mail", "email", .eq, "email", .text "a@b.c"⟩, ⟨"age", "age", .ge, "age", .int 30⟩]⟩

theorem update_partitions_contact :
    contactUpdate.columns.Nodup ∧ ["email", "id"].Nodup ∧
    Updatable contactUpdate ["email", "id"] ∧
    ∃ set addressed : List FieldDescriptor,
      set = contactUpdate.fields.filter (fun f => f.column ∉ ["email", "id"]) ∧
      addressed.map (fun f => f.column) = ["email", "id"] ∧
      (set ++ addressed).Perm contactUpdate.fields ∧
      [.text "ann", .int 30, .text "a@b.c", .bigint 7] =
        (set ++ addressed).map fun f => f.value := by
  have hcolumns : contactUpdate.columns.Nodup := by decide
  have hconditions : ["email", "id"].Nodup := by decide
  have hst : mysql.update contactUpdate ["email", "id"] =
      .ok ⟨"UPDATE contact SET name = ?, age = ? WHERE 1=1 AND email = ? AND id = ?",
        [.text "ann", .int 30, .text "a@b.c", .bigint 7]⟩ := rfl
  obtain ⟨hiff, hpartition⟩ := update_partitions mysql hcolumns hconditions
  obtain ⟨set, addressed, hset, hnames, hperm, -, hparams⟩ := hpartition _ hst
  exact ⟨hcolumns, hconditions, hiff.mp ⟨_, hst⟩, set, addressed, hset, hnames, hperm, hparams⟩

end Dialect

end SqlMapper
