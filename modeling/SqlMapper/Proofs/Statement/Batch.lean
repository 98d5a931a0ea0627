import SqlMapper.Proofs.Statement.Scalars

/-! Insertions of several rows. A batch is made if and only if each of its rows could be inserted
alone and all have the same columns, and it binds what their insertions bind. -/

namespace SqlMapper.Dialect

/-- What an insertion needs of its row. -/
structure Insertable (t : TableDescriptor) : Prop where
  table : Text.trim t.table ≠ ""
  fields : t.fields ≠ []
  scalar : ∀ f ∈ t.fields, f.value.isScalar = true

theorem exists_insert_iff (d : Dialect) (t : TableDescriptor) :
    (∃ st, d.insert t = .ok st) ↔ Insertable t := by
  refine (Assembly.exists_statement_iff (a := .insert t) rfl d).trans ⟨?_, fun h => ?_⟩
  · rintro ⟨cells, ⟨table, fields⟩, hscalar⟩
    exact ⟨table, fields, fun f hf => hscalar f.cell (List.mem_map_of_mem hf)⟩
  · exact ⟨_, .insert h.table h.fields, List.forall_mem_map.mpr h.scalar⟩

theorem exists_insertBatch_iff (d : Dialect) {table : String} {ts : List TableDescriptor}
    (htable : ∀ t ∈ ts, t.table = table) :
    (∃ st, d.insertBatch ts = .ok st) ↔
      ts ≠ [] ∧ (∀ t ∈ ts, ∃ st, d.insert t = .ok st) ∧
        ∀ t ∈ ts, ∀ u ∈ ts, t.columns = u.columns := by
  simp only [exists_insert_iff]
  refine (Assembly.exists_statement_iff (a := .insertBatch ts) rfl d).trans ⟨?_, ?_⟩
  · rintro ⟨cells, hstoring, hscalar⟩
    cases hstoring with
    | @insertBatch first rest hfirst fields columns =>
      refine ⟨by simp, fun t ht => ⟨?_, ?_, fun f hf => ?_⟩, fun t ht u hu => ?_⟩
      · rwa [htable t ht, ← htable first List.mem_cons_self]
      · intro hnil
        have hcolumns := columns t ht
        rw [TableDescriptor.columns, hnil] at hcolumns
        exact fields (List.map_eq_nil_iff.mp hcolumns.symm)
      · exact hscalar f.cell (List.mem_flatMap.mpr ⟨t, ht, List.mem_map_of_mem hf⟩)
      · rw [columns t ht, columns u hu]
  · rintro ⟨hne, hrows, hcolumns⟩
    obtain ⟨first, rest, rfl⟩ := List.exists_cons_of_ne_nil hne
    have hfirst := hrows first List.mem_cons_self
    refine ⟨_, .insertBatch hfirst.table hfirst.fields fun t ht =>
      hcolumns t ht first List.mem_cons_self, fun cell hcell => ?_⟩
    obtain ⟨t, ht, hcell⟩ := List.mem_flatMap.mp hcell
    obtain ⟨f, hf, rfl⟩ := List.mem_map.mp hcell
    exact (hrows t ht).scalar f hf

/-- The text that inserts `rows` rows of columns into a table. -/
def insertionText (table : String) (columns : List String) (rows : Nat) : String :=
  "INSERT INTO " ++ table ++ " (" ++ ", ".intercalate columns ++ ") VALUES " ++
    ", ".intercalate (List.replicate rows (rowPlaceholders columns.length))

theorem insertionText_one (table : String) (columns : List String) :
    insertionText table columns 1 = "INSERT INTO " ++ table ++ " (" ++ listed columns ++
      ") VALUES " ++ rowPlaceholders columns.length :=
  congrArg _ (String.intercalate_singleton ..)

theorem length_values (t : TableDescriptor) :
    (t.fields.map fun f => f.value).length = t.columns.length := by
  rw [TableDescriptor.columns, List.length_map, List.length_map]

theorem eq_insertion_of_insert {d : Dialect} {t : TableDescriptor} {st : Statement}
    (h : d.insert t = .ok st) :
    st = d.finish (insertionText t.table t.columns 1) (t.fields.map fun f => f.value) := by
  rw [insert_eq] at h
  obtain ⟨params, hparams, rfl⟩ := exists_of_map_eq_ok (eq_ok_of_ite (eq_ok_of_ite h).2).2
  obtain rfl := eq_map_of_mapM_eq_ok (fun f v hv => value_of_stored hv) hparams
  rw [insertionText_one, length_values]

theorem eq_insertion_of_insertBatch {d : Dialect} {first : TableDescriptor}
    {rest : List TableDescriptor} {st : Statement} (h : d.insertBatch (first :: rest) = .ok st) :
    st = d.finish (insertionText first.table first.columns (rest.length + 1))
      ((first :: rest).flatMap fun t => t.fields.map fun f => f.value) := by
  rw [insertBatch_cons] at h
  obtain ⟨params, hparams, rfl⟩ := exists_of_map_eq_ok (eq_ok_of_ite (eq_ok_of_ite h).2).2
  obtain ⟨rfl, -⟩ := batchRows_eq_ok hparams
  rw [List.map_const', List.length_cons]
  rfl

/-- The insertion of one row, if it can be made. -/
def single (d : Dialect) (t : TableDescriptor) : Statement :=
  d.finish (insertionText t.table t.columns 1) (t.fields.map fun f => f.value)

/-- A batch inserts the rows that single insertions would, and binds the same values. -/
theorem singles_of_insertBatch {d : Dialect} {table : String} {ts : List TableDescriptor}
    (htable : ∀ t ∈ ts, t.table = table) {st : Statement} (h : d.insertBatch ts = .ok st) :
    ∃ columns singles, (∀ t ∈ ts, t.columns = columns) ∧ ts.mapM d.insert = .ok singles ∧
      (∀ one ∈ singles, one.sql = d.adapt (insertionText table columns 1)) ∧
      st.sql = d.adapt (insertionText table columns ts.length) ∧
      st.params = singles.flatMap fun one => one.params := by
  obtain ⟨hne, hrows, hcolumns⟩ := (exists_insertBatch_iff d htable).mp ⟨st, h⟩
  have hsingles : ts.mapM d.insert = .ok (ts.map d.single) := by
    refine mapM_eq_ok fun t ht => ?_
    obtain ⟨one, hone⟩ := hrows t ht
    rw [hone, eq_insertion_of_insert hone, single]
  obtain ⟨first, rest, rfl⟩ := List.exists_cons_of_ne_nil hne
  have hfirst (t : TableDescriptor) (ht : t ∈ first :: rest) : t.columns = first.columns :=
    hcolumns t ht first List.mem_cons_self
  refine ⟨first.columns, _, hfirst, hsingles, List.forall_mem_map.mpr fun t ht => ?_, ?_, ?_⟩
  · rw [single, finish, htable t ht, hfirst t ht]
  · rw [eq_insertion_of_insertBatch h, finish, htable first List.mem_cons_self, List.length_cons]
  · rw [eq_insertion_of_insertBatch h, List.flatMap_map]
    rfl

/-- One row in a batch is inserted as it is alone. -/
theorem insertBatch_singleton (d : Dialect) (t : TableDescriptor) :
    d.insertBatch [t] = d.insert t := by
  have hrows : batchRows t.columns 0 [t] = t.fields.mapM stored := by
    rw [batchRows_cons, batchRow, if_pos rfl]
    cases t.fields.mapM stored with
    | error e => rfl
    | ok row => exact congrArg Except.ok (List.append_nil row)
  rw [insertBatch_cons, insert_eq, hrows]
  congr 2
  cases hparams : t.fields.mapM stored with
  | error e => rfl
  | ok params =>
    obtain rfl := eq_map_of_mapM_eq_ok (fun f v hv => value_of_stored hv) hparams
    rw [map_ok, map_ok, length_values, List.map_singleton, listed, listed,
      String.intercalate_singleton]

end SqlMapper.Dialect
