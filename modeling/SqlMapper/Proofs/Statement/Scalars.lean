import SqlMapper.Proofs.Statement.Binding

/-! The values that writes bind. Insertions, updates and deletions of matching rows store single
values only: either all that they were to bind are such values, or they complain about one that is
not. A deletion by keys takes its keys as they are. -/

namespace SqlMapper

/-- The complaint about a value that cannot be stored. -/
def notStorable (cell : String × SqlValue) : MapperError :=
  .data (.malformedCondition cell.1 "write" (.notStorable cell.2.typeName))

/-- What it comes to if the cells are stored on the way to `a`. -/
structure Stores (cells : List (String × SqlValue)) (x : Except MapperError α) (a : α) : Prop where
  ok : (∀ cell ∈ cells, cell.2.isScalar = true) → x = .ok a
  error : (∃ cell ∈ cells, cell.2.isScalar = false) →
    ∃ cell ∈ cells, cell.2.isScalar = false ∧ x = .error (notStorable cell)

namespace Stores

variable {cells more : List (String × SqlValue)} {x : Except MapperError α} {a : α}

theorem scalar_or (cells : List (String × SqlValue)) :
    (∀ cell ∈ cells, cell.2.isScalar = true) ∨ ∃ cell ∈ cells, cell.2.isScalar = false := by
  by_cases h : ∃ cell ∈ cells, cell.2.isScalar = false
  · exact .inr h
  · refine .inl fun cell hcell => ?_
    have hne : cell.2.isScalar ≠ false := fun hf => h ⟨cell, hcell, hf⟩
    simpa using hne

theorem nil (a : α) : Stores [] (.ok a) a := ⟨fun _ => rfl, by simp⟩

/-- A check that is passed. -/
theorem passed {p : Prop} [Decidable p] (hp : ¬p) {e : MapperError} {a : α} :
    Stores [] (if p then .error e else .ok a) a := by
  rw [if_neg hp]
  exact nil a

theorem map (h : Stores cells x a) (f : α → β) : Stores cells (x.map f) (f a) := by
  constructor
  · intro hs
    rw [h.ok hs, map_ok]
  · intro hb
    obtain ⟨cell, hcell, hscalar, he⟩ := h.error hb
    exact ⟨cell, hcell, hscalar, by rw [he]; rfl⟩

theorem bind (h : Stores cells x a) {f : α → Except MapperError β} {b : β}
    (hf : Stores more (f a) b) : Stores (cells ++ more) (x.bind f) b := by
  constructor
  · intro hs
    obtain ⟨hcells, hmore⟩ := List.forall_mem_append.mp hs
    rw [h.ok hcells, bind_ok, hf.ok hmore]
  · rintro ⟨bad, hbad, hscalar⟩
    obtain hs | hb := scalar_or cells
    · have hmem : bad ∈ more := by
        refine (List.mem_append.mp hbad).resolve_left fun hm => ?_
        simp [hs bad hm] at hscalar
      obtain ⟨cell, hcell, hscalar, he⟩ := hf.error ⟨bad, hmem, hscalar⟩
      exact ⟨cell, List.mem_append_right _ hcell, hscalar, by rw [h.ok hs, bind_ok, he]⟩
    · obtain ⟨cell, hcell, hscalar, he⟩ := h.error hb
      exact ⟨cell, List.mem_append_left _ hcell, hscalar, by rw [he]; rfl⟩

/-- The order in which cells are looked at has no part in it. -/
theorem of_mem_iff (h : Stores cells x a) (hmem : ∀ cell, cell ∈ cells ↔ cell ∈ more) :
    Stores more x a := by
  constructor
  · exact fun hs => h.ok fun cell hcell => hs cell ((hmem cell).mp hcell)
  · rintro ⟨bad, hbad, hscalar⟩
    obtain ⟨cell, hcell, hscalar, he⟩ := h.error ⟨bad, (hmem bad).mpr hbad, hscalar⟩
    exact ⟨cell, (hmem cell).mp hcell, hscalar, he⟩

theorem mapM {f : β → Except MapperError α} {cell : β → String × SqlValue} {g : β → α}
    (h : ∀ b, Stores [cell b] (f b) (g b)) (bs : List β) :
    Stores (bs.map cell) (bs.mapM f) (bs.map g) := by
  induction bs with
  | nil => exact nil []
  | cons b bs ih =>
    rw [mapM_cons_eq]
    exact (h b).bind (ih.map (g b :: ·))

end Stores

namespace Dialect

theorem stores_stored (f : FieldDescriptor) : Stores [f.cell] (stored f) f.value := by
  constructor
  · intro hs
    have hf : f.value.isScalar = true := hs f.cell (List.mem_singleton_self _)
    rw [stored, if_pos hf]
  · rintro ⟨cell, hcell, hscalar⟩
    obtain rfl := List.mem_singleton.mp hcell
    have hf : f.value.isScalar = false := hscalar
    exact ⟨f.cell, hcell, hscalar, by rw [stored, if_neg (by simp [hf])]; rfl⟩

theorem stores_fieldCell (f : FieldDescriptor) : Stores [f.cell] (fieldCell f) f.cell :=
  (stores_stored f).map _

theorem stores_conditionCell {t : TableDescriptor} {column : String} {f : FieldDescriptor}
    (h : t.field? column = some f) : Stores [f.cell] (conditionCell t column) f.cell := by
  rw [conditionCell, h]
  exact stores_fieldCell f

theorem stores_mapM_conditionCell {t : TableDescriptor} {conditions : List String}
    (h : ∀ column ∈ conditions, (t.field? column).isSome = true) :
    Stores ((conditions.filterMap t.field?).map FieldDescriptor.cell)
      (conditions.mapM (conditionCell t))
      ((conditions.filterMap t.field?).map FieldDescriptor.cell) := by
  induction conditions with
  | nil => exact .nil []
  | cons column conditions ih =>
    obtain ⟨hfound, hrest⟩ := List.forall_mem_cons.mp h
    obtain ⟨f, hf⟩ := Option.isSome_iff_exists.mp hfound
    rw [List.filterMap_cons_some hf, List.map_cons, mapM_cons_eq]
    exact (stores_conditionCell hf).bind ((ih hrest).map (f.cell :: ·))

/-- The cells of the rows of a batch, row by row. -/
def rowCells (ts : List TableDescriptor) : List (String × SqlValue) :=
  ts.flatMap fun t => t.fields.map FieldDescriptor.cell

theorem stores_batchRows {columns : List String} {ts : List TableDescriptor}
    (h : ∀ t ∈ ts, t.columns = columns) (index : Nat) :
    Stores (rowCells ts) (batchRows columns index ts) ((rowCells ts).map Prod.snd) := by
  induction ts generalizing index with
  | nil => exact .nil []
  | cons t ts ih =>
    obtain ⟨ht, hrest⟩ := List.forall_mem_cons.mp h
    have hrow : Stores (t.fields.map FieldDescriptor.cell) (batchRow columns index t)
        (t.fields.map fun f => f.value) := by
      rw [batchRow, if_pos ht]
      exact Stores.mapM stores_stored t.fields
    rw [batchRows_cons, rowCells, List.flatMap_cons, List.map_append, List.map_map]
    exact hrow.bind ((ih hrest (index + 1)).map _)

theorem deleteByIds_binds (d : Dialect) {table : String} (ht : Text.trim table ≠ "")
    (primaryKey : String) {ids : List SqlValue} (hids : ids ≠ []) :
    ∃ sql, d.deleteByIds table primaryKey ids = .ok (d.finish sql ids) := by
  have htable : (Text.trim table).isEmpty = false := by simpa using ht
  have hnonempty : ids.isEmpty = false := by simpa using hids
  rw [deleteByIds_eq, htable, hnonempty]
  exact ⟨_, rfl⟩

/-- The fields that an update sets. -/
def setFields (t : TableDescriptor) (conditions : List String) : List FieldDescriptor :=
  t.fields.filter fun f => !conditions.contains f.column

end Dialect

namespace Assembly

open Dialect

/-- The writes that look at their values. -/
def checksValues : Assembly → Bool
  | .insert _ | .insertBatch _ | .update _ _ | .delete _ => true
  | _ => false

/-- The cells that such a write binds, where nothing but its values can keep it from being made. -/
inductive Storing : Assembly → List (String × SqlValue) → Prop
  | insert {t : TableDescriptor} (table : Text.trim t.table ≠ "") (fields : t.fields ≠ []) :
    Storing (.insert t) (t.fields.map FieldDescriptor.cell)
  | insertBatch {first : TableDescriptor} {rest : List TableDescriptor}
    (table : Text.trim first.table ≠ "") (fields : first.fields ≠ [])
    (columns : ∀ t ∈ first :: rest, t.columns = first.columns) :
    Storing (.insertBatch (first :: rest)) (rowCells (first :: rest))
  | update {t : TableDescriptor} {conditions : List String} (table : Text.trim t.table ≠ "")
    (addressed : conditions ≠ []) (found : ∀ c ∈ conditions, (t.field? c).isSome = true)
    (set : setFields t conditions ≠ []) :
    Storing (.update t conditions) ((setFields t conditions).map FieldDescriptor.cell ++
      (conditions.filterMap t.field?).map FieldDescriptor.cell)
  | delete {t : TableDescriptor} (table : Text.trim t.table ≠ "") (fields : t.fields ≠ []) :
    Storing (.delete t) (t.fields.map FieldDescriptor.cell)

variable {d : Dialect} {a : Assembly} {cells : List (String × SqlValue)}

theorem Storing.stores (h : a.Storing cells) (d : Dialect) :
    ∃ sql, Stores cells (a.statement d) (d.finish sql (cells.map Prod.snd)) := by
  cases h with
  | @insert t table fields =>
    have htable : (Text.trim t.table).isEmpty = false := by simpa using table
    have hfields : t.isEmpty = false :=
      Bool.eq_false_iff.mpr (mt TableDescriptor.isEmpty_iff.mp fields)
    have hstores := (Stores.mapM stores_stored t.fields).map fun params => d.finish
      ("INSERT INTO " ++ t.table ++ " (" ++ listed t.columns ++ ") VALUES " ++
        rowPlaceholders params.length) params
    rw [statement, insert_eq, htable, hfields, List.map_map]
    exact ⟨_, hstores⟩
  | @insertBatch first rest table fields columns =>
    have htable : (Text.trim first.table).isEmpty = false := by simpa using table
    have hfields : first.isEmpty = false :=
      Bool.eq_false_iff.mpr (mt TableDescriptor.isEmpty_iff.mp fields)
    rw [statement, insertBatch_cons, htable, hfields]
    exact ⟨_, (stores_batchRows columns 0).map _⟩
  | @update t conditions table addressed found set =>
    have htable : (Text.trim t.table).isEmpty = false := by simpa using table
    have hconditions : conditions.isEmpty = false := by simpa using addressed
    have hpassed : ¬((setFields t conditions).map FieldDescriptor.cell).isEmpty = true := by
      simpa using set
    rw [statement, update_eq, htable, hconditions, List.map_append]
    refine ⟨_, ((stores_mapM_conditionCell found).bind
      ((Stores.mapM stores_fieldCell (setFields t conditions)).bind
        (.passed hpassed))).of_mem_iff fun cell => ?_⟩
    rw [List.append_nil, List.mem_append, List.mem_append, or_comm]
  | @delete t table fields =>
    have htable : (Text.trim t.table).isEmpty = false := by simpa using table
    have hfields : t.isEmpty = false :=
      Bool.eq_false_iff.mpr (mt TableDescriptor.isEmpty_iff.mp fields)
    rw [statement, delete_eq, htable, hfields]
    exact ⟨_, (Stores.mapM stores_fieldCell t.fields).map _⟩

/-- What is made had nothing but its values in its way. -/
theorem exists_storing {st : Statement} (ha : a.checksValues = true) (h : a.statement d = .ok st) :
    ∃ cells, a.Storing cells := by
  cases a with
  | insert t =>
    rw [statement, insert_eq] at h
    obtain ⟨htable, h⟩ := eq_ok_of_ite h
    obtain ⟨hfields, -⟩ := eq_ok_of_ite h
    have hne : t.fields ≠ [] := mt TableDescriptor.isEmpty_iff.mpr hfields
    exact ⟨_, .insert (by simpa using htable) hne⟩
  | insertBatch ts =>
    cases ts with
    | nil => cases h
    | cons first rest =>
      rw [statement, insertBatch_cons] at h
      obtain ⟨htable, h⟩ := eq_ok_of_ite h
      obtain ⟨hfields, h⟩ := eq_ok_of_ite h
      obtain ⟨params, hrows, -⟩ := exists_of_map_eq_ok h
      have hne : first.fields ≠ [] := mt TableDescriptor.isEmpty_iff.mpr hfields
      exact ⟨_, .insertBatch (by simpa using htable) hne (batchRows_eq_ok hrows).2⟩
  | update t conditions =>
    rw [statement, update_eq] at h
    obtain ⟨htable, h⟩ := eq_ok_of_ite h
    obtain ⟨hconditions, h⟩ := eq_ok_of_ite h
    obtain ⟨addressed, haddressed, h⟩ := exists_of_bind_eq_ok h
    obtain ⟨set, hset, h⟩ := exists_of_bind_eq_ok h
    obtain ⟨hnonempty, -⟩ := eq_ok_of_ite h
    have hfound (column : String) (hc : column ∈ conditions) : (t.field? column).isSome = true := by
      obtain ⟨cell, -, hcell⟩ := exists_mem_of_mapM_eq_ok haddressed hc
      rw [conditionCell] at hcell
      cases hf : t.field? column with
      | none => simp [hf] at hcell
      | some f => rfl
    have hsetFields : setFields t conditions ≠ [] := by
      intro hnil
      rw [setFields] at hnil
      rw [hnil] at hset
      obtain rfl : [] = set := Except.ok.inj hset
      exact hnonempty rfl
    exact ⟨_, .update (by simpa using htable) (by simpa using hconditions) hfound hsetFields⟩
  | delete t =>
    rw [statement, delete_eq] at h
    obtain ⟨htable, h⟩ := eq_ok_of_ite h
    obtain ⟨hfields, -⟩ := eq_ok_of_ite h
    have hne : t.fields ≠ [] := mt TableDescriptor.isEmpty_iff.mpr hfields
    exact ⟨_, .delete (by simpa using htable) hne⟩
  | _ => simp [checksValues] at ha

theorem Storing.exists_statement_iff (h : a.Storing cells) (d : Dialect) :
    (∃ st, a.statement d = .ok st) ↔ ∀ cell ∈ cells, cell.2.isScalar = true := by
  obtain ⟨sql, hstores⟩ := h.stores d
  refine ⟨?_, fun hscalar => ⟨_, hstores.ok hscalar⟩⟩
  rintro ⟨st, hst⟩
  refine (Stores.scalar_or cells).resolve_right fun hbad => ?_
  obtain ⟨cell, -, -, he⟩ := hstores.error hbad
  cases he.symm.trans hst

/-- A write that looks at its values is made if and only if neither they nor anything else are in
its way. -/
theorem exists_statement_iff (ha : a.checksValues = true) (d : Dialect) :
    (∃ st, a.statement d = .ok st) ↔
      ∃ cells, a.Storing cells ∧ ∀ cell ∈ cells, cell.2.isScalar = true := by
  constructor
  · rintro ⟨st, hst⟩
    obtain ⟨cells, hstoring⟩ := exists_storing ha hst
    exact ⟨cells, hstoring, (hstoring.exists_statement_iff d).mp ⟨st, hst⟩⟩
  · rintro ⟨cells, hstoring, hscalar⟩
    exact (hstoring.exists_statement_iff d).mpr hscalar

/-- All that a write that looks at its values binds are single values. -/
theorem scalar_of_statement {st : Statement} (ha : a.checksValues = true)
    (h : a.statement d = .ok st) : ∀ v ∈ st.params, v.isScalar = true := by
  obtain ⟨cells, hstoring⟩ := exists_storing ha h
  obtain ⟨sql, hstores⟩ := hstoring.stores d
  obtain hscalar | hbad := Stores.scalar_or cells
  · obtain rfl := Except.ok.inj ((hstores.ok hscalar).symm.trans h)
    exact List.forall_mem_map.mpr hscalar
  · obtain ⟨cell, -, -, he⟩ := hstores.error hbad
    cases he.symm.trans h

end Assembly

end SqlMapper
