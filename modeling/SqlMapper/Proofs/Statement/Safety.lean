import SqlMapper.Proofs.Outcome
import SqlMapper.Proofs.Statement.Assembly

/-! What the assemblers of writes make: insertions, and updates and deletions that always have
a condition, each condition with a parameter of its own. Where they make nothing, their error
tells why. -/

namespace SqlMapper

theorem TableDescriptor.isEmpty_iff {t : TableDescriptor} : t.isEmpty = true ↔ t.fields = [] :=
  List.isEmpty_iff

/-- Whether the error tells that there was nothing to hand over. -/
def MapperError.isRefusal : MapperError → Bool
  | .missingCondition _ => true
  | .missingIdent _ => true
  | .missingTable => true
  | .emptyData => true
  | .invalidField _ => true
  | .data _ => true
  | .execute .. => false
  | .config _ => false

def Refuses (x : Except MapperError α) : Prop :=
  ∀ e, x = .error e → e.isRefusal = true

namespace Refuses

theorem ok (a : α) : Refuses (.ok a) := by
  intro e h
  simp at h

theorem error {e : MapperError} (h : e.isRefusal = true) : Refuses (.error e : Except _ α) := by
  intro e' h'
  obtain rfl := Except.error.inj h'
  exact h

theorem ite {p : Prop} [Decidable p] {x y : Except MapperError α} (hx : Refuses x)
    (hy : Refuses y) : Refuses (if p then x else y) := by
  split
  · exact hx
  · exact hy

theorem bind {x : Except MapperError α} {f : α → Except MapperError β} (hx : Refuses x)
    (hf : ∀ a, Refuses (f a)) : Refuses (x.bind f) := by
  cases x with
  | error e => exact error (hx e rfl)
  | ok a => exact hf a

theorem map {x : Except MapperError α} (hx : Refuses x) (f : α → β) : Refuses (x.map f) := by
  cases x with
  | error e => exact error (hx e rfl)
  | ok a => exact ok (f a)

theorem mapM {f : α → Except MapperError β} (hf : ∀ a, Refuses (f a)) (as : List α) :
    Refuses (as.mapM f) := by
  intro e h
  obtain ⟨a, -, ha⟩ := exists_of_mapM_eq_error h
  exact hf a e ha

end Refuses

def Statement.IsInsertion (table : String) (st : Statement) : Prop :=
  ∃ rest, st.sql = "INSERT INTO " ++ table ++ rest

def conjuncts (cells : List (String × SqlValue)) : String :=
  String.join (cells.map fun c => " AND " ++ c.1 ++ " = ?")

/-- The update that sets cells where rows agree with others. -/
def updating (table : String) (set addressed : List (String × SqlValue)) : Statement :=
  ⟨"UPDATE " ++ table ++ " SET " ++ ", ".intercalate (set.map fun c => c.1 ++ " = ?") ++
    " WHERE 1=1" ++ conjuncts addressed, set.map Prod.snd ++ addressed.map Prod.snd⟩

/-- An update of the rows that have a given value in each of the named columns. -/
def Statement.IsUpdate (table : String) (conditions : List String) (st : Statement) : Prop :=
  conditions ≠ [] ∧ ∃ set addressed : List (String × SqlValue),
    set ≠ [] ∧ addressed.map Prod.fst = conditions ∧
      st.sql = "UPDATE " ++ table ++ " SET " ++ ", ".intercalate (set.map fun c => c.1 ++ " = ?") ++
        " WHERE 1=1" ++ conjuncts addressed ∧
      st.params = set.map Prod.snd ++ addressed.map Prod.snd

def Statement.IsDeletion (table : String) (st : Statement) : Prop :=
  ∃ cells : List (String × SqlValue), cells ≠ [] ∧
    st.sql = "DELETE FROM " ++ table ++ " WHERE 1=1" ++ conjuncts cells ∧
    st.params = cells.map Prod.snd

def Statement.IsDeletionByIds (table primaryKey : String) (ids : List SqlValue) (st : Statement) :
    Prop :=
  ids ≠ [] ∧
    st.sql = "DELETE FROM " ++ table ++ " WHERE " ++ primaryKey ++ " in (" ++
      ", ".intercalate (ids.map fun _ => "?") ++ ")" ∧
    st.params = ids

def FieldDescriptor.cell (f : FieldDescriptor) : String × SqlValue :=
  (f.column, f.value)

namespace Dialect

theorem refuses_stored (f : FieldDescriptor) : Refuses (stored f) :=
  .ite (.ok _) (.error rfl)

theorem refuses_fieldCell (f : FieldDescriptor) : Refuses (fieldCell f) :=
  (refuses_stored f).map _

theorem refuses_conditionCell (t : TableDescriptor) (column : String) :
    Refuses (conditionCell t column) := by
  rw [conditionCell]
  cases t.field? column with
  | none => exact .error rfl
  | some f => exact (refuses_stored f).map _

theorem refuses_insert (d : Dialect) (t : TableDescriptor) : Refuses (d.insert t) := by
  rw [insert_eq]
  exact .ite (.error rfl) (.ite (.error rfl) ((Refuses.mapM refuses_stored _).map _))

theorem refuses_batchRows (columns : List String) (index : Nat) (ts : List TableDescriptor) :
    Refuses (batchRows columns index ts) := by
  induction ts generalizing index with
  | nil => exact .ok []
  | cons t ts ih =>
    have hrow : Refuses (batchRow columns index t) :=
      .ite (.mapM refuses_stored t.fields) (.error rfl)
    rw [batchRows_cons]
    exact hrow.bind fun row => (ih (index + 1)).map _

theorem refuses_insertBatch (d : Dialect) (ts : List TableDescriptor) :
    Refuses (d.insertBatch ts) := by
  cases ts with
  | nil => exact .error rfl
  | cons first rest =>
    rw [insertBatch_cons]
    exact .ite (.error rfl) (.ite (.error rfl) ((refuses_batchRows _ _ _).map _))

theorem refuses_update (d : Dialect) (t : TableDescriptor) (conditions : List String) :
    Refuses (d.update t conditions) := by
  rw [update_eq]
  exact .ite (.error rfl) (.ite (.error rfl)
    ((Refuses.mapM (refuses_conditionCell t) conditions).bind fun addressed =>
      (Refuses.mapM refuses_fieldCell _).bind fun set => .ite (.error rfl) (.ok _)))

theorem refuses_delete (d : Dialect) (t : TableDescriptor) : Refuses (d.delete t) := by
  rw [delete_eq]
  exact .ite (.error rfl) (.ite (.error rfl) ((Refuses.mapM refuses_fieldCell _).map _))

theorem refuses_deleteByIds (d : Dialect) (table primaryKey : String) (ids : List SqlValue) :
    Refuses (d.deleteByIds table primaryKey ids) := by
  rw [deleteByIds_eq]
  exact .ite (.error rfl) (.ite (.error rfl) (.ok _))

theorem value_of_stored {f : FieldDescriptor} {v : SqlValue} (h : stored f = .ok v) :
    v = f.value := by
  rw [stored] at h
  split at h
  · exact (Except.ok.inj h).symm
  · simp at h

theorem cell_of_fieldCell {f : FieldDescriptor} {cell : String × SqlValue}
    (h : fieldCell f = .ok cell) : cell = f.cell := by
  obtain ⟨v, hv, rfl⟩ := exists_of_map_eq_ok h
  rw [value_of_stored hv]
  rfl

theorem isInsertion_of_insert {t : TableDescriptor} {st : Statement}
    (h : mysql.insert t = .ok st) : st.IsInsertion t.table := by
  rw [insert_eq] at h
  obtain ⟨params, -, rfl⟩ := exists_of_map_eq_ok (eq_ok_of_ite (eq_ok_of_ite h).2).2
  exact ⟨" (" ++ (listed t.columns ++ (") VALUES " ++ rowPlaceholders params.length)),
    by simp [finish, mysql, String.append_assoc]⟩

theorem isInsertion_of_insertBatch {ts : List TableDescriptor} {table : String} {st : Statement}
    (ht : ∀ t ∈ ts, t.table = table) (h : mysql.insertBatch ts = .ok st) :
    st.IsInsertion table := by
  cases ts with
  | nil => simp [insertBatch] at h
  | cons first rest =>
    rw [insertBatch_cons] at h
    obtain ⟨params, -, rfl⟩ := exists_of_map_eq_ok (eq_ok_of_ite (eq_ok_of_ite h).2).2
    rw [← ht first List.mem_cons_self]
    exact ⟨" (" ++ (listed first.columns ++ (") VALUES " ++
      listed ((first :: rest).map fun _ => rowPlaceholders first.columns.length))),
      by simp [finish, mysql, String.append_assoc]⟩

theorem column_of_conditionCell {t : TableDescriptor} {column : String}
    {cell : String × SqlValue} (h : conditionCell t column = .ok cell) : column = cell.1 := by
  unfold conditionCell at h
  cases hf : t.field? column with
  | none => simp [hf] at h
  | some f =>
    rw [hf] at h
    obtain ⟨v, -, rfl⟩ := exists_of_map_eq_ok h
    have hc := List.find?_some hf
    exact (by simpa using hc : f.column = column).symm

theorem columns_of_mapM_conditionCell {t : TableDescriptor} {conditions : List String}
    {cells : List (String × SqlValue)} (h : conditions.mapM (conditionCell t) = .ok cells) :
    cells.map Prod.fst = conditions := by
  have hm : conditions.mapM (fun column => (conditionCell t column).map Prod.fst) =
      (conditions.mapM (conditionCell t)).map (List.map Prod.fst) :=
    mapM_eq_map_mapM (fun _ => rfl) conditions
  rw [h] at hm
  have hh := eq_map_of_mapM_eq_ok (fun column name hn => by
    obtain ⟨cell, hcell, rfl⟩ := exists_of_map_eq_ok hn
    exact (column_of_conditionCell hcell).symm) hm
  simpa using hh

theorem space_intercalate {cells : List (String × SqlValue)} (h : cells ≠ []) :
    " " ++ " ".intercalate (cells.map fun c => "AND " ++ equation c.1) = conjuncts cells := by
  induction cells with
  | nil => exact absurd rfl h
  | cons c cs ih =>
    have hc : " AND " ++ c.1 ++ " = ?" = " " ++ ("AND " ++ equation c.1) := by
      simp [equation, ← String.append_assoc]
    rw [conjuncts, List.map_cons, List.map_cons, String.join_cons, hc]
    by_cases hcs : cs = []
    · simp [hcs]
    · have hh := ih hcs
      rw [conjuncts] at hh
      rw [← hh]
      obtain ⟨d, ds, rfl⟩ := List.exists_cons_of_ne_nil hcs
      simp only [List.map_cons, String.intercalate_cons_cons, String.append_assoc]

theorem eq_updating_of_update {t : TableDescriptor} {conditions : List String} {st : Statement}
    (h : mysql.update t conditions = .ok st) :
    ∃ set addressed, set ≠ [] ∧ conditions.mapM (conditionCell t) = .ok addressed ∧
      st = updating t.table set addressed ∧ conditions ≠ [] ∧
      (t.fields.filter fun f => !conditions.contains f.column).mapM fieldCell = .ok set := by
  rw [update_eq] at h
  obtain ⟨hc, h⟩ := eq_ok_of_ite (eq_ok_of_ite h).2
  obtain ⟨addressed, ha, h⟩ := exists_of_bind_eq_ok h
  obtain ⟨set, hset, h⟩ := exists_of_bind_eq_ok h
  obtain ⟨hs, h⟩ := eq_ok_of_ite h
  have hc' : conditions ≠ [] := by simpa using hc
  have ha' : addressed ≠ [] := by
    rintro rfl
    exact hc' (columns_of_mapM_conditionCell ha).symm
  obtain rfl := Except.ok.inj h
  refine ⟨set, addressed, by simpa using hs, ha, ?_, hc', hset⟩
  have hw : " WHERE 1=1 " = " WHERE 1=1" ++ " " := rfl
  rw [updating, ← space_intercalate ha']
  simp only [finish, mysql, id_eq, listed, hw, String.append_assoc]
  rfl

theorem isUpdate_of_update {t : TableDescriptor} {conditions : List String} {st : Statement}
    (h : mysql.update t conditions = .ok st) : st.IsUpdate t.table conditions := by
  obtain ⟨set, addressed, hs, ha, rfl, hc, -⟩ := eq_updating_of_update h
  exact ⟨hc, set, addressed, hs, columns_of_mapM_conditionCell ha, rfl, rfl⟩

theorem isDeletion_of_delete {t : TableDescriptor} {st : Statement}
    (h : mysql.delete t = .ok st) : st.IsDeletion t.table := by
  rw [delete_eq] at h
  obtain ⟨he, h⟩ := eq_ok_of_ite (eq_ok_of_ite h).2
  obtain ⟨cells, hcells, rfl⟩ := exists_of_map_eq_ok h
  have hm := eq_map_of_mapM_eq_ok (fun f cell hf => cell_of_fieldCell hf) hcells
  refine ⟨cells, ?_, ?_, rfl⟩
  · intro hn
    rw [hn] at hm
    exact he (TableDescriptor.isEmpty_iff.mpr (List.map_eq_nil_iff.mp hm.symm))
  · simp only [finish, mysql, id_eq, conjuncts, equation, String.append_assoc]

theorem isDeletionByIds_of_deleteByIds {table primaryKey : String} {ids : List SqlValue}
    {st : Statement} (h : mysql.deleteByIds table primaryKey ids = .ok st) :
    st.IsDeletionByIds table primaryKey ids := by
  rw [deleteByIds_eq] at h
  obtain ⟨he, h⟩ := eq_ok_of_ite (eq_ok_of_ite h).2
  obtain rfl := Except.ok.inj h
  refine ⟨by simpa using he, ?_, rfl⟩
  have hp : List.replicate ids.length "?" = ids.map fun _ => "?" := List.map_const'.symm
  simp only [finish, mysql, id_eq, rowPlaceholders, placeholders, hp, String.append_assoc]
  rfl

end Dialect

end SqlMapper
