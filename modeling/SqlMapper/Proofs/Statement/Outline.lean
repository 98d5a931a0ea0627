import SqlMapper.Proofs.Outcome
import SqlMapper.Proofs.Select.Outline
import SqlMapper.Proofs.Statement.Assembly

/-! Statements assembled from outlines of values are the outlines of those assembled from the
values themselves, so no value has a part in the text of a statement. -/

namespace SqlMapper

def Statement.outline (st : Statement) : Statement :=
  { st with params := st.params.map SqlValue.outline }

namespace TableDescriptor

theorem table_outline (t : TableDescriptor) : t.outline.table = t.table := rfl

theorem columns_outline (t : TableDescriptor) : t.outline.columns = t.columns := by
  simp [columns, outline, FieldDescriptor.outline]

theorem isEmpty_outline (t : TableDescriptor) : t.outline.isEmpty = t.isEmpty := by
  simp [isEmpty, outline]

theorem field?_outline (t : TableDescriptor) (column : String) :
    t.outline.field? column = (t.field? column).map FieldDescriptor.outline := by
  simp only [field?, outline, List.find?_map]
  rfl

end TableDescriptor

namespace Dialect

def cellOutline (cell : String × SqlValue) : String × SqlValue :=
  (cell.1, cell.2.outline)

theorem stored_outline (f : FieldDescriptor) :
    stored f.outline = (stored f).map SqlValue.outline := by
  by_cases h : f.value.isScalar = true <;> simp [stored, FieldDescriptor.outline, h, Except.map]

theorem fieldCell_outline (f : FieldDescriptor) :
    fieldCell f.outline = (fieldCell f).map cellOutline := by
  rw [fieldCell, stored_outline, fieldCell]
  cases stored f <;> rfl

theorem conditionCell_outline (t : TableDescriptor) (column : String) :
    conditionCell t.outline column = (conditionCell t column).map cellOutline := by
  rw [conditionCell, TableDescriptor.field?_outline, conditionCell]
  cases t.field? column with
  | none => rfl
  | some f => exact fieldCell_outline f

theorem finish_outline (d : Dialect) (sql : String) (params : List SqlValue) :
    d.finish sql (params.map SqlValue.outline) = (d.finish sql params).outline := rfl

theorem mapM_stored_outline (fields : List FieldDescriptor) :
    (fields.map FieldDescriptor.outline).mapM stored =
      (fields.mapM stored).map (List.map SqlValue.outline) := by
  rw [List.mapM_map]
  exact mapM_eq_map_mapM stored_outline fields

theorem mapM_fieldCell_outline (fields : List FieldDescriptor) :
    (fields.map FieldDescriptor.outline).mapM fieldCell =
      (fields.mapM fieldCell).map (List.map cellOutline) := by
  rw [List.mapM_map]
  exact mapM_eq_map_mapM fieldCell_outline fields

theorem mapM_conditionCell_outline (t : TableDescriptor) (conditions : List String) :
    conditions.mapM (conditionCell t.outline) =
      (conditions.mapM (conditionCell t)).map (List.map cellOutline) :=
  mapM_eq_map_mapM (conditionCell_outline t) conditions

theorem values_cellOutline (cells : List (String × SqlValue)) :
    (cells.map cellOutline).map Prod.snd = (cells.map Prod.snd).map SqlValue.outline := by
  rw [List.map_map, List.map_map]
  rfl

theorem texts_cellOutline (text : String → String) (cells : List (String × SqlValue)) :
    ((cells.map cellOutline).map fun c => text c.1) = cells.map fun c => text c.1 := by
  rw [List.map_map]
  rfl

theorem insert_outline (d : Dialect) (t : TableDescriptor) :
    d.insert t.outline = (d.insert t).map Statement.outline := by
  rw [insert_eq, insert_eq, map_ite_error, map_ite_error, TableDescriptor.table_outline,
    TableDescriptor.isEmpty_outline, TableDescriptor.columns_outline, TableDescriptor.outline,
    mapM_stored_outline]
  cases t.fields.mapM stored with
  | error e => rfl
  | ok params => simp only [Except.map, List.length_map, finish_outline]

theorem batchRow_outline (columns : List String) (index : Nat) (t : TableDescriptor) :
    batchRow columns index t.outline =
      (batchRow columns index t).map (List.map SqlValue.outline) := by
  rw [batchRow, batchRow, TableDescriptor.columns_outline]
  split
  · exact mapM_stored_outline t.fields
  · rfl

theorem batchRows_outline (columns : List String) (index : Nat) (ts : List TableDescriptor) :
    batchRows columns index (ts.map TableDescriptor.outline) =
      (batchRows columns index ts).map (List.map SqlValue.outline) := by
  induction ts generalizing index with
  | nil => rfl
  | cons t ts ih =>
    rw [List.map_cons, batchRows_cons, batchRow_outline, ih, batchRows_cons]
    cases batchRow columns index t with
    | error e => rfl
    | ok row => cases batchRows columns (index + 1) ts <;> simp [Except.map, Except.bind]

theorem insertBatch_outline (d : Dialect) (ts : List TableDescriptor) :
    d.insertBatch (ts.map TableDescriptor.outline) = (d.insertBatch ts).map Statement.outline := by
  cases ts with
  | nil => rfl
  | cons first rest =>
    have hrows := batchRows_outline first.columns 0 (first :: rest)
    rw [List.map_cons] at hrows ⊢
    rw [insertBatch_cons, insertBatch_cons, map_ite_error, map_ite_error,
      TableDescriptor.table_outline, TableDescriptor.isEmpty_outline,
      TableDescriptor.columns_outline, hrows, ← List.map_cons, List.map_map]
    cases batchRows first.columns 0 (first :: rest) <;> rfl

theorem update_outline (d : Dialect) (t : TableDescriptor) (conditions : List String) :
    d.update t.outline conditions = (d.update t conditions).map Statement.outline := by
  have hset : t.outline.fields.filter (fun f => !conditions.contains f.column) =
      (t.fields.filter fun f => !conditions.contains f.column).map FieldDescriptor.outline := by
    simp only [TableDescriptor.outline, List.filter_map]
    rfl
  rw [update_eq, update_eq, map_ite_error, map_ite_error, TableDescriptor.table_outline,
    mapM_conditionCell_outline, hset, mapM_fieldCell_outline]
  cases conditions.mapM (conditionCell t) with
  | error e => rfl
  | ok addressed =>
    cases (t.fields.filter fun f => !conditions.contains f.column).mapM fieldCell with
    | error e => rfl
    | ok set =>
      simp only [map_ok, bind_ok, List.isEmpty_map, map_ite_error]
      rw [texts_cellOutline equation, texts_cellOutline fun column => "AND " ++ equation column,
        values_cellOutline, values_cellOutline, ← List.map_append, finish_outline]

theorem delete_outline (d : Dialect) (t : TableDescriptor) :
    d.delete t.outline = (d.delete t).map Statement.outline := by
  rw [delete_eq, delete_eq, map_ite_error, map_ite_error, TableDescriptor.table_outline,
    TableDescriptor.isEmpty_outline, TableDescriptor.outline, mapM_fieldCell_outline]
  cases t.fields.mapM fieldCell with
  | error e => rfl
  | ok cells =>
    simp only [map_ok]
    rw [texts_cellOutline fun column => " AND " ++ equation column, values_cellOutline,
      finish_outline]

theorem deleteByIds_outline (d : Dialect) (table primaryKey : String) (ids : List SqlValue) :
    d.deleteByIds table primaryKey (ids.map SqlValue.outline) =
      (d.deleteByIds table primaryKey ids).map Statement.outline := by
  rw [deleteByIds_eq, deleteByIds_eq, map_ite_error, map_ite_error, List.isEmpty_map,
    List.length_map]
  rfl

theorem matching_outline (d : Dialect) (base : String) (t : TableDescriptor) :
    d.matching base t.outline = (d.matching base t).map Statement.outline := by
  have hs : (Select.ofBase base).apply t.outline = ((Select.ofBase base).apply t).outline := by
    rw [← Select.apply_outline, Select.ofBase_outline]
  rw [matching, matching, hs]
  cases he : ((Select.ofBase base).apply t).errors with
  | nil => simp [Select.tryBuild, Select.outline, he, Select.build, Except.map, finish_outline]
  | cons e es => simp [Select.tryBuild, Select.outline, he, Except.map]

theorem select_outline (d : Dialect) (t : TableDescriptor) (columns : List String) :
    d.select t.outline columns = (d.select t columns).map Statement.outline := by
  rw [select_eq, select_eq, map_ite_error, TableDescriptor.table_outline, matching_outline]

theorem count_outline (d : Dialect) (t : TableDescriptor) :
    d.count t.outline = (d.count t).map Statement.outline := by
  rw [count_eq, count_eq, map_ite_error, TableDescriptor.table_outline, matching_outline]

theorem outline_signedWord? {n : UInt64} {v : SqlValue} (h : signedWord? n = some v) :
    v.outline = .bigint 0 := by
  unfold signedWord? at h
  split at h
  · obtain rfl := Option.some.inj h
    rfl
  · simp at h

theorem outline_pageParams {p : PageRequest} {params : List SqlValue}
    (h : pageParams p = .ok params) : params.map SqlValue.outline = [.bigint 0, .bigint 0] := by
  unfold pageParams at h
  split at h
  · rename_i size offset hsize hoffset
    obtain ⟨word, -, hword⟩ := Option.bind_eq_some_iff.mp hoffset
    obtain rfl := Except.ok.inj h
    simp [outline_signedWord? hsize, outline_signedWord? hword]
  · simp at h

end Dialect

/-- Number and size are left out of a page request; they are bound. -/
def PageRequest.outline (p : PageRequest) : PageRequest :=
  ⟨0, 0, p.orders⟩

theorem Dialect.page_outline {d : Dialect} {sql : String} {p : PageRequest} {st : Statement}
    (h : d.page sql p = .ok st) : d.page sql p.outline = .ok st.outline := by
  have hz : pageParams p.outline = .ok [.bigint 0, .bigint 0] := rfl
  rw [page_eq] at h
  rw [page_eq, hz, PageRequest.outline]
  cases ho : orderBy p.orders with
  | error e => simp [ho, Except.bind] at h
  | ok order =>
    cases hp : pageParams p with
    | error e => simp [ho, hp, Except.bind, Except.map] at h
    | ok params =>
      simp only [ho, hp, bind_ok, map_ok] at h ⊢
      rw [← Except.ok.inj h, ← outline_pageParams hp, finish_outline]

inductive Assembly where
  | insert (t : TableDescriptor)
  | insertBatch (ts : List TableDescriptor)
  | update (t : TableDescriptor) (conditions : List String)
  | delete (t : TableDescriptor)
  | deleteByIds (table primaryKey : String) (ids : List SqlValue)
  | select (t : TableDescriptor) (columns : List String)
  | count (t : TableDescriptor)
  | page (sql : String) (p : PageRequest)

namespace Assembly

def statement (d : Dialect) : Assembly → Except MapperError Statement
  | .insert t => d.insert t
  | .insertBatch ts => d.insertBatch ts
  | .update t conditions => d.update t conditions
  | .delete t => d.delete t
  | .deleteByIds table primaryKey ids => d.deleteByIds table primaryKey ids
  | .select t columns => d.select t columns
  | .count t => d.count t
  | .page sql p => d.page sql p

def outline : Assembly → Assembly
  | .insert t => .insert t.outline
  | .insertBatch ts => .insertBatch (ts.map TableDescriptor.outline)
  | .update t conditions => .update t.outline conditions
  | .delete t => .delete t.outline
  | .deleteByIds table primaryKey ids =>
    .deleteByIds table primaryKey (ids.map SqlValue.outline)
  | .select t columns => .select t.outline columns
  | .count t => .count t.outline
  | .page sql p => .page sql p.outline

theorem statement_outline {d : Dialect} {a : Assembly} {st : Statement}
    (h : a.statement d = .ok st) : a.outline.statement d = .ok st.outline := by
  cases a with
  | insert t => exact (d.insert_outline t).trans (congrArg _ h)
  | insertBatch ts => exact (d.insertBatch_outline ts).trans (congrArg _ h)
  | update t conditions => exact (d.update_outline t conditions).trans (congrArg _ h)
  | delete t => exact (d.delete_outline t).trans (congrArg _ h)
  | deleteByIds table primaryKey ids =>
    exact (d.deleteByIds_outline table primaryKey ids).trans (congrArg _ h)
  | select t columns => exact (d.select_outline t columns).trans (congrArg _ h)
  | count t => exact (d.count_outline t).trans (congrArg _ h)
  | page sql p => exact Dialect.page_outline h

theorem outline_eq_of_statement {d : Dialect} {a b : Assembly} (hab : a.outline = b.outline)
    {st st' : Statement} (ha : a.statement d = .ok st) (hb : b.statement d = .ok st') :
    st.outline = st'.outline := by
  have hh := statement_outline ha
  rw [hab, statement_outline hb] at hh
  exact (Except.ok.inj hh).symm

end Assembly

end SqlMapper
