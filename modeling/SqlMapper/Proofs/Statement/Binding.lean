import SqlMapper.Proofs.Condition.Shape
import SqlMapper.Proofs.Select.Applied
import SqlMapper.Proofs.Select.Placeholders
import SqlMapper.Proofs.Statement.Outline
import SqlMapper.Proofs.Statement.Page
import SqlMapper.Proofs.Statement.Safety
import SqlMapper.Proofs.Text.QuestionMark

/-! What the question marks of a statement stand for. Every statement reads as text with the values
of its fields in place, and other dialects change nothing but how its question marks are written. -/

namespace SqlMapper

open Text (Reads Unmarked bindMarks)

abbrev Reading := List (Char ⊕ SqlValue)

namespace Reading

def commas (rs : List Reading) : Reading :=
  (plain ", ").intercalate rs

/-- One row of values. -/
def row (values : List SqlValue) : Reading :=
  plain "(" ++ commas (values.map fun v => [.inr v]) ++ plain ")"

def equation (cell : String × SqlValue) : Reading :=
  plain (cell.1 ++ " = ") ++ [.inr cell.2]

def conjuncts (cells : List (String × SqlValue)) : Reading :=
  cells.flatMap fun c => plain " AND " ++ equation c

/-- The conditions of fields on the columns they are compared with; an operator may take several
values. -/
def conditions (fields : List FieldDescriptor) : Reading :=
  (Select.rendered fields).flatMap fun f => plain " and " ++ bindMarks f.body.toList f.values

end Reading

theorem reads_plain {s : String} (h : Unmarked s) : Reads s [] (plain s) :=
  Reads.of_unmarked h

theorem unmarked_listed {columns : List String} (h : ∀ c ∈ columns, Unmarked c) :
    Unmarked (Dialect.listed columns) :=
  Text.Unmarked.intercalate (by decide) h

namespace Dialect

theorem cells_of_mapM_conditionCell {t : TableDescriptor} {conditions : List String}
    {cells : List (String × SqlValue)} (h : conditions.mapM (conditionCell t) = .ok cells) :
    cells = (conditions.filterMap t.field?).map FieldDescriptor.cell := by
  induction conditions generalizing cells with
  | nil => exact (Except.ok.inj h).symm
  | cons column rest ih =>
    rw [List.mapM_cons] at h
    obtain ⟨cell, hcell, h⟩ := exists_of_bind_eq_ok h
    obtain ⟨more, hmore, h⟩ := exists_of_bind_eq_ok h
    obtain rfl : cell :: more = cells := Except.ok.inj h
    unfold conditionCell at hcell
    cases hf : t.field? column with
    | none => simp [hf] at hcell
    | some f =>
      rw [hf] at hcell
      rw [List.filterMap_cons_some hf, List.map_cons, ← ih hmore]
      exact congrArg (· :: more) (cell_of_fieldCell hcell)

theorem batchRows_eq_ok {columns : List String} {index : Nat} {ts : List TableDescriptor}
    {params : List SqlValue} (h : batchRows columns index ts = .ok params) :
    params = ts.flatMap (fun t => t.fields.map fun f => f.value) ∧
      ∀ t ∈ ts, t.columns = columns := by
  induction ts generalizing index params with
  | nil => exact ⟨(Except.ok.inj h).symm, by simp⟩
  | cons t ts ih =>
    rw [batchRows_cons] at h
    obtain ⟨row, hrow, h⟩ := exists_of_bind_eq_ok h
    obtain ⟨rows, hrows, rfl⟩ := exists_of_map_eq_ok h
    obtain ⟨hvalues, hcolumns⟩ := ih hrows
    unfold batchRow at hrow
    split at hrow
    · have hfirst := eq_map_of_mapM_eq_ok (fun f v hv => value_of_stored hv) hrow
      refine ⟨by rw [hfirst, hvalues, List.flatMap_cons], ?_⟩
      intro u hu
      rcases List.mem_cons.mp hu with rfl | hu
      · assumption
      · exact hcolumns u hu
    · simp at hrow

theorem unmarked_cells {fields : List FieldDescriptor} (h : ∀ f ∈ fields, Unmarked f.column) :
    ∀ c ∈ fields.map FieldDescriptor.cell, Unmarked c.1 :=
  List.forall_mem_map.mpr h

theorem unmarked_insertion {t : TableDescriptor} (ht : Unmarked t.table)
    (hf : ∀ f ∈ t.fields, Unmarked f.column) :
    Unmarked ("INSERT INTO " ++ t.table ++ " (" ++ listed t.columns ++ ") VALUES ") :=
  .append (.append (.append (.append (by decide) ht) (by decide))
    (unmarked_listed (List.forall_mem_map.mpr hf))) (by decide)

theorem reads_rowPlaceholders (values : List SqlValue) :
    Reads (rowPlaceholders values.length) values (Reading.row values) := by
  have hopen : Unmarked "(" := by decide
  have hclose : Unmarked ")" := by decide
  have hcomma : Unmarked ", " := by decide
  have hh := ((reads_plain hopen).append (reads_placeholders hcomma values)).append
    (reads_plain hclose)
  rwa [List.append_nil] at hh

theorem reads_equation {cell : String × SqlValue} (hc : Unmarked cell.1) :
    Reads (equation cell.1) [cell.2] (Reading.equation cell) := by
  have hh := (reads_plain (hc.append (t := " = ") (by decide))).append (Reads.mark cell.2)
  have htext : equation cell.1 = cell.1 ++ " = " ++ "?" := by
    rw [equation, String.append_assoc]
    rfl
  rw [htext]
  exact hh

theorem reads_assignments {cells : List (String × SqlValue)} (hc : ∀ c ∈ cells, Unmarked c.1) :
    Reads (listed (cells.map fun c => equation c.1)) (cells.map Prod.snd)
      (Reading.commas (cells.map Reading.equation)) := by
  have hh : Reads (listed (cells.map fun c => equation c.1)) (cells.flatMap fun c => [c.2])
      (Reading.commas (cells.map Reading.equation)) :=
    Reads.intercalate (reads_plain (by decide)) fun c hm => reads_equation (hc c hm)
  rwa [← List.map_eq_flatMap] at hh

theorem reads_conjuncts {cells : List (String × SqlValue)} (hc : ∀ c ∈ cells, Unmarked c.1) :
    Reads (String.join (cells.map fun c => " AND " ++ equation c.1)) (cells.map Prod.snd)
      (Reading.conjuncts cells) := by
  have hword : Unmarked " AND " := by decide
  have hh : Reads (String.join (cells.map fun c => " AND " ++ equation c.1))
      (cells.flatMap fun c => [c.2]) (Reading.conjuncts cells) :=
    Reads.join fun c hm => (reads_plain hword).append (reads_equation (hc c hm))
  rwa [← List.map_eq_flatMap] at hh

theorem reads_updateText {table : String} {set addressed : List (String × SqlValue)}
    (ht : Unmarked table) (hs : ∀ c ∈ set, Unmarked c.1) (ha : ∀ c ∈ addressed, Unmarked c.1)
    (hne : addressed ≠ []) :
    Reads ("UPDATE " ++ table ++ " SET " ++ listed (set.map fun c => equation c.1) ++
        " WHERE 1=1 " ++ " ".intercalate (addressed.map fun c => "AND " ++ equation c.1))
      (set.map Prod.snd ++ addressed.map Prod.snd)
      (plain ("UPDATE " ++ table ++ " SET ") ++ Reading.commas (set.map Reading.equation) ++
        plain " WHERE 1=1" ++ Reading.conjuncts addressed) := by
  have hhead : Unmarked ("UPDATE " ++ table ++ " SET ") :=
    .append (.append (by decide) ht) (by decide)
  have hwhere : Unmarked " WHERE 1=1" := by decide
  have hh := (((reads_plain hhead).append (reads_assignments hs)).append
    (reads_plain hwhere)).append (reads_conjuncts ha)
  have hjoin : " " ++ " ".intercalate (addressed.map fun c => "AND " ++ equation c.1) =
      String.join (addressed.map fun c => " AND " ++ equation c.1) := by
    rw [space_intercalate hne, conjuncts]
    simp only [equation, String.append_assoc]
  have hblank (text : String) : " WHERE 1=1" ++ (" " ++ text) = " WHERE 1=1 " ++ text :=
    (String.append_assoc ..).symm
  rw [← hjoin] at hh
  simpa [hblank, String.append_assoc] using hh

theorem reads_conditions {fields : List FieldDescriptor}
    (hf : ∀ f ∈ fields, Unmarked f.compareColumn) :
    Reads (String.join ((Select.rendered fields).map fun f => " and " ++ f.body))
      ((Select.rendered fields).flatMap fun f => f.values) (Reading.conditions fields) := by
  have hand : Unmarked " and " := by decide
  refine Reads.join fun g hg => (reads_plain hand).append (Text.reads_bindMarks ?_)
  obtain ⟨f, hm, hr⟩ := List.mem_filterMap.mp hg
  have hrenders := Fragment.renders_of_render (Fragment.render_eq_ok_of_rendered? hr)
  rw [hrenders.body_eq, String.toList_append, List.count_append,
    List.count_eq_zero.mpr (hf f hm), Nat.zero_add]
  exact Keyword.count_operator hrenders.takes

theorem unmarked_columnList {columns : List String} (hc : ∀ c ∈ columns, Unmarked c) :
    Unmarked (columnList columns) := by
  rw [columnList]
  split
  · decide
  · refine unmarked_listed fun c hm => ?_
    obtain ⟨name, hname, rfl⟩ := List.mem_map.mp (List.mem_filter.mp hm).1
    exact (hc name hname).trim

theorem trim_ne_empty {s : String} {c : Char} (hs : c ∈ s.toList)
    (hc : Text.isBlank c = false) : Text.trim s ≠ "" := by
  intro ht
  obtain ⟨front, back, hf, hb, he⟩ := Text.exists_blanks_trimChars s.toList
  rw [← Text.toList_trim, ht] at he
  have hm : c ∈ front ++ back := by simpa [he] using hs
  rcases List.mem_append.mp hm with hm | hm
  · simp [hf c hm] at hc
  · simp [hb c hm] at hc

theorem reads_matching {base : String} {t : TableDescriptor} {st : Statement}
    (hb : Unmarked base) (hne : Text.trim base ≠ "")
    (hf : ∀ f ∈ t.fields, Unmarked f.compareColumn) (h : mysql.matching base t = .ok st) :
    Reads st.sql st.params (plain (Select.opened base) ++ Reading.conditions t.fields) := by
  unfold matching at h
  cases hbuild : ((Select.ofBase base).apply t).tryBuild with
  | error e => simp [hbuild] at h
  | ok built =>
    rw [hbuild] at h
    obtain rfl := Except.ok.inj h
    obtain ⟨hsql, hparams⟩ := Select.tryBuild_apply hne hbuild
    have hopened : Unmarked (Select.opened base) := by
      refine hb.trim.append ?_
      split <;> decide
    have hh := (reads_plain hopened).append (reads_conditions hf)
    rw [← hsql, List.nil_append, ← hparams] at hh
    exact hh

theorem unmarked_of_isIdentifier {s : String} (h : Text.isIdentifier s.toList = true) :
    Unmarked s := by
  intro hm
  exact absurd (Text.alphanum_of_mem_identifier h hm) (by decide)

theorem unmarked_orderClause {orders : List OrderItem}
    (h : ∀ o ∈ orders, Text.isIdentifier (Text.trim o.column).toList = true) :
    Unmarked (PageRequest.orderClause orders) := by
  have hitems : ∀ text ∈ orders.map PageRequest.orderText, Unmarked text := by
    intro text ht
    obtain ⟨o, ho, rfl⟩ := List.mem_map.mp ht
    refine .append (.append (unmarked_of_isIdentifier (h o ho)) (by decide)) ?_
    split <;> decide
  rw [PageRequest.orderClause]
  split
  · decide
  · exact .append (by decide) (unmarked_listed hitems)

theorem adapt_matching (d : Dialect) (base : String) (t : TableDescriptor) :
    d.matching base t = (mysql.matching base t).map fun st => ⟨d.adapt st.sql, st.params⟩ := by
  rw [matching, matching]
  cases ((Select.ofBase base).apply t).tryBuild <;> rfl

end Dialect

namespace Assembly

/-- Other dialects rewrite the finished text once, and nothing else. -/
theorem statement_adapt (d : Dialect) (a : Assembly) :
    a.statement d = (a.statement .mysql).map fun st => ⟨d.adapt st.sql, st.params⟩ := by
  cases a with
  | insert t =>
    rw [statement, statement, Dialect.insert_eq, Dialect.insert_eq, map_ite_error, map_ite_error]
    cases t.fields.mapM Dialect.stored <;> rfl
  | insertBatch ts =>
    cases ts with
    | nil => rfl
    | cons first rest =>
      rw [statement, statement, Dialect.insertBatch_cons, Dialect.insertBatch_cons, map_ite_error,
        map_ite_error]
      cases Dialect.batchRows first.columns 0 (first :: rest) <;> rfl
  | update t conditions =>
    rw [statement, statement, Dialect.update_eq, Dialect.update_eq, map_ite_error, map_ite_error]
    cases conditions.mapM (Dialect.conditionCell t) with
    | error e => rfl
    | ok addressed =>
      cases (t.fields.filter fun f => !conditions.contains f.column).mapM Dialect.fieldCell with
      | error e => rfl
      | ok set =>
        simp only [bind_ok, map_ite_error]
        rfl
  | delete t =>
    rw [statement, statement, Dialect.delete_eq, Dialect.delete_eq, map_ite_error, map_ite_error]
    cases t.fields.mapM Dialect.fieldCell <;> rfl
  | deleteByIds table primaryKey ids =>
    rw [statement, statement, Dialect.deleteByIds_eq, Dialect.deleteByIds_eq, map_ite_error,
      map_ite_error]
    rfl
  | select t columns =>
    rw [statement, statement, Dialect.select_eq, Dialect.select_eq, map_ite_error,
      ← Dialect.adapt_matching]
  | count t =>
    rw [statement, statement, Dialect.count_eq, Dialect.count_eq, map_ite_error,
      ← Dialect.adapt_matching]
  | page sql p =>
    rw [statement, statement, Dialect.page_eq, Dialect.page_eq]
    cases Dialect.orderBy p.orders with
    | error e => rfl
    | ok order => cases Dialect.pageParams p <;> rfl

/-- No name that a statement writes out has a question mark. -/
def Unmarked : Assembly → Prop
  | .insert t => Text.Unmarked t.table ∧ ∀ f ∈ t.fields, Text.Unmarked f.column
  | .insertBatch ts => ∀ t ∈ ts, Text.Unmarked t.table ∧ ∀ f ∈ t.fields, Text.Unmarked f.column
  | .update t _ => Text.Unmarked t.table ∧ ∀ f ∈ t.fields, Text.Unmarked f.column
  | .delete t => Text.Unmarked t.table ∧ ∀ f ∈ t.fields, Text.Unmarked f.column
  | .deleteByIds table primaryKey _ => Text.Unmarked table ∧ Text.Unmarked primaryKey
  | .select t columns => Text.Unmarked t.table ∧
      (∀ f ∈ t.fields, Text.Unmarked f.compareColumn) ∧ ∀ c ∈ columns, Text.Unmarked c
  | .count t => Text.Unmarked t.table ∧ ∀ f ∈ t.fields, Text.Unmarked f.compareColumn
  | .page _ _ => True

/-- The question marks of a query that is wrapped. -/
def ownMarks : Assembly → Nat
  | .page sql _ => sql.toList.count '?'
  | _ => 0

/-- A statement with its values in place, those of a wrapped query first. -/
def reading (own : List SqlValue) : Assembly → Reading
  | .insert t =>
    plain ("INSERT INTO " ++ t.table ++ " (" ++ Dialect.listed t.columns ++ ") VALUES ") ++
      Reading.row (t.fields.map fun f => f.value)
  | .insertBatch [] => []
  | .insertBatch (first :: rest) =>
    plain ("INSERT INTO " ++ first.table ++ " (" ++ Dialect.listed first.columns ++ ") VALUES ") ++
      Reading.commas ((first :: rest).map fun t => Reading.row (t.fields.map fun f => f.value))
  | .update t conditions =>
    plain ("UPDATE " ++ t.table ++ " SET ") ++
      Reading.commas (((t.fields.filter fun f => !conditions.contains f.column).map
        FieldDescriptor.cell).map Reading.equation) ++
      plain " WHERE 1=1" ++
      Reading.conjuncts ((conditions.filterMap t.field?).map FieldDescriptor.cell)
  | .delete t =>
    plain ("DELETE FROM " ++ t.table ++ " WHERE 1=1") ++
      Reading.conjuncts (t.fields.map FieldDescriptor.cell)
  | .deleteByIds table primaryKey ids =>
    plain ("DELETE FROM " ++ table ++ " WHERE " ++ primaryKey ++ " in ") ++ Reading.row ids
  | .select t columns =>
    plain (Select.opened ("SELECT " ++ Dialect.columnList columns ++ " FROM " ++ t.table)) ++
      Reading.conditions t.fields
  | .count t =>
    plain (Select.opened ("SELECT count(*) FROM " ++ t.table)) ++ Reading.conditions t.fields
  | .page sql p =>
    plain "SELECT * FROM (" ++ bindMarks (Text.trim sql).toList own ++
      plain (") t" ++ PageRequest.orderClause p.orders ++ " LIMIT ") ++
      [.inr (.bigint (.ofNat p.size.toNat))] ++ plain " OFFSET " ++
      [.inr (.bigint (.ofNat p.before))]

/-- The rows of a batch. -/
def rows : Assembly → List TableDescriptor
  | .insertBatch ts => ts
  | _ => []

theorem columns_eq_of_rows {a : Assembly} {st : Statement} (h : a.statement .mysql = .ok st)
    {t u : TableDescriptor} (ht : t ∈ a.rows) (hu : u ∈ a.rows) : t.columns = u.columns := by
  cases a with
  | insertBatch ts =>
    cases ts with
    | nil => simp [rows] at ht
    | cons first rest =>
      rw [statement, Dialect.insertBatch_cons] at h
      obtain ⟨params, hparams, -⟩ := exists_of_map_eq_ok (eq_ok_of_ite (eq_ok_of_ite h).2).2
      have hsame := (Dialect.batchRows_eq_ok hparams).2
      rw [hsame t ht, hsame u hu]
  | _ => simp [rows] at ht

section Reads

open Dialect

variable {t : TableDescriptor} {st : Statement}

theorem reads_insert (ha : (insert t).Unmarked) (h : mysql.insert t = .ok st) :
    Reads st.sql st.params (reading [] (.insert t)) := by
  obtain ⟨ht, hf⟩ := ha
  rw [insert_eq] at h
  obtain ⟨params, hparams, rfl⟩ := exists_of_map_eq_ok (eq_ok_of_ite (eq_ok_of_ite h).2).2
  obtain rfl := eq_map_of_mapM_eq_ok (fun f v hv => value_of_stored hv) hparams
  exact (reads_plain (unmarked_insertion ht hf)).append (reads_rowPlaceholders _)

theorem reads_insertBatch {ts : List TableDescriptor} (ha : (insertBatch ts).Unmarked)
    (h : mysql.insertBatch ts = .ok st) :
    Reads st.sql st.params (reading [] (.insertBatch ts)) := by
  cases ts with
  | nil => simp [Dialect.insertBatch] at h
  | cons first rest =>
    obtain ⟨ht, hf⟩ := ha first List.mem_cons_self
    rw [insertBatch_cons] at h
    obtain ⟨params, hparams, rfl⟩ := exists_of_map_eq_ok (eq_ok_of_ite (eq_ok_of_ite h).2).2
    obtain ⟨rfl, hsame⟩ := batchRows_eq_ok hparams
    have hrows : (first :: rest).map (fun _ => rowPlaceholders first.columns.length) =
        (first :: rest).map fun t => rowPlaceholders (t.fields.map fun f => f.value).length := by
      refine List.map_congr_left fun t hm => ?_
      rw [← hsame t hm, TableDescriptor.columns, List.length_map, List.length_map]
    rw [hrows]
    exact (reads_plain (unmarked_insertion ht hf)).append
      (Reads.intercalate (reads_plain (by decide)) fun t _ => reads_rowPlaceholders _)

theorem reads_update {conditions : List String} (ha : (update t conditions).Unmarked)
    (h : mysql.update t conditions = .ok st) :
    Reads st.sql st.params (reading [] (.update t conditions)) := by
  obtain ⟨ht, hf⟩ := ha
  rw [update_eq] at h
  obtain ⟨hne, h⟩ := eq_ok_of_ite (eq_ok_of_ite h).2
  obtain ⟨addressed, haddressed, h⟩ := exists_of_bind_eq_ok h
  obtain ⟨set, hset, h⟩ := exists_of_bind_eq_ok h
  obtain rfl := Except.ok.inj (eq_ok_of_ite h).2
  have hne' : addressed ≠ [] := by
    rintro rfl
    simp [← columns_of_mapM_conditionCell haddressed] at hne
  obtain rfl := eq_map_of_mapM_eq_ok (fun f v hv => cell_of_fieldCell hv) hset
  obtain rfl := cells_of_mapM_conditionCell haddressed
  refine reads_updateText ht ?_ ?_ hne'
  · refine unmarked_cells fun f hm => hf f (List.mem_filter.mp hm).1
  · refine unmarked_cells fun f hm => ?_
    obtain ⟨column, -, hfound⟩ := List.mem_filterMap.mp hm
    exact hf f (List.mem_of_find?_eq_some hfound)

theorem reads_delete (ha : (delete t).Unmarked) (h : mysql.delete t = .ok st) :
    Reads st.sql st.params (reading [] (.delete t)) := by
  obtain ⟨ht, hf⟩ := ha
  rw [delete_eq] at h
  obtain ⟨cells, hcells, rfl⟩ := exists_of_map_eq_ok (eq_ok_of_ite (eq_ok_of_ite h).2).2
  obtain rfl := eq_map_of_mapM_eq_ok (fun f v hv => cell_of_fieldCell hv) hcells
  have hhead : Text.Unmarked ("DELETE FROM " ++ t.table ++ " WHERE 1=1") :=
    .append (.append (by decide) ht) (by decide)
  exact (reads_plain hhead).append (reads_conjuncts (unmarked_cells hf))

theorem reads_deleteByIds {table primaryKey : String} {ids : List SqlValue}
    (ha : (deleteByIds table primaryKey ids).Unmarked)
    (h : mysql.deleteByIds table primaryKey ids = .ok st) :
    Reads st.sql st.params (reading [] (.deleteByIds table primaryKey ids)) := by
  obtain ⟨ht, hk⟩ := ha
  rw [deleteByIds_eq] at h
  obtain rfl := Except.ok.inj (eq_ok_of_ite (eq_ok_of_ite h).2).2
  have hhead : Text.Unmarked ("DELETE FROM " ++ table ++ " WHERE " ++ primaryKey ++ " in ") :=
    .append (.append (.append (.append (by decide) ht) (by decide)) hk) (by decide)
  exact (reads_plain hhead).append (reads_rowPlaceholders ids)

theorem reads_select {columns : List String} (ha : (select t columns).Unmarked)
    (h : mysql.select t columns = .ok st) :
    Reads st.sql st.params (reading [] (.select t columns)) := by
  obtain ⟨ht, hf, hc⟩ := ha
  rw [select_eq] at h
  have hb : Text.Unmarked ("SELECT " ++ columnList columns ++ " FROM " ++ t.table) :=
    .append (.append (.append (by decide) (unmarked_columnList hc)) (by decide)) ht
  have hword : 'S' ∈ ("SELECT " ++ columnList columns ++ " FROM " ++ t.table).toList := by simp
  exact reads_matching hb (trim_ne_empty hword (by decide)) hf (eq_ok_of_ite h).2

theorem reads_count (ha : (count t).Unmarked) (h : mysql.count t = .ok st) :
    Reads st.sql st.params (reading [] (.count t)) := by
  obtain ⟨ht, hf⟩ := ha
  rw [count_eq] at h
  have hb : Text.Unmarked ("SELECT count(*) FROM " ++ t.table) := .append (by decide) ht
  have hword : 'S' ∈ ("SELECT count(*) FROM " ++ t.table).toList := by simp
  exact reads_matching hb (trim_ne_empty hword (by decide)) hf (eq_ok_of_ite h).2

/-- The marks of the query come before those of its window. -/
theorem reads_page {sql : String} {p : PageRequest} {own : List SqlValue}
    (ho : own.length = sql.toList.count '?') (h : mysql.page sql p = .ok st) :
    Reads st.sql (own ++ st.params) (reading own (.page sql p)) := by
  by_cases hp : p.IsBindable
  · rw [page_of_isBindable hp] at h
    obtain rfl := Except.ok.inj h
    have hquery : (Text.trim sql).toList.count '?' = own.length := by
      rw [Text.toList_trim, Text.count_trimChars, ho]
    have hselect : Text.Unmarked "SELECT * FROM (" := by decide
    have hlimit : Text.Unmarked (") t" ++ PageRequest.orderClause p.orders ++ " LIMIT ") :=
      .append (.append (by decide) (unmarked_orderClause hp.orders)) (by decide)
    have hoffset : Text.Unmarked " OFFSET " := by decide
    have hh := (((((reads_plain hselect).append (Text.reads_bindMarks hquery)).append
      (reads_plain hlimit)).append (Reads.mark (.bigint (.ofNat p.size.toNat)))).append
      (reads_plain hoffset)).append (Reads.mark (.bigint (.ofNat p.before)))
    have hwindow : p.window sql = ⟨"SELECT * FROM (" ++ Text.trim sql ++ ") t" ++
        PageRequest.orderClause p.orders ++ " LIMIT ? OFFSET ?",
        [.bigint (.ofNat p.size.toNat), .bigint (.ofNat p.before)]⟩ := rfl
    rw [hwindow, reading]
    simpa [String.append_assoc] using hh
  · rw [page_of_not_isBindable hp] at h
    simp at h

end Reads

theorem reads {a : Assembly} {st : Statement} (ha : a.Unmarked) (h : a.statement .mysql = .ok st)
    {own : List SqlValue} (ho : own.length = a.ownMarks) :
    Reads st.sql (own ++ st.params) (a.reading own) := by
  cases a
  case page sql p => exact reads_page ho h
  all_goals obtain rfl : own = [] := List.length_eq_zero_iff.mp ho
  case insert t => exact reads_insert ha h
  case insertBatch ts => exact reads_insertBatch ha h
  case update t conditions => exact reads_update ha h
  case delete t => exact reads_delete ha h
  case deleteByIds table primaryKey ids => exact reads_deleteByIds ha h
  case select t columns => exact reads_select ha h
  case count t => exact reads_count ha h

/-- Every question mark of a statement stands for the value that is bound for it, in every
dialect. -/
theorem statement_binds (d : Dialect) (a : Assembly) :
    a.statement d = (a.statement .mysql).map (fun st => ⟨d.adapt st.sql, st.params⟩) ∧
    (∀ st, a.statement .mysql = .ok st → ∀ t ∈ a.rows, ∀ u ∈ a.rows, t.columns = u.columns) ∧
    (a.Unmarked → ∀ st, a.statement .mysql = .ok st →
      st.sql.toList.count '?' = a.ownMarks + st.params.length ∧
      (∀ own : List SqlValue, own.length = a.ownMarks →
        bindMarks st.sql.toList (own ++ st.params) = a.reading own ∧
        (a.reading own).filterMap Sum.getRight? = own ++ st.params) ∧
      ∃ text, a.statement .numbered = .ok ⟨text, st.params⟩ ∧
        text.toList = (bindMarks st.sql.toList
          (List.range' 1 (a.ownMarks + st.params.length))).flatMap Text.numberText) := by
  refine ⟨statement_adapt d a, fun st h t ht u hu => columns_eq_of_rows h ht hu,
    fun ha st h => ?_⟩
  have hreads (own : List SqlValue) (ho : own.length = a.ownMarks) :
      Reads st.sql (own ++ st.params) (a.reading own) := reads ha h ho
  have hcount : st.sql.toList.count '?' = a.ownMarks + st.params.length := by
    have hh := (hreads (List.replicate a.ownMarks .null) (by simp)).count_eq
    simpa using hh
  refine ⟨hcount, fun own ho => ⟨(hreads own ho).bindMarks_eq, (hreads own ho).values_eq.symm⟩, ?_⟩
  refine ⟨_, (statement_adapt .numbered a).trans (congrArg _ h), ?_⟩
  have htext : (Dialect.numbered.adapt st.sql).toList = Dialect.numberFrom 0 st.sql.toList :=
    String.toList_ofList
  rw [htext, Text.numberFrom_eq, hcount]

def memberUpdate : Assembly :=
  .update ⟨"member", some "id",
    [⟨"id", "id", .eq, "id", .bigint 7⟩, ⟨"name", "name", .like, "name", .text "?"⟩]⟩ ["id"]

def memberPage : Assembly :=
  .page " select * from member where name = ? " ⟨3, 20, []⟩

theorem statement_binds_members :
    memberUpdate.Unmarked ∧ memberPage.Unmarked ∧
    bindMarks "UPDATE member SET name = ? WHERE 1=1 AND id = ?".toList [.text "?", .bigint 7] =
      plain "UPDATE member SET " ++ (plain "name = " ++ [.inr (.text "?")]) ++ plain " WHERE 1=1" ++
        (plain " AND " ++ (plain "id = " ++ [.inr (.bigint 7)])) ∧
    ∃ window, memberPage.statement .mysql = .ok ⟨window, [.bigint 20, .bigint 40]⟩ ∧
      window.toList.count '?' = 3 ∧
      bindMarks window.toList [.text "ann", .bigint 20, .bigint 40] =
        memberPage.reading [.text "ann"] := by
  have hunmarked : memberUpdate.Unmarked := ⟨by decide, by decide⟩
  have hupdate : memberUpdate.statement .mysql =
      .ok ⟨"UPDATE member SET name = ? WHERE 1=1 AND id = ?", [.text "?", .bigint 7]⟩ := by rfl
  have hpage : memberPage.statement .mysql =
      .ok ⟨"SELECT * FROM (select * from member where name = ?) t LIMIT ? OFFSET ?",
        [.bigint 20, .bigint 40]⟩ := by rfl
  obtain ⟨-, hreading, -⟩ := (statement_binds .numbered memberUpdate).2.2 hunmarked _ hupdate
  obtain ⟨hcount, hwindow, -⟩ := (statement_binds .numbered memberPage).2.2 trivial _ hpage
  exact ⟨hunmarked, trivial, (hreading [] rfl).1, _, hpage, hcount,
    (hwindow [.text "ann"] rfl).1⟩

end Assembly

end SqlMapper
