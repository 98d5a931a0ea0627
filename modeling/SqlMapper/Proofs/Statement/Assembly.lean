import SqlMapper.Statement.Read

/-! The assemblers of statements, each as its checks in their order and the one statement that
it makes behind them. -/

namespace SqlMapper

namespace Dialect

theorem insert_eq (d : Dialect) (t : TableDescriptor) :
    d.insert t =
      if (Text.trim t.table).isEmpty then .error .missingTable
      else if t.isEmpty then .error .emptyData
      else (t.fields.mapM stored).map fun params => d.finish
        ("INSERT INTO " ++ t.table ++ " (" ++ listed t.columns ++ ") VALUES " ++
          rowPlaceholders params.length) params := by
  unfold insert requireTable
  split
  · rfl
  · split
    · rfl
    · cases t.fields.mapM stored <;> rfl

theorem batchRows_cons (columns : List String) (index : Nat) (t : TableDescriptor)
    (ts : List TableDescriptor) :
    batchRows columns index (t :: ts) =
      (batchRow columns index t).bind fun row =>
        (batchRows columns (index + 1) ts).map fun rows => row ++ rows := by
  rw [batchRows]
  cases batchRow columns index t with
  | error e => rfl
  | ok row => cases batchRows columns (index + 1) ts <;> rfl

theorem insertBatch_cons (d : Dialect) (first : TableDescriptor) (rest : List TableDescriptor) :
    d.insertBatch (first :: rest) =
      if (Text.trim first.table).isEmpty then .error .missingTable
      else if first.isEmpty then .error .emptyData
      else (batchRows first.columns 0 (first :: rest)).map fun params => d.finish
        ("INSERT INTO " ++ first.table ++ " (" ++ listed first.columns ++ ") VALUES " ++
          listed ((first :: rest).map fun _ => rowPlaceholders first.columns.length)) params := by
  simp only [insertBatch, requireTable]
  split
  · rfl
  · split
    · rfl
    · cases batchRows first.columns 0 (first :: rest) <;> rfl

theorem update_eq (d : Dialect) (t : TableDescriptor) (conditions : List String) :
    d.update t conditions =
      if (Text.trim t.table).isEmpty then .error .missingTable
      else if conditions.isEmpty then .error (.missingCondition (.update t.table))
      else (conditions.mapM (conditionCell t)).bind fun addressed =>
        ((t.fields.filter fun f => !conditions.contains f.column).mapM fieldCell).bind fun set =>
          if set.isEmpty then .error .emptyData
          else .ok (d.finish
            ("UPDATE " ++ t.table ++ " SET " ++ listed (set.map fun c => equation c.1) ++
              " WHERE 1=1 " ++ " ".intercalate (addressed.map fun c => "AND " ++ equation c.1))
            (set.map Prod.snd ++ addressed.map Prod.snd)) := by
  unfold update requireTable
  split
  · rfl
  · split
    · rfl
    · cases conditions.mapM (conditionCell t) with
      | error e => rfl
      | ok addressed =>
        cases (t.fields.filter fun f => !conditions.contains f.column).mapM fieldCell with
        | error e => rfl
        | ok set =>
          by_cases h : set.isEmpty = true
          · simp [h, bind, Except.bind, throw, throwThe, MonadExceptOf.throw]
          · simp [h, bind, Except.bind, pure, Except.pure]

theorem delete_eq (d : Dialect) (t : TableDescriptor) :
    d.delete t =
      if (Text.trim t.table).isEmpty then .error .missingTable
      else if t.isEmpty then .error (.missingCondition (.delete t.table))
      else (t.fields.mapM fieldCell).map fun cells => d.finish
        ("DELETE FROM " ++ t.table ++ " WHERE 1=1" ++
          String.join (cells.map fun c => " AND " ++ equation c.1)) (cells.map Prod.snd) := by
  unfold delete requireTable
  split
  · rfl
  · split
    · rfl
    · cases t.fields.mapM fieldCell <;> rfl

theorem deleteByIds_eq (d : Dialect) (table primaryKey : String) (ids : List SqlValue) :
    d.deleteByIds table primaryKey ids =
      if (Text.trim table).isEmpty then .error .missingTable
      else if ids.isEmpty then .error (.missingCondition (.ids table))
      else .ok (d.finish
        ("DELETE FROM " ++ table ++ " WHERE " ++ primaryKey ++ " in " ++
          rowPlaceholders ids.length) ids) := by
  unfold deleteByIds requireTable
  split
  · rfl
  · split <;> rfl

theorem select_eq (d : Dialect) (t : TableDescriptor) (columns : List String) :
    d.select t columns =
      if (Text.trim t.table).isEmpty then .error .missingTable
      else d.matching ("SELECT " ++ columnList columns ++ " FROM " ++ t.table) t := by
  unfold select requireTable
  split <;> rfl

theorem count_eq (d : Dialect) (t : TableDescriptor) :
    d.count t =
      if (Text.trim t.table).isEmpty then .error .missingTable
      else d.matching ("SELECT count(*) FROM " ++ t.table) t := by
  unfold count requireTable
  split <;> rfl

theorem page_eq (d : Dialect) (sql : String) (p : PageRequest) :
    d.page sql p =
      (orderBy p.orders).bind fun order => (pageParams p).map fun params => d.finish
        (" ".intercalate (["SELECT * FROM (" ++ Text.trim sql ++ ") t"] ++
          (if order.isEmpty then [] else ["ORDER BY " ++ order]) ++ [pagination])) params := by
  unfold page
  cases orderBy p.orders with
  | error e => rfl
  | ok order => cases pageParams p <;> rfl

end Dialect

end SqlMapper
