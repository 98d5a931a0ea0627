import SqlMapper.Condition.Fragment
import SqlMapper.Mapper.Error
import SqlMapper.Statement.Basic
import SqlMapper.Statement.Dialect
import SqlMapper.Table.Descriptor
import SqlMapper.Text.Blank

/-! Statements that write. Only single values are stored or compared with, and an update or
a deletion always has a condition. -/

namespace SqlMapper.Dialect

def listed (parts : List String) : String :=
  ", ".intercalate parts

def finish (d : Dialect) (sql : String) (params : List SqlValue) : Statement :=
  ⟨d.adapt sql, params⟩

def requireTable (table : String) : Except MapperError Unit :=
  if (Text.trim table).isEmpty then .error .missingTable else .ok ()

def stored (f : FieldDescriptor) : Except MapperError SqlValue :=
  if f.value.isScalar then .ok f.value
  else .error (.data (.malformedCondition f.column "write" (.notStorable f.value.typeName)))

/-- The placeholders of one row of `n` columns. -/
def rowPlaceholders (n : Nat) : String :=
  "(" ++ placeholders ", " n ++ ")"

def insert (d : Dialect) (t : TableDescriptor) : Except MapperError Statement := do
  requireTable t.table
  if t.isEmpty then throw .emptyData
  let params ← t.fields.mapM stored
  return d.finish
    ("INSERT INTO " ++ t.table ++ " (" ++ listed t.columns ++ ") VALUES " ++
      rowPlaceholders params.length) params

/-- The values of one row of a batch, which must have the columns of the first. -/
def batchRow (columns : List String) (index : Nat) (t : TableDescriptor) :
    Except MapperError (List SqlValue) :=
  if t.columns = columns then t.fields.mapM stored
  else .error (.invalidField (.batchRow index t.columns columns))

/-- The values of the rows of a batch, counted from `index`. -/
def batchRows (columns : List String) (index : Nat) :
    List TableDescriptor → Except MapperError (List SqlValue)
  | [] => .ok []
  | t :: ts => do
    let row ← batchRow columns index t
    return row ++ (← batchRows columns (index + 1) ts)

def insertBatch (d : Dialect) (ts : List TableDescriptor) : Except MapperError Statement :=
  match ts with
  | [] => .error .emptyData
  | first :: _ => do
    requireTable first.table
    if first.isEmpty then throw .emptyData
    let params ← batchRows first.columns 0 ts
    return d.finish
      ("INSERT INTO " ++ first.table ++ " (" ++ listed first.columns ++ ") VALUES " ++
        listed (ts.map fun _ => rowPlaceholders first.columns.length)) params

def conditionCell (t : TableDescriptor) (column : String) :
    Except MapperError (String × SqlValue) :=
  match t.field? column with
  | none => .error (.missingCondition (.column column))
  | some f => (stored f).map fun v => (f.column, v)

def fieldCell (f : FieldDescriptor) : Except MapperError (String × SqlValue) :=
  (stored f).map fun v => (f.column, v)

def equation (column : String) : String :=
  column ++ " = ?"

/-- An update in which the fields named in `conditions` address the rows and all others are
set. Values to set are bound before those to compare with. -/
def update (d : Dialect) (t : TableDescriptor) (conditions : List String) :
    Except MapperError Statement := do
  requireTable t.table
  if conditions.isEmpty then throw (.missingCondition (.update t.table))
  let addressed ← conditions.mapM (conditionCell t)
  let set ← (t.fields.filter fun f => !conditions.contains f.column).mapM fieldCell
  if set.isEmpty then throw .emptyData
  return d.finish
    ("UPDATE " ++ t.table ++ " SET " ++ listed (set.map fun c => equation c.1) ++
      " WHERE 1=1 " ++ " ".intercalate (addressed.map fun c => "AND " ++ equation c.1))
    (set.map Prod.snd ++ addressed.map Prod.snd)

/-- A deletion of the rows that equal every field. -/
def delete (d : Dialect) (t : TableDescriptor) : Except MapperError Statement := do
  requireTable t.table
  if t.isEmpty then throw (.missingCondition (.delete t.table))
  let cells ← t.fields.mapM fieldCell
  return d.finish
    ("DELETE FROM " ++ t.table ++ " WHERE 1=1" ++
      String.join (cells.map fun c => " AND " ++ equation c.1))
    (cells.map Prod.snd)

/-- A deletion of the rows whose key is one of `ids`. -/
def deleteByIds (d : Dialect) (table primaryKey : String) (ids : List SqlValue) :
    Except MapperError Statement := do
  requireTable table
  if ids.isEmpty then throw (.missingCondition (.ids table))
  return d.finish
    ("DELETE FROM " ++ table ++ " WHERE " ++ primaryKey ++ " in " ++ rowPlaceholders ids.length)
    ids

end SqlMapper.Dialect
