import SqlMapper.Page.Basic
import SqlMapper.Select.Basic
import SqlMapper.Statement.Write
import SqlMapper.Text.Ascii

/-! Statements that read: the rows a descriptor matches, their number, and one page of any
query. -/

namespace SqlMapper.Dialect

/-- The select list, all columns if none is named. -/
def columnList (columns : List String) : String :=
  let named := (columns.map Text.trim).filter fun c => !c.isEmpty
  if named.isEmpty then "*" else listed named

def matching (d : Dialect) (base : String) (t : TableDescriptor) : Except MapperError Statement :=
  match ((Select.ofBase base).apply t).tryBuild with
  | .ok s => .ok (d.finish s.sql s.params)
  | .error e => .error (.data e)

/-- What is reported while the conditions of a descriptor are added: a warning for each one that
is left out for its value. Without a table there is no statement to add them to. -/
def matchingLog (t : TableDescriptor) : Log :=
  if (Text.trim t.table).isEmpty then [] else (Select.empty.apply t).log

def select (d : Dialect) (t : TableDescriptor) (columns : List String) :
    Except MapperError Statement := do
  requireTable t.table
  d.matching ("SELECT " ++ columnList columns ++ " FROM " ++ t.table) t

def count (d : Dialect) (t : TableDescriptor) : Except MapperError Statement := do
  requireTable t.table
  d.matching ("SELECT count(*) FROM " ++ t.table) t

def wrapCount (d : Dialect) (sql : String) : String :=
  d.adapt ("SELECT count(*) FROM (" ++ Text.trim sql ++ ") t")

/-- One order item. Its column is a bare identifier, so the text holds nothing else of what
was asked for. -/
def orderItem (o : OrderItem) : Except MapperError String :=
  let column := Text.trim o.column
  if Text.isIdentifier column.toList then
    .ok (column ++ " " ++ if o.ascending then "asc" else "desc")
  else .error (.invalidField (.orderColumn o.column))

def orderBy (orders : List OrderItem) : Except MapperError String :=
  (orders.mapM orderItem).map listed

def pagination : String := "LIMIT ? OFFSET ?"

def signedWord? (n : UInt64) : Option SqlValue :=
  if n.toNat < 0x8000000000000000 then some (.bigint n.toInt64) else none

def pageParams (p : PageRequest) : Except MapperError (List SqlValue) :=
  match signedWord? p.size, p.offset?.bind signedWord? with
  | some size, some offset => .ok [size, offset]
  | _, _ => .error (.invalidField (.page p.current p.size))

/-- One page of any query; size and offset are bound after the query's own values. -/
def page (d : Dialect) (sql : String) (p : PageRequest) : Except MapperError Statement := do
  let order ← orderBy p.orders
  let params ← pageParams p
  let clause := if order.isEmpty then [] else ["ORDER BY " ++ order]
  return d.finish
    (" ".intercalate
      (["SELECT * FROM (" ++ Text.trim sql ++ ") t"] ++ clause ++ [pagination])) params

end SqlMapper.Dialect
