import SqlMapper.Field.Decode
import SqlMapper.OrderedMap
import SqlMapper.Value.Json

/-! Rows of a result: bind values under column names, in the order of the select list. -/

namespace SqlMapper

structure Row where
  columns : OrderedMap SqlValue

namespace Row

def empty : Row := ⟨.empty⟩

def ofList (cells : List (String × SqlValue)) : Row :=
  ⟨.ofList cells⟩

def insert (r : Row) (column : String) (value : SqlValue) : Row :=
  ⟨r.columns.insert column value⟩

def get? (r : Row) (column : String) : Option SqlValue :=
  r.columns.get? column

/-- The value of the first column. -/
def first? (r : Row) : Option SqlValue :=
  r.columns.entries.head?.map Prod.snd

def columnNames (r : Row) : List String :=
  r.columns.keys

def size (r : Row) : Nat :=
  r.columns.entries.length

/-- A column that must be there, as a native value. -/
def getAs (r : Row) (t : FieldType) (column : String) : Except DataError t.Value :=
  match r.get? column with
  | some v => t.ofSql v
  | none => .error (.unknownColumn column)

/-- A column as a native value, or the default where it is missing or null. -/
def getOrDefault (r : Row) (t : FieldType) (column : String) : Except DataError t.Value :=
  match r.get? column with
  | none => .ok t.default
  | some .null => .ok t.default
  | some v => t.ofSql v

/-- A row read as a single native value, that of its first column. -/
def toScalar (t : FieldType) (r : Row) : Except DataError t.Value :=
  match r.first? with
  | some v => t.ofSql v
  | none => .error (.unknownColumn "<first>")

def serialize (r : Row) : String :=
  Json.renderObject (r.columns.entries.map fun e => (e.1, e.2.serialize))

end Row

end SqlMapper
