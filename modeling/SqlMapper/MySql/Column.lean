import SqlMapper.Error
import SqlMapper.Json.Syntax
import SqlMapper.MySql.Wire
import SqlMapper.Row.Basic

/-! Columns of a result: the type that the server gives a column decides how its values are
taken. -/

namespace SqlMapper.MySql

/-- Types of columns; those without rules of their own, texts and decimals among them, are
`other`. -/
inductive ColumnType where
  | tiny
  | short
  | year
  | long
  | int24
  | longLong
  | float
  | double
  | timestamp
  | date
  | newDate
  | time
  | dateTime
  | json
  | bit
  | other
  deriving DecidableEq, Repr

namespace ColumnType

def unconvertible : DataError := .parse .driverValue

def require (found : Option α) (take : α → SqlValue) : Except DataError SqlValue :=
  match found with
  | some a => .ok (take a)
  | none => .error unconvertible

/-- A value of no particular type: a text if it can be one, or else a number, or else bytes read
as a text with marks for what is none. -/
def toAny (w : Wire) : Except DataError SqlValue :=
  match w.toText? with
  | some s => .ok (.text s)
  | none =>
    match w.toInteger? (-0x8000000000000000) 0x7fffffffffffffff with
    | some n => .ok (.bigint (Int64.ofInt n))
    | none =>
      match w.toDouble? with
      | some x => .ok (.double x)
      | none => require w.toBytes? fun bytes => .text (Text.ofUtf8Lossy bytes)

def toJson (w : Wire) : Except DataError SqlValue :=
  match w.toText? with
  | none => .error unconvertible
  | some s =>
    match Json.read s with
    | .ok j => .ok (.json j)
    | .error e => .error (.parse (.json e))

/-- One byte is a truth value, any other number of them a text. -/
def toBits (w : Wire) : Except DataError SqlValue :=
  require w.toBytes? fun bytes =>
    match bytes with
    | [b] => .bool (b != 0)
    | _ => .text (Text.ofUtf8Lossy bytes)

def toSql (t : ColumnType) (w : Wire) : Except DataError SqlValue :=
  if w = .null then .ok .null
  else
    match t with
    | .tiny => require (w.toInteger? (-0x80) 0x7f) fun n => .tinyint (Int8.ofInt n)
    | .short | .year =>
      require (w.toInteger? (-0x8000) 0x7fff) fun n => .smallint (Int16.ofInt n)
    | .long | .int24 =>
      require (w.toInteger? (-0x80000000) 0x7fffffff) fun n => .int (Int32.ofInt n)
    | .longLong =>
      require (w.toInteger? (-0x8000000000000000) 0x7fffffffffffffff) fun n =>
        .bigint (Int64.ofInt n)
    | .float => require w.toSingle? .float
    | .double => require w.toDouble? .double
    | .timestamp => require w.toDateTime? fun t => .timestamp ⟨t⟩
    | .date | .newDate => require w.toDate? .date
    | .time => require w.toTime? .time
    | .dateTime => require w.toDateTime? .dateTime
    | .json => toJson w
    | .bit => toBits w
    | .other => toAny w

end ColumnType

structure Reply where
  columns : List (String × ColumnType)
  rows : List (List Wire)

namespace Reply

def empty : Reply := ⟨[], []⟩

def toCell (column : String × ColumnType) (w : Wire) : Except DataError (String × SqlValue) :=
  (column.2.toSql w).map fun v => (column.1, v)

def toRow (columns : List (String × ColumnType)) (wires : List Wire) : Except DataError Row :=
  ((columns.zip wires).mapM fun cell => toCell cell.1 cell.2).map Row.ofList

def toRows (r : Reply) : Except DataError (List Row) :=
  r.rows.mapM (toRow r.columns)

end Reply

end SqlMapper.MySql
