import SqlMapper.Error
import SqlMapper.Field.Type
import SqlMapper.Json.Syntax
import SqlMapper.Text.Case
import SqlMapper.Value.Display

/-! Bind values converted into native values. Null converts into options only, a list into
lists only, and everything else into a list of one; whole numbers are checked against the
range of their type. -/

namespace SqlMapper

namespace SqlValue

def mismatch (target : String) (v : SqlValue) : DataError :=
  .typeMismatch target v.typeName

def unreadable (target text : String) : DataError :=
  .parse (.text text target)

/-- The whole number a text denotes, blanks around it aside; it must fit a signed 64-bit
word. -/
def integerOfText (target text : String) : Except DataError Int :=
  match Decimal.toInt? (Text.trimChars text.toList) with
  | some n =>
    if -0x8000000000000000 ≤ n ∧ n < 0x8000000000000000 then .ok n
    else .error (unreadable target text)
  | none => .error (unreadable target text)

def toInteger (target : String) : SqlValue → Except DataError Int
  | .bool b => .ok (if b then 1 else 0)
  | .tinyint n => .ok n.toInt
  | .smallint n => .ok n.toInt
  | .int n => .ok n.toInt
  | .bigint n => .ok n.toInt
  | .text s => integerOfText target s
  | .null => .error (.nullValue target)
  | v => .error (v.mismatch target)

def toIntegerIn (target : String) (least greatest : Int) (v : SqlValue) : Except DataError Int := do
  let n ← v.toInteger target
  if least ≤ n ∧ n ≤ greatest then .ok n else .error (.numericOverflow target)

def readText (target text : String) (found : Option α) : Except DataError α :=
  match found with
  | some a => .ok a
  | none => .error (unreadable target text)

def toSingle (target : String) : SqlValue → Except DataError Binary.Single
  | .tinyint n => .ok (.ofInt n.toInt)
  | .smallint n => .ok (.ofInt n.toInt)
  | .int n => .ok (.ofInt n.toInt)
  | .bigint n => .ok (.ofInt n.toInt)
  | .float x => .ok x
  | .double x => .ok x.toSingle
  | .text s => readText target s (Binary.Single.ofText? (Text.trimChars s.toList))
  | .null => .error (.nullValue target)
  | v => .error (v.mismatch target)

def toDouble (target : String) : SqlValue → Except DataError Binary.Double
  | .tinyint n => .ok (.ofInt n.toInt)
  | .smallint n => .ok (.ofInt n.toInt)
  | .int n => .ok (.ofInt n.toInt)
  | .bigint n => .ok (.ofInt n.toInt)
  | .float x => .ok x.toDouble
  | .double x => .ok x
  | .text s => readText target s (Binary.Double.ofText? (Text.trimChars s.toList))
  | .null => .error (.nullValue target)
  | v => .error (v.mismatch target)

def boolOfText? (s : String) : Option Bool :=
  let word := Text.toLower s
  if ["true", "1", "yes", "on"].contains word then some true
  else if ["false", "0", "no", "off"].contains word then some false
  else none

def toBool (target : String) : SqlValue → Except DataError Bool
  | .bool b => .ok b
  | .tinyint n => .ok (n != 0)
  | .smallint n => .ok (n != 0)
  | .int n => .ok (n != 0)
  | .bigint n => .ok (n != 0)
  | .text s => readText target s (boolOfText? s)
  | .null => .error (.nullValue target)
  | v => .error (v.mismatch target)

def charOfText? (s : String) : Option Char :=
  match s.toList with
  | [c] => some c
  | _ => none

def toChar (target : String) : SqlValue → Except DataError Char
  | .char c => .ok c
  | .text s => readText target s (charOfText? s)
  | .null => .error (.nullValue target)
  | v => .error (v.mismatch target)

def toText (target : String) (v : SqlValue) : Except DataError String :=
  match v.plainText? with
  | some s => .ok s
  | none => if v.isNull then .error (.nullValue target) else .error (v.mismatch target)

def ofReading (r : Except Calendar.ReadError α) : Except DataError α :=
  r.mapError fun e => .parse (.calendar e)

def toUuid (target : String) : SqlValue → Except DataError Uuid
  | .uuid u => .ok u
  | .text s => (Uuid.read s).mapError fun e => .parse (.uuid e)
  | .null => .error (.nullValue target)
  | v => .error (v.mismatch target)

def toDate (target : String) : SqlValue → Except DataError Calendar.Date
  | .date d => .ok d
  | .dateTime t => .ok t.date
  | .timestamp t => .ok t.utc.date
  | .text s => ofReading (Calendar.Date.read s)
  | .null => .error (.nullValue target)
  | v => .error (v.mismatch target)

def toTime (target : String) : SqlValue → Except DataError Calendar.Time
  | .time t => .ok t
  | .dateTime t => .ok t.time
  | .text s => ofReading (Calendar.Time.read s)
  | .null => .error (.nullValue target)
  | v => .error (v.mismatch target)

def toDateTime (target : String) : SqlValue → Except DataError Calendar.DateTime
  | .dateTime t => .ok t
  | .timestamp t => .ok t.utc
  | .date d => .ok ⟨d, .midnight⟩
  | .text s => ofReading (Calendar.DateTime.read s)
  | .null => .error (.nullValue target)
  | v => .error (v.mismatch target)

def toTimestamp (target : String) : SqlValue → Except DataError Calendar.Timestamp
  | .timestamp t => .ok t
  | .dateTime t => .ok ⟨t⟩
  | .text s => ofReading (Calendar.Timestamp.read s)
  | .null => .error (.nullValue target)
  | v => .error (v.mismatch target)

/-- A text is read as JSON; any other value is written as JSON. -/
def asJson : SqlValue → Except DataError Json
  | .json j => .ok j
  | .text s =>
    match Json.read s with
    | .ok j => .ok j
    | .error e => .error (.parse (.json e))
  | v => .ok v.toJson

def toBetween (target : String) : SqlValue → Except DataError Between
  | .between l r => .ok ⟨l, r⟩
  | .null => .error (.nullValue target)
  | v => .error (v.mismatch target)

end SqlValue

namespace BaseType

/-- The least and the greatest whole number of a type, if it has whole numbers. -/
def integerRange? : BaseType → Option (Int × Int)
  | .int8 => some (-0x80, 0x7f)
  | .int16 => some (-0x8000, 0x7fff)
  | .int32 => some (-0x80000000, 0x7fffffff)
  | .int64 | .intSize => some (-0x8000000000000000, 0x7fffffffffffffff)
  | .nat8 => some (0, 0xff)
  | .nat16 => some (0, 0xffff)
  | .nat32 => some (0, 0xffffffff)
  | .nat64 | .natSize => some (0, 0xffffffffffffffff)
  | _ => none

def toInteger (b : BaseType) (v : SqlValue) : Except DataError Int :=
  match b.integerRange? with
  | some (least, greatest) => v.toIntegerIn b.name least greatest
  | none => .error (v.mismatch b.name)

def ofSql : (b : BaseType) → SqlValue → Except DataError b.Value
  | .bool, v => v.toBool "bool"
  | .int8, v => (BaseType.int8.toInteger v).map Int8.ofInt
  | .int16, v => (BaseType.int16.toInteger v).map Int16.ofInt
  | .int32, v => (BaseType.int32.toInteger v).map Int32.ofInt
  | .int64, v => (BaseType.int64.toInteger v).map Int64.ofInt
  | .intSize, v => (BaseType.intSize.toInteger v).map Int64.ofInt
  | .nat8, v => (BaseType.nat8.toInteger v).map UInt8.ofInt
  | .nat16, v => (BaseType.nat16.toInteger v).map UInt16.ofInt
  | .nat32, v => (BaseType.nat32.toInteger v).map UInt32.ofInt
  | .nat64, v => (BaseType.nat64.toInteger v).map UInt64.ofInt
  | .natSize, v => (BaseType.natSize.toInteger v).map UInt64.ofInt
  | .single, v => v.toSingle "f32"
  | .double, v => v.toDouble "f64"
  | .char, v => v.toChar "char"
  | .text, v => v.toText "String"
  | .json, v => v.asJson
  | .uuid, v => v.toUuid "Uuid"
  | .date, v => v.toDate "NaiveDate"
  | .time, v => v.toTime "NaiveTime"
  | .dateTime, v => v.toDateTime "NaiveDateTime"
  | .timestamp, v => v.toTimestamp "DateTime<Utc>"
  | .between, v => v.toBetween "Between"
  | .any, v => .ok v

end BaseType

namespace FieldType

def ofSql : (t : FieldType) → SqlValue → Except DataError t.Value
  | .base b, v => b.ofSql v
  | .option _, .null => .ok none
  | .option t, v => (t.ofSql v).map some
  | .list t, .list items => items.mapM t.ofSql
  | .list _, .null => .error (.nullValue "Vec")
  | .list t, v => (t.ofSql v).map fun x => [x]

end FieldType

end SqlMapper
