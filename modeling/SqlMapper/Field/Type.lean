import SqlMapper.Value.Basic
import SqlMapper.Decimal.Integer

/-! The types that fields of entities have: a base type, or options and lists of types.
Each has native values, an empty value, and a bind value for every native one. -/

namespace SqlMapper

inductive BaseType where
  | bool
  | int8
  | int16
  | int32
  | int64
  | intSize
  | nat8
  | nat16
  | nat32
  | nat64
  | natSize
  | single
  | double
  | char
  | text
  | json
  | uuid
  | date
  | time
  | dateTime
  | timestamp
  | between
  | any
  deriving DecidableEq, Repr

namespace BaseType

/-- Sizes are 64 bits wide. -/
abbrev Value : BaseType → Type
  | .bool => Bool
  | .int8 => Int8
  | .int16 => Int16
  | .int32 => Int32
  | .int64 | .intSize => Int64
  | .nat8 => UInt8
  | .nat16 => UInt16
  | .nat32 => UInt32
  | .nat64 | .natSize => UInt64
  | .single => Binary.Single
  | .double => Binary.Double
  | .char => Char
  | .text => String
  | .json => Json
  | .uuid => Uuid
  | .date => Calendar.Date
  | .time => Calendar.Time
  | .dateTime => Calendar.DateTime
  | .timestamp => Calendar.Timestamp
  | .between => Between
  | .any => SqlValue

/-- The name by which errors call the type. -/
def name : BaseType → String
  | .bool => "bool"
  | .int8 => "i8"
  | .int16 => "i16"
  | .int32 => "i32"
  | .int64 => "i64"
  | .intSize => "isize"
  | .nat8 => "u8"
  | .nat16 => "u16"
  | .nat32 => "u32"
  | .nat64 => "u64"
  | .natSize => "usize"
  | .single => "f32"
  | .double => "f64"
  | .char => "char"
  | .text => "String"
  | .json => "Json"
  | .uuid => "Uuid"
  | .date => "NaiveDate"
  | .time => "NaiveTime"
  | .dateTime => "NaiveDateTime"
  | .timestamp => "DateTime<Utc>"
  | .between => "Between"
  | .any => "SqlValue"

/-- An unsigned 64-bit number: signed if it fits, otherwise its digits. -/
def ofNat64 (n : UInt64) : SqlValue :=
  if n.toNat < 0x8000000000000000 then .bigint n.toInt64 else .text (Decimal.ofNat n.toNat)

/-- The bind value of a native value. Unsigned numbers take the next wider signed kind. -/
def toSql : (b : BaseType) → b.Value → SqlValue
  | .bool, v => .bool v
  | .int8, n => .tinyint n
  | .int16, n => .smallint n
  | .int32, n => .int n
  | .int64, n | .intSize, n => .bigint n
  | .nat8, n => .smallint n.toUInt16.toInt16
  | .nat16, n => .int n.toUInt32.toInt32
  | .nat32, n => .bigint n.toUInt64.toInt64
  | .nat64, n | .natSize, n => ofNat64 n
  | .single, x => .float x
  | .double, x => .double x
  | .char, c => .char c
  | .text, s => .text s
  | .json, j => .json j
  | .uuid, u => .uuid u
  | .date, d => .date d
  | .time, t => .time t
  | .dateTime, t => .dateTime t
  | .timestamp, t => .timestamp t
  | .between, b => b.toValue
  | .any, v => v

def default : (b : BaseType) → b.Value
  | .bool => false
  | .int8 => 0
  | .int16 => 0
  | .int32 => 0
  | .int64 | .intSize => (0 : Int64)
  | .nat8 => 0
  | .nat16 => 0
  | .nat32 => 0
  | .nat64 | .natSize => (0 : UInt64)
  | .single => .zero
  | .double => .zero
  | .char => '\u0000'
  | .text => ""
  | .json => .null
  | .uuid => .nil
  | .date => .epoch
  | .time => .midnight
  | .dateTime => .epoch
  | .timestamp => .epoch
  | .between => ⟨.null, .null⟩
  | .any => .null

def isZero : (b : BaseType) → b.Value → Bool
  | .bool, v => !v
  | .int8, n => n == 0
  | .int16, n => n == 0
  | .int32, n => n == 0
  | .int64, n | .intSize, n => n == (0 : Int64)
  | .nat8, n => n == 0
  | .nat16, n => n == 0
  | .nat32, n => n == 0
  | .nat64, n | .natSize, n => n == (0 : UInt64)
  | .single, x => x.isZero
  | .double, x => x.isZero
  | .char, c => c == '\u0000'
  | .text, s => s.isEmpty
  | .json, .null => true
  | .json, _ => false
  | .uuid, u => u == .nil
  | .date, d => d == .epoch
  | .time, t => t == .midnight
  | .dateTime, t => t == .epoch
  | .timestamp, t => t == .epoch
  | .between, b => b.isEmpty
  | .any, v => v.isZero

end BaseType

inductive FieldType where
  | base (b : BaseType)
  | option (t : FieldType)
  | list (t : FieldType)
  deriving DecidableEq, Repr

namespace FieldType

abbrev Value : FieldType → Type
  | .base b => b.Value
  | .option t => Option t.Value
  | .list t => List t.Value

def toSql : (t : FieldType) → t.Value → SqlValue
  | .base b, v => b.toSql v
  | .option _, none => .null
  | .option t, some v => t.toSql v
  | .list t, vs => .list (vs.map t.toSql)

def default : (t : FieldType) → t.Value
  | .base b => b.default
  | .option _ => none
  | .list _ => []

/-- An option is empty only where nothing is in it, whatever that would be. -/
def isZero : (t : FieldType) → t.Value → Bool
  | .base b, v => b.isZero v
  | .option _, v => v.isNone
  | .list _, v => v.isEmpty

end FieldType

end SqlMapper
