import SqlMapper.Calendar.Time
import SqlMapper.Json.Basic
import SqlMapper.Uuid

/-! Bind values: what conditions compare with and columns hold. A list and a range are
values too, but not single ones: they stand for several placeholders, and no column
stores them. -/

namespace SqlMapper

inductive SqlValue where
  | null
  | bool (b : Bool)
  | tinyint (n : Int8)
  | smallint (n : Int16)
  | int (n : Int32)
  | bigint (n : Int64)
  | float (x : Binary.Single)
  | double (x : Binary.Double)
  | char (c : Char)
  | text (s : String)
  | json (j : Json)
  | uuid (u : Uuid)
  | date (d : Calendar.Date)
  | time (t : Calendar.Time)
  | dateTime (t : Calendar.DateTime)
  | timestamp (t : Calendar.Timestamp)
  | list (items : List SqlValue)
  | between (left right : SqlValue)

instance : Inhabited SqlValue := ⟨.null⟩

structure Between where
  left : SqlValue
  right : SqlValue

namespace SqlValue

def isNull : SqlValue → Bool
  | .null => true
  | _ => false

/-- Null and the empty text. A condition over a blank value is left out. -/
def isBlank : SqlValue → Bool
  | .null => true
  | .text s => s.isEmpty
  | _ => false

def isZero : SqlValue → Bool
  | .null => true
  | .bool b => !b
  | .tinyint n => n == 0
  | .smallint n => n == 0
  | .int n => n == 0
  | .bigint n => n == 0
  | .float x => x.isZero
  | .double x => x.isZero
  | .char c => c == '\u0000'
  | .text s => s.isEmpty
  | .json .null => true
  | .json _ => false
  | .uuid u => u == .nil
  | .date d => d == .epoch
  | .time t => t == .midnight
  | .dateTime t => t == .epoch
  | .timestamp t => t == .epoch
  | .list items => items.isEmpty
  | .between left right => left.isBlank && right.isBlank

def isScalar : SqlValue → Bool
  | .list _ => false
  | .between _ _ => false
  | _ => true

def typeName : SqlValue → String
  | .null => "Null"
  | .bool _ => "Bool"
  | .tinyint _ => "Tinyint"
  | .smallint _ => "Smallint"
  | .int _ => "Int"
  | .bigint _ => "Bigint"
  | .float _ => "Float"
  | .double _ => "Double"
  | .char _ => "Char"
  | .text _ => "Text"
  | .json _ => "Json"
  | .uuid _ => "Uuid"
  | .date _ => "Date"
  | .time _ => "Time"
  | .dateTime _ => "DateTime"
  | .timestamp _ => "Timestamp"
  | .list _ => "List"
  | .between _ _ => "Between"

mutual

/-- Equality of values. Values of different kinds differ, and floating point numbers compare
as numbers, so a value that is not a number differs from itself. -/
def eq : SqlValue → SqlValue → Bool
  | .null, .null => true
  | .bool a, .bool b => a == b
  | .tinyint m, .tinyint n => m == n
  | .smallint m, .smallint n => m == n
  | .int m, .int n => m == n
  | .bigint m, .bigint n => m == n
  | .float x, .float y => x.eq y
  | .double x, .double y => x.eq y
  | .char c, .char d => c == d
  | .text s, .text t => s == t
  | .json j, .json k => j.eq k
  | .uuid u, .uuid v => u == v
  | .date d, .date e => d == e
  | .time t, .time u => t == u
  | .dateTime t, .dateTime u => t == u
  | .timestamp t, .timestamp u => t == u
  | .list xs, .list ys => eqItems xs ys
  | .between l r, .between l' r' => eq l l' && eq r r'
  | _, _ => false

def eqItems : List SqlValue → List SqlValue → Bool
  | [], [] => true
  | x :: xs, y :: ys => eq x y && eqItems xs ys
  | _, _ => false

end

end SqlValue

namespace Between

/-- Whether both bounds carry a value. -/
def isComplete (b : Between) : Bool :=
  !b.left.isBlank && !b.right.isBlank

def isEmpty (b : Between) : Bool :=
  b.left.isBlank && b.right.isBlank

def toValue (b : Between) : SqlValue :=
  .between b.left b.right

end Between

end SqlMapper
