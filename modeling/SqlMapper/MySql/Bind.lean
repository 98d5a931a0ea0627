import SqlMapper.MySql.Wire
import SqlMapper.Value.Json

/-! Bind values as the server takes them. Digits below the microsecond are cut off. -/

namespace SqlMapper.MySql

namespace DateParts

def ofDateTime? (t : Calendar.DateTime) : Option DateParts :=
  if 1000 ≤ t.date.year ∧ t.date.year ≤ 9999 then
    some ⟨t.date.year.toNat, t.date.month, t.date.day, t.time.hour, t.time.minute, t.time.second,
      t.time.nano / 1000⟩
  else none

end DateParts

def TimeParts.ofTime (t : Calendar.Time) : TimeParts :=
  ⟨false, 0, t.hour, t.minute, t.second, t.nano / 1000⟩

namespace Wire

def ofText (s : String) : Wire :=
  .bytes (Text.toUtf8 s)

/-- The value that is sent for a bind value. A date outside the years of the server has none. -/
def ofSql? : SqlValue → Option Wire
  | .null => some .null
  | .bool b => some (.int (if b then 1 else 0))
  | .tinyint n => some (.int n.toInt64)
  | .smallint n => some (.int n.toInt64)
  | .int n => some (.int n.toInt64)
  | .bigint n => some (.int n)
  | .float x => some (.float x)
  | .double x => some (.double x)
  | .char c => some (ofText c.toString)
  | .text s => some (ofText s)
  | .json j => some (ofText j.render)
  | .uuid u => some (ofText u.toText)
  | .date d => (DateParts.ofDateTime? ⟨d, .midnight⟩).map .date
  | .time t => some (.time (.ofTime t))
  | .dateTime t => (DateParts.ofDateTime? t).map .date
  | .timestamp t => (DateParts.ofDateTime? t.utc).map .date
  | .list items => some (ofText (SqlValue.list items).toJson.render)
  | .between left right => some (ofText (SqlValue.between left right).toJson.render)

/-- The values sent with a statement, `none` inside for a statement without any. -/
def ofParams? (params : List SqlValue) : Option (Option (List Wire)) :=
  if params.isEmpty then some none else (params.mapM ofSql?).map some

end Wire

end SqlMapper.MySql
