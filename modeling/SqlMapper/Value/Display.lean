import SqlMapper.Binary.Decimal
import SqlMapper.Value.Json

/-! Bind values as a reader of a report sees them. -/

namespace SqlMapper.SqlValue

/-- The text of a single value, without quotes; null and the values that are not single have
none. -/
def plainText? : SqlValue → Option String
  | .bool b => some (if b then "true" else "false")
  | .tinyint n => some (Decimal.ofInt n.toInt)
  | .smallint n => some (Decimal.ofInt n.toInt)
  | .int n => some (Decimal.ofInt n.toInt)
  | .bigint n => some (Decimal.ofInt n.toInt)
  | .float x => some x.toPlain
  | .double x => some x.toPlain
  | .char c => some c.toString
  | .text s => some s
  | .json j => some j.render
  | .uuid u => some u.toText
  | .date d => some d.toText
  | .time t => some t.toText
  | .dateTime t => some t.toText
  | .timestamp t => some t.toOffsetText
  | _ => none

def isShownQuoted : SqlValue → Bool
  | .char _ | .text _ | .uuid _ | .date _ | .time _ | .dateTime _ | .timestamp _ => true
  | _ => false

mutual

def display : SqlValue → String
  | .list items => "[" ++ ", ".intercalate (displayItems items) ++ "]"
  | .between left right => display left ++ " and " ++ display right
  | v =>
    match v.plainText? with
    | some s => if v.isShownQuoted then "'" ++ s ++ "'" else s
    | none => "NULL"

def displayItems : List SqlValue → List String
  | [] => []
  | x :: xs => display x :: displayItems xs

end

end SqlMapper.SqlValue
