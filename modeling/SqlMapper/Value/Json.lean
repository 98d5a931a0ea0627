import SqlMapper.Calendar.Text
import SqlMapper.Json.Printer
import SqlMapper.Value.Basic

/-! Bind values as JSON. Writing keeps no kinds: a date is a string, a range an object of
`start` and `end`. Reading therefore finds fewer kinds than there are, and takes an object
whose only keys are `start` and `end` for a range. -/

namespace SqlMapper.SqlValue

/-- Whether the members name nothing but the bounds of a range, and at least one. -/
def areBounds (members : List (String × Json)) : Bool :=
  !members.isEmpty && members.all fun m => m.1 == "start" || m.1 == "end"

def ofJsonNumber (n : Json.Number) : SqlValue :=
  match n.toInt64? with
  | some i => .bigint (Int64.ofInt i)
  | none => .double n.toDouble

mutual

def ofJson : Json → SqlValue
  | .null => .null
  | .bool b => .bool b
  | .number n => ofJsonNumber n
  | .string s => .text s
  | .array items => .list (ofJsonItems items)
  | .object members =>
    if areBounds members then .between (boundOf "start" members) (boundOf "end" members)
    else .json (.object members)

def ofJsonItems : List Json → List SqlValue
  | [] => []
  | x :: xs => ofJson x :: ofJsonItems xs

/-- The value under a key, null if there is none. -/
def boundOf (key : String) : List (String × Json) → SqlValue
  | [] => .null
  | (k, x) :: rest => if k = key then ofJson x else boundOf key rest

end

mutual

def toJson : SqlValue → Json
  | .null => .null
  | .bool b => .bool b
  | .tinyint n => .ofInt64 n.toInt64
  | .smallint n => .ofInt64 n.toInt64
  | .int n => .ofInt64 n.toInt64
  | .bigint n => .ofInt64 n
  | .float x => .ofDouble x.toDouble
  | .double x => .ofDouble x
  | .char c => .string c.toString
  | .text s => .string s
  | .json j => j
  | .uuid u => .string u.toText
  | .date d => .string d.toText
  | .time t => .string t.toText
  | .dateTime t => .string t.toIsoText
  | .timestamp t => .string t.toZuluText
  | .list items => .array (toJsonItems items)
  | .between left right => .object [("end", toJson right), ("start", toJson left)]

def toJsonItems : List SqlValue → List Json
  | [] => []
  | x :: xs => toJson x :: toJsonItems xs

end

mutual

/-- The JSON text written directly: a single precision number with its own digits, a range
with its start first. -/
def serialize : SqlValue → String
  | .float x => x.toJsonText?.getD "null"
  | .list items => Json.renderArray (serializeItems items)
  | .between left right =>
    Json.renderObject [("start", serialize left), ("end", serialize right)]
  | v => v.toJson.render

def serializeItems : List SqlValue → List String
  | [] => []
  | x :: xs => serialize x :: serializeItems xs

end

end SqlMapper.SqlValue
