import SqlMapper.Interchange.Bits
import SqlMapper.Interchange.Calendar
import SqlMapper.Json.Printer
import SqlMapper.Json.Reader
import SqlMapper.Value.Basic

/-! Bind values with their kinds: the kind's name under `t` and the content under `v`. A JSON
value inside is given as its text. -/

namespace SqlMapper

instance : Decode Uuid where
  decode? j := do (Uuid.read (← decode? j)).toOption

instance : Encode Uuid := ⟨fun u => .string u.toText⟩

def Json.ofEmbedded? (j : Json) : Option Json := do
  Json.ofText? (← decode? j)

def Json.embed (j : Json) : Json := .string j.render

namespace SqlValue

/-- The value of a named kind that holds no further values. -/
def ofPlain? (kind : String) (content : Json) : Option SqlValue :=
  match kind with
  | "Bool" => (decode? content).map bool
  | "Tinyint" => (decode? content).map tinyint
  | "Smallint" => (decode? content).map smallint
  | "Int" => (decode? content).map int
  | "Bigint" => (decode? content).map bigint
  | "Float" => (decode? content).map float
  | "Double" => (decode? content).map double
  | "Char" => (decode? content).map char
  | "Text" => (decode? content).map text
  | "Json" => content.ofEmbedded?.map json
  | "Uuid" => (decode? content).map uuid
  | "Date" => (decode? content).map date
  | "Time" => (decode? content).map time
  | "DateTime" => (decode? content).map dateTime
  | "Timestamp" => (decode? content).map timestamp
  | _ => none

mutual

def ofTagged? : Json → Option SqlValue
  | .object members =>
    match members.lookup "t" with
    | some (.string "Null") => some .null
    | some (.string kind) => ofMembers? kind members
    | _ => none
  | _ => none

def ofMembers? (kind : String) : List (String × Json) → Option SqlValue
  | [] => none
  | (key, content) :: rest =>
    if key = "v" then ofContent? kind content else ofMembers? kind rest

def ofContent? (kind : String) : Json → Option SqlValue
  | .array items =>
    if kind = "List" then (ofItems? items).map .list
    else if kind = "Between" then
      match ofItems? items with
      | some [left, right] => some (.between left right)
      | _ => none
    else ofPlain? kind (.array items)
  | content => ofPlain? kind content

def ofItems? : List Json → Option (List SqlValue)
  | [] => some []
  | x :: xs => do some ((← ofTagged? x) :: (← ofItems? xs))

end

def tagged (kind : String) (content : Json) : Json :=
  .object [("t", .string kind), ("v", content)]

mutual

def toTagged : SqlValue → Json
  | .null => .object [("t", .string "Null")]
  | .bool b => tagged "Bool" (encode b)
  | .tinyint n => tagged "Tinyint" (encode n)
  | .smallint n => tagged "Smallint" (encode n)
  | .int n => tagged "Int" (encode n)
  | .bigint n => tagged "Bigint" (encode n)
  | .float x => tagged "Float" (encode x)
  | .double x => tagged "Double" (encode x)
  | .char c => tagged "Char" (encode c)
  | .text s => tagged "Text" (encode s)
  | .json j => tagged "Json" j.embed
  | .uuid u => tagged "Uuid" (encode u)
  | .date d => tagged "Date" (encode d)
  | .time t => tagged "Time" (encode t)
  | .dateTime t => tagged "DateTime" (encode t)
  | .timestamp t => tagged "Timestamp" (encode t)
  | .list items => tagged "List" (.array (toTaggedItems items))
  | .between left right => tagged "Between" (.array [toTagged left, toTagged right])

def toTaggedItems : List SqlValue → List Json
  | [] => []
  | x :: xs => toTagged x :: toTaggedItems xs

end

end SqlValue

instance : Decode SqlValue := ⟨SqlValue.ofTagged?⟩

instance : Encode SqlValue := ⟨SqlValue.toTagged⟩

instance : Decode Between := ⟨fun j => (decode? j).map fun (l, r) => ⟨l, r⟩⟩

instance : Encode Between := ⟨fun b => encode (b.left, b.right)⟩

end SqlMapper
