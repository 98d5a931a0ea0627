import SqlMapper.Field.Type
import SqlMapper.Interchange.Value

/-! Native values, whose field type tells how they are read, and the written names of field
types. -/

namespace SqlMapper

namespace BaseType

@[reducible] def decoder : (b : BaseType) → Decode b.Value
  | .bool => inferInstanceAs (Decode Bool)
  | .int8 => inferInstanceAs (Decode Int8)
  | .int16 => inferInstanceAs (Decode Int16)
  | .int32 => inferInstanceAs (Decode Int32)
  | .int64 | .intSize => inferInstanceAs (Decode Int64)
  | .nat8 => inferInstanceAs (Decode UInt8)
  | .nat16 => inferInstanceAs (Decode UInt16)
  | .nat32 => inferInstanceAs (Decode UInt32)
  | .nat64 | .natSize => inferInstanceAs (Decode UInt64)
  | .single => inferInstanceAs (Decode Binary.Single)
  | .double => inferInstanceAs (Decode Binary.Double)
  | .char => inferInstanceAs (Decode Char)
  | .text => inferInstanceAs (Decode String)
  | .json => ⟨Json.ofEmbedded?⟩
  | .uuid => inferInstanceAs (Decode Uuid)
  | .date => inferInstanceAs (Decode Calendar.Date)
  | .time => inferInstanceAs (Decode Calendar.Time)
  | .dateTime => inferInstanceAs (Decode Calendar.DateTime)
  | .timestamp => inferInstanceAs (Decode Calendar.Timestamp)
  | .between => inferInstanceAs (Decode Between)
  | .any => inferInstanceAs (Decode SqlValue)

@[reducible] def encoder : (b : BaseType) → Encode b.Value
  | .bool => inferInstanceAs (Encode Bool)
  | .int8 => inferInstanceAs (Encode Int8)
  | .int16 => inferInstanceAs (Encode Int16)
  | .int32 => inferInstanceAs (Encode Int32)
  | .int64 | .intSize => inferInstanceAs (Encode Int64)
  | .nat8 => inferInstanceAs (Encode UInt8)
  | .nat16 => inferInstanceAs (Encode UInt16)
  | .nat32 => inferInstanceAs (Encode UInt32)
  | .nat64 | .natSize => inferInstanceAs (Encode UInt64)
  | .single => inferInstanceAs (Encode Binary.Single)
  | .double => inferInstanceAs (Encode Binary.Double)
  | .char => inferInstanceAs (Encode Char)
  | .text => inferInstanceAs (Encode String)
  | .json => ⟨Json.embed⟩
  | .uuid => inferInstanceAs (Encode Uuid)
  | .date => inferInstanceAs (Encode Calendar.Date)
  | .time => inferInstanceAs (Encode Calendar.Time)
  | .dateTime => inferInstanceAs (Encode Calendar.DateTime)
  | .timestamp => inferInstanceAs (Encode Calendar.Timestamp)
  | .between => inferInstanceAs (Encode Between)
  | .any => inferInstanceAs (Encode SqlValue)

def all : List BaseType :=
  [.bool, .int8, .int16, .int32, .int64, .intSize, .nat8, .nat16, .nat32, .nat64, .natSize,
   .single, .double, .char, .text, .json, .uuid, .date, .time, .dateTime, .timestamp, .between,
   .any]

/-- The written name, which says nothing of a timestamp's zone. -/
def writtenName : BaseType → String
  | .timestamp => "DateTime"
  | b => b.name

def ofWrittenName? (name : String) : Option BaseType :=
  all.find? fun b => b.writtenName == name

end BaseType

namespace FieldType

def decode? : (t : FieldType) → Json → Option t.Value
  | .base b, j => b.decoder.decode? j
  | .option _, .null => some none
  | .option t, j => (decode? t j).map some
  | .list t, .array items => items.mapM (decode? t)
  | .list _, _ => none

def encode : (t : FieldType) → t.Value → Json
  | .base b, v => b.encoder.encode v
  | .option _, none => .null
  | .option t, some v => encode t v
  | .list t, vs => .array (vs.map (encode t))

def inside? (front back : List Char) (cs : List Char) : Option (List Char) :=
  let count := cs.length - front.length - back.length
  let middle := (cs.drop front.length).take count
  if front ++ middle ++ back = cs then some middle else none

/-- What may stand around the name of a base type, with what it makes of the type. -/
def wrappers : List (String × String × (FieldType → FieldType)) :=
  [("Vec<Option<", ">>", fun t => list (option t)), ("Option<Vec<", ">>", fun t => option (list t)),
   ("Vec<Vec<", ">>", fun t => list (list t)), ("Option<", ">", option), ("Vec<", ">", list),
   ("", "", id)]

/-- The type that a written name stands for: a base type, or one in at most two wrappers. -/
def ofWrittenName? (name : String) : Option FieldType :=
  wrappers.findSome? fun (front, back, wrap) => do
    let inner ← inside? front.toList back.toList name.toList
    some (wrap (.base (← BaseType.ofWrittenName? (String.ofList inner))))

end FieldType

end SqlMapper
