import SqlMapper.Interchange.Error
import SqlMapper.Interchange.Value
import SqlMapper.MySql.Connection

/-! What goes to a server and comes from it: values with their kinds, the kind's name under
`m` and the content under `v`, results, and the events that reach the server. -/

namespace SqlMapper.MySql

instance : Decode DateParts where
  decode?
    | .array [year, month, day, hour, minute, second, micro] => do
      some ⟨← year.natBelow? 0x10000, ← month.natBelow? 0x100, ← day.natBelow? 0x100,
        ← hour.natBelow? 0x100, ← minute.natBelow? 0x100, ← second.natBelow? 0x100,
        ← micro.natBelow? 0x100000000⟩
    | _ => none

instance : Encode DateParts where
  encode p := encode [p.year, p.month, p.day, p.hour, p.minute, p.second, p.micro]

/-- The sign of a span is 1 if it is negative and else 0. -/
instance : Decode TimeParts where
  decode?
    | .array [sign, days, hour, minute, second, micro] => do
      some ⟨(← sign.natBelow? 2) == 1, ← days.natBelow? 0x100000000, ← hour.natBelow? 0x100,
        ← minute.natBelow? 0x100, ← second.natBelow? 0x100, ← micro.natBelow? 0x100000000⟩
    | _ => none

instance : Encode TimeParts where
  encode p := encode [p.negative.toNat, p.days, p.hour, p.minute, p.second, p.micro]

def Wire.ofContent? (kind : String) (content : Json) : Option Wire :=
  match kind with
  | "Bytes" => do
    let digits : String ← decode? content
    (Hexadecimal.bytes? digits.toList).map bytes
  | "Int" => (decode? content).map int
  | "UInt" => (decode? content).map uint
  | "Float" => (decode? content).map float
  | "Double" => (decode? content).map double
  | "Date" => (decode? content).map date
  | "Time" => (decode? content).map time
  | _ => none

instance : Decode Wire where
  decode? j := do
    let kind ← j.at? "m"
    if kind = "NULL" then some .null else Wire.ofContent? kind (← j.get? "v")

def Wire.tagged (kind : String) (content : Json) : Json :=
  .object [("m", .string kind), ("v", content)]

instance : Encode Wire where
  encode
    | .null => .object [("m", .string "NULL")]
    | .bytes bytes => Wire.tagged "Bytes" (.string (String.ofList (Hexadecimal.ofBytes bytes)))
    | .int n => Wire.tagged "Int" (encode n)
    | .uint n => Wire.tagged "UInt" (encode n)
    | .float x => Wire.tagged "Float" (encode x)
    | .double x => Wire.tagged "Double" (encode x)
    | .date parts => Wire.tagged "Date" (encode parts)
    | .time parts => Wire.tagged "Time" (encode parts)

namespace ColumnType

def ruled : List (String × ColumnType) :=
  [("TINY", .tiny), ("SHORT", .short), ("YEAR", .year), ("LONG", .long), ("INT24", .int24),
   ("LONGLONG", .longLong), ("FLOAT", .float), ("DOUBLE", .double), ("TIMESTAMP", .timestamp),
   ("DATE", .date), ("NEWDATE", .newDate), ("TIME", .time), ("DATETIME", .dateTime),
   ("JSON", .json), ("BIT", .bit)]

def unruled : List String :=
  ["DECIMAL", "NULL", "VARCHAR", "TIMESTAMP2", "DATETIME2", "TIME2", "TYPED_ARRAY", "VECTOR",
   "UNKNOWN", "NEWDECIMAL", "ENUM", "SET", "TINY_BLOB", "MEDIUM_BLOB", "LONG_BLOB", "BLOB",
   "VAR_STRING", "STRING", "GEOMETRY"]

def ofName? (name : String) : Option ColumnType :=
  (ruled.lookup name).or (if unruled.contains name then some .other else none)

end ColumnType

instance : Decode ColumnType := ⟨fun j => do ColumnType.ofName? (← decode? j)⟩

instance : Decode Reply where
  decode? j := do some ⟨← j.at? "columns", ← j.at? "rows"⟩

instance : Decode WriteOutcome := ⟨fun j => (decode? j).map fun (n, key) => ⟨n, key⟩⟩

instance : Encode Event where
  encode
    | .pool => encode ["pool"]
    | .connect => encode ["connect"]
    | .prepare sql => encode ["prepare", sql]
    | .execute params => .array [.string "execute", encode params]
    | .text sql => encode ["text", sql]

/-- Of an error in the data nothing but the kind is told. -/
instance : Encode CallError where
  encode
    | .data e => silentFailure e.kind
    | .panic => silentFailure "panic"
    | e => failure "anyhow" e.message

end SqlMapper.MySql
