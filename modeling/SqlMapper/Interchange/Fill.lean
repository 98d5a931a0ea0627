import SqlMapper.Fill.Rule
import SqlMapper.Interchange.Value

/-! Rules that fill columns. A rule has a counter's first number or a constant, which may be
null for none. -/

namespace SqlMapper

instance : Decode Mode where
  decode?
    | .string "read" => some .read
    | .string "insert" => some .insert
    | .string "update" => some .update
    | _ => none

instance : Decode Trigger where
  decode?
    | .string "insert" => some .insert
    | .string "update" => some .update
    | .string "write" => some .write
    | _ => none

instance : Decode FillRule where
  decode? j := do
    let source ← match j.get? "counter" with
      | some start => (decode? start).map FillSource.counter
      | none => (j.at? "value").map FillSource.constant
    some ⟨← j.at? "on", ← j.at? "column", source⟩

end SqlMapper
