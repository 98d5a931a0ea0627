import SqlMapper.Json.Fields
import SqlMapper.Value.Json

/-! Bind values and ranges read from JSON texts. -/

namespace SqlMapper

/-- A bind value in a text whose containers may still nest `depth` deep. -/
def SqlValue.ofSource? (depth : Nat) (s : Json.Source) : Option SqlValue :=
  (s.toJson? depth).map SqlValue.ofJson

def SqlValue.ofText? (s : String) : Option SqlValue :=
  (Json.ofText? s).map SqlValue.ofJson

def Between.ofText? (s : String) : Option Between := do
  let source ← Json.Source.ofText? s
  match ← source.fields? ["start", "end"] with
  | [left, right] =>
    let bound := Json.Source.optional .null (SqlValue.ofSource? (Json.nestingLimit - 1))
    some ⟨← bound left, ← bound right⟩
  | _ => none

def Between.serialize (b : Between) : String :=
  b.toValue.serialize

end SqlMapper
