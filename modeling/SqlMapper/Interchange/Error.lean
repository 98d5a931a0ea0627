import SqlMapper.Declaration.Error
import SqlMapper.Interchange.Basic
import SqlMapper.Mapper.Error

/-! Results: the value of a success under `ok`, and a failure by the name of its kind with
its message. -/

namespace SqlMapper

def failure (kind message : String) : Json :=
  .ofMembers [("error", .string kind), ("message", .string message)]

/-- A failure of which nothing but the kind is told. -/
def silentFailure (kind : String) : Json :=
  .object [("error", .string kind)]

instance : Encode DataError := ⟨fun e => failure e.kind e.message⟩

/-- An error that wraps another comes with the message of that one. A refused URL has no
message. -/
instance : Encode MapperError where
  encode
    | .config .urlRefused => silentFailure "Config"
    | e =>
      match e.source? with
      | none => failure e.kind e.message
      | some source => .ofMembers
          [("error", encode e.kind), ("message", encode e.message), ("source", encode source)]

instance : Encode ConfigError := ⟨fun e => encode (MapperError.config e)⟩

instance : Encode DeclarationError where
  encode e := .ofMembers
    [("error", .string "abort"), ("message", encode e.message), ("help", encode e.help?)]

instance [Encode ε] [Encode α] : Encode (Except ε α) where
  encode
    | .ok a => .object [("ok", encode a)]
    | .error e => encode e

end SqlMapper
