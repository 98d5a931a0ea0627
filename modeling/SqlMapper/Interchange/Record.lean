import SqlMapper.Interchange.Field
import SqlMapper.Record.Fields

/-! Objects by the names of their fields, with rows as lists of named values. A field that
is left out has its default. -/

namespace SqlMapper

/-- The name of a field without the mark that lets it be a reserved word. -/
def FieldSpec.plainName (spec : FieldSpec) : String :=
  match spec.ident.toList with
  | 'r' :: '#' :: cs => String.ofList cs
  | _ => spec.ident

namespace Fields

def decode? : (f : Fields) → Json → Option f.Object
  | .nil, _ => some ()
  | .value spec type rest, j => do
    let v ← match j.get? spec.plainName with
      | none => some type.default
      | some v => type.decode? v
    some (v, ← rest.decode? j)
  | .nested spec inner rest, j => do
    let v ← match j.get? spec.plainName with
      | none => some inner.default
      | some v => inner.decode? v
    some (v, ← rest.decode? j)

def encodeMembers : (f : Fields) → f.Object → List (String × Json)
  | .nil, _ => []
  | .value spec type rest, (v, vs) => (spec.plainName, type.encode v) :: rest.encodeMembers vs
  | .nested spec inner rest, (v, vs) =>
    (spec.plainName, .ofMembers (inner.encodeMembers v)) :: rest.encodeMembers vs

def encode (f : Fields) (object : f.Object) : Json :=
  .ofMembers (f.encodeMembers object)

end Fields

instance : Decode Row := ⟨fun j => (decode? j).map Row.ofList⟩

instance : Encode Row := ⟨fun row => encode row.columns.entries⟩

end SqlMapper
