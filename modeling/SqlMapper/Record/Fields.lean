import SqlMapper.Declaration.Field
import SqlMapper.Row.Basic

/-! Structs as data: their fields in order, each a native value or a struct of its own.
Objects, columns, write-back and decoding follow from the fields. -/

namespace SqlMapper

inductive Fields where
  | nil
  | value (spec : FieldSpec) (type : FieldType) (rest : Fields)
  | nested (spec : FieldSpec) (inner : Fields) (rest : Fields)

namespace Fields

abbrev Object : Fields → Type
  | .nil => Unit
  | .value _ type rest => type.Value × rest.Object
  | .nested _ inner rest => inner.Object × rest.Object

def default : (f : Fields) → f.Object
  | .nil => ()
  | .value _ type rest => (type.default, rest.default)
  | .nested _ inner rest => (inner.default, rest.default)

/-- The columns of the fields that exist; a nested struct adds its own. -/
def columns : Fields → List ColumnMeta
  | .nil => []
  | .value spec _ rest =>
    if spec.exist then spec.columnMeta :: rest.columns else rest.columns
  | .nested spec inner rest =>
    if spec.exist then inner.columns ++ rest.columns else rest.columns

/-- The bind value of a native value, none if it is empty. -/
def cell (type : FieldType) (v : type.Value) : Option SqlValue :=
  if type.isZero v then none else some (type.toSql v)

def values : (f : Fields) → f.Object → List (Option SqlValue)
  | .nil, _ => []
  | .value spec type rest, (v, vs) =>
    if spec.exist then cell type v :: rest.values vs else rest.values vs
  | .nested spec inner rest, (v, vs) =>
    if spec.exist then inner.values v ++ rest.values vs else rest.values vs

/-- Puts a value into the first field with the column; `none` if there is no such field. -/
def fill (column : String) (value : SqlValue) :
    (f : Fields) → f.Object → Except DataError (Option f.Object)
  | .nil, _ => .ok none
  | .value spec type rest, (v, vs) =>
    if spec.exist && column == spec.column then
      (type.ofSql value).map fun v => some (v, vs)
    else (rest.fill column value vs).map (·.map fun vs => (v, vs))
  | .nested spec inner rest, (v, vs) =>
    if spec.exist then
      match inner.fill column value v with
      | .error e => .error e
      | .ok (some v) => .ok (some (v, vs))
      | .ok none => (rest.fill column value vs).map (·.map fun vs => (v, vs))
    else (rest.fill column value vs).map (·.map fun vs => (v, vs))

/-- The object that a row holds. Missing and null columns, and fields that do not exist in
the table, keep their default. -/
def ofRow (row : Row) : (f : Fields) → Except DataError f.Object
  | .nil => .ok ()
  | .value spec type rest => do
    let v ← if spec.exist then row.getOrDefault type spec.column else .ok type.default
    return (v, ← rest.ofRow row)
  | .nested spec inner rest => do
    let v ← if spec.exist then inner.ofRow row else .ok inner.default
    return (v, ← rest.ofRow row)

end Fields

end SqlMapper
