import SqlMapper.Criteria.Basic
import SqlMapper.Declaration.Struct
import SqlMapper.Record.Fields

/-! Structs that name a table, made from their declarations. -/

namespace SqlMapper

structure Record where
  name : String
  table : String
  fields : Fields

inductive Content where
  | value (type : FieldType)
  | struct (fields : Fields)

def Fields.ofSpecs : List (FieldSpec × Content) → Fields
  | [] => .nil
  | (spec, .value type) :: rest => .value spec type (ofSpecs rest)
  | (spec, .struct inner) :: rest => .nested spec inner (ofSpecs rest)

namespace Record

abbrev Object (r : Record) : Type := r.fields.Object

def ofDeclaration (d : Declaration) (contents : List Content) : Except DeclarationError Record := do
  let tables ← d.tables
  let specs ← d.fieldSpecs "Criteria"
  return ⟨d.name, d.tableName tables, .ofSpecs (specs.zip contents)⟩

def tableMeta (r : Record) : TableMeta :=
  ⟨r.table, r.fields.columns⟩

def criteria (r : Record) : Criteria r.Object where
  name := r.name
  table := r.tableMeta
  values := r.fields.values
  fill := r.fields.fill

end Record

end SqlMapper
