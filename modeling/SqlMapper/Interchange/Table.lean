import SqlMapper.Interchange.Condition
import SqlMapper.Table.Descriptor

/-! Tables: what is known of their columns, and the described fields of an object. In the
description of a field everything but its column and value may be left out. -/

namespace SqlMapper

instance : Encode ColumnMeta where
  encode c := .ofMembers
    [("field", encode c.field), ("column", encode c.column), ("keyword", encode c.keyword),
     ("compare_column", encode c.compareColumn), ("primary_key", encode c.primaryKey)]

instance : Encode TableMeta where
  encode t := .ofMembers
    [("table", encode t.table), ("columns", encode t.columns),
     ("primary_key", encode (t.primaryKey?.map (·.field)))]

/-- A refinement is a pair of its name and its argument. -/
instance : Decode ColumnMeta.Refinement where
  decode?
    | .array [.string "keyword", tag] => (decode? tag).map .keyword
    | .array [.string "compare_column", column] => (decode? column).map .compareColumn
    | .array [.string "primary_key", flag] => (decode? flag).map .primaryKey
    | _ => none

instance : Decode FieldDescriptor where
  decode? j := do
    let column ← j.at? "column"
    some ⟨← j.atD "name" column, column, ← j.atD "keyword" .eq,
      ← j.atD "compare_column" column, ← j.at? "value"⟩

instance : Encode FieldDescriptor where
  encode f := .ofMembers
    [("name", encode f.name), ("column", encode f.column), ("keyword", encode f.keyword),
     ("compare_column", encode f.compareColumn), ("value", encode f.value)]

instance : Decode TableDescriptor where
  decode? j := do some ⟨← j.at? "table", ← j.atD "primary_key" none, ← j.at? "fields"⟩

instance : Encode TableDescriptor where
  encode d := .ofMembers
    [("table", encode d.table), ("primary_key", encode d.primaryKey),
     ("fields", encode d.fields), ("empty", encode d.isEmpty), ("columns", encode d.columns)]

end SqlMapper
