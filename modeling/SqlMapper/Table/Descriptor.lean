import SqlMapper.Table.Meta
import SqlMapper.Value.Basic

/-! The fields of one object that carry a value, with what is known of their columns. -/

namespace SqlMapper

structure FieldDescriptor where
  name : String
  column : String
  keyword : Keyword
  compareColumn : String
  value : SqlValue

def FieldDescriptor.ofColumn (c : ColumnMeta) (value : SqlValue) : FieldDescriptor :=
  ⟨c.field, c.column, c.keyword, c.compareColumn, value⟩

structure TableDescriptor where
  table : String
  primaryKey : Option String
  fields : List FieldDescriptor

namespace TableDescriptor

def ofMeta (t : TableMeta) (fields : List FieldDescriptor) : TableDescriptor :=
  ⟨t.table, t.primaryKey?.map (·.column), fields⟩

def field? (d : TableDescriptor) (column : String) : Option FieldDescriptor :=
  d.fields.find? fun f => f.column == column

def columns (d : TableDescriptor) : List String :=
  d.fields.map (·.column)

def isEmpty (d : TableDescriptor) : Bool :=
  d.fields.isEmpty

end TableDescriptor

end SqlMapper
