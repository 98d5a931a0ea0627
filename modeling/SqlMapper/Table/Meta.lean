import SqlMapper.Condition.Keyword

/-! What is known of a table and its columns before there is any object. -/

namespace SqlMapper

/-- A column: the field it belongs to, the operator of its condition, and the column on the
left of that condition. -/
structure ColumnMeta where
  field : String
  column : String
  keyword : Keyword
  compareColumn : String
  primaryKey : Bool
  deriving DecidableEq, Repr

namespace ColumnMeta

/-- A column that is compared with itself for equality. -/
def plain (field column : String) : ColumnMeta :=
  ⟨field, column, .eq, column, false⟩

/-- Takes the operator of a tag, and the column it compares with if it names one. -/
def withKeyword (c : ColumnMeta) (tag : String) : ColumnMeta :=
  let (keyword, column) := Keyword.parseTag tag
  { c with keyword, compareColumn := column.getD c.compareColumn }

def withCompareColumn (c : ColumnMeta) (column : String) : ColumnMeta :=
  if column.isEmpty then c else { c with compareColumn := column }

def withPrimaryKey (c : ColumnMeta) (primaryKey : Bool) : ColumnMeta :=
  { c with primaryKey }

inductive Refinement where
  | keyword (tag : String)
  | compareColumn (column : String)
  | primaryKey (flag : Bool)

def refine (c : ColumnMeta) : Refinement → ColumnMeta
  | .keyword tag => c.withKeyword tag
  | .compareColumn column => c.withCompareColumn column
  | .primaryKey flag => c.withPrimaryKey flag

def Refinement.log : Refinement → Log
  | .keyword tag => Keyword.parseTagLog tag
  | _ => []

end ColumnMeta

structure TableMeta where
  table : String
  columns : List ColumnMeta
  deriving DecidableEq, Repr

namespace TableMeta

/-- The last column marked as the key, or else the last one named `id`. -/
def primaryKey? (t : TableMeta) : Option ColumnMeta :=
  let last := t.columns.reverse
  (last.find? fun c => c.primaryKey).or
    (last.find? fun c => Text.eqIgnoreAsciiCase c.column "id")

def column? (t : TableMeta) (column : String) : Option ColumnMeta :=
  t.columns.find? fun c => c.column == column

end TableMeta

end SqlMapper
