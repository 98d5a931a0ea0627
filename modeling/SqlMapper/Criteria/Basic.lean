import SqlMapper.Error
import SqlMapper.Fill.Registry
import SqlMapper.Log
import SqlMapper.Table.Descriptor

/-! Types whose objects name rows: a table, the values of an object in the order of its
columns, and a way to write a value into the field of a column. -/

namespace SqlMapper

/-- `values` has one entry for each column, none for an empty field. `fill` answers `none`
if no field has the column. -/
structure Criteria (α : Type) where
  name : String
  table : TableMeta
  values : α → List (Option SqlValue)
  fill : String → SqlValue → α → Except DataError (Option α)

/-- What filling the empty columns of an object comes to. An object keeps what was written
into it before an error. -/
structure Filling (α σ : Type) where
  fields : Except DataError (List FieldDescriptor)
  object : α
  state : σ
  log : Log

namespace Filling

def andField (f : FieldDescriptor) (events : Log) (r : Filling α σ) : Filling α σ :=
  { r with fields := r.fields.map (f :: ·), log := events ++ r.log }

end Filling

namespace Criteria

def cells (c : Criteria α) (object : α) : List (ColumnMeta × Option SqlValue) :=
  c.table.columns.zip (c.values object)

/-- The fields of an object that are not empty. -/
def extract (c : Criteria α) (object : α) : TableDescriptor :=
  .ofMeta c.table ((c.cells object).filterMap fun cell =>
    cell.2.map (FieldDescriptor.ofColumn cell.1))

def unmappedFill (c : Criteria α) (column : String) : LogEvent :=
  ⟨.warn, "fill value of \x60" ++ column ++ "\x60 has no field on " ++ c.name⟩

/-- Fills empty cells in their order. A value made for a cell is written into the object
before it is taken. -/
def fillCells (c : Criteria α) (fills : FillRegistry σ) (mode : Mode) :
    List (ColumnMeta × Option SqlValue) → α → σ → Filling α σ
  | [], object, state => ⟨.ok [], object, state, []⟩
  | (column, some value) :: rest, object, state =>
    (c.fillCells fills mode rest object state).andField (.ofColumn column value) []
  | (column, none) :: rest, object, state =>
    match fills.fill mode column.column state with
    | (none, state) => c.fillCells fills mode rest object state
    | (some value, state) =>
      match c.fill column.column value object with
      | .error e => ⟨.error e, object, state, []⟩
      | .ok none =>
        (c.fillCells fills mode rest object state).andField (.ofColumn column value)
          [c.unmappedFill column.column]
      | .ok (some object) =>
        (c.fillCells fills mode rest object state).andField (.ofColumn column value) []

def fillObject (c : Criteria α) (fills : FillRegistry σ) (mode : Mode) (object : α) (state : σ) :
    Filling α σ :=
  c.fillCells fills mode (c.cells object) object state

def describe (c : Criteria α) (r : Filling α σ) : Except DataError TableDescriptor :=
  r.fields.map (.ofMeta c.table)

end Criteria

end SqlMapper
