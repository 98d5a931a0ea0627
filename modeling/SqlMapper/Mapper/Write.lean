import SqlMapper.Criteria.Basic
import SqlMapper.Mapper.Basic
import SqlMapper.Statement.Write

/-! Operations that write. Empty columns of an entity are filled before the statement is made
of it, and the entity keeps what was written into it whatever comes of the statement. -/

namespace SqlMapper.Mapper

abbrev EntityOperation (τ σ α : Type) := StateM (Session τ σ) (Except MapperError UInt64 × α)

def handOver (m : Mapper τ σ) (statement : Except MapperError Statement) : Operation τ σ UInt64 :=
  match statement with
  | .error e => throw e
  | .ok statement => m.execute statement

def afterFilling (s : Session τ σ) (r : Filling α σ) : Session τ σ :=
  { s with fillState := r.state, log := s.log ++ r.log }

def writeEntity (m : Mapper τ σ) (c : Criteria α) (mode : Mode)
    (assemble : TableDescriptor → Except MapperError Statement) (entity : α) :
    EntityOperation τ σ α := fun s =>
  let r := c.fillObject m.fills mode entity s.fillState
  let statement := ((c.describe r).mapError .data).bind assemble
  let (result, s) := (m.handOver statement).run (afterFilling s r)
  ((result, r.object), s)

def insert (m : Mapper τ σ) (c : Criteria α) (entity : α) : EntityOperation τ σ α :=
  m.writeEntity c .insert Dialect.mysql.insert entity

/-- Fills several objects in turn, as far as none of them fails. -/
def fillAll (m : Mapper τ σ) (c : Criteria α) (mode : Mode) :
    List α → Session τ σ → Except MapperError (List TableDescriptor) × List α × Session τ σ
  | [], s => (.ok [], [], s)
  | entity :: rest, s =>
    let r := c.fillObject m.fills mode entity s.fillState
    let s := afterFilling s r
    match c.describe r with
    | .error e => (.error (.data e), r.object :: rest, s)
    | .ok t =>
      let (ts, rest, s) := m.fillAll c mode rest s
      (ts.map (t :: ·), r.object :: rest, s)

/-- Inserts several entities in one statement; they must end up with the same columns. -/
def insertBatch (m : Mapper τ σ) (c : Criteria α) (entities : List α) :
    EntityOperation τ σ (List α) := fun s =>
  if entities.isEmpty then ((.error .emptyData, entities), s)
  else
    let (ts, entities, s) := m.fillAll c .insert entities s
    let (result, s) := (m.handOver (ts.bind Dialect.mysql.insertBatch)).run s
    ((result, entities), s)

def updateByKey (t : TableDescriptor) : Except MapperError Statement :=
  match t.primaryKey with
  | none => .error (.missingIdent (.key t.table))
  | some key =>
    if (t.field? key).isNone then .error (.missingIdent (.value key))
    else Dialect.mysql.update t [key]

def updateById (m : Mapper τ σ) (c : Criteria α) (entity : α) : EntityOperation τ σ α :=
  m.writeEntity c .update updateByKey entity

/-- Updates the rows that agree with an entity in the named columns. -/
def update (m : Mapper τ σ) (c : Criteria α) (conditions : List String) (entity : α) :
    EntityOperation τ σ α := fun s =>
  if conditions.isEmpty then
    ((.error (.missingCondition (.update c.table.table)), entity), s)
  else m.writeEntity c .update (fun t => Dialect.mysql.update t conditions) entity s

/-- Deletes the rows that match every field of an object that is not empty. -/
def delete (m : Mapper τ σ) (c : Criteria α) (object : α) : Operation τ σ UInt64 :=
  m.handOver (Dialect.mysql.delete (c.extract object))

/-- The deletion of the rows of a table whose primary key is one of `ids`. -/
def deletionByIds (t : TableMeta) (ids : List SqlValue) : Except MapperError Statement :=
  match t.primaryKey? with
  | none => .error (.missingIdent (.key t.table))
  | some key => Dialect.mysql.deleteByIds t.table key.column ids

def deleteByIds (m : Mapper τ σ) (c : Criteria α) (ids : List SqlValue) : Operation τ σ UInt64 :=
  m.handOver (deletionByIds c.table ids)

end SqlMapper.Mapper
