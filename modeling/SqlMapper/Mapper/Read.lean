import SqlMapper.Criteria.Basic
import SqlMapper.Mapper.Basic
import SqlMapper.Statement.Read

/-! Operations that read. A decoder tells what a row is taken for. -/

namespace SqlMapper

/-- How rows are taken: `Row` itself, a native value, an object. -/
abbrev Decoder (β : Type) := Row → Except DataError β

namespace Mapper

def decodeRow (decode : Decoder β) (row : Row) : Except MapperError β :=
  (decode row).mapError .data

def decodeRows (decode : Decoder β) (rows : List Row) : Except MapperError (List β) :=
  rows.mapM (decodeRow decode)

def selectSql (m : Mapper τ σ) (decode : Decoder β) (statement : Statement) :
    Operation τ σ (List β) := do
  decodeRows decode (← m.query statement)

/-- Runs a built statement, unless a condition was left out of it for its value. -/
def selectBuilt (m : Mapper τ σ) (decode : Decoder β) (s : Select) : Operation τ σ (List β) := do
  match s.tryBuild with
  | .error e => throw (.data e)
  | .ok statement => m.selectSql decode statement

/-- The number in the first row of a count, zero if there is no row. -/
def readCount (m : Mapper τ σ) (statement : Statement) : Operation τ σ UInt64 := do
  match (← m.query statement).head? with
  | none => return 0
  | some row => decodeRow (Row.toScalar (.base .nat64)) row

def selectCount (m : Mapper τ σ) (statement : Statement) : Operation τ σ UInt64 :=
  m.readCount ⟨Dialect.mysql.wrapCount statement.sql, statement.params⟩

def getCount (m : Mapper τ σ) (c : Criteria α) (object : α) : Operation τ σ UInt64 := do
  announce (Dialect.matchingLog (c.extract object))
  let statement ← Dialect.mysql.count (c.extract object)
  m.readCount statement

def isMatched (m : Mapper τ σ) (c : Criteria α) (object : α) : Operation τ σ Bool := do
  return 0 < (← m.getCount c object)

def selectList (m : Mapper τ σ) (decode : Decoder β) (c : Criteria α) (object : α)
    (columns : List String) : Operation τ σ (List β) := do
  announce (Dialect.matchingLog (c.extract object))
  let statement ← Dialect.mysql.select (c.extract object) columns
  m.selectSql decode statement

/-- The first row that matches an object; rows after it are not decoded. -/
def selectOne (m : Mapper τ σ) (decode : Decoder β) (c : Criteria α) (object : α)
    (columns : List String) : Operation τ σ (Option β) := do
  announce (Dialect.matchingLog (c.extract object))
  let statement ← Dialect.mysql.select (c.extract object) columns
  match (← m.query statement).head? with
  | none => return none
  | some row => return some (← decodeRow decode row)

/-- A request whose size is bounded as configured; a size of zero asks for the bound. -/
def boundedPage (m : Mapper τ σ) (page : PageRequest) : PageRequest :=
  match m.config.maxPageSize with
  | none => page
  | some greatest =>
    if page.size = 0 ∨ greatest < page.size then { page with size := greatest } else page

/-- One page of any query. The rows are counted first, and the page is asked for only if there
are any. -/
def selectPage (m : Mapper τ σ) (decode : Decoder β) (page : PageRequest) (statement : Statement) :
    Operation τ σ (Page β) := do
  let page := m.boundedPage page
  let total ← m.selectCount statement
  if total = 0 then return .empty page.number page.size
  let window ← Dialect.mysql.page statement.sql page
  let records ← m.selectSql decode ⟨window.sql, statement.params ++ window.params⟩
  return ⟨total, page.size, page.number, records⟩

def selectPageBy (m : Mapper τ σ) (decode : Decoder β) (page : PageRequest) (c : Criteria α)
    (object : α) (columns : List String) : Operation τ σ (Page β) := do
  announce (Dialect.matchingLog (c.extract object))
  let statement ← Dialect.mysql.select (c.extract object) columns
  m.selectPage decode page statement

end Mapper

end SqlMapper
