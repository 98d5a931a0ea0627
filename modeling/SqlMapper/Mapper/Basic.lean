import SqlMapper.Fill.Registry
import SqlMapper.Log
import SqlMapper.Mapper.Error
import SqlMapper.Mapper.Executor
import SqlMapper.Value.Report

/-! Mappers and their sessions. Every statement goes to the executor through `query` or
`execute`, which keep an account of it. -/

namespace SqlMapper

structure Mapper (τ σ : Type) where
  executor : Executor τ
  fills : FillRegistry σ
  config : Config

inductive Purpose where
  | query
  | execute
  deriving DecidableEq, Repr

structure Sent where
  purpose : Purpose
  statement : Statement

/-- What operations change: the executor's state, that of the fill functions, the statements
handed over and the events reported. -/
structure Session (τ σ : Type) where
  server : τ
  fillState : σ
  sent : List Sent
  log : Log

/-- An operation over a session, which an error does not undo. -/
abbrev Operation (τ σ : Type) := ExceptT MapperError (StateM (Session τ σ))

namespace Session

def record (s : Session τ σ) (purpose : Purpose) (statement : Statement) (server : τ)
    (events : Log) : Session τ σ :=
  { s with server, sent := s.sent ++ [⟨purpose, statement⟩], log := s.log ++ events }

end Session

/-- Reports events that come with no statement. -/
def announce (events : Log) : Operation τ σ Unit := fun s =>
  (.ok (), { s with log := s.log ++ events })

namespace Mapper

/-- The level of a statement's event: the configured one if statements are to be shown. -/
def statementLevel (m : Mapper τ σ) : LogLevel :=
  if m.config.showSql then m.config.logLevel.toLogLevel else .debug

def prepared (m : Mapper τ σ) (statement : Statement) : LogEvent :=
  ⟨m.statementLevel, "[Sorm]: Prepare SQL: " ++ statement.sql ++ " params: " ++
    SqlValue.reportAll statement.params⟩

def failed (statement : Statement) (reason : String) : LogEvent :=
  ⟨.error, "[Sorm]: Failed SQL: " ++ statement.sql ++ " cause: " ++ reason⟩

def report (m : Mapper τ σ) (statement : Statement) (answer : Except String β) :
    Except MapperError β × Log :=
  match answer with
  | .ok b => (.ok b, [m.prepared statement])
  | .error reason =>
    (.error (.execute statement.sql reason), [m.prepared statement, failed statement reason])

theorem report_fst (m : Mapper τ σ) (statement : Statement) (answer : Except String β) :
    (m.report statement answer).1 = answer.mapError (.execute statement.sql) := by
  cases answer <;> rfl

def query (m : Mapper τ σ) (statement : Statement) : Operation τ σ (List Row) := fun s =>
  let (answer, server) := m.executor.query statement s.server
  let (result, events) := m.report statement answer
  (result, s.record .query statement server events)

def execute (m : Mapper τ σ) (statement : Statement) : Operation τ σ UInt64 := fun s =>
  let (answer, server) := m.executor.execute statement s.server
  let (result, events) := m.report statement answer
  (result, s.record .execute statement server events)

end Mapper

end SqlMapper
