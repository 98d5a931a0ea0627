import SqlMapper.Row.Basic
import SqlMapper.Statement.Basic

/-! Executors: what runs statements. An executor's own state stands for the database and
everything between it and the mapper. -/

namespace SqlMapper

/-- Runs one statement, for its rows or for the number of rows it affects. A failure is given
in the executor's own words. -/
structure Executor (τ : Type) where
  query : Statement → τ → Except String (List Row) × τ
  execute : Statement → τ → Except String UInt64 × τ

/-- Answers prepared in advance. Statements are numbered from 0, and those whose number is
among `failures` fail without using up an answer. -/
structure Script where
  responses : List (List Row)
  affected : List UInt64
  failures : List Nat
  handled : Nat

namespace Script

def refusal : String := "connection refused"

def next (answers : List α) (otherwise : α) : α × List α :=
  match answers with
  | [] => (otherwise, [])
  | a :: rest => (a, rest)

def fails (s : Script) : Bool :=
  s.failures.contains s.handled

def query (s : Script) : Except String (List Row) × Script :=
  let counted := { s with handled := s.handled + 1 }
  if s.fails then (.error refusal, counted)
  else
    let (rows, responses) := next s.responses []
    (.ok rows, { counted with responses })

def execute (s : Script) : Except String UInt64 × Script :=
  let counted := { s with handled := s.handled + 1 }
  if s.fails then (.error refusal, counted)
  else
    let (n, affected) := next s.affected 1
    (.ok n, { counted with affected })

def executor : Executor Script where
  query _ := query
  execute _ := execute

end Script

end SqlMapper
