import SqlMapper.MySql.Bind
import SqlMapper.MySql.Server
import SqlMapper.Statement.Basic

/-! Calls on one connection. A call holds the connection's lock; one that breaks off in the
middle leaves the lock unusable for every later call. -/

namespace SqlMapper.MySql

structure Connection where
  poisoned : Bool
  outcome : WriteOutcome
  deriving DecidableEq, Repr

namespace Connection

def fresh : Connection := ⟨false, ⟨0, 0⟩⟩

/-- The key of the last insertion, zero once the lock is unusable. -/
def lastInsertId (c : Connection) : UInt64 :=
  if c.poisoned then 0 else c.outcome.lastInsertId

end Connection

/-- Why a call has no result; `panic` means that it broke off. -/
inductive CallError where
  | data (e : DataError)
  | refused (reason : String)
  | locked
  | panic
  deriving DecidableEq

def CallError.message : CallError → String
  | .data e => e.message
  | .refused reason => reason
  | .locked => "Can't get the connection."
  | .panic => "panic"

structure Channel where
  connection : Connection
  server : Server

abbrev Call := ExceptT CallError (StateM Channel)

namespace Call

def onChannel (call : Call α) (ch : Channel) : Except CallError α × Channel :=
  call.run ch

def lock : Call Unit := fun ch =>
  (if ch.connection.poisoned then .error .locked else .ok (), ch)

def submit (e : Event) : Call Unit := fun ch =>
  let (served, server) := ch.server.accept e
  (if served then .ok () else .error (.refused Server.refusal), { ch with server })

/-- The values to send. A date that has none breaks the call off. -/
def bindParams (params : List SqlValue) : Call (Option (List Wire)) := fun ch =>
  match Wire.ofParams? params with
  | some wires => (.ok wires, ch)
  | none => (.error .panic, { ch with connection := { ch.connection with poisoned := true } })

def handOver (s : Statement) : Call Unit := do
  lock
  submit (.prepare s.sql)
  let params ← bindParams s.params
  submit (.execute params)

def takeReply : Call Reply := fun ch =>
  let (reply, server) := ch.server.nextReply
  (.ok reply, { ch with server })

def takeOutcome : Call UInt64 := fun ch =>
  let (outcome, server) := ch.server.nextOutcome
  (.ok outcome.affectedRows, ⟨{ ch.connection with outcome }, server⟩)

def query (s : Statement) : Call (List Row) := do
  handOver s
  match (← takeReply).toRows with
  | .ok rows => return rows
  | .error e => throw (.data e)

def execute (s : Statement) : Call UInt64 := do
  handOver s
  takeOutcome

/-- Runs a statement without values and without a result. -/
def text (sql : String) : Call Unit := do
  lock
  submit (.text sql)

def startTransaction : Call Unit := text "START TRANSACTION"

def commit : Call Unit := text "COMMIT"

def rollback : Call Unit := text "ROLLBACK"

end Call

end SqlMapper.MySql
