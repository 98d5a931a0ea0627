import SqlMapper.MySql.Column

/-! A server that follows a script. What reaches it is recorded as events, numbered from 0,
and an event whose number is among `failures` is refused. -/

namespace SqlMapper.MySql

inductive Event where
  | pool
  | connect
  | prepare (sql : String)
  | execute (params : Option (List Wire))
  | text (sql : String)

/-- The affected rows and the last inserted key of a write. -/
structure WriteOutcome where
  affectedRows : UInt64
  lastInsertId : UInt64
  deriving DecidableEq, Repr

structure Server where
  replies : List Reply
  outcomes : List WriteOutcome
  failures : List Nat
  events : List Event

namespace Server

def refusal : String := "server refused"

def accept (s : Server) (e : Event) : Bool × Server :=
  (!s.failures.contains s.events.length, { s with events := s.events ++ [e] })

/-- The next prepared reply, an empty one after the last. -/
def nextReply (s : Server) : Reply × Server :=
  match s.replies with
  | [] => (.empty, s)
  | r :: replies => (r, { s with replies })

/-- The next prepared outcome of a write, one row and no key after the last. -/
def nextOutcome (s : Server) : WriteOutcome × Server :=
  match s.outcomes with
  | [] => (⟨1, 0⟩, s)
  | o :: outcomes => (o, { s with outcomes })

end Server

end SqlMapper.MySql
