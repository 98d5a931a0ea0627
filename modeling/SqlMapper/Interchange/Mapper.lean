import SqlMapper.Interchange.Condition
import SqlMapper.Interchange.Record
import SqlMapper.Mapper.Basic

/-! Scripts of executors, and the statements that were handed to one. -/

namespace SqlMapper

instance : Decode Statement where
  decode? j := do some ⟨← j.at? "sql", ← j.atD "values" []⟩

instance : Decode Script where
  decode? j := do
    some ⟨← j.atD "responses" [], ← j.atD "affected" [], ← j.atD "fail" [], 0⟩

def Purpose.name : Purpose → String
  | .query => "query"
  | .execute => "execute"

def Sent.encodeFor (executor : Nat) (s : Sent) : Json := .ofMembers
  [("executor", encode executor), ("kind", encode s.purpose.name),
   ("sql", encode s.statement.sql), ("params", encode s.statement.params)]

end SqlMapper
