import SqlMapper.Condition.Fragment
import SqlMapper.Interchange.Value
import SqlMapper.Statement.Basic

/-! Conditions, and statements with their bind values. -/

namespace SqlMapper

def Keyword.ofTag? (tag : String) : Option Keyword :=
  all.find? fun k => k.tag == tag

instance : Decode Keyword := ⟨fun j => do Keyword.ofTag? (← decode? j)⟩

instance : Encode Keyword := ⟨fun k => .string k.tag⟩

instance : Decode Link where
  decode?
    | .string "and" => some .and
    | .string "or" => some .or
    | _ => none

instance : Encode Link := ⟨fun l => .string l.word⟩

instance : Decode Fragment where
  decode? j := do some ⟨← j.at? "link", ← j.at? "body", ← j.at? "values"⟩

instance : Encode Fragment where
  encode f := .ofMembers
    [("link", encode f.link), ("body", encode f.body), ("values", encode f.values),
     ("display", encode f.display)]

instance : Encode Statement where
  encode s := .ofMembers [("sql", encode s.sql), ("values", encode s.params)]

end SqlMapper
