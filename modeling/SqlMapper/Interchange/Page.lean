import SqlMapper.Interchange.Basic
import SqlMapper.Page.Json

/-! Pages with what follows from their numbers. -/

namespace SqlMapper

instance : Decode OrderItem where
  decode? j := do some ⟨← j.at? "column", ← j.at? "asc"⟩

instance : Encode OrderItem where
  encode o := .ofMembers [("column", encode o.column), ("asc", encode o.ascending)]

instance : Decode PageRequest where
  decode? j := do some ⟨← j.at? "current", ← j.at? "size", ← j.atD "orders" []⟩

instance : Encode PageRequest where
  encode p := .ofMembers
    [("current", encode p.current), ("size", encode p.size),
     ("effective_current", encode p.number), ("offset", encode p.offset?),
     ("orders", encode p.orders), ("serialized", encode p.serialize)]

instance [Encode α] : Encode (Page α) where
  encode p := .ofMembers
    [("current", encode p.current), ("size", encode p.size), ("total", encode p.total),
     ("records", encode p.records), ("offset", encode p.offset), ("pages", encode p.count)]

end SqlMapper
