import SqlMapper.Value.Basic

/-! Statements: a text with placeholders and the values bound to them in order. -/

namespace SqlMapper

structure Statement where
  sql : String
  params : List SqlValue

end SqlMapper
