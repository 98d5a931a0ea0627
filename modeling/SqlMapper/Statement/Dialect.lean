import SqlMapper.Decimal.Integer

/-! Dialects: the form that placeholders take in a statement. -/

namespace SqlMapper

structure Dialect where
  adapt : String → String

namespace Dialect

def mysql : Dialect := ⟨id⟩

/-- Question marks as `$1`, `$2` and so on, `before` of them having come already. -/
def numberFrom (before : Nat) : List Char → List Char
  | [] => []
  | '?' :: cs => '$' :: (Decimal.ofNat (before + 1)).toList ++ numberFrom (before + 1) cs
  | c :: cs => c :: numberFrom before cs

def numbered : Dialect := ⟨fun sql => String.ofList (numberFrom 0 sql.toList)⟩

end Dialect

end SqlMapper
