import SqlMapper.Text.Word

/-! Whether a statement has a `where` of its own: one outside parentheses and quotes. -/

namespace SqlMapper.Select

/-- Where a scan stands: how many parentheses are open, and inside which quotes. -/
structure Scan where
  depth : Int
  quote : Option Char
  deriving DecidableEq, Repr

namespace Scan

def start : Scan := ⟨0, none⟩

def isQuote (c : Char) : Bool :=
  c == '\'' || c == '"' || c == '\x60'

/-- Inside quotes only the same quote counts, which closes them. -/
def step (s : Scan) (c : Char) : Scan :=
  match s.quote with
  | some q => if c = q then { s with quote := none } else s
  | none =>
    if isQuote c then { s with quote := some c }
    else if c = '(' then { s with depth := s.depth + 1 }
    else if c = ')' then { s with depth := s.depth - 1 }
    else s

def isTopLevel (s : Scan) : Bool :=
  s.depth ≤ 0 && s.quote.isNone

end Scan

/-- Whether the word begins somewhere outside parentheses and quotes; `inWord` tells whether
the character before belongs to a word. -/
def hasWhereFrom (scan : Scan) (inWord : Bool) : List Char → Bool
  | [] => false
  | c :: cs =>
    (!inWord && scan.isTopLevel && Text.startsWord "where".toList (c :: cs)) ||
      hasWhereFrom (scan.step c) (Text.isWordChar c) cs

def hasOuterWhere (sql : String) : Bool :=
  hasWhereFrom .start false sql.toList

end SqlMapper.Select
