import SqlMapper.Condition.Keyword
import SqlMapper.Value.Basic

/-! One condition as text with placeholders, and the values that they stand for. -/

namespace SqlMapper

inductive Link where
  | and
  | or
  deriving DecidableEq, Repr

def Link.word : Link → String
  | .and => "and"
  | .or => "or"

instance : Inhabited Link := ⟨.and⟩

structure Fragment where
  link : Link
  body : String
  values : List SqlValue

/-- `n` placeholders with `separator` between them. -/
def placeholders (separator : String) (n : Nat) : String :=
  separator.intercalate (List.replicate n "?")

namespace Fragment

def withLink (f : Fragment) (link : Link) : Fragment :=
  { f with link }

def display (f : Fragment) : String :=
  " " ++ f.link.word ++ " " ++ f.body ++ " "

/-- The text of a condition over a single value, less its column. -/
def scalarOperator : Keyword → String
  | .ne => " <> ?"
  | .gt => " > ?"
  | .lt => " < ?"
  | .ge => " >= ?"
  | .le => " <= ?"
  | .like => " like CONCAT('%', ?, '%')"
  | .notLike => " not like CONCAT('%', ?, '%')"
  | .likeLeft => " like CONCAT('%', ?)"
  | .likeRight => " like CONCAT(?, '%')"
  | _ => " = ?"

def malformed (column : String) (keyword : Keyword) (reason : Misfit) : DataError :=
  .malformedCondition column keyword.tag reason

def renderScalar (column : String) (keyword : Keyword) (value : SqlValue) (link : Link) :
    Except DataError (Option Fragment) :=
  if value.isScalar then .ok (some ⟨link, column ++ scalarOperator keyword, [value]⟩)
  else .error (malformed column keyword (.notSingle value.typeName))

/-- The items of a list; a single value is a list of one. -/
def listItems : SqlValue → Option (List SqlValue)
  | .list items => some items
  | .between _ _ => none
  | v => some [v]

def renderList (column : String) (keyword : Keyword) (value : SqlValue) (link : Link) :
    Except DataError (Option Fragment) :=
  match listItems value with
  | none => .error (malformed column keyword .notList)
  | some [] => .ok none
  | some items =>
    match items.find? fun v => !v.isScalar with
    | some v => .error (malformed column keyword (.itemNotSingle v.typeName))
    | none =>
      let operator := if keyword = .notIn then " not in (" else " in ("
      .ok (some ⟨link, column ++ operator ++ placeholders "," items.length ++ ")", items⟩)

def renderRange (column : String) (keyword : Keyword) (value : SqlValue) (link : Link) :
    Except DataError (Option Fragment) :=
  match value with
  | .between left right =>
    if left.isBlank || right.isBlank then .ok none
    else if !left.isScalar || !right.isScalar then
      .error (malformed column keyword .boundNotSingle)
    else
      let operator := if keyword = .notBetween then " not between ? and ?" else " between ? and ?"
      .ok (some ⟨link, column ++ operator, [left, right]⟩)
  | v => .error (malformed column keyword (.notRange v.typeName))

/-- The condition of a column, an operator and a value. There is none for a blank value, an
empty list or a range with an open end, and an error where the value has the wrong shape
for the operator. -/
def render (column : String) (keyword : Keyword) (value : SqlValue) (link : Link) :
    Except DataError (Option Fragment) :=
  if value.isBlank then .ok none
  else if keyword.isList then renderList column keyword value link
  else if keyword.isRange then renderRange column keyword value link
  else renderScalar column keyword value link

end Fragment

end SqlMapper
