import SqlMapper.Interchange.Table
import SqlMapper.Select.Basic

/-! Steps that build a statement. A condition is named after its operator or, as
`condition`, gives it as an argument. -/

namespace SqlMapper

structure Comparison where
  column : String
  keyword : Keyword
  value : SqlValue

namespace Comparison

def operators : List (String × Keyword) :=
  [("eq", .eq), ("ne", .ne), ("gt", .gt), ("lt", .lt), ("ge", .ge), ("le", .le),
   ("in_list", .isIn), ("not_in", .notIn), ("like", .like), ("not_like", .notLike),
   ("like_left", .likeLeft), ("like_right", .likeRight)]

def range? (j : Json) : Option SqlValue := do
  some (.between (← j.at? "left") (← j.at? "right"))

def ofStep? (name : String) (j : Json) : Option Comparison := do
  let column ← j.at? "column"
  match name with
  | "condition" => some ⟨column, ← j.at? "keyword", ← j.at? "value"⟩
  | "between" => some ⟨column, .between, ← range? j⟩
  | "not_between" => some ⟨column, .notBetween, ← range? j⟩
  | _ => some ⟨column, ← operators.lookup name, ← j.at? "value"⟩

end Comparison

def Link.ofStep? (name : String) (j : Json) : Option Link :=
  match name with
  | "and" => some .and
  | "or" => some .or
  | "next_link" => j.at? "link"
  | _ => none

instance : Decode Group.Step where
  decode? j := do
    let name ← j.at? "do"
    match Link.ofStep? name j with
    | some link => some (.nextLink link)
    | none =>
      if name = "push" then (decode? j).map .push
      else
        let c ← Comparison.ofStep? name j
        some (.condition c.column c.keyword c.value)

instance : Decode Select.Step where
  decode? j := do
    let name ← j.at? "do"
    match Link.ofStep? name j with
    | some link => some (.nextLink link)
    | none =>
      match name with
      | "append" => (j.at? "sql").map .append
      | "append_with" => some (.appendWith (← j.at? "sql") (← j.at? "values"))
      | "apply" => (j.at? "descriptor").map .apply
      | "ands" => (j.at? "steps").map (.group .and)
      | "ors" => (j.at? "steps").map (.group .or)
      | _ =>
        let c ← Comparison.ofStep? name j
        some (.condition c.column c.keyword c.value)

end SqlMapper
