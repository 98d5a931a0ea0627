import SqlMapper.Text.Quoted
import SqlMapper.Value.Display

/-! Bind values as the log reports them, each with the name of its kind. -/

namespace SqlMapper

namespace Json

mutual

def report : Json → String
  | .null => "Null"
  | .bool b => "Bool(" ++ (if b then "true" else "false") ++ ")"
  | .number n => "Number(" ++ n.render ++ ")"
  | .string s => "String(" ++ Text.quoted s ++ ")"
  | .array items => "Array [" ++ ", ".intercalate (reportItems items) ++ "]"
  | .object members => "Object \x7b" ++ ", ".intercalate (reportMembers members) ++ "\x7d"

def reportItems : List Json → List String
  | [] => []
  | x :: xs => report x :: reportItems xs

def reportMembers : List (String × Json) → List String
  | [] => []
  | (k, x) :: xs => (Text.quoted k ++ ": " ++ report x) :: reportMembers xs

end

end Json

namespace SqlValue

/-- What stands in the parentheses behind the name of a kind of single values. -/
def reportedText? : SqlValue → Option String
  | .float x => some x.toReport
  | .double x => some x.toReport
  | .char c => some (Text.quotedChar c)
  | .text s => some (Text.quoted s)
  | .json j => some j.report
  | .dateTime t => some t.toIsoText
  | .timestamp t => some t.toZuluText
  | v => v.plainText?

mutual

def report : SqlValue → String
  | .list items => "List([" ++ ", ".intercalate (reportItems items) ++ "])"
  | .between left right =>
    "Between(Between \x7b left: " ++ report left ++ ", right: " ++ report right ++ " \x7d)"
  | v =>
    match v.reportedText? with
    | some s => v.typeName ++ "(" ++ s ++ ")"
    | none => v.typeName

def reportItems : List SqlValue → List String
  | [] => []
  | x :: xs => report x :: reportItems xs

end

def reportAll (values : List SqlValue) : String :=
  "[" ++ ", ".intercalate (reportItems values) ++ "]"

end SqlValue

end SqlMapper
