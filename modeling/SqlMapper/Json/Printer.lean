import SqlMapper.Binary.Decimal
import SqlMapper.Json.Basic

/-! The compact text of a JSON value: no blanks, members in order, and in strings only
what must be escaped. -/

namespace SqlMapper.Json

/-- The escape of a control character that has no letter of its own. -/
def unicodeEscape (c : Char) : List Char :=
  '\\' :: 'u' :: List.leftpad 4 '0' (Nat.toDigits 16 c.toNat)

def escapeChar (c : Char) : List Char :=
  match c with
  | '"' => ['\\', '"']
  | '\\' => ['\\', '\\']
  | '\u0008' => ['\\', 'b']
  | '\u000c' => ['\\', 'f']
  | '\n' => ['\\', 'n']
  | '\r' => ['\\', 'r']
  | '\t' => ['\\', 't']
  | c => if c.toNat < 32 then unicodeEscape c else [c]

def quote (s : String) : String :=
  "\"" ++ String.ofList (s.toList.flatMap escapeChar) ++ "\""

def Number.render : Number → String
  | .integer n .. => Decimal.ofInt n
  | .double x .. => x.toJsonText?.getD "null"

def renderArray (items : List String) : String :=
  "[" ++ ",".intercalate items ++ "]"

/-- Members between braces; each value is a JSON text. -/
def renderObject (members : List (String × String)) : String :=
  "\x7b" ++ ",".intercalate (members.map fun m => quote m.1 ++ ":" ++ m.2) ++ "\x7d"

mutual

def render : Json → String
  | .null => "null"
  | .bool b => if b then "true" else "false"
  | .number n => n.render
  | .string s => quote s
  | .array items => renderArray (renderItems items)
  | .object members => renderObject (renderMembers members)

def renderItems : List Json → List String
  | [] => []
  | x :: xs => render x :: renderItems xs

def renderMembers : List (String × Json) → List (String × String)
  | [] => []
  | (k, x) :: xs => (k, render x) :: renderMembers xs

end

end SqlMapper.Json
