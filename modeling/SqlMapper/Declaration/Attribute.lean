/-! Attributes of a declaration, as written: a path alone, a path with a literal, or a path
with a list of items. -/

namespace SqlMapper

/-- Names joined by double colons, perhaps after one in front. -/
structure AttributePath where
  rooted : Bool
  names : List String
  deriving DecidableEq, Repr

namespace AttributePath

def isName (p : AttributePath) (name : String) : Bool :=
  !p.rooted && p.names == [name]

/-- The one name of a path, and the empty text if it has several. -/
def nameOrEmpty (p : AttributePath) : String :=
  match p.rooted, p.names with
  | false, [name] => name
  | _, _ => ""

def display (p : AttributePath) : String :=
  (if p.rooted then ":: " else "") ++ " :: ".intercalate p.names

end AttributePath

inductive Literal where
  | text (s : String)
  | bool (b : Bool)
  | integer (n : Int)
  deriving DecidableEq, Repr

namespace Literal

def text? : Literal → Option String
  | .text s => some s
  | _ => none

/-- A truth value, which may also be written as a text. -/
def bool? : Literal → Option Bool
  | .bool b => some b
  | .text "true" => some true
  | .text "false" => some false
  | _ => none

end Literal

mutual

inductive Attribute where
  | path (p : AttributePath)
  | value (p : AttributePath) (literal : Literal)
  | list (p : AttributePath) (items : List AttributeItem)

inductive AttributeItem where
  | attribute (a : Attribute)
  | literal (l : Literal)

end

def Attribute.head : Attribute → AttributePath
  | .path p => p
  | .value p _ => p
  | .list p _ => p

end SqlMapper
