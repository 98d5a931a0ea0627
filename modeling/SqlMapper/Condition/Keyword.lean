import SqlMapper.Error
import SqlMapper.Log
import SqlMapper.Text.Ascii
import SqlMapper.Text.Blank

/-! The operators of conditions and the tags that name them. -/

namespace SqlMapper

inductive Keyword where
  | eq
  | ne
  | isIn
  | notIn
  | gt
  | lt
  | ge
  | le
  | between
  | notBetween
  | like
  | notLike
  | likeLeft
  | likeRight
  deriving DecidableEq, Repr

namespace Keyword

def all : List Keyword :=
  [.eq, .ne, .isIn, .notIn, .gt, .lt, .ge, .le, .between, .notBetween, .like, .notLike,
   .likeLeft, .likeRight]

def tag : Keyword → String
  | .eq => "eq"
  | .ne => "ne"
  | .isIn => "in"
  | .notIn => "notIn"
  | .gt => "gt"
  | .lt => "lt"
  | .ge => "ge"
  | .le => "le"
  | .between => "between"
  | .notBetween => "notBetween"
  | .like => "like"
  | .notLike => "notLike"
  | .likeLeft => "likeLeft"
  | .likeRight => "likeRight"

/-- The operator of a name, blanks and the case of ASCII letters aside. -/
def ofName? (name : String) : Option Keyword :=
  all.find? fun k => Text.eqIgnoreAsciiCase k.tag (Text.trim name)

def ofName (name : String) : Except DataError Keyword :=
  match ofName? name with
  | some k => .ok k
  | none => .error (.parse (.keyword name))

/-- The operator of a field's tag; any name that is none means `eq`. -/
def parse (name : String) : Keyword :=
  (ofName? name).getD .eq

/-- What `parse` reports of a name that is neither blank nor an operator. -/
def parseLog (name : String) : Log :=
  let name := Text.trim name
  if name.isEmpty || (ofName? name).isSome then []
  else [⟨.debug, "unknown keyword \x60" ++ name ++ "\x60, falling back to eq"⟩]

/-- The parts of a tag before and after its first comma. -/
def splitTag (tag : String) : String × Option String :=
  let cs := tag.toList
  let front := cs.takeWhile (· != ',')
  match cs.drop front.length with
  | _ :: rest => (String.ofList front, some (String.ofList rest))
  | [] => (tag, none)

/-- The operator of a tag, and the column after its comma unless that is blank. -/
def parseTag (tag : String) : Keyword × Option String :=
  let (name, column) := splitTag tag
  (parse name, (column.map Text.trim).filter fun c => !c.isEmpty)

def parseTagLog (tag : String) : Log :=
  parseLog (splitTag tag).1

def isRange (k : Keyword) : Bool :=
  k == .between || k == .notBetween

def isList (k : Keyword) : Bool :=
  k == .isIn || k == .notIn

end Keyword

end SqlMapper
