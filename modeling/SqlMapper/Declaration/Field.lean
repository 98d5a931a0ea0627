import SqlMapper.Declaration.Attribute
import SqlMapper.Declaration.Error
import SqlMapper.Table.Meta
import SqlMapper.Text.Blank
import SqlMapper.Text.Case

/-! The options of a field and what they come to. Where options of one kind are repeated
the last one counts, except that one mark of a key is enough. -/

namespace SqlMapper

inductive FieldOption where
  /-- A column, perhaps followed by a comma and `primary_key`. -/
  | name (text : String)
  | keyword (tag : String)
  | column (compareColumn : String)
  | primaryKey
  | exist (flag : Bool)
  | flatten
  | rename (name : String)
  deriving DecidableEq, Repr

namespace FieldOption

def requireText (option : String) (literal : Literal) : Except DeclarationError String :=
  match literal.text? with
  | some s => .ok s
  | none => .error (.optionNotText option)

/-- The option of a comparison column; a dash in its place takes the field out of the table. -/
def ofColumn (text : String) : FieldOption :=
  if Text.trim text = "-" then .exist false else .column text

def ofItem (field : String) : AttributeItem → Except DeclarationError FieldOption
  | .attribute (.path p) =>
    match p.nameOrEmpty with
    | "primary_key" => .ok .primaryKey
    | "flatten" => .ok .flatten
    | "skip" => .ok (.exist false)
    | _ => .error (.unknownFlag p.display)
  | .attribute (.value p literal) =>
    match p.nameOrEmpty with
    | "name" => (requireText "name" literal).map .name
    | "keyword" => (requireText "keyword" literal).map .keyword
    | "column" => (requireText "column" literal).map ofColumn
    | "exist" =>
      match literal.bool? with
      | some flag => .ok (.exist flag)
      | none => .error (.optionNotBool "exist")
    | other => .error (.unknownOption other)
  | _ => .error (.fieldAttribute field)

/-- The new name of an item, if it gives one as a text. -/
def renameOf : AttributeItem → Option String
  | .attribute (.value p literal) => if p.isName "rename" then literal.text? else none
  | _ => none

/-- The options of one attribute; attributes for others have none. -/
def ofAttribute (field : String) (a : Attribute) : Except DeclarationError (List FieldOption) :=
  if a.head.isName "serde" then
    match a with
    | .list _ items => .ok ((items.findSome? renameOf).map .rename).toList
    | _ => .ok []
  else if a.head.isName "field" then
    match a with
    | .list _ items => items.mapM (ofItem field)
    | .value _ literal =>
      match literal.text? with
      | some s => .ok [.name s]
      | none => .error (.fieldNotText field)
    | .path _ => .error (.fieldAttribute field)
  else .ok []

def ofAttributes (field : String) (attributes : List Attribute) :
    Except DeclarationError (List FieldOption) :=
  (attributes.mapM (ofAttribute field)).map List.flatten

end FieldOption

structure FieldSpec where
  ident : String
  column : String
  keyword : String
  compareColumn : String
  primaryKey : Bool
  exist : Bool
  flatten : Bool
  deriving DecidableEq, Repr

structure FieldSettings where
  name : Option String
  rename : Option String
  keyword : String
  column : Option String
  primaryKey : Bool
  exist : Bool
  flatten : Bool
  deriving DecidableEq, Repr

namespace FieldSettings

def initial : FieldSettings := ⟨none, none, "", none, false, true, false⟩

def nameParts (text : String) : List String :=
  (text.splitOn ",").map Text.trim

/-- The column that a name gives, if its first part is not blank. -/
def columnOf (text : String) : Option String :=
  (nameParts text).head?.filter fun s => !s.isEmpty

def marksKey (text : String) : Bool :=
  (nameParts text).tail.contains "primary_key"

def take (s : FieldSettings) : FieldOption → FieldSettings
  | .name text =>
    { s with name := columnOf text, primaryKey := s.primaryKey || marksKey text }
  | .rename name => { s with rename := some name }
  | .keyword tag => { s with keyword := tag }
  | .column c => { s with column := some c }
  | .primaryKey => { s with primaryKey := true }
  | .exist flag => { s with exist := flag }
  | .flatten => { s with flatten := true }

/-- The column is the field's own name for it, or else the name it was renamed to, or else
the underscore form of the identifier; a dash for a name takes the field out of the table. -/
def resolve (ident : String) (s : FieldSettings) : FieldSpec where
  ident := ident
  column := (s.name.or s.rename).getD (Text.underscoreDeclared ident)
  keyword := s.keyword
  compareColumn := s.column.getD ""
  primaryKey := s.primaryKey
  exist := s.exist && s.name != some "-"
  flatten := s.flatten

end FieldSettings

namespace FieldSpec

def ofOptions (ident : String) (options : List FieldOption) : FieldSpec :=
  (options.foldl FieldSettings.take .initial).resolve ident

def ofAttributes (ident : String) (attributes : List Attribute) :
    Except DeclarationError FieldSpec :=
  (FieldOption.ofAttributes ident attributes).map (ofOptions ident)

def columnMeta (s : FieldSpec) : ColumnMeta :=
  (((ColumnMeta.plain s.ident s.column).withKeyword s.keyword).withCompareColumn
    s.compareColumn).withPrimaryKey s.primaryKey

end FieldSpec

end SqlMapper
