import SqlMapper.Declaration.Field

/-! Declarations of structs: the table they name and the fields they have. -/

namespace SqlMapper

inductive Shape where
  | struct
  | tuple
  | unit
  | enumeration
  deriving DecidableEq, Repr

structure FieldDeclaration where
  ident : String
  attributes : List Attribute

structure Declaration where
  name : String
  shape : Shape
  attributes : List Attribute
  fields : List FieldDeclaration

namespace Declaration

def tableOfItem : AttributeItem → Except DeclarationError String
  | .attribute (.value p literal) =>
    if p.isName "name" then
      match literal.text? with
      | some s => .ok s
      | none => .error .tableNameNotText
    else .error .tableItem
  | .literal l =>
    match l.text? with
    | some s => .ok s
    | none => .error .tableNotText
  | _ => .error .tableItem

def tablesOf (a : Attribute) : Except DeclarationError (List String) :=
  if a.head.isName "table" then
    match a with
    | .list _ items => items.mapM tableOfItem
    | .value _ literal =>
      match literal.text? with
      | some s => .ok [s]
      | none => .error .tableNotText
    | .path _ => .error .tableWithoutName
  else .ok []

def tables (d : Declaration) : Except DeclarationError (List String) :=
  (d.attributes.mapM tablesOf).map List.flatten

/-- The fields of a declaration of a fitting shape, with their options resolved. -/
def fieldSpecs (d : Declaration) (deriver : String) : Except DeclarationError (List FieldSpec) :=
  match d.shape with
  | .enumeration => .error (.notStruct deriver)
  | .tuple => if d.fields.isEmpty then .ok [] else .error (.unnamedFields deriver)
  | .unit => .ok []
  | .struct => d.fields.mapM fun f => FieldSpec.ofAttributes f.ident f.attributes

/-- The last table named, or else the underscore form of the struct's name. -/
def tableName (d : Declaration) (tables : List String) : String :=
  tables.getLast?.getD (Text.underscoreDeclared d.name)

end Declaration

end SqlMapper
