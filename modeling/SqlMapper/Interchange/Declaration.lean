import SqlMapper.Declaration.Struct
import SqlMapper.Interchange.Basic

/-! Declarations of structs. An attribute has a path and perhaps a literal under `eq` or
items under `list`; an item is an attribute or a literal under `lit`. -/

namespace SqlMapper

namespace AttributePath

def isNameChar (c : Char) : Bool :=
  c.isAlphanum || c == '_' || 128 ≤ c.toNat

/-- Whether the text is a name, perhaps marked as one that is else reserved. -/
def isNameText (s : String) : Bool :=
  let cs := match s.toList with
    | 'r' :: '#' :: cs => cs
    | cs => cs
  match cs with
  | [] => false
  | c :: _ => !c.isDigit && cs.all isNameChar

def ofText? (s : String) : Option AttributePath :=
  match (s.splitOn "::").map Text.trim with
  | "" :: names => if !names.isEmpty && names.all isNameText then some ⟨true, names⟩ else none
  | names => if names.all isNameText then some ⟨false, names⟩ else none

end AttributePath

instance : Decode AttributePath := ⟨fun j => do AttributePath.ofText? (← decode? j)⟩

instance : Decode Literal where
  decode?
    | .string s => some (.text s)
    | .bool b => some (.bool b)
    | j => j.int?.map .integer

mutual

def Attribute.decode? : Json → Option Attribute
  | .object members => do
    let path ← (members.lookup "path").bind SqlMapper.decode?
    match members.lookup "eq" with
    | some literal => (SqlMapper.decode? literal).map (.value path)
    | none =>
      match ← Attribute.decodeList? members with
      | none => some (.path path)
      | some items => some (.list path items)
  | _ => none

/-- The items under `list`, if there are any. -/
def Attribute.decodeList? : List (String × Json) → Option (Option (List AttributeItem))
  | [] => some none
  | (key, content) :: rest =>
    if key = "list" then (AttributeItem.decodeAll? content).map some
    else Attribute.decodeList? rest

def AttributeItem.decodeAll? : Json → Option (List AttributeItem)
  | .array items => AttributeItem.decodeEach? items
  | _ => none

def AttributeItem.decodeEach? : List Json → Option (List AttributeItem)
  | [] => some []
  | x :: xs => do
    let item ← match x.get? "lit" with
      | some literal => (SqlMapper.decode? literal).map AttributeItem.literal
      | none => (Attribute.decode? x).map AttributeItem.attribute
    some (item :: (← AttributeItem.decodeEach? xs))

end

instance : Decode Attribute := ⟨Attribute.decode?⟩

instance : Decode Shape where
  decode?
    | .string "struct" => some .struct
    | .string "tuple" => some .tuple
    | .string "unit" => some .unit
    | .string "enum" => some .enumeration
    | _ => none

instance : Decode FieldDeclaration where
  decode? j := do some ⟨← j.at? "ident", ← j.atD "attrs" []⟩

instance : Decode Declaration where
  decode? j := do
    some ⟨← j.at? "name", ← j.atD "shape" .struct, ← j.atD "attrs" [], ← j.atD "fields" []⟩

instance : Encode FieldSpec where
  encode s := .ofMembers
    [("ident", encode s.ident), ("column", encode s.column), ("keyword", encode s.keyword),
     ("compare_column", encode s.compareColumn), ("primary_key", encode s.primaryKey),
     ("exist", encode s.exist), ("flatten", encode s.flatten)]

end SqlMapper
