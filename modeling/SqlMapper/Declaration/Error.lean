/-! Why a declaration is refused. -/

namespace SqlMapper

inductive DeclarationError where
  | tableWithoutName
  | tableNotText
  | tableItem
  | tableNameNotText
  | notStruct (deriver : String)
  | unnamedFields (deriver : String)
  | fieldAttribute (field : String)
  | fieldNotText (field : String)
  | unknownFlag (path : String)
  | optionNotText (option : String)
  | optionNotBool (option : String)
  | unknownOption (option : String)
  deriving DecidableEq, Repr

namespace DeclarationError

def message : DeclarationError → String
  | .tableWithoutName => "expected #[table(name = \"...\")]"
  | .tableNotText => "table name must be a string"
  | .tableItem => "expected \x60name = \"...\"\x60"
  | .tableNameNotText => "invalid argument for \x60name\x60 annotion: only strings are allowed"
  | .notStruct deriver => "#[derive(" ++ deriver ++ ")] can only be used with structs"
  | .unnamedFields _ => "struct has unnamed fields"
  | .fieldAttribute field => "Invalid attribute #[field] on field \x60" ++ field ++ "\x60"
  | .fieldNotText field =>
    "Invalid attribute #[field] on field \x60" ++ field ++ "\x60: only strings are allowed"
  | .unknownFlag path => "Unexpected annotion: " ++ path
  | .optionNotText option =>
    "invalid argument for \x60" ++ option ++ "\x60 annotion: only strings are allowed"
  | .optionNotBool option =>
    "invalid argument for \x60" ++ option ++ "\x60 annotion: only boolean are allowed"
  | .unknownOption option =>
    "unknown argument \x60" ++ option ++ "\x60 for #[field] (it only has \x60name\x60, " ++
      "\x60keyword\x60, \x60column\x60, \x60exist\x60, \x60primary_key\x60, \x60flatten\x60)"

def help? : DeclarationError → Option String
  | .unnamedFields deriver =>
    some ("#[derive(" ++ deriver ++ ")] can only be used on structs with named fields")
  | _ => none

end DeclarationError

end SqlMapper
