import SqlMapper.Config.Basic
import SqlMapper.Decimal.Integer
import SqlMapper.Error

/-! Why an operation of the mapper fails. -/

namespace SqlMapper

inductive MissingCondition where
  | update (table : String)
  | column (name : String)
  | delete (table : String)
  | ids (table : String)
  deriving DecidableEq, Repr

inductive MissingIdent where
  | key (table : String)
  | value (column : String)
  deriving DecidableEq, Repr

inductive InvalidField where
  | batchRow (index : Nat) (found expected : List String)
  | orderColumn (column : String)
  | page (current size : UInt64)
  deriving DecidableEq, Repr

inductive MapperError where
  | missingCondition (cause : MissingCondition)
  | missingIdent (cause : MissingIdent)
  | missingTable
  | emptyData
  | invalidField (cause : InvalidField)
  | data (e : DataError)
  | execute (sql reason : String)
  | config (e : ConfigError)
  deriving DecidableEq

def MissingCondition.message : MissingCondition → String
  | .update table => "update of \x60" ++ table ++ "\x60 needs at least one condition column"
  | .column name => "condition column \x60" ++ name ++ "\x60 has no value"
  | .delete table => "delete from \x60" ++ table ++ "\x60 needs at least one condition"
  | .ids table => "delete from \x60" ++ table ++ "\x60 needs at least one id"

def MissingIdent.message : MissingIdent → String
  | .key table => "\x60" ++ table ++ "\x60 has no primary key"
  | .value column => "primary key \x60" ++ column ++ "\x60 has no value"

def InvalidField.message : InvalidField → String
  | .batchRow index found expected =>
    "row " ++ Decimal.ofNat index ++ " of the batch sets (" ++ ", ".intercalate found ++
      "), expected (" ++ ", ".intercalate expected ++ ")"
  | .orderColumn column => "invalid order column \x60" ++ column ++ "\x60"
  | .page current size =>
    "page " ++ Decimal.ofNat current.toNat ++ " of size " ++ Decimal.ofNat size.toNat ++
      " is out of range"

namespace MapperError

/-- The name of the kind of error; an error of the data is named after its own kind. -/
def kind : MapperError → String
  | .missingCondition _ => "MissingCondition"
  | .missingIdent _ => "MissingIdent"
  | .missingTable => "MissingTable"
  | .emptyData => "EmptyData"
  | .invalidField _ => "InvalidField"
  | .data e => "Data." ++ e.kind
  | .execute .. => "Execute"
  | .config _ => "Config"

def message : MapperError → String
  | .missingCondition cause => "Missing condition: " ++ cause.message
  | .missingIdent cause => "Missing ident: " ++ cause.message
  | .missingTable => "Missing table: table name is empty"
  | .emptyData => "Empty data"
  | .invalidField cause => "Invalid field: " ++ cause.message
  | .data e => e.message
  | .execute sql reason => "Failed to execute \x60" ++ sql ++ "\x60: " ++ reason
  | .config e => "Config error: " ++ e.message

/-- The message of the error that this one wraps. -/
def source? : MapperError → Option String
  | .data e => some e.message
  | .execute _ reason => some reason
  | _ => none

end MapperError

end SqlMapper
