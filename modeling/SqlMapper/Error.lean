import SqlMapper.Calendar.Reader
import SqlMapper.Json.Syntax
import SqlMapper.Uuid

/-! What can go wrong with data: a value of the wrong kind, a text that does not read, a
condition its value does not fit, a column that is not there. -/

namespace SqlMapper

inductive ParseCause where
  | text (found target : String)
  | keyword (name : String)
  | json (e : Json.SyntaxError)
  | uuid (e : Uuid.ReadError)
  | calendar (e : Calendar.ReadError)
  | driverValue
  deriving DecidableEq

def ParseCause.message : ParseCause → String
  | .text found target => "Failed to parse '" ++ found ++ "' as " ++ target
  | .keyword name => "unknown keyword \x60" ++ name ++ "\x60"
  | .json e => e.message
  | .uuid e => e.message
  | .calendar e => e.message
  | .driverValue => "Could not convert the driver value"

/-- Why a value does not fit where it is used; `found` is the name of its kind. -/
inductive Misfit where
  | notSingle (found : String)
  | notList
  | itemNotSingle (found : String)
  | notRange (found : String)
  | boundNotSingle
  | notStorable (found : String)
  deriving DecidableEq

def Misfit.message : Misfit → String
  | .notSingle found => "expects a single value, found " ++ found
  | .notList => "expects a list, found Between"
  | .itemNotSingle found => "list items must be single values, found " ++ found
  | .notRange found => "expects a Between value, found " ++ found
  | .boundNotSingle => "range bounds must be single values"
  | .notStorable found => "cannot store a " ++ found ++ " value"

inductive DataError where
  | typeMismatch (expected found : String)
  | nullValue (target : String)
  | numericOverflow (target : String)
  | parse (cause : ParseCause)
  | malformedCondition (column keyword : String) (reason : Misfit)
  | unknownColumn (column : String)
  deriving DecidableEq

def DataError.kind : DataError → String
  | .typeMismatch .. => "TypeMismatch"
  | .nullValue _ => "NullValue"
  | .numericOverflow _ => "NumericOverflow"
  | .parse _ => "ParseError"
  | .malformedCondition .. => "MalformedCondition"
  | .unknownColumn _ => "UnknownColumn"

def DataError.message : DataError → String
  | .typeMismatch expected found =>
    "Type mismatch: expected " ++ expected ++ ", found " ++ found
  | .nullValue target => "Cannot convert null value to " ++ target
  | .numericOverflow target => "Numeric overflow when converting to " ++ target
  | .parse cause => "Parse error: " ++ cause.message
  | .malformedCondition column keyword reason =>
    "Malformed condition \x60" ++ keyword ++ "\x60 on column \x60" ++ column ++ "\x60: " ++
      reason.message
  | .unknownColumn column => "Unknown column: " ++ column

end SqlMapper
