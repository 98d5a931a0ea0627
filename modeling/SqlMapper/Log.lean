/-! Events of the log, as values that an operation returns in order. -/

namespace SqlMapper

inductive LogLevel where
  | debug
  | info
  | warn
  | error
  deriving DecidableEq, Repr

structure LogEvent where
  level : LogLevel
  message : String
  deriving DecidableEq, Repr

abbrev Log := List LogEvent

end SqlMapper
