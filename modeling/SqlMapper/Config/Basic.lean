import SqlMapper.Log
import SqlMapper.Text.Blank
import SqlMapper.Text.Case
import SqlMapper.Text.Quoted
import SqlMapper.Url.Scheme

/-! How a mapper is set up: the database it is for, what it reports of its statements, and
how large a page may be. -/

namespace SqlMapper

inductive Platform where
  | mysql
  | unsupported (scheme : String)
  deriving DecidableEq, Repr

/-- The level at which statements are reported. -/
inductive StatementLevel where
  | debug
  | info
  | error
  deriving DecidableEq, Repr

inductive ConfigError where
  | url (e : Url.UrlError)
  | logLevel (name : String)
  | platform (p : Platform)
  | missingUrl
  | urlRefused
  | connect (reason : String)
  deriving DecidableEq, Repr

namespace Platform

def ofUrl (url : String) : Except ConfigError Platform :=
  match Url.scheme url with
  | .ok scheme => .ok (if scheme = "mysql" then .mysql else .unsupported scheme)
  | .error e => .error (.url e)

def describe : Platform → String
  | .mysql => "Mysql"
  | .unsupported scheme => "Unsupported(" ++ Text.quoted scheme ++ ")"

end Platform

def ConfigError.message : ConfigError → String
  | .url e => e.message
  | .logLevel name => "unknown log level \x60" ++ name ++ "\x60"
  | .platform p => "unsupported platform: " ++ p.describe
  | .missingUrl => "missing database url"
  | .urlRefused => "invalid database url"
  | .connect reason => reason

namespace StatementLevel

def name : StatementLevel → String
  | .debug => "debug"
  | .info => "info"
  | .error => "error"

/-- The level of a name, blanks around it and the case of its letters aside. -/
def ofName (text : String) : Except ConfigError StatementLevel :=
  let name := Text.toLower (Text.trim text)
  if name = "debug" then .ok .debug
  else if name = "info" then .ok .info
  else if name = "error" then .ok .error
  else .error (.logLevel name)

def toLogLevel : StatementLevel → LogLevel
  | .debug => .debug
  | .info => .info
  | .error => .error

end StatementLevel

/-- There is no bound of zero on the size of pages. -/
structure Config where
  url : Option String
  platform : Platform
  showSql : Bool
  logLevel : StatementLevel
  maxPageSize : Option UInt64
  maxPageSize_ne_zero : maxPageSize ≠ some 0
  deriving DecidableEq, Repr

namespace Config

def default : Config := ⟨none, .unsupported "", false, .debug, none, nofun⟩

/-- The configuration for a URL. One that cannot be read leaves the platform open. -/
def ofUrl (url : String) : Config :=
  match Platform.ofUrl url with
  | .ok platform => { default with url := some url, platform }
  | .error _ => { default with url := some url }

/-- What `ofUrl` reports of a URL that cannot be read. -/
def ofUrlLog (url : String) : Log :=
  match Platform.ofUrl url with
  | .ok _ => []
  | .error e => [⟨.warn, "unable to parse database url: Config error: " ++ e.message⟩]

def withShowSql (c : Config) (showSql : Bool) : Config :=
  { c with showSql }

def withLogLevel (c : Config) (logLevel : StatementLevel) : Config :=
  { c with logLevel }

/-- Bounds the size of pages; a bound of zero is none. -/
def withMaxPageSize (c : Config) (size : UInt64) : Config :=
  { c with
    maxPageSize := if size = 0 then none else some size
    maxPageSize_ne_zero := by
      split
      · exact nofun
      · simpa }

end Config

end SqlMapper
