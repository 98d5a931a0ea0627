import SqlMapper.Config.Basic
import SqlMapper.Interchange.Basic

/-! Configurations. Every setting may be left out. -/

namespace SqlMapper

instance : Decode StatementLevel where
  decode? j := do (StatementLevel.ofName (← decode? j)).toOption

instance : Decode Config where
  decode? j := do
    let url : Option String ← j.atD "url" none
    let showSql : Option Bool ← j.atD "show_sql" none
    let logLevel : Option StatementLevel ← j.atD "log_level" none
    let maxPageSize : Option UInt64 ← j.atD "max_page_size" none
    let c := (url.map Config.ofUrl).getD .default
    let c := (showSql.map c.withShowSql).getD c
    let c := (logLevel.map c.withLogLevel).getD c
    some ((maxPageSize.map c.withMaxPageSize).getD c)

def Config.urlLog (c : Config) : Log :=
  (c.url.map Config.ofUrlLog).getD []

instance : Encode Platform where
  encode
    | .mysql => .string "Mysql"
    | .unsupported scheme => .object [("Unsupported", .string scheme)]

instance : Encode Config where
  encode c := .ofMembers
    [("url", encode c.url), ("platform", encode c.platform), ("show_sql", encode c.showSql),
     ("log_level", encode c.logLevel.name), ("max_page_size", encode c.maxPageSize)]

end SqlMapper
