import SqlMapper.Mapper.Error
import SqlMapper.MySql.Connection
import SqlMapper.Url.Parts

/-! Pools of connections. Opening one checks the configuration first; each statement that runs
on the pool itself takes a connection of its own. -/

namespace SqlMapper.MySql.Pool

/-- The parameters that a URL may give. -/
def urlParameters : List String :=
  ["pool_min", "pool_max", "prefer_socket", "socket", "secure_auth", "enable_cleartext_plugin",
   "tcp_keepalive_time_ms", "tcp_keepalive_probe_interval_secs", "tcp_keepalive_probe_count",
   "tcp_user_timeout_ms", "tcp_connect_timeout_ms", "stmt_cache_size", "compress",
   "reset_connection", "check_health", "max_allowed_packet"]

/-- Whether a URL has a host and no unknown parameter. -/
def acceptsUrl (url : String) : Bool :=
  (Url.host? url).isSome && (Url.parameterNames url).all urlParameters.contains

def checkConfig (c : Config) : Except ConfigError String :=
  if c.platform ≠ .mysql then .error (.platform c.platform)
  else
    match c.url with
    | none => .error .missingUrl
    | some url => if acceptsUrl url then .ok url else .error .urlRefused

def openPool (c : Config) (s : Server) : Except MapperError Unit × Server :=
  match checkConfig c with
  | .error e => (.error (.config e), s)
  | .ok _ =>
    let (served, s) := s.accept .pool
    (if served then .ok () else .error (.config (.connect Server.refusal)), s)

def connect (s : Server) : Except MapperError Connection × Server :=
  let (served, s) := s.accept .connect
  (if served then .ok .fresh else .error (.execute "" Server.refusal), s)

def onFresh (call : Call α) (s : Server) : Except CallError α × Server :=
  let (served, s) := s.accept .connect
  if served then
    let (result, channel) := call.onChannel ⟨.fresh, s⟩
    (result, channel.server)
  else (.error (.refused Server.refusal), s)

end SqlMapper.MySql.Pool
