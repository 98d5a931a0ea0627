import SqlMapper.Url.Host

/-! The scheme of a URL, given only where the whole text is a URL: its authority has a host
and a port that can be read. -/

namespace SqlMapper.Url

inductive Kind where
  | file
  | web
  | other
  deriving DecidableEq, Repr

def Kind.ofScheme (scheme : String) : Kind :=
  if scheme = "file" then .file
  else if ["http", "https", "ws", "wss", "ftp"].contains scheme then .web
  else .other

def isSlash (c : Char) : Bool := c == '/' || c == '\\'

def endsAuthority (kind : Kind) (c : Char) : Bool :=
  c == '/' || c == '?' || c == '#' || (kind != .other && c == '\\')

/-- A text without tabs and line ends, and without controls and spaces around it. -/
def clean (cs : List Char) : List Char :=
  let isEdge (c : Char) : Bool := c.toNat ≤ 0x20
  let inner := ((cs.dropWhile isEdge).reverse.dropWhile isEdge).reverse
  inner.filter fun c => c != '\t' && c != '\n' && c != '\r'

def isSchemeChar (c : Char) : Bool :=
  c.isAlphanum || c == '+' || c == '-' || c == '.'

def scheme? (cs : List Char) : Option (String × List Char) :=
  let front := cs.takeWhile isSchemeChar
  match front.head?, cs.drop front.length with
  | some c, ':' :: rest =>
    if c.isAlpha then some (String.ofList (front.map Char.toLower), rest) else none
  | _, _ => none

/-- The part of an authority before its last `@`, if it has one, and the part after. -/
def splitUser (authority : List Char) : Option (List Char) × List Char :=
  let after := (authority.reverse.takeWhile (· != '@')).reverse
  if authority.contains '@' then
    (some (authority.take (authority.length - after.length - 1)), after)
  else (none, authority)

/-- The host up to the colon of a port; a colon in brackets belongs to the host. -/
def splitPort (inBrackets : Bool) : List Char → List Char × Option (List Char)
  | [] => ([], none)
  | c :: cs =>
    if c == ':' && !inBrackets then ([], some cs)
    else
      let inBrackets := if c == '[' then true else if c == ']' then false else inBrackets
      let (host, port) := splitPort inBrackets cs
      (c :: host, port)

/-- Whether a user part has a name or a password; a lone colon has neither. -/
def namesUser (user : List Char) : Bool :=
  user != [] && user != [':']

/-- Whether digits are a port; none at all leave the port open. -/
def isPort (cs : List Char) : Bool :=
  cs.all Char.isDigit && Nat.ofDigitChars 10 cs 0 < 65536

/-- What follows a double slash must be a host, with a user before and a port after it where
they are given. -/
def checkAuthority (kind : Kind) (cs : List Char) : Except UrlError Unit := do
  let authority := cs.takeWhile fun c => !endsAuthority kind c
  let (user, rest) := splitUser authority
  if user == some [] && rest.isEmpty && authority.length < cs.length then .error .emptyHost
  else
    let (host, port) := splitPort false rest
    if host.isEmpty && (kind == .web || port.isSome) then .error .emptyHost
    else
      if kind == .other then checkOpaqueHost host else checkDomainHost host
      let digits := (port.getD []).takeWhile (· != '\\')
      if !isPort digits then .error .invalidPort
      else if host.isEmpty && (user.map namesUser).getD false then .error .emptyHost
      else .ok ()

def isDriveLetter (cs : List Char) : Bool :=
  match cs with
  | [c, d] => c.isAlpha && (d == ':' || d == '|')
  | _ => false

/-- A file's host, which may be left out. -/
def checkFile (cs : List Char) : Except UrlError Unit :=
  match cs with
  | a :: b :: rest =>
    if isSlash a && isSlash b then
      let host := rest.takeWhile fun c => !endsAuthority .file c
      if host.isEmpty || isDriveLetter host then .ok () else checkDomainHost host
    else .ok ()
  | _ => .ok ()

def scheme (s : String) : Except UrlError String :=
  match scheme? (clean s.toList) with
  | none => .error .noBase
  | some (name, rest) => do
    match Kind.ofScheme name with
    | .file => checkFile rest
    | .web => checkAuthority .web (rest.dropWhile isSlash)
    | .other =>
      match rest with
      | '/' :: '/' :: rest => checkAuthority .other rest
      | _ => .ok ()
    .ok name

end SqlMapper.Url
