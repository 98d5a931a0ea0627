import SqlMapper.Url.Scheme

/-! Parts of a URL whose scheme has no rules of its own: its host and the names of its query
parameters. -/

namespace SqlMapper.Url

/-- The host after a double slash, if there is one. -/
def host? (s : String) : Option String :=
  match scheme? (clean s.toList) with
  | some (_, '/' :: '/' :: rest) =>
    let authority := rest.takeWhile fun c => !endsAuthority .other c
    let host := (splitPort false (splitUser authority).2).1
    if host.isEmpty then none else some (String.ofList host)
  | _ => none

/-- The text between the first question mark and a fragment. -/
def query (s : String) : List Char :=
  ((clean s.toList).takeWhile (· != '#')).dropWhile (· != '?') |>.drop 1

def parameterNames (s : String) : List String :=
  let items := ((String.ofList (query s)).splitOn "&").filter fun item => !item.isEmpty
  items.map fun item => String.ofList (item.toList.takeWhile (· != '='))

end SqlMapper.Url
