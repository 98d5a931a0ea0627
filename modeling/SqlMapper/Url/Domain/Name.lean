import SqlMapper.Text.Direction
import SqlMapper.Url.Domain.Label

/-! Domain names in characters of all scripts. -/

namespace SqlMapper.Url

/-- Whether a character is written from the right, so that its name has to be looked at for
labels that would be read in two ways. -/
def isFromRight (c : Char) : Bool :=
  Text.direction c == .right || Text.direction c == .arabicNumber

/-- Whether all of a label is read in the direction of its first character. -/
def hasOneDirection (label : List Char) : Bool :=
  match label.map Text.direction with
  | [] => true
  | first :: rest =>
    let rest := (rest.reverse.dropWhile (· == .mark)).reverse
    match first with
    | .left =>
      !rest.contains .right && !rest.contains .arabicNumber &&
        rest.getLast?.all fun d => d == .left || d == .europeanNumber
    | .right =>
      !rest.contains .left && !(rest.contains .arabicNumber && rest.contains .europeanNumber) &&
        rest.getLast?.all fun d => d == .right || d == .arabicNumber || d == .europeanNumber
    | _ => false

def domainName? (cs : List Char) : Option (List Char) := do
  let name ← canonicalName? cs
  if name.any isForbiddenDomain then none
  else
    let labels ← (name.splitOn '.').mapM label?
    if labels.any (·.any isFromRight) && !labels.all hasOneDirection then none
    else some (['.'].intercalate labels)

end SqlMapper.Url
