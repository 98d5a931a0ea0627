import SqlMapper.Text.Composition
import SqlMapper.Url.Domain.MappingTable

/-! The one spelling that stands for all spellings of a domain name. -/

namespace SqlMapper.Url

def Substitution.text? (s : Substitution) (n : Nat) : Option (List Char) :=
  if s.first ≤ n && n ≤ s.last then
    match (s.texts.toList.splitOn '|')[n - s.first]? with
    | some (c :: cs) => some (c :: cs)
    | _ => none
  else none

/-- The characters that stand for a character, unless it is refused. -/
def substitute? (c : Char) : Option (List Char) :=
  if c.toNat < 0x80 then some [c.toLower]
  else if Text.inRanges refusedRanges c.toNat then none
  else if Text.inRanges ignoredRanges c.toNat then some []
  else
    match substitutionShifts.find? fun s => s.contains c.toNat with
    | some s => some [Char.ofNat (c.toNat + s.shift).toNat]
    | none => some ((substitutions.findSome? fun s => s.text? c.toNat).getD [c])

def canonicalName? (cs : List Char) : Option (List Char) :=
  (cs.mapM substitute?).map fun parts => Text.compose parts.flatten

end SqlMapper.Url
