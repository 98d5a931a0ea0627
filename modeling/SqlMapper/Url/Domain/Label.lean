import SqlMapper.Text.Joining
import SqlMapper.Url.Domain.Mapping
import SqlMapper.Url.Domain.Punycode

/-! Labels, the parts of a domain name between its dots. -/

namespace SqlMapper.Url

/-- Characters that no domain name may hold. -/
def isForbiddenDomain (c : Char) : Bool :=
  c.toNat ≤ 0x20 || c.toNat == 0x7f || "%#/:<>?@[\\]^|".toList.contains c

def isAscii (cs : List Char) : Bool :=
  cs.all fun c => c.toNat < 0x80

/-- The text that is written behind `xn--`. It must be in canonical form already. -/
def decodedLabel? (cs : List Char) : Option (List Char) :=
  if !isAscii cs || cs.isEmpty || cs.getLast? = some '-' || 2000 < cs.length then none
  else
    match Punycode.decode? cs with
    | none => none
    | some out =>
      if canonicalName? out = some out && !out.any isForbiddenDomain then some out else none

/-- A label in full, unless its characters may not stand so. -/
def label? (cs : List Char) : Option (List Char) :=
  let full :=
    match cs with
    | 'x' :: 'n' :: '-' :: '-' :: rest => decodedLabel? rest
    | _ => if isAscii cs || cs.length ≤ 1000 then some cs else none
  full.filter fun out => !out.head?.any Text.isMark && Text.joinersFit [] out

end SqlMapper.Url
