import SqlMapper.Text.Utf8
import SqlMapper.Url.Address
import SqlMapper.Url.Domain.Name

/-! Host names of URLs: which texts are hosts, and why others are not. -/

namespace SqlMapper.Url

inductive UrlError where
  | emptyHost
  | internationalName
  | invalidPort
  | invalidIpv4
  | invalidIpv6
  | invalidDomainCharacter
  | noBase
  deriving DecidableEq, Repr

def UrlError.message : UrlError → String
  | .emptyHost => "empty host"
  | .internationalName => "invalid international domain name"
  | .invalidPort => "invalid port number"
  | .invalidIpv4 => "invalid IPv4 address"
  | .invalidIpv6 => "invalid IPv6 address"
  | .invalidDomainCharacter => "invalid domain character"
  | .noBase => "relative URL without a base"

/-- Characters that no host may hold, beyond those that end it. -/
def isForbiddenHost (c : Char) : Bool :=
  c == '\u0000' || "\t\n\r #/:<>?@[\\]^|".toList.contains c

/-- The bytes of a text in which `%` and two hexadecimal digits stand for one byte. -/
def percentDecode : List Char → List UInt8
  | [] => []
  | '%' :: a :: b :: cs =>
    if isHexDigit a && isHexDigit b then
      UInt8.ofNat (hexValue a * 16 + hexValue b) :: percentDecode cs
    else Text.toUtf8 "%" ++ percentDecode (a :: b :: cs)
  | c :: cs => Text.toUtf8 c.toString ++ percentDecode cs

def bracketed (cs : List Char) : Except UrlError Unit :=
  match cs with
  | '[' :: rest =>
    if rest.getLast? = some ']' && isIpv6 rest.dropLast then .ok () else .error .invalidIpv6
  | _ => .ok ()

/-- The host of a scheme that has domain names: an address in brackets, or a name. -/
def checkDomainHost (cs : List Char) : Except UrlError Unit :=
  if cs.head? = some '[' then bracketed cs
  else
    match (Text.ofUtf8? (percentDecode cs)).bind fun s => domainName? s.toList with
    | none => .error .internationalName
    | some name =>
      if name.isEmpty then .error .emptyHost
      else if endsInNumber name && !isIpv4 name then .error .invalidIpv4
      else .ok ()

/-- The host of any other scheme: an address in brackets, or any text without the characters
that would end it. -/
def checkOpaqueHost (cs : List Char) : Except UrlError Unit :=
  if cs.head? = some '[' then bracketed cs
  else if cs.any isForbiddenHost then .error .invalidDomainCharacter
  else .ok ()

end SqlMapper.Url
