import JobsGateway.Url.Idna.Label
import JobsGateway.Url.Idna.Punycode
import JobsGateway.Url.Ipv4
import JobsGateway.Url.Ipv6
import JobsGateway.Url.Percent

/-!
# Hosts

The host of a special URL is an IPv6 address in brackets, an IPv4 address, or a domain name. A
domain name is percent-decoded, mapped, cut into labels and brought to ASCII label by label. Any
other URL has an opaque host, which is only escaped.
-/

namespace JobsGateway

namespace Idna

/-- ASCII characters that no domain name may hold after the mapping. -/
def isForbidden (c : Char) : Bool :=
  c.toNat ≤ 0x20 || c.toNat == 0x7F || c.isUpper || "%#/:<>?@[\\]^`\x7b|\x7d".toList.contains c

/-- A label of ASCII characters only. -/
def isAscii (label : Text) : Bool :=
  label.all (·.toNat < 0x80)

/-- The mark of a label in Punycode. -/
def acePrefix : Text :=
  "xn--".toList

/-- The label as it reads: what Punycode stands for, or the label itself. A label in Punycode must
be ASCII and stand for a valid label outside ASCII. -/
def unicodeLabel? (label : Text) : Option Text :=
  if acePrefix.isPrefixOf label then
    if isAscii label then (Punycode.decode? (label.drop 4)).filter (!isAscii ·) else none
  else some label

/-- A label in its ASCII form. -/
def asciiLabel (label : Text) : Text :=
  if isAscii label then label else acePrefix ++ Punycode.encode label

/-- The longest label that is written in Punycode. -/
def labelLimit : Nat := 1000

/-- A label that has an ASCII form. -/
def isWritable (label : Text) : Bool :=
  isAscii label || label.length ≤ labelLimit

/-- Whether a label, given as it reads, may stand in a name. -/
def isLabel (label : Text) : Bool :=
  isAscii label || isValidLabel label

/-- A domain name in its ASCII form, all in lower case. -/
def toAscii? (domain : Text) : Option Text := do
  let mapped ← map? domain
  let name := if isAscii mapped then mapped else normalize mapped
  if name.any isForbidden then none
  let labels := name.splitOn '.'
  let readable ← labels.mapM unicodeLabel?
  if labels.all isWritable && readable.all isLabel &&
      (!readable.any runsRightToLeft || readable.all keepsDirection) then
    pure (List.intercalate ['.'] (labels.map asciiLabel))
  else none

end Idna

namespace Host

/-- The IPv6 address between brackets. -/
def readBracketed (rest : Text) : Except UrlError Host :=
  match rest.getLast? with
  | some ']' =>
    match Ipv6.read? rest.dropLast with
    | some pieces => .ok (.ipv6 pieces)
    | none => .error .invalidIpv6
  | _ => .error .invalidIpv6

/-- A domain name or IPv4 address from its ASCII form. -/
def ofAscii (name : Text) : Except UrlError Host :=
  if name = [] then .error .emptyHost
  else if Ipv4.endsInNumber name then
    match Ipv4.read? name with
    | some address => .ok (.ipv4 address)
    | none => .error .invalidIpv4
  else .ok (.domain name)

/-- The host of a special URL. -/
def readSpecial (text : Text) : Except UrlError Host :=
  match text with
  | '[' :: rest => readBracketed rest
  | _ =>
    match (Utf8.decode? (Percent.decode (Utf8.encode text))).bind Idna.toAscii? with
    | some name => ofAscii name
    | none => .error .invalidDomainName

/-- What an opaque host may not hold. -/
def isForbiddenOpaque (c : Char) : Bool :=
  "\x00\t\n\r #/:<>?@[\\]^|".toList.contains c

/-- The host of a URL of no special scheme. -/
def readOpaque (text : Text) : Except UrlError (Option Host) :=
  match text with
  | [] => .ok none
  | '[' :: rest => (readBracketed rest).map some
  | _ =>
    if text.any isForbiddenOpaque then .error .invalidDomainCharacter
    else .ok (some (.domain (Percent.encode Percent.controls text)))

/-- A host as it is written. -/
def text : Host → Text
  | .domain name => name
  | .ipv4 address => Ipv4.write address
  | .ipv6 pieces => '[' :: Ipv6.write pieces ++ [']']

end Host

end JobsGateway
