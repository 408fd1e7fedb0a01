import ProxyRouting.Address
import ProxyRouting.Text.Hexadecimal

namespace ProxyRouting.Host

/-- A label of a domain name: ASCII letters, digits and hyphens, no hyphen at either end. -/
def isLabel (s : List Char) : Bool :=
  !s.isEmpty && s.all (fun c => c.isAlphanum || c = '-') &&
    s.head? != some '-' && s.getLast? != some '-'

def isDomain (s : List Char) : Bool := (Text.pieces '.' s).all isLabel

/-- An IPv6 address, taken roughly: three to eight groups of at most four hexadecimal digits with
colons between them. -/
def isIpv6 (s : List Char) : Bool :=
  let groups := Text.pieces ':' s
  3 ≤ groups.length && groups.length ≤ 8 &&
    groups.all fun g => g.length ≤ 4 && g.all Text.isHexDigit

/-- Whether a text is a host: a dotted address whose numbers fit octets, else a domain name or an
IPv6 address. -/
def isValid (s : List Char) : Bool :=
  match Quad.ofChars? s with
  | some q => decide q.InRange
  | none => isDomain s || isIpv6 s

end ProxyRouting.Host
