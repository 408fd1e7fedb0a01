import ProxyRouting.Text.Lower
import ProxyRouting.Url.Ipv6

namespace ProxyRouting

/-- The two parts of an address of a resource that say who serves it. A part that is missing is
empty. -/
structure Url where
  scheme : List Char
  authority : List Char
deriving DecidableEq, Repr

namespace Url

/-- A character of a scheme behind the first one. -/
def isSchemeChar (c : Char) : Bool := c.isAlphanum || c = '+' || c = '-' || c = '.'

/-- A text in ASCII that is a scheme: a letter and what may follow it. -/
def isScheme : List Char → Bool
  | [] => false
  | c :: rest => c.isAlpha && rest.all isSchemeChar

/-- The scheme in lower case, and the text behind the colon that ends it. Without a scheme the text
stays whole. -/
def splitScheme (s : List Char) : List Char × List Char :=
  match s.dropWhile (· != ':') with
  | ':' :: rest =>
    let scheme := s.takeWhile (· != ':')
    if isScheme scheme then (scheme.map Char.toLower, rest) else ([], s)
  | _ => ([], s)

def endsAuthority (c : Char) : Bool := c = '/' || c = '?' || c = '#'

/-- The authority at the front of a text: what stands behind two slashes. -/
def authorityOf : List Char → List Char
  | '/' :: '/' :: rest => rest.takeWhile fun c => !endsAuthority c
  | _ => []

/-- What follows the last at sign of an authority: host and port. -/
def hostAndPort (authority : List Char) : List Char :=
  (authority.reverse.takeWhile (· != '@')).reverse

/-- A host of a future kind: the letter v, a version in hexadecimal, a dot and a text. -/
def isFutureHost (s : List Char) : Bool :=
  match s with
  | 'v' :: rest =>
    !(rest.takeWhile Text.isHexDigit).isEmpty &&
    match rest.dropWhile Text.isHexDigit with
    | '.' :: text => !text.isEmpty && !text.contains '\n'
    | _ => false
  | _ => false

def isBracketHost (s : List Char) : Bool :=
  if s.head? = some 'v' then isFutureHost s else Ipv6.isScoped s

/-- Whether the brackets of an authority stand around its host, and around one that needs them. The
text `s` is host and port. -/
def bracketsFit (s : List Char) : Bool :=
  match s.dropWhile (· != '[') with
  | _ :: rest =>
    s.head? = some '[' &&
    (match rest.dropWhile (· != ']') with
      | _ :: port => port.isEmpty || port.head? = some ':'
      | [] => true) &&
    isBracketHost (rest.takeWhile (· != ']'))
  | [] => isBracketHost (s.takeWhile (· != ':'))

/-- The characters beyond ASCII whose compatibility form holds a delimiter of addresses: a slash,
question mark, number sign, at sign or colon. -/
def hiddenDelimiters : List Nat :=
  [0x2047, 0x2048, 0x2049, 0x2100, 0x2101, 0x2105, 0x2106, 0x2A74, 0xFE13, 0xFE16, 0xFE55, 0xFE56,
   0xFE5F, 0xFE6B, 0xFF03, 0xFF0F, 0xFF1A, 0xFF1F, 0xFF20]

/-- Whether an authority is well formed: brackets come in pairs around a host that needs them, and
no character hides a delimiter. -/
def isAuthority (s : List Char) : Bool :=
  (s.contains '[' == s.contains ']') &&
  (!s.contains '[' || bracketsFit (hostAndPort s)) &&
  !(s.any fun c => hiddenDelimiters.contains c.toNat)

/-- The text of an address without leading control characters and blanks, and without the tabs and
line breaks in it. -/
def clean (s : List Char) : List Char :=
  (s.dropWhile fun c => c.toNat ≤ 32).filter fun c => c != '\t' && c != '\r' && c != '\n'

/-- Split the address of a resource; none when its authority is malformed. -/
def split? (s : List Char) : Option Url :=
  let (scheme, rest) := splitScheme (clean s)
  let authority := authorityOf rest
  if isAuthority authority then some ⟨scheme, authority⟩ else none

/-- The host inside an authority: what stands in brackets, else what stands before the colon. -/
def rawHost (authority : List Char) : List Char :=
  let s := hostAndPort authority
  match s.dropWhile (· != '[') with
  | _ :: rest => rest.takeWhile (· != ']')
  | [] => s.takeWhile (· != ':')

/-- A host in lower case; a zone behind a percent sign keeps its case. -/
def lowerHost (s : List Char) : List Char :=
  Text.lower (s.takeWhile (· != '%')) ++ s.dropWhile (· != '%')

/-- The host of a resource, in lower case. -/
def host? (u : Url) : Option (List Char) :=
  if (rawHost u.authority).isEmpty then none else some (lowerHost (rawHost u.authority))

/-- The host that a text names: that of an address with scheme and host, or else the text itself. -/
def hostOf (s : List Char) : List Char :=
  match split? s with
  | some u => if u.scheme.isEmpty then s else u.host?.getD s
  | none => s

/-- Whether a text is the address of a web resource. -/
def isWeb (s : List Char) : Bool :=
  match split? s with
  | some u => (u.scheme = "http".toList || u.scheme = "https".toList) && !u.authority.isEmpty
  | none => false

def extractHost (s : String) : String := String.ofList (hostOf s.toList)

end Url

end ProxyRouting
