import ProxyRouting.Server
import ProxyRouting.Text.Lower
import ProxyRouting.Text.Pieces

namespace ProxyRouting

/-- The words that start an entry of what a script returns. -/
inductive Keyword where
  | proxy
  | http
  | https
  | quic
  | socks
  | socks4
  | socks5
deriving DecidableEq, Repr

namespace Keyword

def word : Keyword → String
  | proxy => "PROXY"
  | http => "HTTP"
  | https => "HTTPS"
  | quic => "QUIC"
  | socks => "SOCKS"
  | socks4 => "SOCKS4"
  | socks5 => "SOCKS5"

def all : List Keyword := [proxy, http, https, quic, socks, socks4, socks5]

def read? (word : List Char) : Option Keyword := all.find? fun k => k.word.toList = word

/-- A keyword is read from its word, and from no other. -/
theorem read?_eq_some_iff {word : List Char} {k : Keyword} :
    read? word = some k ↔ word = k.word.toList := by
  constructor
  · intro h
    have := List.find?_some h
    simpa [eq_comm] using this
  · rintro rfl
    cases k <;> rfl

/-- The scheme of the servers that a keyword announces. -/
def scheme : Keyword → Scheme
  | proxy | http => .http
  | https => .https
  | quic => .quic
  | socks | socks5 => .socks5
  | socks4 => .socks4

/-- The keyword under which servers of a scheme are announced. The name of the scheme is given in
lower case; one without a keyword of its own is announced as a plain proxy. -/
def announcing (scheme : List Char) : Keyword :=
  if scheme = Scheme.socks4.name.toList then socks
  else if scheme = Scheme.socks5.name.toList then socks5
  else if scheme = Scheme.https.name.toList then https
  else proxy

end Keyword

namespace Entry

/-- What a script returns when no proxy is to be used. -/
def direct : String := "DIRECT"

/-- The entry that announces a server: its keyword, a blank and its address. -/
def announce (s : Server) : Except Fault String :=
  match s.scheme with
  | some scheme =>
    .ok ((Keyword.announcing (Text.lower scheme.toList)).word ++ " " ++ s.address)
  | none => .error .missingText

/-- A port: ASCII digits up to the end. -/
def isPort (s : List Char) : Bool := !s.isEmpty && s.all Char.isDigit

/-- A host between brackets, and a port behind a colon. -/
def bracketed? (s : List Char) : Option (List Char × List Char) :=
  match s with
  | '[' :: rest =>
    match rest.dropWhile (· != ']') with
    | ']' :: ':' :: port =>
      let inside := rest.takeWhile (· != ']')
      if !inside.isEmpty && isPort port then some ('[' :: inside ++ [']'], port) else none
    | _ => none
  | _ => none

/-- A host without brackets, and a port behind the first colon. -/
def plain? (s : List Char) : Option (List Char × List Char) :=
  match s.dropWhile (· != ':') with
  | ':' :: port =>
    let host := s.takeWhile (· != ':')
    if !host.isEmpty && !host.contains '[' && isPort port then some (host, port) else none
  | _ => none

/-- The host and port behind the blanks that follow a keyword. All blanks separate; only when no
host is left does the last of several blanks stand for one. -/
def address? (blanks s : List Char) : Option (List Char × List Char) :=
  if blanks.isEmpty then none
  else match (bracketed? s).or (plain? s) with
    | some found => some found
    | none =>
      match blanks.reverse, s with
      | last :: _ :: _, ':' :: port => if isPort port then some ([last], port) else none
      | _, _ => none

/-- Read an entry that has no blanks at its ends. -/
def ofChars? (s : List Char) : Option Server :=
  let word := s.takeWhile fun c => !Text.isAsciiBlank c
  let rest := s.dropWhile fun c => !Text.isAsciiBlank c
  match Keyword.read? word with
  | some k =>
    (address? (rest.takeWhile Text.isAsciiBlank) (rest.dropWhile Text.isAsciiBlank)).map
      fun (host, port) => ⟨some k.scheme.name, some (String.ofList host), String.ofList port⟩
  | none => none

/-- Read an entry. What announces no server, such as a direct connection, is none. -/
def read? (s : String) : Option Server := ofChars? (Text.strip s.toList)

/-- The entries of a chain: what stands between semicolons, without the blanks around it. -/
def chainOfChars (s : List Char) : List (List Char) :=
  ((Text.pieces ';' s).map Text.strip).filter fun entry => !entry.isEmpty

def chain (s : String) : List String := (chainOfChars s.toList).map String.ofList

end Entry

end ProxyRouting
