import ProxyRouting.Doc.Basic
import ProxyRouting.Number.Shortest
import ProxyRouting.Text.Optional

namespace ProxyRouting

/-- A proxy server as it was entered. The port is a text; its validity is a question of its own. -/
structure Server where
  scheme : Option String
  host : Option String
  port : String
deriving DecidableEq, Repr

/-- The schemes that a proxy server can have. -/
inductive Scheme where
  | http
  | https
  | socks4
  | socks5
  | quic
deriving DecidableEq, Repr

namespace Scheme

def name : Scheme → String
  | http => "http"
  | https => "https"
  | socks4 => "socks4"
  | socks5 => "socks5"
  | quic => "quic"

/-- All schemes, in the order in which they are listed. -/
def all : List Scheme := [http, https, socks4, socks5, quic]

def named? (name : Option String) : Option Scheme := all.find? fun s => some s.name = name

/-- A scheme is found by its name, and by no other. -/
theorem named?_eq_some_iff {name : Option String} {s : Scheme} :
    named? name = some s ↔ name = some s.name := by
  constructor
  · intro h
    have := List.find?_some h
    simpa [eq_comm] using this
  · rintro rfl
    cases s <;> rfl

end Scheme

namespace Server

def address (s : Server) : String := Text.shown s.host ++ ":" ++ s.port

/-- The text of a stored port. A number is written in decimal and a switch as a word. -/
def portOfDoc : Doc → Except Fault String
  | .null => .ok ""
  | .text s => .ok s
  | .int n => .ok (String.ofList (Text.writeInt n))
  | .real x => .ok (String.ofList x.toText)
  | .bool b => .ok (if b then "True" else "False")
  | .array _ | .object _ => .error .notAText

def ofFields (fs : Fields) : Except Fault Server := do
  let port ← portOfDoc ((fs.find? "port").getD .null)
  let scheme ← fs.textOr "scheme" (some Scheme.http.name)
  let host ← fs.textOr "host" (some "")
  pure { scheme, host, port }

def ofDoc (d : Doc) : Except Fault Server := do ofFields (← d.fields)

def toDoc (s : Server) : Doc := .object [
  ("scheme", .ofText s.scheme),
  ("host", .ofText s.host),
  ("port", .text s.port)]

end Server

end ProxyRouting
