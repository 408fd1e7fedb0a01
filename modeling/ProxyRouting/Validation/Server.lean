import ProxyRouting.Report
import ProxyRouting.Server
import ProxyRouting.Text.Blank
import ProxyRouting.Validation.Host

namespace ProxyRouting

/-- Whether a text is absent or has nothing but blanks. -/
def isVacant (s : Option String) : Bool :=
  match s with
  | some s => Text.isEmptyOrBlank s.toList
  | none => true

namespace Server

/-- What is wrong with the host of a server. -/
def hostProblem? (s : Server) : Option String :=
  if isVacant s.host then some "Host is required"
  else if Host.isValid (Text.shown s.host).toList then none
  else some ("Invalid host \"" ++ Text.shown s.host ++ "\" - must be a domain name or IP address")

/-- The sign and the digits of the number at the front of a text, behind blanks. -/
def leadingNumber? (s : List Char) : Option (Bool × List Char) :=
  let (negative, rest) : Bool × List Char := match s.dropWhile Text.isAsciiBlank with
    | '-' :: rest => (true, rest)
    | '+' :: rest => (false, rest)
    | rest => (false, rest)
  let digits := rest.takeWhile Char.isDigit
  if digits.isEmpty then none else some (negative, digits)

def portReport (label : String) (n : Int) : Report :=
  if n < 1 ∨ 65535 < n then .error (label ++ ": Port must be between 1 and 65535")
  else if n = 80 then .warning (label ++ ": Port 80 is typically for HTTP, not proxies")
  else if n = 443 then .warning (label ++ ": Port 443 is typically for HTTPS, not proxies")
  else if n < 1024 then
    .warning (label ++ ": Port " ++ String.ofList (Text.writeInt n) ++ " is a privileged port")
  else .empty

/-- Check the port of a server. What follows its number counts for nothing. -/
def checkPort (s : Server) (label : String) : Except Fault Report :=
  if s.port = "" then .ok (.error (label ++ ": Port is required"))
  else match leadingNumber? s.port.toList with
    | none => .ok (.error (label ++ ": Port must be a number"))
    | some (negative, digits) =>
      if Text.maxDigits < digits.length then .error .notAnInteger
      else
        let n : Int := Text.ofDigits (digits.map Text.digitValue)
        .ok (portReport label (if negative then -n else n))

def checkScheme (s : Server) (label : String) : Report :=
  match Scheme.named? s.scheme with
  | none =>
    .error (label ++ ": Invalid scheme \"" ++ Text.shown s.scheme ++ "\" - must be one of: " ++
      ", ".intercalate (Scheme.all.map Scheme.name))
  | some .quic =>
    .warning (label ++ ": QUIC proxy support may be limited in some environments")
  | some _ => .empty

/-- Check a server; each message starts with its label. -/
def validate (s : Server) (label : String) : Except Fault Report := do
  let host : Report := match s.hostProblem? with
    | some problem => .error (label ++ ": " ++ problem)
    | none => .empty
  let port ← s.checkPort label
  pure (host ++ port ++ s.checkScheme label)

end Server

end ProxyRouting
