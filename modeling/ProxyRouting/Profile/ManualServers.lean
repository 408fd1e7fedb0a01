import ProxyRouting.Server

namespace ProxyRouting

/-- The requests that a manually entered server is for. -/
inductive Slot where
  | shared
  | http
  | https
  | ftp
  | fallback
deriving DecidableEq, Repr

namespace Slot

/-- All slots, in the order in which they are listed. -/
def all : List Slot := [shared, http, https, ftp, fallback]

/-- The name of the field in which the server of a slot is stored. -/
def key : Slot → String
  | shared => "singleProxy"
  | http => "proxyForHttp"
  | https => "proxyForHttps"
  | ftp => "proxyForFtp"
  | fallback => "fallbackProxy"

def label : Slot → String
  | shared => "Shared proxy"
  | http => "HTTP proxy"
  | https => "HTTPS proxy"
  | ftp => "FTP proxy"
  | fallback => "Fallback proxy"

end Slot

/-- Manually entered servers, and the hosts that pass them by. -/
structure ManualServers where
  shared : Option Server
  http : Option Server
  https : Option Server
  ftp : Option Server
  fallback : Option Server
  bypass : List (Option String)
deriving DecidableEq, Repr

namespace ManualServers

def get? (m : ManualServers) : Slot → Option Server
  | .shared => m.shared
  | .http => m.http
  | .https => m.https
  | .ftp => m.ftp
  | .fallback => m.fallback

/-- The slots that have a server, in their order. -/
def filled (m : ManualServers) : List (Slot × Server) :=
  Slot.all.filterMap fun slot => (m.get? slot).map (slot, ·)

/-- The server for requests that are not told apart: the shared one, else the one for plain
requests. -/
def main? (m : ManualServers) : Option Server := m.shared.or m.http

def ofFields (fs : Fields) : Except Fault ManualServers := do
  let shared ← fs.whenSet Slot.shared.key Server.ofDoc
  let http ← fs.whenSet Slot.http.key Server.ofDoc
  let https ← fs.whenSet Slot.https.key Server.ofDoc
  let ftp ← fs.whenSet Slot.ftp.key Server.ofDoc
  let fallback ← fs.whenSet Slot.fallback.key Server.ofDoc
  let bypass ← (← ((fs.find? "bypassList").getD (.array [])).items).mapM Doc.optionalText
  pure { shared, http, https, ftp, fallback, bypass }

def ofDoc (d : Doc) : Except Fault ManualServers := do ofFields (← d.fields)

def toDoc (m : ManualServers) : Doc := .object (
  m.filled.map (fun entry => (entry.1.key, entry.2.toDoc)) ++
  if m.bypass.isEmpty then [] else [("bypassList", .array (m.bypass.map Doc.ofText))])

end ManualServers

end ProxyRouting
