import ProxyRouting.Analysis.Basic
import ProxyRouting.Url.Split
import ProxyRouting.Validation.RuleSet

namespace ProxyRouting

/-- A color: a number sign and six hexadecimal digits. -/
def isColor (s : List Char) : Bool :=
  match s with
  | '#' :: digits => digits.length = 6 && digits.all Text.isHexDigit
  | _ => false

namespace ManualServers

/-- The warnings about entries of the list of hosts without a name, which are numbered from
`number` on. -/
def bypassReport : Nat → List (Option String) → Except Fault Report
  | _, [] => .ok .empty
  | _, none :: _ => .error .missingText
  | number, some entry :: rest => do
    let others ← bypassReport (number + 1) rest
    let own : Report :=
      if Text.isEmptyOrBlank entry.toList then
        .warning ("Bypass list entry #" ++ String.ofList (Text.writeNat number) ++ " is empty")
      else .empty
    pure (own ++ others)

/-- Check manually entered servers, of which there is one at least. -/
def validate (m : ManualServers) : Except Fault Report :=
  if m.filled.isEmpty then .ok (.error "At least one proxy server must be configured")
  else do
    let servers ← m.filled.mapM fun (slot, server) => server.validate slot.label
    pure (Report.joined servers ++ (← bypassReport 1 m.bypass))

end ManualServers

namespace ScriptSource

/-- Check the address of a script, and whether it competes with a text. -/
def addressReport (s : ScriptSource) : Report :=
  if Text.isFilled s.url then
    (if Text.isFilled s.data then
        .warning "Both PAC URL and inline script are set - URL will take precedence"
      else .empty) ++
    (if Url.isWeb (Text.shown s.url).toList then .empty
      else .error ("Invalid PAC script URL: " ++ Text.shown s.url))
  else .empty

/-- What the analysis of a script means for the profile that carries it. -/
def analysisReport (a : Analysis) : Report where
  errors := a.syntaxErrors ++ a.critical.map fun i => "Security: " ++ i.message
  warnings := (a.uncritical.map fun i => "Security: " ++ i.message) ++ a.warnings

/-- Check where the script of a profile comes from, and the script itself if it is there. -/
def validate (s : ScriptSource) (w : Workplace) (name : Option String) : Work Report :=
  if !Text.isFilled s.url && !Text.isFilled s.data then
    return .error "PAC script requires either a URL or inline script"
  else if Text.isFilled s.data then do
    let analysis ← w.analyze (Text.shown s.data).toList ("proxy '" ++ Text.shown name ++ "'")
    return s.addressReport ++ analysisReport analysis
  else return s.addressReport

end ScriptSource

namespace Profile

def nameReport (p : Profile) (settings : Settings) : Report :=
  if isVacant p.name then .error "Proxy name is required"
  else if settings.maxNameLength.exceededBy (Text.shown p.name).length then
    .warning "Proxy name is very long - consider shortening for better display"
  else .empty

def colorReport (p : Profile) : Report :=
  if !Text.isFilled p.color then .error "Proxy color is required"
  else if isColor (Text.shown p.color).toList then .empty
  else .error "Invalid color format - must be hex color (e.g., #3b82f6)"

def validateMode (p : Profile) (w : Workplace) : Work Report :=
  match p.mode? with
  | some .fixedServers =>
    match p.servers with
    | some servers => (servers.validate : Except Fault _)
    | none => return .error "Manual proxy mode requires proxy server configuration"
  | some .script =>
    match p.script with
    | some source => source.validate w p.name
    | none => return .error "PAC script mode requires script configuration"
  | some _ => return .empty
  | none => return .error ("Unknown proxy mode: " ++ Text.shown p.mode)

def validate (p : Profile) (w : Workplace) : Work Report := do
  let mode ← p.validateMode w
  let report := p.nameReport w.settings ++ p.colorReport ++ mode
  Desk.noteFailure report ("proxy '" ++ Text.shown p.name ++ "'")
  return report

def isValid (p : Profile) (w : Workplace) : Work Bool := do
  return (← p.validate w).isValid

end Profile

end ProxyRouting
