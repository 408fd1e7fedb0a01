import ProxyRouting.Profile.ManualServers
import ProxyRouting.Rule

namespace ProxyRouting

/-- Where a proxy script comes from: an address, a text, or both. A mandatory script that is invalid
stops all requests. -/
structure ScriptSource where
  url : Option String
  data : Option String
  mandatory : Bool
deriving DecidableEq, Repr

namespace ScriptSource

def ofFields (fs : Fields) : Except Fault ScriptSource := do
  let url ← fs.textOr "url" none
  let data ← fs.textOr "data" none
  pure { url, data, mandatory := fs.switchOr "mandatory" false }

def ofDoc (d : Doc) : Except Fault ScriptSource := do ofFields (← d.fields)

def toDoc (s : ScriptSource) : Doc := .object (
  [("mandatory", .bool s.mandatory)] ++
  (s.url.map fun t => ("url", .text t)).toList ++
  (s.data.map fun t => ("data", .text t)).toList)

end ScriptSource

/-- How a browser finds its proxy. -/
inductive Mode where
  | direct
  | system
  | autoDetect
  | script
  | fixedServers
deriving DecidableEq, Repr

namespace Mode

def name : Mode → String
  | direct => "direct"
  | system => "system"
  | autoDetect => "auto_detect"
  | script => "pac_script"
  | fixedServers => "fixed_servers"

def all : List Mode := [direct, system, autoDetect, script, fixedServers]

def named? (name : Option String) : Option Mode := all.find? fun m => some m.name = name

/-- A mode is found by its name, and by no other. -/
theorem named?_eq_some_iff {name : Option String} {m : Mode} :
    named? name = some m ↔ name = some m.name := by
  constructor
  · intro h
    have := List.find?_some h
    simpa [eq_comm] using this
  · rintro rfl
    cases m <;> rfl

end Mode

/-- One entry of the user's list of proxy configurations. -/
structure Profile where
  id : Option String
  name : Option String
  color : Option String
  mode : Option String
  script : Option ScriptSource
  servers : Option ManualServers
  isActive : Bool
  quickSwitch : Bool
  ruleSet : Option RuleSet
deriving DecidableEq, Repr

namespace Profile

/-- The mode of the profile, if its name is known. -/
def mode? (p : Profile) : Option Mode := Mode.named? p.mode

/-- The text of the script that the profile carries, if it has a character. -/
def scriptText? (p : Profile) : Option String :=
  match p.script with
  | some source => if Text.isFilled source.data then source.data else none
  | none => none

/-- Whether the profile is in script mode and carries the text of its script. -/
def runsScript (p : Profile) : Bool := p.mode? = some .script && p.scriptText?.isSome

def hasRuleSet (p : Profile) : Bool := p.ruleSet.isSome

def ofFields (fs : Fields) : Except Fault Profile := do
  let id ← fs.textOr "id" none
  let name ← fs.textOr "name" (some "")
  let color ← fs.textOr "color" (some "")
  let mode ← fs.textOr "mode" (some Mode.system.name)
  let script ← fs.whenPresent "pacScript" ScriptSource.ofDoc
  let servers ← fs.whenPresent "rules" ManualServers.ofDoc
  let ruleSet ← fs.whenPresent "autoProxy" RuleSet.ofDoc
  pure { id, name, color, mode, script, servers, ruleSet,
         isActive := fs.switchOr "isActive" false,
         quickSwitch := fs.switchOr "quickSwitch" false }

def ofDoc (d : Doc) : Except Fault Profile := do ofFields (← d.fields)

def toDoc (p : Profile) : Doc := .object (
  [("name", .ofText p.name),
   ("color", .ofText p.color),
   ("mode", .ofText p.mode),
   ("isActive", .bool p.isActive),
   ("quickSwitch", .bool p.quickSwitch)] ++
  (p.id.map fun t => ("id", .text t)).toList ++
  (p.script.map fun s => ("pacScript", s.toDoc)).toList ++
  (p.servers.map fun s => ("rules", s.toDoc)).toList ++
  (p.ruleSet.map fun s => ("autoProxy", s.toDoc)).toList)

/-- The first profile with this id; an empty id names none. -/
def find? (id : Option String) (profiles : List Profile) : Option Profile :=
  if Text.isFilled id then profiles.find? fun p => p.id = id else none

/-- A profile is found by its own id, which is not empty. -/
theorem id_of_find? {id : Option String} {profiles : List Profile} {p : Profile}
    (h : find? id profiles = some p) : p.id = id ∧ Text.isFilled id = true := by
  unfold find? at h
  split at h
  next hFilled => exact ⟨by simpa using List.find?_some h, hFilled⟩
  next => cases h

theorem mem_of_find? {id : Option String} {profiles : List Profile} {p : Profile}
    (h : find? id profiles = some p) : p ∈ profiles := by
  unfold find? at h
  split at h
  · exact List.mem_of_find?_eq_some h
  · cases h

end Profile

end ProxyRouting
