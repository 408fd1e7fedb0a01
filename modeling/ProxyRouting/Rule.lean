import ProxyRouting.Pattern.Grammar
import ProxyRouting.Server
import ProxyRouting.Text.Integer

namespace ProxyRouting

/-- Where a rule or a fallback sends a request. -/
inductive RouteKind where
  /-- To the host itself. -/
  | direct
  /-- To a server that the rule carries. -/
  | inline
  /-- To what another profile says. -/
  | existing
deriving DecidableEq, Repr

namespace RouteKind

def name : RouteKind → String
  | direct => "direct"
  | inline => "inline"
  | existing => "existing"

def all : List RouteKind := [direct, inline, existing]

def named? (name : Option String) : Option RouteKind := all.find? fun k => some k.name = name

/-- A kind is found by its name, and by no other. -/
theorem named?_eq_some_iff {name : Option String} {k : RouteKind} :
    named? name = some k ↔ name = some k.name := by
  constructor
  · intro h
    have := List.find?_some h
    simpa [eq_comm] using this
  · rintro rfl
    cases k <;> rfl

end RouteKind

/-- A route as it was stored: the name of its kind, the server for an inline route and the profile
for an existing one. -/
structure Route where
  kind : Option String
  server : Option Server
  profile : Option String
deriving DecidableEq, Repr

namespace Route

/-- The kind of the route, if its name is known. -/
def kind? (r : Route) : Option RouteKind := RouteKind.named? r.kind

/-- The profile that the route leads to, when its kind is existing and the id is not empty. -/
def target? (r : Route) : Option String :=
  if r.kind? = some .existing && Text.isFilled r.profile then r.profile else none

/-- Whether the route leads to the profile with this id. -/
def leadsTo (r : Route) (id : Option String) : Bool :=
  match r.target? with
  | some target => some target = id
  | none => false

end Route

/-- A routing rule: hosts that match the pattern take the route. Rules of lower priority numbers go
first, and a rule that is not enabled does not count. -/
structure Rule where
  id : Option String
  pattern : Option String
  grammar : Option String
  enabled : Bool
  priority : Int
  route : Route
deriving DecidableEq, Repr

namespace Rule

/-- The integer that a stored number, switch or text stands for; a fraction loses what follows the
point. -/
def integerOfDoc : Doc → Except Fault Int
  | .int n => .ok n
  | .bool b => .ok (if b then 1 else 0)
  | .real (.infinite _) => .error .infiniteNumber
  | .real x =>
    match x.truncate? with
    | some n => .ok n
    | none => .error .notAnInteger
  | .text s =>
    match Text.readInteger s.toList with
    | some n => .ok n
    | none => .error .notAnInteger
  | .null | .array _ | .object _ => .error .notANumber

def ofFields (fs : Fields) : Except Fault Rule := do
  let id ← fs.textOr "id" (some "")
  let pattern ← fs.textOr "pattern" (some "")
  let priority ← integerOfDoc ((fs.find? "priority").getD (.int 0))
  let grammar ← fs.textOr "matchType" (some Grammar.wildcard.name)
  let kind ← fs.textOr "proxyType" (some RouteKind.direct.name)
  let server ← fs.whenSet "inlineProxy" Server.ofDoc
  let profile ← fs.textOr "proxyId" none
  pure { id, pattern, grammar, priority, enabled := fs.switchOr "enabled" true,
         route := { kind, server, profile } }

def ofDoc (d : Doc) : Except Fault Rule := do ofFields (← d.fields)

def toDoc (r : Rule) : Doc := .object (
  [("id", .ofText r.id),
   ("enabled", .bool r.enabled),
   ("priority", .int r.priority),
   ("matchType", .ofText r.grammar),
   ("pattern", .ofText r.pattern),
   ("proxyType", .ofText r.route.kind)] ++
  (r.route.server.map fun s => ("inlineProxy", s.toDoc)).toList ++
  (r.route.profile.map fun p => ("proxyId", .text p)).toList)

end Rule

/-- Routing rules in the order of their user, and the route of requests that no rule matches. -/
structure RuleSet where
  rules : List Rule
  fallback : Route
deriving DecidableEq, Repr

namespace RuleSet

def rule? (s : RuleSet) (id : Option String) : Option Rule := s.rules.find? fun r => r.id = id

def ofFields (fs : Fields) : Except Fault RuleSet := do
  let rules ← (← ((fs.find? "rules").getD (.array [])).items).mapM Rule.ofDoc
  let kind ← fs.textOr "fallbackType" (some RouteKind.direct.name)
  let server ← fs.whenSet "fallbackInlineProxy" Server.ofDoc
  let profile ← fs.textOr "fallbackProxyId" none
  pure { rules, fallback := { kind, server, profile } }

def ofDoc (d : Doc) : Except Fault RuleSet := do ofFields (← d.fields)

def toDoc (s : RuleSet) : Doc := .object (
  [("rules", .array (s.rules.map Rule.toDoc)),
   ("fallbackType", .ofText s.fallback.kind)] ++
  (s.fallback.server.map fun p => ("fallbackInlineProxy", p.toDoc)).toList ++
  (s.fallback.profile.map fun p => ("fallbackProxyId", .text p)).toList)

end RuleSet

end ProxyRouting
