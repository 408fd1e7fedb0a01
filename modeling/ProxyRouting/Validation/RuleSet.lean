import ProxyRouting.Desk
import ProxyRouting.Pattern.Validity
import ProxyRouting.References
import ProxyRouting.Validation.Server

namespace ProxyRouting

namespace Desk

/-- Record that the validation of `subject` failed, if it did. -/
def noteFailure (r : Report) (subject : String) : Work Unit :=
  if r.isValid then pure ()
  else note ⟨.profile, .medium, "Validation of " ++ subject ++ " failed",
    some ("; ".intercalate r.errors), .object []⟩

end Desk

/-- The warning about a route to a profile that does not exist. -/
def orphanWarning : String := "Referenced proxy no longer exists - traffic will go DIRECT"

/-- Check a route among the profiles that there are. The server that it carries is called `label` in
messages. -/
def Route.validate (r : Route) (profiles : List Profile) (label : String) : Except Fault Report :=
  match r.kind? with
  | some .direct => .ok .empty
  | some .inline =>
    match r.server with
    | some server => server.validate label
    | none => .ok (.error "Inline proxy server is required")
  | some .existing =>
    .ok (if !Text.isFilled r.profile then .error "No proxy selected"
      else if (Profile.find? r.profile profiles).isNone then .warning orphanWarning
      else .empty)
  | none => .ok (.error ("Unknown proxy type: " ++ Text.shown r.kind))

namespace Rule

/-- How a rule is called in messages: by its number, and by its pattern if it has one. -/
def lead (r : Rule) (number : Nat) : String :=
  "Rule " ++ String.ofList (Text.writeNat number) ++ " (" ++
    (if Text.isFilled r.pattern then Text.shown r.pattern else "empty") ++ "): "

/-- Check the pattern of a rule, and record what is wrong with it. -/
def validatePattern (r : Rule) : Work Report := do
  match ← (patternProblem? r.pattern r.grammar : Except Fault _) with
  | none => return .empty
  | some problem =>
    Desk.note ⟨.pattern, .low, problem.message, some ("rule " ++ Text.shown r.id), .object []⟩
    return .error problem.message

def validate (r : Rule) (profiles : List Profile) : Work Report := do
  let pattern ← r.validatePattern
  let route ← (r.route.validate profiles "Inline proxy" : Except Fault _)
  return pattern ++ route

end Rule

namespace RuleSet

/-- Check rules in their order; they are numbered from `number` on. -/
def validateRules (profiles : List Profile) : Nat → List Rule → Work Report
  | _, [] => return .empty
  | number, r :: rest => do
    let first ← r.validate profiles
    let others ← validateRules profiles (number + 1) rest
    return Report.empty.merge first (r.lead number) ++ others

/-- Check the fallback of a rule set. The messages about the server that it carries stand alone. -/
def validateFallback (s : RuleSet) (profiles : List Profile) : Except Fault Report := do
  let report ← s.fallback.validate profiles "Fallback proxy"
  let lead := if s.fallback.kind? = some .inline ∧ s.fallback.server.isSome then "" else "Fallback: "
  pure (Report.empty.merge report lead)

/-- Check a rule set before it is compiled, and record a failure. A reference to a profile that does
not exist is only a warning, because the route is a direct connection then. -/
def validate (s : RuleSet) (profiles : List Profile) : Work Report := do
  let rules ← validateRules profiles 1 s.rules
  let fallback ← (s.validateFallback profiles : Except Fault _)
  Desk.noteFailure (rules ++ fallback) "Auto-Proxy rules"
  return rules ++ fallback

end RuleSet

end ProxyRouting
