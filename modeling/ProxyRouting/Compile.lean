import ProxyRouting.Routing
import ProxyRouting.Script.Statement
import ProxyRouting.Settings

namespace ProxyRouting

/-- What a script returns for a route: a call when the script of its profile is embedded, else the
answer for the route. -/
def Route.action (r : Route) (profiles : List Profile) (functions : List Embedded) :
    Except Fault Action :=
  let embedded : Option Embedded :=
    if r.kind? = some .existing then Embedded.find? r.profile functions else none
  match embedded with
  | some e => .ok (.call e.function)
  | none => (r.answer profiles).map .answer

/-- The statement of a rule; a rule whose grammar is not known has none. -/
def Rule.statement (r : Rule) (profiles : List Profile) (functions : List Embedded) :
    Except Fault (Option Statement) := do
  match ← patternCondition r.pattern r.grammar with
  | none => pure none
  | some condition => do
    let action ← r.route.action profiles functions
    pure (some { condition, action })

namespace RuleSet

/-- The script that does what a rule set says: a statement for each enabled rule by priority, and
the fallback after them. -/
def script (s : RuleSet) (profiles : List Profile) : Except Fault Script := do
  let rules := Rule.inOrder s.rules
  let functions := Embedded.collect rules s.fallback profiles
  let statements ← rules.mapM fun r => r.statement profiles functions
  let last ← s.fallback.action profiles functions
  pure { functions, statements := statements.filterMap id, last }

/-- The source text of the script of a rule set. -/
def compile (s : RuleSet) (profiles : List Profile) (settings : Settings) : Except Fault String :=
  (s.script profiles).map fun script => script.render settings.indent

end RuleSet

end ProxyRouting
