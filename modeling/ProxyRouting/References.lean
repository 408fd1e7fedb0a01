import ProxyRouting.Profile.Basic

namespace ProxyRouting

/-- Whether a rule leads to a profile that does not exist. -/
def Rule.isOrphaned (r : Rule) (profiles : List Profile) : Bool :=
  match r.route.target? with
  | some target => (Profile.find? (some target) profiles).isNone
  | none => false

namespace RuleSet

/-- The number of rules that lead to a profile, the fallback counted as one more. -/
def countReferences (s : RuleSet) (id : Option String) : Nat :=
  s.rules.countP (fun r => r.route.leadsTo id) + if s.fallback.leadsTo id then 1 else 0

/-- The rules from a number on, in their order. -/
def renumber : Nat → List Rule → List Rule
  | _, [] => []
  | n, r :: rest => { r with priority := n } :: renumber (n + 1) rest

/-- A rule set without references to a profile. The rules that are left are numbered in their order,
and a fallback that led to the profile is a direct connection. -/
def removeReferences (s : RuleSet) (id : Option String) : RuleSet where
  rules := renumber 0 (s.rules.filter fun r => !r.route.leadsTo id)
  fallback :=
    if s.fallback.leadsTo id then
      { s.fallback with kind := some RouteKind.direct.name, profile := none }
    else s.fallback

end RuleSet

namespace Profile

/-- The number of references from a profile to another one. -/
def countReferences (p : Profile) (id : Option String) : Nat :=
  (p.ruleSet.map fun s => s.countReferences id).getD 0

/-- The profiles whose rule sets lead to a profile; their scripts depend on it. -/
def referring (id : Option String) (profiles : List Profile) : List Profile :=
  profiles.filter fun p => 0 < p.countReferences id

/-- The names of the profiles that lead to a profile, with the number of references. -/
def referenceCounts (id : Option String) (profiles : List Profile) : List (Option String × Nat) :=
  (referring id profiles).map fun p => (p.name, p.countReferences id)

def isReferenced (id : Option String) (profiles : List Profile) : Bool :=
  !(referenceCounts id profiles).isEmpty

end Profile

end ProxyRouting
