import ProxyRouting.Answer
import ProxyRouting.Pattern.Matching
import ProxyRouting.Url.Split

namespace ProxyRouting

namespace Rule

/-- Put a rule in front of the first one of the same or a higher priority number. -/
def insert (r : Rule) : List Rule → List Rule
  | [] => [r]
  | s :: rest => if r.priority ≤ s.priority then r :: s :: rest else s :: insert r rest

/-- The enabled rules by priority; rules of one priority keep their order. -/
def inOrder (rules : List Rule) : List Rule :=
  (rules.filter Rule.enabled).foldr insert []

theorem insert_perm (r : Rule) (rules : List Rule) : (r.insert rules).Perm (r :: rules) := by
  induction rules with
  | nil => exact .refl _
  | cons s rest ih =>
    simp only [insert]
    split
    · exact .refl _
    · exact (ih.cons s).trans (.swap r s rest)

/-- Every enabled rule is in the order once, and no other. -/
theorem inOrder_perm (rules : List Rule) : (inOrder rules).Perm (rules.filter Rule.enabled) := by
  unfold inOrder
  induction rules.filter Rule.enabled with
  | nil => exact .refl _
  | cons r rest ih => exact (insert_perm r _).trans (ih.cons r)

theorem mem_inOrder {rules : List Rule} {r : Rule} :
    r ∈ inOrder rules ↔ r ∈ rules ∧ r.enabled = true := by
  rw [(inOrder_perm rules).mem_iff, List.mem_filter]

/-- An insertion keeps a list sorted by priority. -/
theorem pairwise_insert {r : Rule} {rules : List Rule}
    (h : rules.Pairwise fun s t => s.priority ≤ t.priority) :
    (r.insert rules).Pairwise fun s t => s.priority ≤ t.priority := by
  induction rules with
  | nil => simp [insert]
  | cons s rest ih =>
    obtain ⟨hs, hrest⟩ := List.pairwise_cons.mp h
    simp only [insert]
    split
    next hr =>
      refine List.pairwise_cons.mpr ⟨fun t ht => ?_, h⟩
      rcases List.mem_cons.mp ht with rfl | ht
      · exact hr
      · exact Int.le_trans hr (hs t ht)
    next hr =>
      refine List.pairwise_cons.mpr ⟨fun t ht => ?_, ih hrest⟩
      rcases List.mem_cons.mp ((insert_perm r rest).mem_iff.mp ht) with rfl | ht
      · omega
      · exact hs t ht

/-- The order is one by priority. -/
theorem pairwise_inOrder (rules : List Rule) :
    (inOrder rules).Pairwise fun s t => s.priority ≤ t.priority := by
  unfold inOrder
  induction rules.filter Rule.enabled with
  | nil => exact .nil
  | cons r rest ih => exact pairwise_insert ih

/-- Whether a host matches the pattern of a rule. -/
def hasMatch (r : Rule) (host : String) : Except Fault Bool :=
  patternMatches r.pattern r.grammar host

end Rule

/-- Where a request goes: the rule that decides, if one matches, what a script would return, and
whether that is left to the script of a profile. -/
structure Verdict where
  rule : Option Rule
  answer : String
  runsScript : Bool
deriving DecidableEq, Repr

namespace Verdict

/-- The verdict on a request that no rule matches. -/
def unmatched : Verdict := ⟨none, Entry.direct, false⟩

/-- The verdict of a rule that matches. A script is not run but named. -/
def ofRule (r : Rule) (profiles : List Profile) : Except Fault Verdict :=
  let script : Option Profile :=
    if r.route.kind? = some .existing then
      (Profile.find? r.route.profile profiles).filter Profile.runsScript
    else none
  match script with
  | some p => .ok ⟨some r, "PAC Script: " ++ Text.shown p.name, true⟩
  | none => (r.route.answer profiles).map fun answer => ⟨some r, answer, false⟩

/-- The verdict of the first rule of a list that matches a host. -/
def firstMatch (profiles : List Profile) (host : String) : List Rule → Except Fault Verdict
  | [] => .ok unmatched
  | r :: rest =>
    match r.hasMatch host with
    | .ok true => ofRule r profiles
    | .ok false => firstMatch profiles host rest
    | .error fault => .error fault

/-- The verdict on a request for a host or the address of a resource. The fallback of a rule set has
no part in it. -/
def onRequest (url : String) (rules : List Rule) (profiles : List Profile) :
    Except Fault Verdict :=
  firstMatch profiles (Url.extractHost url) (Rule.inOrder rules)

end Verdict

end ProxyRouting
