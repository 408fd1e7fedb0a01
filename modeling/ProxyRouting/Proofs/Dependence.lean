import Mathlib.Data.List.Basic
import ProxyRouting.Proofs.Routes
import ProxyRouting.References

/-! What a rule set takes from the stored profiles. It looks them up by the ids of its routes and in
no other way, so that neither its script nor its verdicts change with a profile to which none of its
routes leads. -/
namespace ProxyRouting

namespace Profile

/-- Whether two lists are the same but for the profiles with an id, which may be changed, added,
removed and moved from one to the other. -/
def AgreeBut (id : Option String) (profiles others : List Profile) : Prop :=
  (profiles.filter fun p => p.id ≠ id) = others.filter fun p => p.id ≠ id

/-- A look-up passes over the profiles with another id. -/
theorem find?_filter_ne {id other : Option String} (h : other ≠ id) (profiles : List Profile) :
    find? other (profiles.filter fun p => p.id ≠ id) = find? other profiles := by
  unfold find?
  split
  · rw [List.find?_filter]
    congr 1
    funext p
    by_cases hp : p.id = other
    · simp [hp, h]
    · simp [hp]
  · rfl

theorem AgreeBut.find?_eq {id other : Option String} {profiles others : List Profile}
    (hAgree : AgreeBut id profiles others) (h : other ≠ id) :
    find? other profiles = find? other others := by
  rw [← find?_filter_ne h profiles, hAgree, find?_filter_ne h others]

end Profile

variable {profiles others : List Profile}

namespace Route

/-- Whether a route is led to the same profile in two lists, if it leads to a stored one. -/
def FindsSame (r : Route) (profiles others : List Profile) : Prop :=
  r.kind? = some .existing → Profile.find? r.profile profiles = Profile.find? r.profile others

theorem FindsSame.server?_eq {r : Route} (h : r.FindsSame profiles others) :
    r.server? profiles = r.server? others := by
  unfold server?
  cases hKind : r.kind? with
  | none => rfl
  | some kind =>
      cases kind with
      | direct => rfl
      | inline => rfl
      | existing => simp only [h hKind]

theorem FindsSame.script?_eq {r : Route} (h : r.FindsSame profiles others) :
    r.script? profiles = r.script? others := by
  unfold script?
  split
  next hKind => rw [h hKind]
  next => rfl

theorem FindsSame.answer_eq {r : Route} (h : r.FindsSame profiles others) :
    r.answer profiles = r.answer others := by
  rw [Route.answer_eq, Route.answer_eq, h.server?_eq]

theorem FindsSame.action_eq {r : Route} (h : r.FindsSame profiles others)
    (functions : List Embedded) : r.action profiles functions = r.action others functions := by
  rw [Route.action_eq, Route.action_eq, h.answer_eq]

/-- A route that does not lead to an id finds the same where two lists agree but for the id. -/
theorem findsSame_of_agreeBut {r : Route} {id : Option String} (h : r.leadsTo id = false)
    (hAgree : Profile.AgreeBut id profiles others) : r.FindsSame profiles others := by
  intro hKind
  cases hProfile : r.profile with
  | none => rfl
  | some target =>
      cases hFilled : Text.isFilled (some target) with
      | false => simp [Profile.find?, hFilled]
      | true =>
          refine hAgree.find?_eq fun hId => ?_
          rw [← hId] at h
          simp [leadsTo, target?, hKind, hProfile, hFilled] at h

end Route

namespace Rule

theorem statement_eq_of_findsSame {r : Rule} (h : r.route.FindsSame profiles others)
    (functions : List Embedded) :
    r.statement profiles functions = r.statement others functions := by
  unfold statement
  rw [h.action_eq functions]

theorem mapM_statement_eq {rules : List Rule}
    (h : ∀ r ∈ rules, r.route.FindsSame profiles others) (functions : List Embedded) :
    (rules.mapM fun r => r.statement profiles functions) =
      rules.mapM fun r => r.statement others functions := by
  induction rules with
  | nil => rfl
  | cons r rest ih =>
      rw [List.mapM_cons, List.mapM_cons, statement_eq_of_findsSame (h r List.mem_cons_self),
        ih fun t ht => h t (List.mem_cons_of_mem r ht)]

end Rule

namespace Embedded

theorem add_eq_of_find?_eq {id : Option String}
    (h : Profile.find? id profiles = Profile.find? id others) (found : List Embedded) :
    add profiles found id = add others found id := by
  unfold add
  rw [h]

/-- The scripts that are embedded are those of the profiles that the routes find. -/
theorem collect_eq_of_findsSame {rules : List Rule} {fallback : Route}
    (hRules : ∀ r ∈ rules, r.route.FindsSame profiles others)
    (hFallback : fallback.FindsSame profiles others) :
    collect rules fallback profiles = collect rules fallback others := by
  have hFind : ∀ id ∈ references rules fallback,
      Profile.find? id profiles = Profile.find? id others := by
    intro id hId
    obtain ⟨r, hRoute, rfl⟩ := List.mem_map.mp hId
    obtain ⟨hMem, hKind⟩ := List.mem_filter.mp hRoute
    rcases List.mem_append.mp hMem with hRule | hLast
    · obtain ⟨rule, hIn, rfl⟩ := List.mem_map.mp hRule
      exact hRules rule hIn (by simpa using hKind)
    · rw [List.mem_singleton.mp hLast] at hKind ⊢
      exact hFallback (by simpa using hKind)
  unfold collect
  exact List.foldl_ext _ _ _ fun found id hId => add_eq_of_find?_eq (hFind id hId) found

end Embedded

namespace Verdict

theorem ofRule_eq_of_findsSame {r : Rule} (h : r.route.FindsSame profiles others) :
    ofRule r profiles = ofRule r others := by
  rw [ofRule_eq, ofRule_eq, h.script?_eq, h.answer_eq]

theorem firstMatch_eq_of_findsSame {rules : List Rule} (host : String)
    (h : ∀ r ∈ rules, r.route.FindsSame profiles others) :
    firstMatch profiles host rules = firstMatch others host rules := by
  induction rules with
  | nil => rfl
  | cons r rest ih =>
      rw [firstMatch, firstMatch, ofRule_eq_of_findsSame (h r List.mem_cons_self),
        ih fun t ht => h t (List.mem_cons_of_mem r ht)]

end Verdict

namespace RuleSet

/-- Whether a rule set has the same script and gives the same verdicts among two lists of
profiles. -/
def ActsAlike (s : RuleSet) (profiles others : List Profile) : Prop :=
  (∀ settings, s.compile profiles settings = s.compile others settings) ∧
  ∀ url, Verdict.onRequest url s.rules profiles = Verdict.onRequest url s.rules others

/-- A rule set takes from the profiles what its routes find, and nothing else. -/
theorem actsAlike_of_findsSame {s : RuleSet}
    (hRules : ∀ r ∈ s.rules, r.route.FindsSame profiles others)
    (hFallback : s.fallback.FindsSame profiles others) : s.ActsAlike profiles others := by
  have hOrder : ∀ r ∈ Rule.inOrder s.rules, r.route.FindsSame profiles others :=
    fun r hr => hRules r (Rule.mem_inOrder.mp hr).1
  refine ⟨fun settings => ?_, fun url => Verdict.firstMatch_eq_of_findsSame _ hOrder⟩
  have hScript : s.script profiles = s.script others := by
    unfold script
    simp only [Embedded.collect_eq_of_findsSame hOrder hFallback, Rule.mapM_statement_eq hOrder,
      hFallback.action_eq]
  rw [compile, compile, hScript]

theorem leadsTo_eq_false_of_countReferences {s : RuleSet} {id : Option String}
    (h : s.countReferences id = 0) :
    (∀ r ∈ s.rules, r.route.leadsTo id = false) ∧ s.fallback.leadsTo id = false := by
  obtain ⟨hRules, hFallback⟩ := Nat.add_eq_zero_iff.mp h
  refine ⟨fun r hr => ?_, ?_⟩
  · simpa using List.countP_eq_zero.mp hRules r hr
  · simpa using hFallback

/-- The script of a rule set without a reference to a profile, and its verdicts, are the same
whatever becomes of the profiles with that id. So it is with each stored profile that is not among
those that lead to the id. -/
theorem actsAlike_of_agreeBut {id : Option String} (hAgree : Profile.AgreeBut id profiles others) :
    (∀ s : RuleSet, s.countReferences id = 0 → s.ActsAlike profiles others) ∧
    ∀ (stored : List Profile), ∀ p ∈ stored, p ∉ Profile.referring id stored →
      ∀ s ∈ p.ruleSet, RuleSet.ActsAlike s profiles others := by
  have hActs : ∀ s : RuleSet, s.countReferences id = 0 → s.ActsAlike profiles others := by
    intro s hCount
    obtain ⟨hRules, hFallback⟩ := leadsTo_eq_false_of_countReferences hCount
    exact actsAlike_of_findsSame (fun r hr => Route.findsSame_of_agreeBut (hRules r hr) hAgree)
      (Route.findsSame_of_agreeBut hFallback hAgree)
  refine ⟨hActs, fun stored p hMem hNot s hs => hActs s ?_⟩
  have hSet : p.ruleSet = some s := hs
  have hCount : ¬ 0 < p.countReferences id := by
    intro hPos
    exact hNot (List.mem_filter.mpr ⟨hMem, by simpa using hPos⟩)
  simp only [Profile.countReferences, hSet, Option.map_some, Option.getD_some] at hCount
  omega

/-- A rule set that leads to one profile. -/
def gated : RuleSet where
  rules := [⟨some "docs", some "*.docs", some "wildcard", true, 0,
    ⟨some "existing", none, some "gate"⟩⟩]
  fallback := ⟨some "direct", none, none⟩

/-- A profile with one server for all requests. -/
def serverProfile (id host : String) : Profile where
  id := some id
  name := some id
  color := none
  mode := some "fixed_servers"
  script := none
  servers := some ⟨some ⟨some "http", some host, "3128"⟩, none, none, none, none, []⟩
  isActive := false
  quickSwitch := false
  ruleSet := none

def gatedProfile : Profile where
  id := some "auto"
  name := some "Auto"
  color := none
  mode := some "pac_script"
  script := none
  servers := none
  isActive := false
  quickSwitch := false
  ruleSet := some gated

/-- A profile to which the rule set does not lead has two entries, of which one is changed and moved
behind the gate and the other one is removed. -/
theorem actsAlike_of_agreeBut_gated :
    Profile.AgreeBut (some "old")
      [serverProfile "old" "a.corp", serverProfile "gate" "b.corp", serverProfile "old" "c.corp"]
      [serverProfile "gate" "b.corp", serverProfile "old" "d.corp"] ∧
    gated.countReferences (some "old") = 0 ∧
    gatedProfile ∉ Profile.referring (some "old") [gatedProfile] ∧
    gatedProfile ∈ Profile.referring (some "gate") [gatedProfile] ∧
    gated.ActsAlike
      [serverProfile "old" "a.corp", serverProfile "gate" "b.corp", serverProfile "old" "c.corp"]
      [serverProfile "gate" "b.corp", serverProfile "old" "d.corp"] := by
  have hAgree : Profile.AgreeBut (some "old")
      [serverProfile "old" "a.corp", serverProfile "gate" "b.corp", serverProfile "old" "c.corp"]
      [serverProfile "gate" "b.corp", serverProfile "old" "d.corp"] := by
    unfold Profile.AgreeBut
    decide
  have hCount : gated.countReferences (some "old") = 0 := by decide
  have hNot : gatedProfile ∉ Profile.referring (some "old") [gatedProfile] := by decide
  have hReferring : gatedProfile ∈ Profile.referring (some "gate") [gatedProfile] := by decide
  obtain ⟨-, hStored⟩ := actsAlike_of_agreeBut hAgree
  exact ⟨hAgree, hCount, hNot, hReferring,
    hStored [gatedProfile] gatedProfile List.mem_cons_self hNot gated rfl⟩

end RuleSet

end ProxyRouting
