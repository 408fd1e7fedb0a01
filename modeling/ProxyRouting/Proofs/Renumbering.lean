import Mathlib.Data.List.Nodup
import ProxyRouting.Proofs.Order
import ProxyRouting.References

/-! What becomes of the order of rules when the references to a profile are removed. The rules that
are left are numbered in the order of their list, so that from then on this is the order in which
they are tried. It is the order in which they were tried before when their priority numbers
ascended along the list, and otherwise it need not be. -/
namespace ProxyRouting

namespace Rule

/-- A rule but for its priority. -/
def unranked (r : Rule) : Rule := { r with priority := 0 }

@[simp] theorem unranked_enabled (r : Rule) : r.unranked.enabled = r.enabled := rfl

@[simp] theorem unranked_route (r : Rule) : r.unranked.route = r.route := rfl

@[simp] theorem unranked_hasMatch (r : Rule) : r.unranked.hasMatch = r.hasMatch := rfl

end Rule

namespace RuleSet

open Rule

/-- The enabled rules that do not lead to a profile, in the order of their user. -/
def remaining (s : RuleSet) (id : Option String) : List Rule :=
  s.rules.filter fun r => !r.route.leadsTo id && r.enabled

theorem remaining_eq (s : RuleSet) (id : Option String) :
    s.remaining id = (s.rules.filter fun r => !r.route.leadsTo id).filter Rule.enabled := by
  simp [remaining, List.filter_filter, Bool.and_comm]

theorem map_unranked_renumber (n : Nat) (rules : List Rule) :
    (renumber n rules).map unranked = rules.map unranked := by
  induction rules generalizing n with
  | nil => rfl
  | cons r rest ih => simp [renumber, ih, unranked]

theorem le_priority_of_mem_renumber {n : Nat} {rules : List Rule} {r : Rule}
    (h : r ∈ renumber n rules) : n ≤ r.priority := by
  induction rules generalizing n with
  | nil => cases h
  | cons s rest ih =>
      rcases List.mem_cons.mp h with rfl | h
      · exact Int.le_refl _
      · have := ih h
        omega

theorem ascending_renumber (n : Nat) (rules : List Rule) : Ascending (renumber n rules) := by
  induction rules generalizing n with
  | nil => exact .nil
  | cons r rest ih =>
      refine List.pairwise_cons.mpr ⟨fun s hs => ?_, ih (n + 1)⟩
      have := le_priority_of_mem_renumber hs
      simp only
      omega

/-- Without the references, enabled rules are tried in the order of their list. -/
theorem map_unranked_inOrder_removeReferences (s : RuleSet) (id : Option String) :
    (inOrder (s.removeReferences id).rules).map unranked = (s.remaining id).map unranked := by
  have hAscending : Ascending ((s.removeReferences id).rules.filter Rule.enabled) :=
    (ascending_renumber 0 _).sublist List.filter_sublist
  have hEnabled : Rule.enabled = Rule.enabled ∘ unranked := rfl
  rw [inOrder_eq_of_ascending hAscending, remaining_eq, hEnabled, ← List.filter_map,
    ← List.filter_map, removeReferences, map_unranked_renumber]

/-- Before, the rules that are left were tried by priority. -/
theorem filter_inOrder (s : RuleSet) (id : Option String) :
    ((inOrder s.rules).filter fun r => !r.route.leadsTo id) = inOrder (s.remaining id) := by
  rw [← inOrder_filter, remaining_eq, inOrder, inOrder, List.filter_filter]
  simp

end RuleSet

namespace Verdict

/-- A verdict but for the priority of its rule. -/
def unranked (v : Verdict) : Verdict := { v with rule := v.rule.map Rule.unranked }

theorem map_unranked_ofRule (r : Rule) (profiles : List Profile) :
    (ofRule r.unranked profiles).map unranked = (ofRule r profiles).map unranked := by
  rw [ofRule_eq, ofRule_eq, Rule.unranked_route]
  cases r.route.script? profiles with
  | some p => rfl
  | none => cases r.route.answer profiles <;> rfl

/-- Priority numbers have no part in the verdict but for the order that they give to the rules. -/
theorem map_unranked_firstMatch (profiles : List Profile) (host : String) (rules : List Rule) :
    (firstMatch profiles host (rules.map Rule.unranked)).map unranked =
      (firstMatch profiles host rules).map unranked := by
  induction rules with
  | nil => rfl
  | cons r rest ih =>
      simp only [List.map_cons, firstMatch, Rule.unranked_hasMatch]
      cases r.hasMatch host with
      | error fault => rfl
      | ok found =>
          cases found with
          | false => exact ih
          | true => exact map_unranked_ofRule r profiles

end Verdict

namespace RuleSet

open Rule

/-- Rules that differ in more than their priority, and come out of the order in the places in which
they went into it, ascend. -/
theorem ascending_of_map_unranked_eq {rules : List Rule} (hEnabled : ∀ r ∈ rules, r.enabled = true)
    (hDistinct : (rules.map unranked).Nodup)
    (h : rules.map unranked = (inOrder rules).map unranked) : Ascending rules := by
  have hPerm : (inOrder rules).Perm rules := by
    have := inOrder_perm rules
    rwa [List.filter_eq_self.mpr hEnabled] at this
  -- The order permutes the rules, so rules in the same place that agree but for their priority are
  -- one rule.
  have hSame : rules = inOrder rules := by
    refine List.ext_getElem hPerm.length_eq.symm fun i hi hi' => ?_
    have hUnranked : unranked rules[i] = unranked (inOrder rules)[i] := by
      have := congrArg (fun l => l[i]?) h
      simpa [hi, hi'] using this
    exact List.inj_on_of_nodup_map hDistinct (List.getElem_mem hi)
      (hPerm.mem_iff.mp (List.getElem_mem hi')) hUnranked
  rw [hSame]
  exact pairwise_inOrder rules

/-- The rules that are left when the references to a profile are removed are tried in the order of
their list. That is the order by priority of before, without the rules that are gone, when they
ascend; between rules that differ in more than their priority it is so only then. Where they ascend,
a request that was decided by a rule that is left is decided by the same rule and in the same way. -/
theorem order_removeReferences (s : RuleSet) (id : Option String) :
    (inOrder (s.removeReferences id).rules).map unranked = (s.remaining id).map unranked ∧
    (Ascending (s.remaining id) →
      (inOrder (s.removeReferences id).rules).map unranked =
        ((inOrder s.rules).filter fun r => !r.route.leadsTo id).map unranked ∧
      ∀ (url : String) (profiles : List Profile) (v : Verdict),
        Verdict.onRequest url s.rules profiles = .ok v →
        (∀ r ∈ v.rule, r.route.leadsTo id = false) →
        (Verdict.onRequest url (s.removeReferences id).rules profiles).map Verdict.unranked =
          .ok v.unranked) ∧
    (((s.remaining id).map unranked).Nodup →
      ((inOrder (s.removeReferences id).rules).map unranked =
        ((inOrder s.rules).filter fun r => !r.route.leadsTo id).map unranked ↔
      Ascending (s.remaining id))) := by
  have hEnabled : ∀ r ∈ s.remaining id, r.enabled = true := fun r hr => by
    have := (List.mem_filter.mp hr).2
    simp only [Bool.and_eq_true] at this
    exact this.2
  have hLeft := map_unranked_inOrder_removeReferences s id
  have hKept : Ascending (s.remaining id) →
      ((inOrder s.rules).filter fun r => !r.route.leadsTo id) = s.remaining id := by
    intro h
    have hFilter := List.filter_eq_self.mpr hEnabled
    rw [filter_inOrder, inOrder_eq_of_ascending (by rwa [hFilter]), hFilter]
  refine ⟨hLeft, fun hAscending => ⟨by rw [hLeft, hKept hAscending], ?_⟩, fun hDistinct => ?_⟩
  · intro url profiles v hv hRule
    have hBefore := Verdict.firstMatch_filter (p := fun r => !r.route.leadsTo id) hv
      fun r hr => by simp [hRule r hr]
    rw [Verdict.onRequest, ← Verdict.map_unranked_firstMatch, hLeft,
      Verdict.map_unranked_firstMatch, ← hKept hAscending, hBefore]
    rfl
  · rw [hLeft, filter_inOrder]
    refine ⟨ascending_of_map_unranked_eq hEnabled hDistinct, fun hAscending => ?_⟩
    rw [← filter_inOrder, hKept hAscending]

/-- A rule for a whole domain in front of one for a host in it, although the latter goes first. -/
def domainListedFirst : RuleSet where
  rules := [
    ⟨some "domain", some "*.example.com", some "wildcard", true, 10, ⟨some "inline",
      some ⟨some "http", some "proxy.corp", "3128"⟩, none⟩⟩,
    ⟨some "host", some "api.example.com", some "exact", true, 1, ⟨some "direct", none, none⟩⟩]
  fallback := ⟨some "direct", none, none⟩

/-- A profile to which no rule leads is removed, and the rules that are left change places: a request
that one of them decided is decided by the other one. -/
theorem order_changes_domainListedFirst :
    (inOrder (domainListedFirst.removeReferences (some "gone")).rules).map unranked ≠
      ((inOrder domainListedFirst.rules).filter fun r =>
        !r.route.leadsTo (some "gone")).map unranked ∧
    (Verdict.onRequest "api.example.com" domainListedFirst.rules []).map Verdict.answer =
      .ok "DIRECT" ∧
    (Verdict.onRequest "api.example.com"
      (domainListedFirst.removeReferences (some "gone")).rules []).map Verdict.answer =
        .ok "PROXY proxy.corp:3128" := by
  refine ⟨by decide, ?_, ?_⟩
  · decide +kernel
  · decide +kernel

end RuleSet

end ProxyRouting
