import ProxyRouting.Compile
import ProxyRouting.Proofs.Order

/-! Rules of one priority. They are tried in the order of their list, and an ascending list is
determined by what it has for each priority. So the place of a rule in its list counts only among the
enabled rules of its priority: scripts and verdicts are the same wherever the others stand. -/
namespace ProxyRouting

namespace Rule

/-- The enabled rules of one priority, as they stand in a list. -/
def tied (priority : Int) (rules : List Rule) : List Rule :=
  rules.filter fun r => r.enabled && decide (r.priority = priority)

/-- For each priority, two lists have the same enabled rules in the same order. Disabled rules have
no part in it. -/
def SameTies (rules others : List Rule) : Prop :=
  ∀ priority, tied priority rules = tied priority others

theorem tied_eq_filter (priority : Int) (rules : List Rule) :
    tied priority rules =
      (rules.filter fun r => decide (r.priority = priority)).filter Rule.enabled := by
  rw [tied, List.filter_filter]

theorem ascending_of_priority_eq {k : Int} {rules : List Rule}
    (h : ∀ r ∈ rules, r.priority = k) : Ascending rules := by
  apply List.pairwise_of_forall_mem_list
  intro r hr s hs
  exact Int.le_of_eq ((h r hr).trans (h s hs).symm)

/-- The order has the rules of one priority as they stand in the list. -/
theorem filter_priority_inOrder (priority : Int) (rules : List Rule) :
    (inOrder rules).filter (fun r => decide (r.priority = priority)) = tied priority rules := by
  rw [← inOrder_filter, tied_eq_filter]
  apply inOrder_eq_of_ascending
  apply ascending_of_priority_eq (k := priority)
  intro r hr
  simpa using (List.mem_filter.mp (List.mem_filter.mp hr).1).2

theorem priority_le_of_mem {r s : Rule} {rules : List Rule} (h : Ascending (r :: rules))
    (hs : s ∈ r :: rules) : r.priority ≤ s.priority := by
  rcases List.mem_cons.mp hs with rfl | hs
  · exact Int.le_refl _
  · exact (List.pairwise_cons.mp h).1 s hs

/-- A priority that one of two ascending lists starts with is no smaller than the other's, when both
have the same rules of that priority. -/
theorem priority_le_of_filter_eq {r s : Rule} {rules others : List Rule}
    (h : Ascending (s :: others))
    (hSame : (r :: rules).filter (fun t => decide (t.priority = r.priority)) =
      (s :: others).filter fun t => decide (t.priority = r.priority)) :
    s.priority ≤ r.priority := by
  apply priority_le_of_mem h
  have hr : r ∈ (s :: others).filter fun t => decide (t.priority = r.priority) := by
    rw [← hSame]
    simp
  exact (List.mem_filter.mp hr).1

/-- An ascending list is determined by its rules of each priority. -/
theorem eq_of_filter_priority_eq {rules others : List Rule} (hRules : Ascending rules)
    (hOthers : Ascending others)
    (hSame : ∀ k, rules.filter (fun r => decide (r.priority = k)) =
      others.filter fun r => decide (r.priority = k)) : rules = others := by
  induction rules generalizing others with
  | nil =>
      cases others with
      | nil => rfl
      | cons s others => simpa using hSame s.priority
  | cons r rules ih =>
      cases others with
      | nil => simpa using hSame r.priority
      | cons s others =>
          have hPriority : r.priority = s.priority := Int.le_antisymm
            (priority_le_of_filter_eq hRules (hSame s.priority).symm)
            (priority_le_of_filter_eq hOthers (hSame r.priority))
          -- the first rule of the common priority is the first one of each list
          have hFirst := hSame r.priority
          rw [List.filter_cons_of_pos (by simp), List.filter_cons_of_pos (by simp [hPriority])]
            at hFirst
          obtain ⟨rfl, -⟩ := List.cons.inj hFirst
          rw [ih (List.pairwise_cons.mp hRules).2 (List.pairwise_cons.mp hOthers).2]
          intro k
          have hRest := hSame k
          rw [List.filter_cons, List.filter_cons] at hRest
          split at hRest
          · exact (List.cons.inj hRest).2
          · exact hRest

/-- Two lists are tried in the same order exactly when they agree on the rules of each priority. -/
theorem inOrder_eq_iff {rules others : List Rule} :
    inOrder rules = inOrder others ↔ SameTies rules others := by
  constructor
  · intro h priority
    rw [← filter_priority_inOrder, ← filter_priority_inOrder, h]
  · intro h
    apply eq_of_filter_priority_eq (pairwise_inOrder rules) (pairwise_inOrder others)
    intro priority
    rw [filter_priority_inOrder, filter_priority_inOrder, h priority]

/-- Lists that agree on the rules of each priority have the same enabled rules, each as often. -/
theorem SameTies.perm {rules others : List Rule} (h : SameTies rules others) :
    (rules.filter Rule.enabled).Perm (others.filter Rule.enabled) := by
  have hOrder := inOrder_perm rules
  rw [inOrder_eq_iff.mpr h] at hOrder
  exact hOrder.symm.trans (inOrder_perm others)

end Rule

namespace RuleSet

/-- Where rules stand counts only among the enabled rules of one priority. Lists that agree on those
have the same enabled rules, are tried in one order and give every request one verdict, and whatever
the fallback, their scripts are the same, with the same functions under the same names. -/
theorem compile_eq_and_onRequest_eq_of_sameTies {rules others : List Rule}
    (h : Rule.SameTies rules others) :
    (rules.filter Rule.enabled).Perm (others.filter Rule.enabled) ∧
    Rule.inOrder rules = Rule.inOrder others ∧
    (∀ fallback profiles,
      script ⟨rules, fallback⟩ profiles = script ⟨others, fallback⟩ profiles ∧
      ∀ settings, compile ⟨rules, fallback⟩ profiles settings =
        compile ⟨others, fallback⟩ profiles settings) ∧
    ∀ url profiles, Verdict.onRequest url rules profiles = Verdict.onRequest url others profiles := by
  have hOrder := Rule.inOrder_eq_iff.mpr h
  have hScript : ∀ fallback profiles,
      script ⟨rules, fallback⟩ profiles = script ⟨others, fallback⟩ profiles := by
    intro fallback profiles
    simp only [script, hOrder]
  refine ⟨h.perm, hOrder, fun fallback profiles => ⟨hScript fallback profiles, ?_⟩, ?_⟩
  · intro settings
    rw [compile, compile, hScript]
  · intro url profiles
    rw [Verdict.onRequest, Verdict.onRequest, hOrder]

/-- Two rules of one priority around a rule that is not enabled, and one that goes first. -/
def tiedRules : List Rule := [
  ⟨some "a", some "a.test", some "wildcard", true, 5, ⟨some "existing", none, some "p"⟩⟩,
  ⟨some "off", some "a.test", some "wildcard", false, 1, ⟨some "direct", none, none⟩⟩,
  ⟨some "b", some "*.test", some "wildcard", true, 5, ⟨some "direct", none, none⟩⟩,
  ⟨some "c", some "c.test", some "wildcard", true, 2, ⟨some "direct", none, none⟩⟩]

/-- The same rules in another order, with another rule that is not enabled. -/
def tiedRulesMoved : List Rule := [
  ⟨some "c", some "c.test", some "wildcard", true, 2, ⟨some "direct", none, none⟩⟩,
  ⟨some "a", some "a.test", some "wildcard", true, 5, ⟨some "existing", none, some "p"⟩⟩,
  ⟨some "b", some "*.test", some "wildcard", true, 5, ⟨some "direct", none, none⟩⟩,
  ⟨some "spare", some "b.test", some "regex", false, 5, ⟨some "existing", none, some "q"⟩⟩]

theorem compile_eq_and_onRequest_eq_of_sameTies_tiedRules :
    Rule.SameTies tiedRules tiedRulesMoved ∧
    (∀ fallback profiles settings, compile ⟨tiedRules, fallback⟩ profiles settings =
      compile ⟨tiedRulesMoved, fallback⟩ profiles settings) ∧
    ∀ url profiles,
      Verdict.onRequest url tiedRules profiles = Verdict.onRequest url tiedRulesMoved profiles := by
  have h : Rule.SameTies tiedRules tiedRulesMoved := by
    intro priority
    by_cases hFive : 5 = priority <;> by_cases hTwo : 2 = priority <;>
      simp [Rule.tied, tiedRules, tiedRulesMoved, hFive, hTwo]
    omega
  obtain ⟨-, -, hCompile, hVerdict⟩ := compile_eq_and_onRequest_eq_of_sameTies h
  exact ⟨h, fun fallback profiles => (hCompile fallback profiles).2, hVerdict⟩

end RuleSet

end ProxyRouting
