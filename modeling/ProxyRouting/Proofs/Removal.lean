import ProxyRouting.Proofs.Dependence
import ProxyRouting.Proofs.Renumbering
import ProxyRouting.Store

/-! What is left in a store when a profile is removed. Nothing leads to it any more, and what did
not lead to it is as before: the rules but for their numbers, the fallbacks, the references to each
other profile, and which rules are orphaned. -/
namespace ProxyRouting

variable {id other : Option String}

namespace Route

theorem leadsTo_eq_true_iff {r : Route} :
    r.leadsTo id = true ↔ ∃ target, r.target? = some target ∧ some target = id := by
  unfold leadsTo
  cases r.target? with
  | none => simp
  | some target => simp

/-- A route leads to one profile at most. -/
theorem leadsTo_eq_false_of_ne {r : Route} (h : r.leadsTo id = true) (hOther : other ≠ id) :
    r.leadsTo other = false := by
  obtain ⟨target, hTarget, rfl⟩ := leadsTo_eq_true_iff.mp h
  simpa [leadsTo, hTarget, eq_comm] using hOther

end Route

namespace Rule

theorem isOrphaned_unranked (r : Rule) (profiles : List Profile) :
    r.unranked.isOrphaned profiles = r.isOrphaned profiles := rfl

theorem isOrphaned_eq_of_unranked_eq {r u : Rule} (h : u.unranked = r.unranked)
    (profiles : List Profile) : u.isOrphaned profiles = r.isOrphaned profiles := by
  rw [← isOrphaned_unranked u, h, isOrphaned_unranked]

end Rule

namespace RuleSet

theorem forall₂_renumber (n : Nat) (rules : List Rule) :
    List.Forall₂ (fun r u => u.unranked = r.unranked) rules (renumber n rules) := by
  induction rules generalizing n with
  | nil => exact .nil
  | cons r rest ih => exact .cons rfl (ih (n + 1))

theorem map_route_renumber (n : Nat) (rules : List Rule) :
    (renumber n rules).map Rule.route = rules.map Rule.route := by
  induction rules generalizing n with
  | nil => rfl
  | cons r rest ih => rw [renumber, List.map_cons, List.map_cons, ih]

theorem renumber_renumber (n m : Nat) (rules : List Rule) :
    renumber n (renumber m rules) = renumber n rules := by
  induction rules generalizing n m with
  | nil => rfl
  | cons r rest ih => rw [renumber, renumber, renumber, ih]

/-- A rule that is left does not lead to the profile. -/
theorem leadsTo_of_mem_removeReferences {s : RuleSet} {u : Rule}
    (h : u ∈ (s.removeReferences id).rules) : u.route.leadsTo id = false := by
  have hRoute : u.route ∈ (s.rules.filter fun r => !r.route.leadsTo id).map Rule.route := by
    rw [← map_route_renumber 0]
    exact List.mem_map_of_mem h
  obtain ⟨r, hMem, hEq⟩ := List.mem_map.mp hRoute
  rw [← hEq]
  simpa using (List.mem_filter.mp hMem).2

theorem fallback_removeReferences_of_not_leadsTo {s : RuleSet}
    (h : s.fallback.leadsTo id = false) : (s.removeReferences id).fallback = s.fallback := by
  simp [removeReferences, h]

/-- A fallback that led to the profile leads nowhere. -/
theorem leadsTo_fallback_removeReferences_of_leadsTo {s : RuleSet}
    (h : s.fallback.leadsTo id = true) (other : Option String) :
    (s.removeReferences id).fallback.leadsTo other = false := by
  have hFallback : (s.removeReferences id).fallback =
      { s.fallback with kind := some RouteKind.direct.name, profile := none } := if_pos h
  have hTarget : (s.removeReferences id).fallback.target? = none := by
    rw [hFallback, Route.target?]
    exact ite_self none
  rw [Route.leadsTo, hTarget]

theorem leadsTo_fallback_removeReferences_of_ne (s : RuleSet) (hOther : other ≠ id) :
    (s.removeReferences id).fallback.leadsTo other = s.fallback.leadsTo other := by
  cases hLeads : s.fallback.leadsTo id with
  | false => rw [fallback_removeReferences_of_not_leadsTo hLeads]
  | true =>
      rw [leadsTo_fallback_removeReferences_of_leadsTo hLeads,
        Route.leadsTo_eq_false_of_ne hLeads hOther]

theorem leadsTo_fallback_removeReferences (s : RuleSet) (id : Option String) :
    (s.removeReferences id).fallback.leadsTo id = false := by
  cases hLeads : s.fallback.leadsTo id with
  | false => rw [fallback_removeReferences_of_not_leadsTo hLeads, hLeads]
  | true => exact leadsTo_fallback_removeReferences_of_leadsTo hLeads id

/-- No reference to the profile is left. -/
theorem countReferences_removeReferences (s : RuleSet) (id : Option String) :
    (s.removeReferences id).countReferences id = 0 := by
  rw [countReferences, leadsTo_fallback_removeReferences, List.countP_eq_zero.mpr]
  · rfl
  · intro u hu
    simp [leadsTo_of_mem_removeReferences hu]

/-- The references to another profile are those of before. -/
theorem countReferences_removeReferences_of_ne (s : RuleSet) (hOther : other ≠ id) :
    (s.removeReferences id).countReferences other = s.countReferences other := by
  have hRules : (s.removeReferences id).rules.countP (fun r => r.route.leadsTo other) =
      s.rules.countP fun r => r.route.leadsTo other := by
    calc (s.removeReferences id).rules.countP (fun r => r.route.leadsTo other)
        = ((s.removeReferences id).rules.map Rule.route).countP fun r => r.leadsTo other := by
          rw [List.countP_map]
          rfl
      _ = (s.rules.filter fun r => !r.route.leadsTo id).countP fun r => r.route.leadsTo other := by
          rw [removeReferences, map_route_renumber, List.countP_map]
          rfl
      _ = s.rules.countP fun r => r.route.leadsTo other := by
          rw [List.countP_filter]
          apply List.countP_congr
          intro r _
          cases hLeads : r.route.leadsTo id with
          | false => simp
          | true => simp [Route.leadsTo_eq_false_of_ne hLeads hOther]
  rw [countReferences, countReferences, hRules, leadsTo_fallback_removeReferences_of_ne s hOther]

/-- A second removal finds nothing to remove. -/
theorem removeReferences_removeReferences (s : RuleSet) (id : Option String) :
    (s.removeReferences id).removeReferences id = s.removeReferences id := by
  have hRules : ((s.removeReferences id).removeReferences id).rules =
      (s.removeReferences id).rules := by
    show renumber 0 ((s.removeReferences id).rules.filter fun r => !r.route.leadsTo id) = _
    rw [List.filter_eq_self.mpr]
    · exact renumber_renumber 0 0 _
    · intro u hu
      simp [leadsTo_of_mem_removeReferences hu]
  have hFallback :=
    fallback_removeReferences_of_not_leadsTo (leadsTo_fallback_removeReferences s id)
  calc (s.removeReferences id).removeReferences id
      = ⟨((s.removeReferences id).removeReferences id).rules,
          ((s.removeReferences id).removeReferences id).fallback⟩ := rfl
    _ = s.removeReferences id := by rw [hRules, hFallback]

end RuleSet

namespace Profile

/-- A profile without its references to another one. -/
def freed (id : Option String) (p : Profile) : Profile :=
  { p with ruleSet := p.ruleSet.map fun s => s.removeReferences id }

theorem countReferences_freed (p : Profile) (id : Option String) :
    (p.freed id).countReferences id = 0 := by
  cases hSet : p.ruleSet with
  | none => simp [countReferences, freed, hSet]
  | some s => simp [countReferences, freed, hSet, RuleSet.countReferences_removeReferences]

theorem countReferences_freed_of_ne (p : Profile) (hOther : other ≠ id) :
    (p.freed id).countReferences other = p.countReferences other := by
  cases hSet : p.ruleSet with
  | none => simp [countReferences, freed, hSet]
  | some s =>
      simp [countReferences, freed, hSet, RuleSet.countReferences_removeReferences_of_ne s hOther]

theorem freed_freed (p : Profile) (id : Option String) : (p.freed id).freed id = p.freed id := by
  cases hSet : p.ruleSet with
  | none => simp [freed, hSet]
  | some s => simp [freed, hSet, RuleSet.removeReferences_removeReferences]

end Profile

namespace Store

open Profile

theorem remove_eq (id : Option String) (store : List Profile) :
    remove id store = (store.filter fun p => p.id ≠ id).map (freed id) := rfl

theorem referenceCounts_remove (id : Option String) (store : List Profile) :
    referenceCounts id (remove id store) = [] := by
  rw [referenceCounts, referring, List.filter_eq_nil_iff.mpr]
  · rfl
  · intro q hq
    obtain ⟨p, -, rfl⟩ := List.mem_map.mp hq
    show ¬ decide (0 < (p.freed id).countReferences id) = true
    simp [countReferences_freed]

theorem referenceCounts_remove_of_ne (store : List Profile) (hOther : other ≠ id) :
    referenceCounts other (remove id store) =
      referenceCounts other (store.filter fun p => p.id ≠ id) := by
  rw [remove_eq]
  generalize store.filter (fun p => p.id ≠ id) = kept
  induction kept with
  | nil => rfl
  | cons p rest ih =>
      unfold referenceCounts referring at ih ⊢
      rw [List.map_cons, List.filter_cons, List.filter_cons, countReferences_freed_of_ne p hOther]
      split
      · rw [List.map_cons, List.map_cons, ih, countReferences_freed_of_ne p hOther]
        rfl
      · exact ih

/-- A look-up of another profile finds what it found, without its references. -/
theorem find?_remove_of_ne (store : List Profile) (hOther : other ≠ id) :
    find? other (remove id store) = (find? other store).map (freed id) := by
  rw [← find?_filter_ne hOther store, remove_eq]
  unfold find?
  split
  · rw [List.find?_map]
    rfl
  · rfl

/-- A rule that does not lead to the profile is orphaned when it was so before. -/
theorem isOrphaned_remove {r : Rule} (h : r.route.leadsTo id = false) (store : List Profile) :
    r.isOrphaned (remove id store) = r.isOrphaned store := by
  unfold Rule.isOrphaned
  cases hTarget : r.route.target? with
  | none => rfl
  | some target =>
      have hOther : some target ≠ id := by
        intro hEq
        rw [Route.leadsTo_eq_true_iff.mpr ⟨target, hTarget, hEq⟩] at h
        cases h
      show (find? (some target) (remove id store)).isNone = (find? (some target) store).isNone
      rw [find?_remove_of_ne store hOther, Option.isNone_map]

theorem remove_remove (id : Option String) (store : List Profile) :
    remove id (remove id store) = remove id store := by
  have hKept : (remove id store).filter (fun p => p.id ≠ id) = remove id store := by
    apply List.filter_eq_self.mpr
    intro q hq
    obtain ⟨p, hp, rfl⟩ := List.mem_map.mp hq
    exact (List.mem_filter.mp hp).2
  rw [remove_eq id (remove id store), hKept, remove_eq, List.map_map]
  apply List.map_congr_left
  intro p _
  exact freed_freed p id

end Store

/-- What a removal leaves of a rule set, where `store` becomes `others`: in their order, the rules
that do not lead to the profile, each but for its number and orphaned only if it was so before, and
the fallback, unless that led to the profile. -/
structure RuleSet.IsLeftOf (id : Option String) (store others : List Profile) (s t : RuleSet) :
    Prop where
  rules : List.Forall₂
    (fun r u => u.unranked = r.unranked ∧ u.isOrphaned others = r.isOrphaned store)
    (s.rules.filter fun r => !r.route.leadsTo id) t.rules
  fallback : s.fallback.leadsTo id = false → t.fallback = s.fallback

/-- What a removal leaves of a profile: all but what it takes from its rule set. -/
structure Profile.IsLeftOf (id : Option String) (store others : List Profile) (p q : Profile) :
    Prop where
  unchanged : q = { p with ruleSet := q.ruleSet }
  ruleSet : Option.Rel (RuleSet.IsLeftOf id store others) p.ruleSet q.ruleSet

theorem RuleSet.isLeftOf_removeReferences (id : Option String) (store : List Profile)
    (s : RuleSet) : IsLeftOf id store (Store.remove id store) s (s.removeReferences id) where
  rules := by
    have hKept : ∀ r ∈ s.rules.filter fun r => !r.route.leadsTo id, r.route.leadsTo id = false :=
      fun r hr => by simpa using (List.mem_filter.mp hr).2
    have hPlaces := (List.forall₂_and_left _ _).mpr ⟨hKept, forall₂_renumber 0 _⟩
    refine hPlaces.imp fun r u h => ⟨h.2, ?_⟩
    rw [Rule.isOrphaned_eq_of_unranked_eq h.2, Store.isOrphaned_remove h.1]
  fallback := fallback_removeReferences_of_not_leadsTo

theorem Profile.isLeftOf_freed (id : Option String) (store : List Profile) (p : Profile) :
    p.IsLeftOf id store (Store.remove id store) (p.freed id) where
  unchanged := rfl
  ruleSet := by
    show Option.Rel _ p.ruleSet (p.ruleSet.map fun s => s.removeReferences id)
    cases p.ruleSet with
    | none => exact .none
    | some s => exact .some (s.isLeftOf_removeReferences id store)

namespace Store

open Profile

/-- When a profile is removed, nothing that is left refers to it; each other profile has the
references that it had, those from the removed entries apart; every other entry stays in its place,
with the rules and the fallback that did not lead to the profile, and no rule is orphaned by it; and
there is nothing left to remove. -/
theorem consistent_remove (id : Option String) (store : List Profile) :
    isReferenced id (remove id store) = false ∧
    (∀ other, other ≠ id → referenceCounts other (remove id store) =
      referenceCounts other (store.filter fun p => p.id ≠ id)) ∧
    List.Forall₂ (Profile.IsLeftOf id store (remove id store))
      (store.filter fun p => p.id ≠ id) (remove id store) ∧
    remove id (remove id store) = remove id store := by
  refine ⟨?_, fun other hOther => referenceCounts_remove_of_ne store hOther, ?_,
    remove_remove id store⟩
  · rw [isReferenced, referenceCounts_remove]
    rfl
  · rw [remove_eq, List.forall₂_map_right_iff]
    exact List.forall₂_same.mpr fun p _ => p.isLeftOf_freed id store

/-- Rules that lead to a gate, to nothing, and to their own profile; one has the id of the gate but
is direct. The fallback leads to the gate. -/
def tangledRules : RuleSet where
  rules := [
    ⟨some "docs", some "*.docs", some "wildcard", true, 7, ⟨some "existing", none, some "gate"⟩⟩,
    ⟨some "home", some "*.home", some "wildcard", true, 7, ⟨some "direct", none, some "gate"⟩⟩,
    ⟨some "void", some "*.void", some "wildcard", false, 2, ⟨some "existing", none, some ""⟩⟩,
    ⟨some "self", some "*.self", some "wildcard", true, 1, ⟨some "existing", none, some "auto"⟩⟩]
  fallback := ⟨some "existing", none, some "gate"⟩

/-- The gate has two entries, of which the second one leads back to the rules. -/
def tangled : List Profile := [
  { RuleSet.gatedProfile with ruleSet := some tangledRules },
  RuleSet.serverProfile "gate" "a.corp",
  { RuleSet.serverProfile "gate" "b.corp" with ruleSet := some tangledRules },
  RuleSet.serverProfile "old" "c.corp"]

/-- The gate is removed: the profile of the rules stays, with three of its rules, and its one
reference to itself is kept. -/
theorem consistent_remove_tangled :
    some "auto" ≠ some "gate" ∧
    referenceCounts (some "gate") tangled = [(some "Auto", 2), (some "gate", 2)] ∧
    isReferenced (some "gate") (remove (some "gate") tangled) = false ∧
    referenceCounts (some "auto") tangled = [(some "Auto", 1), (some "gate", 1)] ∧
    referenceCounts (some "auto") (remove (some "gate") tangled) = [(some "Auto", 1)] ∧
    List.Forall₂ (Profile.IsLeftOf (some "gate") tangled (remove (some "gate") tangled))
      (tangled.filter fun p => p.id ≠ some "gate") (remove (some "gate") tangled) := by
  have hOther : some "auto" ≠ some "gate" := by decide
  obtain ⟨hNone, hOthers, hLeft, -⟩ := consistent_remove (some "gate") tangled
  refine ⟨hOther, by decide, hNone, by decide, ?_, hLeft⟩
  rw [hOthers (some "auto") hOther]
  decide

end Store

end ProxyRouting
