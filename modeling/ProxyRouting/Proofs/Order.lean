import ProxyRouting.Routing

/-! The order in which rules are tried. An insertion goes in front of the first rule that does not
come before it, so that the order of a part of the rules is that part of the order, and rules that
already ascend stay where they are. -/
namespace ProxyRouting

namespace Rule

/-- No priority number is smaller than one in front of it. -/
def Ascending (rules : List Rule) : Prop := rules.Pairwise fun r s => r.priority ≤ s.priority

instance (rules : List Rule) : Decidable (Ascending rules) :=
  inferInstanceAs (Decidable (rules.Pairwise _))

theorem insert_eq_cons {r : Rule} {rules : List Rule}
    (h : ∀ s ∈ rules, r.priority ≤ s.priority) : r.insert rules = r :: rules := by
  cases rules with
  | nil => rfl
  | cons s rest => simp [insert, h s List.mem_cons_self]

/-- Leaving out other rules does not change where a rule is inserted. -/
theorem filter_insert_of_pos {p : Rule → Bool} {r : Rule} {rules : List Rule}
    (hr : p r = true) (h : Ascending rules) :
    (r.insert rules).filter p = r.insert (rules.filter p) := by
  induction rules with
  | nil => simp [insert, hr]
  | cons s rest ih =>
      obtain ⟨hs, hRest⟩ := List.pairwise_cons.mp h
      by_cases hle : r.priority ≤ s.priority
      · have hAll : ∀ t ∈ (s :: rest).filter p, r.priority ≤ t.priority := by
          intro t ht
          rcases List.mem_cons.mp (List.mem_filter.mp ht).1 with rfl | ht
          · exact hle
          · exact Int.le_trans hle (hs t ht)
        rw [insert_eq_cons hAll, insert, if_pos hle, List.filter_cons_of_pos hr]
      · rw [insert, if_neg hle]
        by_cases hp : p s = true
        · rw [List.filter_cons_of_pos hp, List.filter_cons_of_pos hp, ih hRest, insert, if_neg hle]
        · rw [List.filter_cons_of_neg hp, List.filter_cons_of_neg hp, ih hRest]

theorem filter_insert_of_neg {p : Rule → Bool} {r : Rule} {rules : List Rule}
    (hr : p r = false) : (r.insert rules).filter p = rules.filter p := by
  induction rules with
  | nil => simp [insert, hr]
  | cons s rest ih =>
      by_cases hle : r.priority ≤ s.priority
      · rw [insert, if_pos hle, List.filter_cons_of_neg (by simp [hr])]
      · rw [insert, if_neg hle, List.filter_cons, List.filter_cons, ih]

theorem inOrder_cons_of_enabled {r : Rule} (h : r.enabled = true) (rules : List Rule) :
    inOrder (r :: rules) = r.insert (inOrder rules) := by
  simp [inOrder, h]

theorem inOrder_cons_of_disabled {r : Rule} (h : r.enabled = false) (rules : List Rule) :
    inOrder (r :: rules) = inOrder rules := by
  simp [inOrder, h]

/-- The order of a part of the rules is that part of the order. -/
theorem inOrder_filter (p : Rule → Bool) (rules : List Rule) :
    inOrder (rules.filter p) = (inOrder rules).filter p := by
  induction rules with
  | nil => rfl
  | cons r rest ih =>
      cases he : r.enabled with
      | true =>
          rw [inOrder_cons_of_enabled he]
          cases hp : p r with
          | true =>
              rw [filter_insert_of_pos hp (pairwise_inOrder rest), List.filter_cons_of_pos hp,
                inOrder_cons_of_enabled he, ih]
          | false =>
              rw [filter_insert_of_neg hp, List.filter_cons_of_neg (by simp [hp]), ih]
      | false =>
          rw [inOrder_cons_of_disabled he, ← ih, List.filter_cons]
          split
          · rw [inOrder_cons_of_disabled he]
          · rfl

/-- Rules that ascend are tried in the order of their list. -/
theorem inOrder_eq_of_ascending {rules : List Rule} (h : Ascending (rules.filter Rule.enabled)) :
    inOrder rules = rules.filter Rule.enabled := by
  unfold inOrder
  generalize rules.filter Rule.enabled = kept at h
  induction kept with
  | nil => rfl
  | cons r rest ih =>
      obtain ⟨hr, hRest⟩ := List.pairwise_cons.mp h
      rw [List.foldr_cons, ih hRest, insert_eq_cons hr]

end Rule

/-- The profile whose script answers for a route, if the route leads to one. -/
def Route.script? (r : Route) (profiles : List Profile) : Option Profile :=
  if r.kind? = some .existing then (Profile.find? r.profile profiles).filter Profile.runsScript
  else none

theorem Route.script?_eq_some_iff {r : Route} {profiles : List Profile} {p : Profile} :
    r.script? profiles = some p ↔ r.kind? = some .existing ∧
      Profile.find? r.profile profiles = some p ∧ p.runsScript = true := by
  unfold script?
  split
  next hKind => rw [Option.filter_eq_some_iff, and_iff_right hKind]
  next hKind => simp [hKind]

namespace Verdict

theorem ofRule_eq (r : Rule) (profiles : List Profile) :
    ofRule r profiles = match r.route.script? profiles with
      | some p => .ok ⟨some r, "PAC Script: " ++ Text.shown p.name, true⟩
      | none => (r.route.answer profiles).map fun answer => ⟨some r, answer, false⟩ := rfl

theorem rule_of_ofRule {r : Rule} {profiles : List Profile} {v : Verdict}
    (h : ofRule r profiles = .ok v) : v.rule = some r := by
  rw [ofRule_eq] at h
  split at h
  · cases h
    rfl
  · cases ha : r.route.answer profiles with
    | error fault => simp [ha, Except.map] at h
    | ok answer =>
        simp only [ha, Except.map, Except.ok.injEq] at h
        rw [← h]

/-- What is left out before the first rule that matches has no part in the verdict, as long as the
rule that decides is kept. -/
theorem firstMatch_filter {profiles : List Profile} {host : String} {p : Rule → Bool}
    {rules : List Rule} {v : Verdict} (h : firstMatch profiles host rules = .ok v)
    (hKept : ∀ r ∈ v.rule, p r = true) : firstMatch profiles host (rules.filter p) = .ok v := by
  induction rules with
  | nil => exact h
  | cons r rest ih =>
      rw [firstMatch] at h
      cases hm : r.hasMatch host with
      | error fault => rw [hm] at h; cases h
      | ok found =>
          cases found with
          | false =>
              simp only [hm] at h
              rw [List.filter_cons]
              split
              · rw [firstMatch, hm]
                exact ih h
              · exact ih h
          | true =>
              simp only [hm] at h
              have hv : v.rule = some r := rule_of_ofRule h
              rw [List.filter_cons_of_pos (hKept r hv), firstMatch, hm]
              exact h

end Verdict

end ProxyRouting
