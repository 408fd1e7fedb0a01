import ProxyRouting.Proofs.Ties

/-! Which rule decides on a request. Of the enabled rules that match, it is one with the least
priority number, and among those the one that stands first. That is the first rule that matches in
the order in which rules are tried. -/
namespace ProxyRouting

namespace Rule

/-- Whether a rule has a say on a host. -/
def Applies (host : String) (r : Rule) : Prop := r.enabled = true ∧ r.hasMatch host = .ok true

/-- A rule decides on a host if it applies, those that apply in front of it have larger priority
numbers, and those behind it have no smaller ones. -/
def Decides (host : String) (rules : List Rule) (r : Rule) : Prop :=
  ∃ front rest, rules = front ++ r :: rest ∧ r.Applies host ∧
    (∀ s ∈ front, s.Applies host → r.priority < s.priority) ∧
    ∀ s ∈ rest, s.Applies host → r.priority ≤ s.priority

def matchesHost (host : String) (r : Rule) : Bool :=
  match r.hasMatch host with
  | .ok answer => answer
  | .error _ => false

theorem matchesHost_iff {host : String} {r : Rule} :
    r.matchesHost host = true ↔ r.hasMatch host = .ok true := by
  unfold matchesHost
  cases r.hasMatch host <;> simp

section Decides

variable {host : String} {r s : Rule} {rules : List Rule}

theorem Decides.mem (h : Decides host rules r) : r ∈ rules := by
  obtain ⟨front, rest, rfl, -⟩ := h
  simp

theorem Decides.applies (h : Decides host rules r) : r.Applies host := by
  obtain ⟨-, -, -, hApplies, -⟩ := h
  exact hApplies

theorem Decides.priority_le (h : Decides host rules r) (hMem : s ∈ rules) (hs : s.Applies host) :
    r.priority ≤ s.priority := by
  obtain ⟨front, rest, rfl, -, hFront, hRest⟩ := h
  rcases List.mem_append.mp hMem with hMem | hMem
  · exact Int.le_of_lt (hFront s hMem hs)
  · rcases List.mem_cons.mp hMem with rfl | hMem
    · exact Int.le_refl _
    · exact hRest s hMem hs

/-- What decides at the front of a list decides in front of all that applies behind it. -/
theorem decides_head (hr : r.Applies host)
    (hRest : ∀ s ∈ rules, s.Applies host → r.priority ≤ s.priority) : Decides host (r :: rules) r :=
  ⟨[], rules, rfl, hr, fun _ hs => absurd hs List.not_mem_nil, hRest⟩

theorem Decides.cons (h : Decides host rules r) (hs : s.Applies host → r.priority < s.priority) :
    Decides host (s :: rules) r := by
  obtain ⟨front, rest, rfl, hApplies, hFront, hRest⟩ := h
  exact ⟨s :: front, rest, rfl, hApplies, List.forall_mem_cons.mpr ⟨hs, hFront⟩, hRest⟩

/-- Of two rules that apply, the one in front decides or the one behind it, but not both. -/
theorem not_both_decide {front middle rest : List Rule} (hr : r.Applies host) (hs : s.Applies host)
    (hBehind : ∀ t ∈ middle ++ s :: rest, t.Applies host → r.priority ≤ t.priority)
    (hFront : ∀ t ∈ front ++ r :: middle, t.Applies host → s.priority < t.priority) : False := by
  have hle := hBehind s (by simp) hs
  have hlt := hFront r (by simp) hr
  omega

/-- One rule at most decides. -/
theorem Decides.unique (h : Decides host rules r) (hOther : Decides host rules s) : s = r := by
  obtain ⟨front, rest, rfl, hr, hFront, hRest⟩ := h
  obtain ⟨front', rest', hSplit, hs, hFront', hRest'⟩ := hOther
  -- The list is split at both rules: at one place, or with a part of it between them.
  rcases List.append_eq_append_iff.mp hSplit with ⟨middle, rfl, hTail⟩ | ⟨middle, rfl, hTail⟩
  · cases middle with
    | nil => exact (List.cons.inj hTail).1.symm
    | cons q middle =>
        obtain ⟨rfl, rfl⟩ := List.cons.inj hTail
        exact (not_both_decide hr hs hRest hFront').elim
  · cases middle with
    | nil => exact (List.cons.inj hTail).1
    | cons q middle =>
        obtain ⟨rfl, rfl⟩ := List.cons.inj hTail
        exact (not_both_decide hs hr hRest' hFront).elim

end Decides

theorem head?_insert (r : Rule) (rules : List Rule) :
    (r.insert rules).head? = match rules.head? with
      | some s => some (if r.priority ≤ s.priority then r else s)
      | none => some r := by
  cases rules with
  | nil => rfl
  | cons s rest =>
      rw [insert]
      split
      next hle => simp [hle]
      next hle => simp [hle]

/-- The first rule of a kind after an insertion. -/
theorem find?_insert {p : Rule → Bool} {r : Rule} {rules : List Rule} (h : Ascending rules) :
    (r.insert rules).find? p =
      if p r then
        match rules.find? p with
        | some s => some (if r.priority ≤ s.priority then r else s)
        | none => some r
      else rules.find? p := by
  rw [← List.head?_filter, ← List.head?_filter]
  split
  next hp => rw [filter_insert_of_pos hp h, head?_insert]
  next hp => rw [filter_insert_of_neg (by simpa using hp)]

/-- No rule applies when none is found in the order. -/
theorem find?_inOrder_eq_none_iff {host : String} {rules : List Rule} :
    (inOrder rules).find? (matchesHost host) = none ↔ ∀ r ∈ rules, ¬ r.Applies host := by
  rw [List.find?_eq_none]
  simp only [mem_inOrder, matchesHost_iff, Applies, not_and, and_imp]

/-- The first rule in the order that matches is the one that decides. -/
theorem decides_of_find?_inOrder {host : String} {rules : List Rule} {r : Rule}
    (h : (inOrder rules).find? (matchesHost host) = some r) : Decides host rules r := by
  -- The first rule of the list is put into the order of the others, in front of its equals.
  induction rules generalizing r with
  | nil => cases h
  | cons s rest ih =>
      by_cases he : s.enabled = true
      · rw [inOrder_cons_of_enabled he, find?_insert (pairwise_inOrder rest)] at h
        split at h
        next hs =>
          have hApplies : s.Applies host := ⟨he, matchesHost_iff.mp hs⟩
          split at h
          next t hFound =>
            have hDecides := ih hFound
            obtain rfl := Option.some.inj h
            split
            next hle =>
              refine decides_head hApplies fun q hq hApplies' => ?_
              exact Int.le_trans hle (hDecides.priority_le hq hApplies')
            next hle => exact hDecides.cons fun _ => Int.not_le.mp hle
          next hNone =>
            obtain rfl := Option.some.inj h
            exact decides_head hApplies fun q hq hq' =>
              absurd hq' (find?_inOrder_eq_none_iff.mp hNone q hq)
        next hs =>
          exact (ih h).cons fun hApplies => absurd (matchesHost_iff.mpr hApplies.2) hs
      · rw [inOrder_cons_of_disabled (by simpa using he)] at h
        exact (ih h).cons fun hApplies => absurd hApplies.1 he

theorem find?_inOrder_eq_some_iff {host : String} {rules : List Rule} {r : Rule} :
    (inOrder rules).find? (matchesHost host) = some r ↔ Decides host rules r := by
  refine ⟨decides_of_find?_inOrder, fun h => ?_⟩
  cases hFound : (inOrder rules).find? (matchesHost host) with
  | none => exact absurd h.applies (find?_inOrder_eq_none_iff.mp hFound r h.mem)
  | some s => rw [h.unique (decides_of_find?_inOrder hFound)]

end Rule

namespace Verdict

variable {profiles : List Profile} {host : String} {rules : List Rule}

/-- The rule of a verdict is the first one that matches. Without one, all rules were tried. -/
theorem rule_of_firstMatch {v : Verdict} (h : firstMatch profiles host rules = .ok v) :
    v.rule = rules.find? (Rule.matchesHost host) ∧
    (v.rule = none → ∀ r ∈ rules, r.hasMatch host = .ok false) := by
  induction rules with
  | nil =>
      obtain rfl := Except.ok.inj h
      exact ⟨rfl, fun _ _ hs => absurd hs List.not_mem_nil⟩
  | cons r rest ih =>
      rw [firstMatch] at h
      cases hMatch : r.hasMatch host with
      | error fault => rw [hMatch] at h; cases h
      | ok answer =>
          rw [hMatch] at h
          cases answer with
          | true =>
              rw [rule_of_ofRule h, List.find?_cons_of_pos (Rule.matchesHost_iff.mpr hMatch)]
              exact ⟨rfl, fun hNone => absurd hNone (Option.some_ne_none r)⟩
          | false =>
              have hNot : ¬ r.matchesHost host = true := by simp [Rule.matchesHost_iff, hMatch]
              obtain ⟨hRule, hRest⟩ := ih h
              rw [List.find?_cons_of_neg hNot]
              exact ⟨hRule, fun hNone => List.forall_mem_cons.mpr ⟨hMatch, hRest hNone⟩⟩

/-- When no match fails, the verdict is that of the first rule that matches. -/
theorem firstMatch_eq_find? (h : ∀ r ∈ rules, ∃ answer, r.hasMatch host = .ok answer) :
    firstMatch profiles host rules = match rules.find? (Rule.matchesHost host) with
      | some r => ofRule r profiles
      | none => .ok unmatched := by
  induction rules with
  | nil => rfl
  | cons r rest ih =>
      obtain ⟨⟨answer, hMatch⟩, hRest⟩ := List.forall_mem_cons.mp h
      rw [firstMatch, hMatch]
      cases answer with
      | true => rw [List.find?_cons_of_pos (Rule.matchesHost_iff.mpr hMatch)]
      | false =>
          rw [List.find?_cons_of_neg (by simp [Rule.matchesHost_iff, hMatch])]
          exact ih hRest

/-- Rules are tried by priority, those of one priority as they stand in their list, so the rule of a
verdict is the one that decides, and there is none only where no enabled rule matches. When no match
fails, the verdict is that of the rule that decides. -/
theorem rule_eq_some_iff_decides (url : String) (rules : List Rule) (profiles : List Profile) :
    ((Rule.inOrder rules).Perm (rules.filter Rule.enabled) ∧
      Rule.Ascending (Rule.inOrder rules) ∧
      ∀ priority, (Rule.inOrder rules).filter (fun r => decide (r.priority = priority)) =
        (rules.filter Rule.enabled).filter fun r => decide (r.priority = priority)) ∧
    (∀ v, onRequest url rules profiles = .ok v →
      (∀ r, v.rule = some r ↔ Rule.Decides (Url.extractHost url) rules r) ∧
      (v.rule = none → ∀ r ∈ rules, r.enabled = true →
        r.hasMatch (Url.extractHost url) = .ok false)) ∧
    ((∀ r ∈ rules, r.enabled = true → ∃ answer, r.hasMatch (Url.extractHost url) = .ok answer) →
      (∀ r, Rule.Decides (Url.extractHost url) rules r →
        onRequest url rules profiles = ofRule r profiles) ∧
      ((∀ r ∈ rules, ¬ r.Applies (Url.extractHost url)) →
        onRequest url rules profiles = .ok unmatched)) := by
  refine ⟨⟨Rule.inOrder_perm rules, Rule.pairwise_inOrder rules, fun priority => ?_⟩,
    fun v hVerdict => ?_, fun hMatches => ?_⟩
  · rw [Rule.filter_priority_inOrder, Rule.tied, List.filter_filter]
    exact List.filter_congr fun r _ => Bool.and_comm _ _
  · obtain ⟨hRule, hNone⟩ := rule_of_firstMatch hVerdict
    refine ⟨fun r => ?_, fun hNo r hr hEnabled => ?_⟩
    · rw [hRule, Rule.find?_inOrder_eq_some_iff]
    · exact hNone hNo r (Rule.mem_inOrder.mpr ⟨hr, hEnabled⟩)
  · have hAnswers : ∀ r ∈ Rule.inOrder rules,
        ∃ answer, r.hasMatch (Url.extractHost url) = .ok answer := fun r hr =>
      hMatches r (Rule.mem_inOrder.mp hr).1 (Rule.mem_inOrder.mp hr).2
    refine ⟨fun r hDecides => ?_, fun hNone => ?_⟩
    · rw [onRequest, firstMatch_eq_find? hAnswers, Rule.find?_inOrder_eq_some_iff.mpr hDecides]
    · rw [onRequest, firstMatch_eq_find? hAnswers, Rule.find?_inOrder_eq_none_iff.mpr hNone]

/-- Rules that all match hosts of one domain: one is not enabled, and two have the least priority
number of the others. -/
def ranked : List Rule := [
  ⟨some "late", some "*.corp", some "wildcard", true, 100000000000000000000,
    ⟨some "direct", none, none⟩⟩,
  ⟨some "off", some "*.corp", some "wildcard", false, -9, ⟨some "direct", none, none⟩⟩,
  ⟨some "wiki", some "wiki.corp", some "exact", true, -3, ⟨some "direct", none, none⟩⟩,
  ⟨some "tied", some "*.corp", some "wildcard", true, -3, ⟨some "existing", none, some "p"⟩⟩,
  ⟨some "zero", some "^w", some "regex", true, 0, ⟨some "direct", none, none⟩⟩]

theorem rule_eq_some_iff_decides_ranked :
    (∀ r ∈ ranked, r.enabled = true →
      ∃ answer, r.hasMatch (Url.extractHost "http://Wiki.corp/") = .ok answer) ∧
    ∃ wiki, ranked[2]? = some wiki ∧
      Rule.Decides (Url.extractHost "http://Wiki.corp/") ranked wiki ∧
      onRequest "http://Wiki.corp/" ranked [] = ofRule wiki [] := by
  have hMatches : ∀ r ∈ ranked,
      (r.hasMatch (Url.extractHost "http://Wiki.corp/")).toOption.isSome := by
    decide +kernel
  have hAnswers : ∀ r ∈ ranked, r.enabled = true →
      ∃ answer, r.hasMatch (Url.extractHost "http://Wiki.corp/") = .ok answer := by
    intro r hr _
    have hSome := hMatches r hr
    cases hAnswer : r.hasMatch (Url.extractHost "http://Wiki.corp/") with
    | ok answer => exact ⟨answer, rfl⟩
    | error fault => rw [hAnswer] at hSome; cases hSome
  have hRule :
      (onRequest "http://Wiki.corp/" ranked []).toOption.bind Verdict.rule = ranked[2]? := by
    decide +kernel
  obtain ⟨-, hVerdict, hDecides⟩ := rule_eq_some_iff_decides "http://Wiki.corp/" ranked []
  cases hFirst : onRequest "http://Wiki.corp/" ranked [] with
  | error fault => rw [hFirst] at hRule; cases hRule
  | ok v =>
      rw [hFirst] at hRule
      have hWiki := ((hVerdict v hFirst).1 _).mp (hRule.trans rfl)
      exact ⟨hAnswers, _, rfl, hWiki, hFirst.symm.trans ((hDecides hAnswers).1 _ hWiki)⟩

end Verdict

end ProxyRouting
