import ProxyRouting.Proofs.Validation.Server
import ProxyRouting.Validation.RuleSet

/-! Rule sets without errors. The pattern of each rule is without a problem, an inline route carries
a server that can be announced, and a route to a profile that does not exist has left a warning. -/
namespace ProxyRouting

namespace Report

/-- Whether a warning ends with a message. What stands in front of it says what it is about. -/
def WarnsOf (r : Report) (message : String) : Prop :=
  ∃ warning ∈ r.warnings, message.toList <:+ warning.toList

theorem WarnsOf.append_left {r : Report} {message : String} (h : r.WarnsOf message) (s : Report) :
    (r ++ s).WarnsOf message := by
  obtain ⟨warning, hMem, hSuffix⟩ := h
  exact ⟨warning, List.mem_append_left _ hMem, hSuffix⟩

theorem WarnsOf.append_right {r : Report} {message : String} (h : r.WarnsOf message) (s : Report) :
    (s ++ r).WarnsOf message := by
  obtain ⟨warning, hMem, hSuffix⟩ := h
  exact ⟨warning, List.mem_append_right _ hMem, hSuffix⟩

theorem WarnsOf.merge {r : Report} {message : String} (h : r.WarnsOf message) (lead : String) :
    (empty.merge r lead).WarnsOf message := by
  obtain ⟨warning, hMem, hSuffix⟩ := h
  refine ⟨lead ++ warning, ?_, ?_⟩
  · rw [warnings_empty_merge]
    exact List.mem_map_of_mem hMem
  · rw [String.toList_append]
    exact hSuffix.trans (List.suffix_append ..)

theorem errors_of_merge {r : Report} {lead : String} (h : (empty.merge r lead).errors = []) :
    r.errors = [] := by
  rwa [errors_empty_merge, List.map_eq_nil_iff] at h

end Report

/-- What a validation without errors says of a route: there is a server to announce if it is inline,
and if it leads to a profile that does not exist the report warns of that. -/
structure Route.IsUsable (profiles : List Profile) (report : Report) (r : Route) : Prop where
  inline : r.kind? = some .inline →
    ∃ server entry, r.server = some server ∧ Entry.announce server = .ok entry
  existing : r.kind? = some .existing →
    (Profile.find? r.profile profiles).isSome ∨ report.WarnsOf orphanWarning

/-- What a validation without errors says of a rule. -/
structure Rule.IsUsable (profiles : List Profile) (report : Report) (r : Rule) : Prop where
  pattern : patternProblem? r.pattern r.grammar = .ok none
  route : r.route.IsUsable profiles report

/-- A larger report says no less. -/
theorem Route.IsUsable.mono {profiles : List Profile} {part whole : Report} {r : Route}
    (h : r.IsUsable profiles part)
    (hWarns : part.WarnsOf orphanWarning → whole.WarnsOf orphanWarning) :
    r.IsUsable profiles whole :=
  ⟨h.inline, fun hKind => (h.existing hKind).imp_right hWarns⟩

theorem Rule.IsUsable.mono {profiles : List Profile} {part whole : Report} {r : Rule}
    (h : r.IsUsable profiles part)
    (hWarns : part.WarnsOf orphanWarning → whole.WarnsOf orphanWarning) :
    r.IsUsable profiles whole :=
  ⟨h.pattern, h.route.mono hWarns⟩

theorem Route.isUsable_of_validate {r : Route} {profiles : List Profile} {label : String}
    {report : Report} (h : r.validate profiles label = .ok report) (hErrors : report.errors = []) :
    r.IsUsable profiles report := by
  refine ⟨fun hKind => ?_, fun hKind => ?_⟩
  · simp only [validate, hKind] at h
    cases hServer : r.server with
    | none =>
        rw [hServer] at h
        obtain rfl := Except.ok.inj h
        cases hErrors
    | some server =>
        rw [hServer] at h
        obtain ⟨⟨host, hHost, -⟩, scheme, hScheme⟩ := Server.of_validate h hErrors
        exact ⟨server, _, rfl, Server.announce_eq hScheme hHost⟩
  · simp only [validate, hKind] at h
    obtain rfl := Except.ok.inj h
    split at hErrors
    · cases hErrors
    next hFilled =>
      cases hFind : Profile.find? r.profile profiles with
      | some p => exact .inl rfl
      | none => exact .inr ⟨orphanWarning, by simp [hFilled, Report.warning], List.suffix_rfl⟩

namespace Rule

theorem patternProblem?_of_validatePattern {r : Rule} {desk after : Desk} {report : Report}
    (h : r.validatePattern.run.run desk = (.ok report, after)) (hErrors : report.errors = []) :
    patternProblem? r.pattern r.grammar = .ok none := by
  obtain ⟨problem, between, hProblem, hRest⟩ := Work.exists_of_bind h
  have hProblem' : patternProblem? r.pattern r.grammar = .ok problem := congrArg Prod.fst hProblem
  cases problem with
  | none => exact hProblem'
  | some problem =>
      obtain ⟨-, last, -, hReport⟩ := Work.exists_of_bind hRest
      obtain rfl := Except.ok.inj (congrArg Prod.fst hReport)
      cases hErrors

theorem isUsable_of_validate {r : Rule} {profiles : List Profile} {desk after : Desk}
    {report : Report} (h : (r.validate profiles).run.run desk = (.ok report, after))
    (hErrors : report.errors = []) : r.IsUsable profiles report := by
  obtain ⟨pattern, between, hPattern, hRest⟩ := Work.exists_of_bind h
  obtain ⟨route, last, hRoute, hReport⟩ := Work.exists_of_bind hRest
  obtain rfl : pattern ++ route = report := Except.ok.inj (congrArg Prod.fst hReport)
  have hValid : r.route.validate profiles "Inline proxy" = .ok route := congrArg Prod.fst hRoute
  rw [Report.errors_append, List.append_eq_nil_iff] at hErrors
  exact ⟨patternProblem?_of_validatePattern hPattern hErrors.1,
    (Route.isUsable_of_validate hValid hErrors.2).mono fun hWarns => hWarns.append_right pattern⟩

end Rule

namespace RuleSet

/-- The rules of a list that is checked without errors are usable. -/
theorem isUsable_of_validateRules {profiles : List Profile} {number : Nat} {rules : List Rule}
    {desk after : Desk} {report : Report}
    (h : (validateRules profiles number rules).run.run desk = (.ok report, after))
    (hErrors : report.errors = []) : ∀ r ∈ rules, r.IsUsable profiles report := by
  induction rules generalizing number desk after report with
  | nil =>
      intro r hr
      cases hr
  | cons r rest ih =>
      obtain ⟨first, between, hFirst, hRest⟩ := Work.exists_of_bind h
      obtain ⟨others, last, hOthers, hReport⟩ := Work.exists_of_bind hRest
      obtain rfl : Report.empty.merge first (r.lead number) ++ others = report :=
        Except.ok.inj (congrArg Prod.fst hReport)
      rw [Report.errors_append, List.append_eq_nil_iff] at hErrors
      obtain ⟨hHere, hThere⟩ := hErrors
      intro t ht
      rcases List.mem_cons.mp ht with rfl | ht
      · exact (Rule.isUsable_of_validate hFirst (Report.errors_of_merge hHere)).mono
          fun hWarns => (hWarns.merge _).append_left others
      · exact (ih hOthers hThere t ht).mono fun hWarns => hWarns.append_right _

theorem isUsable_of_validateFallback {s : RuleSet} {profiles : List Profile} {report : Report}
    (h : s.validateFallback profiles = .ok report) (hErrors : report.errors = []) :
    s.fallback.IsUsable profiles report := by
  unfold validateFallback at h
  cases hRoute : s.fallback.validate profiles "Fallback proxy" with
  | error fault => rw [hRoute] at h; cases h
  | ok route =>
      rw [hRoute] at h
      obtain rfl := Except.ok.inj h
      exact (Route.isUsable_of_validate hRoute (Report.errors_of_merge hErrors)).mono
        fun hWarns => hWarns.merge _

/-- What a validation without errors says of a rule set. -/
theorem isUsable_of_validate {s : RuleSet} {profiles : List Profile} {desk after : Desk}
    {report : Report} (h : (s.validate profiles).run.run desk = (.ok report, after))
    (hErrors : report.errors = []) :
    (∀ r ∈ s.rules, r.IsUsable profiles report) ∧ s.fallback.IsUsable profiles report := by
  obtain ⟨rules, between, hRules, hRest⟩ := Work.exists_of_bind h
  obtain ⟨fallback, next, hFallback, hNoted⟩ := Work.exists_of_bind hRest
  obtain ⟨-, last, -, hReport⟩ := Work.exists_of_bind hNoted
  obtain rfl : rules ++ fallback = report := Except.ok.inj (congrArg Prod.fst hReport)
  rw [Report.errors_append, List.append_eq_nil_iff] at hErrors
  refine ⟨fun r hr => ?_, ?_⟩
  · exact (isUsable_of_validateRules hRules hErrors.1 r hr).mono
      fun hWarns => hWarns.append_left fallback
  · exact (isUsable_of_validateFallback (congrArg Prod.fst hFallback) hErrors.2).mono
      fun hWarns => hWarns.append_right rules

end RuleSet

end ProxyRouting
