import ProxyRouting.Proofs.Pattern.Meaning
import ProxyRouting.Proofs.Routes
import Mathlib.Data.List.Forall2

/-! A script does what its rule set says. The first of its statements that holds of a host belongs
to the rule that decides on requests for the host, and returns what the verdict names. -/
namespace ProxyRouting

/-- Whether a statement returns what a verdict names. Where that is left to the script of a profile
the statement calls the script, or connects directly when the script could not be embedded. -/
def Action.Follows (a : Action) (v : Verdict) (functions : List Embedded) : Prop :=
  if v.runsScript then
    match v.rule.bind fun r => r.route.embedded? functions with
    | some e => a = .call e.function
    | none => a = .answer Entry.direct
  else a = .answer v.answer

theorem Rule.follows_of_action {r : Rule} {profiles : List Profile} {functions : List Embedded}
    (hSound : Embedded.Sound profiles functions) {a : Action}
    (h : r.route.action profiles functions = .ok a) :
    ∃ v, Verdict.ofRule r profiles = .ok v ∧ v.rule = some r ∧ a.Follows v functions := by
  rw [Route.action_eq] at h
  rw [Verdict.ofRule_eq]
  cases hScript : r.route.script? profiles with
  | some p =>
      refine ⟨_, rfl, rfl, ?_⟩
      simp only [Action.Follows, if_true, Option.bind_some]
      cases hEmbedded : r.route.embedded? functions with
      | some e =>
          rw [hEmbedded] at h
          exact (Except.ok.inj h).symm
      | none =>
          rw [hEmbedded, Route.answer_of_script? hScript] at h
          exact (Except.ok.inj h).symm
  | none =>
      have hEmbedded : r.route.embedded? functions = none := by
        cases hEmbedded : r.route.embedded? functions with
        | none => rfl
        | some e =>
            have hSome := Route.script?_of_embedded? hSound hEmbedded
            rw [hScript] at hSome
            cases hSome
      rw [hEmbedded] at h
      cases hAnswer : r.route.answer profiles with
      | error fault => rw [hAnswer] at h; cases h
      | ok answer =>
          rw [hAnswer] at h
          refine ⟨_, rfl, rfl, ?_⟩
          simp only [Action.Follows, Bool.false_eq_true, if_false]
          exact (Except.ok.inj h).symm

/-- Whether the text of the condition of a statement can be read and holds of a host. -/
def Statement.holds (st : Statement) (host : List Char) : Bool :=
  (Query.read? st.condition.render.toList).any fun q => q.holds host

/-- Whether a rule is one that a script can say: its grammar is known. -/
def Rule.isCompiled (r : Rule) : Bool := (Grammar.named? r.grammar).isSome

/-- The rules that have a statement, in the order of the statements. -/
def RuleSet.compiled (s : RuleSet) : List Rule := (Rule.inOrder s.rules).filter Rule.isCompiled

/-- What is asked of a rule whose grammar is known: its pattern is without a problem, and a regular
expression has no quotes and line breaks. -/
def Rule.IsSound (r : Rule) : Prop :=
  r.isCompiled → patternProblem? r.pattern r.grammar = .ok none ∧
    (Grammar.named? r.grammar = some .regex → ∀ p ∈ r.pattern, Literal.IsPlain p.toList)

namespace Rule

theorem statement_of_not_isCompiled {r : Rule} (h : r.isCompiled = false) (profiles : List Profile)
    (functions : List Embedded) : r.statement profiles functions = .ok none := by
  have hNone : Grammar.named? r.grammar = none := by simpa [isCompiled] using h
  simp [statement, patternCondition, hNone, pure, Except.pure, bind, Except.bind]

theorem hasMatch_of_not_isCompiled {r : Rule} (h : r.isCompiled = false) (host : String) :
    r.hasMatch host = .ok false := by
  have hNone : Grammar.named? r.grammar = none := by simpa [isCompiled] using h
  simp [hasMatch, patternMatches, hNone]

/-- A rule whose grammar is known has a condition if it has a pattern. -/
theorem exists_condition {r : Rule} (h : r.isCompiled = true) (hPattern : r.pattern.isSome) :
    ∃ c, patternCondition r.pattern r.grammar = .ok (some c) := by
  obtain ⟨g, hGrammar⟩ := Option.isSome_iff_exists.mp h
  obtain ⟨pattern, hText⟩ := Option.isSome_iff_exists.mp hPattern
  rw [patternCondition, hGrammar, hText]
  cases g with
  | wildcard => exact ⟨_, rfl⟩
  | exact => exact ⟨_, rfl⟩
  | regex => exact ⟨_, rfl⟩
  | network =>
      simp only [Grammar.condition]
      split
      · exact ⟨_, rfl⟩
      · exact ⟨_, rfl⟩

/-- A rule with a sound pattern has a condition, whose text holds of the hosts that match. -/
theorem condition_of_isSound {r : Rule} (h : r.isCompiled = true) (hSound : r.IsSound) :
    ∃ c, patternCondition r.pattern r.grammar = .ok (some c) ∧
      (Query.read? c.render.toList).isSome ∧
      (Grammar.named? r.grammar ≠ some .regex → c.IsBland) ∧
      ∀ host, r.hasMatch host = .ok ((Query.read? c.render.toList).any (·.holds host.toList)) := by
  obtain ⟨hProblem, hRegex⟩ := hSound h
  obtain ⟨pattern, g, hPattern, hGrammar, hText⟩ := exists_of_patternProblem? hProblem
  have hPlain : g = .regex → Literal.IsPlain pattern.toList := by
    intro hg
    exact hRegex (by rw [hGrammar, hg]) pattern (by rw [hPattern]; rfl)
  obtain ⟨c, hCondition, hQuotable, hBland, hMatches⟩ := Grammar.condition_of_problem? hText hPlain
  refine ⟨c, ?_, ?_, ?_, fun host => ?_⟩
  · simp [patternCondition, hPattern, hGrammar, hCondition, Except.map]
  · rw [Condition.read?_render hQuotable]
    rfl
  · rw [hGrammar]
    exact fun hNot => hBland fun hg => hNot (by rw [hg])
  · rw [Condition.read?_render hQuotable, hasMatch, patternMatches, hGrammar, hPattern]
    exact hMatches host

/-- The statement of a sound rule stands for the rule: it holds of the hosts that match, and does
what the verdict of the rule names. -/
structure StandsFor (profiles : List Profile) (functions : List Embedded) (r : Rule)
    (st : Statement) : Prop where
  isStatement : r.statement profiles functions = .ok (some st)
  isReadable : (Query.read? st.condition.render.toList).isSome
  hasMatch : ∀ host, r.hasMatch host = .ok (st.holds host.toList)
  follows : ∃ v, Verdict.ofRule r profiles = .ok v ∧ v.rule = some r ∧ st.action.Follows v functions

theorem statement_eq {r : Rule} {c : Condition} (profiles : List Profile)
    (functions : List Embedded) (h : patternCondition r.pattern r.grammar = .ok (some c)) :
    r.statement profiles functions =
      (r.route.action profiles functions).map fun action => some ⟨c, action⟩ := by
  simp only [statement, h, bind, Except.bind, pure, Except.pure]
  cases r.route.action profiles functions <;> rfl

/-- A statement has the condition of the pattern of its rule, and does what the route asks for. -/
theorem of_statement {r : Rule} {profiles : List Profile} {functions : List Embedded}
    {st : Statement} (h : r.statement profiles functions = .ok (some st)) :
    patternCondition r.pattern r.grammar = .ok (some st.condition) ∧
    r.route.action profiles functions = .ok st.action := by
  cases hCondition : patternCondition r.pattern r.grammar with
  | error fault => simp [statement, hCondition, bind, Except.bind] at h
  | ok c =>
      cases c with
      | none => simp [statement, hCondition, bind, Except.bind, pure, Except.pure] at h
      | some c =>
          rw [statement_eq profiles functions hCondition] at h
          cases hAction : r.route.action profiles functions with
          | error fault => rw [hAction] at h; cases h
          | ok action =>
              rw [hAction] at h
              obtain rfl : ⟨c, action⟩ = st := Option.some.inj (Except.ok.inj h)
              exact ⟨rfl, rfl⟩

theorem standsFor_of_statement {r : Rule} {profiles : List Profile} {functions : List Embedded}
    (hEmbedded : Embedded.Sound profiles functions) (h : r.isCompiled = true) (hSound : r.IsSound)
    {st : Statement} (hStatement : r.statement profiles functions = .ok (some st)) :
    StandsFor profiles functions r st := by
  obtain ⟨hCondition, hAction⟩ := of_statement hStatement
  obtain ⟨c, hSame, hReadable, -, hMatches⟩ := condition_of_isSound h hSound
  rw [hCondition] at hSame
  obtain rfl : st.condition = c := Option.some.inj (Except.ok.inj hSame)
  exact ⟨hStatement, hReadable, hMatches, follows_of_action hEmbedded hAction⟩

/-- Nothing but an unknown grammar leaves a rule without a statement. -/
theorem exists_of_isCompiled {r : Rule} {profiles : List Profile} {functions : List Embedded}
    (h : r.isCompiled = true) {st : Option Statement}
    (hStatement : r.statement profiles functions = .ok st) : ∃ st', st = some st' := by
  obtain ⟨g, hGrammar⟩ := Option.isSome_iff_exists.mp h
  have hPattern : patternCondition r.pattern r.grammar = (g.condition r.pattern).map some := by
    rw [patternCondition, hGrammar]
  cases hCondition : g.condition r.pattern with
  | error fault =>
      rw [hCondition] at hPattern
      simp [statement, hPattern, Except.map, bind, Except.bind] at hStatement
  | ok c =>
      rw [hCondition] at hPattern
      rw [statement_eq profiles functions hPattern] at hStatement
      cases hAction : r.route.action profiles functions with
      | error fault => rw [hAction] at hStatement; cases hStatement
      | ok action =>
          rw [hAction] at hStatement
          exact ⟨_, (Except.ok.inj hStatement).symm⟩

/-- The statements of rules are those of the rules that can be said, in their order. -/
theorem forall₂_statement {rules : List Rule} {profiles : List Profile} {functions : List Embedded}
    {found : List (Option Statement)}
    (h : (rules.mapM fun r => r.statement profiles functions) = .ok found) :
    List.Forall₂ (fun r st => r.statement profiles functions = .ok (some st))
      (rules.filter isCompiled) (found.filterMap fun st => st) := by
  induction rules generalizing found with
  | nil =>
      obtain rfl : [] = found := Except.ok.inj h
      exact .nil
  | cons r rest ih =>
      rw [List.mapM_cons] at h
      cases hHead : r.statement profiles functions with
      | error fault => rw [hHead] at h; cases h
      | ok st =>
          cases hTail : rest.mapM fun r => r.statement profiles functions with
          | error fault => rw [hHead, hTail] at h; cases h
          | ok others =>
              rw [hHead, hTail] at h
              obtain rfl : st :: others = found := Except.ok.inj h
              cases hCompiled : r.isCompiled with
              | false =>
                  rw [statement_of_not_isCompiled hCompiled] at hHead
                  obtain rfl : none = st := Except.ok.inj hHead
                  rw [List.filter_cons_of_neg (by simp [hCompiled])]
                  have hRest := ih hTail
                  exact hRest
              | true =>
                  obtain ⟨st', rfl⟩ := exists_of_isCompiled hCompiled hHead
                  rw [List.filter_cons_of_pos hCompiled]
                  exact .cons hHead (ih hTail)

theorem exists_mapM_statement {rules : List Rule} {profiles : List Profile}
    {functions : List Embedded} (h : ∀ r ∈ rules, ∃ st, r.statement profiles functions = .ok st) :
    ∃ found, (rules.mapM fun r => r.statement profiles functions) = .ok found := by
  induction rules with
  | nil => exact ⟨[], rfl⟩
  | cons r rest ih =>
      obtain ⟨st, hHead⟩ := h r List.mem_cons_self
      obtain ⟨others, hTail⟩ := ih fun t ht => h t (List.mem_cons_of_mem r ht)
      exact ⟨st :: others, by rw [List.mapM_cons, hHead, hTail]; rfl⟩

/-- What stands for rules, one by one, has no part that stands for none of them. -/
theorem exists_of_forall₂ {α : Type} {R : Rule → α → Prop} {rules : List Rule} {parts : List α}
    (h : List.Forall₂ R rules parts) {part : α} (hMem : part ∈ parts) : ∃ r ∈ rules, R r part := by
  induction h with
  | nil => cases hMem
  | @cons r other rest others hStands hRest ih =>
      rcases List.mem_cons.mp hMem with rfl | hMem
      · exact ⟨r, List.mem_cons_self, hStands⟩
      · obtain ⟨t, ht, hStands⟩ := ih hMem
        exact ⟨t, List.mem_cons_of_mem r ht, hStands⟩

end Rule

theorem Verdict.firstMatch_isCompiled (profiles : List Profile) (host : String)
    (rules : List Rule) :
    firstMatch profiles host (rules.filter Rule.isCompiled) = firstMatch profiles host rules := by
  induction rules with
  | nil => rfl
  | cons r rest ih =>
      cases hCompiled : r.isCompiled with
      | false =>
          rw [List.filter_cons_of_neg (by simp [hCompiled]), ih, firstMatch,
            Rule.hasMatch_of_not_isCompiled hCompiled]
      | true => rw [List.filter_cons_of_pos hCompiled, firstMatch, firstMatch, ih]

/-- What the statements of a script make of a host: either the first one that holds belongs to the
rule of the verdict and does what the verdict names, or none holds and no rule matches. -/
def Verdict.IsReachedBy (v : Verdict) (rules : List Rule) (statements : List Statement)
    (functions : List Embedded) (host : List Char) : Prop :=
  match statements.findIdx? fun st => st.holds host with
  | some i => ∃ r st, rules[i]? = some r ∧ statements[i]? = some st ∧ v.rule = some r ∧
      st.action.Follows v functions
  | none => v = unmatched

/-- Statements that stand for rules reach the verdict of the first rule that matches. -/
theorem Verdict.firstMatch_isReachedBy {profiles : List Profile} {functions : List Embedded}
    {rules : List Rule} {statements : List Statement} (host : String)
    (h : List.Forall₂ (Rule.StandsFor profiles functions) rules statements) :
    ∃ v, firstMatch profiles host rules = .ok v ∧
      v.IsReachedBy rules statements functions host.toList := by
  induction h with
  | nil => exact ⟨unmatched, rfl, rfl⟩
  -- The statement holds where its rule matches, so both searches stop here or go on together.
  | @cons r st rest others hStands hRest ih =>
      rw [firstMatch, hStands.hasMatch host]
      unfold IsReachedBy
      rw [List.findIdx?_cons]
      cases hHolds : st.holds host.toList with
      | true =>
          obtain ⟨v, hVerdict, hRule, hFollows⟩ := hStands.follows
          exact ⟨v, hVerdict, r, st, rfl, rfl, hRule, hFollows⟩
      | false =>
          obtain ⟨v, hVerdict, hReached⟩ := ih
          refine ⟨v, hVerdict, ?_⟩
          unfold IsReachedBy at hReached
          cases hIndex : others.findIdx? fun st => st.holds host.toList with
          | none =>
              rw [hIndex] at hReached
              exact hReached
          | some i =>
              rw [hIndex] at hReached
              exact hReached

namespace RuleSet

/-- The routes that a script has to say: those of the rules with a statement, and the fallback. -/
def routes (s : RuleSet) : List Route := s.compiled.map Rule.route ++ [s.fallback]

/-- Whether every server that a script has to name has a scheme. -/
def HasSchemes (s : RuleSet) (profiles : List Profile) : Prop :=
  ∀ r ∈ s.routes, ∀ server ∈ r.server? profiles, server.scheme.isSome

theorem of_script {s : RuleSet} {profiles : List Profile} {script : Script}
    (h : s.script profiles = .ok script) :
    script.functions = Embedded.collect (Rule.inOrder s.rules) s.fallback profiles ∧
    s.fallback.action profiles script.functions = .ok script.last ∧
    ∃ found, ((Rule.inOrder s.rules).mapM fun r => r.statement profiles script.functions) =
      .ok found ∧ script.statements = found.filterMap id := by
  unfold RuleSet.script at h
  simp only [bind, Except.bind, pure, Except.pure] at h
  split at h
  · cases h
  next found hFound =>
    split at h
    · cases h
    next last hLast =>
      obtain rfl := Except.ok.inj h
      exact ⟨rfl, hLast, found, hFound, rfl⟩

theorem sound_of_script {s : RuleSet} {profiles : List Profile} {script : Script}
    (h : s.script profiles = .ok script) : Embedded.Sound profiles script.functions := by
  rw [(of_script h).1]
  exact Embedded.sound_collect _ _ _

theorem exists_statement {s : RuleSet} {profiles : List Profile} (hSchemes : s.HasSchemes profiles)
    {r : Rule} (hMem : r ∈ Rule.inOrder s.rules)
    (hCondition : r.isCompiled = true → ∃ c, patternCondition r.pattern r.grammar = .ok (some c))
    (functions : List Embedded) : ∃ st, r.statement profiles functions = .ok st := by
  cases hCompiled : r.isCompiled with
  | false => exact ⟨none, Rule.statement_of_not_isCompiled hCompiled profiles functions⟩
  | true =>
      obtain ⟨c, hCondition⟩ := hCondition hCompiled
      have hRoute : r.route ∈ s.routes :=
        List.mem_append_left _ (List.mem_map_of_mem (List.mem_filter.mpr ⟨hMem, hCompiled⟩))
      obtain ⟨a, hAction⟩ := Route.exists_action (hSchemes r.route hRoute) functions
      exact ⟨some ⟨c, a⟩, by rw [Rule.statement_eq profiles functions hCondition, hAction]; rfl⟩

theorem exists_script {s : RuleSet} {profiles : List Profile}
    (hConditions : ∀ r ∈ s.rules, r.enabled = true → r.isCompiled = true →
      ∃ c, patternCondition r.pattern r.grammar = .ok (some c))
    (hSchemes : s.HasSchemes profiles) : ∃ script, s.script profiles = .ok script := by
  let functions := Embedded.collect (Rule.inOrder s.rules) s.fallback profiles
  have hStatement : ∀ r ∈ Rule.inOrder s.rules, ∃ st, r.statement profiles functions = .ok st := by
    intro r hr
    obtain ⟨hMem, hEnabled⟩ := Rule.mem_inOrder.mp hr
    exact exists_statement hSchemes hr (hConditions r hMem hEnabled) functions
  obtain ⟨found, hFound⟩ := Rule.exists_mapM_statement hStatement
  obtain ⟨last, hLast⟩ := Route.exists_action
    (hSchemes s.fallback (List.mem_append_right _ List.mem_cons_self)) functions
  refine ⟨⟨functions, found.filterMap id, last⟩, ?_⟩
  unfold RuleSet.script
  simp only [functions] at hFound hLast
  simp only [hFound, hLast, bind, Except.bind, pure, Except.pure, functions]

theorem exists_compile {s : RuleSet} {profiles : List Profile} (settings : Settings)
    (hRules : ∀ r ∈ s.rules, r.enabled = true → r.IsSound) (hSchemes : s.HasSchemes profiles) :
    ∃ text, s.compile profiles settings = .ok text := by
  have hConditions : ∀ r ∈ s.rules, r.enabled = true → r.isCompiled = true →
      ∃ c, patternCondition r.pattern r.grammar = .ok (some c) := by
    intro r hr hEnabled hCompiled
    obtain ⟨c, hCondition, -⟩ := Rule.condition_of_isSound hCompiled (hRules r hr hEnabled)
    exact ⟨c, hCondition⟩
  obtain ⟨script, hScript⟩ := exists_script hConditions hSchemes
  exact ⟨_, by rw [compile, hScript]; rfl⟩

/-- There is a text when no enabled rule is without a pattern and no server without a scheme. -/
theorem exists_compile_of_patterns {s : RuleSet} {profiles : List Profile} (settings : Settings)
    (hPatterns : ∀ r ∈ s.rules, r.enabled = true → r.pattern.isSome)
    (hSchemes : s.HasSchemes profiles) : ∃ text, s.compile profiles settings = .ok text := by
  obtain ⟨script, hScript⟩ := exists_script (fun r hr hEnabled hCompiled =>
    Rule.exists_condition hCompiled (hPatterns r hr hEnabled)) hSchemes
  exact ⟨_, by rw [compile, hScript]; rfl⟩

theorem exists_script_of_compile {s : RuleSet} {profiles : List Profile} {settings : Settings}
    {text : String} (h : s.compile profiles settings = .ok text) :
    ∃ script, s.script profiles = .ok script ∧ text = script.render settings.indent := by
  rw [compile] at h
  cases hScript : s.script profiles with
  | error fault => rw [hScript] at h; cases h
  | ok script =>
      rw [hScript] at h
      exact ⟨script, rfl, (Except.ok.inj h).symm⟩

/-- A script has a statement for each rule that can be said, in their order. -/
theorem forall₂_statement_of_script {s : RuleSet} {profiles : List Profile} {script : Script}
    (h : s.script profiles = .ok script) :
    List.Forall₂ (fun r st => r.statement profiles script.functions = .ok (some st)) s.compiled
      script.statements := by
  obtain ⟨-, -, found, hFound, hStatements⟩ := of_script h
  rw [hStatements]
  exact Rule.forall₂_statement hFound

theorem forall₂_of_script {s : RuleSet} {profiles : List Profile} {script : Script}
    (hRules : ∀ r ∈ s.rules, r.enabled = true → r.IsSound)
    (h : s.script profiles = .ok script) :
    List.Forall₂ (Rule.StandsFor profiles script.functions) s.compiled script.statements := by
  have hSound : ∀ r ∈ s.compiled, r.isCompiled = true ∧ r.IsSound := by
    intro r hr
    obtain ⟨hIn, hCompiled⟩ := List.mem_filter.mp hr
    obtain ⟨hMem, hEnabled⟩ := Rule.mem_inOrder.mp hIn
    exact ⟨hCompiled, hRules r hMem hEnabled⟩
  refine ((List.forall₂_and_left _ _).mpr ⟨hSound, forall₂_statement_of_script h⟩).imp ?_
  rintro r st ⟨⟨hCompiled, hRule⟩, hStatement⟩
  exact Rule.standsFor_of_statement (sound_of_script h) hCompiled hRule hStatement

/-- Rules of three grammars, one of a grammar that is not known and one that is not enabled. The
first of those with the same priority leads to a script. -/
def sampler : RuleSet where
  rules := [
    ⟨some "net", some "10.0.0.0/8", some "cidr", true, 3,
      ⟨some "inline", some ⟨some "https", some "gw.corp", "8443"⟩, none⟩⟩,
    ⟨some "script", some "*.corp", some "wildcard", true, 1, ⟨some "existing", none, some "p"⟩⟩,
    ⟨some "ads", some "^(ads|tracker)\\.", some "regex", true, 1, ⟨some "direct", none, none⟩⟩,
    ⟨some "host", some "wiki.corp", some "exact", false, 0, ⟨some "direct", none, none⟩⟩,
    ⟨some "other", some "*", some "glob", true, 0, ⟨some "direct", none, none⟩⟩]
  fallback := ⟨some "direct", none, none⟩

def scripted : Profile where
  id := some "p"
  name := some "Corp"
  color := none
  mode := some "pac_script"
  script := some ⟨none,
    some "function FindProxyForURL(url, host) \x7b return \"PROXY proxy.corp:80\"; \x7d", false⟩
  servers := none
  isActive := false
  quickSwitch := false
  ruleSet := none

end RuleSet

end ProxyRouting
