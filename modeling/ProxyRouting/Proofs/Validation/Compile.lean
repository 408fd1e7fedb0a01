import ProxyRouting.Proofs.Parity
import ProxyRouting.Proofs.Validation.RuleSet

/-! Compiling rule sets without errors. No enabled rule loses its statement or has one under the
condition of rules that cannot be compiled, and what is inline announces its own server. What can
still be lost is a route to a profile, and that has left a warning. -/
namespace ProxyRouting

theorem Entry.isSome_scheme_of_announce {s : Server} {entry : String}
    (h : announce s = .ok entry) : s.scheme.isSome := by
  unfold announce at h
  cases hScheme : s.scheme with
  | none => rw [hScheme] at h; cases h
  | some scheme => rfl

/-- Whether an action returns the entry of the server that a route carries. -/
def Action.Announces (a : Action) (r : Route) : Prop :=
  ∃ server entry, r.server = some server ∧ Entry.announce server = .ok entry ∧
    a.render = "\"" ++ entry ++ "\""

/-- Whether a condition asks for the network that a pattern names: for its address, under the mask of
its length, which is one of 0 to 32. -/
def Condition.AsksForNetwork (c : Condition) (pattern : Option String) : Prop :=
  ∃ text n, pattern = some text ∧ Network.read? text = some n ∧ 0 ≤ n.length ∧ n.length ≤ 32 ∧
    c = .inNet (String.ofList n.address) (Quad.mask n.length)

/-- What a script keeps of a rule. The statement of the rule has a condition of its own, which asks
for the network if the pattern is one, and returns the server of the rule if that is inline. -/
structure Rule.IsKept (profiles : List Profile) (functions : List Embedded) (r : Rule)
    (st : Statement) : Prop where
  isStatement : r.statement profiles functions = .ok (some st)
  ne_false : st.condition.render ≠ "false"
  network : Grammar.named? r.grammar = some .network → st.condition.AsksForNetwork r.pattern
  inline : r.route.kind? = some .inline → st.action.Announces r.route

namespace Route.IsUsable

variable {profiles : List Profile} {report : Report} {r : Route}

theorem announces (h : r.IsUsable profiles report) (hKind : r.kind? = some .inline)
    {functions : List Embedded} {a : Action} (hAction : r.action profiles functions = .ok a) :
    a.Announces r := by
  obtain ⟨server, entry, hServer, hEntry⟩ := h.inline hKind
  have hEmbedded : r.embedded? functions = none := by simp [embedded?, hKind]
  have hAnswer : r.answer profiles = .ok entry := by simp [answer, hKind, hServer, hEntry]
  rw [action_eq, hEmbedded, hAnswer] at hAction
  obtain rfl := Except.ok.inj hAction
  exact ⟨server, entry, hServer, hEntry, rfl⟩

/-- Only a server of another profile may be without a scheme. -/
theorem isSome_scheme (h : r.IsUsable profiles report)
    (hExisting : r.kind? = some .existing → ∀ server ∈ r.server? profiles, server.scheme.isSome) :
    ∀ server ∈ r.server? profiles, server.scheme.isSome := by
  intro server hServer
  cases hKind : r.kind? with
  | none => simp [server?, hKind] at hServer
  | some kind =>
      cases kind with
      | direct => simp [server?, hKind] at hServer
      | existing => exact hExisting hKind server hServer
      | inline =>
          obtain ⟨own, entry, hOwn, hEntry⟩ := h.inline hKind
          obtain rfl : own = server := by simpa [server?, hKind, hOwn] using hServer
          exact Entry.isSome_scheme_of_announce hEntry

end Route.IsUsable

namespace Rule.IsUsable

variable {profiles : List Profile} {report : Report} {r : Rule}

theorem isCompiled (h : r.IsUsable profiles report) : r.isCompiled = true := by
  obtain ⟨pattern, g, -, hGrammar, -⟩ := exists_of_patternProblem? h.pattern
  rw [Rule.isCompiled, hGrammar]
  rfl

theorem exists_condition (h : r.IsUsable profiles report) :
    ∃ c, patternCondition r.pattern r.grammar = .ok (some c) ∧ c ≠ .never ∧
      (Grammar.named? r.grammar = some .network → c.AsksForNetwork r.pattern) := by
  obtain ⟨pattern, g, hPattern, hGrammar, hText⟩ := exists_of_patternProblem? h.pattern
  obtain ⟨c, hCondition, hNever, hNetwork⟩ := Grammar.condition_ne_never_of_problem? hText
  refine ⟨c, ?_, hNever, fun hNamed => ?_⟩
  · simp [patternCondition, hPattern, hGrammar, hCondition, Except.map]
  · obtain rfl : g = .network := Option.some.inj (hGrammar.symm.trans hNamed)
    obtain ⟨n, hRead, hPos, hLength, hSame⟩ := hNetwork rfl
    exact ⟨pattern, n, hPattern, hRead, hPos, hLength, hSame⟩

theorem isKept (h : r.IsUsable profiles report) {functions : List Embedded} {st : Statement}
    (hStatement : r.statement profiles functions = .ok (some st)) :
    r.IsKept profiles functions st := by
  obtain ⟨hCondition, hAction⟩ := of_statement hStatement
  obtain ⟨c, hSame, hNever, hNetwork⟩ := h.exists_condition
  rw [hCondition] at hSame
  obtain rfl : st.condition = c := Option.some.inj (Except.ok.inj hSame)
  exact ⟨hStatement, Condition.render_ne_false hNever, hNetwork,
    fun hKind => h.route.announces hKind hAction⟩

end Rule.IsUsable

namespace RuleSet

variable {s : RuleSet} {profiles : List Profile} {report : Report}

/-- Every enabled rule is one that a script can say. -/
theorem compiled_eq_inOrder (hRules : ∀ r ∈ s.rules, r.IsUsable profiles report) :
    s.compiled = Rule.inOrder s.rules :=
  List.filter_eq_self.mpr fun r hr => (hRules r (Rule.mem_inOrder.mp hr).1).isCompiled

theorem isUsable_of_mem (hRules : ∀ r ∈ s.rules, r.IsUsable profiles report)
    (hFallback : s.fallback.IsUsable profiles report) {r : Route}
    (hr : r ∈ s.rules.map Rule.route ++ [s.fallback]) : r.IsUsable profiles report := by
  rcases List.mem_append.mp hr with hRule | hLast
  · obtain ⟨t, ht, rfl⟩ := List.mem_map.mp hRule
    exact (hRules t ht).route
  · rw [List.mem_singleton.mp hLast]
    exact hFallback

theorem mem_of_mem_routes {r : Route} (h : r ∈ s.routes) :
    r ∈ s.rules.map Rule.route ++ [s.fallback] := by
  rcases List.mem_append.mp h with hRule | hLast
  · obtain ⟨t, ht, rfl⟩ := List.mem_map.mp hRule
    obtain ⟨hMem, -⟩ := Rule.mem_inOrder.mp (List.mem_filter.mp ht).1
    exact List.mem_append_left _ (List.mem_map_of_mem hMem)
  · exact List.mem_append_right _ hLast

theorem exists_script_of_isUsable (hRules : ∀ r ∈ s.rules, r.IsUsable profiles report)
    (hFallback : s.fallback.IsUsable profiles report)
    (hExisting : ∀ r ∈ s.routes, r.kind? = some .existing →
      ∀ server ∈ r.server? profiles, server.scheme.isSome) :
    ∃ script, s.script profiles = .ok script := by
  refine exists_script (fun r hr _ _ => ?_) fun r hr => ?_
  · obtain ⟨c, hCondition, -⟩ := (hRules r hr).exists_condition
    exact ⟨c, hCondition⟩
  · have hUsable := isUsable_of_mem hRules hFallback (mem_of_mem_routes hr)
    exact hUsable.isSome_scheme (hExisting r hr)

theorem forall₂_isKept (hRules : ∀ r ∈ s.rules, r.IsUsable profiles report) {script : Script}
    (hScript : s.script profiles = .ok script) :
    List.Forall₂ (Rule.IsKept profiles script.functions) (Rule.inOrder s.rules)
      script.statements := by
  have hStatements := forall₂_statement_of_script hScript
  rw [compiled_eq_inOrder hRules] at hStatements
  have hUsable : ∀ r ∈ Rule.inOrder s.rules, r.IsUsable profiles report :=
    fun r hr => hRules r (Rule.mem_inOrder.mp hr).1
  refine ((List.forall₂_and_left _ _).mpr ⟨hUsable, hStatements⟩).imp ?_
  rintro r st ⟨hRule, hStatement⟩
  exact hRule.isKept hStatement

/-- A rule set with an inline route, a route to a script and an inline fallback. -/
def checked : RuleSet where
  rules := [
    ⟨some "net", some "10.0.0.0/8", some "cidr", true, 2,
      ⟨some "inline", some ⟨some "https", some "gw.corp", "8443"⟩, none⟩⟩,
    ⟨some "ads", some "^\"?ads\\.", some "regex", true, 1, ⟨some "direct", none, none⟩⟩,
    ⟨some "old", some "*.old", some "wildcard", false, 0, ⟨some "existing", none, some "p"⟩⟩]
  fallback := ⟨some "inline", some ⟨some "socks5", some "fe80::1", "1080"⟩, none⟩

end RuleSet

end ProxyRouting
