import ProxyRouting.Proofs.Analysis.Inert
import ProxyRouting.Proofs.Analysis.Signature
import ProxyRouting.Proofs.Parity
import ProxyRouting.Proofs.Validation.Host

/-! Compiled scripts are accepted. A script that is compiled from rules without regular expressions
and without scripts, whose servers have valid addresses, has no error of syntax and no critical
construct. -/
namespace ProxyRouting

theorem Host.all_isVerbatim {s : List Char} (h : isValid s = true) : s.all isVerbatim = true :=
  List.all_eq_true.mpr fun c hc => isVerbatim_of (List.all_eq_true.mp (all_isMark h) c hc)
    (by decide) (by decide) (by decide) (by decide)

/-- Whether a server has an address that can be used: a valid host and a port of ASCII digits. -/
def Server.HasAddress (s : Server) : Prop :=
  (∃ host, s.host = some host ∧ Host.isValid host.toList = true) ∧
    Entry.isPort s.port.toList = true

theorem Entry.all_isVerbatim_announce {s : Server} {text : String} (h : announce s = .ok text)
    (hAddress : s.HasAddress) : text.toList.all isVerbatim = true := by
  have hWord : ∀ k : Keyword, k.word.toList.all isVerbatim = true := by
    intro k
    cases k <;> decide
  have hPort : s.port.toList.all isVerbatim = true := by
    have hDigits := hAddress.2
    simp only [isPort, Bool.and_eq_true] at hDigits
    exact List.all_eq_true.mpr fun c hc => isVerbatim_of (List.all_eq_true.mp hDigits.2 c hc)
      (by decide) (by decide) (by decide) (by decide)
  unfold announce at h
  split at h
  next scheme hScheme =>
    obtain ⟨host, hHost, hValid⟩ := hAddress.1
    rw [← Except.ok.inj h]
    simp only [Server.address, hHost, Text.shown, Option.getD_some, String.toList_append,
      List.all_append, hWord, Host.all_isVerbatim hValid, hPort]
    rfl
  next => cases h

theorem Statement.isInert_render {st : Statement} (hCondition : st.condition.IsBland)
    (hAction : IsInert st.action.render.toList) : IsInert st.render.toList := by
  have hIf := IsInert.call "if ".toList 'f' (by decide) (fun _ => rfl) (by decide)
    (Condition.isInert_render hCondition)
  have hReturn : IsInert " return ".toList := .code (by decide)
  have hEnd : IsInert [';'] := .code (by decide)
  have hAll := (hIf.append hReturn).append (hAction.append hEnd)
  rw [toList_render]
  simpa using hAll

theorem Action.isInert_renderLast {a : Action} (h : IsInert a.render.toList) :
    IsInert a.renderLast.toList := by
  have hReturn : IsInert "return ".toList := .code (by decide)
  have hEnd : IsInert [';'] := .code (by decide)
  rw [toList_renderLast]
  exact hReturn.append (h.append hEnd)

namespace Script

/-- The function that answers requests, with its brackets told apart. -/
theorem main_eq (s : Script) (indent : String) :
    s.main indent = "function FindProxyForURL".toList ++ '(' :: ("url, host".toList ++ [')']) ++
      ([' '] ++ '\x7b' :: ((s.inner indent ++ ['\n']) ++ ['\x7d'])) := by
  have hHead : "function FindProxyForURL(url, host) ".toList =
      "function FindProxyForURL".toList ++ '(' :: ("url, host".toList ++ [')']) ++ [' '] := rfl
  unfold main
  rw [hHead]
  simp only [List.append_assoc, List.cons_append, List.nil_append]

theorem isInert_main {s : Script} {indent : String} (hIndent : Settings.isIndent indent = true)
    (hStatements : ∀ st ∈ s.statements, IsInert st.render.toList)
    (hLast : IsInert s.last.renderLast.toList) : IsInert (s.main indent) := by
  have hBlanks : IsInert indent.toList := by
    refine .code (List.all_eq_true.mpr fun c hc => ?_)
    rcases Settings.eq_of_mem_indent hIndent hc with rfl | rfl
    · decide
    · decide
  have hLine : IsInert ['\n'] := .code (by decide)
  have hInner : IsInert (s.inner indent) := by
    refine .flatMap fun text hText => ?_
    refine hLine.append (hBlanks.append ?_)
    rcases List.mem_append.mp hText with hMem | hMem
    · obtain ⟨st, hSt, rfl⟩ := List.mem_map.mp hMem
      exact hStatements st hSt
    · rw [List.mem_singleton.mp hMem]
      exact hLast
  have hParameters : IsInert "url, host".toList := .code (by decide)
  have hName := IsInert.call "function FindProxyForURL".toList 'L' (by decide) (fun _ => rfl)
    (by decide) hParameters
  have hBlank : IsInert [' '] := .code (by decide)
  rw [main_eq]
  exact hName.append (hBlank.append (hInner.append hLine).braces)

theorem signatureProblems_main (s : Script) (indent : String) :
    signatureProblems (s.main indent) = [] := by
  have hName : "function FindProxyForURL".toList =
      "function".toList ++ ' ' :: "FindProxyForURL".toList := rfl
  have hDeclared := @signatureProblems_of_declared "url, host".toList (by decide)
    (by decide) (by decide) ([' '] ++ '\x7b' :: ((s.inner indent ++ ['\n']) ++ ['\x7d']))
  rw [main_eq, hName]
  simpa only [List.append_assoc, List.cons_append, List.nil_append] using hDeclared

end Script

/-- The analysis of a script with nothing wrong in it leaves the desk as it was. -/
theorem Workplace.analyze_of_clean (w : Workplace) {script : List Char}
    (hRuntime : w.settings.asksRuntime = false)
    (hSize : w.settings.maxScript.exceededBy script.length = false)
    (hSyntax : syntaxProblems none script = [])
    (hCritical : (Analysis.ofScript w.settings none script).critical = [])
    (source : String) (desk : Desk) :
    (w.analyze script source).run.run desk =
      (.ok (Analysis.ofScript w.settings none script), desk) := by
  have hSaid : w.said = pure none := by
    rw [said, hRuntime]
    rfl
  have hFindings : (Analysis.ofScript w.settings none script).findings source = [] := by
    rw [Analysis.findings, hCritical]
    simp [Analysis.ofScript, hSyntax]
  rw [analyze, hSize, hSaid]
  simp only [Bool.false_eq_true, if_false, pure_bind, hFindings]
  rfl

theorem Route.isInert_action {r : Route} {profiles : List Profile} {a : Action}
    (h : r.action profiles [] = .ok a) (hServer : ∀ server ∈ r.server? profiles, server.HasAddress) :
    IsInert a.render.toList := by
  have hEmbedded : r.embedded? [] = none := by
    unfold embedded? Embedded.find?
    split
    · split <;> rfl
    · rfl
  rw [action_eq, hEmbedded] at h
  cases hAnswer : r.answer profiles with
  | error fault => rw [hAnswer] at h; cases h
  | ok answer =>
      rw [hAnswer] at h
      rw [← Except.ok.inj h, Action.toList_render_answer]
      refine .quoted ?_
      rw [answer_eq] at hAnswer
      cases hFound : r.server? profiles with
      | none =>
          rw [hFound] at hAnswer
          rw [← Except.ok.inj hAnswer]
          decide
      | some server =>
          rw [hFound] at hAnswer
          exact Entry.all_isVerbatim_announce hAnswer (hServer server hFound)

namespace RuleSet

/-- What a rule set must be for its script to be accepted: its patterns are without a problem and no
regular expressions, its servers have addresses, and no route leads to a script. -/
structure IsAcceptable (s : RuleSet) (profiles : List Profile) : Prop where
  patterns : ∀ r ∈ s.rules, r.enabled = true → r.isCompiled = true →
    Grammar.named? r.grammar ≠ some .regex ∧ patternProblem? r.pattern r.grammar = .ok none
  servers : ∀ r ∈ s.routes, ∀ server ∈ r.server? profiles, server.HasAddress
  scripts : ∀ r ∈ s.rules, r.enabled = true → r.route.script? profiles = none
  fallback : s.fallback.script? profiles = none

namespace IsAcceptable

variable {s : RuleSet} {profiles : List Profile}

theorem isSound (h : s.IsAcceptable profiles) {r : Rule} (hMem : r ∈ s.rules)
    (hEnabled : r.enabled = true) : r.IsSound := by
  intro hCompiled
  obtain ⟨hGrammar, hProblem⟩ := h.patterns r hMem hEnabled hCompiled
  exact ⟨hProblem, fun hRegex => absurd hRegex hGrammar⟩

theorem collect_eq_nil (h : s.IsAcceptable profiles) :
    Embedded.collect (Rule.inOrder s.rules) s.fallback profiles = [] := by
  refine Embedded.collect_eq_nil fun id hId p hFind => ?_
  obtain ⟨r, hRoute, rfl⟩ := List.mem_map.mp hId
  obtain ⟨hMem, hKind⟩ := List.mem_filter.mp hRoute
  have hScript : r.script? profiles = none := by
    rcases List.mem_append.mp hMem with hRule | hLast
    · obtain ⟨rule, hIn, rfl⟩ := List.mem_map.mp hRule
      obtain ⟨hMem, hEnabled⟩ := Rule.mem_inOrder.mp hIn
      exact h.scripts rule hMem hEnabled
    · rw [List.mem_singleton.mp hLast]
      exact h.fallback
  unfold Route.script? at hScript
  rw [if_pos (by simpa using hKind), hFind] at hScript
  simpa using hScript

theorem isInert_statement (h : s.IsAcceptable profiles) {r : Rule} (hMem : r ∈ s.compiled)
    {st : Statement} (hStatement : r.statement profiles [] = .ok (some st)) :
    IsInert st.render.toList := by
  obtain ⟨hIn, hCompiled⟩ := List.mem_filter.mp hMem
  obtain ⟨hRule, hEnabled⟩ := Rule.mem_inOrder.mp hIn
  obtain ⟨hCondition, hAction⟩ := Rule.of_statement hStatement
  obtain ⟨c, hSame, -, hBland, -⟩ :=
    Rule.condition_of_isSound hCompiled (h.isSound hRule hEnabled)
  rw [hCondition] at hSame
  obtain rfl : st.condition = c := Option.some.inj (Except.ok.inj hSame)
  have hRoute : r.route ∈ s.routes := List.mem_append_left _ (List.mem_map_of_mem hMem)
  exact Statement.isInert_render (hBland (h.patterns r hRule hEnabled hCompiled).1)
    (Route.isInert_action hAction (h.servers r.route hRoute))

end IsAcceptable

/-- The script of an acceptable rule set is accepted: unless it is too large, its analysis finds no
error of syntax and no critical construct, and leaves no trace at the desk. -/
theorem analyze_compile {s : RuleSet} {profiles : List Profile} {settings : Settings}
    {w : Workplace} (h : s.IsAcceptable profiles) (hIndent : Settings.isIndent settings.indent = true)
    (hRuntime : w.settings.asksRuntime = false) :
    (s.HasSchemes profiles → ∃ text, s.compile profiles settings = .ok text) ∧
    ∀ text, s.compile profiles settings = .ok text →
      w.settings.maxScript.exceededBy text.toList.length = false →
      ∀ source desk, ∃ analysis : Analysis,
        (w.analyze text.toList source).run.run desk = (.ok analysis, desk) ∧
        analysis.syntaxErrors = [] ∧ analysis.critical = [] := by
  have hRules : ∀ r ∈ s.rules, r.enabled = true → r.IsSound := fun r hr he => h.isSound hr he
  refine ⟨exists_compile settings hRules, fun text hText hSize source desk => ?_⟩
  obtain ⟨script, hScript, hRender⟩ := exists_script_of_compile hText
  have hStands := forall₂_of_script hRules hScript
  obtain ⟨hFunctions, hLast, -⟩ := of_script hScript
  rw [h.collect_eq_nil] at hFunctions
  rw [hFunctions] at hStands hLast
  have hMain : text.toList = script.main settings.indent := by
    rw [hRender, Script.toList_render, hFunctions]
    rfl
  have hInert : IsInert text.toList := by
    rw [hMain]
    refine Script.isInert_main hIndent (fun st hSt => ?_) ?_
    · obtain ⟨r, hr, hStand⟩ := Rule.exists_of_forall₂ hStands hSt
      exact h.isInert_statement hr hStand.isStatement
    · exact Action.isInert_renderLast (Route.isInert_action hLast
        (h.servers s.fallback (List.mem_append_right _ List.mem_cons_self)))
  have hSyntax : syntaxProblems none text.toList = [] := by
    rw [syntaxProblems, Option.getD_none, hInert.closed.structureProblems_eq_nil, hMain,
      Script.signatureProblems_main]
    rfl
  have hCritical := critical_eq_nil (hInert.safe ' ') w.settings none
  exact ⟨.ofScript w.settings none text.toList,
    w.analyze_of_clean hRuntime hSize hSyntax hCritical source desk, hSyntax, hCritical⟩

/-- A rule set whose only server has an address. -/
def addressed : RuleSet where
  rules := [⟨some "host", some "eval.corp", some "exact", true, 0,
    ⟨some "inline", some ⟨some "socks5", some "fe80::1", "1080"⟩, none⟩⟩]
  fallback := ⟨some "direct", none, none⟩

theorem analyze_compile_addressed :
    addressed.IsAcceptable [] ∧ addressed.HasSchemes [] ∧
    ∃ text analysis, addressed.compile [] .standard = .ok text ∧
      ((Workplace.mk { Settings.standard with runtimeCheck := .bool false } none).analyze
        text.toList "addressed").run.run .plain = (.ok analysis, .plain) ∧
      analysis.syntaxErrors = [] ∧ analysis.critical = [] := by
  have hAcceptable : addressed.IsAcceptable [] := by
    refine ⟨by decide +kernel, ?_, by decide +kernel, by decide +kernel⟩
    unfold Server.HasAddress
    decide +kernel
  have hSchemes : addressed.HasSchemes [] := by
    unfold HasSchemes
    decide +kernel
  have hSize : (match addressed.compile [] .standard with
      | .ok text => Settings.standard.maxScript.exceededBy text.toList.length
      | .error _ => true) = false := by decide +kernel
  obtain ⟨hExists, hAll⟩ := @analyze_compile addressed [] .standard
    (Workplace.mk { Settings.standard with runtimeCheck := .bool false } none) hAcceptable
    (by decide) (by decide)
  obtain ⟨text, hText⟩ := hExists hSchemes
  rw [hText] at hSize
  obtain ⟨analysis, hRun, hSyntax, hCritical⟩ := hAll text hText hSize "addressed" .plain
  exact ⟨hAcceptable, hSchemes, text, analysis, hText, hRun, hSyntax, hCritical⟩

end RuleSet

end ProxyRouting
