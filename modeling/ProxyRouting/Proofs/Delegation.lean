import ProxyRouting.Proofs.Analysis.Hidden
import ProxyRouting.Proofs.Script.Table
import ProxyRouting.Proofs.Validation.Profile

/-! Routes to the scripts of profiles. A verdict leaves a request to a script that is there; the
compiled statement calls that script if its body can be taken out, and connects directly if not. In a
script that validates, only the declaration, hidden braces and an empty body stand in the way. -/
namespace ProxyRouting

/-- In a script whose structure is in order, and which hides no braces, the body of a declaration ends
at the brace that belongs to its own, and can be taken out unless it is blank. -/
theorem exists_body_of_structureProblems {source : String}
    (h : structureProblems source.toList = []) (hHidden : HidesNoBraces source.toList)
    {d : Declaration} (hFound : Declaration.find? source.toList = some d) :
    ∃ inner rest, d.behind = inner ++ '\x7d' :: rest ∧ bracesOpen 0 inner = some 0 ∧
      ((extractBody source).isSome ↔ Text.isEmptyOrBlank inner = false) := by
  obtain ⟨inner, hClosed⟩ :=
    Declaration.exists_closed hFound (bracesOpen_of_structureProblems h hHidden)
  obtain ⟨hOpen, rest, hBehind⟩ := untilClosed_eq_some_iff.mp hClosed
  exact ⟨inner, rest, hBehind, hOpen, isSome_extractBody hFound hClosed⟩

namespace Action

/-- Whether what is returned is what the embedded script of a profile returns. -/
def CallsScript (a : Action) (p : Profile) (functions : List Embedded) : Prop :=
  ∃ e ∈ functions, Embedded.ofProfile? p e.number = some e ∧ a = .call e.function

/-- What a statement does where a verdict names the script of a profile: it calls the script when a
body can be taken out, and connects directly when not. -/
def Delegates (a : Action) (p : Profile) (functions : List Embedded) : Prop :=
  if (p.scriptText?.bind extractBody).isSome then a.CallsScript p functions
  else a = .answer Entry.direct

end Action

/-- A route to a script delegates to the script if it is among those that scripts are embedded for. -/
theorem Route.delegates_of_script? {r : Route} {profiles : List Profile} {p : Profile}
    (h : r.script? profiles = some p) {rules : List Rule} {fallback : Route}
    (hReferred : r.profile ∈ Embedded.references rules fallback) :
    ∃ a, r.action profiles (Embedded.collect rules fallback profiles) = .ok a ∧
      a.Delegates p (Embedded.collect rules fallback profiles) := by
  have hSound := Embedded.sound_collect rules fallback profiles
  have hLists := Embedded.lists_collect rules fallback profiles
  have hAnswer := answer_of_script? h
  generalize Embedded.collect rules fallback profiles = functions at hSound hLists
  obtain ⟨hKind, hFind, hRuns⟩ := script?_eq_some_iff.mp h
  have hCan : Embedded.isEmbeddable profiles r.profile = (p.scriptText?.bind extractBody).isSome := by
    simp [Embedded.isEmbeddable, hFind, hRuns]
  have hFound : (Embedded.find? r.profile functions).isSome =
      (p.scriptText?.bind extractBody).isSome := by
    rw [Bool.eq_iff_iff, Embedded.isSome_find?_iff hSound hLists.nodup, hLists.ids_eq,
      List.mem_eraseDups, List.mem_filter, hCan]
    simp [hReferred]
  rw [action_eq, embedded?, if_pos hKind]
  unfold Action.Delegates
  rw [← hFound]
  cases hEmbedded : Embedded.find? r.profile functions with
  | none =>
      refine ⟨.answer Entry.direct, ?_, by simp⟩
      rw [hAnswer]
      rfl
  | some e =>
      obtain ⟨hMem, hProfile⟩ := Embedded.find?_eq_some hEmbedded
      obtain ⟨q, hOrigin, -, hNew⟩ := hSound.origin e hMem
      rw [hProfile, hFind, Option.some.injEq] at hOrigin
      subst hOrigin
      exact ⟨.call e.function, rfl, by simpa using ⟨e, hMem, hNew, rfl⟩⟩

/-- A verdict that leaves a request to a script is that of a rule that matches and leads to one. -/
theorem Verdict.exists_of_runsScript {profiles : List Profile} {host : String} {rules : List Rule}
    {v : Verdict} (h : firstMatch profiles host rules = .ok v) (hRuns : v.runsScript = true) :
    ∃ r ∈ rules, ∃ p, r.hasMatch host = .ok true ∧ v.rule = some r ∧
      r.route.script? profiles = some p := by
  induction rules with
  | nil =>
      obtain rfl := Except.ok.inj h
      cases hRuns
  | cons r rest ih =>
      rw [firstMatch] at h
      split at h
      next hMatch =>
        refine ⟨r, List.mem_cons_self, ?_⟩
        have hRule := rule_of_ofRule h
        rw [ofRule_eq] at h
        split at h
        next p hScript => exact ⟨p, hMatch, hRule, hScript⟩
        next =>
          cases hAnswer : r.route.answer profiles with
          | error fault => rw [hAnswer] at h; cases h
          | ok answer =>
              rw [hAnswer] at h
              obtain rfl := Except.ok.inj h
              cases hRuns
      next =>
        obtain ⟨t, ht, hRest⟩ := ih h
        exact ⟨t, List.mem_cons_of_mem r ht, hRest⟩
      next => cases h

/-- A rule that matches has a known grammar and a pattern. -/
theorem Rule.of_hasMatch {r : Rule} {host : String} (h : r.hasMatch host = .ok true) :
    r.isCompiled = true ∧ r.pattern.isSome := by
  unfold hasMatch patternMatches at h
  split at h
  next g hGrammar =>
    refine ⟨by simp [isCompiled, hGrammar], ?_⟩
    cases hPattern : r.pattern with
    | some pattern => rfl
    | none =>
        rw [hPattern] at h
        cases g with
        | wildcard => cases h
        | exact => cases h
        | regex => cases h
        | network =>
            simp only [Grammar.hasMatch] at h
            split at h
            · cases h
            · cases h
  next => cases h

namespace RuleSet

/-- What a rule set makes of a rule whose route leads to the script of a profile: a statement that
delegates to the script, also in each place of the rule in the compiled text. -/
structure DelegatesRule (s : RuleSet) (profiles : List Profile) (r : Rule) (p : Profile) : Prop where
  isCompiled : r ∈ s.compiled
  script : r.route.script? profiles = some p
  statement : ∃ st, r.statement profiles
      (Embedded.collect (Rule.inOrder s.rules) s.fallback profiles) = .ok (some st) ∧
    st.action.Delegates p (Embedded.collect (Rule.inOrder s.rules) s.fallback profiles)
  text : ∀ settings text, s.compile profiles settings = .ok text →
    ∃ script, s.script profiles = .ok script ∧ text = script.render settings.indent ∧
      ∀ i : Nat, s.compiled[i]? = some r →
        ∃ st, script.statements[i]? = some st ∧ st.action.Delegates p script.functions

variable {s : RuleSet} {profiles : List Profile}

theorem exists_statement_of_compiled {script : Script} (h : s.script profiles = .ok script) {i : Nat}
    {r : Rule} (hAt : s.compiled[i]? = some r) :
    ∃ st, script.statements[i]? = some st ∧
      r.statement profiles script.functions = .ok (some st) := by
  have hAll := forall₂_statement_of_script h
  obtain ⟨hi, rfl⟩ := List.getElem?_eq_some_iff.mp hAt
  have hLength : i < script.statements.length := by rw [← hAll.length_eq]; exact hi
  exact ⟨_, List.getElem?_eq_getElem hLength, hAll.get hi hLength⟩

/-- An enabled rule that matches and leads to a script has a statement that delegates to it. -/
theorem delegatesRule {r : Rule} (hMem : r ∈ Rule.inOrder s.rules) {host : String}
    (hMatch : r.hasMatch host = .ok true) {p : Profile}
    (hScript : r.route.script? profiles = some p) : s.DelegatesRule profiles r p := by
  obtain ⟨hCompiled, hPattern⟩ := Rule.of_hasMatch hMatch
  have hReferred : r.route.profile ∈ Embedded.references (Rule.inOrder s.rules) s.fallback := by
    apply List.mem_map_of_mem
    refine List.mem_filter.mpr ⟨List.mem_append_left _ (List.mem_map_of_mem hMem), ?_⟩
    simpa using (Route.script?_eq_some_iff.mp hScript).1
  obtain ⟨a, hAction, hDelegates⟩ := Route.delegates_of_script? hScript hReferred
  obtain ⟨c, hCondition⟩ := Rule.exists_condition hCompiled hPattern
  have hStatement : r.statement profiles
      (Embedded.collect (Rule.inOrder s.rules) s.fallback profiles) = .ok (some ⟨c, a⟩) := by
    rw [Rule.statement_eq _ _ hCondition, hAction]
    rfl
  refine ⟨List.mem_filter.mpr ⟨hMem, hCompiled⟩, hScript, ⟨_, hStatement, hDelegates⟩, ?_⟩
  intro settings text hText
  obtain ⟨script, hCompile, hRender⟩ := exists_script_of_compile hText
  refine ⟨script, hCompile, hRender, fun i hAt => ?_⟩
  obtain ⟨st, hPlace, hSame⟩ := exists_statement_of_compiled hCompile hAt
  rw [(of_script hCompile).1] at hSame ⊢
  rw [hStatement, Except.ok.injEq, Option.some.injEq] at hSame
  subst hSame
  exact ⟨_, hPlace, hDelegates⟩

theorem passes_of_errors {p : Profile} {w : Workplace}
    (h : (((p.validate w).run.run .plain).1.map Report.errors).toOption = some []) : p.Passes w := by
  match hRun : (p.validate w).run.run .plain with
  | (.ok report, after) =>
      rw [hRun] at h
      exact ⟨_, _, report, hRun, Option.some.inj h⟩
  | (.error fault, after) =>
      rw [hRun] at h
      cases h

/-- Scripts are judged by their structure here. -/
def scanning : Workplace := ⟨{ Settings.standard with runtimeCheck := .bool false }, none⟩

def carrying (source : String) : Profile :=
  { scripted with color := some "#3b82f6", script := some ⟨none, some source, false⟩ }

/-- A script without a body, one with a brace in a text, and one with a parameter whose name is not
made of letters, digits and underscores. -/
def bodyless : List String := [
  "function FindProxyForURL(url, host) \x7b\x7d",
  "function FindProxyForURL(url, host) \x7b var open = \"\x7b\"; return \"PROXY p:1\"; \x7d",
  "function FindProxyForURL($url, host) \x7b return \"PROXY p:1\"; \x7d"]

/-- A rule set with one rule, whose route leads to the script of a profile. -/
def toScript : RuleSet where
  rules := [⟨some "corp", some "*.corp", some "wildcard", true, 0, ⟨some "existing", none, some "p"⟩⟩]
  fallback := ⟨some "direct", none, none⟩

/-- A script with nested braces, and with other brackets in a comment. -/
def nestedSource : String :=
  "// answers ( [\nfunction FindProxyForURL(url, host) \x7b if (host) \x7b return \"PROXY p:1\"; " ++
    "\x7d return \"DIRECT\"; \x7d"

end RuleSet

end ProxyRouting
