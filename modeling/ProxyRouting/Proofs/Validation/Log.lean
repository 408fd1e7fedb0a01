import ProxyRouting.Proofs.Journal
import ProxyRouting.Validation.Profile

/-! What validations leave in a journal. A validation records what the analysis of a script finds,
what is wrong with the pattern of each rule, and at the end its own failure, in this order and each
in an entry of its own; it records nothing else. One validation after another, the journal has the
last entries of them all. -/
namespace ProxyRouting

/-- What a second step does, after a first one that has a result. -/
theorem Work.run_bind_of_ok {α β : Type} {first : Work α} {next : α → Work β} {desk between : Desk}
    {a : α} (h : first.run.run desk = (.ok a, between)) :
    (first >>= next).run.run desk = (next a).run.run between := by
  rw [ExceptT.run_bind, StateT.run_bind, h]
  rfl

theorem Work.eq_of_pure {α : Type} {a b : α} {desk after : Desk}
    (h : (pure a : Work α).run.run desk = (.ok b, after)) : a = b ∧ desk = after :=
  ⟨Except.ok.inj (congrArg Prod.fst h), congrArg Prod.snd h⟩

/-- One finding with all messages, if there is a message. -/
def Finding.ofMessages (category : Category) (severity : Severity) (message : String)
    (messages : List String) (context : Doc) : List Finding :=
  if messages = [] then []
  else [⟨category, severity, message, some ("; ".intercalate messages), context⟩]

namespace Journal

/-- A journal in which findings were recorded one after another. -/
def recordAll (j : Journal) (fs : List Finding) : Journal := fs.foldl (fun j f => (j.record f).2) j

theorem recordAll_append (j : Journal) (fs gs : List Finding) :
    j.recordAll (fs ++ gs) = (j.recordAll fs).recordAll gs := List.foldl_append

theorem entries_record (j : Journal) (f : Finding) :
    (j.record f).2.entries = (j.entries ++ [f]).rtake j.limit := by
  rw [record_eq]
  rfl

theorem history_all (j : Journal) : j.history none none = j.entries := by
  simp [history]

theorem limit_record (j : Journal) (f : Finding) : (j.record f).2.limit = j.limit := by
  rw [record_eq]
  rfl

/-- A journal without entries has the last findings that are recorded, as far as there is room. -/
theorem entries_recordAll {j : Journal} (h : j.entries = []) (fs : List Finding) :
    (j.recordAll fs).limit = j.limit ∧ (j.recordAll fs).entries = fs.rtake j.limit := by
  induction fs using List.reverseRecOn with
  | nil => exact ⟨rfl, by rw [List.rtake_nil]; exact h⟩
  | append_singleton fs f ih =>
      rw [recordAll_append]
      show ((j.recordAll fs).record f).2.limit = _ ∧ ((j.recordAll fs).record f).2.entries = _
      rw [limit_record, entries_record, ih.1, ih.2, rtake_append_rtake]
      exact ⟨rfl, rfl⟩

end Journal

namespace Desk

/-- A desk at which findings were recorded, and at which something is known of the runtime now. -/
def grown (d : Desk) (fs : List Finding) (c : Checker) : Desk :=
  ⟨c, d.journal.map fun j => j.recordAll fs⟩

theorem grown_nil (d : Desk) (c : Checker) : d.grown [] c = { d with checker := c } := by
  obtain ⟨checker, journal⟩ := d
  cases journal with
  | none => rfl
  | some j => rfl

theorem grown_grown (d : Desk) (fs gs : List Finding) (c e : Checker) :
    (d.grown fs c).grown gs e = d.grown (fs ++ gs) e := by
  simp [grown, Journal.recordAll_append, Function.comp_def]

variable {d after : Desk}

theorem eq_grown_of_note {f : Finding} {u : Unit} (h : (note f).run.run d = (.ok u, after)) :
    after = d.grown [f] d.checker := by
  rw [← show ((note f).run.run d).2 = after from congrArg Prod.snd h]
  obtain ⟨checker, journal⟩ := d
  cases journal with
  | none => rfl
  | some j => rfl

theorem eq_grown_of_forM_note {fs : List Finding} {u : Unit}
    (h : (fs.forM note).run.run d = (.ok u, after)) : after = d.grown fs d.checker := by
  induction fs generalizing d with
  | nil =>
      obtain ⟨-, rfl⟩ := Work.eq_of_pure h
      exact (d.grown_nil d.checker).symm
  | cons f fs ih =>
      obtain ⟨u, between, hFirst, hRest⟩ := Work.exists_of_bind h
      rw [ih hRest, eq_grown_of_note hFirst, grown_grown]
      rfl

theorem eq_grown_of_noteFailure {r : Report} {subject : String} {u : Unit}
    (h : (noteFailure r subject).run.run d = (.ok u, after)) :
    after = d.grown (Finding.ofMessages .profile .medium ("Validation of " ++ subject ++ " failed")
      r.errors (.object [])) d.checker := by
  unfold noteFailure at h
  split at h
  next hValid =>
    obtain ⟨-, rfl⟩ := Work.eq_of_pure h
    rw [Finding.ofMessages, if_pos (List.isEmpty_iff.mp hValid), grown_nil]
  next hValid =>
    rw [Finding.ofMessages, if_neg fun hErrors => hValid (List.isEmpty_iff.mpr hErrors)]
    exact eq_grown_of_note h

end Desk

namespace Analysis

/-- The entries about a script: one on its errors of syntax, and one on its critical constructs. -/
def log (a : Analysis) (source : String) : List Finding :=
  Finding.ofMessages .script .medium "PAC script has syntax errors" a.syntaxErrors
    (.object [("pac_source", .text source)]) ++
  Finding.ofMessages .script .high "PAC script uses dangerous functions"
    (a.critical.map Issue.message) (.object [("pac_source", .text source)])

theorem findings_eq_log (a : Analysis) (source : String) : a.findings source = a.log source := by
  simp only [findings, log, Finding.ofMessages, List.isEmpty_iff, List.map_eq_nil_iff]

end Analysis

namespace Workplace

variable (w : Workplace)

/-- What a runtime says about a script, and what is known of it then. -/
def heard (c : Checker) : Option (List String) × Checker :=
  if w.settings.asksRuntime then c.parse w.runtime else (none, c)

/-- The analysis of a script, and what is known of the runtime then. -/
def judge (c : Checker) (script : List Char) : Analysis × Checker :=
  if w.settings.maxScript.exceededBy script.length then (.oversized w.settings, c)
  else (.ofScript w.settings (w.heard c).1 script, (w.heard c).2)

/-- The entries about a script, if there is one, and what is known of the runtime then. -/
def scriptLog (c : Checker) (source : String) : Option String → List Finding × Checker
  | some text => ((w.judge c text.toList).1.log source, (w.judge c text.toList).2)
  | none => ([], c)

variable {w} {d after : Desk}

theorem eq_heard_of_said {words : Option (List String)}
    (h : w.said.run.run d = (.ok words, after)) :
    words = (w.heard d.checker).1 ∧ after = d.grown [] (w.heard d.checker).2 := by
  unfold said at h
  unfold heard
  split at h
  next hAsks =>
    obtain rfl : (d.checker.parse w.runtime).1 = words := Except.ok.inj (congrArg Prod.fst h)
    obtain rfl : { d with checker := (d.checker.parse w.runtime).2 } = after := congrArg Prod.snd h
    rw [if_pos hAsks]
    exact ⟨rfl, (d.grown_nil _).symm⟩
  next hAsks =>
    obtain ⟨rfl, rfl⟩ := Work.eq_of_pure h
    rw [if_neg hAsks]
    exact ⟨rfl, (d.grown_nil d.checker).symm⟩

/-- An analysis leaves its entries when it is recorded. -/
theorem eq_grown_of_findings {analysis a : Analysis} {source : String}
    (h : (do (analysis.findings source).forM Desk.note; return analysis : Work Analysis).run.run d =
      (.ok a, after)) :
    a = analysis ∧ after = d.grown (a.log source) d.checker := by
  obtain ⟨u, last, hNoted, hResult⟩ := Work.exists_of_bind h
  obtain ⟨rfl, rfl⟩ := Work.eq_of_pure hResult
  rw [Analysis.findings_eq_log] at hNoted
  exact ⟨rfl, Desk.eq_grown_of_forM_note hNoted⟩

theorem eq_judge_of_analyze {script : List Char} {source : String} {a : Analysis}
    (h : (w.analyze script source).run.run d = (.ok a, after)) :
    a = (w.judge d.checker script).1 ∧
      after = d.grown (a.log source) (w.judge d.checker script).2 := by
  unfold analyze at h
  dsimp only at h
  unfold judge
  split at h
  next hSize =>
    rw [if_pos hSize]
    obtain ⟨analysis, first, hAnalysis, hRest⟩ := Work.exists_of_bind h
    obtain ⟨rfl, rfl⟩ := Work.eq_of_pure hAnalysis
    exact eq_grown_of_findings hRest
  next hSize =>
    rw [if_neg hSize]
    obtain ⟨words, asked, hSaid, hJudged⟩ := Work.exists_of_bind h
    obtain ⟨rfl, rfl⟩ := eq_heard_of_said hSaid
    obtain ⟨analysis, first, hAnalysis, hRest⟩ := Work.exists_of_bind hJudged
    obtain ⟨rfl, rfl⟩ := Work.eq_of_pure hAnalysis
    obtain ⟨rfl, rfl⟩ := eq_grown_of_findings hRest
    rw [Desk.grown_grown]
    exact ⟨rfl, rfl⟩

end Workplace

namespace Rule

/-- The entry about the pattern of a rule, if something is wrong with it. -/
def log (r : Rule) : List Finding :=
  match patternProblem? r.pattern r.grammar with
  | .ok (some problem) =>
    [⟨.pattern, .low, problem.message, some ("rule " ++ Text.shown r.id), .object []⟩]
  | _ => []

variable {r : Rule} {d after : Desk} {report : Report}

theorem eq_grown_of_validatePattern (h : r.validatePattern.run.run d = (.ok report, after)) :
    after = d.grown r.log d.checker := by
  obtain ⟨problem, between, hProblem, hRest⟩ := Work.exists_of_bind h
  obtain rfl : d = between := congrArg Prod.snd hProblem
  have hPattern : patternProblem? r.pattern r.grammar = .ok problem := congrArg Prod.fst hProblem
  unfold log
  rw [hPattern]
  cases problem with
  | none =>
      obtain ⟨-, rfl⟩ := Work.eq_of_pure hRest
      exact (d.grown_nil d.checker).symm
  | some problem =>
      obtain ⟨u, last, hNoted, hReport⟩ := Work.exists_of_bind hRest
      obtain ⟨-, rfl⟩ := Work.eq_of_pure hReport
      exact Desk.eq_grown_of_note hNoted

theorem eq_grown_of_validate {profiles : List Profile}
    (h : (r.validate profiles).run.run d = (.ok report, after)) :
    after = d.grown r.log d.checker := by
  obtain ⟨pattern, between, hPattern, hRest⟩ := Work.exists_of_bind h
  obtain ⟨route, last, hRoute, hReport⟩ := Work.exists_of_bind hRest
  obtain rfl : between = last := congrArg Prod.snd hRoute
  obtain ⟨-, rfl⟩ := Work.eq_of_pure hReport
  exact eq_grown_of_validatePattern hPattern

end Rule

namespace RuleSet

variable {d after : Desk} {profiles : List Profile} {report : Report}

/-- Rules leave their entries in their order. -/
theorem eq_grown_of_validateRules {number : Nat} {rules : List Rule}
    (h : (validateRules profiles number rules).run.run d = (.ok report, after)) :
    after = d.grown (rules.flatMap Rule.log) d.checker := by
  induction rules generalizing number d report with
  | nil =>
      obtain ⟨-, rfl⟩ := Work.eq_of_pure h
      exact (d.grown_nil d.checker).symm
  | cons r rest ih =>
      obtain ⟨first, between, hFirst, hRest⟩ := Work.exists_of_bind h
      obtain ⟨others, last, hOthers, hReport⟩ := Work.exists_of_bind hRest
      obtain ⟨-, rfl⟩ := Work.eq_of_pure hReport
      rw [ih hOthers, Rule.eq_grown_of_validate hFirst, Desk.grown_grown, List.flatMap_cons]
      rfl

end RuleSet

namespace ScriptSource

variable {w : Workplace} {d after : Desk} {report : Report}

theorem eq_grown_of_validate {s : ScriptSource} {name : Option String}
    (h : (s.validate w name).run.run d = (.ok report, after)) :
    after = d.grown (w.scriptLog d.checker ("proxy '" ++ Text.shown name ++ "'")
        (if Text.isFilled s.data then s.data else none)).1
      (w.scriptLog d.checker ("proxy '" ++ Text.shown name ++ "'")
        (if Text.isFilled s.data then s.data else none)).2 := by
  unfold ScriptSource.validate at h
  cases hData : s.data with
  | none =>
      rw [hData] at h
      obtain rfl : d = after := by
        split at h <;> exact congrArg Prod.snd h
      exact (d.grown_nil d.checker).symm
  | some text =>
      rw [hData] at h
      split
      next hFilled =>
        simp only [hFilled, Bool.not_true, Bool.and_false, Bool.false_eq_true, if_false,
          if_true] at h
        obtain ⟨a, last, hAnalysis, hResult⟩ := Work.exists_of_bind h
        obtain ⟨-, rfl⟩ := Work.eq_of_pure hResult
        obtain ⟨rfl, hLast⟩ := Workplace.eq_judge_of_analyze hAnalysis
        exact hLast
      next hFilled =>
        rw [if_neg hFilled] at h
        obtain rfl : d = after := by
          split at h <;> exact congrArg Prod.snd h
        exact (d.grown_nil d.checker).symm

end ScriptSource

namespace Profile

variable {w : Workplace} {d after : Desk} {report : Report}

/-- The script that a validation analyses. -/
def analysed? (p : Profile) : Option String :=
  if p.mode? = some .script then p.scriptText? else none

/-- How failures call a profile. -/
def subject (p : Profile) : String := "proxy '" ++ Text.shown p.name ++ "'"

theorem eq_grown_of_validateMode {p : Profile}
    (h : (p.validateMode w).run.run d = (.ok report, after)) :
    after = d.grown (w.scriptLog d.checker p.subject p.analysed?).1
      (w.scriptLog d.checker p.subject p.analysed?).2 := by
  by_cases hMode : p.mode? = some .script
  · rw [analysed?, if_pos hMode, scriptText?]
    rw [validateMode, hMode] at h
    cases hSource : p.script with
    | none =>
        rw [hSource] at h
        obtain ⟨-, rfl⟩ := Work.eq_of_pure h
        exact (d.grown_nil d.checker).symm
    | some source =>
        rw [hSource] at h
        exact ScriptSource.eq_grown_of_validate h
  · rw [analysed?, if_neg hMode]
    obtain rfl : d = after := by
      unfold validateMode at h
      split at h
      · split at h <;> exact congrArg Prod.snd h
      next hScript => exact absurd hScript hMode
      · exact congrArg Prod.snd h
      · exact congrArg Prod.snd h
    exact (d.grown_nil d.checker).symm

end Profile

/-- Something that is asked about a profile or about a rule set. -/
inductive Inquiry where
  /-- What is to be said of a profile. -/
  | profile (p : Profile)
  /-- Whether a profile has no errors. -/
  | isValid (p : Profile)
  /-- What is to be said of a rule set, among the profiles that there are. -/
  | ruleSet (s : RuleSet) (profiles : List Profile)

namespace Inquiry

/-- What is answered. -/
inductive Answer where
  | report (r : Report)
  | verdict (valid : Bool)
deriving DecidableEq, Repr

def answer (w : Workplace) : Inquiry → Work Answer
  | profile p => do return .report (← p.validate w)
  | isValid p => do return .verdict (← p.isValid w)
  | ruleSet s profiles => do return .report (← s.validate profiles)

/-- The report behind the answer. -/
def report (w : Workplace) : Inquiry → Work Report
  | profile p | isValid p => p.validate w
  | ruleSet s profiles => s.validate profiles

/-- The answer that a report gives. -/
def answerOf : Inquiry → Report → Answer
  | isValid _, r => .verdict r.isValid
  | profile _, r | ruleSet .., r => .report r

/-- How failures call what an inquiry is about. -/
def subject : Inquiry → String
  | profile p | isValid p => p.subject
  | ruleSet .. => "Auto-Proxy rules"

/-- The script that is analysed. -/
def script? : Inquiry → Option String
  | profile p | isValid p => p.analysed?
  | ruleSet .. => none

/-- The rules whose patterns are checked. -/
def rules : Inquiry → List Rule
  | profile _ | isValid _ => []
  | ruleSet s _ => s.rules

variable (w : Workplace) (c : Checker) (i : Inquiry)

/-- The entries of an inquiry with a given report: on the script, on each pattern, and on the
errors of the report. -/
def log (r : Report) : List Finding :=
  (w.scriptLog c i.subject i.script?).1 ++ i.rules.flatMap Rule.log ++
    Finding.ofMessages .profile .medium ("Validation of " ++ i.subject ++ " failed") r.errors
      (.object [])

/-- The entries of inquiries, one inquiry after another. -/
def logAll : Checker → List (Inquiry × Report) → List Finding
  | _, [] => []
  | c, (i, r) :: rest =>
    i.log w c r ++ logAll (w.scriptLog c i.subject i.script?).2 rest

variable {w} {c} {i} {d after : Desk} {r : Report}

theorem eq_grown_of_validate {p : Profile} (h : (p.validate w).run.run d = (.ok r, after)) :
    after = d.grown ((profile p).log w d.checker r)
      (w.scriptLog d.checker p.subject p.analysed?).2 := by
  obtain ⟨mode, between, hMode, hRest⟩ := Work.exists_of_bind h
  obtain ⟨u, last, hNoted, hReport⟩ := Work.exists_of_bind hRest
  obtain ⟨rfl, rfl⟩ := Work.eq_of_pure hReport
  rw [Desk.eq_grown_of_noteFailure hNoted, Profile.eq_grown_of_validateMode hMode,
    Desk.grown_grown]
  simp only [log, rules, List.flatMap_nil, List.append_nil]
  rfl

theorem eq_grown_of_validateRuleSet {s : RuleSet} {profiles : List Profile}
    (h : (s.validate profiles).run.run d = (.ok r, after)) :
    after = d.grown ((ruleSet s profiles).log w d.checker r) d.checker := by
  obtain ⟨first, between, hRules, hRest⟩ := Work.exists_of_bind h
  obtain ⟨fallback, last, hFallback, hNoted⟩ := Work.exists_of_bind hRest
  obtain ⟨u, final, hFinal, hReport⟩ := Work.exists_of_bind hNoted
  obtain rfl : between = last := congrArg Prod.snd hFallback
  obtain ⟨rfl, rfl⟩ := Work.eq_of_pure hReport
  rw [Desk.eq_grown_of_noteFailure hFinal, RuleSet.eq_grown_of_validateRules hRules,
    Desk.grown_grown]
  rfl

/-- An inquiry leaves its entries, and what its script makes known of the runtime. -/
theorem eq_grown_of_report (h : (i.report w).run.run d = (.ok r, after)) :
    after = d.grown (i.log w d.checker r) (w.scriptLog d.checker i.subject i.script?).2 := by
  cases i with
  | profile p => exact eq_grown_of_validate h
  | isValid p => exact eq_grown_of_validate h
  | ruleSet s profiles => exact eq_grown_of_validateRuleSet h

/-- Behind every answer is a report. -/
theorem exists_report_of_answer {a : Answer} (h : (i.answer w).run.run d = (.ok a, after)) :
    ∃ r, (i.report w).run.run d = (.ok r, after) ∧ a = i.answerOf r := by
  cases i with
  | profile p =>
      obtain ⟨r, last, hReport, hAnswer⟩ := Work.exists_of_bind h
      obtain ⟨rfl, rfl⟩ := Work.eq_of_pure hAnswer
      exact ⟨r, hReport, rfl⟩
  | isValid p =>
      obtain ⟨valid, last, hValid, hAnswer⟩ := Work.exists_of_bind h
      obtain ⟨rfl, rfl⟩ := Work.eq_of_pure hAnswer
      obtain ⟨r, between, hReport, hVerdict⟩ := Work.exists_of_bind hValid
      obtain ⟨rfl, rfl⟩ := Work.eq_of_pure hVerdict
      exact ⟨r, hReport, rfl⟩
  | ruleSet s profiles =>
      obtain ⟨r, last, hReport, hAnswer⟩ := Work.exists_of_bind h
      obtain ⟨rfl, rfl⟩ := Work.eq_of_pure hAnswer
      exact ⟨r, hReport, rfl⟩

/-- Behind the answers to inquiries are reports, and all entries are left, in order. -/
theorem eq_grown_of_answers {inquiries : List Inquiry} {answers : List Answer}
    (h : (inquiries.mapM (answer w)).run.run d = (.ok answers, after)) :
    ∃ reports, (inquiries.mapM (report w)).run.run d = (.ok reports, after) ∧
      answers = List.zipWith answerOf inquiries reports ∧
      ∃ c, after = d.grown (logAll w d.checker (inquiries.zip reports)) c := by
  induction inquiries generalizing d answers with
  | nil =>
      obtain ⟨rfl, rfl⟩ := Work.eq_of_pure h
      exact ⟨[], rfl, rfl, d.checker, (d.grown_nil d.checker).symm⟩
  | cons i rest ih =>
      rw [List.mapM_cons] at h
      obtain ⟨a, between, hFirst, hRest⟩ := Work.exists_of_bind h
      obtain ⟨others, last, hOthers, hResult⟩ := Work.exists_of_bind hRest
      obtain ⟨rfl, rfl⟩ := Work.eq_of_pure hResult
      obtain ⟨r, hReport, rfl⟩ := exists_report_of_answer hFirst
      obtain ⟨reports, hReports, rfl, c, rfl⟩ := ih hOthers
      refine ⟨r :: reports, ?_, rfl, c, ?_⟩
      · rw [List.mapM_cons, Work.run_bind_of_ok hReport, Work.run_bind_of_ok hReports]
        rfl
      · rw [eq_grown_of_report hReport, Desk.grown_grown]
        rfl

/-- The journal of a session agrees with its answers. After inquiries that all have an answer, it
has the last entries of them all, as many as it has room for, and its numbers are those of the
entries that it has. -/
theorem history_of_answers {limit : Int} (hLimit : 1 ≤ limit) (listener : Option Listener)
    (w : Workplace) (inquiries : List Inquiry) :
    ∃ j, Journal.create limit listener = .ok j ∧ ∀ answers after,
      (inquiries.mapM (answer w)).run.run ⟨.initial, some j⟩ = (.ok answers, after) →
      ∃ reports kept,
        (inquiries.mapM (report w)).run.run ⟨.initial, some j⟩ = (.ok reports, after) ∧
        answers = List.zipWith answerOf inquiries reports ∧
        after.journal = some kept ∧
        kept.history none none =
          (logAll w .initial (inquiries.zip reports)).rtake limit.toNat ∧
        Journal.Tallies kept.counts (kept.history none none) := by
  obtain ⟨j, hCreate, hHolds⟩ := Journal.holds_create hLimit listener
  refine ⟨j, hCreate, fun answers after hRun => ?_⟩
  have hEmpty : j.entries = [] := by
    rw [hHolds.entries_eq]
    exact List.rtake_nil ..
  obtain ⟨reports, hReports, hAnswers, c, rfl⟩ := eq_grown_of_answers hRun
  have hEntries := (Journal.entries_recordAll hEmpty
    (logAll w .initial (inquiries.zip reports))).2
  refine ⟨reports, _, hReports, hAnswers, rfl, ?_, ?_⟩
  · rw [Journal.history_all, hEntries, hHolds.limit_eq]
  · rw [Journal.history_all]
    exact Journal.tallies_counts _

/-- Settings under which a runtime is asked, and a runtime that reports an error, then fails. -/
def scolding : Workplace :=
  ⟨.standard, .ofList [.reports "SyntaxError" "Unexpected token", .fails]⟩

/-- A listener that objects to nothing. -/
def patient : Listener := ⟨fun _ _ => none⟩

/-- A rule set with a pattern of blanks, a profile whose script calls `eval`, and the question of
whether that profile is valid. -/
def mixed : List Inquiry :=
  let evaluating : Profile :=
    ⟨some "p", some "Corp", some "#3b82f6", some "pac_script",
      some ⟨none, some "function FindProxyForURL(url, host) \x7b return eval(url); \x7d", false⟩,
      none, false, false, none⟩
  [.ruleSet ⟨[⟨some "r", some " ", some "wildcard", true, 0, ⟨some "direct", none, none⟩⟩],
      ⟨some "direct", none, none⟩⟩ [evaluating],
    .profile evaluating, .isValid evaluating]

/-- Of seven entries the last six are there. The first one is gone, and the other one of the same
inquiry is not. -/
theorem history_of_answers_mixed :
    (1 : Int) ≤ 6 ∧ ∃ j answers after reports kept,
      Journal.create 6 (some patient) = .ok j ∧
      (mixed.mapM (answer scolding)).run.run ⟨.initial, some j⟩ = (.ok answers, after) ∧
      after.journal = some kept ∧
      kept.history none none = (logAll scolding .initial (mixed.zip reports)).rtake 6 ∧
      (kept.history none none).map (fun f => (f.category, f.severity)) =
        [(.profile, .medium), (.script, .medium), (.script, .high), (.profile, .medium),
          (.script, .high), (.profile, .medium)] := by
  have hLimit : (1 : Int) ≤ 6 := by decide
  obtain ⟨j, hCreate, hHistory⟩ := history_of_answers hLimit (some patient) scolding mixed
  obtain rfl : ⟨6, some patient, [], 0⟩ = j := Except.ok.inj hCreate
  have hOk : ((mixed.mapM (answer scolding)).run.run
      ⟨.initial, some ⟨6, some patient, [], 0⟩⟩).1.isOk = true := by
    decide +kernel
  have hKinds : ((mixed.mapM (answer scolding)).run.run
      ⟨.initial, some ⟨6, some patient, [], 0⟩⟩).2.journal.map
        (fun kept => (kept.history none none).map fun f => (f.category, f.severity)) =
      some [(.profile, .medium), (.script, .medium), (.script, .high), (.profile, .medium),
        (.script, .high), (.profile, .medium)] := by
    decide +kernel
  match hRun : (mixed.mapM (answer scolding)).run.run
      ⟨.initial, some ⟨6, some patient, [], 0⟩⟩ with
  | (.ok answers, after) =>
      obtain ⟨reports, kept, -, -, hKept, hWindow, -⟩ := hHistory answers after hRun
      rw [hRun, hKept] at hKinds
      exact ⟨hLimit, _, answers, after, reports, kept, hCreate, hRun, hKept, hWindow,
        Option.some.inj hKinds⟩
  | (.error fault, after) =>
      rw [hRun] at hOk
      cases hOk

end Inquiry

end ProxyRouting
