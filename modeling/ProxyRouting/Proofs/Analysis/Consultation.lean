import ProxyRouting.Proofs.Work

/-! Examinations of scripts, one after another. The runtime is asked once about each script that is
looked at, from the first of its outcomes on, until it vanishes; where it has no say, the structure
of the script decides, as if no runtime were ever to be asked. -/
namespace ProxyRouting

/-- The outcome that is due when a runtime has been asked `asked` times: there is none if no runtime
is to be asked, if there is no runtime, and if it has vanished. -/
def Workplace.due? (w : Workplace) (asked : Nat) : Option Outcome :=
  if w.settings.asksRuntime then
    w.runtime.bind fun outcomes =>
      if ∀ i < asked, outcomes i ≠ .vanishes then some (outcomes asked) else none
  else none

/-- A script that is examined: analyzed in full, or checked for its syntax only. -/
inductive Examination where
  | analysis (script : List Char) (source : String)
  | syntaxCheck (script : List Char)

namespace Examination

/-- What is found. -/
inductive Result where
  | analysis (a : Analysis)
  | problems (messages : List String)

/-- The errors of syntax among what is found. -/
def Result.syntaxErrors : Result → List String
  | analysis a => a.syntaxErrors
  | problems messages => messages

def script : Examination → List Char
  | analysis script _ | syntaxCheck script => script

def answer (w : Workplace) : Examination → Work Result
  | analysis script source => do return .analysis (← w.analyze script source)
  | syntaxCheck script => do return .problems (← w.checkSyntax script)

/-- One examination after another at a desk. A listener that objects spoils a result, and the next
examination is made all the same. -/
def answers (w : Workplace) (es : List Examination) : StateM Desk (List (Except Fault Result)) :=
  es.mapM fun e => (e.answer w).run

/-- Whether a script is rejected for its size. The check of the syntax alone knows no limit. -/
def isOversized (settings : Settings) : Examination → Bool
  | analysis script _ => settings.maxScript.exceededBy script.length
  | syntaxCheck _ => false

/-- What a runtime says about the script, and what is known of it then. -/
def heard (w : Workplace) (c : Checker) (e : Examination) : Option (List String) × Checker :=
  if e.isOversized w.settings then (none, c) else w.heard c

/-- What is left to do once a runtime has said something about the script, or nothing. -/
def conclude (settings : Settings) (words : Option (List String)) : Examination → Work Result
  | analysis script source => do
    let a :=
      if settings.maxScript.exceededBy script.length then .oversized settings
      else .ofScript settings words script
    (a.findings source).forM Desk.note
    return .analysis a
  | syntaxCheck script => return .problems (syntaxProblems words script)

end Examination

namespace Workplace

variable {w : Workplace}

theorem run_said (w : Workplace) (d : Desk) :
    w.said.run.run d = (.ok (w.heard d.checker).1, ⟨(w.heard d.checker).2, d.journal⟩) := by
  unfold said heard
  split
  · rfl
  · rfl

/-- Whether a second workplace is like a first one but for the runtime, which is not to be asked
there. -/
structure IsSilenced (u w : Workplace) : Prop where
  asksRuntime : u.settings.asksRuntime = false
  maxScript : u.settings.maxScript = w.settings.maxScript
  largeScript : u.settings.largeScript = w.settings.largeScript

theorem due?_of_unasked (h : w.settings.asksRuntime = false) (asked : Nat) :
    w.due? asked = none := by
  simp [due?, h]

theorem due?_of_absent (h : w.runtime = none) (asked : Nat) : w.due? asked = none := by
  simp [due?, h]

theorem due?_of_vanished {outcomes : Nat → Outcome} (hRuntime : w.runtime = some outcomes)
    {asked : Nat} (h : ∃ i < asked, outcomes i = .vanishes) : w.due? asked = none := by
  obtain ⟨i, hi, hVanishes⟩ := h
  have hNot : ¬ ∀ i < asked, outcomes i ≠ .vanishes := fun hLasts => hLasts i hi hVanishes
  simp only [due?, hRuntime, Option.bind_some, if_neg hNot, ite_self]

theorem due?_of_lasting (hAsks : w.settings.asksRuntime = true) {outcomes : Nat → Outcome}
    (hRuntime : w.runtime = some outcomes) {asked : Nat}
    (h : ¬ ∃ i < asked, outcomes i = .vanishes) : w.due? asked = some (outcomes asked) := by
  have hLasts : ∀ i < asked, outcomes i ≠ .vanishes := fun i hi hVanishes => h ⟨i, hi, hVanishes⟩
  simp only [due?, hAsks, hRuntime, Option.bind_some, if_true, if_pos hLasts]

end Workplace

namespace Checker

/-- What is known of the runtime of a workplace fits what it did: it is given up only when it is not
there or vanished when it was asked. -/
structure Tracks (w : Workplace) (c : Checker) : Prop where
  unasked : w.settings.asksRuntime = false → c = .initial
  absent : w.settings.asksRuntime = true → w.runtime = none → c.state ≠ .found
  present : w.settings.asksRuntime = true → ∀ outcomes, w.runtime = some outcomes →
    (c.state = .gone ↔ ∃ i < c.calls, outcomes i = .vanishes)

theorem tracks_initial (w : Workplace) : Tracks w .initial := by
  refine ⟨fun _ => rfl, fun _ _ => by decide, fun _ outcomes _ => ?_⟩
  simp [initial]

/-- What comes of a question about a script when a runtime has been asked `asked` times: if an outcome
is due it is used up, and what is said is what it says. -/
structure Heeds (w : Workplace) (asked : Nat) (heard : Option (List String) × Checker) : Prop where
  words : heard.1 = (w.due? asked).bind verdict?
  calls : heard.2.calls = asked + if (w.due? asked).isSome then 1 else 0
  tracks : heard.2.Tracks w

variable {w : Workplace} {c : Checker}

/-- Where no outcome is due, the runtime is not asked. -/
theorem heeds_of_none (h : w.due? c.calls = none) (hTracks : c.Tracks w) :
    Heeds w c.calls (none, c) := by
  refine ⟨?_, ?_, hTracks⟩
  · rw [h]; rfl
  · rw [h]; rfl

theorem tracks_of_absent (hAsks : w.settings.asksRuntime = true) (hRuntime : w.runtime = none)
    (h : c.state ≠ .found) : c.Tracks w := by
  refine ⟨fun hNot => ?_, fun _ _ => h, fun _ outcomes hSome => ?_⟩
  · rw [hAsks] at hNot
    cases hNot
  · rw [hRuntime] at hSome
    cases hSome

/-- A runtime that has not vanished is asked, and given up if it vanishes now. -/
theorem heeds_ask (hAsks : w.settings.asksRuntime = true) {outcomes : Nat → Outcome}
    (hRuntime : w.runtime = some outcomes) (h : ¬ ∃ i < c.calls, outcomes i = .vanishes) :
    Heeds w c.calls (c.ask outcomes) := by
  have hDue := Workplace.due?_of_lasting hAsks hRuntime h
  refine ⟨?_, ?_, fun hNot => ?_, fun _ hNone => ?_, fun _ others hOthers => ?_⟩
  · rw [hDue]; rfl
  · rw [hDue]; rfl
  · rw [hAsks] at hNot
    cases hNot
  · rw [hRuntime] at hNone
    cases hNone
  · obtain rfl : outcomes = others := Option.some.inj (hRuntime.symm.trans hOthers)
    have hState : (c.ask outcomes).2.state = .gone ↔ outcomes c.calls = .vanishes := by
      simp only [ask]
      split <;> simp_all
    rw [hState]
    constructor
    · exact fun hVanishes => ⟨c.calls, Nat.lt_succ_self _, hVanishes⟩
    · rintro ⟨i, hi, hVanishes⟩
      rcases Nat.lt_succ_iff_lt_or_eq.mp hi with hEarlier | rfl
      · exact absurd ⟨i, hEarlier, hVanishes⟩ h
      · exact hVanishes

theorem Tracks.heeds (h : c.Tracks w) : Heeds w c.calls (w.heard c) := by
  unfold Workplace.heard
  split
  next hAsks =>
    cases hRuntime : w.runtime with
    | none =>
        have hDue := Workplace.due?_of_absent hRuntime c.calls
        have hFound := h.absent hAsks hRuntime
        obtain ⟨state, lookups, calls⟩ := c
        cases state with
        | unsought =>
            have hGone : Tracks w ⟨.gone, lookups + 1, calls⟩ :=
              tracks_of_absent hAsks hRuntime (by simp)
            exact heeds_of_none (c := ⟨.gone, lookups + 1, calls⟩) hDue hGone
        | found => exact absurd rfl hFound
        | gone => exact heeds_of_none hDue h
    | some outcomes =>
        have hState := h.present hAsks outcomes hRuntime
        obtain ⟨state, lookups, calls⟩ := c
        cases state with
        | unsought =>
            exact heeds_ask (c := ⟨.unsought, lookups + 1, calls⟩) hAsks hRuntime
              fun hVanished => absurd (hState.mpr hVanished) (by simp)
        | found =>
            exact heeds_ask hAsks hRuntime
              fun hVanished => absurd (hState.mpr hVanished) (by simp)
        | gone => exact heeds_of_none (Workplace.due?_of_vanished hRuntime (hState.mp rfl)) h
  next hAsks =>
    exact heeds_of_none (Workplace.due?_of_unasked (by simpa using hAsks) _) h

end Checker

namespace Examination

variable {w : Workplace} {d : Desk} {e : Examination}

theorem run_answer (w : Workplace) (d : Desk) (e : Examination) :
    (e.answer w).run.run d =
      (e.conclude w.settings (e.heard w d.checker).1).run.run
        ⟨(e.heard w d.checker).2, d.journal⟩ := by
  cases e with
  | analysis script source =>
      simp only [answer, Workplace.analyze, conclude, heard, isOversized]
      split
      next hSize => simp only [hSize, if_true, pure_bind, bind_assoc]
      next hSize =>
        simp only [hSize, if_false, pure_bind, bind_assoc, Bool.false_eq_true]
        rw [Work.run_bind_of_ok (w.run_said d)]
  | syntaxCheck script =>
      simp only [answer, Workplace.checkSyntax, conclude, heard, isOversized, bind_assoc, pure_bind,
        Bool.false_eq_true, if_false]
      rw [Work.run_bind_of_ok (w.run_said d)]

theorem isApart_conclude (settings : Settings) (words : Option (List String)) (e : Examination) :
    (e.conclude settings words).IsApart := by
  cases e with
  | analysis script source =>
      exact (Desk.isApart_forM_note _).bind fun _ => Work.isApart_pure _
  | syntaxCheck script => exact Work.isApart_pure _

theorem isAnswered_answer (w : Workplace) (e : Examination) : (e.answer w).IsAnswered := by
  cases e with
  | analysis script source =>
      exact (w.isAnswered_analyze script source).bind fun _ => Work.isAnswered_pure _
  | syntaxCheck script =>
      exact (w.isAnswered_said.bind fun _ => Work.isAnswered_pure _).bind fun _ =>
        Work.isAnswered_pure _

/-- What is said about a script is all that matters of the runtime. -/
theorem run_answer_eq (w : Workplace) (d : Desk) (e : Examination) :
    (e.answer w).run.run d =
      (((e.conclude w.settings (e.heard w d.checker).1).run.run d).1,
        ⟨(e.heard w d.checker).2,
          ((e.conclude w.settings (e.heard w d.checker).1).run.run d).2.journal⟩) := by
  rw [run_answer]
  exact isApart_conclude w.settings _ e d _

theorem conclude_eq_of_isSilenced {u : Workplace} (h : u.IsSilenced w)
    (words : Option (List String)) (e : Examination) :
    e.conclude u.settings words = e.conclude w.settings words := by
  cases e with
  | analysis script source =>
      have hOversized : Analysis.oversized u.settings = .oversized w.settings := by
        simp only [Analysis.oversized, h.maxScript]
      have hScript : Analysis.ofScript u.settings words script =
          .ofScript w.settings words script := by
        simp only [Analysis.ofScript, mistakes, h.largeScript]
      simp only [conclude, h.maxScript, hOversized, hScript]
  | syntaxCheck script => rfl

/-- What is found when something was said about a script that is looked at. -/
theorem syntaxErrors_of_conclude {settings : Settings} {words : List String}
    (hSize : e.isOversized settings = false) {r : Result} {after : Desk}
    (h : (e.conclude settings (some words)).run.run d = (.ok r, after)) :
    r.syntaxErrors = words ++ signatureProblems e.script := by
  cases e with
  | analysis script source =>
      obtain ⟨u, between, -, hResult⟩ := Work.exists_of_bind h
      obtain ⟨rfl, -⟩ := Work.eq_of_pure hResult
      simp only [isOversized] at hSize
      simp only [Result.syntaxErrors, hSize, Bool.false_eq_true, if_false]
      rfl
  | syntaxCheck script =>
      obtain ⟨rfl, -⟩ := Work.eq_of_pure h
      rfl

/-- What an examination does to the runtime, and what it answers. -/
structure IsServed (w : Workplace) (e : Examination) (before after : Desk)
    (result : Except Fault Result) : Prop where
  /-- Without being told so, nobody looks for a runtime. -/
  unasked : w.settings.asksRuntime = false → after.checker = before.checker
  oversized : e.isOversized w.settings = true → after.checker = before.checker
  /-- An outcome that is due is used up by the script that is looked at. -/
  due : e.isOversized w.settings = false → (w.due? before.checker.calls).isSome →
    after.checker.calls = before.checker.calls + 1
  notDue : w.due? before.checker.calls = none → after.checker.calls = before.checker.calls
  /-- Without a say of the runtime the answer is the one that is given where it is not to be asked. -/
  silent : (∀ o ∈ w.due? before.checker.calls, o = .fails ∨ o = .vanishes) →
    ∀ u : Workplace, u.IsSilenced w → ∀ c,
      (e.answer u).run.run ⟨c, before.journal⟩ = (result, ⟨c, after.journal⟩)
  parses : e.isOversized w.settings = false → w.due? before.checker.calls = some .parses →
    ∀ r, result = .ok r → r.syntaxErrors = signatureProblems e.script
  reports : e.isOversized w.settings = false →
    ∀ name message, w.due? before.checker.calls = some (.reports name message) →
    ∀ r, result = .ok r → r.syntaxErrors =
      ((if name = "SyntaxError" then "Syntax error: " else "Error: ") ++ message) ::
        signatureProblems e.script

theorem heard_of_unasked (h : w.settings.asksRuntime = false) (c : Checker) (e : Examination) :
    e.heard w c = (none, c) := by
  simp [heard, Workplace.heard, h]

/-- What is said about a script that is looked at is what the outcome says that is due. -/
theorem heard_eq (h : d.checker.Tracks w) (hSize : e.isOversized w.settings = false) :
    (e.heard w d.checker).1 = (w.due? d.checker.calls).bind Checker.verdict? := by
  rw [heard, if_neg (by simp [hSize]), h.heeds.words]

theorem heard_of_silent (h : d.checker.Tracks w)
    (hDue : ∀ o ∈ w.due? d.checker.calls, o = .fails ∨ o = .vanishes) :
    (e.heard w d.checker).1 = none := by
  cases hSize : e.isOversized w.settings with
  | true => rw [heard, if_pos hSize]
  | false =>
      rw [heard_eq h hSize]
      cases hOutcome : w.due? d.checker.calls with
      | none => rfl
      | some o =>
          rcases hDue o hOutcome with rfl | rfl
          · rfl
          · rfl

/-- What is found when the outcome that is due says something. -/
theorem syntaxErrors_of_answer (h : d.checker.Tracks w) (hSize : e.isOversized w.settings = false)
    {words : List String} (hWords : (w.due? d.checker.calls).bind Checker.verdict? = some words)
    {r : Result} (hResult : ((e.answer w).run.run d).1 = .ok r) :
    r.syntaxErrors = words ++ signatureProblems e.script := by
  rw [run_answer, heard_eq h hSize, hWords] at hResult
  exact syntaxErrors_of_conclude hSize (Prod.ext hResult rfl)

/-- What is known of the runtime fits what it did, and an examination is served accordingly. -/
theorem isServed_answer (h : d.checker.Tracks w) (e : Examination) :
    IsServed w e d ((e.answer w).run.run d).2 ((e.answer w).run.run d).1 := by
  have hChecker : ((e.answer w).run.run d).2.checker = (e.heard w d.checker).2 := by
    rw [run_answer_eq]
  refine ⟨fun hAsks => ?_, fun hSize => ?_, fun hSize hDue => ?_, fun hDue => ?_,
    fun hDue u hSilenced c => ?_, fun hSize hDue r hResult => ?_,
    fun hSize name message hDue r hResult => ?_⟩
  · rw [hChecker, heard_of_unasked hAsks]
  · rw [hChecker, heard, if_pos hSize]
  · rw [hChecker, heard, if_neg (by simp [hSize]), h.heeds.calls, if_pos hDue]
  · rw [hChecker, heard]
    split
    · rfl
    · rw [h.heeds.calls, hDue]
      rfl
  · rw [run_answer_eq w d, heard_of_silent h hDue, run_answer, heard_of_unasked hSilenced.asksRuntime,
      conclude_eq_of_isSilenced hSilenced]
    exact isApart_conclude w.settings none e d c
  · exact syntaxErrors_of_answer h hSize (by rw [hDue]; rfl) hResult
  · exact syntaxErrors_of_answer h hSize (by rw [hDue]; rfl) hResult

theorem tracks_answer (h : d.checker.Tracks w) (e : Examination) :
    ((e.answer w).run.run d).2.checker.Tracks w := by
  rw [run_answer_eq, heard]
  split
  · exact h
  · exact h.heeds.tracks

theorem run_answers_cons (w : Workplace) (e : Examination) (es : List Examination) (d : Desk) :
    (answers w (e :: es)).run d =
      (((e.answer w).run.run d).1 :: ((answers w es).run ((e.answer w).run.run d).2).1,
        ((answers w es).run ((e.answer w).run.run d).2).2) := by
  simp only [answers, List.mapM_cons]
  rfl

theorem run_answers_append (w : Workplace) (es fs : List Examination) (d : Desk) :
    (answers w (es ++ fs)).run d =
      (((answers w es).run d).1 ++ ((answers w fs).run ((answers w es).run d).2).1,
        ((answers w fs).run ((answers w es).run d).2).2) := by
  simp only [answers, List.mapM_append]
  rfl

theorem length_answers (w : Workplace) (es : List Examination) (d : Desk) :
    ((answers w es).run d).1.length = es.length := by
  induction es generalizing d with
  | nil => rfl
  | cons e es ih => rw [run_answers_cons, List.length_cons, ih, List.length_cons]

/-- Through all examinations, what is known of the runtime fits what it did. -/
theorem tracks_answers (h : d.checker.Tracks w) (es : List Examination) :
    ((answers w es).run d).2.checker.Tracks w := by
  induction es generalizing d with
  | nil => exact h
  | cons e es ih =>
      rw [run_answers_cons]
      exact ih (tracks_answer h e)

theorem isQuiet_answers (h : d.IsQuiet) (es : List Examination) :
    ((answers w es).run d).2.IsQuiet := by
  induction es generalizing d with
  | nil => exact h
  | cons e es ih =>
      obtain ⟨r, after, hRun, hAfter⟩ := isAnswered_answer w e d h
      rw [run_answers_cons, hRun]
      exact ih hAfter

/-- Every examination of a session is served in its turn, from the first outcome of the runtime on,
and has a result unless a listener objects to what is recorded. -/
theorem isServed_of_answers (w : Workplace) (journal : Option Journal) (before : List Examination)
    (e : Examination) (rest : List Examination) :
    ∃ result,
      ((answers w (before ++ e :: rest)).run ⟨.initial, journal⟩).1[before.length]? = some result ∧
      IsServed w e ((answers w before).run ⟨.initial, journal⟩).2
        ((answers w (before ++ [e])).run ⟨.initial, journal⟩).2 result ∧
      (Desk.IsQuiet ⟨.initial, journal⟩ → ∃ r, result = .ok r) := by
  generalize hBetween : ((answers w before).run ⟨.initial, journal⟩).2 = between
  have hTracks : between.checker.Tracks w := by
    rw [← hBetween]
    exact tracks_answers (Checker.tracks_initial w) before
  refine ⟨((e.answer w).run.run between).1, ?_, ?_, fun hQuiet => ?_⟩
  · rw [run_answers_append, hBetween, run_answers_cons,
      List.getElem?_append_right (by rw [length_answers]), length_answers, Nat.sub_self]
    rfl
  · rw [run_answers_append, hBetween, run_answers_cons]
    exact isServed_answer hTracks e
  · have hStill : between.IsQuiet := by
      rw [← hBetween]
      exact isQuiet_answers hQuiet before
    obtain ⟨r, after, hRun, -⟩ := isAnswered_answer w e between hStill
    exact ⟨r, congrArg Prod.fst hRun⟩

/-- A runtime that fails, parses a script and vanishes, where no script may be longer than three
characters. -/
def flaky : Workplace where
  settings := { Settings.standard with largeScript := .whole 1, maxScript := .whole 3 }
  runtime := .ofList [.fails, .parses, .vanishes, .parses]

/-- A script with an open parenthesis that is checked again and again, with an analysis of a longer
one in between. -/
def insistent : List Examination :=
  [.syntaxCheck ['('], .syntaxCheck ['('], .analysis "((((".toList "inline", .syntaxCheck ['('],
    .syntaxCheck ['(']]

/-- The second check hides the parenthesis, because the runtime parses the script then. Three of the
five examinations use up an outcome. -/
theorem isServed_of_answers_flaky :
    (∃ r, ((answers flaky insistent).run .plain).1[1]? = some (.ok r) ∧
      r.syntaxErrors = signatureProblems ['(']) ∧
    ((answers flaky insistent).run .plain).2.checker = ⟨.gone, 1, 3⟩ := by
  obtain ⟨result, hAt, hServed, hResult⟩ :=
    isServed_of_answers flaky none (insistent.take 1) (.syntaxCheck ['(']) (insistent.drop 2)
  obtain ⟨r, rfl⟩ := hResult fun j hj => by cases hj
  have hDue : flaky.due? ((answers flaky (insistent.take 1)).run ⟨.initial, none⟩).2.checker.calls =
      some .parses := by decide +kernel
  exact ⟨⟨r, hAt, hServed.parses rfl hDue r rfl⟩, by decide +kernel⟩

end Examination

end ProxyRouting
