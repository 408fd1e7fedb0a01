import ProxyRouting.Proofs.Analysis.Phrase
import ProxyRouting.Proofs.Validation.Profile
import ProxyRouting.Proofs.Work

/-! Dangerous scripts. A script that can run text as code, by a call of `eval` or by a function that
is made anew, is never accepted: if it is small enough to be looked at the call is found, whatever a
runtime says about the script, and if it is not, its size is an error. -/
namespace ProxyRouting

/-- A script has a call of `eval`. Blanks may stand in front of the parenthesis. -/
def CallsEval (s : List Char) : Prop :=
  ∃ front gap rest, s = front ++ "eval".toList ++ gap ++ '(' :: rest ∧
    ∀ c ∈ gap, Text.isBlank c = true

/-- A script makes a function of a text. The two words stand apart, and blanks may stand in front of
the parenthesis. -/
def MakesFunction (s : List Char) : Prop :=
  ∃ front between gap rest,
    s = front ++ "new".toList ++ between ++ "Function".toList ++ gap ++ '(' :: rest ∧
    between ≠ [] ∧ (∀ c ∈ between, Text.isBlank c = true) ∧ ∀ c ∈ gap, Text.isBlank c = true

/-- A script can run text as code. -/
def IsDangerous (s : List Char) : Prop := CallsEval s ∨ MakesFunction s

namespace Piece

/-- A call leads a text: a word, blanks or none, and a parenthesis. -/
theorem leads_call_iff {word : String} {s : List Char} :
    Leads [.word word, .blanks 0, .word "("] s ↔
      ∃ gap rest, s = word.toList ++ gap ++ '(' :: rest ∧ ∀ c ∈ gap, Text.isBlank c = true := by
  constructor
  · intro h
    cases h with
    | word _ h =>
      cases h with
      | @blanks _ _ gap _ hGap _ h =>
        cases h with
        | @word _ rest _ _ => exact ⟨gap, rest, (List.append_assoc _ _ _).symm, hGap⟩
  · rintro ⟨gap, rest, rfl, hGap⟩
    rw [List.append_assoc]
    exact .word word (.blanks hGap (Nat.zero_le _) (.word "(" (.nothing rest)))

end Piece

/-- The critical constructs are those that make a script dangerous. -/
theorem exists_critical_occurs_iff {s : List Char} :
    (∃ c ∈ Construct.all, c.gravity = .critical ∧ c.Occurs s) ↔ IsDangerous s := by
  constructor
  · rintro ⟨c, hMem, hCritical, t, ⟨front, rfl⟩, phrase, hPhrase, hLeads⟩
    simp only [Construct.all, List.mem_cons, List.not_mem_nil, or_false] at hMem
    rcases hMem with rfl | rfl | rfl | rfl | rfl | rfl | rfl | rfl
    · obtain rfl := List.mem_singleton.mp hPhrase
      obtain ⟨gap, rest, rfl, hGap⟩ := Piece.leads_call_iff.mp hLeads
      exact .inl ⟨front, gap, rest, by simp, hGap⟩
    · obtain rfl := List.mem_singleton.mp hPhrase
      cases hLeads with
      | word _ hBehind =>
        cases hBehind with
        | @blanks _ _ between _ hBetween hSome hCall =>
          obtain ⟨gap, rest, rfl, hGap⟩ := Piece.leads_call_iff.mp hCall
          exact .inr ⟨front, between, gap, rest, by simp, List.ne_nil_of_length_pos hSome,
            hBetween, hGap⟩
    all_goals cases hCritical
  · rintro (⟨front, gap, rest, rfl, hGap⟩ |
      ⟨front, between, gap, rest, rfl, hSome, hBetween, hGap⟩)
    · refine ⟨_, List.mem_cons_self, rfl, _, ⟨front, ?_⟩, _, List.mem_cons_self,
        Piece.leads_call_iff.mpr ⟨gap, rest, rfl, hGap⟩⟩
      simp
    · refine ⟨_, List.mem_cons_of_mem _ List.mem_cons_self, rfl, _, ⟨front, ?_⟩, _,
        List.mem_cons_self, .word "new" (.blanks hBetween (List.length_pos_iff.mpr hSome)
          (Piece.leads_call_iff.mpr ⟨gap, rest, rfl, hGap⟩))⟩
      simp

/-- A critical construct is found in the dangerous scripts that are looked at, and in no others. -/
theorem critical_ne_nil_iff_isDangerous {settings : Settings} {said : Option (List String)}
    {script : List Char} :
    (Analysis.ofScript settings said script).critical ≠ [] ↔ IsDangerous script :=
  critical_ne_nil_iff.trans exists_critical_occurs_iff

/-- What is said of a dangerous script has an error, of its size or of a construct in it. -/
theorem errors_ne_nil_of_judge (w : Workplace) (c : Checker) {script : List Char}
    (h : IsDangerous script) :
    (ScriptSource.analysisReport (w.judge c script).1).errors ≠ [] := by
  unfold Workplace.judge
  split
  · exact List.cons_ne_nil _ _
  · have hCritical : (Analysis.ofScript w.settings (w.heard c).1 script).critical ≠ [] :=
      critical_ne_nil_iff_isDangerous.mpr h
    simpa [ScriptSource.analysisReport] using fun _ => hCritical

theorem IsDangerous.ne_nil {s : List Char} (h : IsDangerous s) : s ≠ [] := by
  rcases h with ⟨front, gap, rest, rfl, -⟩ | ⟨front, between, gap, rest, rfl, -⟩
  · simp
  · simp

variable {w : Workplace} {d after : Desk} {report : Report} {text : String}

theorem ScriptSource.errors_ne_nil_of_isDangerous {s : ScriptSource} {name : Option String}
    (hData : s.data = some text) (hDanger : IsDangerous text.toList)
    (h : (s.validate w name).run.run d = (.ok report, after)) : report.errors ≠ [] := by
  have hFilled : Text.isFilled s.data = true := by
    rw [hData]
    exact bne_iff_ne.mpr fun hEmpty => hDanger.ne_nil (congrArg String.toList hEmpty)
  unfold validate at h
  simp only [hFilled, Bool.not_true, Bool.and_false, Bool.false_eq_true, if_false, if_true] at h
  obtain ⟨analysis, between, hAnalysis, hResult⟩ := Work.exists_of_bind h
  obtain ⟨rfl, -⟩ := Work.eq_of_pure hResult
  obtain ⟨rfl, -⟩ := Workplace.eq_judge_of_analyze hAnalysis
  have hShown : Text.shown s.data = text := by
    rw [hData]
    rfl
  rw [hShown]
  simpa using fun _ => errors_ne_nil_of_judge w d.checker hDanger

theorem Profile.errors_ne_nil_of_isDangerous {p : Profile} {source : ScriptSource}
    (hMode : p.mode? = some .script) (hScript : p.script = some source)
    (hData : source.data = some text) (hDanger : IsDangerous text.toList)
    (h : (p.validate w).run.run d = (.ok report, after)) : report.errors ≠ [] := by
  obtain ⟨own, between, hOwn, rfl⟩ := exists_mode_of_validate h
  rw [validateMode, hMode, hScript] at hOwn
  simpa using fun _ _ => ScriptSource.errors_ne_nil_of_isDangerous hData hDanger hOwn

/-- A profile in script mode that carries a dangerous script is refused at every desk at which nobody
objects to what is recorded, whatever is known of the runtime there and whatever else the profile
has. -/
theorem Profile.refused_of_isDangerous (p : Profile) (w : Workplace) (d : Desk)
    (source : ScriptSource) (text : String) (hQuiet : d.IsQuiet) (hMode : p.mode? = some .script)
    (hScript : p.script = some source) (hData : source.data = some text)
    (hDanger : IsDangerous text.toList) :
    (∃ report after, (p.validate w).run.run d = (.ok report, after) ∧ report.errors ≠ []) ∧
    ∃ after, (p.isValid w).run.run d = (.ok false, after) := by
  have hAnswered : Work.IsAnsweredIff (p.validateMode w) True := by
    rw [validateMode, hMode, hScript]
    exact (source.isAnswered_validate w p.name).isAnsweredIff
  obtain ⟨report, after, hRun⟩ := ((isAnsweredIff_validate hAnswered).exists_iff hQuiet).mpr trivial
  have hErrors : report.errors ≠ [] :=
    errors_ne_nil_of_isDangerous hMode hScript hData hDanger hRun
  refine ⟨⟨report, after, hRun, hErrors⟩, after, ?_⟩
  have hInvalid : report.isValid = false := by
    rw [Report.isValid, List.isEmpty_eq_false_iff]
    exact hErrors
  rw [isValid, Work.run_bind_of_ok hRun, hInvalid]
  rfl

/-- A profile whose script calls `eval` behind what looks like a comment. -/
def Profile.sly : Profile where
  id := some "p1"
  name := some "Office"
  color := some "#3b82f6"
  mode := some Mode.script.name
  script := some ⟨none, some "// no eval \n(host)", false⟩
  servers := none
  isActive := false
  quickSwitch := false
  ruleSet := none

/-- The runtime parses the script, and the call is found across the end of the line. -/
theorem Profile.refused_of_isDangerous_sly :
    ∃ after, (sly.isValid ⟨.standard, .ofList [.parses]⟩).run.run .plain = (.ok false, after) := by
  have hQuiet : Desk.plain.IsQuiet := fun j hj => by cases hj
  have hDanger : IsDangerous "// no eval \n(host)".toList :=
    .inl ⟨"// no ".toList, [' ', '\n'], "host)".toList, by decide, by simp [Text.isBlank]⟩
  exact (refused_of_isDangerous sly _ .plain _ _ hQuiet (by decide) rfl rfl hDanger).2

end ProxyRouting
