import ProxyRouting.Validation.Profile

/-! Profiles without errors. Where no runtime is asked, the structure of a script that such a profile
carries is in order. -/
namespace ProxyRouting

theorem Checker.parse_none (c : Checker) : (c.parse none).1 = none := by
  unfold parse
  cases c.state with
  | unsought => rfl
  | found => rfl
  | gone => rfl

namespace Workplace

/-- Whether scripts are judged by their structure: no runtime is to be asked, or there is none. -/
def JudgesStructure (w : Workplace) : Prop := w.settings.asksRuntime = false ∨ w.runtime = none

theorem JudgesStructure.eq_none {w : Workplace} (h : w.JudgesStructure) {desk after : Desk}
    {said : Option (List String)} (hSaid : w.said.run.run desk = (.ok said, after)) :
    said = none := by
  unfold Workplace.said at hSaid
  split at hSaid
  next hAsks =>
    have hRuntime : w.runtime = none := by
      rcases h with hSettings | hRuntime
      · rw [hAsks] at hSettings
        cases hSettings
      · exact hRuntime
    rw [hRuntime] at hSaid
    have hParse : (desk.checker.parse none).1 = said := Except.ok.inj (congrArg Prod.fst hSaid)
    rw [← hParse, Checker.parse_none]
  next => exact (Except.ok.inj (congrArg Prod.fst hSaid)).symm

/-- An analysis without errors of syntax finds the structure of the script in order. -/
theorem structureProblems_of_analyze {w : Workplace} (h : w.JudgesStructure) {script : List Char}
    {source : String} {desk after : Desk} {a : Analysis}
    (hRun : (w.analyze script source).run.run desk = (.ok a, after)) (hErrors : a.syntaxErrors = []) :
    structureProblems script = [] := by
  unfold analyze at hRun
  dsimp only at hRun
  split at hRun
  · obtain ⟨analysis, first, hAnalysis, hRest⟩ := Work.exists_of_bind hRun
    obtain ⟨-, last, -, hResult⟩ := Work.exists_of_bind hRest
    obtain rfl : analysis = a := Except.ok.inj (congrArg Prod.fst hResult)
    obtain rfl : Analysis.oversized w.settings = analysis :=
      Except.ok.inj (congrArg Prod.fst hAnalysis)
    cases hErrors
  · obtain ⟨said, asked, hSaid, hJudged⟩ := Work.exists_of_bind hRun
    obtain ⟨analysis, first, hAnalysis, hRest⟩ := Work.exists_of_bind hJudged
    obtain ⟨-, last, -, hResult⟩ := Work.exists_of_bind hRest
    obtain rfl : analysis = a := Except.ok.inj (congrArg Prod.fst hResult)
    obtain rfl := h.eq_none hSaid
    obtain rfl : Analysis.ofScript w.settings none script = analysis :=
      Except.ok.inj (congrArg Prod.fst hAnalysis)
    have hStructure := (List.append_eq_nil_iff.mp hErrors).1
    simpa using hStructure

end Workplace

/-- Whether a profile can be validated without errors. -/
def Profile.Passes (p : Profile) (w : Workplace) : Prop :=
  ∃ desk after report, (p.validate w).run.run desk = (.ok report, after) ∧ report.errors = []

theorem ScriptSource.structureProblems_of_validate {s : ScriptSource} {w : Workplace}
    (h : w.JudgesStructure) {name : Option String} {desk after : Desk} {report : Report}
    (hRun : (s.validate w name).run.run desk = (.ok report, after)) (hErrors : report.errors = [])
    (hFilled : Text.isFilled s.data = true) :
    structureProblems (Text.shown s.data).toList = [] := by
  unfold ScriptSource.validate at hRun
  simp only [hFilled, Bool.not_true, Bool.and_false, Bool.false_eq_true, if_false, if_true] at hRun
  obtain ⟨analysis, between, hAnalysis, hResult⟩ := Work.exists_of_bind hRun
  obtain rfl : s.addressReport ++ analysisReport analysis = report :=
    Except.ok.inj (congrArg Prod.fst hResult)
  rw [Report.errors_append, List.append_eq_nil_iff] at hErrors
  exact Workplace.structureProblems_of_analyze h hAnalysis (List.append_eq_nil_iff.mp hErrors.2).1

/-- The findings about a profile are those about its name, its color and its mode. -/
theorem Profile.exists_mode_of_validate {p : Profile} {w : Workplace} {desk after : Desk}
    {report : Report} (h : (p.validate w).run.run desk = (.ok report, after)) :
    ∃ mode between, (p.validateMode w).run.run desk = (.ok mode, between) ∧
      report = p.nameReport w.settings ++ p.colorReport ++ mode := by
  obtain ⟨mode, between, hMode, hRest⟩ := Work.exists_of_bind h
  obtain ⟨-, last, -, hReport⟩ := Work.exists_of_bind hRest
  exact ⟨mode, between, hMode, (Except.ok.inj (congrArg Prod.fst hReport)).symm⟩

/-- The script of a profile that passes has its structure in order. -/
theorem Profile.Passes.structureProblems_eq_nil {p : Profile} {w : Workplace} (h : p.Passes w)
    (hStructure : w.JudgesStructure) (hRuns : p.runsScript = true) {text : String}
    (hText : p.scriptText? = some text) : structureProblems text.toList = [] := by
  obtain ⟨desk, after, report, hRun, hErrors⟩ := h
  obtain ⟨mode, between, hMode, rfl⟩ := exists_mode_of_validate hRun
  rw [Report.errors_append, List.append_eq_nil_iff] at hErrors
  simp only [Profile.runsScript, Bool.and_eq_true, decide_eq_true_eq] at hRuns
  unfold Profile.scriptText? at hText
  split at hText
  next source hSource =>
    split at hText
    next hFilled =>
      rw [Profile.validateMode, hRuns.1, hSource] at hMode
      have hProblems :=
        ScriptSource.structureProblems_of_validate hStructure hMode hErrors.2 hFilled
      rw [hText] at hProblems
      exact hProblems
    next => cases hText
  next => cases hText

/-- A profile that passes has a name, and not only blanks for it. -/
theorem Profile.Passes.exists_name {p : Profile} {w : Workplace} (h : p.Passes w) :
    ∃ name, p.name = some name ∧ Text.isEmptyOrBlank name.toList = false := by
  obtain ⟨desk, after, report, hRun, hErrors⟩ := h
  obtain ⟨mode, between, -, rfl⟩ := exists_mode_of_validate hRun
  simp only [Report.errors_append, List.append_eq_nil_iff] at hErrors
  have hName : isVacant p.name = false := by
    refine Bool.eq_false_iff.mpr fun hVacant => ?_
    have hReport := hErrors.1.1
    rw [nameReport, if_pos hVacant] at hReport
    cases hReport
  cases hGiven : p.name with
  | none =>
      rw [hGiven] at hName
      cases hName
  | some name =>
      rw [hGiven] at hName
      exact ⟨name, rfl, hName⟩

end ProxyRouting
