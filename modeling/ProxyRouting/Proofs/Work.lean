import ProxyRouting.Proofs.Validation.Log

/-! Work at a desk. Work that asks no runtime takes no notice of what is known of the runtime and
leaves that as it was, and work that fails of itself nowhere has a result wherever the listener
objects to nothing. Both are kept when work is done in steps. Where a condition decides whether a
step has a result, the conditions of all steps together decide it for the whole. -/
namespace ProxyRouting

/-- A listener that objects to nothing. -/
def Listener.IsQuiet (l : Listener) : Prop := ∀ n held, l.respond n held = none

/-- A desk at which nobody objects to what is recorded. -/
def Desk.IsQuiet (d : Desk) : Prop := ∀ j ∈ d.journal, ∀ l ∈ j.listener, l.IsQuiet

theorem Journal.objection_of_isQuiet {listener : Option Listener} (h : ∀ l ∈ listener, l.IsQuiet)
    (n : Nat) (held : List Finding) : objection listener n held = .ok () := by
  cases listener with
  | none => rfl
  | some l => simp only [objection, h l rfl n held]

namespace Work

variable {α β : Type}

/-- Whether work is the same whatever is known of the runtime, and leaves that as it was. -/
def IsApart (m : Work α) : Prop :=
  ∀ (d : Desk) (c : Checker), m.run.run { d with checker := c } =
    ((m.run.run d).1, { (m.run.run d).2 with checker := c })

/-- Whether work has a result at every desk at which nobody objects. -/
def IsAnswered (m : Work α) : Prop :=
  ∀ d : Desk, d.IsQuiet → ∃ a after, m.run.run d = (.ok a, after) ∧ after.IsQuiet

theorem isApart_pure (a : α) : IsApart (pure a) := fun _ _ => rfl

theorem IsApart.bind {first : Work α} {next : α → Work β} (hFirst : first.IsApart)
    (hNext : ∀ a, (next a).IsApart) : (first >>= next).IsApart := by
  intro d c
  simp only [ExceptT.run_bind, StateT.run_bind, hFirst d c]
  match hResult : first.run.run d with
  | (.ok a, between) => exact hNext a between c
  | (.error fault, between) => rfl

theorem isAnswered_pure (a : α) : IsAnswered (pure a) := fun d h => ⟨a, d, rfl, h⟩

theorem IsAnswered.bind {first : Work α} {next : α → Work β} (hFirst : first.IsAnswered)
    (hNext : ∀ a, (next a).IsAnswered) : (first >>= next).IsAnswered := by
  intro d h
  obtain ⟨a, between, hRun, hBetween⟩ := hFirst d h
  rw [run_bind_of_ok hRun]
  exact hNext a between hBetween

/-- A result that there is without a desk is one at every desk. -/
theorem isAnswered_of_ok {m : Except Fault α} {a : α} (h : m = .ok a) :
    IsAnswered (m : Work α) := by
  subst h
  exact isAnswered_pure a

/-- Whether a condition decides if work has a result: it has one at every desk at which nobody
objects if the condition holds, and else at none. -/
def IsAnsweredIff (m : Work α) (p : Prop) : Prop :=
  (p → m.IsAnswered) ∧ ∀ (d after : Desk) (a : α), m.run.run d = (.ok a, after) → p

theorem IsAnswered.isAnsweredIff {m : Work α} (h : m.IsAnswered) : m.IsAnsweredIff True :=
  ⟨fun _ => h, fun _ _ _ _ => trivial⟩

theorem isAnsweredIff_of_except (m : Except Fault α) :
    IsAnsweredIff (m : Work α) (∃ a, m = .ok a) :=
  ⟨fun ⟨_, h⟩ => isAnswered_of_ok h, fun _ _ a h => ⟨a, congrArg Prod.fst h⟩⟩

theorem IsAnsweredIff.congr {m : Work α} {p q : Prop} (h : m.IsAnsweredIff p) (hIff : p ↔ q) :
    m.IsAnsweredIff q := by
  rwa [← propext hIff]

theorem IsAnsweredIff.bind {first : Work α} {next : α → Work β} {p q : Prop}
    (hFirst : first.IsAnsweredIff p) (hNext : ∀ a, (next a).IsAnsweredIff q) :
    (first >>= next).IsAnsweredIff (p ∧ q) := by
  refine ⟨fun ⟨hp, hq⟩ => (hFirst.1 hp).bind fun a => (hNext a).1 hq, fun d after b h => ?_⟩
  obtain ⟨a, between, hRun, hRest⟩ := exists_of_bind h
  exact ⟨hFirst.2 d between a hRun, (hNext a).2 between after b hRest⟩

/-- A step that always has a result decides nothing. -/
theorem IsAnswered.bind_isAnsweredIff {first : Work α} {next : α → Work β} {q : Prop}
    (hFirst : first.IsAnswered) (hNext : ∀ a, (next a).IsAnsweredIff q) :
    (first >>= next).IsAnsweredIff q :=
  (hFirst.isAnsweredIff.bind hNext).congr (and_iff_right trivial)

theorem IsAnsweredIff.bind_isAnswered {first : Work α} {next : α → Work β} {p : Prop}
    (hFirst : first.IsAnsweredIff p) (hNext : ∀ a, (next a).IsAnswered) :
    (first >>= next).IsAnsweredIff p :=
  (hFirst.bind fun a => (hNext a).isAnsweredIff).congr (and_iff_left trivial)

theorem IsAnsweredIff.exists_iff {m : Work α} {p : Prop} (h : m.IsAnsweredIff p) {d : Desk}
    (hQuiet : d.IsQuiet) : (∃ a after, m.run.run d = (.ok a, after)) ↔ p := by
  constructor
  · rintro ⟨a, after, hRun⟩
    exact h.2 d after a hRun
  · intro hp
    obtain ⟨a, after, hRun, -⟩ := h.1 hp d hQuiet
    exact ⟨a, after, hRun⟩

end Work

namespace Desk

theorem isApart_note (f : Finding) : Work.IsApart (note f) := by
  rintro ⟨checker, journal⟩ c
  cases journal with
  | none => rfl
  | some j => rfl

theorem isApart_forM_note (fs : List Finding) : Work.IsApart (fs.forM note) := by
  induction fs with
  | nil => exact Work.isApart_pure ()
  | cons f fs ih => exact (isApart_note f).bind fun _ => ih

theorem isAnswered_note (f : Finding) : Work.IsAnswered (note f) := by
  rintro ⟨checker, journal⟩ h
  cases journal with
  | none => exact ⟨(), _, rfl, h⟩
  | some j =>
      have hResult : (j.record f).1 = .ok () := by
        rw [Journal.record_eq]
        exact Journal.objection_of_isQuiet (h j rfl) _ _
      refine ⟨(), ⟨checker, some (j.record f).2⟩, Prod.ext hResult rfl, ?_⟩
      rintro k hk l hl
      obtain rfl := Option.some.inj hk
      rw [Journal.record_eq] at hl
      exact h j rfl l hl

theorem isAnswered_forM_note (fs : List Finding) : Work.IsAnswered (fs.forM note) := by
  induction fs with
  | nil => exact Work.isAnswered_pure ()
  | cons f fs ih => exact (isAnswered_note f).bind fun _ => ih

theorem isAnswered_noteFailure (r : Report) (subject : String) :
    Work.IsAnswered (noteFailure r subject) := by
  unfold noteFailure
  split
  · exact Work.isAnswered_pure ()
  · exact isAnswered_note _

/-- A runtime may say nothing, but that is a result. -/
theorem isAnswered_askRuntime (runtime : Runtime) : Work.IsAnswered (askRuntime runtime) :=
  fun _ h => ⟨_, _, rfl, h⟩

end Desk

theorem Workplace.isAnswered_said (w : Workplace) : Work.IsAnswered w.said := by
  unfold said
  split
  · exact Desk.isAnswered_askRuntime _
  · exact Work.isAnswered_pure none

theorem Workplace.isAnswered_analyze (w : Workplace) (script : List Char) (source : String) :
    Work.IsAnswered (w.analyze script source) := by
  have hRecorded : ∀ a : Analysis, Work.IsAnswered
      (do (a.findings source).forM Desk.note; return a : Work Analysis) :=
    fun a => (Desk.isAnswered_forM_note _).bind fun _ => Work.isAnswered_pure a
  unfold analyze
  dsimp only
  split
  · exact (Work.isAnswered_pure _).bind hRecorded
  · exact w.isAnswered_said.bind fun _ => (Work.isAnswered_pure _).bind hRecorded

theorem ScriptSource.isAnswered_validate (s : ScriptSource) (w : Workplace)
    (name : Option String) : Work.IsAnswered (s.validate w name) := by
  unfold validate
  split
  · exact Work.isAnswered_pure _
  · split
    · exact (w.isAnswered_analyze _ _).bind fun _ => Work.isAnswered_pure _
    · exact Work.isAnswered_pure _

/-- Only the checks of its mode can keep a profile from being validated. -/
theorem Profile.isAnsweredIff_validate {p : Profile} {w : Workplace} {q : Prop}
    (hMode : Work.IsAnsweredIff (p.validateMode w) q) : Work.IsAnsweredIff (p.validate w) q :=
  hMode.bind_isAnswered fun _ =>
    (Desk.isAnswered_noteFailure _ _).bind fun _ => Work.isAnswered_pure _

end ProxyRouting
