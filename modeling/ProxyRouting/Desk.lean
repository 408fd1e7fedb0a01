import ProxyRouting.Analysis.Checker
import ProxyRouting.Journal

namespace ProxyRouting

/-- What persists from one validation to the next: what is known about the runtime, and the journal,
if one is kept. -/
structure Desk where
  checker : Checker
  journal : Option Journal

/-- Work at a desk. What was done before a fault stays done. -/
abbrev Work := ExceptT Fault (StateM Desk)

/-- Work in two steps has a result only if both steps have one. -/
theorem Work.exists_of_bind {α β : Type} {first : Work α} {next : α → Work β} {desk after : Desk}
    {b : β} (h : (first >>= next).run.run desk = (.ok b, after)) :
    ∃ a between, first.run.run desk = (.ok a, between) ∧
      (next a).run.run between = (.ok b, after) := by
  rw [ExceptT.run_bind, StateT.run_bind] at h
  match hFirst : first.run.run desk with
  | (.ok a, between) =>
      rw [hFirst] at h
      exact ⟨a, between, rfl, h⟩
  | (.error fault, between) =>
      rw [hFirst] at h
      cases h

namespace Desk

def plain : Desk := ⟨.initial, none⟩

/-- Record a finding in the journal, if one is kept. -/
def note (f : Finding) : Work Unit := ExceptT.mk fun desk =>
  match desk.journal with
  | none => (.ok (), desk)
  | some j => ((j.record f).1, { desk with journal := some (j.record f).2 })

def askRuntime (runtime : Runtime) : Work (Option (List String)) := ExceptT.mk fun desk =>
  (.ok (desk.checker.parse runtime).1, { desk with checker := (desk.checker.parse runtime).2 })

end Desk

end ProxyRouting
