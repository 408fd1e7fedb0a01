import ProxyRouting.Compile
import ProxyRouting.Proofs.Order
import ProxyRouting.Proofs.Script.Embedding

/-! Where a route leads. Its answer announces a server or is a direct connection, and a script calls
another one only for a route to a profile that runs a script. -/
namespace ProxyRouting

def Profile.server? (p : Profile) : Option Server :=
  if p.mode? = some .fixedServers then p.servers.bind ManualServers.main? else none

theorem Profile.answer_eq (p : Profile) :
    p.answer = match p.server? with
      | some server => Entry.announce server
      | none => .ok Entry.direct := by
  unfold Profile.answer Profile.server?
  cases hMode : p.mode? with
  | none => rfl
  | some mode =>
      cases hServers : p.servers with
      | none => cases mode <;> rfl
      | some servers => cases mode <;> rfl

namespace Route

/-- The server that a route leads to, if it leads to one. -/
def server? (r : Route) (profiles : List Profile) : Option Server :=
  match r.kind? with
  | some .inline => r.server
  | some .existing => (Profile.find? r.profile profiles).bind Profile.server?
  | _ => none

theorem answer_eq (r : Route) (profiles : List Profile) :
    r.answer profiles = match r.server? profiles with
      | some server => Entry.announce server
      | none => .ok Entry.direct := by
  unfold answer server?
  cases hKind : r.kind? with
  | none => rfl
  | some kind =>
      cases kind with
      | direct => rfl
      | inline => rfl
      | existing =>
          cases hFind : Profile.find? r.profile profiles with
          | none => rfl
          | some p => exact Profile.answer_eq p

theorem answer_of_server? {r : Route} {profiles : List Profile}
    (h : ∀ server ∈ r.server? profiles, server.scheme.isSome) :
    ∃ answer, r.answer profiles = .ok answer := by
  rw [answer_eq]
  cases hServer : r.server? profiles with
  | none => exact ⟨_, rfl⟩
  | some server =>
      obtain ⟨scheme, hScheme⟩ := Option.isSome_iff_exists.mp (h server hServer)
      simp [Entry.announce, hScheme]

/-- The embedded script of the profile that a route leads to. -/
def embedded? (r : Route) (functions : List Embedded) : Option Embedded :=
  if r.kind? = some .existing then Embedded.find? r.profile functions else none

theorem action_eq (r : Route) (profiles : List Profile) (functions : List Embedded) :
    r.action profiles functions = match r.embedded? functions with
      | some e => .ok (.call e.function)
      | none => (r.answer profiles).map .answer := rfl

theorem exists_action {r : Route} {profiles : List Profile}
    (h : ∀ server ∈ r.server? profiles, server.scheme.isSome) (functions : List Embedded) :
    ∃ a, r.action profiles functions = .ok a := by
  rw [action_eq]
  split
  · exact ⟨_, rfl⟩
  · obtain ⟨answer, hAnswer⟩ := answer_of_server? h
    exact ⟨_, by rw [hAnswer]; rfl⟩

theorem of_embedded? {r : Route} {functions : List Embedded} {e : Embedded}
    (h : r.embedded? functions = some e) :
    r.kind? = some .existing ∧ e ∈ functions ∧ some e.profile = r.profile := by
  unfold embedded? at h
  split at h
  next hKind => exact ⟨hKind, Embedded.find?_eq_some h⟩
  next => cases h

/-- Only the script of a profile that runs one is embedded. -/
theorem script?_of_embedded? {r : Route} {profiles : List Profile} {functions : List Embedded}
    (hSound : Embedded.Sound profiles functions) {e : Embedded}
    (h : r.embedded? functions = some e) : (r.script? profiles).isSome := by
  obtain ⟨hKind, hMem, hId⟩ := of_embedded? h
  obtain ⟨p, hFind, hRuns, -⟩ := hSound.origin e hMem
  simp [script?, hKind, ← hId, hFind, hRuns]

/-- A route to a script that could not be embedded is a direct connection. -/
theorem answer_of_script? {r : Route} {profiles : List Profile} {p : Profile}
    (h : r.script? profiles = some p) : r.answer profiles = .ok Entry.direct := by
  obtain ⟨hKind, hFind, hRuns⟩ := script?_eq_some_iff.mp h
  have hMode : p.mode? = some .script := by
    simp only [Profile.runsScript, Bool.and_eq_true, decide_eq_true_eq] at hRuns
    exact hRuns.1
  unfold answer
  rw [hKind, hFind]
  simp only [Profile.answer, hMode]

end Route

end ProxyRouting
