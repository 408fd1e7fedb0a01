import Mathlib.Data.List.Nodup
import ProxyRouting.Proofs.Parity
import ProxyRouting.Proofs.Script.Capture

/-! The table of embedded scripts. It lists the profiles whose scripts can be embedded in the order
in which they are first referred to, each one once and numbered by its place, and what a compiled
script calls is in the table once. -/
namespace ProxyRouting

namespace Embedded

/-- Whether an id leads to a profile that runs a script whose body can be taken out. -/
def isEmbeddable (profiles : List Profile) (id : Option String) : Bool :=
  (Profile.find? id profiles).any fun p => p.runsScript && (p.scriptText?.bind extractBody).isSome

/-- The ids of the profiles that embedded scripts come from. -/
def ids (found : List Embedded) : List (Option String) := found.map fun e => some e.profile

theorem isSome_ofProfile? {p : Profile} (h : Text.isFilled p.id = true) (n : Int) :
    (ofProfile? p n).isSome = (p.scriptText?.bind extractBody).isSome := by
  unfold ofProfile?
  cases hId : p.id with
  | none => simp [hId, Text.isFilled] at h
  | some id =>
      have hNonempty : id ≠ "" := by simpa [hId, Text.isFilled] using h
      cases hText : p.scriptText? with
      | none => rfl
      | some text => simp [hNonempty]

/-- What one reference adds: the id of the profile at the end, if its script can be embedded and has
not been embedded before. -/
theorem ids_add (profiles : List Profile) (found : List Embedded) (id : Option String) :
    ids (add profiles found id) =
      if id ∈ ids found then ids found
      else if isEmbeddable profiles id then ids found ++ [id] else ids found := by
  have hSeen : (found.any fun e => some e.profile = id) = true ↔ id ∈ ids found := by
    simp [ids]
  unfold add
  by_cases hMem : id ∈ ids found
  · rw [if_pos (hSeen.mpr hMem), if_pos hMem]
  · rw [if_neg (fun h => hMem (hSeen.mp h)), if_neg hMem]
    cases hFind : Profile.find? id profiles with
    | none => simp [isEmbeddable, hFind]
    | some p =>
        obtain ⟨hId, hFilled⟩ := Profile.id_of_find? hFind
        rw [← hId] at hFilled
        have hBody := isSome_ofProfile? hFilled found.length
        cases hRuns : p.runsScript with
        | false => simp [isEmbeddable, hFind, hRuns]
        | true =>
            cases hNew : ofProfile? p found.length with
            | none =>
                rw [hNew] at hBody
                simp [isEmbeddable, hFind, hRuns, ← hBody, hNew]
            | some e =>
                rw [hNew] at hBody
                have hSame : some e.profile = id := by rw [← (ofProfile?_eq_some hNew).1, hId]
                simp [isEmbeddable, hFind, hRuns, ← hBody, hNew, ids, hSame]

/-- What holds of the table when the references in `done` have been followed: it lists those that
can be embedded in the order of their first occurrence, and none of them twice. -/
structure Lists (profiles : List Profile) (done : List (Option String)) (found : List Embedded) :
    Prop where
  ids_eq : ids found = (done.filter (isEmbeddable profiles)).eraseDups
  nodup : (ids found).Nodup

theorem lists_nil (profiles : List Profile) : Lists profiles [] [] := ⟨by simp [ids], by simp [ids]⟩

/-- One more reference. -/
theorem Lists.add {profiles : List Profile} {done : List (Option String)} {found : List Embedded}
    (h : Lists profiles done found) (id : Option String) :
    Lists profiles (done ++ [id]) (add profiles found id) := by
  have hMem : id ∈ ids found ↔ id ∈ done ∧ isEmbeddable profiles id = true := by
    rw [h.ids_eq, List.mem_eraseDups, List.mem_filter]
  constructor
  · rw [ids_add, List.filter_append, List.eraseDups_append, ← h.ids_eq]
    split
    next hOld =>
      have hBoth := hMem.mp hOld
      simp [List.removeAll, hBoth]
    next hNew =>
      split
      next hCan =>
        have hFresh : id ∉ done := fun hDone => hNew (hMem.mpr ⟨hDone, hCan⟩)
        simp [List.removeAll, hCan, hFresh, List.eraseDups_cons]
      next hCannot => simp [List.removeAll, hCannot]
  · rw [ids_add]
    split
    · exact h.nodup
    · split
      next hNew _ => simpa using h.nodup.concat hNew
      · exact h.nodup

theorem lists_collect (rules : List Rule) (fallback : Route) (profiles : List Profile) :
    Lists profiles (references rules fallback) (collect rules fallback profiles) :=
  collect_induction (lists_nil profiles) (fun _ _ id h => h.add id) rules fallback

theorem nameOf_injective : Function.Injective nameOf := by
  intro m n h
  have hChars := congrArg String.toList h
  rw [toList_nameOf, toList_nameOf, List.append_cancel_left_eq] at hChars
  rw [← Text.ofDigits_writeNat m, hChars, Text.ofDigits_writeNat]

/-- The functions are named by the numbers from zero on. -/
theorem Sound.map_function {profiles : List Profile} {found : List Embedded}
    (h : Sound profiles found) : found.map function = (List.range found.length).map nameOf := by
  refine List.ext_getElem (by simp) fun i hi _ => ?_
  have hLength : i < found.length := by simpa using hi
  simpa using function_eq_nameOf (h.numbered i found[i] (List.getElem?_eq_getElem hLength))

theorem Sound.nodup_function {profiles : List Profile} {found : List Embedded}
    (h : Sound profiles found) : (found.map function).Nodup := by
  rw [h.map_function]
  exact List.nodup_range.map nameOf_injective

/-- An embedded script is found by the id of its profile, and by no other. -/
theorem Sound.find?_eq_some_iff {profiles : List Profile} {found : List Embedded}
    (h : Sound profiles found) (hNodup : (ids found).Nodup) {id : Option String} {e : Embedded} :
    find? id found = some e ↔ e ∈ found ∧ some e.profile = id := by
  refine ⟨find?_eq_some, ?_⟩
  rintro ⟨hMem, rfl⟩
  obtain ⟨p, hFind, -⟩ := h.origin e hMem
  rw [find?, if_pos (Profile.id_of_find? hFind).2]
  cases hFirst : found.find? fun d => some d.profile = some e.profile with
  | none =>
      have hNone := List.find?_eq_none.mp hFirst e hMem
      simp at hNone
  | some d =>
      have hSame : some d.profile = some e.profile := by simpa using List.find?_some hFirst
      rw [List.inj_on_of_nodup_map hNodup (List.mem_of_find?_eq_some hFirst) hMem hSame]

theorem isSome_find?_iff {profiles : List Profile} {found : List Embedded}
    (h : Sound profiles found) (hNodup : (ids found).Nodup) {id : Option String} :
    (find? id found).isSome ↔ id ∈ ids found := by
  rw [Option.isSome_iff_exists, ids, List.mem_map]
  simp only [h.find?_eq_some_iff hNodup]

end Embedded

/-- What the statements of a script return, and what is returned after all of them. -/
def Script.actions (s : Script) : List Action := s.statements.map Statement.action ++ [s.last]

/-- A route calls a function only if that is embedded. -/
theorem Route.exists_of_action_call {r : Route} {profiles : List Profile}
    {functions : List Embedded} {name : String}
    (h : r.action profiles functions = .ok (.call name)) :
    name ∈ functions.map Embedded.function := by
  rw [Route.action_eq] at h
  cases hEmbedded : r.embedded? functions with
  | none =>
      rw [hEmbedded] at h
      cases hAnswer : r.answer profiles <;> simp [hAnswer, Except.map] at h
  | some e =>
      rw [hEmbedded] at h
      obtain rfl : e.function = name := by simpa using h
      exact List.mem_map_of_mem (of_embedded? hEmbedded).2.1

namespace RuleSet

theorem mem_function_of_call {s : RuleSet} {profiles : List Profile} {script : Script}
    (h : s.script profiles = .ok script) {name : String} (hCall : .call name ∈ script.actions) :
    name ∈ script.functions.map Embedded.function := by
  rcases List.mem_append.mp hCall with hStatement | hLast
  · obtain ⟨st, hMem, hAction⟩ := List.mem_map.mp hStatement
    obtain ⟨r, -, hRule⟩ := Rule.exists_of_forall₂ (forall₂_statement_of_script h) hMem
    obtain ⟨-, hRoute⟩ := Rule.of_statement hRule
    rw [hAction] at hRoute
    exact Route.exists_of_action_call hRoute
  · obtain ⟨-, hFallback, -⟩ := of_script h
    rw [← List.mem_singleton.mp hLast] at hFallback
    exact Route.exists_of_action_call hFallback

end RuleSet

namespace Embedded

/-- The table of embedded scripts. It lists the profiles that are referred to and whose scripts can
be embedded, each one once and in the order of the first reference; in each place stands the script
of its profile as the function with the number of the place, so that no name is used twice. A script
is found by the id of its profile, and nothing is found for another id. What a compiled script calls
is in its table once. -/
theorem collect_lists_references (rules : List Rule) (fallback : Route) (profiles : List Profile) :
    let found := collect rules fallback profiles
    ids found = ((references rules fallback).filter (isEmbeddable profiles)).eraseDups ∧
    (ids found).Nodup ∧ (found.map function).Nodup ∧
    (∀ (i : Nat) (e : Embedded), found[i]? = some e → e.function = nameOf i ∧
      ∃ p, Profile.find? (some e.profile) profiles = some p ∧ ofProfile? p i = some e) ∧
    (∀ id e, find? id found = some e ↔ e ∈ found ∧ some e.profile = id) ∧
    (∀ id, (find? id found).isSome ↔
      id ∈ references rules fallback ∧ isEmbeddable profiles id = true) ∧
    ∀ (s : RuleSet) (script : Script), s.script profiles = .ok script →
      script.functions = collect (Rule.inOrder s.rules) s.fallback profiles ∧
      ∀ name, .call name ∈ script.actions → (script.functions.map function).count name = 1 := by
  intro found
  have hSound : Sound profiles found := sound_collect rules fallback profiles
  have hLists : Lists profiles (references rules fallback) found :=
    lists_collect rules fallback profiles
  refine ⟨hLists.ids_eq, hLists.nodup, hSound.nodup_function, fun i e he => ?_,
    fun id e => hSound.find?_eq_some_iff hLists.nodup, fun id => ?_, fun s script hScript => ?_⟩
  · have hNumber := hSound.numbered i e he
    obtain ⟨p, hFind, -, hEmbedded⟩ := hSound.origin e (List.mem_of_getElem? he)
    rw [hNumber] at hEmbedded
    exact ⟨function_eq_nameOf hNumber, p, hFind, hEmbedded⟩
  · rw [isSome_find?_iff hSound hLists.nodup, hLists.ids_eq, List.mem_eraseDups, List.mem_filter]
  · obtain ⟨hFunctions, -⟩ := RuleSet.of_script hScript
    refine ⟨hFunctions, fun name hCall => ?_⟩
    have hNodup : (script.functions.map function).Nodup := by
      rw [hFunctions]
      exact (sound_collect _ _ profiles).nodup_function
    exact List.count_eq_one_of_mem hNodup (RuleSet.mem_function_of_call hScript hCall)

/-- A rule set that refers to a script without the function that answers requests, twice to one
script and in its fallback to a copy of that. -/
def relay : RuleSet where
  rules := [
    ⟨some "old", some "*.old", some "wildcard", true, 0, ⟨some "existing", none, some "broken"⟩⟩,
    ⟨some "corp", some "*.corp", some "wildcard", true, 1, ⟨some "existing", none, some "p"⟩⟩,
    ⟨some "net", some "10.0.0.0/8", some "cidr", true, 2, ⟨some "existing", none, some "p"⟩⟩]
  fallback := ⟨some "existing", none, some "q"⟩

def relayed : List Profile := [
  { RuleSet.scripted with id := some "broken", script := some ⟨none, some "return 1;", false⟩ },
  RuleSet.scripted,
  { RuleSet.scripted with id := some "q" }]

theorem collect_lists_references_relay :
    ids (collect relay.rules relay.fallback relayed) = [some "p", some "q"] ∧
    ∃ script, relay.script relayed = .ok script ∧
      (script.functions.map function).count "_embeddedPAC_0" = 1 ∧
      (script.functions.map function).count "_embeddedPAC_1" = 1 := by
  obtain ⟨hIds, -, -, -, -, -, hCalls⟩ :=
    collect_lists_references relay.rules relay.fallback relayed
  refine ⟨by rw [hIds]; decide +kernel, ?_⟩
  cases hScript : relay.script relayed with
  | error fault =>
      have hOk : (relay.script relayed).isOk = true := by decide +kernel
      rw [hScript] at hOk
      cases hOk
  | ok script =>
      have hActions : (relay.script relayed).map Script.actions =
          .ok [.answer "DIRECT", .call "_embeddedPAC_0", .call "_embeddedPAC_0",
            .call "_embeddedPAC_1"] := by decide +kernel
      rw [hScript] at hActions
      have hCalled : script.actions = [.answer "DIRECT", .call "_embeddedPAC_0",
          .call "_embeddedPAC_0", .call "_embeddedPAC_1"] := Except.ok.inj hActions
      obtain ⟨-, hOnce⟩ := hCalls relay script hScript
      exact ⟨script, rfl, hOnce _ (by rw [hCalled]; decide), hOnce _ (by rw [hCalled]; decide)⟩

end Embedded

end ProxyRouting
