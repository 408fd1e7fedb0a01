import ProxyRouting.Script.Embedded

/-! The scripts that are embedded in another one. Each is numbered by its place and comes from the
profile that its id leads to, which runs a script. -/
namespace ProxyRouting.Embedded

/-- What holds of embedded scripts while more of them are found. -/
structure Sound (profiles : List Profile) (found : List Embedded) : Prop where
  numbered : ∀ (i : Nat) (e : Embedded), found[i]? = some e → e.number = i
  origin : ∀ e ∈ found, ∃ p, Profile.find? (some e.profile) profiles = some p ∧
    p.runsScript = true ∧ ofProfile? p e.number = some e

theorem ofProfile?_eq_some {p : Profile} {n : Int} {e : Embedded} (h : ofProfile? p n = some e) :
    p.id = some e.profile ∧ e.number = n ∧
      ∃ script, p.scriptText? = some script ∧ extractBody script = some e.body := by
  unfold ofProfile? at h
  cases hId : p.id with
  | none => simp [hId] at h
  | some id =>
      cases hScript : p.scriptText? with
      | none => simp [hId, hScript] at h
      | some script =>
          rw [hId, hScript] at h
          simp only at h
          split at h
          · cases h
          · cases hBody : extractBody script with
            | none => simp [hBody] at h
            | some body =>
                simp only [hBody, Option.map_some, Option.some.injEq] at h
                subst h
                exact ⟨rfl, rfl, script, rfl, hBody⟩

theorem sound_nil (profiles : List Profile) : Sound profiles [] :=
  ⟨by simp, by simp⟩

/-- One more script is numbered by those in front of it. -/
theorem Sound.add {profiles : List Profile} {found : List Embedded} (h : Sound profiles found)
    (id : Option String) : Sound profiles (add profiles found id) := by
  unfold Embedded.add
  split
  · exact h
  · cases hFind : Profile.find? id profiles with
    | none => exact h
    | some p =>
        simp only
        split
        next hRuns =>
          cases hNew : ofProfile? p found.length with
          | none => simpa using h
          | some e =>
              obtain ⟨hId, hNumber, -⟩ := ofProfile?_eq_some hNew
              obtain ⟨hName, -⟩ := Profile.id_of_find? hFind
              rw [Option.toList_some]
              constructor
              · intro i d hd
                rcases Nat.lt_or_ge i found.length with hi | hi
                · rw [List.getElem?_append_left hi] at hd
                  exact h.numbered i d hd
                · rw [List.getElem?_append_right hi] at hd
                  obtain ⟨hZero, rfl⟩ : i - found.length = 0 ∧ d = e := by
                    cases hk : i - found.length <;> simp [hk] at hd ⊢
                    exact hd.symm
                  omega
              · intro d hd
                rcases List.mem_append.mp hd with hOld | hLast
                · exact h.origin d hOld
                · obtain rfl : d = e := by simpa using hLast
                  refine ⟨p, ?_, hRuns, ?_⟩
                  · rw [← hId, hName]
                    exact hFind
                  · rw [hNumber]
                    exact hNew
        · exact h

/-- What holds before any reference is followed, and is kept by following one more, holds of what
all references lead to. -/
theorem collect_induction {profiles : List Profile}
    {motive : List (Option String) → List Embedded → Prop} (hNil : motive [] [])
    (hAdd : ∀ done found id, motive done found → motive (done ++ [id]) (add profiles found id))
    (rules : List Rule) (fallback : Route) :
    motive (references rules fallback) (collect rules fallback profiles) := by
  have hRun : ∀ (rest done : List (Option String)) (found : List Embedded), motive done found →
      motive (done ++ rest) (rest.foldl (add profiles) found) := by
    intro rest
    induction rest with
    | nil =>
        intro done found h
        simpa using h
    | cons id rest ih =>
        intro done found h
        have hRest := ih _ _ (hAdd done found id h)
        simpa using hRest
  exact hRun (references rules fallback) [] [] hNil

theorem sound_collect (rules : List Rule) (fallback : Route) (profiles : List Profile) :
    Sound profiles (collect rules fallback profiles) :=
  collect_induction (motive := fun _ found => Sound profiles found) (sound_nil profiles)
    (fun _ _ id h => h.add id) rules fallback

theorem collect_eq_nil {rules : List Rule} {fallback : Route} {profiles : List Profile}
    (h : ∀ id ∈ references rules fallback, ∀ p, Profile.find? id profiles = some p →
      p.runsScript = false) : collect rules fallback profiles = [] := by
  unfold collect
  generalize references rules fallback = ids at h
  induction ids with
  | nil => rfl
  | cons id ids ih =>
      have hFirst : Embedded.add profiles [] id = [] := by
        unfold Embedded.add
        cases hFind : Profile.find? id profiles with
        | none => rfl
        | some p => simp [h id List.mem_cons_self p hFind]
      rw [List.foldl_cons, hFirst]
      exact ih fun other hOther => h other (List.mem_cons_of_mem id hOther)

theorem find?_eq_some {id : Option String} {found : List Embedded} {e : Embedded}
    (h : find? id found = some e) : e ∈ found ∧ some e.profile = id := by
  unfold find? at h
  split at h
  · exact ⟨List.mem_of_find?_eq_some h, by simpa using List.find?_some h⟩
  · cases h

end ProxyRouting.Embedded
