import ProxyRouting.Text.Lower

/-! The lower-case form of texts. What stands beside an ASCII character has no part in its lower-case
form, so that a text of such characters is lowered one by one. The marks in front of the letters are
the lower-case form of themselves only, whatever scripts the text is written in. -/
namespace ProxyRouting.Text

/-- What holds of the characters with the smallest numbers is checked number by number. -/
theorem forall_of_toNat_lt {bound : Nat} {P : Char → Prop} (h : ∀ n < bound, P (Char.ofNat n))
    {c : Char} (hc : c.toNat < bound) : P c := by
  have hChar := h c.toNat hc
  rwa [Char.ofNat_toNat] at hChar

theorem lowerCode_of_ascii {n : Nat} (h : n < 128) :
    lowerCode n = (Char.ofNat n).toLower.toNat := by
  have hCode : ∀ n < 128, lowerCode n = (Char.ofNat n).toLower.toNat := by decide
  exact hCode n h

/-- Of the ASCII characters, the capital letters have another lower-case form. -/
theorem toLower_eq_self_iff_of_ascii {c : Char} (h : c.toNat < 128) :
    c.toLower = c ↔ c.isUpper = false :=
  forall_of_toNat_lt (P := fun c => c.toLower = c ↔ c.isUpper = false) (by decide) h

theorem lowerIn_of_ascii {c : Char} (h : c.toNat < 128) (before behind : List Char) :
    lowerIn before c behind = [c.toLower] := by
  have hSigma : c.toNat ≠ 0x3A3 := by omega
  have hDotted : c.toNat ≠ 0x130 := by omega
  rw [lowerIn, if_neg hSigma, if_neg hDotted, lowerCode_of_ascii h, Char.ofNat_toNat,
    Char.ofNat_toNat]

theorem lowerFrom_of_ascii {s : List Char} (h : ∀ c ∈ s, c.toNat < 128) (before : List Char) :
    lowerFrom before s = s.map Char.toLower := by
  induction s generalizing before with
  | nil => rfl
  | cons c rest ih =>
      obtain ⟨hc, hRest⟩ := List.forall_mem_cons.mp h
      rw [lowerFrom, lowerIn_of_ascii hc, ih hRest, List.singleton_append, List.map_cons]

theorem lower_of_ascii {s : List Char} (h : ∀ c ∈ s, c.toNat < 128) :
    lower s = s.map Char.toLower :=
  lowerFrom_of_ascii h []

/-- An ASCII text is its own lower-case form when it has no capital letter. -/
theorem map_toLower_eq_self_iff {s : List Char} (h : ∀ c ∈ s, c.toNat < 128) :
    s.map Char.toLower = s ↔ ∀ c ∈ s, c.isUpper = false := by
  have hSame : s.map Char.toLower = s.map id ↔ ∀ c ∈ s, c.toLower = c := List.map_inj_left
  rw [List.map_id] at hSame
  rw [hSame]
  exact forall₂_congr fun c hc => toLower_eq_self_iff_of_ascii (h c hc)

theorem toList_toLower (s : String) : s.toLower.toList = s.toList.map Char.toLower :=
  String.toList_map

theorem le_of_mem_caseRuns {r : CaseRun} (h : r ∈ caseRuns) : 97 ≤ (r.first : Int) + r.shift := by
  have hRuns : caseRuns.all (fun r => decide (97 ≤ (r.first : Int) + r.shift)) = true := by
    decide +kernel
  exact of_decide_eq_true (Array.all_eq_true_iff_forall_mem.mp hRuns r h)

/-- A code point that has another lower-case form gets no form in front of the small letters. -/
theorem lowerCode_eq_or_le (n : Nat) : lowerCode n = n ∨ 97 ≤ lowerCode n := by
  unfold lowerCode
  split
  next =>
    split
    next hCapital =>
      simp only [Bool.and_eq_true, decide_eq_true_eq] at hCapital
      omega
    next => exact .inl rfl
  next =>
    split
    next => exact .inr (by decide)
    next =>
      split
      next r hRun =>
        have hBound := le_of_mem_caseRuns (Array.mem_of_find?_eq_some hRun)
        have hCovers := Array.find?_some hRun
        simp only [CaseRun.covers, Bool.and_eq_true, decide_eq_true_eq] at hCovers
        omega
      next => exact .inl rfl

/-- The character of a number has that number, or zero when the number is that of no character. -/
theorem toNat_ofNat_eq_or_eq_zero (n : Nat) :
    (Char.ofNat n).toNat = n ∨ (Char.ofNat n).toNat = 0 := by
  by_cases hValid : n.isValidChar
  · exact .inl (congrArg Char.toNat (dif_pos hValid))
  · exact .inr (congrArg Char.toNat (dif_neg hValid))

/-- A mark in front of the letters is the lower-case form of itself only. -/
theorem eq_of_mem_lowerIn {mark c : Char} {before behind : List Char} (hPos : 0 < mark.toNat)
    (hMark : mark.toNat < 65) (h : mark ∈ lowerIn before c behind) : mark = c := by
  have hOther {d : Char} (hd : 65 ≤ d.toNat) : mark ≠ d := by
    rintro rfl
    omega
  unfold lowerIn at h
  split at h
  next =>
    split at h
    · exact absurd (List.mem_singleton.mp h) (hOther (by decide))
    · exact absurd (List.mem_singleton.mp h) (hOther (by decide))
  next =>
    split at h
    next =>
      simp only [List.mem_cons, List.not_mem_nil, or_false] at h
      rcases h with h | h
      · exact absurd h (hOther (by decide))
      · exact absurd h (hOther (by decide))
    next =>
      have hForm := List.mem_singleton.mp h
      rcases lowerCode_eq_or_le c.toNat with hSame | hLetter
      · rw [hForm, hSame, Char.ofNat_toNat]
      · have hCode := toNat_ofNat_eq_or_eq_zero (lowerCode c.toNat)
        rw [← hForm] at hCode
        omega

theorem mem_of_mem_lowerFrom {mark : Char} {s before : List Char} (hPos : 0 < mark.toNat)
    (hMark : mark.toNat < 65) (h : mark ∈ lowerFrom before s) : mark ∈ s := by
  induction s generalizing before with
  | nil => exact h
  | cons c rest ih =>
      rcases List.mem_append.mp h with hHere | hBehind
      · rw [eq_of_mem_lowerIn hPos hMark hHere]
        exact List.mem_cons_self
      · exact List.mem_cons_of_mem c (ih hBehind)

theorem lower_ne_nil {s : List Char} (h : s ≠ []) : lower s ≠ [] := by
  obtain ⟨c, rest, rfl⟩ := List.exists_cons_of_ne_nil h
  have hForm : lowerIn [] c rest ≠ [] := by
    unfold lowerIn
    split
    · split <;> exact List.cons_ne_nil _ _
    · split <;> exact List.cons_ne_nil _ _
  exact List.append_ne_nil_of_left_ne_nil hForm _

end ProxyRouting.Text
