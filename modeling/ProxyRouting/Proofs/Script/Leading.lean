import ProxyRouting.Proofs.Script.Source
import ProxyRouting.Proofs.Text.Occurrence

/-! Which declaration comes first. A declaration has the name of its function in it, and its words
are apart by nothing but blanks. So a text of whole lines without that name, in letters of any case,
can stand in front of a script without hiding the declaration of the script. -/
namespace ProxyRouting

namespace Text

theorem toNat_toLower (c : Char) : c.toLower.toNat = asciiLowerCode c.toNat := by
  have hUpper : (c.val ≥ 'A'.val ∧ c.val ≤ 'Z'.val) ↔ (65 ≤ c.toNat ∧ c.toNat ≤ 90) := by
    simp only [ge_iff_le, UInt32.le_iff_toNat_le]
    rfl
  simp only [asciiLowerCode, Bool.and_eq_true, decide_eq_true_eq, ← hUpper]
  unfold Char.toLower
  split
  next h =>
    have hShift : ('a'.val - 'A'.val).toNat = 32 := rfl
    have hBound := (hUpper.mp h).2
    show (c.val + ('a'.val - 'A'.val)).toNat = c.toNat + 32
    rw [UInt32.toNat_add, hShift]
    show (c.toNat + 32) % _ = _
    omega
  next => rfl

theorem toLower_eq_of_sameAsciiLetter {c d : Char} (h : sameAsciiLetter c d = true) :
    c.toLower = d.toLower := by
  apply Char.toNat_inj.mp
  rw [toNat_toLower, toNat_toLower]
  exact of_decide_eq_true h

/-- What stands in front of a mark is in front of it also when the text is split elsewhere behind a
part without the mark. -/
theorem exists_of_append_eq_append_cons {mark : Char} {front part s t : List Char}
    (h : part ++ s = front ++ mark :: t) (hPart : mark ∉ part) :
    ∃ between, front = part ++ between ∧ s = between ++ mark :: t := by
  rcases List.append_eq_append_iff.mp h with ⟨between, hFront, hs⟩ | ⟨between, hFront, hs⟩
  · exact ⟨between, hFront, hs⟩
  · cases between with
    | nil => exact ⟨[], by simpa using hFront.symm, by simpa using hs.symm⟩
    | cons c between =>
        obtain ⟨rfl, -⟩ := List.cons.inj hs
        exact absurd (hFront ▸ List.mem_append_right _ List.mem_cons_self) hPart

end Text

namespace Declaration

/-- A word that is found at the front stands there, in letters of some case. -/
theorem exists_of_afterWord? {word : String} {s rest : List Char}
    (h : afterWord? word s = some rest) :
    ∃ front, s = front ++ rest ∧ front.map Char.toLower = word.toList.map Char.toLower := by
  unfold afterWord? at h
  generalize word.toList = letters at h ⊢
  induction letters generalizing s with
  | nil =>
      obtain rfl : s = rest := Option.some.inj h
      exact ⟨[], rfl, rfl⟩
  | cons w letters ih =>
      cases s with
      | nil => cases h
      | cons c s =>
          rw [Text.after?] at h
          split at h
          next hSame =>
            obtain ⟨front, rfl, hFront⟩ := ih h
            refine ⟨c :: front, rfl, ?_⟩
            rw [List.map_cons, List.map_cons, hFront, Text.toLower_eq_of_sameAsciiLetter hSame]
          next => cases h

/-- The two words of a declaration stand apart with blanks between them. -/
theorem exists_of_atFront? {s : List Char} {d : Declaration} (h : atFront? s = some d) :
    ∃ keyword gap name rest, s = keyword ++ (gap ++ (name ++ rest)) ∧
      keyword.map Char.toLower = "function".toList ∧
      (∀ c ∈ gap, Text.isAsciiBlank c = true) ∧
      name.map Char.toLower = "findproxyforurl".toList := by
  simp only [atFront?, Option.bind_eq_bind, Option.bind_eq_some_iff] at h
  obtain ⟨afterKeyword, hKeyword, h⟩ := h
  split at h
  · cases h
  · obtain ⟨rest, hName, -⟩ := Option.bind_eq_some_iff.mp h
    obtain ⟨keyword, rfl, hFirst⟩ := exists_of_afterWord? hKeyword
    obtain ⟨name, hBehind, hSecond⟩ := exists_of_afterWord? hName
    refine ⟨keyword, afterKeyword.takeWhile Text.isAsciiBlank, name, rest, ?_, ?_, ?_, ?_⟩
    · rw [← hBehind, skipBlanks, List.takeWhile_append_dropWhile]
    · rw [hFirst]
      decide
    · exact fun c hc => List.all_eq_true.mp List.all_takeWhile c hc
    · rw [hSecond]
      decide

/-- A declaration that starts in whole lines has its name in them, if a word that is not the name
stands behind. -/
theorem infix_of_atFront?_append {lines rest : List Char} {d : Declaration}
    (h : atFront? (lines ++ '\n' :: 'f' :: 'u' :: rest) = some d) :
    "findproxyforurl".toList <:+: lines.map Char.toLower := by
  obtain ⟨keyword, gap, name, behind, hText, hKeyword, hGap, hName⟩ := exists_of_atFront? h
  have hMark : ∀ {word : List Char} {low : String}, word.map Char.toLower = low.toList →
      '\n' ∉ low.toList → '\n' ∉ word := by
    intro word low hLow hNot hMem
    have hLower := List.mem_map_of_mem (f := Char.toLower) hMem
    rw [hLow] at hLower
    exact hNot hLower
  obtain ⟨between, rfl, hBehind⟩ :=
    Text.exists_of_append_eq_append_cons hText.symm (hMark hKeyword (by decide))
  have hStart : ∀ s, name ++ behind = s → (s.map Char.toLower).take 2 = ['f', 'i'] := by
    rintro s rfl
    rw [List.map_append, hName]
    rfl
  rcases List.append_eq_append_iff.mp hBehind with ⟨more, rfl, hName'⟩ | ⟨blanks, rfl, hRest⟩
  -- The blanks end in the lines, and so does the name behind them.
  · obtain ⟨last, rfl, -⟩ :=
      Text.exists_of_append_eq_append_cons hName' (hMark hName (by decide))
    rw [← hName]
    exact ⟨(keyword ++ gap).map Char.toLower, last.map Char.toLower, by simp⟩
  -- The blanks go on behind the lines, where another word follows than the name.
  · cases blanks with
    | nil => exact absurd (hStart _ hRest.symm) (by simp)
    | cons c blanks =>
        cases blanks with
        | nil => exact absurd (hStart _ (List.cons.inj hRest).2.symm) (by simp)
        | cons d blanks =>
            obtain ⟨rfl, -⟩ := List.cons.inj (List.cons.inj hRest).2
            exact absurd (hGap 'f' (by simp)) (by decide)

/-- A declaration is found behind lines in which none starts. -/
theorem find?_append {front rest : List Char}
    (h : ∀ s, s ≠ [] → s <:+ front → atFront? (s ++ rest) = none) :
    find? (front ++ rest) = find? rest := by
  induction front with
  | nil => rfl
  | cons c front ih =>
      have hNone := h (c :: front) (by simp) List.suffix_rfl
      rw [List.cons_append] at hNone
      rw [List.cons_append, find?, hNone, Option.none_or]
      exact ih fun s hs hSuffix => h s hs (hSuffix.trans (List.suffix_cons c front))

/-- Whole lines without the name hide no declaration behind them. -/
theorem find?_lines_append {lines rest : List Char}
    (h : ¬ "findproxyforurl".toList <:+: lines.map Char.toLower) :
    find? (lines ++ '\n' :: 'f' :: 'u' :: rest) = find? ('f' :: 'u' :: rest) := by
  have hText : lines ++ '\n' :: 'f' :: 'u' :: rest = (lines ++ ['\n']) ++ 'f' :: 'u' :: rest := by
    simp
  rw [hText]
  apply find?_append
  intro s hs hSuffix
  rcases List.suffix_concat_iff.mp hSuffix with rfl | ⟨last, rfl, hLast⟩
  · exact absurd rfl hs
  · cases hFront : atFront? (last ++ ['\n'] ++ 'f' :: 'u' :: rest) with
    | none => rfl
    | some d =>
        rw [List.append_assoc, List.singleton_append] at hFront
        exact absurd ((infix_of_atFront?_append hFront).trans (hLast.isInfix.map Char.toLower)) h

end Declaration

namespace Script

/-- A word of one line that occurs in embedded functions, in letters of any case, occurs in one. -/
theorem exists_infix_source {word : List Char} (hWord : word ≠ []) (hLine : '\n' ∉ word)
    {functions : List Embedded}
    (h : word <:+: (functions.flatMap fun e => e.source.toList ++ ['\n', '\n']).map Char.toLower) :
    ∃ e ∈ functions, word <:+: e.source.toList.map Char.toLower := by
  induction functions with
  | nil => exact absurd (List.infix_nil.mp h) hWord
  | cons e functions ih =>
      have hBreaks : (e.source.toList ++ ['\n', '\n']).map Char.toLower =
          e.source.toList.map Char.toLower ++ '\n' :: ['\n'] := by
        rw [List.map_append]
        rfl
      rw [List.flatMap_cons, List.map_append, hBreaks, List.append_assoc, List.cons_append,
        Text.infix_append_cons hLine, List.singleton_append,
        Text.infix_cons_of_not_mem hLine] at h
      rcases h with hFirst | hRest
      · exact ⟨e, List.mem_cons_self, hFirst⟩
      · obtain ⟨f, hf, hInfix⟩ := ih hRest
        exact ⟨f, List.mem_cons_of_mem e hf, hInfix⟩

/-- The embedded functions hide the function that answers requests only if one of them has its name
in it, in letters of any case. -/
theorem find?_render {s : Script} (indent : String)
    (h : ∀ e ∈ s.functions,
      ¬ "findproxyforurl".toList <:+: e.source.toList.map Char.toLower) :
    Declaration.find? (s.render indent).toList = Declaration.find? (s.main indent) := by
  obtain ⟨rest, hMain⟩ : ∃ rest, s.main indent = 'f' :: 'u' :: rest := ⟨_, rfl⟩
  rw [toList_render, hMain]
  rcases List.eq_nil_or_concat s.functions with hNone | ⟨others, e, hLast⟩
  · rw [hNone]
    rfl
  · have hLines : (s.functions.flatMap fun e => e.source.toList ++ ['\n', '\n']) =
        ((others.flatMap fun e => e.source.toList ++ ['\n', '\n']) ++
          (e.source.toList ++ ['\n'])) ++ ['\n'] := by
      rw [hLast, List.concat_eq_append, List.flatMap_append, List.flatMap_singleton]
      simp only [List.append_assoc, List.cons_append, List.nil_append]
    have hFree : ¬ "findproxyforurl".toList <:+:
        (s.functions.flatMap fun e => e.source.toList ++ ['\n', '\n']).map Char.toLower := by
      intro hInfix
      obtain ⟨e, he, hSource⟩ := exists_infix_source (by decide) (by decide) hInfix
      exact h e he hSource
    rw [hLines] at hFree ⊢
    rw [List.append_assoc, List.singleton_append]
    apply Declaration.find?_lines_append
    intro hInfix
    rw [List.map_append] at hFree
    exact hFree (List.infix_append_of_infix_left hInfix)

end Script

end ProxyRouting
