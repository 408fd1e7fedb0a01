import Mathlib.Data.List.Infix
import Mathlib.Data.List.TakeWhile
import ProxyRouting.Text.Blank
import ProxyRouting.Text.Pieces

/-! Where a word occurs in a text. A character that the word does not have keeps apart what stands
on its two sides, so that blanks around a word without blanks do not matter, nor the indentation of
its line. -/
namespace ProxyRouting.Text

/-- A word does not reach over a character that it does not have. -/
theorem infix_append_cons {c : Char} {word s t : List Char} (h : c ∉ word) :
    word <:+: s ++ c :: t ↔ word <:+: s ∨ word <:+: t := by
  constructor
  · intro hInfix
    induction s with
    | nil =>
        rcases List.infix_cons_iff.mp hInfix with hPrefix | hBehind
        · cases word with
          | nil => exact .inl (List.nil_infix)
          | cons w word =>
              obtain ⟨rfl, -⟩ := List.cons_prefix_cons.mp hPrefix
              exact absurd List.mem_cons_self h
        · exact .inr hBehind
    | cons x s ih =>
        rcases List.infix_cons_iff.mp hInfix with hPrefix | hRest
        · refine .inl (List.IsPrefix.isInfix ?_)
          have hMark : x :: s ++ [c] <+: x :: (s ++ c :: t) := ⟨t, by simp⟩
          rcases List.prefix_or_prefix_of_prefix hPrefix hMark with hShort | hLong
          · rcases List.prefix_concat_iff.mp hShort with rfl | hShort
            · exact absurd (List.mem_append_right _ List.mem_cons_self) h
            · exact hShort
          · exact absurd (hLong.subset (List.mem_append_right _ List.mem_cons_self)) h
        · rcases ih hRest with hFront | hBehind
          · exact .inl (List.infix_cons hFront)
          · exact .inr hBehind
  · rintro (hFront | hBehind)
    · exact List.infix_append_of_infix_left hFront
    · exact List.infix_append_of_infix_right (List.infix_cons hBehind)

theorem infix_cons_of_not_mem {c : Char} {word s : List Char} (h : c ∉ word) :
    word <:+: c :: s ↔ word <:+: s := by
  have hSides := infix_append_cons (s := []) (t := s) h
  rw [List.nil_append, List.infix_nil] at hSides
  rw [hSides]
  constructor
  · rintro (rfl | hRest)
    · exact List.nil_infix
    · exact hRest
  · exact .inr

/-- What stands in front of a text counts for nothing when the word has none of its characters. -/
theorem infix_append_left_iff {word front s : List Char} (h : ∀ c ∈ front, c ∉ word) :
    word <:+: front ++ s ↔ word <:+: s := by
  induction front with
  | nil => rfl
  | cons c front ih =>
      rw [List.cons_append, infix_cons_of_not_mem (h c List.mem_cons_self),
        ih fun x hx => h x (List.mem_cons_of_mem c hx)]

theorem infix_append_right_iff {word s behind : List Char} (h : ∀ c ∈ behind, c ∉ word) :
    word <:+: s ++ behind ↔ word <:+: s := by
  rw [← List.reverse_infix, List.reverse_append, infix_append_left_iff, List.reverse_infix]
  intro c hc hMem
  exact h c (List.mem_reverse.mp hc) (List.mem_reverse.mp hMem)

theorem not_mem_of_isBlank {word : List Char} (h : ∀ c ∈ word, isBlank c = false) {c : Char}
    (hc : isBlank c = true) : c ∉ word := by
  intro hMem
  rw [h c hMem] at hc
  cases hc

theorem infix_dropWhile_iff {word s : List Char} (h : ∀ c ∈ word, isBlank c = false) :
    word <:+: s.dropWhile isBlank ↔ word <:+: s := by
  have hBlanks : ∀ c ∈ s.takeWhile isBlank, c ∉ word := by
    intro c hc
    exact not_mem_of_isBlank h (List.all_eq_true.mp List.all_takeWhile c hc)
  rw [← infix_append_left_iff hBlanks, List.takeWhile_append_dropWhile]

/-- The blanks at the ends of a text hold no word without blanks. -/
theorem infix_strip_iff {word s : List Char} (h : ∀ c ∈ word, isBlank c = false) :
    word <:+: strip s ↔ word <:+: s := by
  have hReverse : ∀ c ∈ word.reverse, isBlank c = false :=
    fun c hc => h c (List.mem_reverse.mp hc)
  rw [strip, dropEndWhile, ← List.reverse_infix, List.reverse_reverse,
    infix_dropWhile_iff hReverse, List.reverse_infix, infix_dropWhile_iff h]

/-- Nothing is left of a text without its blanks exactly when all of it is blank. -/
theorem strip_eq_nil_iff {s : List Char} : strip s = [] ↔ isEmptyOrBlank s = true := by
  rw [isEmptyOrBlank, List.all_eq_true]
  constructor
  · intro h c hc
    by_contra hFilled
    have hInfix : [c] <:+: strip s :=
      (infix_strip_iff (by simpa using hFilled)).mpr ((List.singleton_infix_iff c s).mpr hc)
    simp [h] at hInfix
  · intro h
    rw [strip, List.dropWhile_eq_nil_iff.mpr h]
    rfl

/-- A word of one line occurs in one of the lines. -/
theorem infix_joined_iff {mark : Char} {word : List Char} (h : mark ∉ word)
    {parts : List (List Char)} (hParts : parts ≠ []) :
    word <:+: joined [mark] parts ↔ ∃ part ∈ parts, word <:+: part := by
  induction parts with
  | nil => exact absurd rfl hParts
  | cons part others ih =>
      cases hOthers : others with
      | nil => simp [joined]
      | cons other more =>
          have hNe : others ≠ [] := by simp [hOthers]
          rw [← hOthers, joined_cons hNe, List.append_assoc, List.singleton_append,
            infix_append_cons h, ih hNe]
          simp only [List.mem_cons, exists_eq_or_imp]

theorem infix_append_flatMap_iff {α : Type} {mark : Char} {word : List Char} (h : mark ∉ word)
    (s : List Char) (f : α → List Char) (xs : List α) :
    word <:+: s ++ xs.flatMap (fun x => mark :: f x) ↔ word <:+: s ∨ ∃ x ∈ xs, word <:+: f x := by
  induction xs generalizing s with
  | nil => simp
  | cons x xs ih =>
      rw [List.flatMap_cons, List.cons_append, infix_append_cons h, ih]
      simp only [List.mem_cons, exists_eq_or_imp]

end ProxyRouting.Text
