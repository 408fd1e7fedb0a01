import ProxyRouting.Text.Blank

/-! The ends of a text. What is dropped from an end stops at the first character that is to stay, so
that a text between blanks is what is left of it. -/
namespace ProxyRouting.Text

variable {p : Char → Bool} {s : List Char} {mark : Char}

theorem bne_of_not_mem (h : mark ∉ s) : ∀ c ∈ s, (c != mark) = true := by
  intro c hc
  rw [bne_iff_ne]
  rintro rfl
  exact h hc

theorem not_mem_of_forall (h : ∀ c ∈ s, p c = true) (hMark : p mark = false) : mark ∉ s := by
  intro hMem
  rw [h mark hMem] at hMark
  cases hMark

theorem dropWhile_eq_self_of_head? (h : ∀ c ∈ s.head?, p c = false) : s.dropWhile p = s := by
  cases s with
  | nil => rfl
  | cons c rest => rw [List.dropWhile_cons_of_neg (by simp [h c rfl])]

theorem takeWhile_eq_nil_of_head? (h : ∀ c ∈ s.head?, p c = false) : s.takeWhile p = [] := by
  cases s with
  | nil => rfl
  | cons c rest => rw [List.takeWhile_cons_of_neg (by simp [h c rfl])]

theorem dropWhile_eq_self_of_forall (h : ∀ c ∈ s, p c = false) : s.dropWhile p = s :=
  dropWhile_eq_self_of_head? fun c hc => h c (List.mem_of_mem_head? hc)

theorem dropEndWhile_eq_self_of_getLast? (h : ∀ c ∈ s.getLast?, p c = false) :
    dropEndWhile p s = s := by
  have hReverse : ∀ c ∈ s.reverse.head?, p c = false := by
    rw [List.head?_reverse]
    exact h
  rw [dropEndWhile, dropWhile_eq_self_of_head? hReverse, List.reverse_reverse]

theorem dropEndWhile_eq_self_of_forall (h : ∀ c ∈ s, p c = false) : dropEndWhile p s = s :=
  dropEndWhile_eq_self_of_getLast? fun c hc => h c (List.mem_of_getLast? hc)

theorem dropEndWhile_append_of_forall {behind : List Char} (h : ∀ c ∈ behind, p c = true) :
    dropEndWhile p (s ++ behind) = dropEndWhile p s := by
  rw [dropEndWhile, List.reverse_append,
    List.dropWhile_append_of_pos fun c hc => h c (List.mem_reverse.mp hc), dropEndWhile]

/-- The longest run of characters of a kind in front of a text that starts with another kind. -/
theorem takeWhile_append_of_head? {front : List Char} (hFront : ∀ c ∈ front, p c = true)
    (h : ∀ c ∈ s.head?, p c = false) : (front ++ s).takeWhile p = front := by
  rw [List.takeWhile_append_of_pos hFront, takeWhile_eq_nil_of_head? h, List.append_nil]

theorem dropWhile_append_of_head? {front : List Char} (hFront : ∀ c ∈ front, p c = true)
    (h : ∀ c ∈ s.head?, p c = false) : (front ++ s).dropWhile p = s := by
  rw [List.dropWhile_append_of_pos hFront, dropWhile_eq_self_of_head? h]

/-- A text without blanks at its ends is what is left when it stands between blanks. -/
theorem strip_append_append {front behind : List Char} (hFront : ∀ c ∈ front, isBlank c = true)
    (hBehind : ∀ c ∈ behind, isBlank c = true) (hs : s ≠ [])
    (hFirst : ∀ c ∈ s.head?, isBlank c = false) (hLast : ∀ c ∈ s.getLast?, isBlank c = false) :
    strip (front ++ (s ++ behind)) = s := by
  have hHead : ∀ c ∈ (s ++ behind).head?, isBlank c = false := by
    obtain ⟨first, rest, rfl⟩ := List.exists_cons_of_ne_nil hs
    exact hFirst
  rw [strip, dropWhile_append_of_head? hFront hHead, dropEndWhile_append_of_forall hBehind,
    dropEndWhile_eq_self_of_getLast? hLast]

/-- A text without blanks at its ends is left as it is. -/
theorem strip_eq_self (hFirst : ∀ c ∈ s.head?, isBlank c = false)
    (hLast : ∀ c ∈ s.getLast?, isBlank c = false) : strip s = s := by
  rw [strip, dropWhile_eq_self_of_head? hFirst, dropEndWhile_eq_self_of_getLast? hLast]

end ProxyRouting.Text
