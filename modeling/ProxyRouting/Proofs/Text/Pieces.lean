import ProxyRouting.Text.Pieces

/-! Splitting a text at a mark undoes joining with it. -/
namespace ProxyRouting.Text

theorem pieces_of_not_mem {mark : Char} {s : List Char} (h : mark ∉ s) : pieces mark s = [s] := by
  induction s with
  | nil => rfl
  | cons c rest ih =>
      simp only [List.mem_cons, not_or] at h
      rw [pieces, if_neg (Ne.symm h.1), ih h.2]

/-- A text is one piece when it has no mark. -/
theorem pieces_eq_singleton_iff {mark : Char} {s : List Char} :
    pieces mark s = [s] ↔ mark ∉ s := by
  constructor
  · intro h
    have hLength := length_pieces mark s
    rw [h, List.length_singleton] at hLength
    exact List.count_eq_zero.mp (by omega)
  · exact pieces_of_not_mem

/-- The pieces in front of a mark are followed by those behind it. -/
theorem pieces_append_mark (mark : Char) (s t : List Char) :
    pieces mark (s ++ mark :: t) = pieces mark s ++ pieces mark t := by
  induction s with
  | nil => simp [pieces]
  | cons c s ih =>
      rw [List.cons_append, pieces, pieces, ih]
      split
      next => rfl
      next =>
        obtain ⟨piece, others, hPieces⟩ := List.exists_cons_of_ne_nil (pieces_ne_nil mark s)
        rw [hPieces]
        rfl

theorem pieces_append_cons {mark : Char} {piece rest : List Char} (h : mark ∉ piece) :
    pieces mark (piece ++ mark :: rest) = piece :: pieces mark rest := by
  rw [pieces_append_mark, pieces_of_not_mem h, List.singleton_append]

/-- Joined texts are the first one and each other one behind a mark. -/
theorem joined_cons_eq_flatMap (mark part : List Char) (others : List (List Char)) :
    joined mark (part :: others) = part ++ others.flatMap fun other => mark ++ other := by
  induction others generalizing part with
  | nil => simp [joined]
  | cons other others ih =>
      rw [joined_cons (by simp), ih, List.flatMap_cons, List.append_assoc, List.append_assoc]

/-- Texts without a mark are the pieces of what joins them with it. -/
theorem pieces_joined {mark : Char} {parts : List (List Char)} (hParts : parts ≠ [])
    (h : ∀ part ∈ parts, mark ∉ part) : pieces mark (joined [mark] parts) = parts := by
  induction parts with
  | nil => exact absurd rfl hParts
  | cons part others ih =>
      have hPart := h part List.mem_cons_self
      cases others with
      | nil => exact pieces_of_not_mem hPart
      | cons other others =>
          rw [joined_cons (by simp), List.append_assoc, List.singleton_append,
            pieces_append_cons hPart, ih (by simp) fun p hp => h p (List.mem_cons_of_mem part hp)]

theorem joined_eq_intercalate (mark : List Char) (parts : List (List Char)) :
    joined mark parts = mark.intercalate parts := by
  induction parts with
  | nil => rfl
  | cons part others ih =>
      cases others with
      | nil => rw [List.intercalate_singleton, joined]
      | cons other others =>
          rw [joined_cons (List.cons_ne_nil _ _), ih, List.intercalate_cons_cons]

/-- Of joined texts each one but the last stands in front of a mark. -/
theorem joined_concat (mark : List Char) (front : List (List Char)) (last : List Char) :
    joined mark (front ++ [last]) = front.flatMap (· ++ mark) ++ last := by
  induction front with
  | nil => rfl
  | cons part front ih =>
      rw [List.cons_append, joined_cons (by simp), ih, List.flatMap_cons, ← List.append_assoc]

/-- The first piece reaches up to the first mark, and the others are those of what stands behind. -/
theorem pieces_eq_cons_iff {mark : Char} {s piece : List Char} {others : List (List Char)} :
    pieces mark s = piece :: others ↔ mark ∉ piece ∧
      (s = piece ∧ others = [] ∨ ∃ rest, s = piece ++ mark :: rest ∧ pieces mark rest = others) := by
  constructor
  · intro h
    have hFree : ∀ part ∈ piece :: others, mark ∉ part := fun part hPart =>
      not_mem_of_mem_pieces (h ▸ hPart)
    have hJoined := joined_pieces mark s
    rw [h] at hJoined
    refine ⟨hFree piece List.mem_cons_self, ?_⟩
    cases others with
    | nil => exact .inl ⟨hJoined.symm, rfl⟩
    | cons other others =>
        rw [joined_cons (by simp), List.append_assoc, List.singleton_append] at hJoined
        exact .inr ⟨_, hJoined.symm,
          pieces_joined (by simp) fun part hPart => hFree part (List.mem_cons_of_mem piece hPart)⟩
  · rintro ⟨hPiece, ⟨rfl, rfl⟩ | ⟨rest, rfl, rfl⟩⟩
    · exact pieces_of_not_mem hPiece
    · exact pieces_append_cons hPiece

/-- The characters of a piece are characters of the text. -/
theorem mem_of_mem_pieces {mark c : Char} {s piece : List Char} (hPiece : piece ∈ pieces mark s)
    (hc : c ∈ piece) : c ∈ s := by
  have hJoined : ∀ parts : List (List Char), piece ∈ parts → c ∈ joined [mark] parts := by
    intro parts hParts
    induction parts with
    | nil => cases hParts
    | cons part others ih =>
        cases others with
        | nil =>
            rw [← List.mem_singleton.mp hParts]
            exact hc
        | cons other others =>
            rw [joined_cons (by simp)]
            rcases List.mem_cons.mp hParts with rfl | hOthers
            · exact List.mem_append_left _ (List.mem_append_left _ hc)
            · exact List.mem_append_right _ (ih hOthers)
  rw [← joined_pieces mark s]
  exact hJoined _ hPiece

/-- A character of a text is a mark or stands in one of the pieces. -/
theorem eq_or_exists_mem_pieces (mark : Char) {c : Char} {s : List Char} (h : c ∈ s) :
    c = mark ∨ ∃ piece ∈ pieces mark s, c ∈ piece := by
  induction s with
  | nil => cases h
  | cons first rest ih =>
      rw [pieces]
      split
      next hMark =>
        rcases List.mem_cons.mp h with rfl | hRest
        · exact .inl hMark
        · rcases ih hRest with hEq | ⟨piece, hPiece, hc⟩
          · exact .inl hEq
          · exact .inr ⟨piece, List.mem_cons_of_mem [] hPiece, hc⟩
      next hMark =>
        cases hPieces : pieces mark rest with
        | nil => exact absurd hPieces (pieces_ne_nil mark rest)
        | cons piece others =>
            rw [hPieces] at ih
            rcases List.mem_cons.mp h with rfl | hRest
            · exact .inr ⟨_, List.mem_cons_self, List.mem_cons_self⟩
            · rcases ih hRest with hEq | ⟨part, hPart, hc⟩
              · exact .inl hEq
              · rcases List.mem_cons.mp hPart with rfl | hOther
                · exact .inr ⟨_, List.mem_cons_self, List.mem_cons_of_mem first hc⟩
                · exact .inr ⟨part, List.mem_cons_of_mem _ hOther, hc⟩

end ProxyRouting.Text
