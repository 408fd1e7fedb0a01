namespace ProxyRouting.Text

/-- What stands at the front of a text, and the text behind it. -/
abbrev Front (α : Type) := α × List Char

/-- The pieces of a text between the occurrences of `mark`; there is one more piece than marks. -/
def pieces (mark : Char) : List Char → List (List Char)
  | [] => [[]]
  | c :: rest =>
    if c = mark then [] :: pieces mark rest
    else match pieces mark rest with
      | [] => [[c]]
      | piece :: others => (c :: piece) :: others

/-- The texts one after another with `mark` between them. -/
def joined (mark : List Char) : List (List Char) → List Char
  | [] => []
  | [piece] => piece
  | piece :: others => piece ++ mark ++ joined mark others

theorem pieces_ne_nil (mark : Char) (s : List Char) : pieces mark s ≠ [] := by
  induction s with
  | nil => simp [pieces]
  | cons c rest ih =>
    simp only [pieces]
    split
    · simp
    · split <;> simp

/-- A piece in front of others is told apart from them by a mark. -/
theorem joined_cons {mark : List Char} {piece : List Char} {others : List (List Char)}
    (h : others ≠ []) : joined mark (piece :: others) = piece ++ mark ++ joined mark others := by
  cases others with
  | nil => exact absurd rfl h
  | cons other more => rfl

/-- Nothing is lost between the pieces but the marks. -/
theorem joined_pieces (mark : Char) (s : List Char) : joined [mark] (pieces mark s) = s := by
  induction s with
  | nil => rfl
  | cons c rest ih =>
    simp only [pieces]
    split
    next h => rw [joined_cons (pieces_ne_nil mark rest), ih, h]; rfl
    next =>
      cases hp : pieces mark rest with
      | nil => exact absurd hp (pieces_ne_nil mark rest)
      | cons piece others =>
        rw [hp] at ih
        cases others with
        | nil => simpa [joined] using ih
        | cons other more => simpa [joined] using ih

theorem not_mem_of_mem_pieces {mark : Char} {s piece : List Char} (h : piece ∈ pieces mark s) :
    mark ∉ piece := by
  induction s generalizing piece with
  | nil => simp_all [pieces]
  | cons c rest ih =>
    simp only [pieces] at h
    split at h
    · rcases List.mem_cons.mp h with rfl | h
      · simp
      · exact ih h
    next hc =>
      cases hp : pieces mark rest with
      | nil => exact absurd hp (pieces_ne_nil mark rest)
      | cons first others =>
        rw [hp] at h ih
        rcases List.mem_cons.mp h with rfl | h
        · have := ih List.mem_cons_self
          simp only [List.mem_cons, not_or]
          exact ⟨fun e => hc e.symm, this⟩
        · exact ih (List.mem_cons_of_mem _ h)

theorem length_pieces (mark : Char) (s : List Char) :
    (pieces mark s).length = s.count mark + 1 := by
  induction s with
  | nil => rfl
  | cons c rest ih =>
    simp only [pieces]
    split
    next h => simp [ih, h]
    next h =>
      cases hp : pieces mark rest with
      | nil => exact absurd hp (pieces_ne_nil mark rest)
      | cons first others =>
        rw [hp] at ih
        rw [List.count_cons_of_ne h]
        simpa using ih

/-- The text behind a word at the front, characters being compared by `same`. -/
def after? (same : Char → Char → Bool) : List Char → List Char → Option (List Char)
  | [], s => some s
  | w :: word, c :: s => if same w c then after? same word s else none
  | _ :: _, [] => none

/-- A word is found at the front of a text that starts with it. -/
theorem after?_eq_some_iff {word s rest : List Char} :
    after? (fun a b => a = b) word s = some rest ↔ s = word ++ rest := by
  induction word generalizing s with
  | nil => simp [after?, eq_comm]
  | cons w word ih =>
    cases s with
    | nil => simp [after?]
    | cons c s =>
      by_cases h : w = c
      · simp [after?, h, ih]
      · simp [after?, h, eq_comm]

def occurs (part : List Char) : List Char → Bool
  | [] => part.isEmpty
  | c :: rest => part.isPrefixOf (c :: rest) || occurs part rest

/-- A part occurs in a text that holds it somewhere. -/
theorem occurs_iff {part s : List Char} : occurs part s = true ↔ part <:+: s := by
  induction s with
  | nil => simp [occurs]
  | cons c rest ih => simp [occurs, ih, List.infix_cons_iff]

end ProxyRouting.Text
