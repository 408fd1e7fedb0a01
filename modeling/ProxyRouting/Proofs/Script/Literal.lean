import ProxyRouting.Script.Condition

/-! Quoted texts in the source text of a script. The text is taken apart into what stands outside
quotes and what the quoted texts are, in turn. Inside quotes two backslashes are one, a single one
is refused, and so is a line break. -/
namespace ProxyRouting.Literal

/-- Put a character in front of the first of several texts. -/
def consFirst (c : Char) : List (List Char) → List (List Char)
  | [] => [[c]]
  | s :: others => (c :: s) :: others

/-- The texts outside and inside quotes in turn. The first one is outside unless `quoted` says that
a quote was opened before; the last one is outside. -/
def parts? : (quoted : Bool) → List Char → Option (List (List Char))
  | false, [] => some [[]]
  | true, [] => none
  | quoted, '"' :: rest => (parts? (!quoted) rest).map ([] :: ·)
  | true, '\\' :: '\\' :: rest => (parts? true rest).map (consFirst '\\')
  | true, c :: rest =>
    if c = '\\' || c = '\n' || c = '\r' then none else (parts? true rest).map (consFirst c)
  | false, c :: rest => (parts? false rest).map (consFirst c)

/-- A text that can stand inside quotes once its backslashes are doubled. -/
def IsPlain (s : List Char) : Prop := ∀ c ∈ s, c ≠ '"' ∧ c ≠ '\n' ∧ c ≠ '\r'

instance (s : List Char) : Decidable (IsPlain s) :=
  decidable_of_iff (s.all (fun c => c != '"' && c != '\n' && c != '\r') = true) (by
    simp only [IsPlain, List.all_eq_true, Bool.and_eq_true, bne_iff_ne, and_assoc])

@[simp] theorem parts?_outside_nil : parts? false [] = some [[]] := rfl

@[simp] theorem parts?_quote (quoted : Bool) (rest : List Char) :
    parts? quoted ('"' :: rest) = (parts? (!quoted) rest).map ([] :: ·) := by
  cases quoted <;> simp [parts?]

theorem parts?_outside_cons {c : Char} (rest : List Char) (h : c ≠ '"') :
    parts? false (c :: rest) = (parts? false rest).map (consFirst c) := by
  rw [parts?]
  exact fun h' => h h'

theorem parts?_inside_cons {c : Char} (rest : List Char) (hQuote : c ≠ '"') (hSlash : c ≠ '\\')
    (hLine : c ≠ '\n') (hReturn : c ≠ '\r') :
    parts? true (c :: rest) = (parts? true rest).map (consFirst c) := by
  rw [parts?]
  · simp [hSlash, hLine, hReturn]
  · exact hQuote
  · exact fun _ h => absurd h hSlash

/-- Text without a quote in front of others stands outside with the first of them. -/
theorem parts?_outside {code rest : List Char} (h : '"' ∉ code) {first : List Char}
    {others : List (List Char)} (hRest : parts? false rest = some (first :: others)) :
    parts? false (code ++ rest) = some ((code ++ first) :: others) := by
  induction code with
  | nil => exact hRest
  | cons c code ih =>
      simp only [List.mem_cons, not_or] at h
      rw [List.cons_append, parts?_outside_cons _ (Ne.symm h.1), ih h.2]
      rfl

/-- A text with its backslashes doubled, up to a quote that closes it, is read as it was. -/
theorem parts?_inside {s rest : List Char} (h : IsPlain s) :
    parts? true (doubleBackslashes s ++ '"' :: rest) = (parts? false rest).map (s :: ·) := by
  induction s with
  | nil => simp [doubleBackslashes]
  | cons c s ih =>
      have hRest := ih fun x hx => h x (List.mem_cons_of_mem c hx)
      obtain ⟨hQuote, hLine, hReturn⟩ := h c List.mem_cons_self
      have hSplit : doubleBackslashes (c :: s) =
          (if c = '\\' then ['\\', '\\'] else [c]) ++ doubleBackslashes s := rfl
      rw [hSplit]
      by_cases hSlash : c = '\\'
      · subst hSlash
        simp only [if_true, List.cons_append, List.nil_append, parts?, hRest]
        cases parts? false rest <;> rfl
      · simp only [if_neg hSlash, List.cons_append, List.nil_append,
          parts?_inside_cons _ hQuote hSlash hLine hReturn, hRest]
        cases parts? false rest <;> rfl

theorem doubleBackslashes_of_not_mem {s : List Char} (h : '\\' ∉ s) : doubleBackslashes s = s := by
  induction s with
  | nil => rfl
  | cons c s ih =>
      simp only [List.mem_cons, not_or] at h
      change (if c = '\\' then ['\\', '\\'] else [c]) ++ doubleBackslashes s = c :: s
      rw [if_neg (Ne.symm h.1), ih h.2]
      rfl

/-- Code, a quoted text and what stands behind it. -/
theorem parts?_quoted {code s rest first : List Char} {others : List (List Char)}
    (hCode : '"' ∉ code) (hText : IsPlain s) (hRest : parts? false rest = some (first :: others)) :
    parts? false (code ++ '"' :: (doubleBackslashes s ++ '"' :: rest)) =
      some (code :: s :: first :: others) := by
  have hQuote : parts? false ('"' :: (doubleBackslashes s ++ '"' :: rest)) =
      some ([] :: s :: first :: others) := by
    rw [parts?_quote, Bool.not_false, parts?_inside hText, hRest]
    rfl
  rw [parts?_outside hCode hQuote, List.append_nil]

theorem parts?_code {code : List Char} (h : '"' ∉ code) : parts? false code = some [code] := by
  have hCode := parts?_outside h parts?_outside_nil
  rwa [List.append_nil] at hCode

end ProxyRouting.Literal
