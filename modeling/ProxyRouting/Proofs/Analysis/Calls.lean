import ProxyRouting.Analysis.Basic

/-! Which functions a script calls. Both critical constructs are calls, of a function whose name
ends in a letter that no function ends in which a compiled script calls. So it is enough to look at
the last letter in front of each opening parenthesis. -/
namespace ProxyRouting

/-- The last character that is not blank, once one more character is read. -/
def lastWith (last c : Char) : Char := if Text.isBlank c then last else c

/-- Whether no parenthesis opens behind one of the letters that the names of forbidden functions end
in. Blanks may stand between the two; `last` is the last character in front of the text that is not
blank. -/
def callsAreSafe : (last : Char) → List Char → Bool
  | _, [] => true
  | last, c :: rest => !(c = '(' && (last = 'l' || last = 'n')) && callsAreSafe (lastWith last c) rest

/-- The last character of a text that is not blank, or `last` when there is none. -/
def lastFilled (last : Char) (s : List Char) : Char := s.foldl lastWith last

theorem callsAreSafe_append (last : Char) (s t : List Char) :
    callsAreSafe last (s ++ t) = (callsAreSafe last s && callsAreSafe (lastFilled last s) t) := by
  induction s generalizing last with
  | nil => rfl
  | cons c s ih =>
      rw [List.cons_append, callsAreSafe, callsAreSafe, ih, Bool.and_assoc]
      rfl

theorem callsAreSafe_of_not_mem {s : List Char} (h : '(' ∉ s) (last : Char) :
    callsAreSafe last s = true := by
  induction s generalizing last with
  | nil => rfl
  | cons c s ih =>
      simp only [List.mem_cons, not_or] at h
      rw [callsAreSafe, ih h.2]
      simp [Ne.symm h.1]

theorem callsAreSafe_blanks {last : Char} (h : last = 'l' ∨ last = 'n') {run : List Char}
    (hRun : ∀ c ∈ run, Text.isBlank c = true) (rest : List Char) :
    callsAreSafe last (run ++ '(' :: rest) = false := by
  induction run with
  | nil => rcases h with rfl | rfl <;> simp [callsAreSafe]
  | cons c run ih =>
      have hOthers := ih fun x hx => hRun x (List.mem_cons_of_mem c hx)
      rw [List.cons_append, callsAreSafe, lastWith, if_pos (hRun c List.mem_cons_self), hOthers,
        Bool.and_false]

theorem exists_callsAreSafe_of_suffix {last : Char} {s t : List Char} (h : t <:+ s)
    (hSafe : callsAreSafe last s = true) : ∃ last', callsAreSafe last' t = true := by
  obtain ⟨front, rfl⟩ := h
  rw [callsAreSafe_append, Bool.and_eq_true] at hSafe
  exact ⟨_, hSafe.2⟩

/-- A word of a phrase stands at the front of a text in which the phrase is found. -/
theorem exists_of_phraseLength?_word {word : String} {pieces : List Piece} {s : List Char}
    (h : (phraseLength? (.word word :: pieces) s).isSome) :
    ∃ rest, s = word.toList ++ rest ∧ (phraseLength? pieces rest).isSome := by
  rw [phraseLength?] at h
  cases hAfter : Text.after? (fun a b => a = b) word.toList s with
  | none => simp [hAfter] at h
  | some rest =>
      rw [hAfter] at h
      exact ⟨rest, Text.after?_eq_some_iff.mp hAfter, by simpa using h⟩

theorem exists_of_phraseLength?_blanks {least : Nat} {pieces : List Piece} {s : List Char}
    (h : (phraseLength? (.blanks least :: pieces) s).isSome) :
    ∃ run rest, s = run ++ rest ∧ (∀ c ∈ run, Text.isBlank c = true) ∧
      (phraseLength? pieces rest).isSome := by
  rw [phraseLength?] at h
  split at h
  · cases h
  · refine ⟨s.takeWhile Text.isBlank, s.dropWhile Text.isBlank, ?_, ?_, by simpa using h⟩
    · exact (List.takeWhile_append_dropWhile).symm
    · exact List.all_eq_true.mp List.all_takeWhile

/-- A phrase that ends in a word, blanks and a parenthesis ends in a call. -/
theorem not_callsAreSafe_of_call {word : String} {least : Nat} {s : List Char}
    (hWord : ∀ last, lastFilled last word.toList = 'l' ∨ lastFilled last word.toList = 'n')
    (h : (phraseLength? [.word word, .blanks least, .word "("] s).isSome) (last : Char) :
    callsAreSafe last s = false := by
  obtain ⟨behindWord, rfl, hBlanks⟩ := exists_of_phraseLength?_word h
  obtain ⟨run, behindRun, rfl, hRun, hParen⟩ := exists_of_phraseLength?_blanks hBlanks
  obtain ⟨rest, rfl, -⟩ := exists_of_phraseLength?_word hParen
  rw [callsAreSafe_append]
  change (_ && callsAreSafe _ (run ++ '(' :: rest)) = false
  rw [callsAreSafe_blanks (hWord last) hRun, Bool.and_false]

theorem length?_of_callsAreSafe {c : Construct} (hMem : c ∈ Construct.all)
    (hCritical : c.gravity = .critical) {last : Char} {s : List Char}
    (h : callsAreSafe last s = true) : c.length? s = none := by
  have hEval : phraseLength? [.word "eval", .blanks 0, .word "("] s = none := by
    cases hFound : phraseLength? [.word "eval", .blanks 0, .word "("] s with
    | none => rfl
    | some n =>
        have hCall := not_callsAreSafe_of_call (fun _ => .inl rfl) (by rw [hFound]; rfl) last
        rw [h] at hCall
        cases hCall
  have hFunction : phraseLength?
      [.word "new", .blanks 1, .word "Function", .blanks 0, .word "("] s = none := by
    cases hFound : phraseLength?
        [.word "new", .blanks 1, .word "Function", .blanks 0, .word "("] s with
    | none => rfl
    | some n =>
        obtain ⟨behindNew, rfl, hBlanks⟩ := exists_of_phraseLength?_word (by rw [hFound]; rfl)
        obtain ⟨run, behindRun, rfl, -, hCall⟩ := exists_of_phraseLength?_blanks hBlanks
        rw [callsAreSafe_append, callsAreSafe_append,
          not_callsAreSafe_of_call (fun _ => .inr rfl) hCall, Bool.and_false, Bool.and_false] at h
        cases h
  simp only [Construct.all, List.mem_cons, List.not_mem_nil, or_false] at hMem
  rcases hMem with rfl | rfl | rfl | rfl | rfl | rfl | rfl | rfl
  · simp [Construct.length?, hEval]
  · simp [Construct.length?, hFunction]
  all_goals cases hCritical

theorem linesFrom_eq_nil {c : Construct} {s : List Char} (h : ∀ t, t <:+ s → c.length? t = none)
    (line : Nat) : c.linesFrom 0 line s = [] := by
  induction s generalizing line with
  | nil => rfl
  | cons x rest ih =>
      rw [Construct.linesFrom, h _ List.suffix_rfl]
      exact ih (fun t ht => h t (ht.trans (List.suffix_cons x rest))) _

theorem critical_eq_nil {script : List Char} (h : callsAreSafe ' ' script = true)
    (settings : Settings) (said : Option (List String)) :
    (Analysis.ofScript settings said script).critical = [] := by
  rw [Analysis.critical, List.filter_eq_nil_iff]
  intro issue hIssue
  simp only [decide_eq_true_eq]
  intro hGravity
  rw [Analysis.ofScript] at hIssue
  obtain ⟨c, hMem, hLine⟩ := List.mem_flatMap.mp hIssue
  obtain ⟨line, hLine, rfl⟩ := List.mem_map.mp hLine
  have hNone : ∀ t, t <:+ script → c.length? t = none := by
    intro t ht
    obtain ⟨last, hSafe⟩ := exists_callsAreSafe_of_suffix ht h
    exact length?_of_callsAreSafe hMem hGravity hSafe
  rw [linesFrom_eq_nil hNone] at hLine
  cases hLine

end ProxyRouting
