import ProxyRouting.Script.Embedded

/-! Counting braces. The body of a function ends at the first brace that closes more than was opened
behind its start, so that it closes what it opens, whatever its source text. Blanks at its ends and
the indentation of its lines change nothing in that. -/
namespace ProxyRouting

def isBrace (c : Char) : Bool := c = '\x7b' || c = '\x7d'

theorem brace_cases (c : Char) : c = '\x7b' ∨ c = '\x7d' ∨ isBrace c = false := by
  by_cases hOpen : c = '\x7b'
  · exact .inl hOpen
  · by_cases hClose : c = '\x7d'
    · exact .inr (.inl hClose)
    · exact .inr (.inr (by simp [isBrace, hOpen, hClose]))

/-- How many braces are open behind a text, `depth` being open in front of it; none when it closes
more than are open. Braces in quotes and comments count like all others. -/
def bracesOpen (depth : Nat) : List Char → Option Nat
  | [] => some depth
  | c :: rest =>
    if c = '\x7b' then bracesOpen (depth + 1) rest
    else if c = '\x7d' then
      match depth with
      | 0 => none
      | depth + 1 => bracesOpen depth rest
    else bracesOpen depth rest

@[simp] theorem bracesOpen_nil (depth : Nat) : bracesOpen depth [] = some depth := rfl

@[simp] theorem bracesOpen_open (depth : Nat) (rest : List Char) :
    bracesOpen depth ('\x7b' :: rest) = bracesOpen (depth + 1) rest := rfl

@[simp] theorem bracesOpen_close (depth : Nat) (rest : List Char) :
    bracesOpen (depth + 1) ('\x7d' :: rest) = bracesOpen depth rest := rfl

@[simp] theorem bracesOpen_stray (rest : List Char) : bracesOpen 0 ('\x7d' :: rest) = none := rfl

theorem bracesOpen_cons {c : Char} (h : isBrace c = false) (depth : Nat) (rest : List Char) :
    bracesOpen depth (c :: rest) = bracesOpen depth rest := by
  simp only [isBrace, Bool.or_eq_false_iff, decide_eq_false_iff_not] at h
  exact (if_neg h.1).trans (if_neg h.2)

theorem bracesOpen_append (depth : Nat) (s t : List Char) :
    bracesOpen depth (s ++ t) = (bracesOpen depth s).bind fun left => bracesOpen left t := by
  induction s generalizing depth with
  | nil => rfl
  | cons c s ih =>
      rw [List.cons_append]
      rcases brace_cases c with rfl | rfl | hPlain
      · exact ih (depth + 1)
      · cases depth with
        | zero => rfl
        | succ depth => exact ih depth
      · rw [bracesOpen_cons hPlain, bracesOpen_cons hPlain, ih]

/-- Further braces that are open in front of a text are open behind it. -/
theorem bracesOpen_add {depth left : Nat} {s : List Char} (h : bracesOpen depth s = some left)
    (more : Nat) : bracesOpen (depth + more) s = some (left + more) := by
  induction s generalizing depth with
  | nil => simpa using h
  | cons c s ih =>
      rcases brace_cases c with rfl | rfl | hPlain
      · rw [bracesOpen_open, Nat.add_right_comm]
        exact ih h
      · cases depth with
        | zero => cases h
        | succ depth =>
            rw [Nat.add_right_comm, bracesOpen_close]
            exact ih h
      · rw [bracesOpen_cons hPlain] at h ⊢
        exact ih h

theorem count_of_bracesOpen {depth left : Nat} {s : List Char} (h : bracesOpen depth s = some left) :
    depth + s.count '\x7b' = left + s.count '\x7d' := by
  induction s generalizing depth with
  | nil =>
      obtain rfl := Option.some.inj h
      rfl
  | cons c s ih =>
      rcases brace_cases c with rfl | rfl | hPlain
      · have hRest := ih h
        simp
        omega
      · cases depth with
        | zero => cases h
        | succ depth =>
            have hRest := ih h
            simp
            omega
      · rw [bracesOpen_cons hPlain] at h
        simp only [isBrace, Bool.or_eq_false_iff, decide_eq_false_iff_not] at hPlain
        rw [List.count_cons_of_ne hPlain.1, List.count_cons_of_ne hPlain.2]
        exact ih h

/-- A text without braces. -/
def HasNoBraces (s : List Char) : Prop := ∀ c ∈ s, isBrace c = false

instance (s : List Char) : Decidable (HasNoBraces s) :=
  List.decidableBAll (fun c => isBrace c = false) s

theorem hasNoBraces_iff {s : List Char} : HasNoBraces s ↔ '\x7b' ∉ s ∧ '\x7d' ∉ s := by
  constructor
  · intro h
    exact ⟨fun hMem => absurd (h _ hMem) (by decide), fun hMem => absurd (h _ hMem) (by decide)⟩
  · rintro ⟨hOpen, hClose⟩ c hc
    rcases brace_cases c with rfl | rfl | hPlain
    · exact absurd hc hOpen
    · exact absurd hc hClose
    · exact hPlain

theorem HasNoBraces.append {s t : List Char} (hs : HasNoBraces s) (ht : HasNoBraces t) :
    HasNoBraces (s ++ t) := by
  intro c hc
  rcases List.mem_append.mp hc with hc | hc
  · exact hs c hc
  · exact ht c hc

theorem hasNoBraces_cons {c : Char} {s : List Char} :
    HasNoBraces (c :: s) ↔ isBrace c = false ∧ HasNoBraces s :=
  List.forall_mem_cons

theorem HasNoBraces.flatMap {α : Type} {f : α → List Char} {xs : List α}
    (h : ∀ x ∈ xs, HasNoBraces (f x)) : HasNoBraces (xs.flatMap f) := by
  intro c hc
  obtain ⟨x, hx, hMem⟩ := List.mem_flatMap.mp hc
  exact h x hx c hMem

theorem HasNoBraces.bracesOpen_append {s : List Char} (h : HasNoBraces s) (depth : Nat)
    (t : List Char) : bracesOpen depth (s ++ t) = bracesOpen depth t := by
  induction s with
  | nil => rfl
  | cons c s ih =>
      obtain ⟨hc, hs⟩ := hasNoBraces_cons.mp h
      rw [List.cons_append, bracesOpen_cons hc, ih hs]

theorem HasNoBraces.bracesOpen_eq {s : List Char} (h : HasNoBraces s) (depth : Nat) :
    bracesOpen depth s = some depth := by
  rw [← List.append_nil s, h.bracesOpen_append, bracesOpen_nil]

theorem HasNoBraces.append_bracesOpen {t : List Char} (h : HasNoBraces t) (depth : Nat)
    (s : List Char) : bracesOpen depth (s ++ t) = bracesOpen depth s := by
  simp only [ProxyRouting.bracesOpen_append, h.bracesOpen_eq, Option.bind_fun_some]

namespace Text

theorem isBrace_of_isBlank {c : Char} (h : isBlank c = true) : isBrace c = false := by
  refine Bool.eq_false_iff.mpr fun hBrace => ?_
  simp only [isBrace, Bool.or_eq_true, decide_eq_true_eq] at hBrace
  rcases hBrace with rfl | rfl <;> exact absurd h (by decide)

theorem bracesOpen_strip (depth : Nat) (s : List Char) :
    bracesOpen depth (strip s) = bracesOpen depth s := by
  have hBlanks : ∀ t : List Char, HasNoBraces (t.takeWhile isBlank) :=
    fun t c hc => isBrace_of_isBlank (List.all_eq_true.mp List.all_takeWhile c hc)
  have hFront : bracesOpen depth (s.dropWhile isBlank) = bracesOpen depth s := by
    rw [← (hBlanks s).bracesOpen_append, List.takeWhile_append_dropWhile]
  have hEnd : ∀ t, bracesOpen depth (dropEndWhile isBlank t) = bracesOpen depth t := by
    intro t
    have hSplit : dropEndWhile isBlank t ++ (t.reverse.takeWhile isBlank).reverse = t := by
      rw [dropEndWhile, ← List.reverse_append, List.takeWhile_append_dropWhile,
        List.reverse_reverse]
    have hLast : HasNoBraces (t.reverse.takeWhile isBlank).reverse :=
      fun c hc => hBlanks t.reverse c (List.mem_reverse.mp hc)
    rw [← hLast.append_bracesOpen, hSplit]
  rw [strip, hEnd, hFront]

end Text

theorem bracesOpen_joined (depth : Nat) (lines : List (List Char)) :
    bracesOpen depth (Text.joined ['\n'] (lines.map fun line => ' ' :: ' ' :: line)) =
      bracesOpen depth (Text.joined ['\n'] lines) := by
  induction lines generalizing depth with
  | nil => rfl
  | cons line others ih =>
      cases others with
      | nil => rfl
      | cons other others =>
          rw [List.map_cons, Text.joined_cons (by simp), Text.joined_cons (by simp),
            List.append_assoc, List.append_assoc, bracesOpen_append, bracesOpen_append]
          have hLine : bracesOpen depth (' ' :: ' ' :: line) = bracesOpen depth line := rfl
          rw [hLine]
          congr 1
          funext left
          exact ih left

theorem bracesOpen_indentLines (depth : Nat) (s : List Char) :
    bracesOpen depth (indentLines s) = bracesOpen depth s := by
  rw [indentLines, bracesOpen_joined, Text.joined_pieces]

theorem untilClosed_open (depth : Nat) (rest : List Char) :
    untilClosed depth ('\x7b' :: rest) = (untilClosed (depth + 1) rest).map ('\x7b' :: ·) := rfl

theorem untilClosed_close (depth : Nat) (rest : List Char) :
    untilClosed (depth + 1) ('\x7d' :: rest) = (untilClosed depth rest).map ('\x7d' :: ·) := rfl

theorem untilClosed_stray (rest : List Char) : untilClosed 0 ('\x7d' :: rest) = some [] := rfl

theorem untilClosed_cons {c : Char} (h : isBrace c = false) (depth : Nat) (rest : List Char) :
    untilClosed depth (c :: rest) = (untilClosed depth rest).map (c :: ·) := by
  simp only [isBrace, Bool.or_eq_false_iff, decide_eq_false_iff_not] at h
  exact (if_neg h.1).trans (if_neg h.2)

/-- The text up to the brace that closes the outermost one is what stands in front of a closing brace
and leaves no other one open. -/
theorem untilClosed_eq_some_iff {depth : Nat} {s body : List Char} :
    untilClosed depth s = some body ↔
      bracesOpen depth body = some 0 ∧ ∃ rest, s = body ++ '\x7d' :: rest := by
  constructor
  · intro h
    induction s generalizing depth body with
    | nil => cases h
    | cons c s ih =>
        rcases brace_cases c with rfl | rfl | hPlain
        · obtain ⟨inner, hInner, rfl⟩ := Option.map_eq_some_iff.mp h
          obtain ⟨hOpen, rest, rfl⟩ := ih hInner
          exact ⟨hOpen, rest, rfl⟩
        · cases depth with
          | zero =>
              obtain rfl := Option.some.inj h
              exact ⟨rfl, s, rfl⟩
          | succ depth =>
              obtain ⟨inner, hInner, rfl⟩ := Option.map_eq_some_iff.mp h
              obtain ⟨hOpen, rest, rfl⟩ := ih hInner
              exact ⟨hOpen, rest, rfl⟩
        · rw [untilClosed_cons hPlain] at h
          obtain ⟨inner, hInner, rfl⟩ := Option.map_eq_some_iff.mp h
          obtain ⟨hOpen, rest, rfl⟩ := ih hInner
          exact ⟨by rw [bracesOpen_cons hPlain, hOpen], rest, rfl⟩
  · rintro ⟨h, rest, rfl⟩
    induction body generalizing depth with
    | nil =>
        obtain rfl := Option.some.inj h
        rfl
    | cons c body ih =>
        rw [List.cons_append]
        rcases brace_cases c with rfl | rfl | hPlain
        · rw [untilClosed_open, ih h, Option.map_some]
        · cases depth with
          | zero => cases h
          | succ depth => rw [untilClosed_close, ih h, Option.map_some]
        · rw [bracesOpen_cons hPlain] at h
          rw [untilClosed_cons hPlain, ih h, Option.map_some]

/-- The closing brace is missing in a text that closes no more than is open, and in no other. -/
theorem untilClosed_eq_none_iff {depth : Nat} {s : List Char} :
    untilClosed depth s = none ↔ (bracesOpen depth s).isSome := by
  induction s generalizing depth with
  | nil => simp [untilClosed]
  | cons c rest ih =>
      rcases brace_cases c with rfl | rfl | hPlain
      · rw [untilClosed_open, Option.map_eq_none_iff, ih, bracesOpen_open]
      · cases depth with
        | zero => simp [untilClosed_stray]
        | succ depth => rw [untilClosed_close, Option.map_eq_none_iff, ih, bracesOpen_close]
      · rw [untilClosed_cons hPlain, Option.map_eq_none_iff, ih, bracesOpen_cons hPlain]

/-- The body that is taken out of a source text closes every brace that it opens, and no other. -/
theorem bracesOpen_of_functionBody? {source body : List Char} (h : functionBody? source = some body) :
    bracesOpen 0 body = some 0 := by
  simp only [functionBody?, Option.bind_eq_bind, Option.bind_eq_some_iff] at h
  obtain ⟨d, -, inner, hClosed, hBody⟩ := h
  split at hBody
  · cases hBody
  · obtain rfl := Option.some.inj hBody
    rw [Text.bracesOpen_strip]
    exact (untilClosed_eq_some_iff.mp hClosed).1

end ProxyRouting
