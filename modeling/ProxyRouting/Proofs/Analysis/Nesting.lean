import ProxyRouting.Analysis.Structure

/-! Texts that leave nothing open. A script goes on behind such a text as if it were not there, but
for the lines that it takes. Code without marks is one, so is a quoted text, and so is what stands
between two brackets. -/
namespace ProxyRouting

/-- A text in which every quote and bracket that is opened is closed again, and nothing else. -/
def IsClosed (s : List Char) : Prop :=
  ∀ line stack rest, ∃ line', structureFrom .code line stack (s ++ rest) =
    structureFrom .code line' stack rest

namespace Bracket

def opening : Bracket → Char
  | paren => '('
  | brace => '\x7b'
  | square => '['

def closing : Bracket → Char
  | paren => ')'
  | brace => '\x7d'
  | square => ']'

theorem of_opening (kind : Bracket) : kind.opening ≠ '/' ∧ isQuote kind.opening = false ∧
    opened? kind.opening = some kind := by
  cases kind <;> decide

theorem of_closing (kind : Bracket) : kind.closing ≠ '/' ∧ isQuote kind.closing = false ∧
    opened? kind.closing = none ∧ closed? kind.closing = some kind := by
  cases kind <;> decide

theorem opening_eq {c : Char} {kind : Bracket} (h : opened? c = some kind) : kind.opening = c := by
  unfold opened? at h
  grind [opening]

theorem closing_eq {c : Char} {kind : Bracket} (h : closed? c = some kind) : kind.closing = c := by
  unfold closed? at h
  grind [closing]

end Bracket

theorem Place.atEnd_eq_nil {p : Place} {stack : List Bracket} (h : p.atEnd stack = []) :
    stack = [] := by
  cases stack with
  | nil => rfl
  | cons kind rest => simp [atEnd] at h

/-- A character that means nothing to the structure of a script. -/
def isCode (c : Char) : Bool :=
  !isQuote c && (Bracket.opened? c).isNone && (Bracket.closed? c).isNone && c != '/'

/-- A character that can stand between double quotes, and opens nothing outside of them. -/
def isVerbatim (c : Char) : Bool := c != '"' && c != '\\' && c != '\n' && c != '('

/-- A character of code that opens no comment together with the next one. -/
theorem structureFrom_code_of_head? {c : Char} {rest : List Char}
    (h : c = '/' → rest.head? ≠ some '/' ∧ rest.head? ≠ some '*') (line : Nat)
    (stack : List Bracket) :
    structureFrom .code line stack (c :: rest) =
      if isQuote c then structureFrom (.quoted c) line stack rest
      else match Bracket.opened? c, Bracket.closed? c with
        | some kind, _ => structureFrom .code line (kind :: stack) rest
        | none, some kind =>
          match stack with
          | [] => [.strayBracket kind line]
          | top :: others =>
            if top = kind then structureFrom .code line others rest else [.strayBracket kind line]
        | none, none => structureFrom .code (nextLine line c) stack rest := by
  refine structureFrom.eq_4 line stack c rest ?_ ?_
  · rintro behind hSlash rfl
    exact (h hSlash).1 rfl
  · rintro behind hSlash rfl
    exact (h hSlash).2 rfl

theorem structureFrom_code_cons {c : Char} (hSlash : c ≠ '/') (line : Nat) (stack : List Bracket)
    (rest : List Char) :
    structureFrom .code line stack (c :: rest) =
      if isQuote c then structureFrom (.quoted c) line stack rest
      else match Bracket.opened? c, Bracket.closed? c with
        | some kind, _ => structureFrom .code line (kind :: stack) rest
        | none, some kind =>
          match stack with
          | [] => [.strayBracket kind line]
          | top :: others =>
            if top = kind then structureFrom .code line others rest else [.strayBracket kind line]
        | none, none => structureFrom .code (nextLine line c) stack rest :=
  structureFrom_code_of_head? (fun h => absurd h hSlash) line stack

theorem structureFrom_quoted {s : List Char} (h : s.all isVerbatim = true) (line : Nat)
    (stack : List Bracket) (rest : List Char) :
    structureFrom (.quoted '"') line stack (s ++ '"' :: rest) =
      structureFrom .code line stack rest := by
  induction s generalizing line with
  | nil =>
      rw [List.nil_append, structureFrom]
      · simp
      · exact fun _ _ h => absurd h (by decide)
  | cons c s ih =>
      rw [List.all_cons, Bool.and_eq_true] at h
      obtain ⟨hFirst, hOthers⟩ := h
      simp only [isVerbatim, Bool.and_eq_true, bne_iff_ne] at hFirst
      obtain ⟨⟨⟨hQuote, hSlash⟩, hLine⟩, -⟩ := hFirst
      rw [List.cons_append, structureFrom]
      · simp [hQuote, hSlash, hLine, nextLine, ih hOthers]
      · exact fun _ _ h => absurd h hSlash

namespace IsClosed

theorem nil : IsClosed [] := fun line _ _ => ⟨line, rfl⟩

theorem append {s t : List Char} (hs : IsClosed s) (ht : IsClosed t) : IsClosed (s ++ t) := by
  intro line stack rest
  obtain ⟨line', hFirst⟩ := hs line stack (t ++ rest)
  obtain ⟨line'', hSecond⟩ := ht line' stack rest
  exact ⟨line'', by rw [List.append_assoc, hFirst, hSecond]⟩

theorem code {s : List Char} (h : s.all isCode = true) : IsClosed s := by
  induction s with
  | nil => exact nil
  | cons c s ih =>
      rw [List.all_cons, Bool.and_eq_true] at h
      obtain ⟨hFirst, hOthers⟩ := h
      intro line stack rest
      simp only [isCode, Bool.and_eq_true, Bool.not_eq_true', Option.isNone_iff_eq_none,
        bne_iff_ne] at hFirst
      obtain ⟨⟨⟨hQuote, hOpened⟩, hClosed⟩, hSlash⟩ := hFirst
      obtain ⟨line', hRest⟩ := ih hOthers (nextLine line c) stack rest
      refine ⟨line', ?_⟩
      rw [List.cons_append, structureFrom_code_cons hSlash, hOpened, hClosed]
      simpa [hQuote] using hRest

theorem quoted {s : List Char} (h : s.all isVerbatim = true) : IsClosed ('"' :: (s ++ ['"'])) := by
  intro line stack rest
  refine ⟨line, ?_⟩
  rw [List.cons_append, structureFrom_code_cons (by decide), List.append_assoc,
    List.singleton_append]
  exact structureFrom_quoted h line stack rest

/-- What stands between a bracket and the one that closes it. -/
theorem enclosed (kind : Bracket) {s : List Char} (hs : IsClosed s) :
    IsClosed (kind.opening :: (s ++ [kind.closing])) := by
  intro line stack rest
  obtain ⟨hOpenSlash, hOpenQuote, hOpened⟩ := kind.of_opening
  obtain ⟨hCloseSlash, hCloseQuote, hNotOpened, hClosed⟩ := kind.of_closing
  obtain ⟨line', hInner⟩ := hs line (kind :: stack) (kind.closing :: rest)
  refine ⟨line', ?_⟩
  rw [List.cons_append, structureFrom_code_cons hOpenSlash, hOpened, List.append_assoc,
    List.singleton_append]
  simp only [hOpenQuote, Bool.false_eq_true, if_false, hInner]
  rw [structureFrom_code_cons hCloseSlash, hNotOpened, hClosed]
  simp [hCloseQuote]

theorem structureProblems_eq_nil {s : List Char} (h : IsClosed s) : structureProblems s = [] := by
  obtain ⟨line', hEnd⟩ := h 1 [] []
  rw [structureProblems, ← List.append_nil s, hEnd]
  rfl

end IsClosed

end ProxyRouting
