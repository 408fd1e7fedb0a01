import ProxyRouting.Proofs.Analysis.Grammar

/-! The search for problems of structure as a loop that jumps. A turn of it passes over a comment as a
whole, over a backslash in a quoted text together with what follows it, and over any other character
on its own. Each turn leaves less of the script and the same problems to be found, so that the loop
ends, and with the problems of the script. -/
namespace ProxyRouting

abbrev Quote := { c : Char // isQuote c = true }

/-- Where the loop stands: what is left of the script, and its line; the quote and the brackets that
are open; and the problems that were found so far. -/
structure Scan where
  rest : List Char
  line : Nat
  quote : Option Quote
  stack : List Bracket
  found : List StructureProblem

namespace Scan

def start (script : List Char) : Scan := ⟨script, 1, none, [], []⟩

def place (s : Scan) : Place :=
  match s.quote with
  | some mark => .quoted mark
  | none => .code

/-- Go on behind the first `n` characters of what is left. -/
def skip (s : Scan) (n : Nat) : Scan :=
  { s with rest := s.rest.drop n, line := lineBehind s.line (s.rest.take n) }

/-- The end of the loop, with all problems. -/
def stop (s : Scan) (problems : List StructureProblem) : Scan ⊕ List StructureProblem :=
  .inr (s.found ++ problems)

/-- A turn between quotes, at the character `c`. -/
def turnQuoted (s : Scan) (mark : Quote) (c : Char) : Scan :=
  if c = '\\' then s.skip 2
  else if c = mark then { s.skip 1 with quote := none }
  else if c = '\n' && !spansLines mark then
    { s.skip 1 with quote := none, found := s.found ++ [.brokenQuote s.line] }
  else s.skip 1

/-- A turn at the start of a comment between marks, by its text; one that does not end is the last but
one problem. -/
def turnComment (s : Scan) : Option (List Char) → Scan ⊕ List StructureProblem
  | some text => .inl (s.skip (Lexeme.blockComment text).text.length)
  | none => s.stop (Place.atEnd .blockComment s.stack)

/-- A turn at a bracket that closes another one; unless that is the innermost, it is the last
problem. -/
def turnClosing (s : Scan) (kind : Bracket) : Scan ⊕ List StructureProblem :=
  match s.stack with
  | [] => s.stop [.strayBracket kind s.line]
  | top :: others =>
    if top = kind then .inl { s.skip 1 with stack := others }
    else s.stop [.strayBracket kind s.line]

/-- A turn in code where no comment starts, at the character `c`. -/
def turnOther (s : Scan) (c : Char) : Scan ⊕ List StructureProblem :=
  if h : isQuote c = true then .inl { s.skip 1 with quote := some ⟨c, h⟩ }
  else match Bracket.opened? c, Bracket.closed? c with
    | some kind, _ => .inl { s.skip 1 with stack := kind :: s.stack }
    | none, some kind => s.turnClosing kind
    | none, none => .inl (s.skip 1)

/-- A turn in code. -/
def turnCode (s : Scan) : List Char → Scan ⊕ List StructureProblem
  | [] => s.stop (Place.atEnd .code s.stack)
  | '/' :: '/' :: behind =>
    .inl (s.skip (Lexeme.lineComment (behind.takeWhile (· != '\n'))).text.length)
  | '/' :: '*' :: behind => s.turnComment (untilMark behind)
  | c :: _ => s.turnOther c

/-- One turn of the loop, which goes on or ends. -/
def turn (s : Scan) : Scan ⊕ List StructureProblem :=
  match s.quote, s.rest with
  | some mark, [] => s.stop (Place.atEnd (.quoted mark) s.stack)
  | some mark, c :: _ => .inl (s.turnQuoted mark c)
  | none, rest => s.turnCode rest

/-- The problems that were found so far and those of what is left. -/
def answer (s : Scan) : List StructureProblem :=
  s.found ++ structureFrom s.place s.line s.stack s.rest

/-- A turn goes on with less of the script, or ends, and the problems stay the same. -/
def Keeps (s : Scan) : Scan ⊕ List StructureProblem → Prop
  | .inl t => t.rest.length < s.rest.length ∧ t.answer = s.answer
  | .inr problems => problems = s.answer

variable {line : Nat} {stack : List Bracket} {found : List StructureProblem} {c : Char}
  {rest : List Char}

theorem answer_quoted (mark : Quote) :
    answer ⟨rest, line, some mark, stack, found⟩ =
      found ++ structureFrom (.quoted mark) line stack rest := rfl

theorem answer_code :
    answer ⟨rest, line, none, stack, found⟩ = found ++ structureFrom .code line stack rest := rfl

theorem skip_one (quote : Option Quote) :
    skip ⟨c :: rest, line, quote, stack, found⟩ 1 =
      ⟨rest, nextLine line c, quote, stack, found⟩ := rfl

theorem keeps_turnQuoted (mark : Quote) :
    Keeps ⟨c :: rest, line, some mark, stack, found⟩
      (.inl (turnQuoted ⟨c :: rest, line, some mark, stack, found⟩ mark c)) := by
  by_cases hBackslash : c = '\\'
  · subst hBackslash
    rw [turnQuoted, if_pos rfl]
    cases rest with
    | nil =>
        refine ⟨Nat.succ_pos 0, ?_⟩
        rw [answer_quoted, structureFrom, if_pos rfl]
        · rfl
        · exact fun _ _ _ h => List.cons_ne_nil _ _ h.symm
    | cons c rest =>
        refine ⟨Nat.lt_add_of_pos_right Nat.two_pos, ?_⟩
        rw [answer_quoted, structureFrom_quoted_pair]
        rfl
  · rw [turnQuoted, if_neg hBackslash, skip_one]
    by_cases hMark : c = mark
    · rw [if_pos hMark]
      refine ⟨Nat.lt_succ_self _, ?_⟩
      rw [answer_code, answer_quoted, structureFrom_quoted_char hBackslash, if_pos hMark, hMark,
        nextLine_of_isQuote mark.2]
    · rw [if_neg hMark]
      by_cases hBroken : (c = '\n' && !spansLines mark) = true
      · rw [if_pos hBroken]
        refine ⟨Nat.lt_succ_self _, ?_⟩
        obtain ⟨rfl, -⟩ : c = '\n' ∧ _ := by simpa using hBroken
        rw [answer_code, answer_quoted, structureFrom_quoted_char hBackslash, if_neg hMark,
          if_pos hBroken, List.append_assoc]
        rfl
      · rw [if_neg hBroken]
        refine ⟨Nat.lt_succ_self _, ?_⟩
        rw [answer_quoted, answer_quoted, structureFrom_quoted_char hBackslash, if_neg hMark,
          if_neg hBroken]

theorem keeps_turnClosing (kind : Bracket) :
    Keeps ⟨kind.closing :: rest, line, none, stack, found⟩
      (turnClosing ⟨kind.closing :: rest, line, none, stack, found⟩ kind) := by
  have hClosed := (kind.of_closing).2.2.2
  cases stack with
  | nil =>
      change found ++ _ = answer _
      rw [answer_code, structureFrom_closing]
  | cons top others =>
      rw [turnClosing]
      dsimp only
      by_cases hKind : top = kind
      · rw [if_pos hKind, skip_one]
        refine ⟨Nat.lt_succ_self _, ?_⟩
        subst hKind
        rw [answer_code, answer_code, structureFrom_closing, nextLine_of_closed? hClosed]
        simp
      · rw [if_neg hKind]
        change found ++ _ = answer _
        rw [answer_code, structureFrom_closing]
        simp [hKind]

theorem keeps_turnOther (h : c = '/' → rest.head? ≠ some '/' ∧ rest.head? ≠ some '*') :
    Keeps ⟨c :: rest, line, none, stack, found⟩
      (turnOther ⟨c :: rest, line, none, stack, found⟩ c) := by
  unfold turnOther
  by_cases hQuote : isQuote c = true
  · rw [dif_pos hQuote, skip_one]
    refine ⟨Nat.lt_succ_self _, ?_⟩
    rw [answer_quoted, answer_code, structureFrom_code_of_head? h, if_pos hQuote,
      nextLine_of_isQuote hQuote]
  · rw [dif_neg hQuote]
    cases hOpened : Bracket.opened? c with
    | some kind =>
        obtain rfl := Bracket.opening_eq hOpened
        refine ⟨Nat.lt_succ_self _, ?_⟩
        rw [skip_one, answer_code, answer_code, structureFrom_opening, nextLine_of_opened? hOpened]
    | none =>
        cases hClosed : Bracket.closed? c with
        | some kind =>
            obtain rfl := Bracket.closing_eq hClosed
            exact keeps_turnClosing kind
        | none =>
            refine ⟨Nat.lt_succ_self _, ?_⟩
            rw [skip_one, answer_code, answer_code, structureFrom_code_of_head? h, if_neg hQuote,
              hOpened, hClosed]

/-- What passes over a lexeme that is no bracket keeps the problems. -/
theorem keeps_skip {p : Lexeme} {s : List Char} (hs : s = p.text ++ rest)
    (hp : p.isBracket = false) (h : p.Fits rest) :
    Keeps ⟨s, line, none, stack, found⟩
      (.inl (skip ⟨s, line, none, stack, found⟩ p.text.length)) := by
  subst hs
  rw [skip, List.take_left, List.drop_left]
  refine ⟨?_, ?_⟩
  · rw [List.length_append]
    exact Nat.lt_add_of_pos_left p.length_text_pos
  · rw [answer_code, answer_code, Lexeme.structureFrom_plain hp h]

theorem keeps_turnComment (behind : List Char) :
    Keeps ⟨'/' :: '*' :: behind, line, none, stack, found⟩
      (turnComment ⟨'/' :: '*' :: behind, line, none, stack, found⟩ (untilMark behind)) := by
  cases hText : untilMark behind with
  | none =>
      change found ++ _ = answer _
      rw [answer_code, structureFrom, structureFrom_blockComment, hText]
  | some text =>
      obtain ⟨hFits, rest, rfl⟩ := untilMark_eq_some_iff.mp hText
      have hSplit : '/' :: '*' :: (text ++ '*' :: '/' :: rest) =
          (Lexeme.blockComment text).text ++ rest := by simp [Lexeme.text]
      exact keeps_skip hSplit rfl hFits

theorem keeps_turnCode (rest : List Char) :
    Keeps ⟨rest, line, none, stack, found⟩
      (turnCode ⟨rest, line, none, stack, found⟩ rest) := by
  cases rest with
  | nil => rfl
  | cons c rest =>
      rcases Lexeme.comment_cases c rest with ⟨behind, rfl, rfl⟩ | ⟨behind, rfl, rfl⟩ | hOther
      · refine keeps_skip (p := .lineComment (behind.takeWhile (· != '\n'))) ?_ rfl
          (Lexeme.fits_lineComment behind)
        rw [Lexeme.text, List.cons_append, List.cons_append, List.takeWhile_append_dropWhile]
      · exact keeps_turnComment behind
      · -- The last case of a turn in code is the one behind those of the two kinds of comments.
        rw [turnCode]
        · exact keeps_turnOther hOther
        · rintro behind hSlash rfl
          exact (hOther hSlash).1 rfl
        · rintro behind hSlash rfl
          exact (hOther hSlash).2 rfl

theorem keeps_turn (s : Scan) : s.Keeps s.turn := by
  obtain ⟨rest, line, quote, stack, found⟩ := s
  cases quote with
  | none => exact keeps_turnCode rest
  | some mark =>
      cases rest with
      | nil => rfl
      | cons c rest => exact keeps_turnQuoted mark

/-- The loop ends with some problems after so many turns. -/
inductive Ends : Nat → Scan → List StructureProblem → Prop where
  | last {s : Scan} {problems : List StructureProblem} (h : s.turn = .inr problems) :
      Ends 1 s problems
  | next {n : Nat} {s t : Scan} {problems : List StructureProblem} (h : s.turn = .inl t)
      (others : Ends n t problems) : Ends (n + 1) s problems

/-- There is at most one turn for each character, and one more. -/
theorem exists_ends (s : Scan) : ∃ n ≤ s.rest.length + 1, Ends n s s.answer := by
  have hKeeps := s.keeps_turn
  cases hTurn : s.turn with
  | inr problems =>
      rw [hTurn] at hKeeps
      obtain rfl : problems = s.answer := hKeeps
      exact ⟨1, Nat.le_add_left 1 _, .last hTurn⟩
  | inl t =>
      rw [hTurn] at hKeeps
      obtain ⟨hLess, hAnswer⟩ : t.rest.length < s.rest.length ∧ t.answer = s.answer := hKeeps
      obtain ⟨n, hTurns, hEnds⟩ := exists_ends t
      rw [hAnswer] at hEnds
      exact ⟨n + 1, by omega, .next hTurn hEnds⟩
termination_by s.rest.length

end Scan

/-- No problem of structure is found in a script exactly when it can be read as comments, quoted
texts, brackets and other characters so that its brackets are nested. The loop that looks for the
problems ends on every script. -/
theorem structureProblems_recognizes (script : List Char) :
    (structureProblems script = [] ↔ ∃ lexemes, Reads script lexemes ∧ Nested lexemes) ∧
    ∃ n ≤ script.length + 1, Scan.Ends n (.start script) (structureProblems script) :=
  ⟨structureProblems_eq_nil_iff_nested, Scan.exists_ends (.start script)⟩

end ProxyRouting
