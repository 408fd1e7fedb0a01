import ProxyRouting.Proofs.Analysis.Lexeme

/-! The search for problems of structure, along the lexemes of a script. Each comment, each quoted text
and each other character leaves it in code, and the brackets that are open change by the lexemes that
are brackets. So a script that is read as lexemes has no problem exactly when its brackets are nested,
and one without a problem can be read. -/
namespace ProxyRouting

/-- The number of the line behind a text that starts in line `n`. -/
def lineBehind (n : Nat) (s : List Char) : Nat := s.foldl nextLine n

theorem nextLine_of_ne {c : Char} (h : c ≠ '\n') (n : Nat) : nextLine n c = n := if_neg h

theorem nextLine_of_isQuote {c : Char} (h : isQuote c = true) (n : Nat) : nextLine n c = n := by
  apply nextLine_of_ne
  rintro rfl
  cases h

theorem nextLine_of_opened? {c : Char} {kind : Bracket} (h : Bracket.opened? c = some kind)
    (n : Nat) : nextLine n c = n := by
  apply nextLine_of_ne
  rintro rfl
  cases h

theorem nextLine_of_closed? {c : Char} {kind : Bracket} (h : Bracket.closed? c = some kind)
    (n : Nat) : nextLine n c = n := by
  apply nextLine_of_ne
  rintro rfl
  cases h

theorem lineBehind_of_not_mem {s : List Char} (h : '\n' ∉ s) (n : Nat) : lineBehind n s = n := by
  induction s with
  | nil => rfl
  | cons c s ih =>
      simp only [List.mem_cons, not_or] at h
      change lineBehind (nextLine n c) s = n
      rw [nextLine_of_ne (Ne.symm h.1), ih h.2]

theorem lineBehind_append (n : Nat) (s t : List Char) :
    lineBehind n (s ++ t) = lineBehind (lineBehind n s) t := List.foldl_append

section Comments

/-- The text of a comment up to the first mark that ends it. -/
def untilMark : List Char → Option (List Char)
  | [] => none
  | '*' :: '/' :: _ => some []
  | c :: rest => (untilMark rest).map (c :: ·)

variable {c : Char} {s rest text : List Char}

theorem untilMark_cons (h : c = '*' → rest.head? ≠ some '/') :
    untilMark (c :: rest) = (untilMark rest).map (c :: ·) := by
  rw [untilMark]
  rintro behind hStar rfl
  exact h hStar rfl

theorem structureFrom_blockComment_cons (h : c = '*' → rest.head? ≠ some '/') (line : Nat)
    (stack : List Bracket) :
    structureFrom .blockComment line stack (c :: rest) =
      structureFrom .blockComment (nextLine line c) stack rest := by
  rw [structureFrom]
  rintro behind hStar rfl
  exact h hStar rfl

/-- Either the mark that ends a comment is at the front of a text, or one character less is left. -/
theorem mark_cases (c : Char) (rest : List Char) :
    (∃ behind, c = '*' ∧ rest = '/' :: behind) ∨ (c = '*' → rest.head? ≠ some '/') := by
  by_cases h : c = '*' ∧ rest.head? = some '/'
  · obtain ⟨behind, hRest⟩ := List.head?_eq_some_iff.mp h.2
    exact .inl ⟨behind, h.1, hRest⟩
  · exact .inr fun hc hHead => h ⟨hc, hHead⟩

theorem untilMark_eq_some_iff :
    untilMark s = some text ↔ ¬ ['*', '/'] <:+: text ∧ ∃ rest, s = text ++ '*' :: '/' :: rest := by
  induction s generalizing text with
  | nil => simp [untilMark]
  | cons c s ih =>
      rcases mark_cases c s with ⟨behind, rfl, rfl⟩ | hNot
      · rw [untilMark, Option.some.injEq]
        constructor
        · rintro rfl
          exact ⟨by simp, behind, rfl⟩
        · rintro ⟨hFirst, rest, hSplit⟩
          rcases text with _ | ⟨d, _ | ⟨e, t⟩⟩
          · rfl
          · cases hSplit
          · obtain ⟨rfl, hTail⟩ := List.cons.inj hSplit
            obtain ⟨rfl, -⟩ := List.cons.inj hTail
            exact absurd ⟨[], t, rfl⟩ hFirst
      · rw [untilMark_cons hNot, Option.map_eq_some_iff]
        constructor
        · rintro ⟨t, hText, rfl⟩
          obtain ⟨hFirst, rest, rfl⟩ := ih.mp hText
          refine ⟨fun hInfix => ?_, rest, rfl⟩
          rcases List.infix_cons_iff.mp hInfix with hPrefix | hInfix
          · obtain ⟨hc, hHead⟩ := List.cons_prefix_cons.mp hPrefix
            obtain ⟨more, rfl⟩ := hHead
            exact hNot hc.symm rfl
          · exact hFirst hInfix
        · rintro ⟨hFirst, rest, hSplit⟩
          cases text with
          | nil =>
              obtain ⟨rfl, rfl⟩ := List.cons.inj hSplit
              exact absurd rfl (hNot rfl)
          | cons d t =>
              obtain ⟨rfl, rfl⟩ := List.cons.inj hSplit
              refine ⟨t, ih.mpr ⟨fun hInfix => hFirst ?_, rest, rfl⟩, rfl⟩
              exact List.infix_cons hInfix

/-- A comment goes on to the first mark that ends it. -/
theorem structureFrom_blockComment (line : Nat) (stack : List Bracket) (s : List Char) :
    structureFrom .blockComment line stack s = match untilMark s with
      | some text => structureFrom .code (lineBehind line text) stack (s.drop (text.length + 2))
      | none => Place.atEnd .blockComment stack := by
  induction s generalizing line with
  | nil => rfl
  | cons c s ih =>
      rcases mark_cases c s with ⟨behind, rfl, rfl⟩ | hNot
      · rfl
      · rw [structureFrom_blockComment_cons hNot, untilMark_cons hNot, ih]
        cases untilMark s with
        | none => rfl
        | some text => rfl

/-- The end of a comment that goes on to the end of its line is code again. -/
theorem structureFrom_lineComment (h : '\n' ∉ s) (hRest : rest = [] ∨ rest.head? = some '\n')
    (line : Nat) (stack : List Bracket) :
    structureFrom .lineComment line stack (s ++ rest) = structureFrom .code line stack rest := by
  induction s with
  | nil =>
      rcases hRest with rfl | hHead
      · rfl
      · obtain ⟨behind, rfl⟩ := List.head?_eq_some_iff.mp hHead
        rfl
  | cons c s ih =>
      simp only [List.mem_cons, not_or] at h
      rw [List.cons_append, structureFrom, if_neg (Ne.symm h.1), nextLine_of_ne (Ne.symm h.1), ih h.2]

end Comments

section Quotes

variable {mark c : Char} {text rest : List Char}

theorem structureFrom_quoted_pair (mark c : Char) (rest : List Char) (line : Nat)
    (stack : List Bracket) :
    structureFrom (.quoted mark) line stack ('\\' :: c :: rest) =
      structureFrom (.quoted mark) (nextLine line c) stack rest := by
  rw [structureFrom]

theorem structureFrom_quoted_char (hc : c ≠ '\\') (line : Nat) (stack : List Bracket) :
    structureFrom (.quoted mark) line stack (c :: rest) =
      if c = mark then structureFrom .code line stack rest
      else if c = '\n' && !spansLines mark then
        .brokenQuote line :: structureFrom .code (line + 1) stack rest
      else structureFrom (.quoted mark) (nextLine line c) stack rest := by
  rw [structureFrom, if_neg hc]
  exact fun _ _ h _ => hc h

theorem ne_backslash_of_isQuote (h : isQuote mark = true) : mark ≠ '\\' := by
  rintro rfl
  cases h

/-- A quoted text goes on to the quote that closes it. -/
theorem QuotedText.structureFrom_eq (h : QuotedText mark text) (hMark : isQuote mark = true)
    (line : Nat) (stack : List Bracket) (rest : List Char) :
    structureFrom (.quoted mark) line stack (text ++ mark :: rest) =
      structureFrom .code (lineBehind line text) stack rest := by
  induction h generalizing line with
  | nil =>
      rw [List.nil_append, structureFrom_quoted_char (ne_backslash_of_isQuote hMark), if_pos rfl]
      rfl
  | pair c _ ih =>
      rw [List.cons_append, List.cons_append, structureFrom_quoted_pair, ih]
      rfl
  | @char c text isMark isBackslash isLineEnd _ ih =>
      have hLine : ¬ (c = '\n' && !spansLines mark) = true := by
        simpa using isLineEnd
      rw [List.cons_append, structureFrom_quoted_char isBackslash, if_neg isMark, if_neg hLine, ih]
      rfl

/-- Without a problem behind a quote, there is one that closes the text. -/
theorem exists_quotedText {stack : List Bracket} : ∀ {s : List Char} {line : Nat},
    structureFrom (.quoted mark) line stack s = [] →
      ∃ text rest, s = text ++ mark :: rest ∧ QuotedText mark text
  | [], _, h => by cases h
  | c :: s, _, h => by
      by_cases hc : c = '\\'
      · subst hc
        match s, h with
        | [], h => simp [structureFrom, Place.atEnd] at h
        | c :: s, h =>
            rw [structureFrom_quoted_pair] at h
            obtain ⟨text, rest, rfl, hText⟩ := exists_quotedText h
            exact ⟨'\\' :: c :: text, rest, rfl, .pair c hText⟩
      · rw [structureFrom_quoted_char hc] at h
        split at h
        next hMark =>
          subst hMark
          exact ⟨[], s, rfl, .nil⟩
        next hMark =>
          split at h
          · cases h
          next hLine =>
            obtain ⟨text, rest, rfl, hText⟩ := exists_quotedText h
            exact ⟨c :: text, rest, rfl, .char hMark hc (by simpa using hLine) hText⟩

end Quotes

theorem structureFrom_opening (kind : Bracket) (line : Nat) (stack : List Bracket)
    (rest : List Char) :
    structureFrom .code line stack (kind.opening :: rest) =
      structureFrom .code line (kind :: stack) rest := by
  obtain ⟨hSlash, hQuote, hOpened⟩ := kind.of_opening
  rw [structureFrom_code_cons hSlash, hQuote, hOpened]
  rfl

theorem structureFrom_closing (kind : Bracket) (line : Nat) (stack : List Bracket)
    (rest : List Char) :
    structureFrom .code line stack (kind.closing :: rest) = match stack with
      | [] => [.strayBracket kind line]
      | top :: others =>
        if top = kind then structureFrom .code line others rest else [.strayBracket kind line] := by
  obtain ⟨hSlash, hQuote, hOpened, hClosed⟩ := kind.of_closing
  rw [structureFrom_code_cons hSlash, hQuote, hOpened, hClosed]
  rfl

theorem closing_eq_nil_iff {kind : Bracket} {line : Nat} {stack : List Bracket} {rest : List Char} :
    structureFrom .code line stack (kind.closing :: rest) = [] ↔
      ∃ others, stack = kind :: others ∧ structureFrom .code line others rest = [] := by
  rw [structureFrom_closing]
  cases stack with
  | nil => simp
  | cons top others =>
      by_cases hKind : top = kind
      · simp [hKind]
      · simp [hKind]

namespace Lexeme

variable {p : Lexeme} {rest : List Char}

/-- Code goes on behind a comment, a quoted text or another character. -/
theorem structureFrom_plain (hp : p.isBracket = false) (h : p.Fits rest) (line : Nat)
    (stack : List Bracket) :
    structureFrom .code line stack (p.text ++ rest) =
      structureFrom .code (lineBehind line p.text) stack rest := by
  cases p with
  | lineComment s =>
      have hLine : lineBehind line ('/' :: '/' :: s) = line := lineBehind_of_not_mem h.1 line
      rw [text, hLine, List.cons_append, List.cons_append, structureFrom]
      exact structureFrom_lineComment h.1 h.2 line stack
  | blockComment s =>
      have hText : untilMark (s ++ '*' :: '/' :: rest) = some s :=
        untilMark_eq_some_iff.mpr ⟨h, rest, rfl⟩
      have hBehind : (s ++ '*' :: '/' :: rest).drop (s.length + 2) = rest := by
        rw [← List.drop_drop, List.drop_left]
        rfl
      have hLine : lineBehind line ('/' :: '*' :: (s ++ ['*', '/'])) = lineBehind line s :=
        lineBehind_append line s ['*', '/']
      rw [text, hLine, List.cons_append, List.cons_append, structureFrom, List.append_assoc]
      change structureFrom .blockComment line stack (s ++ '*' :: '/' :: rest) = _
      rw [structureFrom_blockComment, hText]
      change structureFrom .code (lineBehind line s) stack
        ((s ++ '*' :: '/' :: rest).drop (s.length + 2)) = _
      rw [hBehind]
  | quoted mark s =>
      obtain ⟨hMark, hText⟩ := h
      have hLine : lineBehind line (mark :: (s ++ [mark])) = lineBehind line s := by
        change lineBehind (nextLine line mark) (s ++ [mark]) = _
        rw [nextLine_of_isQuote hMark, lineBehind_append]
        exact nextLine_of_isQuote hMark _
      have hSlash : mark ≠ '/' := by
        rintro rfl
        cases hMark
      rw [text, hLine, List.cons_append, structureFrom_code_cons hSlash, if_pos hMark,
        List.append_assoc]
      exact hText.structureFrom_eq hMark line stack rest
  | other c =>
      obtain ⟨hQuote, hOpened, hClosed, hComment⟩ := h
      rw [text, List.singleton_append, structureFrom_code_of_head? hComment, hQuote, hOpened, hClosed]
      rfl
  | opening kind => cases hp
  | closing kind => cases hp

/-- Two characters of code open a comment, or the first one is another character. -/
theorem comment_cases (c : Char) (rest : List Char) :
    (∃ behind, c = '/' ∧ rest = '/' :: behind) ∨ (∃ behind, c = '/' ∧ rest = '*' :: behind) ∨
      (c = '/' → rest.head? ≠ some '/' ∧ rest.head? ≠ some '*') := by
  by_cases hLine : c = '/' ∧ rest.head? = some '/'
  · obtain ⟨behind, hRest⟩ := List.head?_eq_some_iff.mp hLine.2
    exact .inl ⟨behind, hLine.1, hRest⟩
  · by_cases hBlock : c = '/' ∧ rest.head? = some '*'
    · obtain ⟨behind, hRest⟩ := List.head?_eq_some_iff.mp hBlock.2
      exact .inr (.inl ⟨behind, hBlock.1, hRest⟩)
    · exact .inr (.inr fun hc => ⟨fun hHead => hLine ⟨hc, hHead⟩, fun hHead => hBlock ⟨hc, hHead⟩⟩)

/-- The rest behind a line starts with the character that ends it. -/
theorem dropWhile_ne_eq_nil_or (s : List Char) :
    s.dropWhile (· != '\n') = [] ∨ (s.dropWhile (· != '\n')).head? = some '\n' := by
  induction s with
  | nil => exact .inl rfl
  | cons c s ih =>
      by_cases hc : c = '\n'
      · exact .inr (by simp [hc])
      · simpa [hc] using ih

/-- A comment goes on to the end of its line. -/
theorem fits_lineComment (s : List Char) :
    (lineComment (s.takeWhile (· != '\n'))).Fits (s.dropWhile (· != '\n')) := by
  refine ⟨fun hMem => ?_, dropWhile_ne_eq_nil_or s⟩
  have hNe := List.all_eq_true.mp List.all_takeWhile _ hMem
  cases hNe

/-- Without a problem, a script starts with a lexeme. -/
theorem exists_fits {line : Nat} {stack : List Bracket} {c : Char} {s : List Char}
    (h : structureFrom .code line stack (c :: s) = []) :
    ∃ (p : Lexeme) (rest : List Char), c :: s = p.text ++ rest ∧ p.Fits rest := by
  rcases comment_cases c s with ⟨behind, rfl, rfl⟩ | ⟨behind, rfl, rfl⟩ | hComment
  · exact ⟨_, _, by simp [Lexeme.text], fits_lineComment behind⟩
  · rw [structureFrom, structureFrom_blockComment] at h
    cases hText : untilMark behind with
    | none => simp [hText, Place.atEnd] at h
    | some text =>
        obtain ⟨hFirst, rest, rfl⟩ := untilMark_eq_some_iff.mp hText
        exact ⟨.blockComment text, rest, by simp [Lexeme.text], hFirst⟩
  · cases hQuote : isQuote c with
    | true =>
        rw [structureFrom_code_of_head? hComment, hQuote] at h
        obtain ⟨text, rest, rfl, hText⟩ := exists_quotedText h
        exact ⟨.quoted c text, rest, by simp [Lexeme.text], hQuote, hText⟩
    | false =>
        cases hOpened : Bracket.opened? c with
        | some kind =>
            exact ⟨.opening kind, s, by rw [Lexeme.text, Bracket.opening_eq hOpened]; rfl, trivial⟩
        | none =>
            cases hClosed : Bracket.closed? c with
            | some kind =>
                exact ⟨.closing kind, s, by rw [Lexeme.text, Bracket.closing_eq hClosed]; rfl, trivial⟩
            | none => exact ⟨.other c, s, rfl, hQuote, hOpened, hClosed, hComment⟩

theorem length_text_pos (p : Lexeme) : 0 < p.text.length := by
  cases p <;> exact Nat.succ_pos _

/-- What is left behind a lexeme has no problem when the lexeme had none in front of it. -/
theorem exists_structureFrom_behind {line : Nat} {stack : List Bracket} (hFits : p.Fits rest)
    (h : structureFrom .code line stack (p.text ++ rest) = []) :
    ∃ line' stack', structureFrom .code line' stack' rest = [] := by
  rcases p.bracket_cases with ⟨kind, rfl⟩ | ⟨kind, rfl⟩ | hPlain
  · rw [text, List.singleton_append, structureFrom_opening] at h
    exact ⟨line, kind :: stack, h⟩
  · obtain ⟨others, -, hRest⟩ := closing_eq_nil_iff.mp h
    exact ⟨line, others, hRest⟩
  · rw [structureFrom_plain hPlain hFits] at h
    exact ⟨_, stack, h⟩

end Lexeme

/-- A script that is read as lexemes has no problem if they close the brackets that are open. -/
theorem Reads.structureFrom_eq_nil_iff {s : List Char} {ps : List Lexeme} (h : Reads s ps)
    (line : Nat) (stack : List Bracket) :
    structureFrom .code line stack s = [] ↔ Closes stack ps := by
  -- What a lexeme does to the brackets that are open is what it asks of the lexemes behind it.
  induction h generalizing line stack with
  | nil =>
      rw [Closes.nil_iff]
      exact ⟨Place.atEnd_eq_nil, fun hStack => by rw [hStack]; rfl⟩
  | @cons p rest ps fits _ ih =>
      rcases p.bracket_cases with ⟨kind, rfl⟩ | ⟨kind, rfl⟩ | hPlain
      · rw [Lexeme.text, List.singleton_append, structureFrom_opening, ih, Closes.opening_iff]
      · rw [Lexeme.text, List.singleton_append, closing_eq_nil_iff, Closes.closing_iff]
        simp only [ih]
      · rw [Lexeme.structureFrom_plain hPlain fits, ih, Closes.plain_iff hPlain]

/-- A script without a problem can be read. -/
theorem exists_reads {s : List Char} {line : Nat} {stack : List Bracket}
    (h : structureFrom .code line stack s = []) : ∃ ps, Reads s ps := by
  cases s with
  | nil => exact ⟨[], .nil⟩
  | cons c s =>
      obtain ⟨p, rest, hSplit, hFits⟩ := Lexeme.exists_fits h
      rw [hSplit] at h ⊢
      -- Which brackets are open behind the lexeme has no part in how the rest is read.
      obtain ⟨line', stack', hRest⟩ := Lexeme.exists_structureFrom_behind hFits h
      have hShorter : rest.length < s.length + 1 := by
        have hLength := congrArg List.length hSplit
        have hPos := p.length_text_pos
        rw [List.length_append, List.length_cons] at hLength
        omega
      obtain ⟨ps, hReads⟩ := exists_reads hRest
      exact ⟨p :: ps, .cons hFits hReads⟩
termination_by s.length

/-- No problem is found in a script exactly when it can be read as lexemes with nested brackets. -/
theorem structureProblems_eq_nil_iff_nested {script : List Char} :
    structureProblems script = [] ↔ ∃ lexemes, Reads script lexemes ∧ Nested lexemes := by
  constructor
  · intro h
    obtain ⟨lexemes, hReads⟩ := exists_reads h
    exact ⟨lexemes, hReads, (hReads.structureFrom_eq_nil_iff 1 []).mp h⟩
  · rintro ⟨lexemes, hReads, hNested⟩
    exact (hReads.structureFrom_eq_nil_iff 1 []).mpr hNested

end ProxyRouting
