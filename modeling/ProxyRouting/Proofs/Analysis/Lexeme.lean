import ProxyRouting.Proofs.Analysis.Nesting

/-! The grammar of scripts whose structure is in order. A script is a sequence of comments, quoted
texts, brackets and other characters, and its brackets are nested. What is left of nested brackets
behind some of them closes those that are open, the innermost first. -/
namespace ProxyRouting

/-- What a script is made of. -/
inductive Lexeme where
  /-- A comment up to the end of its line. -/
  | lineComment (text : List Char)
  /-- A comment between marks. -/
  | blockComment (text : List Char)
  | quoted (mark : Char) (text : List Char)
  | opening (kind : Bracket)
  | closing (kind : Bracket)
  | other (c : Char)
deriving DecidableEq, Repr

/-- What can stand between two quotes: pairs of a backslash and any character, and other characters
than the quote and the backslash, line ends only where a text may go on in the next line. -/
inductive QuotedText (mark : Char) : List Char → Prop where
  | nil : QuotedText mark []
  | pair (c : Char) {rest : List Char} (others : QuotedText mark rest) :
      QuotedText mark ('\\' :: c :: rest)
  | char {c : Char} {rest : List Char} (isMark : c ≠ mark) (isBackslash : c ≠ '\\')
      (isLineEnd : c = '\n' → spansLines mark = true) (others : QuotedText mark rest) :
      QuotedText mark (c :: rest)

namespace Lexeme

def text : Lexeme → List Char
  | lineComment s => '/' :: '/' :: s
  | blockComment s => '/' :: '*' :: (s ++ ['*', '/'])
  | quoted mark s => mark :: (s ++ [mark])
  | opening kind => [kind.opening]
  | closing kind => [kind.closing]
  | other c => [c]

/-- Whether a lexeme can stand in front of a rest. A comment goes on to the first mark that ends it,
and another character is one that starts none of the other lexemes. -/
def Fits (rest : List Char) : Lexeme → Prop
  | lineComment s => '\n' ∉ s ∧ (rest = [] ∨ rest.head? = some '\n')
  | blockComment s => ¬ ['*', '/'] <:+: s
  | quoted mark s => isQuote mark = true ∧ QuotedText mark s
  | opening _ | closing _ => True
  | other c => isQuote c = false ∧ Bracket.opened? c = none ∧ Bracket.closed? c = none ∧
      (c = '/' → rest.head? ≠ some '/' ∧ rest.head? ≠ some '*')

def isBracket : Lexeme → Bool
  | opening _ | closing _ => true
  | _ => false

theorem bracket_cases (p : Lexeme) :
    (∃ kind, p = opening kind) ∨ (∃ kind, p = closing kind) ∨ p.isBracket = false := by
  cases p with
  | opening kind => exact .inl ⟨kind, rfl⟩
  | closing kind => exact .inr (.inl ⟨kind, rfl⟩)
  | _ => exact .inr (.inr rfl)

end Lexeme

/-- A script is read as a sequence of lexemes from left to right. -/
inductive Reads : List Char → List Lexeme → Prop where
  | nil : Reads [] []
  | cons {p : Lexeme} {rest : List Char} {ps : List Lexeme} (fits : p.Fits rest)
      (others : Reads rest ps) : Reads (p.text ++ rest) (p :: ps)

/-- Each bracket is closed by one of its kind, behind what it encloses. -/
inductive Nested : List Lexeme → Prop where
  | nil : Nested []
  | plain {p : Lexeme} {ps : List Lexeme} (noBracket : p.isBracket = false) (others : Nested ps) :
      Nested (p :: ps)
  | enclosed (kind : Bracket) {inner ps : List Lexeme} (inside : Nested inner) (others : Nested ps) :
      Nested (.opening kind :: (inner ++ .closing kind :: ps))

namespace Nested

variable {p : Lexeme} {ps others : List Lexeme} {kind : Bracket}

theorem append (h : Nested ps) (hOthers : Nested others) : Nested (ps ++ others) := by
  induction h with
  | nil => exact hOthers
  | plain noBracket _ ih => exact .plain noBracket ih
  | enclosed kind inside _ _ ih =>
      rw [List.cons_append, List.append_assoc, List.cons_append]
      exact .enclosed kind inside ih

theorem of_plain (hp : p.isBracket = false) (h : Nested (p :: ps)) : Nested ps := by
  cases h with
  | plain _ others => exact others
  | enclosed kind _ _ => cases hp

theorem exists_of_opening (h : Nested (.opening kind :: ps)) :
    ∃ inner rest, ps = inner ++ .closing kind :: rest ∧ Nested inner ∧ Nested rest := by
  cases h with
  | plain noBracket _ => cases noBracket
  | enclosed _ inside others => exact ⟨_, _, rfl, inside, others⟩

theorem not_closing : ¬ Nested (.closing kind :: ps) := by
  intro h
  cases h with
  | plain noBracket _ => cases noBracket

end Nested

/-- Lexemes that close the open brackets, the innermost first, with nested ones between them. -/
def Closes : List Bracket → List Lexeme → Prop
  | [], ps => Nested ps
  | kind :: stack, ps =>
    ∃ inner rest, ps = inner ++ .closing kind :: rest ∧ Nested inner ∧ Closes stack rest

namespace Closes

variable {p : Lexeme} {ps : List Lexeme} {kind : Bracket} {stack : List Bracket}

theorem append {inner : List Lexeme} (hInner : Nested inner) (h : Closes stack ps) :
    Closes stack (inner ++ ps) := by
  cases stack with
  | nil => exact Nested.append hInner h
  | cons kind stack =>
      obtain ⟨inside, rest, rfl, hInside, hRest⟩ := h
      exact ⟨inner ++ inside, rest, (List.append_assoc _ _ _).symm, hInner.append hInside, hRest⟩

theorem nil_iff : Closes stack [] ↔ stack = [] := by
  cases stack with
  | nil => exact iff_of_true .nil rfl
  | cons kind stack =>
      refine iff_of_false ?_ (List.cons_ne_nil kind stack)
      rintro ⟨inner, rest, hNil, -⟩
      cases (List.append_eq_nil_iff.mp hNil.symm).2

theorem plain_iff (hp : p.isBracket = false) : Closes stack (p :: ps) ↔ Closes stack ps := by
  refine ⟨fun h => ?_, append (.plain hp .nil)⟩
  cases stack with
  | nil => exact Nested.of_plain hp h
  | cons kind stack =>
      obtain ⟨inner, rest, hSplit, hInner, hRest⟩ := h
      cases inner with
      | nil =>
          obtain ⟨rfl, -⟩ := List.cons.inj hSplit
          cases hp
      | cons q inner =>
          obtain ⟨rfl, rfl⟩ := List.cons.inj hSplit
          exact ⟨inner, rest, rfl, hInner.of_plain hp, hRest⟩

/-- A bracket that is opened is the innermost one behind it. -/
theorem opening_iff : Closes stack (.opening kind :: ps) ↔ Closes (kind :: stack) ps := by
  constructor
  · intro h
    cases stack with
    | nil => exact Nested.exists_of_opening h
    | cons outer stack =>
        obtain ⟨inner, rest, hSplit, hInner, hRest⟩ := h
        cases inner with
        | nil => cases (List.cons.inj hSplit).1
        | cons q inner =>
            obtain ⟨rfl, rfl⟩ := List.cons.inj hSplit
            obtain ⟨inside, behind, rfl, hInside, hBehind⟩ := hInner.exists_of_opening
            exact ⟨inside, behind ++ .closing outer :: rest, List.append_assoc _ _ _, hInside,
              behind, rest, rfl, hBehind, hRest⟩
  · rintro ⟨inner, rest, rfl, hInner, hRest⟩
    have hClosed : Nested (.opening kind :: (inner ++ [.closing kind])) := .enclosed kind hInner .nil
    simpa using append hClosed hRest

/-- A bracket that closes is of the kind of the innermost open one. -/
theorem closing_iff :
    Closes stack (.closing kind :: ps) ↔ ∃ others, stack = kind :: others ∧ Closes others ps := by
  constructor
  · intro h
    cases stack with
    | nil => exact absurd h Nested.not_closing
    | cons inmost stack =>
        obtain ⟨inner, rest, hSplit, hInner, hRest⟩ := h
        cases inner with
        | nil =>
            obtain ⟨hKind, rfl⟩ := List.cons.inj hSplit
            obtain rfl := Lexeme.closing.inj hKind
            exact ⟨stack, rfl, hRest⟩
        | cons q inner =>
            obtain ⟨rfl, -⟩ := List.cons.inj hSplit
            exact absurd hInner Nested.not_closing
  · rintro ⟨others, rfl, h⟩
    exact ⟨[], ps, rfl, .nil, h⟩

end Closes

end ProxyRouting
