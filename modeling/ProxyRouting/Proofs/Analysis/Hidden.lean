import ProxyRouting.Proofs.Analysis.Nesting
import ProxyRouting.Proofs.Script.Braces

/-! What the structure of a script hides from its code. A script whose structure is in order and that
hides no brace in its comments and quoted texts has balanced braces also for one who counts them all. -/
namespace ProxyRouting

/-- The characters of a script, from a place in it on, that are not part of its code: those of the
comments and of the quoted texts, with the quotes that close them. -/
def hiddenFrom : Place → List Char → List Char
  | _, [] => []
  | .code, '/' :: '/' :: rest => hiddenFrom .lineComment rest
  | .code, '/' :: '*' :: rest => hiddenFrom .blockComment rest
  | .code, c :: rest => hiddenFrom (if isQuote c then .quoted c else .code) rest
  | .lineComment, c :: rest => c :: hiddenFrom (if c = '\n' then .code else .lineComment) rest
  | .blockComment, '*' :: '/' :: rest => hiddenFrom .code rest
  | .blockComment, c :: rest => c :: hiddenFrom .blockComment rest
  | .quoted mark, '\\' :: c :: rest => c :: hiddenFrom (.quoted mark) rest
  | .quoted mark, c :: rest =>
    c :: hiddenFrom (if c = mark || c = '\n' && !spansLines mark then .code else .quoted mark) rest

/-- Whether no brace of a script stands in its comments and quoted texts. -/
def HidesNoBraces (script : List Char) : Prop := HasNoBraces (hiddenFrom .code script)

instance (script : List Char) : Decidable (HidesNoBraces script) :=
  inferInstanceAs (Decidable (HasNoBraces (hiddenFrom .code script)))

theorem isBrace_of_isQuote {c : Char} (h : isQuote c = true) : isBrace c = false := by
  rcases brace_cases c with rfl | rfl | hPlain
  · exact absurd h (by decide)
  · exact absurd h (by decide)
  · exact hPlain

namespace Bracket

theorem isBrace_of_none {c : Char} (hOpened : opened? c = none) (hClosed : closed? c = none) :
    isBrace c = false := by
  rcases brace_cases c with rfl | rfl | hPlain
  · cases hOpened
  · cases hClosed
  · exact hPlain

/-- What a bracket opens counts as a brace if the bracket is one. -/
theorem bracesOpen_opening (kind : Bracket) (stack : List Bracket) (rest : List Char) :
    bracesOpen (stack.count brace) (kind.opening :: rest) =
      bracesOpen ((kind :: stack).count brace) rest := by
  cases kind with
  | paren => rw [List.count_cons_of_ne (by decide), opening, bracesOpen_cons (by decide)]
  | brace => rw [List.count_cons_self, opening, bracesOpen_open]
  | square => rw [List.count_cons_of_ne (by decide), opening, bracesOpen_cons (by decide)]

theorem bracesOpen_closing (kind : Bracket) (stack : List Bracket) (rest : List Char) :
    bracesOpen ((kind :: stack).count brace) (kind.closing :: rest) =
      bracesOpen (stack.count brace) rest := by
  cases kind with
  | paren => rw [List.count_cons_of_ne (by decide), closing, bracesOpen_cons (by decide)]
  | brace => rw [List.count_cons_self, closing, bracesOpen_close]
  | square => rw [List.count_cons_of_ne (by decide), closing, bracesOpen_cons (by decide)]

end Bracket

/-- The brackets that are open are known to who counts braces only, as long as no brace is hidden. -/
theorem bracesOpen_of_structureFrom {p : Place} {line : Nat} {stack : List Bracket} {s : List Char}
    (h : structureFrom p line stack s = []) (hHidden : HasNoBraces (hiddenFrom p s)) :
    bracesOpen (stack.count .brace) s = some 0 := by
  fun_induction structureFrom p line stack s with
  | case1 p line stack =>
      rw [Place.atEnd_eq_nil h]
      rfl
  -- two characters that open a comment, or close one
  | case2 line stack rest ih | case3 line stack rest ih | case11 line stack rest ih =>
      rw [bracesOpen_cons (by decide), bracesOpen_cons (by decide)]
      exact ih h hHidden
  | case4 line stack c rest _ _ hQuote ih =>
      rw [hiddenFrom, if_pos hQuote] at hHidden
      · rw [bracesOpen_cons (isBrace_of_isQuote hQuote)]
        exact ih h hHidden
      all_goals assumption
  -- the three cases of code: a bracket is opened, the innermost one is closed, or there is none
  | case5 line stack c rest _ _ hQuote kind hOpened ih =>
      rw [hiddenFrom, if_neg hQuote] at hHidden
      · rw [← Bracket.opening_eq hOpened, Bracket.bracesOpen_opening]
        exact ih h hHidden
      all_goals assumption
  | case7 line c rest _ _ hQuote hOpened kind others hClosed ih =>
      rw [hiddenFrom, if_neg hQuote] at hHidden
      · rw [← Bracket.closing_eq hClosed, Bracket.bracesOpen_closing]
        exact ih h hHidden
      all_goals assumption
  | case9 line stack c rest _ _ hQuote hClosed hOpened ih =>
      rw [hiddenFrom, if_neg hQuote] at hHidden
      · rw [bracesOpen_cons (Bracket.isBrace_of_none hOpened hClosed)]
        exact ih h hHidden
      all_goals assumption
  -- what is left out in comments and quoted texts is no brace, as none is hidden
  | case10 line stack c rest ih | case12 line stack c rest _ ih =>
      rw [hiddenFrom] at hHidden
      · obtain ⟨hc, hRest⟩ := hasNoBraces_cons.mp hHidden
        rw [bracesOpen_cons hc]
        exact ih h hRest
      all_goals assumption
  | case13 mark line stack c rest ih =>
      obtain ⟨hc, hRest⟩ := hasNoBraces_cons.mp hHidden
      rw [bracesOpen_cons (by decide), bracesOpen_cons hc]
      exact ih h hRest
  | case15 line stack c rest _ _ ih =>
      rw [hiddenFrom] at hHidden
      · obtain ⟨hc, hRest⟩ := hasNoBraces_cons.mp hHidden
        rw [if_pos (by simp)] at hRest
        rw [bracesOpen_cons hc]
        exact ih h hRest
      all_goals assumption
  | case17 mark line stack c rest _ _ hMark hLine ih =>
      rw [hiddenFrom] at hHidden
      · obtain ⟨hc, hRest⟩ := hasNoBraces_cons.mp hHidden
        rw [if_neg (by simpa [hMark] using hLine)] at hRest
        rw [bracesOpen_cons hc]
        exact ih h hRest
      all_goals assumption
  -- a stray bracket and a quote that is not closed are problems
  | case6 | case8 | case16 => cases h
  | case14 => simp [Place.atEnd] at h

/-- A script whose structure is in order closes each brace that it opens, if it hides none. -/
theorem bracesOpen_of_structureProblems {script : List Char} (h : structureProblems script = [])
    (hHidden : HidesNoBraces script) : bracesOpen 0 script = some 0 :=
  bracesOpen_of_structureFrom h hHidden

end ProxyRouting
