import ProxyRouting.Analysis.Signature
import ProxyRouting.Proofs.Analysis.Calls
import ProxyRouting.Proofs.Analysis.Nesting
import ProxyRouting.Proofs.Pattern.Meaning

/-! The source text of a script whose texts are harmless. Each part of it leaves nothing open and
calls nothing that is forbidden, whatever stands in front. -/
namespace ProxyRouting

/-- A text that leaves nothing open and makes safe calls only. -/
structure IsInert (s : List Char) : Prop where
  closed : IsClosed s
  safe : ∀ last, callsAreSafe last s = true

namespace IsInert

theorem nil : IsInert [] := ⟨.nil, fun _ => rfl⟩

theorem append {s t : List Char} (hs : IsInert s) (ht : IsInert t) : IsInert (s ++ t) := by
  refine ⟨hs.closed.append ht.closed, fun last => ?_⟩
  rw [callsAreSafe_append, hs.safe, ht.safe]
  rfl

theorem flatMap {α : Type} {f : α → List Char} {xs : List α} (h : ∀ x ∈ xs, IsInert (f x)) :
    IsInert (xs.flatMap f) := by
  induction xs with
  | nil => exact nil
  | cons x xs ih =>
      rw [List.flatMap_cons]
      exact (h x List.mem_cons_self).append (ih fun y hy => h y (List.mem_cons_of_mem x hy))

theorem code {s : List Char} (h : s.all isCode = true) : IsInert s := by
  refine ⟨.code h, fun last => callsAreSafe_of_not_mem ?_ last⟩
  exact fun hMem => absurd (List.all_eq_true.mp h _ hMem) (by decide)

theorem quoted {s : List Char} (h : s.all isVerbatim = true) : IsInert ('"' :: (s ++ ['"'])) := by
  refine ⟨.quoted h, fun last => callsAreSafe_of_not_mem ?_ last⟩
  intro hMem
  simp only [List.mem_cons, List.mem_append, List.not_mem_nil, or_false] at hMem
  rcases hMem with h' | h' | h'
  · exact absurd h' (by decide)
  · exact absurd (List.all_eq_true.mp h _ h') (by decide)
  · exact absurd h' (by decide)

/-- What stands between parentheses behind a word that ends in another letter than the names of
forbidden functions. -/
theorem call (word : List Char) (final : Char) {s : List Char} (hWord : word.all isCode = true)
    (hLast : ∀ last, lastFilled last word = final) (hFinal : final ≠ 'l' ∧ final ≠ 'n')
    (hs : IsInert s) : IsInert (word ++ '(' :: (s ++ [')'])) := by
  refine ⟨(IsClosed.code hWord).append (hs.closed.enclosed .paren), fun last => ?_⟩
  have hClose : ∀ last, callsAreSafe last [')'] = true := callsAreSafe_of_not_mem (by decide)
  rw [callsAreSafe_append, (code hWord).safe, callsAreSafe, hLast]
  simp [hFinal, callsAreSafe_append, hs.safe, hClose]

theorem braces {s : List Char} (hs : IsInert s) : IsInert ('\x7b' :: (s ++ ['\x7d'])) := by
  refine ⟨hs.closed.enclosed .brace, fun last => ?_⟩
  have hClose : ∀ last, callsAreSafe last ['\x7d'] = true := callsAreSafe_of_not_mem (by decide)
  rw [callsAreSafe]
  simp [callsAreSafe_append, hs.safe, hClose]

end IsInert

/-- A class of characters without the four that matter inside quotes. -/
theorem isVerbatim_of {p : Char → Bool} {c : Char} (h : p c = true) (hQuote : p '"' = false)
    (hSlash : p '\\' = false) (hLine : p '\n' = false) (hParen : p '(' = false) :
    isVerbatim c = true := by
  have hOther : ∀ {other : Char}, p other = false → c ≠ other := by
    rintro other hOther rfl
    rw [h] at hOther
    cases hOther
  simp [isVerbatim, hOther hQuote, hOther hSlash, hOther hLine, hOther hParen]

theorem isVerbatim_of_isWildcardChar {c : Char} (h : Grammar.isWildcardChar c = true) :
    isVerbatim c = true :=
  isVerbatim_of h (by decide) (by decide) (by decide) (by decide)

theorem all_isVerbatim {s : List Char} (h : s.all Grammar.isWildcardChar = true) :
    s.all isVerbatim = true :=
  List.all_eq_true.mpr fun c hc => isVerbatim_of_isWildcardChar (List.all_eq_true.mp h c hc)

theorem Quad.all_isWildcardChar_toChars (q : Quad) :
    q.toChars.all Grammar.isWildcardChar = true := by
  refine List.all_eq_true.mpr fun c hc => Grammar.isWildcardChar_of_isHostChar ?_
  rcases Quad.isDigit_or_eq_of_mem_toChars hc with hDigit | rfl
  · exact Grammar.isHostChar_of_isDigit hDigit
  · decide

theorem Condition.isInert_render {c : Condition} (h : c.IsBland) : IsInert c.render.toList := by
  have hHost : IsInert "host, ".toList := .code (by decide)
  cases c with
  | shell s =>
      have hCall := IsInert.call "shExpMatch".toList 'h' (by decide) (fun _ => rfl) (by decide)
        (hHost.append (.quoted (all_isVerbatim h)))
      rw [toList_render_shell]
      simpa using hCall
  | equals s =>
      have hCompare := (IsInert.code (s := "host === ".toList) (by decide)).append
        (.quoted (all_isVerbatim h))
      rw [toList_render_equals]
      simpa using hCompare
  | search s => exact h.elim
  | inNet s mask =>
      have hComma : IsInert ", ".toList := .code (by decide)
      have hCall := IsInert.call "isInNet".toList 't' (by decide) (fun _ => rfl) (by decide)
        ((hHost.append (.quoted (all_isVerbatim h))).append
          (hComma.append (.quoted (all_isVerbatim mask.all_isWildcardChar_toChars))))
      rw [toList_render_inNet]
      simpa using hCall
  | never => exact .code (by decide)

end ProxyRouting
