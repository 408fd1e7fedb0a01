import ProxyRouting.Proofs.Script.Braces
import ProxyRouting.Proofs.Text.Occurrence

/-! The body that is taken out of a script. It is a part of the source text, and a word without
blanks occurs in it after its lines are indented where it did before. There is one unless the
declaration is missing, its brace is not closed, or nothing stands between the two braces. -/
namespace ProxyRouting

namespace Declaration

theorem suffix_of_after? {same : Char → Char → Bool} {word s rest : List Char}
    (h : Text.after? same word s = some rest) : rest <:+ s := by
  induction word generalizing s with
  | nil =>
      obtain rfl : s = rest := Option.some.inj h
      exact List.suffix_rfl
  | cons w word ih =>
      cases s with
      | nil => cases h
      | cons c s =>
          rw [Text.after?] at h
          split at h
          · exact (ih h).trans (List.suffix_cons c s)
          · cases h

theorem suffix_skipBlanks (s : List Char) : skipBlanks s <:+ s := List.dropWhile_suffix _

theorem cons_suffix_of_afterMark? {mark : Char} {s rest : List Char}
    (h : afterMark? mark s = some rest) : mark :: rest <:+ s := by
  unfold afterMark? at h
  split at h
  next c tail hSkip =>
    split at h
    next hMark =>
      obtain rfl := Option.some.inj h
      rw [← hMark, ← hSkip]
      exact suffix_skipBlanks s
    next => cases h
  · cases h

theorem suffix_of_afterMark? {mark : Char} {s rest : List Char}
    (h : afterMark? mark s = some rest) : rest <:+ s :=
  (List.suffix_cons mark rest).trans (cons_suffix_of_afterMark? h)

theorem suffix_name (s : List Char) : (name s).2 <:+ s :=
  (List.dropWhile_suffix _).trans (suffix_skipBlanks s)

theorem cons_suffix_of_parameters? {s : List Char} {d : Declaration} (h : parameters? s = some d) :
    '\x7b' :: d.behind <:+ s := by
  simp only [parameters?, Option.bind_eq_bind, Option.bind_eq_some_iff, Option.some.injEq] at h
  obtain ⟨afterParen, hParen, afterBrace, hBrace, rfl⟩ := h
  have hComma : (afterMark? ',' (name s).2).getD (name s).2 <:+ (name s).2 := by
    cases hMark : afterMark? ',' (name s).2 with
    | none => exact List.suffix_rfl
    | some rest => exact suffix_of_afterMark? hMark
  exact (cons_suffix_of_afterMark? hBrace).trans <| (suffix_of_afterMark? hParen).trans <|
    (suffix_name _).trans <| hComma.trans (suffix_name s)

theorem cons_suffix_of_atFront? {s : List Char} {d : Declaration} (h : atFront? s = some d) :
    '\x7b' :: d.behind <:+ s := by
  simp only [atFront?, Option.bind_eq_bind, Option.bind_eq_some_iff] at h
  obtain ⟨afterFunction, hFunction, h⟩ := h
  split at h
  · cases h
  · obtain ⟨afterName, hName, h⟩ := Option.bind_eq_some_iff.mp h
    obtain ⟨afterParen, hParen, hParameters⟩ := Option.bind_eq_some_iff.mp h
    exact (cons_suffix_of_parameters? hParameters).trans <| (suffix_of_afterMark? hParen).trans <|
      (suffix_of_after? hName).trans <| (suffix_skipBlanks _).trans (suffix_of_after? hFunction)

/-- A declaration is found in front of the brace that opens its body. -/
theorem cons_suffix_of_find? {s : List Char} {d : Declaration} (h : find? s = some d) :
    '\x7b' :: d.behind <:+ s := by
  induction s with
  | nil => cases h
  | cons c rest ih =>
      rw [find?, Option.or_eq_some_iff] at h
      rcases h with hFront | ⟨-, hRest⟩
      · exact cons_suffix_of_atFront? hFront
      · exact (ih hRest).trans (List.suffix_cons c rest)

theorem suffix_of_find? {s : List Char} {d : Declaration} (h : find? s = some d) :
    d.behind <:+ s :=
  (List.suffix_cons _ _).trans (cons_suffix_of_find? h)

end Declaration

/-- The body of the function is a part of the source text. -/
theorem infix_of_functionBody? {source body word : List Char}
    (hBody : functionBody? source = some body) (hBlank : ∀ c ∈ word, Text.isBlank c = false)
    (h : word <:+: body) : word <:+: source := by
  simp only [functionBody?, Option.bind_eq_bind, Option.bind_eq_some_iff] at hBody
  obtain ⟨d, hFound, inner, hClosed, hBody⟩ := hBody
  split at hBody
  · cases hBody
  · obtain rfl := Option.some.inj hBody
    obtain ⟨-, rest, hSplit⟩ := untilClosed_eq_some_iff.mp hClosed
    have hFront : inner <+: d.behind := ⟨'\x7d' :: rest, hSplit.symm⟩
    rw [Text.infix_strip_iff hBlank] at h
    exact h.trans <| hFront.isInfix.trans (Declaration.suffix_of_find? hFound).isInfix

/-- Indentation neither makes nor breaks a word. -/
theorem infix_indentLines_iff {word s : List Char} (h : ∀ c ∈ word, Text.isBlank c = false) :
    word <:+: indentLines s ↔ word <:+: s := by
  have hLine : '\n' ∉ word := Text.not_mem_of_isBlank h (by decide)
  have hSpace : ' ' ∉ word := Text.not_mem_of_isBlank h (by decide)
  have hPieces := Text.pieces_ne_nil '\n' s
  have hLines : word <:+: s ↔ ∃ line ∈ Text.pieces '\n' s, word <:+: line := by
    rw [← Text.infix_joined_iff hLine hPieces, Text.joined_pieces]
  rw [indentLines, Text.infix_joined_iff hLine (by simpa using hPieces), hLines]
  have hIndent : ∀ line, word <:+: ' ' :: ' ' :: line ↔ word <:+: line := by
    intro line
    rw [Text.infix_cons_of_not_mem hSpace, Text.infix_cons_of_not_mem hSpace]
  constructor
  · rintro ⟨part, hPart, hWord⟩
    obtain ⟨line, hLine, rfl⟩ := List.mem_map.mp hPart
    exact ⟨line, hLine, (hIndent line).mp hWord⟩
  · rintro ⟨line, hLine, hWord⟩
    exact ⟨_, List.mem_map_of_mem hLine, (hIndent line).mpr hWord⟩

/-- The brace behind a declaration is closed in a text that closes what it opens. -/
theorem Declaration.exists_closed {source : List Char} {d : Declaration}
    (h : find? source = some d) (hOpen : bracesOpen 0 source = some 0) :
    ∃ inner, untilClosed 0 d.behind = some inner := by
  obtain ⟨front, rfl⟩ := cons_suffix_of_find? h
  cases hClosed : untilClosed 0 d.behind with
  | some inner => exact ⟨inner, rfl⟩
  | none =>
      obtain ⟨left, hBehind⟩ := Option.isSome_iff_exists.mp (untilClosed_eq_none_iff.mp hClosed)
      rw [bracesOpen_append] at hOpen
      obtain ⟨depth, -, hRest⟩ := Option.bind_eq_some_iff.mp hOpen
      have hMore := bracesOpen_add hBehind (depth + 1)
      rw [Nat.zero_add] at hMore
      rw [bracesOpen_open, hMore] at hRest
      cases hRest

theorem isSome_extractBody {source : String} {d : Declaration} {inner : List Char}
    (h : Declaration.find? source.toList = some d) (hClosed : untilClosed 0 d.behind = some inner) :
    (extractBody source).isSome ↔ Text.isEmptyOrBlank inner = false := by
  rw [extractBody, Option.isSome_map, functionBody?]
  simp only [h, hClosed, Option.bind_eq_bind, Option.bind_some]
  cases hBlank : Text.isEmptyOrBlank inner with
  | true => simp [Text.strip_eq_nil_iff.mpr hBlank]
  | false =>
      have hFilled : Text.strip inner ≠ [] := by
        intro hNil
        rw [Text.strip_eq_nil_iff.mp hNil] at hBlank
        cases hBlank
      simp [hFilled]

theorem extractBody_of_find?_eq_none {source : String} (h : Declaration.find? source.toList = none) :
    extractBody source = none := by
  simp [extractBody, functionBody?, h]

end ProxyRouting
