import Mathlib.Data.List.DropRight
import ProxyRouting.Proofs.Script.Body
import ProxyRouting.Proofs.Script.Title

/-! The parameters of an embedded function. Headings name their parameters freely, and a body is
copied without its heading. The function that the copy stands in has names of its own, so that what
the body calls its arguments by is kept only by a heading that happens to use the same names. -/
namespace ProxyRouting

namespace Heading

open Text

/-- A name that is not empty. -/
def named (a : List Char) : Language Char := {s | s = a ∧ a ≠ [] ∧ ∀ c ∈ a, isAsciiWord c = true}

/-- What keeps two names apart: a comma, blanks around it or not, or blanks alone. -/
def between : Language Char := gap * (mark ',' * gap) + space

/-- The parameters of a heading that names both of them, up to the brace that opens the body. -/
def pair (a b : List Char) : Language Char := gap * (named a * (between * (named b * ending)))

section Names

variable {a b s rest : List Char}

theorem starts_named_iff : Starts (named a) s rest ↔
    s = a ++ rest ∧ a ≠ [] ∧ ∀ c ∈ a, isAsciiWord c = true := by
  constructor
  · rintro ⟨t, ⟨rfl, hName⟩, hSplit⟩
    exact ⟨hSplit, hName⟩
  · rintro ⟨hSplit, hName⟩
    exact ⟨a, ⟨rfl, hName⟩, hSplit⟩

theorem starts_add_iff {k l : Language Char} :
    Starts (k + l) s rest ↔ Starts k s rest ∨ Starts l s rest := by
  constructor
  · rintro ⟨t, ht | ht, hSplit⟩
    · exact .inl ⟨t, ht, hSplit⟩
    · exact .inr ⟨t, ht, hSplit⟩
  · rintro (⟨t, ht, hSplit⟩ | ⟨t, ht, hSplit⟩)
    · exact ⟨t, .inl ht, hSplit⟩
    · exact ⟨t, .inr ht, hSplit⟩

theorem takeWhile_eq_nil_of_dropWhile {q : Char → Bool} (h : s.dropWhile q = s) :
    s.takeWhile q = [] :=
  List.takeWhile_eq_nil_iff.mpr (List.dropWhile_eq_self_iff.mp h)

theorem dropWhile_of_starts_space (h : Starts space s rest) : s.dropWhile isAsciiWord = s := by
  obtain ⟨g, ⟨hFilled, hBlanks⟩, rfl⟩ := h
  refine (eq_or_dropWhile_of_starts_gap ⟨g, hBlanks, rfl⟩).resolve_left fun hNone => ?_
  exact hFilled (List.append_left_eq_self.mp hNone)

theorem dropWhile_of_starts_between (h : Starts between s rest) : s.dropWhile isAsciiWord = s := by
  rcases starts_add_iff.mp h with hComma | hSpace
  · exact dropWhile_of_starts_gap_mul_mark (by decide) hComma
  · exact dropWhile_of_starts_space hSpace

/-- No blank stands in front of a name. -/
theorem skipBlanks_of_starts_named (h : Starts (named a) s rest) :
    Declaration.skipBlanks s = s := by
  obtain ⟨rfl, hFilled, hWord⟩ := starts_named_iff.mp h
  refine (eq_or_skipBlanks_of_starts_identifier ⟨a, hWord, rfl⟩).resolve_left fun hNone => ?_
  exact hFilled (List.append_left_eq_self.mp hNone)

/-- The longest name at the front is read, if there is one. -/
theorem starts_of_name_ne_nil (h : (Declaration.name s).1 ≠ []) :
    Starts (named (Declaration.name s).1) (Declaration.skipBlanks s) (Declaration.name s).2 :=
  starts_named_iff.mpr ⟨List.takeWhile_append_dropWhile.symm, h,
    fun _ hc => List.all_eq_true.mp List.all_takeWhile _ hc⟩

/-- A name is read as a whole where something else stands behind it. -/
theorem name_eq_of_starts {middle : List Char} (hGap : Starts gap s middle)
    (hName : Starts (named a) middle rest) (hRest : rest.dropWhile isAsciiWord = rest) :
    Declaration.name s = (a, rest) := by
  have hSkip := (skipBlanks_of_starts_gap hGap).trans (skipBlanks_of_starts_named hName)
  obtain ⟨rfl, -, hWord⟩ := starts_named_iff.mp hName
  rw [Declaration.name, hSkip, List.takeWhile_append_of_pos hWord,
    takeWhile_eq_nil_of_dropWhile hRest, List.append_nil, List.dropWhile_append_of_pos hWord, hRest]

theorem ending_iff : Starts ending s rest ↔
    ∃ behind, Declaration.afterMark? ')' s = some behind ∧
      Declaration.afterMark? '\x7b' behind = some rest := by
  have hParen := @afterMark?_eq_some_iff ')' (by decide) s
  have hBrace := fun behind => @afterMark?_eq_some_iff '\x7b' (by decide) behind rest
  simp only [ending, ← mul_assoc gap (mark ')'), starts_mul_iff (k := gap * mark ')'), hParen, hBrace]

/-- Behind one name stands what keeps it apart from the next one, if the next one is not empty. -/
theorem starts_between (h : s.dropWhile isAsciiWord = s)
    (hName : (Declaration.name ((Declaration.afterMark? ',' s).getD s)).1 ≠ []) :
    Starts between s (Declaration.skipBlanks ((Declaration.afterMark? ',' s).getD s)) := by
  cases hComma : Declaration.afterMark? ',' s with
  | some behind =>
      obtain ⟨middle, hGap, hMark⟩ :=
        starts_mul_iff.mp ((afterMark?_eq_some_iff (by decide)).mp hComma)
      exact starts_add_iff.mpr (.inl (starts_mul_iff.mpr
        ⟨middle, hGap, starts_mul_iff.mpr ⟨behind, hMark, starts_gap_skipBlanks behind⟩⟩))
  | none =>
      rw [hComma] at hName
      refine starts_add_iff.mpr (.inr ⟨s.takeWhile isAsciiBlank, ⟨fun hNone => hName ?_, ?_⟩,
        List.takeWhile_append_dropWhile.symm⟩)
      · -- Without blanks the second name would stand right behind the first and belong to it.
        have hSplit := List.takeWhile_append_dropWhile (p := isAsciiBlank) (l := s)
        rw [hNone, List.nil_append] at hSplit
        rw [Option.getD_none, Declaration.name, Declaration.skipBlanks, hSplit]
        exact takeWhile_eq_nil_of_dropWhile h
      · exact fun c hc => List.all_eq_true.mp List.all_takeWhile c hc

/-- Behind a comma, or where there is none, a gap stands in front of the second name. -/
theorem exists_gap_of_starts_between {inner : List Char} (h : Starts between s inner)
    (hName : Starts (named b) inner rest) :
    ∃ behind, (Declaration.afterMark? ',' s).getD s = behind ∧ Starts gap behind inner := by
  rcases starts_add_iff.mp h with hComma | ⟨g, ⟨-, hBlanks⟩, rfl⟩
  · obtain ⟨middle, hGap, hMiddle⟩ := starts_mul_iff.mp hComma
    obtain ⟨behind, hMark, hBehind⟩ := starts_mul_iff.mp hMiddle
    have hAfter : Declaration.afterMark? ',' s = some behind :=
      (afterMark?_eq_some_iff (by decide)).mpr (starts_mul_iff.mpr ⟨middle, hGap, hMark⟩)
    exact ⟨behind, by rw [hAfter, Option.getD_some], hBehind⟩
  · have hNone : Declaration.afterMark? ',' (g ++ inner) = none := by
      have hGap : Starts gap (g ++ inner) inner := ⟨g, hBlanks, rfl⟩
      rw [Declaration.afterMark?, skipBlanks_of_starts_gap hGap, skipBlanks_of_starts_named hName]
      obtain ⟨rfl, hFilled, hWord⟩ := starts_named_iff.mp hName
      cases b with
      | nil => exact absurd rfl hFilled
      | cons c b =>
          refine if_neg fun hMark => ?_
          have hLetter := hWord c List.mem_cons_self
          rw [hMark] at hLetter
          cases hLetter
    exact ⟨g ++ inner, by rw [hNone, Option.getD_none], g, hBlanks, rfl⟩

/-- Two names are read from the parameters exactly where both of them are written, apart. -/
theorem parameters?_eq_some_iff :
    (Declaration.parameters? s = some ⟨a, b, rest⟩ ∧ a ≠ [] ∧ b ≠ []) ↔ Starts (pair a b) s rest := by
  constructor
  · rintro ⟨h, hFirst, hSecond⟩
    simp only [Declaration.parameters?, Option.bind_eq_bind, Option.bind_eq_some_iff,
      Option.some.injEq, Declaration.mk.injEq] at h
    obtain ⟨afterParen, hParen, behind, hBrace, rfl, rfl, rfl⟩ := h
    have hWhole : (Declaration.name s).2.dropWhile isAsciiWord = (Declaration.name s).2 :=
      List.dropWhile_idempotent _ _
    exact starts_mul_iff.mpr ⟨_, starts_gap_skipBlanks s, starts_mul_iff.mpr
      ⟨_, starts_of_name_ne_nil hFirst, starts_mul_iff.mpr ⟨_, starts_between hWhole hSecond,
        starts_mul_iff.mpr ⟨_, starts_of_name_ne_nil hSecond,
          ending_iff.mpr ⟨afterParen, hParen, hBrace⟩⟩⟩⟩⟩
  · intro h
    obtain ⟨front, hGap, h⟩ := starts_mul_iff.mp h
    obtain ⟨afterFirst, hFirst, h⟩ := starts_mul_iff.mp h
    obtain ⟨inner, hBetween, h⟩ := starts_mul_iff.mp h
    obtain ⟨afterSecond, hSecond, hEnding⟩ := starts_mul_iff.mp h
    obtain ⟨afterParen, hParen, hBrace⟩ := ending_iff.mp hEnding
    have hLast : afterSecond.dropWhile isAsciiWord = afterSecond :=
      dropWhile_of_starts_gap_mul_mark (by decide) hEnding
    have hFirstRead := name_eq_of_starts hGap hFirst (dropWhile_of_starts_between hBetween)
    have hSecondRead : Declaration.name ((Declaration.afterMark? ',' afterFirst).getD afterFirst) =
        (b, afterSecond) := by
      obtain ⟨behind, hBehind, hInner⟩ := exists_gap_of_starts_between hBetween hSecond
      rw [hBehind]
      exact name_eq_of_starts hInner hSecond hLast
    refine ⟨?_, (starts_named_iff.mp hFirst).2.1, (starts_named_iff.mp hSecond).2.1⟩
    simp only [Declaration.parameters?, hFirstRead, hSecondRead, hParen, hBrace, Option.bind_eq_bind,
      Option.bind_some]

end Names

/-- The first heading in a text names both parameters; with what stands behind its brace. -/
def NamesFirst (s a b behind : List Char) : Prop :=
  ∃ front rest, s = front ++ rest ∧ Starts (opening * pair a b) rest behind ∧
    ∀ front' rest' behind', s = front' ++ rest' → Starts heading rest' behind' →
      front.length ≤ front'.length

/-- The names that are found in a text are those that its first heading is written with. -/
theorem namesFirst_iff {s a b behind : List Char} : NamesFirst s a b behind ↔
    Declaration.find? s = some ⟨a, b, behind⟩ ∧ a ≠ [] ∧ b ≠ [] := by
  constructor
  · rintro ⟨front, rest, hSplit, hHeading, hFirst⟩
    obtain ⟨inner, hOpening, hPair⟩ := starts_mul_iff.mp hHeading
    obtain ⟨hRead, hNames⟩ := parameters?_eq_some_iff.mpr hPair
    exact ⟨find?_eq_some_iff.mpr
      ⟨front, rest, hSplit, atFront?_eq_some_iff.mpr ⟨inner, hOpening, hRead⟩, hFirst⟩, hNames⟩
  · rintro ⟨hFind, hNames⟩
    obtain ⟨front, rest, hSplit, hRead, hFirst⟩ := find?_eq_some_iff.mp hFind
    obtain ⟨inner, hOpening, hInner⟩ := atFront?_eq_some_iff.mp hRead
    exact ⟨front, rest, hSplit, starts_mul_iff.mpr
      ⟨inner, hOpening, parameters?_eq_some_iff.mp ⟨hInner, hNames⟩⟩, hFirst⟩

theorem NamesFirst.isBehindFirst {s a b behind : List Char} (h : NamesFirst s a b behind) :
    IsBehindFirst s behind :=
  find?_iff.mp ⟨_, (namesFirst_iff.mp h).1, rfl⟩

end Heading

/-- Which argument of a function a name stands for, from the names of its two parameters. Of two
parameters with one name it is the second. -/
def argument? (a b name : List Char) : Option (Fin 2) :=
  if name = b then some 1 else if name = a then some 0 else none

theorem argument?_eq_one_iff {a b name : List Char} : argument? a b name = some 1 ↔ name = b := by
  unfold argument?
  split
  next h => exact iff_of_true rfl h
  next h => split <;> simp [h]

theorem argument?_eq_zero_iff {a b name : List Char} :
    argument? a b name = some 0 ↔ name ≠ b ∧ name = a := by
  unfold argument?
  split
  next h => exact iff_of_false nofun fun hOther => hOther.1 h
  next h =>
    split
    next hFirst => exact iff_of_true rfl ⟨h, hFirst⟩
    next hFirst => exact iff_of_false nofun fun hOther => hFirst hOther.2

/-- The names of two parameters stand for the same arguments under other parameters only if those
have the same names, but for a first name that the second one hides. -/
theorem forall_argument?_eq_iff {a b c d : List Char} :
    (∀ name ∈ [a, b], argument? c d name = argument? a b name) ↔ b = d ∧ (a = c ∨ a = d) := by
  constructor
  · intro h
    have hSecond : b = d :=
      argument?_eq_one_iff.mp ((h b (by simp)).trans (argument?_eq_one_iff.mpr rfl))
    refine ⟨hSecond, or_iff_not_imp_right.mpr fun hApart => ?_⟩
    have hFirst := h a (by simp)
    rw [argument?_eq_zero_iff.mpr ⟨hSecond ▸ hApart, rfl⟩] at hFirst
    exact (argument?_eq_zero_iff.mp hFirst).2
  · rintro ⟨rfl, rfl | rfl⟩ name hName
    · rfl
    · obtain rfl : name = a := by simpa using hName
      rw [argument?_eq_one_iff.mpr rfl, argument?_eq_one_iff.mpr rfl]

namespace Embedded

/-- The line with the title and the word and name of the function, up to its parameters. -/
def front (e : Embedded) : List Char :=
  titleLine (Text.shown e.title) ++ ("\nfunction ".toList ++ (e.function.toList ++ ['(']))

/-- An embedded script is a function with these two parameters around its body. -/
def Declares (e : Embedded) (a b : List Char) : Prop :=
  ∃ s, e.source.toList = e.front ++ s ∧
    Heading.Starts (Heading.pair a b) s ('\n' :: (e.body.toList ++ ['\n', '\x7d']))

/-- The parameters of an embedded function never depend on the script. -/
theorem declares_iff {e : Embedded} {a b : List Char} :
    e.Declares a b ↔ a = "url".toList ∧ b = "host".toList := by
  have hNames : ∀ rest : List Char, "(url, host) ".toList ++ '\x7b' :: rest =
      '(' :: ("url, host) \x7b".toList ++ rest) := fun _ => rfl
  have hSource : e.source.toList = e.front ++
      ("url, host) \x7b".toList ++ '\n' :: (e.body.toList ++ ['\n', '\x7d'])) := by
    rw [toList_source]
    unfold front titleLine
    simp only [List.append_assoc, List.cons_append, List.nil_append]
    rw [hNames]
  simp only [Declares, hSource, List.append_cancel_left_eq, exists_eq_left',
    ← Heading.parameters?_eq_some_iff]
  have hRead : ∀ rest, Declaration.parameters? ("url, host) \x7b".toList ++ rest) =
      some ⟨"url".toList, "host".toList, rest⟩ := fun _ => rfl
  rw [hRead]
  constructor
  · rintro ⟨hSame, -⟩
    obtain ⟨rfl, rfl, -⟩ := Declaration.mk.inj (Option.some.inj hSame)
    exact ⟨rfl, rfl⟩
  · rintro ⟨rfl, rfl⟩
    exact ⟨rfl, by decide, by decide⟩

/-- The script of a profile, embedded under any number: the body that stands behind a heading with
two names is copied into a function with parameters of its own. They are those of the heading exactly
when its names are `url` and `host`. Its names still stand for their arguments in the copy then, and
also when both are `host`, but never else. -/
theorem declares_names_iff (p : Profile) (id script body : String) (n : Int)
    (a b behind : List Char) (hId : p.id = some id) (hFilled : id ≠ "")
    (hScript : p.scriptText? = some script) (hBody : extractBody script = some body)
    (hNames : Heading.NamesFirst script.toList a b behind) :
    ∃ e inner, ofProfile? p n = some e ∧ e.body = body ∧ IsBody behind inner ∧
      body = String.ofList (indentLines (Text.strip inner)) ∧
      (e.Declares a b ↔ a = "url".toList ∧ b = "host".toList) ∧
      ∃ c d, e.Declares c d ∧
        ((∀ name ∈ [a, b], argument? c d name = argument? a b name) ↔
          b = "host".toList ∧ (a = "url".toList ∨ a = "host".toList)) := by
  have hEmbedded : ofProfile? p n = some ⟨id, p.name, n, body⟩ := by
    simp only [ofProfile?, hId, hScript, if_neg hFilled, hBody, Option.map_some]
  obtain ⟨text, hText, hLines⟩ := Option.map_eq_some_iff.mp hBody
  obtain ⟨inner, hInner, -, rfl⟩ := (functionBody?_eq_some_iff hNames.isBehindFirst).mp hText
  exact ⟨_, inner, hEmbedded, rfl, hInner, hLines.symm, declares_iff, _, _,
    declares_iff.mpr ⟨rfl, rfl⟩, forall_argument?_eq_iff⟩

/-- What stands behind the heading of a script that uses the second of the usual names. -/
def usualBody : String :=
  " if (host) \x7b return \"PROXY p:1\"; \x7d return \"DIRECT\"; \x7d // host"

/-- A script with the usual names in its heading, and with blanks in other places than usual. -/
def usualNames : String := "function  findProxyForURL ( url ,host)\x7b" ++ usualBody

theorem declares_names_iff_usualNames :
    Heading.NamesFirst usualNames.toList "url".toList "host".toList usualBody.toList ∧
    ∃ e, ofProfile? (RuleSet.carrying usualNames) 2 = some e ∧
      e.body = "  if (host) \x7b return \"PROXY p:1\"; \x7d return \"DIRECT\";" ∧
      e.Declares "url".toList "host".toList := by
  have hNames : Heading.NamesFirst usualNames.toList "url".toList "host".toList usualBody.toList :=
    Heading.namesFirst_iff.mpr ⟨by decide +kernel, by decide, by decide⟩
  have hScript : (RuleSet.carrying usualNames).scriptText? = some usualNames := by decide +kernel
  obtain ⟨e, -, hEmbedded, hBody, -, -, hDeclares, -⟩ :=
    declares_names_iff (RuleSet.carrying usualNames) "p" usualNames
      "  if (host) \x7b return \"PROXY p:1\"; \x7d return \"DIRECT\";" 2 _ _ _ rfl (by decide) hScript
      (by decide +kernel) hNames
  exact ⟨hNames, e, hEmbedded, hBody, hDeclares.mpr ⟨rfl, rfl⟩⟩

/-- A script with names of its own, one of which its body uses. -/
def ownNames : String := "function FindProxyForURL(u, h) \x7b return h; \x7d"

/-- A copied body may stand in a function without the parameters that it was written for. -/
theorem names_are_lost : ¬ ∀ (p : Profile) (id script body : String) (n : Int)
    (a b behind : List Char), p.id = some id → id ≠ "" → p.scriptText? = some script →
    extractBody script = some body → Heading.NamesFirst script.toList a b behind →
    ∃ e, ofProfile? p n = some e ∧ e.body = body ∧ e.Declares a b := by
  intro hClaim
  have hNames : Heading.NamesFirst ownNames.toList "u".toList "h".toList " return h; \x7d".toList :=
    Heading.namesFirst_iff.mpr ⟨by decide +kernel, by decide, by decide⟩
  obtain ⟨e, -, -, hDeclares⟩ := hClaim (RuleSet.carrying ownNames) "p" ownNames "  return h;" 0
    _ _ _ rfl (by decide) (by decide +kernel) (by decide +kernel) hNames
  exact absurd (declares_iff.mp hDeclares).1 (by decide)

end Embedded

end ProxyRouting
