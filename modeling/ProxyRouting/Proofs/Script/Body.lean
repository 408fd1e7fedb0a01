import ProxyRouting.Proofs.Script.Balance
import ProxyRouting.Proofs.Script.Heading
import ProxyRouting.Proofs.Text.Pieces

/-! The body that is taken out of a source text, told by counting braces. Behind the first heading
one text at most is balanced and followed by a closing brace. It is the body, unless nothing but
blanks stands in it, and its lines are indented by two blanks. -/
namespace ProxyRouting

/-- A text in front of a closing brace that closes what it opens, and no part at its front closes
more. -/
def IsBody (behind body : List Char) : Prop :=
  IsBalanced body ∧ ∃ rest, behind = body ++ '\x7d' :: rest

theorem isBody_iff {behind body : List Char} :
    IsBody behind body ↔ untilClosed 0 behind = some body := by
  rw [untilClosed_eq_some_iff, IsBody, isBalanced_iff]

theorem IsBody.unique {behind body other : List Char} (h : IsBody behind body)
    (hOther : IsBody behind other) : other = body := by
  rw [isBody_iff] at h hOther
  exact Option.some.inj (hOther.symm.trans h)

/-- The text without the two blanks in front of each line; none when a line has no such blanks. -/
def unindent? (s : List Char) : Option (List Char) :=
  ((Text.pieces '\n' s).mapM fun line => Text.after? (fun a b => a = b) [' ', ' '] line).map
    (Text.joined ['\n'])

theorem pieces_indentLines (s : List Char) :
    Text.pieces '\n' (indentLines s) =
      (Text.pieces '\n' s).map fun line => ' ' :: ' ' :: line := by
  refine Text.pieces_joined (by simpa using Text.pieces_ne_nil '\n' s) fun part hPart => ?_
  obtain ⟨line, hLine, rfl⟩ := List.mem_map.mp hPart
  simpa using Text.not_mem_of_mem_pieces hLine

theorem unindent?_indentLines (s : List Char) : unindent? (indentLines s) = some s := by
  have hLines : ∀ lines : List (List Char),
      (lines.map fun line => ' ' :: ' ' :: line).mapM
        (fun line => Text.after? (fun a b => a = b) [' ', ' '] line) = some lines := by
    intro lines
    induction lines with
    | nil => rfl
    | cons line lines ih =>
        rw [List.map_cons, List.mapM_cons, ih]
        rfl
  rw [unindent?, pieces_indentLines, hLines, Option.map_some, Text.joined_pieces]

theorem functionBody?_eq_some_iff {source behind text : List Char}
    (h : Heading.IsBehindFirst source behind) :
    functionBody? source = some text ↔
      ∃ body, IsBody behind body ∧ Text.strip body ≠ [] ∧ text = Text.strip body := by
  obtain ⟨d, hFind, rfl⟩ := Heading.find?_iff.mpr h
  simp only [functionBody?, hFind, Option.bind_eq_bind, Option.bind_some, Option.bind_eq_some_iff,
    isBody_iff]
  refine exists_congr fun body => and_congr_right fun _ => ?_
  split
  next hBlank =>
    refine iff_of_false (Option.some_ne_none text).symm fun hBody => ?_
    exact hBody.1 (List.isEmpty_iff.mp hBlank)
  next hFilled =>
    rw [Option.some.injEq, eq_comm]
    exact (and_iff_right fun hNil => hFilled (List.isEmpty_iff.mpr hNil)).symm

theorem functionBody?_eq_none {source : List Char}
    (h : ¬ ∃ behind, Heading.IsBehindFirst source behind) : functionBody? source = none := by
  cases hFind : Declaration.find? source with
  | none => simp [functionBody?, hFind]
  | some d => exact absurd ⟨d.behind, Heading.find?_iff.mp ⟨d, hFind, rfl⟩⟩ h

/-- The body that is taken out of a source text is the one behind its first heading, without blanks
at its ends and with two blanks in front of each line. There is none without a heading, without a
balanced text in front of a closing brace behind it, or when that text is blank. -/
theorem extractBody_iff_isBody (source : String) :
    ((¬ ∃ behind, Heading.IsBehindFirst source.toList behind) → extractBody source = none) ∧
    ∀ behind, Heading.IsBehindFirst source.toList behind →
      ((extractBody source).isSome ↔ ∃ body, IsBody behind body ∧ Text.strip body ≠ []) ∧
      (∀ body other, IsBody behind body → IsBody behind other → other = body) ∧
      ∀ result, extractBody source = some result → IsBalanced result.toList ∧
        ∃ body, IsBody behind body ∧ unindent? result.toList = some (Text.strip body) := by
  constructor
  · intro hNone
    rw [extractBody, functionBody?_eq_none hNone, Option.map_none]
  · intro behind hBehind
    have hBody := @functionBody?_eq_some_iff source.toList behind
    refine ⟨?_, fun body other h hOther => h.unique hOther, fun result hResult => ?_⟩
    · rw [extractBody, Option.isSome_map, Option.isSome_iff_exists]
      constructor
      · rintro ⟨text, hText⟩
        obtain ⟨body, hIs, hFilled, -⟩ := (hBody hBehind).mp hText
        exact ⟨body, hIs, hFilled⟩
      · rintro ⟨body, hIs, hFilled⟩
        exact ⟨_, (hBody hBehind).mpr ⟨body, hIs, hFilled, rfl⟩⟩
    · obtain ⟨text, hText, rfl⟩ := Option.map_eq_some_iff.mp hResult
      obtain ⟨body, hIs, -, rfl⟩ := (hBody hBehind).mp hText
      rw [String.toList_ofList]
      refine ⟨isBalanced_iff.mpr ?_, body, hIs, unindent?_indentLines _⟩
      rw [bracesOpen_indentLines]
      exact bracesOpen_of_functionBody? hText

/-- What stands behind the heading of a source text that closes more braces than it opens. -/
def overclosed : String := "\n if (x) \x7b return \"B\" \x7d\n return \"A\"\n\x7d\x7d // FindProxyForURL() \x7b"

/-- A heading in letters of either case and without a comma, and braces that are nested. -/
theorem extractBody_iff_isBody_overclosed :
    Heading.IsBehindFirst ("var a;FUNCTION\tfindProxyForURL ( url host)\n\x7b" ++ overclosed).toList
      overclosed.toList ∧
    ∃ result, extractBody ("var a;FUNCTION\tfindProxyForURL ( url host)\n\x7b" ++ overclosed) =
        some result ∧ IsBalanced result.toList ∧
      unindent? result.toList = some "if (x) \x7b return \"B\" \x7d\n return \"A\"".toList := by
  have hFirst : Heading.IsBehindFirst
      ("var a;FUNCTION\tfindProxyForURL ( url host)\n\x7b" ++ overclosed).toList overclosed.toList :=
    Heading.find?_iff.mp ⟨⟨"url".toList, "host".toList, overclosed.toList⟩, by decide +kernel, rfl⟩
  have hBody : IsBody overclosed.toList "\n if (x) \x7b return \"B\" \x7d\n return \"A\"\n".toList :=
    isBody_iff.mpr (by decide +kernel)
  obtain ⟨hSome, hUnique, hResult⟩ := (extractBody_iff_isBody _).2 _ hFirst
  obtain ⟨result, hTaken⟩ := Option.isSome_iff_exists.mp (hSome.mpr ⟨_, hBody, by decide +kernel⟩)
  obtain ⟨hBalanced, body, hIs, hLines⟩ := hResult result hTaken
  obtain rfl := hUnique _ _ hBody hIs
  refine ⟨hFirst, result, hTaken, hBalanced, hLines.trans ?_⟩
  decide +kernel

end ProxyRouting
