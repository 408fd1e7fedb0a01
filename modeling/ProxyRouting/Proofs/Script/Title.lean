import ProxyRouting.Proofs.Delegation
import ProxyRouting.Proofs.Script.Balance
import ProxyRouting.Proofs.Text.Pieces

/-! The lines of an embedded script. The name of the profile stands behind a comment mark, the head
of the function on the next line, then the body and a closing brace. The name is copied as it is, so
that it is one line with the mark only if it has no line break; what stands behind a break is
code. -/
namespace ProxyRouting.Embedded

/-- The comment that names the profile whose script follows. -/
def titleLine (name : String) : List Char := "// Embedded PAC script: ".toList ++ name.toList

/-- The line that opens the function with a number. -/
def headLine (n : Int) : List Char :=
  "function _embeddedPAC_".toList ++ (Text.writeInt n ++ "(url, host) \x7b".toList)

theorem newline_not_mem_headLine (n : Int) : '\n' ∉ headLine n := by
  intro h
  rcases List.mem_append.mp h with hFront | h
  · exact absurd hFront (by decide)
  · rcases List.mem_append.mp h with hNumber | hBehind
    · rcases Text.isDigit_or_eq_of_mem_writeInt hNumber with hDigit | hSign
      · cases hDigit
      · cases hSign
    · exact absurd hBehind (by decide)

theorem newline_mem_titleLine_iff {name : String} : '\n' ∈ titleLine name ↔ '\n' ∈ name.toList := by
  have hMark : '\n' ∉ "// Embedded PAC script: ".toList := by decide
  constructor
  · intro h
    exact (List.mem_append.mp h).resolve_left hMark
  · exact List.mem_append_right _

theorem toList_head (e : Embedded) (rest : List Char) :
    "\nfunction ".toList ++ (e.function.toList ++ ("(url, host) ".toList ++ '\x7b' :: rest)) =
      '\n' :: (headLine e.number ++ rest) := by
  have hFront : "\nfunction ".toList ++ "_embeddedPAC_".toList =
      '\n' :: "function _embeddedPAC_".toList := by decide
  have hBehind : "(url, host) ".toList ++ ['\x7b'] = "(url, host) \x7b".toList := by decide
  have hFunction : e.function.toList = "_embeddedPAC_".toList ++ Text.writeInt e.number := by
    show ("_embeddedPAC_" ++ String.ofList (Text.writeInt e.number)).toList = _
    rw [String.toList_append, String.toList_ofList (l := Text.writeInt e.number)]
  show _ = '\n' :: ("function _embeddedPAC_".toList ++
    (Text.writeInt e.number ++ "(url, host) \x7b".toList) ++ rest)
  rw [← hBehind, hFunction]
  simp only [List.append_assoc, ← List.cons_append, ← hFront, List.singleton_append]

/-- The title takes the lines that the name has, the head of the function and the last brace one
each. -/
theorem pieces_source (e : Embedded) : Text.pieces '\n' e.source.toList =
    Text.pieces '\n' (titleLine (Text.shown e.title)) ++
      headLine e.number :: (Text.pieces '\n' e.body.toList ++ [['\x7d']]) := by
  have hLines : e.source.toList = titleLine (Text.shown e.title) ++
      '\n' :: (headLine e.number ++ '\n' :: (e.body.toList ++ '\n' :: ['\x7d'])) := by
    rw [toList_source]
    simp only [List.append_assoc, List.cons_append, List.nil_append, toList_head]
    rfl
  rw [hLines, Text.pieces_append_mark, Text.pieces_append_cons (newline_not_mem_headLine _),
    Text.pieces_append_mark]
  rfl

/-- The script of a profile that passes, embedded under any number: the lines of its name behind the
comment mark, the head of the function, the lines of the body and the closing brace. The name is one
comment exactly when it has no line break. -/
theorem pieces_source_iff (p : Profile) (w : Workplace) (n : Int) (e : Embedded)
    (hPasses : p.Passes w) (h : ofProfile? p n = some e) :
    ∃ name script body, p.name = some name ∧ p.scriptText? = some script ∧
      extractBody script = some body ∧
      Text.pieces '\n' e.source.toList = Text.pieces '\n' (titleLine name) ++
        headLine n :: (Text.pieces '\n' body.toList ++ [['\x7d']]) ∧
      (Text.pieces '\n' e.source.toList =
          titleLine name :: headLine n :: (Text.pieces '\n' body.toList ++ [['\x7d']]) ↔
        '\n' ∉ name.toList) := by
  obtain ⟨name, hName, -⟩ := hPasses.exists_name
  obtain ⟨-, hNumber, script, hScript, hBody⟩ := ofProfile?_eq_some h
  have hTitle : Text.shown e.title = name := by
    rw [title_of_ofProfile? h, hName]
    rfl
  have hLines := pieces_source e
  rw [hTitle, hNumber] at hLines
  refine ⟨name, script, e.body, hName, hScript, hBody, hLines, ?_⟩
  rw [hLines, ← List.singleton_append (l := headLine n :: _), List.append_left_inj,
    Text.pieces_eq_singleton_iff, newline_mem_titleLine_iff]

/-- A profile with a name of one line, embedded under a negative number. -/
theorem pieces_source_iff_nestedSource :
    (RuleSet.carrying RuleSet.nestedSource).Passes RuleSet.scanning ∧
    ∃ e body, ofProfile? (RuleSet.carrying RuleSet.nestedSource) (-12) = some e ∧
      extractBody RuleSet.nestedSource = some body ∧
      Text.pieces '\n' e.source.toList =
        titleLine "Corp" :: headLine (-12) :: (Text.pieces '\n' body.toList ++ [['\x7d']]) := by
  have hPasses : (RuleSet.carrying RuleSet.nestedSource).Passes RuleSet.scanning :=
    RuleSet.passes_of_errors (by decide +kernel)
  have hTaken : (ofProfile? (RuleSet.carrying RuleSet.nestedSource) (-12)).isSome := by
    decide +kernel
  obtain ⟨e, hEmbedded⟩ := Option.isSome_iff_exists.mp hTaken
  obtain ⟨name, script, body, hName, hScript, hBody, -, hIff⟩ :=
    pieces_source_iff _ _ _ e hPasses hEmbedded
  obtain rfl : "Corp" = name := Option.some.inj hName
  obtain rfl : RuleSet.nestedSource = script := Option.some.inj hScript
  exact ⟨hPasses, e, body, hEmbedded, hBody, hIff.mpr (by decide)⟩

/-- A profile whose name has a second line. -/
def twoLines : Profile :=
  { RuleSet.carrying "function FindProxyForURL(url, host) \x7b return \"DIRECT\"; \x7d" with
    name := some "Corp\nalert(1);" }

/-- The second line of a name stands outside of the comment, between it and the function. -/
theorem name_becomes_code : ¬ ∀ (p : Profile) (w : Workplace) (n : Int) (e : Embedded),
    p.Passes w → ofProfile? p n = some e →
    ∃ name script body, p.name = some name ∧ p.scriptText? = some script ∧
      extractBody script = some body ∧
      Text.pieces '\n' e.source.toList =
        titleLine name :: headLine n :: (Text.pieces '\n' body.toList ++ [['\x7d']]) := by
  intro hClaim
  have hPasses : twoLines.Passes RuleSet.scanning := RuleSet.passes_of_errors (by decide +kernel)
  have hEmbedded : ofProfile? twoLines 0 =
      some ⟨"p", some "Corp\nalert(1);", 0, "  return \"DIRECT\";"⟩ := by decide +kernel
  obtain ⟨name, script, body, -, -, -, hLines⟩ := hClaim _ _ _ _ hPasses hEmbedded
  have hSecond : (Text.pieces '\n' (source ⟨"p", some "Corp\nalert(1);", 0,
      "  return \"DIRECT\";"⟩).toList)[1]? = some "alert(1);".toList := by decide +kernel
  rw [hLines] at hSecond
  exact absurd (Option.some.inj hSecond) (by decide +kernel)

end ProxyRouting.Embedded
