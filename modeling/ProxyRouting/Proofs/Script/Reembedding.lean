import ProxyRouting.Proofs.Parity
import ProxyRouting.Proofs.Script.Leading
import ProxyRouting.Proofs.Script.Nested
import ProxyRouting.Proofs.Text.Ends
import ProxyRouting.Proofs.Text.Pieces

/-! Compiled scripts as scripts to embed. From the text of a compiled script the statements of its
own function are taken out, in their order and each on its own line, whatever is embedded in front
of them and however they are indented. -/
namespace ProxyRouting

namespace Script

/-- A statement starts with a word and ends with a semicolon. -/
theorem ends_of_mem_texts {s : Script} {text : String} (h : text ∈ s.texts) :
    (∀ c ∈ text.toList.head?, Text.isBlank c = false) ∧ text.toList.getLast? = some ';' := by
  rcases List.mem_append.mp h with hStatement | hLast
  · obtain ⟨st, -, rfl⟩ := List.mem_map.mp hStatement
    have hEnd : st.render.toList = ("if (".toList ++ (st.condition.render.toList ++
        (") return ".toList ++ st.action.render.toList))) ++ [';'] := by
      rw [Statement.toList_render]
      simp only [List.append_assoc]
    constructor
    · rw [Statement.toList_render]
      intro c hc
      obtain rfl : 'i' = c := Option.some.inj hc
      rfl
    · rw [hEnd, List.getLast?_concat]
  · rw [List.mem_singleton.mp hLast, Action.toList_renderLast]
    constructor
    · intro c hc
      obtain rfl : 'r' = c := Option.some.inj hc
      rfl
    · rw [← List.append_assoc, List.getLast?_concat]

/-- The statements one below the other, each but the first behind the indentation. -/
def stacked (indent : String) (first : String) (others : List String) : List Char :=
  first.toList ++ others.flatMap fun text => '\n' :: (indent.toList ++ text.toList)

theorem getLast?_stacked (indent : String) {first : String} {others : List String}
    (h : ∀ text ∈ first :: others, text.toList.getLast? = some ';') :
    (stacked indent first others).getLast? = some ';' := by
  have hFirst := h first List.mem_cons_self
  rcases List.eq_nil_or_concat others with rfl | ⟨front, last, hOthers⟩
  · simpa [stacked] using hFirst
  · have hLast : last.toList.getLast? = some ';' := by
      apply h
      rw [hOthers, List.concat_eq_append]
      exact List.mem_cons_of_mem _ (List.mem_append_right _ List.mem_cons_self)
    rw [stacked, hOthers, List.concat_eq_append, List.flatMap_append, List.flatMap_singleton,
      List.getLast?_append, List.getLast?_append, List.getLast?_cons, List.getLast?_append, hLast]
    rfl

/-- Between the braces nothing but the statements is left when the blanks at the ends are
dropped. -/
theorem strip_inner {s : Script} {indent : String} (hIndent : Settings.isIndent indent = true)
    {first : String} {others : List String} (hTexts : s.texts = first :: others) :
    Text.strip (s.inner indent ++ ['\n']) = stacked indent first others := by
  have hEnds : ∀ text ∈ first :: others, _ := fun text hText =>
    ends_of_mem_texts (hTexts ▸ hText)
  have hInner : s.inner indent = ('\n' :: indent.toList) ++ stacked indent first others := by
    show s.texts.flatMap _ = _
    rw [hTexts, List.flatMap_cons, stacked]
    simp only [List.cons_append, List.append_assoc]
  have hFirst := hEnds first List.mem_cons_self
  have hBlank : ∀ c ∈ '\n' :: indent.toList, Text.isBlank c = true := by
    intro c hc
    rcases List.mem_cons.mp hc with rfl | hc
    · rfl
    · rcases Settings.eq_of_mem_indent hIndent hc with rfl | rfl
      · rfl
      · rfl
  obtain ⟨c, more, hChars⟩ : ∃ c more, first.toList = c :: more := by
    apply List.exists_cons_of_ne_nil
    intro hNil
    rw [hNil] at hFirst
    cases hFirst.2
  have hBreak : ∀ c ∈ ['\n'], Text.isBlank c = true := by
    intro c hc
    rw [List.mem_singleton.mp hc]
    rfl
  rw [hInner, List.append_assoc]
  apply Text.strip_append_append hBlank hBreak
  · simp [stacked, hChars]
  · simpa [stacked, hChars] using hFirst.1
  · rw [getLast?_stacked indent fun text hText => (hEnds text hText).2]
    intro c hc
    obtain rfl : ';' = c := Option.some.inj hc
    rfl

/-- Indenting the statements puts two blanks in front of each line. -/
theorem indentLines_stacked {indent : String} (hIndent : Settings.isIndent indent = true)
    {first : String} {others : List String} (h : ∀ text ∈ first :: others, '\n' ∉ text.toList) :
    String.ofList (indentLines (stacked indent first others)) =
      "  " ++ ("\n  " ++ indent).intercalate (first :: others) := by
  have hJoined : stacked indent first others = Text.joined ['\n']
      (first.toList :: others.map fun text => indent.toList ++ text.toList) := by
    rw [Text.joined_cons_eq_flatMap, List.flatMap_map]
    rfl
  have hLines : ∀ line ∈ first.toList :: others.map fun text => indent.toList ++ text.toList,
      '\n' ∉ line := by
    intro line hLine
    rcases List.mem_cons.mp hLine with rfl | hOther
    · exact h first List.mem_cons_self
    · obtain ⟨text, hText, rfl⟩ := List.mem_map.mp hOther
      intro hMem
      rcases List.mem_append.mp hMem with hBlank | hChar
      · rcases Settings.eq_of_mem_indent hIndent hBlank with hc | hc
        · cases hc
        · cases hc
      · exact h text (List.mem_cons_of_mem first hText) hChar
  have hMark : ("\n  " ++ indent).toList = '\n' :: ' ' :: ' ' :: indent.toList := by
    rw [String.toList_append]
    rfl
  apply String.toList_inj.mp
  rw [String.toList_ofList, indentLines, hJoined, Text.pieces_joined (by simp) hLines,
    List.map_cons, Text.joined_cons_eq_flatMap, List.map_map, List.flatMap_map,
    String.toList_append, toList_intercalate_cons, hMark]
  simp only [Function.comp_apply, List.cons_append, List.nil_append]
  rfl

end Script

namespace RuleSet

/-- The text of a script can be embedded again if its statements are free of braces and line breaks
and what it embeds itself is free of the name of the function that answers requests, in letters of
any case. Then its statements are taken out of it, those of the rules in their order and that of the
fallback behind them, each on a line of its own. There is a text when no rule is without a pattern
and no server without a scheme. -/
theorem extractBody_compile {s : RuleSet} {profiles : List Profile} {settings : Settings}
    (hIndent : Settings.isIndent settings.indent = true) :
    ((∀ r ∈ s.rules, r.enabled = true → r.pattern.isSome) → s.HasSchemes profiles →
      ∃ text, s.compile profiles settings = .ok text) ∧
    ∀ text, s.compile profiles settings = .ok text →
      ∃ script, s.script profiles = .ok script ∧
        List.Forall₂ (fun r st => r.statement profiles script.functions = .ok (some st)) s.compiled
          script.statements ∧
        s.fallback.action profiles script.functions = .ok script.last ∧
        ((∀ line ∈ script.texts,
            '\x7b' ∉ line.toList ∧ '\x7d' ∉ line.toList ∧ '\n' ∉ line.toList) →
          (∀ e ∈ script.functions,
            ¬ "findproxyforurl".toList <:+: e.source.toList.map Char.toLower) →
          extractBody text =
            some ("  " ++ ("\n  " ++ settings.indent).intercalate script.texts)) := by
  refine ⟨exists_compile_of_patterns settings, fun text hText => ?_⟩
  obtain ⟨script, hScript, rfl⟩ := exists_script_of_compile hText
  refine ⟨script, hScript, forall₂_statement_of_script hScript, (of_script hScript).2.1, ?_⟩
  intro hLines hFunctions
  have hExtractable : script.IsExtractable settings.indent :=
    { blank := hIndent
      first := Script.find?_render settings.indent hFunctions
      braces := fun line hLine => ⟨(hLines line hLine).1, (hLines line hLine).2.1⟩ }
  obtain ⟨first, others, hTexts⟩ : ∃ first others, script.texts = first :: others :=
    List.exists_cons_of_ne_nil (by simp [Script.texts])
  have hBreaks : ∀ line ∈ first :: others, '\n' ∉ line.toList :=
    fun line hLine => (hLines line (hTexts ▸ hLine)).2.2
  rw [extractBody, hExtractable.functionBody?_eq, Script.strip_inner hIndent hTexts,
    Option.map_some, Script.indentLines_stacked hIndent hBreaks, hTexts]

/-- The lines of the sample rule set, in the order of its rules. -/
def samplerLines : List String := [
  "if (shExpMatch(host, \"*.corp\")) return _embeddedPAC_0(url, host);",
  "if (new RegExp(\"^(ads|tracker)\\\\.\").test(host)) return \"DIRECT\";",
  "if (isInNet(host, \"10.0.0.0\", \"255.0.0.0\")) return \"HTTPS gw.corp:8443\";",
  "return \"DIRECT\";"]

theorem extractBody_compile_sampler :
    Settings.isIndent "\t" = true ∧ ∃ text,
      sampler.compile [scripted] { Settings.standard with indent := "\t" } = .ok text ∧
      extractBody text = some ("  " ++ "\n  \t".intercalate samplerLines) := by
  have hIndent : Settings.isIndent "\t" = true := by decide
  have hSchemes : sampler.HasSchemes [scripted] := by
    unfold HasSchemes
    decide +kernel
  have hSample : (sampler.script [scripted]).map (fun script =>
      (script.texts, script.functions.any fun e =>
        Text.occurs "findproxyforurl".toList (e.source.toList.map Char.toLower))) =
          .ok (samplerLines, false) := by decide +kernel
  obtain ⟨hExists, hAll⟩ := @extractBody_compile sampler [scripted]
    { Settings.standard with indent := "\t" } hIndent
  obtain ⟨text, hText⟩ := hExists (by decide +kernel) hSchemes
  obtain ⟨script, hScript, -, -, hBody⟩ := hAll text hText
  rw [hScript] at hSample
  obtain ⟨hLines, hFree⟩ := Prod.mk.inj (Except.ok.inj hSample)
  have hFunctions := List.any_eq_false.mp hFree
  rw [hLines] at hBody
  refine ⟨hIndent, text, hText, hBody (by decide) fun e he hInfix => ?_⟩
  exact hFunctions e he (Text.occurs_iff.mpr hInfix)

end RuleSet

end ProxyRouting
