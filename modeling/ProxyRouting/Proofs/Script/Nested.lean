import ProxyRouting.Proofs.Script.Capture
import Mathlib.Data.List.Infix

/-! A compiled script inside another one. Its statements are what is embedded, so that it captures
the names that they mention. -/
namespace ProxyRouting

namespace Declaration

theorem afterWord?_append (word : String) (rest : List Char) :
    afterWord? word (word.toList ++ rest) = some rest := by
  unfold afterWord?
  induction word.toList with
  | nil => rfl
  | cons c word ih =>
      rw [List.cons_append, Text.after?, if_pos (by simp [Text.sameAsciiLetter])]
      exact ih

theorem skipBlanks_of_not_isAsciiBlank {c : Char} (h : Text.isAsciiBlank c = false)
    (rest : List Char) : skipBlanks (c :: rest) = c :: rest :=
  List.dropWhile_cons_of_neg (by simp [h])

theorem atFront?_of_declared (behind : List Char) :
    atFront? ("function".toList ++ ' ' :: ("FindProxyForURL".toList ++
      ['(', 'u', 'r', 'l', ',', ' ', 'h', 'o', 's', 't', ')', ' ', '\x7b'] ++ behind)) =
      some ⟨['u', 'r', 'l'], ['h', 'o', 's', 't'], behind⟩ := by
  have hBlank : Text.isAsciiBlank ' ' = true := by decide
  have hName : skipBlanks (' ' :: ("FindProxyForURL".toList ++
      ['(', 'u', 'r', 'l', ',', ' ', 'h', 'o', 's', 't', ')', ' ', '\x7b'] ++ behind)) =
      "FindProxyForURL".toList ++
        (['(', 'u', 'r', 'l', ',', ' ', 'h', 'o', 's', 't', ')', ' ', '\x7b'] ++ behind) := by
    have hFirst : "FindProxyForURL".toList = 'F' :: "indProxyForURL".toList := rfl
    rw [skipBlanks, List.dropWhile_cons_of_pos hBlank, List.append_assoc, hFirst,
      List.cons_append]
    exact skipBlanks_of_not_isAsciiBlank (by decide) _
  unfold atFront?
  rw [afterWord?_append]
  simp only [Option.bind_eq_bind, Option.bind_some]
  rw [hName, afterWord?_append, List.takeWhile_cons_of_pos hBlank]
  rfl

end Declaration

theorem untilClosed_of_not_mem {s : List Char} (hOpen : '\x7b' ∉ s) (hClose : '\x7d' ∉ s)
    (rest : List Char) : untilClosed 0 (s ++ '\x7d' :: rest) = some s := by
  have hPlain : HasNoBraces s := hasNoBraces_iff.mpr ⟨hOpen, hClose⟩
  exact untilClosed_eq_some_iff.mpr ⟨hPlain.bracesOpen_eq 0, rest, rfl⟩

namespace Script

/-- The texts of the statements, the last one included. -/
def texts (s : Script) : List String := s.statements.map Statement.render ++ [s.last.renderLast]

/-- Whether the statements of a script can be taken out of its source text: they have no braces, and
no other declaration stands in front of that of its own function. -/
structure IsExtractable (s : Script) (indent : String) : Prop where
  blank : Settings.isIndent indent = true
  first : Declaration.find? (s.render indent).toList = Declaration.find? (s.main indent)
  braces : ∀ text ∈ s.texts, '\x7b' ∉ text.toList ∧ '\x7d' ∉ text.toList

theorem find?_main (s : Script) (indent : String) :
    Declaration.find? (s.main indent) =
      some ⟨['u', 'r', 'l'], ['h', 'o', 's', 't'], s.inner indent ++ ['\n', '\x7d']⟩ := by
  have hHead : "function FindProxyForURL(url, host) ".toList = "function".toList ++ ' ' ::
      ("FindProxyForURL".toList ++ ['(', 'u', 'r', 'l', ',', ' ', 'h', 'o', 's', 't', ')', ' ']) :=
    rfl
  have hMain : s.main indent = 'f' :: ("unction".toList ++ ' ' :: ("FindProxyForURL".toList ++
      ['(', 'u', 'r', 'l', ',', ' ', 'h', 'o', 's', 't', ')', ' ', '\x7b'] ++
      (s.inner indent ++ ['\n', '\x7d']))) := by
    have hFirst : "function".toList = 'f' :: "unction".toList := rfl
    unfold main
    rw [hHead, hFirst]
    simp only [List.append_assoc, List.cons_append, List.nil_append]
  have hFront := Declaration.atFront?_of_declared (s.inner indent ++ ['\n', '\x7d'])
  have hFirst : "function".toList = 'f' :: "unction".toList := rfl
  rw [hFirst, List.cons_append] at hFront
  rw [hMain, Declaration.find?, hFront, Option.some_or]

/-- A word without blanks occurs between the braces where it occurs in a statement. -/
theorem infix_inner_iff {s : Script} {indent : String} (hIndent : Settings.isIndent indent = true)
    {word : List Char} (hWord : word ≠ []) (hBlank : ∀ c ∈ word, Text.isBlank c = false) :
    word <:+: s.inner indent ↔ ∃ text ∈ s.texts, word <:+: text.toList := by
  have hLine : ∀ text : String, word <:+: indent.toList ++ text.toList ↔ word <:+: text.toList := by
    intro text
    apply Text.infix_append_left_iff
    intro c hc
    apply Text.not_mem_of_isBlank hBlank
    rcases Settings.eq_of_mem_indent hIndent hc with rfl | rfl
    · decide
    · decide
  have hMark : '\n' ∉ word := Text.not_mem_of_isBlank hBlank (by decide)
  have hLines := Text.infix_append_flatMap_iff hMark []
    (fun text : String => indent.toList ++ text.toList) s.texts
  rw [List.nil_append, List.infix_nil] at hLines
  unfold inner
  refine hLines.trans ?_
  simp only [hWord, false_or, hLine]

/-- The body of an extractable script is what stands between the braces of its own function. -/
theorem IsExtractable.functionBody?_eq {s : Script} {indent : String} (h : s.IsExtractable indent) :
    functionBody? (s.render indent).toList = some (Text.strip (s.inner indent ++ ['\n'])) := by
  have hLast : s.last.renderLast ∈ s.texts := List.mem_append_right _ List.mem_cons_self
  have hLetters : ∀ c ∈ "return".toList, Text.isBlank c = false := by
    have hAll : "return".toList.all (fun c => !Text.isBlank c) = true := by decide
    exact fun c hc => by simpa using List.all_eq_true.mp hAll c hc
  have hReturn : "return".toList <:+: s.inner indent := by
    refine (infix_inner_iff h.blank (by decide) hLetters).mpr ⟨_, hLast, ?_⟩
    rw [Action.toList_renderLast]
    exact List.IsPrefix.isInfix ⟨' ' :: (s.last.render.toList ++ [';']), rfl⟩
  have hNoBrace : ∀ c, Text.isBlank c = false → (∀ text ∈ s.texts, c ∉ text.toList) →
      c ∉ s.inner indent ++ ['\n'] := by
    intro c hBlank hTexts hMem
    have hWord : ∀ x ∈ [c], Text.isBlank x = false := by simpa using hBlank
    rcases List.mem_append.mp hMem with hInner | hLine
    · have hInfix := (infix_inner_iff h.blank (by simp) hWord).mp
        ((List.singleton_infix_iff c _).mpr hInner)
      obtain ⟨text, hText, hOccurs⟩ := hInfix
      exact hTexts text hText ((List.singleton_infix_iff c _).mp hOccurs)
    · rw [List.mem_singleton.mp hLine] at hBlank
      exact absurd hBlank (by decide)
  have hOpen := hNoBrace '\x7b' (by decide) fun text hText => (h.braces text hText).1
  have hClose := hNoBrace '\x7d' (by decide) fun text hText => (h.braces text hText).2
  have hSplit : s.inner indent ++ ['\n', '\x7d'] = (s.inner indent ++ ['\n']) ++ ['\x7d'] := by simp
  -- The last line returns something, so the body is not taken for a missing one.
  have hFilled : (Text.strip (s.inner indent ++ ['\n'])).isEmpty = false := by
    cases hStrip : Text.strip (s.inner indent ++ ['\n']) with
    | cons c rest => rfl
    | nil =>
        have hNone : "return".toList <:+: Text.strip (s.inner indent ++ ['\n']) := by
          rw [Text.infix_strip_iff hLetters]
          exact hReturn.trans (List.prefix_append _ _).isInfix
        rw [hStrip, List.infix_nil] at hNone
        exact absurd hNone (by decide)
  rw [functionBody?, h.first, find?_main, hSplit]
  simp only [Option.bind_eq_bind, Option.bind_some, untilClosed_of_not_mem hOpen hClose, hFilled,
    Bool.false_eq_true, if_false]

/-- The body of an extractable script holds the words that its statements hold. -/
theorem IsExtractable.infix_functionBody?_iff {s : Script} {indent : String}
    (h : s.IsExtractable indent) :
    ∃ body, functionBody? (s.render indent).toList = some body ∧
      ∀ word, word ≠ [] → (∀ c ∈ word, Text.isBlank c = false) →
        (word <:+: body ↔ ∃ text ∈ s.texts, word <:+: text.toList) := by
  refine ⟨_, h.functionBody?_eq, fun word hWord hBlank => ?_⟩
  rw [Text.infix_strip_iff hBlank, Text.infix_append_right_iff, infix_inner_iff h.blank hWord hBlank]
  intro c hc hMem
  rw [List.mem_singleton.mp hc] at hMem
  exact absurd (hBlank '\n' hMem) (by decide)

theorem IsExtractable.mentions_iff {s : Script} {indent : String} (h : s.IsExtractable indent)
    (k : Nat) : Embedded.Mentions (s.render indent) k ↔
      ∃ text ∈ s.texts, (Embedded.nameOf k).toList <:+: text.toList := by
  obtain ⟨body, hBody, hWords⟩ := h.infix_functionBody?_iff
  have hName : (Embedded.nameOf k).toList ≠ [] := by
    rw [Embedded.toList_nameOf]
    exact List.append_ne_nil_of_left_ne_nil (by decide) _
  have hWord := hWords _ hName fun c hc => Embedded.isBlank_of_mem_nameOf hc
  unfold Embedded.Mentions
  rw [← hWord, hBody]
  simp

theorem infix_render_of_call {st : Statement} {function : String}
    (h : st.action = .call function) : function.toList <:+: st.render.toList := by
  rw [Statement.toList_render, h, Action.toList_render_call]
  refine ⟨"if (".toList ++ (st.condition.render.toList ++ ") return ".toList),
    "(url, host)".toList ++ [';'], ?_⟩
  simp only [List.append_assoc]

end Script

namespace Embedded

/-- When no embedded body captures the name of an embedded function: exactly when none of the source
texts mentions a number in use. A text mentions numbers only if it holds the prefix of the names,
and a compiled script mentions those that its statements mention, and so all those that they
call. -/
theorem captures_nothing_iff (rules : List Rule) (fallback : Route) (profiles : List Profile) :
    ((∀ e ∈ collect rules fallback profiles, ∀ f ∈ collect rules fallback profiles,
        ¬ f.function.toList <:+: e.body.toList) ↔
      ∀ e ∈ collect rules fallback profiles, ∀ source, e.origin? profiles = some source →
        ∀ k < (collect rules fallback profiles).length, ¬ Mentions source k) ∧
    (∀ source k, Mentions source k → "_embeddedPAC_".toList <:+: source.toList) ∧
    ∀ (s : RuleSet) (known : List Profile) (settings : Settings) (source : String) (script : Script),
      s.compile known settings = .ok source → s.script known = .ok script →
      script.IsExtractable settings.indent →
      ∀ k, (Mentions source k ↔ ∃ text ∈ script.texts, (nameOf k).toList <:+: text.toList) ∧
        ((∃ st ∈ script.statements, st.action = .call (nameOf k)) → Mentions source k) := by
  refine ⟨(sound_collect rules fallback profiles).not_infix_iff,
    fun source k => prefix_infix_of_mentions, ?_⟩
  intro s known settings source script hSource hScript hExtractable k
  have hText : script.render settings.indent = source := by
    rw [RuleSet.compile, hScript] at hSource
    exact Except.ok.inj hSource
  rw [← hText]
  refine ⟨hExtractable.mentions_iff k, ?_⟩
  rintro ⟨st, hMem, hCall⟩
  refine (hExtractable.mentions_iff k).mpr ⟨st.render, ?_, Script.infix_render_of_call hCall⟩
  exact List.mem_append_left _ (List.mem_map_of_mem hMem)

/-- A rule set that leaves every request to a profile. -/
def leaving (id : String) : RuleSet := ⟨[], ⟨some "existing", none, some id⟩⟩

def scriptProfile (id script : String) : Profile :=
  ⟨some id, some id, none, some "pac_script", some ⟨none, some script, false⟩, none, false, false, none⟩

def innermost : Profile :=
  scriptProfile "p" "function FindProxyForURL(url, host) \x7breturn 1\x7d"

/-- The compiled script of a rule set that leaves every request to the innermost profile. -/
def nested : Profile := scriptProfile "q" ("// Embedded PAC script: p\n" ++
  "function _embeddedPAC_0(url, host) \x7b\n  return 1\n\x7d\n\n" ++
  "function FindProxyForURL(url, host) \x7b\n  return _embeddedPAC_0(url, host);\n\x7d")

/-- A compiled script inside another one calls itself, although the source text of each script is
without the prefix or was compiled. -/
theorem nested_captures : ¬ ∀ (rules : List Rule) (fallback : Route) (profiles : List Profile),
    (∀ p ∈ profiles, ∀ source, p.scriptText? = some source →
      ¬ "_embeddedPAC_".toList <:+: source.toList ∨
        ∃ (s : RuleSet) (known : List Profile) (settings : Settings),
          s.compile known settings = .ok source) →
    ∀ e ∈ collect rules fallback profiles, ∀ f ∈ collect rules fallback profiles,
      ¬ f.function.toList <:+: e.body.toList := by
  intro hClaim
  have hSources : ∀ p ∈ [innermost, nested], ∀ source, p.scriptText? = some source →
      ¬ "_embeddedPAC_".toList <:+: source.toList ∨
        ∃ (s : RuleSet) (known : List Profile) (settings : Settings),
          s.compile known settings = .ok source := by
    intro p hp source hSource
    simp only [List.mem_cons, List.not_mem_nil, or_false] at hp
    rcases hp with rfl | rfl
    · refine .inl fun hInfix => ?_
      obtain rfl : "function FindProxyForURL(url, host) \x7breturn 1\x7d" = source :=
        Option.some.inj hSource
      exact absurd (Text.occurs_iff.mpr hInfix) (by decide +kernel)
    · refine .inr ⟨leaving "p", [innermost], .standard, ?_⟩
      have hCompiled : (leaving "p").compile [innermost] .standard =
          .ok (nested.scriptText?.getD "") := by decide +kernel
      rw [hCompiled, hSource]
      rfl
  have hCollect : collect [] (leaving "q").fallback [innermost, nested] =
      [⟨"q", some "q", 0, "  return _embeddedPAC_0(url, host);"⟩] := by decide +kernel
  have hFree := hClaim [] (leaving "q").fallback [innermost, nested] hSources
  rw [hCollect] at hFree
  have hCall : Text.occurs (function ⟨"q", some "q", 0, ""⟩).toList
      "  return _embeddedPAC_0(url, host);".toList = true := by decide +kernel
  exact hFree _ List.mem_cons_self _ List.mem_cons_self (Text.occurs_iff.mp hCall)

end Embedded

end ProxyRouting
