import ProxyRouting.Proofs.Parity
import ProxyRouting.Proofs.Script.Braces
import ProxyRouting.Proofs.Script.Capture

/-! Scripts do not break out of the functions that they are embedded in. Every embedded body closes
what it opens, so that a script whose other texts have no braces is balanced as a whole, and outside
of all braces in front of each of its functions. -/
namespace ProxyRouting

/-- No part at the front of a text closes more braces than it opens, and the whole text closes all
that it opens. -/
structure IsBalanced (s : List Char) : Prop where
  fronts : ∀ front, front <+: s → front.count '\x7d' ≤ front.count '\x7b'
  whole : s.count '\x7d' = s.count '\x7b'

theorem isBalanced_of_bracesOpen {s : List Char} (h : bracesOpen 0 s = some 0) : IsBalanced s := by
  constructor
  · rintro front ⟨rest, rfl⟩
    rw [bracesOpen_append] at h
    obtain ⟨left, hFront, -⟩ := Option.bind_eq_some_iff.mp h
    have hCount := count_of_bracesOpen hFront
    omega
  · have hCount := count_of_bracesOpen h
    omega

/-- No closing brace is stray in a text if none is at the end of a part at its front. -/
theorem exists_bracesOpen {depth : Nat} {s : List Char}
    (h : ∀ front, front <+: s → front.count '\x7d' ≤ depth + front.count '\x7b') :
    ∃ left, bracesOpen depth s = some left := by
  induction s generalizing depth with
  | nil => exact ⟨depth, rfl⟩
  | cons c s ih =>
      have hCons : ∀ front, front <+: s →
          (c :: front).count '\x7d' ≤ depth + (c :: front).count '\x7b' :=
        fun front hFront => h (c :: front) (List.cons_prefix_cons.mpr ⟨rfl, hFront⟩)
      rcases brace_cases c with rfl | rfl | hPlain
      · rw [bracesOpen_open]
        refine ih fun front hFront => ?_
        have := hCons front hFront
        simp at this
        omega
      · cases depth with
        | zero => exact absurd (hCons [] (List.nil_prefix)) (by decide)
        | succ depth =>
            rw [bracesOpen_close]
            refine ih fun front hFront => ?_
            have := hCons front hFront
            simp at this
            omega
      · rw [bracesOpen_cons hPlain]
        refine ih fun front hFront => ?_
        have := hCons front hFront
        simp only [isBrace, Bool.or_eq_false_iff, decide_eq_false_iff_not] at hPlain
        rwa [List.count_cons_of_ne hPlain.1, List.count_cons_of_ne hPlain.2] at this

/-- A text is balanced when counting its braces ends where it starts. -/
theorem isBalanced_iff {s : List Char} : IsBalanced s ↔ bracesOpen 0 s = some 0 := by
  constructor
  · intro h
    obtain ⟨left, hLeft⟩ := @exists_bracesOpen 0 s fun front hFront => by
      rw [Nat.zero_add]
      exact h.fronts front hFront
    have hCount := count_of_bracesOpen hLeft
    have hWhole := h.whole
    obtain rfl : left = 0 := by omega
    exact hLeft
  · exact isBalanced_of_bracesOpen

theorem bracesOpen_enclosed {front inner : List Char} (hFront : HasNoBraces front)
    (hInner : bracesOpen 0 inner = some 0) :
    bracesOpen 0 (front ++ '\x7b' :: (inner ++ ['\x7d'])) = some 0 := by
  rw [hFront.bracesOpen_append, bracesOpen_open, bracesOpen_append, bracesOpen_add hInner 1]
  rfl

theorem bracesOpen_flatMap {α : Type} {f : α → List Char} {xs : List α}
    (h : ∀ x ∈ xs, bracesOpen 0 (f x) = some 0) : bracesOpen 0 (xs.flatMap f) = some 0 := by
  induction xs with
  | nil => rfl
  | cons x xs ih =>
      rw [List.flatMap_cons, bracesOpen_append, h x List.mem_cons_self]
      exact ih fun y hy => h y (List.mem_cons_of_mem x hy)

theorem hasNoBraces_shown {s : Option String} (h : ∀ t ∈ s, HasNoBraces t.toList) :
    HasNoBraces (Text.shown s).toList := by
  cases s with
  | none => decide
  | some t => exact h t rfl

theorem hasNoBraces_of_isDigit {s : List Char} (h : ∀ c ∈ s, c.isDigit = true) : HasNoBraces s := by
  intro c hc
  rcases brace_cases c with rfl | rfl | hPlain
  · exact absurd (h _ hc) (by decide)
  · exact absurd (h _ hc) (by decide)
  · exact hPlain

theorem hasNoBraces_toChars (q : Quad) : HasNoBraces q.toChars := by
  intro c hc
  rcases Quad.isDigit_or_eq_of_mem_toChars hc with hDigit | rfl
  · exact hasNoBraces_of_isDigit (s := [c]) (by simpa using hDigit) c (by simp)
  · decide

theorem Network.mem_of_read? {pattern : String} {n : Network} (h : Network.read? pattern = some n)
    {c : Char} (hc : c ∈ n.address) : c ∈ pattern.toList := by
  unfold Network.read? Network.ofChars? at h
  split at h
  next address length others hPieces =>
    split at h
    · cases h
    · obtain ⟨n', -, rfl⟩ := Option.map_eq_some_iff.mp h
      exact Text.mem_of_mem_pieces (by rw [hPieces]; exact List.mem_cons_self) hc
  next => cases h

theorem hasNoBraces_doubleBackslashes {s : List Char} (h : HasNoBraces s) :
    HasNoBraces (doubleBackslashes s) := by
  apply HasNoBraces.flatMap
  intro c hc d hd
  split at hd
  next hSlash =>
    have hEq : d = '\\' := by simpa using hd
    rw [hEq]
    decide
  next =>
    rw [List.mem_singleton.mp hd]
    exact h c hc

/-- What stands between quotes, behind fixed text and in front of it. -/
theorem hasNoBraces_quoted {front s behind : List Char} (hFront : HasNoBraces front)
    (hs : HasNoBraces s) (hBehind : HasNoBraces behind) :
    HasNoBraces (front ++ '"' :: (s ++ '"' :: behind)) :=
  hFront.append (hasNoBraces_cons.mpr ⟨rfl, hs.append (hasNoBraces_cons.mpr ⟨rfl, hBehind⟩)⟩)

/-- The text of a condition has no braces but those of its pattern. -/
theorem Condition.hasNoBraces_of_patternCondition {pattern grammar : Option String} {c : Condition}
    (h : patternCondition pattern grammar = .ok (some c))
    (hPattern : ∀ t ∈ pattern, HasNoBraces t.toList) : HasNoBraces c.render.toList := by
  have hShown := hasNoBraces_shown hPattern
  unfold patternCondition at h
  split at h
  next g _ =>
    cases g with
    | wildcard =>
        obtain rfl := Option.some.inj (Except.ok.inj h)
        rw [toList_render_shell]
        exact hasNoBraces_quoted (by decide) hShown (by decide)
    | exact =>
        obtain rfl := Option.some.inj (Except.ok.inj h)
        rw [toList_render_equals]
        exact hasNoBraces_quoted (by decide) hShown (by decide)
    | regex =>
        cases pattern with
        | none => cases h
        | some pattern =>
            obtain rfl := Option.some.inj (Except.ok.inj h)
            rw [toList_render_search]
            exact hasNoBraces_quoted (by decide) (hasNoBraces_doubleBackslashes hShown) (by decide)
    | network =>
        cases pattern with
        | none => cases h
        | some pattern =>
            simp only [Grammar.condition] at h
            split at h
            next n hRead =>
              obtain rfl := Option.some.inj (Except.ok.inj h)
              have hAddress : HasNoBraces (String.ofList n.address).toList := by
                rw [String.toList_ofList]
                exact fun c hc => hShown c (Network.mem_of_read? hRead hc)
              rw [toList_render_inNet]
              exact hasNoBraces_quoted (by decide) hAddress
                (hasNoBraces_quoted (by decide) (hasNoBraces_toChars _) (by decide))
            next =>
              obtain rfl := Option.some.inj (Except.ok.inj h)
              decide
  next => cases h

/-- Whether the address of a server is without braces. -/
structure Server.IsBraceless (s : Server) : Prop where
  host : ∀ host ∈ s.host, HasNoBraces host.toList
  port : HasNoBraces s.port.toList

instance (s : Server) : Decidable s.IsBraceless :=
  decidable_of_iff ((∀ host ∈ s.host, HasNoBraces host.toList) ∧ HasNoBraces s.port.toList)
    ⟨fun h => ⟨h.1, h.2⟩, fun h => ⟨h.host, h.port⟩⟩

theorem Entry.hasNoBraces_announce {s : Server} {entry : String} (h : announce s = .ok entry)
    (hServer : s.IsBraceless) : HasNoBraces entry.toList := by
  unfold announce at h
  split at h
  next scheme _ =>
    obtain rfl := Except.ok.inj h
    have hWord : HasNoBraces (Keyword.announcing (Text.lower scheme.toList)).word.toList := by
      cases Keyword.announcing (Text.lower scheme.toList) <;> decide
    simp only [Server.address, String.toList_append]
    exact (hWord.append (by decide)).append
      (((hasNoBraces_shown hServer.host).append (by decide)).append hServer.port)
  next => cases h

namespace Embedded

theorem Sound.hasNoBraces_function {profiles : List Profile} {found : List Embedded}
    (h : Sound profiles found) {e : Embedded} (hMem : e ∈ found) :
    HasNoBraces e.function.toList := by
  obtain ⟨i, hi, hAt⟩ := List.mem_iff_getElem.mp hMem
  have hNumber := h.numbered i e (by rw [List.getElem?_eq_getElem hi, hAt])
  rw [function_eq_nameOf hNumber, toList_nameOf]
  exact HasNoBraces.append (by decide)
    (hasNoBraces_of_isDigit fun c hc => Text.isDigit_of_mem_writeNat hc)

theorem title_of_ofProfile? {p : Profile} {n : Int} {e : Embedded} (h : ofProfile? p n = some e) :
    e.title = p.name := by
  unfold ofProfile? at h
  split at h
  · split at h
    · cases h
    · obtain ⟨body, -, rfl⟩ := Option.map_eq_some_iff.mp h
      rfl
  · cases h

/-- An embedded script names one of the profiles. -/
theorem Sound.exists_title {profiles : List Profile} {found : List Embedded}
    (h : Sound profiles found) {e : Embedded} (hMem : e ∈ found) :
    ∃ p ∈ profiles, e.title = p.name := by
  obtain ⟨p, hFind, -, hNew⟩ := h.origin e hMem
  exact ⟨p, Profile.mem_of_find? hFind, title_of_ofProfile? hNew⟩

theorem toList_source (e : Embedded) : e.source.toList =
    ("// Embedded PAC script: ".toList ++ ((Text.shown e.title).toList ++
      "\nfunction ".toList ++ (e.function.toList ++ "(url, host) ".toList))) ++
      '\x7b' :: (('\n' :: (e.body.toList ++ ['\n'])) ++ ['\x7d']) := by
  change ("// Embedded PAC script: " ++ Text.shown e.title ++ "\n" ++ "function " ++ e.function ++
    "(url, host) \x7b\n" ++ e.body ++ "\n" ++ "\x7d").toList = _
  simp only [String.toList_append, List.append_assoc, List.cons_append]
  rfl

/-- An embedded function is balanced whatever its source text is, if the name of its profile has no
braces. -/
theorem Sound.bracesOpen_source {profiles : List Profile} {found : List Embedded}
    (h : Sound profiles found) (hNames : ∀ p ∈ profiles, ∀ name ∈ p.name, HasNoBraces name.toList)
    {e : Embedded} (hMem : e ∈ found) : bracesOpen 0 e.source.toList = some 0 := by
  obtain ⟨source, body, -, hBody, hIndented⟩ := h.exists_origin hMem
  have hFunction := h.hasNoBraces_function hMem
  have hTitle : HasNoBraces (Text.shown e.title).toList := by
    obtain ⟨p, hp, hTitle⟩ := h.exists_title hMem
    rw [hTitle]
    exact hasNoBraces_shown (hNames p hp)
  have hInner : bracesOpen 0 ('\n' :: (e.body.toList ++ ['\n'])) = some 0 := by
    have hLine : HasNoBraces ['\n'] := by decide
    rw [bracesOpen_cons (by decide), hLine.append_bracesOpen, hIndented, bracesOpen_indentLines]
    exact bracesOpen_of_functionBody? hBody
  rw [toList_source]
  apply bracesOpen_enclosed _ hInner
  exact HasNoBraces.append (by decide)
    ((hTitle.append (by decide)).append (hFunction.append (by decide)))

/-- What an embedded script takes in the script around it: its source text and an empty line. -/
def block (e : Embedded) : List Char := e.source.toList ++ ['\n', '\n']

end Embedded

namespace RuleSet

/-- Outside of the scripts that it leads to, nothing of a rule set that its own script says has a
brace: no pattern, no name of a profile, and no address of a server. -/
structure IsBraceless (s : RuleSet) (profiles : List Profile) : Prop where
  patterns : ∀ r ∈ s.compiled, ∀ pattern ∈ r.pattern, HasNoBraces pattern.toList
  names : ∀ p ∈ profiles, ∀ name ∈ p.name, HasNoBraces name.toList
  servers : ∀ r ∈ s.routes, ∀ server ∈ r.server? profiles, server.IsBraceless

end RuleSet

theorem Route.hasNoBraces_action {r : Route} {profiles : List Profile} {functions : List Embedded}
    (hSound : Embedded.Sound profiles functions)
    (hServers : ∀ server ∈ r.server? profiles, server.IsBraceless) {a : Action}
    (h : r.action profiles functions = .ok a) : HasNoBraces a.render.toList := by
  rw [action_eq] at h
  split at h
  next e hEmbedded =>
    obtain rfl := Except.ok.inj h
    obtain ⟨-, hMem, -⟩ := of_embedded? hEmbedded
    rw [Action.toList_render_call]
    exact (hSound.hasNoBraces_function hMem).append (by decide)
  next =>
    cases hAnswer : r.answer profiles with
    | error fault => rw [hAnswer] at h; cases h
    | ok answer =>
        rw [hAnswer] at h
        obtain rfl := Except.ok.inj h
        have hText : HasNoBraces answer.toList := by
          rw [answer_eq] at hAnswer
          split at hAnswer
          next server hServer => exact Entry.hasNoBraces_announce hAnswer (hServers server hServer)
          next =>
            obtain rfl := Except.ok.inj hAnswer
            decide
        rw [Action.toList_render_answer]
        exact hasNoBraces_cons.mpr ⟨rfl, hText.append (by decide)⟩

namespace RuleSet

variable {s : RuleSet} {profiles : List Profile}

/-- The lines of the function that answers requests have no braces. -/
theorem IsBraceless.hasNoBraces_inner (h : s.IsBraceless profiles) {script : Script}
    (hScript : s.script profiles = .ok script) {indent : String}
    (hIndent : Settings.isIndent indent = true) : HasNoBraces (script.inner indent) := by
  obtain ⟨-, hLast, -⟩ := of_script hScript
  have hSound := sound_of_script hScript
  have hStatements : ∀ st ∈ script.statements, HasNoBraces st.render.toList := by
    intro st hst
    obtain ⟨r, hr, hStatement⟩ := Rule.exists_of_forall₂ (forall₂_statement_of_script hScript) hst
    obtain ⟨hCondition, hAction⟩ := Rule.of_statement hStatement
    have hRoute : r.route ∈ s.routes := List.mem_append_left _ (List.mem_map_of_mem hr)
    rw [Statement.toList_render]
    exact HasNoBraces.append (by decide)
      ((Condition.hasNoBraces_of_patternCondition hCondition (h.patterns r hr)).append
        (HasNoBraces.append (by decide)
          ((Route.hasNoBraces_action hSound (h.servers r.route hRoute) hAction).append (by decide))))
  have hFallback : HasNoBraces script.last.renderLast.toList := by
    have hRoute : s.fallback ∈ s.routes := List.mem_append_right _ List.mem_cons_self
    rw [Action.toList_renderLast]
    exact HasNoBraces.append (by decide)
      ((Route.hasNoBraces_action hSound (h.servers s.fallback hRoute) hLast).append (by decide))
  have hBlanks : HasNoBraces indent.toList := by
    intro c hc
    rcases Settings.eq_of_mem_indent hIndent hc with rfl | rfl <;> rfl
  apply HasNoBraces.flatMap
  intro text hText
  refine hasNoBraces_cons.mpr ⟨rfl, hBlanks.append ?_⟩
  rcases List.mem_append.mp hText with hStatement | hEnd
  · obtain ⟨st, hst, rfl⟩ := List.mem_map.mp hStatement
    exact hStatements st hst
  · rw [List.mem_singleton.mp hEnd]
    exact hFallback

theorem IsBraceless.bracesOpen_block (h : s.IsBraceless profiles) {script : Script}
    (hScript : s.script profiles = .ok script) {e : Embedded} (hMem : e ∈ script.functions) :
    bracesOpen 0 e.block = some 0 := by
  have hLines : HasNoBraces ['\n', '\n'] := by decide
  rw [Embedded.block, hLines.append_bracesOpen]
  exact (sound_of_script hScript).bracesOpen_source h.names hMem

theorem IsBraceless.bracesOpen_main (h : s.IsBraceless profiles) {script : Script}
    (hScript : s.script profiles = .ok script) {indent : String}
    (hIndent : Settings.isIndent indent = true) : bracesOpen 0 (script.main indent) = some 0 := by
  have hHead : HasNoBraces "function FindProxyForURL(url, host) ".toList := by decide
  have hInner : bracesOpen 0 (script.inner indent ++ ['\n']) = some 0 := by
    rw [(h.hasNoBraces_inner hScript hIndent).bracesOpen_append]
    exact HasNoBraces.bracesOpen_eq (by decide) 0
  have hSplit : script.inner indent ++ ['\n', '\x7d'] =
      (script.inner indent ++ ['\n']) ++ ['\x7d'] := by simp
  unfold Script.main
  generalize "function FindProxyForURL(url, host) ".toList = head at hHead
  rw [hSplit]
  exact bracesOpen_enclosed hHead hInner

/-- The text of a script is balanced, whatever the scripts are that it embeds. It is one embedded
function after another and the function that answers requests, and in front of each of them no brace
is open. There is a text when no rule is without a pattern and no server without a scheme. -/
theorem isBalanced_compile (h : s.IsBraceless profiles) {settings : Settings}
    (hIndent : Settings.isIndent settings.indent = true) :
    ((∀ r ∈ s.rules, r.enabled = true → r.pattern.isSome) → s.HasSchemes profiles →
      ∃ text, s.compile profiles settings = .ok text) ∧
    ∀ text, s.compile profiles settings = .ok text →
      IsBalanced text.toList ∧
      ∃ script, s.script profiles = .ok script ∧
        text.toList = script.functions.flatMap Embedded.block ++ script.main settings.indent ∧
        IsBalanced (script.functions.flatMap Embedded.block) ∧
        ∀ done e others, script.functions = done ++ e :: others →
          text.toList = done.flatMap Embedded.block ++
            (e.block ++ (others.flatMap Embedded.block ++ script.main settings.indent)) ∧
          IsBalanced (done.flatMap Embedded.block) := by
  refine ⟨fun hPatterns hSchemes => ?_, fun text hText => ?_⟩
  · obtain ⟨script, hScript⟩ := exists_script (fun r hr hEnabled hCompiled =>
      Rule.exists_condition hCompiled (hPatterns r hr hEnabled)) hSchemes
    exact ⟨_, by rw [compile, hScript]; rfl⟩
  · obtain ⟨script, hScript, rfl⟩ := exists_script_of_compile hText
    have hRender : (script.render settings.indent).toList =
        script.functions.flatMap Embedded.block ++ script.main settings.indent :=
      script.toList_render settings.indent
    have hFunctions : bracesOpen 0 (script.functions.flatMap Embedded.block) = some 0 :=
      bracesOpen_flatMap fun e he => h.bracesOpen_block hScript he
    have hWhole : bracesOpen 0 (script.render settings.indent).toList = some 0 := by
      rw [hRender, bracesOpen_append, hFunctions, Option.bind_some]
      exact h.bracesOpen_main hScript hIndent
    refine ⟨isBalanced_of_bracesOpen hWhole, script, hScript, hRender,
      isBalanced_of_bracesOpen hFunctions, fun done e others hSplit => ⟨?_, ?_⟩⟩
    · rw [hRender, hSplit, List.flatMap_append, List.flatMap_cons, List.append_assoc,
        List.append_assoc]
    · apply isBalanced_of_bracesOpen
      apply bracesOpen_flatMap
      intro d hd
      exact h.bracesOpen_block hScript (by rw [hSplit]; exact List.mem_append_left _ hd)

/-- A profile whose script has braces in its texts, and more of them behind its function. -/
def unevenScript : Profile := { scripted with
  script := some ⟨none, some ("function FindProxyForURL(url, host) \x7b var a = \"\x7b\"; " ++
    "return \"\x7d\x7d DIRECT\"; \x7d \x7b\x7b"), false⟩ }

theorem isBalanced_compile_unevenScript :
    sampler.IsBraceless [unevenScript] ∧ Settings.isIndent Settings.standard.indent = true ∧
    ∃ text script, sampler.compile [unevenScript] .standard = .ok text ∧
      sampler.script [unevenScript] = .ok script ∧ script.functions.map Embedded.body =
        ["  var a = \"\x7b\"; return \"\x7d"] ∧ IsBalanced text.toList := by
  have h : sampler.IsBraceless [unevenScript] :=
    ⟨by decide +kernel, by decide +kernel, by decide +kernel⟩
  have hIndent : Settings.isIndent Settings.standard.indent = true := by decide
  have hSchemes : sampler.HasSchemes [unevenScript] := by
    unfold HasSchemes
    decide +kernel
  obtain ⟨hExists, hAll⟩ := isBalanced_compile h hIndent
  obtain ⟨text, hText⟩ := hExists (by decide +kernel) hSchemes
  obtain ⟨hBalanced, script, hScript, -⟩ := hAll text hText
  refine ⟨h, hIndent, text, script, hText, hScript, ?_, hBalanced⟩
  rw [(of_script hScript).1]
  decide +kernel

end RuleSet

end ProxyRouting
