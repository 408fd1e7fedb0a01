import ProxyRouting.Proofs.Script.Query
import ProxyRouting.Proofs.Text.Ends

/-! Patterns without a problem. Each has a condition whose text can stand in a script, and what that
asks of a host is whether the host matches the pattern. -/
namespace ProxyRouting

namespace Condition

/-- Whether the texts of a condition are made of the characters of wildcards. -/
def IsBland : Condition → Prop
  | shell s | equals s | inNet s _ => s.toList.all Grammar.isWildcardChar = true
  | search _ => False
  | never => True

theorem isPlain_of_all {s : List Char} (h : s.all Grammar.isWildcardChar = true) :
    Literal.IsPlain s ∧ '\\' ∉ s := by
  have hAll := List.all_eq_true.mp h
  refine ⟨fun c hc => ⟨?_, ?_, ?_⟩, Text.not_mem_of_forall hAll (by decide)⟩
  all_goals
    rintro rfl
    exact Text.not_mem_of_forall hAll (by decide) hc

theorem IsBland.isQuotable {c : Condition} (h : c.IsBland) : c.IsQuotable := by
  cases c with
  | shell s => exact isPlain_of_all h
  | equals s => exact isPlain_of_all h
  | search s => exact h.elim
  | inNet s mask => exact isPlain_of_all h
  | never => trivial

end Condition

namespace Grammar

theorem isWildcardChar_of_isHostChar {c : Char} (h : isHostChar c = true) :
    isWildcardChar c = true := by
  simp [isWildcardChar, h]

theorem isHostChar_of_isDigit {c : Char} (h : c.isDigit = true) : isHostChar c = true := by
  simp [isHostChar, Text.isAsciiWord, Char.isAlphanum, h]

theorem read_of_problem? {pattern : List Char}
    (h : regex.problem? pattern = .ok none) : ∃ node, Regex.read {} pattern = .ok node := by
  rw [problem?] at h
  cases hRead : Regex.read {} pattern with
  | ok node => exact ⟨node, rfl⟩
  | error err =>
      rw [hRead] at h
      simp only [Except.map, orMalformed] at h
      split at h <;> cases h

/-- A network without a problem is asked for by its address and the mask of its length. -/
theorem network_condition_of_problem? {pattern : String}
    (h : network.problem? pattern.toList = .ok none) :
    ∃ (n : Network) (q : Quad), Network.read? pattern = some n ∧ Quad.ofChars? n.address = some q ∧
      0 ≤ n.length ∧ n.length ≤ 32 ∧
      network.condition (some pattern) =
        .ok (.inNet (String.ofList n.address) (Quad.mask n.length)) := by
  have hNone : networkProblem? pattern.toList = none := by
    rw [problem?] at h
    exact Except.ok.inj h
  obtain ⟨address, digits, q, -, hAddress, -, hLength, hRead⟩ :=
    Network.ofChars?_of_networkProblem? hNone
  refine ⟨_, q, hRead, hAddress, Int.natCast_nonneg _, Int.ofNat_le.mpr hLength, ?_⟩
  rw [condition, Network.read?, hRead]

/-- A pattern without a problem has a condition that asks whether a host matches the pattern. Its
texts are bland, except for a regular expression. -/
theorem condition_of_problem? {g : Grammar} {pattern : String}
    (h : g.problem? pattern.toList = .ok none)
    (hRegex : g = .regex → Literal.IsPlain pattern.toList) :
    ∃ c : Condition, g.condition (some pattern) = .ok c ∧ c.IsQuotable ∧ (g ≠ .regex → c.IsBland) ∧
      ∀ host : String, g.matchesText pattern host = .ok (c.query.holds host.toList) := by
  cases g with
  | wildcard =>
      have hBland : (Condition.shell pattern).IsBland := by
        cases hAll : pattern.toList.all isWildcardChar with
        | true => exact hAll
        | false => simp [problem?, hAll] at h
      refine ⟨.shell pattern, rfl, hBland.isQuotable, fun _ => hBland, fun host => ?_⟩
      rw [matchesText, Wildcard.hasMatch_eq_fits]
      rfl
  | exact =>
      have hBland : (Condition.equals pattern).IsBland := by
        cases hAll : pattern.toList.all isHostChar with
        | true => exact List.all_eq_true.mpr fun c hc =>
            isWildcardChar_of_isHostChar (List.all_eq_true.mp hAll c hc)
        | false => simp [problem?, hAll] at h
      refine ⟨.equals pattern, rfl, hBland.isQuotable, fun _ => hBland, fun host => ?_⟩
      rw [matchesText, Condition.query, Query.holds]
      simp [String.toList_inj]
  | regex =>
      obtain ⟨node, hRead⟩ := read_of_problem? h
      refine ⟨.search pattern, rfl, hRegex rfl, fun hNot => absurd rfl hNot, fun host => ?_⟩
      rw [matchesText, Condition.query, Query.holds, hRead]
      rfl
  | network =>
      obtain ⟨n, q, hRead, hAddress, -, -, hCondition⟩ := network_condition_of_problem? h
      have hBland : (Condition.inNet (String.ofList n.address) (Quad.mask n.length)).IsBland := by
        rw [Condition.IsBland, String.toList_ofList]
        refine List.all_eq_true.mpr fun c hc => isWildcardChar_of_isHostChar ?_
        rcases Quad.isDigit_or_eq_of_ofChars? hAddress hc with hDigit | rfl
        · exact isHostChar_of_isDigit hDigit
        · decide
      refine ⟨_, hCondition, hBland.isQuotable, fun _ => hBland, fun host => ?_⟩
      rw [matchesText, Condition.query, Query.holds, String.toList_ofList, hAddress,
        Quad.ofChars?_toChars (Quad.inRange_mask _), hRead, Quad.read?]
      cases Quad.ofChars? host.toList with
      | none => rfl
      | some h => simp [Network.hasMember, hAddress]

/-- A pattern without a problem has a condition of its own. For a network it has the mask of the
length that is written, which is one of 0 to 32. -/
theorem condition_ne_never_of_problem? {g : Grammar} {pattern : String}
    (h : g.problem? pattern.toList = .ok none) :
    ∃ c : Condition, g.condition (some pattern) = .ok c ∧ c ≠ .never ∧
      (g = .network → ∃ n, Network.read? pattern = some n ∧ 0 ≤ n.length ∧ n.length ≤ 32 ∧
        c = .inNet (String.ofList n.address) (Quad.mask n.length)) := by
  cases g with
  | wildcard => exact ⟨.shell pattern, rfl, nofun, nofun⟩
  | exact => exact ⟨.equals pattern, rfl, nofun, nofun⟩
  | regex => exact ⟨.search pattern, rfl, nofun, nofun⟩
  | network =>
      obtain ⟨n, -, hRead, -, hPos, hLength, hCondition⟩ := network_condition_of_problem? h
      exact ⟨_, hCondition, nofun, fun _ => ⟨n, hRead, hPos, hLength, rfl⟩⟩

end Grammar

/-- A pattern without a problem is there, and its grammar is known. -/
theorem exists_of_patternProblem? {pattern grammar : Option String}
    (h : patternProblem? pattern grammar = .ok none) :
    ∃ text g, pattern = some text ∧ Grammar.named? grammar = some g ∧
      g.problem? text.toList = .ok none := by
  unfold patternProblem? at h
  split at h
  · cases h
  next text =>
    split at h
    · cases h
    · split at h
      · cases h
      next g hGrammar => exact ⟨text, g, rfl, hGrammar, h⟩

/-- A pattern in a known grammar is accepted when it is not blank and has no problem there. -/
theorem patternProblem?_name_eq_none_iff {g : Grammar} {pattern : String} :
    patternProblem? (some pattern) (some g.name) = .ok none ↔
      Text.isEmptyOrBlank pattern.toList = false ∧ g.problem? pattern.toList = .ok none := by
  have hNamed : Grammar.named? (some g.name) = some g := Grammar.named?_eq_some_iff.mpr rfl
  simp only [patternProblem?, hNamed]
  cases Text.isEmptyOrBlank pattern.toList with
  | false => simp
  | true => simp

end ProxyRouting
