import ProxyRouting.Proofs.Pattern.Meaning
import ProxyRouting.Proofs.Pattern.Membership

/-! Patterns between quotes. The text of the condition for an accepted pattern, taken apart at its
quotes, is the fixed text of its grammar around the pattern itself, and for a network around the
address and the mask of its length. -/
namespace ProxyRouting

namespace Literal

/-- Every other text, from the first one on. -/
def outside : List (List Char) → List (List Char)
  | [] => []
  | [code] => [code]
  | code :: _ :: others => code :: outside others

/-- Every other text, from the second one on. -/
def inside : List (List Char) → List (List Char)
  | [] => []
  | [_] => []
  | _ :: s :: others => s :: inside others

end Literal

namespace Grammar

/-- The fixed texts around what is quoted in a condition. -/
def template : Grammar → List (List Char)
  | wildcard => ["shExpMatch(host, ".toList, ")".toList]
  | exact => ["host === ".toList, []]
  | regex => ["new RegExp(".toList, ").test(host)".toList]
  | network => ["isInNet(host, ".toList, ", ".toList, ")".toList]

/-- What the quoted texts of a condition have to be. -/
def Quotes (g : Grammar) (pattern : List Char) (texts : List (List Char)) : Prop :=
  match g with
  | network => ∃ address digits, pattern = address ++ '/' :: digits ∧ '/' ∉ address ∧
      (∀ c ∈ digits, c.isDigit = true) ∧
      texts = [address, (Quad.mask (Quad.groupValue digits)).toChars]
  | _ => texts = [pattern]

end Grammar

/-- Reading the text of the condition for an accepted pattern finds the fixed text of the grammar,
and between its quotes the pattern, or the address and the mask of a network. A regular expression
is to be without quotes and line breaks. -/
theorem parts?_condition_of_accepted (g : Grammar) (pattern : String)
    (h : patternProblem? (some pattern) (some g.name) = .ok none)
    (hRegex : g = .regex → Literal.IsPlain pattern.toList) :
    ∃ c parts, patternCondition (some pattern) (some g.name) = .ok (some c) ∧
      Literal.parts? false c.render.toList = some parts ∧
      Literal.outside parts = g.template ∧ g.Quotes pattern.toList (Literal.inside parts) := by
  obtain ⟨text, g', ⟨⟩, hGrammar, hProblem⟩ := exists_of_patternProblem? h
  have hNamed : Grammar.named? (some g.name) = some g := Grammar.named?_eq_some_iff.mpr rfl
  obtain rfl := Option.some.inj (hNamed.symm.trans hGrammar)
  obtain ⟨c, hCondition, hQuotable, -⟩ := Grammar.condition_of_problem? hProblem hRegex
  refine ⟨c, c.parts, ?_, Condition.parts?_render hQuotable, ?_⟩
  · rw [patternCondition, hNamed]
    simp only [hCondition]
    rfl
  · cases g with
    | wildcard =>
        obtain rfl := Except.ok.inj hCondition
        exact ⟨rfl, rfl⟩
    | exact =>
        obtain rfl := Except.ok.inj hCondition
        exact ⟨rfl, rfl⟩
    | regex =>
        obtain rfl := Except.ok.inj hCondition
        exact ⟨rfl, rfl⟩
    | network =>
        obtain ⟨r, hStrict⟩ := Network.exists_strict_reading (Except.ok.inj hProblem)
        rw [Grammar.condition, Network.read?, r.ofChars?_eq, hStrict.bits_eq] at hCondition
        obtain rfl := Except.ok.inj hCondition
        refine ⟨rfl, r.address, r.length, hStrict.split, r.address_noSlash, hStrict.digits, ?_⟩
        simp only [Condition.parts, Literal.inside, String.toList_ofList]

/-- Runs of backslashes of either parity in a regular expression. -/
def slashes : String := "^\\\\\\.a\\\\"

/-- The backslashes are read back, and so are the parts of a network. -/
theorem parts?_condition_of_accepted_slashes :
    (∃ c parts, patternCondition (some slashes) (some Grammar.regex.name) = .ok (some c) ∧
      Literal.parts? false c.render.toList = some parts ∧
      Literal.outside parts = Grammar.regex.template ∧
      Literal.inside parts = [slashes.toList]) ∧
    ∃ c parts, patternCondition (some "10.016.0.9/09") (some Grammar.network.name) = .ok (some c) ∧
      Literal.parts? false c.render.toList = some parts ∧
      Literal.outside parts = Grammar.network.template ∧
      Grammar.network.Quotes "10.016.0.9/09".toList (Literal.inside parts) :=
  ⟨parts?_condition_of_accepted .regex slashes rfl fun _ => by decide,
    parts?_condition_of_accepted .network "10.016.0.9/09" rfl nofun⟩

end ProxyRouting
