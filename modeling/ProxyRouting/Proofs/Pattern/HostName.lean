import ProxyRouting.Proofs.Order
import ProxyRouting.Proofs.Pattern.Handling
import ProxyRouting.Proofs.Pattern.Meaning
import ProxyRouting.Proofs.Url.Host

/-! Rules for one host name. A name is compared as it is written, and it is accepted with letters of
either case, but an address names its host in lower case. A rule for a name with a capital letter
therefore decides on requests for the bare name only. -/
namespace ProxyRouting

namespace Grammar

/-- An accepted host name is made of characters of host names, at least one. -/
theorem isHostChar_of_patternProblem? {pattern : String}
    (h : patternProblem? (some pattern) (some exact.name) = .ok none) :
    pattern.toList ≠ [] ∧ ∀ c ∈ pattern.toList, isHostChar c = true := by
  obtain ⟨hBlank, hProblem⟩ := patternProblem?_name_eq_none_iff.mp h
  constructor
  · intro hNil
    rw [hNil] at hBlank
    cases hBlank
  · intro c hc
    by_contra hOther
    have hAll : pattern.toList.all isHostChar = false := List.all_eq_false.mpr ⟨c, hc, hOther⟩
    rw [problem?, hAll] at hProblem
    cases hProblem

end Grammar

namespace Url

variable {name : String}

/-- The address of a host that is written with a name of its own. -/
theorem extractHost_address (hSome : name.toList ≠ [])
    (hName : ∀ c ∈ name.toList, Grammar.isHostChar c = true) :
    extractHost ("http://" ++ name ++ "/") = String.ofList (name.toList.map Char.toLower) := by
  have hParts : ("http://" ++ name ++ "/").toList =
      "http".toList ++ ':' :: '/' :: '/' :: ([] ++ (name.toList ++ []) ++ ['/']) := by
    rw [String.toList_append, String.toList_append, List.append_assoc, List.append_nil]
    rfl
  have hSlash : ∀ c ∈ ['/'].head?, endsAuthority c = true := by
    rintro c ⟨⟩
    rfl
  rw [extractHost, hParts, hostOf_append (by decide) (List.forall_mem_nil _) (by simp) hSome hName
    (List.forall_mem_nil _) (by simp) hSlash]

theorem extractHost_name (hName : ∀ c ∈ name.toList, Grammar.isHostChar c = true) :
    extractHost name = name := by
  rw [extractHost, hostOf_of_slash_not_mem (Text.not_mem_of_forall hName (by decide)),
    String.ofList_toList]

/-- The address names the host as the name is written when this has no capital letter. -/
theorem extractHost_address_eq_iff (hSome : name.toList ≠ [])
    (hName : ∀ c ∈ name.toList, Grammar.isHostChar c = true) :
    extractHost ("http://" ++ name ++ "/") = name ↔ name.toList.any Char.isUpper = false := by
  have hAscii : ∀ c ∈ name.toList, c.toNat < 128 := fun c hc =>
    Grammar.toNat_lt_of_isHostChar (hName c hc)
  rw [extractHost_address hSome hName, ← String.toList_inj, String.toList_ofList,
    Text.map_toLower_eq_self_iff hAscii, List.any_eq_false]
  simp only [Bool.not_eq_true]

end Url

namespace Verdict

variable {r : Rule} {name : String}

/-- A rule for a host name that stands alone decides on the requests for this host. -/
theorem onRequest_exact (hEnabled : r.enabled = true) (hName : r.pattern = some name)
    (hGrammar : r.grammar = some Grammar.exact.name) (url : String) (profiles : List Profile) :
    onRequest url [r] profiles =
      if Url.extractHost url = name then ofRule r profiles else .ok unmatched := by
  have hOrder : Rule.inOrder [r] = [r] := by
    rw [Rule.inOrder_cons_of_enabled hEnabled]
    rfl
  have hMatch : r.hasMatch (Url.extractHost url) = .ok (Url.extractHost url = name) := by
    rw [Rule.hasMatch, hName, hGrammar]
    rfl
  rw [onRequest, hOrder, firstMatch, hMatch]
  by_cases hHost : Url.extractHost url = name
  · simp [hHost]
  · simp [hHost, firstMatch]

/-- An enabled rule for an accepted host name that stands alone decides on the requests for the bare
name, and on those for its address exactly when the name has no capital letter. -/
theorem onRequest_of_hostName {profiles : List Profile} (hTyped : r.IsTyped profiles)
    (hEnabled : r.enabled = true) (hName : r.pattern = some name)
    (hGrammar : r.grammar = some Grammar.exact.name)
    (hAccepted : patternProblem? r.pattern r.grammar = .ok none) :
    ∃ v, v.rule = some r ∧ ofRule r profiles = .ok v ∧ onRequest name [r] profiles = .ok v ∧
      onRequest ("http://" ++ name ++ "/") [r] profiles =
        .ok (if name.toList.any Char.isUpper then unmatched else v) := by
  rw [hName, hGrammar] at hAccepted
  obtain ⟨hSome, hChars⟩ := Grammar.isHostChar_of_patternProblem? hAccepted
  obtain ⟨v, hRule⟩ := hTyped.exists_ok_ofRule
  have hOnRequest (url : String) := onRequest_exact hEnabled hName hGrammar url profiles
  refine ⟨v, rule_of_ofRule hRule, hRule, ?_, ?_⟩
  · rw [hOnRequest, if_pos (Url.extractHost_name hChars), hRule]
  · rw [hOnRequest]
    have hAddress := Url.extractHost_address_eq_iff hSome hChars
    cases hCapital : name.toList.any Char.isUpper with
    | false => rw [if_pos (hAddress.mpr hCapital), hRule, if_neg Bool.false_ne_true]
    | true =>
        have hOther : Url.extractHost ("http://" ++ name ++ "/") ≠ name := by
          intro hSame
          rw [hAddress.mp hSame] at hCapital
          cases hCapital
        rw [if_neg hOther, if_pos rfl]

/-- The rule for a name in lower case decides on both kinds of requests. -/
theorem onRequest_of_hostName_intranet :
    ∃ v, v.rule = some intranet ∧ onRequest "intra.corp" [intranet] [] = .ok v ∧
      onRequest "http://intra.corp/" [intranet] [] = .ok v := by
  have hTyped : intranet.IsTyped [] := ⟨rfl, nofun⟩
  have hAccepted : patternProblem? intranet.pattern intranet.grammar = .ok none := by rfl
  obtain ⟨v, hRule, -, hBare, hAddress⟩ :=
    onRequest_of_hostName hTyped rfl rfl rfl hAccepted
  exact ⟨v, hRule, hBare, hAddress⟩

/-- A rule whose host name is written with a capital letter. -/
def capital : Rule := { intranet with pattern := some "Intranet.corp" }

/-- The name is accepted, and the rule does not match its address. -/
theorem capital_misses_address :
    capital.enabled = true ∧ capital.grammar = some Grammar.exact.name ∧
      patternProblem? capital.pattern capital.grammar = .ok none ∧
      onRequest "http://Intranet.corp/" [capital] [] = .ok unmatched := by
  refine ⟨rfl, rfl, ?_, ?_⟩
  · rfl
  · rfl

end Verdict

end ProxyRouting
