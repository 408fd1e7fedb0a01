import ProxyRouting.Proofs.Pattern.Membership

/-! What matches a network beyond the addresses that lie in it. A pattern is matched also when more
stands behind its length, when that is written with a sign, blanks or underscores or exceeds 32, and
when its numbers exceed octets; so is a host whose numbers do. A match is one of an address with a
pattern that is accepted only when there is none of this. -/
namespace ProxyRouting

namespace Network

/-- Whether a host is an address: four groups of digits that write octets. -/
def IsAddress (host : List Char) : Prop := ∃ h : Quad, h.IsWritten host ∧ h.InRange

theorem isAddress_iff {host : List Char} {h : Quad} (hHost : h.IsWritten host) :
    IsAddress host ↔ h.InRange := by
  constructor
  · rintro ⟨other, hOther, hRange⟩
    have hSame := Quad.ofChars?_eq_some_iff.mpr hOther
    rw [Quad.ofChars?_eq_some_iff.mpr hHost] at hSame
    exact Option.some.inj hSame ▸ hRange
  · exact fun hRange => ⟨h, hHost, hRange⟩

/-- A pattern and a host match when the pattern can be taken apart, the host is four groups of
digits, and both have the leading bits in common. That a match is one of an address with a pattern
that is accepted holds exactly when such a pair is strict on both sides. -/
theorem wellFormed_of_match_iff (pattern host : String) :
    (Grammar.network.matchesText pattern host = .ok true ↔
      ∃ (r : Reading pattern.toList) (h : Quad), h.IsWritten host.toList ∧
        h.low.leading (Quad.kept r.bits) = r.network.low.leading (Quad.kept r.bits)) ∧
    ((Grammar.network.matchesText pattern host = .ok true →
        IsAddress host.toList ∧
          patternProblem? (some pattern) (some Grammar.network.name) = .ok none) ↔
      ∀ (r : Reading pattern.toList) (h : Quad), h.IsWritten host.toList →
        h.low.leading (Quad.kept r.bits) = r.network.low.leading (Quad.kept r.bits) →
        h.InRange ∧ r.IsStrict) := by
  refine ⟨matchesText_eq_true_iff, ?_⟩
  rw [matchesText_eq_true_iff]
  constructor
  · intro hClaim r h hHost hLeading
    obtain ⟨hAddress, hAccepted⟩ := hClaim ⟨r, h, hHost, hLeading⟩
    have hProblem := patternProblem?_eq_none_iff.mp hAccepted
    exact ⟨(isAddress_iff hHost).mp hAddress, r.networkProblem?_eq_none_iff.mp hProblem⟩
  · rintro hStrict ⟨r, h, hHost, hLeading⟩
    obtain ⟨hRange, hReading⟩ := hStrict r h hHost hLeading
    have hProblem := r.networkProblem?_eq_none_iff.mpr hReading
    exact ⟨(isAddress_iff hHost).mpr hRange, patternProblem?_eq_none_iff.mpr hProblem⟩

/-- A host matches a pattern with a second slash, and one that is no address a pattern without
fault. -/
theorem malformed_matches :
    (¬ ∀ pattern host : String, Grammar.network.matchesText pattern host = .ok true →
      patternProblem? (some pattern) (some Grammar.network.name) = .ok none) ∧
    (¬ ∀ pattern host : String, Grammar.network.matchesText pattern host = .ok true →
      IsAddress host.toList) := by
  constructor
  · intro hClaim
    have hMatch : Grammar.network.matchesText "10.0.0.0/8/x" "10.1.2.3" = .ok true := by
      rfl
    have hProblem : patternProblem? (some "10.0.0.0/8/x") (some Grammar.network.name) =
        .ok (some .networkFormat) := by rfl
    exact absurd (hProblem.symm.trans (hClaim _ _ hMatch)) nofun
  · intro hClaim
    have hMatch : Grammar.network.matchesText "10.0.0.0/8" "266.0.0.1" = .ok true := by
      rfl
    have hHost : Quad.IsWritten ⟨266, 0, 0, 1⟩ "266.0.0.1".toList :=
      Quad.ofChars?_eq_some_iff.mp (by decide)
    exact absurd ((isAddress_iff hHost).mp (hClaim _ _ hMatch)) (by decide)

end Network

end ProxyRouting
