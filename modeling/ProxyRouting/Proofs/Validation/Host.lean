import ProxyRouting.Proofs.Pattern.Network
import ProxyRouting.Proofs.Text.Lower
import ProxyRouting.Validation.Host

/-! The characters of valid hosts. -/
namespace ProxyRouting

namespace Text

def hexDigits : List Char := "0123456789abcdefABCDEF".toList

theorem toNat_lt_of_isHexDigit {c : Char} (h : isHexDigit c = true) : c.toNat < 128 := by
  simp only [isHexDigit, hexValue?, Bool.and_eq_true, decide_eq_true_eq, Char.le_def,
    UInt32.le_iff_toNat_le] at h
  split at h
  next hDigit => exact Nat.lt_of_le_of_lt hDigit.2 (by decide)
  next =>
    split at h
    next hLower => exact Nat.lt_of_le_of_lt hLower.2 (by decide)
    next =>
      split at h
      next hUpper => exact Nat.lt_of_le_of_lt hUpper.2 (by decide)
      next => cases h

theorem isHexDigit_iff {c : Char} : isHexDigit c = true ↔ c ∈ hexDigits := by
  constructor
  · intro h
    exact forall_of_toNat_lt (P := fun c => isHexDigit c = true → c ∈ hexDigits) (by decide)
      (toNat_lt_of_isHexDigit h) h
  · have hDigits : hexDigits.all isHexDigit = true := by decide
    exact List.all_eq_true.mp hDigits c

end Text

namespace Host

/-- A character that can stand in a host. -/
def isMark (c : Char) : Bool := c.isAlphanum || c = '-' || c = '.' || c = ':'

theorem isMark_of_isHexDigit {c : Char} (h : Text.isHexDigit c = true) : isMark c = true := by
  have hDigits : Text.hexDigits.all isMark = true := by decide
  exact List.all_eq_true.mp hDigits c (Text.isHexDigit_iff.mp h)

theorem toNat_lt_of_isMark {c : Char} (h : isMark c = true) : c.toNat < 128 := by
  simp only [isMark, Bool.or_eq_true, decide_eq_true_eq] at h
  rcases h with ((hAlphanum | rfl) | rfl) | rfl
  · exact Text.toNat_lt_of_isAlphanum hAlphanum
  · decide
  · decide
  · decide

theorem not_isBlank_of_isMark {c : Char} (h : isMark c = true) : Text.isBlank c = false :=
  Text.forall_of_toNat_lt (P := fun c => isMark c = true → Text.isBlank c = false) (by decide)
    (toNat_lt_of_isMark h) h

theorem all_isMark {s : List Char} (h : isValid s = true) : s.all isMark = true := by
  refine List.all_eq_true.mpr fun c hc => ?_
  unfold isValid at h
  split at h
  next q hRead =>
    rcases Quad.isDigit_or_eq_of_ofChars? hRead hc with hDigit | rfl
    · simp [isMark, Char.isAlphanum, hDigit]
    · decide
  next =>
    rcases Bool.or_eq_true_iff.mp h with hDomain | hIpv6
    · rcases Text.eq_or_exists_mem_pieces '.' hc with rfl | ⟨label, hLabel, hMem⟩
      · decide
      · have hIsLabel := List.all_eq_true.mp hDomain label hLabel
        simp only [isLabel, Bool.and_eq_true] at hIsLabel
        have hLetter := List.all_eq_true.mp hIsLabel.1.1.2 c hMem
        simp only [Bool.or_eq_true] at hLetter
        simp only [isMark, Bool.or_eq_true]
        exact .inl (.inl hLetter)
    · rcases Text.eq_or_exists_mem_pieces ':' hc with rfl | ⟨group, hGroup, hMem⟩
      · decide
      · simp only [isIpv6, Bool.and_eq_true] at hIpv6
        have hIsGroup := List.all_eq_true.mp hIpv6.2 group hGroup
        simp only [Bool.and_eq_true] at hIsGroup
        exact isMark_of_isHexDigit (List.all_eq_true.mp hIsGroup.2 c hMem)

theorem ne_nil {s : List Char} (h : isValid s = true) : s ≠ [] := by
  rintro rfl
  exact absurd h (by decide)

end Host

end ProxyRouting
