import ProxyRouting.Pattern.Validity
import ProxyRouting.Proofs.Text.Numeral
import ProxyRouting.Proofs.Text.Pieces

/-! Addresses and networks as they are written. An address is read back from its dotted form, and a
network without a problem is read as the address and the length that stand around its slash. -/
namespace ProxyRouting

namespace Quad

open Text

theorem isGroup_writeNat {n : Nat} (h : n ≤ 255) : isGroup (writeNat n) = true := by
  have hPos := length_writeNat_pos n
  have hLength : (writeNat n).length ≤ 3 := length_writeNat_le (by decide) (Nat.lt_of_le_of_lt h (by decide))
  have hDigits : (writeNat n).all Char.isDigit = true :=
    List.all_eq_true.mpr fun c hc => isDigit_of_mem_writeNat hc
  simp only [isGroup, hDigits, Bool.and_true, Bool.and_eq_true, decide_eq_true_eq]
  omega

theorem not_mem_writeNat (n : Nat) : '.' ∉ writeNat n :=
  fun h => absurd (isDigit_of_mem_writeNat h) (by decide)

/-- An address is read back from its dotted form. -/
theorem ofChars?_toChars {q : Quad} (h : q.InRange) : ofChars? q.toChars = some q := by
  have hPieces : pieces '.' q.toChars = q.toList.map writeNat := by
    refine pieces_joined (by simp [toList]) fun part hPart => ?_
    obtain ⟨n, -, rfl⟩ := List.mem_map.mp hPart
    exact not_mem_writeNat n
  have hGroup : ∀ n ∈ q.toList, isGroup (writeNat n) = true := fun n hn => isGroup_writeNat (h n hn)
  simp only [toList, List.forall_mem_cons] at hGroup
  obtain ⟨h1, h2, h3, h4, -⟩ := hGroup
  have hValue : ∀ n, groupValue (writeNat n) = n := ofDigits_writeNat
  rw [ofChars?, hPieces]
  simp only [toList, List.map_cons, List.map_nil, h1, h2, h3, h4, Bool.and_true, if_true, hValue]

/-- An address is written with digits and dots. -/
theorem isDigit_or_eq_of_ofChars? {s : List Char} {q : Quad} (h : ofChars? s = some q) {c : Char}
    (hc : c ∈ s) : c.isDigit = true ∨ c = '.' := by
  unfold ofChars? at h
  split at h
  next a b c' d hPieces =>
    split at h
    next hGroups =>
      rcases eq_or_exists_mem_pieces '.' hc with hDot | ⟨group, hGroup, hMem⟩
      · exact .inr hDot
      · have hIsGroup : isGroup group = true := by
          simp only [Bool.and_eq_true] at hGroups
          obtain ⟨⟨⟨hA, hB⟩, hC⟩, hD⟩ := hGroups
          rw [hPieces] at hGroup
          simp only [List.mem_cons, List.not_mem_nil, or_false] at hGroup
          rcases hGroup with rfl | rfl | rfl | rfl <;> assumption
        simp only [isGroup, Bool.and_eq_true] at hIsGroup
        exact .inl (List.all_eq_true.mp hIsGroup.2 c hMem)
    · cases h
  · cases h

theorem isDigit_or_eq_of_mem_toChars {q : Quad} {c : Char} (h : c ∈ q.toChars) :
    c.isDigit = true ∨ c = '.' := by
  simp only [toChars, toList, List.map_cons, List.map_nil, joined, List.mem_append, List.mem_cons,
    List.not_mem_nil, or_false] at h
  rcases h with (h | h) | (h | h) | (h | h) | h
  · exact .inl (isDigit_of_mem_writeNat h)
  · exact .inr h
  · exact .inl (isDigit_of_mem_writeNat h)
  · exact .inr h
  · exact .inl (isDigit_of_mem_writeNat h)
  · exact .inr h
  · exact .inl (isDigit_of_mem_writeNat h)

theorem inRange_ofNat (n : Nat) : (ofNat n).InRange := by
  intro m hm
  simp only [ofNat, toList, List.mem_cons, List.not_mem_nil, or_false] at hm
  omega

theorem inRange_mask (length : Int) : (mask length).InRange := by
  unfold mask
  split
  · exact inRange_ofNat _
  · decide

end Quad

namespace Network

open Text

/-- What a network without a problem is read as: its address, which is one, and its length. -/
theorem ofChars?_of_networkProblem? {pattern : List Char}
    (h : Grammar.networkProblem? pattern = none) :
    ∃ address digits, ∃ q : Quad, pieces '/' pattern = [address, digits] ∧
      Quad.ofChars? address = some q ∧ q.InRange ∧ Quad.groupValue digits ≤ 32 ∧
      ofChars? pattern = some ⟨address, Quad.groupValue digits⟩ := by
  unfold Grammar.networkProblem? at h
  split at h
  next address digits hPieces =>
    split at h
    next q hAddress =>
      split at h
      next hDigits =>
        split at h
        · cases h
        next hLength =>
          split at h
          next hRange =>
            refine ⟨address, digits, q, hPieces, hAddress, hRange, by omega, ?_⟩
            simp only [Bool.and_eq_true, decide_eq_true_eq, List.all_eq_true] at hDigits
            obtain ⟨⟨hAll, hPos⟩, hTwo⟩ := hDigits
            have hNonempty : digits ≠ [] := by
              rintro rfl
              simp at hPos
            have hFilled : address.isEmpty = false := by
              cases address with
              | nil => cases hAddress
              | cons c rest => rfl
            have hAscii : digits.all (·.toNat < 128) = true := by
              refine List.all_eq_true.mpr fun c hc => ?_
              have := toNat_of_isDigit (hAll c hc)
              simp only [decide_eq_true_eq]
              omega
            have hRead := readInteger_of_isDigit hNonempty hAll (by unfold maxDigits; omega)
            simp only [ofChars?, hPieces, hAscii, hRead, hFilled, List.isEmpty_eq_false_iff.mpr hNonempty]
            rfl
          · cases h
      · cases h
    · cases h
  · cases h

end Network

end ProxyRouting
