import ProxyRouting.Proofs.Text.Ends
import ProxyRouting.Text.Integer

/-! Written numbers. ASCII digits are read as the number that they write, and a number is read back
from its own digits. -/
namespace ProxyRouting.Text

theorem toNat_of_isDigit {c : Char} (h : c.isDigit = true) : 48 ≤ c.toNat ∧ c.toNat ≤ 57 := by
  simp only [Char.isDigit, Bool.and_eq_true, decide_eq_true_eq, UInt32.le_iff_toNat_le] at h
  exact h

theorem isDecimal_of_isDigit {c : Char} (h : c.isDigit = true) : isDecimal c = true := by
  have := toNat_of_isDigit h
  rw [isDecimal, if_pos (by omega), h]

theorem decimalValue_of_isDigit {c : Char} (h : c.isDigit = true) :
    decimalValue c = digitValue c := by
  have := toNat_of_isDigit h
  rw [decimalValue, if_pos (by omega)]

theorem isBlank_of_isDigit {c : Char} (h : c.isDigit = true) : isBlank c = false := by
  have hc := toNat_of_isDigit h
  simp only [isBlank]
  grind

theorem isNumeralBlank_of_isDigit {c : Char} (h : c.isDigit = true) : isNumeralBlank c = false := by
  have hBlank := isBlank_of_isDigit h
  have hAscii : isAsciiBlank c = false := by
    refine Bool.eq_false_iff.mpr fun hc => ?_
    rw [isBlank_of_isAsciiBlank hc] at hBlank
    cases hBlank
  rw [isNumeralBlank, hAscii, hBlank, Bool.and_false, Bool.or_false]

theorem digitRun_of_isDigit {s : List Char} (hs : s ≠ []) (h : ∀ c ∈ s, c.isDigit = true) :
    digitRun s = some (s.map digitValue) := by
  induction s with
  | nil => exact absurd rfl hs
  | cons c rest ih =>
      have hc := h c List.mem_cons_self
      cases rest with
      | nil => simp [digitRun, isDecimal_of_isDigit hc, decimalValue_of_isDigit hc]
      | cons d rest =>
          have hd := h d (by simp)
          have hMark : d ≠ '_' := by
            rintro rfl
            cases hd
          have hRest := ih (by simp) fun x hx => h x (List.mem_cons_of_mem c hx)
          rw [digitRun]
          · rw [if_pos (isDecimal_of_isDigit hc), hRest, decimalValue_of_isDigit hc]
            rfl
          · exact fun h => hMark h

/-- ASCII digits write a number that is read, unless there are too many. -/
theorem readInteger_of_isDigit {s : List Char} (hs : s ≠ []) (h : ∀ c ∈ s, c.isDigit = true)
    (hLength : s.length ≤ maxDigits) :
    readInteger s = some (Int.ofNat (ofDigits (s.map digitValue))) := by
  have hBlank : ∀ c ∈ s, isNumeralBlank c = false :=
    fun c hc => isNumeralBlank_of_isDigit (h c hc)
  have hNatural : readNatural s = some (ofDigits (s.map digitValue)) := by
    rw [readNatural, digitRun_of_isDigit hs h]
    simp [hLength]
  rw [readInteger, dropWhile_eq_self_of_forall hBlank, dropEndWhile_eq_self_of_forall hBlank]
  split
  · exact absurd (h '+' List.mem_cons_self) (by decide)
  · exact absurd (h '-' List.mem_cons_self) (by decide)
  · rw [hNatural]
    rfl

theorem isDigit_of_mem_writeNat {n : Nat} {c : Char} (h : c ∈ writeNat n) : c.isDigit = true :=
  Nat.isDigit_of_mem_toDigits (by decide) (by decide) h

theorem isDigit_or_eq_of_mem_writeInt {n : Int} {c : Char} (h : c ∈ writeInt n) :
    c.isDigit = true ∨ c = '-' := by
  cases n with
  | ofNat n => exact .inl (isDigit_of_mem_writeNat h)
  | negSucc n =>
      rcases List.mem_cons.mp h with rfl | hDigit
      · exact .inr rfl
      · exact .inl (isDigit_of_mem_writeNat hDigit)

/-- A number is read back from its digits. -/
theorem ofDigits_writeNat (n : Nat) : ofDigits ((writeNat n).map digitValue) = n := by
  have hRead : Nat.ofDigitChars 10 (writeNat n) 0 = n := Nat.ofDigitChars_ten_toDigits
  rw [Nat.ofDigitChars_eq_foldl] at hRead
  rw [ofDigits, List.foldl_map]
  exact hRead

theorem length_writeNat_le {n k : Nat} (hk : 0 < k) (h : n < Nat.pow 10 k) :
    (writeNat n).length ≤ k :=
  (Nat.length_toDigits_le_iff (by decide) hk).mpr h

theorem length_writeNat_pos (n : Nat) : 0 < (writeNat n).length := Nat.length_toDigits_pos

/-- A smaller number has no more digits. -/
theorem length_writeNat_mono {m n : Nat} (h : m ≤ n) :
    (writeNat m).length ≤ (writeNat n).length := by
  have hBound : n < 10 ^ (writeNat n).length :=
    (Nat.length_toDigits_le_iff (by decide) (length_writeNat_pos n)).mp (Nat.le_refl _)
  exact length_writeNat_le (length_writeNat_pos n) (Nat.lt_of_le_of_lt h hBound)

theorem writeInt_ne_nil (n : Int) : writeInt n ≠ [] := by
  cases n with
  | ofNat n => exact List.ne_nil_of_length_pos (length_writeNat_pos n)
  | negSucc n => exact List.cons_ne_nil _ _

/-- Only zero is written with a zero in front. -/
theorem head?_writeNat_ne_zero {n : Nat} (hn : 0 < n) : (writeNat n).head? ≠ some '0' := by
  have hDigit : ∀ d < 10, 0 < d → [d.digitChar].head? ≠ some '0' := by decide
  induction n using Nat.strongRecOn with
  | ind n ih =>
      rcases Nat.lt_or_ge n 10 with hOne | hMore
      · rw [writeNat, Nat.toDigits_of_lt_base hOne]
        exact hDigit n hOne hn
      · have hHead := ih (n / 10) (by omega) (by omega)
        have hFirst := List.length_pos_iff.mp (length_writeNat_pos (n / 10))
        rw [writeNat] at hHead hFirst
        rwa [writeNat, Nat.toDigits_of_base_le (by decide) hMore, List.head?_append,
          List.head?_eq_some_head hFirst, Option.some_or, ← List.head?_eq_some_head hFirst]

end ProxyRouting.Text
