import Mathlib.Algebra.GroupWithZero.Nat
import ProxyRouting.Proofs.Pattern.Network

/-! Addresses as numbers of 32 bits. What is kept of an address behind the mask of a network are its
leading bits, so that the comparison of four masked octets is a comparison of two quotients. Numbers
that exceed an octet count by their lowest eight bits. -/
namespace ProxyRouting.Quad

theorem inRange_iff {q : Quad} :
    q.InRange ↔ q.first ≤ 255 ∧ q.second ≤ 255 ∧ q.third ≤ 255 ∧ q.fourth ≤ 255 := by
  simp [InRange, toList]

/-- The lowest eight bits of each number. -/
def low (q : Quad) : Quad :=
  ⟨q.first % 256, q.second % 256, q.third % 256, q.fourth % 256⟩

/-- The number that the leading bits write, of 32. -/
def leading (bits : Nat) (q : Quad) : Nat := q.toNat / 2 ^ (32 - bits)

/-- How many leading bits the mask of a length keeps. -/
def kept (length : Int) : Nat := if 0 ≤ length ∧ length ≤ 32 then length.toNat else 32

theorem kept_natCast {n : Nat} (h : n ≤ 32) : kept n = n := by
  unfold kept
  rw [if_pos (by omega), Int.toNat_natCast]

theorem inRange_low (q : Quad) : q.low.InRange := by
  rw [inRange_iff]
  simp only [low]
  omega

theorem low_eq_self {q : Quad} (h : q.InRange) : q.low = q := by
  have hByte : ∀ {n : Nat}, n ≤ 255 → n % 256 = n :=
    fun hn => Nat.mod_eq_of_lt (Nat.lt_succ_of_le hn)
  obtain ⟨h1, h2, h3, h4⟩ := inRange_iff.mp h
  simp only [low, hByte h1, hByte h2, hByte h3, hByte h4]

theorem toNat_lt {q : Quad} (h : q.InRange) : q.toNat < 2 ^ 32 := by
  rw [inRange_iff] at h
  simp only [toNat]
  omega

/-- An address is determined by its number. -/
theorem toNat_inj {p q : Quad} (hp : p.InRange) (hq : q.InRange) :
    p.toNat = q.toNat ↔ p = q := by
  constructor
  · intro h
    rw [inRange_iff] at hp hq
    cases p
    cases q
    simp only [toNat, Quad.mk.injEq] at *
    omega
  · rintro rfl
    rfl

theorem toNat_ofNat {n : Nat} (h : n < 2 ^ 32) : (ofNat n).toNat = n := by
  simp only [ofNat, toNat, Nat.pow_eq]
  omega

section Bits

/-- Bits are compared byte by byte. -/
theorem and_byte {a b x y : Nat} (hx : x < 2 ^ 8) (hy : y < 2 ^ 8) :
    (a * 2 ^ 8 + x) &&& (b * 2 ^ 8 + y) = (a &&& b) * 2 ^ 8 + (x &&& y) := by
  have hAnd : x &&& y < 2 ^ 8 := Nat.lt_of_le_of_lt Nat.and_le_left hx
  apply Nat.eq_of_testBit_eq
  intro i
  rw [Nat.testBit_and, Nat.mul_comm a, Nat.mul_comm b, Nat.mul_comm (a &&& b),
    Nat.testBit_two_pow_mul_add a hx, Nat.testBit_two_pow_mul_add b hy,
    Nat.testBit_two_pow_mul_add _ hAnd]
  split
  · rw [Nat.testBit_and]
  · rw [Nat.testBit_and]

/-- A mask of ones in front of `k` zeros clears the last `k` bits. -/
theorem and_ones {x k n : Nat} (hx : x < 2 ^ n) (hk : k ≤ n) :
    x &&& (2 ^ n - 2 ^ k) = x / 2 ^ k * 2 ^ k := by
  have hMask : 2 ^ n - 2 ^ k = 2 ^ k * (2 ^ (n - k) - 1) := by
    rw [Nat.mul_sub, ← Nat.pow_add, Nat.add_sub_cancel' hk, Nat.mul_one]
  apply Nat.eq_of_testBit_eq
  intro i
  rw [Nat.testBit_and, hMask, Nat.testBit_two_pow_mul, Nat.testBit_two_pow_sub_one,
    Nat.mul_comm (x / 2 ^ k), Nat.testBit_two_pow_mul, Nat.testBit_div_two_pow]
  by_cases hi : k ≤ i
  · rw [Nat.sub_add_cancel hi]
    by_cases hn : i < n
    · have hLow : i - k < n - k := by omega
      simp [hi, hLow]
    -- Above the width the number has no bits, whatever the mask has.
    · have hHigh : x < 2 ^ i :=
        Nat.lt_of_lt_of_le hx (Nat.pow_le_pow_right (by decide) (Nat.le_of_not_lt hn))
      rw [Nat.testBit_lt_two_pow hHigh, Bool.false_and, Bool.and_false]
  · simp [hi]

theorem and_mod_byte {x y : Nat} (hy : y ≤ 255) : x % 256 &&& y = x &&& y := by
  have hSmall : y < 256 := Nat.lt_succ_of_le hy
  calc x % 256 &&& y = x % 256 &&& y % 256 := by rw [Nat.mod_eq_of_lt hSmall]
    _ = (x &&& y) % 256 := (Nat.and_mod_two_pow (n := 8)).symm
    _ = x &&& y := Nat.mod_eq_of_lt (Nat.lt_of_le_of_lt Nat.and_le_right hSmall)

end Bits

theorem toNat_and {p q : Quad} (hp : p.InRange) (hq : q.InRange) :
    (p.and q).toNat = p.toNat &&& q.toNat := by
  have hByte : ∀ {a b x y : Nat}, x ≤ 255 → y ≤ 255 →
      (a * 256 + x) &&& (b * 256 + y) = (a &&& b) * 256 + (x &&& y) :=
    fun hx hy => and_byte (Nat.lt_succ_of_le hx) (Nat.lt_succ_of_le hy)
  obtain ⟨-, hp2, hp3, hp4⟩ := inRange_iff.mp hp
  obtain ⟨-, hq2, hq3, hq4⟩ := inRange_iff.mp hq
  rw [toNat, toNat, toNat, hByte hp4 hq4, hByte hp3 hq3, hByte hp2 hq2]
  rfl

/-- Behind a mask no more than the lowest eight bits are left of a number. -/
theorem low_and (p : Quad) {mask : Quad} (h : mask.InRange) : p.low.and mask = p.and mask := by
  obtain ⟨h1, h2, h3, h4⟩ := inRange_iff.mp h
  simp only [Quad.and, low, and_mod_byte h1, and_mod_byte h2, and_mod_byte h3, and_mod_byte h4]

theorem inRange_and (p : Quad) {mask : Quad} (h : mask.InRange) : (p.and mask).InRange := by
  obtain ⟨h1, h2, h3, h4⟩ := inRange_iff.mp h
  exact inRange_iff.mpr ⟨Nat.le_trans Nat.and_le_right h1, Nat.le_trans Nat.and_le_right h2,
    Nat.le_trans Nat.and_le_right h3, Nat.le_trans Nat.and_le_right h4⟩

theorem toNat_mask (length : Int) : (mask length).toNat = 2 ^ 32 - 2 ^ (32 - kept length) := by
  unfold mask kept
  split
  · have hPos := Nat.two_pow_pos (32 - length.toNat)
    rw [Nat.pow_eq, Nat.pow_eq, toNat_ofNat (by omega)]
  · rfl

theorem toNat_and_mask {q : Quad} (h : q.InRange) (length : Int) :
    (q.and (mask length)).toNat = q.leading (kept length) * 2 ^ (32 - kept length) := by
  rw [toNat_and h (inRange_mask length), toNat_mask, and_ones (toNat_lt h) (Nat.sub_le _ _), leading]

/-- Two addresses agree behind a mask when they have the leading bits in common that it keeps. -/
theorem agree_mask_iff (length : Int) (host address : Quad) :
    Network.Agree (mask length) host address ↔
      host.low.leading (kept length) = address.low.leading (kept length) := by
  have hMask := inRange_mask length
  have hPos := Nat.two_pow_pos (32 - kept length)
  rw [Network.Agree, ← low_and host hMask, ← low_and address hMask,
    ← toNat_inj (inRange_and _ hMask) (inRange_and _ hMask), toNat_and_mask (inRange_low host),
    toNat_and_mask (inRange_low address), Nat.mul_left_inj (Nat.ne_of_gt hPos)]

end ProxyRouting.Quad
