import ProxyRouting.Proofs.Pattern.Mask
import ProxyRouting.Proofs.Pattern.Meaning

/-! Membership in networks. A pattern is read up to its second slash, and its length as any text of
an integer, so that more patterns have members than are without a problem. For those without one,
the members are the addresses that have the leading bits in common with the network. -/
namespace ProxyRouting

open Text

namespace Quad

/-- Four groups of one to three ASCII digits with dots between them write these numbers. -/
def IsWritten (q : Quad) (s : List Char) : Prop :=
  ∃ a b c d, s = a ++ '.' :: (b ++ '.' :: (c ++ '.' :: d)) ∧
    (∀ group ∈ [a, b, c, d], isGroup group = true) ∧
    q = ⟨groupValue a, groupValue b, groupValue c, groupValue d⟩

theorem dot_not_mem_of_isGroup {s : List Char} (h : isGroup s = true) : '.' ∉ s := by
  simp only [isGroup, Bool.and_eq_true] at h
  exact fun hMem => absurd (List.all_eq_true.mp h.2 '.' hMem) (by decide)

theorem pieces_dotted {a b c d : List Char} (h : ∀ group ∈ [a, b, c, d], '.' ∉ group) :
    pieces '.' (a ++ '.' :: (b ++ '.' :: (c ++ '.' :: d))) = [a, b, c, d] := by
  simp only [List.forall_mem_cons] at h
  obtain ⟨ha, hb, hc, hd, -⟩ := h
  rw [pieces_append_cons ha, pieces_append_cons hb, pieces_append_cons hc, pieces_of_not_mem hd]

/-- An address is read as the numbers that it writes. -/
theorem ofChars?_eq_some_iff {s : List Char} {q : Quad} : ofChars? s = some q ↔ q.IsWritten s := by
  constructor
  · intro h
    unfold ofChars? at h
    split at h
    next a b c d hPieces =>
      split at h
      next hGroups =>
        simp only [Bool.and_eq_true] at hGroups
        obtain ⟨⟨⟨ha, hb⟩, hc⟩, hd⟩ := hGroups
        refine ⟨a, b, c, d, ?_, ?_, (Option.some.inj h).symm⟩
        · rw [← joined_pieces '.' s, hPieces]
          simp [joined]
        · simp only [List.forall_mem_cons]
          exact ⟨ha, hb, hc, hd, fun _ hNil => absurd hNil List.not_mem_nil⟩
      · cases h
    · cases h
  · rintro ⟨a, b, c, d, rfl, hGroups, rfl⟩
    have hPieces := pieces_dotted fun group hGroup => dot_not_mem_of_isGroup (hGroups group hGroup)
    simp only [List.forall_mem_cons] at hGroups
    obtain ⟨ha, hb, hc, hd, -⟩ := hGroups
    rw [ofChars?, hPieces]
    simp only [ha, hb, hc, hd, Bool.and_self, if_true]

theorem ofChars?_eq_none_iff {s : List Char} :
    ofChars? s = none ↔ ¬ ∃ q : Quad, q.IsWritten s := by
  simp only [Option.eq_none_iff_forall_ne_some, ne_eq, ofChars?_eq_some_iff, not_exists]

theorem IsWritten.isDigit_or_eq_of_mem {q : Quad} {s : List Char} (h : q.IsWritten s) {c : Char}
    (hc : c ∈ s) : c.isDigit = true ∨ c = '.' :=
  isDigit_or_eq_of_ofChars? (ofChars?_eq_some_iff.mpr h) hc

end Quad

namespace Network

/-- How a pattern is taken apart: around the first slash the address of a network and the text of
its length, and what stands behind that from a second slash on. -/
structure Reading (pattern : List Char) where
  address : List Char
  length : List Char
  behind : List Char
  network : Quad
  bits : Int
  split : pattern = address ++ '/' :: (length ++ behind)
  noSlash : '/' ∉ length
  slash : ∀ c ∈ behind.head?, c = '/'
  written : network.IsWritten address
  ascii : ∀ c ∈ length, c.toNat < 128
  integer : readInteger length = some bits

namespace Reading

variable {pattern : List Char}

theorem address_noSlash (r : Reading pattern) : '/' ∉ r.address := by
  intro hSlash
  rcases r.written.isDigit_or_eq_of_mem hSlash with hDigit | hDot
  · cases hDigit
  · cases hDot

theorem pieces_eq (r : Reading pattern) :
    ∃ others, pieces '/' pattern = r.address :: r.length :: others ∧
      (others = [] ↔ r.behind = []) := by
  have hBehind : ∃ others, pieces '/' (r.length ++ r.behind) = r.length :: others ∧
      (others = [] ↔ r.behind = []) := by
    have hSlash := r.slash
    cases hRest : r.behind with
    | nil =>
        refine ⟨[], ?_, iff_of_true rfl rfl⟩
        rw [List.append_nil, pieces_of_not_mem r.noSlash]
    | cons c rest =>
        rw [hRest] at hSlash
        obtain rfl : c = '/' := hSlash c rfl
        refine ⟨pieces '/' rest, ?_, iff_of_false (pieces_ne_nil '/' rest) (List.cons_ne_nil _ _)⟩
        rw [pieces_append_cons r.noSlash]
  obtain ⟨others, hPieces, hOthers⟩ := hBehind
  exact ⟨others, pieces_eq_cons_iff.mpr ⟨r.address_noSlash, .inr ⟨_, r.split, hPieces⟩⟩, hOthers⟩

theorem length_ne_nil (r : Reading pattern) : r.length ≠ [] := by
  intro hNil
  have hInteger := r.integer
  rw [hNil] at hInteger
  cases hInteger

theorem address_ne_nil (r : Reading pattern) : r.address ≠ [] := by
  intro hNil
  have hRead := Quad.ofChars?_eq_some_iff.mpr r.written
  rw [hNil] at hRead
  cases hRead

theorem ofChars?_eq (r : Reading pattern) : ofChars? pattern = some ⟨r.address, r.bits⟩ := by
  obtain ⟨others, hPieces, -⟩ := r.pieces_eq
  have hAscii : r.length.all (·.toNat < 128) = true :=
    List.all_eq_true.mpr fun c hc => decide_eq_true (r.ascii c hc)
  simp only [ofChars?, hPieces, hAscii, r.integer, List.isEmpty_eq_false_iff.mpr r.address_ne_nil,
    List.isEmpty_eq_false_iff.mpr r.length_ne_nil]
  rfl

/-- A length of ASCII digits is the number that they write. -/
theorem bits_eq (r : Reading pattern) (h : ∀ c ∈ r.length, c.isDigit = true)
    (hTwo : r.length.length ≤ 2) : r.bits = Quad.groupValue r.length := by
  have hRead := readInteger_of_isDigit r.length_ne_nil h (by unfold maxDigits; omega)
  rw [r.integer] at hRead
  exact Option.some.inj hRead

/-- Nothing stands behind the length, which is one of 0 to 32 in one or two ASCII digits, and the
numbers of the address are octets. -/
structure IsStrict (r : Reading pattern) : Prop where
  range : r.network.InRange
  behind : r.behind = []
  digits : ∀ c ∈ r.length, c.isDigit = true
  two : r.length.length ≤ 2
  bits : r.bits ≤ 32

theorem IsStrict.split {r : Reading pattern} (h : r.IsStrict) :
    pattern = r.address ++ '/' :: r.length := by
  have hSplit := r.split
  rwa [h.behind, List.append_nil] at hSplit

theorem IsStrict.bits_eq {r : Reading pattern} (h : r.IsStrict) :
    r.bits = Quad.groupValue r.length :=
  Reading.bits_eq r h.digits h.two

/-- A pattern that is taken apart is without a problem when that is strict. -/
theorem networkProblem?_eq_none_iff (r : Reading pattern) :
    Grammar.networkProblem? pattern = none ↔ r.IsStrict := by
  obtain ⟨others, hPieces, hOthers⟩ := r.pieces_eq
  have hRead := Quad.ofChars?_eq_some_iff.mpr r.written
  have hSome : 1 ≤ r.length.length := List.length_pos_iff.mpr r.length_ne_nil
  unfold Grammar.networkProblem?
  rw [hPieces]
  cases others with
  | cons other others =>
      exact iff_of_false nofun fun h => List.cons_ne_nil _ _ (hOthers.mpr h.behind)
  | nil =>
      simp only [hRead, hSome, decide_true, Bool.and_true]
      split
      next hForm =>
        rw [Bool.and_eq_true, List.all_eq_true, decide_eq_true_eq] at hForm
        obtain ⟨hDigits, hTwo⟩ := hForm
        have hBits := r.bits_eq hDigits hTwo
        split
        next hLong => exact iff_of_false nofun fun h => by have := h.bits; omega
        next hShort =>
          split
          next hRange => exact iff_of_true rfl ⟨hRange, hOthers.mp rfl, hDigits, hTwo, by omega⟩
          next hRange => exact iff_of_false nofun fun h => hRange h.range
      next hForm =>
        refine iff_of_false nofun fun h => hForm ?_
        rw [Bool.and_eq_true, List.all_eq_true, decide_eq_true_eq]
        exact ⟨h.digits, h.two⟩

end Reading

/-- What is read of a pattern was taken apart from it. -/
theorem exists_reading {pattern : List Char} {n : Network} {q : Quad}
    (h : ofChars? pattern = some n) (hAddress : Quad.ofChars? n.address = some q) :
    ∃ r : Reading pattern, r.network = q ∧ r.bits = n.length := by
  unfold ofChars? at h
  split at h
  next address length others hPieces =>
    split at h
    · cases h
    next hFilled =>
      obtain ⟨bits, hInteger, rfl⟩ := Option.map_eq_some_iff.mp h
      simp only [Bool.or_eq_true, not_or, Bool.not_eq_true, Bool.not_eq_false'] at hFilled
      have hAscii : ∀ c ∈ length, c.toNat < 128 := fun c hc =>
        of_decide_eq_true (List.all_eq_true.mp hFilled.2 c hc)
      obtain ⟨-, hNil | ⟨rest, hSplit, hRest⟩⟩ := pieces_eq_cons_iff.mp hPieces
      · exact absurd hNil.2 (List.cons_ne_nil _ _)
      obtain ⟨hLength, ⟨rfl, -⟩ | ⟨behind, rfl, -⟩⟩ := pieces_eq_cons_iff.mp hRest
      · exact ⟨⟨address, rest, [], q, bits, by rw [List.append_nil, hSplit], hLength, nofun,
          Quad.ofChars?_eq_some_iff.mp hAddress, hAscii, hInteger⟩, rfl, rfl⟩
      · refine ⟨⟨address, length, '/' :: behind, q, bits, hSplit, hLength, ?_,
          Quad.ofChars?_eq_some_iff.mp hAddress, hAscii, hInteger⟩, rfl, rfl⟩
        intro c hc
        exact (Option.some.inj hc).symm
  · cases h

/-- A host that is four groups of digits is a member of a pattern that is taken apart when both have
the leading bits in common. -/
theorem Reading.matchesText_eq {pattern host : String} (r : Reading pattern.toList) {h : Quad}
    (hHost : h.IsWritten host.toList) :
    Grammar.network.matchesText pattern host =
      .ok (decide (h.low.leading (Quad.kept r.bits) = r.network.low.leading (Quad.kept r.bits))) := by
  rw [Grammar.matchesText, Quad.read?, Quad.ofChars?_eq_some_iff.mpr hHost, read?, r.ofChars?_eq]
  simp only [Option.any_some, hasMember, Quad.ofChars?_eq_some_iff.mpr r.written,
    decide_eq_decide.mpr (Quad.agree_mask_iff _ _ _)]

theorem matchesText_of_not_isWritten (pattern : String) {host : String}
    (h : ¬ ∃ q : Quad, q.IsWritten host.toList) :
    Grammar.network.matchesText pattern host = .ok false := by
  rw [Grammar.matchesText, Quad.read?, Quad.ofChars?_eq_none_iff.mpr h]

/-- A host matches a pattern that is taken apart when it is four groups of digits and has the leading
bits in common with the network, and it matches no other pattern. -/
theorem matchesText_eq_true_iff {pattern host : String} :
    Grammar.network.matchesText pattern host = .ok true ↔
      ∃ (r : Reading pattern.toList) (h : Quad), h.IsWritten host.toList ∧
        h.low.leading (Quad.kept r.bits) = r.network.low.leading (Quad.kept r.bits) := by
  constructor
  · intro hMatch
    rw [Grammar.matchesText] at hMatch
    split at hMatch
    next h hHost =>
      obtain ⟨n, hRead, hMember⟩ := (Option.any_eq_true _ _).mp (Except.ok.inj hMatch)
      unfold hasMember at hMember
      split at hMember
      next address hAddress =>
        obtain ⟨r, rfl, hBits⟩ := exists_reading hRead hAddress
        refine ⟨r, h, Quad.ofChars?_eq_some_iff.mp hHost, ?_⟩
        rw [hBits]
        exact (Quad.agree_mask_iff _ _ _).mp (of_decide_eq_true hMember)
      · cases hMember
    next => cases hMatch
  · rintro ⟨r, h, hHost, hLeading⟩
    rw [r.matchesText_eq hHost, decide_eq_true hLeading]

/-- An address, a slash and one or two ASCII digits write a network and how many leading bits its
members have in common. -/
def IsWritten (pattern : List Char) (network : Quad) (bits : Nat) : Prop :=
  ∃ address digits, pattern = address ++ '/' :: digits ∧ network.IsWritten address ∧
    (∀ c ∈ digits, c.isDigit = true) ∧ 1 ≤ digits.length ∧ digits.length ≤ 2 ∧
    bits = Quad.groupValue digits

theorem IsWritten.exists_reading {pattern : List Char} {network : Quad} {bits : Nat}
    (h : IsWritten pattern network bits) :
    ∃ r : Reading pattern, r.network = network ∧ r.bits = bits ∧
      (network.InRange → bits ≤ 32 → r.IsStrict) := by
  obtain ⟨address, digits, hSplit, hAddress, hDigits, hSome, hTwo, rfl⟩ := h
  have hRead := readInteger_of_isDigit (List.length_pos_iff.mp hSome) hDigits
    (by unfold maxDigits; omega)
  have hSlash : '/' ∉ digits := fun hMem => absurd (hDigits '/' hMem) (by decide)
  have hAscii : ∀ c ∈ digits, c.toNat < 128 := by
    intro c hc
    have := toNat_of_isDigit (hDigits c hc)
    omega
  exact ⟨⟨address, digits, [], network, _, by rw [List.append_nil, hSplit], hSlash, nofun, hAddress,
    hAscii, hRead⟩, rfl, rfl, fun hRange hBits => ⟨hRange, rfl, hDigits, hTwo, Int.ofNat_le.mpr hBits⟩⟩

theorem exists_strict_reading {pattern : List Char} (h : Grammar.networkProblem? pattern = none) :
    ∃ r : Reading pattern, r.IsStrict := by
  obtain ⟨address, digits, q, -, hAddress, -, -, hRead⟩ := ofChars?_of_networkProblem? h
  obtain ⟨r, -, -⟩ := Network.exists_reading hRead hAddress
  exact ⟨r, r.networkProblem?_eq_none_iff.mp h⟩

/-- A pattern is without a problem when it writes a network of octets and one of 0 to 32 bits. -/
theorem networkProblem?_eq_none_iff {pattern : List Char} :
    Grammar.networkProblem? pattern = none ↔
      ∃ network bits, IsWritten pattern network bits ∧ network.InRange ∧ bits ≤ 32 := by
  constructor
  · intro h
    obtain ⟨r, hStrict⟩ := exists_strict_reading h
    have hBits := hStrict.bits
    rw [hStrict.bits_eq] at hBits
    exact ⟨r.network, _, ⟨r.address, r.length, hStrict.split, r.written, hStrict.digits,
      List.length_pos_iff.mpr r.length_ne_nil, hStrict.two, rfl⟩, hStrict.range, Int.ofNat_le.mp hBits⟩
  · rintro ⟨network, bits, hWritten, hRange, hBits⟩
    obtain ⟨r, -, -, hStrict⟩ := hWritten.exists_reading
    exact r.networkProblem?_eq_none_iff.mpr (hStrict hRange hBits)

/-- A pattern in the grammar of networks is accepted when it has no problem as a network. -/
theorem patternProblem?_eq_none_iff {pattern : String} :
    patternProblem? (some pattern) (some Grammar.network.name) = .ok none ↔
      Grammar.networkProblem? pattern.toList = none := by
  rw [patternProblem?_name_eq_none_iff, Grammar.problem?, Except.ok.injEq, and_iff_right_iff_imp]
  intro h
  obtain ⟨_, _, ⟨address, digits, hSplit, -⟩, -⟩ := networkProblem?_eq_none_iff.mp h
  have hSlash : '/' ∈ pattern.toList := by
    rw [hSplit]
    exact List.mem_append_right _ List.mem_cons_self
  exact List.all_eq_false.mpr ⟨'/', hSlash, by decide⟩

end Network

/-- A pattern is accepted when it writes a network of octets and one of 0 to 32 bits. The addresses
that match it then are those that have that many leading bits in common with the network, and what
is not four groups of digits matches no pattern at all. -/
theorem matchesText_network_eq_leading (pattern host : String) :
    (patternProblem? (some pattern) (some Grammar.network.name) = .ok none ↔
      ∃ network bits,
        Network.IsWritten pattern.toList network bits ∧ network.InRange ∧ bits ≤ 32) ∧
    (∀ (network h : Quad) (bits : Nat), Network.IsWritten pattern.toList network bits →
      network.InRange → bits ≤ 32 → h.IsWritten host.toList → h.InRange →
      Grammar.network.matchesText pattern host =
        .ok (decide (h.toNat / 2 ^ (32 - bits) = network.toNat / 2 ^ (32 - bits)))) ∧
    ((¬ ∃ h : Quad, h.IsWritten host.toList) →
      Grammar.network.matchesText pattern host = .ok false) := by
  refine ⟨Network.patternProblem?_eq_none_iff.trans Network.networkProblem?_eq_none_iff, ?_,
    Network.matchesText_of_not_isWritten pattern⟩
  intro network h bits hPattern hNetwork hBits hHost hRange
  obtain ⟨r, rfl, hEq, -⟩ := hPattern.exists_reading
  rw [r.matchesText_eq hHost, hEq, Quad.kept_natCast hBits, Quad.low_eq_self hRange,
    Quad.low_eq_self hNetwork]
  rfl

/-- A network that ends inside its second octet, with zeros in front of its numbers. -/
theorem matchesText_network_eq_leading_office :
    patternProblem? (some "010.016.0.9/12") (some Grammar.network.name) = .ok none ∧
    Grammar.network.matchesText "010.016.0.9/12" "10.31.007.255" = .ok true ∧
    Grammar.network.matchesText "010.016.0.9/12" "10.32.0.9" = .ok false ∧
    Grammar.network.matchesText "010.016.0.9/12" "10.16.0.9.corp" = .ok false := by
  have hPattern : Network.IsWritten "010.016.0.9/12".toList ⟨10, 16, 0, 9⟩ 12 :=
    ⟨"010.016.0.9".toList, "12".toList, by decide, Quad.ofChars?_eq_some_iff.mp (by decide),
      List.all_eq_true.mp (by decide), by decide, by decide, by decide⟩
  have hInside : Quad.IsWritten ⟨10, 31, 7, 255⟩ "10.31.007.255".toList :=
    Quad.ofChars?_eq_some_iff.mp (by decide)
  have hOutside : Quad.IsWritten ⟨10, 32, 0, 9⟩ "10.32.0.9".toList :=
    Quad.ofChars?_eq_some_iff.mp (by decide)
  have hNone : ¬ ∃ h : Quad, h.IsWritten "10.16.0.9.corp".toList :=
    Quad.ofChars?_eq_none_iff.mp (by decide)
  obtain ⟨hAccepted, hMembers, -⟩ := matchesText_network_eq_leading "010.016.0.9/12" "10.31.007.255"
  obtain ⟨-, hOthers, -⟩ := matchesText_network_eq_leading "010.016.0.9/12" "10.32.0.9"
  obtain ⟨-, -, hNames⟩ := matchesText_network_eq_leading "010.016.0.9/12" "10.16.0.9.corp"
  refine ⟨hAccepted.mpr ⟨_, _, hPattern, by decide, by decide⟩, ?_, ?_, hNames hNone⟩
  · exact hMembers _ _ _ hPattern (by decide) (by decide) hInside (by decide)
  · exact hOthers _ _ _ hPattern (by decide) (by decide) hOutside (by decide)

end ProxyRouting
