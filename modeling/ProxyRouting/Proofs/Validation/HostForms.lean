import ProxyRouting.Proofs.Pattern.Membership
import ProxyRouting.Proofs.Validation.Host

/-! The forms of valid hosts. A host is four numbers, labels with dots between them or hexadecimal
groups with colons. Four numbers are labels as well, so that the first form has to be tried first: it
alone tells the numbers that are too large. -/
namespace ProxyRouting

namespace Host

open Text

variable {c : Char} {s : List Char}

/-- The quotes, the backslash and the brackets. -/
def delimiters : List Char := "\"\x27\x60\\()[]<>\x7b\x7d".toList

theorem not_mem_delimiters_of_isMark (h : isMark c = true) : c ∉ delimiters :=
  forall_of_toNat_lt (P := fun c => isMark c = true → c ∉ delimiters) (by decide)
    (toNat_lt_of_isMark h) h

/-- What stands between the dots of a domain name. -/
structure IsLabel (s : List Char) : Prop where
  nonempty : s ≠ []
  letters : ∀ c ∈ s, c.isAlphanum = true ∨ c = '-'
  first : s.head? ≠ some '-'
  last : s.getLast? ≠ some '-'

/-- One label or more, with dots between them. -/
def IsDomain (s : List Char) : Prop :=
  ∃ labels, labels ≠ [] ∧ (∀ label ∈ labels, IsLabel label) ∧ s = ['.'].intercalate labels

/-- Up to four hexadecimal digits. -/
def IsGroup (s : List Char) : Prop := s.length ≤ 4 ∧ ∀ c ∈ s, c ∈ hexDigits

/-- Two to seven groups, each with a colon behind it, and a last group. -/
def IsGroups (s : List Char) : Prop :=
  ∃ (groups : List (List Char)) (last : List Char), 2 ≤ groups.length ∧ groups.length ≤ 7 ∧
    (∀ group ∈ groups, IsGroup group) ∧ IsGroup last ∧ s = groups.flatMap (· ++ [':']) ++ last

/-- The three forms of hosts. What is written as four numbers is a host when these fit octets, and
not otherwise. -/
inductive IsHost (s : List Char) : Prop where
  | numbers {q : Quad} (written : q.IsWritten s) (range : q.InRange)
  | domain (other : ¬ ∃ q : Quad, q.IsWritten s) (labels : IsDomain s)
  | groups (colons : IsGroups s)

theorem isLabel_iff : isLabel s = true ↔ IsLabel s := by
  have hLetters : s.all (fun c => c.isAlphanum || c = '-') = true ↔
      ∀ c ∈ s, c.isAlphanum = true ∨ c = '-' := by
    simp
  constructor
  · intro h
    simp only [isLabel, Bool.and_eq_true, hLetters] at h
    obtain ⟨⟨⟨hSome, hAll⟩, hFirst⟩, hLast⟩ := h
    exact ⟨by simpa using hSome, hAll, by simpa using hFirst, by simpa using hLast⟩
  · rintro ⟨hSome, hAll, hFirst, hLast⟩
    simp only [isLabel, Bool.and_eq_true, hLetters]
    exact ⟨⟨⟨by simpa using hSome, hAll⟩, by simpa using hFirst⟩, by simpa using hLast⟩

theorem IsLabel.dot_not_mem (h : IsLabel s) : '.' ∉ s := by
  intro hDot
  rcases h.letters '.' hDot with hLetter | hHyphen
  · exact absurd hLetter (by decide)
  · exact absurd hHyphen (by decide)

theorem isDomain_iff : isDomain s = true ↔ IsDomain s := by
  rw [isDomain, List.all_eq_true]
  constructor
  · intro h
    refine ⟨pieces '.' s, pieces_ne_nil '.' s, fun label hLabel => isLabel_iff.mp (h label hLabel), ?_⟩
    rw [← joined_eq_intercalate, joined_pieces]
  · rintro ⟨labels, hSome, hLabels, rfl⟩
    rw [← joined_eq_intercalate,
      pieces_joined hSome fun label hLabel => (hLabels label hLabel).dot_not_mem]
    exact fun label hLabel => isLabel_iff.mpr (hLabels label hLabel)

theorem isGroup_iff :
    (s.length ≤ 4 && s.all isHexDigit) = true ↔ IsGroup s := by
  rw [Bool.and_eq_true, decide_eq_true_eq, List.all_eq_true]
  exact and_congr_right' (forall₂_congr fun c _ => isHexDigit_iff)

theorem IsGroup.colon_not_mem (h : IsGroup s) : ':' ∉ s :=
  fun hColon => absurd (h.2 ':' hColon) (by decide)

/-- The groups in front of the last one are those with a colon behind them. -/
theorem isIpv6_iff : isIpv6 s = true ↔ IsGroups s := by
  have hAll (parts : List (List Char)) :
      parts.all (fun part => part.length ≤ 4 && part.all isHexDigit) = true ↔
        ∀ part ∈ parts, IsGroup part := by
    rw [List.all_eq_true]
    exact forall₂_congr fun _ _ => isGroup_iff
  simp only [isIpv6, Bool.and_eq_true, decide_eq_true_eq, hAll]
  constructor
  · rintro ⟨⟨hLower, hUpper⟩, hGroups⟩
    obtain ⟨groups, last, hSplit⟩ : ∃ groups last, pieces ':' s = groups ++ [last] :=
      ⟨_, _, (List.dropLast_concat_getLast (pieces_ne_nil ':' s)).symm⟩
    rw [hSplit, List.length_append, List.length_singleton] at hLower hUpper
    rw [hSplit] at hGroups
    refine ⟨groups, last, by omega, by omega,
      fun group hGroup => hGroups group (List.mem_append_left _ hGroup),
      hGroups last (List.mem_append_right _ List.mem_cons_self), ?_⟩
    rw [← joined_concat, ← hSplit, joined_pieces]
  · rintro ⟨groups, last, hLower, hUpper, hGroups, hLast, rfl⟩
    have hParts : ∀ part ∈ groups ++ [last], IsGroup part := by
      simpa [or_imp, forall_and] using ⟨hGroups, hLast⟩
    rw [← joined_concat, pieces_joined (by simp) fun part hPart => (hParts part hPart).colon_not_mem,
      List.length_append, List.length_singleton]
    exact ⟨⟨by omega, by omega⟩, hParts⟩

theorem IsGroups.colon_mem (h : IsGroups s) : ':' ∈ s := by
  obtain ⟨groups, last, hLower, -, -, -, rfl⟩ := h
  cases groups with
  | nil => simp at hLower
  | cons group groups => simp

/-- A text with a colon is not written as four numbers. -/
theorem not_isWritten_of_isGroups (h : IsGroups s) : ¬ ∃ q : Quad, q.IsWritten s := by
  rintro ⟨q, hWritten⟩
  rcases hWritten.isDigit_or_eq_of_mem h.colon_mem with hDigit | hDot
  · exact absurd hDigit (by decide)
  · exact absurd hDot (by decide)

/-- The valid hosts are the texts of one of the three forms. None of them has a blank, a quote, a
backslash, a bracket or a character beyond ASCII. -/
theorem isValid_iff_isHost (s : List Char) :
    (isValid s = true ↔ IsHost s) ∧
    (isValid s = true → ∀ c ∈ s, c.toNat < 128 ∧ isBlank c = false ∧ c ∉ delimiters) := by
  constructor
  · unfold isValid
    cases hRead : Quad.ofChars? s with
    | some q =>
        have hWritten := Quad.ofChars?_eq_some_iff.mp hRead
        simp only [decide_eq_true_eq]
        constructor
        · exact .numbers hWritten
        · rintro (⟨hOther, hRange⟩ | ⟨hNone, -⟩ | hGroups)
          · rw [← Quad.ofChars?_eq_some_iff, hRead] at hOther
            rwa [Option.some.inj hOther]
          · exact absurd ⟨q, hWritten⟩ hNone
          · exact absurd ⟨q, hWritten⟩ (not_isWritten_of_isGroups hGroups)
    | none =>
        have hNone := Quad.ofChars?_eq_none_iff.mp hRead
        simp only [Bool.or_eq_true, isDomain_iff, isIpv6_iff]
        constructor
        · rintro (hDomain | hGroups)
          · exact .domain hNone hDomain
          · exact .groups hGroups
        · rintro (⟨hWritten, -⟩ | ⟨-, hDomain⟩ | hGroups)
          · exact absurd ⟨_, hWritten⟩ hNone
          · exact .inl hDomain
          · exact .inr hGroups
  · intro hValid c hc
    have hMark := List.all_eq_true.mp (all_isMark hValid) c hc
    exact ⟨toNat_lt_of_isMark hMark, not_isBlank_of_isMark hMark, not_mem_delimiters_of_isMark hMark⟩

/-- The labels of this text are those of a domain name, but it is written as four numbers. -/
example : isDomain "10.0.0.256".toList = true ∧ isValid "10.0.0.256".toList = false := by decide

end Host

end ProxyRouting
