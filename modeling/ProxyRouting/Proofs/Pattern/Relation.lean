import ProxyRouting.Pattern.Matching
import ProxyRouting.Proofs.Pattern.Glob
import ProxyRouting.Proofs.Text.Lower

/-! The hosts that a wildcard stands for, as a relation with a rule for each kind of character. The
relation is decided by running the expression that the wildcard is translated to, whatever its
characters mean in expressions, so that none of them is lost or taken for a mark. -/
namespace ProxyRouting

namespace Text

/-- No ASCII letter shares its upper-case form with another one. -/
theorem le_of_mem_variantsOf_lowerCode {m n : Nat} (hm : m < 128)
    (h : n ∈ variantsOf (lowerCode m)) : 128 ≤ n := by
  have hVariants : ∀ m < 128, ∀ n ∈ variantsOf (lowerCode m), 128 ≤ n := by decide
  exact hVariants m hm n h

/-- ASCII characters are forms of one letter when they are equal in lower case. -/
theorem sameLetter_iff_of_ascii {c d : Char} (hc : c.toNat < 128) (hd : d.toNat < 128) :
    sameLetter c d = true ↔ c.toLower = d.toLower := by
  have hLower : lowerCode d.toNat < 128 := by
    have hBound : ∀ n < 128, lowerCode n < 128 := by decide
    exact hBound _ hd
  have hVariant : lowerCode d.toNat ∉ variantsOf (lowerCode c.toNat) := by
    intro hMem
    have := le_of_mem_variantsOf_lowerCode hc hMem
    omega
  have hCode := lowerCode_of_ascii hc
  have hOther := lowerCode_of_ascii hd
  rw [Char.ofNat_toNat] at hCode hOther
  rw [sameLetter, sameCode, Bool.or_eq_true, decide_eq_true_eq, List.contains_iff_mem,
    or_iff_left hVariant, hCode, hOther]
  exact Char.toNat_inj

end Text

namespace Wildcard

/-- What a wildcard stands for, read from its front: an asterisk for a run without a line break, a
question mark for one character that is no line break, and each other character for a form of its
own letter. -/
inductive Glob : List Char → List Char → Prop where
  | nil : Glob [] []
  | run {part pattern host : List Char} (hPart : '\n' ∉ part) (behind : Glob pattern host) :
      Glob ('*' :: pattern) (part ++ host)
  | mark {x : Char} {pattern host : List Char} (hx : x ≠ '\n') (behind : Glob pattern host) :
      Glob ('?' :: pattern) (x :: host)
  | letter {c x : Char} {pattern host : List Char} (hStar : c ≠ '*') (hMark : c ≠ '?')
      (hx : Text.sameLetter c x = true) (behind : Glob pattern host) :
      Glob (c :: pattern) (x :: host)

section

variable {c x : Char} {pattern host : List Char}

theorem glob_nil_iff : Glob [] host ↔ host = [] := by
  constructor
  · rintro ⟨⟩
    rfl
  · rintro rfl
    exact .nil

theorem glob_run_iff : Glob ('*' :: pattern) host ↔
    ∃ part rest, host = part ++ rest ∧ '\n' ∉ part ∧ Glob pattern rest := by
  constructor
  · intro h
    cases h with
    | run hPart behind => exact ⟨_, _, rfl, hPart, behind⟩
    | letter hStar => exact absurd rfl hStar
  · rintro ⟨part, rest, rfl, hPart, behind⟩
    exact .run hPart behind

/-- Only an asterisk stands for nothing. -/
theorem not_glob_nil (hStar : c ≠ '*') : ¬ Glob (c :: pattern) [] := by
  intro h
  generalize hHost : [] = host at h
  cases h with
  | run => exact hStar rfl
  | mark => cases hHost
  | letter => cases hHost

theorem glob_mark_iff : Glob ('?' :: pattern) (x :: host) ↔ x ≠ '\n' ∧ Glob pattern host := by
  constructor
  · intro h
    cases h with
    | mark hx behind => exact ⟨hx, behind⟩
    | letter _ hMark => exact absurd rfl hMark
  · rintro ⟨hx, behind⟩
    exact .mark hx behind

theorem glob_letter_iff (hStar : c ≠ '*') (hMark : c ≠ '?') :
    Glob (c :: pattern) (x :: host) ↔ Text.sameLetter c x = true ∧ Glob pattern host := by
  constructor
  · intro h
    generalize hHost : x :: host = whole at h
    cases h with
    | run => exact absurd rfl hStar
    | mark => exact absurd rfl hMark
    | letter _ _ hx behind =>
        obtain ⟨rfl, rfl⟩ := List.cons.inj hHost
        exact ⟨hx, behind⟩
  · rintro ⟨hx, behind⟩
    exact .letter hStar hMark hx behind

end

/-- Behind some run stands a rest that is accepted. -/
theorem behindRun_iff {next : List Char → Bool} {host : List Char} :
    behindRun next host = true ↔
      ∃ part rest, host = part ++ rest ∧ '\n' ∉ part ∧ next rest = true := by
  induction host with
  | nil =>
      constructor
      · intro hNext
        exact ⟨[], [], rfl, List.not_mem_nil, hNext⟩
      · rintro ⟨part, rest, hHost, -, hNext⟩
        rwa [(List.append_eq_nil_iff.mp hHost.symm).2] at hNext
  | cons x host ih =>
      rw [behindRun, Bool.or_eq_true, Bool.and_eq_true, bne_iff_ne, ih]
      constructor
      · rintro (hNext | ⟨hx, part, rest, rfl, hPart, hNext⟩)
        · exact ⟨[], x :: host, rfl, List.not_mem_nil, hNext⟩
        · exact ⟨x :: part, rest, rfl, List.not_mem_cons_of_ne_of_not_mem hx.symm hPart, hNext⟩
      · rintro ⟨part, rest, hHost, hPart, hNext⟩
        cases part with
        | nil =>
            rw [List.nil_append] at hHost
            exact .inl (hHost ▸ hNext)
        | cons y part =>
            obtain ⟨rfl, rfl⟩ := List.cons.inj hHost
            obtain ⟨hx, hPart⟩ := List.ne_and_not_mem_of_not_mem_cons hPart
            exact .inr ⟨hx.symm, part, rest, rfl, hPart, hNext⟩

/-- A host fits a wildcard when the wildcard stands for it. -/
theorem fits_iff_glob {pattern host : List Char} :
    fits pattern host = true ↔ Glob pattern host := by
  induction pattern generalizing host with
  | nil => rw [fits, List.isEmpty_iff, glob_nil_iff]
  | cons c pattern ih =>
      by_cases hStar : c = '*'
      · subst hStar
        have hFits : fits ('*' :: pattern) host = behindRun (fits pattern) host := by simp [fits]
        simp only [hFits, behindRun_iff, glob_run_iff, ih]
      · cases host with
        | nil => simp [fits, hStar, not_glob_nil hStar]
        | cons x host =>
            by_cases hMark : c = '?'
            · subst hMark
              simp [fits, glob_mark_iff, ih]
            · simp [fits, hStar, hMark, glob_letter_iff hStar hMark, ih]

instance (pattern host : List Char) : Decidable (Glob pattern host) :=
  decidable_of_iff (fits pattern host = true) fits_iff_glob

end Wildcard

/-- A pattern of any characters matches exactly the hosts that it stands for as a wildcard, and the
expression that it is translated to is read. Letters are compared without regard to case, which for
ASCII characters means their lower-case forms. -/
theorem matchesText_wildcard_iff_glob (pattern host : String) :
    (∃ node, Regex.read { ignoreCase := true } (Wildcard.toRegex pattern.toList) = .ok node) ∧
    (∃ found, Grammar.wildcard.matchesText pattern host = .ok found ∧
      (found = true ↔ Wildcard.Glob pattern.toList host.toList)) ∧
    ∀ c d : Char, c.toNat < 128 → d.toNat < 128 →
      (Text.sameLetter c d = true ↔ c.toLower = d.toLower) := by
  have hMatch := Wildcard.hasMatch_eq_fits pattern.toList host.toList
  refine ⟨?_, ⟨Wildcard.fits pattern.toList host.toList, ?_, Wildcard.fits_iff_glob⟩,
    fun c d => Text.sameLetter_iff_of_ascii⟩
  · unfold Wildcard.hasMatch at hMatch
    cases hRead : Regex.read { ignoreCase := true } (Wildcard.toRegex pattern.toList) with
    | ok node => exact ⟨node, rfl⟩
    | error err =>
        rw [hRead] at hMatch
        cases hMatch
  · rw [Grammar.matchesText, hMatch]
    rfl

/-- An escaped character in front of an asterisk, and asterisks and question marks side by side. -/
example : Wildcard.Glob "\\*?.[a-z]$**".toList "\\\\.[A-Z]$".toList := by decide +kernel

end ProxyRouting
