import Mathlib.Data.List.TakeWhile
import ProxyRouting.Pattern.Validity
import ProxyRouting.Proofs.Url.Naming

/-! The host of an address that is written part by part. A scheme ends at the first colon and an
authority at the first slash, question mark or number sign, so that both are found whatever stands
behind them, and an authority that is a host name is the host. -/
namespace ProxyRouting

namespace Grammar

theorem toNat_lt_of_isHostChar {c : Char} (h : isHostChar c = true) : c.toNat < 128 := by
  simp only [isHostChar, Text.isAsciiWord, Bool.or_eq_true, decide_eq_true_eq] at h
  rcases h with ((rfl | hAlphanum) | rfl) | rfl
  · decide
  · exact Text.toNat_lt_of_isAlphanum hAlphanum
  · decide
  · decide

end Grammar

namespace Url

/-- A character that can stand anywhere in an authority without ending it and without making it
malformed. -/
structure IsPlain (c : Char) : Prop where
  visible : 32 < c.toNat
  ascii : c.toNat < 128
  inside : endsAuthority c = false
  opening : c ≠ '['
  closing : c ≠ ']'

instance (c : Char) : Decidable (IsPlain c) :=
  decidable_of_iff (32 < c.toNat ∧ c.toNat < 128 ∧ endsAuthority c = false ∧ c ≠ '[' ∧ c ≠ ']')
    ⟨fun ⟨hVisible, hAscii, hInside, hOpening, hClosing⟩ =>
      ⟨hVisible, hAscii, hInside, hOpening, hClosing⟩,
    fun h => ⟨h.visible, h.ascii, h.inside, h.opening, h.closing⟩⟩

theorem isPlain_of_isHostChar {c : Char} (h : Grammar.isHostChar c = true) : IsPlain c :=
  Text.forall_of_toNat_lt (P := fun c => Grammar.isHostChar c = true → IsPlain c) (by decide)
    (Grammar.toNat_lt_of_isHostChar h) h

theorem isPlain_of_isSchemeChar {c : Char} (h : isSchemeChar c = true) : IsPlain c := by
  simp only [isSchemeChar, Bool.or_eq_true, decide_eq_true_eq] at h
  rcases h with ((hAlphanum | rfl) | rfl) | rfl
  · exact isPlain_of_isHostChar (by simp [Grammar.isHostChar, Text.isAsciiWord, hAlphanum])
  · decide
  · decide
  · decide

section

variable {scheme authority rest s : List Char}

theorem isSchemeChar_of_isScheme (h : isScheme scheme = true) :
    ∀ c ∈ scheme, isSchemeChar c = true := by
  cases scheme with
  | nil => cases h
  | cons first rest =>
      obtain ⟨hFirst, hRest⟩ := Bool.and_eq_true_iff.mp h
      refine List.forall_mem_cons.mpr ⟨?_, List.all_eq_true.mp hRest⟩
      simp [isSchemeChar, Char.isAlphanum, hFirst]

theorem splitScheme_append (h : isScheme scheme = true) (rest : List Char) :
    splitScheme (scheme ++ ':' :: rest) = (scheme.map Char.toLower, rest) := by
  have hColon : ∀ c ∈ scheme, (c != ':') = true :=
    Text.bne_of_not_mem (Text.not_mem_of_forall (isSchemeChar_of_isScheme h) (by decide))
  have hTaken : (scheme ++ ':' :: rest).takeWhile (· != ':') = scheme :=
    Text.takeWhile_append_of_head? hColon (by simp)
  have hDropped : (scheme ++ ':' :: rest).dropWhile (· != ':') = ':' :: rest :=
    Text.dropWhile_append_of_head? hColon (by simp)
  simp only [splitScheme, hDropped, hTaken, h, if_true]

theorem authorityOf_append (hInside : ∀ c ∈ authority, endsAuthority c = false)
    (hEnd : ∀ c ∈ rest.head?, endsAuthority c = true) :
    authorityOf ('/' :: '/' :: (authority ++ rest)) = authority :=
  Text.takeWhile_append_of_head? (fun c hc => by simp [hInside c hc])
    fun c hc => by simp [hEnd c hc]

theorem isAuthority_of_isPlain (h : ∀ c ∈ authority, IsPlain c) : isAuthority authority = true := by
  have hOpening : authority.contains '[' = false := by
    simpa using fun hMem => (h _ hMem).opening rfl
  have hClosing : authority.contains ']' = false := by
    simpa using fun hMem => (h _ hMem).closing rfl
  have hShown : authority.any (fun c => hiddenDelimiters.contains c.toNat) = false := by
    refine List.any_eq_false.mpr fun c hc => ?_
    have hHidden : ∀ n < 128, hiddenDelimiters.contains n = false := by decide
    rw [hHidden _ (h c hc).ascii]
    exact Bool.false_ne_true
  rw [isAuthority, hOpening, hClosing, hShown]
  rfl

/-- The front of a text is not cleaned when it holds neither control characters nor blanks, and the
rest loses its tabs and line breaks only. -/
theorem clean_append {front : List Char} (hSome : front ≠ []) (hFront : ∀ c ∈ front, 32 < c.toNat)
    (rest : List Char) :
    clean (front ++ rest) =
      front ++ rest.filter fun c => c != '\t' && c != '\r' && c != '\n' := by
  have hKept : (front ++ rest).dropWhile (fun c => c.toNat ≤ 32) = front ++ rest := by
    refine Text.dropWhile_eq_self_of_head? fun c hc => ?_
    obtain ⟨first, others, rfl⟩ := List.exists_cons_of_ne_nil hSome
    obtain rfl := Option.some.inj hc
    simpa using hFront first List.mem_cons_self
  rw [clean, hKept, List.filter_append, List.filter_eq_self.mpr]
  intro c hc
  have hVisible := hFront c hc
  simp only [Bool.and_eq_true, bne_iff_ne]
  refine ⟨⟨?_, ?_⟩, ?_⟩
  all_goals
    rintro rfl
    exact absurd hVisible (by decide)

/-- What ends an authority stays in front of the rest when this is cleaned. -/
theorem endsAuthority_of_mem_head?_filter (hEnd : ∀ c ∈ rest.head?, endsAuthority c = true) :
    ∀ c ∈ (rest.filter fun c => c != '\t' && c != '\r' && c != '\n').head?,
      endsAuthority c = true := by
  cases rest with
  | nil => nofun
  | cons first rest =>
      have hFirst := hEnd first rfl
      have hKept : (first != '\t' && first != '\r' && first != '\n') = true := by
        simp only [endsAuthority, Bool.or_eq_true, decide_eq_true_eq] at hFirst
        rcases hFirst with (rfl | rfl) | rfl <;> rfl
      rw [List.filter_cons_of_pos (by exact hKept)]
      rintro c ⟨⟩
      exact hFirst

/-- The scheme and the authority of an address, whatever stands behind them. -/
theorem split?_append (hScheme : isScheme scheme = true) (hPlain : ∀ c ∈ authority, IsPlain c)
    (hEnd : ∀ c ∈ rest.head?, endsAuthority c = true) :
    split? (scheme ++ ':' :: '/' :: '/' :: (authority ++ rest)) =
      some ⟨scheme.map Char.toLower, authority⟩ := by
  have hFront : ∀ c ∈ scheme ++ ':' :: '/' :: '/' :: authority, 32 < c.toNat := by
    intro c hc
    simp only [List.mem_append, List.mem_cons] at hc
    rcases hc with hc | rfl | rfl | rfl | hc
    · exact (isPlain_of_isSchemeChar (isSchemeChar_of_isScheme hScheme c hc)).visible
    · decide
    · decide
    · decide
    · exact (hPlain c hc).visible
  have hClean := clean_append (by simp) hFront rest
  simp only [List.append_assoc, List.cons_append] at hClean
  have hAuthority := authorityOf_append (fun c hc => (hPlain c hc).inside)
    (endsAuthority_of_mem_head?_filter hEnd)
  simp only [split?, hClean, splitScheme_append hScheme, hAuthority,
    isAuthority_of_isPlain hPlain, if_true]

/-- An ASCII host without a zone is lowered letter by letter. -/
theorem lowerHost_of_ascii (hAscii : ∀ c ∈ s, c.toNat < 128) (hZone : '%' ∉ s) :
    lowerHost s = s.map Char.toLower := by
  have hWhole := Text.bne_of_not_mem hZone
  rw [lowerHost, List.takeWhile_eq_self_iff.mpr hWhole, List.dropWhile_eq_nil_iff.mpr hWhole,
    List.append_nil, Text.lower_of_ascii hAscii]

/-- An address names the host that is written between what tells the user and the port, in lower
case. -/
theorem hostOf_append {user name port : List Char} (hScheme : isScheme scheme = true)
    (hUser : ∀ c ∈ user, IsPlain c) (hLast : ∀ c ∈ user.getLast?, c = '@') (hSome : name ≠ [])
    (hName : ∀ c ∈ name, Grammar.isHostChar c = true)
    (hPort : ∀ c ∈ port, c.isDigit = true ∨ c = ':') (hColon : ∀ c ∈ port.head?, c = ':')
    (hEnd : ∀ c ∈ rest.head?, endsAuthority c = true) :
    hostOf (scheme ++ ':' :: '/' :: '/' :: (user ++ (name ++ port) ++ rest)) =
      name.map Char.toLower := by
  have hPlain : ∀ c ∈ user ++ (name ++ port), IsPlain c := by
    intro c hc
    simp only [List.mem_append] at hc
    rcases hc with hc | hc | hc
    · exact hUser c hc
    · exact isPlain_of_isHostChar (hName c hc)
    · rcases hPort c hc with hDigit | rfl
      · refine isPlain_of_isHostChar ?_
        simp [Grammar.isHostChar, Text.isAsciiWord, Char.isAlphanum, hDigit]
      · decide
  have hNotMem {mark : Char} (hMark : Grammar.isHostChar mark = false) : mark ∉ name :=
    Text.not_mem_of_forall hName hMark
  have hUserFree : '@' ∉ name ++ port := by
    rw [List.mem_append]
    rintro (hMem | hMem)
    · exact hNotMem (by decide) hMem
    · exact absurd (hPort _ hMem) (by decide)
  have hOpening : '[' ∉ name ++ port := fun hMem =>
    (hPlain '[' (List.mem_append_right user hMem)).opening rfl
  have hRaw : rawHost (user ++ (name ++ port)) = name :=
    rawHost_of_hostAndPort (hostAndPort_eq_iff.mpr ⟨hUserFree, user, rfl, hLast⟩) hOpening
      (hNotMem (by decide)) hColon
  have hHost : host? ⟨scheme.map Char.toLower, user ++ (name ++ port)⟩ =
      some (name.map Char.toLower) := by
    rw [host?, hRaw, if_neg (by simpa using hSome),
      lowerHost_of_ascii (fun c hc => Grammar.toNat_lt_of_isHostChar (hName c hc))
        (hNotMem (by decide))]
  have hNamed : scheme.map Char.toLower ≠ [] := by
    cases scheme with
    | nil => cases hScheme
    | cons first rest => exact List.cons_ne_nil _ _
  rw [hostOf_of_scheme (split?_append hScheme hPlain hEnd) hNamed, hHost, Option.getD_some]

end

end Url

end ProxyRouting
