import Mathlib.Data.List.DropRight
import ProxyRouting.Proofs.Text.Ends
import ProxyRouting.Url.Split

/-! The host inside an authority. What tells the user reaches up to the last at sign, so that host
and port are found behind it whatever stands in front. A host in brackets is never empty in an
authority that is well formed; another host is empty when the port follows at once. -/
namespace ProxyRouting.Url

variable {authority user name port s : List Char}

/-- Host and port stand behind the last at sign, or are all that there is. -/
theorem hostAndPort_eq_iff :
    hostAndPort authority = s ↔
      '@' ∉ s ∧ ∃ user, authority = user ++ s ∧ ∀ c ∈ user.getLast?, c = '@' := by
  constructor
  · rintro rfl
    refine ⟨fun hMem => by simpa using List.mem_rtakeWhile_imp hMem,
      authority.rdropWhile (· != '@'), (List.rdropWhile_append_rtakeWhile).symm, fun c hc => ?_⟩
    obtain ⟨hSome, rfl⟩ := List.mem_getLast?_eq_getLast hc
    simpa using List.rdropWhile_last_not (· != '@') authority hSome
  · rintro ⟨hFree, user, rfl, hLast⟩
    have hBehind : ∀ c ∈ s.reverse, (c != '@') = true :=
      Text.bne_of_not_mem fun hMem => hFree (List.mem_reverse.mp hMem)
    have hUser : ∀ c ∈ user.reverse.head?, (c != '@') = false := by
      intro c hc
      rw [List.head?_reverse] at hc
      simp [hLast c hc]
    rw [hostAndPort, List.reverse_append, Text.takeWhile_append_of_head? hBehind hUser,
      List.reverse_reverse]

/-- A host without brackets reaches up to the port. -/
theorem rawHost_of_hostAndPort (hHost : hostAndPort authority = name ++ port)
    (hOpening : '[' ∉ name ++ port) (hColon : ':' ∉ name) (hPort : ∀ c ∈ port.head?, c = ':') :
    rawHost authority = name := by
  have hBrackets : (name ++ port).dropWhile (· != '[') = [] :=
    List.dropWhile_eq_nil_iff.mpr (Text.bne_of_not_mem hOpening)
  simp only [rawHost, hHost, hBrackets]
  exact Text.takeWhile_append_of_head? (Text.bne_of_not_mem hColon) fun c hc => by simp [hPort c hc]

/-- Nothing stands between the last at sign of an authority and its port. -/
def IsHostless (authority : List Char) : Prop :=
  ∃ user port, authority = user ++ port ∧ (∀ c ∈ user.getLast?, c = '@') ∧ '@' ∉ port ∧
    ∀ c ∈ port.head?, c = ':'

theorem isHostless_iff :
    IsHostless authority ↔ ∀ c ∈ (hostAndPort authority).head?, c = ':' := by
  constructor
  · rintro ⟨user, port, rfl, hUser, hFree, hPort⟩
    rwa [hostAndPort_eq_iff.mpr ⟨hFree, user, rfl, hUser⟩]
  · intro hPort
    obtain ⟨hFree, user, hSplit, hUser⟩ := hostAndPort_eq_iff.mp (rfl : hostAndPort authority = _)
    exact ⟨user, _, hSplit, hUser, hFree, hPort⟩

instance (authority : List Char) : Decidable (IsHostless authority) :=
  decidable_of_iff ((hostAndPort authority).head?.all (· = ':') = true) <| by
    rw [isHostless_iff, Option.all_eq_true]
    simp only [Option.mem_def, decide_eq_true_eq]

/-- Where a bracket opens, the host stands between it and the next closing one. -/
theorem exists_of_bracketsFit (h : bracketsFit s = true) (hOpening : '[' ∈ s) :
    ∃ rest, s = '[' :: rest ∧ isBracketHost (rest.takeWhile (· != ']')) = true := by
  unfold bracketsFit at h
  split at h
  next rest hDropped =>
    simp only [Bool.and_eq_true, decide_eq_true_eq] at h
    obtain ⟨⟨hFirst, -⟩, hHost⟩ := h
    obtain ⟨others, rfl⟩ := List.head?_eq_some_iff.mp hFirst
    rw [List.dropWhile_cons_of_neg (by decide)] at hDropped
    obtain ⟨-, rfl⟩ := List.cons.inj hDropped
    exact ⟨others, rfl, hHost⟩
  next hDropped =>
    have hNone := List.dropWhile_eq_nil_iff.mp hDropped '[' hOpening
    exact absurd hNone (by decide)

theorem isBracketHost_nil : isBracketHost [] = false := by decide

/-- The host of a well-formed authority is empty when nothing stands in front of the port. -/
theorem rawHost_eq_nil_iff (hFit : isAuthority authority = true) :
    rawHost authority = [] ↔ IsHostless authority := by
  obtain ⟨-, user, hSplit, -⟩ := hostAndPort_eq_iff.mp (rfl : hostAndPort authority = _)
  rw [isHostless_iff]
  by_cases hOpening : '[' ∈ hostAndPort authority
  · have hContains : authority.contains '[' = true := by
      rw [List.contains_iff_mem, hSplit]
      exact List.mem_append_right user hOpening
    have hBrackets : bracketsFit (hostAndPort authority) = true := by
      simp only [isAuthority, hContains, Bool.not_true, Bool.false_or, Bool.and_eq_true] at hFit
      exact hFit.1.2
    obtain ⟨rest, hHost, hInside⟩ := exists_of_bracketsFit hBrackets hOpening
    have hRaw : rawHost authority = rest.takeWhile (· != ']') := by
      simp only [rawHost, hHost]
      rfl
    rw [hRaw, hHost]
    refine iff_of_false (fun hNil => ?_) fun hColon => absurd (hColon '[' rfl) (by decide)
    rw [hNil, isBracketHost_nil] at hInside
    cases hInside
  · have hDropped : (hostAndPort authority).dropWhile (· != '[') = [] :=
      List.dropWhile_eq_nil_iff.mpr (Text.bne_of_not_mem hOpening)
    simp only [rawHost, hDropped]
    cases hostAndPort authority with
    | nil => simp
    | cons first rest =>
        by_cases hFirst : first = ':'
        · simp [hFirst]
        · simp [hFirst]

theorem host?_eq_none_iff {u : Url} (hFit : isAuthority u.authority = true) :
    u.host? = none ↔ IsHostless u.authority := by
  rw [← rawHost_eq_nil_iff hFit, host?]
  split
  next hEmpty => exact iff_of_true rfl (List.isEmpty_iff.mp hEmpty)
  next hFilled => exact iff_of_false nofun fun hNil => hFilled (List.isEmpty_iff.mpr hNil)

end ProxyRouting.Url
