import ProxyRouting.Proofs.Text.Lower
import ProxyRouting.Proofs.Url.Authority
import ProxyRouting.Routing

/-! The hosts that texts name. A host is a part of an authority, in which no slash stands, and without
slashes a text has no authority. So a host names itself, in whatever form it was written. An address
of a web resource has an authority, but its host may be missing there. -/
namespace ProxyRouting

namespace Url

variable {c : Char} {s host : List Char} {u : Url}

theorem mem_of_mem_clean (h : c ∈ clean s) : c ∈ s :=
  (List.dropWhile_sublist _).mem (List.mem_of_mem_filter h)

theorem mem_of_mem_splitScheme (h : c ∈ (splitScheme s).2) : c ∈ s := by
  simp only [splitScheme] at h
  split at h
  next rest hRest =>
    split at h
    · refine (List.dropWhile_sublist (· != ':')).mem ?_
      rw [hRest]
      exact List.mem_cons_of_mem _ h
    · exact h
  next => exact h

theorem authorityOf_of_slash_not_mem (h : '/' ∉ s) : authorityOf s = [] := by
  unfold authorityOf
  split
  next => exact absurd List.mem_cons_self h
  next => rfl

theorem slash_not_mem_authorityOf (s : List Char) : '/' ∉ authorityOf s := by
  unfold authorityOf
  split
  next rest =>
    intro hMem
    have hInside := List.all_eq_true.mp List.all_takeWhile '/' hMem
    exact absurd hInside (by decide)
  next => exact List.not_mem_nil

theorem of_split? (h : split? s = some u) :
    u.authority = authorityOf (splitScheme (clean s)).2 ∧ isAuthority u.authority = true := by
  simp only [split?] at h
  split at h
  next hFit =>
    obtain rfl := Option.some.inj h
    exact ⟨rfl, hFit⟩
  next => cases h

theorem mem_of_mem_rawHost {authority : List Char} (h : c ∈ rawHost authority) : c ∈ authority := by
  obtain ⟨-, user, hSplit, -⟩ := hostAndPort_eq_iff.mp (rfl : hostAndPort authority = _)
  have hHost : c ∈ hostAndPort authority := by
    simp only [rawHost] at h
    split at h
    next first rest hDropped =>
      refine (List.dropWhile_sublist (· != '[')).mem ?_
      rw [hDropped]
      exact List.mem_cons_of_mem _ ((List.takeWhile_sublist _).mem h)
    next => exact (List.takeWhile_sublist _).mem h
  rw [hSplit]
  exact List.mem_append_right user hHost

/-- No slash gets into a host with its lower-case form. -/
theorem slash_not_mem_lowerHost (h : '/' ∉ s) : '/' ∉ lowerHost s := by
  rw [lowerHost, List.mem_append, Text.lower]
  rintro (hLower | hZone)
  · have hText := Text.mem_of_mem_lowerFrom (by decide) (by decide) hLower
    exact h ((List.takeWhile_sublist _).mem hText)
  · exact h ((List.dropWhile_sublist _).mem hZone)

theorem lowerHost_ne_nil (h : s ≠ []) : lowerHost s ≠ [] := by
  intro hNil
  rw [lowerHost, List.append_eq_nil_iff] at hNil
  obtain ⟨hLower, hZone⟩ := hNil
  have hWhole : s.takeWhile (· != '%') = s := by
    rw [← List.append_nil (s.takeWhile _), ← hZone, List.takeWhile_append_dropWhile]
  rw [hWhole] at hLower
  exact Text.lower_ne_nil h hLower

theorem host?_eq_some_iff :
    u.host? = some host ↔ rawHost u.authority ≠ [] ∧ host = lowerHost (rawHost u.authority) := by
  unfold host?
  split
  next hEmpty => exact iff_of_false nofun fun h => h.1 (List.isEmpty_iff.mp hEmpty)
  next hFilled =>
    rw [List.isEmpty_iff] at hFilled
    simp [hFilled, eq_comm]

theorem slash_not_mem_host (hSplit : split? s = some u) (hHost : u.host? = some host) :
    '/' ∉ host := by
  obtain ⟨hAuthority, -⟩ := of_split? hSplit
  obtain ⟨-, rfl⟩ := host?_eq_some_iff.mp hHost
  refine slash_not_mem_lowerHost fun hMem => ?_
  have hInside := mem_of_mem_rawHost hMem
  rw [hAuthority] at hInside
  exact slash_not_mem_authorityOf _ hInside

/-- A text without slashes has no authority. -/
theorem authority_of_slash_not_mem (h : '/' ∉ s) (hSplit : split? s = some u) :
    u.authority = [] := by
  rw [(of_split? hSplit).1]
  exact authorityOf_of_slash_not_mem fun hMem => h (mem_of_mem_clean (mem_of_mem_splitScheme hMem))

/-- The host of a text is the text itself, or that of an address. -/
theorem hostOf_cases (s : List Char) :
    hostOf s = s ∨ ∃ u, split? s = some u ∧ u.host? = some (hostOf s) := by
  unfold hostOf
  split
  next u hSplit =>
    split
    · exact .inl rfl
    · cases hHost : u.host? with
      | none => exact .inl rfl
      | some host => exact .inr ⟨u, hSplit, hHost⟩
  next => exact .inl rfl

/-- A text without slashes is no address and names itself. -/
theorem hostOf_of_slash_not_mem (h : '/' ∉ s) : hostOf s = s := by
  rcases hostOf_cases s with hSelf | ⟨u, hSplit, hHost⟩
  · exact hSelf
  · obtain ⟨hSome, -⟩ := host?_eq_some_iff.mp hHost
    rw [authority_of_slash_not_mem h hSplit] at hSome
    exact absurd rfl hSome

/-- The host that a text names is no address of another one. -/
theorem hostOf_hostOf (s : List Char) : hostOf (hostOf s) = hostOf s := by
  rcases hostOf_cases s with hSelf | ⟨u, hSplit, hHost⟩
  · rw [hSelf, hSelf]
  · exact hostOf_of_slash_not_mem (slash_not_mem_host hSplit hHost)

theorem extractHost_extractHost (url : String) : extractHost (extractHost url) = extractHost url := by
  rw [extractHost, extractHost, String.toList_ofList, hostOf_hostOf]

theorem exists_scheme_of_isWeb (h : isWeb s = true) : ∃ u, split? s = some u ∧ u.scheme ≠ [] := by
  unfold isWeb at h
  split at h
  next u hSplit =>
    refine ⟨u, hSplit, fun hNil => ?_⟩
    rw [hNil] at h
    exact absurd (Bool.and_eq_true_iff.mp h).1 (by decide)
  next => cases h

theorem hostOf_of_scheme (hSplit : split? s = some u) (hScheme : u.scheme ≠ []) :
    hostOf s = u.host?.getD s := by
  simp only [hostOf, hSplit]
  exact if_neg (mt List.isEmpty_iff.mp hScheme)

/-- Splitting the text gives a host, and that is the host that it names, rather than itself. -/
def NamesHost (url : String) : Prop :=
  ∃ u host, split? url.toList = some u ∧ u.host? = some host ∧ host ≠ [] ∧
    (extractHost url).toList = host ∧ extractHost url ≠ url

theorem namesHost_of_host? {url : String} (hSplit : split? url.toList = some u)
    (hScheme : u.scheme ≠ []) (hHost : u.host? = some host) : NamesHost url := by
  obtain ⟨hRaw, hLower⟩ := host?_eq_some_iff.mp hHost
  have hExtracted : (extractHost url).toList = host := by
    rw [extractHost, String.toList_ofList, hostOf_of_scheme hSplit hScheme, hHost, Option.getD_some]
  refine ⟨u, host, hSplit, hHost, ?_, hExtracted, fun hSelf => hRaw ?_⟩
  · rw [hLower]
    exact lowerHost_ne_nil hRaw
  · -- no slash stands in a host, so that a text that is its own host has no authority
    have hSlash := slash_not_mem_host hSplit hHost
    rw [← hExtracted, hSelf] at hSlash
    rw [authority_of_slash_not_mem hSlash hSplit]
    rfl

/-- An address of a web resource names its host, unless nothing stands between the last at sign of
its authority and the port. Then it is taken for a host itself. -/
theorem namesHost_iff_of_isWeb {url : String} (h : isWeb url.toList = true) :
    ∃ u, split? url.toList = some u ∧ (NamesHost url ↔ ¬ IsHostless u.authority) ∧
      (IsHostless u.authority → extractHost url = url) := by
  obtain ⟨u, hSplit, hScheme⟩ := exists_scheme_of_isWeb h
  have hNone := host?_eq_none_iff (of_split? hSplit).2
  refine ⟨u, hSplit, ⟨?_, fun hHosted => ?_⟩, fun hHostless => ?_⟩
  · rintro ⟨v, host, hAlso, hHost, -⟩ hHostless
    obtain rfl := Option.some.inj (hSplit.symm.trans hAlso)
    rw [hNone.mpr hHostless] at hHost
    cases hHost
  · obtain ⟨host, hHost⟩ := Option.ne_none_iff_exists'.mp (mt hNone.mp hHosted)
    exact namesHost_of_host? hSplit hScheme hHost
  · rw [extractHost, hostOf_of_scheme hSplit hScheme, hNone.mpr hHostless, Option.getD_none,
      String.ofList_toList]

theorem namesHost_scoped : NamesHost "https://user:pass@[FE80::1%A]:80/" := by
  obtain ⟨u, hSplit, hNames, -⟩ :=
    namesHost_iff_of_isWeb (show isWeb "https://user:pass@[FE80::1%A]:80/".toList = true by decide)
  have hParts : split? "https://user:pass@[FE80::1%A]:80/".toList =
      some ⟨"https".toList, "user:pass@[FE80::1%A]:80".toList⟩ := by decide
  obtain rfl := Option.some.inj (hParts.symm.trans hSplit)
  exact hNames.mpr (by decide)

/-- An authority of an at sign alone makes an address of a web resource that names no host. -/
theorem web_names_no_host : ¬ ∀ url : String, isWeb url.toList = true → NamesHost url := by
  intro hAll
  obtain ⟨u, host, hSplit, hHost, -⟩ := hAll "http://@" (by decide)
  have hParts : split? "http://@".toList = some ⟨"http".toList, "@".toList⟩ := by decide
  obtain rfl := Option.some.inj (hParts.symm.trans hSplit)
  rw [(host?_eq_none_iff (of_split? hSplit).2).mpr (by decide)] at hHost
  cases hHost

end Url

namespace Verdict

/-- The verdict on a request for an address is that on a request for its host. -/
theorem onRequest_extractHost (url : String) (rules : List Rule) (profiles : List Profile) :
    Url.extractHost (Url.extractHost url) = Url.extractHost url ∧
      onRequest (Url.extractHost url) rules profiles = onRequest url rules profiles := by
  have hHost := Url.extractHost_extractHost url
  refine ⟨hHost, ?_⟩
  rw [onRequest, onRequest, hHost]

end Verdict

end ProxyRouting
