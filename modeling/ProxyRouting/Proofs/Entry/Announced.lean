import ProxyRouting.Proofs.Entry.Spelling

/-! Announcing what was read. A server that was read from an entry, however that was spelled, is
announced in an entry from which the same host and the same port are read again. The scheme is the
same but for the two that have no keyword of their own. -/
namespace ProxyRouting

theorem Scheme.announced_eq_self_iff {scheme : Scheme} :
    scheme.announced = scheme ↔ scheme ≠ .quic ∧ scheme ≠ .socks4 := by
  cases scheme <;> decide

theorem Scheme.name_injective : Function.Injective Scheme.name := by
  intro scheme other h
  have hNamed := Scheme.named?_eq_some_iff.mpr (congrArg some h)
  rw [Scheme.named?_eq_some_iff.mpr rfl] at hNamed
  exact Option.some.inj hNamed

namespace Entry

namespace Spelling

/-- The entry of a server that an entry tells has the host and the port of this entry behind a single
blank. -/
theorem announce_server (e : Spelling) :
    announce e.server = .ok (String.ofList (compose
      (Keyword.announcing (Text.lower e.keyword.scheme.name.toList)) e.host e.port)) := by
  have hEntry := Server.announce_eq (s := e.server) rfl rfl
  rwa [String.toList_ofList, server, String.toList_ofList] at hEntry

theorem read?_announce_server {e : Spelling} (h : IsSettled e.host) :
    ∃ entry, announce e.server = .ok entry ∧
      read? entry = some { e.server with scheme := some e.keyword.scheme.announced.name } := by
  refine ⟨_, e.announce_server, ?_⟩
  rw [h.read?_compose e.isPort, Keyword.scheme_announcing_name]
  rfl

end Spelling

/-- What was read is announced, and its host and port are read from its entry again. The scheme is
that of a plain proxy for QUIC and the fifth version of SOCKS for the fourth, so that the same server
is read exactly when it has another scheme than these two. -/
theorem read?_announce_of_read? {text : String} {s : Server} (h : read? text = some s) :
    ∃ (scheme : Scheme) (entry : String), s.scheme = some scheme.name ∧ announce s = .ok entry ∧
      read? entry = some { s with scheme := some scheme.announced.name } ∧
      (read? entry = some s ↔ scheme ≠ .quic ∧ scheme ≠ .socks4) := by
  obtain ⟨e, -, hSettled, rfl⟩ := exists_spelling_of_read? h
  obtain ⟨entry, hEntry, hRead⟩ := Spelling.read?_announce_server hSettled
  refine ⟨e.keyword.scheme, entry, rfl, hEntry, hRead, ?_⟩
  rw [hRead, ← Scheme.announced_eq_self_iff]
  constructor
  · intro hSame
    have hScheme := congrArg Server.scheme (Option.some.inj hSame)
    exact Scheme.name_injective (Option.some.inj hScheme)
  · intro hSame
    rw [hSame]
    rfl

/-- A blank in place of a host is kept, and so is a host in brackets; the scheme of the second entry
changes. -/
theorem read?_announce_of_read?_socks :
    (read? " SOCKS5\t\n:080" = some ⟨some "socks5", some "\n", "080"⟩ ∧
      ∃ entry, announce ⟨some "socks5", some "\n", "080"⟩ = .ok entry ∧
        read? entry = some ⟨some "socks5", some "\n", "080"⟩) ∧
    read? "SOCKS4  [fe80::1]:1080" = some ⟨some "socks4", some "[fe80::1]", "1080"⟩ ∧
      ∃ entry, announce ⟨some "socks4", some "[fe80::1]", "1080"⟩ = .ok entry ∧
        read? entry = some ⟨some "socks5", some "[fe80::1]", "1080"⟩ := by
  have hKept : read? " SOCKS5\t\n:080" = some ⟨some "socks5", some "\n", "080"⟩ := by decide
  have hLost : read? "SOCKS4  [fe80::1]:1080" = some ⟨some "socks4", some "[fe80::1]", "1080"⟩ := by
    decide
  obtain ⟨fifth, entry, hFifth, hEntry, hRead, -⟩ := read?_announce_of_read? hKept
  obtain ⟨fourth, other, hFourth, hOther, hChanged, -⟩ := read?_announce_of_read? hLost
  obtain rfl : .socks5 = fifth := Scheme.name_injective (Option.some.inj hFifth)
  obtain rfl : .socks4 = fourth := Scheme.name_injective (Option.some.inj hFourth)
  exact ⟨⟨hKept, entry, hEntry, hRead⟩, hLost, other, hOther, hChanged⟩

/-- A QUIC server is announced as a plain proxy and one of the fourth version of SOCKS as one of any
version, and neither is what is read from the entry. -/
theorem read?_announce_loses_scheme :
    (read? "QUIC a:443" = some ⟨some "quic", some "a", "443"⟩ ∧
      announce ⟨some "quic", some "a", "443"⟩ = .ok "PROXY a:443" ∧
      read? "PROXY a:443" ≠ some ⟨some "quic", some "a", "443"⟩) ∧
    read? "SOCKS4 a:1080" = some ⟨some "socks4", some "a", "1080"⟩ ∧
      announce ⟨some "socks4", some "a", "1080"⟩ = .ok "SOCKS a:1080" ∧
      read? "SOCKS a:1080" ≠ some ⟨some "socks4", some "a", "1080"⟩ := by
  refine ⟨⟨?_, ?_, ?_⟩, ?_, ?_, ?_⟩
  · decide
  · rfl
  · decide
  · decide
  · rfl
  · decide

end Entry

end ProxyRouting
