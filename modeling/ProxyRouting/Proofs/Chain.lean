import ProxyRouting.Proofs.Text.Pieces
import ProxyRouting.Proofs.Validation.Server

/-! Chains of entries. The text that joins entries is taken apart into the same entries, and a chain
that announces servers is read back as those servers. -/
namespace ProxyRouting

namespace Keyword

/-- The schemes that the keyword of an entry tells again. -/
def toldSchemes : List Scheme := [.http, .https, .socks5]

theorem scheme_announcing {scheme : Scheme} (h : scheme ∈ toldSchemes) :
    (announcing (Text.lower scheme.name.toList)).scheme = scheme := by
  have hAll : ∀ told ∈ toldSchemes, told.announced = told := by decide
  rw [scheme_announcing_name, hAll scheme h]

theorem semicolon_not_mem_word (k : Keyword) : ';' ∉ k.word.toList := by
  cases k <;> decide

end Keyword

namespace Entry

/-- What tells an entry of a chain: it has characters, none of them a semicolon, and no blanks at its
ends. -/
structure IsLink (entry : List Char) : Prop where
  nonempty : entry ≠ []
  noSemicolon : ';' ∉ entry
  stripped : Text.strip entry = entry

theorem strip_blank_cons (s : List Char) : Text.strip (' ' :: s) = Text.strip s := by
  rw [Text.strip, Text.strip, List.dropWhile_cons_of_pos (by decide)]

/-- Between the semicolons of a chain stand its entries, all but the first one behind a blank. -/
theorem pieces_intercalate {first : List Char} {others : List (List Char)}
    (h : ∀ entry ∈ first :: others, ';' ∉ entry) :
    Text.pieces ';' ([';', ' '].intercalate (first :: others)) =
      first :: others.map (' ' :: ·) := by
  induction others generalizing first with
  | nil =>
      rw [List.intercalate_singleton, Text.pieces_of_not_mem (h first List.mem_cons_self)]
      rfl
  | cons second others ih =>
      have hFirst := h first List.mem_cons_self
      have hSecond : ';' ∉ ' ' :: second := by
        have hOther := h second (by simp)
        simpa using hOther
      have hOthers : ∀ entry ∈ (' ' :: second) :: others, ';' ∉ entry := by
        intro entry hEntry
        rcases List.mem_cons.mp hEntry with rfl | hEntry
        · exact hSecond
        · exact h entry (by simp [hEntry])
      have hText : [';', ' '].intercalate (first :: second :: others) =
          first ++ ';' :: [';', ' '].intercalate ((' ' :: second) :: others) := by
        cases others <;> simp
      rw [hText, Text.pieces_append_cons hFirst, ih hOthers]
      rfl

/-- A chain is taken apart into the entries that it was made of. -/
theorem chainOfChars_intercalate {entries : List (List Char)} (h : ∀ entry ∈ entries, IsLink entry) :
    chainOfChars ([';', ' '].intercalate entries) = entries := by
  have hStrip : entries.map Text.strip = entries :=
    (List.map_congr_left fun entry hEntry => (h entry hEntry).stripped).trans (List.map_id entries)
  have hFilled : ∀ entry ∈ entries, (!entry.isEmpty) = true := by
    intro entry hEntry
    simp [(h entry hEntry).nonempty]
  cases entries with
  | nil => rfl
  | cons first others =>
      have hBlank : Text.strip ∘ (' ' :: ·) = Text.strip := funext strip_blank_cons
      rw [chainOfChars, pieces_intercalate fun entry hEntry => (h entry hEntry).noSemicolon,
        List.map_cons, List.map_map, hBlank, ← List.map_cons, hStrip]
      exact List.filter_eq_self.mpr hFilled

theorem chain_intercalate {entries : List String} (h : ∀ entry ∈ entries, IsLink entry.toList) :
    chain ("; ".intercalate entries) = entries := by
  have hLinks : ∀ entry ∈ entries.map String.toList, IsLink entry := by
    intro entry hEntry
    obtain ⟨text, hText, rfl⟩ := List.mem_map.mp hEntry
    exact h text hText
  have hChars : ("; ".intercalate entries).toList =
      [';', ' '].intercalate (entries.map String.toList) := String.toList_intercalate
  rw [chain, hChars, chainOfChars_intercalate hLinks, List.map_map]
  have hSame : String.ofList ∘ String.toList = id := funext fun _ => String.ofList_toList
  rw [hSame, List.map_id]

/-- An entry is a link when its host and its port have no semicolon. -/
theorem isLink_compose (k : Keyword) {host port : List Char} (hHost : ';' ∉ host)
    (hPort : isPort port = true) : IsLink (compose k host port) := by
  refine ⟨by simp [compose], ?_, strip_compose k host hPort⟩
  have hDigits : ';' ∉ port :=
    Text.not_mem_of_forall (List.all_eq_true.mp (Bool.and_eq_true_iff.mp hPort).2) (by decide)
  simp [compose, Keyword.semicolon_not_mem_word, hHost, hDigits]

end Entry

/-- A server that the entry in a chain tells completely: its scheme has a keyword of its own, its host
is told from the port behind it and its port is nothing but digits. -/
structure Server.IsTold (s : Server) : Prop where
  scheme : ∃ scheme ∈ Keyword.toldSchemes, s.scheme = some scheme.name
  host : ∃ host, s.host = some host ∧ ';' ∉ host.toList ∧ Entry.IsTold host.toList
  port : Entry.isPort s.port.toList = true

namespace Entry

/-- The entry of a server that it tells completely is a link, and is read back as the server. -/
theorem exists_announce_of_isTold {s : Server} (h : s.IsTold) :
    ∃ entry, announce s = .ok entry ∧ IsLink entry.toList ∧ read? entry = some s := by
  obtain ⟨scheme, hTold, hScheme⟩ := h.scheme
  obtain ⟨host, hHost, hSemicolon, hTells⟩ := h.host
  refine ⟨_, Server.announce_eq hScheme hHost, ?_, ?_⟩
  · rw [String.toList_ofList]
    exact isLink_compose _ hSemicolon h.port
  · rw [IsSettled.read?_compose (.inl hTells) h.port, Keyword.scheme_announcing hTold,
      String.ofList_toList, String.ofList_toList, ← hScheme, ← hHost]

/-- The chain of the entries of such servers, of any number of them, is taken apart into these
entries and read back as these servers. -/
theorem read?_chain_of_isTold {servers : List Server} (h : ∀ s ∈ servers, s.IsTold) :
    ∃ entries, servers.mapM announce = .ok entries ∧
      chain ("; ".intercalate entries) = entries ∧
      (chain ("; ".intercalate entries)).map read? = servers.map some := by
  have hEntries : ∃ entries, servers.mapM announce = .ok entries ∧
      (∀ entry ∈ entries, IsLink entry.toList) ∧ entries.map read? = servers.map some := by
    induction servers with
    | nil => exact ⟨[], rfl, by simp, rfl⟩
    | cons s servers ih =>
        obtain ⟨entry, hEntry, hLink, hRead⟩ := exists_announce_of_isTold (h s List.mem_cons_self)
        obtain ⟨entries, hAll, hLinks, hReads⟩ := ih fun t ht => h t (List.mem_cons_of_mem s ht)
        refine ⟨entry :: entries, ?_, ?_, ?_⟩
        · simp [List.mapM_cons, hEntry, hAll, bind, Except.bind, pure, Except.pure]
        · simpa using ⟨hLink, hLinks⟩
        · simp [hRead, hReads]
  obtain ⟨entries, hAll, hLinks, hReads⟩ := hEntries
  have hChain := chain_intercalate hLinks
  exact ⟨entries, hAll, hChain, by rw [hChain, hReads]⟩

/-- Servers of the three schemes, with a host that has blanks and one that has brackets. -/
def toldServers : List Server := [
  ⟨some "http", some "two words", "080"⟩,
  ⟨some "https", some "[fe80::1[%]", "8443"⟩,
  ⟨some "socks5", some "proxy.corp]", "1080"⟩]

theorem read?_chain_of_isTold_toldServers :
    (∀ s ∈ toldServers, s.IsTold) ∧
    ∃ entries, toldServers.mapM announce = .ok entries ∧
      (chain ("; ".intercalate entries)).map read? = toldServers.map some := by
  have h : ∀ s ∈ toldServers, s.IsTold := by
    intro s hs
    simp only [toldServers, List.mem_cons, List.not_mem_nil, or_false] at hs
    rcases hs with rfl | rfl | rfl
    · refine ⟨⟨.http, by decide, rfl⟩, ⟨_, rfl, by decide, .inl ⟨by decide, by decide, by decide, ?_⟩⟩,
        by decide⟩
      rintro c ⟨⟩
      rfl
    · exact ⟨⟨.https, by decide, rfl⟩,
        ⟨_, rfl, by decide, .inr ⟨"fe80::1[%".toList, by decide, by decide, rfl⟩⟩, by decide⟩
    · refine ⟨⟨.socks5, by decide, rfl⟩,
        ⟨_, rfl, by decide, .inl ⟨by decide, by decide, by decide, ?_⟩⟩, by decide⟩
      rintro c ⟨⟩
      rfl
  obtain ⟨entries, hEntries, -, hRead⟩ := read?_chain_of_isTold h
  exact ⟨h, entries, hEntries, hRead⟩

end Entry

end ProxyRouting
