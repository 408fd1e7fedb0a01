import Mathlib.Data.List.Infix
import ProxyRouting.Proofs.Entry
import ProxyRouting.Proofs.Text.Pieces

/-! What is read as an entry: a keyword, a gap of blanks, a host, a colon and a port. All ways to
spell out one text have the same keyword and the same port. Blanks in front of a host may belong to
the gap or to the host, and what is read is the host behind the longest gap. -/
namespace ProxyRouting

namespace Entry

/-- What tells a host that stands without brackets in an entry. It may start with blanks. -/
structure IsPlain (host : List Char) : Prop where
  nonempty : host ≠ []
  noColon : ':' ∉ host
  noBracket : '[' ∉ host

/-- What can stand in an entry as a host. -/
def IsHost (host : List Char) : Prop := IsBracketed host ∨ IsPlain host

/-- A host that leaves nothing to the gap in front of it: its first character is no blank, or all
that there is. -/
def IsSettled (host : List Char) : Prop :=
  IsTold host ∨ ∃ c, Text.isAsciiBlank c = true ∧ host = [c]

theorem isPort_iff {port : List Char} :
    isPort port = true ↔ port ≠ [] ∧ ∀ c ∈ port, c.isDigit = true := by
  simp [isPort]

section Host

variable {c : Char} {host rest : List Char}

theorem IsHost.ne_nil (h : IsHost host) : host ≠ [] := by
  rcases h with ⟨inside, -, -, rfl⟩ | hPlain
  · simp
  · exact hPlain.nonempty

theorem IsHost.isTold (h : IsHost host)
    (hFilled : ∀ c ∈ host.head?, Text.isAsciiBlank c = false) : IsTold host := by
  rcases h with hBracketed | hPlain
  · exact .inr hBracketed
  · exact .inl ⟨hPlain.nonempty, hPlain.noColon, hPlain.noBracket, hFilled⟩

/-- Behind a blank at the front of a host stands a host, or nothing. -/
theorem IsHost.of_cons (h : IsHost (c :: rest)) (hBlank : Text.isAsciiBlank c = true)
    (hRest : rest ≠ []) : IsHost rest := by
  rcases h with ⟨inside, -, -, hText⟩ | hPlain
  · obtain ⟨rfl, -⟩ := List.cons.inj hText
    exact absurd hBlank (by decide)
  · exact .inr ⟨hRest, fun hc => hPlain.noColon (List.mem_cons_of_mem c hc),
      fun hc => hPlain.noBracket (List.mem_cons_of_mem c hc)⟩

theorem IsTold.isHost (h : IsTold host) : IsHost host := by
  rcases h with hBare | hBracketed
  · exact .inr ⟨hBare.nonempty, hBare.noColon, hBare.noBracket⟩
  · exact .inl hBracketed

theorem IsSettled.isHost (h : IsSettled host) : IsHost host := by
  rcases h with hTold | ⟨c, hBlank, rfl⟩
  · exact hTold.isHost
  · have hOther : ∀ mark, Text.isAsciiBlank mark = false → mark ∉ [c] := by
      intro mark hMark hMem
      rw [List.mem_singleton.mp hMem, hBlank] at hMark
      cases hMark
    exact .inr ⟨by simp, hOther ':' (by decide), hOther '[' (by decide)⟩

end Host

/-- An entry in its parts. -/
structure Spelling where
  keyword : Keyword
  gap : List Char
  host : List Char
  port : List Char
  gap_nonempty : gap ≠ []
  gap_blank : ∀ c ∈ gap, Text.isAsciiBlank c = true
  isHost : IsHost host
  port_nonempty : port ≠ []
  port_digits : ∀ c ∈ port, c.isDigit = true

namespace Spelling

def toChars (e : Spelling) : List Char :=
  e.keyword.word.toList ++ (e.gap ++ (e.host ++ ':' :: e.port))

/-- The server that an entry tells. -/
def server (e : Spelling) : Server :=
  ⟨some e.keyword.scheme.name, some (String.ofList e.host), String.ofList e.port⟩

/-- No other way to spell out the text has a longer gap. -/
def IsLongest (e : Spelling) : Prop :=
  ∀ other : Spelling, other.toChars = e.toChars → other.gap.length ≤ e.gap.length

theorem isPort (e : Spelling) : Entry.isPort e.port = true :=
  isPort_iff.mpr ⟨e.port_nonempty, e.port_digits⟩

theorem takeWhile_toChars (e : Spelling) :
    e.toChars.takeWhile (fun c => !Text.isAsciiBlank c) = e.keyword.word.toList := by
  have hBehind : ∀ c ∈ (e.gap ++ (e.host ++ ':' :: e.port)).head?,
      (!Text.isAsciiBlank c) = false := by
    obtain ⟨first, others, hGap⟩ := List.exists_cons_of_ne_nil e.gap_nonempty
    intro c hc
    obtain rfl : first = c := by simpa [hGap] using hc
    simp [e.gap_blank first (by simp [hGap])]
  refine Text.takeWhile_append_of_head? (fun c hc => ?_) hBehind
  simp [not_isAsciiBlank_of_mem_word e.keyword hc]

/-- The port is what stands behind the last colon. -/
theorem getLast?_pieces (e : Spelling) : (Text.pieces ':' e.toChars).getLast? = some e.port := by
  have hColon : ':' ∉ e.port := Text.not_mem_of_forall e.port_digits (by decide)
  have hText : e.toChars = (e.keyword.word.toList ++ (e.gap ++ e.host)) ++ ':' :: e.port := by
    simp [toChars]
  rw [hText, Text.pieces_append_mark, Text.pieces_of_not_mem hColon, List.getLast?_append]
  rfl

variable {e other : Spelling}

theorem keyword_eq (h : other.toChars = e.toChars) : other.keyword = e.keyword := by
  have hWords : e.keyword.word.toList = other.keyword.word.toList := by
    rw [← takeWhile_toChars, ← takeWhile_toChars, h]
  have hRead := Keyword.read?_eq_some_iff.mpr hWords
  rw [Keyword.read?_eq_some_iff.mpr rfl] at hRead
  exact (Option.some.inj hRead).symm

theorem port_eq (h : other.toChars = e.toChars) : other.port = e.port := by
  have hLast := other.getLast?_pieces
  rw [h, e.getLast?_pieces] at hLast
  exact (Option.some.inj hLast).symm

/-- Two spellings of a text share the same characters out between gap and host. -/
theorem gap_append_host_eq (h : other.toChars = e.toChars) :
    other.gap ++ other.host = e.gap ++ e.host := by
  have hText := h
  rw [toChars, toChars, keyword_eq h, port_eq h, ← List.append_assoc other.gap,
    ← List.append_assoc e.gap] at hText
  exact List.append_cancel_right (List.append_cancel_left hText)

/-- The blanks in front of a host can be given to the gap. -/
theorem exists_isSettled (e : Spelling) :
    ∃ other : Spelling, other.toChars = e.toChars ∧ IsSettled other.host ∧
      e.gap.length ≤ other.gap.length := by
  obtain ⟨keyword, gap, host, port, hGap, hBlanks, isHost, hPort, hDigits⟩ := e
  induction host generalizing gap with
  | nil => exact absurd rfl isHost.ne_nil
  | cons c rest ih =>
      by_cases hBlank : Text.isAsciiBlank c = true
      · by_cases hRest : rest = []
        · subst hRest
          exact ⟨⟨keyword, gap, [c], port, hGap, hBlanks, isHost, hPort, hDigits⟩, rfl,
            .inr ⟨c, hBlank, rfl⟩, Nat.le_refl _⟩
        · obtain ⟨other, hText, hSettled, hLength⟩ := ih (gap ++ [c]) (by simp)
            (by simpa [or_imp, forall_and] using ⟨hBlanks, hBlank⟩) (isHost.of_cons hBlank hRest)
          exact ⟨other, by simpa [toChars] using hText, hSettled, Nat.le_trans (by simp) hLength⟩
      · refine ⟨⟨keyword, gap, c :: rest, port, hGap, hBlanks, isHost, hPort, hDigits⟩, rfl,
          .inl (isHost.isTold ?_), Nat.le_refl _⟩
        simpa using hBlank

/-- The gap is longest exactly when the host leaves nothing to it. -/
theorem isLongest_iff : e.IsLongest ↔ IsSettled e.host := by
  constructor
  · intro hLongest
    obtain ⟨other, hText, hSettled, hLength⟩ := e.exists_isSettled
    have hSame := Nat.le_antisymm (hLongest other hText) hLength
    rwa [← (List.append_inj (gap_append_host_eq hText) hSame).2]
  · intro hSettled other hText
    -- A longer gap would take the first character of the host, which is no blank or all of it.
    rcases List.append_eq_append_iff.mp (gap_append_host_eq hText) with
      ⟨left, hGap, -⟩ | ⟨taken, hGap, hHost⟩
    · simp [hGap]
    · cases taken with
      | nil => simp [hGap]
      | cons c taken =>
          have hBlank : Text.isAsciiBlank c = true := other.gap_blank c (by simp [hGap])
          rcases hSettled with hTold | ⟨d, -, hSingle⟩
          · have hFilled := hTold.not_isAsciiBlank_of_mem_head? [] c (by simp [hHost])
            rw [hBlank] at hFilled
            cases hFilled
          · rw [hSingle, List.cons_append] at hHost
            have hNone := (List.append_eq_nil_iff.mp (List.cons.inj hHost).2.symm).2
            exact absurd hNone other.isHost.ne_nil

end Spelling

theorem bracketed?_eq_some {s host port : List Char} (h : bracketed? s = some (host, port)) :
    s = host ++ ':' :: port ∧ IsBracketed host ∧ isPort port = true := by
  unfold bracketed? at h
  split at h
  next rest =>
    split at h
    next port' hDrop =>
      simp only at h
      split at h
      next hBoth =>
        obtain ⟨hInside, hPort⟩ := Bool.and_eq_true_iff.mp hBoth
        simp only [Option.some.injEq, Prod.mk.injEq] at h
        obtain ⟨rfl, rfl⟩ := h
        refine ⟨?_, ⟨rest.takeWhile (· != ']'), by simpa using hInside, ?_, rfl⟩, hPort⟩
        · have hRest := List.takeWhile_append_dropWhile (p := (· != ']')) (l := rest)
          rw [hDrop] at hRest
          simpa using hRest.symm
        · intro hMem
          simpa using List.all_eq_true.mp List.all_takeWhile _ hMem
      next => cases h
    next => cases h
  next => cases h

theorem plain?_eq_some {s host port : List Char} (h : plain? s = some (host, port)) :
    s = host ++ ':' :: port ∧ IsPlain host ∧ isPort port = true := by
  unfold plain? at h
  split at h
  next port' hDrop =>
    simp only at h
    split at h
    next hBoth =>
      obtain ⟨hHost, hPort⟩ := Bool.and_eq_true_iff.mp hBoth
      obtain ⟨hSome, hBracket⟩ := Bool.and_eq_true_iff.mp hHost
      simp only [Option.some.injEq, Prod.mk.injEq] at h
      obtain ⟨rfl, rfl⟩ := h
      refine ⟨?_, ⟨by simpa using hSome, fun hMem => ?_, by simpa using hBracket⟩, hPort⟩
      · have hText := List.takeWhile_append_dropWhile (p := (· != ':')) (l := s)
        rw [hDrop] at hText
        exact hText.symm
      · simpa using List.all_eq_true.mp List.all_takeWhile _ hMem
    next => cases h
  next => cases h

/-- What is read behind a keyword is a host behind all the blanks, or the last of several blanks. -/
theorem address?_eq_some {blanks s host port : List Char}
    (h : address? blanks s = some (host, port)) (hBlanks : ∀ c ∈ blanks, Text.isAsciiBlank c = true)
    (hFilled : ∀ c ∈ s.head?, Text.isAsciiBlank c = false) :
    ∃ gap, gap ≠ [] ∧ (∀ c ∈ gap, Text.isAsciiBlank c = true) ∧
      blanks ++ s = gap ++ (host ++ ':' :: port) ∧ IsSettled host ∧ isPort port = true := by
  unfold address? at h
  split at h
  · cases h
  next hSome =>
    rw [List.isEmpty_iff] at hSome
    split at h
    next found hFound =>
      obtain rfl := Option.some.inj h
      rcases Option.or_eq_some_iff.mp hFound with hBracketed | ⟨-, hPlain⟩
      · obtain ⟨hText, hHost, hPort⟩ := bracketed?_eq_some hBracketed
        exact ⟨blanks, hSome, hBlanks, by rw [hText], .inl (.inr hHost), hPort⟩
      · obtain ⟨hText, hHost, hPort⟩ := plain?_eq_some hPlain
        have hTold : IsTold host := IsHost.isTold (.inr hHost) fun c hc =>
          hFilled c (by rw [hText]; exact List.mem_head?_append_of_mem_head? hc)
        exact ⟨blanks, hSome, hBlanks, by rw [hText], .inl hTold, hPort⟩
    next =>
      split at h
      next last second front port' hReverse _ =>
        split at h
        next hPort =>
          simp only [Option.some.injEq, Prod.mk.injEq] at h
          obtain ⟨rfl, rfl⟩ := h
          have hSplit : blanks = (second :: front).reverse ++ [last] := by
            rw [← List.reverse_reverse blanks, hReverse, List.reverse_cons]
          rw [hSplit] at hBlanks
          refine ⟨(second :: front).reverse, by simp, fun c hc => ?_, by simp [hSplit],
            .inr ⟨last, hBlanks last (by simp), rfl⟩, hPort⟩
          exact hBlanks c (List.mem_append_left _ hc)
        next => cases h
      next => cases h

/-- The spelling with the longest gap is read. -/
theorem ofChars?_toChars {e : Spelling} (h : IsSettled e.host) :
    ofChars? e.toChars = some e.server := by
  rcases h with hTold | ⟨c, hBlank, hHost⟩
  · rw [Spelling.toChars, ofChars?_append e.keyword e.gap_nonempty e.gap_blank
      (hTold.not_isAsciiBlank_of_mem_head? _), hTold.address?_eq e.gap_nonempty e.isPort]
    rfl
  · have hText : e.toChars = e.keyword.word.toList ++ ((e.gap ++ [c]) ++ ':' :: e.port) := by
      simp [Spelling.toChars, hHost]
    have hAddress : address? (e.gap ++ [c]) (':' :: e.port) = some ([c], e.port) := by
      obtain ⟨last, front, hGap⟩ := List.exists_cons_of_ne_nil
        (List.reverse_ne_nil_iff.mpr e.gap_nonempty)
      simp [address?, bracketed?, plain?, hGap, e.isPort]
    rw [hText, ofChars?_append e.keyword (by simp)
      (by simpa [or_imp, forall_and] using ⟨e.gap_blank, hBlank⟩) (by simp [Text.isAsciiBlank]),
      hAddress, Spelling.server, hHost]
    rfl

theorem exists_spelling_of_ofChars? {s : List Char} {server : Server}
    (h : ofChars? s = some server) :
    ∃ e : Spelling, e.toChars = s ∧ IsSettled e.host ∧ server = e.server := by
  unfold ofChars? at h
  simp only at h
  split at h
  next k hWord =>
    obtain ⟨⟨host, port⟩, hAddress, rfl⟩ := Option.map_eq_some_iff.mp h
    have hFilled : ∀ c ∈ ((s.dropWhile fun c => !Text.isAsciiBlank c).dropWhile
        Text.isAsciiBlank).head?, Text.isAsciiBlank c = false := by
      intro c hc
      simpa [Option.mem_def.mp hc] using List.head?_dropWhile_not Text.isAsciiBlank
        (s.dropWhile fun c => !Text.isAsciiBlank c)
    obtain ⟨gap, hGap, hBlanks, hText, hSettled, hPort⟩ :=
      address?_eq_some hAddress (List.all_eq_true.mp List.all_takeWhile) hFilled
    obtain ⟨hSome, hDigits⟩ := isPort_iff.mp hPort
    refine ⟨⟨k, gap, host, port, hGap, hBlanks, hSettled.isHost, hSome, hDigits⟩, ?_, hSettled, rfl⟩
    rw [Spelling.toChars, ← hText, List.takeWhile_append_dropWhile,
      ← Keyword.read?_eq_some_iff.mp hWord, List.takeWhile_append_dropWhile]
  next => cases h

theorem exists_spelling_of_read? {text : String} {server : Server}
    (h : read? text = some server) : ∃ e : Spelling, e.toChars = Text.strip text.toList ∧
      IsSettled e.host ∧ server = e.server :=
  exists_spelling_of_ofChars? h

/-- What is read from an entry has a port of ASCII digits. -/
theorem isPort_of_read? {text : String} {s : Server} (h : read? text = some s) :
    isPort s.port.toList = true := by
  obtain ⟨e, -, -, rfl⟩ := exists_spelling_of_read? h
  rw [Spelling.server, String.toList_ofList]
  exact e.isPort

/-- An entry is read back as what it was made of; its keyword tells the scheme. -/
theorem IsSettled.read?_compose {host port : List Char} (h : IsSettled host)
    (hPort : isPort port = true) (k : Keyword) : read? (String.ofList (compose k host port)) =
      some ⟨some k.scheme.name, some (String.ofList host), String.ofList port⟩ := by
  obtain ⟨hSome, hDigits⟩ := isPort_iff.mp hPort
  have hRead := ofChars?_toChars (e := ⟨k, [' '], host, port, by simp, by simp [Text.isAsciiBlank],
    h.isHost, hSome, hDigits⟩) h
  rw [read?, String.toList_ofList, strip_compose k host hPort]
  exact hRead

theorem IsBare.read?_compose {host port : List Char} (h : IsBare host) (hPort : isPort port = true)
    (k : Keyword) : read? (String.ofList (compose k host port)) =
      some ⟨some k.scheme.name, some (String.ofList host), String.ofList port⟩ :=
  IsSettled.read?_compose (.inl (.inl h)) hPort k

/-- A text is read exactly when an entry can be spelled out that is the text without the blanks at its
ends. All such spellings have the scheme and the port of what is read, and the one with the longest
gap has its host. -/
theorem read?_eq_some_iff_isLongest (text : String) :
    ((read? text).isSome ↔ ∃ e : Spelling, e.toChars = Text.strip text.toList) ∧
    (∀ s, read? text = some s ↔
      ∃ e : Spelling, e.toChars = Text.strip text.toList ∧ e.IsLongest ∧ s = e.server) ∧
    ∀ e : Spelling, e.toChars = Text.strip text.toList →
      ∃ host, read? text = some ⟨some e.keyword.scheme.name, host, String.ofList e.port⟩ := by
  have hSettled : ∀ e : Spelling, e.toChars = Text.strip text.toList → IsSettled e.host →
      read? text = some e.server := by
    intro e hText hHost
    rw [read?, ← hText, ofChars?_toChars hHost]
  have hRead : ∀ e : Spelling, e.toChars = Text.strip text.toList →
      ∃ host, read? text = some ⟨some e.keyword.scheme.name, host, String.ofList e.port⟩ := by
    intro e hText
    obtain ⟨other, hSame, hHost, -⟩ := e.exists_isSettled
    refine ⟨some (String.ofList other.host), ?_⟩
    rw [hSettled other (hSame.trans hText) hHost, Spelling.server, Spelling.keyword_eq hSame,
      Spelling.port_eq hSame]
  refine ⟨⟨fun hSome => ?_, fun ⟨e, hText⟩ => ?_⟩, fun s => ⟨fun h => ?_, ?_⟩, hRead⟩
  · obtain ⟨s, h⟩ := Option.isSome_iff_exists.mp hSome
    obtain ⟨e, hText, -, -⟩ := exists_spelling_of_read? h
    exact ⟨e, hText⟩
  · obtain ⟨host, h⟩ := hRead e hText
    rw [h]
    rfl
  · obtain ⟨e, hText, hHost, hServer⟩ := exists_spelling_of_read? h
    exact ⟨e, hText, Spelling.isLongest_iff.mpr hHost, hServer⟩
  · rintro ⟨e, hText, hLongest, rfl⟩
    exact hSettled e hText (Spelling.isLongest_iff.mp hLongest)

/-- Where no host is left behind the gap, its last blank is the host, and no longer gap can be spelled
out. -/
theorem read?_eq_some_iff_isLongest_blankHost :
    ∃ e : Spelling, e.toChars = Text.strip "\u00a0SOCKS \t\n:080 ".toList ∧ e.IsLongest ∧
      e.server = ⟨some "socks5", some "\n", "080"⟩ ∧
      ∃ host, read? "\u00a0SOCKS \t\n:080 " =
        some ⟨some e.keyword.scheme.name, host, String.ofList e.port⟩ := by
  obtain ⟨-, hRead, hParts⟩ := read?_eq_some_iff_isLongest "\u00a0SOCKS \t\n:080 "
  obtain ⟨e, hText, hLongest, hServer⟩ := (hRead ⟨some "socks5", some "\n", "080"⟩).mp (by decide)
  exact ⟨e, hText, hLongest, hServer.symm, hParts e hText⟩

end Entry

end ProxyRouting
