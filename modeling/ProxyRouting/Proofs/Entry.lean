import ProxyRouting.Entry
import ProxyRouting.Proofs.Text.Numeral

/-! Reading the entries that announce servers. The host and the port of an entry are found behind its
keyword when the host has no marks of its own or stands between brackets. -/
namespace ProxyRouting

/-- The scheme that is read from the entry of a server. Servers of QUIC are announced as plain
proxies, and the keyword of the fourth version of SOCKS is read as the fifth one. -/
def Scheme.announced : Scheme → Scheme
  | quic => http
  | socks4 => socks5
  | scheme => scheme

theorem Keyword.scheme_announcing_name (scheme : Scheme) :
    (announcing (Text.lower scheme.name.toList)).scheme = scheme.announced := by
  cases scheme <;> decide

namespace Entry

/-- The characters of the entry of a host and a port. -/
def compose (k : Keyword) (host port : List Char) : List Char :=
  k.word.toList ++ ' ' :: (host ++ ':' :: port)

/-- What tells a host that stands without brackets in an entry: it has characters, none of them a
colon or an opening bracket, and the first one is no blank. -/
structure IsBare (host : List Char) : Prop where
  nonempty : host ≠ []
  noColon : ':' ∉ host
  noBracket : '[' ∉ host
  noBlank : ∀ c ∈ host.head?, Text.isAsciiBlank c = false

theorem IsBare.bracketed?_eq_none {host port : List Char} (h : IsBare host) :
    bracketed? (host ++ ':' :: port) = none := by
  cases host with
  | nil => exact absurd rfl h.nonempty
  | cons c rest =>
      have hc : c ≠ '[' := fun hEq => h.noBracket (hEq ▸ List.mem_cons_self)
      unfold bracketed?
      split
      next hText =>
        simp only [List.cons_append, List.cons.injEq] at hText
        exact absurd hText.1 hc
      next => rfl

theorem IsBare.plain?_eq {host port : List Char} (h : IsBare host) (hPort : isPort port = true) :
    plain? (host ++ ':' :: port) = some (host, port) := by
  have hBefore := Text.bne_of_not_mem h.noColon
  have hDrop : (host ++ ':' :: port).dropWhile (· != ':') = ':' :: port := by
    rw [List.dropWhile_append_of_pos hBefore]
    rfl
  have hTake : (host ++ ':' :: port).takeWhile (· != ':') = host := by
    rw [List.takeWhile_append_of_pos hBefore]
    simp
  unfold plain?
  simp [hDrop, hTake, h.nonempty, h.noBracket, hPort]

theorem IsBare.address?_eq {gap host port : List Char} (h : IsBare host) (hGap : gap ≠ [])
    (hPort : isPort port = true) : address? gap (host ++ ':' :: port) = some (host, port) := by
  unfold address?
  simp [hGap, h.bracketed?_eq_none, h.plain?_eq hPort]

/-- What tells a host that stands between brackets in an entry. -/
def IsBracketed (host : List Char) : Prop :=
  ∃ inside, inside ≠ [] ∧ ']' ∉ inside ∧ host = '[' :: (inside ++ [']'])

theorem IsBracketed.bracketed?_eq {host port : List Char} (h : IsBracketed host)
    (hPort : isPort port = true) : bracketed? (host ++ ':' :: port) = some (host, port) := by
  obtain ⟨inside, hNe, hClose, rfl⟩ := h
  have hBefore := Text.bne_of_not_mem hClose
  have hDrop : (inside ++ ']' :: ':' :: port).dropWhile (· != ']') = ']' :: ':' :: port := by
    rw [List.dropWhile_append_of_pos hBefore]
    rfl
  have hTake : (inside ++ ']' :: ':' :: port).takeWhile (· != ']') = inside := by
    rw [List.takeWhile_append_of_pos hBefore]
    simp
  have hText : '[' :: (inside ++ [']']) ++ ':' :: port = '[' :: (inside ++ ']' :: ':' :: port) := by
    simp
  rw [hText]
  unfold bracketed?
  simp [hDrop, hTake, hNe, hPort]

theorem IsBracketed.address?_eq {gap host port : List Char} (h : IsBracketed host)
    (hGap : gap ≠ []) (hPort : isPort port = true) :
    address? gap (host ++ ':' :: port) = some (host, port) := by
  unfold address?
  simp [hGap, h.bracketed?_eq hPort]

/-- A host that is told from the colon and the port behind it: it is bare or stands between
brackets. -/
def IsTold (host : List Char) : Prop := IsBare host ∨ IsBracketed host

theorem IsTold.address?_eq {gap host port : List Char} (h : IsTold host) (hGap : gap ≠ [])
    (hPort : isPort port = true) : address? gap (host ++ ':' :: port) = some (host, port) := by
  rcases h with hBare | hBracketed
  · exact hBare.address?_eq hGap hPort
  · exact hBracketed.address?_eq hGap hPort

theorem IsTold.not_isAsciiBlank_of_mem_head? {host : List Char} (h : IsTold host)
    (rest : List Char) : ∀ c ∈ (host ++ rest).head?, Text.isAsciiBlank c = false := by
  rcases h with hBare | ⟨inside, -, -, rfl⟩
  · cases host with
    | nil => exact absurd rfl hBare.nonempty
    | cons c host => exact hBare.noBlank
  · intro c hc
    obtain rfl : '[' = c := by simpa using hc
    rfl

theorem not_isAsciiBlank_of_mem_word (k : Keyword) {c : Char} (hc : c ∈ k.word.toList) :
    Text.isAsciiBlank c = false := by
  have hAll : k.word.toList.all (fun c => !Text.isAsciiBlank c) = true := by
    cases k <;> decide
  simpa using List.all_eq_true.mp hAll c hc

/-- Behind its keyword an entry has the host and the port that are read behind the blanks there. -/
theorem ofChars?_append (k : Keyword) {gap s : List Char} (hGap : gap ≠ [])
    (hBlank : ∀ c ∈ gap, Text.isAsciiBlank c = true)
    (hFilled : ∀ c ∈ s.head?, Text.isAsciiBlank c = false) :
    ofChars? (k.word.toList ++ (gap ++ s)) = (address? gap s).map fun (host, port) =>
      ⟨some k.scheme.name, some (String.ofList host), String.ofList port⟩ := by
  have hWord : ∀ c ∈ k.word.toList, (!Text.isAsciiBlank c) = true := fun c hc => by
    simp [not_isAsciiBlank_of_mem_word k hc]
  have hBehind : ∀ c ∈ (gap ++ s).head?, (!Text.isAsciiBlank c) = false := by
    obtain ⟨first, others, rfl⟩ := List.exists_cons_of_ne_nil hGap
    intro c hc
    obtain rfl : first = c := by simpa using hc
    simp [hBlank first List.mem_cons_self]
  unfold ofChars?
  simp only [Text.takeWhile_append_of_head? hWord hBehind,
    Text.dropWhile_append_of_head? hWord hBehind, Text.takeWhile_append_of_head? hBlank hFilled,
    Text.dropWhile_append_of_head? hBlank hFilled, Keyword.read?_eq_some_iff.mpr rfl]

/-- The ends of an entry are a letter and a digit, so that nothing is stripped from it. -/
theorem strip_compose (k : Keyword) (host : List Char) {port : List Char}
    (hPort : isPort port = true) : Text.strip (compose k host port) = compose k host port := by
  simp only [isPort, Bool.and_eq_true] at hPort
  refine Text.strip_eq_self ?_ fun c hc => ?_
  · cases k <;> simp [compose, Keyword.word] <;> decide
  · have hSplit : compose k host port = (k.word.toList ++ ' ' :: host ++ [':']) ++ port := by
      simp [compose]
    have hLast : c ∈ port.getLast? := by
      rw [hSplit, List.getLast?_append] at hc
      cases hEnd : port.getLast? with
      | none => simp [List.getLast?_eq_none_iff.mp hEnd] at hPort
      | some d => simpa [hEnd] using hc
    exact Text.isBlank_of_isDigit (List.all_eq_true.mp hPort.2 c (List.mem_of_getLast? hLast))

end Entry

namespace Server

theorem announce_eq {s : Server} {scheme host : String} (hScheme : s.scheme = some scheme)
    (hHost : s.host = some host) :
    Entry.announce s = .ok (String.ofList (Entry.compose
      (Keyword.announcing (Text.lower scheme.toList)) host.toList s.port.toList)) := by
  have hText : (Keyword.announcing (Text.lower scheme.toList)).word ++ " " ++ s.address =
      String.ofList (Entry.compose (Keyword.announcing (Text.lower scheme.toList)) host.toList
        s.port.toList) := by
    apply String.toList_inj.mp
    simp [Entry.compose, address, hHost, Text.shown]
  rw [Entry.announce, hScheme]
  exact congrArg Except.ok hText

end Server

end ProxyRouting
