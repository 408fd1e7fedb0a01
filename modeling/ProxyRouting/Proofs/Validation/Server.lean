import ProxyRouting.Proofs.Entry.Spelling
import ProxyRouting.Proofs.Validation.Host
import ProxyRouting.Validation.Server

/-! Servers without errors. Each has a valid host and a scheme that is known, so that it can be
announced, and the entry that announces it is read back as the same host and port when the port is
nothing but its number. The check of a port looks at the number in front of it only. -/
namespace ProxyRouting

namespace Host

/-- A valid host without colons stands in an entry without brackets. -/
theorem isBare {host : List Char} (h : isValid host = true) (hColon : ':' ∉ host) :
    Entry.IsBare host := by
  have hMarks := List.all_eq_true.mp (all_isMark h)
  refine ⟨ne_nil h, hColon, fun hBracket => ?_, fun c hc => ?_⟩
  · exact absurd (hMarks _ hBracket) (by decide)
  · have hBlank := not_isBlank_of_isMark (hMarks c (List.mem_of_head? hc))
    refine Bool.eq_false_iff.mpr fun hAscii => ?_
    rw [Text.isBlank_of_isAsciiBlank hAscii] at hBlank
    cases hBlank

end Host

namespace Server

theorem exists_host_of_hostProblem? {s : Server} (h : s.hostProblem? = none) :
    ∃ host, s.host = some host ∧ Host.isValid host.toList = true := by
  unfold hostProblem? at h
  cases hHost : s.host with
  | none => simp [hHost, isVacant] at h
  | some host =>
      refine ⟨host, rfl, ?_⟩
      split at h
      · cases h
      · split at h
        next hValid => simpa [hHost, Text.shown] using hValid
        next => cases h

theorem exists_scheme_of_checkScheme {s : Server} {label : String}
    (h : (s.checkScheme label).errors = []) : ∃ scheme : Scheme, s.scheme = some scheme.name := by
  unfold checkScheme at h
  cases hScheme : Scheme.named? s.scheme with
  | none => simp [hScheme, Report.error] at h
  | some scheme => exact ⟨scheme, Scheme.named?_eq_some_iff.mp hScheme⟩

/-- What a report without errors says of a server. -/
theorem of_validate {s : Server} {label : String} {report : Report}
    (h : s.validate label = .ok report) (hErrors : report.errors = []) :
    (∃ host, s.host = some host ∧ Host.isValid host.toList = true) ∧
    ∃ scheme : Scheme, s.scheme = some scheme.name := by
  simp only [validate, bind, Except.bind, pure, Except.pure] at h
  split at h
  · cases h
  next port _ =>
    obtain rfl := Except.ok.inj h
    simp only [Report.errors_append, List.append_eq_nil_iff] at hErrors
    obtain ⟨⟨hHost, -⟩, hScheme⟩ := hErrors
    refine ⟨exists_host_of_hostProblem? ?_, exists_scheme_of_checkScheme hScheme⟩
    cases hProblem : s.hostProblem? with
    | none => rfl
    | some problem => simp [hProblem, Report.error] at hHost

/-- A server without errors is announced. If its host is no IPv6 address, the entry is read back as
its host and port exactly when the port is made of digits. -/
theorem read?_announce_of_validate {s : Server} {label : String} {report : Report}
    (h : s.validate label = .ok report) (hErrors : report.errors = []) :
    ∃ host entry, s.host = some host ∧ Entry.announce s = .ok entry ∧
      (':' ∉ host.toList →
        ((∃ t, Entry.read? entry = some t ∧ t.host = s.host ∧ t.port = s.port) ↔
          Entry.isPort s.port.toList = true)) := by
  obtain ⟨⟨host, hHost, hValid⟩, scheme, hScheme⟩ := of_validate h hErrors
  refine ⟨host, _, hHost, announce_eq hScheme hHost, fun hColon => ⟨?_, fun hPort => ?_⟩⟩
  · rintro ⟨t, hRead, -, hPort⟩
    rw [← hPort]
    exact Entry.isPort_of_read? hRead
  · refine ⟨_, (Host.isBare hValid hColon).read?_compose hPort _, ?_, String.ofList_toList⟩
    rw [hHost, String.ofList_toList]

/-- A server whose port has more to it than its number. -/
def trailing : Server := ⟨some "http", some "proxy.corp", "8080abc"⟩

/-- A server whose host has colons, and no brackets to keep them apart from the one in front of the
port. -/
def unbracketed : Server := ⟨some "https", some "fe80::1", "1080"⟩

/-- Both servers pass without errors, and neither is read from the entry that announces it. -/
theorem read?_announce_trailing :
    (trailing.validate "Proxy" = .ok ⟨[], []⟩ ∧
      Entry.announce trailing = .ok "PROXY proxy.corp:8080abc" ∧
      Entry.read? "PROXY proxy.corp:8080abc" = none) ∧
    unbracketed.validate "Proxy" = .ok ⟨[], []⟩ ∧
      Entry.announce unbracketed = .ok "HTTPS fe80::1:1080" ∧
      Entry.read? "HTTPS fe80::1:1080" = none := by
  refine ⟨⟨?_, ?_, ?_⟩, ?_, ?_, ?_⟩
  · rfl
  · rfl
  · decide +kernel
  · rfl
  · rfl
  · decide +kernel

def plainServer : Server := ⟨some "socks4", some "proxy.corp", "1080"⟩

theorem read?_announce_of_validate_plainServer :
    plainServer.validate "Proxy" = .ok ⟨[], []⟩ ∧ ':' ∉ "proxy.corp".toList ∧
    ∃ entry t, Entry.announce plainServer = .ok entry ∧ Entry.read? entry = some t ∧
      t.host = plainServer.host ∧ t.port = plainServer.port := by
  have hReport : plainServer.validate "Proxy" = .ok ⟨[], []⟩ := rfl
  have hColon : ':' ∉ "proxy.corp".toList := by decide +kernel
  obtain ⟨host, entry, hHost, hEntry, hRead⟩ := read?_announce_of_validate hReport rfl
  obtain rfl : "proxy.corp" = host := Option.some.inj hHost
  obtain ⟨t, ht⟩ := (hRead hColon).mpr (by decide +kernel)
  exact ⟨hReport, hColon, entry, t, hEntry, ht⟩

end Server

end ProxyRouting
