import ProxyRouting.Proofs.Pattern.Handling
import ProxyRouting.Proofs.Text.Numeral
import ProxyRouting.Proofs.Work

/-! Which validations have a result. A server is validated whatever its scheme and its host are, and
whatever its port is, unless the port starts with a number of more digits than are read. So manual
servers and rule sets are validated exactly when the servers that are looked at have shorter
numbers. -/
namespace ProxyRouting

/-- One step behind another has a result when both have one. -/
theorem exists_ok_bind_iff {α β : Type} {first : Except Fault α} {next : α → Except Fault β} :
    (∃ b, (first >>= next) = .ok b) ↔ ∃ a, first = .ok a ∧ ∃ b, next a = .ok b := by
  cases first with
  | ok a => simp [bind, Except.bind]
  | error fault => simp [bind, Except.bind]

/-- A step that always has a result decides nothing. -/
theorem exists_ok_bind_iff_left {α β : Type} {first : Except Fault α} {next : α → Except Fault β}
    (hNext : ∀ a, ∃ b, next a = .ok b) :
    (∃ b, (first >>= next) = .ok b) ↔ ∃ a, first = .ok a := by
  rw [exists_ok_bind_iff]
  exact ⟨fun ⟨a, hFirst, _⟩ => ⟨a, hFirst⟩, fun ⟨a, hFirst⟩ => ⟨a, hFirst, hNext a⟩⟩

theorem exists_ok_mapM_iff {α β : Type} {f : α → Except Fault β} {as : List α} :
    (∃ bs, as.mapM f = .ok bs) ↔ ∀ a ∈ as, ∃ b, f a = .ok b := by
  induction as with
  | nil => simp [pure, Except.pure]
  | cons a as ih =>
      rw [List.mapM_cons, exists_ok_bind_iff, List.forall_mem_cons, ← ih]
      constructor
      · rintro ⟨b, hFirst, hOthers⟩
        obtain ⟨bs, hRest, -⟩ := exists_ok_bind_iff.mp hOthers
        exact ⟨⟨b, hFirst⟩, bs, hRest⟩
      · rintro ⟨⟨b, hFirst⟩, bs, hRest⟩
        exact ⟨b, hFirst, exists_ok_bind_iff.mpr ⟨bs, hRest, b :: bs, rfl⟩⟩

namespace Server

/-- Digits stand at the front of a text, behind blanks and a sign, if there are any. -/
def NumberLeads (digits s : List Char) : Prop :=
  ∃ blanks sign rest, s = blanks ++ (sign ++ (digits ++ rest)) ∧
    (∀ c ∈ blanks, Text.isAsciiBlank c = true) ∧ sign ∈ [[], ['+'], ['-']] ∧
    ∀ c ∈ digits, c.isDigit = true

/-- The number in front of the port has no more digits than are read. -/
def HasShortPort (s : Server) : Prop :=
  ∀ digits, NumberLeads digits s.port.toList → digits.length ≤ Text.maxDigits

theorem not_isAsciiBlank_of_isDigit {c : Char} (h : c.isDigit = true) :
    Text.isAsciiBlank c = false := by
  refine Bool.eq_false_iff.mpr fun hAscii => ?_
  have hBlank := Text.isBlank_of_isDigit h
  rw [Text.isBlank_of_isAsciiBlank hAscii] at hBlank
  cases hBlank

theorem numberLeads_of_leadingNumber? {s digits : List Char} {negative : Bool}
    (h : leadingNumber? s = some (negative, digits)) : NumberLeads digits s := by
  have hSigned : ∀ sign body, s.dropWhile Text.isAsciiBlank = sign ++ body →
      sign ∈ [[], ['+'], ['-']] → body.takeWhile Char.isDigit = digits → NumberLeads digits s := by
    rintro sign body hBody hSign rfl
    refine ⟨s.takeWhile Text.isAsciiBlank, sign, body.dropWhile Char.isDigit, ?_,
      List.all_eq_true.mp List.all_takeWhile, hSign, List.all_eq_true.mp List.all_takeWhile⟩
    rw [List.takeWhile_append_dropWhile, ← hBody, List.takeWhile_append_dropWhile]
  unfold leadingNumber? at h
  dsimp only at h
  split at h
  next rest hRest =>
    split at h
    · cases h
    · cases h
      exact hSigned ['-'] rest hRest (by decide) rfl
  next rest hRest =>
    split at h
    · cases h
    · cases h
      exact hSigned ['+'] rest hRest (by decide) rfl
  next =>
    split at h
    · cases h
    · cases h
      exact hSigned [] _ rfl (by decide) rfl

theorem leadingNumber?_append {blanks sign body : List Char}
    (hBlanks : ∀ c ∈ blanks, Text.isAsciiBlank c = true) (hSign : sign ∈ [[], ['+'], ['-']])
    (hDigit : ∃ c ∈ body.head?, c.isDigit = true) :
    ∃ negative, leadingNumber? (blanks ++ (sign ++ body)) =
      some (negative, body.takeWhile Char.isDigit) := by
  obtain ⟨c, hHead, hc⟩ := hDigit
  obtain ⟨rest, rfl⟩ := List.head?_eq_some_iff.mp hHead
  have hBlank := not_isAsciiBlank_of_isDigit hc
  have hSome : ((c :: rest).takeWhile Char.isDigit).isEmpty = false := by
    rw [List.takeWhile_cons_of_pos hc]
    rfl
  rw [leadingNumber?, List.dropWhile_append_of_pos hBlanks]
  simp only [List.mem_cons, List.not_mem_nil, or_false] at hSign
  rcases hSign with rfl | rfl | rfl
  · rw [List.nil_append, List.dropWhile_cons_of_neg (by simp [hBlank])]
    have hPlus : c ≠ '+' := by
      rintro rfl
      exact absurd hc (by decide)
    have hMinus : c ≠ '-' := by
      rintro rfl
      exact absurd hc (by decide)
    exact ⟨false, by simp [hPlus, hMinus, hSome]⟩
  · exact ⟨false, by simp [Text.isAsciiBlank, hSome]⟩
  · exact ⟨true, by simp [Text.isAsciiBlank, hSome]⟩

/-- The number that is read is the longest one that leads the text. -/
theorem hasShortPort_iff {s : Server} :
    s.HasShortPort ↔ ∀ negative digits,
      leadingNumber? s.port.toList = some (negative, digits) → digits.length ≤ Text.maxDigits := by
  constructor
  · exact fun h negative digits hRead => h digits (numberLeads_of_leadingNumber? hRead)
  · rintro h digits ⟨blanks, sign, rest, hPort, hBlanks, hSign, hDigits⟩
    cases digits with
    | nil => exact Nat.zero_le _
    | cons c more =>
        have hDigit : ∃ x ∈ (c :: more ++ rest).head?, x.isDigit = true :=
          ⟨c, rfl, hDigits c List.mem_cons_self⟩
        obtain ⟨negative, hRead⟩ := leadingNumber?_append hBlanks hSign hDigit
        rw [← hPort] at hRead
        have hLonger := h negative _ hRead
        rw [List.takeWhile_append_of_pos hDigits, List.length_append] at hLonger
        exact Nat.le_trans (Nat.le_add_right _ _) hLonger

theorem exists_ok_checkPort_iff (s : Server) (label : String) :
    (∃ report, s.checkPort label = .ok report) ↔ s.HasShortPort := by
  rw [hasShortPort_iff, checkPort]
  split
  next hPort => simp [hPort, leadingNumber?]
  next =>
    cases hRead : leadingNumber? s.port.toList with
    | none => simp
    | some number =>
        obtain ⟨negative, digits⟩ := number
        dsimp only
        split
        next hLong =>
          refine iff_of_false (fun ⟨_, hReport⟩ => by cases hReport) fun h => ?_
          exact Nat.not_lt.mpr (h negative digits rfl) hLong
        next hShort =>
          refine iff_of_true ⟨_, rfl⟩ ?_
          rintro _ _ ⟨⟩
          exact Nat.not_lt.mp hShort

/-- A server is validated exactly when the number in front of its port is short enough. -/
theorem exists_ok_validate_iff {s : Server} {label : String} :
    (∃ report, s.validate label = .ok report) ↔ s.HasShortPort :=
  (exists_ok_bind_iff_left fun _ => ⟨_, rfl⟩).trans (exists_ok_checkPort_iff s label)

end Server

namespace ManualServers

theorem exists_ok_bypassReport {entries : List (Option String)}
    (h : ∀ entry ∈ entries, entry.isSome) (number : Nat) :
    ∃ report, bypassReport number entries = .ok report := by
  induction entries generalizing number with
  | nil => exact ⟨_, rfl⟩
  | cons entry rest ih =>
      cases entry with
      | none => cases h none List.mem_cons_self
      | some host =>
          rw [bypassReport]
          exact (exists_ok_bind_iff_left fun _ => ⟨_, rfl⟩).mpr
            (ih (fun e he => h e (List.mem_cons_of_mem _ he)) (number + 1))

theorem exists_ok_validate_iff {m : ManualServers} (hBypass : ∀ entry ∈ m.bypass, entry.isSome) :
    (∃ report, m.validate = .ok report) ↔ ∀ entry ∈ m.filled, entry.2.HasShortPort := by
  unfold validate
  split
  next hNone =>
    rw [List.isEmpty_iff.mp hNone]
    simp
  next =>
    have hServers : (∃ reports, (m.filled.mapM fun entry => entry.2.validate entry.1.label) =
        .ok reports) ↔ ∀ entry ∈ m.filled, entry.2.HasShortPort := by
      rw [exists_ok_mapM_iff]
      exact forall₂_congr fun entry _ => Server.exists_ok_validate_iff
    refine (exists_ok_bind_iff_left fun _ => ?_).trans hServers
    exact (exists_ok_bind_iff_left fun _ => ⟨_, rfl⟩).mpr (exists_ok_bypassReport hBypass 1)

end ManualServers

/-- The server that a route is checked with has a short number in front of its port. -/
def Route.HasShortPort (r : Route) : Prop :=
  r.kind? = some .inline → ∀ server ∈ r.server, server.HasShortPort

theorem Route.exists_ok_validate_iff (r : Route) (profiles : List Profile) (label : String) :
    (∃ report, r.validate profiles label = .ok report) ↔ r.HasShortPort := by
  unfold validate HasShortPort
  cases hKind : r.kind? with
  | none => simp
  | some kind =>
      cases kind with
      | direct => simp
      | existing => simp
      | inline =>
          cases hServer : r.server with
          | none => simp
          | some server => simpa using Server.exists_ok_validate_iff

namespace Rule

/-- The pattern of a rule that is no regular expression is always checked. -/
theorem isAnsweredIff_validate {r : Rule} (profiles : List Profile)
    (hGrammar : Grammar.named? r.grammar ≠ some .regex) :
    Work.IsAnsweredIff (r.validate profiles) r.route.HasShortPort := by
  obtain ⟨problem, hProblem⟩ :=
    exists_ok_patternProblem?_iff.mpr fun h : PatternOverreaches r.pattern r.grammar =>
      hGrammar h.1
  have hPattern : Work.IsAnswered r.validatePattern := by
    refine (Work.isAnswered_of_ok hProblem).bind fun found => ?_
    cases found with
    | none => exact Work.isAnswered_pure _
    | some problem => exact (Desk.isAnswered_note _).bind fun _ => Work.isAnswered_pure _
  have hRoute := (Work.isAnsweredIff_of_except (r.route.validate profiles "Inline proxy")).congr
    (r.route.exists_ok_validate_iff profiles "Inline proxy")
  exact hPattern.bind_isAnsweredIff fun _ => hRoute.bind_isAnswered fun _ => Work.isAnswered_pure _

end Rule

namespace RuleSet

theorem isAnsweredIff_validateRules (profiles : List Profile) {rules : List Rule}
    (hGrammar : ∀ r ∈ rules, Grammar.named? r.grammar ≠ some .regex) (number : Nat) :
    Work.IsAnsweredIff (validateRules profiles number rules)
      (∀ r ∈ rules, r.route.HasShortPort) := by
  induction rules generalizing number with
  | nil => exact (Work.isAnswered_pure _).isAnsweredIff.congr (by simp)
  | cons r rules ih =>
      obtain ⟨hFirst, hRest⟩ := List.forall_mem_cons.mp hGrammar
      rw [List.forall_mem_cons]
      exact (Rule.isAnsweredIff_validate profiles hFirst).bind fun _ =>
        (ih hRest (number + 1)).bind_isAnswered fun _ => Work.isAnswered_pure _

theorem exists_ok_validateFallback_iff {s : RuleSet} {profiles : List Profile} :
    (∃ report, s.validateFallback profiles = .ok report) ↔ s.fallback.HasShortPort :=
  (exists_ok_bind_iff_left fun _ => ⟨_, rfl⟩).trans
    (s.fallback.exists_ok_validate_iff profiles "Fallback proxy")

theorem isAnsweredIff_validate {s : RuleSet} (profiles : List Profile)
    (hGrammar : ∀ r ∈ s.rules, Grammar.named? r.grammar ≠ some .regex) :
    Work.IsAnsweredIff (s.validate profiles)
      ((∀ r ∈ s.rules, r.route.HasShortPort) ∧ s.fallback.HasShortPort) :=
  (isAnsweredIff_validateRules profiles hGrammar 1).bind fun _ =>
    ((Work.isAnsweredIff_of_except _).congr exists_ok_validateFallback_iff).bind_isAnswered
      fun _ => (Desk.isAnswered_noteFailure _ _).bind fun _ => Work.isAnswered_pure _

end RuleSet

/-- The servers that a profile is checked with have short numbers in front of their ports. -/
def Profile.HasShortPorts (p : Profile) : Prop :=
  ∀ servers ∈ p.servers, ∀ entry ∈ servers.filled, entry.2.HasShortPort

theorem Profile.isAnsweredIff_validateMode {p : Profile} (w : Workplace)
    (hMode : p.mode? = some .fixedServers)
    (hBypass : ∀ servers ∈ p.servers, ∀ entry ∈ servers.bypass, entry.isSome) :
    Work.IsAnsweredIff (p.validateMode w) p.HasShortPorts := by
  unfold validateMode HasShortPorts
  rw [hMode]
  cases hServers : p.servers with
  | none => exact (Work.isAnswered_pure _).isAnsweredIff.congr (by simp)
  | some servers =>
      have hValidated := ManualServers.exists_ok_validate_iff (hBypass servers hServers)
      exact (Work.isAnsweredIff_of_except _).congr (by simpa using hValidated)

/-- A server is validated exactly when the number in front of its port is short enough to be read.
So are profiles with manual servers, and rule sets without regular expressions, wherever nobody
objects to what is recorded. -/
theorem validated_iff_hasShortPort (s : Server) (label : String) (p : Profile) (w : Workplace)
    (rules : RuleSet) (profiles : List Profile) (d : Desk) :
    ((∃ report, s.validate label = .ok report) ↔ s.HasShortPort) ∧
    (d.IsQuiet → p.mode? = some .fixedServers →
      (∀ servers ∈ p.servers, ∀ entry ∈ servers.bypass, entry.isSome) →
      ((∃ report after, (p.validate w).run.run d = (.ok report, after)) ↔ p.HasShortPorts)) ∧
    (d.IsQuiet → (∀ r ∈ rules.rules, Grammar.named? r.grammar ≠ some .regex) →
      ((∃ report after, (rules.validate profiles).run.run d = (.ok report, after)) ↔
        (∀ r ∈ rules.rules, r.route.HasShortPort) ∧ rules.fallback.HasShortPort)) := by
  refine ⟨Server.exists_ok_validate_iff, fun hQuiet hMode hBypass => ?_,
    fun hQuiet hGrammar => ?_⟩
  · exact (Profile.isAnsweredIff_validate
      (Profile.isAnsweredIff_validateMode w hMode hBypass)).exists_iff hQuiet
  · exact (RuleSet.isAnsweredIff_validate profiles hGrammar).exists_iff hQuiet

/-- A server whose port has one digit more than is read. -/
def longPort : Server :=
  ⟨some "http", some "proxy.corp", String.ofList (List.replicate (Text.maxDigits + 1) '1')⟩

/-- The port is not called out of range: the server is not validated at all. -/
theorem longPort_is_not_validated : ¬ ∃ report, longPort.validate "Proxy" = .ok report := by
  rw [Server.exists_ok_validate_iff]
  intro hShort
  have hLeads : Server.NumberLeads (List.replicate (Text.maxDigits + 1) '1')
      longPort.port.toList := by
    refine ⟨[], [], [], by simp [longPort], by simp, by simp, fun c hc => ?_⟩
    rw [List.eq_of_mem_replicate hc]
    rfl
  have hLength := hShort _ hLeads
  rw [List.length_replicate] at hLength
  exact Nat.not_succ_le_self _ hLength

/-- A server whose port has more to it than its number. -/
def officeServer : Server := ⟨some "http", some "proxy.corp", " +8080/tcp"⟩

/-- A profile with one manual server. -/
def Profile.office : Profile where
  id := some "p1"
  name := some "Office"
  color := some "#3b82f6"
  mode := some Mode.fixedServers.name
  script := none
  servers := some ⟨some officeServer, none, none, none, none, []⟩
  isActive := false
  quickSwitch := false
  ruleSet := none

/-- A rule set without rules. -/
def RuleSet.officeOnly : RuleSet := ⟨[], ⟨some RouteKind.inline.name, some officeServer, none⟩⟩

theorem validated_iff_hasShortPort_office :
    (∃ report, officeServer.validate "Proxy" = .ok report) ∧
    (∃ report after, (Profile.office.validate ⟨.standard, none⟩).run.run .plain =
      (.ok report, after)) ∧
    ∃ report after, (RuleSet.officeOnly.validate []).run.run .plain = (.ok report, after) := by
  have hQuiet : Desk.plain.IsQuiet := fun j hj => by cases hj
  have hPort : officeServer.HasShortPort := by
    rw [Server.hasShortPort_iff]
    intro negative digits hRead
    cases hRead
    decide
  obtain ⟨hServer, hProfile, hRules⟩ := validated_iff_hasShortPort officeServer "Proxy"
    Profile.office ⟨.standard, none⟩ RuleSet.officeOnly [] .plain
  refine ⟨hServer.mpr hPort, (hProfile hQuiet (by decide) ?_).mpr ?_,
    (hRules hQuiet ?_).mpr ⟨?_, ?_⟩⟩
  · rintro _ ⟨⟩ entry hEntry
    cases hEntry
  · rintro _ ⟨⟩ entry hEntry
    obtain rfl := List.mem_singleton.mp hEntry
    exact hPort
  · intro r hr
    cases hr
  · intro r hr
    cases hr
  · rintro - _ ⟨⟩
    exact hPort

end ProxyRouting
