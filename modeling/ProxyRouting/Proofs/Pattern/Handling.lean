import ProxyRouting.Pattern.Validity
import ProxyRouting.Proofs.Pattern.Glob
import ProxyRouting.Proofs.Pattern.Refusal
import ProxyRouting.Proofs.Routes

/-! Which patterns are handled. Only a regular expression can keep a pattern from being checked or
matched, and only one that is refused otherwise than as malformed: one whose repetition counts too
far, or whose flags exclude each other. A request has a verdict exactly when no such pattern is
reached. -/
namespace ProxyRouting

/-- A regular expression is refused otherwise than as malformed. -/
def Regex.Overreaches (s : List Char) : Prop :=
  ∃ err, err ≠ .malformed ∧ Regex.read {} s = .error err

/-- A pattern is a regular expression that is refused otherwise than as malformed. -/
def PatternOverreaches (pattern grammar : Option String) : Prop :=
  Grammar.named? grammar = some .regex ∧ ∃ text ∈ pattern, Regex.Overreaches text.toList

namespace Regex

theorem counts_or_mixes_of_overreaches {s : List Char} (h : Overreaches s) :
    CountsTooFar s ∨ MixesFlags s := by
  obtain ⟨err, hErr, hRead⟩ := h
  exact counts_or_mixes_of_read hRead hErr

theorem not_overreaches_of_isEmptyOrBlank {s : List Char} (h : Text.isEmptyOrBlank s = true) :
    ¬ Overreaches s := by
  intro hOver
  have hBlank : ∀ c t, c :: t <:+ s → Text.isBlank c = true := fun c t hSuffix =>
    List.all_eq_true.mp h c (hSuffix.mem List.mem_cons_self)
  rcases counts_or_mixes_of_overreaches hOver with ⟨_, _, hSuffix, _⟩ | ⟨⟨_, _, hSuffix, _⟩, _⟩
  · exact absurd (hBlank _ _ hSuffix) (by decide)
  · exact absurd (hBlank _ _ hSuffix) (by decide)

theorem exists_ok_orMalformed_iff {α : Type} {otherwise : α} {outcome : Except ReadError α} :
    (∃ a, orMalformed otherwise outcome = .ok a) ↔
      ¬ ∃ err, err ≠ .malformed ∧ outcome = .error err := by
  have hRefused : ∀ err fault, Fault.ofReadError? err = some fault →
      ((∃ a, orMalformed otherwise (.error err) = .ok a) ↔
        ¬ ∃ err', err' ≠ .malformed ∧ (.error err : Except ReadError α) = .error err') := by
    intro err fault hFault
    refine iff_of_false (fun ⟨a, ha⟩ => ?_) fun hNot => hNot ⟨err, ?_, rfl⟩
    · rw [orMalformed, hFault] at ha
      cases ha
    · rintro rfl
      cases hFault
  cases outcome with
  | ok a => exact iff_of_true ⟨a, rfl⟩ fun ⟨_, _, hErr⟩ => by cases hErr
  | error err =>
      cases err with
      | malformed =>
          refine iff_of_true ⟨otherwise, rfl⟩ ?_
          rintro ⟨_, hErr, ⟨⟩⟩
          exact hErr rfl
      | countTooLarge => exact hRefused _ _ rfl
      | countTooLong => exact hRefused _ _ rfl
      | incompatibleFlags => exact hRefused _ _ rfl

theorem overreaches_iff_of_map {α : Type} {f : Node → α} {s : List Char} :
    (∃ err, err ≠ ReadError.malformed ∧ (Regex.read {} s).map f = .error err) ↔ Overreaches s := by
  unfold Overreaches
  cases Regex.read {} s with
  | ok node => simp [Except.map]
  | error err => simp [Except.map]

end Regex

/-- A pattern is checked unless it overreaches. -/
theorem exists_ok_patternProblem?_iff {pattern grammar : Option String} :
    (∃ problem, patternProblem? pattern grammar = .ok problem) ↔
      ¬ PatternOverreaches pattern grammar := by
  cases pattern with
  | none => exact iff_of_true ⟨_, rfl⟩ fun ⟨_, _, hNone, _⟩ => by cases hNone
  | some text =>
      simp only [patternProblem?, PatternOverreaches, Option.mem_some_iff, exists_eq_left']
      split
      next hBlank =>
        exact iff_of_true ⟨_, rfl⟩ fun h => Regex.not_overreaches_of_isEmptyOrBlank hBlank h.2
      next =>
        cases hGrammar : Grammar.named? grammar with
        | none => simp
        | some g =>
            cases g with
            | wildcard => exact iff_of_true ⟨_, rfl⟩ fun h => by cases h.1
            | exact => exact iff_of_true ⟨_, rfl⟩ fun h => by cases h.1
            | network => exact iff_of_true ⟨_, rfl⟩ fun h => by cases h.1
            | regex =>
                simp only [Grammar.problem?, true_and]
                rw [Regex.exists_ok_orMalformed_iff, Regex.overreaches_iff_of_map]

/-- A host is compared with a pattern that is there unless the pattern overreaches. -/
theorem exists_ok_patternMatches_iff {text : String} {grammar : Option String} {host : String} :
    (∃ answer, patternMatches (some text) grammar host = .ok answer) ↔
      ¬ PatternOverreaches (some text) grammar := by
  simp only [patternMatches, PatternOverreaches, Option.mem_some_iff, exists_eq_left']
  cases hGrammar : Grammar.named? grammar with
  | none => simp
  | some g =>
      cases g with
      | wildcard =>
          simp only [Grammar.hasMatch, Grammar.matchesText, Wildcard.hasMatch_eq_fits]
          exact iff_of_true ⟨_, rfl⟩ fun h => by cases h.1
      | exact => exact iff_of_true ⟨_, rfl⟩ fun h => by cases h.1
      | network =>
          refine iff_of_true ?_ fun h => by cases h.1
          simp only [Grammar.hasMatch, Grammar.matchesText]
          split
          · exact ⟨_, rfl⟩
          · exact ⟨_, rfl⟩
      | regex =>
          simp only [Grammar.hasMatch, Grammar.matchesText, true_and]
          rw [Regex.exists_ok_orMalformed_iff, Regex.overreaches_iff_of_map]

namespace Rule

/-- The texts of a rule are there: its pattern, and the scheme of a server that it leads to. -/
structure IsTyped (profiles : List Profile) (r : Rule) : Prop where
  pattern : r.pattern.isSome
  scheme : ∀ server ∈ r.route.server? profiles, server.scheme.isSome

def Overreaches (r : Rule) : Prop := PatternOverreaches r.pattern r.grammar

theorem IsTyped.exists_ok_hasMatch_iff {profiles : List Profile} {r : Rule}
    (h : r.IsTyped profiles) (host : String) :
    (∃ answer, r.hasMatch host = .ok answer) ↔ ¬ r.Overreaches := by
  obtain ⟨text, hText⟩ := Option.isSome_iff_exists.mp h.pattern
  rw [hasMatch, Overreaches, hText]
  exact exists_ok_patternMatches_iff

theorem IsTyped.exists_ok_ofRule {profiles : List Profile} {r : Rule} (h : r.IsTyped profiles) :
    ∃ v, Verdict.ofRule r profiles = .ok v := by
  rw [Verdict.ofRule_eq]
  split
  · exact ⟨_, rfl⟩
  · obtain ⟨answer, hAnswer⟩ := Route.answer_of_server? h.scheme
    exact ⟨_, by rw [hAnswer]; rfl⟩

end Rule

namespace Verdict

/-- A rule is reached when none of the rules in front of it matches. -/
def Reaches (host : String) (rules : List Rule) (r : Rule) : Prop :=
  ∃ front rest, rules = front ++ r :: rest ∧ ∀ s ∈ front, s.hasMatch host = .ok false

theorem reaches_cons_iff {host : String} {s r : Rule} {rules : List Rule} :
    Reaches host (s :: rules) r ↔ r = s ∨ s.hasMatch host = .ok false ∧ Reaches host rules r := by
  constructor
  · rintro ⟨front, rest, hRules, hFront⟩
    cases front with
    | nil =>
        obtain ⟨rfl, -⟩ := List.cons.inj hRules
        exact .inl rfl
    | cons first front =>
        obtain ⟨rfl, hRest⟩ := List.cons.inj hRules
        obtain ⟨hFirst, hOthers⟩ := List.forall_mem_cons.mp hFront
        exact .inr ⟨hFirst, front, rest, hRest, hOthers⟩
  · rintro (rfl | ⟨hFirst, front, rest, rfl, hFront⟩)
    · exact ⟨[], rules, rfl, fun s hs => by cases hs⟩
    · exact ⟨s :: front, rest, rfl, List.forall_mem_cons.mpr ⟨hFirst, hFront⟩⟩

/-- The first match is found unless a pattern that overreaches is reached. -/
theorem exists_ok_firstMatch_iff {profiles : List Profile} {host : String} {rules : List Rule}
    (h : ∀ r ∈ rules, r.IsTyped profiles) :
    (∃ v, firstMatch profiles host rules = .ok v) ↔
      ∀ r, Reaches host rules r → ¬ r.Overreaches := by
  induction rules with
  | nil =>
      refine iff_of_true ⟨_, rfl⟩ ?_
      rintro r ⟨front, rest, hNil, -⟩
      cases front <;> cases hNil
  | cons s rules ih =>
      obtain ⟨hFirst, hRules⟩ := List.forall_mem_cons.mp h
      have hOver := hFirst.exists_ok_hasMatch_iff host
      simp only [firstMatch, reaches_cons_iff, forall_eq_or_imp]
      cases hMatch : s.hasMatch host with
      | error fault =>
          have hYes : s.Overreaches := by
            simpa [hMatch] using hOver
          simp [hYes]
      | ok answer =>
          have hNot : ¬ s.Overreaches := hOver.mp ⟨answer, hMatch⟩
          cases answer with
          | true => simp [hNot, hFirst.exists_ok_ofRule]
          | false => simp [hNot, ih hRules]

end Verdict

namespace Regex

/-- A letter or a digit is read as itself. -/
theorem step_of_isAlphanum {r : Reading} (hVerbose : r.flags.verbose = false) {c : Char}
    (h : c.isAlphanum = true) (rest : List Char) :
    r.step c rest = .ok (r.appendCode c.toNat, rest) := by
  have hNe : ∀ mark : Char, mark.isAlphanum = false → c ≠ mark := by
    rintro mark hMark rfl
    rw [h] at hMark
    cases hMark
  simp only [Reading.step, hVerbose, Bool.false_and, Bool.false_eq_true, if_false,
    hNe '|' (by decide), hNe ')' (by decide), hNe '\\' (by decide), hNe '[' (by decide),
    hNe '*' (by decide), hNe '+' (by decide), hNe '?' (by decide), hNe '\x7b' (by decide),
    hNe '.' (by decide), hNe '(' (by decide), hNe '^' (by decide), hNe '$' (by decide)]

theorem counts?_of_isDigit {digits : List Char} (hSome : digits ≠ [])
    (hDigits : ∀ c ∈ digits, c.isDigit = true) (rest : List Char) :
    Reading.counts? (digits ++ '\x7d' :: rest) = some ((digits, digits), rest) := by
  have hTaken : (digits ++ '\x7d' :: rest).takeWhile Char.isDigit = digits := by
    rw [List.takeWhile_append_of_pos hDigits, List.takeWhile_cons_of_neg (by decide),
      List.append_nil]
  have hDropped : (digits ++ '\x7d' :: rest).dropWhile Char.isDigit = '\x7d' :: rest := by
    rw [List.dropWhile_append_of_pos hDigits, List.dropWhile_cons_of_neg (by decide)]
  simp [Reading.counts?, hTaken, hDropped, hSome]

theorem exists_count_eq_error {digits : List Char} (hSome : digits ≠ [])
    (hFar : IsExcessive digits) :
    ∃ err, err ≠ ReadError.malformed ∧ Reading.count digits = .error err := by
  unfold Reading.count
  rw [if_neg (by simpa using hSome)]
  split
  · exact ⟨.countTooLong, nofun, rfl⟩
  next hLength =>
    rw [if_pos (hFar.resolve_left hLength)]
    exact ⟨.countTooLarge, nofun, rfl⟩

theorem readCounts_eq_error {r : Reading} {digits rest : List Char} {err : ReadError}
    (hSome : digits ≠ []) (hDigits : ∀ c ∈ digits, c.isDigit = true) (hRest : rest ≠ ['\\'])
    (h : Reading.count digits = .error err) :
    r.readCounts (digits ++ '\x7d' :: rest) = .error err := by
  unfold Reading.readCounts
  rw [counts?_of_isDigit hSome hDigits rest]
  split
  next hNone => cases hNone
  next hBackslash =>
    cases hBackslash
    exact absurd rfl hRest
  next hCounts =>
    cases hCounts
    rw [h]
    rfl

/-- A letter that is repeated too often overreaches. (A backslash behind the count that ends the
text is malformed before that is seen.) -/
theorem overreaches_of_isExcessive {c : Char} (hc : c.isAlphanum = true) {digits : List Char}
    (hSome : digits ≠ []) (hDigits : ∀ d ∈ digits, d.isDigit = true) (hFar : IsExcessive digits)
    {rest : List Char} (hRest : rest ≠ ['\\']) :
    Overreaches (c :: '\x7b' :: (digits ++ '\x7d' :: rest)) := by
  obtain ⟨err, hErr, hCount⟩ := exists_count_eq_error hSome hFar
  refine ⟨err, hErr, ?_⟩
  let start : Reading := { inner := { opening := .plain, flags := {}, barrier := none } }
  have hLetter : start.step c ('\x7b' :: (digits ++ '\x7d' :: rest)) =
      .ok (start.appendCode c.toNat, '\x7b' :: (digits ++ '\x7d' :: rest)) :=
    step_of_isAlphanum rfl hc _
  have hRepeated : (start.appendCode c.toNat).step '\x7b' (digits ++ '\x7d' :: rest) =
      .error err :=
    readCounts_eq_error hSome hDigits hRest hCount
  change (start.readAll _ _ >>= Reading.finish) = _
  rw [List.length_cons, List.length_cons, Reading.readAll, hLetter]
  change (Reading.readAll _ _ _ >>= Reading.finish) = _
  rw [Reading.readAll, hRepeated]
  rfl

end Regex

/-- A letter that is repeated once more often than can be counted. -/
def tooOften : Rule where
  id := some "often"
  pattern := some "a\x7b4294967295\x7d"
  grammar := some Grammar.regex.name
  enabled := true
  priority := 1
  route := ⟨some RouteKind.direct.name, none, none⟩

/-- A rule for one host, which is tried first. -/
def intranet : Rule := { tooOften with
  id := some "intra"
  pattern := some "intra.corp"
  grammar := some Grammar.exact.name
  priority := 0 }

end ProxyRouting
