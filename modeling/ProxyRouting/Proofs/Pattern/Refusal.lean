import ProxyRouting.Pattern.Wildcard

/-! Why a regular expression is refused. Nearly every text that is none is malformed. Two things are
refused in another way: a repetition whose count goes beyond what is read, and flags that ask for
words of ASCII and for all words. Since each part of the reader leaves an end of the text that it is
given, whatever is refused like that has the count or the flags written in it. -/
namespace ProxyRouting.Regex

open Text (Front)

/-- Digits write a count that goes beyond what is read: there are too many of them, or the number is
too large. -/
def IsExcessive (digits : List Char) : Prop :=
  Text.maxDigits < digits.length ∨
    Reading.countLimit ≤ Text.ofDigits (digits.map Text.digitValue)

/-- A repetition is written somewhere in a text, of one count or of two, and one of the counts goes
too far. -/
def CountsTooFar (s : List Char) : Prop :=
  ∃ counts rest, '\x7b' :: (Text.joined [','] counts ++ '\x7d' :: rest) <:+ s ∧
    counts.length ≤ 2 ∧ (∀ digits ∈ counts, ∀ c ∈ digits, c.isDigit = true) ∧
    ∃ digits ∈ counts, IsExcessive digits

/-- Flags for the whole expression are written somewhere in a text, and a letter is among them. -/
def NamesFlag (letter : Char) (s : List Char) : Prop :=
  ∃ names rest, '(' :: '?' :: (names ++ ')' :: rest) <:+ s ∧ letter ∈ names ∧
    ∀ c ∈ names, c ∈ Flags.letters

/-- A text asks for words of ASCII, and for all words. -/
def MixesFlags (s : List Char) : Prop := NamesFlag 'a' s ∧ NamesFlag 'u' s

variable {α β : Type} {excuse : Prop}

/-- What a part of the reader yields satisfies `p`, and it fails only where a text is malformed,
unless there is an excuse. -/
def Yields (excuse : Prop) (p : α → Prop) : Except ReadError α → Prop
  | .ok a => p a
  | .error err => err ≠ .malformed → excuse

/-- What a part of the reader leaves is an end of the text that it is given. -/
abbrev Leaves (excuse : Prop) (s : List Char) : Except ReadError (Front α) → Prop :=
  Yields excuse fun front => front.2 <:+ s

namespace Yields

variable {p : α → Prop} {q : β → Prop}

theorem malformed : Yields excuse p (.error .malformed) := fun h => absurd rfl h

theorem bind {first : Except ReadError α} {next : α → Except ReadError β}
    (hFirst : Yields excuse p first) (hNext : ∀ a, p a → Yields excuse q (next a)) :
    Yields excuse q (first >>= next) := by
  cases first with
  | ok a => exact hNext a hFirst
  | error err => exact hFirst

theorem map {first : Except ReadError α} {f : α → β} (hFirst : Yields excuse p first)
    (hNext : ∀ a, p a → q (f a)) : Yields excuse q (first.map f) := by
  cases first with
  | ok a => exact hNext a hFirst
  | error err => exact hFirst

theorem ite {c : Prop} [Decidable c] {first second : Except ReadError α}
    (hFirst : c → Yields excuse p first) (hSecond : Yields excuse p second) :
    Yields excuse p (if c then first else second) := by
  split
  next hc => exact hFirst hc
  next => exact hSecond

theorem mono {p' : α → Prop} {outcome : Except ReadError α} (h : Yields excuse p outcome)
    (hp : ∀ a, p a → p' a) : Yields excuse p' outcome := by
  cases outcome with
  | ok a => exact hp a h
  | error err => exact h

end Yields

theorem Leaves.trans {s t : List Char} {outcome : Except ReadError (Front α)}
    (h : Leaves excuse t outcome) (hSuffix : t <:+ s) : Leaves excuse s outcome :=
  h.mono fun _ hFront => hFront.trans hSuffix

theorem leaves_hexCode (count : Nat) (s : List Char) : Leaves excuse s (hexCode count s) := by
  unfold hexCode
  dsimp only
  split
  · split
    · exact List.drop_suffix _ _
    · exact .malformed
  · exact .malformed

theorem leaves_of_numberedCode? {c : Char} {rest : List Char}
    {outcome : Except ReadError (Front Nat)} (h : numberedCode? c rest = some outcome) :
    Leaves excuse rest outcome := by
  unfold numberedCode? at h
  split at h
  · cases h
    exact leaves_hexCode _ _
  · split at h
    · cases h
      exact leaves_hexCode _ _
    · split at h
      · cases h
        exact leaves_hexCode _ _
      · cases h

theorem leaves_digitEscape (c : Char) (rest : List Char) :
    Leaves excuse rest (digitEscape c rest) := by
  unfold digitEscape
  split
  next d e behind =>
    split
    · split
      · exact (List.suffix_cons e behind).trans (List.suffix_cons d _)
      · exact .malformed
    · split
      · exact List.suffix_cons d _
      · exact List.suffix_rfl
  next d =>
    split
    · exact List.suffix_cons d []
    · exact List.suffix_rfl
  next => exact List.suffix_rfl

theorem leaves_readEscape (c : Char) (rest : List Char) :
    Leaves excuse rest (readEscape c rest) := by
  unfold readEscape
  split
  · exact List.suffix_rfl
  · exact List.suffix_rfl
  · exact List.suffix_rfl
  next hRead _ _ _ => exact (leaves_of_numberedCode? hRead).map fun _ hFront => hFront
  next =>
    split
    · exact List.drop_suffix _ _
    · split
      · exact leaves_digitEscape c rest
      · split
        · exact .malformed
        · exact List.suffix_rfl

theorem leaves_readSetEscape (c : Char) (rest : List Char) :
    Leaves excuse rest (readSetEscape c rest) := by
  unfold readSetEscape
  split
  · exact List.suffix_rfl
  · exact List.suffix_rfl
  next hRead _ _ => exact (leaves_of_numberedCode? hRead).map fun _ hFront => hFront
  next =>
    split
    · exact List.suffix_rfl
    · split
      · dsimp only
        split
        · exact List.drop_suffix _ _
        · exact .malformed
      · split
        · exact .malformed
        · exact List.suffix_rfl

theorem leaves_readMember (ascii : Bool) (c : Char) (rest : List Char) :
    Leaves excuse rest (readMember ascii c rest) := by
  unfold readMember
  split
  · cases rest with
    | nil => exact .malformed
    | cons e behind =>
        have hEscape : Leaves excuse behind (readSetEscape e behind) :=
          leaves_readSetEscape e behind
        have hCons : behind <:+ e :: behind := List.suffix_cons e behind
        dsimp only
        cases hRead : readSetEscape e behind with
        | error err =>
            rw [hRead] at hEscape
            exact hEscape
        | ok front =>
            rw [hRead] at hEscape
            obtain ⟨escape, last⟩ := front
            cases escape with
            | code n => exact hEscape.trans hCons
            | ofClass cls negated => exact hEscape.trans hCons
            | anchor a => exact .malformed
            | backref n => exact .malformed
  · exact List.suffix_rfl

theorem leaves_readMembers (ascii : Bool) (fuel : Nat) (found : List SetItem) (s : List Char) :
    Leaves excuse s (readMembers ascii fuel found s) := by
  induction fuel generalizing found s with
  | zero =>
      cases s with
      | nil => exact .malformed
      | cons c rest => exact .malformed
  | succ fuel ih =>
      cases s with
      | nil => exact .malformed
      | cons c rest =>
          have hCons : rest <:+ c :: rest := List.suffix_cons c rest
          rw [readMembers]
          split
          · exact hCons
          · refine (leaves_readMember ascii c rest).bind fun front hFront => ?_
            obtain ⟨first, behind⟩ := front
            have hBehind : behind <:+ c :: rest := List.IsSuffix.trans hFront hCons
            dsimp only
            split
            next last => exact (List.suffix_append ['-', ']'] last).trans hBehind
            · exact .malformed
            next d last _ =>
              have hLast : last <:+ c :: rest := (List.suffix_append ['-', d] last).trans hBehind
              refine (leaves_readMember ascii d last).bind fun end' hEnd => ?_
              split
              · split
                · exact (ih _ _).trans (List.IsSuffix.trans hEnd hLast)
                · exact .malformed
              · exact .malformed
            · exact (ih _ _).trans hBehind

theorem leaves_readSet (ascii : Bool) (folding : Folding) (s : List Char) :
    Leaves excuse s (readSet ascii folding s) := by
  have hBody : ∀ (negated : Bool) (body : List Char), Leaves excuse body (do
      let front ← readMembers ascii body.length [] body
      .ok (.set negated front.1 folding, front.2) : Except ReadError (Front CharTest)) :=
    fun _ body => (leaves_readMembers ascii body.length [] body).bind (fun _ hFront => hFront)
  unfold readSet
  dsimp only
  split
  · exact Leaves.trans (hBody true _) (List.suffix_cons _ _)
  · exact hBody false s

namespace Reading

/-- Where a reading asks for words of ASCII or for all words, a text that it reads says so. -/
def IsBacked (s : List Char) (r : Reading) : Prop :=
  (r.asksAscii = true → NamesFlag 'a' s) ∧ (r.asksUnicode = true → NamesFlag 'u' s)

/-- A part of the reader that goes on with a reading. -/
abbrev Continues (excuse : Prop) (whole s : List Char) :
    Except ReadError (Front Reading) → Prop :=
  Yields excuse fun front => front.1.IsBacked whole ∧ front.2 <:+ s

theorem Continues.trans {whole s t : List Char} {outcome : Except ReadError (Front Reading)}
    (h : Continues excuse whole t outcome) (hSuffix : t <:+ s) :
    Continues excuse whole s outcome :=
  h.mono fun _ hFront => ⟨hFront.1, hFront.2.trans hSuffix⟩

variable {whole rest : List Char} {r : Reading}

theorem yields_backref (r : Reading) (n : Nat) : Yields excuse (fun _ => True) (r.backref n) := by
  unfold backref
  split
  · split
    · trivial
    · exact .malformed
  · exact .malformed

theorem IsBacked.repeatWith (h : r.IsBacked whole) (least : Nat) (most : Option Nat)
    (rest : List Char) : Continues excuse whole rest (r.repeatWith least most rest) := by
  have hAppetite : (appetite rest).2 <:+ rest := by
    unfold appetite
    split
    · exact List.suffix_cons _ _
    · exact List.suffix_cons _ _
    · exact List.suffix_rfl
  have hLast : ∀ mode, Yields excuse (IsBacked whole) (r.repeatLast mode least most) := by
    intro mode
    unfold repeatLast
    split
    · exact .malformed
    · split
      · exact h
      · exact .malformed
  exact (hLast _).bind fun _ hRepeated => ⟨hRepeated, hAppetite⟩

theorem skipTo_suffix (mark : Char) (s : List Char) : skipTo mark s <:+ s := by
  fun_induction skipTo mark s with
  | case1 => exact List.suffix_rfl
  | case2 => exact List.suffix_rfl
  | case3 c rest ih => exact ih.trans (List.suffix_append ['\\', c] rest)
  | case4 rest => exact List.suffix_rfl
  | case5 c rest _ _ _ ih => exact ih.trans (List.suffix_cons c rest)

theorem leaves_readName (mark : Char) (s : List Char) : Leaves excuse s (readName mark s) := by
  unfold readName
  split
  next c rest hBehind =>
    dsimp only
    split
    · exact .malformed
    · have hDropped := List.dropWhile_suffix (l := s) (· != mark)
      rw [hBehind] at hDropped
      exact (List.suffix_cons c rest).trans hDropped
  next => exact .malformed

theorem IsBacked.openNamed (h : r.IsBacked whole) (s : List Char) :
    Continues excuse whole s (r.openNamed s) := by
  refine (leaves_readName '>' s).bind fun front hFront => ?_
  dsimp only
  split
  · exact ⟨h, hFront⟩
  · exact .malformed

theorem IsBacked.namedBackref (h : r.IsBacked whole) (s : List Char) :
    Continues excuse whole s (r.namedBackref s) := by
  refine (leaves_readName ')' s).bind fun front hFront => ?_
  dsimp only
  split
  · exact (yields_backref r _).bind fun _ _ => ⟨h, hFront⟩
  · exact .malformed

theorem yields_conditionNumber (r : Reading) (name : List Char) :
    Yields excuse (fun _ => True) (r.conditionNumber name) := by
  unfold conditionNumber
  split
  · split
    · trivial
    · exact .malformed
  · split
    · split
      · trivial
      · exact .malformed
    · exact .malformed

theorem IsBacked.openCondition (h : r.IsBacked whole) (s : List Char) :
    Continues excuse whole s (r.openCondition s) := by
  refine (leaves_readName ')' s).bind fun front hFront => ?_
  refine (yields_conditionNumber r front.1).bind fun n _ => ?_
  dsimp only
  split
  · have hDiscarded : Yields excuse (fun _ => True) (discard (r.backref n)) :=
      (yields_backref r n).map fun _ _ => trivial
    exact hDiscarded.bind fun _ _ => ⟨h, hFront⟩
  · exact ⟨h, hFront⟩

/-- The flags that are named stand in the text, up to the mark that ends them. -/
theorem yields_flagNames (c : Char) (found s : List Char) :
    Yields excuse (fun named : List Char × Char × List Char => ∃ names,
        s = names ++ named.2.1 :: named.2.2 ∧ named.1 = names.reverse ++ c :: found ∧
        ∀ x ∈ names, x ∈ Flags.letters)
      (flagNames c found s) := by
  induction s generalizing c found with
  | nil => exact .malformed
  | cons d rest ih =>
      rw [flagNames]
      split
      · exact .malformed
      · split
        · exact ⟨[], rfl, rfl, fun x hx => by cases hx⟩
        · split
          next hLetter =>
            refine (ih d (c :: found)).mono ?_
            rintro named ⟨names, hText, hFound, hNames⟩
            refine ⟨d :: names, by rw [hText]; rfl, by rw [hFound]; simp, ?_⟩
            exact List.forall_mem_cons.mpr ⟨List.contains_iff_mem.mp hLetter, hNames⟩
          · exact .malformed

theorem leaves_flagsOff (found s : List Char) : Leaves excuse s (flagsOff found s) := by
  induction s generalizing found with
  | nil => exact .malformed
  | cons c rest ih =>
      rw [flagsOff]
      split
      · exact List.suffix_cons c rest
      · split
        · exact .malformed
        · split
          · exact (ih _).trans (List.suffix_cons c rest)
          · exact .malformed

theorem IsBacked.openFlagged (h : r.IsBacked whole) (on off : List Char) :
    Yields excuse (IsBacked whole) (r.openFlagged on off) := by
  unfold Reading.openFlagged
  split
  · exact .malformed
  · exact h

theorem IsBacked.setFlags (h : r.IsBacked whole) {on : List Char}
    (hOn : ∀ letter ∈ on, NamesFlag letter whole) :
    Yields excuse (IsBacked whole) (r.setFlags on) := by
  unfold Reading.setFlags
  split
  · constructor
    · intro hAsks
      rcases Bool.or_eq_true_iff.mp hAsks with hBefore | hNamed
      · exact h.1 hBefore
      · exact hOn 'a' (List.contains_iff_mem.mp hNamed)
    · intro hAsks
      rcases Bool.or_eq_true_iff.mp hAsks with hBefore | hNamed
      · exact h.2 hBefore
      · exact hOn 'u' (List.contains_iff_mem.mp hNamed)
  · exact .malformed

theorem IsBacked.readFlags (h : r.IsBacked whole) {c : Char}
    (hText : '(' :: '?' :: c :: rest <:+ whole) (hMark : c = '-' ∨ c ∈ Flags.letters) :
    Continues excuse whole rest (r.readFlags c rest) := by
  unfold Reading.readFlags
  split
  · refine (leaves_flagsOff [] rest).bind fun front hFront => ?_
    exact (h.openFlagged _ _).bind fun _ hOpened => ⟨hOpened, hFront⟩
  next hMinus =>
    refine (yields_flagNames c [] rest).bind ?_
    rintro ⟨on, mark, behind⟩ ⟨names, rfl, rfl, hNames⟩
    have hBehind : behind <:+ names ++ mark :: behind :=
      (List.suffix_cons mark behind).trans (List.suffix_append _ _)
    dsimp only
    split
    next hEnd =>
      subst hEnd
      refine (h.setFlags fun letter hLetter => ?_).bind fun _ hSet => ⟨hSet, hBehind⟩
      refine ⟨c :: names, behind, hText, by simpa [or_comm] using hLetter, ?_⟩
      exact List.forall_mem_cons.mpr ⟨hMark.resolve_left hMinus, hNames⟩
    next =>
      split
      · exact (h.openFlagged _ _).bind fun _ hOpened => ⟨hOpened, hBehind⟩
      · refine (leaves_flagsOff [] behind).bind fun front hFront => ?_
        exact (h.openFlagged _ _).bind fun _ hOpened =>
          ⟨hOpened, List.IsSuffix.trans hFront hBehind⟩

theorem IsBacked.readOpening (h : r.IsBacked whole) (hText : '(' :: rest <:+ whole) :
    Continues excuse whole rest (r.readOpening rest) := by
  unfold Reading.readOpening
  split
  next behind => exact (h.openNamed behind).trans (List.suffix_append ['?', 'P', '<'] behind)
  next behind => exact (h.namedBackref behind).trans (List.suffix_append ['?', 'P', '='] behind)
  next behind => exact ⟨h, List.suffix_append ['?', ':'] behind⟩
  next comment =>
    have hSkipped := skipTo_suffix ')' comment
    split
    next behind hEnd =>
      rw [hEnd] at hSkipped
      exact ⟨h, ((List.suffix_cons ')' behind).trans hSkipped).trans
        (List.suffix_append ['?', '#'] comment)⟩
    · exact .malformed
  next behind => exact ⟨h, List.suffix_append ['?', '='] behind⟩
  next behind => exact ⟨h, List.suffix_append ['?', '!'] behind⟩
  next behind => exact ⟨h, List.suffix_append ['?', '<', '='] behind⟩
  next behind => exact ⟨h, List.suffix_append ['?', '<', '!'] behind⟩
  next behind => exact (h.openCondition behind).trans (List.suffix_append ['?', '('] behind)
  next behind => exact ⟨h, List.suffix_append ['?', '>'] behind⟩
  next c behind _ _ _ _ _ _ _ _ _ _ =>
    split
    next hMark =>
      have hLetter : c = '-' ∨ c ∈ Flags.letters := by
        simpa [List.contains_iff_mem] using hMark
      exact (h.readFlags hText hLetter).trans (List.suffix_append ['?', c] behind)
    · exact .malformed
  · exact .malformed
  · exact ⟨h, List.suffix_rfl⟩

theorem IsBacked.bar (h : r.IsBacked whole) : Yields excuse (IsBacked whole) r.bar := by
  unfold Reading.bar
  split
  · exact h
  · exact .malformed
  · exact h

theorem IsBacked.close (h : r.IsBacked whole) (hMixed : MixesFlags whole → excuse) :
    Yields excuse (IsBacked whole) r.close := by
  unfold Reading.close
  split
  · split
    next hAsks =>
      rw [Bool.and_eq_true] at hAsks
      exact fun _ => hMixed ⟨h.1 hAsks.1, h.2 hAsks.2⟩
    next => exact .malformed
  · dsimp only
    split
    all_goals exact h

theorem yields_count {digits : List Char} (h : IsExcessive digits → excuse) :
    Yields excuse (fun _ => True) (count digits) := by
  unfold count
  split
  · trivial
  · split
    next hLength => exact fun _ => h (.inl hLength)
    next =>
      split
      next hValue => exact fun _ => h (.inr hValue)
      next => trivial

/-- Counts that are read stand in the text as one count or as two. -/
theorem exists_of_counts? {s least most behind : List Char}
    (h : counts? s = some ((least, most), behind)) :
    ∃ counts, s = Text.joined [','] counts ++ '\x7d' :: behind ∧ counts.length ≤ 2 ∧
      (∀ digits ∈ counts, ∀ c ∈ digits, c.isDigit = true) ∧ least ∈ counts ∧ most ∈ counts := by
  have hDigits : ∀ t : List Char, ∀ c ∈ t.takeWhile Char.isDigit, c.isDigit = true :=
    fun t => List.all_eq_true.mp List.all_takeWhile
  have hWhole := List.takeWhile_append_dropWhile (p := Char.isDigit) (l := s)
  unfold counts? at h
  dsimp only at h
  split at h
  next rest hRest =>
    split at h
    · cases h
    · cases h
      rw [hRest] at hWhole
      exact ⟨[s.takeWhile Char.isDigit], hWhole.symm, by simp, by simpa using hDigits s,
        List.mem_singleton_self _, List.mem_singleton_self _⟩
  next rest hRest =>
    split at h
    next last hLast =>
      cases h
      have hBehind := List.takeWhile_append_dropWhile (p := Char.isDigit) (l := rest)
      rw [hRest] at hWhole
      rw [hLast] at hBehind
      refine ⟨[s.takeWhile Char.isDigit, rest.takeWhile Char.isDigit], ?_, by simp, ?_,
        List.mem_cons_self, List.mem_cons_of_mem _ (List.mem_singleton_self _)⟩
      · simp only [Text.joined, List.append_assoc, List.cons_append, List.nil_append]
        rw [hBehind, hWhole]
      · simp only [List.forall_mem_cons]
        exact ⟨hDigits s, hDigits rest, by simp⟩
    next => cases h
  next => cases h

theorem IsBacked.readCounts (h : r.IsBacked whole) (hText : '\x7b' :: rest <:+ whole)
    (hFar : CountsTooFar whole → excuse) :
    Continues excuse whole rest (r.readCounts rest) := by
  unfold Reading.readCounts
  split
  · exact ⟨h, List.suffix_rfl⟩
  · exact .malformed
  next least most behind _ hCounts =>
    obtain ⟨counts, rfl, hLength, hDigits, hLeast, hMost⟩ := exists_of_counts? hCounts
    have hExcessive : ∀ digits ∈ counts, IsExcessive digits → excuse := fun digits hMem hOne =>
      hFar ⟨counts, behind, hText, hLength, hDigits, digits, hMem, hOne⟩
    refine (yields_count (hExcessive least hLeast)).bind fun _ _ => ?_
    refine (yields_count (hExcessive most hMost)).bind fun _ _ => ?_
    split
    · exact .malformed
    · exact (h.repeatWith _ _ behind).trans
        ((List.suffix_cons '\x7d' behind).trans (List.suffix_append _ _))

theorem IsBacked.readBackslash (h : r.IsBacked whole) (rest : List Char) :
    Continues excuse whole rest (r.readBackslash rest) := by
  unfold Reading.readBackslash
  cases rest with
  | nil => exact .malformed
  | cons c behind =>
      have hEscape : Leaves excuse behind (readEscape c behind) := leaves_readEscape c behind
      have hCons : behind <:+ c :: behind := List.suffix_cons c behind
      dsimp only
      cases hRead : readEscape c behind with
      | error err =>
          rw [hRead] at hEscape
          exact hEscape
      | ok front =>
          rw [hRead] at hEscape
          obtain ⟨escape, last⟩ := front
          have hLast : last <:+ c :: behind := List.IsSuffix.trans hEscape hCons
          cases escape with
          | code n => exact ⟨h, hLast⟩
          | ofClass cls negated => exact ⟨h, hLast⟩
          | anchor a => exact ⟨h, hLast⟩
          | backref n => exact (yields_backref r n).map fun _ _ => ⟨h, hLast⟩

/-- A step of the reader goes on with an end of the text. It fails where the text is malformed, or
because of a count or of flags that are written in the text. -/
theorem IsBacked.step (h : r.IsBacked whole) {c : Char} (hText : c :: rest <:+ whole) :
    Continues (CountsTooFar whole ∨ MixesFlags whole) whole rest (r.step c rest) := by
  unfold Reading.step
  refine .ite (fun _ => ?bar) <| .ite (fun _ => ?close) <| .ite (fun _ => ?filler) <|
    .ite (fun _ => ?comment) <| .ite (fun _ => h.readBackslash rest) <| .ite (fun _ => ?set) <|
    .ite (fun _ => h.repeatWith _ _ rest) <| .ite (fun _ => h.repeatWith _ _ rest) <|
    .ite (fun _ => h.repeatWith _ _ rest) <| .ite (fun hBrace => ?counts) <|
    .ite (fun _ => ?any) <| .ite (fun hOpening => ?opening) <| .ite (fun _ => ?start) <|
    .ite (fun _ => ?last) ?plain
  case bar => exact h.bar.map fun _ hBarred => ⟨hBarred, List.suffix_rfl⟩
  case close => exact (h.close .inr).map fun _ hClosed => ⟨hClosed, List.suffix_rfl⟩
  case comment => exact ⟨h, skipTo_suffix _ _⟩
  case set => exact (leaves_readSet _ _ rest).bind fun _ hFront => ⟨h, hFront⟩
  case counts => exact h.readCounts (by rwa [hBrace] at hText) .inl
  case opening => exact h.readOpening (by rwa [hOpening] at hText)
  all_goals exact ⟨h, List.suffix_rfl⟩

theorem IsBacked.readAll (h : r.IsBacked whole) (fuel : Nat) {s : List Char} (hText : s <:+ whole) :
    Yields (CountsTooFar whole ∨ MixesFlags whole) (IsBacked whole) (r.readAll fuel s) := by
  induction fuel generalizing r s with
  | zero =>
      cases s with
      | nil => exact h
      | cons c rest => exact .malformed
  | succ fuel ih =>
      cases s with
      | nil => exact h
      | cons c rest =>
          refine (h.step hText).bind fun front hFront => ih hFront.1 ?_
          exact hFront.2.trans ((List.suffix_cons c rest).trans hText)

theorem IsBacked.finish (h : r.IsBacked whole) :
    Yields (CountsTooFar whole ∨ MixesFlags whole) (fun _ => True) r.finish := by
  unfold Reading.finish
  split
  · exact .malformed
  · split
    next hAsks =>
      rw [Bool.and_eq_true] at hAsks
      exact fun _ => .inr ⟨h.1 hAsks.1, h.2 hAsks.2⟩
    next =>
      split
      · exact .malformed
      · trivial

end Reading

/-- A text that is refused otherwise than as malformed counts too far or mixes flags. -/
theorem counts_or_mixes_of_read {flags : Flags} {s : List Char} {err : ReadError}
    (h : read flags s = .error err) (hErr : err ≠ .malformed) : CountsTooFar s ∨ MixesFlags s := by
  let start : Reading := { inner := { opening := .plain, flags, barrier := none } }
  have hStart : start.IsBacked s :=
    ⟨fun hAsks => (by cases hAsks), fun hAsks => (by cases hAsks)⟩
  have hRead : Yields (CountsTooFar s ∨ MixesFlags s) (fun _ => True) (read flags s) :=
    (hStart.readAll s.length List.suffix_rfl).bind fun _ hBacked => hBacked.finish
  rw [h] at hRead
  exact hRead hErr

end ProxyRouting.Regex
