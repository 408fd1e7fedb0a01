import Mathlib.Computability.Language
import ProxyRouting.Proofs.Script.Leading

/-! The headings that open the function that answers requests, as a language: two words, and between
parentheses up to two names with a comma between them or not, blanks being free. What is found in a
text is its first heading, however the names between the parentheses are told apart. -/
namespace ProxyRouting

namespace Heading

open Text

/-- The spellings of a word, letters of either case being alike. -/
def spelled (word : String) : Language Char :=
  {s | s.map Char.toLower = word.toList.map Char.toLower}

def mark (c : Char) : Language Char := {[c]}

def gap : Language Char := {s | ∀ c ∈ s, isAsciiBlank c = true}

/-- A gap that is not empty. -/
def space : Language Char := {s | s ≠ [] ∧ ∀ c ∈ s, isAsciiBlank c = true}

/-- A name, which may be empty. -/
def identifier : Language Char := {s | ∀ c ∈ s, isAsciiWord c = true}

def ending : Language Char := gap * (mark ')' * (gap * mark '\x7b'))

def lastName : Language Char := gap * (identifier * ending)

def separated : Language Char := gap * ((1 + mark ',') * lastName)

def parameters : Language Char := gap * (identifier * separated)

/-- The text of a heading, from its first word up to the brace that opens the body. -/
def heading : Language Char :=
  spelled "function" * (space * (spelled "FindProxyForURL" * (gap * (mark '(' * parameters))))

/-- A text of the language stands in front of the rest. -/
def Starts (l : Language Char) (s rest : List Char) : Prop := ∃ t ∈ l, s = t ++ rest

theorem starts_mul_iff {k l : Language Char} {s rest : List Char} :
    Starts (k * l) s rest ↔ ∃ middle, Starts k s middle ∧ Starts l middle rest := by
  constructor
  · rintro ⟨t, ht, rfl⟩
    obtain ⟨a, ha, b, hb, rfl⟩ := Language.mem_mul.mp ht
    exact ⟨b ++ rest, ⟨a, ha, List.append_assoc a b rest⟩, b, hb, rfl⟩
  · rintro ⟨middle, ⟨a, ha, rfl⟩, b, hb, rfl⟩
    exact ⟨a ++ b, Language.append_mem_mul ha hb, (List.append_assoc a b rest).symm⟩

theorem starts_mark_iff {c : Char} {s rest : List Char} :
    Starts (mark c) s rest ↔ s = c :: rest := by
  constructor
  · rintro ⟨t, rfl, rfl⟩
    rfl
  · rintro rfl
    exact ⟨[c], rfl, rfl⟩

theorem starts_option_iff {l : Language Char} {s rest : List Char} :
    Starts (1 + l) s rest ↔ s = rest ∨ Starts l s rest := by
  constructor
  · rintro ⟨t, ht | ht, rfl⟩
    · exact .inl (by rw [(Language.mem_one t).mp ht, List.nil_append])
    · exact .inr ⟨t, ht, rfl⟩
  · rintro (rfl | ⟨t, ht, rfl⟩)
    · exact ⟨[], .inl rfl, rfl⟩
    · exact ⟨t, .inr ht, rfl⟩

theorem starts_gap_self (s : List Char) : Starts gap s s := ⟨[], nofun, rfl⟩

theorem starts_identifier_self (s : List Char) : Starts identifier s s := ⟨[], nofun, rfl⟩

theorem starts_gap_skipBlanks (s : List Char) : Starts gap s (Declaration.skipBlanks s) :=
  ⟨s.takeWhile isAsciiBlank, fun _ hc => List.all_eq_true.mp List.all_takeWhile _ hc,
    List.takeWhile_append_dropWhile.symm⟩

theorem starts_identifier_dropWhile (s : List Char) :
    Starts identifier s (s.dropWhile isAsciiWord) :=
  ⟨s.takeWhile isAsciiWord, fun _ hc => List.all_eq_true.mp List.all_takeWhile _ hc,
    List.takeWhile_append_dropWhile.symm⟩

theorem isAsciiWord_of_isAsciiBlank {c : Char} (h : isAsciiBlank c = true) :
    isAsciiWord c = false := by
  refine Bool.eq_false_iff.mpr fun hWord => ?_
  simp only [isAsciiBlank, Bool.or_eq_true, Bool.and_eq_true, decide_eq_true_eq] at h
  unfold isAsciiWord at hWord
  delta Char.isAlphanum Char.isAlpha Char.isUpper Char.isLower Char.isDigit at hWord
  simp only [Bool.or_eq_true, Bool.and_eq_true, decide_eq_true_eq, UInt32.le_iff_toNat_le,
    ge_iff_le] at hWord
  change c = '_' ∨ ((65 ≤ c.toNat ∧ c.toNat ≤ 90) ∨ (97 ≤ c.toNat ∧ c.toNat ≤ 122)) ∨
    (48 ≤ c.toNat ∧ c.toNat ≤ 57) at hWord
  have hMark : '_'.toNat = 95 := rfl
  rcases hWord with rfl | hLetter | hDigit
  · omega
  · omega
  · omega

section Gaps

variable {s rest : List Char}

theorem skipBlanks_of_starts_gap (h : Starts gap s rest) :
    Declaration.skipBlanks s = Declaration.skipBlanks rest := by
  obtain ⟨g, hg, rfl⟩ := h
  exact List.dropWhile_append_of_pos hg

theorem dropWhile_of_starts_identifier (h : Starts identifier s rest) :
    s.dropWhile isAsciiWord = rest.dropWhile isAsciiWord := by
  obtain ⟨w, hw, rfl⟩ := h
  exact List.dropWhile_append_of_pos hw

/-- Nothing is dropped from a text in front of which characters of another kind stand. -/
theorem eq_or_dropWhile_of_starts {p q : Char → Bool} (hOther : ∀ c, p c = true → q c = false)
    (h : Starts {t | ∀ c ∈ t, p c = true} s rest) : s = rest ∨ s.dropWhile q = s := by
  obtain ⟨t, ht, rfl⟩ := h
  cases t with
  | nil => exact .inl rfl
  | cons c t =>
      refine .inr (List.dropWhile_cons_of_neg ?_)
      rw [hOther c (ht c List.mem_cons_self)]
      exact Bool.false_ne_true

theorem eq_or_dropWhile_of_starts_gap (h : Starts gap s rest) :
    s = rest ∨ s.dropWhile isAsciiWord = s :=
  eq_or_dropWhile_of_starts (p := isAsciiBlank) (fun _ => isAsciiWord_of_isAsciiBlank) h

theorem eq_or_skipBlanks_of_starts_identifier (h : Starts identifier s rest) :
    s = rest ∨ Declaration.skipBlanks s = s := by
  refine eq_or_dropWhile_of_starts (p := isAsciiWord) (fun c hWord => ?_) h
  refine Bool.eq_false_iff.mpr fun hBlank => ?_
  rw [isAsciiWord_of_isAsciiBlank hBlank] at hWord
  cases hWord

theorem dropWhile_of_starts_mark {q : Char → Bool} {c : Char} (hc : q c = false)
    (h : Starts (mark c) s rest) : s.dropWhile q = s := by
  rw [starts_mark_iff.mp h]
  exact List.dropWhile_cons_of_neg (by rw [hc]; exact Bool.false_ne_true)

/-- A name ends where a gap and a mark stand. -/
theorem dropWhile_of_starts_gap_mul_mark {l : Language Char} {c : Char}
    (hc : isAsciiWord c = false) (h : Starts (gap * (mark c * l)) s rest) :
    s.dropWhile isAsciiWord = s := by
  obtain ⟨middle, hGap, hMiddle⟩ := starts_mul_iff.mp h
  obtain ⟨behind, hMark, -⟩ := starts_mul_iff.mp hMiddle
  rcases eq_or_dropWhile_of_starts_gap hGap with rfl | hKeep
  · exact dropWhile_of_starts_mark hc hMark
  · exact hKeep

end Gaps

/-- A language whose texts may lose the blanks or the word at their front. -/
structure IsTolerant (l : Language Char) : Prop where
  blanks : ∀ {s rest}, Starts l s rest → Starts l (Declaration.skipBlanks s) rest
  word : ∀ {s rest}, Starts l s rest → Starts l (s.dropWhile isAsciiWord) rest

section Tolerance

variable {l : Language Char} {s rest : List Char}

theorem starts_gap_mul (h : Starts l s rest) : Starts (gap * l) s rest :=
  starts_mul_iff.mpr ⟨s, starts_gap_self s, h⟩

/-- Two gaps behind each other are one. -/
theorem starts_gap_trans {middle : List Char} (hGap : Starts gap s middle)
    (h : Starts (gap * l) middle rest) : Starts (gap * l) s rest := by
  obtain ⟨g, hg, rfl⟩ := hGap
  obtain ⟨behind, ⟨f, hf, rfl⟩, hRest⟩ := starts_mul_iff.mp h
  refine starts_mul_iff.mpr ⟨behind, ⟨g ++ f, fun c hc => ?_, (List.append_assoc g f behind).symm⟩,
    hRest⟩
  rcases List.mem_append.mp hc with hFirst | hSecond
  · exact hg c hFirst
  · exact hf c hSecond

theorem starts_name_mul (h : Starts l s rest) : Starts (gap * (identifier * l)) s rest :=
  starts_gap_mul (starts_mul_iff.mpr ⟨s, starts_identifier_self s, h⟩)

theorem starts_separator_mul (h : Starts l s rest) : Starts (gap * ((1 + mark ',') * l)) s rest :=
  starts_gap_mul (starts_mul_iff.mpr ⟨s, starts_option_iff.mpr (.inl rfl), h⟩)

theorem isTolerant_ending : IsTolerant ending := by
  constructor
  · intro s rest h
    obtain ⟨middle, hGap, hEnd⟩ := starts_mul_iff.mp h
    obtain ⟨behind, hMark, -⟩ := starts_mul_iff.mp hEnd
    have hSkip : Declaration.skipBlanks middle = middle :=
      dropWhile_of_starts_mark (by decide) hMark
    rw [skipBlanks_of_starts_gap hGap, hSkip]
    exact starts_gap_mul hEnd
  · intro s rest h
    rwa [dropWhile_of_starts_gap_mul_mark (by decide) h]

/-- A name in front of a tolerant rest may be lost as a whole or in part. -/
theorem IsTolerant.name (h : IsTolerant l) : IsTolerant (gap * (identifier * l)) := by
  constructor
  · intro s rest hs
    obtain ⟨middle, hGap, hMiddle⟩ := starts_mul_iff.mp hs
    obtain ⟨behind, hName, hRest⟩ := starts_mul_iff.mp hMiddle
    rw [skipBlanks_of_starts_gap hGap]
    rcases eq_or_skipBlanks_of_starts_identifier hName with rfl | hKeep
    · exact starts_name_mul (h.blanks hRest)
    · rw [hKeep]
      exact starts_gap_mul hMiddle
  · intro s rest hs
    obtain ⟨middle, hGap, hMiddle⟩ := starts_mul_iff.mp hs
    obtain ⟨behind, hName, hRest⟩ := starts_mul_iff.mp hMiddle
    rcases eq_or_dropWhile_of_starts_gap hGap with rfl | hKeep
    · rw [dropWhile_of_starts_identifier hName]
      exact starts_name_mul (h.word hRest)
    · rwa [hKeep]

theorem IsTolerant.separator (h : IsTolerant l) : IsTolerant (gap * ((1 + mark ',') * l)) := by
  constructor
  · intro s rest hs
    obtain ⟨middle, hGap, hMiddle⟩ := starts_mul_iff.mp hs
    obtain ⟨behind, hComma, hRest⟩ := starts_mul_iff.mp hMiddle
    rw [skipBlanks_of_starts_gap hGap]
    rcases starts_option_iff.mp hComma with rfl | hMark
    · exact starts_separator_mul (h.blanks hRest)
    · have hSkip : Declaration.skipBlanks middle = middle :=
        dropWhile_of_starts_mark (by decide) hMark
      rw [hSkip]
      exact starts_gap_mul hMiddle
  · intro s rest hs
    obtain ⟨middle, hGap, hMiddle⟩ := starts_mul_iff.mp hs
    obtain ⟨behind, hComma, hRest⟩ := starts_mul_iff.mp hMiddle
    rcases eq_or_dropWhile_of_starts_gap hGap with rfl | hKeep
    · rcases starts_option_iff.mp hComma with rfl | hMark
      · exact starts_separator_mul (h.word hRest)
      · rwa [dropWhile_of_starts_mark (by decide) hMark]
    · rwa [hKeep]

/-- Behind the longest name at the front stands what stands behind some name, if that is tolerant. -/
theorem IsTolerant.starts_behind_name (h : IsTolerant l)
    (hs : Starts (gap * (identifier * l)) s rest) : Starts l (Declaration.name s).2 rest := by
  obtain ⟨middle, hGap, hMiddle⟩ := starts_mul_iff.mp hs
  obtain ⟨behind, hName, hRest⟩ := starts_mul_iff.mp hMiddle
  rw [Declaration.name, skipBlanks_of_starts_gap hGap]
  rcases eq_or_skipBlanks_of_starts_identifier hName with rfl | hKeep
  · exact h.word (h.blanks hRest)
  · rw [hKeep, dropWhile_of_starts_identifier hName]
    exact h.word hRest

end Tolerance

theorem afterMark?_eq_some_iff {m : Char} (hm : isAsciiBlank m = false) {s rest : List Char} :
    Declaration.afterMark? m s = some rest ↔ Starts (gap * mark m) s rest := by
  rw [starts_mul_iff]
  constructor
  · intro h
    unfold Declaration.afterMark? at h
    split at h
    next c tail hSkip =>
      split at h
      next hMark =>
        obtain rfl := Option.some.inj h
        refine ⟨_, starts_gap_skipBlanks s, starts_mark_iff.mpr ?_⟩
        rw [hSkip, hMark]
      next => cases h
    · cases h
  · rintro ⟨middle, hGap, hMark⟩
    have hSkip : Declaration.skipBlanks middle = middle := dropWhile_of_starts_mark hm hMark
    rw [Declaration.afterMark?, skipBlanks_of_starts_gap hGap, hSkip, starts_mark_iff.mp hMark]
    exact if_pos rfl

/-- A character that does not occur in what stands at the front is the first one behind it as well. -/
theorem head?_of_starts {p : Char → Bool} {c : Char} {s rest : List Char} (hc : p c = false)
    (h : Starts {t | ∀ d ∈ t, p d = true} s rest) (hHead : s.head? = some c) :
    rest.head? = some c := by
  obtain ⟨t, ht, rfl⟩ := h
  cases t with
  | nil => exact hHead
  | cons d t =>
      obtain rfl := Option.some.inj hHead
      exact absurd (hc.symm.trans (ht d List.mem_cons_self)) (by decide)

/-- No comma stands in front of the last name. -/
theorem ne_comma_of_starts_lastName {c : Char} {s rest : List Char}
    (h : Starts lastName (c :: s) rest) : c ≠ ',' := by
  rintro rfl
  have hGap : ∀ {t behind : List Char}, Starts gap t behind → t.head? = some ',' →
      behind.head? = some ',' := head?_of_starts (p := isAsciiBlank) (by decide)
  have hName : ∀ {t behind : List Char}, Starts identifier t behind → t.head? = some ',' →
      behind.head? = some ',' := head?_of_starts (p := isAsciiWord) (by decide)
  obtain ⟨first, hFirst, h⟩ := starts_mul_iff.mp h
  obtain ⟨second, hSecond, h⟩ := starts_mul_iff.mp h
  obtain ⟨third, hThird, h⟩ := starts_mul_iff.mp h
  obtain ⟨fourth, hParen, -⟩ := starts_mul_iff.mp h
  have hLast := hGap hThird (hName hSecond (hGap hFirst rfl))
  rw [starts_mark_iff.mp hParen] at hLast
  cases hLast

theorem starts_behind_comma {s rest : List Char} (h : Starts separated s rest) :
    Starts lastName ((Declaration.afterMark? ',' s).getD s) rest := by
  have hIff := @afterMark?_eq_some_iff ',' (by decide) s
  obtain ⟨middle, hGap, hMiddle⟩ := starts_mul_iff.mp h
  obtain ⟨behind, hComma, hRest⟩ := starts_mul_iff.mp hMiddle
  rcases starts_option_iff.mp hComma with rfl | hMark
  · have hName : Starts lastName s rest := starts_gap_trans hGap hRest
    cases hAfter : Declaration.afterMark? ',' s with
    | none => exact hName
    | some tail =>
        obtain ⟨front, hFront, hTail⟩ := starts_mul_iff.mp (hIff.mp hAfter)
        have hSkip : Declaration.skipBlanks front = front :=
          dropWhile_of_starts_mark (by decide) hTail
        have hLast := isTolerant_ending.name.blanks hName
        rw [skipBlanks_of_starts_gap hFront, hSkip, starts_mark_iff.mp hTail] at hLast
        exact absurd rfl (ne_comma_of_starts_lastName hLast)
  · have hAfter := hIff.mpr (starts_mul_iff.mpr ⟨middle, hGap, hMark⟩)
    rwa [hAfter]

/-- The parameters are read up to the brace if they are those of a heading. -/
theorem parameters?_iff {s rest : List Char} :
    (∃ d, Declaration.parameters? s = some d ∧ d.behind = rest) ↔ Starts parameters s rest := by
  constructor
  · rintro ⟨d, h, rfl⟩
    simp only [Declaration.parameters?, Option.bind_eq_bind, Option.bind_eq_some_iff,
      Option.some.injEq] at h
    obtain ⟨afterParen, hParen, behind, hBrace, rfl⟩ := h
    have hName : ∀ t, Starts identifier (Declaration.skipBlanks t) (Declaration.name t).2 :=
      fun t => starts_identifier_dropWhile _
    have hEnding : Starts ending
        (Declaration.name ((Declaration.afterMark? ',' (Declaration.name s).2).getD
          (Declaration.name s).2)).2 behind := by
      obtain ⟨middle, hGap, hMark⟩ :=
        starts_mul_iff.mp ((afterMark?_eq_some_iff (by decide)).mp hParen)
      exact starts_mul_iff.mpr ⟨middle, hGap, starts_mul_iff.mpr
        ⟨afterParen, hMark, (afterMark?_eq_some_iff (by decide)).mp hBrace⟩⟩
    have hLast : Starts lastName ((Declaration.afterMark? ',' (Declaration.name s).2).getD
        (Declaration.name s).2) behind :=
      starts_mul_iff.mpr ⟨_, starts_gap_skipBlanks _, starts_mul_iff.mpr ⟨_, hName _, hEnding⟩⟩
    have hSeparated : Starts separated (Declaration.name s).2 behind := by
      cases hComma : Declaration.afterMark? ',' (Declaration.name s).2 with
      | none =>
          rw [hComma] at hLast
          exact starts_separator_mul hLast
      | some tail =>
          rw [hComma] at hLast
          obtain ⟨middle, hGap, hMark⟩ :=
            starts_mul_iff.mp ((afterMark?_eq_some_iff (by decide)).mp hComma)
          exact starts_mul_iff.mpr ⟨middle, hGap, starts_mul_iff.mpr
            ⟨tail, starts_option_iff.mpr (.inr hMark), hLast⟩⟩
    exact starts_mul_iff.mpr ⟨_, starts_gap_skipBlanks s, starts_mul_iff.mpr ⟨_, hName s, hSeparated⟩⟩
  · intro h
    have hSeparated := isTolerant_ending.name.separator.starts_behind_name h
    have hEnding := isTolerant_ending.starts_behind_name (starts_behind_comma hSeparated)
    obtain ⟨middle, hGap, hMark⟩ := starts_mul_iff.mp hEnding
    obtain ⟨afterParen, hParen, hBrace⟩ := starts_mul_iff.mp hMark
    have hFirst : Declaration.afterMark? ')' _ = some afterParen :=
      (afterMark?_eq_some_iff (by decide)).mpr (starts_mul_iff.mpr ⟨middle, hGap, hParen⟩)
    have hSecond : Declaration.afterMark? '\x7b' afterParen = some rest :=
      (afterMark?_eq_some_iff (by decide)).mpr hBrace
    simp only [Declaration.parameters?, hFirst, hSecond, Option.bind_eq_bind, Option.bind_some,
      Option.some.injEq, exists_eq_left']

theorem sameAsciiLetter_iff {c d : Char} :
    sameAsciiLetter c d = true ↔ c.toLower = d.toLower := by
  rw [← Char.toNat_inj, toNat_toLower, toNat_toLower]
  exact decide_eq_true_iff

theorem afterWord?_eq_some_iff {word : String} {s rest : List Char} :
    Declaration.afterWord? word s = some rest ↔ Starts (spelled word) s rest := by
  constructor
  · intro h
    obtain ⟨front, rfl, hFront⟩ := Declaration.exists_of_afterWord? h
    exact ⟨front, hFront, rfl⟩
  · rintro ⟨front, hFront, rfl⟩
    change front.map Char.toLower = word.toList.map Char.toLower at hFront
    unfold Declaration.afterWord?
    generalize word.toList = letters at hFront ⊢
    induction letters generalizing front with
    | nil =>
        obtain rfl := List.map_eq_nil_iff.mp hFront
        rfl
    | cons w letters ih =>
        cases front with
        | nil => cases hFront
        | cons c front =>
            obtain ⟨hc, hRest⟩ := List.cons.inj hFront
            rw [List.cons_append, after?, if_pos (sameAsciiLetter_iff.mpr hc.symm)]
            exact ih front hRest

/-- A word that starts with a letter stands behind no blanks. -/
theorem skipBlanks_of_starts_spelled {s rest : List Char}
    (h : Starts (spelled "FindProxyForURL") s rest) : Declaration.skipBlanks s = s := by
  obtain ⟨front, hFront, rfl⟩ := h
  change front.map Char.toLower = "findproxyforurl".toList at hFront
  cases front with
  | nil => cases hFront
  | cons c front =>
      obtain ⟨hc, -⟩ : c.toLower = 'f' ∧ _ := List.cons.inj hFront
      apply List.dropWhile_cons_of_neg
      intro hBlank
      have hCode : asciiLowerCode c.toNat = 102 := by
        rw [← toNat_toLower, hc]
        rfl
      simp only [isAsciiBlank, Bool.or_eq_true, Bool.and_eq_true, decide_eq_true_eq] at hBlank
      have hLow : asciiLowerCode c.toNat = c.toNat := by
        apply if_neg
        simp only [Bool.and_eq_true, decide_eq_true_eq]
        omega
      omega

/-- A heading up to the parenthesis that opens its parameters. -/
def opening : Language Char :=
  spelled "function" * (space * (spelled "FindProxyForURL" * (gap * mark '(')))

theorem heading_eq_mul : heading = opening * parameters := by
  simp only [heading, opening, mul_assoc]

/-- A declaration at the front of a text is read from its parameters, behind the parenthesis. -/
theorem atFront?_eq_some_iff {s : List Char} {d : Declaration} :
    Declaration.atFront? s = some d ↔
      ∃ inner, Starts opening s inner ∧ Declaration.parameters? inner = some d := by
  constructor
  · intro h
    simp only [Declaration.atFront?, Option.bind_eq_bind, Option.bind_eq_some_iff] at h
    obtain ⟨afterKeyword, hKeyword, h⟩ := h
    split at h
    · cases h
    next hSome =>
      obtain ⟨afterName, hName, h⟩ := Option.bind_eq_some_iff.mp h
      obtain ⟨afterParen, hParen, hParameters⟩ := Option.bind_eq_some_iff.mp h
      have hSpace : Starts space afterKeyword (Declaration.skipBlanks afterKeyword) := by
        refine ⟨afterKeyword.takeWhile isAsciiBlank, ⟨?_, ?_⟩, List.takeWhile_append_dropWhile.symm⟩
        · exact fun hNil => hSome (List.isEmpty_iff.mpr hNil)
        · exact fun c hc => List.all_eq_true.mp List.all_takeWhile c hc
      refine ⟨afterParen, ?_, hParameters⟩
      exact starts_mul_iff.mpr ⟨afterKeyword, afterWord?_eq_some_iff.mp hKeyword, starts_mul_iff.mpr
        ⟨_, hSpace, starts_mul_iff.mpr ⟨afterName, afterWord?_eq_some_iff.mp hName,
          (afterMark?_eq_some_iff (by decide)).mp hParen⟩⟩⟩
  · rintro ⟨inner, h, hParameters⟩
    obtain ⟨_, hKeyword, hBehind⟩ := starts_mul_iff.mp h
    obtain ⟨name, ⟨g, ⟨hSome, hBlanks⟩, rfl⟩, hWords⟩ := starts_mul_iff.mp hBehind
    obtain ⟨afterName, hName, hMark⟩ := starts_mul_iff.mp hWords
    have hWord := afterWord?_eq_some_iff.mpr hKeyword
    have hSkip : Declaration.skipBlanks (g ++ name) = name :=
      (skipBlanks_of_starts_gap ⟨g, hBlanks, rfl⟩).trans (skipBlanks_of_starts_spelled hName)
    have hFilled : ((g ++ name).takeWhile isAsciiBlank).isEmpty = false := by
      rw [List.isEmpty_eq_false_iff, List.takeWhile_append_of_pos hBlanks]
      exact List.append_ne_nil_of_left_ne_nil hSome _
    have hParen : Declaration.afterMark? '(' afterName = some inner :=
      (afterMark?_eq_some_iff (by decide)).mpr hMark
    simp only [Declaration.atFront?, hWord, hFilled, hSkip, afterWord?_eq_some_iff.mpr hName, hParen,
      hParameters, Option.bind_eq_bind, Option.bind_some]
    rfl

/-- A declaration is read from the front of a text exactly where a heading stands. -/
theorem atFront?_iff {s rest : List Char} :
    (∃ d, Declaration.atFront? s = some d ∧ d.behind = rest) ↔ Starts heading s rest := by
  rw [heading_eq_mul, starts_mul_iff]
  constructor
  · rintro ⟨d, h, hBehind⟩
    obtain ⟨inner, hOpening, hRead⟩ := atFront?_eq_some_iff.mp h
    exact ⟨inner, hOpening, parameters?_iff.mp ⟨d, hRead, hBehind⟩⟩
  · rintro ⟨inner, hOpening, hParameters⟩
    obtain ⟨d, hRead, hBehind⟩ := parameters?_iff.mpr hParameters
    exact ⟨d, atFront?_eq_some_iff.mpr ⟨inner, hOpening, hRead⟩, hBehind⟩

/-- What stands behind the first heading in a text. -/
def IsBehindFirst (s behind : List Char) : Prop :=
  ∃ front rest, s = front ++ rest ∧ Starts heading rest behind ∧
    ∀ front' rest' behind', s = front' ++ rest' → Starts heading rest' behind' →
      front.length ≤ front'.length

/-- The declaration that is found in a text is read where its first heading stands. -/
theorem find?_eq_some_iff {s : List Char} {d : Declaration} :
    Declaration.find? s = some d ↔
      ∃ front rest, s = front ++ rest ∧ Declaration.atFront? rest = some d ∧
        ∀ front' rest' behind', s = front' ++ rest' → Starts heading rest' behind' →
          front.length ≤ front'.length := by
  induction s with
  | nil =>
      refine iff_of_false nofun ?_
      rintro ⟨front, rest, hSplit, hRead, -⟩
      obtain ⟨-, rfl⟩ := List.append_eq_nil_iff.mp hSplit.symm
      cases hRead
  | cons c s ih =>
      rw [Declaration.find?]
      cases hFront : Declaration.atFront? (c :: s) with
      | some e =>
          rw [Option.some_or]
          constructor
          · intro h
            exact ⟨[], c :: s, rfl, hFront.trans h, fun _ _ _ _ _ => Nat.zero_le _⟩
          · rintro ⟨front, rest, hSplit, hRead, hFirst⟩
            have hLength := hFirst [] _ _ rfl (atFront?_iff.mp ⟨e, hFront, rfl⟩)
            obtain rfl := List.length_eq_zero_iff.mp (Nat.le_zero.mp hLength)
            rw [← hFront, hSplit, List.nil_append, hRead]
      | none =>
          have hNone : ∀ behind, ¬ Starts heading (c :: s) behind := by
            intro behind hBehind
            obtain ⟨e, hRead, -⟩ := atFront?_iff.mpr hBehind
            cases hFront.symm.trans hRead
          rw [Option.none_or, ih]
          constructor
          · rintro ⟨front, rest, rfl, hRead, hFirst⟩
            refine ⟨c :: front, rest, rfl, hRead, fun front' rest' behind' hSplit hRest => ?_⟩
            rcases List.append_eq_cons_iff.mp hSplit.symm with ⟨-, rfl⟩ | ⟨inner, rfl, hTail⟩
            · exact absurd hRest (hNone behind')
            · exact Nat.succ_le_succ (hFirst inner rest' behind' hTail hRest)
          · rintro ⟨front, rest, hSplit, hRead, hFirst⟩
            rcases List.append_eq_cons_iff.mp hSplit.symm with ⟨-, rfl⟩ | ⟨inner, rfl, rfl⟩
            · cases hFront.symm.trans hRead
            · refine ⟨inner, rest, rfl, hRead, fun front' rest' behind' hSplit' hRest => ?_⟩
              exact Nat.le_of_succ_le_succ
                (hFirst (c :: front') rest' behind' (congrArg (c :: ·) hSplit') hRest)

/-- The declaration that is found in a text is the one of its first heading. -/
theorem find?_iff {s behind : List Char} :
    (∃ d, Declaration.find? s = some d ∧ d.behind = behind) ↔ IsBehindFirst s behind := by
  constructor
  · rintro ⟨d, h, hBehind⟩
    obtain ⟨front, rest, hSplit, hRead, hFirst⟩ := find?_eq_some_iff.mp h
    exact ⟨front, rest, hSplit, atFront?_iff.mp ⟨d, hRead, hBehind⟩, hFirst⟩
  · rintro ⟨front, rest, hSplit, hHeading, hFirst⟩
    obtain ⟨d, hRead, hBehind⟩ := atFront?_iff.mpr hHeading
    exact ⟨d, find?_eq_some_iff.mpr ⟨front, rest, hSplit, hRead, hFirst⟩, hBehind⟩

end Heading

end ProxyRouting
