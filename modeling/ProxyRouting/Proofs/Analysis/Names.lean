import Mathlib.Data.List.DropRight
import ProxyRouting.Analysis.Mistake
import ProxyRouting.Proofs.Text.Ends

/-! The calls in a script. A call is a word and an opening parenthesis with blanks between them. The
name that is read off a call is not always its word: of the blanks only those at the end that are
spaces, tabs or line ends are taken away, so that others stay in the name. -/
namespace ProxyRouting

namespace Text

variable {c : Char}

/-- The numbers of the blanks. -/
def blankCodes : List Nat :=
  List.range' 9 5 ++ List.range' 28 5 ++ [0x85, 0xA0, 0x1680] ++ List.range' 0x2000 11 ++
    [0x2028, 0x2029, 0x202F, 0x205F, 0x3000]

theorem toNat_mem_blankCodes (h : isBlank c = true) : c.toNat ∈ blankCodes := by
  simp only [isBlank, Bool.or_eq_true, Bool.and_eq_true, decide_eq_true_eq] at h
  simp only [blankCodes, List.mem_append, List.mem_range'_1, List.mem_cons, List.not_mem_nil,
    or_false]
  omega

/-- A blank is no word character. -/
theorem isWord_of_isBlank (h : isBlank c = true) : isWord c = false := by
  have hNone : ∀ n ∈ blankCodes, isWord (Char.ofNat n) = false := by decide +kernel
  have hChar := hNone c.toNat (toNat_mem_blankCodes h)
  rwa [Char.ofNat_toNat] at hChar

end Text

/-- A blank that belongs to the end of a call and not to its name. -/
def isGap (c : Char) : Bool := c = ' ' || c = '\t' || c = '\r' || c = '\n'

theorem isBlank_of_isGap {c : Char} (h : isGap c = true) : Text.isBlank c = true := by
  simp only [isGap, Bool.or_eq_true, decide_eq_true_eq] at h
  rcases h with ((rfl | rfl) | rfl) | rfl <;> rfl

theorem isCallEnd_eq (c : Char) : Mistake.isCallEnd c = (c = '(' || isGap c) := by
  simp only [Mistake.isCallEnd, isGap, Bool.or_assoc]

/-- A call in its parts. The blanks in front of the parenthesis are those that get into the name, up
to the last one that is none of a gap, and the gap behind them. -/
structure Call where
  word : List Char
  stray : List Char
  gap : List Char
  word_nonempty : word ≠ []
  word_isWord : ∀ c ∈ word, Text.isWord c = true
  stray_isBlank : ∀ c ∈ stray, Text.isBlank c = true
  stray_last : ∀ c ∈ stray.getLast?, isGap c = false
  gap_isGap : ∀ c ∈ gap, isGap c = true

namespace Call

def toChars (call : Call) : List Char := call.word ++ (call.stray ++ call.gap ++ ['('])

/-- The name that is read off a call. -/
def name (call : Call) : List Char := call.word ++ call.stray

/-- The call stands at the front of a text. -/
def Leads (call : Call) (s : List Char) : Prop := call.toChars <+: s

/-- The call stands somewhere in a text, and its word does not start inside another one. -/
def StandsIn (call : Call) (s : List Char) : Prop :=
  ∃ front rest, s = front ++ rest ∧ (∀ c ∈ front.getLast?, Text.isWord c = false) ∧ call.Leads rest

/-- The call stands somewhere in a text that may follow a word character. -/
def StandsBehind (call : Call) (afterWord : Bool) (s : List Char) : Prop :=
  ∃ front rest, s = front ++ rest ∧ (front = [] → afterWord = false) ∧
    (∀ c ∈ front.getLast?, Text.isWord c = false) ∧ call.Leads rest

section Parts

variable (call : Call)

theorem name_nonempty : call.name ≠ [] := List.append_ne_nil_of_left_ne_nil call.word_nonempty _

theorem isBlank_of_mem {c : Char} (hc : c ∈ call.stray ++ call.gap) : Text.isBlank c = true := by
  rcases List.mem_append.mp hc with hStray | hGap
  · exact call.stray_isBlank c hStray
  · exact isBlank_of_isGap (call.gap_isGap c hGap)

/-- Nothing gets into a name but word characters and blanks. -/
theorem not_mem_name {c : Char} (hWord : Text.isWord c = false) (hBlank : Text.isBlank c = false) :
    c ∉ call.name := by
  rw [name, List.mem_append, not_or]
  exact ⟨Text.not_mem_of_forall call.word_isWord hWord,
    Text.not_mem_of_forall call.stray_isBlank hBlank⟩

/-- A name is made of word characters when no blanks get into it. -/
theorem name_isWord_iff : (∀ c ∈ call.name, Text.isWord c = true) ↔ call.stray = [] := by
  constructor
  · intro hWord
    refine List.eq_nil_iff_forall_not_mem.mpr fun c hc => ?_
    have hOther := Bool.eq_false_iff.mp (Text.isWord_of_isBlank (call.stray_isBlank c hc))
    exact hOther (hWord c (List.mem_append_right _ hc))
  · intro hNone
    rw [name, hNone, List.append_nil]
    exact call.word_isWord

theorem isCallEnd_of_getLast?_name {c : Char} (hc : c ∈ call.name.getLast?) :
    Mistake.isCallEnd c = false := by
  have hGap : isGap c = false := by
    rw [name, List.getLast?_append] at hc
    rcases Option.or_eq_some_iff.mp hc with hStray | ⟨-, hWord⟩
    · exact call.stray_last c hStray
    · refine Bool.eq_false_iff.mpr fun hGap => ?_
      have hOther := Bool.eq_false_iff.mp (Text.isWord_of_isBlank (isBlank_of_isGap hGap))
      exact hOther (call.word_isWord c (List.mem_of_getLast? hWord))
  have hParen : c ≠ '(' := by
    rintro rfl
    exact call.not_mem_name (by decide) (by decide) (List.mem_of_getLast? hc)
  rw [isCallEnd_eq, hGap, decide_eq_false hParen, Bool.or_self]

/-- What is left of a call without its end is its name. -/
theorem dropEndWhile_toChars : Text.dropEndWhile Mistake.isCallEnd call.toChars = call.name := by
  have hEnd : ∀ c ∈ call.gap ++ ['('], Mistake.isCallEnd c = true := by
    intro c hc
    rw [isCallEnd_eq]
    rcases List.mem_append.mp hc with hGap | hParen
    · rw [call.gap_isGap c hGap, Bool.or_true]
    · rw [List.mem_singleton.mp hParen]
      rfl
  have hParts : call.toChars = call.name ++ (call.gap ++ ['(']) := by
    simp only [toChars, name, List.append_assoc]
  rw [hParts, Text.dropEndWhile_append_of_forall hEnd]
  exact Text.dropEndWhile_eq_self_of_getLast? fun c hc => call.isCallEnd_of_getLast?_name hc

end Parts

section Places

variable (call : Call) {afterWord : Bool} {x : Char} {s : List Char}

theorem isWord_of_leads_cons (h : call.Leads (x :: s)) : Text.isWord x = true := by
  obtain ⟨first, others, hWord⟩ := List.exists_cons_of_ne_nil call.word_nonempty
  rw [Leads, toChars, hWord, List.cons_append] at h
  obtain ⟨rfl, -⟩ := List.cons_prefix_cons.mp h
  exact call.word_isWord first (by rw [hWord]; exact List.mem_cons_self)

theorem not_standsBehind_nil : ¬ call.StandsBehind afterWord [] := by
  rintro ⟨front, rest, hText, -, -, hLeads⟩
  rw [(List.append_eq_nil_iff.mp hText.symm).2, Leads, List.prefix_nil] at hLeads
  exact List.append_ne_nil_of_left_ne_nil call.word_nonempty _ hLeads

theorem standsBehind_cons_iff :
    call.StandsBehind afterWord (x :: s) ↔
      (afterWord = false ∧ call.Leads (x :: s)) ∨ call.StandsBehind (Text.isWord x) s := by
  constructor
  · rintro ⟨front, rest, hText, hFirst, hLast, hLeads⟩
    cases front with
    | nil =>
        rw [hText]
        exact .inl ⟨hFirst rfl, hLeads⟩
    | cons y front =>
        obtain ⟨rfl, rfl⟩ := List.cons.inj hText
        refine .inr ⟨front, rest, rfl, ?_, fun c hc => hLast c ?_, hLeads⟩
        · rintro rfl
          exact hLast x rfl
        · rw [List.getLast?_cons, hc]
          rfl
  · rintro (⟨rfl, hLeads⟩ | ⟨front, rest, rfl, hFirst, hLast, hLeads⟩)
    · exact ⟨[], x :: s, rfl, fun _ => rfl, nofun, hLeads⟩
    · refine ⟨x :: front, rest, rfl, nofun, fun c hc => ?_, hLeads⟩
      rw [List.getLast?_cons] at hc
      cases hEnd : front.getLast? with
      | none =>
          rw [hEnd] at hc
          obtain rfl := Option.some.inj hc
          exact hFirst (List.getLast?_eq_none_iff.mp hEnd)
      | some d =>
          rw [hEnd] at hc
          obtain rfl := Option.some.inj hc
          exact hLast _ hEnd

theorem standsBehind_false_iff : call.StandsBehind false s ↔ call.StandsIn s := by
  simp only [StandsBehind, StandsIn, imp_true_iff, true_and]

end Places

/-- Any word and any blanks in front of a parenthesis make a call. -/
theorem exists_of_blanks {word blanks : List Char} (hSome : word ≠ [])
    (hWord : ∀ c ∈ word, Text.isWord c = true) (hBlanks : ∀ c ∈ blanks, Text.isBlank c = true) :
    ∃ call : Call, call.toChars = word ++ (blanks ++ ['(']) := by
  have hParts : blanks.rdropWhile isGap ++ blanks.rtakeWhile isGap = blanks :=
    List.rdropWhile_append_rtakeWhile
  refine ⟨⟨word, blanks.rdropWhile isGap, blanks.rtakeWhile isGap, hSome, hWord, ?_, ?_, ?_⟩, ?_⟩
  · exact fun c hc => hBlanks c ((List.rdropWhile_prefix isGap blanks).subset hc)
  · intro c hc
    obtain ⟨hLeft, rfl⟩ := List.mem_getLast?_eq_getLast hc
    simpa using List.rdropWhile_last_not isGap blanks hLeft
  · exact fun c hc => List.mem_rtakeWhile_imp hc
  · rw [toChars, hParts]

end Call

namespace Mistake

/-- What is found where a word starts is the name of a call that stands there. -/
theorem exists_call_of_calledName? {s name : List Char}
    (hStart : ∃ c ∈ s.head?, Text.isWord c = true) (h : calledName? s = some name) :
    ∃ call : Call, call.Leads s ∧ call.name = name := by
  simp only [calledName?] at h
  split at h
  next behind hParen =>
    have hSome : s.takeWhile Text.isWord ≠ [] := by
      obtain ⟨c, hc, hWord⟩ := hStart
      obtain ⟨rest, rfl⟩ := List.head?_eq_some_iff.mp hc
      rw [List.takeWhile_cons_of_pos hWord]
      exact List.cons_ne_nil c _
    obtain ⟨call, hCall⟩ := Call.exists_of_blanks hSome
      (fun c hc => List.all_eq_true.mp List.all_takeWhile c hc)
      (fun c hc => List.all_eq_true.mp (List.all_takeWhile (l := s.dropWhile Text.isWord)) c hc)
    refine ⟨call, ⟨behind, ?_⟩, ?_⟩
    · rw [hCall, List.append_assoc, List.append_assoc, List.singleton_append, ← hParen,
        List.takeWhile_append_dropWhile, List.takeWhile_append_dropWhile]
    · rw [← call.dropEndWhile_toChars, hCall, ← List.append_assoc]
      exact Option.some.inj h
  next => cases h

/-- The name of a call is found at its front. -/
theorem calledName?_of_leads {call : Call} {s : List Char} (h : call.Leads s) :
    calledName? s = some call.name := by
  obtain ⟨behind, rfl⟩ := h
  have hText : call.toChars ++ behind = call.word ++ (call.stray ++ call.gap ++ '(' :: behind) := by
    simp only [Call.toChars, List.append_assoc, List.singleton_append]
  have hParen : ∀ c ∈ ('(' :: behind).head?, Text.isBlank c = false := by
    intro c hc
    obtain rfl := Option.some.inj hc
    decide
  have hBehind : ∀ c ∈ (call.stray ++ call.gap ++ '(' :: behind).head?, Text.isWord c = false := by
    intro c hc
    rw [List.head?_append] at hc
    rcases Option.or_eq_some_iff.mp hc with hBlank | ⟨-, hMark⟩
    · exact Text.isWord_of_isBlank (call.isBlank_of_mem (List.mem_of_mem_head? hBlank))
    · obtain rfl := Option.some.inj hMark
      decide
  have hWord := Text.takeWhile_append_of_head? call.word_isWord hBehind
  have hRest := Text.dropWhile_append_of_head? call.word_isWord hBehind
  have hBlanks := Text.takeWhile_append_of_head? (fun _ => call.isBlank_of_mem) hParen
  have hLast := Text.dropWhile_append_of_head? (fun _ => call.isBlank_of_mem) hParen
  simp only [calledName?, hText, hWord, hRest, hBlanks, hLast]
  rw [List.append_assoc]
  exact congrArg some call.dropEndWhile_toChars

/-- The names that are found in a text are those of the calls in it. The first character of the text
may go on with a word, so that no call starts there. -/
theorem mem_calledNames_iff {afterWord : Bool} {s name : List Char} :
    name ∈ calledNames afterWord s ↔
      ∃ call : Call, call.StandsBehind afterWord s ∧ call.name = name := by
  induction s generalizing afterWord with
  | nil =>
      refine iff_of_false List.not_mem_nil ?_
      rintro ⟨call, hStands, -⟩
      exact call.not_standsBehind_nil hStands
  | cons x s ih =>
      rw [calledNames, List.mem_append, ih]
      simp only [Call.standsBehind_cons_iff, or_and_right, exists_or]
      refine or_congr_left ?_
      split
      next hStart =>
        simp only [Bool.and_eq_true, Bool.not_eq_true'] at hStart
        rw [Option.mem_toList]
        constructor
        · intro hName
          obtain ⟨call, hLeads, hCall⟩ := exists_call_of_calledName? ⟨x, rfl, hStart.1⟩ hName
          exact ⟨call, ⟨hStart.2, hLeads⟩, hCall⟩
        · rintro ⟨call, ⟨-, hLeads⟩, rfl⟩
          exact calledName?_of_leads hLeads
      next hStart =>
        refine iff_of_false List.not_mem_nil ?_
        rintro ⟨call, ⟨hAfter, hLeads⟩, -⟩
        exact hStart (by simp [call.isWord_of_leads_cons hLeads, hAfter])

end Mistake

end ProxyRouting
