import ProxyRouting.Proofs.Analysis.Calls

/-! Where constructs occur. A phrase is found at the front of a text whenever some choice of its
blanks leads through the text, although blanks are taken as far as they go: what stands behind
blanks in a phrase is a word that starts with no blank. And a search that goes on behind what it has
found finds something wherever something occurs. -/
namespace ProxyRouting

/-- A phrase leads a text, whatever number of characters is taken for its blanks. -/
inductive Piece.Leads : List Piece → List Char → Prop
  | nothing (s : List Char) : Leads [] s
  | word {pieces : List Piece} {rest : List Char} (text : String) (h : Leads pieces rest) :
      Leads (.word text :: pieces) (text.toList ++ rest)
  | blanks {least : Nat} {pieces : List Piece} {run rest : List Char}
      (hRun : ∀ c ∈ run, Text.isBlank c = true) (hLeast : least ≤ run.length)
      (h : Leads pieces rest) : Leads (.blanks least :: pieces) (run ++ rest)

/-- Whether blanks come to an end in front of the pieces: there is none, or a word that starts with
no blank. -/
def Piece.stopsBlanks : List Piece → Bool
  | [] => true
  | .word text :: _ => text.toList.head?.any fun c => !Text.isBlank c
  | .blanks _ :: _ => false

/-- Whether all blanks of a phrase come to an end in front of what stands behind them. -/
def Piece.isSharp : List Piece → Bool
  | [] => true
  | .word _ :: pieces => isSharp pieces
  | .blanks _ :: pieces => stopsBlanks pieces && isSharp pieces

theorem leads_of_phraseLength? {phrase : List Piece} {s : List Char}
    (h : (phraseLength? phrase s).isSome) : Piece.Leads phrase s := by
  induction phrase generalizing s with
  | nil => exact .nothing s
  | cons piece pieces ih =>
      cases piece with
      | word text =>
          obtain ⟨rest, rfl, hRest⟩ := exists_of_phraseLength?_word h
          exact .word text (ih hRest)
      | blanks least =>
          rw [phraseLength?] at h
          split at h
          · cases h
          next hLeast =>
            rw [← List.takeWhile_append_dropWhile (p := Text.isBlank) (l := s)]
            exact .blanks (List.all_eq_true.mp List.all_takeWhile) (Nat.le_of_not_lt hLeast)
              (ih (by simpa using h))

/-- Blanks that are taken as far as they go leave all that leads the text behind them. -/
theorem Piece.Leads.dropWhile {pieces : List Piece} {run rest : List Char}
    (h : Leads pieces rest) (hStops : stopsBlanks pieces = true)
    (hRun : ∀ c ∈ run, Text.isBlank c = true) :
    Leads pieces ((run ++ rest).dropWhile Text.isBlank) := by
  rw [List.dropWhile_append_of_pos hRun]
  cases h with
  | nothing => exact .nothing _
  | word text hBehind =>
      rw [stopsBlanks] at hStops
      cases hText : text.toList with
      | nil => simp [hText] at hStops
      | cons c tail =>
          have hc : ¬ Text.isBlank c = true := by simpa [hText] using hStops
          rw [List.cons_append, List.dropWhile_cons_of_neg hc, ← List.cons_append, ← hText]
          exact .word text hBehind
  | blanks => cases hStops

theorem Piece.Leads.isSome_phraseLength? {phrase : List Piece} {s : List Char}
    (h : Leads phrase s) (hSharp : isSharp phrase = true) : (phraseLength? phrase s).isSome := by
  induction phrase generalizing s with
  | nil => rfl
  | cons piece pieces ih =>
      cases h with
      | word text hBehind =>
          rw [phraseLength?, Text.after?_eq_some_iff.mpr rfl]
          simpa using ih hBehind hSharp
      | @blanks least _ run rest hRun hLeast hBehind =>
          simp only [isSharp, Bool.and_eq_true] at hSharp
          have hTaken : run.length ≤ ((run ++ rest).takeWhile Text.isBlank).length := by
            rw [List.takeWhile_append_of_pos hRun, List.length_append]
            exact Nat.le_add_right _ _
          rw [phraseLength?, if_neg (Nat.not_lt.mpr (Nat.le_trans hLeast hTaken))]
          simpa using ih (hBehind.dropWhile hSharp.1 hRun) hSharp.2

namespace Construct

/-- The construct leads a text, in one of its phrases. -/
def Leads (c : Construct) (s : List Char) : Prop := ∃ phrase ∈ c.phrases, Piece.Leads phrase s

/-- The construct stands somewhere in a text. -/
def Occurs (c : Construct) (s : List Char) : Prop := ∃ t, t <:+ s ∧ c.Leads t

theorem isSharp_of_mem_all :
    ∀ c ∈ all, ∀ phrase ∈ c.phrases, Piece.isSharp phrase = true := by decide

theorem length?_nil_of_mem_all : ∀ c ∈ all, c.length? [] = none := by decide

theorem isSome_length?_iff {c : Construct} (hMem : c ∈ all) {s : List Char} :
    (c.length? s).isSome ↔ c.Leads s := by
  rw [length?, List.findSome?_isSome_iff]
  constructor
  · rintro ⟨phrase, hPhrase, h⟩
    exact ⟨phrase, hPhrase, leads_of_phraseLength? h⟩
  · rintro ⟨phrase, hPhrase, h⟩
    exact ⟨phrase, hPhrase, h.isSome_phraseLength? (isSharp_of_mem_all c hMem phrase hPhrase)⟩

theorem linesFrom_ne_nil {c : Construct} (hMem : c ∈ all) {s t : List Char} (hSuffix : t <:+ s)
    (h : (c.length? t).isSome) (line : Nat) : c.linesFrom 0 line s ≠ [] := by
  induction s generalizing line with
  | nil =>
      rw [List.suffix_nil.mp hSuffix, length?_nil_of_mem_all c hMem] at h
      cases h
  | cons x rest ih =>
      rw [linesFrom]
      -- what is found earlier counts as well, even where it reaches into the occurrence
      cases hFront : c.length? (x :: rest) with
      | some n => exact List.cons_ne_nil _ _
      | none =>
          rcases List.suffix_cons_iff.mp hSuffix with rfl | hInner
          · rw [hFront] at h
            cases h
          · exact ih hInner _

/-- The search finds something exactly when the construct occurs. -/
theorem linesFrom_ne_nil_iff {c : Construct} (hMem : c ∈ all) {s : List Char} (line : Nat) :
    c.linesFrom 0 line s ≠ [] ↔ c.Occurs s := by
  constructor
  · intro h
    refine Classical.byContradiction fun hNot => h (linesFrom_eq_nil (fun t hSuffix => ?_) line)
    rw [← Option.not_isSome_iff_eq_none, isSome_length?_iff hMem]
    exact fun hLeads => hNot ⟨t, hSuffix, hLeads⟩
  · rintro ⟨t, hSuffix, hLeads⟩
    exact linesFrom_ne_nil hMem hSuffix ((isSome_length?_iff hMem).mpr hLeads) line

end Construct

/-- The issues that the analysis of a script reports are those of the constructs that occur in it. -/
theorem exists_mem_securityIssues_iff {script : List Char} {p : Gravity → Prop} :
    (∃ i ∈ securityIssues script, p i.gravity) ↔
      ∃ c ∈ Construct.all, p c.gravity ∧ c.Occurs script := by
  constructor
  · rintro ⟨i, hIssue, hGravity⟩
    obtain ⟨c, hMem, hLine⟩ := List.mem_flatMap.mp hIssue
    obtain ⟨line, hFrom, rfl⟩ := List.mem_map.mp hLine
    exact ⟨c, hMem, hGravity,
      (Construct.linesFrom_ne_nil_iff hMem 1).mp (List.ne_nil_of_mem hFrom)⟩
  · rintro ⟨c, hMem, hGravity, hOccurs⟩
    obtain ⟨line, hLine⟩ := List.exists_mem_of_ne_nil _
      ((Construct.linesFrom_ne_nil_iff hMem 1).mpr hOccurs)
    exact ⟨_, List.mem_flatMap.mpr ⟨c, hMem, List.mem_map.mpr ⟨line, hLine, rfl⟩⟩, hGravity⟩

/-- Critical issues are reported exactly where a critical construct occurs. -/
theorem critical_ne_nil_iff {settings : Settings} {said : Option (List String)}
    {script : List Char} :
    (Analysis.ofScript settings said script).critical ≠ [] ↔
      ∃ c ∈ Construct.all, c.gravity = .critical ∧ c.Occurs script := by
  rw [← exists_mem_securityIssues_iff (p := fun g => g = .critical), Analysis.critical, Ne,
    List.filter_eq_nil_iff]
  simp [Analysis.ofScript]

end ProxyRouting
