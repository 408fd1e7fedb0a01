import Mathlib.Data.List.Infix
import ProxyRouting.Proofs.Analysis.Phrase

/-! The places at which constructs begin. A search that goes on behind what it has found would step
over a construct that begins inside another occurrence of it. The letters of the phrases tell that
none begins there, so the issues of a script are those of all places at which a construct begins,
each with the number of its line. -/
namespace ProxyRouting

namespace Piece

/-- The letters of a phrase: its words, one after another. -/
def letters : List Piece → List Char
  | [] => []
  | .word text :: pieces => text.toList ++ letters pieces
  | .blanks _ :: pieces => letters pieces

/-- The word that a phrase starts with. -/
def opening : List Piece → List Char
  | .word text :: _ => text.toList
  | _ => []

/-- Whether a phrase starts with three letters at least, and has no blanks in its words. -/
def isFirm (phrase : List Piece) : Bool :=
  3 ≤ (opening phrase).length && (letters phrase).all fun c => !Text.isBlank c

/-- Whether no place behind the first letter of a phrase looks like the start of a word. The three
letters there are compared, or those that are left; two would not tell `require` from its end. -/
def isClearOf (word : List Char) (phrase : List Piece) : Bool :=
  (letters phrase).tail.tails.all fun t => t.isEmpty || !(t.take 3).isPrefixOf word

section

variable {phrase found : List Piece} {s : List Char} {n k : Nat}

theorem opening_prefix_letters (phrase : List Piece) : opening phrase <+: letters phrase := by
  unfold opening
  split
  · exact List.prefix_append _ _
  · exact List.nil_prefix

theorem not_isBlank_of_isFirm (h : isFirm phrase = true) {c : Char} (hc : c ∈ letters phrase) :
    Text.isBlank c = false := by
  simpa using List.all_eq_true.mp (Bool.and_eq_true_iff.mp h).2 c hc

theorem three_le_length_of_isFirm (h : isFirm phrase = true) : 3 ≤ (opening phrase).length :=
  of_decide_eq_true (Bool.and_eq_true_iff.mp h).1

theorem Leads.starts_opening (h : Leads phrase s) : opening phrase <+: s := by
  cases h with
  | nothing => exact List.nil_prefix
  | word text _ => exact List.prefix_append _ _
  | blanks => exact List.nil_prefix

/-- What is found of a phrase has the letters of the phrase, and blanks between them. -/
theorem filter_take_of_phraseLength? (hLetters : ∀ c ∈ letters phrase, Text.isBlank c = false)
    (h : phraseLength? phrase s = some n) :
    (s.take n).filter (fun c => !Text.isBlank c) = letters phrase := by
  induction phrase generalizing s n with
  | nil =>
      obtain rfl := Option.some.inj h
      rfl
  | cons piece pieces ih =>
      cases piece with
      | word text =>
          rw [phraseLength?] at h
          split at h
          next rest hAfter =>
            obtain ⟨m, hRest, rfl⟩ := Option.map_eq_some_iff.mp h
            obtain rfl := Text.after?_eq_some_iff.mp hAfter
            simp only [letters, List.mem_append] at hLetters
            have hText : text.toList.filter (fun c => !Text.isBlank c) = text.toList :=
              List.filter_eq_self.mpr fun c hc => by simp [hLetters c (.inl hc)]
            rw [← String.length_toList, List.take_length_add_append, List.filter_append, hText,
              ih (fun c hc => hLetters c (.inr hc)) hRest, letters]
          next => cases h
      | blanks least =>
          rw [phraseLength?] at h
          split at h
          · cases h
          next =>
            obtain ⟨m, hRest, rfl⟩ := Option.map_eq_some_iff.mp h
            have hRun : (s.takeWhile Text.isBlank).filter (fun c => !Text.isBlank c) = [] := by
              refine List.filter_eq_nil_iff.mpr fun c hc => ?_
              simp [List.all_eq_true.mp List.all_takeWhile c hc]
            have hSplit : s.take ((s.takeWhile Text.isBlank).length + m) =
                s.takeWhile Text.isBlank ++ (s.dropWhile Text.isBlank).take m := by
              rw [← List.take_length_add_append, List.takeWhile_append_dropWhile]
            rw [hSplit, List.filter_append, hRun, List.nil_append, ih hLetters hRest, letters]

/-- What is left of an occurrence behind its first character has letters that end the phrase. -/
theorem filter_drop_suffix (hFirm : isFirm found = true) (hFound : phraseLength? found s = some n)
    (hPos : 0 < k) :
    ((s.take n).drop k).filter (fun c => !Text.isBlank c) <:+ (letters found).tail := by
  have hLetters := filter_take_of_phraseLength? (fun c hc => not_isBlank_of_isFirm hFirm hc) hFound
  cases hTake : s.take n with
  | nil => simp
  | cons x rest =>
      have hFilled : Text.isBlank x = false := by
        refine not_isBlank_of_isFirm hFirm ((opening_prefix_letters found).subset ?_)
        have hOpening := (leads_of_phraseLength? (by rw [hFound]; rfl)).starts_opening
        have hLength := three_le_length_of_isFirm hFirm
        have hText : s = x :: (rest ++ s.drop n) := by
          rw [← List.cons_append, ← hTake, List.take_append_drop]
        cases hWord : opening found with
        | nil => simp [hWord] at hLength
        | cons w word =>
            rw [hWord, hText] at hOpening
            rw [(List.cons_prefix_cons.mp hOpening).1]
            exact List.mem_cons_self
      rw [hTake, List.filter_cons_of_pos (by simp [hFilled])] at hLetters
      rw [← hLetters, List.tail_cons]
      obtain ⟨j, rfl⟩ := Nat.exists_eq_add_of_lt hPos
      rw [Nat.zero_add, List.drop_succ_cons]
      exact (List.drop_suffix j rest).filter _

theorem take_filter_of_forall {p : Char → Bool} {s : List Char} {n : Nat}
    (h : ∀ c ∈ s.take n, p c = true) : (s.filter p).take n = s.take n := by
  induction n generalizing s with
  | zero => rfl
  | succ n ih =>
      cases s with
      | nil => rfl
      | cons x s =>
          rw [List.take_succ_cons] at h
          rw [List.filter_cons_of_pos (h x List.mem_cons_self), List.take_succ_cons,
            List.take_succ_cons, ih fun c hc => h c (List.mem_cons_of_mem x hc)]

/-- The letters of a phrase tell that none begins inside an occurrence of it. -/
theorem Leads.not_inside (hFound : phraseLength? found s = some n) (hFirm : isFirm found = true)
    (hPhrase : isFirm phrase = true) (hClear : isClearOf (opening phrase) found = true)
    (hPos : 0 < k) (hInside : k < n) : ¬ Leads phrase (s.drop k) := by
  intro hLeads
  have hOpening := hLeads.starts_opening
  have hLength := three_le_length_of_isFirm hPhrase
  have hLeft : (s.take n).drop k ≠ [] := by
    rw [List.drop_take]
    intro hNil
    rcases List.take_eq_nil_iff.mp hNil with hZero | hNone
    · omega
    · rw [hNone, List.prefix_nil] at hOpening
      simp [hOpening] at hLength
  -- The next three characters, or what is left, are a start of the opening word, hence no blanks.
  have hNext : ((s.take n).drop k).take 3 <+: opening phrase := by
    refine List.prefix_of_prefix_length_le ?_ hOpening ?_
    · rw [List.drop_take]
      exact (List.take_prefix _ _).trans (List.take_prefix _ _)
    · exact Nat.le_trans (List.length_take_le 3 _) hLength
  have hSame : (((s.take n).drop k).filter fun c => !Text.isBlank c).take 3 =
      ((s.take n).drop k).take 3 := by
    refine take_filter_of_forall fun c hc => ?_
    have hLetter := (opening_prefix_letters phrase).subset (hNext.subset hc)
    simp [not_isBlank_of_isFirm hPhrase hLetter]
  have hSuffix := filter_drop_suffix hFirm hFound hPos
  have hTail := List.all_eq_true.mp hClear _ ((List.mem_tails _ _).mpr hSuffix)
  rw [hSame, Bool.or_eq_true, List.isEmpty_iff, Bool.not_eq_true', ← Bool.not_eq_true,
    List.isPrefixOf_iff_prefix] at hTail
  rcases hTail with hNone | hNot
  · rw [hNone] at hSame
    simp [hLeft] at hSame
  · exact hNot hNext

end

end Piece

namespace Construct

theorem isFirm_of_mem_all : ∀ c ∈ all, ∀ phrase ∈ c.phrases, Piece.isFirm phrase = true := by
  decide

theorem isClearOf_of_mem_all : ∀ c ∈ all, ∀ phrase ∈ c.phrases, ∀ found ∈ c.phrases,
    Piece.isClearOf (Piece.opening phrase) found = true := by decide

variable {c : Construct} {s : List Char}

/-- A construct does not begin inside an occurrence of it. -/
theorem not_leads_inside (hMem : c ∈ all) {n k : Nat} (h : c.length? s = some n) (hPos : 0 < k)
    (hInside : k < n) : ¬ c.Leads (s.drop k) := by
  rintro ⟨phrase, hPhrase, hLeads⟩
  obtain ⟨found, hFound, hLength⟩ := List.exists_of_findSome?_eq_some h
  exact Piece.Leads.not_inside hLength (isFirm_of_mem_all c hMem found hFound)
    (isFirm_of_mem_all c hMem phrase hPhrase)
    (isClearOf_of_mem_all c hMem phrase hPhrase found hFound) hPos hInside hLeads

/-- The places of a text at which the construct begins. -/
def places (c : Construct) (s : List Char) : List Nat :=
  (List.range s.length).filter fun i => (c.length? (s.drop i)).isSome

theorem pairwise_places (c : Construct) (s : List Char) : (c.places s).Pairwise (· < ·) :=
  List.pairwise_lt_range.filter _

theorem mem_places_iff (hMem : c ∈ all) {i : Nat} : i ∈ c.places s ↔ c.Leads (s.drop i) := by
  rw [places, List.mem_filter, List.mem_range, isSome_length?_iff hMem]
  refine and_iff_right_of_imp fun hLeads => ?_
  by_contra hBeyond
  rw [List.drop_eq_nil_of_le (Nat.le_of_not_lt hBeyond), ← isSome_length?_iff hMem,
    length?_nil_of_mem_all c hMem] at hLeads
  cases hLeads

theorem places_cons_of_leads (hMem : c ∈ all) {x : Char} (h : c.Leads (x :: s)) :
    c.places (x :: s) = 0 :: (c.places s).map Nat.succ := by
  have hFound : (c.length? ((x :: s).drop 0)).isSome = true := (isSome_length?_iff hMem).mpr h
  rw [places, List.length_cons, List.range_succ_eq_map, List.filter_cons, if_pos hFound,
    List.filter_map]
  rfl

theorem places_cons_of_not_leads (hMem : c ∈ all) {x : Char} (h : ¬ c.Leads (x :: s)) :
    c.places (x :: s) = (c.places s).map Nat.succ := by
  have hNone : ¬ (c.length? ((x :: s).drop 0)).isSome = true := (isSome_length?_iff hMem).not.mpr h
  rw [places, List.length_cons, List.range_succ_eq_map, List.filter_cons, if_neg hNone,
    List.filter_map]
  rfl

theorem count_take_cons (line : Nat) (x : Char) (s : List Char) (i : Nat) :
    line + ((x :: s).take (i + 1)).count '\n' = nextLine line x + (s.take i).count '\n' := by
  rw [List.take_succ_cons, List.count_cons, nextLine]
  by_cases hx : x = '\n'
  · simp [hx]
    omega
  · simp [hx]

/-- The search reports the lines of all places at which the construct begins, when it does not begin
at any of those that are skipped first. -/
theorem linesFrom_eq_map_places (hMem : c ∈ all) {skip line : Nat}
    (hSkip : ∀ i < skip, ¬ c.Leads (s.drop i)) :
    c.linesFrom skip line s = (c.places s).map fun i => line + (s.take i).count '\n' := by
  induction s generalizing skip line with
  | nil => cases skip <;> rfl
  | cons x rest ih =>
      have hShift : ∀ k, (∀ i < k, ¬ c.Leads (rest.drop i)) →
          c.linesFrom k (nextLine line x) rest =
            ((c.places rest).map Nat.succ).map fun i => line + ((x :: rest).take i).count '\n' := by
        intro k hNone
        rw [ih hNone, List.map_map]
        exact List.map_congr_left fun i _ => (count_take_cons line x rest i).symm
      cases skip with
      | succ skip =>
          rw [linesFrom, places_cons_of_not_leads hMem (hSkip 0 (Nat.succ_pos skip))]
          exact hShift skip fun i hi => hSkip (i + 1) (Nat.succ_lt_succ hi)
      | zero =>
          rw [linesFrom]
          cases hLength : c.length? (x :: rest) with
          | none =>
              have hNot : ¬ c.Leads (x :: rest) := by simp [← isSome_length?_iff hMem, hLength]
              rw [places_cons_of_not_leads hMem hNot]
              exact hShift 0 fun i hi => absurd hi (Nat.not_lt_zero i)
          | some n =>
              have hLeads : c.Leads (x :: rest) := by simp [← isSome_length?_iff hMem, hLength]
              rw [places_cons_of_leads hMem hLeads, List.map_cons]
              refine congrArg₂ List.cons rfl (hShift (n - 1) fun i hi => ?_)
              -- What is stepped over lies inside the occurrence that has been found.
              have hInside : i + 1 < n := Nat.add_lt_of_lt_sub hi
              simpa using not_leads_inside hMem hLength (Nat.succ_pos i) hInside

/-- What is reported of a construct that begins at a place of a script. -/
def issueAt (c : Construct) (script : List Char) (i : Nat) : Issue :=
  ⟨c.gravity, c.message ++ " " ++ lineNote (lineAt script i), lineAt script i⟩

end Construct

/-- The issues of a script are those of the constructs, one construct after another in the order of
the table, and for each of them those of all places at which it begins, from the front to the end and
each of them once, with the gravity of the construct and the number of the line of the place. -/
theorem securityIssues_eq_flatMap_places (script : List Char) :
    ∃ places : Construct → List Nat,
      (∀ c ∈ Construct.all, (places c).Pairwise (· < ·) ∧
        ∀ i, i ∈ places c ↔ c.Leads (script.drop i)) ∧
      securityIssues script = Construct.all.flatMap fun c => (places c).map (c.issueAt script) := by
  refine ⟨fun c => c.places script, fun c hMem => ⟨c.pairwise_places script, fun i => ?_⟩, ?_⟩
  · exact Construct.mem_places_iff hMem
  · refine List.flatMap_congr fun c hMem => ?_
    rw [Construct.linesFrom_eq_map_places hMem fun i hi => absurd hi (Nat.not_lt_zero i),
      List.map_map]
    refine List.map_congr_left fun i _ => ?_
    simp only [Function.comp_apply, Construct.issueAt, lineAt, Nat.add_comm 1]

end ProxyRouting
