import ProxyRouting.Pattern.Wildcard

/-! What a wildcard means, said without regular expressions, and that its regular expression means
the same: the text made from any wildcard is read, and what was read matches the hosts that fit. -/
namespace ProxyRouting.Wildcard

open Regex

/-- Whether `next` accepts what is left of a text behind some run of characters without a line
break, which may be empty. -/
def behindRun (next : List Char → Bool) : List Char → Bool
  | [] => next []
  | x :: rest => next (x :: rest) || (x != '\n' && behindRun next rest)

/-- Whether a host fits a wildcard: an asterisk stands for a run without a line break, a question
mark for one character that is no line break, and all else for a form of the same letter. -/
def fits : List Char → List Char → Bool
  | [], host => host.isEmpty
  | c :: pattern, host =>
    if c = '*' then behindRun (fits pattern) host
    else match host with
      | [] => false
      | x :: rest => (if c = '?' then x != '\n' else Text.sameLetter c x) && fits pattern rest

/-- The state in which the expression of a wildcard is read, `items` being what was read so far, last
first. -/
private def reading (items : List Item) : Reading :=
  { inner := { opening := .plain, flags := { ignoreCase := true }, barrier := none, items } }

private def item (c : Char) : Item :=
  if c = '*' then
    ⟨.rounds .greedy 0 none (.char (.any false)), (Width.exactly 1).rounds 0 none, false⟩
  else if c = '?' then .char (.any false)
  else .char (.code c.toNat .full)

private theorem step_dot (items : List Item) (rest : List Char) :
    (reading items).step '.' rest = .ok (reading (.char (.any false) :: items), rest) := rfl

/-- A repetition is greedy when no mark behind it says otherwise. -/
private theorem step_star (items : List Item) {rest : List Char}
    (h : Reading.appetite rest = (.greedy, rest)) :
    (reading (.char (.any false) :: items)).step '*' rest =
      .ok (reading (item '*' :: items), rest) := by
  change (reading _).repeatWith 0 none rest = _
  simp only [Reading.repeatWith, h]
  rfl

private theorem step_escaped (items : List Item) {c : Char} (rest : List Char)
    (h : isSpecial c = true) :
    (reading items).step '\\' (c :: rest) =
      .ok (reading (.char (.code c.toNat .full) :: items), rest) := by
  simp only [isSpecial, List.contains_eq_mem, decide_eq_true_eq, List.mem_cons, List.not_mem_nil,
    or_false] at h
  rcases h with rfl | rfl | rfl | rfl | rfl | rfl | rfl | rfl | rfl | rfl | rfl | rfl <;> rfl

private theorem step_plain (items : List Item) {c : Char} (rest : List Char)
    (h : isSpecial c = false) (hStar : c ≠ '*') (hMark : c ≠ '?') :
    (reading items).step c rest = .ok (reading (.char (.code c.toNat .full) :: items), rest) := by
  simp only [isSpecial, List.contains_eq_mem, decide_eq_false_iff_not, List.mem_cons,
    List.not_mem_nil, or_false, not_or] at h
  obtain ⟨hDot, hPlus, hCaret, hDollar, hOpen, hClose, hParen, hEnd, hBar, hSet, hSetEnd, hSlash⟩ := h
  have hVerbose : (reading items).flags.verbose = false := rfl
  simp only [Reading.step, hDot, hPlus, hCaret, hDollar, hOpen, hParen, hEnd, hBar, hSet, hSlash,
    hStar, hMark, hVerbose, if_false, Bool.false_and, Bool.false_eq_true]
  rfl

/-- No part of the expression starts with a mark that changes the repetition in front of it. -/
private theorem appetite_expression (pattern : List Char) :
    Reading.appetite (pattern.flatMap charRegex ++ ['$']) =
      (.greedy, pattern.flatMap charRegex ++ ['$']) := by
  cases pattern with
  | nil => rfl
  | cons c pattern =>
      rw [List.flatMap_cons, charRegex]
      split
      · rfl
      · split
        · rfl
        · split
          · rfl
          next hMark hSpecial =>
            have hPlus : c ≠ '+' := by
              rintro rfl
              exact hSpecial rfl
            unfold Reading.appetite
            split
            · simp_all
            · simp_all
            · rfl

private theorem readAll_cons {fuel : Nat} {r next : Reading} {c : Char} {rest behind : List Char}
    (h : r.step c rest = .ok (next, behind)) :
    r.readAll (fuel + 1) (c :: rest) = next.readAll fuel behind := by
  rw [Reading.readAll, h]
  rfl

private theorem length_charRegex_pos (c : Char) : 1 ≤ (charRegex c).length := by
  unfold charRegex
  split
  · simp
  · split
    · simp
    · split <;> simp

/-- What stands for a character other than an asterisk is read in one step. -/
private theorem readAll_charRegex (items : List Item) (tail : List Char) (fuel : Nat) {c : Char}
    (hStar : c ≠ '*') :
    (reading items).readAll (fuel + 1) (charRegex c ++ tail) =
      (reading (item c :: items)).readAll fuel tail := by
  by_cases hMark : c = '?'
  · subst hMark
    exact readAll_cons (step_dot items tail)
  · have hItem : item c = .char (.code c.toNat .full) := by simp [item, hStar, hMark]
    rw [hItem, charRegex, if_neg hStar, if_neg hMark]
    by_cases hSpecial : isSpecial c = true
    · rw [if_pos hSpecial]
      exact readAll_cons (step_escaped items tail hSpecial)
    · rw [if_neg hSpecial]
      exact readAll_cons (step_plain items tail (by simpa using hSpecial) hStar hMark)

/-- All of the expression is read, one item for each character of the wildcard. -/
private theorem readAll_expression (pattern : List Char) (items : List Item) (fuel : Nat)
    (h : (pattern.flatMap charRegex ++ ['$']).length ≤ fuel) :
    (reading items).readAll fuel (pattern.flatMap charRegex ++ ['$']) =
      .ok (reading (.anchor .lastLineEnd :: ((pattern.map item).reverse ++ items))) := by
  induction pattern generalizing items fuel with
  | nil =>
      cases fuel with
      | zero => simp at h
      | succ fuel => cases fuel <;> rfl
  | cons c pattern ih =>
      have hItems : ((c :: pattern).map item).reverse ++ items =
          (pattern.map item).reverse ++ (item c :: items) := by simp
      have hAppetite := appetite_expression pattern
      simp only [List.flatMap_cons, List.append_assoc] at h ⊢
      rw [hItems]
      generalize pattern.flatMap charRegex ++ ['$'] = tail at h hAppetite ih ⊢
      by_cases hStar : c = '*'
      · subst hStar
        obtain ⟨fuel, rfl⟩ : ∃ n, fuel = n + 2 := ⟨fuel - 2, by simp [charRegex] at h; omega⟩
        change Reading.readAll (fuel + 2) _ ('.' :: '*' :: tail) = _
        rw [readAll_cons (step_dot items _), readAll_cons (step_star items hAppetite)]
        exact ih _ _ (by simpa [charRegex] using h)
      · have hRead : (reading items).readAll fuel (charRegex c ++ tail) =
            (reading (item c :: items)).readAll (fuel - 1) tail := by
          obtain ⟨fuel, rfl⟩ : ∃ n, fuel = n + 1 := by
            refine ⟨fuel - 1, ?_⟩
            have := length_charRegex_pos c
            simp only [List.length_append] at h
            omega
          exact readAll_charRegex items tail fuel hStar
        rw [hRead]
        refine ih _ _ ?_
        have := length_charRegex_pos c
        simp only [List.length_append] at h
        omega

/-- What a wildcard is read as: its parts in order between the two ends of the text. -/
private theorem read_toRegex (pattern : List Char) :
    Regex.read { ignoreCase := true } (toRegex pattern) =
      .ok (.seq (.anchor .textStart)
        (.sequence (pattern.map (Item.node ∘ item) ++ [.anchor .lastLineEnd]))) := by
  have hStart : (reading []).step '^' (pattern.flatMap charRegex ++ ['$']) =
      .ok (reading [.anchor .textStart], pattern.flatMap charRegex ++ ['$']) := rfl
  change (do (← (reading []).readAll (toRegex pattern).length (toRegex pattern)).finish) = _
  have hLength : (toRegex pattern).length =
      (pattern.flatMap charRegex ++ ['$']).length + 1 := by simp [toRegex]
  rw [hLength, toRegex, readAll_cons hStart, readAll_expression pattern _ _ (Nat.le_refl _)]
  change Except.ok (Node.sequence ((reading _).inner.items.reverse.map Item.node)) = _
  simp [reading, Node.sequence, Item.anchor]

/-- As many rounds of a character that is no line break as what follows allows. -/
private theorem isSome_moreFirst (text : List Char) (next : List Char → Bool) (k : Follow)
    (hk : ∀ d, (k d).isSome = next d.after) (n : Nat) (last : Option Nat) (c : Cursor)
    (hn : c.after.length ≤ n) (hLast : last ≠ some c.pos) :
    (Step.moreFirst (Node.run text (.char (.any false))) n last c k).isSome =
      behindRun next c.after := by
  induction n generalizing last c with
  | zero =>
      have hEmpty : c.after = [] := List.length_eq_zero_iff.mp (Nat.le_zero.mp hn)
      rw [Step.moreFirst, hk, hEmpty, behindRun]
  | succ n ih =>
      rw [Step.moreFirst, if_neg hLast, Option.orElse_eq_or, Option.isSome_or, hk, Node.run]
      cases ha : c.after with
      | nil => simp [behindRun]
      | cons x rest =>
          simp only [behindRun, CharTest.holds, Bool.false_or]
          by_cases hx : x = '\n'
          · simp [hx]
          -- A round that passed a character started elsewhere, so it is not ruled out as empty.
          · have hRound := ih (some c.pos) (c.pass x rest)
              (by simp only [ha, List.length_cons] at hn; simp only [Cursor.pass]; omega)
              (by simp [Cursor.pass])
            have hLetter : (x != '\n') = true := bne_iff_ne.mpr hx
            rw [if_pos hLetter, hRound, hLetter, Bool.true_and, Bool.or_comm]
            rfl

/-- What is read for a wildcard matches what is left of a host when that fits. -/
private theorem isSome_run_pattern (text pattern : List Char) (c : Cursor) :
    (Node.run text (.sequence (pattern.map (Item.node ∘ item) ++ [.anchor .lastLineEnd])) c
      fun d => if d.after.isEmpty then some d else none).isSome = fits pattern c.after := by
  induction pattern generalizing c with
  | nil =>
      simp only [List.map_nil, List.nil_append, Node.sequence, List.foldr_cons, List.foldr_nil,
        Node.run, Anchor.holds, fits]
      by_cases hAfter : c.after = []
      · simp [hAfter]
      · simp [hAfter, List.isEmpty_iff]
  | cons x pattern ih =>
      simp only [List.map_cons, List.cons_append, Node.sequence, List.foldr_cons, Node.run]
      simp only [Node.sequence] at ih
      by_cases hStar : x = '*'
      · subst hStar
        exact isSome_moreFirst text (fits pattern) _ ih _ _ _ (by simp [Step.spare]) (by simp)
      · have hItem : (item x).node = .char (if x = '?' then .any false else .code x.toNat .full) := by
          unfold item
          split
          · contradiction
          · split <;> rfl
        simp only [fits, if_neg hStar, Function.comp_apply, hItem, Node.run]
        cases c.after with
        | nil => rfl
        | cons y rest =>
            have hHolds : (if x = '?' then CharTest.any false else .code x.toNat .full).holds y =
                if x = '?' then y != '\n' else Text.sameLetter x y := by
              split <;> rfl
            simp only [hHolds]
            cases (if x = '?' then y != '\n' else Text.sameLetter x y) with
            | false => rfl
            | true => rw [if_pos rfl, ih, Bool.true_and, Cursor.pass]

/-- A host is matched by the expression of a wildcard, whatever characters that is made of, exactly
when it fits the wildcard. -/
theorem hasMatch_eq_fits (pattern host : List Char) :
    hasMatch pattern host = .ok (fits pattern host) := by
  rw [hasMatch, read_toRegex]
  change Except.ok ((Node.run host (.sequence _) (.start host) _).isSome) = _
  rw [isSome_run_pattern]
  rfl

end ProxyRouting.Wildcard
