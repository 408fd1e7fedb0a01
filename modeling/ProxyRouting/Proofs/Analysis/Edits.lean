import Mathlib.Order.Bounds.Defs
import ProxyRouting.Analysis.Distance

/-! The distance of two texts is the least number of changes of a character that turn one into the
other. A recursion over both texts gives a number of changes that is enough, and no change brings a
text nearer to another one by more than one. The table has what the recursion gives for each two
fronts of the texts. -/
namespace ProxyRouting

namespace EditDistance

/-- One character is put into a text, taken out of it, or replaced. -/
inductive Edit : List Char → List Char → Prop where
  | insertion (front : List Char) (c : Char) (rest : List Char) :
      Edit (front ++ rest) (front ++ c :: rest)
  | deletion (front : List Char) (c : Char) (rest : List Char) :
      Edit (front ++ c :: rest) (front ++ rest)
  | substitution (front : List Char) (c d : Char) (rest : List Char) :
      Edit (front ++ c :: rest) (front ++ d :: rest)

/-- A sequence of edits, with its length. -/
inductive Edits : Nat → List Char → List Char → Prop where
  | refl (a : List Char) : Edits 0 a a
  | step {n : Nat} {a b c : List Char} (first : Edit a b) (others : Edits n b c) : Edits (n + 1) a c

section Sequences

variable {n : Nat} {a b : List Char}

theorem Edit.cons (x : Char) (h : Edit a b) : Edit (x :: a) (x :: b) := by
  cases h with
  | insertion front c rest => exact .insertion (x :: front) c rest
  | deletion front c rest => exact .deletion (x :: front) c rest
  | substitution front c d rest => exact .substitution (x :: front) c d rest

theorem Edits.cons (x : Char) (h : Edits n a b) : Edits n (x :: a) (x :: b) := by
  induction h with
  | refl a => exact .refl (x :: a)
  | step first _ ih => exact .step (first.cons x) ih

theorem Edit.reverse (h : Edit a b) : Edit a.reverse b.reverse := by
  cases h with
  | insertion front c rest =>
      simpa using Edit.insertion rest.reverse c front.reverse
  | deletion front c rest =>
      simpa using Edit.deletion rest.reverse c front.reverse
  | substitution front c d rest =>
      simpa using Edit.substitution rest.reverse c d front.reverse

theorem Edits.reverse (h : Edits n a b) : Edits n a.reverse b.reverse := by
  induction h with
  | refl a => exact .refl a.reverse
  | step first _ ih => exact .step first.reverse ih

theorem edits_reverse_iff : Edits n a.reverse b.reverse ↔ Edits n a b := by
  refine ⟨fun h => ?_, Edits.reverse⟩
  simpa only [List.reverse_reverse] using h.reverse

theorem Edits.min {m : Nat} (h : Edits m a b) (hOther : Edits n a b) : Edits (min m n) a b := by
  rcases Nat.le_total m n with hle | hle
  · rwa [Nat.min_eq_left hle]
  · rwa [Nat.min_eq_right hle]

end Sequences

/-- The least number of edits, by what becomes of the first character: it stays or is replaced, one
is put in front of it, or it is taken out. -/
def distance : List Char → List Char → Nat
  | [], b => b.length
  | _ :: a, [] => a.length + 1
  | x :: a, y :: b =>
    min (distance a b + if x = y then 0 else 1)
      (min (distance (x :: a) b + 1) (distance a (y :: b) + 1))
termination_by a b => a.length + b.length

theorem distance_nil_left (b : List Char) : distance [] b = b.length := by rw [distance]

theorem distance_nil_right (a : List Char) : distance a [] = a.length := by
  cases a with
  | nil => rw [distance]
  | cons x a => rw [distance, List.length_cons]

theorem distance_cons_cons (x y : Char) (a b : List Char) :
    distance (x :: a) (y :: b) =
      min (distance a b + if x = y then 0 else 1)
        (min (distance (x :: a) b + 1) (distance a (y :: b) + 1)) := by rw [distance]

theorem distance_self (a : List Char) : distance a a = 0 := by
  induction a with
  | nil => exact distance_nil_left []
  | cons x a ih => rw [distance_cons_cons, ih, if_pos rfl, Nat.zero_min]

/-- So many edits are enough. -/
theorem edits_distance (a b : List Char) : Edits (distance a b) a b := by
  induction a, b using distance.induct with
  | case1 b =>
      rw [distance_nil_left]
      induction b with
      | nil => exact .refl []
      | cons y b ih => exact .step (.insertion [] y []) (ih.cons y)
  | case2 x a =>
      rw [distance_nil_right]
      induction a generalizing x with
      | nil => exact .step (.deletion [] x []) (.refl [])
      | cons y a ih => exact .step (.deletion [] x (y :: a)) (ih y)
  | case3 x a y b hBoth hInsert hDelete =>
      rw [distance_cons_cons]
      refine Edits.min ?_ (Edits.min ?_ ?_)
      · by_cases hSame : x = y
        · subst hSame
          simpa using hBoth.cons x
        · rw [if_neg hSame]
          exact .step (.substitution [] x y a) (hBoth.cons y)
      · exact .step (.insertion [] y (x :: a)) (hInsert.cons y)
      · exact .step (.deletion [] x a) hDelete

section Bounds

variable {a a' : List Char} (x y : Char) (b : List Char)

theorem distance_cons_left_le (a : List Char) : distance (x :: a) b ≤ distance a b + 1 := by
  cases b with
  | nil =>
      rw [distance_nil_right, distance_nil_right]
      exact Nat.le_refl _
  | cons y b =>
      rw [distance_cons_cons]
      omega

theorem distance_cons_right_le (a : List Char) : distance a (y :: b) ≤ distance a b + 1 := by
  cases a with
  | nil =>
      rw [distance_nil_left, distance_nil_left]
      exact Nat.le_refl _
  | cons x a =>
      rw [distance_cons_cons]
      omega

theorem le_distance_cons_left (a : List Char) : distance a b ≤ distance (x :: a) b + 1 := by
  induction b with
  | nil =>
      rw [distance_nil_right, distance_nil_right, List.length_cons]
      omega
  | cons z b ih =>
      have hNext := distance_cons_right_le z b a
      rw [distance_cons_cons]
      omega

theorem distance_replaced_le (a : List Char) : distance (x :: a) b ≤ distance (y :: a) b + 1 := by
  induction b with
  | nil =>
      rw [distance_nil_right, distance_nil_right, List.length_cons, List.length_cons]
      omega
  | cons z b ih =>
      rw [distance_cons_cons, distance_cons_cons]
      split <;> split <;> omega

/-- What brings a text nearer by one at most does so behind a character in front. -/
theorem distance_cons_le_of_le (h : ∀ b, distance a b ≤ distance a' b + 1) :
    distance (x :: a) b ≤ distance (x :: a') b + 1 := by
  -- The other text is one of all that `h` speaks of; it gets shorter where a character is put in.
  induction b with
  | nil =>
      have hLength := h []
      rw [distance_nil_right, distance_nil_right] at hLength
      rw [distance_nil_right, distance_nil_right, List.length_cons, List.length_cons]
      omega
  | cons z b ih =>
      have hBoth := h b
      have hDelete := h (z :: b)
      rw [distance_cons_cons, distance_cons_cons]
      omega

theorem distance_append_le_of_le (front : List Char)
    (h : ∀ b, distance a b ≤ distance a' b + 1) :
    distance (front ++ a) b ≤ distance (front ++ a') b + 1 := by
  induction front generalizing b with
  | nil => exact h b
  | cons x front ih => exact distance_cons_le_of_le x b ih

end Bounds

/-- An edit brings a text nearer to another one by one at most. -/
theorem Edit.distance_le {a a' : List Char} (h : Edit a a') (b : List Char) :
    distance a b ≤ distance a' b + 1 := by
  cases h with
  | insertion front c rest =>
      exact distance_append_le_of_le b front fun t => le_distance_cons_left c t rest
  | deletion front c rest =>
      exact distance_append_le_of_le b front fun t => distance_cons_left_le c t rest
  | substitution front c d rest =>
      exact distance_append_le_of_le b front fun t => distance_replaced_le c d t rest

/-- Fewer edits are not enough. -/
theorem Edits.distance_le {n : Nat} {a b : List Char} (h : Edits n a b) : distance a b ≤ n := by
  induction h with
  | refl a => exact Nat.le_of_eq (distance_self a)
  | step first _ ih => exact Nat.le_trans (first.distance_le _) (Nat.succ_le_succ ih)

theorem isLeast_distance (a b : List Char) : IsLeast {n | Edits n a b} (distance a b) :=
  ⟨edits_distance a b, fun _ h => h.distance_le⟩

/-- A text is read from either end. -/
theorem distance_reverse (a b : List Char) : distance a.reverse b.reverse = distance a b := by
  apply Nat.le_antisymm
  · exact (edits_distance a b).reverse.distance_le
  · exact (edits_reverse_iff.mp (edits_distance a.reverse b.reverse)).distance_le

section Table

variable (x : Char) (s t : List Char)

/-- The distances from a text to each front of another one, but the empty front. Both texts are
given from their ends, so that `t` is what stands in front of the rest of the other text. -/
def row (s : List Char) : List Char → List Char → List Nat
  | _, [] => []
  | t, y :: b => distance s (y :: t) :: row s (y :: t) b

/-- The cells that are computed from the row above are those for one more character. -/
theorem cells_row (b : List Char) :
    cells x (distance (x :: s) t) (distance s t) b (row s t b) = row (x :: s) t b := by
  induction b generalizing t with
  | nil => rfl
  | cons y b ih => rw [row, row, cells, ← distance_cons_cons, ih]

theorem nextRow_row (b : List Char) :
    nextRow b (distance s [] :: row s [] b) x = distance (x :: s) [] :: row (x :: s) [] b := by
  have hFirst : distance s [] + 1 = distance (x :: s) [] := by
    rw [distance_nil_right, distance_nil_right, List.length_cons]
  rw [nextRow, hFirst, cells_row]

theorem range_eq_row (b : List Char) :
    (List.range (b.length + 1)).map (· + t.length) = distance [] t :: row [] t b := by
  -- `t` is what has been passed over, so that the numbers go on from its length.
  induction b generalizing t with
  | nil => simp [row, distance_nil_left]
  | cons y b ih =>
      rw [row, ← ih, List.length_cons, List.range_succ_eq_map, List.map_cons, List.map_map,
        distance_nil_left, Nat.zero_add]
      congr 1
      apply List.map_congr_left
      intro n _
      simp only [Function.comp_apply, List.length_cons]
      omega

theorem foldl_nextRow (a b : List Char) :
    a.foldl (nextRow b) (distance s [] :: row s [] b) =
      distance (a.reverse ++ s) [] :: row (a.reverse ++ s) [] b := by
  induction a generalizing s with
  | nil => rfl
  | cons x a ih => rw [List.foldl_cons, nextRow_row, ih, List.reverse_cons, List.append_assoc]; rfl

theorem lastRow_eq (a b : List Char) :
    lastRow a b = distance a.reverse [] :: row a.reverse [] b := by
  have hStart := range_eq_row [] b
  simp only [List.length_nil, Nat.add_zero, List.map_id'] at hStart
  rw [lastRow, hStart, foldl_nextRow, List.append_nil]

theorem getLastD_row (b : List Char) :
    (distance s t :: row s t b).getLastD 0 = distance s (b.reverse ++ t) := by
  induction b generalizing t with
  | nil => rfl
  | cons y b ih =>
      rw [List.reverse_cons, List.append_assoc, List.singleton_append, ← ih (y :: t)]
      rfl

end Table

theorem editDistance_eq_distance (a b : List Char) : editDistance a b = distance a b := by
  rw [editDistance, lastRow_eq, getLastD_row, List.append_nil, distance_reverse]

/-- Two texts are at most `n` edits apart when some sequence of so many edits leads from one to the
other. -/
theorem editDistance_le_iff {a b : List Char} {n : Nat} :
    editDistance a b ≤ n ↔ ∃ m ≤ n, Edits m a b := by
  rw [editDistance_eq_distance]
  constructor
  · intro h
    exact ⟨_, h, edits_distance a b⟩
  · rintro ⟨m, hm, hEdits⟩
    exact Nat.le_trans hEdits.distance_le hm

end EditDistance

/-- The distance of two texts is the least number of insertions, deletions and substitutions of
single characters that turn the first text into the second one. -/
theorem isLeast_editDistance (a b : List Char) :
    IsLeast {n | EditDistance.Edits n a b} (editDistance a b) := by
  rw [EditDistance.editDistance_eq_distance]
  exact EditDistance.isLeast_distance a b

example : editDistance "kitten".toList "sitting".toList = 3 := by decide

end ProxyRouting
