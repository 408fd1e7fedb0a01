namespace ProxyRouting

namespace EditDistance

/-- One row of the table of distances behind its first cell. The row is for one more character `x`
of the first text; `left` is the cell before, `diagonal` the cell above that one, and the list `up`
holds the cells of the row above. -/
def cells (x : Char) : Nat → Nat → List Char → List Nat → List Nat
  | left, diagonal, y :: b, up :: above =>
    let cell := min (diagonal + if x = y then 0 else 1) (min (left + 1) (up + 1))
    cell :: cells x cell up b above
  | _, _, _, _ => []

/-- The row for one more character of the first text: the first cell counts the characters so far. -/
def nextRow (b : List Char) (above : List Nat) (x : Char) : List Nat :=
  match above with
  | first :: rest => (first + 1) :: cells x (first + 1) first b rest
  | [] => []

def lastRow (a b : List Char) : List Nat :=
  a.foldl (nextRow b) (List.range (b.length + 1))

theorem length_cells (x : Char) (left diagonal : Nat) (b : List Char) (above : List Nat) :
    (cells x left diagonal b above).length = min b.length above.length := by
  induction b generalizing left diagonal above with
  | nil => simp [cells]
  | cons y b ih => cases above <;> simp [cells, ih]

/-- Each row of the table has a cell for every front of the second text. -/
theorem length_lastRow (a b : List Char) : (lastRow a b).length = b.length + 1 := by
  unfold lastRow
  suffices h : ∀ row : List Nat, row.length = b.length + 1 →
      (a.foldl (nextRow b) row).length = b.length + 1 from h _ (by simp)
  induction a with
  | nil => exact fun row h => h
  | cons x a ih =>
    intro row h
    refine ih _ ?_
    cases row with
    | nil => simp at h
    | cons first rest => simp_all [nextRow, length_cells]

end EditDistance

/-- The least number of insertions, deletions and substitutions of single characters that turn the
first text into the second one. -/
def editDistance (a b : List Char) : Nat := (EditDistance.lastRow a b).getLastD 0

end ProxyRouting
