namespace ProxyRouting.Text

/-- A set of code points, written as closed ranges in ascending order that do not meet. -/
abbrev Ranges := Array (Nat × Nat)

namespace Ranges

/-- Whether `n` lies in one of the ranges at positions `low` up to, not including, `high`. -/
def search (t : Ranges) (n low high : Nat) : Bool :=
  if low < high then
    match t[(low + high) / 2]? with
    | none => false
    | some (first, last) =>
      if n < first then search t n low ((low + high) / 2)
      else if last < n then search t n ((low + high) / 2 + 1) high
      else true
  else false
termination_by high - low

def contains (t : Ranges) (n : Nat) : Bool := t.search n 0 t.size

/-- Whether ranges ascend and do not meet, the first one starting at `least` or later. -/
def ascendFrom (least : Nat) : List (Nat × Nat) → Bool
  | [] => true
  | r :: rest => least ≤ r.1 && r.1 ≤ r.2 && ascendFrom (r.2 + 1) rest

def isAscending (t : Ranges) : Bool := ascendFrom 0 t.toList

theorem le_of_ascendFrom {least : Nat} {rs : List (Nat × Nat)} (h : ascendFrom least rs)
    {r : Nat × Nat} (hr : r ∈ rs) : least ≤ r.1 ∧ r.1 ≤ r.2 := by
  induction rs generalizing least with
  | nil => simp at hr
  | cons s rest ih =>
    simp only [ascendFrom, Bool.and_eq_true, decide_eq_true_eq] at h
    rcases List.mem_cons.mp hr with rfl | hr
    · exact h.1
    · have := ih h.2 hr
      omega

theorem pairwise_of_ascendFrom {least : Nat} {rs : List (Nat × Nat)} (h : ascendFrom least rs) :
    rs.Pairwise fun r s => r.2 < s.1 := by
  induction rs generalizing least with
  | nil => exact .nil
  | cons s rest ih =>
    simp only [ascendFrom, Bool.and_eq_true] at h
    exact List.pairwise_cons.mpr ⟨fun t ht => (le_of_ascendFrom h.2 ht).1, ih h.2⟩

theorem exists_of_search {t : Ranges} {n low high : Nat} (h : t.search n low high) :
    ∃ r ∈ t, r.1 ≤ n ∧ n ≤ r.2 := by
  fun_induction search t n low high with
  | case1 => simp at h
  | case2 low high _ first last hget _ ih => exact ih h
  | case3 low high _ first last hget _ _ ih => exact ih h
  | case4 low high _ first last hget h1 h2 =>
    exact ⟨(first, last), Array.mem_of_getElem? hget, by omega, by omega⟩
  | case5 => simp at h

/-- The search finds what is there, in ranges that ascend. -/
theorem search_of_getElem? {t : Ranges} (ht : t.isAscending) {n low high i : Nat} {r : Nat × Nat}
    (hi : t[i]? = some r) (hr : r.1 ≤ n ∧ n ≤ r.2) (hlow : low ≤ i) (hhigh : i < high)
    (hsize : high ≤ t.size) : t.search n low high := by
  have hpair := pairwise_of_ascendFrom ht
  have hbefore : ∀ {j k : Nat} {a b : Nat × Nat}, t[j]? = some a → t[k]? = some b → j < k →
      a.2 < b.1 := by
    intro j k a b hj hk hjk
    obtain ⟨hj', rfl⟩ := Array.getElem?_eq_some_iff.mp hj
    obtain ⟨hk', rfl⟩ := Array.getElem?_eq_some_iff.mp hk
    have := List.pairwise_iff_getElem.mp hpair j k (by simpa using hj') (by simpa using hk') hjk
    simpa using this
  fun_induction search t n low high with
  | case1 low high _ hget =>
    have := Array.getElem?_eq_none_iff.mp hget
    omega
  | case2 low high _ first last hget hn ih =>
    refine ih hlow ?_ (by omega)
    rcases Nat.lt_trichotomy i ((low + high) / 2) with hlt | heq | hgt
    · exact hlt
    · rw [heq, hget] at hi
      cases hi
      omega
    · have := hbefore hget hi hgt
      have := le_of_ascendFrom ht (Array.mem_toList_iff.mpr (Array.mem_of_getElem? hget))
      simp only at *
      omega
  | case3 low high _ first last hget _ hn ih =>
    refine ih ?_ hhigh hsize
    rcases Nat.lt_trichotomy i ((low + high) / 2) with hlt | heq | hgt
    · have := hbefore hi hget hlt
      have := le_of_ascendFrom ht (Array.mem_toList_iff.mpr (Array.mem_of_getElem? hget))
      simp only at *
      omega
    · rw [heq, hget] at hi
      cases hi
      omega
    · omega
  | case4 => rfl
  | case5 => omega

/-- A code point is in a set of ascending ranges when one of them holds it. -/
theorem contains_iff {t : Ranges} (ht : t.isAscending) {n : Nat} :
    t.contains n ↔ ∃ r ∈ t, r.1 ≤ n ∧ n ≤ r.2 := by
  refine ⟨exists_of_search, fun ⟨r, hr, hn⟩ => ?_⟩
  obtain ⟨i, hi⟩ := Array.mem_iff_getElem?.mp hr
  have := (Array.getElem?_eq_some_iff.mp hi).1
  exact search_of_getElem? ht hi hn (Nat.zero_le i) this (Nat.le_refl _)

end Ranges

end ProxyRouting.Text
