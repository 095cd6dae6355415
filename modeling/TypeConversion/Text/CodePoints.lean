/-!
# Sets of code points

A set of code points is kept as the ranges it consists of.

* `CodePoints.contains` looks a code point up.
* `CodePoints.contains_iff` says that it finds exactly what lies in one of the ranges.
-/

namespace TypeConversion

/-- Whether ranges ascend with a gap between each and the next. -/
def CodePoints.ascends : List (Nat × Nat) → Bool
  | [] => true
  | [(first, last)] => first ≤ last
  | (first, last) :: (first', last') :: rest =>
    first ≤ last && last + 1 < first' && ascends ((first', last') :: rest)

/-- A set of code points: the first and the last of each range, ends included. -/
structure CodePoints where
  ranges : List (Nat × Nat)
  ascending : CodePoints.ascends ranges = true := by decide +kernel

namespace CodePoints

/-- Whether a code point lies in the first range that does not end before it. -/
def search (n : Nat) : List (Nat × Nat) → Bool
  | [] => false
  | (first, last) :: rest => if n ≤ last then first ≤ n else search n rest

/-- Whether a code point is in the set. -/
def contains (s : CodePoints) (n : Nat) : Bool :=
  search n s.ranges

/-- The ranges after one that ascends begin behind its end. -/
theorem lt_of_ascends {first last : Nat} {rest : List (Nat × Nat)}
    (h : ascends ((first, last) :: rest) = true) : ∀ r ∈ rest, last < r.1 := by
  induction rest generalizing first last with
  | nil => simp
  | cons next rest ih =>
    simp only [ascends, Bool.and_eq_true, decide_eq_true_eq] at h
    intro r hr
    rcases List.mem_cons.mp hr with rfl | hr
    · omega
    · have := ih h.2 r hr
      have : next.1 ≤ next.2 := by
        cases rest <;> simp_all [ascends]
      omega

/-- What follows a range in ascending ranges ascends. -/
theorem ascends_tail {first last : Nat} {rest : List (Nat × Nat)}
    (h : ascends ((first, last) :: rest) = true) : ascends rest = true := by
  cases rest with
  | nil => rfl
  | cons next rest =>
    simp only [ascends, Bool.and_eq_true] at h
    exact h.2

/-- A search of ascending ranges finds exactly what lies in one of them. -/
theorem search_iff {n : Nat} {ranges : List (Nat × Nat)} (h : ascends ranges = true) :
    search n ranges = true ↔ ∃ r ∈ ranges, r.1 ≤ n ∧ n ≤ r.2 := by
  induction ranges with
  | nil => simp [search]
  | cons r rest ih =>
    obtain ⟨first, last⟩ := r
    have later := lt_of_ascends h
    simp only [search, List.mem_cons, exists_eq_or_imp]
    split
    · next le =>
      simp only [decide_eq_true_eq, le, and_true, iff_self_or]
      rintro ⟨r, hr, le', _⟩
      exact absurd (later r hr) (by omega)
    · next lt =>
      simp [lt, ih (ascends_tail h)]

/-- A set contains exactly what lies in one of its ranges. -/
theorem contains_iff (s : CodePoints) (n : Nat) :
    s.contains n = true ↔ ∃ r ∈ s.ranges, r.1 ≤ n ∧ n ≤ r.2 :=
  search_iff s.ascending

end CodePoints

end TypeConversion
