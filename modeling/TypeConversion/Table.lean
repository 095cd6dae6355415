/-!
# Tables

A table holds one value for each of finitely many keys. The caches keep what they remember in
tables.

* `Table.insert` sets the value of a key, and `Table.lookup_insert` says what is found afterwards.
* `Table.size` counts the keys; `Table.size_insert` says when a new one is added.
-/

namespace TypeConversion

/-- Values by key, the key set last first. -/
structure Table (K V : Type) where
  entries : List (K × V) := []
  nodup : (entries.map Prod.fst).Nodup := by exact List.nodup_nil

namespace Table

variable {K V : Type}

/-- The number of keys. -/
def size (t : Table K V) : Nat := t.entries.length

/-- Whether there is no key. -/
def isEmpty (t : Table K V) : Bool := t.entries.isEmpty

@[simp] theorem size_empty : ({} : Table K V).size = 0 := rfl

variable [DecidableEq K]

/-- The value of a key. -/
def lookup (t : Table K V) (key : K) : Option V := t.entries.lookup key

/-- Set the value of a key, in place of an older value. -/
def insert (t : Table K V) (key : K) (value : V) : Table K V where
  entries := (key, value) :: t.entries.filter fun entry => entry.1 != key
  nodup := by
    rw [List.map_cons, List.nodup_cons]
    refine ⟨?_, t.nodup.sublist (List.filter_sublist.map Prod.fst)⟩
    simp

@[simp] theorem lookup_empty (key : K) : ({} : Table K V).lookup key = none := rfl

/-- Dropping the entries of one key leaves what is found for the others. -/
theorem lookup_filter_ne (entries : List (K × V)) {key other : K} (h : other ≠ key) :
    (entries.filter fun entry => entry.1 != key).lookup other = entries.lookup other := by
  induction entries with
  | nil => rfl
  | cons entry entries ih =>
    obtain ⟨k, v⟩ := entry
    by_cases hk : k = key
    · subst hk
      simp [List.lookup_cons, beq_false_of_ne h, ih]
    · by_cases ho : other = k <;> simp [hk, ho, List.lookup_cons, beq_false_of_ne, ih]

/-- The key just set has the new value, every other key keeps what it had. -/
@[simp] theorem lookup_insert (t : Table K V) (key other : K) (value : V) :
    (t.insert key value).lookup other = if other = key then some value else t.lookup other := by
  by_cases h : other = key
  · simp [lookup, insert, h]
  · simp [lookup, insert, List.lookup_cons, beq_false_of_ne h, h, lookup_filter_ne]

theorem isSome_lookup_iff (entries : List (K × V)) (key : K) :
    (entries.lookup key).isSome = true ↔ key ∈ entries.map Prod.fst := by
  induction entries with
  | nil => simp
  | cons entry entries ih =>
    obtain ⟨k, v⟩ := entry
    by_cases hk : key = k <;> simp [List.lookup_cons, hk, beq_false_of_ne, ih]

/-- Dropping the entries of one key drops one entry, or none if the key is not there. -/
theorem length_filter_ne (entries : List (K × V)) (h : (entries.map Prod.fst).Nodup) (key : K) :
    (entries.filter fun entry => entry.1 != key).length
      + (if (entries.lookup key).isSome then 1 else 0) = entries.length := by
  induction entries with
  | nil => rfl
  | cons entry entries ih =>
    obtain ⟨k, v⟩ := entry
    rw [List.map_cons, List.nodup_cons] at h
    by_cases hk : k = key
    · subst hk
      have kept : (entries.filter fun entry => entry.1 != k) = entries := by
        rw [List.filter_eq_self]
        intro entry he
        have : entry.1 ≠ k := fun same => h.1 (List.mem_map.mpr ⟨entry, he, same⟩)
        simpa using this
      simp [kept]
    · have rest := ih h.2
      simp only [List.lookup_cons, beq_false_of_ne (Ne.symm hk), List.length_cons] at rest ⊢
      simp only [List.filter_cons, bne_iff_ne, ne_eq, hk, not_false_eq_true, if_true,
        List.length_cons]
      omega

/-- Setting a key adds one to the size exactly when the key is new. -/
theorem size_insert (t : Table K V) (key : K) (value : V) :
    (t.insert key value).size = if (t.lookup key).isSome then t.size else t.size + 1 := by
  have h : (t.entries.filter fun entry => entry.1 != key).length
      + (if (t.lookup key).isSome then 1 else 0) = t.entries.length :=
    length_filter_ne t.entries t.nodup key
  simp only [size, insert, List.length_cons]
  by_cases known : (t.lookup key).isSome = true
  · simp only [known, if_true] at h ⊢
    omega
  · simp only [known, if_false, Bool.false_eq_true] at h ⊢
    omega

end Table

end TypeConversion
