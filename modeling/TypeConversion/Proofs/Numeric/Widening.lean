import TypeConversion.Numeric.Number
import Mathlib.Tactic.Common

/-!
# Casts that always give a number

Of some pairs of kinds the table of casts says that a cast cannot overflow. Such a cast gives a
number whatever number it is given, and the same one in both modes
(`Number.cast?_of_not_canOverflow`).

* Between integral kinds it leads from one range into a wider one, so it keeps the value
  (`NumericCast.canOverflow_integer_iff`).
* An integer is a decimal, since no integral kind has more than 64 bits, and floats take whatever
  they are given.
* A cast that need not be asked for is one of them (`NumericCast.canOverflow_of_between`).

What a cast gives is a number of its target kind (`Number.kind_cast?`).
-/

namespace TypeConversion

-- Powers are those of the core library, also where another library has its own.
attribute [local instance (2000)] instPowNat

/-! ## The table -/

namespace NumericCast

/-- A cast between integral kinds cannot overflow if it leads into a range that contains its own. -/
theorem canOverflow_integer_iff {a b : IntegerKind} :
    (⟨.integer a, .integer b⟩ : NumericCast).canOverflow = false ↔
      b.min ≤ a.min ∧ a.max ≤ b.max := by
  cases a <;> cases b <;> decide

theorem canOverflow_of_isImplicit {source target : NumericKind}
    (h : NumericRelation.isImplicit source target = true) :
    (⟨source, target⟩ : NumericCast).canOverflow = false := by
  cases source with
  | integer a =>
    cases target with
    | integer b => cases a <;> cases b <;> cases h <;> decide
    | single | double | decimal => rfl
  | single =>
    cases target with
    | double => rfl
    | integer | single | decimal => cases h
  | double | decimal => cases target <;> cases h

/-- A cast that need not be asked for cannot overflow. -/
theorem canOverflow_of_between {source target : NumericKind}
    (h : NumericRelation.between source target ≠ .explicit) :
    (⟨source, target⟩ : NumericCast).canOverflow = false := by
  by_cases same : source = target
  · simp [canOverflow, operation, CastOperation.between, same]
  · refine canOverflow_of_isImplicit ?_
    by_contra explicit
    exact h (by rw [NumericRelation.between, if_neg same, if_neg explicit])

end NumericCast

namespace Number

/-! ## What casts give -/

theorem kind_toInteger? {k : IntegerKind} {mode : OverflowMode} {x y : Number}
    (h : x.toInteger? k mode = some y) : y.kind = .integer k := by
  have ofInt : ∀ {n : Int} {z}, (k.ofInt? n).map integer = some z → z.kind = .integer k := by
    intro n z hz
    obtain ⟨m, hm, rfl⟩ := Option.map_eq_some_iff.mp hz
    rw [IntegerKind.ofInt?] at hm
    split at hm <;> cases hm
    rfl
  have ofFloat : ∀ {d}, integerOfFloat? k mode d = some y → y.kind = .integer k := by
    intro d hd
    rw [integerOfFloat?] at hd
    split at hd <;> cases hd
    rfl
  cases x with
  | integer n =>
    cases mode with
    | checked => exact ofInt h
    | unchecked =>
      cases h
      rfl
  | single bits => exact ofFloat h
  | double bits => exact ofFloat h
  | decimal d => exact ofInt h

theorem kind_toDecimal? {x y : Number} (h : x.toDecimal? = some y) : y.kind = .decimal := by
  cases x with
  | decimal d =>
    cases h
    rfl
  | integer n | single bits | double bits =>
    obtain ⟨d, -, rfl⟩ := Option.map_eq_some_iff.mp h
    rfl

/-- A cast gives a number of its target kind. -/
theorem kind_cast? {x y : Number} {target : NumericKind} {mode : OverflowMode}
    (h : x.cast? target mode = some y) : y.kind = target := by
  unfold cast? at h
  split at h
  · cases h
    assumption
  · cases target with
    | integer k => exact kind_toInteger? h
    | single =>
      cases h
      cases x <;> rfl
    | double =>
      cases h
      cases x <;> rfl
    | decimal => exact kind_toDecimal? h

/-- An integer of a range that lies in another is a number of that one, in both modes. -/
theorem integerOfInteger?_of_range {k : IntegerKind} {n : MachineInteger}
    (h : k.min ≤ n.kind.min ∧ n.kind.max ≤ k.max) (mode : OverflowMode) :
    integerOfInteger? k mode n.value = some (integer (k.wrap n.value)) := by
  have least : k.min ≤ n.value := Int.le_trans h.1 n.min_le
  have greatest : n.value ≤ k.max := Int.le_trans n.le_max h.2
  cases mode with
  | unchecked => rfl
  | checked =>
    rw [integerOfInteger?, IntegerKind.ofInt?, dif_pos ⟨least, greatest⟩]
    simp only [IntegerKind.wrap, IntegerKind.reduce_of_mem least greatest, Option.map_some]

/-- Every machine integer is a decimal. -/
theorem exists_ofInt? (n : MachineInteger) : ∃ d, Decimal.ofInt? n.value = some d := by
  have range : -2 ^ 64 ≤ n.kind.min ∧ n.kind.max ≤ 2 ^ 64 := by cases n.kind <;> decide
  have least := n.min_le
  have greatest := n.le_max
  have bound : n.value.natAbs < 2 ^ (96 : Nat) := by omega
  exact ⟨_, dif_pos ⟨bound, Nat.zero_le _⟩⟩

/-- **A cast that cannot overflow gives a number**, the same one in both modes. -/
theorem cast?_of_not_canOverflow {n : Number} {target : NumericKind}
    (h : (⟨n.kind, target⟩ : NumericCast).canOverflow = false) :
    ∃ m, ∀ mode, n.cast? target mode = some m := by
  by_cases same : n.kind = target
  · exact ⟨n, fun mode => if_pos same⟩
  cases target with
  | single => exact ⟨_, fun mode => if_neg same⟩
  | double => exact ⟨_, fun mode => if_neg same⟩
  | integer k =>
    cases n with
    | integer i =>
      have range := NumericCast.canOverflow_integer_iff.mp h
      exact ⟨_, fun mode => (if_neg same).trans (integerOfInteger?_of_range range mode)⟩
    | single | double | decimal => cases h
  | decimal =>
    cases n with
    | integer i =>
      obtain ⟨d, hd⟩ := exists_ofInt? i
      exact ⟨_, fun mode => (if_neg same).trans (congrArg (Option.map decimal) hd)⟩
    | single | double => cases h
    | decimal => exact absurd rfl same

/-- An implicit cast gives a number, the same one in both modes. -/
theorem cast?_of_implicit {n : Number} {target : NumericKind}
    (h : NumericRelation.between n.kind target ≠ .explicit) :
    ∃ m, ∀ mode, n.cast? target mode = some m :=
  cast?_of_not_canOverflow (NumericCast.canOverflow_of_between h)

end Number

end TypeConversion
