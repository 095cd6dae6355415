import TypeConversion.Proofs.Numeric.Floats

/-!
# Casts that can overflow

The table of casts says of a pair of kinds whether a cast can overflow, without a look at numbers.
Where it says so, a number of the source overflows in the checked mode:

* between integral kinds an end of the range that lies outside of that of the target
  (`NumericCast.exists_integer_of_canOverflow`),
* into integral kinds and decimals, a float that is no number (`Number.cast?_of_nan`),
* and into integral kinds the greatest decimal, which exceeds them all.

Together with the casts that always give a number, this makes the table exact
(`canOverflow_iff_exists_overflow`).
-/

namespace TypeConversion

-- Powers are those of the core library, also where another library has its own.
attribute [local instance (2000)] instPowNat

theorem IntegerKind.min_le_max (k : IntegerKind) : k.min ≤ k.max := by cases k <;> decide

/-- An end of the range of a kind lies outside of a range that does not contain it. -/
theorem NumericCast.exists_integer_of_canOverflow {a b : IntegerKind}
    (h : (⟨.integer a, .integer b⟩ : NumericCast).canOverflow = true) :
    ∃ i : MachineInteger, i.kind = a ∧ b.ofInt? i.value = none := by
  have outside : ¬(b.min ≤ a.min ∧ a.max ≤ b.max) := by
    rw [← canOverflow_integer_iff, h]
    decide
  simp only [IntegerKind.ofInt?_eq_none_iff]
  by_cases least : b.min ≤ a.min
  · refine ⟨⟨a, a.max, a.min_le_max, Int.le_refl _⟩, rfl, fun inside => outside ⟨least, ?_⟩⟩
    exact inside.2
  · exact ⟨⟨a, a.min, Int.le_refl _, a.min_le_max⟩, rfl, fun inside => least inside.1⟩

namespace Number

/-- What is no number has no cast to an integral kind in the checked mode, and none to a decimal. -/
theorem cast?_of_nan {x : Number} (nan : x.datum? = some .nan) {target : NumericKind}
    (other : target.isFloating = false) : x.cast? target .checked = none := by
  cases target with
  | single | double => cases other
  | integer k =>
    rw [cast?_float_checked nan]
    rfl
  | decimal =>
    cases x with
    | integer _ | decimal _ => cases nan
    | single bits | double bits =>
      have decoded := Option.some.inj nan
      simp [cast?, kind, toDecimal?, decoded, Decimal.ofDouble?]

/-- Both floating kinds have bits that stand for no number. -/
theorem exists_nan {k : NumericKind} (floating : k.isFloating = true) :
    ∃ x : Number, x.kind = k ∧ x.datum? = some .nan := by
  cases k with
  | integer _ | decimal => cases floating
  | single => exact ⟨ofSingleBits BinaryFormat.single.nanBits, rfl, by decide⟩
  | double => exact ⟨ofDoubleBits BinaryFormat.double.nanBits, rfl, by decide⟩

/-- The greatest decimal exceeds all integral kinds. -/
theorem exists_decimal_cast?_eq_none (k : IntegerKind) (mode : OverflowMode) :
    ∃ d : Decimal, (decimal d).cast? (.integer k) mode = none := by
  have range : k.max < 2 ^ (96 : Nat) - 1 := by cases k <;> decide
  refine ⟨⟨2 ^ (96 : Nat) - 1, 0, by decide, by decide⟩, ?_⟩
  have beyond : k.ofInt? (2 ^ (96 : Nat) - 1) = none :=
    IntegerKind.ofInt?_eq_none_iff.mpr fun inside => Int.not_le.mpr range inside.2
  exact congrArg (Option.map integer) beyond

/-- **A cast that can overflow does so**, for some number of its source. -/
theorem exists_cast?_eq_none {source target : NumericKind}
    (h : (⟨source, target⟩ : NumericCast).canOverflow = true) :
    ∃ x : Number, x.kind = source ∧ x.cast? target .checked = none := by
  cases source with
  | integer a =>
    cases target with
    | integer b =>
      obtain ⟨i, rfl, outside⟩ := NumericCast.exists_integer_of_canOverflow h
      exact ⟨integer i, rfl, by rw [cast?_integer_checked, outside, Option.map_none]⟩
    | single | double | decimal => cases h
  | single | double =>
    have other : target.isFloating = false := by
      cases target with
      | single | double => cases h
      | integer | decimal => rfl
    exact (exists_nan rfl).imp fun x hx => ⟨hx.1, cast?_of_nan hx.2 other⟩
  | decimal =>
    cases target with
    | integer k =>
      obtain ⟨d, beyond⟩ := exists_decimal_cast?_eq_none k .checked
      exact ⟨decimal d, rfl, beyond⟩
    | single | double | decimal => cases h

end Number

/-- A value of a numeric kind is a number of that kind. -/
theorem Value.numericKind?_eq_some {v : Value} {k : NumericKind} :
    v.numericKind? = some k ↔ ∃ x : Number, x.kind = k ∧ v = number x := by
  cases v <;> simp [numericKind?]

/-- **The table of casts is exact.** It says that a cast can overflow if and only if the checked
cast of some value of the source overflows. A cast that cannot overflow gives a value of the target
for every value of the source, the same one in both modes, and the casts that need not be asked for
are among them. -/
theorem canOverflow_iff_exists_overflow (source target : NumericKind) :
    let c : NumericCast := ⟨source, target⟩
    (c.canOverflow = true ↔ ∃ v : Value, v.numericKind? = some source ∧
      v.cast c .checked = .error (.overflow source target)) ∧
    (c.canOverflow = false → ∀ v : Value, v.numericKind? = some source →
      ∃ w : Value, w.numericKind? = some target ∧ ∀ mode, v.cast c mode = .ok w) ∧
    (NumericRelation.between source target ≠ .explicit → c.canOverflow = false) := by
  intro c
  have safe (never : c.canOverflow = false) (v : Value) (hv : v.numericKind? = some source) :
      ∃ w : Value, w.numericKind? = some target ∧ ∀ mode, v.cast c mode = .ok w := by
    obtain ⟨x, rfl, rfl⟩ := Value.numericKind?_eq_some.mp hv
    obtain ⟨y, given⟩ := Number.cast?_of_not_canOverflow never
    refine ⟨.number y, congrArg some (Number.kind_cast? (given .checked)), fun mode => ?_⟩
    exact Value.cast_of_some (given mode)
  refine ⟨⟨fun can => ?_, ?_⟩, safe, NumericCast.canOverflow_of_between⟩
  · obtain ⟨x, rfl, none⟩ := Number.exists_cast?_eq_none can
    exact ⟨.number x, rfl, Value.cast_of_none none⟩
  · rintro ⟨v, hv, overflow⟩
    by_contra never
    obtain ⟨w, -, given⟩ := safe (Bool.eq_false_iff.mpr never) v hv
    rw [given .checked] at overflow
    cases overflow

/-- Integers of 32 bits without a sign are all of 64 bits with one, and a code unit is one without a
sign; but some integers of 64 bits are neither. -/
theorem canOverflow_iff_exists_overflow_uint32 :
    (∀ v : Value, v.numericKind? = some (.integer .uint32) →
      ∃ w : Value, w.numericKind? = some (.integer .int64) ∧
        ∀ mode, v.cast ⟨.integer .uint32, .integer .int64⟩ mode = .ok w) ∧
    (⟨.integer .char, .integer .uint32⟩ : NumericCast).canOverflow = false ∧
    ∃ v : Value, v.numericKind? = some (.integer .int64) ∧
      v.cast ⟨.integer .int64, .integer .uint32⟩ .checked
        = .error (.overflow (.integer .int64) (.integer .uint32)) :=
  ⟨(canOverflow_iff_exists_overflow (.integer .uint32) (.integer .int64)).2.1 rfl,
    (canOverflow_iff_exists_overflow (.integer .char) (.integer .uint32)).2.2 (by decide),
    (canOverflow_iff_exists_overflow (.integer .int64) (.integer .uint32)).1.mp (by decide)⟩

end TypeConversion
