import TypeConversion.Proofs.Numeric.Integers

/-!
# Casts by way of another kind

A checked cast of an integer between kinds that hold integers exactly depends on the integer alone,
so a cast by way of a third kind, if it gets there, ends like the direct one.

* `Number.ofInt? k n` is the number of kind `k` that is the integer `n`, for the kinds that hold
  integers exactly (`NumericKind.HoldsIntegers`): the integral kinds and the decimal.
* `Number.cast?_of_ofInt?`: the checked cast of a number that is `n` gives the number of the target
  kind that is `n`, whatever the kind of the source.
* `IntegerKind.wrap_wrap`: reducing to low bits in between makes no difference if at least as many
  are kept there, or if the integer fits.
* `cast_via`: so neither casts from integers to integers or decimals see a detour.
-/

namespace TypeConversion

-- Powers are those of the core library, also where another library has its own.
attribute [local instance (2000)] instPowNat

/-- The kind is integral or the decimal. -/
def NumericKind.HoldsIntegers (k : NumericKind) : Prop := k.isIntegral = true ∨ k = .decimal

/-! ## Reduction by way of another width -/

/-- **Reducing in between** makes no difference if no low bits of the target are lost there. -/
theorem IntegerKind.wrap_wrap {via target : IntegerKind} {n : Int}
    (h : target.width ≤ via.width ∨ via.min ≤ n ∧ n ≤ via.max) :
    target.wrap (via.wrap n).value = target.wrap n := by
  refine eq_wrap_iff.mpr ⟨rfl, (target.reduce_modEq _).trans ?_⟩
  obtain narrower | ⟨least, greatest⟩ := h
  · exact (via.reduce_modEq n).of_dvd (pow_dvd_pow 2 narrower)
  · exact congrArg (· % 2 ^ target.width) (reduce_of_mem least greatest)

/-! ## Numbers that are integers -/

/-- A decimal without fraction digits is its own whole part. -/
theorem Decimal.truncate_of_ofInt? {n : Int} {d : Decimal} (h : ofInt? n = some d) :
    d.truncate = n := by
  rw [ofInt?, ofParts?] at h
  split at h
  · cases h
    exact Int.tdiv_one n
  · cases h

namespace Number

variable {x y : Number} {k target : NumericKind} {n : Int} {mode : OverflowMode}

/-- The number of kind `k` that is the integer `n`, if the kind holds it exactly. -/
def ofInt? : NumericKind → Int → Option Number
  | .integer k, n => (k.ofInt? n).map integer
  | .decimal, n => (Decimal.ofInt? n).map decimal
  | .single, _ | .double, _ => none

theorem ofInt?_value (i : MachineInteger) : ofInt? (.integer i.kind) i.value = some (integer i) :=
  congrArg (Option.map integer) (IntegerKind.ofInt?_eq_some_iff.mpr ⟨rfl, rfl⟩)

theorem kind_of_ofInt? (h : ofInt? k n = some x) : x.kind = k := by
  cases k with
  | integer k =>
    obtain ⟨i, hi, rfl⟩ := Option.map_eq_some_iff.mp h
    exact congrArg _ (IntegerKind.ofInt?_eq_some_iff.mp hi).1
  | decimal =>
    obtain ⟨d, -, rfl⟩ := Option.map_eq_some_iff.mp h
    rfl
  | single | double => cases h

/-- **A checked cast of an integer** gives the number of the target kind that is the integer,
whatever the kind of the source. -/
theorem cast?_of_ofInt? (h : ofInt? k n = some x) (exact : target.HoldsIntegers) :
    x.cast? target .checked = ofInt? target n := by
  cases k with
  | single | double => cases h
  | integer k =>
    obtain ⟨i, hi, rfl⟩ := Option.map_eq_some_iff.mp h
    obtain ⟨-, rfl⟩ := IntegerKind.ofInt?_eq_some_iff.mp hi
    cases target with
    | integer l => exact cast?_integer_checked i l
    | decimal => rfl
    | single | double => simp [NumericKind.HoldsIntegers, NumericKind.isIntegral] at exact
  | decimal =>
    obtain ⟨d, hd, rfl⟩ := Option.map_eq_some_iff.mp h
    cases target with
    | integer l => rw [cast?_decimal, ← d.truncate_eq, Decimal.truncate_of_ofInt? hd, ofInt?]
    | decimal => exact h.symm
    | single | double => simp [NumericKind.HoldsIntegers, NumericKind.isIntegral] at exact

end Number

/-- The values that a checked cast of an integer gives do not depend on the kind of the source. -/
theorem Value.cast_checked_eq_ok {x : Number} {k target : NumericKind} {n : Int} {v : Value}
    (h : Number.ofInt? k n = some x) (exact : target.HoldsIntegers) :
    (number x).cast ⟨k, target⟩ .checked = .ok v ↔
      ∃ y, Number.ofInt? target n = some y ∧ v = number y := by
  obtain rfl := Number.kind_of_ofInt? h
  have given := Number.cast?_of_ofInt? h exact
  cases held : Number.ofInt? target n with
  | some y => simp [cast_of_some (given.trans held), eq_comm]
  | none => simp [cast_of_none (given.trans held)]

/-! ## Detours -/

/-- **A detour is invisible.** If the checked cast of an integer to a kind that holds integers gives
a value, the checked cast from there to another such kind gives what the direct cast gives. A
widening cast gives a value, and the cast back gives the integer again. The unchecked cast by way of
an integral kind is the direct one if that kind is as wide as the target or the integer fits it. -/
theorem cast_via (i : MachineInteger) :
    (∀ via target : NumericKind, via.HoldsIntegers → target.HoldsIntegers →
        ∀ u, (Value.number (.integer i)).cast ⟨.integer i.kind, via⟩ .checked = .ok u →
          ∀ v, u.cast ⟨via, target⟩ .checked = .ok v ↔
            (Value.number (.integer i)).cast ⟨.integer i.kind, target⟩ .checked = .ok v) ∧
      (∀ wide : NumericKind, wide.HoldsIntegers →
        NumericRelation.between (.integer i.kind) wide = .implicit →
          ∃ u, (Value.number (.integer i)).cast ⟨.integer i.kind, wide⟩ .checked = .ok u ∧
            u.cast ⟨wide, .integer i.kind⟩ .checked = .ok (.number (.integer i))) ∧
      ∀ via target : IntegerKind,
        target.width ≤ via.width ∨ via.min ≤ i.value ∧ i.value ≤ via.max →
          ∃ u, (Value.number (.integer i)).cast ⟨.integer i.kind, .integer via⟩ .unchecked = .ok u ∧
            u.cast ⟨.integer via, .integer target⟩ .unchecked
              = (Value.number (.integer i)).cast ⟨.integer i.kind, .integer target⟩ .unchecked := by
  have start := Number.ofInt?_value i
  refine ⟨fun via target hvia htarget u first v => ?_, fun wide hwide implicit => ?_,
    fun via target kept => ?_⟩
  · obtain ⟨y, given, rfl⟩ := (Value.cast_checked_eq_ok start hvia).mp first
    rw [Value.cast_checked_eq_ok given htarget, Value.cast_checked_eq_ok start htarget]
  · have widening : NumericRelation.between (Number.integer i).kind wide ≠ .explicit :=
      implicit.trans_ne (by decide)
    obtain ⟨y, wider⟩ := Number.cast?_of_implicit widening
    have given : Number.ofInt? wide i.value = some y :=
      (Number.cast?_of_ofInt? start hwide).symm.trans (wider .checked)
    exact ⟨.number y, (Value.cast_checked_eq_ok start hwide).mpr ⟨y, given, rfl⟩,
      (Value.cast_checked_eq_ok given (.inl rfl)).mpr ⟨_, start, rfl⟩⟩
  · have toVia := Number.cast?_integer_unchecked i via
    have onward := Number.cast?_integer_unchecked (via.wrap i.value) target
    rw [IntegerKind.wrap_wrap kept] at onward
    refine ⟨_, Value.cast_of_some toVia, (Value.cast_of_some onward).trans ?_⟩
    exact (Value.cast_of_some (Number.cast?_integer_unchecked i target)).symm

/-- Two hundred becomes a byte by way of the decimals. Minus one becomes the greatest number of 16
bits by way of 32 bits. -/
theorem cast_via_decimal :
    (∃ u, (Value.number (.integer ⟨.int32, 200, by decide, by decide⟩)).cast
          ⟨.integer .int32, .decimal⟩ .checked = .ok u ∧
        u.cast ⟨.decimal, .integer .byte⟩ .checked
          = .ok (.number (.integer ⟨.byte, 200, by decide, by decide⟩))) ∧
      ∃ u, (Value.number (.integer ⟨.sbyte, -1, by decide, by decide⟩)).cast
          ⟨.integer .sbyte, .integer .uint32⟩ .unchecked = .ok u ∧
        u.cast ⟨.integer .uint32, .integer .uint16⟩ .unchecked
          = .ok (.number (.integer ⟨.uint16, 65535, by decide, by decide⟩)) := by
  let i : MachineInteger := ⟨.int32, 200, by decide, by decide⟩
  let j : MachineInteger := ⟨.sbyte, -1, by decide, by decide⟩
  obtain ⟨u, first⟩ : ∃ u, (Value.number (.integer i)).cast ⟨.integer .int32, .decimal⟩ .checked
      = .ok u := ⟨_, rfl⟩
  refine ⟨⟨u, first, ?_⟩, (cast_via j).2.2 .uint32 .uint16 (.inl (by decide))⟩
  exact ((cast_via i).1 .decimal (.integer .byte) (.inr rfl) (.inl rfl) u first _).mpr rfl

end TypeConversion
