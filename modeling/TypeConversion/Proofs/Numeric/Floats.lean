import TypeConversion.Proofs.Numeric.Denotation

/-!
# Casts of floats to integers

A float becomes the integer next to it towards zero. The checked cast tests in double arithmetic
whether that integer lies in the range; the unchecked one clamps it to 128 bits.

* `BinaryFormat.nearest_min` and `BinaryFormat.nearest_max`: the bounds that the test computes are
  the ends of the range. The greatest 64-bit integers are no doubles, so the upper bound is rounded
  twice, and the second rounding takes back what the first one added.
* `Number.inRange_iff`: so the test is right.
* `Number.saturate_eq`: the number that the unchecked cast reduces is the clamped one.
* `cast_float`: checked casts of floats are exact and unchecked ones keep the low bits, for all bits
  of both formats and all integral kinds.
-/

namespace TypeConversion

-- Powers are those of the core library, also where another library has its own.
attribute [local instance (2000)] instPowNat

namespace FloatValue

/-- The integer next to a float towards zero, if the float is a number. -/
def whole? : FloatValue → Option Int
  | number q => some (towardZero q)
  | infinity _ | nan => none

/-- The integer next to a float towards zero, clamped to signed integers of 128 bits. What is no
number counts as zero. -/
def clamped : FloatValue → Int
  | number q => Max.max (-2 ^ (127 : Nat)) (Min.min (2 ^ (127 : Nat) - 1) (towardZero q))
  | infinity negative => if negative then -2 ^ (127 : Nat) else 2 ^ (127 : Nat) - 1
  | nan => 0

end FloatValue

/-! ## Whole parts -/

namespace FloatDatum

theorem towardZero_magnitude (significand : Nat) (exponent : Int) :
    towardZero (significand * twoPow exponent) = wholePart significand exponent := by
  rw [twoPow, wholePart]
  split
  · rw [← Nat.cast_mul]
    exact towardZero_intCast _
  · rw [Rat.mkRat_eq_div, Int.cast_one, mul_one_div]
    exact towardZero_div significand _

/-- The whole part of a decoded number, with its sign. -/
theorem whole?_value (negative : Bool) (significand : Nat) (exponent : Int) :
    (finite negative significand exponent).value.whole?
      = some (if negative then -(wholePart significand exponent : Int)
        else wholePart significand exponent) := by
  rw [value, FloatValue.signed, FloatValue.whole?]
  cases negative with
  | false => exact congrArg some (towardZero_magnitude _ _)
  | true =>
    simp only [if_true, towardZero_neg, towardZero_magnitude]

end FloatDatum

/-! ## The test in double arithmetic -/

/-- The least number of a kind is a double. -/
theorem BinaryFormat.nearest_min (k : IntegerKind) : double.nearest (k.min : Rat) = k.min := by
  cases k <;> decide +kernel

/-- One above the greatest number of a kind is a double, also where that number is none. -/
theorem BinaryFormat.nearest_max (k : IntegerKind) :
    double.nearest (double.nearest (k.max : Rat) + 1) = k.max + 1 := by
  cases k <;> decide +kernel

/-- The greatest numbers of 64 bits are no doubles: they are rounded up. -/
theorem BinaryFormat.nearest_max_of_width (k : IntegerKind) (wide : k.width = 64) :
    double.nearest (k.max : Rat) = k.max + 1 := by
  revert wide
  cases k <;> decide +kernel

namespace Number

variable {x : Number} {d : FloatDatum} {k : IntegerKind}

/-- **The test in double arithmetic** is whether the float is a number next to an integer of the
range. -/
theorem inRange_iff (k : IntegerKind) (d : FloatDatum) :
    inRange k d = true ↔ ∃ t, d.value.whole? = some t ∧ k.min ≤ t ∧ t ≤ k.max := by
  cases d with
  | nan | infinity => simp [inRange, FloatDatum.value, FloatValue.whole?]
  | finite negative significand exponent =>
    rw [FloatDatum.whole?_value, inRange]
    generalize FloatDatum.wholePart significand exponent = n
    have signed : (if negative then ((-(n : Int) : Int) : Rat) else ((n : Int) : Rat))
        = ((if negative then -(n : Int) else n : Int) : Rat) := by cases negative <;> rfl
    simp only [signed, BinaryFormat.nearest_min, BinaryFormat.nearest_max, Bool.and_eq_true,
      decide_eq_true_eq, Option.some.injEq, exists_eq_left']
    norm_cast
    rw [Int.lt_add_one_iff]

/-- The number that the unchecked cast reduces is the clamped one. -/
theorem saturate_eq (d : FloatDatum) : saturate d = d.value.clamped := by
  cases d with
  | nan | infinity => rfl
  | finite negative significand exponent =>
    have whole := FloatDatum.whole?_value negative significand exponent
    rw [FloatDatum.value, FloatValue.signed, FloatValue.whole?, Option.some.injEq] at whole
    rw [saturate, FloatDatum.value, FloatValue.signed, FloatValue.clamped, whole]
    rfl

/-- An integer of some range is not clamped. -/
theorem clamped_of_whole? {v : FloatValue} {t : Int} (h : v.whole? = some t)
    (range : k.min ≤ t ∧ t ≤ k.max) : v.clamped = t := by
  have wide : -2 ^ (127 : Nat) ≤ k.min ∧ k.max ≤ 2 ^ (127 : Nat) - 1 := by cases k <;> decide
  cases v with
  | infinity | nan => cases h
  | number q =>
    cases h
    rw [FloatValue.clamped]
    omega

theorem cast?_float (h : x.datum? = some d) (k : IntegerKind) (mode : OverflowMode) :
    x.cast? (.integer k) mode = integerOfFloat? k mode d := by
  cases x <;> cases h <;> rfl

/-- The checked cast gives the integer next to a number towards zero, if that fits. -/
theorem cast?_float_checked (h : x.datum? = some d) (k : IntegerKind) :
    x.cast? (.integer k) .checked = d.value.whole?.bind fun t => (k.ofInt? t).map integer := by
  rw [cast?_float h, integerOfFloat?]
  by_cases fits : inRange k d = true
  · obtain ⟨t, whole, range⟩ := (inRange_iff k d).mp fits
    have kept : k.ofInt? t = some (k.wrap t) :=
      IntegerKind.ofInt?_eq_some_iff.mpr ⟨rfl, IntegerKind.reduce_of_mem range.1 range.2⟩
    rw [fits, saturate_eq, clamped_of_whole? whole range, whole, Option.bind_some, kept]
    rfl
  · rw [Bool.eq_false_iff.mpr fits, if_pos (by decide)]
    cases whole : d.value.whole? with
    | none => rfl
    | some t =>
      have outside := fun range => fits ((inRange_iff k d).mpr ⟨t, whole, range⟩)
      rw [Option.bind_some, IntegerKind.ofInt?_eq_none_iff.mpr outside, Option.map_none]

theorem cast?_float_unchecked (h : x.datum? = some d) (k : IntegerKind) :
    x.cast? (.integer k) .unchecked = some (integer (k.wrap d.value.clamped)) := by
  rw [cast?_float h, ← saturate_eq]
  rfl

theorem exists_datum? (h : x.kind.isFloating = true) : ∃ d, x.datum? = some d := by
  cases x with
  | integer | decimal => cases h
  | single | double => exact ⟨_, rfl⟩

end Number

/-- **Casts of floats to integers are exact at all bounds.** The bits of a float denote one value.
If that is a number, the checked cast gives the integer next to it towards zero or an overflow, and
else an overflow. The unchecked cast gives the integer of the target kind with the low bits of the
clamped value. The test in double arithmetic holds exactly if the integer next to the number lies in
the range, also for the kinds of 64 bits, whose greatest number is rounded up to the next double. -/
theorem cast_float (x : Number) (floating : x.kind.isFloating = true) (k : IntegerKind) :
    ∃ v, (∀ w, x.Denotes w ↔ w = v) ∧
      (∀ t, v.whole? = some t →
        GivesExactly x.kind k t ((Value.number x).cast ⟨x.kind, .integer k⟩ .checked)) ∧
      (v.whole? = none → (Value.number x).cast ⟨x.kind, .integer k⟩ .checked
        = .error (.overflow x.kind (.integer k))) ∧
      GivesLowBits k v.clamped ((Value.number x).cast ⟨x.kind, .integer k⟩ .unchecked) ∧
      (∀ d, x.datum? = some d →
        (Number.inRange k d = true ↔ ∃ t, v.whole? = some t ∧ k.min ≤ t ∧ t ≤ k.max)) ∧
      (k.width = 64 → BinaryFormat.double.nearest (k.max : Rat) = k.max + 1) := by
  obtain ⟨d, datum⟩ := Number.exists_datum? floating
  have checked := Number.cast?_float_checked datum k
  refine ⟨d.value, fun w => Number.denotes_iff datum, fun t whole => ?_, fun none => ?_, ?_,
    fun d' datum' => ?_, BinaryFormat.nearest_max_of_width k⟩
  · rw [whole, Option.bind_some] at checked
    exact givesExactly_of_cast? checked
  · rw [none, Option.bind_none] at checked
    exact Value.cast_of_none checked
  · exact givesLowBits_of_cast? (Number.cast?_float_unchecked datum k)
  · cases datum.symm.trans datum'
    exact Number.inRange_iff k d

/-- The double two to the power of 63, which is what the greatest integer of 64 bits is rounded to,
is refused by the checked cast, and the unchecked one reduces it. -/
theorem cast_float_above : ∃ x : Number, x.kind.isFloating = true ∧
    x.Denotes (.number (2 ^ (63 : Nat) : Nat)) ∧
      (Value.number x).cast ⟨.double, .integer .int64⟩ .checked
        = .error (.overflow .double (.integer .int64)) ∧
      GivesLowBits .int64 (2 ^ (63 : Nat))
        ((Value.number x).cast ⟨.double, .integer .int64⟩ .unchecked) := by
  let x : Number := .double 0x43E0000000000000
  have power : BinaryFormat.double.magnitude 1086 0 = (2 ^ (63 : Nat) : Nat) := by decide +kernel
  have here : BinaryFormat.double.Denotes (BinaryFormat.double.pack false 1086 0)
      (.signed false (BinaryFormat.double.magnitude 1086 0)) := .number (by decide) (by decide)
  rw [power] at here
  obtain ⟨v, denotes, checked, -, unchecked, -⟩ := cast_float x rfl .int64
  obtain rfl := (denotes _).mp here
  have whole : towardZero ((2 ^ (63 : Nat) : Nat) : Rat) = (2 ^ (63 : Nat) : Int) :=
    towardZero_intCast (2 ^ (63 : Nat) : Nat)
  have clamped : (FloatValue.number (2 ^ (63 : Nat) : Nat)).clamped = (2 ^ (63 : Nat) : Int) := by
    rw [FloatValue.clamped, whole]
    decide
  refine ⟨x, rfl, here, ?_, clamped ▸ unchecked⟩
  have outcome := checked _ (congrArg some whole)
  rwa [GivesExactly, if_neg (by decide)] at outcome

end TypeConversion
