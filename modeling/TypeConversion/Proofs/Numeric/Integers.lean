import TypeConversion.Value
import TypeConversion.Proofs.Numeric.Widening
import Mathlib.Data.Int.ModEq
import Mathlib.Data.Rat.Floor

/-!
# Casts of integers and decimals

What a cast of a number to an integral kind should give, and that casts of integers and of decimals
give it.

* `towardZero` is the integer next to a rational towards zero.
* `GivesExactly source k n`: the outcome is the integer `n` of kind `k` if that lies in the range of
  the kind, and else an overflow.
* `GivesLowBits k n`: the outcome is the one integer of kind `k` that is congruent to `n` modulo two
  to the width of the kind. `IntegerKind.eq_wrap_iff` says that this is the integer `k.wrap n`.
* `givesExactly_of_cast?` and `givesLowBits_of_cast?` reduce both to casts of numbers, whatever the
  kind of the source.
* `cast_exact`: checked casts between integral kinds are exact and unchecked ones keep the low bits;
  casts of decimals to integral kinds are exact in both modes, as are casts of integers to decimals;
  and a value that is not of the source kind is refused.
-/

namespace TypeConversion

-- Powers are those of the core library, also where another library has its own.
attribute [local instance (2000)] instPowNat

/-! ## Towards zero -/

/-- The integer next to a rational towards zero. -/
def towardZero (q : Rat) : Int := if q < 0 then ⌈q⌉ else ⌊q⌋

theorem towardZero_neg (q : Rat) : towardZero (-q) = -towardZero q := by
  obtain negative | rfl | positive := lt_trichotomy q 0
  · rw [towardZero, towardZero, if_neg (by linarith), if_pos negative, Int.floor_neg]
  · simp [towardZero]
  · rw [towardZero, towardZero, if_pos (by linarith), if_neg (by linarith), Int.ceil_neg]

/-- The quotient of an integer by a natural number, towards zero. -/
theorem towardZero_div (a : Int) (b : Nat) : towardZero (a / b) = a.tdiv b := by
  have positive (n : Nat) : towardZero ((n : Int) / b) = (n : Int).tdiv b := by
    have sign : ¬(((n : Int) : Rat) / b < 0) := not_lt.mpr (by positivity)
    rw [towardZero, if_neg sign, Rat.floor_intCast_div_natCast,
      Int.tdiv_eq_ediv_of_nonneg (Int.natCast_nonneg n)]
  obtain ⟨n, rfl | rfl⟩ := Int.eq_nat_or_neg a
  · exact positive n
  · rw [Int.cast_neg, neg_div, towardZero_neg, positive, Int.neg_tdiv]

theorem towardZero_intCast (n : Int) : towardZero n = n := by
  simpa using towardZero_div n 1

/-- The whole part of a decimal is the integer next to it towards zero. -/
theorem Decimal.truncate_eq (d : Decimal) : d.truncate = towardZero d.toRat := by
  have exact : d.toRat = d.coefficient / (10 ^ d.scale : Nat) := by
    rw [toRat, Rat.mkRat_eq_div]
  rw [exact, towardZero_div, truncate, Int.natCast_pow]
  rfl

/-! ## Integers of a kind -/

attribute [ext] MachineInteger

namespace IntegerKind

variable {k l : IntegerKind} {m : MachineInteger} {n : Int}

theorem ofInt?_eq_some_iff : k.ofInt? n = some m ↔ m.kind = k ∧ m.value = n := by
  rw [ofInt?]
  constructor
  · intro h
    split at h
    · cases h
      exact ⟨rfl, rfl⟩
    · cases h
  · rintro ⟨rfl, rfl⟩
    exact dif_pos ⟨m.min_le, m.le_max⟩

theorem ofInt?_eq_none_iff : k.ofInt? n = none ↔ ¬(k.min ≤ n ∧ n ≤ k.max) := by
  rw [ofInt?]
  split <;> simp_all

theorem reduce_modEq (k : IntegerKind) (n : Int) : k.reduce n ≡ n [ZMOD 2 ^ k.width] := by
  have shifted := (Int.mod_modEq (n - k.min) (2 ^ k.width)).add_right k.min
  rwa [Int.sub_add_cancel] at shifted

/-- The reduction of a number only depends on its low bits. -/
theorem reduce_congr {a b : Int} (h : a ≡ b [ZMOD 2 ^ k.width]) : k.reduce a = k.reduce b :=
  congrArg (· + k.min) (h.sub_right k.min)

/-- **The integer with the low bits of a number** is the only one of its kind that is congruent to
the number. -/
theorem eq_wrap_iff : m = k.wrap n ↔ m.kind = k ∧ m.value ≡ n [ZMOD 2 ^ k.width] := by
  constructor
  · rintro rfl
    exact ⟨rfl, k.reduce_modEq n⟩
  · rintro ⟨rfl, congruent⟩
    refine MachineInteger.ext rfl ?_
    calc m.value = m.kind.reduce m.value := (reduce_of_mem m.min_le m.le_max).symm
      _ = m.kind.reduce n := reduce_congr congruent

end IntegerKind

/-! ## Outcomes -/

/-- The integer `n` of kind `k` if it lies in the range of the kind, and else an overflow. -/
def GivesExactly (source : NumericKind) (k : IntegerKind) (n : Int) (outcome : Except Error Value) :
    Prop :=
  if k.min ≤ n ∧ n ≤ k.max then
    ∃ m : MachineInteger, m.kind = k ∧ m.value = n ∧ outcome = .ok (.number (.integer m))
  else outcome = .error (.overflow source (.integer k))

/-- The only integer of kind `k` that is congruent to `n` modulo two to the width of the kind. -/
def GivesLowBits (k : IntegerKind) (n : Int) (outcome : Except Error Value) : Prop :=
  ∃ m : MachineInteger, outcome = .ok (.number (.integer m)) ∧
    ∀ m' : MachineInteger, m' = m ↔ m'.kind = k ∧ m'.value ≡ n [ZMOD 2 ^ k.width]

variable {x result : Number} {target : NumericKind} {k : IntegerKind} {n : Int}
  {mode : OverflowMode}

theorem Value.cast_of_some (h : x.cast? target mode = some result) :
    (number x).cast ⟨x.kind, target⟩ mode = .ok (number result) := by
  simp only [cast, h, if_true]

theorem Value.cast_of_none (h : x.cast? target mode = none) :
    (number x).cast ⟨x.kind, target⟩ mode = .error (.overflow x.kind target) := by
  simp only [cast, h, if_true]

theorem givesExactly_of_cast? (h : x.cast? (.integer k) mode = (k.ofInt? n).map .integer) :
    GivesExactly x.kind k n ((Value.number x).cast ⟨x.kind, .integer k⟩ mode) := by
  rw [GivesExactly]
  cases fits : k.ofInt? n with
  | some m =>
    obtain ⟨rfl, rfl⟩ := IntegerKind.ofInt?_eq_some_iff.mp fits
    rw [if_pos ⟨m.min_le, m.le_max⟩]
    exact ⟨m, rfl, rfl, Value.cast_of_some (by rw [h, fits, Option.map_some])⟩
  | none =>
    rw [if_neg (IntegerKind.ofInt?_eq_none_iff.mp fits)]
    exact Value.cast_of_none (by rw [h, fits, Option.map_none])

theorem givesLowBits_of_cast? (h : x.cast? (.integer k) mode = some (.integer (k.wrap n))) :
    GivesLowBits k n ((Value.number x).cast ⟨x.kind, .integer k⟩ mode) :=
  ⟨k.wrap n, Value.cast_of_some h, fun _ => IntegerKind.eq_wrap_iff⟩

/-! ## Casts -/

namespace Number

/-- A checked cast keeps an integer that lies in the range of the target, also where the target is
the integer's own kind. -/
theorem cast?_integer_checked (i : MachineInteger) (k : IntegerKind) :
    (integer i).cast? (.integer k) .checked = (k.ofInt? i.value).map integer := by
  rw [cast?]
  split
  · rename_i same
    cases same
    rw [IntegerKind.ofInt?_eq_some_iff.mpr ⟨rfl, rfl⟩, Option.map_some]
  · rfl

theorem cast?_integer_unchecked (i : MachineInteger) (k : IntegerKind) :
    (integer i).cast? (.integer k) .unchecked = some (integer (k.wrap i.value)) := by
  rw [cast?]
  split
  · rename_i same
    cases same
    rw [← IntegerKind.eq_wrap_iff.mpr ⟨rfl, rfl⟩]
  · rfl

/-- A decimal has to fit in both modes. -/
theorem cast?_decimal (d : Decimal) (k : IntegerKind) (mode : OverflowMode) :
    (decimal d).cast? (.integer k) mode = (k.ofInt? (towardZero d.toRat)).map integer := by
  rw [← d.truncate_eq]
  rfl

/-- An integer is a decimal without fraction digits. -/
theorem exists_cast?_decimal (i : MachineInteger) (mode : OverflowMode) :
    ∃ d : Decimal, (integer i).cast? .decimal mode = some (decimal d) ∧
      d.coefficient = i.value ∧ d.scale = 0 := by
  obtain ⟨d, hd⟩ := exists_ofInt? i
  refine ⟨d, congrArg (Option.map decimal) hd, ?_⟩
  rw [Decimal.ofInt?, Decimal.ofParts?] at hd
  split at hd
  · cases hd
    exact ⟨rfl, rfl⟩
  · cases hd

end Number

/-- A value that is not of the source kind is refused, also by the identity. -/
theorem Value.cast_of_mismatch {c : NumericCast} {v : Value} (h : v.numericKind? ≠ some c.source)
    (mode : OverflowMode) : v.cast c mode = .error (.valueMismatch c.source.name v.typeName) := by
  cases v with
  | number x => exact if_neg fun same => h (congrArg some same)
  | _ => rfl

/-- **Casts of integers and decimals are exact.** Between integral kinds, the checked cast gives the
integer itself or an overflow, and the unchecked cast gives the integer of the target kind with the
same low bits. A decimal becomes the integer next to it towards zero or an overflow, in both modes.
An integer becomes the decimal of the same value without fraction digits. A value that is not of the
source kind is refused. -/
theorem cast_exact :
    (∀ (i : MachineInteger) (k : IntegerKind), let c : NumericCast := ⟨.integer i.kind, .integer k⟩
        GivesExactly (.integer i.kind) k i.value
            ((Value.number (.integer i)).cast c .checked) ∧
          GivesLowBits k i.value ((Value.number (.integer i)).cast c .unchecked)) ∧
      (∀ (d : Decimal) (k : IntegerKind) (mode : OverflowMode),
        GivesExactly .decimal k (towardZero d.toRat)
          ((Value.number (.decimal d)).cast ⟨.decimal, .integer k⟩ mode)) ∧
      (∀ (i : MachineInteger) (mode : OverflowMode), ∃ d : Decimal,
        (Value.number (.integer i)).cast ⟨.integer i.kind, .decimal⟩ mode
            = .ok (.number (.decimal d)) ∧ d.coefficient = i.value ∧ d.scale = 0) ∧
      ∀ (c : NumericCast) (mode : OverflowMode) (v : Value), v.numericKind? ≠ some c.source →
        v.cast c mode = .error (.valueMismatch c.source.name v.typeName) := by
  refine ⟨fun i k => ⟨?_, ?_⟩, fun d k mode => ?_, fun i mode => ?_,
    fun c mode v other => Value.cast_of_mismatch other mode⟩
  · exact givesExactly_of_cast? (Number.cast?_integer_checked i k)
  · exact givesLowBits_of_cast? (Number.cast?_integer_unchecked i k)
  · exact givesExactly_of_cast? (Number.cast?_decimal d k mode)
  · obtain ⟨d, given, parts⟩ := Number.exists_cast?_decimal i mode
    exact ⟨d, Value.cast_of_some given, parts⟩

/-- A truth value is no byte, so not even the identity of bytes takes it. -/
theorem cast_exact_mismatch :
    (Value.bool true).numericKind? ≠ some (.integer .byte) ∧
      (Value.bool true).cast ⟨.integer .byte, .integer .byte⟩ .checked
        = .error (.valueMismatch "Byte" "Boolean") :=
  ⟨by decide, cast_exact.2.2.2 ⟨.integer .byte, .integer .byte⟩ .checked (.bool true) (by decide)⟩

end TypeConversion
