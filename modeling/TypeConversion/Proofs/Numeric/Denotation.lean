import TypeConversion.Proofs.Numeric.Integers
import Mathlib.Tactic.LinearCombination

/-!
# What the bits of a float denote

The standard's reading of the bits of a binary format, beside the one that casts compute with. The
bits are a sign, a stored exponent and a fraction. The exponent is stored with a bias, and the
greatest stored exponent is kept for the infinities and for what is no number.

* `FloatValue`: a rational number, an infinity, or no number.
* `BinaryFormat.Denotes f bits v`: the bits stand for `v`.
* `BinaryFormat.denotes_iff` and `Number.denotes_iff`: what the bits are decoded to is the one value
  that they denote.
-/

namespace TypeConversion

-- Powers are those of the core library, also where another library has its own.
attribute [local instance (2000)] instPowNat

/-- What the bits of a float stand for. -/
inductive FloatValue
  | number (value : Rat)
  | infinity (negative : Bool)
  | nan

/-- The number of a magnitude and a sign. -/
def FloatValue.signed (negative : Bool) (magnitude : Rat) : FloatValue :=
  number (if negative then -magnitude else magnitude)

/-- The value that decoded bits stand for. -/
def FloatDatum.value : FloatDatum → FloatValue
  | nan => .nan
  | infinity negative => .infinity negative
  | finite negative significand exponent => .signed negative (significand * twoPow exponent)

/-- A power of two, whatever its exponent. -/
theorem FloatDatum.twoPow_eq (e : Int) : twoPow e = (2 : Rat) ^ e := by
  rw [twoPow]
  split
  · rename_i nonneg
    obtain ⟨n, rfl⟩ := Int.eq_ofNat_of_zero_le nonneg
    simp
  · rename_i negative
    obtain ⟨n, hn⟩ := Int.eq_ofNat_of_zero_le (show 0 ≤ -e by omega)
    obtain rfl : e = -n := by omega
    simp [Rat.mkRat_eq_div]

namespace BinaryFormat

variable (f : BinaryFormat)

/-- The stored exponent of the numbers from one up to two. -/
def bias : Int := 2 ^ (f.exponentBits - 1) - 1

/-- The magnitude of a stored exponent and a fraction. The bit before the fraction is not stored: it
is set, except where the stored exponent is zero, and there the power of two is that of the stored
exponent one. -/
def magnitude (exponent fraction : Nat) : Rat :=
  let part : Rat := fraction * (2 : Rat) ^ (-f.fractionBits : Int)
  if exponent = 0 then (2 : Rat) ^ (1 - f.bias) * part
  else (2 : Rat) ^ (exponent - f.bias) * (1 + part)

/-- The bits of a sign, a stored exponent and a fraction. -/
def pack (negative : Bool) (exponent fraction : Nat) : Nat :=
  (negative.toNat * 2 ^ f.exponentBits + exponent) * 2 ^ f.fractionBits + fraction

/-- The bits of the format stand for the value. -/
inductive Denotes : Nat → FloatValue → Prop
  | number {negative : Bool} {exponent fraction : Nat} (he : exponent < 2 ^ f.exponentBits - 1)
      (hf : fraction < 2 ^ f.fractionBits) :
      Denotes (f.pack negative exponent fraction) (.signed negative (f.magnitude exponent fraction))
  | infinity {negative : Bool} :
      Denotes (f.pack negative (2 ^ f.exponentBits - 1) 0) (.infinity negative)
  | nan {negative : Bool} {fraction : Nat} (hf : fraction < 2 ^ f.fractionBits)
      (ne : fraction ≠ 0) : Denotes (f.pack negative (2 ^ f.exponentBits - 1) fraction) .nan

variable {f} {negative : Bool} {exponent fraction bits : Nat} {v : FloatValue}

/-! ## Fields -/

/-- Decoding takes apart the fields that the bits were packed from. -/
theorem decode_pack (he : exponent < 2 ^ f.exponentBits) (hf : fraction < 2 ^ f.fractionBits) :
    f.decode (f.pack negative exponent fraction) =
      if exponent = 2 ^ f.exponentBits - 1 then
        if fraction = 0 then .infinity negative else .nan
      else if exponent = 0 then .finite negative fraction f.minExponent
      else .finite negative (2 ^ f.fractionBits + fraction) (f.minExponent + exponent - 1) := by
  have low : f.pack negative exponent fraction % 2 ^ f.fractionBits = fraction := by
    rw [pack, Nat.mul_comm, Nat.mul_add_mod, Nat.mod_eq_of_lt hf]
  have high : f.pack negative exponent fraction / 2 ^ f.fractionBits
      = negative.toNat * 2 ^ f.exponentBits + exponent := by
    rw [pack, Nat.mul_comm, Nat.mul_add_div (Nat.two_pow_pos _), Nat.div_eq_of_lt hf, Nat.add_zero]
  have stored : (negative.toNat * 2 ^ f.exponentBits + exponent) % 2 ^ f.exponentBits
      = exponent := by
    rw [Nat.mul_comm, Nat.mul_add_mod, Nat.mod_eq_of_lt he]
  have sign : f.pack negative exponent fraction / f.signBit = negative.toNat := by
    rw [signBit, Nat.pow_add, ← Nat.div_div_eq_div_mul, high, Nat.mul_comm,
      Nat.mul_add_div (Nat.two_pow_pos _), Nat.div_eq_of_lt he, Nat.add_zero]
  have isNegative : (negative.toNat % 2 == 1) = negative := by cases negative <;> rfl
  simp only [decode, sign, high, stored, low, isNegative]

/-- All bits of the format are packed from fields. -/
theorem exists_pack (h : bits < 2 * f.signBit) : ∃ negative exponent fraction,
    exponent < 2 ^ f.exponentBits ∧ fraction < 2 ^ f.fractionBits ∧
      bits = f.pack negative exponent fraction := by
  let upper := bits / 2 ^ f.fractionBits
  have few : upper / 2 ^ f.exponentBits < 2 := by
    rw [Nat.div_div_eq_div_mul, ← Nat.pow_add]
    exact Nat.div_lt_of_lt_mul (by rwa [Nat.mul_comm])
  have sign : ∀ n < 2, (n == 1).toNat = n := by decide
  refine ⟨upper / 2 ^ f.exponentBits == 1, upper % 2 ^ f.exponentBits, bits % 2 ^ f.fractionBits,
    Nat.mod_lt _ (Nat.two_pow_pos _), Nat.mod_lt _ (Nat.two_pow_pos _), ?_⟩
  rw [pack, sign _ few, Nat.div_add_mod', Nat.div_add_mod']

/-! ## Values -/

/-- The exponent of the least number, by the bias. -/
theorem minExponent_eq (f : BinaryFormat) : f.minExponent = 1 - f.bias - f.fractionBits := by
  rw [minExponent, bias]
  omega

theorem magnitude_zero (fraction : Nat) :
    f.magnitude 0 fraction = fraction * FloatDatum.twoPow f.minExponent := by
  rw [FloatDatum.twoPow_eq, minExponent_eq, sub_eq_add_neg (1 - f.bias), zpow_add₀ two_ne_zero]
  simp only [magnitude, if_true]
  ring

theorem magnitude_of_ne_zero (ne : exponent ≠ 0) (fraction : Nat) :
    f.magnitude exponent fraction
      = (2 ^ f.fractionBits + fraction : Nat)
        * FloatDatum.twoPow (f.minExponent + exponent - 1) := by
  have split : f.minExponent + exponent - 1 = (exponent - f.bias) + (-f.fractionBits : Int) := by
    rw [minExponent_eq]
    omega
  have unit : ((2 ^ f.fractionBits : Nat) : Rat) * (2 : Rat) ^ (-f.fractionBits : Int) = 1 := by
    rw [zpow_neg, zpow_natCast, Nat.cast_pow]
    exact mul_inv_cancel₀ (by positivity)
  rw [FloatDatum.twoPow_eq, split, zpow_add₀ two_ne_zero]
  simp only [magnitude, if_neg ne, Nat.cast_add]
  linear_combination -((2 : Rat) ^ (exponent - f.bias)) * unit

/-- **What bits are decoded to** is the one value that they denote. -/
theorem denotes_iff (h : bits < 2 * f.signBit) : f.Denotes bits v ↔ v = (f.decode bits).value := by
  have positive := Nat.two_pow_pos f.exponentBits
  constructor
  · intro denotes
    cases denotes with
    | number he hf =>
      rename_i negative exponent fraction
      rw [decode_pack (by omega) hf, if_neg (by omega)]
      split
      · subst exponent
        rw [magnitude_zero]
        rfl
      · rw [magnitude_of_ne_zero ‹_›]
        rfl
    | infinity =>
      rw [decode_pack (by omega) (Nat.two_pow_pos _), if_pos rfl, if_pos rfl]
      rfl
    | nan hf ne =>
      rw [decode_pack (by omega) hf, if_pos rfl, if_neg ne]
      rfl
  · rintro rfl
    obtain ⟨negative, exponent, fraction, he, hf, rfl⟩ := exists_pack h
    rw [decode_pack he hf]
    split
    · subst exponent
      split
      · subst fraction
        exact .infinity
      · exact .nan hf ‹_›
    · split
      · subst exponent
        rw [FloatDatum.value, ← magnitude_zero]
        exact .number (by omega) hf
      · rw [FloatDatum.value, ← magnitude_of_ne_zero ‹_›]
        exact .number (by omega) hf

end BinaryFormat

namespace Number

/-- What a float stands for. Numbers of other kinds are no floats. -/
def Denotes : Number → FloatValue → Prop
  | single bits, v => BinaryFormat.single.Denotes bits.toNat v
  | double bits, v => BinaryFormat.double.Denotes bits.toNat v
  | integer _, _ | decimal _, _ => False

theorem denotes_iff {x : Number} {d : FloatDatum} {v : FloatValue} (h : x.datum? = some d) :
    x.Denotes v ↔ v = d.value := by
  cases x with
  | integer | decimal => cases h
  | single bits =>
    cases h
    exact BinaryFormat.denotes_iff bits.toNat_lt
  | double bits =>
    cases h
    exact BinaryFormat.denotes_iff bits.toNat_lt

end Number

end TypeConversion
