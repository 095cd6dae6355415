import TypeConversion.Native
import TypeConversion.Proofs.Numeric.Integers
import TypeConversion.Proofs.Universe.Growth

/-!
# The border between native and dynamic values

A native value that crosses the border and back should be the same. An option shows its missing
content as the empty optional if its content is of a value type, and as the null reference if it is
of a reference type. The second way of crossing has no form for an option inside an option: a
missing content crosses as null, and so does a present content that is itself missing.

* `NativeType.HidesNull t x`: the value is a present content that crosses as null.
* `NativeType.shape_of_toValue`: a value of a value type crosses as something other than null, one
  of a reference type as null or as a string.
* `ofValue_toValue_iff`: a value comes back as it was exactly if it hides no null.
* `not_ofValue_toValue`: the option of an option of a string has a descriptor, and its present but
  missing content comes back as a missing one.
-/

namespace TypeConversion.NativeType

/-- The dynamic values themselves, and options of them. -/
def isDynamic : NativeType → Bool
  | value => true
  | option inner => inner.isDynamic
  | number _ | bool | character | string => false

/-- A present content that crosses as the null reference. -/
inductive HidesNull : (t : NativeType) → t.Carrier → Prop
  | content {inner : NativeType} (x : inner.Carrier) (h : inner.toValue x = .ok .null) :
      HidesNull (option inner) (some x)

variable {t inner : NativeType} {v w : Value}

/-! ## The characters -/

/-- A character that is a single code unit is the character of that unit. -/
theorem ofValue_codeUnitOf {c : Char} (h : codeUnitOf c = .ok v) :
    character.ofValue v = (.ok c : Except Error Char) := by
  rw [codeUnitOf] at h
  split at h
  · rename_i unit single
    obtain ⟨kind, value⟩ := IntegerKind.ofInt?_eq_some_iff.mp single
    cases h
    have number : unit.value.toNat = c.toNat := by simp [value]
    have valid : c.toNat.isValidChar := c.valid
    simp only [ofValue, characterOf, kind, number, valid, if_true, Char.ofNat_toNat]
    rfl
  · cases h

/-! ## The forms of values on the other side -/

/-- A present content crosses as it does by itself, inside an optional if it is of a value type. -/
theorem toValue_some_eq_ok {x : inner.Carrier} (h : (option inner).toValue (some x) = .ok v) :
    ∃ w, inner.toValue x = .ok w ∧ v = if inner.isValueType then .present w else w := by
  rw [toValue] at h
  split at h
  · rename_i w crosses
    exact ⟨w, crosses, (Except.ok.inj h).symm⟩
  · cases h

/-- **What crosses for a value.** A value of a value type crosses as something other than null, and
one of a reference type as null or as a string. -/
theorem shape_of_toValue (static : t.isDynamic = false) {x : t.Carrier} (h : t.toValue x = .ok v) :
    (t.isValueType = true ∧ v ≠ .null) ∨
      (t.isValueType = false ∧ (v = .null ∨ ∃ s, v = .string s)) := by
  induction t generalizing v with
  | number kind | bool =>
    cases h
    exact .inl ⟨rfl, by simp⟩
  | character =>
    refine .inl ⟨rfl, ?_⟩
    rintro rfl
    cases ofValue_codeUnitOf h
  | string =>
    cases h
    exact .inr ⟨rfl, .inr ⟨x, rfl⟩⟩
  | value => cases static
  | option inner ih =>
    cases x with
    | none =>
      cases kind : inner.isValueType <;> simp [toValue, kind] at h <;> simp [isValueType, kind, ← h]
    | some x =>
      obtain ⟨w, crosses, rfl⟩ := toValue_some_eq_ok h
      rcases ih static crosses with ⟨kind, -⟩ | ⟨kind, shape⟩
      · exact .inl ⟨kind, by simp [kind]⟩
      · exact .inr ⟨kind, by simpa [kind] using shape⟩

/-- What hides a null crosses as null itself, and is of a reference type. -/
theorem eq_null_of_hidesNull (static : t.isDynamic = false) {x : t.Carrier}
    (h : t.toValue x = .ok v) (hidden : t.HidesNull x) : v = .null ∧ t.isValueType = false := by
  obtain @⟨inner, x, content⟩ := hidden
  obtain ⟨w, crosses, rfl⟩ := toValue_some_eq_ok h
  rw [content] at crosses
  cases crosses
  have static : inner.isDynamic = false := static
  rcases shape_of_toValue static content with ⟨-, notNull⟩ | ⟨kind, -⟩
  · exact absurd rfl notNull
  · exact ⟨by simp [kind], kind⟩

/-! ## Crossing and coming back -/

/-- A value that hides no null comes back as it was. -/
theorem ofValue_of_not_hidesNull (static : t.isDynamic = false) {x : t.Carrier}
    (h : t.toValue x = .ok v) (shown : ¬t.HidesNull x) : t.ofValue v = .ok x := by
  induction t generalizing v with
  | number kind =>
    cases h
    have own : x.val.kind = kind := x.property
    simp only [ofValue, own, dif_pos]
    rfl
  | bool | string =>
    cases h
    rfl
  | character => exact ofValue_codeUnitOf h
  | value => cases static
  | option inner ih =>
    cases x with
    | none =>
      cases kind : inner.isValueType <;> simp [toValue, kind] at h <;> simp [ofValue, ← h]
    | some x =>
      obtain ⟨w, crosses, rfl⟩ := toValue_some_eq_ok h
      have static : inner.isDynamic = false := static
      have notNull : w ≠ .null := by
        rintro rfl
        exact shown (.content x crosses)
      have back : inner.ofValue w = .ok x := by
        apply ih static crosses
        intro hidden
        exact notNull (eq_null_of_hidesNull static crosses hidden).1
      rcases shape_of_toValue static crosses with ⟨kind, -⟩ | ⟨kind, rfl | ⟨s, rfl⟩⟩
      · simp [kind, ofValue, back, Except.map]
      · exact absurd rfl notNull
      · simp [kind, ofValue, back, Except.map]

/-- **A native value crosses the border and comes back as it was exactly if it hides no null.** One
that hides a null is an option of a reference type, crosses as null, and so comes back as the option
without a content. -/
theorem ofValue_toValue_iff (static : t.isDynamic = false) {x : t.Carrier}
    (h : t.toValue x = .ok v) :
    (t.ofValue v = .ok x ↔ ¬t.HidesNull x) ∧
      (t.HidesNull x → v = .null ∧ t.isValueType = false) := by
  refine ⟨⟨fun back hidden => ?_, ofValue_of_not_hidesNull static h⟩,
    eq_null_of_hidesNull static h⟩
  obtain ⟨rfl, -⟩ := eq_null_of_hidesNull static h hidden
  obtain @⟨inner, x, -⟩ := hidden
  have missing : (option inner).ofValue .null = .ok (none : Option inner.Carrier) := rfl
  rw [missing] at back
  cases back

/-- A native type with a descriptor can lose values: the present but missing content of an option of
an option of a string comes back missing, and it cannot be told from a missing one when it has
crossed. -/
theorem not_ofValue_toValue :
    (¬∀ (t : NativeType) (u : Universe) (d : TypeDescriptor) (x : t.Carrier) (v : Value),
      t.isDynamic = false → u.Built → (t.descriptor u).1 = .ok d → t.toValue x = .ok v →
        t.ofValue v = .ok x) ∧
    ¬∀ (t : NativeType) (u : Universe) (d : TypeDescriptor) (x y : t.Carrier) (v : Value),
      t.isDynamic = false → u.Built → (t.descriptor u).1 = .ok d → t.toValue x = .ok v →
        t.toValue y = .ok v → x = y := by
  constructor
  · intro back
    have back := back (option (option string)) .initial FrameworkType.string.descriptor
      (some none : Option (Option String)) .null rfl .initial rfl rfl
    cases back
  · intro apart
    have same := apart (option (option string)) .initial FrameworkType.string.descriptor
      (some none : Option (Option String)) (none : Option (Option String)) .null rfl .initial rfl
      rfl rfl
    cases same

/-- A string comes back inside both of its options, and a missing string inside a present option
does not. -/
theorem ofValue_toValue_iff_texts :
    (option (option string)).ofValue (.string "a")
        = .ok (some (some "a") : Option (Option String)) ∧
      (option (option string)).ofValue .null ≠ .ok (some none : Option (Option String)) := by
  constructor
  · obtain ⟨back, -⟩ := ofValue_toValue_iff (t := option (option string)) rfl
      (x := (some (some "a") : Option (Option String))) (v := .string "a") rfl
    refine back.mpr ?_
    rintro ⟨_, content⟩
    cases content
  · obtain ⟨back, -⟩ := ofValue_toValue_iff (t := option (option string)) rfl
      (x := (some none : Option (Option String))) (v := .null) rfl
    intro same
    exact back.mp same (@HidesNull.content (option string) none rfl)

end TypeConversion.NativeType
