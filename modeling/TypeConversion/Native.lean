import TypeConversion.Universe.Construction

/-!
# Native types

The types of the host program whose values cross into and out of dynamic values: numbers, truth
values, characters, strings, dynamic values themselves, and optional values of all these.

* `NativeType.Carrier` is the type of the native values.
* `NativeType.descriptor` is the type that native values have in a universe. The option of a value
  type is an optional; the option of a reference type is the type itself, whose null stands for
  nothing.
* `NativeType.toValue` and `NativeType.ofValue` cross the border.
-/

namespace TypeConversion

/-- The native types. -/
inductive NativeType
  | number (kind : NumericKind)
  | bool
  | character
  | string
  | value
  | option (inner : NativeType)
  deriving DecidableEq, Repr

namespace NativeType

/-- The native values of a type. -/
def Carrier : NativeType → Type
  | number kind => { n : Number // n.kind = kind }
  | bool => Bool
  | character => Char
  | string => String
  | value => Value
  | option inner => Option inner.Carrier

/-- Whether native values of a type are values of a value type. -/
def isValueType : NativeType → Bool
  | number _ | bool | character => true
  | string | value => false
  | option inner => inner.isValueType

/-- The type in a universe of the native values, which may have to be constructed. -/
def descriptor : NativeType → Universe → Except Error TypeDescriptor × Universe
  | number kind, u => (.ok kind.descriptor, u)
  | bool, u => (.ok FrameworkType.boolean.descriptor, u)
  | character, u => (.ok (NumericKind.integer .char).descriptor, u)
  | string, u => (.ok FrameworkType.string.descriptor, u)
  | value, u => (.ok FrameworkType.object.descriptor, u)
  | option inner, u =>
    match inner.descriptor u with
    | (.error e, u) => (.error e, u)
    | (.ok t, u) =>
      if inner.isValueType then
        match u.optionalOf t with
        | .ok (made, u) => (.ok made, u)
        | .error e => (.error e, u)
      else (.ok t, u)

/-- A character as a code unit, if it is a single one. -/
def codeUnitOf (c : Char) : Except Error Value :=
  match IntegerKind.char.ofInt? c.toNat with
  | some unit => .ok (.number (.integer unit))
  | none => .error (.valueMismatch "Char" ("U+" ++ Hex.upper 4 c.toNat))

/-- A code unit as a character, if it is not half of a surrogate pair. -/
def characterOf (unit : Nat) : Except Error Char :=
  if unit.isValidChar then .ok (Char.ofNat unit)
  else .error (.valueMismatch "Char" ("surrogate U+" ++ Hex.upper 4 unit))

/-- The dynamic value of a native one. -/
def toValue : (t : NativeType) → t.Carrier → Except Error Value
  | number _, n => .ok (.number n.val)
  | bool, b => .ok (.bool b)
  | character, c => codeUnitOf c
  | string, s => .ok (.string s)
  | value, v => .ok v
  | option inner, some x =>
    match inner.toValue x with
    | .ok v => .ok (if inner.isValueType then .present v else v)
    | .error e => .error e
  | option inner, none => .ok (if inner.isValueType then .empty else .null)

/-- The error of a value that is not of the expected form. -/
def mismatch {α : Type} (expected : String) (found : Value) : Except Error α :=
  .error (.valueMismatch expected found.typeName)

/-- The native value of a dynamic one. An option takes its content with or without an optional
around it. -/
def ofValue : (t : NativeType) → Value → Except Error t.Carrier
  | number kind, v =>
    match v with
    | .number n => if h : n.kind = kind then .ok ⟨n, h⟩ else mismatch kind.name v
    | _ => mismatch kind.name v
  | bool, v =>
    match v with
    | .bool b => .ok b
    | _ => mismatch "Boolean" v
  | character, v =>
    match v with
    | .number (.integer n) =>
      if n.kind = .char then characterOf n.value.toNat else mismatch "Char" v
    | _ => mismatch "Char" v
  | string, v =>
    match v with
    | .string s => .ok s
    | _ => mismatch "String" v
  | value, v => .ok v
  | option inner, v =>
    match v with
    | .null | .empty => .ok none
    | .present content => (inner.ofValue content).map some
    | other => (inner.ofValue other).map some

end NativeType

end TypeConversion
