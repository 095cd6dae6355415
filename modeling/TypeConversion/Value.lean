import TypeConversion.Error
import TypeConversion.Numeric.Number

/-!
# Values

The dynamic values that conversions take and give.

* `Value.sameValue` is equality as the values themselves see it: numbers by number, instances by
  type and identity.
* `Value.cast` applies a numeric cast to a value.
* A `Procedure` is the body of a user operator or of a host converter.
-/

namespace TypeConversion

/-- A dynamic value. An instance carries the identity of its payload, which is what tells two
instances of a type apart. -/
inductive Value
  | null
  | bool (value : Bool)
  | number (value : Number)
  | string (value : String)
  | empty
  | present (content : Value)
  | boxed (type : Token) (content : Value)
  | object (type : Token) (identity : Nat) (payload : Value)
  deriving DecidableEq, Inhabited

/-- What a user operator or a host converter does with a value. -/
abbrev Procedure := Value → Except Error Value

namespace Value

/-- The name of a value's form: the kind of a number, else the form itself. -/
def typeName : Value → String
  | null => "Null"
  | bool _ => "Boolean"
  | number n => n.kind.name
  | string _ => "String"
  | empty | present _ => "Optional"
  | boxed _ _ => "Boxed"
  | object _ _ _ => "Instance"

/-- The kind of a number. -/
def numericKind? : Value → Option NumericKind
  | number n => some n.kind
  | _ => none

/-- Whether the value is the null reference or the empty optional. -/
def isNull : Value → Bool
  | null | empty => true
  | _ => false

/-- Whether two values are equal. A float that is no number differs from itself. -/
def sameValue : Value → Value → Bool
  | null, null => true
  | bool a, bool b => a == b
  | number a, number b => a.sameNumber b
  | string a, string b => a == b
  | empty, empty => true
  | present a, present b => a.sameValue b
  | boxed s a, boxed t b => s == t && a.sameValue b
  | object s i _, object t j _ => s == t && i == j
  | _, _ => false

/-- The text of a value. An optional shows its content. -/
def text : Value → String
  | null => "null"
  | bool b => toString b
  | number n => n.text
  | string s => "\"" ++ s ++ "\""
  | empty => "none"
  | present content => content.text
  | boxed _ content => "box(" ++ content.text ++ ")"
  | object type _ _ => "instance(" ++ type.text ++ ")"

/-- A value as an optional: an optional stays itself, and null becomes the empty one. -/
def wrap : Value → Value
  | null => empty
  | empty => empty
  | present content => present content
  | value => present value

/-- The value cast along a numeric cast. The value has to be of the cast's source kind, even where
the cast is the identity. -/
def cast (c : NumericCast) (mode : OverflowMode) (v : Value) : Except Error Value :=
  match v with
  | number n =>
    if n.kind = c.source then
      match n.cast? c.target mode with
      | some result => .ok (number result)
      | none => .error (.overflow c.source c.target)
    else .error (.valueMismatch c.source.name v.typeName)
  | _ => .error (.valueMismatch c.source.name v.typeName)

end Value

end TypeConversion
