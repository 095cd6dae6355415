import TypeConversion.Declaration
import TypeConversion.Universe.Construction
import Mathlib.Data.Nat.Basic
import Mathlib.Order.Basic
import Mathlib.Tactic.Common

/-!
# The growth of a universe

A universe starts with the built-in types and grows by declarations, constructed types and
operators, all over its own types.

* `Declaration.Described token d`: the calls of a declaration lead to `d`.
* `Universe.Step u v`: one operation leads from `u` to `v`. A refused declaration is a step too,
  since its token is spent and the operators before the refused one stay.
* `Universe.Built`: the universes that steps lead to from the initial one while no table of tokens
  is exhausted (`Universe.WithinRows`), so that each row stands for one token.
-/

namespace TypeConversion

-- Powers are those of the core library, also where another library has its own.
attribute [local instance (2000)] instPowNat

/-- The kinds of type that a declaration can choose. -/
def TypeKind.isDeclarable : TypeKind → Bool
  | .classType | .struct | .interface | .delegate | .enum _ => true
  | _ => false

/-- The declarations that calls lead to, from the start with a token. -/
inductive Declaration.Described (token : Token) : Declaration → Prop
  | start : Described token { token := token }
  | asClass {d} (space name : String) (h : Described token d) :
      Described token (d.asClass space name)
  | asValueType {d} (space name : String) (h : Described token d) :
      Described token (d.asValueType space name)
  | asInterface {d} (space name : String) (h : Described token d) :
      Described token (d.asInterface space name)
  | asDelegate {d} (space name : String) (h : Described token d) :
      Described token (d.asDelegate space name)
  | asEnumeration {d} (space name : String) (underlying : NumericKind) (h : Described token d) :
      Described token (d.asEnumeration space name underlying)
  | extending {d} (base : Token) (h : Described token d) : Described token (d.extending base)
  | implementing {d} (implemented : Token) (h : Described token d) :
      Described token (d.implementing implemented)
  | asSealed {d} (h : Described token d) : Described token d.asSealed
  | asAbstract {d} (h : Described token d) : Described token d.asAbstract
  | withParameter {d} (parameter : GenericParameter) (h : Described token d) :
      Described token (d.withParameter parameter)
  | withOperator {d} (pending : PendingOperator) (h : Described token d) :
      Described token (d.withOperator pending)

namespace Universe

/-- A type belongs to a universe if it is the one found under its token. -/
instance : Membership TypeDescriptor Universe := ⟨fun u t => u.find? t.token = some t⟩

instance (t : TypeDescriptor) (u : Universe) : Decidable (t ∈ u) :=
  inferInstanceAs (Decidable (u.find? t.token = some t))

theorem mem_iff {u : Universe} {t : TypeDescriptor} : t ∈ u ↔ u.find? t.token = some t := Iff.rfl

/-- A token of the table of declared types that was given out. -/
def Allocated (u : Universe) (token : Token) : Prop :=
  ∃ row, 0 < row ∧ row < u.nextDeclared ∧ token = .ofParts Token.declaredTable row

/-- One operation on a universe, over its own types. -/
inductive Step (u : Universe) : Universe → Prop
  /-- A declaration begins, which takes a token. -/
  | allocate : Step u u.allocate.2
  /-- A declaration is built, whether it is refused or not. -/
  | build (d : Declaration) (allocated : u.Allocated d.token) (described : d.Described d.token) :
      Step u (d.build u).2
  | optionalOf {inner t : TypeDescriptor} {v : Universe} (known : inner ∈ u)
      (made : u.optionalOf inner = .ok (t, v)) : Step u v
  | arrayOf {element t : TypeDescriptor} {rank : Nat} {v : Universe} (known : element ∈ u)
      (made : u.arrayOf element rank = .ok (t, v)) : Step u v
  | instantiate {definition t : TypeDescriptor} {arguments : List TypeDescriptor} {v : Universe}
      (known : definition ∈ u) (all : ∀ a ∈ arguments, a ∈ u)
      (made : u.instantiate definition arguments = .ok (t, v)) : Step u v
  | declareOperator {declaring input output : Token} {isImplicit : Bool} {procedure : Procedure}
      {o : Operator} {v : Universe}
      (made : u.declareOperator declaring input output isImplicit procedure = .ok (o, v)) : Step u v

/-- No table of tokens is exhausted: every row that was given out has a token of its own. -/
structure WithinRows (u : Universe) : Prop where
  declared : u.nextDeclared ≤ 2 ^ (24 : Nat)
  constructed : u.nextConstructed ≤ 2 ^ (24 : Nat)
  operator : u.nextOperator ≤ 2 ^ (24 : Nat)

/-- The universes that are reached from the initial one while no table is exhausted. -/
inductive Built : Universe → Prop
  | initial : Built .initial
  | step {u v : Universe} (h : Built u) (s : u.Step v) (rows : v.WithinRows) : Built v

end Universe

end TypeConversion
