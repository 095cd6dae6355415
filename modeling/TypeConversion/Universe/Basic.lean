import TypeConversion.Types.Descriptor
import TypeConversion.Operator

/-!
# The type universe

A universe holds the types that are known by token, the tokens that are known by name or by
structure, and the operators that types declare. Types and operators are only ever added.

* `Universe.initial` holds the framework types and the types of the numeric kinds.
* `Universe.find?`, `Universe.resolve` and `Universe.findByName?` look types up.
* `Universe.register` adds a declared type after checking what it mentions, `Universe.publish` adds
  a type without a check.
-/

namespace TypeConversion

/-- What a constructed type is built from. Two constructions with one key give one type. -/
inductive ConstructionKey
  | optional (inner : Token)
  | array (element : Token) (rank : Nat)
  | generic (definition : Token) (arguments : List Token)
  deriving DecidableEq

/-- The types and operators that are known, newest type first, operators in the order of their
declaration. The counters give the rows of the next tokens. -/
structure Universe where
  types : List TypeDescriptor
  names : List (String × Token)
  constructions : List (ConstructionKey × Token)
  operators : List Operator
  nextDeclared : Nat
  nextConstructed : Nat
  nextOperator : Nat
  operatorGeneration : Nat

namespace Universe

/-- The type with the given token. -/
def find? (u : Universe) (token : Token) : Option TypeDescriptor :=
  u.types.find? fun t => t.token == token

/-- The type with the given token, which has to be known. -/
def resolve (u : Universe) (token : Token) : Except Error TypeDescriptor :=
  match u.find? token with
  | some t => .ok t
  | none => .error (.typeNotFound token)

/-- The token that a full name stands for. -/
def tokenOfName? (u : Universe) (fullName : String) : Option Token :=
  u.names.lookup fullName

/-- The type with the given full name. -/
def findByName? (u : Universe) (fullName : String) : Option TypeDescriptor :=
  (u.tokenOfName? fullName).bind u.find?

/-- The number of types. -/
def size (u : Universe) : Nat := u.types.length

/-- Whether no type is known. -/
def isEmpty (u : Universe) : Bool := u.types.isEmpty

/-- Add a type under its token, in place of a type of that token, and under its full name. -/
def publish (u : Universe) (t : TypeDescriptor) : Universe :=
  { u with
    types := t :: u.types.filter fun s => s.token != t.token
    names := (t.fullName, t.token) :: u.names }

/-- A published type is found under its token, every other token keeps what it had. -/
theorem find?_publish (u : Universe) (t : TypeDescriptor) (token : Token) :
    (u.publish t).find? token = if t.token = token then some t else u.find? token := by
  by_cases h : t.token = token
  · simp [find?, publish, h]
  · have kept : (u.types.filter fun s => s.token != t.token).find? (fun s => s.token == token)
        = u.types.find? fun s => s.token == token := by
      rw [List.find?_filter]
      congr 1
      funext s
      by_cases hs : s.token = token
      · simp [hs, Ne.symm h]
      · simp [hs]
    simp [find?, publish, h, kept]

/-- A name of a published type stands for its token, every other name for what it stood for. -/
theorem tokenOfName?_publish (u : Universe) (t : TypeDescriptor) (name : String) :
    (u.publish t).tokenOfName? name
      = if name = t.fullName then some t.token else u.tokenOfName? name := by
  by_cases h : name = t.fullName
  · simp [tokenOfName?, publish, h]
  · simp [tokenOfName?, publish, List.lookup_cons, beq_false_of_ne h, h]

/-- A new token for a declared type. -/
def allocate (u : Universe) : Token × Universe :=
  (.ofParts Token.declaredTable u.nextDeclared, { u with nextDeclared := u.nextDeclared + 1 })

/-- The universe without any type. -/
def empty : Universe :=
  { types := []
    names := []
    constructions := []
    operators := []
    nextDeclared := 1
    nextConstructed := 1
    nextOperator := 1
    operatorGeneration := 0 }

/-- The types that every universe holds, in the order of their tokens. -/
def builtinTypes : List TypeDescriptor :=
  FrameworkType.all.map FrameworkType.descriptor ++ NumericKind.all.map NumericKind.descriptor

/-- The universe of the framework types and the numeric kinds. -/
def initial : Universe :=
  { builtinTypes.foldl publish empty with nextDeclared := builtinTypes.length + 1 }

/-! ## Registration -/

/-- The base of a new type has to be known, and to be neither an interface nor sealed. -/
def checkBase (u : Universe) (t : TypeDescriptor) : Except Error Unit :=
  match t.base with
  | none => .ok ()
  | some token => do
    let base ← u.resolve token
    if base.isInterface then
      throw (.typeFault (.extendsInterface t.fullName base.fullName))
    if base.isSealed then
      throw (.typeFault (.extendsSealed t.fullName base.fullName))

/-- The interfaces of a new type have to be known interfaces. -/
def checkInterfaces (u : Universe) (t : TypeDescriptor) : List Token → Except Error Unit
  | [] => .ok ()
  | token :: rest => do
    let listed ← u.resolve token
    if !listed.isInterface then
      throw (.typeFault (.implementsNonInterface t.fullName listed.fullName))
    checkInterfaces u t rest

/-- The element of a new type has to be known. -/
def checkElement (u : Universe) (t : TypeDescriptor) : Except Error Unit :=
  match t.element with
  | none => .ok ()
  | some token => do discard (u.resolve token)

/-- Add a declared type, after checking its token, its base, its interfaces, its element and its
name in this order. -/
def register (u : Universe) (t : TypeDescriptor) : Except Error Universe := do
  if (u.find? t.token).isSome then
    throw (.typeFault (.tokenTaken t.token))
  u.checkBase t
  u.checkInterfaces t t.interfaces
  u.checkElement t
  if (u.tokenOfName? t.fullName).isSome then
    throw (.typeInsert t.fullName)
  return u.publish t

end Universe

end TypeConversion
