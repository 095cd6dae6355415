import TypeConversion.Table
import TypeConversion.Universe.Operators

/-!
# Visible operators

The operators visible on a type are those that the type declares and then those of its bases,
nearest first.

* `Universe.visibleOperators` finds them in the universe.
* `OperatorCache.visible` remembers what was found, for as long as no operator is declared.
-/

namespace TypeConversion

/-- The operators of a type and of its bases, each once. -/
def Universe.visibleOperators (u : Universe) (t : TypeDescriptor) : List Operator :=
  Token.distinct Operator.token ((t :: u.ancestors t).flatMap u.operatorsDeclaredBy)

/-- Visible operators by type, with the generation at which they were found. -/
structure OperatorCache where
  entries : Table Token (Nat × List Operator) := {}

namespace OperatorCache

/-- The number of types whose operators are remembered. -/
def size (c : OperatorCache) : Nat := c.entries.size

/-- Whether nothing is remembered. -/
def isEmpty (c : OperatorCache) : Bool := c.entries.isEmpty

/-- What is remembered of a type. -/
def find? (c : OperatorCache) (token : Token) : Option (Nat × List Operator) :=
  c.entries.lookup token

/-- Remember the operators of a type, in place of older ones. -/
def insert (c : OperatorCache) (token : Token) (generation : Nat) (operators : List Operator) :
    OperatorCache :=
  ⟨c.entries.insert token (generation, operators)⟩

@[simp] theorem find?_insert (c : OperatorCache) (token other : Token) (generation : Nat)
    (operators : List Operator) :
    (c.insert token generation operators).find? other
      = if other = token then some (generation, operators) else c.find? other :=
  Table.lookup_insert _ _ _ _

/-- The operators visible on a type: those remembered from the universe's generation, or else those
found now, which are remembered. -/
def visible (c : OperatorCache) (u : Universe) (t : TypeDescriptor) :
    List Operator × OperatorCache :=
  let found := u.visibleOperators t
  match c.find? t.token with
  | some (generation, operators) =>
    if generation = u.operatorGeneration then (operators, c)
    else (found, c.insert t.token u.operatorGeneration found)
  | none => (found, c.insert t.token u.operatorGeneration found)

end OperatorCache

end TypeConversion
