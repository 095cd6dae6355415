import TypeConversion.Proofs.Universe.WellFormed

/-!
# The initial universe

The built-in types form a well-formed universe. What they mention is among them, and the rank of a
built-in type is the length of the longest chain of mentions that starts from it.
-/

namespace TypeConversion

/-- The length of the longest chain of mentions from a framework type. -/
def FrameworkType.rank : FrameworkType → Nat
  | object | comparable | convertible | formattable | cloneable | enumerable => 0
  | valueType | collection | string | delegate => 1
  | enumerableOf | collectionOf | listOf | readOnlyCollectionOf | readOnlyListOf => 1
  | list | enum | boolean | multicastDelegate | nullable => 2
  | array => 3

namespace Universe

/-- The rank of a built-in type; the numeric kinds mention the base of value types. -/
def builtinRank (k : Token) : Nat :=
  match FrameworkType.ofToken? k with
  | some t => t.rank
  | none => 2

theorem types_initial : initial.types = builtinTypes.reverse := rfl

theorem mem_initial {t : TypeDescriptor} : t ∈ initial ↔ t ∈ builtinTypes := by
  refine ⟨fun h => ?_, fun h => ?_⟩
  · have found := List.mem_of_find?_eq_some h
    rwa [types_initial, List.mem_reverse] at found
  · have known : ∀ t ∈ builtinTypes, initial.find? t.token = some t := by decide
    exact known t h

theorem shaped_initial {t : TypeDescriptor} (h : t ∈ builtinTypes) : Shaped initial t where
  mentioned := by
    have known : ∀ t ∈ builtinTypes, ∀ k ∈ t.mentions, ∃ s ∈ builtinTypes, s.token = k := by
      decide
    simpa only [mem_initial] using known t h
  base_open := by
    have isOpen : ∀ t ∈ builtinTypes, ∀ k ∈ t.base,
        ∃ s ∈ builtinTypes, s.token = k ∧ s.isInterface = false ∧ s.isSealed = false := by decide
    simpa only [mem_initial, Option.mem_def] using isOpen t h
  interface_base := by
    have noBase : ∀ t ∈ builtinTypes, t.isInterface = true → t.base = none := by decide
    exact noBase t h
  listed := by
    have known : ∀ t ∈ builtinTypes, ∀ k ∈ t.interfaces,
        ∃ s ∈ builtinTypes, s.token = k ∧ s.isInterface = true := by decide
    simpa only [mem_initial] using known t h
  enum_base := by
    have noEnum : ∀ t ∈ builtinTypes, t.isEnum = false := by decide
    simp [noEnum t h]
  delegate_sealed := by
    have noDelegate : ∀ t ∈ builtinTypes, t.kind ≠ .delegate := by decide
    exact fun e => absurd e (noDelegate t h)
  definition := by
    have declarable : ∀ t ∈ builtinTypes, t.isGenericDefinition = true →
        t.kind.isDeclarable = true ∧ t.genericDefinition = none := by decide
    exact declarable t h
  optional := by
    have noOptional : ∀ t ∈ builtinTypes, t.isOptional = false := by decide
    simp [noOptional t h]
  array := by
    have noArray : ∀ t ∈ builtinTypes, t.kind.rank? = none := by decide
    intro rank e
    simpa [e, TypeKind.rank?] using noArray t h
  instantiated := by
    have noInstance : ∀ t ∈ builtinTypes, t.genericDefinition = none := by decide
    simp [noInstance t h]
  known_kind := by
    have known : ∀ t ∈ builtinTypes, t.kind ≠ .other := by decide
    exact known t h

theorem layered_initial : Layered initial where
  builtin _ h := mem_initial.mpr h
  shaped _ h := shaped_initial (mem_initial.mp h)
  ranked := by
    have below : ∀ t ∈ builtinTypes, builtinRank t.token < initial.types.length := by decide
    have falls : ∀ t ∈ builtinTypes, ∀ k ∈ t.mentions, builtinRank k < builtinRank t.token := by
      decide
    exact ⟨builtinRank, fun t h => below t (mem_initial.mp h),
      fun t h => falls t (mem_initial.mp h)⟩

theorem interned_initial : Interned initial where
  recorded t h key e := by
    have plain : ∀ t ∈ builtinTypes, t.constructionKey? = none := by decide
    simp [plain t (mem_initial.mp h)] at e
  constructed key token e := by
    have none : initial.constructions = [] := rfl
    simp [none] at e

theorem numbered_initial : Numbered initial where
  issued t h := by
    have rows : ∀ t ∈ builtinTypes, 0 < t.token.row ∧ t.token.row < initial.nextDeclared
        ∧ t.token = .ofParts Token.declaredTable t.token.row := by decide
    exact .inl ⟨_, rows t (mem_initial.mp h)⟩
  next := rfl
  generation := rfl
  rows := rfl
  operands o h := by cases h

theorem wellFormed_initial : WellFormed initial :=
  { layered_initial, interned_initial, numbered_initial with }

end Universe

end TypeConversion
