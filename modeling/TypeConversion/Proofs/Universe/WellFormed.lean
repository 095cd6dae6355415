import TypeConversion.Proofs.Universe.Growth

/-!
# Well-formed universes

What the operations on a universe keep true of it.

* `Universe.Shaped u t`: the type `t` mentions types of `u` only, in the roles that they can have.
* `Universe.Layered`: every type is shaped, and the types have a rank that falls from a type to what
  it mentions. Every recursion over the types of a universe follows the rank.
* `Universe.Interned`: constructed types and the table of constructions agree, so two types built
  from the same parts are one.
* `Universe.Numbered`: the tokens of types and operators are the rows given out so far.
-/

namespace TypeConversion

namespace TypeDescriptor

/-- The tokens of the types that a descriptor mentions. -/
def mentions (t : TypeDescriptor) : List Token :=
  t.base.toList ++ t.interfaces ++ t.element.toList ++ t.genericDefinition.toList
    ++ t.genericArguments

/-- What a constructed type is built from. -/
def constructionKey? (t : TypeDescriptor) : Option ConstructionKey :=
  match t.kind with
  | .optional => t.element.map .optional
  | .array rank => t.element.map fun element => .array element rank
  | _ => t.genericDefinition.map fun definition => .generic definition t.genericArguments

variable {t : TypeDescriptor} {k : Token}

theorem mem_mentions_base (h : t.base = some k) : k ∈ t.mentions := by simp [mentions, h]

theorem mem_mentions_interfaces (h : k ∈ t.interfaces) : k ∈ t.mentions := by simp [mentions, h]

theorem mem_mentions_element (h : t.element = some k) : k ∈ t.mentions := by simp [mentions, h]

theorem mem_mentions_genericDefinition (h : t.genericDefinition = some k) : k ∈ t.mentions := by
  simp [mentions, h]

theorem mem_mentions_genericArguments (h : k ∈ t.genericArguments) : k ∈ t.mentions := by
  simp [mentions, h]

end TypeDescriptor

namespace Universe

/-- An optional of `inner`. -/
structure IsOptionalOf (t inner : TypeDescriptor) : Prop where
  element : t.element = some inner.token
  value : inner.isValueType = true
  plain : inner.isOptional = false
  base : t.base = some FrameworkType.valueType.token
  interfaces : t.interfaces = []
  definition : t.genericDefinition = some FrameworkType.nullable.token
  arguments : t.genericArguments = [inner.token]

/-- An array of `element`. -/
structure IsArrayOf (t element : TypeDescriptor) (rank : Nat) : Prop where
  element : t.element = some element.token
  positive : 0 < rank
  base : t.base = some FrameworkType.array.token
  interfaces : t.interfaces = FrameworkType.array.descriptor.interfaces
  definition : t.genericDefinition = none

/-- An instance of `definition`, which is no optional. -/
structure IsInstanceOf (t definition : TypeDescriptor) : Prop where
  token : t.genericDefinition = some definition.token
  isDefinition : definition.isGenericDefinition = true
  closed : t.isGenericDefinition = false
  kind : t.kind = definition.kind
  base : t.base = definition.base
  interfaces : t.interfaces = definition.interfaces
  isSealed : t.flags.isSealed = definition.flags.isSealed
  count : t.genericArguments.length = definition.genericParameters.length

/-- What a type mentions belongs to the universe and can have the role that it has. -/
structure Shaped (u : Universe) (t : TypeDescriptor) : Prop where
  mentioned : ∀ k ∈ t.mentions, ∃ s ∈ u, s.token = k
  base_open : ∀ k, t.base = some k →
    ∃ s ∈ u, s.token = k ∧ s.isInterface = false ∧ s.isSealed = false
  interface_base : t.isInterface = true → t.base = none
  listed : ∀ k ∈ t.interfaces, ∃ s ∈ u, s.token = k ∧ s.isInterface = true
  enum_base : t.isEnum = true → t.base = some FrameworkType.enum.token
  delegate_sealed : t.kind = .delegate → t.flags.isSealed = true
  definition : t.isGenericDefinition = true →
    t.kind.isDeclarable = true ∧ t.genericDefinition = none
  optional : t.isOptional = true → ∃ inner ∈ u, IsOptionalOf t inner
  array : ∀ rank, t.kind = .array rank → ∃ element ∈ u, IsArrayOf t element rank
  instantiated : ∀ k, t.genericDefinition = some k → t.isOptional = false →
    ∃ definition ∈ u, IsInstanceOf t definition
  known_kind : t.kind ≠ .other

/-- A rank of the types: it falls from a type to what the type mentions, and it is bounded by the
number of types. -/
structure IsRank (u : Universe) (rank : Token → Nat) : Prop where
  below : ∀ t ∈ u, rank t.token < u.types.length
  falls : ∀ t ∈ u, ∀ k ∈ t.mentions, rank k < rank t.token

/-- The types of a universe are shaped and have a rank. -/
structure Layered (u : Universe) : Prop where
  builtin : ∀ t ∈ builtinTypes, t ∈ u
  shaped : ∀ t ∈ u, Shaped u t
  ranked : ∃ rank, IsRank u rank

/-- Each construction has one type, and each constructed type is that of its construction. -/
structure Interned (u : Universe) : Prop where
  recorded : ∀ t ∈ u, ∀ key, t.constructionKey? = some key →
    u.constructions.lookup key = some t.token
  constructed : ∀ key token, u.constructions.lookup key = some token →
    ∃ t ∈ u, t.token = token ∧ t.constructionKey? = some key

/-- A token that was given out for a type. -/
def Issued (u : Universe) (token : Token) : Prop :=
  u.Allocated token ∨
    ∃ row, row < u.nextConstructed ∧ token = .ofParts Token.constructedTable row

/-- The tokens of types were given out, the operators are numbered in the order of their
declaration, and what an operator mentions belongs to the universe. -/
structure Numbered (u : Universe) : Prop where
  issued : ∀ t ∈ u, u.Issued t.token
  next : u.nextOperator = u.operators.length + 1
  generation : u.operatorGeneration = u.operators.length
  rows : u.operators.map Operator.token
    = (List.range u.operators.length).map fun i => .ofParts Token.operatorTable (i + 1)
  operands : ∀ o ∈ u.operators, (u.find? o.declaring).isSome ∧ (u.find? o.input).isSome
    ∧ (u.find? o.output).isSome

/-- What holds of every built universe. -/
structure WellFormed (u : Universe) : Prop extends Layered u, Interned u, Numbered u

/-! ## Look-ups -/

variable {u v : Universe} {s t : TypeDescriptor}

/-- A type is known by its token. -/
theorem eq_of_token_eq (hs : s ∈ u) (ht : t ∈ u) (h : s.token = t.token) : s = t := by
  rw [mem_iff] at hs ht
  rw [h, ht] at hs
  exact (Option.some.inj hs).symm

/-- What is found under a token belongs to the universe and has that token. -/
theorem mem_of_find?_eq_some {k : Token} (h : u.find? k = some t) : t ∈ u ∧ t.token = k := by
  have e : t.token = k := by simpa using List.find?_some h
  exact ⟨by rw [mem_iff, e, h], e⟩

/-- The token of a framework type stands for it in every universe. -/
theorem Layered.framework (hu : u.Layered) (f : FrameworkType) : f.descriptor ∈ u :=
  hu.builtin _ (List.mem_append_left _ (List.mem_map_of_mem
    (List.mem_of_getElem? f.all_getElem_index)))

theorem Layered.numeric (hu : u.Layered) (kind : NumericKind) : kind.descriptor ∈ u :=
  hu.builtin _ (List.mem_append_right _ (List.mem_map_of_mem
    (List.mem_of_getElem? kind.all_getElem_index)))

theorem find?_eq_some_iff {k : Token} : u.find? k = some t ↔ t ∈ u ∧ t.token = k := by
  refine ⟨mem_of_find?_eq_some, ?_⟩
  rintro ⟨h, rfl⟩
  exact h

theorem isSome_find?_iff {k : Token} : (u.find? k).isSome = true ↔ ∃ t ∈ u, t.token = k := by
  simp only [Option.isSome_iff_exists, find?_eq_some_iff]

/-- The types of a universe that mentions none of them stay as they were. -/
theorem Shaped.mono (h : Shaped u t) (le : ∀ s ∈ u, s ∈ v) : Shaped v t where
  mentioned k hk := (h.mentioned k hk).imp fun s hs => ⟨le s hs.1, hs.2⟩
  base_open k hk := (h.base_open k hk).imp fun s hs => ⟨le s hs.1, hs.2⟩
  interface_base := h.interface_base
  listed k hk := (h.listed k hk).imp fun s hs => ⟨le s hs.1, hs.2⟩
  enum_base := h.enum_base
  delegate_sealed := h.delegate_sealed
  definition := h.definition
  optional ho := (h.optional ho).imp fun s hs => ⟨le s hs.1, hs.2⟩
  array rank hk := (h.array rank hk).imp fun s hs => ⟨le s hs.1, hs.2⟩
  instantiated k hk ho := (h.instantiated k hk ho).imp fun s hs => ⟨le s hs.1, hs.2⟩
  known_kind := h.known_kind

end Universe

end TypeConversion
