import TypeConversion.Proofs.Universe.Change

/-!
# What constructions make

Optionals, arrays and generic instances are constructed in one way: the type recorded for the key of
the construction is given again, and else a type is made for the next token.

* `Makes known key t`: a construction with the key makes the type `t`, out of parts that are
  `known`; with the name that it has. Made of types of a universe, it is shaped and has the key
  (`Layered.shaped_of_makes`, `Layered.constructionKey?_of_makes`).
* `Universe.Constructs known u key t v`: the construction gives `t` and leads from `u` to `v`. The
  three operations construct (`optionalOf_constructs`, `arrayOf_constructs`,
  `instantiate_constructs`), whatever the universe, and what a construction does is proved for
  `Constructs` and not for the operations.
-/

namespace TypeConversion

/-- What a construction makes out of known parts. -/
inductive Makes (known : TypeDescriptor → Prop) : ConstructionKey → TypeDescriptor → Prop
  | optional {inner t : TypeDescriptor} (part : known inner) (kind : t.kind = .optional)
      (shape : Universe.IsOptionalOf t inner) (closed : t.isGenericDefinition = false)
      (name : t.fullName = FrameworkType.nullable.fullName ++ "<" ++ inner.fullName ++ ">") :
      Makes known (.optional inner.token) t
  | array {element t : TypeDescriptor} {rank : Nat} (part : known element)
      (kind : t.kind = .array rank) (shape : Universe.IsArrayOf t element rank)
      (closed : t.isGenericDefinition = false) (arguments : t.genericArguments = [])
      (name : t.fullName = element.fullName ++ Universe.rankSuffix rank) :
      Makes known (.array element.token rank) t
  | generic {definition t : TypeDescriptor} {arguments : List TypeDescriptor}
      (part : known definition) (parts : ∀ a ∈ arguments, known a)
      (shape : Universe.IsInstanceOf t definition) (element : t.element = none)
      (tokens : t.genericArguments = arguments.map TypeDescriptor.token)
      (other : definition.isFramework .nullable = true → arguments = [])
      (name : t.fullName = definition.fullName ++ "<"
        ++ ",".intercalate (arguments.map TypeDescriptor.fullName) ++ ">") :
      Makes known (.generic definition.token (arguments.map TypeDescriptor.token)) t

variable {known known' : TypeDescriptor → Prop} {key : ConstructionKey} {t : TypeDescriptor}

theorem Makes.mono (le : ∀ s, known s → known' s) (h : Makes known key t) :
    Makes known' key t := by
  cases h with
  | optional part kind shape closed name => exact .optional (le _ part) kind shape closed name
  | array part kind shape closed arguments name =>
    exact .array (le _ part) kind shape closed arguments name
  | generic part parts shape element tokens other name =>
    exact .generic (le _ part) (fun a ha => le a (parts a ha)) shape element tokens other name

namespace Universe

variable {u v : Universe}

/-! ## What is made of types of a universe -/

/-- What a construction makes has its key, since a definition is neither an array nor an
optional. -/
theorem Layered.constructionKey?_of_makes (hu : u.Layered) (h : Makes (· ∈ u) key t) :
    t.constructionKey? = some key := by
  rw [TypeDescriptor.constructionKey?]
  cases h with
  | optional _ kind shape => simp [kind, shape.element]
  | array _ kind shape => simp [kind, shape.element]
  | @generic definition _ _ part _ shape _ tokens =>
    have declarable := ((hu.shaped definition part).definition shape.isDefinition).1
    rw [shape.kind, shape.token, tokens]
    cases hk : definition.kind <;> simp_all [TypeKind.isDeclarable]

theorem IsOptionalOf.shaped {inner : TypeDescriptor} (hu : u.Layered) (known : inner ∈ u)
    (kind : t.kind = .optional) (shape : IsOptionalOf t inner)
    (closed : t.isGenericDefinition = false) : Shaped u t := by
  constructor
  case mentioned =>
    intro k hk
    simp only [TypeDescriptor.mentions, shape.base, shape.interfaces, shape.element,
      shape.definition, shape.arguments, Option.toList_some, List.append_nil, List.mem_append,
      List.mem_singleton] at hk
    rcases hk with ((rfl | rfl) | rfl) | rfl
    · exact ⟨_, hu.framework .valueType, rfl⟩
    · exact ⟨inner, known, rfl⟩
    · exact ⟨_, hu.framework .nullable, rfl⟩
    · exact ⟨inner, known, rfl⟩
  case base_open =>
    intro b hb
    rw [shape.base] at hb
    exact ⟨_, hu.framework .valueType, Option.some.inj hb, rfl, rfl⟩
  case optional => exact fun _ => ⟨inner, known, shape⟩
  all_goals simp [TypeDescriptor.isInterface, TypeDescriptor.isEnum, TypeDescriptor.isOptional,
    TypeKind.isInterface, TypeKind.isEnum, TypeKind.isOptional, kind, closed, shape.interfaces]

theorem IsArrayOf.shaped {element : TypeDescriptor} {rank : Nat} (hu : u.Layered)
    (known : element ∈ u) (kind : t.kind = .array rank) (shape : IsArrayOf t element rank)
    (closed : t.isGenericDefinition = false) (arguments : t.genericArguments = []) :
    Shaped u t := by
  have array := hu.shaped _ (hu.framework .array)
  constructor
  case mentioned =>
    intro k hk
    simp only [TypeDescriptor.mentions, shape.base, shape.interfaces, shape.element,
      shape.definition, arguments, Option.toList_some, Option.toList_none, List.append_nil,
      List.mem_append, List.mem_singleton] at hk
    rcases hk with (rfl | hk) | rfl
    · exact ⟨_, hu.framework .array, rfl⟩
    · exact array.mentioned k (TypeDescriptor.mem_mentions_interfaces hk)
    · exact ⟨_, known, rfl⟩
  case base_open =>
    intro b hb
    rw [shape.base] at hb
    exact ⟨_, hu.framework .array, Option.some.inj hb, rfl, rfl⟩
  case listed => exact shape.interfaces ▸ array.listed
  case array =>
    intro r hr
    rw [kind] at hr
    cases hr
    exact ⟨element, known, shape⟩
  all_goals simp [TypeDescriptor.isInterface, TypeDescriptor.isEnum, TypeDescriptor.isOptional,
    TypeKind.isInterface, TypeKind.isEnum, TypeKind.isOptional, kind, closed, shape.definition]

theorem IsInstanceOf.shaped {definition : TypeDescriptor} {arguments : List TypeDescriptor}
    (hu : u.Layered) (known : definition ∈ u) (all : ∀ a ∈ arguments, a ∈ u)
    (shape : IsInstanceOf t definition) (element : t.element = none)
    (tokens : t.genericArguments = arguments.map TypeDescriptor.token) : Shaped u t := by
  have shaped := hu.shaped definition known
  obtain ⟨declarable, -⟩ := shaped.definition shape.isDefinition
  constructor
  case mentioned =>
    intro k hk
    simp only [TypeDescriptor.mentions, shape.base, shape.interfaces, shape.token, element, tokens,
      Option.toList_some, Option.toList_none, List.append_nil, List.mem_append,
      List.mem_singleton, List.mem_map] at hk
    rcases hk with ((hk | hk) | rfl) | ⟨a, ha, rfl⟩
    · exact shaped.mentioned k (TypeDescriptor.mem_mentions_base (by simpa using hk))
    · exact shaped.mentioned k (TypeDescriptor.mem_mentions_interfaces hk)
    · exact ⟨definition, known, rfl⟩
    · exact ⟨a, all a ha, rfl⟩
  case base_open => exact shape.base ▸ shaped.base_open
  case listed => exact shape.interfaces ▸ shaped.listed
  case definition => simp [shape.closed]
  case instantiated => exact fun _ _ _ => ⟨definition, known, shape⟩
  case interface_base =>
    rw [TypeDescriptor.isInterface, shape.kind, shape.base]
    exact shaped.interface_base
  case enum_base =>
    rw [TypeDescriptor.isEnum, shape.kind, shape.base]
    exact shaped.enum_base
  case delegate_sealed =>
    rw [shape.kind, shape.isSealed]
    exact shaped.delegate_sealed
  all_goals cases hk : definition.kind <;>
    simp_all [TypeDescriptor.isOptional, TypeKind.isOptional, TypeKind.isDeclarable, shape.kind]

/-- **What a construction makes is shaped.** -/
theorem Layered.shaped_of_makes (hu : u.Layered) (h : Makes (· ∈ u) key t) : Shaped u t := by
  cases h with
  | optional part kind shape closed => exact shape.shaped hu part kind closed
  | array part kind shape closed arguments => exact shape.shaped hu part kind closed arguments
  | generic part parts shape element tokens => exact shape.shaped hu part parts element tokens

/-! ## Constructions -/

/-- The construction of a type with the key, which is made out of known parts. -/
inductive Constructs (known : TypeDescriptor → Prop) (u : Universe) (key : ConstructionKey)
    (t : TypeDescriptor) : Universe → Prop
  /-- The type was constructed before. -/
  | recorded (entry : u.constructions.lookup key = some t.token) (found : t ∈ u) :
      Constructs known u key t u
  /-- The construction is recorded under a token that stands for nothing. -/
  | restored (entry : u.constructions.lookup key = some t.token) (missing : u.find? t.token = none)
      (makes : Makes known key t) : Constructs known u key t (u.publish t)
  /-- The type is new, and has the next token for a constructed type. -/
  | new (missing : u.constructions.lookup key = none)
      (token : t.token = .ofParts Token.constructedTable u.nextConstructed)
      (makes : Makes known key t) : Constructs known u key t (u.record key t)

theorem construct_constructs {make : Token → TypeDescriptor} (token : ∀ k, (make k).token = k)
    (makes : ∀ k, Makes known key (make k)) (h : u.construct key make = (t, v)) :
    u.Constructs known key t v := by
  rw [construct] at h
  split at h
  · rename_i k entry
    split at h
    · rename_i s found
      cases h
      obtain ⟨ht, rfl⟩ := mem_of_find?_eq_some found
      exact .recorded entry ht
    · rename_i missing
      cases h
      exact .restored (entry.trans (congrArg some (token k).symm)) ((token k).symm ▸ missing)
        (makes k)
  · rename_i missing
    cases h
    have new := Constructs.new missing (token _) (makes (.ofParts Token.constructedTable
      u.nextConstructed))
    rwa [record, token] at new

/-- The optional of a known type is constructed. -/
theorem optionalOf_constructs {inner : TypeDescriptor} (part : known inner)
    (h : u.optionalOf inner = .ok (t, v)) : u.Constructs known (.optional inner.token) t v := by
  rw [optionalOf] at h
  split at h
  · cases h
  rename_i hc
  obtain ⟨value, plain⟩ : inner.isValueType = true ∧ inner.isOptional = false := by
    simpa [not_or] using hc
  refine construct_constructs (fun _ => rfl) (fun k => ?_) (Except.ok.inj h)
  refine .optional part rfl ⟨rfl, value, plain, rfl, rfl, rfl, rfl⟩ rfl ?_
  simp [TypeDescriptor.fullName, FrameworkType.fullName, FrameworkType.namespaceName,
    FrameworkType.name, String.isEmpty, ← String.append_assoc]

/-- The array of a known type is constructed. -/
theorem arrayOf_constructs {element : TypeDescriptor} {rank : Nat} (part : known element)
    (h : u.arrayOf element rank = .ok (t, v)) :
    u.Constructs known (.array element.token rank) t v := by
  rw [arrayOf] at h
  split at h
  · cases h
  rename_i positive
  split at h
  · cases h
  refine construct_constructs (fun _ => rfl) (fun k => ?_) (Except.ok.inj h)
  refine .array part rfl ⟨rfl, Nat.pos_of_ne_zero positive, rfl, rfl, rfl⟩ rfl rfl ?_
  simp only [TypeDescriptor.fullName]
  split <;> simp [String.append_assoc]

/-- The construction that an instance comes from: the instance of the generic optional is the
optional of its argument. -/
def instanceKey (definition : TypeDescriptor) (arguments : List TypeDescriptor) :
    ConstructionKey :=
  match definition.isFramework .nullable, arguments with
  | true, inner :: _ => .optional inner.token
  | _, _ => .generic definition.token (arguments.map TypeDescriptor.token)

/-- The instance of any other definition comes from the definition and its arguments. -/
theorem instanceKey_eq_generic {definition : TypeDescriptor} {arguments : List TypeDescriptor}
    (other : ∀ inner rest, definition.isFramework .nullable = true → arguments ≠ inner :: rest) :
    instanceKey definition arguments
      = .generic definition.token (arguments.map TypeDescriptor.token) := by
  unfold instanceKey
  split
  · exact absurd rfl (other _ _ ‹_›)
  · rfl

/-- An instance is made of an open definition, with one argument that is not open for each of its
parameters. -/
theorem checks_of_instantiate {definition : TypeDescriptor} {arguments : List TypeDescriptor}
    (h : u.instantiate definition arguments = .ok (t, v)) :
    definition.isGenericDefinition = true ∧
      definition.genericParameters.length = arguments.length ∧
      ∀ a ∈ arguments, a.isGenericDefinition = false := by
  unfold instantiate at h
  split at h
  · cases h
  rename_i isDefinition
  split at h
  · cases h
  rename_i count
  split at h
  · cases h
  rename_i noneOpen
  exact ⟨by simpa using isDefinition, not_not.mp count,
    by simpa using List.find?_eq_none.mp noneOpen⟩

/-- The instance of a known definition is constructed, as an optional if it is one. -/
theorem instantiate_constructs {definition : TypeDescriptor} {arguments : List TypeDescriptor}
    (part : known definition) (parts : ∀ a ∈ arguments, known a)
    (h : u.instantiate definition arguments = .ok (t, v)) :
    u.Constructs known (instanceKey definition arguments) t v := by
  obtain ⟨isDefinition, count, -⟩ := checks_of_instantiate h
  unfold instantiate at h
  rw [if_neg (by simp [isDefinition]), if_neg (not_not.mpr count)] at h
  split at h
  · cases h
  split at h
  · rename_i nullable _
    simp only [instanceKey, nullable]
    exact optionalOf_constructs (parts _ List.mem_cons_self) h
  rename_i other closed
  rw [instanceKey_eq_generic other]
  refine construct_constructs (fun _ => rfl) (fun k => ?_) (Except.ok.inj h)
  refine .generic part parts ⟨rfl, isDefinition, rfl, rfl, rfl, rfl, rfl, ?_⟩ rfl rfl
    (fun nullable => ?_) ?_
  · simpa using count.symm
  · by_contra some
    obtain ⟨inner, rest, same⟩ := List.exists_cons_of_ne_nil some
    exact other inner rest nullable same
  · simp only [TypeDescriptor.fullName]
    split <;> simp [String.append_assoc]

namespace Constructs

/-- What a construction gives belongs to the universe that it leads to. -/
theorem mem (h : u.Constructs known key t v) : t ∈ v := by
  have published : t ∈ u.publish t := (find?_publish u t _).trans (if_pos rfl)
  cases h with
  | recorded _ found => exact found
  | restored | new => exact published

/-- A construction takes at most one row. -/
theorem withinRows (h : u.Constructs known key t v) (rows : v.WithinRows) : u.WithinRows := by
  cases h with
  | recorded => exact rows
  | restored => exact ⟨rows.declared, rows.constructed, rows.operator⟩
  | new => exact ⟨rows.declared, Nat.le_of_succ_le rows.constructed, rows.operator⟩

/-- In a well-formed universe, a token that is recorded stands for the type of its key. -/
theorem keyed (hu : u.WellFormed) (h : u.Constructs (· ∈ u) key t v) :
    t.constructionKey? = some key := by
  cases h with
  | recorded entry found =>
    obtain ⟨s, hs, token, keyed⟩ := hu.constructed key _ entry
    rwa [eq_of_token_eq found hs token.symm]
  | restored _ _ makes | new _ _ makes => exact hu.toLayered.constructionKey?_of_makes makes

/-- A construction is a sequence of changes. -/
theorem changes (hu : u.WellFormed) (h : u.Constructs (· ∈ u) key t v) : Changes u v := by
  have keyed := h.keyed hu
  cases h with
  | recorded => exact .refl
  | restored entry missing =>
    obtain ⟨s, hs, token, -⟩ := hu.constructed key _ entry
    rw [← token, mem_iff.mp hs] at missing
    cases missing
  | new missing token makes =>
    exact .single (.construct missing token (hu.toLayered.shaped_of_makes makes) keyed)

end Constructs

theorem mem_of_optionalOf {inner : TypeDescriptor} (h : u.optionalOf inner = .ok (t, v)) :
    t ∈ v := by
  have made : u.Constructs (fun _ => True) _ t v := optionalOf_constructs trivial h
  exact made.mem

theorem withinRows_of_optionalOf {inner : TypeDescriptor} (h : u.optionalOf inner = .ok (t, v))
    (rows : v.WithinRows) : u.WithinRows := by
  have made : u.Constructs (fun _ => True) _ t v := optionalOf_constructs trivial h
  exact made.withinRows rows

end Universe

end TypeConversion
