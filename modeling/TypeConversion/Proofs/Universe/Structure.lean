import TypeConversion.Proofs.Universe.FullNames

/-!
# Constructed types are known by their structure

Types are compared by token, so a structure may have one token only, and a token one structure.

* `Construction`: what a universe is asked to construct, and `Construction.run`, which asks for it.
* `Construction.normal`: the structure that a construction denotes. The instance of the generic
  optional is the optional of its argument.
* `Universe.GivesBack u t c`: the queries on `t` give back what the construction `c` is made of.
  They determine it (`GivesBack.unique`).
* `constructed_token_eq_iff`: two constructions of one run give one token exactly if they denote one
  structure, which the queries give back ever after.
-/

namespace TypeConversion

open Universe

/-- What a universe is asked to construct. -/
inductive Construction
  | optional (inner : TypeDescriptor)
  | array (element : TypeDescriptor) (rank : Nat)
  | generic (definition : TypeDescriptor) (arguments : List TypeDescriptor)

namespace Construction

/-- The types that a construction is made of. -/
def parts : Construction → List TypeDescriptor
  | optional inner => [inner]
  | array element _ => [element]
  | generic definition arguments => definition :: arguments

/-- Ask a universe for a construction: its type, and the universe afterwards. -/
def run (u : Universe) : Construction → Except Error (TypeDescriptor × Universe)
  | optional inner => u.optionalOf inner
  | array element rank => u.arrayOf element rank
  | generic definition arguments => u.instantiate definition arguments

/-- The structure that a construction denotes. -/
def normal : Construction → Construction
  | generic definition [inner] =>
    if definition.isFramework .nullable then optional inner else generic definition [inner]
  | c => c

/-- The key of a structure in the table of constructions. -/
def key : Construction → ConstructionKey
  | optional inner => .optional inner.token
  | array element rank => .array element.token rank
  | generic definition arguments =>
    .generic definition.token (arguments.map TypeDescriptor.token)

variable {u v : Universe} {s t : TypeDescriptor} {c c' : Construction}

theorem mem_parts_of_mem_normal {p : TypeDescriptor} (h : p ∈ c.normal.parts) : p ∈ c.parts := by
  unfold normal at h
  split at h
  · split at h
    · exact List.mem_cons_of_mem _ h
    · exact h
  · exact h

theorem normal_of_isFramework_eq_false {definition : TypeDescriptor}
    {arguments : List TypeDescriptor} (h : definition.isFramework .nullable = false) :
    (generic definition arguments).normal = generic definition arguments := by
  unfold normal
  split <;> simp_all

/-- A construction is a step of a universe that has its parts. -/
theorem step (own : ∀ p ∈ c.parts, p ∈ u) (h : c.run u = .ok (t, v)) : u.Step v := by
  cases c with
  | optional inner => exact .optionalOf (own _ List.mem_cons_self) h
  | array element rank => exact .arrayOf (own _ List.mem_cons_self) h
  | generic definition arguments =>
    exact .instantiate (own _ List.mem_cons_self) (fun a ha => own a (List.mem_cons_of_mem _ ha)) h

/-- The generic optional is instantiated with one argument. -/
theorem key_normal_of_instantiate (hu : u.Layered) {definition : TypeDescriptor}
    {arguments : List TypeDescriptor} (known : definition ∈ u)
    (h : u.instantiate definition arguments = .ok (t, v)) :
    (generic definition arguments).normal.key = instanceKey definition arguments := by
  cases nullable : definition.isFramework .nullable with
  | false =>
    rw [normal_of_isFramework_eq_false nullable, instanceKey_eq_generic (by simp [nullable])]
    rfl
  | true =>
    obtain ⟨-, count, -⟩ := checks_of_instantiate h
    have single : arguments.length = 1 := by
      rw [← count, (mem_framework_iff hu known).mp nullable]
      rfl
    obtain ⟨inner, rfl⟩ := List.length_eq_one_iff.mp single
    simp [normal, key, instanceKey, nullable]

/-- A construction that succeeds constructs the type of its structure. -/
theorem constructs (hu : u.Layered) (own : ∀ p ∈ c.parts, p ∈ u) (h : c.run u = .ok (t, v)) :
    u.Constructs (· ∈ u) c.normal.key t v := by
  cases c with
  | optional inner => exact optionalOf_constructs (own _ List.mem_cons_self) h
  | array element rank => exact arrayOf_constructs (own _ List.mem_cons_self) h
  | generic definition arguments =>
    rw [key_normal_of_instantiate hu (own _ List.mem_cons_self) h]
    exact instantiate_constructs (own _ List.mem_cons_self)
      (fun a ha => own a (List.mem_cons_of_mem _ ha)) h

end Construction

namespace Universe

variable {u v w x : Universe} {s t : TypeDescriptor} {c c' : Construction}

/-- The queries on a type give back what a construction is made of, and nothing else. -/
def GivesBack (u : Universe) (t : TypeDescriptor) : Construction → Prop
  | .optional inner =>
    u.elementOf? t = some inner ∧ u.unwrapOptional t = inner ∧ t.rank? = none
      ∧ u.genericDefinitionOf? t = some FrameworkType.nullable.descriptor
      ∧ u.genericArgumentsOf t = [inner]
  | .array element rank =>
    u.elementOf? t = some element ∧ u.unwrapOptional t = t ∧ t.rank? = some rank
      ∧ u.genericDefinitionOf? t = none ∧ u.genericArgumentsOf t = []
  | .generic definition arguments =>
    u.elementOf? t = none ∧ u.unwrapOptional t = t ∧ t.rank? = none
      ∧ u.genericDefinitionOf? t = some definition ∧ u.genericArgumentsOf t = arguments

/-- What the queries give back is one construction. -/
theorem GivesBack.unique (h : u.GivesBack t c) (h' : u.GivesBack t c') : c = c' := by
  cases c <;> cases c' <;> simp_all [GivesBack]

theorem genericDefinitionOf?_eq_some {d : TypeDescriptor} (hd : d ∈ u)
    (h : t.genericDefinition = some d.token) : u.genericDefinitionOf? t = some d := by
  rw [genericDefinitionOf?, h]
  exact hd

/-- The arguments are found under their tokens, in order. -/
theorem genericArgumentsOf_eq {arguments : List TypeDescriptor} (all : ∀ a ∈ arguments, a ∈ u)
    (h : t.genericArguments = arguments.map TypeDescriptor.token) :
    u.genericArgumentsOf t = arguments := by
  rw [genericArgumentsOf, h, List.filterMap_map]
  calc arguments.filterMap (u.find? ∘ TypeDescriptor.token)
      = arguments.filterMap some := List.filterMap_congr fun a ha => all a ha
    _ = arguments := List.filterMap_some

/-- What is made for the key of a structure gives the structure back. -/
theorem Layered.givesBack_of_makes (hu : u.Layered) (own : ∀ p ∈ c.parts, p ∈ u)
    {key : ConstructionKey} (made : Makes (· ∈ u) key t) (same : key = c.key) :
    u.GivesBack t c := by
  cases made with
  | @optional e _ part kind shape =>
    cases c with
    | array | generic => cases same
    | optional inner =>
      obtain rfl : e = inner :=
        eq_of_token_eq part (own _ List.mem_cons_self) (ConstructionKey.optional.inj same)
      have element := elementOf?_eq_some.mpr ⟨part, shape.element⟩
      have definition := genericDefinitionOf?_eq_some (hu.framework .nullable) shape.definition
      refine ⟨element, ?_, ?_, definition, genericArgumentsOf_eq (by simpa using part)
        shape.arguments⟩
      · simp [unwrapOptional, TypeDescriptor.isOptional, TypeKind.isOptional, kind, element]
      · simp [TypeDescriptor.rank?, TypeKind.rank?, kind]
  | @array e _ r part kind shape _ arguments =>
    cases c with
    | optional | generic => cases same
    | array element rank =>
      obtain ⟨token, rfl⟩ := ConstructionKey.array.inj same
      obtain rfl : e = element := eq_of_token_eq part (own _ List.mem_cons_self) token
      refine ⟨elementOf?_eq_some.mpr ⟨part, shape.element⟩, ?_, ?_, ?_, ?_⟩
      · simp [unwrapOptional, TypeDescriptor.isOptional, TypeKind.isOptional, kind]
      · simp [TypeDescriptor.rank?, TypeKind.rank?, kind]
      · simp [genericDefinitionOf?, shape.definition]
      · simp [genericArgumentsOf, arguments]
  | @generic d _ as part parts shape element tokens =>
    cases c with
    | optional | array => cases same
    | generic definition arguments =>
      obtain ⟨token, argumentTokens⟩ := ConstructionKey.generic.inj same
      obtain rfl : d = definition := eq_of_token_eq part (own _ List.mem_cons_self) token
      obtain rfl : as = arguments := eq_of_map_eq (fun a ha b hb h =>
        eq_of_token_eq (parts a ha) (own b (List.mem_cons_of_mem _ hb)) h) argumentTokens
      obtain ⟨declarable, -⟩ := (hu.shaped d part).definition shape.isDefinition
      refine ⟨?_, ?_, ?_, genericDefinitionOf?_eq_some part shape.token,
        genericArgumentsOf_eq parts tokens⟩
      · simp [elementOf?, element]
      · exact unwrapOptional_of_not_optional (by
          cases hk : d.kind <;> simp_all [TypeDescriptor.isOptional, TypeKind.isOptional,
            TypeKind.isDeclarable, shape.kind])
      · cases hk : d.kind <;> simp_all [TypeDescriptor.rank?, TypeKind.rank?,
          TypeKind.isDeclarable, shape.kind]

/-- A construction in a built universe leads to one, in which its type has the key of its
structure. -/
theorem Built.constructed (built : u.Built) (own : ∀ p ∈ c.parts, p ∈ u)
    (made : c.run u = .ok (t, v)) (rows : v.WithinRows) :
    v.Built ∧ u.Extends v ∧ t ∈ v ∧ t.constructionKey? = some c.normal.key := by
  have wellFormed := built.wellFormed
  have step := c.step own made
  have constructs := c.constructs wellFormed.toLayered own made
  exact ⟨.step built step rows, (wellFormed.step step rows).2, constructs.mem,
    constructs.keyed wellFormed⟩

/-- The structure of a construction is given back ever after. -/
theorem Built.givesBack (built : u.Built) (own : ∀ p ∈ c.parts, p ∈ u)
    (made : c.run u = .ok (t, v)) (rows : v.WithinRows) (run : v.GrowsInto w) :
    w.GivesBack t c.normal := by
  obtain ⟨builtV, grown, ht, keyed⟩ := built.constructed own made rows
  obtain ⟨builtW, kept⟩ := run.extends builtV
  have parts : ∀ p ∈ c.normal.parts, p ∈ w := fun p hp =>
    kept.mem p (grown.mem p (own p (Construction.mem_parts_of_mem_normal hp)))
  have makes := builtW.named.made t (kept.mem t ht) _ keyed
  exact builtW.wellFormed.toLayered.givesBack_of_makes parts makes rfl

/-- **Constructed types are structurally unique.** Two constructions of a run, at whatever moments,
give one token exactly if they denote one structure. From its construction on, the queries on a type
give back what it is made of. -/
theorem constructed_token_eq_iff (built : u.Built) (own : ∀ p ∈ c.parts, p ∈ u)
    (first : c.run u = .ok (s, v)) (rows : v.WithinRows) (between : v.GrowsInto w)
    (own' : ∀ p ∈ c'.parts, p ∈ w) (second : c'.run w = .ok (t, x)) (rows' : x.WithinRows) :
    (s.token = t.token ↔ c.normal = c'.normal) ∧
      (∀ y, v.GrowsInto y → y.GivesBack s c.normal) ∧
      ∀ y, x.GrowsInto y → y.GivesBack t c'.normal := by
  obtain ⟨builtV, -, hs, keyedS⟩ := built.constructed own first rows
  obtain ⟨builtW, -⟩ := between.extends builtV
  obtain ⟨builtX, -, ht, keyedT⟩ := builtW.constructed own' second rows'
  have run : v.GrowsInto x := between.tail ⟨c'.step own' second, rows'⟩
  have hsX : s ∈ x := (run.extends builtV).2.mem s hs
  refine ⟨⟨fun same => ?_, fun same => ?_⟩, fun y later => built.givesBack own first rows later,
    fun y later => builtW.givesBack own' second rows' later⟩
  · obtain rfl := eq_of_token_eq hsX ht same
    exact (built.givesBack own first rows run).unique (builtW.givesBack own' second rows' .refl)
  · rw [same] at keyedS
    rw [builtX.wellFormed.toInterned.eq_of_key hsX ht keyedS keyedT]

/-- The optional of numbers is also the instance of the generic optional that is asked for after an
array of it was constructed, and its argument is the numbers. -/
theorem constructed_token_eq_iff_nullable : ∃ (v w x : Universe) (s array t : TypeDescriptor),
    let number := (NumericKind.integer .int32).descriptor
    initial.optionalOf number = .ok (s, v) ∧ v.arrayOf s 2 = .ok (array, w) ∧
      w.instantiate FrameworkType.nullable.descriptor [number] = .ok (t, x) ∧
      s.token = t.token ∧ x.unwrapOptional t = number ∧ x.genericArgumentsOf t = [number] := by
  let number := (NumericKind.integer .int32).descriptor
  obtain ⟨s, v, first⟩ : ∃ s v, initial.optionalOf number = .ok (s, v) := ⟨_, _, rfl⟩
  have rows : v.WithinRows := by
    cases first
    constructor <;> decide
  have built : v.Built := .step .initial (.optionalOf (by decide) first) rows
  have hs : s ∈ v := mem_of_optionalOf first
  obtain ⟨array, w, ofOptionals⟩ : ∃ a w, v.arrayOf s 2 = .ok (a, w) := by
    cases first
    exact ⟨_, _, rfl⟩
  have rowsW : w.WithinRows := by
    cases first
    cases ofOptionals
    constructor <;> decide
  have between : v.GrowsInto w := .single ⟨.arrayOf hs ofOptionals, rowsW⟩
  obtain ⟨t, x, second⟩ : ∃ t x,
      w.instantiate FrameworkType.nullable.descriptor [number] = .ok (t, x) := by
    cases first
    cases ofOptionals
    exact ⟨_, _, rfl⟩
  have rows' : x.WithinRows := by
    cases first
    cases ofOptionals
    cases second
    constructor <;> decide
  let instanced := Construction.generic FrameworkType.nullable.descriptor [number]
  have known : ∀ p ∈ instanced.parts, p ∈ w := by
    have layered := (between.extends built).1.wellFormed.toLayered
    simpa [instanced, Construction.parts] using ⟨layered.framework .nullable, layered.numeric _⟩
  have second : instanced.run w = .ok (t, x) := second
  obtain ⟨same, -, gives⟩ := constructed_token_eq_iff (c := .optional number) .initial (by decide)
    first rows between known second rows'
  obtain ⟨-, unwrapped, -, -, arguments⟩ := gives x .refl
  exact ⟨v, w, x, s, array, t, first, ofOptionals, second, same.mpr rfl, unwrapped, arguments⟩

end Universe

end TypeConversion
