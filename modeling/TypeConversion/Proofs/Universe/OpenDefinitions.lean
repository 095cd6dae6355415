import TypeConversion.Proofs.Universe.Structure

/-!
# Open generic definitions inside constructed types

Arrays and generic instances are not made of open generic definitions. An optional can be: whether
its content is open is not looked at, unless the optional is asked for as an instance.

* `Universe.HoldsOpen u t`: an open generic definition is the element of `t` or among its arguments.
* `Universe.Places u v`: what a step puts into a universe, seen from what is inside it. Every step
  places something (`Step.places`), and what is placed holds no open definition unless the step asks
  for the optional of one (`Places.holdsOpen`).
* `holdsOpen_only_by_optionalOf`: open definitions get inside optionals only, and only so.
* `not_forall_not_holdsOpen`: it happens, as the generic optional has an optional itself.
-/

namespace TypeConversion

/-- The tokens of the types inside a type, its element and its generic arguments. -/
def TypeDescriptor.contents (t : TypeDescriptor) : List Token :=
  t.element.toList ++ t.genericArguments

/-- The tokens of the types inside what a construction makes. -/
def ConstructionKey.contents : ConstructionKey → List Token
  | optional inner => [inner]
  | array element _ => [element]
  | generic _ arguments => arguments

theorem Makes.mem_contents_iff {known : TypeDescriptor → Prop} {key : ConstructionKey}
    {t : TypeDescriptor} (h : Makes known key t) {k : Token} :
    k ∈ t.contents ↔ k ∈ key.contents := by
  cases h with
  | optional _ _ shape =>
    simp [TypeDescriptor.contents, ConstructionKey.contents, shape.element, shape.arguments]
  | array _ _ shape _ arguments =>
    simp [TypeDescriptor.contents, ConstructionKey.contents, shape.element, arguments]
  | generic _ _ _ element tokens =>
    simp [TypeDescriptor.contents, ConstructionKey.contents, element, tokens]

/-- What a construction makes is no open definition. -/
theorem Makes.closed {known : TypeDescriptor → Prop} {key : ConstructionKey} {t : TypeDescriptor}
    (h : Makes known key t) : t.isGenericDefinition = false := by
  cases h with
  | optional _ _ _ closed | array _ _ _ closed => exact closed
  | generic _ _ shape => exact shape.closed

namespace Universe

open Relation (ReflTransGen)

variable {u v w : Universe} {s t : TypeDescriptor} {known : TypeDescriptor → Prop}
  {key : ConstructionKey}

/-- An open generic definition is inside a type. -/
def HoldsOpen (u : Universe) (t : TypeDescriptor) : Prop :=
  ∃ d ∈ u, d.isGenericDefinition = true ∧ d.token ∈ t.contents

/-- The optional of an open generic definition is asked for. -/
def AsksForOpen (u v : Universe) : Prop :=
  ∃ d ∈ u, d.isGenericDefinition = true ∧ ∃ t, u.optionalOf d = .ok (t, v)

/-- A step that does not ask for the optional of an open generic definition. -/
abbrev CarefulStep (u v : Universe) : Prop := u.Step v ∧ ¬u.AsksForOpen v

/-- What is inside a type is known. -/
def Contained (u : Universe) : Prop :=
  ∀ t ∈ u, ∀ k ∈ t.contents, (u.find? k).isSome = true

/-- What a step puts into a universe, and what is inside it. -/
inductive Places (u v : Universe) : Prop
  | nothing (same : v.types = u.types)
  /-- A declared type has nothing inside. -/
  | declared {t : TypeDescriptor} (fresh : u.find? t.token = none) (empty : t.contents = [])
      (same : v.types = (u.publish t).types)
  | constructed {t : TypeDescriptor} (closed : t.isGenericDefinition = false)
      (known : ∀ k ∈ t.contents, (u.find? k).isSome = true)
      (guarded : u.HoldsOpen t → t.isOptional = true ∧ u.AsksForOpen v)
      (same : v.types = (u.publish t).types)

/-! ## What steps place -/

theorem closed_of_arrayOf {element : TypeDescriptor} {rank : Nat}
    (h : u.arrayOf element rank = .ok (t, v)) : element.isGenericDefinition = false := by
  rw [arrayOf] at h
  split at h
  · cases h
  split at h
  · cases h
  · exact eq_false_of_ne_true ‹_›

theorem mem_arguments_of_mem_instanceKey {definition : TypeDescriptor}
    {arguments : List TypeDescriptor} {k : Token}
    (h : k ∈ (instanceKey definition arguments).contents) : ∃ a ∈ arguments, a.token = k := by
  unfold instanceKey at h
  split at h
  · exact ⟨_, List.mem_cons_self, (List.mem_singleton.mp h).symm⟩
  · exact List.mem_map.mp h

/-- A declaration places a type with nothing inside. -/
theorem build_places (d : Declaration) : u.Places (d.build u).2 := by
  -- Nothing is constructed, so nothing needs to be known for it.
  have entered : Enters (fun t => t.contents = []) (fun _ => False) u (d.build u).2 := by
    refine build_enters fun t h => ?_
    obtain ⟨-, -, -, -, element, -, arguments⟩ := Declaration.descriptor_eq_ok h
    simp [TypeDescriptor.contents, element, arguments]
  cases entered with
  | nothing same => exact .nothing same.types
  | declared made empty same => exact .declared (register_eq_ok made).2.1 empty same.types
  | restored _ _ makes | constructed _ _ makes =>
    cases makes with
    | optional part | array part | generic part => exact part.elim

/-- A construction places a type with its parts inside. They are closed, unless it is the optional
of an open definition. -/
theorem Constructs.places (h : u.Constructs known key t v)
    (inside : ∀ k ∈ key.contents, ∃ a ∈ u, a.token = k ∧
      (a.isGenericDefinition = true → (∃ j, key = .optional j) ∧ u.AsksForOpen v)) :
    u.Places v := by
  have place : ∀ {t}, Makes known key t → v.types = (u.publish t).types → u.Places v := by
    intro t makes same
    refine .constructed makes.closed (fun k hk => ?_) ?_ same
    · obtain ⟨a, ha, token, -⟩ := inside k (makes.mem_contents_iff.mp hk)
      exact isSome_find?_iff.mpr ⟨a, ha, token⟩
    · rintro ⟨d, hd, isOpen, hk⟩
      obtain ⟨a, ha, token, guarded⟩ := inside _ (makes.mem_contents_iff.mp hk)
      obtain rfl := eq_of_token_eq ha hd token
      obtain ⟨⟨j, rfl⟩, asked⟩ := guarded isOpen
      cases makes with
      | optional _ kind =>
        exact ⟨by simp [TypeDescriptor.isOptional, TypeKind.isOptional, kind], asked⟩
  cases h with
  | recorded => exact .nothing rfl
  | restored _ _ makes => exact place makes rfl
  | new _ _ makes => exact place makes rfl

theorem Step.places (s : u.Step v) : u.Places v := by
  cases s with
  | allocate => exact .nothing rfl
  | build d => exact build_places d
  | @optionalOf inner t _ known made =>
    refine (optionalOf_constructs known made).places fun k hk => ?_
    exact ⟨inner, known, (List.mem_singleton.mp hk).symm,
      fun isOpen => ⟨⟨_, rfl⟩, inner, known, isOpen, t, made⟩⟩
  | @arrayOf element _ _ _ known made =>
    refine (arrayOf_constructs known made).places fun k hk => ?_
    refine ⟨element, known, (List.mem_singleton.mp hk).symm, fun isOpen => ?_⟩
    rw [closed_of_arrayOf made] at isOpen
    cases isOpen
  | instantiate known all made =>
    obtain ⟨-, -, closed⟩ := checks_of_instantiate made
    refine (instantiate_constructs known all made).places fun k hk => ?_
    obtain ⟨a, ha, token⟩ := mem_arguments_of_mem_instanceKey hk
    refine ⟨a, all a ha, token, fun isOpen => ?_⟩
    rw [closed a ha] at isOpen
    cases isOpen
  | declareOperator made => exact .nothing (declareOperator_sameTables made).types

/-! ## What is inside after a step -/

theorem isSome_find?_publish {k : Token} (h : (u.find? k).isSome = true) :
    ((u.publish t).find? k).isSome = true := by
  rw [find?_publish]
  split
  · rfl
  · exact h

/-- What is inside a type stays known. -/
theorem Places.contained (hu : u.Contained) (h : u.Places v) : v.Contained := by
  intro t ht k hk
  cases h with
  | nothing same =>
    rw [find?_congr same]
    exact hu t ((mem_congr same).mp ht) k hk
  | declared _ empty same =>
    rw [find?_congr same]
    refine isSome_find?_publish ?_
    rcases mem_of_mem_publish same ht with rfl | old
    · rw [empty] at hk
      cases hk
    · exact hu t old k hk
  | constructed _ known _ same =>
    rw [find?_congr same]
    refine isSome_find?_publish ?_
    rcases mem_of_mem_publish same ht with rfl | old
    · exact known k hk
    · exact hu t old k hk

/-- **A step puts an open definition into an optional only**, and only if it asks for that. -/
theorem Places.holdsOpen (hu : u.Contained) (h : u.Places v) (ht : t ∈ v) (holds : v.HoldsOpen t) :
    (t ∈ u ∧ u.HoldsOpen t) ∨ (t.isOptional = true ∧ u.AsksForOpen v) := by
  obtain ⟨d, hd, isOpen, inside⟩ := holds
  cases h with
  | nothing same =>
    exact .inl ⟨(mem_congr same).mp ht, d, (mem_congr same).mp hd, isOpen, inside⟩
  | declared fresh empty same =>
    rcases mem_of_mem_publish same ht with rfl | old
    · rw [empty] at inside
      cases inside
    -- The token of the new type is free, so the type is inside of no other.
    rcases mem_of_mem_publish same hd with rfl | hd
    · have taken := hu t old _ inside
      rw [fresh] at taken
      cases taken
    · exact .inl ⟨old, d, hd, isOpen, inside⟩
  | constructed closed _ guarded same =>
    rcases mem_of_mem_publish same hd with rfl | hd
    · rw [closed] at isOpen
      cases isOpen
    rcases mem_of_mem_publish same ht with rfl | old
    · exact .inr (guarded ⟨d, hd, isOpen, inside⟩)
    · exact .inl ⟨old, d, hd, isOpen, inside⟩

/-! ## Runs -/

theorem contents_initial (ht : t ∈ initial) : t.contents = [] := by
  have empty : ∀ t ∈ builtinTypes, t.contents = [] := by decide
  exact empty t (mem_initial.mp ht)

theorem not_holdsOpen_initial (ht : t ∈ initial) : ¬initial.HoldsOpen t := by
  rintro ⟨d, -, -, inside⟩
  rw [contents_initial ht] at inside
  cases inside

theorem contained_of_run (run : ReflTransGen Step initial u) : u.Contained := by
  induction run with
  | refl =>
    intro t ht k hk
    rw [contents_initial ht] at hk
    cases hk
  | tail _ s ih => exact s.places.contained ih

theorem isOptional_of_holdsOpen (run : ReflTransGen Step initial u) (ht : t ∈ u)
    (holds : u.HoldsOpen t) : t.isOptional = true := by
  induction run with
  | refl => exact absurd holds (not_holdsOpen_initial ht)
  | tail before s ih =>
    rcases s.places.holdsOpen (contained_of_run before) ht holds with ⟨old, holds⟩ | ⟨optional, -⟩
    · exact ih old holds
    · exact optional

/-- A run that never asks for the optional of an open definition keeps them outside. -/
theorem not_holdsOpen_of_careful (run : ReflTransGen CarefulStep initial u) (ht : t ∈ u) :
    ¬u.HoldsOpen t := by
  induction run with
  | refl => exact not_holdsOpen_initial ht
  | tail before s ih =>
    intro holds
    have contained := contained_of_run (ReflTransGen.mono (fun _ _ s => s.1) _ _ before)
    rcases s.1.places.holdsOpen contained ht holds with ⟨old, holds⟩ | ⟨-, asked⟩
    · exact ih old holds
    · exact s.2 asked

/-- An optional of an open definition holds it ever after. -/
theorem Built.holdsOpen (built : u.Built) {d : TypeDescriptor} (hd : d ∈ u)
    (isOpen : d.isGenericDefinition = true) (asked : u.optionalOf d = .ok (t, v))
    (rows : v.WithinRows) (run : v.GrowsInto w) : t ∈ w ∧ w.HoldsOpen t := by
  have own : ∀ p ∈ (Construction.optional d).parts, p ∈ u := by simpa [Construction.parts] using hd
  obtain ⟨builtV, -, ht, -⟩ := built.constructed (c := .optional d) own asked rows
  obtain ⟨element, -⟩ := built.givesBack (c := .optional d) own asked rows run
  obtain ⟨known, inside⟩ := elementOf?_eq_some.mp element
  refine ⟨(run.extends builtV).2.mem t ht, d, known, isOpen, ?_⟩
  simp [TypeDescriptor.contents, inside]

/-- **An open definition gets inside a constructed type only as the content of an optional that is
asked for.** The types that hold one are optionals, and there are none as long as no optional of an
open definition is asked for. If the open definition is a value type, its optional is granted, and
holds it ever after. -/
theorem holdsOpen_only_by_optionalOf (u : Universe) :
    (ReflTransGen Step initial u → ∀ t ∈ u, u.HoldsOpen t → t.isOptional = true) ∧
      (ReflTransGen CarefulStep initial u → ∀ t ∈ u, ¬u.HoldsOpen t) ∧
      (u.Built → ∀ d ∈ u, d.isGenericDefinition = true → d.isValueType = true →
        ∃ t v, u.optionalOf d = .ok (t, v) ∧
          (v.WithinRows → ∀ w, v.GrowsInto w → t ∈ w ∧ w.HoldsOpen t)) := by
  refine ⟨fun run t => isOptional_of_holdsOpen run, fun run t => not_holdsOpen_of_careful run,
    fun built d hd isOpen value => ?_⟩
  have inner : d.isOptional = false := by
    obtain ⟨declarable, -⟩ := (built.wellFormed.toLayered.shaped d hd).definition isOpen
    cases kind : d.kind <;>
      simp_all [TypeDescriptor.isOptional, TypeKind.isOptional, TypeKind.isDeclarable]
  obtain ⟨t, v, asked⟩ : ∃ t v, u.optionalOf d = .ok (t, v) :=
    ⟨_, _, by rw [optionalOf, if_neg (by simp [value, inner])]⟩
  exact ⟨t, v, asked, fun rows w run => built.holdsOpen hd isOpen asked rows run⟩

/-- The generic optional has an optional itself, and it is inside of that. -/
theorem exists_holdsOpen : ∃ (v : Universe) (t : TypeDescriptor),
    initial.optionalOf FrameworkType.nullable.descriptor = .ok (t, v) ∧ v.WithinRows ∧ t ∈ v ∧
      v.HoldsOpen t := by
  obtain ⟨t, v, asked⟩ : ∃ t v,
      initial.optionalOf FrameworkType.nullable.descriptor = .ok (t, v) := ⟨_, _, rfl⟩
  have rows : v.WithinRows := by
    cases asked
    constructor <;> decide
  obtain ⟨ht, holds⟩ := Built.initial.holdsOpen (by decide) (by decide) asked rows .refl
  exact ⟨v, t, asked, rows, ht, holds⟩

/-- Open definitions do get inside constructed types. -/
theorem not_forall_not_holdsOpen :
    ¬∀ u : Universe, ReflTransGen Step initial u → ∀ t ∈ u, ¬u.HoldsOpen t := by
  intro closed
  obtain ⟨v, t, asked, -, ht, holds⟩ := exists_holdsOpen
  exact closed v (.single (.optionalOf (by decide) asked)) t ht holds

/-- An array of numbers holds no open definition. The optional of the generic optional is then
granted and holds one, and only optionals do. -/
theorem holdsOpen_only_by_optionalOf_nullable :
    ∃ (u : Universe) (array : TypeDescriptor) (v : Universe) (t : TypeDescriptor),
      initial.arrayOf (NumericKind.integer .int32).descriptor 1 = .ok (array, u) ∧
      ¬u.HoldsOpen array ∧ u.optionalOf FrameworkType.nullable.descriptor = .ok (t, v) ∧
      v.HoldsOpen t ∧ t.isOptional = true := by
  obtain ⟨array, u, ofNumbers⟩ : ∃ a u,
      initial.arrayOf (NumericKind.integer .int32).descriptor 1 = .ok (a, u) := ⟨_, _, rfl⟩
  have rows : u.WithinRows := by
    cases ofNumbers
    constructor <;> decide
  have step : initial.Step u := .arrayOf (by decide) ofNumbers
  have careful : initial.CarefulStep u := by
    refine ⟨step, ?_⟩
    rintro ⟨d, hd, isOpen, t, asked⟩
    obtain ⟨ht, s, hs, opened, inside⟩ := Built.initial.holdsOpen hd isOpen asked rows .refl
    have empty : ∀ t ∈ u.types, ∀ s ∈ u.types, s.isGenericDefinition = true →
        s.token ∉ t.contents := by
      cases ofNumbers
      decide
    exact empty t (List.mem_of_find?_eq_some ht) s (List.mem_of_find?_eq_some hs) opened inside
  have ha : array ∈ u := by
    cases ofNumbers
    decide
  have built : u.Built := .step .initial step rows
  have nullable := built.wellFormed.toLayered.framework .nullable
  obtain ⟨-, closed, granted⟩ := holdsOpen_only_by_optionalOf u
  obtain ⟨t, v, asked, holds⟩ := granted built _ nullable rfl rfl
  have rowsV : v.WithinRows := by
    cases ofNumbers
    cases asked
    constructor <;> decide
  obtain ⟨ht, holds⟩ := holds rowsV v .refl
  obtain ⟨onlyOptionals, -⟩ := holdsOpen_only_by_optionalOf v
  exact ⟨u, array, v, t, ofNumbers, closed (.single careful) array ha, asked, holds,
    onlyOptionals (.tail (.single step) (.optionalOf nullable asked)) t ht holds⟩

end Universe

end TypeConversion
