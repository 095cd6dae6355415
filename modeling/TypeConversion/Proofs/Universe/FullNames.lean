import TypeConversion.Proofs.Universe.Names
import TypeConversion.Proofs.Universe.Representation
import TypeConversion.Proofs.Universe.Spelling

/-!
# Full names identify types

* `Universe.Spelled u t`: the name of `t` is put together from those of its parts.
* `Universe.Plain u`: no name of a declared type has a mark of constructed names in it. Then types
  with one full name are one (`Built.unambiguous`): the last mark tells the kind of the type, and
  its name falls apart into those of its parts.
* `findByName?_fullName`: types are found under their names exactly if no two have the same, and
  then names keep what they stand for.
* `not_findByName?_fullName`: a class can be declared under the name of the arrays of numbers, and
  is no more found once those are constructed.
-/

namespace TypeConversion.Universe

open Spelling

variable {u v : Universe} {s t : TypeDescriptor}

/-- How the name of a type is put together from those of types that it mentions. -/
inductive Spelled (u : Universe) (t : TypeDescriptor) : Prop
  | declared (plain : t.constructionKey? = none)
  | array {element : TypeDescriptor} {rank : Nat} (part : element ∈ u)
      (mentioned : element.token ∈ t.mentions) (positive : 0 < rank)
      (keyed : t.constructionKey? = some (.array element.token rank))
      (name : t.fullName = element.fullName ++ rankSuffix rank)
  | generic {definition : TypeDescriptor} {arguments : List TypeDescriptor}
      (part : definition ∈ u) (isDefinition : definition.isGenericDefinition = true)
      (parts : ∀ a ∈ arguments, a ∈ u) (mentioned : ∀ a ∈ arguments, a.token ∈ t.mentions)
      (count : arguments.length = definition.genericParameters.length)
      (keyed : t.constructionKey? = some (instanceKey definition arguments))
      (name : t.fullName = definition.fullName ++ "<"
        ++ ",".intercalate (arguments.map TypeDescriptor.fullName) ++ ">")

/-- No name of a declared type has a mark of constructed names in it. -/
def Plain (u : Universe) : Prop :=
  ∀ t ∈ u, t.constructionKey? = none → ∀ c ∈ t.fullName.toList, c ∉ marks

/-- No two types have one full name. -/
def Unambiguous (u : Universe) : Prop :=
  ∀ s ∈ u, ∀ t ∈ u, s.fullName = t.fullName → s = t

/-! ## The parts of a name -/

theorem Named.spelled (hu : u.Named) (layered : u.Layered) (ht : t ∈ u) : u.Spelled t := by
  cases hk : t.constructionKey? with
  | none => exact .declared hk
  | some key =>
    cases hu.made t ht key hk with
    | @optional inner _ part _ shape _ name =>
      have parts : ∀ a ∈ [inner], a ∈ u := by simpa using part
      refine .generic (layered.framework .nullable) rfl parts ?_ rfl hk ?_
      · simpa using TypeDescriptor.mem_mentions_element shape.element
      · simp only [List.map_cons, List.map_nil, String.intercalate_singleton]
        exact name
    | array part _ shape _ _ name =>
      exact .array part (TypeDescriptor.mem_mentions_element shape.element) shape.positive hk name
    | @generic definition _ arguments part parts shape _ tokens other name =>
      have key : instanceKey definition arguments
          = .generic definition.token (arguments.map TypeDescriptor.token) := by
        refine instanceKey_eq_generic fun inner rest nullable => ?_
        simp [other nullable]
      refine .generic part shape.isDefinition parts (fun a ha => ?_) ?_ (key ▸ hk) name
      · refine TypeDescriptor.mem_mentions_genericArguments ?_
        rw [tokens]
        exact List.mem_map_of_mem ha
      · rw [← shape.count, tokens, List.length_map]

/-- A definition is declared. -/
theorem Layered.constructionKey?_of_isGenericDefinition (hu : u.Layered) (ht : t ∈ u)
    (h : t.isGenericDefinition = true) : t.constructionKey? = none := by
  obtain ⟨declarable, plain⟩ := (hu.shaped t ht).definition h
  rw [TypeDescriptor.constructionKey?]
  cases hk : t.kind <;> simp_all [TypeKind.isDeclarable]

/-- Types of one construction are one. -/
theorem Interned.eq_of_key (hu : u.Interned) (hs : s ∈ u) (ht : t ∈ u) {key : ConstructionKey}
    (hsk : s.constructionKey? = some key) (htk : t.constructionKey? = some key) : s = t :=
  eq_of_token_eq hs ht
    (Option.some.inj ((hu.recorded s hs key hsk).symm.trans (hu.recorded t ht key htk)))

/-- What holds of a type if it holds of all that it mentions holds of every type. -/
theorem Layered.induct (hu : u.Layered) {P : TypeDescriptor → Prop}
    (step : ∀ t ∈ u, (∀ s ∈ u, s.token ∈ t.mentions → P s) → P t) (ht : t ∈ u) : P t := by
  obtain ⟨rank, hr⟩ := hu.ranked
  induction hn : rank t.token using Nat.strong_induction_on generalizing t with
  | _ n ih =>
    subst hn
    exact step t ht fun s hs mentioned => ih _ (hr.falls t ht _ mentioned) hs rfl

theorem toList_array (name : String) (rank : Nat) : (name ++ rankSuffix rank).toList
    = name.toList ++ '[' :: (List.replicate (rank - 1) ',' ++ [']']) := by
  simp [rankSuffix]

theorem toList_generic (name : String) (names : List String) :
    (name ++ "<" ++ ",".intercalate names ++ ">").toList
      = name.toList ++ '<' :: ([','].intercalate (names.map String.toList) ++ ['>']) := by
  simp

theorem ending_array (name : String) (rank : Nat) :
    ending (name ++ rankSuffix rank).toList = some ']' := by
  rw [toList_array]
  exact ending_enclose _ _ _ (by decide)

theorem ending_generic (name : String) (names : List String) :
    ending (name ++ "<" ++ ",".intercalate names ++ ">").toList = some '>' := by
  rw [toList_generic]
  exact ending_enclose _ _ _ (by decide)

/-! ## Plain names of declared types -/

/-- Every name closes the brackets that it opens. -/
theorem Built.closed (built : u.Built) (plain : u.Plain) (ht : t ∈ u) :
    Closed t.fullName.toList := by
  have layered := built.wellFormed.toLayered
  refine layered.induct (P := fun t => Closed t.fullName.toList) (fun t ht ih => ?_) ht
  cases built.named.spelled layered ht with
  | declared none => exact closed_of_plain (plain t ht none)
  | array part mentioned _ _ name =>
    rw [name, toList_array]
    exact (ih _ part mentioned).enclose rfl (nesting_replicate _) rfl
  | generic part isDefinition parts mentioned _ _ name =>
    rw [name, toList_generic]
    have declared := layered.constructionKey?_of_isGenericDefinition part isDefinition
    refine (closed_of_plain (plain _ part declared)).enclose rfl (nesting_intercalate ?_) rfl
    simp only [List.map_map, List.forall_mem_map]
    exact fun a ha => ih a (parts a ha) (mentioned a ha)

/-- The name of an array gives that of its element, and its rank. -/
theorem parts_of_array {name name' : String} {rank rank' : Nat} (positive : 0 < rank)
    (positive' : 0 < rank') (h : name ++ rankSuffix rank = name' ++ rankSuffix rank') :
    name = name' ∧ rank = rank' := by
  rw [← String.toList_inj, toList_array, toList_array] at h
  obtain ⟨names, commas⟩ := eq_of_bracket (by simp) (by simp) h
  have sizes : rank - 1 = rank' - 1 := by simpa using congrArg List.length commas
  exact ⟨String.toList_inj.mp names, by omega⟩

/-- The name of an instance gives its definition and the names of its arguments. -/
theorem Built.parts_of_generic (built : u.Built) (plain : u.Plain) {d d' : TypeDescriptor}
    {l l' : List TypeDescriptor} (hd : d ∈ u) (hd' : d' ∈ u) (hl : ∀ a ∈ l, a ∈ u)
    (hl' : ∀ a ∈ l', a ∈ u) (isDefinition : d.isGenericDefinition = true)
    (isDefinition' : d'.isGenericDefinition = true)
    (count : l.length = d.genericParameters.length)
    (count' : l'.length = d'.genericParameters.length)
    (h : d.fullName ++ "<" ++ ",".intercalate (l.map TypeDescriptor.fullName) ++ ">"
      = d'.fullName ++ "<" ++ ",".intercalate (l'.map TypeDescriptor.fullName) ++ ">") :
    d = d' ∧ l.map TypeDescriptor.fullName = l'.map TypeDescriptor.fullName := by
  have layered := built.wellFormed.toLayered
  have declared := layered.constructionKey?_of_isGenericDefinition hd isDefinition
  have declared' := layered.constructionKey?_of_isGenericDefinition hd' isDefinition'
  have unmarked : '<' ∉ d.fullName.toList := fun h => plain d hd declared _ h (by decide)
  have unmarked' : '<' ∉ d'.fullName.toList := fun h => plain d' hd' declared' _ h (by decide)
  have closed : ∀ l : List TypeDescriptor, (∀ a ∈ l, a ∈ u) →
      ∀ w ∈ (l.map TypeDescriptor.fullName).map String.toList, Closed w := by
    intro l hl
    simp only [List.map_map, List.forall_mem_map]
    exact fun a ha => built.closed plain (hl a ha)
  rw [← String.toList_inj, toList_generic, toList_generic] at h
  obtain ⟨names, rest⟩ := eq_of_angle unmarked unmarked' h
  obtain rfl : d = d' :=
    built.named.declared d hd d' hd' declared declared' (String.toList_inj.mp names)
  have arguments := intercalate_inj (closed l hl) (closed l' hl') (by simp [count, count'])
    (List.append_cancel_right rest)
  exact ⟨rfl, List.map_injective_iff.mpr (fun _ _ => String.toList_injective) arguments⟩

/-- Lists are equal if their images are and if each item is known by its image. -/
theorem eq_of_map_eq {α β : Type} {f : α → β} {l l' : List α}
    (inj : ∀ a ∈ l, ∀ b ∈ l', f a = f b → a = b) (h : l.map f = l'.map f) : l = l' := by
  induction l generalizing l' with
  | nil => simpa using h.symm
  | cons a l ih =>
    obtain ⟨b, l', rfl⟩ := List.exists_cons_of_ne_nil (fun e : l' = [] => by simp [e] at h)
    obtain ⟨head, tail⟩ := List.cons.inj h
    rw [inj a List.mem_cons_self b List.mem_cons_self head,
      ih (fun a ha b hb => inj a (List.mem_cons_of_mem _ ha) b (List.mem_cons_of_mem _ hb)) tail]

/-- **If the names of declared types are plain, types with one full name are one.** -/
theorem Built.unambiguous (built : u.Built) (plain : u.Plain) : u.Unambiguous := by
  have layered := built.wellFormed.toLayered
  have interned := built.wellFormed.toInterned
  intro s hs
  refine layered.induct (P := fun s => ∀ t ∈ u, s.fullName = t.fullName → s = t)
    (fun s hs ih t ht same => ?_) hs
  have endings : ending s.fullName.toList = ending t.fullName.toList := by rw [same]
  -- the last mark of the name tells which of the three forms it has
  cases built.named.spelled layered hs with
  | declared declS =>
    rw [ending_of_plain (plain s hs declS)] at endings
    cases built.named.spelled layered ht with
    | declared declT => exact built.named.declared s hs t ht declS declT same
    | array _ _ _ _ name =>
      rw [name, ending_array] at endings
      simp at endings
    | generic _ _ _ _ _ _ name =>
      rw [name, ending_generic] at endings
      simp at endings
  | @array e rank part mentioned positive keyed name =>
    rw [name, ending_array] at endings
    cases built.named.spelled layered ht with
    | declared declT => simp [ending_of_plain (plain t ht declT)] at endings
    | @array e' rank' part' _ positive' keyed' name' =>
      rw [name, name'] at same
      obtain ⟨names, rfl⟩ := parts_of_array positive positive' same
      obtain rfl : e = e' := ih e part mentioned e' part' names
      exact interned.eq_of_key hs ht keyed keyed'
    | generic _ _ _ _ _ _ name' =>
      rw [name', ending_generic] at endings
      simp at endings
  | @generic d arguments part isDefinition parts mentioned count keyed name =>
    rw [name, ending_generic] at endings
    cases built.named.spelled layered ht with
    | declared declT => simp [ending_of_plain (plain t ht declT)] at endings
    | array _ _ _ _ name' =>
      rw [name', ending_array] at endings
      simp at endings
    | @generic d' arguments' part' isDefinition' parts' _ count' keyed' name' =>
      rw [name, name'] at same
      obtain ⟨rfl, names⟩ := built.parts_of_generic plain part part' parts parts' isDefinition
        isDefinition' count count' same
      obtain rfl : arguments = arguments' := eq_of_map_eq (fun a ha b hb h =>
        ih a (parts a ha) (mentioned a ha) b (parts' b hb) h) names
      exact interned.eq_of_key hs ht keyed keyed'

/-- The names of the built-in types are plain. -/
theorem plain_initial : initial.Plain := by
  have letters : (builtinTypes.all fun t => t.fullName.toList.all fun c => !marks.contains c)
      = true := by decide +kernel
  intro t ht _ c hc
  simpa using List.all_eq_true.mp (List.all_eq_true.mp letters t (mem_initial.mp ht)) c hc

/-- Names stay plain while types with plain names are declared. -/
theorem Plain.enter (h : u.Plain) (layered : u.Layered)
    (enters : Enters (fun t => ∀ c ∈ t.fullName.toList, c ∉ marks) (· ∈ u) u v) : v.Plain := by
  intro s hs declared
  cases enters with
  | nothing same => exact h s ((mem_congr same.types).mp hs) declared
  | declared _ plain same =>
    rcases mem_of_mem_publish same.types hs with rfl | hs
    · exact plain
    · exact h s hs declared
  | restored _ _ makes same | constructed _ _ makes same =>
    rcases mem_of_mem_publish same.types hs with rfl | hs
    · rw [layered.constructionKey?_of_makes makes] at declared
      cases declared
    · exact h s hs declared

/-! ## Types under their names -/

/-- What is found under a name has that name. -/
theorem Built.fullName_of_findByName? (built : u.Built) {name : String}
    (h : u.findByName? name = some t) : t ∈ u ∧ t.fullName = name := by
  obtain ⟨k, entry, found⟩ := Option.bind_eq_some_iff.mp h
  obtain ⟨ht, rfl⟩ := mem_of_find?_eq_some found
  obtain ⟨s, hs, token, named⟩ := built.named.found name _ entry
  exact ⟨ht, eq_of_token_eq hs ht token ▸ named⟩

theorem Built.findByName?_of_unambiguous (built : u.Built) (h : u.Unambiguous) (ht : t ∈ u) :
    u.findByName? t.fullName = some t := by
  obtain ⟨k, entry⟩ := Option.isSome_iff_exists.mp (built.named.listed t ht)
  obtain ⟨s, hs, rfl, named⟩ := built.named.found _ _ entry
  obtain rfl : s = t := h s hs t ht named
  exact Option.bind_eq_some_iff.mpr ⟨_, entry, hs⟩

/-- **Full names identify types if no two types have the same.** Then every type is found under its
name, and a name keeps standing for what it stood for. It is enough that no name of a declared type
has a mark of constructed names in it. -/
theorem findByName?_fullName (built : u.Built) :
    ((∀ t ∈ u, u.findByName? t.fullName = some t) ↔ u.Unambiguous) ∧
      (u.Unambiguous → ∀ w : Universe, w.Built → w.GrowsInto u → ∀ name t,
        w.findByName? name = some t → u.findByName? name = some t) ∧
      (u.Plain → u.Unambiguous) := by
  refine ⟨⟨fun found s hs t ht same => ?_, fun h t => built.findByName?_of_unambiguous h⟩,
    fun h w before run name t found => ?_, built.unambiguous⟩
  · have foundS := found s hs
    rw [same, found t ht] at foundS
    exact (Option.some.inj foundS).symm
  · obtain ⟨ht, rfl⟩ := before.fullName_of_findByName? found
    exact built.findByName?_of_unambiguous h ((run.extends before).2.mem t ht)

/-- The arrays of numbers are found under their name, and the numbers still are. -/
theorem findByName?_fullName_array : ∃ (u : Universe) (numbers : TypeDescriptor), u.Built ∧
    numbers.fullName = "System.Int32[]" ∧ u.findByName? "System.Int32[]" = some numbers ∧
      u.findByName? "System.Int32" = some (NumericKind.integer .int32).descriptor := by
  let number := (NumericKind.integer .int32).descriptor
  obtain ⟨numbers, u, ofNumbers⟩ : ∃ t v, initial.arrayOf number 1 = .ok (t, v) := ⟨_, _, rfl⟩
  have step : initial.Step u := .arrayOf (by decide) ofNumbers
  have rows : u.WithinRows := by
    cases ofNumbers
    constructor <;> decide
  have built : u.Built := .step .initial step rows
  have plain : u.Plain :=
    plain_initial.enter wellFormed_initial.toLayered
      (arrayOf_constructs (by decide) ofNumbers).enters
  obtain ⟨found, kept, unambiguous⟩ := findByName?_fullName built
  have name : numbers.fullName = "System.Int32[]" := by
    cases ofNumbers
    decide
  have known : numbers ∈ u := by
    cases ofNumbers
    decide
  refine ⟨u, numbers, built, name, name ▸ found.mpr (unambiguous plain) numbers known, ?_⟩
  refine kept (unambiguous plain) initial .initial (.single ⟨step, rows⟩) _ _ ?_
  decide +kernel

/-- A class is declared under the name of the arrays of numbers, and then those are constructed. -/
theorem exists_ambiguous : ∃ (u v : Universe) (named numbers : TypeDescriptor), u.Built ∧ v.Built ∧
    u.GrowsInto v ∧ u.findByName? named.fullName = some named ∧ numbers ∈ v ∧ named ≠ numbers ∧
      v.findByName? named.fullName = some numbers := by
  let d := (Declaration.start initial).1.asClass "System" "Int32[]"
  have described : d.Described d.token := .asClass _ _ .start
  have begun : initial.allocate.2.Built := by
    refine .step .initial .allocate ?_
    constructor <;> decide
  have allocated : initial.allocate.2.Allocated d.token := ⟨_, by decide, by decide, rfl⟩
  obtain ⟨named, u, made⟩ : ∃ t v, d.build initial.allocate.2 = (.ok t, v) := ⟨_, _, rfl⟩
  have built : u.Built := by
    have step := Step.build d allocated described
    rw [made] at step
    refine .step begun step ?_
    cases made
    constructor <;> decide
  obtain ⟨numbers, v, ofNumbers⟩ : ∃ t v,
      u.arrayOf (NumericKind.integer .int32).descriptor 1 = .ok (t, v) := by
    cases made
    exact ⟨_, _, rfl⟩
  have step : u.Step v := .arrayOf (built.wellFormed.numeric _) ofNumbers
  have rows : v.WithinRows := by
    cases made
    cases ofNumbers
    constructor <;> decide
  refine ⟨u, v, named, numbers, built, .step built step rows, .single ⟨step, rows⟩, ?_⟩
  cases made
  cases ofNumbers
  decide +kernel

/-- A type need not be found under its name, two types can have one name, and a name can come to
stand for another type. -/
theorem not_findByName?_fullName :
    (¬∀ u : Universe, u.Built → ∀ t ∈ u, u.findByName? t.fullName = some t) ∧
    (¬∀ u : Universe, u.Built → u.Unambiguous) ∧
    ¬∀ u v : Universe, u.Built → u.GrowsInto v → ∀ name t, u.findByName? name = some t →
      v.findByName? name = some t := by
  obtain ⟨u, v, named, numbers, builtU, builtV, grows, before, hn, other, after⟩ := exists_ambiguous
  have kept : named ∈ v := (grows.extends builtU).2.mem _ (builtU.fullName_of_findByName? before).1
  refine ⟨fun found => ?_, fun unambiguous => ?_, fun keeps => ?_⟩
  · exact other (Option.some.inj ((found v builtV named kept).symm.trans after))
  · have same := (builtV.fullName_of_findByName? after).2
    exact other (unambiguous v builtV named kept numbers hn same.symm)
  · have still := keeps u v builtU grows _ _ before
    exact other (Option.some.inj (still.symm.trans after))

end TypeConversion.Universe
