import TypeConversion.Proofs.Universe.Steps
import Mathlib.Data.List.Nodup

/-!
# What an operation enters into the tables

An operation leaves the tables of types, names and constructions as they are, or enters one type
into them. This holds of every universe, whether the operations before kept to anything or not, and
of every descriptor that is handed to the operation.

* `Universe.Operation u v`: one operation that a universe offers leads from `u` to `v`.
* `Universe.Enters`: the entry of one operation. `Operation.enters` finds it for any operation, and
  `Step.enters` for those over types of the universe.
* `Built.nodup`: the types of a universe are listed once each.
-/

namespace TypeConversion.Universe

variable {u v w : Universe} {t : TypeDescriptor} {declares declares' known : TypeDescriptor → Prop}

/-- One operation that a universe offers, on any descriptors. -/
inductive Operation (u : Universe) : Universe → Prop
  | allocate : Operation u u.allocate.2
  | register {t : TypeDescriptor} {v : Universe} (made : u.register t = .ok v) : Operation u v
  | build (d : Declaration) : Operation u (d.build u).2
  | optionalOf {inner t : TypeDescriptor} {v : Universe}
      (made : u.optionalOf inner = .ok (t, v)) : Operation u v
  | arrayOf {element t : TypeDescriptor} {rank : Nat} {v : Universe}
      (made : u.arrayOf element rank = .ok (t, v)) : Operation u v
  | instantiate {definition t : TypeDescriptor} {arguments : List TypeDescriptor} {v : Universe}
      (made : u.instantiate definition arguments = .ok (t, v)) : Operation u v
  | declareOperator {declaring input output : Token} {isImplicit : Bool} {procedure : Procedure}
      {o : Operator} {v : Universe}
      (made : u.declareOperator declaring input output isImplicit procedure = .ok (o, v)) :
      Operation u v

/-- The second universe has the types, the names and the constructions of the first. -/
structure SameTables (u v : Universe) : Prop where
  types : v.types = u.types
  names : v.names = u.names
  constructions : v.constructions = u.constructions
  nextConstructed : v.nextConstructed = u.nextConstructed

theorem SameTables.refl (u : Universe) : u.SameTables u := ⟨rfl, rfl, rfl, rfl⟩

theorem SameTables.trans (h : u.SameTables v) (h' : v.SameTables w) : u.SameTables w :=
  ⟨h'.types.trans h.types, h'.names.trans h.names, h'.constructions.trans h.constructions,
    h'.nextConstructed.trans h.nextConstructed⟩

/-- What one operation enters into the tables. -/
inductive Enters (declares known : TypeDescriptor → Prop) (u v : Universe) : Prop
  | nothing (same : u.SameTables v)
  /-- A declared type, after its checks. -/
  | declared {t : TypeDescriptor} (made : u.register t = .ok (u.publish t)) (ok : declares t)
      (same : (u.publish t).SameTables v)
  /-- The type of a construction that is recorded under a token that stands for nothing. -/
  | restored {key : ConstructionKey} {t : TypeDescriptor}
      (recorded : u.constructions.lookup key = some t.token) (missing : u.find? t.token = none)
      (makes : Makes known key t) (same : (u.publish t).SameTables v)
  /-- The type of a new construction, under the next token for one. -/
  | constructed {key : ConstructionKey} {t : TypeDescriptor}
      (missing : u.constructions.lookup key = none)
      (token : t.token = .ofParts Token.constructedTable u.nextConstructed)
      (makes : Makes known key t) (same : (u.record key t).SameTables v)

theorem Enters.mono (le : ∀ t, declares t → declares' t) (h : Enters declares known u v) :
    Enters declares' known u v := by
  cases h with
  | nothing same => exact .nothing same
  | declared made ok same => exact .declared made (le _ ok) same
  | restored recorded missing makes same => exact .restored recorded missing makes same
  | constructed missing token makes same => exact .constructed missing token makes same

/-! ## Declared types -/

theorem declareOperator_sameTables {declaring input output : Token} {isImplicit : Bool}
    {procedure : Procedure} {o : Operator}
    (h : u.declareOperator declaring input output isImplicit procedure = .ok (o, v)) :
    u.SameTables v := by
  obtain ⟨i, out, -, rfl⟩ := declareOperator_eq_ok h
  exact ⟨rfl, rfl, rfl, rfl⟩

theorem declareAll_sameTables (declaring : Token) (pending : List PendingOperator)
    (u : Universe) : u.SameTables (Declaration.declareAll declaring pending u).2 := by
  induction pending generalizing u with
  | nil => exact .refl u
  | cons p rest ih =>
    rw [Declaration.declareAll]
    split
    · rename_i o v h
      exact (declareOperator_sameTables h).trans (ih v)
    · exact .refl u

theorem register_enters (ok : declares t) (h : u.register t = .ok v) :
    Enters declares known u v := by
  obtain ⟨rfl, -⟩ := register_eq_ok h
  exact .declared h ok (.refl _)

/-- A declaration enters the type that it describes, unless it is refused. -/
theorem build_enters {d : Declaration} (ok : ∀ t, d.descriptor = .ok t → declares t) :
    Enters declares known u (d.build u).2 := by
  rcases d.build_cases u with ⟨-, e, same⟩ | ⟨t, outcome, v, described, registered, all, same⟩
  · rw [same]
    exact .nothing (.refl u)
  · have tables := declareAll_sameTables t.token d.operators (u.publish t)
    rw [all] at tables
    rw [same]
    exact .declared registered (ok t described) tables

/-! ## Constructed types -/

theorem Constructs.enters {key : ConstructionKey} (h : u.Constructs known key t v) :
    Enters declares known u v := by
  cases h with
  | recorded => exact .nothing (.refl u)
  | restored entry missing makes => exact .restored entry missing makes (.refl _)
  | new missing token makes => exact .constructed missing token makes (.refl _)

/-! ## Operations -/

/-- **Every operation enters at most one type into the tables.** -/
theorem Operation.enters (s : u.Operation v) : Enters (fun _ => True) (fun _ => True) u v := by
  cases s with
  | allocate => exact .nothing ⟨rfl, rfl, rfl, rfl⟩
  | register made => exact register_enters trivial made
  | build d => exact build_enters fun _ _ => trivial
  | optionalOf made => exact (optionalOf_constructs trivial made).enters
  | arrayOf made => exact (arrayOf_constructs trivial made).enters
  | instantiate made =>
    exact (instantiate_constructs trivial (fun _ _ => trivial) made).enters
  | declareOperator made => exact .nothing (declareOperator_sameTables made)

/-- **A step enters a type with a token that was given out, or one made of types of the
universe.** -/
theorem Step.enters (s : u.Step v) :
    Enters (fun t => u.Allocated t.token ∧ t.constructionKey? = none) (· ∈ u) u v := by
  cases s with
  | allocate => exact .nothing ⟨rfl, rfl, rfl, rfl⟩
  | build d allocated described =>
    refine build_enters fun t h => ⟨?_, constructionKey?_of_descriptor h⟩
    rwa [(Declaration.descriptor_eq_ok h).1]
  | optionalOf known made => exact (optionalOf_constructs known made).enters
  | arrayOf known made => exact (arrayOf_constructs known made).enters
  | instantiate known all made => exact (instantiate_constructs known all made).enters
  | declareOperator made => exact .nothing (declareOperator_sameTables made)

/-! ## The list of types -/

theorem nodup_publish (hu : (u.types.map TypeDescriptor.token).Nodup) (t : TypeDescriptor) :
    ((u.publish t).types.map TypeDescriptor.token).Nodup := by
  rw [publish, List.map_cons, List.nodup_cons]
  refine ⟨?_, hu.sublist (List.filter_sublist.map _)⟩
  simp

/-- A type takes the place of the type with its token, so each token is listed once. -/
theorem Enters.nodup (hu : (u.types.map TypeDescriptor.token).Nodup)
    (h : Enters declares known u v) : (v.types.map TypeDescriptor.token).Nodup := by
  cases h with
  | nothing same => rwa [same.types]
  | declared _ _ same | restored _ _ _ same =>
    rw [same.types]
    exact nodup_publish hu _
  | constructed _ _ _ same =>
    rw [same.types]
    exact nodup_publish hu _

/-- The types of a built universe are listed once each. -/
theorem Built.nodup (h : u.Built) : (u.types.map TypeDescriptor.token).Nodup := by
  induction h with
  | initial => decide
  | step _ s _ ih => exact s.enters.nodup ih

/-- The listed types are those of the universe. -/
theorem mem_types_iff (hu : (u.types.map TypeDescriptor.token).Nodup) : t ∈ u.types ↔ t ∈ u := by
  refine ⟨fun listed => ?_, List.mem_of_find?_eq_some⟩
  have isSome : (u.find? t.token).isSome = true :=
    List.find?_isSome.mpr ⟨t, listed, beq_self_eq_true _⟩
  obtain ⟨s, hs, token⟩ := isSome_find?_iff.mp isSome
  have same := List.inj_on_of_nodup_map hu (List.mem_of_find?_eq_some hs) listed token
  rwa [← same]

end TypeConversion.Universe
