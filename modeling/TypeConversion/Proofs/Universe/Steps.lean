import TypeConversion.Proofs.Universe.Constructions

/-!
# Steps are elementary changes

Each operation on a well-formed universe, opened once: an operator is declared after all its checks
(`declareOperator_eq_ok`), a declaration adds its type and then operators (`build_changes`), and a
construction adds its type if it is new (`Constructs.changes`).

* `Step.changes`: every step is a sequence of elementary changes.
-/

namespace TypeConversion.Universe

variable {u v : Universe} {t : TypeDescriptor}

/-! ## Operators -/

theorem checkOperatorSide_eq_ok {declaring side : TypeDescriptor}
    (h : checkOperatorSide declaring side = .ok ()) :
    side.isInterface = false ∧ side.isFramework .object = false := by
  rw [checkOperatorSide] at h
  split at h
  · cases h
  · rename_i hc
    simpa [not_or] using hc

/-- An operator is declared after all its checks. -/
theorem declareOperator_eq_ok {declaring input output : Token} {isImplicit : Bool}
    {procedure : Procedure} {o : Operator}
    (h : u.declareOperator declaring input output isImplicit procedure = .ok (o, v)) :
    ∃ inputType outputType, o.Admitted u inputType outputType ∧ v = u.addOperator o := by
  simp only [declareOperator, bind_eq_ok, throw_bind_else_eq_ok] at h
  obtain ⟨d, hd, i, hi, out, ho, distinct, onDeclaring, _, sideIn, _, sideOut, single, made⟩ := h
  cases made
  rw [resolve_eq_ok] at hi ho
  refine ⟨i, out, ⟨rfl, ?_, hi.1, ho.1, hi.2, ho.2, distinct, ?_, checkOperatorSide_eq_ok sideIn,
    checkOperatorSide_eq_ok sideOut, ?_⟩, rfl⟩
  · exact isSome_find?_iff.mpr ⟨d, resolve_eq_ok.mp hd⟩
  · by_contra hn
    exact onDeclaring (not_or.mp hn)
  · simpa [and_assoc] using single

/-- Declaring operators in turn is a sequence of changes, whether one is refused or not. -/
theorem declareAll_changes (declaring : Token) (pending : List PendingOperator) (u : Universe) :
    Changes u (Declaration.declareAll declaring pending u).2 := by
  induction pending generalizing u with
  | nil => exact .refl
  | cons p rest ih =>
    rw [Declaration.declareAll]
    split
    · rename_i o v h
      obtain ⟨i, out, admitted, rfl⟩ := declareOperator_eq_ok h
      exact .head (.operate admitted) (ih _)
    · exact .refl

/-! ## Declared types -/

/-- What a declaration describes is shaped if its base and its interfaces pass their checks. -/
theorem shaped_of_descriptor {d : Declaration} (declarable : d.Declarable)
    (h : d.descriptor = .ok t) (hb : u.checkBase t = .ok ())
    (hi : u.checkInterfaces t t.interfaces = .ok ()) : Shaped u t := by
  obtain ⟨-, ⟨space, name, identity⟩, base, sealedByKind, element, definition, arguments⟩ :=
    Declaration.descriptor_eq_ok h
  have kind : t.kind.isDeclarable = true := declarable _ identity
  have listed := checkInterfaces_eq_ok hi
  constructor
  case mentioned =>
    intro k hk
    simp only [TypeDescriptor.mentions, element, definition, arguments, Option.toList_none,
      List.append_nil, List.mem_append, Option.mem_toList] at hk
    rcases hk with hk | hk
    · exact (checkBase_eq_ok hb hk).imp fun s hs => ⟨hs.1, hs.2.1⟩
    · exact (listed k hk).imp fun s hs => ⟨hs.1, hs.2.1⟩
  case base_open => exact fun k hk => checkBase_eq_ok hb hk
  case listed => exact listed
  case definition => exact fun _ => ⟨kind, definition⟩
  case instantiated => simp [definition]
  all_goals
    cases hk : t.kind <;> simp_all [TypeDescriptor.isInterface, TypeDescriptor.isEnum,
      TypeDescriptor.isOptional, TypeKind.isInterface, TypeKind.isEnum, TypeKind.isOptional,
      TypeKind.isDeclarable, Declaration.defaultBase?, Declaration.sealedByKind]

/-- What a declaration describes is not constructed. -/
theorem constructionKey?_of_descriptor {d : Declaration} (h : d.descriptor = .ok t) :
    t.constructionKey? = none := by
  obtain ⟨-, -, -, -, element, definition, -⟩ := Declaration.descriptor_eq_ok h
  rw [TypeDescriptor.constructionKey?]
  split <;> simp [element, definition]

theorem build_changes {d : Declaration} (allocated : u.Allocated d.token)
    (described : d.Described d.token) : Changes u (d.build u).2 := by
  rcases d.build_cases u with ⟨-, e, same⟩ | ⟨t, outcome, v, ht, registered, all, same⟩
  · rw [same]
  · obtain ⟨-, fresh, unnamed, base, interfaces⟩ := register_eq_ok registered
    have token : t.token = d.token := (Declaration.descriptor_eq_ok ht).1
    have shaped := shaped_of_descriptor described.declarable ht base interfaces
    have operators := declareAll_changes t.token d.operators (u.publish t)
    rw [all] at operators
    rw [same]
    exact .head (.declare fresh (token ▸ allocated) unnamed shaped
      (constructionKey?_of_descriptor ht)) operators

/-! ## Steps -/

/-- **Every step is a sequence of elementary changes.** -/
theorem Step.changes (hu : u.WellFormed) (s : u.Step v) : Changes u v := by
  cases s with
  | allocate => exact .single .allocate
  | build d allocated described => exact build_changes allocated described
  | optionalOf known made => exact (optionalOf_constructs known made).changes hu
  | arrayOf known made => exact (arrayOf_constructs known made).changes hu
  | instantiate known all made => exact (instantiate_constructs known all made).changes hu
  | declareOperator made =>
    obtain ⟨i, out, admitted, rfl⟩ := declareOperator_eq_ok made
    exact .single (.operate admitted)

end TypeConversion.Universe
