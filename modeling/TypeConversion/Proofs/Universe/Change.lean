import TypeConversion.Proofs.Universe.WellFormed
import Mathlib.Logic.Relation

/-!
# What a step can change

Every operation on a universe comes down to four elementary changes: a token is spent, a declared
type is added, a constructed type is added, or an operator is added. `Universe.Step.changes` says
so; what holds of every universe is proved for the four changes and not for the operations.

The first lemmas open a computation that can fail: if it succeeds, so did each of its parts and no
check was violated.
-/

namespace TypeConversion

section Outcome

variable {α β : Type} {e : Error} {b : β}

theorem bind_eq_ok {x : Except Error α} {f : α → Except Error β} :
    (x >>= f) = .ok b ↔ ∃ a, x = .ok a ∧ f a = .ok b := by
  cases x <;> simp [bind, Except.bind]

theorem throw_else_eq_ok {c : Prop} [Decidable c] {x : Except Error β} :
    (if c then throw e else x) = .ok b ↔ ¬c ∧ x = .ok b := by
  by_cases h : c <;> simp [h, throw, throwThe, MonadExceptOf.throw]

theorem throw_bind_else_eq_ok {c : Prop} [Decidable c] {f : α → Except Error β}
    {x : Except Error β} : (if c then throw e >>= f else x) = .ok b ↔ ¬c ∧ x = .ok b := by
  by_cases h : c <;> simp [h, throw, throwThe, MonadExceptOf.throw, bind, Except.bind]

end Outcome

/-- What the declaration of an operator makes sure of. -/
structure Operator.Admitted (u : Universe) (o : Operator) (input output : TypeDescriptor) :
    Prop where
  token : o.token = .ofParts Token.operatorTable u.nextOperator
  declaring : (u.find? o.declaring).isSome = true
  input_mem : input ∈ u
  output_mem : output ∈ u
  input_token : input.token = o.input
  output_token : output.token = o.output
  distinct : o.input ≠ o.output
  onDeclaring : (u.unwrapOptional input).token = o.declaring
    ∨ (u.unwrapOptional output).token = o.declaring
  input_side : input.isInterface = false ∧ input.isFramework .object = false
  output_side : output.isInterface = false ∧ output.isFramework .object = false
  single : ∀ p ∈ u.operators, ¬(p.declaring = o.declaring ∧ p.input = o.input ∧ p.output = o.output)

namespace Universe

/-- The universe with a constructed type added. -/
def record (u : Universe) (key : ConstructionKey) (t : TypeDescriptor) : Universe :=
  { u.publish t with
    constructions := (key, t.token) :: u.constructions
    nextConstructed := u.nextConstructed + 1 }

/-- The universe with an operator added. -/
def addOperator (u : Universe) (o : Operator) : Universe :=
  { u with
    operators := u.operators ++ [o]
    nextOperator := u.nextOperator + 1
    operatorGeneration := u.operatorGeneration + 1 }

/-- An elementary change of a universe. -/
inductive Change (u : Universe) : Universe → Prop
  | allocate : Change u u.allocate.2
  | declare {t : TypeDescriptor} (fresh : u.find? t.token = none) (token : u.Allocated t.token)
      (unnamed : u.tokenOfName? t.fullName = none) (shaped : Shaped u t)
      (plain : t.constructionKey? = none) : Change u (u.publish t)
  | construct {key : ConstructionKey} {t : TypeDescriptor}
      (missing : u.constructions.lookup key = none)
      (token : t.token = .ofParts Token.constructedTable u.nextConstructed) (shaped : Shaped u t)
      (keyed : t.constructionKey? = some key) : Change u (u.record key t)
  | operate {o : Operator} {input output : TypeDescriptor} (admitted : o.Admitted u input output) :
      Change u (u.addOperator o)

/-- Elementary changes one after another. -/
abbrev Changes : Universe → Universe → Prop := Relation.ReflTransGen Change

variable {u v : Universe} {t : TypeDescriptor}

/-! ## Declared types -/

theorem resolve_eq_ok {k : Token} : u.resolve k = .ok t ↔ t ∈ u ∧ t.token = k := by
  rw [← find?_eq_some_iff, resolve]
  cases u.find? k <;> simp

theorem checkBase_eq_ok (h : u.checkBase t = .ok ()) {k : Token} (hk : t.base = some k) :
    ∃ s ∈ u, s.token = k ∧ s.isInterface = false ∧ s.isSealed = false := by
  rw [checkBase, hk] at h
  simp only [bind_eq_ok, resolve_eq_ok, throw_bind_else_eq_ok, throw_else_eq_ok] at h
  obtain ⟨s, ⟨hs, rfl⟩, hi, hsealed, -⟩ := h
  exact ⟨s, hs, rfl, by simpa using hi, by simpa using hsealed⟩

theorem checkInterfaces_eq_ok {ks : List Token} (h : u.checkInterfaces t ks = .ok ()) :
    ∀ k ∈ ks, ∃ s ∈ u, s.token = k ∧ s.isInterface = true := by
  induction ks with
  | nil => simp
  | cons k ks ih =>
    rw [checkInterfaces] at h
    simp only [bind_eq_ok, resolve_eq_ok, throw_bind_else_eq_ok] at h
    obtain ⟨s, ⟨hs, rfl⟩, hi, rest⟩ := h
    rw [List.forall_mem_cons]
    exact ⟨⟨s, hs, rfl, by simpa using hi⟩, ih rest⟩

/-- A type is registered if its token and its name are new and its checks succeed. -/
theorem register_eq_ok (h : u.register t = .ok v) :
    v = u.publish t ∧ u.find? t.token = none ∧ u.tokenOfName? t.fullName = none
      ∧ u.checkBase t = .ok () ∧ u.checkInterfaces t t.interfaces = .ok () := by
  simp only [register, throw_bind_else_eq_ok, bind_eq_ok] at h
  obtain ⟨fresh, _, base, _, interfaces, _, -, unnamed, made⟩ := h
  exact ⟨(Except.ok.inj made).symm, by simpa using fresh, by simpa using unnamed, base, interfaces⟩

end Universe

namespace Declaration

variable {d : Declaration} {token : Token}

/-- The kind of the declared type, if it is said, is one that can be declared. -/
def Declarable (d : Declaration) : Prop :=
  ∀ identity, d.identity = some identity → identity.2.2.isDeclarable = true

theorem Declarable.identify (h : d.Declarable) (space name : String) {kind : TypeKind}
    (hk : kind.isDeclarable = true) : (d.identify space name kind).Declarable := by
  rw [Declaration.identify]
  cases e : d.identity with
  | none =>
    rintro identity ⟨⟩
    exact hk
  | some known => exact h

/-- Calls choose a kind that can be declared. -/
theorem Described.declarable (h : Described token d) : d.Declarable := by
  induction h with
  | start =>
    rintro identity ⟨⟩
  | asClass s n _ ih => exact ih.identify s n rfl
  | asValueType s n _ ih => exact ih.identify s n rfl
  | asInterface s n _ ih => exact ih.identify s n rfl
  | asDelegate s n _ ih => exact ih.identify s n rfl
  | asEnumeration s n underlying _ ih => exact ih.identify s n rfl
  | @extending d base _ ih =>
    intro identity e
    rw [Declaration.extending] at e
    refine ih identity ?_
    cases h : d.base.isSome <;> simpa [h, note] using e
  | @implementing d implemented _ ih =>
    rw [Declaration.implementing]
    split <;> exact ih
  | asSealed _ ih | asAbstract _ ih | withParameter _ _ ih | withOperator _ _ ih => exact ih

/-- The base of a declared type: the one chosen for a class, and else that of the kind. -/
theorem chosenBase_eq_ok {qualified : String} {kind : TypeKind} {base chosen : Option Token}
    (h : chosenBase qualified kind base = .ok chosen) :
    chosen = (defaultBase? kind).map FrameworkType.token ∨ kind = .classType := by
  cases kind <;> cases base <;> simp_all [chosenBase]

/-- A declaration without fault describes a type of its token that is made of nothing. -/
theorem descriptor_eq_ok {t : TypeDescriptor} (h : d.descriptor = .ok t) :
    t.token = d.token ∧ (∃ space name, d.identity = some (space, name, t.kind))
      ∧ (t.base = (defaultBase? t.kind).map FrameworkType.token ∨ t.kind = .classType)
      ∧ (sealedByKind t.kind = true → t.flags.isSealed = true)
      ∧ t.element = none ∧ t.genericDefinition = none ∧ t.genericArguments = [] := by
  rw [descriptor] at h
  split at h
  · simp [throw, throwThe, MonadExceptOf.throw, bind, Except.bind] at h
  split at h
  · simp only [bind_eq_ok] at h
    obtain ⟨-, -, base, hbase, made⟩ := h
    cases made
    refine ⟨rfl, ⟨_, _, ‹_›⟩, chosenBase_eq_ok hbase, fun hs => ?_, rfl, rfl, rfl⟩
    simp only [hs, Bool.or_true]
  · simp [throw, throwThe, MonadExceptOf.throw] at h

/-- The calls of the declaration or the type that it describes are refused. -/
def RefusedAtOnce (d : Declaration) (u : Universe) : Prop :=
  ∀ t, d.descriptor = .ok t → ∃ e, u.register t = .error e

/-- A declaration is refused at once and changes nothing, or its type is registered and then its
operators are declared up to the first that is refused. -/
theorem build_cases (d : Declaration) (u : Universe) :
    (d.RefusedAtOnce u ∧ ∃ e, d.build u = (.error e, u)) ∨
      ∃ t outcome v, d.descriptor = .ok t ∧ u.register t = .ok (u.publish t) ∧
        declareAll t.token d.operators (u.publish t) = (outcome, v) ∧
        d.build u = (outcome.map fun _ => t, v) := by
  cases described : d.descriptor with
  | error e =>
    refine .inl ⟨fun t h => ?_, e, by simp only [build, described]⟩
    rw [described] at h
    cases h
  | ok t =>
    cases registered : u.register t with
    | error e =>
      refine .inl ⟨fun s h => ?_, e, by simp only [build, described, registered]⟩
      rw [described] at h
      cases h
      exact ⟨e, registered⟩
    | ok w =>
      obtain ⟨rfl, -⟩ := Universe.register_eq_ok registered
      exact .inr ⟨t, _, _, rfl, registered, rfl, by simp only [build, described, registered]⟩

end Declaration

end TypeConversion
