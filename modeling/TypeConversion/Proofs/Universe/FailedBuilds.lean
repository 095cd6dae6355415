import TypeConversion.Proofs.Universe.Entries
import TypeConversion.Proofs.Universe.Preservation

/-!
# What a failing build leaves behind

A declaration is refused for its calls, for its type, or for one of its operators. The operators are
declared last, one after another, on the type that is registered by then.

* `Universe.AnswersAlike u v`: no query tells the universes apart.
* `Universe.Gains u t pending v`: the queries tell the universes apart by a type and its operators.
* `Declaration.RefusedAtOnce.eq`: if the calls or the type are refused, the universe stays as it is.
* `Declaration.exists_refused_of_build`: if an operator is refused, the universe is that of the
  build with the operators before it.
* `answersAlike_iff_of_build_error`: a failing build leaves nothing behind exactly if it is refused
  at once. Otherwise the type stays, with the operators before the refused one, and its name is
  taken for good.
* `not_answersAlike_of_build_error`: a coin with a refused operator stays, and the name of the coin
  is taken.
-/

namespace TypeConversion

variable {u v w : Universe} {t : TypeDescriptor} {e : Error}

/-- What was asked for when an operator was declared. -/
def Operator.asPending (o : Operator) : PendingOperator :=
  ⟨o.input, o.output, o.isImplicit, o.procedure⟩

namespace Universe

open Relation (ReflTransGen)

/-- Two universes that no query tells apart. -/
structure AnswersAlike (u v : Universe) : Prop where
  find? : ∀ k, v.find? k = u.find? k
  findByName? : ∀ name, v.findByName? name = u.findByName? name
  size : v.size = u.size
  operatorsDeclaredBy : ∀ t, v.operatorsDeclaredBy t = u.operatorsDeclaredBy t
  operatorGeneration : v.operatorGeneration = u.operatorGeneration

/-- A universe has a type more, and operators that the type declares. -/
structure Gains (u : Universe) (t : TypeDescriptor) (pending : List PendingOperator)
    (v : Universe) : Prop where
  absent : u.find? t.token = none
  find? : v.find? t.token = some t
  findByName? : v.findByName? t.fullName = some t
  size : v.size = u.size + 1
  operatorsDeclaredBy : (v.operatorsDeclaredBy t).map Operator.asPending
    = (u.operatorsDeclaredBy t).map Operator.asPending ++ pending
  operatorGeneration : v.operatorGeneration = u.operatorGeneration + pending.length

theorem AnswersAlike.refl (u : Universe) : u.AnswersAlike u :=
  ⟨fun _ => rfl, fun _ => rfl, rfl, fun _ => rfl, rfl⟩

theorem Gains.not_answersAlike {pending : List PendingOperator} (h : u.Gains t pending v) :
    ¬u.AnswersAlike v := by
  intro alike
  have grown := h.size
  rw [alike.size] at grown
  exact Nat.succ_ne_self _ grown.symm

/-- An operator is declared as it was asked for. -/
theorem asPending_of_declareOperator {declaring : Token} {p : PendingOperator} {o : Operator}
    (h : u.declareOperator declaring p.input p.output p.isImplicit p.procedure = .ok (o, v)) :
    o.declaring = declaring ∧ o.asPending = p := by
  simp only [declareOperator, bind_eq_ok, throw_bind_else_eq_ok] at h
  obtain ⟨_, _, _, _, _, _, _, _, _, _, _, _, _, made⟩ := h
  cases made
  exact ⟨rfl, rfl⟩

/-! ## Names that are taken -/

/-- An operation frees no name. -/
theorem Operation.names (s : u.Operation v) {name : String}
    (h : (u.tokenOfName? name).isSome = true) : (v.tokenOfName? name).isSome = true := by
  have published : ∀ t : TypeDescriptor, ((u.publish t).tokenOfName? name).isSome = true := by
    intro t
    rw [tokenOfName?_publish]
    split
    · rfl
    · exact h
  cases s.enters with
  | nothing same => rwa [tokenOfName?, same.names]
  | declared _ _ same | restored _ _ _ same | constructed _ _ _ same =>
    rw [tokenOfName?, same.names]
    exact published _

theorem names_of_run (run : ReflTransGen Operation u v) {name : String}
    (h : (u.tokenOfName? name).isSome = true) : (v.tokenOfName? name).isSome = true := by
  induction run with
  | refl => exact h
  | tail _ s ih => exact s.names ih

end Universe

namespace Declaration

open Universe
open Relation (ReflTransGen)

variable {declaring : Token} {pending : List PendingOperator} {d : Declaration}

/-! ## Operators up to the first refused one -/

/-- A refused operator stops the declarations; those before it were accepted. -/
theorem exists_refused (h : declareAll declaring pending u = (.error e, v)) :
    ∃ accepted refused rest, pending = accepted ++ refused :: rest ∧
      declareAll declaring accepted u = (.ok (), v) ∧
      v.declareOperator declaring refused.input refused.output refused.isImplicit refused.procedure
        = .error e := by
  induction pending generalizing u with
  | nil => cases h
  | cons p ps ih =>
    rw [declareAll] at h
    split at h
    · rename_i o w made
      obtain ⟨accepted, refused, rest, rfl, all, rejected⟩ := ih h
      refine ⟨p :: accepted, refused, rest, rfl, ?_, rejected⟩
      rw [declareAll, made]
      exact all
    · rename_i rejected
      cases h
      exact ⟨[], p, ps, rfl, rfl, rejected⟩

/-- Accepted operators are added in order, and each advances the generation. -/
theorem declareAll_eq_ok (h : declareAll declaring pending u = (.ok (), v)) :
    v.operatorGeneration = u.operatorGeneration + pending.length ∧
      ∃ declared, v.operators = u.operators ++ declared ∧
        declared.map Operator.asPending = pending ∧ ∀ o ∈ declared, o.declaring = declaring := by
  induction pending generalizing u with
  | nil =>
    cases h
    exact ⟨rfl, [], (List.append_nil _).symm, rfl, by simp⟩
  | cons p ps ih =>
    rw [declareAll] at h
    split at h
    · rename_i o w made
      obtain ⟨generation, declared, operators, asked, own⟩ := ih h
      obtain ⟨here, same⟩ := asPending_of_declareOperator made
      obtain ⟨-, -, -, rfl⟩ := declareOperator_eq_ok made
      refine ⟨?_, o :: declared, ?_, by simp [same, asked], by simpa [here] using own⟩
      · rw [generation, List.length_cons]
        exact Nat.add_right_comm ..
      · rw [operators]
        exact List.append_assoc ..
    · cases h

/-! ## What a build adds -/

theorem descriptor_of_build (h : d.build u = (.ok t, v)) :
    d.descriptor = .ok t ∧ u.register t = .ok (u.publish t) ∧
      declareAll t.token d.operators (u.publish t) = (.ok (), v) := by
  rcases d.build_cases u with ⟨-, e, same⟩ | ⟨s, outcome, w, described, registered, all, same⟩
  · rw [same] at h
    cases h
  · rw [same] at h
    cases outcome <;> cases h
    exact ⟨described, registered, all⟩

/-- A build that succeeds adds its type and its operators. -/
theorem gains_of_build (h : d.build u = (.ok t, v)) : u.Gains t d.operators v := by
  obtain ⟨-, registered, all⟩ := descriptor_of_build h
  obtain ⟨-, fresh, -⟩ := register_eq_ok registered
  obtain ⟨generation, declared, operators, asked, own⟩ := declareAll_eq_ok all
  have same : (u.publish t).SameTables v := by
    have same := declareAll_sameTables t.token d.operators (u.publish t)
    rwa [all] at same
  have found : v.find? t.token = some t := by
    rw [find?_congr same.types, find?_publish, if_pos rfl]
  constructor
  case absent => exact fresh
  case find? => exact found
  case findByName? =>
    have token : v.tokenOfName? t.fullName = some t.token := by
      rw [tokenOfName?, same.names]
      exact (tokenOfName?_publish ..).trans (if_pos rfl)
    rw [findByName?, token]
    exact found
  case size => exact length_add same.types fresh
  case operatorsDeclaredBy =>
    have kept : declared.filter (fun o => o.declaring == t.token) = declared := by
      simpa [List.filter_eq_self] using own
    rw [Universe.operatorsDeclaredBy, operators, List.filter_append, kept, List.map_append, asked]
    rfl
  case operatorGeneration => exact generation

/-- A type is refused if its name is taken. -/
theorem build_of_taken (described : d.descriptor = .ok t)
    (taken : (u.tokenOfName? t.fullName).isSome = true) : ∃ e, d.build u = (.error e, u) := by
  rcases d.build_cases u with ⟨-, refused⟩ | ⟨s, -, -, described', registered, -⟩
  · exact refused
  · obtain rfl := Except.ok.inj (described.symm.trans described')
    obtain ⟨-, -, free, -⟩ := register_eq_ok registered
    rw [free] at taken
    cases taken

/-! ## Builds that fail -/

/-- A build that is refused at once changes nothing. -/
theorem RefusedAtOnce.eq (refused : d.RefusedAtOnce u) (h : d.build u = (.error e, v)) : v = u := by
  rcases d.build_cases u with ⟨-, e', same⟩ | ⟨t, -, -, described, registered, -⟩
  · exact (Prod.mk.inj (same.symm.trans h)).2.symm
  · obtain ⟨e', rejected⟩ := refused t described
    rw [rejected] at registered
    cases registered

/-- A build that fails later does what the build with the operators before the refused one does. -/
theorem exists_refused_of_build (h : d.build u = (.error e, v)) (later : ¬d.RefusedAtOnce u) :
    ∃ t accepted refused rest, d.operators = accepted ++ refused :: rest ∧
      { d with operators := accepted }.build u = (.ok t, v) ∧
      v.declareOperator t.token refused.input refused.output refused.isImplicit refused.procedure
        = .error e := by
  rcases d.build_cases u with ⟨refused, -⟩ | ⟨t, outcome, w, described, registered, all, same⟩
  · exact absurd refused later
  · rw [same] at h
    cases outcome <;> cases h
    obtain ⟨accepted, refused, rest, split, before, rejected⟩ := exists_refused all
    refine ⟨t, accepted, refused, rest, split, ?_, rejected⟩
    -- The operators of a declaration do not show in its descriptor.
    have described : { d with operators := accepted }.descriptor = .ok t := described
    simp only [build, described, registered, before]
    rfl

/-- **A failing build leaves nothing behind exactly if no operator is refused.** If its calls or its
type are refused, the universe is as before. If an operator is refused, the type stays with the
operators before it, and no declaration of that name is built ever after. -/
theorem answersAlike_iff_of_build_error (h : d.build u = (.error e, v)) :
    (u.AnswersAlike v ↔ d.RefusedAtOnce u) ∧ (d.RefusedAtOnce u → v = u) ∧
      (¬d.RefusedAtOnce u → ∃ t accepted refused rest,
        d.operators = accepted ++ refused :: rest ∧
        { d with operators := accepted }.build u = (.ok t, v) ∧
        v.declareOperator t.token refused.input refused.output refused.isImplicit refused.procedure
          = .error e ∧
        u.Gains t accepted v ∧
        ∀ w, ReflTransGen Operation v w → ∀ (d' : Declaration) (t' : TypeDescriptor),
          d'.descriptor = .ok t' → t'.fullName = t.fullName →
            ∃ e', d'.build w = (.error e', w)) := by
  refine ⟨⟨fun alike => ?_, fun refused => ?_⟩, fun refused => refused.eq h, fun later => ?_⟩
  · by_contra later
    obtain ⟨t, accepted, -, -, -, built, -⟩ := exists_refused_of_build h later
    exact (gains_of_build built).not_answersAlike alike
  · rw [refused.eq h]
    exact .refl u
  · obtain ⟨t, accepted, refused, rest, split, built, rejected⟩ := exists_refused_of_build h later
    have gains := gains_of_build built
    refine ⟨t, accepted, refused, rest, split, built, rejected, gains,
      fun w run d' t' h' same => ?_⟩
    refine build_of_taken h' (names_of_run run ?_)
    rw [same]
    have named := gains.findByName?
    rw [findByName?] at named
    cases taken : v.tokenOfName? t.fullName with
    | none => simp [taken] at named
    | some k => rfl

/-- A coin is declared with an operator to numbers, and with one between numbers that it cannot
declare. -/
def misprintedCoin : Declaration :=
  let coin := (start initial).1.asValueType "Shop" "Coin"
  (coin.withOperator ⟨coin.token, (NumericKind.integer .int32).token, true, .ok⟩).withOperator
    ⟨(NumericKind.integer .int32).token, (NumericKind.integer .int64).token, true, .ok⟩

/-- A coin without operators, under the token after that. -/
def correctedCoin : Declaration := (start initial.allocate.2).1.asValueType "Shop" "Coin"

/-- The universe in which both declarations of a coin were begun. -/
abbrev coinsBegun : Universe := (start (start initial).2).2

theorem built_coinsBegun : coinsBegun.Built := by
  refine .step (.step .initial .allocate ?_) .allocate ?_ <;> constructor <;> decide

theorem misprintedCoin_described : misprintedCoin.Described misprintedCoin.token :=
  .withOperator _ (.withOperator _ (.asValueType _ _ .start))

/-- The first coin is refused for its second operator, and then the second coin for its name. -/
theorem exists_build_misprintedCoin : ∃ (e : Error) (v : Universe),
    misprintedCoin.build coinsBegun = (.error e, v) ∧ ¬misprintedCoin.RefusedAtOnce coinsBegun ∧
      correctedCoin.build v = (.error (.typeInsert "Shop.Coin"), v) := by
  obtain ⟨e, v, failed⟩ : ∃ e v, misprintedCoin.build coinsBegun = (.error e, v) := ⟨_, _, rfl⟩
  refine ⟨e, v, failed, fun refused => ?_, ?_⟩
  · obtain ⟨e, rejected⟩ := refused _ rfl
    cases rejected
  · cases failed
    rfl

/-- A failing build can leave its type behind, and then its correction fails although it would have
succeeded before. -/
theorem not_answersAlike_of_build_error :
    (¬∀ (u v : Universe) (d : Declaration) (e : Error), u.Built → u.Allocated d.token →
      d.Described d.token → d.build u = (.error e, v) → u.AnswersAlike v) ∧
    ¬∀ (u v : Universe) (d d' : Declaration) (e : Error), u.Built → u.Allocated d.token →
      d.Described d.token → d.build u = (.error e, v) → d'.token ≠ d.token →
      d'.identity = d.identity → (∃ t w, d'.build u = (.ok t, w)) →
      ∃ t w, d'.build v = (.ok t, w) := by
  obtain ⟨e, v, failed, later, taken⟩ := exists_build_misprintedCoin
  have allocated : coinsBegun.Allocated misprintedCoin.token :=
    ⟨initial.nextDeclared, by decide, by decide, rfl⟩
  refine ⟨fun alike => ?_, fun again => ?_⟩
  · have alike := alike _ v _ e built_coinsBegun allocated misprintedCoin_described failed
    obtain ⟨t, accepted, -, -, -, built, -⟩ := exists_refused_of_build failed later
    exact (gains_of_build built).not_answersAlike alike
  · obtain ⟨t, w, corrected⟩ := again _ v _ correctedCoin e built_coinsBegun allocated
      misprintedCoin_described failed (by decide) rfl ⟨_, _, rfl⟩
    rw [taken] at corrected
    cases corrected

/-- The coin that failed stays with one operator, and its name is taken. A coin that extends another
type is refused at once, and leaves nothing behind. -/
theorem answersAlike_iff_of_build_error_coin :
    (∃ (e : Error) (v : Universe) (t : TypeDescriptor),
      misprintedCoin.build coinsBegun = (.error e, v) ∧ ¬coinsBegun.AnswersAlike v ∧
      v.findByName? t.fullName = some t ∧ v.operatorGeneration = 1) ∧
    ∃ (e : Error) (v : Universe),
      (misprintedCoin.extending FrameworkType.object.token).build coinsBegun = (.error e, v) ∧
      coinsBegun.AnswersAlike v := by
  constructor
  · obtain ⟨e, v, failed, later, -⟩ := exists_build_misprintedCoin
    obtain ⟨alike, -, stays⟩ := answersAlike_iff_of_build_error failed
    obtain ⟨t, _, _, _, -, -, -, gains, -⟩ := stays later
    refine ⟨e, v, t, failed, mt alike.mp later, gains.findByName?, ?_⟩
    cases failed
    rfl
  · obtain ⟨e, v, failed⟩ : ∃ e v,
        (misprintedCoin.extending FrameworkType.object.token).build coinsBegun = (.error e, v) :=
      ⟨_, _, rfl⟩
    obtain ⟨alike, -⟩ := answersAlike_iff_of_build_error failed
    refine ⟨e, v, failed, alike.mpr fun t described => ?_⟩
    cases described

end Declaration

end TypeConversion
