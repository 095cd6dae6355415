import TypeConversion.Proofs.Standard.Growth
import TypeConversion.Proofs.UserDefined.Resolution
import TypeConversion.Proofs.Universe.Entries
import Mathlib.Data.List.Perm.Subperm

/-!
# The order in which operators are declared

The tokens of operators are given out in the order of their declaration. Apart from its token, what
is found for a request does not depend on that order.

* `Universe.Reorders u v`: the universes have the same types under the same tokens and, in any
  order, the same operators.
* `Resolution.Agrees`: two outcomes are the same up to the tokens of operators, and up to the order
  in which an ambiguous outcome lists them.
* `Reorders.exists_applies`, `Reorders.isInputChoice` and `Reorders.isOutputChoice`: an operator
  that applies to a request in one universe has its like in the other, and the types chosen for the
  request are the same.
* `Reorders.agrees`: so the outcomes, which the choices determine, agree.
-/

namespace TypeConversion

open Universe

/-- What is declared of an operator: all but its token. -/
def Operator.unnumbered (o : Operator) : Operator := { o with token := ⟨0⟩ }

/-- The conversion without the token of its operator. -/
def UserDefinedConversion.unnumbered (c : UserDefinedConversion) : UserDefinedConversion :=
  { c with operator := c.operator.unnumbered }

/-- The candidate with another operator in place of its own. -/
def Candidate.renumber (c : Candidate) (o : Operator) : Candidate := { c with operator := o }

/-- The outcomes are the same up to the tokens of operators and to the order in which an ambiguous
outcome lists them. -/
inductive Resolution.Agrees : Resolution → Resolution → Prop
  | found {a b : UserDefinedConversion} (same : a.unnumbered = b.unnumbered) :
      Agrees (.found a) (.found b)
  | ambiguous {l l' : List Operator}
      (same : (l.map Operator.unnumbered).Perm (l'.map Operator.unnumbered)) :
      Agrees (.ambiguous l) (.ambiguous l')
  | notFound : Agrees .notFound .notFound

/-- The universes have the same types and, in any order, the same operators. -/
structure Universe.Reorders (u v : Universe) : Prop where
  types : ∀ k, v.find? k = u.find? k
  operators : (v.operators.map Operator.unnumbered).Perm (u.operators.map Operator.unnumbered)

variable {u v : Universe} {a b s t x : TypeDescriptor} {o p : Operator} {c d : Candidate}

theorem Operator.signature_eq (h : o.unnumbered = p.unnumbered) :
    o.declaring = p.declaring ∧ o.input = p.input ∧ o.output = p.output
      ∧ o.isImplicit = p.isImplicit := by
  obtain ⟨-, declaring, input, output, isImplicit, -⟩ := Operator.mk.inj h
  exact ⟨declaring, input, output, isImplicit⟩

/-- Only the token of an operator tells its conversion from that of its like. -/
theorem Candidate.conversion_renumber (same : p.unnumbered = c.operator.unnumbered) :
    (c.renumber p).conversion.unnumbered = c.conversion.unnumbered := by
  have implicit : (c.renumber p).isImplicit = c.isImplicit := by
    simp only [isImplicit, renumber, (Operator.signature_eq same).2.2.2]
  simp only [UserDefinedConversion.unnumbered, conversion, implicit]
  simp only [renumber, same]

namespace Universe

/-! ## Operators of one signature -/

/-- No type declares two operators for one pair of types. -/
def Single (u : Universe) : Prop :=
  ∀ o ∈ u.operators, ∀ p ∈ u.operators,
    o.declaring = p.declaring → o.input = p.input → o.output = p.output → o = p

theorem Single.change (hu : u.Single) (c : u.Change v) : v.Single := by
  cases c with
  | allocate | declare | construct => exact hu
  | @operate o _ _ admitted =>
    intro p hp q hq declaring input output
    rw [addOperator, List.mem_append, List.mem_singleton] at hp hq
    rcases hp with hp | rfl <;> rcases hq with hq | rfl
    · exact hu p hp q hq declaring input output
    · exact absurd ⟨declaring, input, output⟩ (admitted.single p hp)
    · exact absurd ⟨declaring.symm, input.symm, output.symm⟩ (admitted.single q hq)
    · rfl

theorem Single.changes (hu : u.Single) (c : Changes u v) : v.Single := by
  induction c with
  | refl => exact hu
  | tail _ c ih => exact ih.change c

theorem Built.single (h : u.Built) : u.Single := by
  induction h with
  | initial => exact fun o h => absurd h List.not_mem_nil
  | step built s _ ih => exact ih.changes (s.changes built.wellFormed)

/-- An operator of a built universe is known without its token. -/
theorem Built.unnumbered_inj (h : u.Built) (ho : o ∈ u.operators) (hp : p ∈ u.operators)
    (same : o.unnumbered = p.unnumbered) : o = p :=
  have ⟨declaring, input, output, _⟩ := Operator.signature_eq same
  h.single o ho p hp declaring input output

/-! ## Universes with the same types -/

namespace Reorders

theorem symm (h : u.Reorders v) : v.Reorders u := ⟨fun k => (h.types k).symm, h.operators.symm⟩

theorem mem_iff (h : u.Reorders v) : t ∈ v ↔ t ∈ u := by
  rw [Universe.mem_iff, Universe.mem_iff, h.types]

theorem exists_operator (h : u.Reorders v) (ho : o ∈ u.operators) :
    ∃ p ∈ v.operators, p.unnumbered = o.unnumbered :=
  List.mem_map.mp (h.operators.mem_iff.mpr (List.mem_map_of_mem ho))

theorem unwrapOptional_eq (h : u.Reorders v) (t : TypeDescriptor) :
    v.unwrapOptional t = u.unwrapOptional t := by
  have find : v.find? = u.find? := funext h.types
  rw [unwrapOptional, unwrapOptional, elementOf?, elementOf?, find]

theorem sees (h : u.Reorders v) (ho : u.Sees t o) (hp : p ∈ v.operators)
    (same : p.unnumbered = o.unnumbered) : v.Sees t p := by
  refine ⟨hp, ?_⟩
  rw [(Operator.signature_eq same).1]
  exact ho.2.imp_right fun ⟨b, derives, e⟩ => ⟨b, derives.mono fun _ => h.mem_iff.mpr, e⟩

/-- The types alone, without operators, grow into either universe. -/
theorem bare_extends (hu : u.Built) (hv : v.Built) (h : u.Reorders v) :
    Extends { u with operators := [] } v := by
  have subset : u.types ⊆ v.types := fun t listed =>
    (mem_types_iff hv.nodup).mpr (h.mem_iff.mpr ((mem_types_iff hu.nodup).mp listed))
  exact ⟨fun t ht => h.mem_iff.mpr ht,
    ((List.Nodup.of_map _ hu.nodup).subperm subset).length_le, List.nil_prefix⟩

/-- Standard conversions look at the types only. -/
theorem classifyStandard_eq (hu : u.Built) (hv : v.Built) (h : u.Reorders v) (ha : a ∈ u)
    (hb : b ∈ u) : classifyStandard v a b = classifyStandard u a b := by
  have bare : Layered { u with operators := [] } := hu.wellFormed.toLayered.congr rfl
  have self : u.Reorders u := ⟨fun _ => rfl, .refl _⟩
  rw [classifyStandard_extends bare (h.bare_extends hu hv) ha hb,
    classifyStandard_extends bare (self.bare_extends hu hu) ha hb]

theorem relate?_eq (hu : u.Built) (hv : v.Built) (h : u.Reorders v) (ha : a ∈ u) (hb : b ∈ u) :
    relate? v a b = relate? u a b := by
  rw [relate?, relate?, h.classifyStandard_eq hu hv ha hb]

theorem convertsTo_iff (hu : u.Built) (hv : v.Built) (h : u.Reorders v) (ha : a ∈ u) (hb : b ∈ u) :
    ConvertsTo v a b ↔ ConvertsTo u a b := by
  rw [ConvertsTo, ConvertsTo, h.classifyStandard_eq hu hv ha hb]

/-! ## Candidates -/

/-- The like of an operator that applies applies too. -/
theorem renumber_applies (hu : u.Built) (hv : v.Built) (h : u.Reorders v) (hs : s ∈ u) (ht : t ∈ u)
    (hc : c.Applies u s t) (hp : p ∈ v.operators) (same : p.unnumbered = c.operator.unnumbered) :
    (c.renumber p).Applies v s t := by
  have layered := hu.wellFormed.toLayered
  obtain ⟨-, fits⟩ := (Candidate.applies_iff hu hs ht).mp hc
  obtain ⟨-, input, output, -⟩ := Operator.signature_eq same
  have sees : ∀ {x}, u.Sees x c.operator → v.Sees x p := fun ho => h.sees ho hp same
  have relates : ∀ {a b r}, a ∈ u → b ∈ u → relate? u a b = some r → Relates v a b r := by
    intro a b r ha hb found
    rw [← h.relate?_eq hu hv ha hb] at found
    exact (relates_iff (h.mem_iff.mpr ha) (h.mem_iff.mpr hb)).mp found
  have toInput := relates (fits.source_mem layered hs) fits.input_mem fits.toInput
  have fromOutput := relates fits.output_mem (fits.target_mem layered ht) fits.fromOutput
  refine ⟨?_, ⟨h.mem_iff.mpr hc.input.1, hc.input.2.trans input.symm⟩,
    ⟨h.mem_iff.mpr hc.output.1, hc.output.2.trans output.symm⟩, hc.unwraps, hc.wraps, ?_, ?_,
    toInput, fromOutput⟩
  · rw [h.unwrapOptional_eq, h.unwrapOptional_eq]
    exact hc.declared.imp sees sees
  · rw [h.unwrapOptional_eq]
    exact hc.source
  · rw [h.unwrapOptional_eq]
    exact hc.target

/-- Every operator that applies has its like in the other universe. -/
theorem exists_applies (hu : u.Built) (hv : v.Built) (h : u.Reorders v) (hs : s ∈ u) (ht : t ∈ u)
    (hc : c.Applies u s t) : ∃ p ∈ v.operators, p.unnumbered = c.operator.unnumbered ∧
      (c.renumber p).Applies v s t := by
  obtain ⟨p, hp, same⟩ := h.exists_operator hc.operator_mem
  exact ⟨p, hp, same, h.renumber_applies hu hv hs ht hc hp same⟩

end Reorders

end Universe

/-! ## Choices -/

theorem IsFirst.congr {before before' : TypeDescriptor → TypeDescriptor → Prop}
    {q q' : TypeDescriptor → Prop} (same : ∀ y, q y ↔ q' y)
    (order : ∀ y z, q y → q z → (before y z ↔ before' y z)) (h : IsFirst before q x) :
    IsFirst before' q' x := by
  refine (Resolution.isOnly_congr fun y => ?_).mp h
  rw [← same]
  refine and_congr_right fun hy => forall_congr' fun z => ?_
  rw [← same]
  exact forall_congr' fun hz => order y z hy hz

section Choice

variable {applies applies' : Candidate → Prop} {closeness : Candidate → Closeness}
  {lifted : Candidate → Bool} {type : Candidate → TypeDescriptor}
  {request content : TypeDescriptor} {before before' : TypeDescriptor → TypeDescriptor → Prop}

/-- What counts of a candidate for the choice of one side. -/
def Candidate.Alike (closeness : Candidate → Closeness) (lifted : Candidate → Bool)
    (type : Candidate → TypeDescriptor) (c d : Candidate) : Prop :=
  closeness d = closeness c ∧ lifted d = lifted c ∧ type d = type c

/-- Candidates that are alike have the same type chosen. -/
theorem IsChoice.congr
    (forth : ∀ c, applies c → ∃ d, applies' d ∧ Candidate.Alike closeness lifted type c d)
    (back : ∀ d, applies' d → ∃ c, applies c ∧ Candidate.Alike closeness lifted type d c)
    (order : ∀ c d, applies c → applies d →
      (before (type c) (type d) ↔ before' (type c) (type d)))
    (h : IsChoice applies closeness lifted type request content before x) :
    IsChoice applies' closeness lifted type request content before' x := by
  have none : ∀ k, (∀ c, applies c → closeness c ≠ k) → ∀ d, applies' d → closeness d ≠ k := by
    intro k none d hd
    obtain ⟨c, hc, near, -⟩ := back d hd
    exact near ▸ none c hc
  cases h with
  | exact hc near plain same =>
    obtain ⟨d, hd, near', plain', -⟩ := forth _ hc
    exact .exact hd (near'.trans near) (plain'.trans plain) same
  | lifted hc near all same =>
    obtain ⟨d, hd, near', -⟩ := forth _ hc
    refine .lifted hd (near'.trans near) (fun e he nearE => ?_) same
    obtain ⟨c, hc, near, lift, -⟩ := back e he
    exact lift ▸ all c hc (near.trans nearE)
  | implicit hc near noExact first =>
    obtain ⟨d, hd, near', -⟩ := forth _ hc
    refine .implicit hd (near'.trans near) (none _ noExact) (first.congr (fun y => ?_) ?_)
    · constructor
      · rintro ⟨c, hc, near, rfl⟩
        obtain ⟨d, hd, near', -, type⟩ := forth c hc
        exact ⟨d, hd, near'.trans near, type⟩
      · rintro ⟨d, hd, near, rfl⟩
        obtain ⟨c, hc, near', -, type⟩ := back d hd
        exact ⟨c, hc, near'.trans near, type⟩
    · rintro y z ⟨c, hc, -, rfl⟩ ⟨d, hd, -, rfl⟩
      exact order c d hc hd
  | explicit all last =>
    refine .explicit (fun d hd => ?_) (last.congr (fun y => ?_) ?_)
    · obtain ⟨c, hc, near, -⟩ := back d hd
      exact near ▸ all c hc
    · constructor
      · rintro ⟨c, hc, rfl⟩
        obtain ⟨d, hd, -, -, type⟩ := forth c hc
        exact ⟨d, hd, type⟩
      · rintro ⟨d, hd, rfl⟩
        obtain ⟨c, hc, -, -, type⟩ := back d hd
        exact ⟨c, hc, type⟩
    · rintro y z ⟨c, hc, rfl⟩ ⟨d, hd, rfl⟩
      exact order d c hd hc

end Choice

namespace Universe.Reorders

variable (hu : u.Built) (hv : v.Built) (h : u.Reorders v) (hs : s ∈ u) (ht : t ∈ u)

include hu hv h hs ht

/-- The type chosen for one side is the same, since the choice does not look at operators. -/
theorem isChoice {closeness : Candidate → Closeness} {lifted : Candidate → Bool}
    {type : Candidate → TypeDescriptor} {request content : TypeDescriptor}
    {before before' : TypeDescriptor → TypeDescriptor → Prop}
    (alike : ∀ c p, Candidate.Alike closeness lifted type c (c.renumber p))
    (order : ∀ c d : Candidate, c.Applies u s t → d.Applies u s t →
      (before (type c) (type d) ↔ before' (type c) (type d)))
    (choice : IsChoice (Candidate.Applies u s t) closeness lifted type request content before x) :
    IsChoice (Candidate.Applies v s t) closeness lifted type request content before' x := by
  refine choice.congr (fun c hc => ?_) (fun d hd => ?_) order
  · obtain ⟨p, -, -, hp⟩ := h.exists_applies hu hv hs ht hc
    exact ⟨_, hp, alike c p⟩
  · obtain ⟨p, -, -, hp⟩ :=
      h.symm.exists_applies hv hu (h.mem_iff.mpr hs) (h.mem_iff.mpr ht) hd
    exact ⟨_, hp, alike d p⟩

theorem isInputChoice (choice : IsInputChoice u s t x) : IsInputChoice v s t x := by
  rw [IsInputChoice, h.unwrapOptional_eq]
  exact h.isChoice hu hv hs ht (fun _ _ => ⟨rfl, rfl, rfl⟩)
    (fun c d hc hd => (h.convertsTo_iff hu hv hc.input.1 hd.input.1).symm) choice

theorem isOutputChoice (choice : IsOutputChoice u s t x) : IsOutputChoice v s t x := by
  rw [IsOutputChoice, h.unwrapOptional_eq]
  exact h.isChoice hu hv hs ht (fun _ _ => ⟨rfl, rfl, rfl⟩)
    (fun c d hc hd => (h.convertsTo_iff hu hv hd.output.1 hc.output.1).symm) choice

/-- The like of an operator with the chosen types has the chosen types. -/
theorem exists_hasChosenTypes (hc : HasChosenTypes u s t c) :
    ∃ p ∈ v.operators, p.unnumbered = c.operator.unnumbered ∧
      HasChosenTypes v s t (c.renumber p) := by
  obtain ⟨p, hp, same, applies⟩ := h.exists_applies hu hv hs ht hc.1
  exact ⟨p, hp, same, applies, h.isInputChoice hu hv hs ht hc.2.1,
    h.isOutputChoice hu hv hs ht hc.2.2⟩

/-- The like of the only operator with the chosen types is the only one. -/
theorem exists_isOnly (only : IsOnly (HasChosenTypes u s t) c) :
    ∃ p, p.unnumbered = c.operator.unnumbered ∧
      IsOnly (HasChosenTypes v s t) (c.renumber p) := by
  obtain ⟨p, hp, same, chosen⟩ := h.exists_hasChosenTypes hu hv hs ht only.1
  refine ⟨p, same, chosen, fun d hd => ?_⟩
  obtain ⟨o, -, same', back⟩ :=
    h.symm.exists_hasChosenTypes hv hu (h.mem_iff.mpr hs) (h.mem_iff.mpr ht) hd
  have alike : d.renumber o = c := only.2 _ back
  have operator : d.operator = p := by
    refine hv.unnumbered_inj hd.1.operator_mem hp ?_
    rw [same, ← same', ← alike]
    rfl
  exact hd.1.eq_of_operator_eq chosen.1 operator

/-- What an ambiguous outcome lists has its like in the other outcome. -/
theorem exists_listed {l l' : List Operator} (meets : Resolution.Meets u s t (.ambiguous l))
    (meets' : Resolution.Meets v s t (.ambiguous l')) (ho : o ∈ l) :
    ∃ p ∈ l', p.unnumbered = o.unnumbered := by
  obtain ⟨c, rfl, chosen | ⟨applies, none⟩⟩ := (meets.2.2.2 o).mp ho
  · obtain ⟨p, -, same, chosen⟩ := h.exists_hasChosenTypes hu hv hs ht chosen
    exact ⟨p, (meets'.2.2.2 p).mpr ⟨_, rfl, .inl chosen⟩, same⟩
  · obtain ⟨p, -, same, applies⟩ := h.exists_applies hu hv hs ht applies
    refine ⟨p, (meets'.2.2.2 p).mpr ⟨_, rfl, .inr ⟨applies, fun d hd => ?_⟩⟩, same⟩
    obtain ⟨_, -, -, chosen⟩ :=
      h.symm.exists_hasChosenTypes hv hu (h.mem_iff.mpr hs) (h.mem_iff.mpr ht) hd
    exact none _ chosen

end Universe.Reorders

namespace Resolution

/-- What an ambiguous outcome lists is declared in the universe. -/
theorem Meets.nodup_unnumbered (hu : u.Built) {l : List Operator}
    (meets : Meets u s t (.ambiguous l)) : (l.map Operator.unnumbered).Nodup := by
  have declared : ∀ o ∈ l, o ∈ u.operators := by
    intro o ho
    obtain ⟨c, rfl, chosen | ⟨applies, -⟩⟩ := (meets.2.2.2 o).mp ho
    · exact chosen.1.operator_mem
    · exact applies.operator_mem
  exact meets.2.2.1.map_on fun o ho p hp => hu.unnumbered_inj (declared o ho) (declared p hp)

end Resolution

/-- **The outcome of a request does not depend on the order of declaration.** -/
theorem Universe.Reorders.agrees (hu : u.Built) (hv : v.Built) (h : u.Reorders v) (hs : s ∈ u)
    (ht : t ∈ u) : (u.resolveUserDefined s t).Agrees (v.resolveUserDefined s t) := by
  have hs' := h.mem_iff.mpr hs
  have ht' := h.mem_iff.mpr ht
  have meets := meets_resolveUserDefined hu hs ht
  have meets' := meets_resolveUserDefined hv hs' ht'
  cases found : u.resolveUserDefined s t with
  | notFound =>
    rw [found] at meets
    have none : v.resolveUserDefined s t = .notFound := by
      refine meets'.notFound_iff.mpr fun d hd => ?_
      obtain ⟨_, -, -, applies⟩ := h.symm.exists_applies hv hu hs' ht' hd
      exact meets _ applies
    rw [none]
    exact .notFound
  | found conversion =>
    rw [found] at meets
    obtain ⟨c, only, rfl⟩ := meets
    obtain ⟨p, same, only'⟩ := h.exists_isOnly hu hv hs ht only
    rw [meets'.found_iff.mpr ⟨_, only', rfl⟩]
    exact .found (Candidate.conversion_renumber same).symm
  | ambiguous l =>
    rw [found] at meets
    cases found' : v.resolveUserDefined s t with
    | notFound =>
      rw [found'] at meets'
      obtain ⟨⟨c, hc⟩, -⟩ := meets
      obtain ⟨_, -, -, applies⟩ := h.exists_applies hu hv hs ht hc
      exact absurd applies (meets' _)
    | found conversion =>
      rw [found'] at meets'
      obtain ⟨d, only, -⟩ := meets'
      obtain ⟨_, -, only⟩ := h.symm.exists_isOnly hv hu hs' ht' only
      exact absurd ⟨_, only⟩ meets.2.1
    | ambiguous l' =>
      rw [found'] at meets'
      refine .ambiguous ((List.perm_ext_iff_of_nodup (meets.nodup_unnumbered hu)
        (meets'.nodup_unnumbered hv)).mpr fun o => ?_)
      rw [List.mem_map, List.mem_map]
      constructor
      · rintro ⟨o, ho, rfl⟩
        exact h.exists_listed hu hv hs ht meets meets' ho
      · rintro ⟨p, hp, rfl⟩
        exact h.symm.exists_listed hv hu hs' ht' meets' meets hp

end TypeConversion
