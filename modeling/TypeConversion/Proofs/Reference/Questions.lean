import TypeConversion.Proofs.Reference.Implicit
import Mathlib.Logic.Relation
import Mathlib.Order.WellFounded

/-!
# The questions of the reference rules

The rules of reference conversion are mutually recursive: whether one type converts to another leads
to whether an interface of it does, whether instances vary, whether a list takes an element, and so
to conversions of other types, where a contravariant parameter swaps the two sides.

* `Question.Asks u q r`: to answer `q`, the rules may have to answer `r`. The questions of every
  call of a rule are there: `answer_congr` says that an answer depends on nothing else.
* `exists_isWeight`: what a question goes on to is made of parts, and parts weigh less than the
  whole, whichever side they are on. `Question.measure_lt` is the step that this gives,
  `length_le_measure` the run.
* `Question.terminates`: no chain of questions goes on, and the relations are the only ones that
  answer all questions by the rules.
-/

namespace TypeConversion.Reference

open Universe

/-! ## Questions -/

/-- Whether conversions are asked for that need no test, or those that need one. -/
inductive Direction
  | implicit
  | explicit

/-- What a rule can be asked. -/
inductive Question
  /-- Whether a reference of one type converts to the other. -/
  | converts (direction : Direction) (source target : TypeDescriptor)
  /-- Whether a type has an interface that is the target or converts to it. -/
  | implements (type target : TypeDescriptor)
  /-- Whether an instance converts to another of its definition. -/
  | varies (direction : Direction) (source target : TypeDescriptor)
  /-- Whether an array of the element converts to the list interface. -/
  | accepts (direction : Direction) (element list : TypeDescriptor)

/-- Instances of one definition have these arguments for the parameter. -/
inductive Paired (u : Universe) (s t : TypeDescriptor) (p : GenericParameter)
    (a b : TypeDescriptor) : Prop
  | intro {k : Token} {d : TypeDescriptor} (n : Nat) (source : s.genericDefinition = some k)
      (target : t.genericDefinition = some k) (definition : u.find? k = some d)
      (parameter : d.genericParameters[n]? = some p)
      (first : (u.genericArgumentsOf s)[n]? = some a)
      (second : (u.genericArgumentsOf t)[n]? = some b)

namespace Question

/-- One question leads to another. -/
inductive Asks (u : Universe) : Question → Question → Prop
  | implicitFirst {s t} : Asks u (.converts .explicit s t) (.converts .implicit s t)
  | elements {d s t a b} (h : parallelElements? u s t = some (a, b)) :
      Asks u (.converts d s t) (.converts d a b)
  | varies {d s t} : Asks u (.converts d s t) (.varies d s t)
  | implements {s t} : Asks u (.converts .implicit s t) (.implements s t)
  | listOfSource {d s t e} (h : lineElement? u s = some e) :
      Asks u (.converts d s t) (.accepts d e t)
  | listOfTarget {s t e} (h : lineElement? u t = some e) :
      Asks u (.converts .explicit s t) (.accepts .explicit e s)
  | candidate {s t i} (h : i ∈ u.interfacesOf s) :
      Asks u (.implements s t) (.varies .implicit i t)
  | covariant {d s t p a b} (h : Paired u s t p a b) (variance : p.variance = .covariant) :
      Asks u (.varies d s t) (.converts .implicit a b)
  | covariantTested {s t p a b} (h : Paired u s t p a b) (variance : p.variance = .covariant) :
      Asks u (.varies .explicit s t) (.converts .explicit a b)
  | contravariant {s t p a b} (h : Paired u s t p a b) (variance : p.variance = .contravariant) :
      Asks u (.varies .implicit s t) (.converts .implicit b a)
  | argument {d e t a} (h : listArgument? u t = some a) :
      Asks u (.accepts d e t) (.converts .implicit e a)
  | argumentTested {e t a} (h : listArgument? u t = some a) :
      Asks u (.accepts .explicit e t) (.converts .explicit e a)
  | argumentSwapped {e t a} (h : listArgument? u t = some a) :
      Asks u (.accepts .explicit e t) (.converts .implicit a e)

end Question

/-! ## Answers -/

/-- Which conversions there are, of either direction. -/
abbrev Answers := Direction → Relation

/-- The conversions of two relations. -/
def Answers.of (implicit explicit : Relation) : Answers
  | .implicit => implicit
  | .explicit => explicit

/-- The conversions that references have. -/
def references (u : Universe) : Answers :=
  .of (isImplicitReference u) (isExplicitReference u)

/-- The answer to a question by its rule, from the conversions between smaller types. -/
def answer (u : Universe) (r : Answers) : Question → Bool
  | .converts .implicit s t => implicitRule u (r .implicit) s t
  | .converts .explicit s t => explicitRule u (r .implicit) (r .explicit) s t
  | .implements t target => Reference.implementsVariant u (r .implicit) t target
  | .varies .implicit s t => convertsImplicitlyByVariance u (r .implicit) s t
  | .varies .explicit s t => convertsExplicitlyByVariance u (r .implicit) (r .explicit) s t
  | .accepts .implicit e list => listAccepts u (r .implicit) e list
  | .accepts .explicit e list =>
    listAccepts u (fun a b => r .implicit a b || r .explicit a b || r .implicit b a) e list

/-- Two choices of conversions agree on all that a question comes to ask for. -/
def AgreeFor (u : Universe) (q : Question) (r' r : Answers) : Prop :=
  ∀ d a b, Relation.TransGen (Question.Asks u) q (.converts d a b) → r' d a b = r d a b

variable {u : Universe} {s t a b e i : TypeDescriptor}

section Congruence

variable {q q' : Question} {r r' : Answers}

theorem AgreeFor.of_asks (h : AgreeFor u q r' r) (asks : Question.Asks u q q') :
    AgreeFor u q' r' r :=
  fun d a b further => h d a b (.head asks further)

theorem AgreeFor.eq {d : Direction} (h : AgreeFor u q r' r)
    (asks : Question.Asks u q (.converts d a b)) : r' d a b = r d a b :=
  h d a b (.single asks)

theorem convertsByVariance_of_paired {direct direct' reversed reversed' : Relation}
    (h : ∀ p a b, Paired u s t p a b →
      argumentConverts direct' reversed' p a b = argumentConverts direct reversed p a b) :
    convertsByVariance u direct' reversed' s t = convertsByVariance u direct reversed s t := by
  unfold convertsByVariance
  cases source : s.genericDefinition with
  | none => rfl
  | some k =>
    cases target : t.genericDefinition with
    | none => rfl
    | some j =>
      dsimp only
      split
      · rfl
      · rename_i guard
        obtain ⟨rfl, -⟩ : k = j ∧ s.kind.admitsVariance = true := by simpa [not_or] using guard
        cases definition : u.find? k with
        | none => rfl
        | some d =>
          dsimp only
          congr 1
          rw [Bool.eq_iff_iff, argumentsConvert_iff, argumentsConvert_iff]
          refine forall_congr' fun n => forall_congr' fun p => forall_congr' fun a =>
            forall_congr' fun b => forall_congr' fun hp => forall_congr' fun ha =>
              forall_congr' fun hb => ?_
          rw [h p a b (.intro n source target definition hp ha hb)]

theorem answer_varies_congr {d : Direction} (h : AgreeFor u (.varies d s t) r' r) :
    answer u r' (.varies d s t) = answer u r (.varies d s t) := by
  cases d with
  | implicit =>
    refine convertsByVariance_of_paired fun p a b paired => ?_
    unfold argumentConverts
    cases variance : p.variance with
    | invariant => rfl
    | covariant => simp only [h.eq (.covariant paired variance)]
    | contravariant => simp only [h.eq (.contravariant paired variance)]
  | explicit =>
    refine convertsByVariance_of_paired fun p a b paired => ?_
    unfold argumentConverts
    cases variance : p.variance with
    | invariant => rfl
    | covariant =>
      simp only [h.eq (.covariant paired variance), h.eq (.covariantTested paired variance)]
    | contravariant => rfl

theorem answer_implements_congr (h : AgreeFor u (.implements s t) r' r) :
    answer u r' (.implements s t) = answer u r (.implements s t) := by
  simp only [answer, Reference.implementsVariant]
  congr 1
  rw [Bool.eq_iff_iff, List.any_eq_true, List.any_eq_true]
  refine exists_congr fun i => and_congr_right fun hi => ?_
  have varies := answer_varies_congr (h.of_asks (.candidate hi))
  simp only [answer] at varies
  rw [varies]

theorem answer_accepts_congr {d : Direction} (h : AgreeFor u (.accepts d e t) r' r) :
    answer u r' (.accepts d e t) = answer u r (.accepts d e t) := by
  cases d with
  | implicit =>
    simp only [answer, listAccepts]
    cases argument : listArgument? u t with
    | none => rfl
    | some a => simp only [h.eq (.argument argument)]
  | explicit =>
    simp only [answer, listAccepts]
    cases argument : listArgument? u t with
    | none => rfl
    | some a =>
      simp only [h.eq (.argument argument), h.eq (.argumentTested argument),
        h.eq (.argumentSwapped argument)]

theorem listAcceptsExplicitly_of_agreeFor
    (h : ∀ e, lineElement? u s = some e → AgreeFor u (.accepts .explicit e t) r' r) :
    listAcceptsExplicitly u (r' .implicit) (r' .explicit) s t
      = listAcceptsExplicitly u (r .implicit) (r .explicit) s t := by
  unfold listAcceptsExplicitly
  cases element : lineElement? u s with
  | none => rfl
  | some e => exact answer_accepts_congr (h e element)

theorem answer_implicit_congr (h : AgreeFor u (.converts .implicit s t) r' r) :
    answer u r' (.converts .implicit s t) = answer u r (.converts .implicit s t) := by
  have varies := answer_varies_congr (h.of_asks .varies)
  have implements := answer_implements_congr (h.of_asks .implements)
  simp only [answer] at varies implements ⊢
  unfold implicitRule
  rw [varies, implements]
  refine if_congr .rfl rfl (if_congr .rfl rfl (if_congr .rfl ?line (if_congr .rfl rfl
    (if_congr .rfl ?parallel rfl))))
  case line =>
    congr 1
    cases element : lineElement? u s with
    | none => rfl
    | some e => exact answer_accepts_congr (h.of_asks (.listOfSource element))
  case parallel =>
    cases elements : parallelElements? u s t with
    | none => rfl
    | some pair => exact h.eq (.elements elements)

theorem answer_explicit_congr (h : AgreeFor u (.converts .explicit s t) r' r) :
    answer u r' (.converts .explicit s t) = answer u r (.converts .explicit s t) := by
  have varies := answer_varies_congr (h.of_asks .varies)
  have ofSource := listAcceptsExplicitly_of_agreeFor fun e he => h.of_asks (.listOfSource he)
  have ofTarget := listAcceptsExplicitly_of_agreeFor fun e he => h.of_asks (.listOfTarget he)
  simp only [answer] at varies ⊢
  unfold explicitRule
  rw [varies, ofSource, ofTarget, h.eq .implicitFirst]
  refine if_congr .rfl rfl (if_congr .rfl rfl ?_)
  cases s.isInterface <;> cases t.isInterface
  · refine if_congr .rfl rfl (if_congr .rfl ?_ rfl)
    cases elements : parallelElements? u s t with
    | none => rfl
    | some pair => exact h.eq (.elements elements)
  all_goals rfl

/-- **A question is answered from the conversions that it comes to ask for**, and from no other. -/
theorem answer_congr (h : AgreeFor u q r' r) : answer u r' q = answer u r q := by
  cases q with
  | converts d s t =>
    cases d with
    | implicit => exact answer_implicit_congr h
    | explicit => exact answer_explicit_congr h
  | implements s t => exact answer_implements_congr h
  | varies d s t => exact answer_varies_congr h
  | accepts d e list => exact answer_accepts_congr h

end Congruence

/-! ## Weights -/

/-- What the rules take a type apart into. -/
inductive Part (u : Universe) (t : TypeDescriptor) : TypeDescriptor → Prop
  | element {e : TypeDescriptor} (h : u.elementOf? t = some e) : Part u t e
  | argument {a : TypeDescriptor} (h : a ∈ u.genericArgumentsOf t) : Part u t a
  | interface {i : TypeDescriptor} (h : i ∈ u.interfacesOf t) : Part u t i

theorem Part.mem (h : Part u t a) : a ∈ u := by
  cases h with
  | element h => exact (elementOf?_eq_some.mp h).1
  | argument h => exact (mem_genericArgumentsOf h).1
  | interface h => exact mem_of_mem_interfacesOf h

theorem Part.of_listArgument? (h : listArgument? u t = some a) : Part u t a := by
  rw [listArgument?] at h
  split at h
  · split at h
    · obtain ⟨k, hk, found⟩ := Option.bind_eq_some_iff.mp h
      exact .argument (List.mem_filterMap.mpr ⟨k, List.mem_of_head? hk, found⟩)
    · cases h
  · cases h

/-- Weights of types, by which parts weigh less than the whole. -/
structure IsWeight (u : Universe) (weight : TypeDescriptor → Nat) : Prop where
  bounded : ∀ t, weight t ≤ u.types.length
  falls : ∀ t a, Part u t a → weight a < weight t

/-- A type of the universe weighs what its rank is, and any other more than all of these. -/
theorem exists_isWeight (hu : u.Layered) : ∃ weight, IsWeight u weight := by
  obtain ⟨rank, hr⟩ := hu.ranked
  refine ⟨fun t => if t ∈ u then rank t.token else u.types.length, fun t => ?_, fun t a part => ?_⟩
  · split
    · exact (hr.below t ‹_›).le
    · exact le_rfl
  · have ha := part.mem
    rw [if_pos ha]
    split
    · rename_i ht
      cases part with
      | element h => exact rank_elementOf?_lt hr ht h
      | argument h => exact rank_genericArgument_lt hr ht h
      | interface h => exact rank_lt_of_mem_interfacesOf hu hr ht h
    · exact hr.below a ha

theorem Paired.parts {p : GenericParameter} (h : Paired u s t p a b) : Part u s a ∧ Part u t b := by
  obtain ⟨n, -, -, -, -, first, second⟩ := h
  exact ⟨.argument (List.mem_of_getElem? first), .argument (List.mem_of_getElem? second)⟩

namespace Question

/-- The weights of both sides together. -/
def weigh (weight : TypeDescriptor → Nat) : Question → Nat
  | .converts _ s t | .implements s t | .varies _ s t | .accepts _ s t => weight s + weight t

/-- The order in which questions about the same types lead to each other. -/
def order : Question → Nat
  | .converts .explicit _ _ => 3
  | .converts .implicit _ _ => 2
  | .implements _ _ => 1
  | .varies _ _ _ | .accepts _ _ _ => 0

/-- The measure of a question: its weight first, its order second. -/
def measure (weight : TypeDescriptor → Nat) (q : Question) : Nat := 4 * q.weigh weight + q.order

variable {weight : TypeDescriptor → Nat} {q q' : Question} {qs : List Question}

theorem order_lt (q : Question) : q.order < 4 := by
  rcases q with ⟨_ | _, -, -⟩ | _ | _ | _ <;> simp [order]

theorem weigh_le (hw : IsWeight u weight) (q : Question) :
    q.weigh weight ≤ 2 * u.types.length := by
  have sides (s t : TypeDescriptor) : weight s + weight t ≤ 2 * u.types.length := by
    have hs := hw.bounded s
    have ht := hw.bounded t
    omega
  cases q <;> exact sides _ _

/-- **A question leads to questions about parts**, or else to a later one about the same types.
Where the two sides are swapped, they still weigh less together. -/
theorem Asks.falls (hw : IsWeight u weight) (h : Asks u q q') :
    q'.weigh weight < q.weigh weight ∨
      q'.weigh weight = q.weigh weight ∧ q'.order < q.order := by
  have left {s t a : TypeDescriptor} (part : Part u s a) :
      weight a + weight t < weight s + weight t := Nat.add_lt_add_right (hw.falls s a part) _
  have right {s t a : TypeDescriptor} (part : Part u t a) :
      weight s + weight a < weight s + weight t := Nat.add_lt_add_left (hw.falls t a part) _
  have both {s t p a b} (h : Paired u s t p a b) : weight a + weight b < weight s + weight t :=
    Nat.add_lt_add (hw.falls s a h.parts.1) (hw.falls t b h.parts.2)
  cases h with
  | implicitFirst => exact .inr ⟨rfl, by simp [order]⟩
  | implements => exact .inr ⟨rfl, by simp [order]⟩
  | @varies d => exact .inr ⟨rfl, by cases d <;> simp [order]⟩
  | elements h =>
    obtain ⟨-, ha, hb⟩ := parallelElements?_eq_some.mp h
    exact .inl ((left (.element ha)).trans (right (.element hb)))
  | listOfSource h => exact .inl (left (.element (lineElement?_eq_some.mp h).2))
  | @listOfTarget s t e h =>
    refine .inl ?_
    change weight e + weight s < weight s + weight t
    rw [Nat.add_comm]
    exact right (.element (lineElement?_eq_some.mp h).2)
  | candidate h => exact .inl (left (.interface h))
  | covariant h => exact .inl (both h)
  | covariantTested h => exact .inl (both h)
  | @contravariant s t p a b h =>
    refine .inl ?_
    change weight b + weight a < weight s + weight t
    rw [Nat.add_comm]
    exact both h
  | argument h => exact .inl (right (.of_listArgument? h))
  | argumentTested h => exact .inl (right (.of_listArgument? h))
  | @argumentSwapped e t a h =>
    refine .inl ?_
    change weight a + weight e < weight e + weight t
    rw [Nat.add_comm]
    exact right (.of_listArgument? h)

theorem measure_lt (hw : IsWeight u weight) (h : Asks u q q') :
    q'.measure weight < q.measure weight := by
  have below := q'.order_lt
  unfold measure
  rcases h.falls hw with lighter | ⟨same, later⟩ <;> omega

theorem weigh_lt_of_asks (hw : IsWeight u weight) {d : Direction}
    (h : Relation.TransGen (Asks u) (.converts d s t) (.converts d a b)) :
    weight a + weight b < weight s + weight t := by
  have falls : (converts d a b).measure weight < (converts d s t).measure weight := by
    generalize converts d a b = q' at h ⊢
    induction h with
    | single asks => exact measure_lt hw asks
    | tail _ asks ih => exact (measure_lt hw asks).trans ih
  have same : (converts d a b).order = (converts d s t).order := by cases d <;> rfl
  unfold measure at falls
  rw [same] at falls
  simp only [weigh] at falls
  omega

/-- **A chain of questions** is no longer than the measure of the first. -/
theorem length_le_measure (hw : IsWeight u weight) (h : List.IsChain (Asks u) (q :: qs)) :
    qs.length ≤ q.measure weight := by
  induction qs generalizing q with
  | nil => exact Nat.zero_le _
  | cons q' qs ih =>
    obtain ⟨asks, rest⟩ := List.isChain_cons_cons.mp h
    have shorter := ih rest
    have falls := measure_lt hw asks
    rw [List.length_cons]
    omega

theorem wellFounded_asks (hw : IsWeight u weight) : WellFounded fun q' q => Asks u q q' :=
  Subrelation.wf (fun h => measure_lt hw h) (InvImage.wf (measure weight) Nat.lt_wfRel.wf)

end Question

/-! ## The relations answer all questions -/

section Solution

variable {weight : TypeDescriptor → Nat} {r r' : Answers}

/-- Every conversion is as its rule says. -/
def Solves (u : Universe) (r : Answers) : Prop :=
  ∀ d s t, r d s t = answer u r (.converts d s t)

/-- Two solutions are one, by induction along the questions. -/
theorem Solves.unique (hw : IsWeight u weight) (h : Solves u r) (h' : Solves u r') : r = r' := by
  have same : ∀ q d s t, q = Question.converts d s t → r d s t = r' d s t := by
    intro q
    induction q using (Question.wellFounded_asks hw).transGen.induction with
    | _ q ih =>
      rintro d s t rfl
      rw [h, h']
      refine answer_congr fun d' a b asks => ih _ ?_ d' a b rfl
      exact Relation.transGen_swap.mp asks
  funext d s t
  exact same _ d s t rfl

/-- A relation that is unfolded often enough is the same however often it is unfolded. -/
theorem implicitWithin_of_weigh (hw : IsWeight u weight) {n m : Nat}
    (hn : weight s + weight t < n) (hm : weight s + weight t < m) :
    implicitWithin u n s t = implicitWithin u m s t := by
  induction n generalizing m s t with
  | zero => exact absurd hn (Nat.not_lt_zero _)
  | succ n ih =>
    obtain ⟨m, rfl⟩ := Nat.exists_eq_succ_of_ne_zero (Nat.ne_zero_of_lt hm)
    have agree : AgreeFor u (.converts .implicit s t)
        (.of (implicitWithin u n) (isExplicitReference u))
        (.of (implicitWithin u m) (isExplicitReference u)) := by
      intro d a b asks
      cases d with
      | explicit => rfl
      | implicit =>
        have lighter := Question.weigh_lt_of_asks hw asks
        exact ih (by omega) (by omega)
    exact answer_congr agree

theorem explicitWithin_of_weigh (hw : IsWeight u weight) {n m : Nat}
    (hn : weight s + weight t < n) (hm : weight s + weight t < m) :
    explicitWithin u n s t = explicitWithin u m s t := by
  induction n generalizing m s t with
  | zero => exact absurd hn (Nat.not_lt_zero _)
  | succ n ih =>
    obtain ⟨m, rfl⟩ := Nat.exists_eq_succ_of_ne_zero (Nat.ne_zero_of_lt hm)
    have agree : AgreeFor u (.converts .explicit s t)
        (.of (isImplicitReference u) (explicitWithin u n))
        (.of (isImplicitReference u) (explicitWithin u m)) := by
      intro d a b asks
      cases d with
      | implicit => rfl
      | explicit =>
        have lighter := Question.weigh_lt_of_asks hw asks
        exact ih (by omega) (by omega)
    exact answer_congr agree

theorem weigh_lt_depthBound (hw : IsWeight u weight) (s t : TypeDescriptor) :
    weight s + weight t < depthBound u := by
  have hs := hw.bounded s
  have ht := hw.bounded t
  have square := Nat.le_mul_self (u.types.length + 2)
  rw [depthBound]
  omega

theorem solves_references (hw : IsWeight u weight) : Solves u (references u) := by
  intro d s t
  have enough := weigh_lt_depthBound hw s t
  cases d with
  | implicit =>
    change implicitWithin u (depthBound u) s t = implicitWithin u (depthBound u + 1) s t
    exact implicitWithin_of_weigh hw enough (Nat.lt_succ_of_lt enough)
  | explicit =>
    change explicitWithin u (depthBound u) s t = explicitWithin u (depthBound u + 1) s t
    exact explicitWithin_of_weigh hw enough (Nat.lt_succ_of_lt enough)

end Solution

/-- **The rules of reference conversion terminate.** In a built universe no chain of questions goes
on for ever, and none has more links than eight times the number of types, and four. An answer
depends only on the conversions that its question comes to ask for, so the rules have one solution,
and this is what the relations are. -/
theorem Question.terminates (hu : u.Built) :
    (¬∃ chain : Nat → Question, ∀ n, Asks u (chain n) (chain (n + 1))) ∧
    (∀ q qs, List.IsChain (Asks u) (q :: qs) → qs.length < 8 * u.types.length + 4) ∧
    (∀ q r' r, AgreeFor u q r' r → answer u r' q = answer u r q) ∧
    ∀ r, Solves u r ↔ r = references u := by
  obtain ⟨weight, hw⟩ := exists_isWeight hu.wellFormed.toLayered
  refine ⟨?_, fun q qs chain => ?_, fun q r' r agree => answer_congr agree, fun r => ?_⟩
  · rintro ⟨chain, asks⟩
    have endless := wellFounded_iff_isEmpty_descending_chain.mp (wellFounded_asks hw)
    exact endless.false ⟨chain, asks⟩
  · have shorter := length_le_measure hw chain
    have bounded := weigh_le hw q
    have last := order_lt q
    unfold measure at shorter
    omega
  · constructor
    · intro solves
      exact solves.unique hw (solves_references hw)
    · rintro rfl
      exact solves_references hw

/-- What packs objects packs texts: the question swaps sides at the contravariant parameter, and
there it ends, since a text is an object. -/
theorem Question.terminates_packers : ∃ (u : Universe) (ofObjects ofTexts : TypeDescriptor),
    u.Built ∧
    List.IsChain (Asks u) [.converts .implicit ofObjects ofTexts,
      .varies .implicit ofObjects ofTexts,
      .converts .implicit FrameworkType.string.descriptor FrameworkType.object.descriptor] ∧
    2 < 8 * u.types.length + 4 ∧
    answer u (references u) (.converts .implicit ofObjects ofTexts) = true := by
  let object := FrameworkType.object.descriptor
  let text := FrameworkType.string.descriptor
  let packer := ((Declaration.start .initial).1.asInterface "Shop" "IPacker\x601").withParameter
    ⟨"T", .contravariant⟩
  obtain ⟨packers, u₁, madePacker⟩ : ∃ t v, packer.build Universe.initial.allocate.2 = (.ok t, v) :=
    ⟨_, _, rfl⟩
  have built₁ : u₁.Built := by
    have step := Step.build (u := Universe.initial.allocate.2) packer ⟨_, by decide, by decide, rfl⟩
      (.withParameter _ (.asInterface _ _ .start))
    rw [madePacker] at step
    refine .step (.step .initial .allocate (by constructor <;> decide)) step ?_
    cases madePacker
    constructor <;> decide
  obtain ⟨ofObjects, u₂, madeObjects⟩ : ∃ t v, u₁.instantiate packers [object] = .ok (t, v) := by
    cases madePacker
    exact ⟨_, _, rfl⟩
  obtain ⟨ofTexts, u₃, madeTexts⟩ : ∃ t v, u₂.instantiate packers [text] = .ok (t, v) := by
    cases madePacker
    cases madeObjects
    exact ⟨_, _, rfl⟩
  have known : packers ∈ u₁ ∧ packers ∈ u₂ := by
    cases madePacker
    cases madeObjects
    decide +kernel
  have rows : u₂.WithinRows ∧ u₃.WithinRows := by
    cases madePacker
    cases madeObjects
    cases madeTexts
    exact ⟨by constructor <;> decide, by constructor <;> decide⟩
  have built₂ : u₂.Built := .step built₁ (.instantiate known.1 (List.forall_mem_singleton.mpr
    (built₁.wellFormed.framework .object)) madeObjects) rows.1
  have built₃ : u₃.Built := .step built₂ (.instantiate known.2 (List.forall_mem_singleton.mpr
    (built₂.wellFormed.framework .string)) madeTexts) rows.2
  obtain ⟨source, target, definition, parameter, first, second, contains⟩ :
      ofObjects.genericDefinition = some packers.token ∧
      ofTexts.genericDefinition = some packers.token ∧ u₃.find? packers.token = some packers ∧
      packers.genericParameters[0]? = some ⟨"T", .contravariant⟩ ∧
      (u₃.genericArgumentsOf ofObjects)[0]? = some object ∧
      (u₃.genericArgumentsOf ofTexts)[0]? = some text ∧
      isImplicitReference u₃ ofObjects ofTexts = true := by
    cases madePacker
    cases madeObjects
    cases madeTexts
    decide +kernel
  have paired := Paired.intro 0 source target definition parameter first second
  obtain ⟨-, short, -, solution⟩ := Question.terminates built₃
  have chain : List.IsChain (Asks u₃) [.converts .implicit ofObjects ofTexts,
      .varies .implicit ofObjects ofTexts, .converts .implicit text object] :=
    .cons_cons .varies (.cons_cons (.contravariant paired rfl) (.singleton _))
  have solves := (solution _).mpr rfl
  exact ⟨u₃, ofObjects, ofTexts, built₃, chain, short _ _ chain,
    (solves .implicit ofObjects ofTexts).symm.trans contains⟩

end TypeConversion.Reference
