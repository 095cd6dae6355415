import TypeConversion.Proofs.UserDefined.Specification

/-!
# The choice of a type

The type that a resolution computes for one side of a request is the choice of that side.

* `Resolution.chosenType?`: both sides compute the same function of how candidates relate, of the
  types that they have, and of the order in which those are compared.
* `inputType?_eq_some` and `outputType?_eq_some`: what it computes is the choice of the side, and it
  computes nothing only if there is no choice.
-/

namespace TypeConversion

open Universe

variable {u : Universe} {s t x : TypeDescriptor} {k : Token}

namespace Resolution

/-! ## The only item of a list -/

theorem single?_eq_some {α : Type} {l : List α} {x : α} : single? l = some x ↔ l = [x] := by
  rw [single?.eq_def]
  split <;> simp_all

theorem eq_singleton_iff {α : Type} {l : List α} (nodup : l.Nodup) {x : α} :
    l = [x] ↔ IsOnly (· ∈ l) x := by
  constructor
  · rintro rfl
    exact ⟨List.mem_singleton_self x, fun y hy => List.mem_singleton.mp hy⟩
  · rintro ⟨hx, only⟩
    cases l with
    | nil => cases hx
    | cons y l =>
      obtain rfl := only y List.mem_cons_self
      cases l with
      | nil => rfl
      | cons z l =>
        obtain rfl := only z (List.mem_cons_of_mem _ List.mem_cons_self)
        simp at nodup

theorem isOnly_congr {α : Type} {p q : α → Prop} (h : ∀ x, p x ↔ q x) {x : α} :
    IsOnly p x ↔ IsOnly q x := by
  have same : p = q := funext fun x => propext (h x)
  rw [same]

/-- The only item of a list that is before all of them is the first one. -/
theorem single?_filter_eq_some (related : TypeDescriptor → TypeDescriptor → Bool)
    {types : List TypeDescriptor} (nodup : types.Nodup)
    {p : TypeDescriptor → Prop} (hp : ∀ y, y ∈ types ↔ p y)
    {before : TypeDescriptor → TypeDescriptor → Prop}
    (hr : ∀ y, p y → ∀ z, p z → (related y z = true ↔ before y z)) :
    single? (types.filter fun y => types.all (related y)) = some x ↔ IsFirst before p x := by
  rw [single?_eq_some, eq_singleton_iff (nodup.filter _), IsFirst]
  refine isOnly_congr fun y => ?_
  rw [List.mem_filter, hp, List.all_eq_true]
  refine and_congr_right fun hy => ?_
  simp only [hp]
  exact forall₂_congr fun z hz => hr y hy z hz

/-! ## One side of a request -/

/-- The type of one side of the choice, by the order in which types are compared on that side. -/
def chosenType? (closeness : Candidate → Closeness) (lifted : Candidate → Bool)
    (type : Candidate → TypeDescriptor) (related : TypeDescriptor → TypeDescriptor → Bool)
    (candidates : List Candidate) : Option Token :=
  match closest closeness candidates with
  | .exact => exactType? closeness lifted type candidates
  | .implicit =>
    let types := typesOf type (candidates.filter fun c => closeness c == .implicit)
    (single? (types.filter fun y => types.all fun z => related y z)).map (·.token)
  | .explicit =>
    let types := typesOf type candidates
    (single? (types.filter fun y => types.all fun z => related z y)).map (·.token)

theorem inputType?_eq (u : Universe) (candidates : List Candidate) :
    inputType? u candidates = chosenType? (fun c => c.toInput.closeness) Candidate.unwraps
      Candidate.input (convertsImplicitly u) candidates := rfl

theorem outputType?_eq (u : Universe) (candidates : List Candidate) :
    outputType? u candidates = chosenType? (fun c => c.fromOutput.closeness) Candidate.wraps
      Candidate.output (fun y z => convertsImplicitly u z y) candidates := rfl

variable {candidates : List Candidate} {closeness : Candidate → Closeness}
  {lifted : Candidate → Bool} {type : Candidate → TypeDescriptor}

/-- The closest relation is the least that occurs. -/
theorem closest_cases :
    (closest closeness candidates = .exact ∧ ∃ c ∈ candidates, closeness c = .exact) ∨
      (closest closeness candidates = .implicit ∧ (∀ c ∈ candidates, closeness c ≠ .exact)
        ∧ ∃ c ∈ candidates, closeness c = .implicit) ∨
      (closest closeness candidates = .explicit ∧ ∀ c ∈ candidates, closeness c = .explicit) := by
  rw [closest]
  by_cases exactly : ∃ c ∈ candidates, closeness c = .exact
  · exact .inl ⟨if_pos (by simpa using exactly), exactly⟩
  rw [if_neg (by simpa using exactly)]
  have noExact : ∀ c ∈ candidates, closeness c ≠ .exact := fun c hc e => exactly ⟨c, hc, e⟩
  by_cases implicit : ∃ c ∈ candidates, closeness c = .implicit
  · exact .inr (.inl ⟨if_pos (by simpa using implicit), noExact, implicit⟩)
  refine .inr (.inr ⟨if_neg (by simpa using implicit), fun c hc => ?_⟩)
  cases e : closeness c with
  | exact => exact absurd e (noExact c hc)
  | implicit => exact absurd ⟨c, hc, e⟩ implicit
  | explicit => rfl

theorem mem_typesOf_iff (known : ∀ c ∈ candidates, type c ∈ u) :
    x ∈ typesOf type candidates ↔ ∃ c ∈ candidates, type c = x := by
  rw [typesOf, Token.mem_distinct_iff, List.mem_map]
  intro y hy z hz e
  obtain ⟨c, hc, rfl⟩ := List.mem_map.mp hy
  obtain ⟨d, hd, rfl⟩ := List.mem_map.mp hz
  exact eq_of_token_eq (known c hc) (known d hd) e

theorem nodup_typesOf : (typesOf type candidates).Nodup :=
  List.Nodup.of_map _ (Token.nodup_map_distinct _ _)

/-- The only type of some candidates that is before the types of all of them. -/
theorem single?_typesOf_eq_some {p : Candidate → Prop} (all : ∀ c, c ∈ candidates ↔ p c)
    (known : ∀ c, p c → type c ∈ u) {related : TypeDescriptor → TypeDescriptor → Bool}
    {before : TypeDescriptor → TypeDescriptor → Prop}
    (compare : ∀ y ∈ u, ∀ z ∈ u, (related y z = true ↔ before y z)) :
    single? ((typesOf type candidates).filter fun y => (typesOf type candidates).all (related y))
        = some x ↔ IsFirst before (fun y => ∃ c, p c ∧ type c = y) x := by
  refine single?_filter_eq_some _ nodup_typesOf (fun y => ?_) fun y hy z hz => ?_
  · rw [mem_typesOf_iff fun c hc => known c ((all c).mp hc)]
    simp only [all]
  · obtain ⟨c, hc, rfl⟩ := hy
    obtain ⟨d, hd, rfl⟩ := hz
    exact compare _ (known c hc) _ (known d hd)

/-- Among candidates that are exact, one that is not lifted is taken first. -/
theorem exactType?_cases (lifted : Candidate → Bool) (type : Candidate → TypeDescriptor)
    (some : ∃ c ∈ candidates, closeness c = .exact) :
    ∃ c ∈ candidates, closeness c = .exact
      ∧ exactType? closeness lifted type candidates = Option.some (type c).token
      ∧ (lifted c = true → ∀ d ∈ candidates, closeness d = .exact → lifted d = true) := by
  rw [exactType?]
  cases found : (candidates.filter fun c => closeness c == .exact).find? fun c => !lifted c with
  | some c =>
    have hc := List.mem_filter.mp (List.mem_of_find?_eq_some found)
    have plain : lifted c = false := by simpa using List.find?_some found
    exact ⟨c, hc.1, by simpa using hc.2, rfl, fun h => by simp [plain] at h⟩
  | none =>
    have all : ∀ d ∈ candidates, closeness d = .exact → lifted d = true := by
      simpa using found
    obtain ⟨c, hc, near⟩ := some
    have mem : c ∈ candidates.filter fun c => closeness c == .exact :=
      List.mem_filter.mpr ⟨hc, by simpa using near⟩
    cases hl : candidates.filter fun c => closeness c == .exact with
    | nil =>
      rw [hl] at mem
      cases mem
    | cons d l =>
      have hd : d ∈ candidates.filter fun c => closeness c == .exact := hl ▸ List.mem_cons_self
      have hd := List.mem_filter.mp hd
      exact ⟨d, hd.1, by simpa using hd.2, rfl, fun _ => all⟩

section Side

variable {request content : TypeDescriptor} {applies : Candidate → Prop}
  {related : TypeDescriptor → TypeDescriptor → Bool}
  {before : TypeDescriptor → TypeDescriptor → Prop}

/-- **The computed type of a side is its choice.** -/
theorem chosenType?_eq_some (all : ∀ c, c ∈ candidates ↔ applies c)
    (known : ∀ c, applies c → type c ∈ u)
    (typed : ∀ c, applies c → closeness c = .exact →
      type c = if lifted c then content else request)
    (compare : ∀ y ∈ u, ∀ z ∈ u, (related y z = true ↔ before y z)) :
    chosenType? closeness lifted type related candidates = some k ↔
      ∃ x, x.token = k ∧ IsChoice applies closeness lifted type request content before x := by
  unfold chosenType?
  rcases closest_cases with ⟨near, some⟩ | ⟨near, noExact, c, hc, implicit⟩ | ⟨near, explicit⟩
  · obtain ⟨c, hc, exactly, found, allLifted⟩ := exactType?_cases lifted type some
    have choice : IsChoice applies closeness lifted type request content before (type c) := by
      have type_eq := typed c ((all c).mp hc) exactly
      cases h : lifted c with
      | false => exact .exact ((all c).mp hc) exactly h (by rw [type_eq, h]; rfl)
      | true =>
        exact .lifted ((all c).mp hc) exactly (fun d hd => allLifted h d ((all d).mpr hd))
          (by rw [type_eq, h]; rfl)
    simp only [near, found, Option.some.injEq]
    refine ⟨fun e => ⟨type c, e, choice⟩, ?_⟩
    rintro ⟨x, rfl, h⟩
    rw [choice.unique h]
  · have mem : ∀ d, d ∈ candidates.filter (fun c => closeness c == .implicit) ↔
        applies d ∧ closeness d = .implicit := by simp [all]
    have first := fun x => single?_typesOf_eq_some (x := x) mem (fun d hd => known d hd.1) compare
    simp only [and_assoc] at first
    simp only [near, Option.map_eq_some_iff, first]
    refine exists_congr fun x => (and_comm.trans (and_congr_right fun _ => ?_))
    refine ⟨.implicit ((all c).mp hc) implicit fun d hd => noExact d ((all d).mpr hd), fun h => ?_⟩
    cases h with
    | exact hd near' => exact absurd near' (noExact _ ((all _).mpr hd))
    | lifted hd near' => exact absurd near' (noExact _ ((all _).mpr hd))
    | implicit _ _ _ first => exact first
    | explicit none _ => simp [none c ((all c).mp hc)] at implicit
  · have last := fun x => single?_typesOf_eq_some (x := x) all known fun y hy z hz =>
      compare z hz y hy
    have none : ∀ d, applies d → closeness d = .explicit := fun d hd => explicit d ((all d).mpr hd)
    simp only [near, Option.map_eq_some_iff, last]
    refine exists_congr fun x => (and_comm.trans (and_congr_right fun _ => ?_))
    refine ⟨.explicit none, fun h => ?_⟩
    cases h with
    | exact hd near' | lifted hd near' | implicit hd near' => simp [none _ hd] at near'
    | explicit _ last => exact last

end Side

/-! ## Both sides -/

/-- **The computed input type is the input choice.** -/
theorem inputType?_eq_some (all : ∀ c, c ∈ candidates ↔ c.Applies u s t) :
    inputType? u candidates = some k ↔ ∃ x, x.token = k ∧ IsInputChoice u s t x := by
  rw [inputType?_eq]
  exact chosenType?_eq_some all (fun c hc => hc.input.1) (fun c hc near => hc.input_eq near)
    fun y hy z hz => convertsImplicitly_iff hy hz

/-- **The computed output type is the output choice.** -/
theorem outputType?_eq_some (all : ∀ c, c ∈ candidates ↔ c.Applies u s t) :
    outputType? u candidates = some k ↔ ∃ x, x.token = k ∧ IsOutputChoice u s t x := by
  rw [outputType?_eq]
  exact chosenType?_eq_some all (fun c hc => hc.output.1) (fun c hc near => hc.output_eq near)
    fun y hy z hz => convertsImplicitly_iff hz hy

end Resolution

end TypeConversion
