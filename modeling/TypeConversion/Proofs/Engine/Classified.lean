import TypeConversion.Classification
import TypeConversion.Converter
import TypeConversion.Proofs.UserDefined.Growth

/-!
# Classification without a cache

* `classified config u host s t`: the classification of a pair of types in a universe, where the
  host answers from the pair alone. `classify_eq` says that classifying by way of a coherent cache
  of operators gives the same.
* `classified_extends`: the classification stays the same as the universe grows, while no operator
  is declared and nothing is registered.
* `ofPlan_extends`: so does the converter of a classified pair.
-/

namespace TypeConversion

open Universe

variable {u v : Universe} {a b s t : TypeDescriptor} {config : Configuration}
  {host : HostRegistry Id} {plan : Plan}

/-- The classification of a pair of types, where no operator is remembered. -/
def classified (config : Configuration) (u : Universe) (host : HostRegistry Id)
    (s t : TypeDescriptor) : Classification :=
  match classifyStandard u s t with
  | some conversion => .convertible ⟨s, t, conversion⟩
  | none =>
    match if config.userDefined then u.resolveUserDefined s t else .notFound with
    | .found conversion => .convertible ⟨s, t, conversion.conversion⟩
    | .ambiguous candidates => .ambiguous candidates
    | .notFound => .ofHost s t (hostConfigured config u host s t)

/-- **Classifying by way of a coherent cache** gives the classification without it, and leaves the
cache coherent. -/
theorem classify_eq (config : Configuration) (host : HostRegistry Id) {operators : OperatorCache}
    (hu : u.Layered) (h : operators.Coherent u) (hs : s ∈ u) (ht : t ∈ u) :
    ∃ operators' : OperatorCache, operators'.Coherent u ∧
      classify config u operators host s t = (classified config u host s t, operators') := by
  rw [classify, classified]
  cases classifyStandard u s t with
  | some conversion => exact ⟨operators, h, rfl⟩
  | none =>
    rw [resolveConfigured]
    cases config.userDefined with
    | false => exact ⟨operators, h, rfl⟩
    | true =>
      have resolved := h.resolve_eq hu hs ht
      have coherent : (operators.resolve u s t).2.Coherent u := h.pool hu hs ht
      simp only [if_true]
      revert resolved coherent
      rcases operators.resolve u s t with ⟨outcome, operators'⟩
      rintro rfl coherent
      refine ⟨operators', coherent, ?_⟩
      cases u.resolveUserDefined s t <;> rfl

/-! ## The host in a growing universe -/

/-- The registrations are for types of the universe. -/
def HostRegistry.Over (u : Universe) (host : HostRegistry Id) : Prop :=
  ∀ input output p, .converter input output p ∈ host.entries →
    (∃ a ∈ u, a.token = input) ∧ ∃ b ∈ u, b.token = output

theorem HostRegistry.Over.mono (h : host.Over u) (le : u.Extends v) : host.Over v := by
  intro input output p mem
  obtain ⟨⟨a, ha, ea⟩, b, hb, eb⟩ := h input output p mem
  exact ⟨⟨a, le.mem a ha, ea⟩, b, le.mem b hb, eb⟩

theorem findSome?_congr {α β : Type} {f g : α → Option β} {l : List α}
    (h : ∀ x ∈ l, f x = g x) : l.findSome? f = l.findSome? g := by
  induction l with
  | nil => rfl
  | cons x l ih =>
    rw [List.findSome?_cons, List.findSome?_cons, h x List.mem_cons_self,
      ih fun y hy => h y (List.mem_cons_of_mem _ hy)]

theorem connected?_extends (hu : u.Layered) (le : u.Extends v) (hs : s ∈ u)
    (ht : t ∈ u) (h : host.Over u) {entry : HostEntry Id} (he : entry ∈ host.entries) :
    HostRegistry.connected? v s t entry = HostRegistry.connected? u s t entry := by
  cases entry with
  | provider provide => rfl
  | converter input output p =>
    obtain ⟨⟨a, ha, rfl⟩, b, hb, rfl⟩ := h input output p he
    simp only [HostRegistry.connected?, mem_iff.mp ha, mem_iff.mp hb, mem_iff.mp (le.mem a ha),
      mem_iff.mp (le.mem b hb), connect?_extends hu le hs ha, connect?_extends hu le hb ht,
      Option.bind_eq_bind, Option.bind_some]

theorem hostConfigured_extends (hu : u.Layered) (le : u.Extends v) (hs : s ∈ u) (ht : t ∈ u)
    (h : host.Over u) :
    hostConfigured config v host s t = hostConfigured config u host s t := by
  have same := findSome?_congr fun entry he => connected?_extends hu le hs ht h he
  have resolved : host.resolve v s t = host.resolve u s t := by
    rw [HostRegistry.resolve, HostRegistry.resolve, same]
  rw [hostConfigured, hostConfigured, resolved]

/-- **The classification of a pair stays the same** as the universe grows, while no operator is
declared. -/
theorem classified_extends (hu : u.WellFormed) (le : u.Extends v)
    (same : v.operators = u.operators) (h : host.Over u) (hs : s ∈ u) (ht : t ∈ u) :
    classified config v host s t = classified config u host s t := by
  have layered := hu.toLayered
  rw [classified, classified, classifyStandard_extends layered le hs ht,
    resolveUserDefined_extends hu le same hs ht, hostConfigured_extends layered le hs ht h]

/-! ## The converters of classified pairs -/

theorem over_findExact {entries : List (HostEntry Id)} {c : HostConversion}
    (h : HostRegistry.findExact s t entries = some c) : c.before.Over u ∧ c.after.Over u := by
  induction entries with
  | nil => cases h
  | cons entry entries ih =>
    cases entry with
    | converter input output p =>
      rw [HostRegistry.findExact] at h
      split at h
      · cases h
        exact ⟨trivial, trivial⟩
      · exact ih h
    | provider provide =>
      change (match provide s t with
        | some procedure =>
          some { procedure, input := s.token, output := t.token : HostConversion }
        | none => HostRegistry.findExact s t entries) = some c at h
      split at h
      · cases h
        exact ⟨trivial, trivial⟩
      · exact ih h

theorem over_hostConfigured (hu : u.Layered) (hs : s ∈ u) (ht : t ∈ u) {c : HostConversion}
    (h : hostConfigured config u host s t = some c) : c.before.Over u ∧ c.after.Over u := by
  rw [hostConfigured] at h
  split at h
  · change (match HostRegistry.findExact s t host.entries with
      | some conversion => some conversion
      | none => host.entries.findSome? (HostRegistry.connected? u s t)) = some c at h
    split at h
    · rename_i found
      cases h
      exact over_findExact found
    · obtain ⟨entry, -, connected⟩ := List.exists_of_findSome?_eq_some h
      cases entry with
      | provider provide => cases connected
      | converter input output p =>
        simp only [HostRegistry.connected?, Option.bind_eq_bind, Option.bind_eq_some_iff,
          find?_eq_some_iff] at connected
        obtain ⟨a, ⟨ha, -⟩, b, ⟨hb, -⟩, before, hbefore, after, hafter, made⟩ := connected
        cases made
        exact ⟨(connects_of_connect? hs ha hbefore).isOver hu hs ha,
          (connects_of_connect? hb ht hafter).isOver hu hb ht⟩
  · cases h

/-- The plan of a classified pair is for the pair, and it splices in standard conversions between
types of the universe. -/
theorem over_classified (hu : u.Layered) (hs : s ∈ u) (ht : t ∈ u)
    (h : classified config u host s t = .convertible plan) :
    plan.source = s ∧ plan.target = t ∧ plan.conversion.Over u := by
  rw [classified] at h
  split at h
  · rename_i standard
    cases h
    exact ⟨rfl, rfl, (isStandard_of_classifyStandard hu hs ht standard).isOver⟩
  split at h
  · rename_i found
    cases h
    split at found
    · obtain ⟨c, -, fits, rfl⟩ := Resolution.exists_candidate_of_found found
      exact ⟨rfl, rfl,
        (fits.before_connects hu hs).isOver hu (fits.source_mem hu hs) fits.input_mem,
        (fits.after_connects hu ht).isOver hu fits.output_mem (fits.target_mem hu ht)⟩
    · cases found
  · cases h
  · cases found : hostConfigured config u host s t with
    | none =>
      rw [found] at h
      cases h
    | some c =>
      rw [found] at h
      cases h
      exact ⟨rfl, rfl, over_hostConfigured hu hs ht found⟩

/-- The converter of a classified pair stays the same as the universe grows. -/
theorem ofPlan_extends (hu : u.Layered) (le : u.Extends v) (hs : s ∈ u) (ht : t ∈ u)
    (h : classified config u host s t = .convertible plan) (mode : OverflowMode) :
    Converter.ofPlan v plan mode = Converter.ofPlan u plan mode := by
  obtain ⟨rfl, rfl, own⟩ := over_classified hu hs ht h
  rw [Converter.ofPlan, Converter.ofPlan, Plan.program, Plan.program,
    own.program_extends hu le hs ht]

end TypeConversion
