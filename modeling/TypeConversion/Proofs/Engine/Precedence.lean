import TypeConversion.Proofs.Engine.Stability

/-!
# Precedence among registrations

A host may have several converters that could serve a pair of types. Registrations are asked in two
rounds, newest first in each: in the first round for a converter of exactly the pair, in the second
for one that splices can connect to the pair. A converter of exactly the pair, however old, so wins
over one that has to be connected, however new.

* `HostEntry.Matches` and `HostEntry.Adapts` say which conversions a registration has to offer in
  either round, `Splice.Bridges` what may be spliced in.
* `HostRegistry.resolve_add` is the step: what one registration more makes of the answer.
* `HostRegistry.resolve_eq_some_iff` is the run: the answer of all registrations together.
* `HostRegistry.resolve_newest_first`: where a new registration stands among those before it.
-/

namespace TypeConversion

open Universe

variable {u : Universe} {a b s t : TypeDescriptor} {host : HostRegistry Id}
  {entry : HostEntry Id} {c d : HostConversion} {splice : Splice}

/-! ## What is spliced in -/

/-- What the host may splice in between two types: nothing if they are one type, an implicit
standard conversion if they are two. -/
inductive Splice.Bridges (u : Universe) (a b : TypeDescriptor) : Splice → Prop
  | absent (same : a = b) : Bridges u a b .absent
  | along {c : Conversion} (other : a ≠ b) (standard : classifyStandard u a b = some c)
      (implicit : c.isImplicit = true) : Bridges u a b (.along a b c)

theorem Splice.Bridges.eq_absent_iff (h : splice.Bridges u a b) : splice = .absent ↔ a = b := by
  cases h with
  | absent same => exact iff_of_true rfl same
  | along other _ _ => exact iff_of_false (fun h => nomatch h) other

namespace HostRegistry

theorem connect?_eq_some_iff (ha : a ∈ u) (hb : b ∈ u) :
    connect? u a b = some splice ↔ splice.Bridges u a b := by
  unfold connect?
  constructor
  · intro h
    split at h
    · cases h
      exact .absent (eq_of_token_eq ha hb ‹_›)
    · rename_i other
      split at h
      · split at h <;> cases h
        exact .along (fun same => other (congrArg _ same)) ‹_› ‹_›
      · cases h
  · rintro (same | @⟨c, other, standard, implicit⟩)
    · simp [same]
    · have tokens : ¬a.token = b.token := fun same => other (eq_of_token_eq ha hb same)
      simp [tokens, standard, implicit]

end HostRegistry

/-! ## What one registration offers -/

namespace HostEntry

/-- The conversions that a registration has for exactly the pair: nothing is spliced in. -/
inductive Matches (s t : TypeDescriptor) : HostEntry Id → HostConversion → Prop
  | converter (p : Procedure) : Matches s t (.converter s.token t.token p)
      { procedure := p, input := s.token, output := t.token }
  | provider {provide : Provider Id} {p : Procedure} (provides : provide s t = some p) :
      Matches s t (.provider provide) { procedure := p, input := s.token, output := t.token }

/-- The conversions that a registration has by way of splices: the source reaches the input of the
converter, and its output reaches the target. -/
inductive Adapts (u : Universe) (s t : TypeDescriptor) : HostEntry Id → HostConversion → Prop
  | converter {a b : TypeDescriptor} (p : Procedure) {before after : Splice} (ha : a ∈ u)
      (hb : b ∈ u) (reaches : before.Bridges u s a) (reached : after.Bridges u b t) :
      Adapts u s t (.converter a.token b.token p)
        { procedure := p, input := a.token, output := b.token, before, after }

/-- What a registration answers in the first round. -/
def direct? (s t : TypeDescriptor) : HostEntry Id → Option HostConversion
  | .converter input output procedure =>
    if input = s.token ∧ output = t.token then some { procedure, input, output } else none
  | .provider provide =>
    match provide s t with
    | some procedure => some { procedure, input := s.token, output := t.token }
    | none => none

theorem direct?_eq_some_iff : entry.direct? s t = some c ↔ entry.Matches s t c := by
  constructor
  · intro h
    cases entry with
    | converter input output p =>
      rw [direct?] at h
      split at h
      · rename_i exactly
        obtain ⟨rfl, rfl⟩ := exactly
        cases h
        exact .converter p
      · cases h
    | provider provide =>
      rw [direct?] at h
      split at h
      · cases h
        exact .provider ‹_›
      · cases h
  · intro h
    cases h with
    | converter p => exact if_pos ⟨rfl, rfl⟩
    | provider provides =>
      rw [direct?, provides]

theorem connected?_eq_some_iff (hs : s ∈ u) (ht : t ∈ u) :
    HostRegistry.connected? u s t entry = some c ↔ entry.Adapts u s t c := by
  constructor
  · intro h
    cases entry with
    | provider provide => cases h
    | converter input output p =>
      simp only [HostRegistry.connected?, Option.bind_eq_bind, Option.bind_eq_some_iff,
        find?_eq_some_iff] at h
      obtain ⟨a, ⟨ha, rfl⟩, b, ⟨hb, rfl⟩, before, hbefore, after, hafter, made⟩ := h
      cases made
      exact .converter p ha hb ((HostRegistry.connect?_eq_some_iff hs ha).mp hbefore)
        ((HostRegistry.connect?_eq_some_iff hb ht).mp hafter)
  · rintro @⟨a, b, p, before, after, ha, hb, reaches, reached⟩
    have hbefore := (HostRegistry.connect?_eq_some_iff hs ha).mpr reaches
    have hafter := (HostRegistry.connect?_eq_some_iff hb ht).mpr reached
    simp [HostRegistry.connected?, mem_iff.mp ha, mem_iff.mp hb, hbefore, hafter]

theorem direct?_eq_none_iff : entry.direct? s t = none ↔ ∀ c, ¬entry.Matches s t c := by
  simp only [Option.eq_none_iff_forall_ne_some, ne_eq, direct?_eq_some_iff]

theorem connected?_eq_none_iff (hs : s ∈ u) (ht : t ∈ u) :
    HostRegistry.connected? u s t entry = none ↔ ∀ c, ¬entry.Adapts u s t c := by
  simp only [Option.eq_none_iff_forall_ne_some, ne_eq, connected?_eq_some_iff hs ht]

end HostEntry

namespace HostRegistry

/-! ## What all registrations offer -/

theorem findExact_eq (entries : List (HostEntry Id)) :
    findExact s t entries = entries.findSome? (HostEntry.direct? s t) := by
  induction entries with
  | nil => rfl
  | cons entry entries ih =>
    rw [List.findSome?_cons, ← ih]
    cases entry with
    | converter input output p =>
      rw [findExact, HostEntry.direct?]
      split <;> rfl
    | provider provide =>
      rw [findExact, HostEntry.direct?]
      cases provide s t <;> rfl

theorem resolve_eq : host.resolve u s t = (host.entries.findSome? (HostEntry.direct? s t)).or
    (host.entries.findSome? (connected? u s t)) := by
  rw [← findExact_eq]
  change (match findExact s t host.entries with
    | some conversion => some conversion
    | none => host.entries.findSome? (connected? u s t)) = _
  cases findExact s t host.entries <;> rfl

/-- **One registration more** is asked first in either round, and both rounds go on with the
registrations before it. -/
theorem resolve_add : (host.add entry).resolve u s t =
    (entry.direct? s t).or ((host.entries.findSome? (HostEntry.direct? s t)).or
      ((connected? u s t entry).or (host.entries.findSome? (connected? u s t)))) := by
  have first {f : HostEntry Id → Option HostConversion} :
      (host.add entry).entries.findSome? f = (f entry).or (host.entries.findSome? f) := by
    unfold add
    rw [List.findSome?_cons]
    cases f entry <;> rfl
  rw [resolve_eq, first, first, Option.or_assoc]

/-- The conversion is one that a registration of the host offers, and no newer registration offers
any. -/
def Newest (offers : HostEntry Id → HostConversion → Prop) (host : HostRegistry Id)
    (c : HostConversion) : Prop :=
  ∃ newer entry older, host.entries = newer ++ entry :: older ∧ offers entry c ∧
    ∀ e ∈ newer, ∀ d, ¬offers e d

section Newest

variable {offers : HostEntry Id → HostConversion → Prop} {f : HostEntry Id → Option HostConversion}

/-- A round answers what the newest registration offers that offers anything. -/
theorem findSome?_eq_some_iff_newest (same : ∀ {e d}, f e = some d ↔ offers e d) :
    host.entries.findSome? f = some c ↔ host.Newest offers c := by
  have nothing (e : HostEntry Id) : f e = none ↔ ∀ d, ¬offers e d := by
    simp only [Option.eq_none_iff_forall_ne_some, ne_eq, same]
  simp only [List.findSome?_eq_some_iff, Newest, same, nothing]

theorem findSome?_eq_none_iff_newest (same : ∀ {e d}, f e = some d ↔ offers e d) :
    host.entries.findSome? f = none ↔ ∀ d, ¬host.Newest offers d := by
  simp only [Option.eq_none_iff_forall_ne_some, ne_eq, findSome?_eq_some_iff_newest same]

end Newest

/-- **The answer of a host** is that of the newest registration for exactly the pair, and where no
registration is, that of the newest one that can be connected to the pair. -/
theorem resolve_eq_some_iff (hs : s ∈ u) (ht : t ∈ u) : host.resolve u s t = some c ↔
    host.Newest (HostEntry.Matches s t) c ∨
      (∀ d, ¬host.Newest (HostEntry.Matches s t) d) ∧ host.Newest (HostEntry.Adapts u s t) c := by
  rw [resolve_eq, Option.or_eq_some_iff,
    findSome?_eq_some_iff_newest HostEntry.direct?_eq_some_iff,
    findSome?_eq_none_iff_newest HostEntry.direct?_eq_some_iff,
    findSome?_eq_some_iff_newest (HostEntry.connected?_eq_some_iff hs ht)]

/-- What the host answers is connected to the pair on both sides. -/
theorem bridges_of_resolve (hs : s ∈ u) (ht : t ∈ u) (h : host.resolve u s t = some c) :
    ∃ a ∈ u, ∃ b ∈ u, a.token = c.input ∧ b.token = c.output ∧
      c.before.Bridges u s a ∧ c.after.Bridges u b t := by
  obtain ⟨-, entry, -, -, offered, -⟩ | ⟨-, -, entry, -, -, offered, -⟩ :=
    (resolve_eq_some_iff hs ht).mp h
  · cases offered with
    | converter p => exact ⟨s, hs, t, ht, rfl, rfl, .absent rfl, .absent rfl⟩
    | provider provides => exact ⟨s, hs, t, ht, rfl, rfl, .absent rfl, .absent rfl⟩
  · cases offered with
    | converter p ha hb reaches reached => exact ⟨_, ha, _, hb, rfl, rfl, reaches, reached⟩

/-! ## Where a new registration stands -/

/-- **Newest first, and exact before connected.** A new registration decides if it has a converter
of exactly the pair. If it has none, the newest one before it that has such a converter decides. If
there is none either, the new registration decides if it can be connected to the pair, and if it
cannot, all is as it was before. On either side of the answer something is spliced in exactly if the
types differ there, and what is spliced in is an implicit standard conversion. -/
theorem resolve_newest_first (hs : s ∈ u) (ht : t ∈ u) (host : HostRegistry Id)
    (entry : HostEntry Id) :
    (∀ c, entry.Matches s t c → (host.add entry).resolve u s t = some c) ∧
    ((∀ c, ¬entry.Matches s t c) →
      (∀ c, host.Newest (HostEntry.Matches s t) c → (host.add entry).resolve u s t = some c) ∧
      ((∀ c, ¬host.Newest (HostEntry.Matches s t) c) →
        (∀ c, entry.Adapts u s t c → (host.add entry).resolve u s t = some c) ∧
        ((∀ c, ¬entry.Adapts u s t c) →
          (host.add entry).resolve u s t = host.resolve u s t))) ∧
    ∀ c, (host.add entry).resolve u s t = some c →
      ∃ a ∈ u, ∃ b ∈ u, a.token = c.input ∧ b.token = c.output ∧
        c.before.Bridges u s a ∧ (c.before = .absent ↔ s = a) ∧
        c.after.Bridges u b t ∧ (c.after = .absent ↔ b = t) := by
  refine ⟨fun c offered => ?_, fun other => ?_, fun c h => ?_⟩
  · rw [resolve_add, HostEntry.direct?_eq_some_iff.mpr offered, Option.some_or]
  · have notDirect := HostEntry.direct?_eq_none_iff.mpr other
    refine ⟨fun c newest => ?_, fun noneBefore => ?_⟩
    · have found := (findSome?_eq_some_iff_newest HostEntry.direct?_eq_some_iff).mpr newest
      rw [resolve_add, notDirect, found, Option.none_or, Option.some_or]
    · have notFound := (findSome?_eq_none_iff_newest HostEntry.direct?_eq_some_iff).mpr noneBefore
      refine ⟨fun c offered => ?_, fun apart => ?_⟩
      · rw [resolve_add, notDirect, notFound, Option.none_or, Option.none_or,
          (HostEntry.connected?_eq_some_iff hs ht).mpr offered, Option.some_or]
      · rw [resolve_add, notDirect, (HostEntry.connected?_eq_none_iff hs ht).mpr apart,
          Option.none_or, Option.none_or, resolve_eq]
  · obtain ⟨a, ha, b, hb, input, output, before, after⟩ := bridges_of_resolve hs ht h
    exact ⟨a, ha, b, hb, input, output, before, before.eq_absent_iff, after, after.eq_absent_iff⟩

/-- A converter from objects to integers serves a string that is to become a long integer, with a
conversion on either side. It takes precedence over an older converter from strings to integers, and
an older one from strings to long integers takes precedence over it. -/
theorem resolve_newest_first_texts :
    let string := FrameworkType.string.descriptor
    let object := FrameworkType.object.descriptor
    let int := NumericKind.descriptor (.integer .int32)
    let long := NumericKind.descriptor (.integer .int64)
    let p : Procedure := fun _ => .ok .null
    let entry : HostEntry Id := .converter object.token int.token p
    let near := ({} : HostRegistry Id).addConverter string int p
    let exactly := ({} : HostRegistry Id).addConverter string long p
    (near.add entry).resolve .initial string long
        = some { procedure := p, input := object.token, output := int.token
                 before := .along string object .implicitReference
                 after := .along int long (.numeric true ⟨.integer .int32, .integer .int64⟩) } ∧
      (exactly.add entry).resolve .initial string long
        = some { procedure := p, input := string.token, output := long.token } := by
  intro string object int long p entry near exactly
  have hs : string ∈ Universe.initial := wellFormed_initial.framework .string
  have ht : long ∈ Universe.initial := wellFormed_initial.numeric _
  have other : ∀ c, ¬entry.Matches string long c := HostEntry.direct?_eq_none_iff.mp rfl
  constructor
  · obtain ⟨-, next, -⟩ := resolve_newest_first hs ht near entry
    have noneBefore : ∀ c, ¬near.Newest (HostEntry.Matches string long) c :=
      (findSome?_eq_none_iff_newest HostEntry.direct?_eq_some_iff).mp rfl
    exact ((next other).2 noneBefore).1 _ (.converter p (wellFormed_initial.framework .object)
      (wellFormed_initial.numeric _) (.along (by decide) rfl rfl) (.along (by decide) rfl rfl))
  · obtain ⟨-, next, -⟩ := resolve_newest_first hs ht exactly entry
    exact (next other).1 _ ⟨[], _, [], rfl, .converter p, nofun⟩

end HostRegistry

end TypeConversion
