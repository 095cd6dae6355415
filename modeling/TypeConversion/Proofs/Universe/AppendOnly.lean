import TypeConversion.Proofs.Universe.Bases
import TypeConversion.Proofs.Universe.Entries

/-!
# When a universe is append-only

A type that is found under a token should be found under it ever after. A declared type is
registered under a free token only, whichever its descriptor names. A constructed type is published
under the next token of its table, without a look at what is there.

* `Universe.Retains u v`: what is found under a token in `u` is found under it in `v`.
* `Universe.Displaces u v`: a type is constructed under a token that stood for another type. This is
  the only way in which an operation does not retain a type (`Operation.retains_iff`).
* `Universe.Use u v`: an operation over types of `u`, or the registration of any descriptor. One
  that displaces no type keeps the chains of bases finite (`Settled.enter`).
* `Universe.Apart u v`: a use that keeps declared types out of the table of constructed types, which
  has rows left. It displaces no type (`Reserved.undisplaced`).
* `append_only_unless_displaced`: all of this over runs.
* `not_append_only`: a class that is registered under the first token for a constructed type is
  displaced by the first type that is constructed, which can be its own subclass.
-/

namespace TypeConversion.Universe

-- Powers are those of the core library, also where another library has its own.
attribute [local instance (2000)] instPowNat

variable {u v : Universe} {s t : TypeDescriptor} {k : Token}
  {declares known : TypeDescriptor → Prop}

/-- What is found under a token stays there. -/
def Retains (u v : Universe) : Prop := ∀ k t, u.find? k = some t → v.find? k = some t

/-- The token for the next constructed type. -/
def nextConstructedToken (u : Universe) : Token :=
  .ofParts Token.constructedTable u.nextConstructed

/-- A type is constructed, and its token does not stand any more for the type that it stood for. -/
def Displaces (u v : Universe) : Prop :=
  u.nextConstructed < v.nextConstructed ∧
    ∃ s, u.find? u.nextConstructedToken = some s ∧ v.find? u.nextConstructedToken ≠ some s

/-- An operation over types of the universe, or the registration of any descriptor. -/
inductive Use (u : Universe) : Universe → Prop
  | step {v : Universe} (s : u.Step v) : Use u v
  | register {t : TypeDescriptor} {v : Universe} (made : u.register t = .ok v) : Use u v

/-- A use that keeps declared types out of the table of constructed types, which has rows left. -/
inductive Apart (u : Universe) : Universe → Prop
  | step {v : Universe} (s : u.Step v) (rows : v.nextConstructed ≤ 2 ^ (24 : Nat)) : Apart u v
  | register {t : TypeDescriptor} {v : Universe}
      (outside : t.token.table ≠ Token.constructedTable) (made : u.register t = .ok v) : Apart u v

/-- A use that displaces no type. -/
abbrev Undisplaced (u v : Universe) : Prop := u.Use v ∧ ¬u.Displaces v

theorem Use.enters (h : u.Use v) : Enters (fun _ => True) (· ∈ u) u v := by
  cases h with
  | step s => exact s.enters.mono fun _ _ => trivial
  | register made => exact register_enters trivial made

theorem Apart.use (h : u.Apart v) : u.Use v := by
  cases h with
  | step s _ => exact .step s
  | register _ made => exact .register made

theorem Allocated.table (h : u.Allocated k) : k.table ≠ Token.constructedTable := by
  obtain ⟨row, -, -, rfl⟩ := h
  rw [Token.table_ofParts (by decide)]
  decide

theorem Apart.enters (h : u.Apart v) :
    Enters (fun t => t.token.table ≠ Token.constructedTable) (· ∈ u) u v := by
  cases h with
  | step s _ => exact s.enters.mono fun _ declared => declared.1.table
  | register outside made => exact register_enters outside made

/-! ## Displacement -/

/-- A type that is published under a free token displaces none. -/
theorem retains_publish (fresh : u.find? t.token = none) (h : v.types = (u.publish t).types) :
    u.Retains v := by
  intro k s found
  rw [find?_congr h, find?_publish, if_neg]
  · exact found
  · rintro rfl
    rw [fresh] at found
    cases found

/-- What an operation enters displaces no type exactly if all types are retained. -/
theorem Enters.retains_iff (h : Enters declares known u v) : u.Retains v ↔ ¬u.Displaces v := by
  constructor
  · rintro retains ⟨-, s, found, lost⟩
    exact lost (retains _ _ found)
  · intro undisplaced
    cases h with
    | nothing same =>
      intro k s found
      rwa [find?_congr same.types]
    | declared made _ same => exact retains_publish (register_eq_ok made).2.1 same.types
    | restored _ missing _ same => exact retains_publish missing same.types
    | @constructed key t _ token _ same =>
      have token : t.token = u.nextConstructedToken := token
      have advanced : u.nextConstructed < v.nextConstructed := by
        rw [same.nextConstructed]
        exact Nat.lt_succ_self _
      intro k s found
      by_cases here : u.nextConstructedToken = k
      · subst here
        by_contra lost
        exact undisplaced ⟨advanced, s, found, lost⟩
      · have elsewhere : (u.publish t).find? k = u.find? k := by
          rw [find?_publish, token, if_neg here]
        rw [find?_congr same.types]
        exact elsewhere.trans found

/-- **An operation retains all types exactly if it displaces none.** -/
theorem Operation.retains_iff (o : u.Operation v) : u.Retains v ↔ ¬u.Displaces v :=
  o.enters.retains_iff

/-! ## Uses that displace no type -/

/-- The bases of types and the constructions are known, and bases go down in rank. -/
structure Settled (u : Universe) : Prop where
  framework : ∀ f : FrameworkType, f.descriptor ∈ u
  nodup : (u.types.map TypeDescriptor.token).Nodup
  recorded : ∀ key k, u.constructions.lookup key = some k → (u.find? k).isSome = true
  base : ∀ t ∈ u, ∀ k, t.base = some k → ∃ s ∈ u, s.token = k
  ranked : ∃ rank, (∀ t ∈ u, rank t.token < u.types.length) ∧ u.FallsToBase rank

theorem settled_initial : Settled initial where
  framework := wellFormed_initial.framework
  nodup := Built.initial.nodup
  recorded key k h := by
    have none : initial.constructions = [] := rfl
    simp [none] at h
  base _ ht _ h := wellFormed_initial.toLayered.exists_base ht h
  ranked := by
    obtain ⟨rank, hr⟩ := wellFormed_initial.ranked
    exact ⟨rank, hr.below, hr.fallsToBase⟩

/-- What is made of known parts has a known base. -/
theorem Settled.exists_base (hu : u.Settled) {key : ConstructionKey} (makes : Makes (· ∈ u) key t)
    (h : t.base = some k) : ∃ s ∈ u, s.token = k := by
  cases makes with
  | optional _ _ shape =>
    exact ⟨_, hu.framework .valueType, Option.some.inj (shape.base.symm.trans h)⟩
  | array _ _ shape => exact ⟨_, hu.framework .array, Option.some.inj (shape.base.symm.trans h)⟩
  | generic part _ shape => exact hu.base _ part _ (shape.base.symm.trans h)

/-- A universe stays settled as long as the same types are found in it. -/
theorem Settled.congr (hu : u.Settled) (find : ∀ k, v.find? k = u.find? k)
    (size : v.types.length = u.types.length) (nodup : (v.types.map TypeDescriptor.token).Nodup)
    (recorded : ∀ key k, v.constructions.lookup key = some k → (v.find? k).isSome = true) :
    v.Settled := by
  have mem : ∀ s, s ∈ v ↔ s ∈ u := fun s => by rw [mem_iff, mem_iff, find]
  obtain ⟨rank, below, falls⟩ := hu.ranked
  refine ⟨fun f => (mem _).mpr (hu.framework f), nodup, recorded, fun t ht k h => ?_,
    rank, fun t ht => size ▸ below t ((mem t).mp ht), fun t ht => falls t ((mem t).mp ht)⟩
  exact (hu.base t ((mem t).mp ht) k h).imp fun s hs => ⟨(mem s).mpr hs.1, hs.2⟩

/-- A universe stays settled with a new type whose base is known. -/
theorem Settled.add (hu : u.Settled) (h : v.types = (u.publish t).types)
    (fresh : u.find? t.token = none) (based : ∀ k, t.base = some k → ∃ s ∈ u, s.token = k)
    (recorded : ∀ key k, v.constructions.lookup key = some k → (v.find? k).isSome = true) :
    v.Settled := by
  have le : ∀ s ∈ u, s ∈ v := fun s hs => (mem_add h fresh).mpr (.inr hs)
  obtain ⟨rank, below, falls⟩ := hu.ranked
  have ranked : ∃ rank : Token → Nat, (∀ s ∈ v, rank s.token < v.types.length) ∧
      ∀ s ∈ v, ∀ k ∈ s.base.toList, rank k < rank s.token :=
    exists_rank_add (fun s => s.base.toList) h fresh below
      (by simpa [FallsToBase] using falls) (by simpa using hu.base) (by simpa using based)
  refine ⟨fun f => le _ (hu.framework f), h ▸ nodup_publish hu.nodup t, recorded,
    fun s hs k hk => ?_, by simpa [FallsToBase] using ranked⟩
  have known : ∃ b ∈ u, b.token = k := by
    rcases (mem_add h fresh).mp hs with rfl | hs
    · exact based k hk
    · exact hu.base s hs k hk
  exact known.imp fun b hb => ⟨le b hb.1, hb.2⟩

/-- A type that is published in its own place changes nothing. -/
theorem find?_publish_self (ht : t ∈ u) : (u.publish t).find? k = u.find? k := by
  rw [find?_publish]
  split
  · rename_i here
    rw [← here, mem_iff.mp ht]
  · rfl

theorem length_publish_self (hu : (u.types.map TypeDescriptor.token).Nodup) (ht : t ∈ u) :
    (u.publish t).types.length = u.types.length := by
  have listed : t ∈ u.types := (mem_types_iff hu).mpr ht
  have others : u.types.filter (fun s => s.token != t.token) = u.types.erase t := by
    rw [(List.Nodup.of_map _ hu).erase_eq_filter]
    refine List.filter_congr fun s hs => ?_
    have same : s.token = t.token ↔ s = t :=
      ⟨fun e => List.inj_on_of_nodup_map hu hs listed e, fun e => e ▸ rfl⟩
    simp [bne, same]
  have positive : 0 < u.types.length := List.length_pos_of_mem listed
  rw [publish, List.length_cons, others, List.length_erase_of_mem listed]
  omega

/-- **A use that displaces no type keeps a universe settled.** -/
theorem Settled.enter (hu : u.Settled) (h : Enters declares (· ∈ u) u v)
    (undisplaced : ¬u.Displaces v) : v.Settled := by
  have retains : u.Retains v := h.retains_iff.mpr undisplaced
  have kept : ∀ key k, u.constructions.lookup key = some k → (v.find? k).isSome = true := by
    intro key k recorded
    obtain ⟨s, found⟩ := Option.isSome_iff_exists.mp (hu.recorded key k recorded)
    rw [retains k s found]
    rfl
  cases h with
  | nothing same =>
    exact hu.congr (fun _ => find?_congr same.types) (congrArg _ same.types)
      (same.types ▸ hu.nodup) (same.constructions ▸ kept)
  | declared made _ same =>
    obtain ⟨-, fresh, -, base, -⟩ := register_eq_ok made
    refine hu.add same.types fresh (fun k h => ?_) (same.constructions ▸ kept)
    exact (checkBase_eq_ok base h).imp fun s hs => ⟨hs.1, hs.2.1⟩
  | restored recorded missing _ _ =>
    have found := hu.recorded _ _ recorded
    rw [missing] at found
    cases found
  | @constructed key t _ token makes same =>
    have found : v.find? t.token = some t := by
      rw [find?_congr same.types]
      exact (find?_publish u t _).trans (if_pos rfl)
    have recorded : ∀ other k, v.constructions.lookup other = some k →
        (v.find? k).isSome = true := by
      intro other k h
      rw [same.constructions, record, List.lookup_cons] at h
      split at h
      · cases h
        rw [found]
        rfl
      · exact kept other k h
    cases before : u.find? t.token with
    | none => exact hu.add same.types before (fun k h => hu.exists_base makes h) recorded
    | some s =>
      -- The token was in use: since nothing is displaced, it was in use for the very same type.
      have unchanged : s = t := Option.some.inj ((retains _ s before).symm.trans found)
      have ht : t ∈ u := unchanged ▸ before
      exact hu.congr (fun _ => (find?_congr same.types).trans (find?_publish_self ht))
        ((congrArg _ same.types).trans (length_publish_self hu.nodup ht))
        (same.types ▸ nodup_publish hu.nodup t) recorded

/-- No type of a settled universe derives from itself. -/
theorem Settled.not_derives_self (hu : u.Settled) (ht : t ∈ u) : ¬u.Derives t t := by
  obtain ⟨_, -, falls⟩ := hu.ranked
  exact fun h => Nat.lt_irrefl _ (h.rank_lt falls ht)

/-- The chain of bases ends by itself. -/
theorem Settled.baseChain_eq_ancestors (hu : u.Settled) (ht : t ∈ u) {n : Nat}
    (large : u.types.length ≤ n) : u.baseChain n t.base = u.ancestors t := by
  obtain ⟨rank, below, falls⟩ := hu.ranked
  have small : ∀ k, t.base = some k → rank k < u.types.length := by
    intro k h
    obtain ⟨s, hs, rfl⟩ := hu.base t ht k h
    exact below s hs
  exact baseChain_fuel falls (fun k h => (small k h).trans_le large) small

/-! ## Uses that keep the tables apart -/

/-- The table of constructed types holds the rows that were given out, and has rows left. -/
structure Reserved (u : Universe) : Prop where
  rows : u.nextConstructed ≤ 2 ^ (24 : Nat)
  issued : ∀ t ∈ u, t.token.table = Token.constructedTable →
    ∃ row, row < u.nextConstructed ∧ t.token = .ofParts Token.constructedTable row

theorem reserved_initial : Reserved initial where
  rows := by decide
  issued t ht h := by
    have declared : ∀ t ∈ builtinTypes, t.token.table ≠ Token.constructedTable := by decide
    exact absurd h (declared t (mem_initial.mp ht))

theorem Reserved.fresh (hu : u.Reserved) (rows : u.nextConstructed < 2 ^ (24 : Nat)) :
    u.find? u.nextConstructedToken = none := by
  by_contra found
  obtain ⟨s, hs, token⟩ := isSome_find?_iff.mp (Option.isSome_iff_ne_none.mpr found)
  have table : s.token.table = Token.constructedTable := by
    rw [token]
    exact Token.table_ofParts (by decide) _
  obtain ⟨row, below, e⟩ := hu.issued s hs table
  have same := Token.ofParts_inj (by decide) (by decide) (by omega) rows (e.symm.trans token)
  omega

theorem Apart.rows (h : u.Apart v) (rows : u.nextConstructed ≤ 2 ^ (24 : Nat)) :
    v.nextConstructed ≤ 2 ^ (24 : Nat) := by
  cases h with
  | step _ rows => exact rows
  | register _ made =>
    obtain ⟨rfl, -⟩ := register_eq_ok made
    exact rows

/-- The next token for a constructed type is free. -/
theorem Reserved.undisplaced (hu : u.Reserved) (h : u.Apart v) : ¬u.Displaces v := by
  rintro ⟨advanced, s, found, -⟩
  rw [hu.fresh (advanced.trans_le (h.rows hu.rows))] at found
  cases found

theorem Reserved.apart (hu : u.Reserved) (hs : u.Settled) (h : u.Apart v) : v.Reserved := by
  refine ⟨h.rows hu.rows, fun s hv table => ?_⟩
  cases h.enters with
  | nothing same =>
    rw [same.nextConstructed]
    exact hu.issued s ((mem_congr same.types).mp hv) table
  | declared _ outside same =>
    rw [same.nextConstructed]
    rcases mem_of_mem_publish same.types hv with rfl | old
    · exact absurd table outside
    · exact hu.issued s old table
  | restored recorded missing _ _ =>
    have found := hs.recorded _ _ recorded
    rw [missing] at found
    cases found
  | constructed _ token _ same =>
    rw [same.nextConstructed]
    rcases mem_of_mem_publish same.types hv with rfl | old
    · exact ⟨u.nextConstructed, Nat.lt_succ_self _, token⟩
    · obtain ⟨row, below, e⟩ := hu.issued s old table
      exact ⟨row, below.trans (Nat.lt_succ_self _), e⟩

/-! ## Runs -/

open Relation (ReflTransGen)

theorem Settled.run (hu : u.Settled) (run : ReflTransGen Undisplaced u v) :
    v.Settled ∧ u.Retains v := by
  induction run with
  | refl => exact ⟨hu, fun _ _ found => found⟩
  | tail _ last ih =>
    obtain ⟨settled, retains⟩ := ih
    have kept := last.1.enters.retains_iff.mpr last.2
    exact ⟨settled.enter last.1.enters last.2, fun k t found => kept k t (retains k t found)⟩

theorem Apart.run (run : ReflTransGen Apart initial u) : u.Reserved ∧ u.Settled := by
  induction run with
  | refl => exact ⟨reserved_initial, settled_initial⟩
  | tail _ last ih =>
    obtain ⟨reserved, settled⟩ := ih
    exact ⟨reserved.apart settled last, settled.enter last.use.enters (reserved.undisplaced last)⟩

/-- **The universe is append-only unless a constructed type displaces another.** An operation
retains every type exactly if it displaces none. As long as none is displaced, no type is its own
base and every chain of bases ends; and none is displaced while registrations keep out of the table
of constructed types and that table has rows left. -/
theorem append_only_unless_displaced (u v : Universe) :
    (u.Operation v → (u.Retains v ↔ ¬u.Displaces v)) ∧
      (ReflTransGen Undisplaced initial u → ReflTransGen Undisplaced u v →
        u.Retains v ∧ ∀ t ∈ v, ¬v.Derives t t ∧
          ∀ n, v.types.length ≤ n → v.baseChain n t.base = v.ancestors t) ∧
      (ReflTransGen Apart initial u → u.Apart v → u.Undisplaced v) := by
  refine ⟨Operation.retains_iff, fun before run => ?_, fun before last => ?_⟩
  · obtain ⟨settled, retains⟩ := (settled_initial.run before).1.run run
    exact ⟨retains, fun t ht => ⟨settled.not_derives_self ht,
      fun n => settled.baseChain_eq_ancestors ht⟩⟩
  · exact ⟨last.use, (Apart.run before).1.undisplaced last⟩

/-- A class of ledgers is registered under the first token for a constructed type. A generic class
of books extends it, so the books of numbers displace it and are their own base. -/
theorem exists_displaced : ∃ (u v : Universe) (ledger books : TypeDescriptor),
    ReflTransGen Operation initial u ∧ u.Operation v ∧ u.find? ledger.token = some ledger ∧
      v.find? ledger.token = some books ∧ ledger ≠ books ∧ books.base = some books.token := by
  let ledger : TypeDescriptor :=
    { token := .ofParts Token.constructedTable 1, namespaceName := "Shop", name := "Ledger",
      kind := .classType, base := some FrameworkType.object.token }
  obtain ⟨u₁, registered⟩ : ∃ v, initial.register ledger = .ok v := ⟨_, rfl⟩
  let d := (((Declaration.start u₁).1.asClass "Shop" "Book").extending ledger.token).withParameter
    ⟨"T", .invariant⟩
  obtain ⟨book, u₂, built⟩ : ∃ t v, d.build u₁.allocate.2 = (.ok t, v) := by
    cases registered
    exact ⟨_, _, rfl⟩
  obtain ⟨books, u₃, ofNumbers⟩ : ∃ t v,
      u₂.instantiate book [(NumericKind.integer .int32).descriptor] = .ok (t, v) := by
    cases registered
    cases built
    exact ⟨_, _, rfl⟩
  have run : ReflTransGen Operation initial u₂ := by
    have build := Operation.build (u := u₁.allocate.2) d
    rw [built] at build
    exact .tail (.tail (.single (.register registered)) .allocate) build
  refine ⟨u₂, u₃, ledger, books, run, .instantiate ofNumbers, ?_⟩
  cases registered
  cases built
  cases ofNumbers
  decide

/-- Types can be lost, and a type can become its own base. -/
theorem not_append_only :
    (¬∀ u v : Universe, ReflTransGen Operation initial u → ReflTransGen Operation u v →
      u.Retains v) ∧
    ¬∀ u : Universe, ReflTransGen Operation initial u → ∀ t ∈ u, ¬u.Derives t t := by
  obtain ⟨u, v, ledger, books, run, last, before, after, other, base⟩ := exists_displaced
  refine ⟨fun retains => ?_, fun acyclic => ?_⟩
  · have kept := retains u v run (.single last) _ _ before
    exact other (Option.some.inj (kept.symm.trans after))
  · have known : books ∈ v := (mem_of_find?_eq_some after).1
    exact acyclic v (.tail run last) books known (.base base known)

/-- Ledgers under the first token for a constructed type are displaced, and under a token of another
table they are kept. -/
theorem append_only_unless_displaced_ledger :
    (∃ u v : Universe, ReflTransGen Operation initial u ∧ u.Operation v ∧ u.Displaces v ∧
      ¬u.Retains v) ∧
    ∃ (u v : Universe) (ledger : TypeDescriptor), ReflTransGen Undisplaced initial u ∧
      u.Undisplaced v ∧ u.nextConstructed < v.nextConstructed ∧ v.find? ledger.token = some ledger ∧
      ¬v.Derives ledger ledger ∧ v.baseChain 100 ledger.base = v.ancestors ledger := by
  constructor
  · obtain ⟨u, v, ledger, books, run, last, before, after, other, -⟩ := exists_displaced
    have lost : ¬u.Retains v := fun kept =>
      other (Option.some.inj ((kept _ _ before).symm.trans after))
    obtain ⟨retains_iff, -⟩ := append_only_unless_displaced u v
    exact ⟨u, v, run, last, not_not.mp (mt (retains_iff last).mpr lost), lost⟩
  · let ledger : TypeDescriptor :=
      { token := .ofParts Token.declaredTable 1000, namespaceName := "Shop", name := "Ledger",
        kind := .classType, base := some FrameworkType.object.token }
    obtain ⟨u, registered⟩ : ∃ v, initial.register ledger = .ok v := ⟨_, rfl⟩
    obtain ⟨optional, v, ofNumbers⟩ : ∃ t v,
        u.optionalOf (NumericKind.integer .int32).descriptor = .ok (t, v) := by
      cases registered
      exact ⟨_, _, rfl⟩
    have first : initial.Apart u := .register (by decide) registered
    have second : u.Apart v := by
      have rows : v.nextConstructed ≤ 2 ^ (24 : Nat) := by
        cases registered
        cases ofNumbers
        decide
      refine .step (.optionalOf ?_ ofNumbers) rows
      cases registered
      decide
    obtain ⟨-, -, ofFirst⟩ := append_only_unless_displaced initial u
    obtain ⟨-, ofUses, ofSecond⟩ := append_only_unless_displaced u v
    have uses : ReflTransGen Undisplaced initial u := .single (ofFirst .refl first)
    have last : u.Undisplaced v := ofSecond (.single first) second
    obtain ⟨retains, ends⟩ := ofUses uses (.single last)
    have found : v.find? ledger.token = some ledger := by
      refine retains _ _ ?_
      cases registered
      decide
    obtain ⟨acyclic, chain⟩ := ends ledger found
    refine ⟨u, v, ledger, uses, last, ?_, found, acyclic, chain 100 ?_⟩
    all_goals
      cases registered
      cases ofNumbers
      decide

end TypeConversion.Universe
