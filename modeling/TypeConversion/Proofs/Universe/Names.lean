import TypeConversion.Proofs.Universe.Preservation
import TypeConversion.Proofs.Universe.Entries

/-!
# The table of names

Every type is entered under its full name. The name of a declared type has to be new, that of a
constructed type takes the place of whatever had the name.

* `Universe.Named`: what the table of names keeps to, and how constructed types are named. It holds
  of every built universe (`Built.named`).
-/

namespace TypeConversion.Universe

-- Powers are those of the core library, also where another library has its own.
attribute [local instance (2000)] instPowNat

variable {u v : Universe} {s t : TypeDescriptor}

/-- The table of names has the types of the universe, declared types have names of their own and
constructed types those of their construction. -/
structure Named (u : Universe) : Prop where
  listed : ∀ t ∈ u, (u.tokenOfName? t.fullName).isSome = true
  found : ∀ name k, u.tokenOfName? name = some k → ∃ t ∈ u, t.token = k ∧ t.fullName = name
  declared : ∀ s ∈ u, ∀ t ∈ u, s.constructionKey? = none → t.constructionKey? = none →
    s.fullName = t.fullName → s = t
  made : ∀ t ∈ u, ∀ key, t.constructionKey? = some key → Makes (· ∈ u) key t

theorem names_initial :
    initial.names = builtinTypes.reverse.map fun t => (t.fullName, t.token) := rfl

/-- Each built-in type is entered under its name, which no other one has. -/
theorem tokenOfName?_initial (ht : t ∈ builtinTypes) :
    initial.tokenOfName? t.fullName = some t.token := by
  have entered : (builtinTypes.all fun t => initial.tokenOfName? t.fullName == some t.token)
      = true := by decide +kernel
  exact beq_iff_eq.mp (List.all_eq_true.mp entered t ht)

theorem named_initial : Named initial where
  listed t ht := by
    rw [tokenOfName?_initial (mem_initial.mp ht)]
    rfl
  found name k h := by
    obtain ⟨before, after, entries, -⟩ := List.lookup_eq_some_iff.mp h
    have entered : (name, k) ∈ initial.names := by simp [entries]
    rw [names_initial] at entered
    obtain ⟨t, ht, same⟩ := List.mem_map.mp entered
    obtain ⟨rfl, rfl⟩ := Prod.mk.inj same
    exact ⟨t, mem_initial.mpr (List.mem_reverse.mp ht), rfl, rfl⟩
  declared s hs t ht _ _ same := by
    have entryS := tokenOfName?_initial (mem_initial.mp hs)
    rw [same, tokenOfName?_initial (mem_initial.mp ht)] at entryS
    exact eq_of_token_eq hs ht (Option.some.inj entryS).symm
  made t ht key h := by
    have plain : ∀ t ∈ builtinTypes, t.constructionKey? = none := by decide
    rw [plain t (mem_initial.mp ht)] at h
    cases h

theorem Named.congr (hu : u.Named) (same : u.SameTables v) : v.Named where
  listed t ht := by
    rw [tokenOfName?, same.names]
    exact hu.listed t ((mem_congr same.types).mp ht)
  found name k h := by
    rw [tokenOfName?, same.names] at h
    exact (hu.found name k h).imp fun t ht => ⟨(mem_congr same.types).mpr ht.1, ht.2⟩
  declared s hs t ht :=
    hu.declared s ((mem_congr same.types).mp hs) t ((mem_congr same.types).mp ht)
  made t ht key h :=
    (hu.made t ((mem_congr same.types).mp ht) key h).mono fun _ => (mem_congr same.types).mpr

/-- A new type is found under its name. A declared type needs a name that no declared type has, and
a constructed type has the name that its construction gives it. -/
theorem Named.publish (hu : u.Named) (fresh : u.find? t.token = none)
    (unnamed : t.constructionKey? = none → u.tokenOfName? t.fullName = none)
    (makes : ∀ key, t.constructionKey? = some key → Makes (· ∈ u) key t) :
    (u.publish t).Named where
  listed s hs := by
    rw [tokenOfName?_publish]
    split
    · rfl
    · rename_i other
      rcases (mem_add rfl fresh).mp hs with rfl | hs
      · exact absurd rfl other
      · exact hu.listed s hs
  found name k h := by
    rw [tokenOfName?_publish] at h
    split at h
    · rename_i same
      exact ⟨t, (mem_add rfl fresh).mpr (.inl rfl), Option.some.inj h, same.symm⟩
    · exact (hu.found name k h).imp fun s hs => ⟨(mem_add rfl fresh).mpr (.inr hs.1), hs.2⟩
  declared := by
    have new : ∀ s ∈ u, t.constructionKey? = none → s.fullName ≠ t.fullName := by
      intro s hs plain same
      have listed := hu.listed s hs
      rw [same, unnamed plain] at listed
      cases listed
    intro s hs r hr plainS plainR same
    rw [mem_add rfl fresh] at hs hr
    obtain rfl | hs := hs <;> obtain rfl | hr := hr
    · rfl
    · exact absurd same.symm (new r hr plainS)
    · exact absurd same (new s hs plainR)
    · exact hu.declared s hs r hr plainS plainR same
  made s hs key h := by
    have le : ∀ r ∈ u, r ∈ u.publish t := fun r hr => (mem_add rfl fresh).mpr (.inr hr)
    rcases (mem_add rfl fresh).mp hs with rfl | hs
    · exact (makes key h).mono le
    · exact (hu.made s hs key h).mono le

/-- **A step keeps to the names.** -/
theorem Named.step (hu : u.Named) (wellFormed : u.WellFormed) (s : u.Step v) (rows : v.WithinRows) :
    v.Named := by
  cases s.enters with
  | nothing same => exact hu.congr same
  | declared made ok same =>
    obtain ⟨-, fresh, unnamed, -⟩ := register_eq_ok made
    refine (hu.publish fresh (fun _ => unnamed) fun key h => ?_).congr same
    rw [ok.2] at h
    cases h
  | restored recorded missing _ _ =>
    obtain ⟨s, hs, token, -⟩ := wellFormed.constructed _ _ recorded
    rw [← token, mem_iff.mp hs] at missing
    cases missing
  | @constructed key t _ token makes same =>
    have small : u.nextConstructed < 2 ^ (24 : Nat) := by
      have taken := same.nextConstructed
      have left := rows.constructed
      simp only [record] at taken
      omega
    have before : u.WithinRows := (s.changes wellFormed).withinRows rows
    have fresh : u.find? t.token = none :=
      token ▸ wellFormed.toNumbered.fresh small before.declared
    have keyed : t.constructionKey? = some key :=
      wellFormed.toLayered.constructionKey?_of_makes makes
    have published : (u.publish t).Named := by
      refine hu.publish fresh (fun plain => ?_) fun other h => ?_
      · rw [keyed] at plain
        cases plain
      · obtain rfl := Option.some.inj (keyed.symm.trans h)
        exact makes
    have entered : (u.record key t).Named :=
      ⟨published.listed, published.found, published.declared, published.made⟩
    exact entered.congr same

theorem Built.named (h : u.Built) : u.Named := by
  induction h with
  | initial => exact named_initial
  | step built s rows ih => exact ih.step built.wellFormed s rows

end TypeConversion.Universe
