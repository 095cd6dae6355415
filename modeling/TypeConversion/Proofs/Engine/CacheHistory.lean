import TypeConversion.Cache

/-!
# The history of a cache

A cache is asked for entries of any pairs at any generations, with classifiers that can have effects
on a state, and it is cleared at times.

* `ConverterCache.getOrClassify_cases`: a call is answered by what is remembered or by classifying.
* `CacheHistory`: a cache, with the runs of classifiers and the number of calls since it was last
  cleared. Runs are logged by the classifiers themselves (`ClassifierRun.logged`).
* `CacheHistory.Answers`: what a call does to the history in either case (`answers_get`).
* `CacheHistory.Accounted`: all that is remembered comes from a run, and the counts are those of
  what happened. Requests keep it so (`Accounted.serve`).
* `cache_accounts_for_history`: what a call returns and remembers after every sequence of requests.
-/

namespace TypeConversion

variable {σ : Type}

/-- A classifier, which can have an effect on a state. -/
abbrev Classifier (σ : Type) := σ → Classification × σ

namespace ConverterCache

variable {key other : PairKey} {generation : Nat} {cacheNegative : Bool} {entry : CacheEntry}

/-- A call is answered by what is remembered, if that is not older than the requested generation,
and else by classifying. -/
theorem getOrClassify_cases (c : ConverterCache) (key : PairKey) (generation : Nat)
    (cacheNegative : Bool) (s : σ) (classify : σ → Id (Classification × σ)) :
    (∃ stored, c.find? key = some stored ∧ generation ≤ stored.generation ∧
      c.getOrClassify key generation cacheNegative s classify = (stored, c.countHit, s)) ∨
    (∀ stored, c.find? key = some stored → stored.generation < generation) ∧
      c.getOrClassify key generation cacheNegative s classify =
        ({ generation, classification := (classify s).1 },
          c.countMiss.record key cacheNegative { generation, classification := (classify s).1 },
          (classify s).2) := by
  cases found : c.current? key generation with
  | some stored =>
    have known := found
    rw [current?, Option.filter_eq_some_iff, decide_eq_true_iff] at known
    refine .inl ⟨stored, known.1, known.2, ?_⟩
    simp only [getOrClassify, found]
    rfl
  | none =>
    refine .inr ⟨fun stored known => ?_, ?_⟩
    · simpa [current?, known] using found
    · simp only [getOrClassify, found]
      rfl

theorem find?_record (c : ConverterCache) :
    (c.record key cacheNegative entry).find? other =
      if (cacheNegative || entry.classification.isConvertible) = true ∧ other = key then some entry
      else c.find? other := by
  rw [record]
  split <;> simp_all

theorem size_record_le (c : ConverterCache) :
    (c.record key cacheNegative entry).size ≤ c.size + 1 := by
  rw [record]
  split
  · rw [size, store, Table.size_insert]
    split
    · exact Nat.le_succ _
    · exact Nat.le_refl _
  · exact Nat.le_succ _

@[simp] theorem hits_record (c : ConverterCache) :
    (c.record key cacheNegative entry).hits = c.hits := by
  rw [record]
  split <;> rfl

@[simp] theorem misses_record (c : ConverterCache) :
    (c.record key cacheNegative entry).misses = c.misses := by
  rw [record]
  split <;> rfl

end ConverterCache

/-- A run of a classifier: the pair and the generation it was passed for, and its outcome. -/
structure ClassifierRun where
  key : PairKey
  generation : Nat
  classification : Classification

namespace ClassifierRun

/-- The entry that a run makes. -/
def entry (r : ClassifierRun) : CacheEntry :=
  { generation := r.generation, classification := r.classification }

/-- A classifier that logs its runs, the last one first. -/
def logged (key : PairKey) (generation : Nat) (classify : Classifier σ) :
    σ × List ClassifierRun → Id (Classification × σ × List ClassifierRun) :=
  fun (state, runs) =>
    let (classification, state) := classify state
    pure (classification, state, ⟨key, generation, classification⟩ :: runs)

end ClassifierRun

/-- A request to a cache. -/
inductive CacheRequest (σ : Type)
  | get (key : PairKey) (generation : Nat) (cacheNegative : Bool) (classify : Classifier σ)
  | stats
  | clear

/-- Whether a request clears the cache. -/
def CacheRequest.isClear : CacheRequest σ → Bool
  | clear => true
  | get .. | stats => false

/-- A cache, the state that classifiers work on, and what happened since the cache was cleared. -/
structure CacheHistory (σ : Type) where
  cache : ConverterCache := {}
  state : σ
  runs : List ClassifierRun := []
  calls : Nat := 0

namespace CacheHistory

/-- Call for the entry of a pair. -/
def get (h : CacheHistory σ) (key : PairKey) (generation : Nat) (cacheNegative : Bool)
    (classify : Classifier σ) : CacheEntry × CacheHistory σ :=
  let (entry, cache, state, runs) := Id.run <|
    h.cache.getOrClassify key generation cacheNegative (h.state, h.runs)
      (ClassifierRun.logged key generation classify)
  (entry, ⟨cache, state, runs, h.calls + 1⟩)

/-- What a request leads to. -/
def serve (h : CacheHistory σ) : CacheRequest σ → CacheHistory σ
  | .get key generation cacheNegative classify =>
    (h.get key generation cacheNegative classify).2
  | .stats => h
  | .clear => { state := h.state }

/-- What a sequence of requests leads to. -/
def serveAll (h : CacheHistory σ) (requests : List (CacheRequest σ)) : CacheHistory σ :=
  requests.foldl serve h

/-- How a call is answered, and what it leads to. -/
inductive Answers (h : CacheHistory σ) (key : PairKey) (generation : Nat) (cacheNegative : Bool)
    (classify : Classifier σ) : CacheEntry → CacheHistory σ → Prop
  | remembered {stored : CacheEntry} (found : h.cache.find? key = some stored)
      (recent : generation ≤ stored.generation) :
      Answers h key generation cacheNegative classify stored
        { h with cache := h.cache.countHit, calls := h.calls + 1 }
  | classified {run : ClassifierRun} (ran : run = ⟨key, generation, (classify h.state).1⟩)
      (outdated : ∀ stored, h.cache.find? key = some stored → stored.generation < generation) :
      Answers h key generation cacheNegative classify run.entry
        ⟨h.cache.countMiss.record key cacheNegative run.entry, (classify h.state).2, run :: h.runs,
          h.calls + 1⟩

/-- All that is remembered comes from a run for its pair, and the counts are those of what happened:
calls, runs, and pairs that have a run. -/
structure Accounted (h : CacheHistory σ) : Prop where
  made : ∀ key entry, h.cache.find? key = some entry → ∃ run ∈ h.runs, run.key = key ∧
    run.entry = entry
  calls : h.cache.hits + h.cache.misses = h.calls
  runs : h.cache.misses = h.runs.length
  size : h.cache.size ≤ h.cache.misses

variable {h h' : CacheHistory σ} {key other : PairKey} {generation : Nat} {cacheNegative : Bool}
  {classify : Classifier σ} {entry stored : CacheEntry}

/-! ## Calls -/

theorem answers_get (h : CacheHistory σ) (key : PairKey) (generation : Nat) (cacheNegative : Bool)
    (classify : Classifier σ) :
    h.Answers key generation cacheNegative classify
      (h.get key generation cacheNegative classify).1
      (h.get key generation cacheNegative classify).2 := by
  rcases h.cache.getOrClassify_cases key generation cacheNegative (h.state, h.runs)
    (ClassifierRun.logged key generation classify)
    with ⟨stored, found, recent, hit⟩ | ⟨outdated, miss⟩
  · rw [get, hit]
    exact .remembered found recent
  · rw [get, miss]
    exact .classified rfl outdated

namespace Answers

variable (a : h.Answers key generation cacheNegative classify entry h')

include a

theorem recent : generation ≤ entry.generation := by
  cases a with
  | remembered _ recent => exact recent
  | classified ran =>
    subst ran
    exact Nat.le_refl _

/-- A call changes at most what is remembered of its pair. -/
theorem find? (other : PairKey) : h'.cache.find? other = h.cache.find? other ∨
    other = key ∧ h'.cache.find? other = some entry ∧
      (cacheNegative = false → entry.classification.isConvertible = true) := by
  cases a with
  | remembered => exact .inl rfl
  | classified =>
    simp only [ConverterCache.find?_record]
    split
    · rename_i kept
      refine .inr ⟨kept.2, rfl, fun positive => ?_⟩
      simpa [positive] using kept.1
    · exact .inl rfl

/-- What is remembered of a pair is replaced by what is newer only. -/
theorem newer (found : h.cache.find? other = some stored) :
    ∃ stored', h'.cache.find? other = some stored' ∧ stored.generation ≤ stored'.generation := by
  rcases a.find? other with kept | ⟨rfl, replaced, -⟩
  · exact ⟨stored, kept.trans found, Nat.le_refl _⟩
  · refine ⟨entry, replaced, ?_⟩
    cases a with
    | remembered found' =>
      rw [found] at found'
      cases found'
      exact Nat.le_refl _
    | classified ran outdated =>
      subst ran
      exact Nat.le_of_lt (outdated stored found)

end Answers

/-! ## Sequences of requests -/

theorem accounted_start (state : σ) : Accounted { state } where
  made _ _ found := nomatch found
  calls := rfl
  runs := rfl
  size := Nat.le_refl _

namespace Accounted

/-- A call returns what a run for its pair made. -/
theorem returned (acc : h.Accounted)
    (a : h.Answers key generation cacheNegative classify entry h') :
    ∃ run ∈ h'.runs, run.key = key ∧ run.entry = entry := by
  cases a with
  | remembered found => exact acc.made key _ found
  | classified ran =>
    subst ran
    exact ⟨_, List.mem_cons_self, rfl, rfl⟩

theorem answers (acc : h.Accounted)
    (a : h.Answers key generation cacheNegative classify entry h') : h'.Accounted := by
  have returned := acc.returned a
  have changes := a.find?
  cases a with
  | remembered found recent =>
    refine ⟨acc.made, ?_, acc.runs, acc.size⟩
    rw [← acc.calls]
    exact Nat.add_right_comm ..
  | @classified run _ _ =>
    constructor
    case made =>
      intro other entry found
      rcases changes other with kept | ⟨rfl, replaced, -⟩
      · obtain ⟨run, mem, made⟩ := acc.made other entry (kept ▸ found)
        exact ⟨run, List.mem_cons_of_mem _ mem, made⟩
      · obtain rfl := Option.some.inj (replaced.symm.trans found)
        exact returned
    case calls =>
      simp only [ConverterCache.hits_record, ConverterCache.misses_record, ← acc.calls]
      rfl
    case runs =>
      simp only [ConverterCache.misses_record, List.length_cons, ← acc.runs]
      rfl
    case size =>
      rw [ConverterCache.misses_record]
      exact Nat.le_trans (ConverterCache.size_record_le _) (Nat.succ_le_succ acc.size)

/-- **A request keeps the account.** -/
theorem serve (acc : h.Accounted) (r : CacheRequest σ) : (h.serve r).Accounted := by
  cases r with
  | get key generation cacheNegative classify =>
    exact acc.answers (h.answers_get key generation cacheNegative classify)
  | stats => exact acc
  | clear => exact accounted_start h.state

theorem serveAll (acc : h.Accounted) (requests : List (CacheRequest σ)) :
    (h.serveAll requests).Accounted := by
  induction requests generalizing h with
  | nil => exact acc
  | cons r rest ih => exact ih (acc.serve r)

end Accounted

/-- Until the cache is cleared, what it remembers of a pair is only replaced by what is newer. -/
theorem newer_of_serveAll {requests : List (CacheRequest σ)}
    (kept : ∀ r ∈ requests, r.isClear = false) (found : h.cache.find? key = some stored) :
    ∃ stored', (h.serveAll requests).cache.find? key = some stored' ∧
      stored.generation ≤ stored'.generation := by
  induction requests generalizing h stored with
  | nil => exact ⟨stored, found, Nat.le_refl _⟩
  | cons r rest ih =>
    obtain ⟨here, rest⟩ := List.forall_mem_cons.mp kept
    obtain ⟨next, found, older⟩ : ∃ next, (h.serve r).cache.find? key = some next ∧
        stored.generation ≤ next.generation := by
      cases r with
      | get pair generation cacheNegative classify =>
        exact (h.answers_get pair generation cacheNegative classify).newer found
      | stats => exact ⟨stored, found, Nat.le_refl _⟩
      | clear => cases here
    obtain ⟨last, found, newer⟩ := ih rest found
    exact ⟨last, found, Nat.le_trans older newer⟩

/-- **A cache accounts for its history.** After every sequence of requests, its counts are those of
the calls and of the runs of classifiers since it was cleared, and it remembers no more pairs than
there were runs. A call returns what a run for its pair made, at the requested generation or a later
one, and runs its classifier exactly if nothing so recent is remembered of the pair. What is
remembered of a pair is only replaced by what is newer, and by no negative outcome if those are not
kept. -/
theorem cache_accounts_for_history (state : σ) (requests : List (CacheRequest σ)) :
    let h : CacheHistory σ := serveAll { state } requests
    (h.cache.stats.hits + h.cache.stats.misses = h.calls ∧
      h.cache.stats.misses = h.runs.length ∧
      h.cache.stats.entries ≤ h.cache.stats.misses ∧
      ∃ keys : List PairKey, keys.Nodup ∧ keys.length = h.cache.stats.entries ∧
        ∀ key, key ∈ keys ↔ (h.cache.find? key).isSome = true) ∧
    (∀ key generation cacheNegative classify entry h',
      h.get key generation cacheNegative classify = (entry, h') →
      generation ≤ entry.generation ∧
      (∃ run ∈ h'.runs, run.key = key ∧ run.entry = entry) ∧
      ((∃ stored, h.cache.find? key = some stored ∧ generation ≤ stored.generation) →
        h'.runs = h.runs ∧ h'.state = h.state) ∧
      ((∀ stored, h.cache.find? key = some stored → stored.generation < generation) →
        h'.runs = ⟨key, generation, (classify h.state).1⟩ :: h.runs ∧
          h'.state = (classify h.state).2) ∧
      ∀ other, h'.cache.find? other = h.cache.find? other ∨
        other = key ∧ h'.cache.find? other = some entry ∧
          (cacheNegative = false → entry.classification.isConvertible = true)) ∧
    ∀ later : List (CacheRequest σ), (∀ r ∈ later, r.isClear = false) →
      ∀ key stored, h.cache.find? key = some stored →
        ∃ stored', (h.serveAll later).cache.find? key = some stored' ∧
          stored.generation ≤ stored'.generation := by
  intro h
  have acc : h.Accounted := (accounted_start state).serveAll requests
  refine ⟨⟨acc.calls, acc.runs, acc.size, h.cache.entries.entries.map Prod.fst,
    h.cache.entries.nodup, List.length_map .., fun key => (Table.isSome_lookup_iff _ key).symm⟩,
    fun key generation cacheNegative classify entry h' answered => ?_,
    fun later kept key stored found => newer_of_serveAll kept found⟩
  have a := h.answers_get key generation cacheNegative classify
  rw [answered] at a
  refine ⟨a.recent, acc.returned a, fun ⟨stored, found, recent⟩ => ?_, fun outdated => ?_, a.find?⟩
  · cases a with
    | remembered => exact ⟨rfl, rfl⟩
    | classified _ outdated => exact absurd (outdated stored found) (Nat.not_lt.mpr recent)
  · cases a with
    | remembered found recent => exact absurd (outdated _ found) (Nat.not_lt.mpr recent)
    | classified ran =>
      subst ran
      exact ⟨rfl, rfl⟩

/-- A conversion was found at the fifth generation, and none at the seventh, which is not kept. The
fifth is still answered by what was found, for the seventh the classifier runs a third time. -/
theorem cache_accounts_for_history_outdated :
    let key : PairKey := (FrameworkType.string.token, FrameworkType.object.token)
    let finds : Classifier Nat := fun runs =>
      (.convertible ⟨FrameworkType.string.descriptor, FrameworkType.object.descriptor, .identity⟩,
        runs + 1)
    let misses : Classifier Nat := fun runs => (.noConversion, runs + 1)
    let h := serveAll { state := 0 } [.get key 5 false finds, .get key 7 false misses]
    h.cache.stats = ⟨0, 2, 1⟩ ∧ h.calls = 2 ∧
      (h.get key 5 false misses).2.state = 2 ∧ (h.get key 7 false misses).2.state = 3 := by
  intro key finds misses h
  obtain ⟨⟨calls, -, -, -⟩, answered, -⟩ :=
    cache_accounts_for_history 0 [.get key 5 false finds, .get key 7 false misses]
  have stored : (h.cache.find? key).map CacheEntry.generation = some 5 := by decide
  obtain ⟨entry, found, generation⟩ := Option.map_eq_some_iff.mp stored
  obtain ⟨-, -, idle, -⟩ := answered key 5 false misses _ _ rfl
  obtain ⟨-, -, -, ran, -⟩ := answered key 7 false misses _ _ rfl
  refine ⟨by decide, calls.symm, (idle ⟨entry, found, Nat.le_of_eq generation.symm⟩).2,
    (ran fun other known => ?_).2⟩
  obtain rfl := Option.some.inj (found.symm.trans known)
  rw [generation]
  decide

end CacheHistory

end TypeConversion
