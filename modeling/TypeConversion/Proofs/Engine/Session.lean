import TypeConversion.Proofs.Engine.Natives

/-!
# Sessions of engines over a universe

A session is a universe that several engines share. In any order, the universe grows, engines are
created, converters and providers are registered with an engine, engines are asked, and their caches
are cleared.

* `Request`, `Answer` and `Engine.ask`: what engines are asked and what they answer.
* `Session.Step` and `Session.Reached`: what can happen to a session, and the sessions that it leads
  to.
* `Session.Reached.coherent`: in every session, all engines are coherent with the universe.
* `Session.ask_eq_ask_anew`: every engine answers as a new one with its configuration and its
  registrations would.
-/

namespace TypeConversion

open Universe

/-- What an engine is asked. -/
inductive Request
  | classify (source target : TypeDescriptor)
  | getConverter (source target : TypeDescriptor)
  | converterWith (source target : TypeDescriptor) (mode : OverflowMode)
  | converter (source target : TypeDescriptor)
  | convert (source target : TypeDescriptor) (v : Value)
  | warm (pairs : List (TypeDescriptor × TypeDescriptor))
  | nativeConverter (source target : NativeType)

/-- What an engine answers. -/
inductive Answer
  | classification (c : Classification)
  | found (c : Option Converter)
  | converter (outcome : Except Error Converter)
  | value (outcome : Except Error Value)
  | count (n : Nat)

/-- The rule that a classified conversion comes from. -/
def Answer.category? : Answer → Option ConversionCategory
  | classification c => c.category?
  | found _ | converter _ | value _ | count _ => none

/-- The types of a request belong to the universe. -/
def Request.Over (u : Universe) : Request → Prop
  | classify s t | getConverter s t | converterWith s t _ | converter s t | convert s t _ =>
    s ∈ u ∧ t ∈ u
  | warm pairs => ∀ pair ∈ pairs, pair.1 ∈ u ∧ pair.2 ∈ u
  | nativeConverter _ _ => True

namespace Engine

/-- Ask an engine: the answer, and the universe and the engine afterwards. -/
def ask (e : Engine Id) (u : Universe) : Request → Answer × Universe × Engine Id
  | .classify s t =>
    let (c, e) := Id.run (e.classify u s t)
    (.classification c, u, e)
  | .getConverter s t =>
    let (c, e) := Id.run (e.getConverter u s t)
    (.found c, u, e)
  | .converterWith s t mode =>
    let (c, e) := Id.run (e.converterWith u s t mode)
    (.converter c, u, e)
  | .converter s t =>
    let (c, e) := Id.run (e.converter u s t)
    (.converter c, u, e)
  | .convert s t v =>
    let (w, e) := Id.run (e.convert u s t v)
    (.value w, u, e)
  | .warm pairs =>
    let (n, e) := Id.run (warm u pairs e)
    (.count n, u, e)
  | .nativeConverter source target =>
    let (c, u, e) := Id.run (e.nativeConverter u source target)
    (.converter c, u, e)

/-- The answer to a request and the universe afterwards, where nothing is remembered. -/
def freshAnswer (config : Configuration) (u : Universe) (host : HostRegistry Id) :
    Request → Answer × Universe
  | .classify s t => (.classification (classified config u host s t), u)
  | .getConverter s t => (.found (freshConverter? config u host s t config.overflow), u)
  | .converterWith s t mode => (.converter (freshConverter config u host s t mode), u)
  | .converter s t => (.converter (freshConverter config u host s t config.overflow), u)
  | .convert s t v =>
    (.value ((freshConverter config u host s t config.overflow).bind fun c => c.convert u v), u)
  | .warm pairs => (.count (freshCount config u host pairs), u)
  | .nativeConverter source target =>
    let (c, u) := freshNative config u host source target
    (.converter c, u)

variable {u : Universe} {e : Engine Id} {r : Request}

/-- How the universe grows by a request does not depend on what is remembered. -/
theorem ask_types (e : Engine Id) (u : Universe) (r : Request) :
    (e.ask u r).2.1 = (freshAnswer e.config u e.host r).2 := by
  cases r with
  | nativeConverter source target =>
    change (e.nativeConverter u source target).2.1 = (freshNative e.config u e.host source target).2
    rw [Engine.nativeConverter, freshNative]
    rcases source.descriptor u with ⟨error | s, w⟩
    · rfl
    · simp only
      rcases target.descriptor w with ⟨error | t, v⟩ <;> rfl
  | _ => rfl

/-- **A coherent engine answers** as if nothing were remembered, and stays coherent. -/
theorem Coherent.ask (hu : u.Built) (h : e.Coherent u) (own : r.Over u)
    (rows : (e.ask u r).2.1.WithinRows) :
    (e.ask u r).2.1.Built ∧ u.Extends (e.ask u r).2.1
      ∧ (e.ask u r).1 = (freshAnswer e.config u e.host r).1
      ∧ e.Keeps (e.ask u r).2.1 (e.ask u r).2.2 := by
  have layered := hu.wellFormed.toLayered
  -- Only a request for native types makes the universe grow.
  cases r with
  | classify s t =>
    obtain ⟨e', answered, keeps⟩ := h.classify layered own.1 own.2
    simp only [Engine.ask]
    rw [answered]
    exact ⟨hu, .refl u, rfl, keeps⟩
  | getConverter s t =>
    obtain ⟨e', answered, keeps⟩ := h.getConverter layered own.1 own.2
    simp only [Engine.ask]
    rw [answered]
    exact ⟨hu, .refl u, rfl, keeps⟩
  | converterWith s t mode =>
    obtain ⟨e', answered, keeps⟩ := h.converterWith layered own.1 own.2 mode
    simp only [Engine.ask]
    rw [answered]
    exact ⟨hu, .refl u, rfl, keeps⟩
  | converter s t =>
    obtain ⟨e', answered, keeps⟩ := h.converterWith layered own.1 own.2 e.config.overflow
    simp only [Engine.ask, Engine.converter]
    rw [answered]
    exact ⟨hu, .refl u, rfl, keeps⟩
  | convert s t v =>
    obtain ⟨e', answered, keeps⟩ := h.convert layered own.1 own.2 v
    simp only [Engine.ask]
    rw [answered]
    exact ⟨hu, .refl u, rfl, keeps⟩
  | warm pairs =>
    obtain ⟨e', answered, keeps⟩ := h.warm layered own
    simp only [Engine.ask]
    rw [answered]
    exact ⟨hu, .refl u, rfl, keeps⟩
  | nativeConverter source target =>
    rw [ask_types] at rows
    obtain ⟨built, le, e', answered, keeps⟩ := h.nativeConverter hu source target rows
    simp only [Engine.ask]
    rw [answered]
    exact ⟨built, le, rfl, keeps⟩

/-- A new engine with the configuration of `e`, except that it keeps negative answers or not, on
which the registrations of `e` are made again, oldest first. -/
def anew (e : Engine Id) (cacheNegative : Bool) : Engine Id :=
  e.host.entries.foldr (fun entry made => { made with host := made.host.add entry })
    { config := { e.config with cacheNegative } }

theorem anew_eq (e : Engine Id) (cacheNegative : Bool) :
    e.anew cacheNegative = { config := { e.config with cacheNegative }, host := e.host } := by
  obtain ⟨config, cache, natives, operators, ⟨entries⟩⟩ := e
  rw [anew]
  induction entries with
  | nil => rfl
  | cons entry entries ih =>
    rw [List.foldr_cons, ih]
    rfl

/-- What is answered where nothing is remembered does not depend on whether negative answers are
kept. -/
theorem freshAnswer_cacheNegative (config : Configuration) (cacheNegative : Bool) (u : Universe)
    (host : HostRegistry Id) (r : Request) :
    freshAnswer { config with cacheNegative } u host r = freshAnswer config u host r := by
  cases r <;> rfl

end Engine

/-- A universe and the engines that share it. -/
structure Session where
  types : Universe
  engines : List (Engine Id)

namespace Session

variable {σ τ : Session} {e : Engine Id} {r : Request}

/-- What can happen to an engine over a universe, and what it leads to. -/
inductive Act (u : Universe) (e : Engine Id) : Universe → Engine Id → Prop
  | addConverter {input output : TypeDescriptor} (hi : input ∈ u) (ho : output ∈ u)
      (procedure : Procedure) : Act u e u (e.addConverter input output procedure)
  | addProvider (provide : Provider Id) : Act u e u (e.addProvider provide)
  | clear : Act u e u e.clearCaches
  | ask {r : Request} (own : r.Over u) : Act u e (e.ask u r).2.1 (e.ask u r).2.2

/-- What can happen to a session. -/
inductive Step (σ : Session) : Session → Prop
  | grow {v : Universe} (step : σ.types.Step v) (rows : v.WithinRows) :
      Step σ { σ with types := v }
  | create (config : Configuration) : Step σ { σ with engines := { config } :: σ.engines }
  | act {i : Nat} {e e' : Engine Id} {v : Universe} (known : σ.engines[i]? = some e)
      (act : Act σ.types e v e') (rows : v.WithinRows) : Step σ ⟨v, σ.engines.set i e'⟩

/-- The sessions that start with the initial universe and no engine. -/
inductive Reached : Session → Prop
  | start : Reached ⟨.initial, []⟩
  | step {σ τ : Session} (h : Reached σ) (s : σ.Step τ) : Reached τ

/-- All engines are coherent with the universe, which is a built one. -/
structure Coherent (σ : Session) : Prop where
  built : σ.types.Built
  engines : ∀ e ∈ σ.engines, e.Coherent σ.types

/-- What happens to a coherent engine leaves it coherent with the universe that it leads to. -/
theorem Act.coherent {u v : Universe} {e e' : Engine Id} (act : Act u e v e') (hu : u.Built)
    (h : e.Coherent u) (rows : v.WithinRows) : v.Built ∧ u.Extends v ∧ e'.Coherent v := by
  cases act with
  | addConverter hi ho procedure => exact ⟨hu, .refl u, h.addConverter hi ho procedure⟩
  | addProvider provide => exact ⟨hu, .refl u, h.addProvider provide⟩
  | clear => exact ⟨hu, .refl u, h.clearCaches⟩
  | ask own =>
    obtain ⟨built, le, -, keeps⟩ := h.ask hu own rows
    exact ⟨built, le, keeps.coherent⟩

/-- **A step keeps a session coherent.** -/
theorem Coherent.step (h : σ.Coherent) (s : σ.Step τ) : τ.Coherent := by
  cases s with
  | grow step rows =>
    obtain ⟨wellFormed, le⟩ := h.built.wellFormed.step step rows
    exact ⟨.step h.built step rows, fun e he =>
      (h.engines e he).extends h.built.wellFormed wellFormed le⟩
  | create config =>
    refine ⟨h.built, List.forall_mem_cons.mpr ⟨Engine.coherent_new ?_, h.engines⟩⟩
    exact fun _ _ _ mem => nomatch mem
  | act known act rows =>
    obtain ⟨built, le, coherent⟩ :=
      act.coherent h.built (h.engines _ (List.mem_of_getElem? known)) rows
    refine ⟨built, fun e he => ?_⟩
    rcases List.mem_or_eq_of_mem_set he with he | rfl
    · exact (h.engines e he).extends h.built.wellFormed built.wellFormed le
    · exact coherent

/-- **Every session is coherent**, by induction on what happened to it. -/
theorem Reached.coherent (h : σ.Reached) : σ.Coherent := by
  induction h with
  | start => exact ⟨.initial, fun _ he => nomatch he⟩
  | step _ s ih => exact ih.step s

/-- **The caches are transparent.** In every session, every engine answers a request as a new engine
with its configuration and its registrations would, whether that one keeps negative answers or not,
and the universe is the same afterwards. -/
theorem ask_eq_ask_anew (h : σ.Reached) (he : e ∈ σ.engines) (own : r.Over σ.types)
    (rows : (e.ask σ.types r).2.1.WithinRows) (cacheNegative : Bool) :
    (e.ask σ.types r).1 = ((e.anew cacheNegative).ask σ.types r).1
      ∧ (e.ask σ.types r).2.1 = ((e.anew cacheNegative).ask σ.types r).2.1 := by
  obtain ⟨built, engines⟩ := h.coherent
  have coherent := engines e he
  have new : (e.anew cacheNegative).Coherent σ.types := by
    rw [Engine.anew_eq]
    exact Engine.coherent_new coherent.host
  have fresh : Engine.freshAnswer (e.anew cacheNegative).config σ.types
      (e.anew cacheNegative).host r = Engine.freshAnswer e.config σ.types e.host r := by
    rw [Engine.anew_eq, Engine.freshAnswer_cacheNegative]
  have types : (e.ask σ.types r).2.1 = ((e.anew cacheNegative).ask σ.types r).2.1 := by
    rw [Engine.ask_types, Engine.ask_types, fresh]
  obtain ⟨-, -, answered, -⟩ := coherent.ask built own rows
  obtain ⟨-, -, answeredAnew, -⟩ := new.ask built own (types ▸ rows)
  exact ⟨by rw [answered, answeredAnew, fresh], types⟩

/-- An engine that remembers that there is no conversion from strings to truth values finds one when
the host has registered it, as a new engine does that keeps no negative answers. -/
theorem ask_eq_ask_anew_registered :
    let s := FrameworkType.string.descriptor
    let t := FrameworkType.boolean.descriptor
    ∃ e : Engine Id,
      ((e.cache.find? (Engine.key s t)).map fun entry => entry.classification.isConvertible)
          = some false
        ∧ ((e.anew false).ask .initial (.classify s t)).1.category? = some .host := by
  intro s t
  let first : Engine Id := (({} : Engine Id).ask .initial (.classify s t)).2.2
  let e : Engine Id := first.addConverter s t fun _ => .ok (.bool true)
  have hs : s ∈ Universe.initial := wellFormed_initial.framework .string
  have ht : t ∈ Universe.initial := wellFormed_initial.framework .boolean
  have rows : Universe.initial.WithinRows := Built.initial.withinRows
  have created : Reached ⟨.initial, [{}]⟩ := .step .start (.create {})
  have asked : Reached ⟨.initial, [first]⟩ :=
    .step created (.act (i := 0) rfl (.ask (r := .classify s t) ⟨hs, ht⟩) rows)
  have registered : Reached ⟨.initial, [e]⟩ :=
    .step asked (.act (i := 0) rfl (.addConverter hs ht _) rows)
  have answers := ask_eq_ask_anew (r := .classify s t) registered List.mem_cons_self ⟨hs, ht⟩
    rows false
  have answered : (e.ask .initial (.classify s t)).1.category? = some .host := by decide +kernel
  refine ⟨e, by decide +kernel, ?_⟩
  rw [← answers.1]
  exact answered

end Session

end TypeConversion
