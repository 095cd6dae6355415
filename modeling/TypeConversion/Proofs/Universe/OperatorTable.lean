import TypeConversion.Proofs.Universe.AppendOnly
import TypeConversion.Proofs.Universe.FailedBuilds
import TypeConversion.Proofs.UserDefined.Visible

/-!
# The table of operators

Operators come into a universe one by one, on request or as parts of a declaration, and any of them
can be refused. What has been accepted is the whole story of the table.

* `Universe.Logs u log v`: calls lead from `u` to `v`, and the operators that they have accepted are
  `log`, in this order. `Logs.singly` takes each call apart into calls that accept at most one
  operator, so what is proved of one accepted operator holds of all.
* `Universe.Recorded u log`: the table of `u` is `log`. It is kept by what accepts no operator
  (`Recorded.quiet`) and by an accepted one (`Recorded.admit`), and so by every run.
* `Operator.Fits u o input output`: the sides of an operator are as its declaration requires, for
  the types that are known now.
* `operatorTable_of_logs`: what a run makes of the table.
-/

namespace TypeConversion

-- Powers are those of the core library, also where another library has its own.
attribute [local instance (2000)] instPowNat

variable {u v w : Universe} {o : Operator} {i out t : TypeDescriptor} {declaring : Token}
  {log more before after : List Operator}

/-- The sides of an operator are as its declaration requires, for the types that are known: one of
them is the declaring type or its optional, they are two, and neither is an interface or the
universal object. -/
structure Operator.Fits (u : Universe) (o : Operator) (input output : TypeDescriptor) :
    Prop where
  input_mem : input ∈ u
  output_mem : output ∈ u
  input_token : input.token = o.input
  output_token : output.token = o.output
  distinct : input ≠ output
  onDeclaring : (u.unwrapOptional input).token = o.declaring
    ∨ (u.unwrapOptional output).token = o.declaring
  input_side : input.isInterface = false ∧ input.isFramework .object = false
  output_side : output.isInterface = false ∧ output.isFramework .object = false

theorem Operator.Admitted.fits (h : o.Admitted u i out) : o.Fits u i out where
  input_mem := h.input_mem
  output_mem := h.output_mem
  input_token := h.input_token
  output_token := h.output_token
  distinct := fun same => h.distinct (by rw [← h.input_token, ← h.output_token, same])
  onDeclaring := h.onDeclaring
  input_side := h.input_side
  output_side := h.output_side

namespace Declaration

/-- The operators that are accepted when operators are declared one after another. -/
def accepted (declaring : Token) : List PendingOperator → Universe → List Operator
  | [], _ => []
  | p :: rest, u =>
    match u.declareOperator declaring p.input p.output p.isImplicit p.procedure with
    | .ok (o, v) => o :: accepted declaring rest v
    | .error _ => []

/-- The operators that are accepted when a declaration is built. -/
def acceptedOperators (d : Declaration) (u : Universe) : List Operator :=
  match d.descriptor with
  | .error _ => []
  | .ok t =>
    match u.register t with
    | .error _ => []
    | .ok v => accepted t.token d.operators v

theorem RefusedAtOnce.acceptedOperators {d : Declaration} (h : d.RefusedAtOnce u) :
    d.acceptedOperators u = [] := by
  unfold Declaration.acceptedOperators
  split
  · rfl
  · obtain ⟨e, rejected⟩ := h _ ‹_›
    split
    · rfl
    · rename_i registered
      rw [rejected] at registered
      cases registered

end Declaration

namespace Universe

open Declaration
open Relation (ReflTransGen)

/-! ## Calls -/

/-- A call that declares no operator. -/
inductive Quiet (u : Universe) : Universe → Prop
  | allocate : Quiet u u.allocate.2
  | build (d : Declaration) (none : d.operators = []) : Quiet u (d.build u).2
  | optionalOf {inner t : TypeDescriptor} {v : Universe}
      (made : u.optionalOf inner = .ok (t, v)) : Quiet u v
  | arrayOf {element t : TypeDescriptor} {rank : Nat} {v : Universe}
      (made : u.arrayOf element rank = .ok (t, v)) : Quiet u v
  | instantiate {definition t : TypeDescriptor} {arguments : List TypeDescriptor} {v : Universe}
      (made : u.instantiate definition arguments = .ok (t, v)) : Quiet u v

/-- A call, with the operators that it has accepted. An operator that is refused, and a declaration
that is refused for one, are calls too. -/
inductive Call (u : Universe) : List Operator → Universe → Prop
  | quiet {v : Universe} (h : u.Quiet v) : Call u [] v
  | build (d : Declaration) : Call u (d.acceptedOperators u) (d.build u).2
  | declare (declaring : Token) (p : PendingOperator) :
      Call u (accepted declaring [p] u) (declareAll declaring [p] u).2

/-- An operator that is declared has been accepted. -/
theorem call_of_declareOperator {declaring input output : Token} {isImplicit : Bool}
    {procedure : Procedure}
    (made : u.declareOperator declaring input output isImplicit procedure = .ok (o, v)) :
    u.Call [o] v := by
  have call := Call.declare (u := u) declaring ⟨input, output, isImplicit, procedure⟩
  simpa only [accepted, declareAll, made] using call

/-- Calls one after another, with the operators that they have accepted. -/
inductive Logs (u : Universe) : List Operator → Universe → Prop
  | start : Logs u [] u
  | call {log more : List Operator} {v w : Universe} (run : Logs u log v) (last : v.Call more w) :
      Logs u (log ++ more) w

/-- Calls that accept one operator or none. -/
inductive LogsSingly (u : Universe) : List Operator → Universe → Prop
  | start : LogsSingly u [] u
  | quiet {log : List Operator} {v w : Universe} (run : LogsSingly u log v) (last : v.Quiet w) :
      LogsSingly u log w
  | accept {log : List Operator} {v w : Universe} {declaring : Token} {p : PendingOperator}
      {o : Operator} (run : LogsSingly u log v)
      (made : v.declareOperator declaring p.input p.output p.isImplicit p.procedure = .ok (o, w)) :
      LogsSingly u (log ++ [o]) w

theorem LogsSingly.trans (h : u.LogsSingly log v) (h' : v.LogsSingly more w) :
    u.LogsSingly (log ++ more) w := by
  induction h' with
  | start => rwa [List.append_nil]
  | quiet _ last ih => exact .quiet ih last
  | accept _ made ih =>
    rw [← List.append_assoc]
    exact .accept ih made

theorem LogsSingly.logs (h : u.LogsSingly log v) : u.Logs log v := by
  induction h with
  | start => exact .start
  | @quiet log v w _ last ih =>
    have call := Logs.call ih (.quiet last)
    rwa [List.append_nil] at call
  | accept _ made ih => exact ih.call (call_of_declareOperator made)

theorem logsSingly_declareAll (declaring : Token) (pending : List PendingOperator) (u : Universe) :
    u.LogsSingly (accepted declaring pending u) (declareAll declaring pending u).2 := by
  induction pending generalizing u with
  | nil => exact .start
  | cons p rest ih =>
    unfold accepted declareAll
    cases made : u.declareOperator declaring p.input p.output p.isImplicit p.procedure with
    | error e => exact .start
    | ok result =>
      obtain ⟨o, v⟩ := result
      exact (LogsSingly.accept .start made).trans (ih v)

/-- **Each call is made of calls that accept one operator or none**: a declaration is built without
its operators, and then these are declared. -/
theorem Call.singly (h : u.Call more v) : u.LogsSingly more v := by
  cases h with
  | quiet h => exact .quiet .start h
  | declare declaring p => exact logsSingly_declareAll declaring [p] u
  | build d =>
    rcases d.build_cases u with ⟨refused, e, same⟩ | ⟨t, outcome, v, ht, registered, all, same⟩
    · rw [refused.acceptedOperators, same]
      exact .start
    · have bare : { d with operators := [] }.build u = (.ok t, u.publish t) := by
        have described : { d with operators := [] }.descriptor = .ok t := ht
        simp only [Declaration.build, described, registered]
        rfl
      have first : u.Quiet (u.publish t) := by
        have call := Quiet.build (u := u) { d with operators := [] } rfl
        rwa [bare] at call
      have rest := logsSingly_declareAll t.token d.operators (u.publish t)
      have logged : d.acceptedOperators u = accepted t.token d.operators (u.publish t) := by
        simp only [acceptedOperators, ht, registered]
      rw [all] at rest
      rw [same, logged]
      exact (LogsSingly.quiet .start first).trans rest

theorem Logs.singly (h : u.Logs log v) : u.LogsSingly log v := by
  induction h with
  | start => exact .start
  | call _ last ih => exact ih.trans last.singly

/-- Where an operator has been accepted, the run was in a universe that admits it. -/
theorem LogsSingly.split (h : u.LogsSingly log v) (e : log = before ++ o :: after) :
    ∃ w, u.LogsSingly before w ∧ w.LogsSingly (o :: after) v ∧ ∃ i out, o.Admitted w i out := by
  induction h generalizing after with
  | start => simp at e
  | quiet _ last ih =>
    obtain ⟨x, first, rest, admitted⟩ := ih e
    exact ⟨x, first, .quiet rest last, admitted⟩
  | @accept log v w declaring p o' run made ih =>
    rcases List.eq_nil_or_concat after with rfl | ⟨after', q, rfl⟩
    · obtain ⟨rfl, same⟩ := List.append_inj' e rfl
      obtain rfl := List.singleton_inj.mp same
      obtain ⟨i, out, admitted, -⟩ := declareOperator_eq_ok made
      exact ⟨v, run, .accept .start made, i, out, admitted⟩
    · rw [List.concat_eq_append, ← List.cons_append, ← List.append_assoc] at e
      obtain ⟨rfl, same⟩ := List.append_inj' e rfl
      obtain rfl := List.singleton_inj.mp same
      obtain ⟨x, first, rest, admitted⟩ := ih rfl
      refine ⟨x, first, ?_, admitted⟩
      rw [List.concat_eq_append, ← List.cons_append]
      exact .accept rest made

/-! ## The table -/

/-- A declaring type has no two operators from one type to one other. -/
def OnePerPair (log : List Operator) : Prop :=
  log.Pairwise fun o p => ¬(o.declaring = p.declaring ∧ o.input = p.input ∧ o.output = p.output)

/-- The table of operators is what has been accepted. -/
structure Recorded (u : Universe) (log : List Operator) : Prop where
  operators : u.operators = log
  generation : u.operatorGeneration = log.length
  next : u.nextOperator = log.length + 1
  tokens : log.map Operator.token
    = (List.range log.length).map fun n => .ofParts Token.operatorTable (n + 1)
  single : OnePerPair log

theorem recorded_initial : Recorded initial [] := ⟨rfl, rfl, rfl, rfl, .nil⟩

theorem Quiet.sameOperators (h : u.Quiet v) : v.operators = u.operators ∧
    v.operatorGeneration = u.operatorGeneration ∧ v.nextOperator = u.nextOperator := by
  have constructed {key : ConstructionKey} {t : TypeDescriptor}
      (h : u.Constructs (fun _ => True) key t v) : v.operators = u.operators ∧
        v.operatorGeneration = u.operatorGeneration ∧ v.nextOperator = u.nextOperator := by
    cases h <;> exact ⟨rfl, rfl, rfl⟩
  cases h with
  | allocate => exact ⟨rfl, rfl, rfl⟩
  | optionalOf made => exact constructed (optionalOf_constructs trivial made)
  | arrayOf made => exact constructed (arrayOf_constructs trivial made)
  | instantiate made =>
    exact constructed (instantiate_constructs trivial (fun _ _ => trivial) made)
  | build d none =>
    rcases d.build_cases u with ⟨-, e, same⟩ | ⟨t, outcome, w, -, -, all, same⟩
    · rw [same]
      exact ⟨rfl, rfl, rfl⟩
    · rw [none] at all
      cases all
      rw [same]
      exact ⟨rfl, rfl, rfl⟩

theorem Recorded.quiet (h : Recorded u log) (call : u.Quiet v) : Recorded v log := by
  obtain ⟨operators, generation, next⟩ := call.sameOperators
  exact ⟨operators.trans h.operators, generation.trans h.generation, next.trans h.next, h.tokens,
    h.single⟩

/-- **An accepted operator enters the table at its end**, under the next token. -/
theorem Recorded.admit (h : Recorded u log) (admitted : o.Admitted u i out) :
    Recorded (u.addOperator o) (log ++ [o]) := by
  constructor
  case operators => rw [addOperator, h.operators]
  case generation => rw [addOperator, h.generation, List.length_append, List.length_singleton]
  case next => rw [addOperator, h.next, List.length_append, List.length_singleton]
  case tokens =>
    rw [List.map_append, h.tokens, List.length_append, List.length_singleton, List.range_succ,
      List.map_append, List.map_singleton, List.map_singleton, admitted.token, h.next]
  case single =>
    refine List.pairwise_append.mpr ⟨h.single, List.pairwise_singleton .., fun p hp q hq => ?_⟩
    obtain rfl := List.mem_singleton.mp hq
    exact admitted.single p (h.operators ▸ hp)

theorem LogsSingly.recorded (run : LogsSingly initial log u) : Recorded u log := by
  induction run with
  | start => exact recorded_initial
  | quiet _ last ih => exact ih.quiet last
  | accept _ made ih =>
    obtain ⟨i, out, admitted, rfl⟩ := declareOperator_eq_ok made
    exact ih.admit admitted

/-- The element of every type is known. -/
def KnownElements (u : Universe) : Prop :=
  ∀ t ∈ u, ∀ k, t.element = some k → (u.find? k).isSome = true

theorem Retains.isSome (h : u.Retains v) {k : Token} (known : (u.find? k).isSome = true) :
    (v.find? k).isSome = true := by
  obtain ⟨s, found⟩ := Option.isSome_iff_exists.mp known
  rw [h k s found]
  rfl

/-- What is inside an optional stays inside while types are retained. -/
theorem unwrapOptional_retained (known : u.KnownElements) (h : u.Retains v) (ht : t ∈ u) :
    v.unwrapOptional t = u.unwrapOptional t := by
  unfold unwrapOptional elementOf?
  cases element : t.element with
  | none => rfl
  | some k =>
    obtain ⟨s, found⟩ := Option.isSome_iff_exists.mp (known t ht k element)
    rw [Option.bind_some, Option.bind_some, found, h k s found]

/-- The sides of every operator are as its declaration requires. -/
def Fitting (u : Universe) : Prop := ∀ o ∈ u.operators, ∃ i out, o.Fits u i out

theorem Fitting.retained (h : u.Fitting) (known : u.KnownElements) (retains : u.Retains v)
    (same : v.operators = u.operators) : v.Fitting := by
  intro o ho
  obtain ⟨i, out, fits⟩ := h o (same ▸ ho)
  refine ⟨i, out, retains _ _ fits.input_mem, retains _ _ fits.output_mem, fits.input_token,
    fits.output_token, fits.distinct, ?_, fits.input_side, fits.output_side⟩
  rw [unwrapOptional_retained known retains fits.input_mem,
    unwrapOptional_retained known retains fits.output_mem]
  exact fits.onDeclaring

theorem Fitting.add (h : u.Fitting) (admitted : o.Admitted u i out) :
    (u.addOperator o).Fitting := by
  have kept {p : Operator} {i out : TypeDescriptor} (fits : p.Fits u i out) :
      p.Fits (u.addOperator o) i out :=
    ⟨fits.input_mem, fits.output_mem, fits.input_token, fits.output_token, fits.distinct,
      fits.onDeclaring, fits.input_side, fits.output_side⟩
  intro p hp
  rcases List.mem_append.mp hp with old | new
  · obtain ⟨i, out, fits⟩ := h p old
    exact ⟨i, out, kept fits⟩
  · obtain rfl := List.mem_singleton.mp new
    exact ⟨i, out, kept admitted.fits⟩

theorem Fitting.declareAll (h : u.Fitting) (declaring : Token) (pending : List PendingOperator) :
    (Declaration.declareAll declaring pending u).2.Fitting := by
  induction pending generalizing u with
  | nil => exact h
  | cons p rest ih =>
    unfold Declaration.declareAll
    split
    · rename_i o v made
      obtain ⟨i, out, admitted, rfl⟩ := declareOperator_eq_ok made
      exact ih (h.add admitted)
    · exact h

/-- **A use that retains all types keeps the operators fitting.** -/
theorem Fitting.use (h : u.Fitting) (known : u.KnownElements) (use : u.Use v)
    (retains : u.Retains v) : v.Fitting := by
  cases use with
  | register made =>
    obtain ⟨rfl, -⟩ := register_eq_ok made
    exact h.retained known retains rfl
  | step s =>
    cases s with
    | allocate => exact h.retained known retains rfl
    | optionalOf _ made => exact h.retained known retains (Quiet.optionalOf made).sameOperators.1
    | arrayOf _ made => exact h.retained known retains (Quiet.arrayOf made).sameOperators.1
    | instantiate _ _ made =>
      exact h.retained known retains (Quiet.instantiate made).sameOperators.1
    | declareOperator made =>
      obtain ⟨i, out, admitted, rfl⟩ := declareOperator_eq_ok made
      exact h.add admitted
    | build d _ _ =>
      rcases d.build_cases u with ⟨-, e, same⟩ | ⟨t, outcome, w, -, registered, all, same⟩
      · rwa [same]
      · obtain ⟨-, fresh, -⟩ := register_eq_ok registered
        have published : (u.publish t).Fitting := h.retained known (retains_publish fresh rfl) rfl
        have declared := published.declareAll t.token d.operators
        rw [all] at declared
        rwa [same]

theorem checkElement_of_register (h : u.register t = .ok v) {k : Token}
    (element : t.element = some k) : (u.find? k).isSome = true := by
  simp only [register, throw_bind_else_eq_ok, bind_eq_ok] at h
  obtain ⟨-, _, -, _, -, _, checked, -⟩ := h
  simp only [checkElement, element, Functor.discard] at checked
  cases found : u.find? k with
  | some s => rfl
  | none =>
    simp only [resolve, found] at checked
    cases checked

/-- **A use that retains all types keeps the elements known**: those of a new type are checked, or
it was made of them. -/
theorem KnownElements.enter {declares : TypeDescriptor → Prop} (h : u.KnownElements)
    (settled : u.Settled) (entered : Enters declares (· ∈ u) u v) (retains : u.Retains v) :
    v.KnownElements := by
  have entering {t : TypeDescriptor} (types : v.types = (u.publish t).types)
      (known : ∀ k, t.element = some k → (u.find? k).isSome = true) : v.KnownElements := by
    intro s hs k element
    rcases mem_of_mem_publish types hs with rfl | old
    · exact retains.isSome (known k element)
    · exact retains.isSome (h s old k element)
  cases entered with
  | nothing same =>
    intro s hs k element
    exact retains.isSome (h s ((mem_congr same.types).mp hs) k element)
  | declared made _ same => exact entering same.types fun k => checkElement_of_register made
  | restored recorded missing _ _ =>
    have found := settled.recorded _ _ recorded
    rw [missing] at found
    cases found
  | constructed _ _ makes same =>
    refine entering same.types fun k element => ?_
    cases makes with
    | optional part _ shape =>
      exact isSome_find?_iff.mpr ⟨_, part, Option.some.inj (shape.element.symm.trans element)⟩
    | array part _ shape =>
      exact isSome_find?_iff.mpr ⟨_, part, Option.some.inj (shape.element.symm.trans element)⟩
    | generic _ _ _ none =>
      rw [none] at element
      cases element

end Universe

end TypeConversion
