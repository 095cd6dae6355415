import TypeConversion.Converter
import Mathlib.Tactic.Common

/-!
# The two modes of casts

A plan has one program for both modes. The modes differ in what a cast does with a number that does
not fit its target, and nowhere else.

* `Refines checked unchecked`: the checked outcome is the unchecked one, or an overflow.
* `Number.cast?_unchecked`: a number that the checked cast gives is the one that the unchecked cast
  gives.
* `Instruction.run_refines` and `Instruction.runAll_refines`: what one instruction does in the two
  modes, and what a block does, whatever the procedures in it are.
* `convert_checked_refines`: the converters of a plan.
-/

namespace TypeConversion

/-! ## Numbers -/

namespace IntegerKind

/-- A number inside the range keeps its value when it is reduced to its low bits. -/
theorem wrap_of_ofInt? {k : IntegerKind} {n : Int} {m : MachineInteger} (h : k.ofInt? n = some m) :
    k.wrap n = m := by
  rw [ofInt?] at h
  split at h
  · rename_i range
    cases h
    simp only [wrap, reduce_of_mem range.1 range.2]
  · cases h

end IntegerKind

namespace Number

theorem integerOfFloat?_unchecked {k : IntegerKind} {x : FloatDatum} {m : Number}
    (h : integerOfFloat? k .checked x = some m) : integerOfFloat? k .unchecked x = some m := by
  unfold integerOfFloat? at h ⊢
  split at h
  · cases h
  · simpa using h

theorem toInteger?_unchecked {k : IntegerKind} {n m : Number}
    (h : n.toInteger? k .checked = some m) : n.toInteger? k .unchecked = some m := by
  cases n with
  | integer i =>
    obtain ⟨j, inRange, rfl⟩ := Option.map_eq_some_iff.mp h
    simp only [toInteger?, integerOfInteger?, IntegerKind.wrap_of_ofInt? inRange]
  | single bits => exact integerOfFloat?_unchecked h
  | double bits => exact integerOfFloat?_unchecked h
  -- a decimal has to fit in both modes
  | decimal d => exact h

/-- **A number that the checked cast gives** is the one that the unchecked cast gives. -/
theorem cast?_unchecked {n m : Number} {target : NumericKind}
    (h : n.cast? target .checked = some m) : n.cast? target .unchecked = some m := by
  unfold cast? at h ⊢
  split
  · rwa [if_pos ‹_›] at h
  · rw [if_neg ‹_›] at h
    cases target with
    | integer k => exact toInteger?_unchecked h
    | single => exact h
    | double => exact h
    | decimal => exact h

end Number

/-! ## Outcomes -/

/-- The checked outcome is the unchecked one, or an overflow. -/
def Refines (checked unchecked : Except Error Value) : Prop :=
  checked = unchecked ∨ ∃ source target, checked = .error (.overflow source target)

variable {checked unchecked : Except Error Value} {f g : Value → Except Error Value}

namespace Refines

theorem same (outcome : Except Error Value) : Refines outcome outcome := .inl rfl

theorem overflow (source target : NumericKind) :
    Refines (.error (.overflow source target)) unchecked := .inr ⟨source, target, rfl⟩

/-- What follows runs on the same value in both modes, or an overflow has ended the checked run. -/
theorem bind (h : Refines checked unchecked) (next : ∀ w, Refines (f w) (g w)) :
    Refines (checked.bind f) (unchecked.bind g) := by
  obtain rfl | ⟨source, target, rfl⟩ := h
  · cases checked with
    | ok w => exact next w
    | error e => exact same _
  · exact overflow source target

theorem wrap (h : Refines checked unchecked) :
    Refines (do return (← checked).wrap) (do return (← unchecked).wrap) :=
  h.bind fun w => same (.ok w.wrap)

/-- A value without content skips the block in both modes. -/
theorem lift (h : ∀ w, Refines (f w) (g w)) (v : Value) : Refines (v.lift f) (v.lift g) := by
  cases v with
  | null | empty => exact same _
  | present content => exact (h content).wrap
  | _ => exact (h _).wrap

theorem cast (c : NumericCast) (v : Value) :
    Refines (v.cast c .checked) (v.cast c .unchecked) := by
  cases v with
  | number n =>
    simp only [Value.cast]
    split
    · cases given : n.cast? c.target .checked with
      | some m =>
        rw [Number.cast?_unchecked given]
        exact same _
      | none => exact overflow _ _
    · exact same _
  | _ => exact same _

end Refines

/-! ## Programs -/

/-- The same execution in a mode. -/
def Execution.inMode (x : Execution) (mode : OverflowMode) : Execution :=
  { x with overflow := mode }

theorem Instruction.runAll_cons (x : Execution) (i : Instruction) (rest : List Instruction)
    (v : Value) : runAll x (i :: rest) v = (i.run x v).bind (runAll x rest) := by
  rw [runAll]
  cases i.run x v <;> rfl

mutual

-- The induction is on the instruction with the blocks nested in it: only casts ask for the mode,
-- and only a lifted block brings casts of its own.
/-- **One instruction** does the same in both modes, or a number overflows in the checked one. -/
theorem Instruction.run_refines (x : Execution) :
    ∀ (i : Instruction) (v : Value),
      Refines (i.run (x.inMode .checked) v) (i.run (x.inMode .unchecked) v)
  | .lift block, v => by
    rw [Instruction.run, Instruction.run]
    exact .lift (fun w => runAll_refines x block w) v
  | .cast c, v => by
    rw [Instruction.run, Instruction.run]
    exact .cast c v
  | .unwrap, _ | .box _, _ | .unbox _ _, _ | .upcast, _ | .downcast _, _ | .invoke _, _
  | .invokeHost _, _ | .wrap, _ => .same _

/-- **A block** does the same in both modes, or a number overflows in the checked one. -/
theorem Instruction.runAll_refines (x : Execution) :
    ∀ (block : List Instruction) (v : Value),
      Refines (runAll (x.inMode .checked) block v) (runAll (x.inMode .unchecked) block v)
  | [], _ => .same _
  | first :: rest, v => by
    rw [runAll_cons, runAll_cons]
    exact (run_refines x first v).bind fun w => runAll_refines x rest w

end

/-- The converters of a plan in the two modes, built in one universe and run in another. -/
theorem Converter.convert_refines (u now : Universe) (plan : Plan) (v : Value) :
    Refines ((Converter.ofPlan u plan .checked).convert now v)
      ((Converter.ofPlan u plan .unchecked).convert now v) :=
  Instruction.runAll_refines ⟨now, .checked, plan.target.fullName⟩ (plan.program u) v

/-- **Checked conversion refines unchecked conversion**, for every plan, whatever its procedures do,
and on every value. A value that the checked converter gives is the one that the unchecked converter
gives. Where the unchecked converter gives a value, the checked one gives it too or reports an
overflow. -/
theorem convert_checked_refines (u now : Universe) (plan : Plan) (v : Value) :
    (∀ w, (Converter.ofPlan u plan .checked).convert now v = .ok w →
        (Converter.ofPlan u plan .unchecked).convert now v = .ok w) ∧
      ∀ w, (Converter.ofPlan u plan .unchecked).convert now v = .ok w →
        (Converter.ofPlan u plan .checked).convert now v = .ok w ∨
          ∃ source target, (Converter.ofPlan u plan .checked).convert now v
            = .error (.overflow source target) := by
  have refines := Converter.convert_refines u now plan v
  refine ⟨fun w given => ?_, fun w given => ?_⟩
  · obtain same | ⟨source, target, overflow⟩ := refines
    · exact same ▸ given
    · cases overflow.symm.trans given
  · exact refines.imp_left fun same => same.trans given

-- Three hundred is no byte: the checked converter reports it, the unchecked one keeps the low bits.
example : let plan : Plan := ⟨(NumericKind.integer .int32).descriptor,
      (NumericKind.integer .byte).descriptor, .numeric false ⟨.integer .int32, .integer .byte⟩⟩
    let v : Value := .number (.integer ⟨.int32, 300, by decide, by decide⟩)
    (Converter.ofPlan .initial plan .checked).convert .initial v
        = .error (.overflow (.integer .int32) (.integer .byte)) ∧
      (Converter.ofPlan .initial plan .unchecked).convert .initial v
        = .ok (.number (.integer ⟨.byte, 44, by decide, by decide⟩)) := ⟨rfl, rfl⟩

end TypeConversion
