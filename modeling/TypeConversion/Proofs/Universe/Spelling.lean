import TypeConversion.Universe.Construction
import Mathlib.Data.List.Basic
import Mathlib.Tactic.Common

/-!
# How constructed names are read

The name of a constructed type is put together from the names of its parts and five marks: angle
brackets around the arguments of an instance, commas between them, and square brackets around the
commas of an array. Without a mark in the names of declared types, a constructed name can be taken
apart in one way only.

* `nesting`: how many brackets are open after a text. A name is `Closed`: it closes what it opens,
  and all its commas stand in brackets.
* `Closed.eq_of_append_comma` and `intercalate_inj`: the first comma outside of all brackets ends
  the first argument, so the arguments can be told apart.
* `eq_of_bracket`: the last opening square bracket begins the ending of an array.
-/

namespace TypeConversion.Spelling

variable {a b w x y : List Char} {c m : Char} {n : Nat}

/-- The characters that stand between the parts of a constructed name. -/
def marks : List Char := ['<', '>', ',', '[', ']']

/-- How many brackets are open after one more character. A closing bracket needs an open one, and so
does a comma. -/
def openAfter (n : Nat) (c : Char) : Option Nat :=
  if c = '<' ∨ c = '[' then some (n + 1)
  else if n = 0 then if c ∈ marks then none else some 0
  else if c = '>' ∨ c = ']' then some (n - 1)
  else some n

/-- How many brackets are open after a text. -/
def nesting (n : Nat) (w : List Char) : Option Nat := w.foldlM openAfter n

/-- A text that closes what it opens and has its commas in brackets. -/
def Closed (w : List Char) : Prop := nesting 0 w = some 0

theorem nesting_append (n : Nat) (a b : List Char) :
    nesting n (a ++ b) = (nesting n a).bind fun k => nesting k b :=
  List.foldlM_append

theorem nesting_cons (n : Nat) (c : Char) (w : List Char) :
    nesting n (c :: w) = (openAfter n c).bind fun k => nesting k w :=
  List.foldlM_cons

/-- Brackets around a text stay open over it. -/
theorem nesting_add {k : Nat} (h : nesting n w = some k) (outer : Nat) :
    nesting (n + outer) w = some (k + outer) := by
  induction w generalizing n with
  | nil =>
    cases h
    rfl
  | cons c w ih =>
    rw [nesting_cons] at h ⊢
    obtain ⟨j, hj, rest⟩ := Option.bind_eq_some_iff.mp h
    have here : openAfter (n + outer) c = some (j + outer) := by
      simp only [openAfter] at hj ⊢
      grind [marks]
    rw [here]
    exact ih rest

theorem Closed.nesting (h : Closed w) (n : Nat) : nesting n w = some n := by
  simpa using nesting_add h n

/-! ## Names that are closed -/

theorem closed_of_plain (plain : ∀ c ∈ w, c ∉ marks) : Closed w := by
  induction w with
  | nil => rfl
  | cons c w ih =>
    obtain ⟨hc, hw⟩ := List.forall_mem_cons.mp plain
    have here : openAfter 0 c = some 0 := by
      grind [openAfter, marks]
    rw [Closed, nesting_cons, here]
    exact ih hw

/-- A name with an ending in brackets is closed. -/
theorem Closed.enclose {opening closing : Char} (ha : Closed a)
    (opens : openAfter 0 opening = some 1) (inside : Spelling.nesting 1 w = some 1)
    (closes : openAfter 1 closing = some 0) : Closed (a ++ opening :: (w ++ [closing])) := by
  rw [Closed, nesting_append, ha, Option.bind_some, nesting_cons, opens, Option.bind_some,
    nesting_append, inside, Option.bind_some, nesting_cons, closes]
  rfl

theorem nesting_intercalate {ws : List (List Char)} (closed : ∀ w ∈ ws, Closed w) :
    nesting 1 ([','].intercalate ws) = some 1 := by
  induction ws with
  | nil => rfl
  | cons w ws ih =>
    obtain ⟨hw, hws⟩ := List.forall_mem_cons.mp closed
    cases ws with
    | nil => simpa using hw.nesting 1
    | cons w' ws =>
      rw [List.intercalate_cons_cons, nesting_append, nesting_append, hw.nesting 1]
      exact ih hws

theorem nesting_replicate (n : Nat) : nesting 1 (List.replicate n ',') = some 1 := by
  induction n with
  | zero => rfl
  | succ n ih => exact ih

/-! ## Endings -/

/-- The mark at the end of a name, if there is one. -/
def ending (w : List Char) : Option Char := w.getLast?.filter fun c => c ∈ marks

theorem ending_of_plain (plain : ∀ c ∈ w, c ∉ marks) : ending w = none := by
  rw [ending, Option.filter_eq_none_iff]
  intro c last
  simpa using plain c (List.mem_of_getLast? last)

theorem ending_enclose (a w : List Char) (opening : Char) {closing : Char}
    (mark : closing ∈ marks) : ending (a ++ opening :: (w ++ [closing])) = some closing := by
  have last : a ++ opening :: (w ++ [closing]) = (a ++ opening :: w) ++ [closing] := by simp
  rw [last, ending, List.getLast?_concat, Option.filter_some, if_pos (by simpa using mark)]

/-! ## Names that are taken apart -/

/-- Two texts are split at the same place if neither goes on with the mark after the other. -/
theorem eq_of_append_cons (ha : ∀ d, b ≠ a ++ m :: d) (hb : ∀ d, a ≠ b ++ m :: d)
    (h : a ++ m :: x = b ++ m :: y) : a = b ∧ x = y := by
  obtain ⟨d, rfl, rest⟩ | ⟨d, rfl, rest⟩ := List.append_eq_append_iff.mp h
  all_goals
    cases d with
    | nil => simpa [eq_comm] using rest
    | cons c d =>
      obtain ⟨rfl, -⟩ := List.cons.inj rest
      simp at ha hb

/-- A closed text does not go on with a comma. -/
theorem Closed.ne_append_comma (ha : Closed a) (hb : Closed b) (d : List Char) :
    b ≠ a ++ ',' :: d := by
  rintro rfl
  rw [Closed, nesting_append, ha] at hb
  cases hb

/-- The first comma outside of all brackets ends the first name. -/
theorem Closed.eq_of_append_comma (ha : Closed a) (hb : Closed b)
    (h : a ++ ',' :: x = b ++ ',' :: y) : a = b ∧ x = y :=
  eq_of_append_cons (ha.ne_append_comma hb) (hb.ne_append_comma ha) h

/-- Closed names with commas between them can be told apart. -/
theorem intercalate_inj {ws ws' : List (List Char)} (closed : ∀ w ∈ ws, Closed w)
    (closed' : ∀ w ∈ ws', Closed w) (count : ws.length = ws'.length)
    (h : [','].intercalate ws = [','].intercalate ws') : ws = ws' := by
  induction ws generalizing ws' with
  | nil => exact (List.length_eq_zero_iff.mp count.symm).symm
  | cons w ws ih =>
    obtain ⟨w', ws', rfl⟩ := List.exists_cons_of_length_eq_add_one count.symm
    obtain ⟨hw, hws⟩ := List.forall_mem_cons.mp closed
    obtain ⟨hw', hws'⟩ := List.forall_mem_cons.mp closed'
    replace count : ws.length = ws'.length := Nat.succ.inj count
    cases ws with
    | nil =>
      obtain rfl : ws' = [] := List.length_eq_zero_iff.mp count.symm
      simpa using h
    | cons v ws =>
      obtain ⟨v', ws', rfl⟩ := List.exists_cons_of_length_eq_add_one count.symm
      simp only [List.intercalate_cons_cons, List.append_assoc, List.singleton_append] at h
      obtain ⟨rfl, rest⟩ := hw.eq_of_append_comma hw' h
      rw [ih hws hws' count rest]

/-- The first opening bracket ends the name of the definition, which has none. -/
theorem eq_of_angle (ha : '<' ∉ a) (hb : '<' ∉ b) (h : a ++ '<' :: x = b ++ '<' :: y) :
    a = b ∧ x = y := by
  refine eq_of_append_cons ?_ ?_ h
  all_goals
    rintro d rfl
    simp at ha hb

/-- The last opening bracket begins the ending of an array. -/
theorem eq_of_bracket (hx : '[' ∉ x) (hy : '[' ∉ y) (h : a ++ '[' :: x = b ++ '[' :: y) :
    a = b ∧ x = y := by
  have reversed : x.reverse ++ '[' :: a.reverse = y.reverse ++ '[' :: b.reverse := by
    simpa using congrArg List.reverse h
  have parts : x.reverse = y.reverse ∧ a.reverse = b.reverse := by
    refine eq_of_append_cons ?_ ?_ reversed
    all_goals
      intro d e
      rw [List.reverse_eq_iff] at e
      simp [e] at hx hy
  simpa [and_comm] using parts

end TypeConversion.Spelling
