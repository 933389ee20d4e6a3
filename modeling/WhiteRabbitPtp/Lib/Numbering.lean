import Mathlib.Logic.Function.Iterate

/-!
# Consecutive numbers

A sender numbers its messages with a counter that it advances after each of them. The counter may
wrap: nothing is assumed of the function that advances it.

## Main definition

* `Numbered`: a list of numbers given out by a counter, with the counter before and after.

## Main results

* `Numbered.append`: what is given out in two stretches.
* `Numbered.iterate`: the counter depends on how many numbers were given out.
* `Numbered.next_getLast`: the counter is the successor of the last number given out.
-/

namespace Numbering

variable {α : Type*} {next : α → α}

/-- A counter that is advanced by `next` gives out the numbers of a list. -/
inductive Numbered (next : α → α) : α → List α → α → Prop
  | nil (c : α) : Numbered next c [] c
  | cons {c c' : α} {numbers : List α} : Numbered next (next c) numbers c' →
      Numbered next c (c :: numbers) c'

namespace Numbered

variable {c c' c'' x : α} {numbers numbers' : List α}

/-- One number is given out. -/
theorem single (next : α → α) (c : α) : Numbered next c [c] (next c) := .cons (.nil _)

/-- Numbers are given out one after the other. -/
theorem append (h : Numbered next c numbers c') (h' : Numbered next c' numbers' c'') :
    Numbered next c (numbers ++ numbers') c'' := by
  induction h with
  | nil => exact h'
  | cons _ ih => exact .cons (ih h')

/-- The counter has advanced once for each number. -/
theorem iterate (h : Numbered next c numbers c') : next^[numbers.length] c = c' := by
  induction h with
  | nil => rfl
  | cons _ ih => exact ih

/-- The counter has gone on from the last number it gave out. -/
theorem next_getLast (h : Numbered next c numbers c') (hx : numbers.getLast? = some x) :
    next x = c' := by
  induction h with
  | nil => simp at hx
  | cons htail ih =>
    cases htail with
    | nil => exact congrArg next (by simpa using hx.symm)
    | cons htail => exact ih (by simpa using hx)

end Numbered

end Numbering
