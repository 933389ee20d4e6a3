import Mathlib.Algebra.Group.Int.Defs
import Mathlib.Algebra.Group.Nat.Defs
import Mathlib.Data.Int.Order.Basic
import Mathlib.Data.Option.Basic

/-!
# Signed words that must not overflow

Arithmetic on signed words is exact as long as no result leaves the range of its word. A computation
written with `checked` at every operation has a result exactly when none of them overflows, and then
the wrapping computation has the same result.

## Main definitions

* `CheckedInt.Fits`: the numbers that a signed word holds.
* `CheckedInt.checked`: the result of an operation, if it does not overflow.

## Main results

* `checked_bind_eq_some_iff`: a computation goes on exactly with what fits.
* `bmod_of_fits`: wrapping changes nothing where nothing overflows.
-/

namespace CheckedInt

/-- The numbers that a signed word of `w` bits holds. -/
def Fits (w : ℕ) (x : ℤ) : Prop := -2 ^ (w - 1) ≤ x ∧ x < 2 ^ (w - 1)

instance (w : ℕ) (x : ℤ) : Decidable (Fits w x) := by
  unfold Fits
  infer_instance

/-- The result of an operation on signed words of `w` bits, none when it overflows. -/
def checked (w : ℕ) (x : ℤ) : Option ℤ := if Fits w x then some x else none

variable {w : ℕ} {x y : ℤ}

theorem checked_of_fits (h : Fits w x) : checked w x = some x := if_pos h

theorem checked_of_not_fits (h : ¬Fits w x) : checked w x = none := if_neg h

/-- A computation goes on with the result of an operation exactly when it fits. -/
theorem checked_bind_eq_some_iff {α : Type*} {f : ℤ → Option α} {a : α} :
    (checked w x).bind f = some a ↔ Fits w x ∧ f x = some a := by
  by_cases h : Fits w x
  · simp [checked_of_fits h, h]
  · simp [checked_of_not_fits h, h]

/-- Wrapping changes nothing where nothing overflows. -/
theorem bmod_of_fits (hw : 0 < w) (h : Fits w x) : x.bmod (2 ^ w) = x := by
  obtain ⟨w, rfl⟩ : ∃ v, w = v + 1 := ⟨w - 1, by omega⟩
  obtain ⟨hle, hlt⟩ := h
  rw [Nat.add_sub_cancel] at hle hlt
  have hpow : ((2 ^ (w + 1) : ℕ) : ℤ) = 2 * 2 ^ w := by
    push_cast
    rw [Int.pow_succ, Int.mul_comm]
  apply Int.bmod_eq_of_le <;> omega

end CheckedInt
