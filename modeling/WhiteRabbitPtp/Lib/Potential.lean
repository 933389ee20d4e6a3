import Mathlib.Data.Nat.Count
import Mathlib.Tactic.ByContra

/-!
# Potentials

A potential of a sequence of states is a number that never grows and that every event of a certain
kind lowers. It bounds how many of these events there are, and when they do not cease it runs out.

## Main results

* `count_add_le`: the events so far and what is left of the potential.
* `exists_eq_zero`: a potential that is always charged again runs out.
-/

namespace Potential

variable {μ : ℕ → ℕ} {event : ℕ → Prop} [DecidablePred event] {k : ℕ}

/-- The events so far and what is left of the potential are at most what it was at the start. -/
theorem count_add_le (h : ∀ j < k, μ (j + 1) + (if event j then 1 else 0) ≤ μ j) :
    Nat.count event k + μ k ≤ μ 0 := by
  induction k with
  | zero => simp
  | succ k ih =>
    have hstep := h k k.lt_succ_self
    have hbefore := ih fun j hj => h j (hj.trans k.lt_succ_self)
    rw [Nat.count_succ]
    omega

/-- Events that never cease are arbitrarily many. -/
theorem exists_le_count (hevent : ∀ k, ∃ j ≥ k, event j) (m : ℕ) :
    ∃ k, m ≤ Nat.count event k := by
  induction m with
  | zero => exact ⟨0, Nat.zero_le _⟩
  | succ m ih =>
    obtain ⟨k, hk⟩ := ih
    obtain ⟨j, hj, hevent⟩ := hevent k
    refine ⟨j + 1, ?_⟩
    have hcount : Nat.count event (j + 1) = Nat.count event j + 1 :=
      Nat.count_succ_eq_succ_count_iff.mpr hevent
    have hmono := Nat.count_monotone event hj
    omega

/-- A potential runs out when there is another event as long as some of it is left. -/
theorem exists_eq_zero (h : ∀ j, μ (j + 1) + (if event j then 1 else 0) ≤ μ j)
    (hevent : ∀ k, μ k ≠ 0 → ∃ j ≥ k, event j) : ∃ k, μ k = 0 := by
  by_contra hleft
  push Not at hleft
  obtain ⟨k, hk⟩ := exists_le_count (fun k => hevent k (hleft k)) (μ 0 + 1)
  have hbound := count_add_le (k := k) fun j _ => h j
  omega

end Potential
