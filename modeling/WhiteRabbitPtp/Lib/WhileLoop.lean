import Mathlib.Order.Basic

/-!
# Loops

The runs of `while (test) body` on a state, as a relation between the state in which the loop is
entered and the one in which it is left.

## Main definitions

* `WhileLoop.Runs`: the loop, entered in one state, is left in another.

## Main results

* `exists_runs`: a loop whose body lowers a measure is left.
-/

namespace WhileLoop

variable {σ : Type*}

/-- The loop is left in the first state in which its test fails. -/
inductive Runs (test : σ → Prop) (body : σ → σ) : σ → σ → Prop
  | done {s : σ} : ¬test s → Runs test body s s
  | again {s s' : σ} : test s → Runs test body (body s) s' → Runs test body s s'

variable {test : σ → Prop} {body : σ → σ}

/-- A loop that keeps an invariant and lowers a measure is left. -/
theorem exists_runs {I : σ → Prop} (measure : σ → ℕ)
    (hbody : ∀ s, I s → test s → I (body s) ∧ measure (body s) < measure s) {s : σ} (hs : I s) :
    ∃ s', Runs test body s s' := by
  -- By induction on a bound of the measure.
  obtain ⟨k, hk⟩ : ∃ k, measure s ≤ k := ⟨measure s, Nat.le_refl _⟩
  induction k generalizing s with
  | zero =>
    refine ⟨s, .done fun htest => ?_⟩
    exact absurd (hbody s hs htest).2 (by omega)
  | succ k ih =>
    by_cases htest : test s
    · obtain ⟨hnext, hlower⟩ := hbody s hs htest
      obtain ⟨s', hruns⟩ := ih hnext (by omega)
      exact ⟨s', .again htest hruns⟩
    · exact ⟨s, .done htest⟩

end WhileLoop
