import Mathlib.Logic.Basic

/-!
# Runs of an input-driven system

A deterministic step function takes a state and an input. A run is guarded when every step it takes
satisfies a condition on the state before the step and on the input; without a condition it is any
run, and its states are the reachable ones.

## Main definitions

* `GuardedRun`: the states reached by runs all of whose steps satisfy a condition.
* `Reachable`: the states reached by any run.
* `EveryStep`: a condition on every step of the run of a list of inputs.

## Main results

* `GuardedRun.invariant`: what every start satisfies and every guarded step preserves holds in
  every state of a guarded run.
* `GuardedRun.invariant_of`: the same, using facts already known of the states.
* `EveryStep.of_invariant`: what the steps of a run satisfy when an invariant says so.
* `EveryStep.iff_of_invariant`: two conditions that agree as long as an invariant holds.
-/

namespace InputSystem

variable {σ ι : Type*}

/-- The states reached from a start by steps that satisfy `guard`. -/
inductive GuardedRun (start : σ → Prop) (step : ι → σ → σ) (guard : ι → σ → Prop) : σ → Prop
  | start {s : σ} : start s → GuardedRun start step guard s
  | step {s : σ} (i : ι) : GuardedRun start step guard s → guard i s →
      GuardedRun start step guard (step i s)

/-- The states reached by any run. -/
abbrev Reachable (start : σ → Prop) (step : ι → σ → σ) : σ → Prop :=
  GuardedRun start step fun _ _ => True

variable {start : σ → Prop} {step : ι → σ → σ} {guard : ι → σ → Prop} {s : σ}

/-- An inductive invariant holds in every state of a guarded run. -/
theorem GuardedRun.invariant {P : σ → Prop} (h : GuardedRun start step guard s)
    (hstart : ∀ s, start s → P s) (hstep : ∀ i s, P s → guard i s → P (step i s)) : P s := by
  induction h with
  | start hs => exact hstart _ hs
  | step i _ hg ih => exact hstep i _ ih hg

/-- An invariant may use facts known of the states of the run. -/
theorem GuardedRun.invariant_of {P Q : σ → Prop} (h : GuardedRun start step guard s)
    (hQ : ∀ s, GuardedRun start step guard s → Q s) (hstart : ∀ s, start s → P s)
    (hstep : ∀ i s, Q s → P s → guard i s → P (step i s)) : P s := by
  induction h with
  | start hs => exact hstart _ hs
  | step i hrun hg ih => exact hstep i _ (hQ _ hrun) ih hg

/-- A run all of whose steps satisfy a condition satisfies every weaker one. -/
theorem GuardedRun.mono {guard' : ι → σ → Prop} (h : GuardedRun start step guard s)
    (hguard : ∀ i s, guard i s → guard' i s) : GuardedRun start step guard' s := by
  induction h with
  | start hs => exact .start hs
  | step i _ hg ih => exact .step i ih (hguard i _ hg)

/-- A guarded run is a run. -/
theorem GuardedRun.reachable (h : GuardedRun start step guard s) : Reachable start step s :=
  h.mono fun _ _ _ => trivial

/-- The state after the inputs of a list. -/
def runInputs (step : ι → σ → σ) (s : σ) (inputs : List ι) : σ :=
  inputs.foldl (fun s i => step i s) s

/-! ### The steps of one run -/

/-- Every step of the run of a list of inputs satisfies a condition on the state before it and on
its input. -/
def EveryStep (step : ι → σ → σ) (P : ι → σ → Prop) (s : σ) : List ι → Prop
  | [] => True
  | i :: inputs => P i s ∧ EveryStep step P (step i s) inputs

instance decidableEveryStep {P : ι → σ → Prop} [∀ i s, Decidable (P i s)] :
    ∀ (s : σ) (inputs : List ι), Decidable (EveryStep step P s inputs)
  | _, [] => inferInstanceAs (Decidable True)
  | s, i :: inputs => @instDecidableAnd (P i s) (EveryStep step P (step i s) inputs) _
      (decidableEveryStep (step i s) inputs)

/-- Running a list of inputs all of whose steps are guarded extends a guarded run. -/
theorem GuardedRun.runInputs {s : σ} (h : GuardedRun start step guard s) (inputs : List ι)
    (hguard : EveryStep step guard s inputs) :
    GuardedRun start step guard (runInputs step s inputs) := by
  induction inputs generalizing s with
  | nil => exact h
  | cons i inputs ih => exact ih (.step i h hguard.1) hguard.2

/-- Running a list of inputs from a reachable state leads to a reachable state. -/
theorem Reachable.runInputs {s : σ} (h : Reachable start step s) (inputs : List ι) :
    Reachable start step (runInputs step s inputs) := by
  induction inputs generalizing s with
  | nil => exact h
  | cons i inputs ih => exact ih (.step i h trivial)

/-- A run goes on. -/
theorem run_append (s : σ) (inputs inputs' : List ι) :
    runInputs step s (inputs ++ inputs') = runInputs step (runInputs step s inputs) inputs' :=
  List.foldl_append

variable {P Q : ι → σ → Prop} {inputs : List ι}

theorem EveryStep.append {inputs' : List ι} : EveryStep step P s (inputs ++ inputs') ↔
    EveryStep step P s inputs ∧ EveryStep step P (runInputs step s inputs) inputs' := by
  induction inputs generalizing s with
  | nil => exact (and_iff_right trivial).symm
  | cons i inputs ih => exact (and_congr_right' ih).trans and_assoc.symm

/-- Inputs that satisfy a condition in every state do so in the steps of a run. -/
theorem EveryStep.of_forall (h : ∀ i ∈ inputs, ∀ s, P i s) : EveryStep step P s inputs := by
  induction inputs generalizing s with
  | nil => trivial
  | cons i inputs ih =>
    exact ⟨h i List.mem_cons_self s, ih fun i' hi' => h i' (List.mem_cons_of_mem i hi')⟩

theorem EveryStep.congr (h : ∀ i s, P i s ↔ Q i s) :
    EveryStep step P s inputs ↔ EveryStep step Q s inputs := by
  induction inputs generalizing s with
  | nil => rfl
  | cons i inputs ih => exact and_congr (h i s) ih

/-- Steps that keep an invariant satisfy whatever it gives them. -/
theorem EveryStep.of_invariant {I : σ → Prop} (hguard : EveryStep step guard s inputs) (hs : I s)
    (hstep : ∀ i s, I s → guard i s → P i s ∧ I (step i s)) : EveryStep step P s inputs := by
  induction inputs generalizing s with
  | nil => trivial
  | cons i inputs ih =>
    obtain ⟨hP, hI⟩ := hstep i s hs hguard.1
    exact ⟨hP, ih hguard.2 hI⟩

/-- As long as the steps of a run satisfy one condition, an invariant makes them satisfy the other,
and the first step that fails one fails both. -/
theorem EveryStep.iff_of_invariant {I : σ → Prop} (hguard : EveryStep step guard s inputs)
    (hs : I s) (hstep : ∀ i s, I s → guard i s → (P i s ↔ Q i s) ∧ (Q i s → I (step i s))) :
    EveryStep step P s inputs ↔ EveryStep step Q s inputs := by
  induction inputs generalizing s with
  | nil => rfl
  | cons i inputs ih =>
    obtain ⟨hiff, hkeeps⟩ := hstep i s hs hguard.1
    refine Iff.trans (and_congr_left' hiff) (and_congr_right fun hQ => ?_)
    exact ih hguard.2 (hkeeps hQ)

/-- An inductive invariant holds at the end of a run whose steps are guarded. -/
theorem EveryStep.runInputs_of_invariant {I : σ → Prop} (hguard : EveryStep step guard s inputs)
    (hs : I s) (hstep : ∀ i s, I s → guard i s → I (step i s)) :
    I (runInputs step s inputs) := by
  induction inputs generalizing s with
  | nil => exact hs
  | cons i inputs ih => exact ih hguard.2 (hstep i s hs hguard.1)

end InputSystem
