import Mathlib.Data.List.Induction
import WhiteRabbitPtp.Lib.GuardedRun

/-!
# The steps of a run

A state often has data in it that some step of the run has stored. The steps of a run are listed
with the states they were taken in, so that a property of such data may speak of the step it stems
from: the last one of its kind.

## Main definitions

* `trace`: the steps of the run of a list of inputs.
* `Last`: an element of a list is the last one of its kind.
* `recorded`: the system with the steps that it has taken.
* `inputsOf`: the inputs that the steps of a run have for a component of the system.

## Main results

* `trace_invariant`: what the start satisfies and every step preserves holds of every run, the steps
  before included.
* `run_component`: a component that takes a step or none whenever the system does is run by its
  inputs.
-/

namespace InputSystem

variable {σ ι α : Type*}

/-- The steps of a run: the input of each, and the state it was taken in. -/
def trace (step : ι → σ → σ) : σ → List ι → List (ι × σ)
  | _, [] => []
  | s, i :: inputs => (i, s) :: trace step (step i s) inputs

/-- An element is the last one of its kind in a list, after some other elements. -/
def Last (P : α → Prop) (before : List α) (x : α) (xs : List α) : Prop :=
  P x ∧ ∃ after, xs = before ++ x :: after ∧ ∀ y ∈ after, ¬P y

section Last

variable {P : α → Prop} {before : List α} {x y : α} {xs : List α}

/-- What comes last is the last of its kind. -/
theorem Last.self (h : P x) : Last P xs x (xs ++ [x]) := ⟨h, [], rfl, by simp⟩

/-- The last of its kind is one of them. -/
theorem Last.mem (h : Last P before x xs) : x ∈ xs := by
  obtain ⟨-, after, rfl, -⟩ := h
  exact List.mem_append_right before List.mem_cons_self

/-- So is what comes before. -/
theorem Last.mem_of_mem_before (h : Last P before x xs) (hy : y ∈ before) : y ∈ xs := by
  obtain ⟨-, after, rfl, -⟩ := h
  exact List.mem_append_left (x :: after) hy

/-- Anything may come before. -/
theorem Last.cons (h : Last P before x xs) : Last P (y :: before) x (y :: xs) := by
  obtain ⟨hx, after, rfl, hafter⟩ := h
  exact ⟨hx, after, rfl, hafter⟩

/-- What is of another kind may follow. -/
theorem Last.concat (h : Last P before x xs) (hy : ¬P y) : Last P before x (xs ++ [y]) := by
  obtain ⟨hx, after, rfl, hafter⟩ := h
  refine ⟨hx, after ++ [y], by simp, fun z hz => ?_⟩
  rcases List.mem_append.mp hz with hz | hz
  · exact hafter z hz
  · rwa [List.mem_singleton.mp hz]

/-- When a list goes on by an element, that is the last of its kind, or the last one was before. -/
theorem Last.of_concat (h : Last P before x (xs ++ [y])) :
    P y ∧ before = xs ∧ x = y ∨ ¬P y ∧ Last P before x xs := by
  obtain ⟨hx, after, heq, hafter⟩ := h
  -- What comes after the last of its kind is empty or ends with the new element.
  rcases after.eq_nil_or_concat with rfl | ⟨after, z, rfl⟩
  · obtain ⟨rfl, hy⟩ := List.append_inj' heq rfl
    obtain rfl : y = x := by simpa using hy
    exact .inl ⟨hx, rfl, rfl⟩
  · rw [List.concat_eq_append] at heq hafter
    rw [← List.cons_append, ← List.append_assoc] at heq
    obtain ⟨rfl, hz⟩ := List.append_inj' heq rfl
    obtain rfl : y = z := by simpa using hz
    exact .inr ⟨hafter y (by simp), hx, after, rfl, fun w hw => hafter w (by simp [hw])⟩

end Last

section Trace

variable {step : ι → σ → σ}

/-- A run that goes on by one step. -/
theorem trace_concat (s : σ) (inputs : List ι) (i : ι) :
    trace step s (inputs ++ [i]) = trace step s inputs ++ [(i, runInputs step s inputs)] := by
  induction inputs generalizing s with
  | nil => rfl
  | cons j inputs ih => exact congrArg (List.cons (j, s)) (ih (step j s))

/-- A property of the state and of the steps that led to it holds of every run when it does so at
the start and every step preserves it. -/
theorem trace_invariant {I : List (ι × σ) → σ → Prop} {s : σ} (hstart : I [] s)
    (hstep : ∀ steps s i, I steps s → I (steps ++ [(i, s)]) (step i s)) (inputs : List ι) :
    I (trace step s inputs) (runInputs step s inputs) := by
  -- The last step is the one that is known least about, so the run is taken apart at its end.
  induction inputs using List.reverseRecOn with
  | nil => exact hstart
  | append_singleton inputs i ih =>
    rw [trace_concat, run_append]
    exact hstep _ _ i ih

/-- The steps before one of a run are those of a run that ends where this step was taken. -/
theorem exists_of_trace_eq {s : σ} {inputs : List ι} {before after : List (ι × σ)} {x : ι × σ}
    (h : trace step s inputs = before ++ x :: after) :
    ∃ inputs', before = trace step s inputs' ∧ x.2 = runInputs step s inputs' := by
  induction before generalizing s inputs with
  | nil =>
    cases inputs with
    | nil => cases h
    | cons i inputs =>
      obtain ⟨rfl, -⟩ := List.cons.inj h
      exact ⟨[], rfl, rfl⟩
  | cons y before ih =>
    cases inputs with
    | nil => cases h
    | cons i inputs =>
      obtain ⟨rfl, hrest⟩ := List.cons.inj h
      obtain ⟨inputs', hbefore, hx⟩ := ih hrest
      exact ⟨i :: inputs', by rw [trace, hbefore], hx⟩

end Trace

/-! ### Histories -/

section Recorded

variable {step : ι → σ → σ}

/-- The system whose state has the steps that were taken so far beside it. -/
def recorded (step : ι → σ → σ) (i : ι) (s : List (ι × σ) × σ) : List (ι × σ) × σ :=
  (s.1 ++ [(i, s.2)], step i s.2)

/-- From a start without a history, the steps recorded are the `trace` of the run. -/
theorem runInputs_recorded (s : σ) (inputs : List ι) :
    runInputs (recorded step) ([], s) inputs = (trace step s inputs, runInputs step s inputs) := by
  induction inputs using List.reverseRecOn with
  | nil => rfl
  | append_singleton inputs i ih =>
    rw [run_append, ih, trace_concat, run_append]
    rfl

/-- A condition that says nothing about the history. -/
theorem EveryStep.recorded {P : ι → σ → Prop} {Q : List (ι × σ) → ι → σ → Prop}
    (h : ∀ steps i s, P i s → Q steps i s) {steps : List (ι × σ)} {s : σ} {inputs : List ι}
    (hsteps : EveryStep step P s inputs) :
    EveryStep (recorded step) (fun i s => Q s.1 i s.2) (steps, s) inputs := by
  induction inputs generalizing steps s with
  | nil => trivial
  | cons i inputs ih => exact ⟨h steps i s hsteps.1, ih hsteps.2⟩

end Recorded

/-! ### Components -/

section Component

variable {τ κ : Type*} {step : ι → σ → σ} {step' : κ → τ → τ} (view : σ → τ)

/-- The inputs that a component takes in the steps of a run; in some steps it takes none. -/
def inputsOf (input : ι → σ → Option κ) (steps : List (ι × σ)) : List κ :=
  steps.filterMap fun m => input m.1 m.2

/-- The view of a component at the end of a run is what it makes of its inputs itself. -/
theorem run_component {input : ι → σ → Option κ}
    (hstep : ∀ i s, view (step i s) = (input i s).elim (view s) fun k => step' k (view s)) (s : σ)
    (inputs : List ι) :
    view (runInputs step s inputs) =
      runInputs step' (view s) (inputsOf input (trace step s inputs)) := by
  induction inputs generalizing s with
  | nil => rfl
  | cons i inputs ih =>
    refine (ih (step i s)).trans ?_
    rw [hstep]
    unfold inputsOf
    cases h : input i s with
    | none => simp only [trace, List.filterMap_cons, h, Option.elim_none]
    | some k => simp only [trace, List.filterMap_cons, h, Option.elim_some]; rfl

/-- The steps of a component that moves whenever the system does. -/
theorem trace_component {input : ι → σ → κ}
    (hstep : ∀ i s, view (step i s) = step' (input i s) (view s)) (s : σ) (inputs : List ι) :
    (trace step s inputs).map (fun m => (input m.1 m.2, view m.2)) =
      trace step' (view s) (inputsOf (fun i s => some (input i s)) (trace step s inputs)) := by
  induction inputs generalizing s with
  | nil => rfl
  | cons i inputs ih =>
    refine congrArg (List.cons (input i s, view s)) ((ih (step i s)).trans ?_)
    rw [hstep]
    rfl

end Component

end InputSystem
