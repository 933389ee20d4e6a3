import Mathlib.Data.List.Basic
import Mathlib.Order.Basic

/-!
# Timers that expire again and again

A timer is started for an interval, stopped and polled. A poll says whether the timer has expired; a
timer that has expired runs on for another interval. What its polls have to say follows from its
history, however late they are made.

## Main definitions

* `Event`: what happens to a timer. A history lists its events, the newest one first.
* `LastStart`, `LastExpiry`: the last start and the last expiry of a history.
* `PollLaw`, `Law`: what one poll after a history and every poll of a history have to say.
* `Due`: an interval has passed since a running timer was started or expired.

## Main results

* `pollLaw_iff`: a poll obeys the law when it says whether the timer is due.
* `law_poll`, `law_start`, `law_stop`: the law of a history that goes on.
-/

namespace Expiry

/-- What happens to a timer. A poll reports whether the timer has expired. -/
inductive Event (τ : Type*)
  | start (time interval : τ)
  | stop
  | poll (time : τ) (expired : Bool)

variable {τ : Type*}

namespace Event

/-- The timer is started. -/
def IsStart : Event τ → Prop
  | start .. => True
  | _ => False

/-- The timer is stopped. -/
def IsStop : Event τ → Prop
  | stop => True
  | _ => False

/-- A poll finds that the timer has expired. -/
def IsExpiry : Event τ → Prop
  | poll _ expired => expired = true
  | _ => False

end Event

open Event

/-- A stretch of a history in which nothing of a kind happens. -/
def Without (kind : Event τ → Prop) (events : List (Event τ)) : Prop := ∀ e ∈ events, ¬kind e

section Without

variable {kind : Event τ → Prop} {e : Event τ} {events events' : List (Event τ)}

theorem without_nil (kind : Event τ → Prop) : Without kind [] := List.forall_mem_nil _

theorem without_cons : Without kind (e :: events) ↔ ¬kind e ∧ Without kind events :=
  List.forall_mem_cons

theorem without_append :
    Without kind (events ++ events') ↔ Without kind events ∧ Without kind events' :=
  List.forall_mem_append

end Without

/-- The last start of a history, and the events later than it. -/
def LastStart (history later : List (Event τ)) (time interval : τ) : Prop :=
  Without IsStart later ∧ ∃ earlier, history = later ++ .start time interval :: earlier

/-- The last expiry of a stretch of a history. -/
def LastExpiry (events : List (Event τ)) (time : τ) : Prop :=
  ∃ later earlier, events = later ++ .poll time true :: earlier ∧ Without IsExpiry later

section Law

variable [Add τ] [LE τ]

/-- What a poll has to say after the events of a history. -/
structure PollLaw (past : List (Event τ)) (time : τ) (expired : Bool) : Prop where
  /-- A timer that was never started, or stopped since, has not expired. -/
  running : expired = true → ∃ later t₀ interval, LastStart past later t₀ interval ∧
    Without IsStop later
  /-- The first expiry comes at least an interval after the start. -/
  first : expired = true → ∀ later t₀ interval, LastStart past later t₀ interval →
    Without IsExpiry later → t₀ + interval ≤ time
  /-- An expiry comes at least an interval after the one before it. -/
  apart : expired = true → ∀ later t₀ interval t₁, LastStart past later t₀ interval →
    LastExpiry later t₁ → t₁ + interval ≤ time
  /-- A running timer expires an interval after its start. -/
  dueAfterStart : ∀ later t₀ interval, LastStart past later t₀ interval → Without IsStop later →
    Without IsExpiry later → t₀ + interval ≤ time → expired = true
  /-- A running timer expires an interval after its last expiry. -/
  dueAfterExpiry : ∀ later t₀ interval t₁, LastStart past later t₀ interval →
    Without IsStop later → LastExpiry later t₁ → t₁ + interval ≤ time → expired = true

/-- Every poll of a history says what it has to. -/
def Law (history : List (Event τ)) : Prop :=
  ∀ time expired past, (.poll time expired :: past) <:+ history → PollLaw past time expired

end Law

/-! ### When a timer is due -/

/-- The time a running timer was started or last expired, and its interval. -/
def lastReset : List (Event τ) → Option (τ × τ)
  | [] => none
  | .start time interval :: _ => some (time, interval)
  | .stop :: _ => none
  | .poll time true :: past => (lastReset past).map fun r => (time, r.2)
  | .poll _ false :: past => lastReset past

/-- An interval has passed since a running timer was started or last expired. -/
def Due [Add τ] [LE τ] (past : List (Event τ)) (time : τ) : Prop :=
  ∃ t interval, lastReset past = some (t, interval) ∧ t + interval ≤ time

section Reset

variable {events past later : List (Event τ)} {t₀ t₁ interval : τ}

/-- Polls of a timer that has not expired change nothing. -/
theorem lastReset_append_of_silent (hstart : Without IsStart events) (hstop : Without IsStop events)
    (hexpiry : Without IsExpiry events) : lastReset (events ++ past) = lastReset past := by
  induction events with
  | nil => rfl
  | cons e events ih =>
    rw [without_cons] at hstart hstop hexpiry
    cases e with
    | start t i => exact absurd trivial hstart.1
    | stop => exact absurd trivial hstop.1
    | poll t expired =>
      cases expired with
      | false => exact ih hstart.2 hstop.2 hexpiry.2
      | true => exact absurd rfl hexpiry.1

/-- The interval lasts until the next start or stop. -/
theorem interval_append (hstart : Without IsStart events) (hstop : Without IsStop events) :
    (lastReset (events ++ past)).map Prod.snd = (lastReset past).map Prod.snd := by
  induction events with
  | nil => rfl
  | cons e events ih =>
    rw [without_cons] at hstart hstop
    cases e with
    | start t i => exact absurd trivial hstart.1
    | stop => exact absurd trivial hstop.1
    | poll t expired =>
      rw [← ih hstart.2 hstop.2]
      cases expired with
      | false => rfl
      | true => exact Option.map_map ..

/-- A timer that is stopped and not started again does not run. -/
theorem lastReset_append_of_stopped (hstart : Without IsStart events)
    (hstop : ¬Without IsStop events) : lastReset (events ++ past) = none := by
  induction events with
  | nil => exact absurd (without_nil _) hstop
  | cons e events ih =>
    rw [without_cons] at hstart hstop
    cases e with
    | start t i => exact absurd trivial hstart.1
    | stop => rfl
    | poll t expired =>
      have hnone := ih hstart.2 fun h => hstop ⟨not_false, h⟩
      cases expired with
      | false => exact hnone
      | true =>
        rw [List.cons_append, lastReset, hnone]
        rfl

/-- A timer that was never started does not run. -/
theorem lastReset_of_without_start (hstart : Without IsStart events) : lastReset events = none := by
  by_cases hstop : Without IsStop events
  · have hinterval : (lastReset (events ++ [])).map Prod.snd = none := interval_append hstart hstop
    rw [List.append_nil] at hinterval
    exact Option.map_eq_none_iff.mp hinterval
  · have hnone : lastReset (events ++ []) = none := lastReset_append_of_stopped hstart hstop
    rwa [List.append_nil] at hnone

/-- Before its first expiry a running timer was last reset by its start. -/
theorem LastStart.lastReset (h : LastStart past later t₀ interval) (hstop : Without IsStop later)
    (hexpiry : Without IsExpiry later) : lastReset past = some (t₀, interval) := by
  obtain ⟨hstart, earlier, rfl⟩ := h
  exact lastReset_append_of_silent hstart hstop hexpiry

/-- An expired timer was last reset by its last expiry. -/
theorem LastStart.lastReset_of_lastExpiry (h : LastStart past later t₀ interval)
    (hstop : Without IsStop later) (hlast : LastExpiry later t₁) :
    Expiry.lastReset past = some (t₁, interval) := by
  obtain ⟨hstart, earlier, rfl⟩ := h
  obtain ⟨polls, between, rfl, hexpiry⟩ := hlast
  rw [without_append, without_cons] at hstart hstop
  have hinterval : (Expiry.lastReset (between ++ .start t₀ interval :: earlier)).map Prod.snd =
      some interval := interval_append hstart.2.2 hstop.2.2
  obtain ⟨r, hr, hsnd⟩ := Option.map_eq_some_iff.mp hinterval
  rw [List.append_assoc, lastReset_append_of_silent hstart.1 hstop.1 hexpiry, List.cons_append,
    Expiry.lastReset, hr, Option.map_some, hsnd]

/-- A stopped timer is not running. -/
theorem LastStart.lastReset_of_stopped (h : LastStart past later t₀ interval)
    (hstop : ¬Without IsStop later) : Expiry.lastReset past = none := by
  obtain ⟨hstart, earlier, rfl⟩ := h
  exact lastReset_append_of_stopped hstart hstop

/-! ### Splitting a history -/

/-- A history has a last start, or none at all. -/
theorem exists_lastStart (past : List (Event τ)) :
    Without IsStart past ∨ ∃ later t₀ interval, LastStart past later t₀ interval := by
  induction past with
  | nil => exact .inl (without_nil _)
  | cons e past ih =>
    by_cases he : e.IsStart
    · cases e with
      | start t i => exact .inr ⟨[], t, i, without_nil _, past, rfl⟩
      | stop => exact he.elim
      | poll t expired => exact he.elim
    · obtain hnone | ⟨later, t, i, hlater, earlier, rfl⟩ := ih
      · exact .inl (without_cons.mpr ⟨he, hnone⟩)
      · exact .inr ⟨e :: later, t, i, without_cons.mpr ⟨he, hlater⟩, earlier, rfl⟩

/-- A stretch of a history has a last expiry, or none at all. -/
theorem exists_lastExpiry (events : List (Event τ)) :
    Without IsExpiry events ∨ ∃ t, LastExpiry events t := by
  induction events with
  | nil => exact .inl (without_nil _)
  | cons e events ih =>
    by_cases he : e.IsExpiry
    · cases e with
      | start t i => exact he.elim
      | stop => exact he.elim
      | poll t expired => exact .inr ⟨t, [], events, by rw [show expired = true from he]; rfl,
          without_nil _⟩
    · obtain hnone | ⟨t, later, earlier, rfl, hlater⟩ := ih
      · exact .inl (without_cons.mpr ⟨he, hnone⟩)
      · exact .inr ⟨t, e :: later, earlier, rfl, without_cons.mpr ⟨he, hlater⟩⟩

end Reset

/-! ### The law of a poll -/

section Law

variable [Add τ] [LE τ] {past history later : List (Event τ)} {time t₀ t₁ interval : τ}
  {expired : Bool}

theorem due_iff_of_lastReset (h : lastReset past = some (t₀, interval)) :
    Due past time ↔ t₀ + interval ≤ time := by
  unfold Due
  rw [h]
  refine ⟨?_, fun hdue => ⟨t₀, interval, rfl, hdue⟩⟩
  rintro ⟨t, i, heq, hdue⟩
  cases heq
  exact hdue

/-- A timer that is due has not been stopped. -/
theorem LastStart.without_stop_of_due (h : LastStart past later t₀ interval)
    (hdue : Due past time) : Without IsStop later := by
  by_contra hstop
  obtain ⟨t, i, hreset, -⟩ := hdue
  rw [h.lastReset_of_stopped hstop] at hreset
  cases hreset

/-- A timer that is due was started. -/
theorem Due.exists_lastStart (h : Due past time) :
    ∃ later t₀ interval, LastStart past later t₀ interval ∧ Without IsStop later := by
  obtain hnone | ⟨later, t₀, i, hstart⟩ := Expiry.exists_lastStart past
  · obtain ⟨t, i, hreset, -⟩ := h
    rw [lastReset_of_without_start hnone] at hreset
    cases hreset
  · exact ⟨later, t₀, i, hstart, hstart.without_stop_of_due h⟩

/-- A poll obeys the law when it says whether the timer is due. -/
theorem pollLaw_iff : PollLaw past time expired ↔ (expired = true ↔ Due past time) := by
  refine ⟨fun h => ⟨fun hexpired => ?_, fun hdue => ?_⟩, fun h => ⟨?_, ?_, ?_, ?_, ?_⟩⟩
  -- A poll that obeys the law: is there an expiry since the last start?
  · obtain ⟨later, t₀, i, hstart, hstop⟩ := h.running hexpired
    obtain hnone | ⟨t₁, hlast⟩ := exists_lastExpiry later
    · rw [due_iff_of_lastReset (hstart.lastReset hstop hnone)]
      exact h.first hexpired _ _ _ hstart hnone
    · rw [due_iff_of_lastReset (hstart.lastReset_of_lastExpiry hstop hlast)]
      exact h.apart hexpired _ _ _ _ hstart hlast
  · obtain ⟨later, t₀, i, hstart, hstop⟩ := hdue.exists_lastStart
    obtain hnone | ⟨t₁, hlast⟩ := exists_lastExpiry later
    · rw [due_iff_of_lastReset (hstart.lastReset hstop hnone)] at hdue
      exact h.dueAfterStart _ _ _ hstart hstop hnone hdue
    · rw [due_iff_of_lastReset (hstart.lastReset_of_lastExpiry hstop hlast)] at hdue
      exact h.dueAfterExpiry _ _ _ _ hstart hstop hlast hdue
  -- A poll that says whether the timer is due.
  · intro hexpired
    exact (h.mp hexpired).exists_lastStart
  · intro hexpired later t₀ i hstart hnone
    have hstop := hstart.without_stop_of_due (h.mp hexpired)
    exact (due_iff_of_lastReset (hstart.lastReset hstop hnone)).mp (h.mp hexpired)
  · intro hexpired later t₀ i t₁ hstart hlast
    have hstop := hstart.without_stop_of_due (h.mp hexpired)
    exact (due_iff_of_lastReset (hstart.lastReset_of_lastExpiry hstop hlast)).mp (h.mp hexpired)
  · intro later t₀ i hstart hstop hnone hdue
    exact h.mpr ((due_iff_of_lastReset (hstart.lastReset hstop hnone)).mpr hdue)
  · intro later t₀ i t₁ hstart hstop hlast hdue
    exact h.mpr ((due_iff_of_lastReset (hstart.lastReset_of_lastExpiry hstop hlast)).mpr hdue)

/-- The law of a history is the law of each of its polls. -/
theorem law_cons {e : Event τ} :
    Law (e :: history) ↔ (∀ t b, e = .poll t b → PollLaw history t b) ∧ Law history := by
  refine ⟨fun h => ⟨?_, fun t b past hpast => h t b past (hpast.trans (List.suffix_cons ..))⟩, ?_⟩
  · rintro t b rfl
    exact h t b history List.suffix_rfl
  · rintro ⟨hpoll, hlaw⟩ t b past hpast
    obtain heq | hpast := List.suffix_cons_iff.mp hpast
    · cases heq
      exact hpoll _ _ rfl
    · exact hlaw t b past hpast

theorem law_nil : Law ([] : List (Event τ)) := by
  intro t b past hpast
  cases List.suffix_nil.mp hpast

theorem law_start : Law (.start time interval :: history) ↔ Law history := by
  simp [law_cons]

theorem law_stop : Law (.stop :: history) ↔ Law history := by
  simp [law_cons]

theorem law_poll :
    Law (.poll time expired :: history) ↔ PollLaw history time expired ∧ Law history := by
  simp [law_cons]

end Law

end Expiry
