import WhiteRabbitPtp.Lib.Expiry
import WhiteRabbitPtp.Lib.GuardedRun
import WhiteRabbitPtp.Correctness.TimeArithmetic
import WhiteRabbitPtp.Model.Environment
import WhiteRabbitPtp.Model.Netif

/-!
# Interval timers

A timer keeps the reading of the millisecond counter at its start and moves it forward whenever it
expires. The reading after which it expires is a sum of 64 bits, and the law of timers holds as long
as this sum does not wrap. The host's counter never comes near that.

## Main definitions

* `TimerCall`: the calls of the functions of `timer.c` on one timer.
* `TimerRun`: a timer together with what happened to it.
* `NoWrap`: a poll of a running timer whose sum does not wrap.

## Main results

* `polled_eq`: an expired timer starts again at the reading of the poll.
* `timerLaw_iff`: the law of timers holds in a run exactly when no sum wraps.
-/

namespace WhiteRabbitPtp

open InputSystem Expiry

/-- A call on a timer, with the reading of the millisecond counter where the function takes one. -/
inductive TimerCall
  | timerStart (tics : UInt64) (interval : ℤ)
  | timerStop
  | timerExpired (tics : UInt64)
  deriving DecidableEq

/-- The reading that a call takes. -/
def TimerCall.reading : TimerCall → Option UInt64
  | timerStart tics _ | timerExpired tics => some tics
  | timerStop => none

/-- A timer and its history. -/
structure TimerRun where
  timer : IntervalTimer
  history : List (Event ℤ)

namespace TimerRun

/-- The timer after `timerInit`, before any other call. -/
def init (t : IntervalTimer) : TimerRun := ⟨t.stop, []⟩

/-- One call. A poll goes into the history with its result. -/
def step : TimerCall → TimerRun → TimerRun
  | .timerStart tics interval, s => ⟨.start tics interval, .start tics.toNat interval :: s.history⟩
  | .timerStop, s => ⟨s.timer.stop, .stop :: s.history⟩
  | .timerExpired tics, s =>
    ⟨s.timer.polled tics, .poll tics.toNat (s.timer.expired tics) :: s.history⟩

end TimerRun

/-- A timer is started for a positive `int`. -/
def TimerCall.IntervalPositive : TimerCall → Prop
  | timerStart _ interval => 0 < interval ∧ interval < 2 ^ 31
  | _ => True

instance (c : TimerCall) : Decidable c.IntervalPositive :=
  match c with
  | .timerStart _ interval => inferInstanceAs (Decidable (0 < interval ∧ interval < 2 ^ 31))
  | .timerStop | .timerExpired _ => inferInstanceAs (Decidable True)

/-- Any calls with positive intervals at readings that never decrease. -/
structure Legal (calls : List TimerCall) : Prop where
  positive : ∀ c ∈ calls, c.IntervalPositive
  nondecreasing : calls.Pairwise fun c c' => ∀ r ∈ c.reading, ∀ r' ∈ c'.reading, r ≤ r'

/-- A poll of a running timer is made while the reading after which it expires fits 64 bits. -/
def NoWrap : TimerCall → TimerRun → Prop
  | .timerExpired _, s => s.timer.interval ≠ 0 → s.timer.tStart.toNat + s.timer.interval < 2 ^ 64
  | _, _ => True

instance (c : TimerCall) (s : TimerRun) : Decidable (NoWrap c s) :=
  match c with
  | .timerExpired _ => inferInstanceAs
      (Decidable (s.timer.interval ≠ 0 → s.timer.tStart.toNat + s.timer.interval < 2 ^ 64))
  | .timerStart .. | .timerStop => inferInstanceAs (Decidable True)

/-- The result of a poll is what the law of timers wants. -/
def Obeys : TimerCall → TimerRun → Prop
  | .timerExpired tics, s => PollLaw s.history (tics.toNat : ℤ) (s.timer.expired tics)
  | _, _ => True

/-! ### One poll -/

section Timer

variable {t : IntervalTimer} {tics : UInt64}

/-- The catch-up rule starts an expired timer again at the reading of the poll. -/
theorem polled_eq (t : IntervalTimer) (tics : UInt64) :
    t.polled tics = if t.expired tics then { t with tStart := tics } else t := by
  unfold IntervalTimer.polled
  split_ifs with hexpired hlt
  · rfl
  · have hle : t.tExpire ≤ tics := by
      unfold IntervalTimer.expired at hexpired
      exact (of_decide_eq_true hexpired).2
    rw [UInt64.le_antisymm hle (UInt64.not_lt.mp hlt)]
  · rfl

/-- The reading after which a timer expires, as the sum it is stored as. -/
lemma toNat_tExpire (t : IntervalTimer) :
    (t.tExpire.toNat : ℤ) = (t.tStart.toNat + t.interval) % 2 ^ 64 := by
  unfold IntervalTimer.tExpire UInt64.ofInt
  rw [UInt64.toNat_add, UInt64.toNat_ofNat']
  omega

lemma expired_iff (t : IntervalTimer) (tics : UInt64) :
    t.expired tics = true ↔ t.interval ≠ 0 ∧ t.tExpire.toNat ≤ tics.toNat := by
  unfold IntervalTimer.expired
  rw [decide_eq_true_eq, UInt64.le_iff_toNat_le]

/-- A timer whose sum does not wrap expires an interval after its start. -/
lemma expired_iff_of_noWrap (hnonneg : 0 ≤ t.interval) (h : t.tStart.toNat + t.interval < 2 ^ 64) :
    t.expired tics = true ↔ t.interval ≠ 0 ∧ (t.tStart.toNat : ℤ) + t.interval ≤ tics.toNat := by
  have hsum := toNat_tExpire t
  rw [expired_iff]
  refine and_congr_right fun _ => ?_
  omega

/-- A running timer whose sum wraps expires at once. -/
lemma expired_of_wrap (hne : t.interval ≠ 0) (hnonneg : 0 ≤ t.interval) (hlt : t.interval < 2 ^ 31)
    (h : ¬t.tStart.toNat + t.interval < 2 ^ 64) (hle : t.tStart ≤ tics) :
    t.expired tics = true := by
  have hsum := toNat_tExpire t
  have hlt' := t.tStart.toNat_lt
  rw [UInt64.le_iff_toNat_le] at hle
  exact (expired_iff t tics).mpr ⟨hne, by omega⟩

end Timer

/-! ### One call -/

/-- The history tells what the timer does: when it was started or last expired, and its interval. -/
structure Tracked (s : TimerRun) : Prop where
  nonneg : 0 ≤ s.timer.interval
  lt : s.timer.interval < 2 ^ 31
  lastReset_eq : lastReset s.history =
    if s.timer.interval = 0 then none else some ((s.timer.tStart.toNat : ℤ), s.timer.interval)

/-- A call with a positive interval, at a reading that is not before the start of a running timer.
-/
def Timely (c : TimerCall) (s : TimerRun) : Prop :=
  c.IntervalPositive ∧ ∀ r ∈ c.reading, s.timer.interval ≠ 0 → s.timer.tStart ≤ r

section Call

variable {c : TimerCall} {s : TimerRun}

lemma tracked_init (t : IntervalTimer) : Tracked (.init t) :=
  ⟨le_rfl, (by decide : (0 : ℤ) < 2 ^ 31), rfl⟩

/-- A timer is due when it is running and an interval has passed since its start. -/
lemma Tracked.due_iff (hs : Tracked s) {time : ℤ} : Due s.history time ↔
    s.timer.interval ≠ 0 ∧ s.timer.tStart.toNat + s.timer.interval ≤ time := by
  have hreset := hs.lastReset_eq
  by_cases hstopped : s.timer.interval = 0
  · rw [if_pos hstopped] at hreset
    simp [Due, hreset, hstopped]
  · rw [if_neg hstopped] at hreset
    rw [due_iff_of_lastReset hreset]
    exact (and_iff_right hstopped).symm

/-- Every call keeps the history in step with the timer. -/
lemma Tracked.step (hs : Tracked s) (hpositive : c.IntervalPositive) :
    Tracked (TimerRun.step c s) := by
  cases c with
  | timerStart tics interval =>
    obtain ⟨hpos, hlt⟩ := hpositive
    have hinterval : i32 interval = interval := i32_of_fits ⟨by omega, hlt⟩
    rw [TimerRun.step, IntervalTimer.start, hinterval]
    exact ⟨hpos.le, hlt, (if_neg hpos.ne').symm⟩
  | timerStop => exact ⟨le_rfl, (by decide : (0 : ℤ) < 2 ^ 31), rfl⟩
  | timerExpired tics =>
    rw [TimerRun.step, polled_eq]
    cases hexpired : s.timer.expired tics with
    | false => exact ⟨hs.nonneg, hs.lt, hs.lastReset_eq⟩
    | true =>
      have hne := ((expired_iff s.timer tics).mp hexpired).1
      have hreset := hs.lastReset_eq
      rw [if_neg hne] at hreset
      refine ⟨hs.nonneg, hs.lt, ?_⟩
      rw [lastReset, hreset]
      exact (if_neg hne).symm

/-- The program says what the law wants of a poll unless the sum of a running timer wraps. -/
lemma Tracked.obeys_iff (hs : Tracked s) (htimely : Timely c s) : Obeys c s ↔ NoWrap c s := by
  cases c with
  | timerStart tics interval => exact Iff.rfl
  | timerStop => exact Iff.rfl
  | timerExpired tics =>
    change PollLaw _ _ _ ↔ (_ → _)
    rw [pollLaw_iff, hs.due_iff]
    by_cases hwrap : s.timer.tStart.toNat + s.timer.interval < 2 ^ 64
    · exact iff_of_true (expired_iff_of_noWrap hs.nonneg hwrap) fun _ => hwrap
    · by_cases hstopped : s.timer.interval = 0
      · refine iff_of_true ?_ fun hne => absurd hstopped hne
        rw [expired_iff]
        simp [hstopped]
      -- The wrapped sum is behind the start, so the timer expires before it is due.
      · have hexpired :=
          expired_of_wrap hstopped hs.nonneg hs.lt hwrap (htimely.2 tics rfl hstopped)
        have hlt := tics.toNat_lt
        refine iff_of_false (fun h => ?_) fun h => hwrap (h hstopped)
        have hdue := (h.mp hexpired).2
        omega

/-- The history of a call obeys the law when the call does and the history before it did. -/
lemma law_step : Law (TimerRun.step c s).history ↔ Law s.history ∧ Obeys c s := by
  cases c with
  | timerStart tics interval => exact law_start.trans (and_iff_left trivial).symm
  | timerStop => exact law_stop.trans (and_iff_left trivial).symm
  | timerExpired tics => exact law_poll.trans and_comm

/-- A running timer starts at the reading of the call, or where it started before the call. -/
lemma tStart_step (hne : (TimerRun.step c s).timer.interval ≠ 0) :
    c.reading = some (TimerRun.step c s).timer.tStart ∨
      s.timer.interval ≠ 0 ∧ (TimerRun.step c s).timer.tStart = s.timer.tStart := by
  cases c with
  | timerStart tics interval => exact .inl rfl
  | timerStop => exact absurd rfl hne
  | timerExpired tics =>
    rw [TimerRun.step, polled_eq] at hne ⊢
    cases hexpired : s.timer.expired tics with
    | false =>
      rw [hexpired] at hne
      exact .inr ⟨hne, rfl⟩
    | true => exact .inl rfl

end Call

/-! ### Runs -/

section Run

variable {c : TimerCall} {calls : List TimerCall} {s : TimerRun}

lemma Legal.of_cons (h : Legal (c :: calls)) : c.IntervalPositive ∧
    (∀ c' ∈ calls, ∀ r ∈ c.reading, ∀ r' ∈ c'.reading, r ≤ r') ∧ Legal calls := by
  obtain ⟨hpositive, hnondecreasing⟩ := h
  rw [List.forall_mem_cons] at hpositive
  rw [List.pairwise_cons] at hnondecreasing
  exact ⟨hpositive.1, hnondecreasing.1, hpositive.2, hnondecreasing.2⟩

/-- No call of a legal run is made at a reading before the start of the running timer. -/
lemma Legal.everyStep_timely (h : Legal calls)
    (hstart : s.timer.interval ≠ 0 → ∀ c ∈ calls, ∀ r ∈ c.reading, s.timer.tStart ≤ r) :
    EveryStep TimerRun.step Timely s calls := by
  induction calls generalizing s with
  | nil => trivial
  | cons c calls ih =>
    obtain ⟨hpositive, hle, hlegal⟩ := h.of_cons
    refine ⟨⟨hpositive, fun r hr hne => hstart hne c List.mem_cons_self r hr⟩, ?_⟩
    refine ih hlegal fun hne c' hc' r hr => ?_
    obtain hreading | ⟨hne', heq⟩ := tStart_step hne
    · exact hle c' hc' _ hreading r hr
    · rw [heq]
      exact hstart hne' c' (List.mem_cons_of_mem c hc') r hr

/-- The history of a run obeys the law when each of its calls does. -/
lemma law_runInputs : Law (runInputs TimerRun.step s calls).history ↔
    Law s.history ∧ EveryStep TimerRun.step Obeys s calls := by
  induction calls generalizing s with
  | nil => exact (and_iff_left trivial).symm
  | cons c calls ih => exact ih.trans ((and_congr_left' law_step).trans and_assoc)

/-- The law of timers holds in a run from `timerInit` exactly when no sum wraps. -/
lemma law_iff_noWrap (t : IntervalTimer) (h : Legal calls) :
    Law (runInputs TimerRun.step (.init t) calls).history ↔
      EveryStep TimerRun.step NoWrap (.init t) calls := by
  have htimely : EveryStep TimerRun.step Timely (.init t) calls :=
    h.everyStep_timely fun hne => absurd rfl hne
  rw [law_runInputs]
  refine (and_iff_right law_nil).trans ?_
  refine EveryStep.iff_of_invariant htimely (tracked_init t) fun c s hs hc => ?_
  exact ⟨hs.obeys_iff hc, fun _ => hs.step hc.1⟩

/-- No sum wraps in a run at readings that leave room for an interval. -/
lemma Legal.everyStep_noWrap (h : Legal calls) (hs : Tracked s)
    (hstart : s.timer.interval ≠ 0 → s.timer.tStart.toNat + 2 ^ 31 ≤ 2 ^ 64)
    (hroom : ∀ c ∈ calls, ∀ r ∈ c.reading, r.toNat + 2 ^ 31 ≤ 2 ^ 64) :
    EveryStep TimerRun.step NoWrap s calls := by
  induction calls generalizing s with
  | nil => trivial
  | cons c calls ih =>
    obtain ⟨hpositive, -, hlegal⟩ := h.of_cons
    rw [List.forall_mem_cons] at hroom
    refine ⟨?_, ih hlegal (hs.step hpositive) (fun hne => ?_) hroom.2⟩
    · cases c with
      | timerExpired tics =>
        intro hne
        have hlt := hs.lt
        have hle := hstart hne
        omega
      | _ => trivial
    · obtain hreading | ⟨hne', heq⟩ := tStart_step hne
      · exact hroom.1 _ hreading
      · rw [heq]
        exact hstart hne'

/-- The host's counter is thousands of times below what 64 bits hold. -/
lemma toNat_getMsecTics_le (tvSec tvUsec : ℤ) :
    (getMsecTics tvSec tvUsec).toNat + 2 ^ 31 ≤ 2 ^ 64 := by
  have hlt := (getTics tvSec tvUsec).toNat_lt
  rw [getMsecTics, UInt64.toNat_div]
  change _ / 1000 + _ ≤ _
  omega

/-- Whatever is called on a timer, with positive intervals and at readings that never decrease, the
law of timers holds exactly as long as no running timer is polled when the reading after which it
expires does not fit 64 bits. At readings of the host's counter it always holds. -/
theorem timerLaw_iff (t : IntervalTimer) (calls : List TimerCall) (h : Legal calls) :
    (Law (runInputs TimerRun.step (.init t) calls).history ↔
      EveryStep TimerRun.step NoWrap (.init t) calls) ∧
    ((∀ c ∈ calls, ∀ r ∈ c.reading, ∃ tvSec tvUsec, r = getMsecTics tvSec tvUsec) →
      Law (runInputs TimerRun.step (.init t) calls).history) := by
  refine ⟨law_iff_noWrap t h, fun hhost => (law_iff_noWrap t h).mpr ?_⟩
  refine h.everyStep_noWrap (tracked_init t) (fun hne => absurd rfl hne) fun c hc r hr => ?_
  obtain ⟨tvSec, tvUsec, rfl⟩ := hhost c hc r hr
  exact toNat_getMsecTics_le tvSec tvUsec

end Run

/-- A timer that is started for half a second, polled early, in time and late, and stopped. -/
def sampleCalls : List TimerCall :=
  [.timerStart 1000 500, .timerExpired 1499, .timerExpired 1500, .timerExpired 7000,
    .timerExpired 7499, .timerStop, .timerExpired 9000]

/-- The readings of these calls are those of a host in its first seconds. -/
theorem timerLaw_iff_sample :
    Law (runInputs TimerRun.step (.init ⟨7, 3⟩) sampleCalls).history ∧
      EveryStep TimerRun.step NoWrap (.init ⟨7, 3⟩) sampleCalls := by
  have hlegal : Legal sampleCalls := ⟨by decide, by simp [sampleCalls, TimerCall.reading]⟩
  have hhost :
      ∀ c ∈ sampleCalls, ∀ r ∈ c.reading, ∃ tvSec tvUsec, r = getMsecTics tvSec tvUsec := by
    simp only [sampleCalls, List.forall_mem_cons, TimerCall.reading, Option.mem_def,
      Option.some.injEq, forall_eq', reduceCtorEq, false_implies, implies_true, true_and, and_true,
      List.not_mem_nil]
    exact ⟨⟨1, 0, by decide⟩, ⟨1, 499000, by decide⟩, ⟨1, 500000, by decide⟩, ⟨7, 0, by decide⟩,
      ⟨7, 499000, by decide⟩, 9, 0, by decide⟩
  obtain ⟨hiff, hlaw⟩ := timerLaw_iff ⟨7, 3⟩ sampleCalls hlegal
  exact ⟨hlaw hhost, hiff.mp (hlaw hhost)⟩

/-- A timer that is started for ten milliseconds when the counter has five left, and polled in the
next millisecond. -/
def wrappingCalls : List TimerCall :=
  [.timerStart 18446744073709551611 10, .timerExpired 18446744073709551612]

/-- The sum wraps, and the timer expires nine milliseconds early. The counter of a host never gets
so far (`toNat_getMsecTics_le`). -/
theorem timerLaw_fails : Legal wrappingCalls ∧
    ¬Law (runInputs TimerRun.step (.init ⟨0, 0⟩) wrappingCalls).history := by
  refine ⟨⟨by decide, by simp [wrappingCalls, TimerCall.reading]⟩, fun hlaw => ?_⟩
  have hpoll := hlaw _ true _ List.suffix_rfl
  have hfirst := hpoll.first rfl [] _ _ ⟨without_nil _, _, rfl⟩ (without_nil _)
  exact absurd hfirst (by decide)

end WhiteRabbitPtp
