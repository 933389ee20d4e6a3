import WhiteRabbitPtp.Lib.GuardedRun
import WhiteRabbitPtp.Correctness.ServoStep
import Mathlib.Data.Int.ModEq

/-!
# Runs of the servo

The daemon calls the servo of a port from several places and changes everything around it in
between. A run of the servo is a list of its calls, each in surroundings of its own; only the
servo's state and the orders it has given carry over from one call to the next.

## Main definitions

* `ServoCall`, `ServoInput`: a call of the servo, and the surroundings it happens in.
* `LosesLock`: an update that tracks and measures a jump.
* `Watched`: the servo with the unstable measurements since it last began to wait for a stable one.
* `Settled`: the states in which the hardware holds the phase the servo believes it has.

## Main results

* `lossActedUpon_iff`: a jump ends the tracking exactly when tracking is switched off.
* `stableTracks_of_guardedRun`: a stable measurement leads to tracking as long as no iteration was
  missed when the waiting began.
* `setpoint_follows`: the setpoint follows the delay and the hardware follows the setpoint.
-/

namespace WhiteRabbitPtp

open InputSystem

/-! ### Calls of the servo -/

/-- A call of the servo that changes its state. -/
inductive ServoCall
  | init
  | gotSync (t1 t2 : TimeInternal)
  | gotDelay (cf : ℤ)
  | update

/-- The call starts the servo anew. -/
def ServoCall.isInit : ServoCall → Bool
  | init => true
  | _ => false

/-- The node after a call. -/
def ServoCall.run : ServoCall → Node → Node
  | init, n => wrServoInit n
  | gotSync t1 t2, n => wrServoGotSync n t1 t2
  | gotDelay cf, n => wrServoGotDelay n cf
  | update, n => wrServoUpdate n

/-- A call with what the daemon looks like by then. -/
structure ServoInput where
  surroundings : Node
  call : ServoCall

namespace ServoInput

/-- The node a call works on. The static variables of the servo are shared by all ports, so they
belong to the surroundings. -/
def meet (i : ServoInput) (n : Node) : Node :=
  { i.surroundings with port.servo := n.port.servo, netif.commands := n.netif.commands }

/-- The node after the call. -/
def run (i : ServoInput) (n : Node) : Node := i.call.run (i.meet n)

/-- The call executes an update. -/
def Updates (i : ServoInput) (n : Node) : Prop :=
  match i.call with
  | .update => UpdateRuns (i.meet n)
  | _ => False

instance (i : ServoInput) (n : Node) : Decidable (i.Updates n) := by
  unfold Updates
  cases i.call <;> infer_instance

@[simp]
lemma meet_servo (i : ServoInput) (n : Node) : (i.meet n).port.servo = n.port.servo := rfl

@[simp]
lemma meet_commands (i : ServoInput) (n : Node) :
    (i.meet n).netif.commands = n.netif.commands := rfl

/-- The hardware offset an update measures. -/
def hw (i : ServoInput) (n : Node) : WrTimestamp := updateHw (i.meet n)

end ServoInput

/-- What only updates change. -/
structure SameControl (n n' : Node) : Prop where
  state : n'.port.servo.state = n.port.servo.state
  nextState : n'.port.servo.nextState = n.port.servo.nextState
  missedIters : n'.port.servo.missedIters = n.port.servo.missedIters
  curSetpoint : n'.port.servo.curSetpoint = n.port.servo.curSetpoint
  deltaMsPrev : n'.port.servo.deltaMsPrev = n.port.servo.deltaMsPrev
  commands : n'.netif.commands = n.netif.commands

/-- A call executes an update, starts the servo anew, or leaves its control alone. -/
lemma ServoInput.run_cases (i : ServoInput) (n : Node) :
    (i.Updates n ∧ i.run n =
      servoStep (measured (i.meet n)) (i.hw n) (updateTics (i.meet n))) ∨
    (¬i.Updates n ∧ SameControl n (i.run n)) ∨
    (¬i.Updates n ∧ i.call.isInit = true ∧ (i.run n).port.servo.state = .syncTai) := by
  obtain ⟨m, c⟩ := i
  cases c with
  | init =>
    refine .inr ?_
    have hno : ¬ServoInput.Updates ⟨m, .init⟩ n := id
    -- Without calibration data the initialization does nothing.
    by_cases hok : ((show CalibrationData from
        (ServoInput.meet ⟨m, .init⟩ n).answer .readCalibrationData).ok) = true
    · refine .inr ⟨hno, rfl, ?_⟩
      simp only [ServoInput.run, ServoCall.run, wrServoInit]
      exact (congrArg (fun k : Node => k.port.servo.state) (if_pos hok)).trans rfl
    · refine .inl ⟨hno, ?_⟩
      have hrun : ServoInput.run ⟨m, .init⟩ n =
          (ServoInput.meet ⟨m, .init⟩ n).called .readCalibrationData := if_neg hok
      rw [hrun]
      exact ⟨rfl, rfl, rfl, rfl, rfl, rfl⟩
  | gotSync t1 t2 => exact .inr (.inl ⟨id, rfl, rfl, rfl, rfl, rfl, rfl⟩)
  | gotDelay cf => exact .inr (.inl ⟨id, rfl, rfl, rfl, rfl, rfl, rfl⟩)
  | update =>
    -- Without a fresh Sync, or with an incorrect timestamp, there is no update.
    by_cases hrun : UpdateRuns (ServoInput.meet ⟨m, .update⟩ n)
    · exact .inl ⟨hrun, wrServoUpdate_of_runs hrun⟩
    · refine .inr (.inl ⟨hrun, ?_⟩)
      have hsame : ServoInput.run ⟨m, .update⟩ n = ServoInput.meet ⟨m, .update⟩ n :=
        wrServoUpdate_of_not_runs hrun
      rw [hsame]
      exact ⟨rfl, rfl, rfl, rfl, rfl, rfl⟩

/-! ### A lost lock -/

/-- An update that tracks the phase and measures a jump. -/
def LosesLock (i : ServoInput) (n : Node) : Prop :=
  i.Updates n ∧ n.port.servo.state = .trackPhase ∧ Jumped (i.hw n)

/-- A lost lock makes the servo synchronise from the start. -/
def LossActedUpon (i : ServoInput) (n : Node) : Prop :=
  LosesLock i n → (i.run n).port.servo.state = .syncTai

/-- Tracking is off when the lock is lost. -/
def LossUntracked (i : ServoInput) (n : Node) : Prop :=
  LosesLock i n → i.surroundings.statics.trackingEnabled = false

/-- While tracking, the next state overrides the one a lost lock asks for. -/
lemma state_run_of_losesLock {i : ServoInput} {n : Node} (h : LosesLock i n) :
    (i.run n).port.servo.state =
      if i.surroundings.statics.trackingEnabled then .waitSyncIdle else .syncTai := by
  obtain ⟨hrun, hstate, hjump⟩ := h
  obtain ⟨-, heq⟩ | ⟨hno, -⟩ | ⟨hno, -⟩ := i.run_cases n
  · have hstate' : (measured (i.meet n)).port.servo.state = .trackPhase := by
      rw [measured_servo]
      exact hstate
    rw [heq, servo_servoStep_trackPhase _ _ hstate', measured_trackingEnabled, if_pos hjump]
    have htracking : (i.meet n).statics.trackingEnabled =
        i.surroundings.statics.trackingEnabled := rfl
    rw [htracking]
    split_ifs <;> rfl
  · exact absurd hrun hno
  · exact absurd hrun hno

/-- In every run, every lost lock is acted upon exactly when tracking is off at every loss. -/
theorem lossActedUpon_iff (n : Node) (inputs : List ServoInput) :
    EveryStep ServoInput.run LossActedUpon n inputs ↔
      EveryStep ServoInput.run LossUntracked n inputs := by
  refine EveryStep.congr fun i n => forall_congr' fun h => ?_
  rw [state_run_of_losesLock h]
  cases i.surroundings.statics.trackingEnabled <;> simp

instance (i : ServoInput) (n : Node) : Decidable (LosesLock i n) := by
  unfold LosesLock
  infer_instance

instance (i : ServoInput) (n : Node) : Decidable (LossActedUpon i n) := by
  unfold LossActedUpon
  infer_instance

section Exchanges

/-- A slave whose hardware always succeeds, tracking switched on. -/
def readySlave : Node :=
  let n := Daemon.singleNode ![2, 0, 0, 0, 0, 1] .wrSlave
  { n with netif.oracle := Oracle.ready true .wrSlave .nothing 64 0 }

/-- The calls of one exchange: the second timestamp, the fourth and its correction vary. -/
def exchange (t2 t4 : TimeInternal) (cf : ℤ) : List ServoInput :=
  [⟨readySlave, .gotSync ⟨5, 500, 0, 1⟩ t2⟩,
    ⟨{ readySlave with port.delayReqTxTs := ⟨6, 500, 0, 1⟩, port.delayReqReceiveTime := t4 },
      .gotDelay cf⟩,
    ⟨{ readySlave with statics.gotSync := true }, .update⟩]

/-- An exchange of synchronous clocks. -/
def steady : List ServoInput := exchange ⟨5, 502, 0, 1⟩ ⟨6, 501, 0, 1⟩ 0

/-- An exchange with a master 100 picoseconds ahead. -/
def drifted : List ServoInput := exchange ⟨5, 501, 900, 1⟩ ⟨6, 501, 0, 1⟩ 6554

/-- An exchange with a master one second ahead. -/
def jumped : List ServoInput := exchange ⟨4, 502, 0, 1⟩ ⟨7, 501, 0, 1⟩ 0

/-- The servo starts and reaches `WR_WAIT_OFFSET_STABLE`. -/
def untilWaiting : List ServoInput :=
  ⟨readySlave, .init⟩ :: (List.replicate 4 steady).flatten

end Exchanges

set_option maxRecDepth 100000 in
/-- Not every lost lock is acted upon: a master that jumps while the servo tracks is not. -/
theorem not_forall_lossActedUpon :
    ¬∀ (n : Node) (inputs : List ServoInput), EveryStep ServoInput.run LossActedUpon n inputs := by
  intro h
  exact absurd (h readySlave (untilWaiting ++ steady ++ jumped)) (by decide +kernel)

/-! ### Missed iterations -/

/-- The servo with the number of unstable measurements since it last entered
`WR_WAIT_OFFSET_STABLE`. -/
structure Watched where
  node : Node
  unstable : ℕ

namespace Watched

/-- An update in `WR_WAIT_OFFSET_STABLE`. -/
def Waits (i : ServoInput) (w : Watched) : Prop :=
  i.Updates w.node ∧ w.node.port.servo.state = .waitOffsetStable

/-- The measurement is neither a jump nor stable. -/
def Unstable (i : ServoInput) (w : Watched) : Prop :=
  ¬Jumped (i.hw w.node) ∧ ¬Stable (i.hw w.node)

instance (i : ServoInput) (w : Watched) : Decidable (w.Waits i) := by
  unfold Waits
  infer_instance

instance (i : ServoInput) (w : Watched) : Decidable (w.Unstable i) := by
  unfold Unstable
  infer_instance

/-- The call, and what it adds to the count. -/
def run (i : ServoInput) (w : Watched) : Watched where
  node := i.run w.node
  unstable :=
    if w.Waits i then if w.Unstable i then w.unstable + 1 else w.unstable
    else if (i.run w.node).port.servo.state = .waitOffsetStable ∧
        w.node.port.servo.state ≠ .waitOffsetStable then 0
    else w.unstable

/-- A stable measurement leads to tracking, and waiting ends without a jump only after ten unstable
measurements. -/
def StableTracks (i : ServoInput) (w : Watched) : Prop :=
  w.Waits i →
    (Stable (i.hw w.node) → (i.run w.node).port.servo.state = .trackPhase) ∧
    (¬Jumped (i.hw w.node) → (i.run w.node).port.servo.state = .syncTai →
      10 ≤ (w.run i).unstable)

/-- No iteration has been missed when the servo begins to wait for a stable offset. -/
def EntersClean (i : ServoInput) (w : Watched) : Prop :=
  i.Updates w.node → w.node.port.servo.state = .waitSyncIdle →
    w.node.port.servo.nextState = .waitOffsetStable → AdjustDone (measured (i.meet w.node)) →
      w.node.port.servo.missedIters = 0

instance (i : ServoInput) (w : Watched) : Decidable (w.StableTracks i) := by
  unfold StableTracks
  infer_instance

instance (i : ServoInput) (w : Watched) : Decidable (w.EntersClean i) := by
  unfold EntersClean
  infer_instance

/-- While the servo waits for a stable offset, it counts the unstable measurements. -/
def Counted (w : Watched) : Prop :=
  w.node.port.servo.state = .waitOffsetStable →
    w.node.port.servo.missedIters = w.unstable ∧ w.unstable < 10

/-- What an update in `WR_WAIT_OFFSET_STABLE` makes of the servo. -/
lemma servo_run_of_waits {i : ServoInput} {w : Watched} (h : w.Waits i) :
    (w.run i).node.port.servo.state =
        (if Jumped (i.hw w.node) ∨ 10 ≤ missedAfter (i.hw w.node) w.node.port.servo then .syncTai
          else if Stable (i.hw w.node) then .trackPhase else .waitOffsetStable) ∧
      (w.run i).node.port.servo.missedIters =
        missedAfter (i.hw w.node) w.node.port.servo := by
  obtain ⟨hrun, hstate⟩ := h
  obtain ⟨-, heq⟩ | ⟨hno, -⟩ | ⟨hno, -⟩ := i.run_cases w.node
  · have hstate' : (measured (i.meet w.node)).port.servo.state = .waitOffsetStable := by
      rw [measured_servo]
      exact hstate
    have hservo := servo_servoStep_waitOffsetStable (i.hw w.node) (updateTics (i.meet w.node))
      hstate'
    have hmissed : missedAfter (i.hw w.node) (measured (i.meet w.node)).port.servo =
        missedAfter (i.hw w.node) w.node.port.servo := by
      rw [measured_servo]
      rfl
    rw [hmissed] at hservo
    change (i.run w.node).port.servo.state = _ ∧ (i.run w.node).port.servo.missedIters = _
    rw [heq, hservo]
    exact ⟨rfl, rfl⟩
  · exact absurd hrun hno
  · exact absurd hrun hno

/-- A call enters `WR_WAIT_OFFSET_STABLE` only at the end of an adjustment. -/
lemma state_run_of_enters {i : ServoInput} {w : Watched}
    (hbefore : w.node.port.servo.state ≠ .waitOffsetStable)
    (hafter : (w.run i).node.port.servo.state = .waitOffsetStable) :
    i.Updates w.node ∧ w.node.port.servo.state = .waitSyncIdle ∧
      w.node.port.servo.nextState = .waitOffsetStable ∧ AdjustDone (measured (i.meet w.node)) ∧
      (w.run i).node.port.servo.missedIters = w.node.port.servo.missedIters := by
  change (i.run w.node).port.servo.state = _ at hafter
  change _ ∧ _ ∧ _ ∧ _ ∧ (i.run w.node).port.servo.missedIters = _
  obtain ⟨hrun, heq⟩ | ⟨-, hsame⟩ | ⟨-, -, htai⟩ := i.run_cases w.node
  · rw [heq] at hafter ⊢
    have hstate : (measured (i.meet w.node)).port.servo.state = w.node.port.servo.state := by
      rw [measured_servo]
      rfl
    -- Only a finished adjustment leads to the state it was meant for.
    cases hs : w.node.port.servo.state with
    | waitSyncIdle =>
      rw [hs] at hstate
      rw [servo_servoStep_waitSyncIdle _ _ hstate] at hafter ⊢
      split_ifs at hafter ⊢ with hdone
      · rw [measured_servo] at hafter ⊢
        exact ⟨hrun, rfl, hafter, hdone, rfl⟩
      · rw [hstate] at hafter
        cases hafter
    | syncTai =>
      rw [hs] at hstate
      rw [servo_servoStep_syncTai _ _ hstate] at hafter
      split_ifs at hafter
    | syncNsec =>
      rw [hs] at hstate
      rw [servo_servoStep_syncNsec _ _ hstate] at hafter
      split_ifs at hafter
    | syncPhase =>
      rw [hs] at hstate
      rw [servo_servoStep_syncPhase _ _ hstate] at hafter
      cases hafter
    | trackPhase =>
      rw [hs] at hstate
      rw [servo_servoStep_trackPhase _ _ hstate] at hafter
      split_ifs at hafter
      rw [hstate] at hafter
      cases hafter
    | waitOffsetStable => exact absurd hs hbefore
    | unset =>
      rw [hs] at hstate
      rw [servo_servoStep_unset _ _ hstate, hstate] at hafter
      cases hafter
  · exact absurd (hsame.state.symm.trans hafter) hbefore
  · rw [htai] at hafter
    cases hafter

/-- A call that enters the waiting cleanly, or counts one more measurement, keeps the count. -/
lemma counted_run {i : ServoInput} {w : Watched} (hw : w.Counted) (hg : w.EntersClean i) :
    w.StableTracks i ∧ (w.run i).Counted := by
  -- Either this call is an update in the waiting state, or nothing is counted.
  by_cases hwaits : w.Waits i
  · obtain ⟨hmissed, hlt⟩ := hw hwaits.2
    obtain ⟨hstate, hmissed'⟩ := servo_run_of_waits hwaits
    have hcount : (w.run i).unstable =
        if w.Unstable i then w.unstable + 1 else w.unstable := if_pos hwaits
    -- A jump restarts the servo whatever was missed.
    by_cases hjump : Jumped (i.hw w.node)
    · rw [if_pos (.inl hjump)] at hstate
      refine ⟨fun _ => ⟨fun hstable => absurd hjump hstable.not_jumped,
        fun hno => absurd hjump hno⟩, fun hafter => ?_⟩
      rw [hstate] at hafter
      cases hafter
    by_cases hstable : Stable (i.hw w.node)
    · -- fewer than ten were missed, so the stable measurement is not overridden
      have hsame : missedAfter (i.hw w.node) w.node.port.servo = w.node.port.servo.missedIters :=
        if_pos (.inr hstable)
      rw [hsame, if_neg (by rintro (h | h); exacts [hjump h, by omega]), if_pos hstable] at hstate
      refine ⟨fun _ => ⟨fun _ => hstate, fun _ htai => ?_⟩, fun hafter => ?_⟩
      · exact absurd (hstate.symm.trans htai) (by decide)
      · exact absurd (hstate.symm.trans hafter) (by decide)
    · have hone : missedAfter (i.hw w.node) w.node.port.servo =
          w.node.port.servo.missedIters + 1 :=
        if_neg (by rintro (h | h); exacts [hjump h, hstable h])
      rw [if_pos ⟨hjump, hstable⟩] at hcount
      rw [hone, if_neg hstable] at hstate
      rw [hone] at hmissed'
      refine ⟨fun _ => ⟨fun h => absurd h hstable, fun _ htai => ?_⟩, fun hafter => ?_⟩
      · by_contra hfew
        rw [if_neg (by rintro (h | h); exacts [hjump h, by omega])] at hstate
        exact absurd (hstate.symm.trans htai) (by decide)
      · -- The tenth miss gives up.
        by_cases hten : 10 ≤ w.node.port.servo.missedIters + 1
        · rw [if_pos (.inr hten)] at hstate
          exact absurd (hstate.symm.trans hafter) (by decide)
        · exact ⟨by omega, by omega⟩
  · refine ⟨fun h => absurd h hwaits, fun hafter => ?_⟩
    by_cases hbefore : w.node.port.servo.state = .waitOffsetStable
    · -- no update was executed, so nothing was counted
      have hcount : (w.run i).unstable = w.unstable :=
        (if_neg hwaits).trans (if_neg fun h => h.2 hbefore)
      obtain ⟨hrun, -⟩ | ⟨-, hsame⟩ | ⟨-, -, htai⟩ := i.run_cases w.node
      · exact absurd ⟨hrun, hbefore⟩ hwaits
      · obtain ⟨hmissed, hlt⟩ := hw hbefore
        rw [hcount]
        exact ⟨hsame.missedIters.trans hmissed, hlt⟩
      · exact absurd (htai.symm.trans hafter) (by decide)
    · obtain ⟨hrun, hidle, hnext, hdone, hmissed⟩ :=
        state_run_of_enters hbefore hafter
      have hcount : (w.run i).unstable = 0 :=
        (if_neg hwaits).trans (if_pos ⟨hafter, hbefore⟩)
      rw [hmissed, hg hrun hidle hnext hdone, hcount]
      exact ⟨rfl, by decide⟩

end Watched

/-- In every run of a started servo that enters `WR_WAIT_OFFSET_STABLE` only with no iteration
missed, a stable measurement leads to tracking, and waiting is given up only after ten unstable
measurements. -/
theorem stableTracks_of_guardedRun (n : Node) (inputs : List ServoInput)
    (hok : (show CalibrationData from n.answer .readCalibrationData).ok = true)
    (hguard : EveryStep Watched.run Watched.EntersClean ⟨wrServoInit n, 0⟩ inputs) :
    EveryStep Watched.run Watched.StableTracks ⟨wrServoInit n, 0⟩ inputs := by
  have hstart : Watched.Counted ⟨wrServoInit n, 0⟩ := by
    intro hstate
    have htai : (wrServoInit n).port.servo.state = .syncTai :=
      (congrArg (fun k : Node => k.port.servo.state) (if_pos hok)).trans rfl
    exact absurd (htai.symm.trans hstate) (by decide)
  exact hguard.of_invariant hstart fun i w hw hg => Watched.counted_run hw hg

set_option maxRecDepth 100000 in
/-- A servo that misses three iterations before its first stable measurement. -/
theorem stableTracks_untilWaiting :
    EveryStep Watched.run Watched.StableTracks ⟨wrServoInit readySlave, 0⟩
      (untilWaiting.tail ++ (List.replicate 3 drifted).flatten ++ steady) :=
  stableTracks_of_guardedRun readySlave _ rfl (by decide +kernel)

set_option maxRecDepth 100000 in
/-- Not every stable measurement leads to tracking: after ten unstable ones the servo synchronises
again, and then the first stable measurement makes it synchronise once more. -/
theorem not_forall_stableTracks :
    ¬∀ (n : Node) (inputs : List ServoInput),
      (show CalibrationData from n.answer .readCalibrationData).ok = true →
      EveryStep Watched.run Watched.StableTracks ⟨wrServoInit n, 0⟩ inputs := by
  intro h
  exact absurd (h readySlave (untilWaiting.tail ++ (List.replicate 10 drifted).flatten ++
    (List.replicate 4 steady).flatten ++ steady) rfl) (by decide +kernel)

/-! ### Following the delay -/

/-- The servo tracks the phase, or waits to return to that. -/
def Tracks (s : WrServoState) : Prop :=
  s.state = .trackPhase ∨ s.state = .waitSyncIdle ∧ s.nextState = .trackPhase

/-- The servo tracks the phase or is about to: it has set the phase and asked for no other. -/
def Settled (s : WrServoState) : Prop :=
  Tracks s ∨ s.state = .waitOffsetStable ∨
    s.state = .waitSyncIdle ∧ s.nextState = .waitOffsetStable

/-- The call neither starts the servo anew nor executes an update in `WR_SYNC_PHASE`. -/
def KeepsPhase (i : ServoInput) (n : Node) : Prop :=
  i.call.isInit = false ∧ ¬(i.Updates n ∧ n.port.servo.state = .syncPhase)

instance (i : ServoInput) (n : Node) : Decidable (KeepsPhase i n) := by
  unfold KeepsPhase
  infer_instance

/-- The setpoint has moved as much as the delay since both were `setpoint` and `delay`, and a
settled servo has asked the hardware for it. -/
structure Follows (setpoint delay : ℤ) (n : Node) : Prop where
  setpoint_eq : n.port.servo.curSetpoint ≡ setpoint + (n.port.servo.deltaMsPrev - delay)
    [ZMOD 2 ^ 32]
  held : Settled n.port.servo → lastPhase n.netif.commands = some n.port.servo.curSetpoint

lemma i32_modEq (x : ℤ) : i32 x ≡ x [ZMOD 2 ^ 32] := by
  simp only [i32, Int.ModEq, Int.bmod_def]
  omega

/-- A step in `WR_SYNC_PHASE` is where the setpoint starts to follow the delay. -/
lemma follows_servoStep_syncPhase (n : Node) (h : n.port.servo.state = .syncPhase)
    (hw : WrTimestamp) (tics : UInt64) :
    Follows (servoStep n hw tics).port.servo.curSetpoint
      (servoStep n hw tics).port.servo.deltaMs (servoStep n hw tics) := by
  refine ⟨?_, fun _ => ?_⟩
  · rw [servo_servoStep_syncPhase hw tics h, sub_self, add_zero]
  · rw [lastPhase_servoStep_syncPhase hw tics h, servo_servoStep_syncPhase hw tics h]

section Step

variable {n : Node} {setpoint delay : ℤ} (hw : WrTimestamp) (tics : UInt64)

/-- One step of the servo outside `WR_SYNC_PHASE`. The node may have measured a new delay. -/
lemma Follows.servoStep (h : Follows setpoint delay n) (hstate : n.port.servo.state ≠ .syncPhase) :
    Follows setpoint delay (servoStep n hw tics) := by
  obtain ⟨hset, hheld⟩ := h
  -- Only tracking moves the setpoint; the other states keep it or leave the settled states.
  cases hs : n.port.servo.state with
  | waitSyncIdle =>
    have hphase := lastPhase_servoStep_waitSyncIdle hw tics hs
    have hservo := servo_servoStep_waitSyncIdle hw tics hs
    refine ⟨by rw [hservo]; split_ifs <;> exact hset, fun hsettled => ?_⟩
    rw [hservo] at hsettled
    rw [hphase, hservo]
    split_ifs at hsettled ⊢
    · -- the servo reaches the state it was settled for
      apply hheld
      obtain (h | ⟨h, h'⟩) | h | ⟨h, h'⟩ := hsettled
      · exact .inl (.inr ⟨hs, h⟩)
      · exact absurd (h.symm.trans h') (by decide)
      · exact .inr (.inr ⟨hs, h⟩)
      · exact absurd (h.symm.trans h') (by decide)
    · exact hheld hsettled
  | syncTai =>
    have hservo := servo_servoStep_syncTai hw tics hs
    refine ⟨by rw [hservo]; split_ifs <;> exact hset, fun hsettled => ?_⟩
    rw [hservo] at hsettled
    split_ifs at hsettled <;> simp [Settled, Tracks] at hsettled
  | syncNsec =>
    have hservo := servo_servoStep_syncNsec hw tics hs
    refine ⟨by rw [hservo]; split_ifs <;> exact hset, fun hsettled => ?_⟩
    rw [hservo] at hsettled
    split_ifs at hsettled <;> simp [Settled, Tracks] at hsettled
  | syncPhase => exact absurd hs hstate
  | waitOffsetStable =>
    have hservo := servo_servoStep_waitOffsetStable hw tics hs
    refine ⟨by rw [hservo]; exact hset, fun _ => ?_⟩
    rw [lastPhase_servoStep_waitOffsetStable hw tics hs, hservo]
    exact hheld (.inr (.inl hs))
  | trackPhase =>
    have hservo := servo_servoStep_trackPhase hw tics hs
    have hphase := lastPhase_servoStep_trackPhase hw tics hs
    refine ⟨?_, fun _ => ?_⟩
    · rw [hservo]
      split_ifs
      · -- the new delay is added once, the old one taken away once
        dsimp only
        calc i32 (n.port.servo.curSetpoint + (n.port.servo.deltaMs - n.port.servo.deltaMsPrev))
            ≡ n.port.servo.curSetpoint + (n.port.servo.deltaMs - n.port.servo.deltaMsPrev)
              [ZMOD 2 ^ 32] := i32_modEq _
          _ ≡ setpoint + (n.port.servo.deltaMsPrev - delay) +
              (n.port.servo.deltaMs - n.port.servo.deltaMsPrev) [ZMOD 2 ^ 32] :=
            hset.add_right _
          _ = setpoint + (n.port.servo.deltaMs - delay) := by ring
      · exact hset
      · exact hset
    · rw [hphase, hservo]
      split_ifs
      · rfl
      · exact hheld (.inl (.inl hs))
      · exact hheld (.inl (.inl hs))
  | unset =>
    have hservo := servo_servoStep_unset hw tics hs
    refine ⟨by rw [hservo]; exact hset, fun hsettled => ?_⟩
    rw [hservo] at hsettled
    simp [Settled, Tracks, hs] at hsettled

end Step

/-- Storing a measurement changes neither the setpoint nor the state. -/
lemma Follows.measured {n : Node} {setpoint delay : ℤ} (h : Follows setpoint delay n) :
    Follows setpoint delay (measured n) := by
  refine ⟨?_, ?_⟩
  · rw [measured_servo]
    exact h.setpoint_eq
  · rw [measured_servo, lastPhase_measured]
    exact h.held

/-- A call that keeps the phase lets the setpoint follow the delay. -/
lemma Follows.run {i : ServoInput} {n : Node} {setpoint delay : ℤ} (h : Follows setpoint delay n)
    (hkeeps : KeepsPhase i n) : Follows setpoint delay (i.run n) := by
  obtain ⟨hrun, heq⟩ | ⟨-, hsame⟩ | ⟨-, hinit, -⟩ := i.run_cases n
  · -- What the servo meets is new surroundings, not a new setpoint.
    have hmeet : Follows setpoint delay (i.meet n) := ⟨h.setpoint_eq, h.held⟩
    rw [heq]
    refine Follows.servoStep _ _ hmeet.measured fun hstate => hkeeps.2 ⟨hrun, ?_⟩
    rw [measured_servo] at hstate
    exact hstate
  · refine ⟨?_, fun hsettled => ?_⟩
    · rw [hsame.curSetpoint, hsame.deltaMsPrev]
      exact h.setpoint_eq
    · rw [hsame.commands, hsame.curSetpoint]
      simp only [Settled, Tracks, hsame.state, hsame.nextState] at hsettled
      exact h.held hsettled
  · rw [hkeeps.1] at hinit
    cases hinit

/-- After an update in `WR_SYNC_PHASE`, and until the next one or a new start, the setpoint is the
one of that update moved by the change of the delay, and while the servo tracks, or waits to return
to that, the hardware was last asked for the setpoint. -/
theorem setpoint_follows (n : Node) (inputs : List ServoInput) (hrun : UpdateRuns n)
    (hstate : n.port.servo.state = .syncPhase)
    (hkeeps : EveryStep ServoInput.run KeepsPhase (wrServoUpdate n) inputs) :
    (runInputs ServoInput.run (wrServoUpdate n) inputs).port.servo.curSetpoint ≡
        (wrServoUpdate n).port.servo.curSetpoint +
          ((runInputs ServoInput.run (wrServoUpdate n) inputs).port.servo.deltaMsPrev -
            (wrServoUpdate n).port.servo.deltaMs) [ZMOD 2 ^ 32] ∧
      (Tracks (runInputs ServoInput.run (wrServoUpdate n) inputs).port.servo →
        lastPhase (runInputs ServoInput.run (wrServoUpdate n) inputs).netif.commands =
          some (runInputs ServoInput.run (wrServoUpdate n) inputs).port.servo.curSetpoint) := by
  have hstart : Follows (wrServoUpdate n).port.servo.curSetpoint
      (wrServoUpdate n).port.servo.deltaMs (wrServoUpdate n) := by
    rw [wrServoUpdate_of_runs hrun]
    refine follows_servoStep_syncPhase _ ?_ _ _
    rw [measured_servo]
    exact hstate
  have hend := hkeeps.runInputs_of_invariant hstart fun i n h hg => h.run hg
  exact ⟨hend.setpoint_eq, fun htracks => hend.held (.inl htracks)⟩

/-- The ready slave before it executes an update in `WR_SYNC_PHASE`. -/
def syncPhaseSlave : Node :=
  ServoInput.meet ⟨{ readySlave with statics.gotSync := true }, .update⟩
    (runInputs ServoInput.run readySlave (untilWaiting.take 9))

/-- The exchanges that follow: the offset is stable, then the fibre grows by a nanosecond. -/
def growingFibre : List ServoInput :=
  steady ++ steady ++ exchange ⟨5, 503, 0, 1⟩ ⟨6, 502, 0, 1⟩ 0

set_option maxRecDepth 100000 in
theorem setpoint_follows_growingFibre :
    (runInputs ServoInput.run (wrServoUpdate syncPhaseSlave) growingFibre).port.servo.curSetpoint ≡
        (wrServoUpdate syncPhaseSlave).port.servo.curSetpoint + 1000 [ZMOD 2 ^ 32] ∧
      lastPhase
          (runInputs ServoInput.run (wrServoUpdate syncPhaseSlave) growingFibre).netif.commands =
        some (runInputs ServoInput.run (wrServoUpdate syncPhaseSlave)
          growingFibre).port.servo.curSetpoint := by
  obtain ⟨hset, hheld⟩ := setpoint_follows syncPhaseSlave growingFibre (by decide +kernel)
    (by decide +kernel) (by decide +kernel)
  have hdelay : (runInputs ServoInput.run (wrServoUpdate syncPhaseSlave)
      growingFibre).port.servo.deltaMsPrev - (wrServoUpdate syncPhaseSlave).port.servo.deltaMs =
        1000 := by
    decide +kernel
  rw [hdelay] at hset
  exact ⟨hset, hheld (.inr (by decide +kernel))⟩

end WhiteRabbitPtp
