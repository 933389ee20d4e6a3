import WhiteRabbitPtp.Correctness.ServoArith

/-!
# One update of the servo

An executed `wr_servo_update` measures, polls the lock of the hardware and then takes one step of
the servo's state machine with the offset it has measured. Each state has its own lemma for what
that step makes of the servo and which orders it gives to the hardware.

## Main definitions

* `UpdateRuns`: an update that is executed.
* `servoMu`, `servoDelay`, `servoOffset`, `servoOffsetHw`: the local variables of the update.
* `stored`, `lockPolled`: the node the state machine starts from.

## Main results

* `wrServoUpdate_of_runs`: an executed update is one step of the servo with `servoOffsetHw`.
* `servo_servoStep_trackPhase`: what a step in `TRACK_PHASE` makes of the servo.
-/

namespace WhiteRabbitPtp

/-! ### The local variables of an update -/

/-- The measured round trip. -/
def servoMu (s : WrServoState) : WrTimestamp := tsSub (tsSub s.t4 s.t1) (tsSub s.t3 s.t2)

/-- The delay from master to slave. -/
def servoDelay (s : WrServoState) (phAdjust : ℤ) : ℤ :=
  i64 (delayMsFix { s with mu := servoMu s } phAdjust)

/-- The offset of the slave's clock. -/
def servoOffset (s : WrServoState) (phAdjust : ℤ) : WrTimestamp :=
  tsAdd (tsSub s.t1 s.t2) (picosToTs (servoDelay s phAdjust))

/-- The offset in whole ticks of the hardware and a phase. -/
def servoOffsetHw (s : WrServoState) (phAdjust : ℤ) : WrTimestamp :=
  tsHardwarize (servoOffset s phAdjust) s.clockPeriodPs

/-! ### From the update to the state machine -/

/-- The update gets past its checks. -/
def UpdateRuns (n : Node) : Prop :=
  n.statics.gotSync = true ∧ n.port.servo.t1.correct ≠ 0 ∧ n.port.servo.t2.correct ≠ 0 ∧
    n.port.servo.t3.correct ≠ 0 ∧ n.port.servo.t4.correct ≠ 0

instance (n : Node) : Decidable (UpdateRuns n) := by
  unfold UpdateRuns
  infer_instance

/-- The node that has stored what it measured. -/
def stored (n : Node) : Node :=
  { n with
    statics.gotSync := false
    port.servo := { n.port.servo with
      mu := servoMu n.port.servo
      deltaMs := servoDelay n.port.servo n.statics.phAdjust } }

/-- The node whose hardware is to be checked for its lock. -/
def lockPolled (n : Node) : Node :=
  let n := n.called .msecTics
  let ready : Bool := n.answer (.lockingPoll .nonWr 0)
  let n := n.called (.lockingPoll .nonWr 0)
  if ready then n
  else { n.command (.enableTimingOutput false) with port.doRestart := true }

/-- The reading of the millisecond counter an update makes. -/
def updateTics (n : Node) : UInt64 := (stored n).answer .msecTics

/-- The node the state machine starts from, and the offset it starts with. -/
def measured (n : Node) : Node := lockPolled (stored n)

/-- The hardware offset of the update. -/
def updateHw (n : Node) : WrTimestamp := servoOffsetHw n.port.servo n.statics.phAdjust

/-- An executed update is one step of the servo. -/
lemma wrServoUpdate_of_runs {n : Node} (h : UpdateRuns n) :
    wrServoUpdate n = servoStep (measured n) (updateHw n) (updateTics n) := by
  obtain ⟨hsync, h₁, h₂, h₃, h₄⟩ := h
  simp only [wrServoUpdate, hsync, Bool.not_true, Bool.false_eq_true, if_false, h₁, h₂, h₃, h₄,
    or_self]
  rfl

/-- An update that does not get past its checks changes nothing. -/
lemma wrServoUpdate_of_not_runs {n : Node} (h : ¬UpdateRuns n) : wrServoUpdate n = n := by
  by_cases hsync : n.statics.gotSync = true
  · have hcorrect : n.port.servo.t1.correct = 0 ∨ n.port.servo.t2.correct = 0 ∨
        n.port.servo.t3.correct = 0 ∨ n.port.servo.t4.correct = 0 := by
      by_contra hno
      simp only [not_or] at hno
      exact h ⟨hsync, hno⟩
    simp only [wrServoUpdate, hsync, Bool.not_true, Bool.false_eq_true, if_false]
    exact if_pos hcorrect
  · simp [wrServoUpdate, hsync]

lemma lockPolled_servo (n : Node) : (lockPolled n).port.servo = n.port.servo := by
  dsimp only [lockPolled]
  split_ifs <;> rfl

lemma lockPolled_statics (n : Node) : (lockPolled n).statics = n.statics := by
  dsimp only [lockPolled]
  split_ifs <;> rfl

@[simp]
lemma measured_servo (n : Node) :
    (measured n).port.servo =
      { n.port.servo with
        mu := servoMu n.port.servo
        deltaMs := servoDelay n.port.servo n.statics.phAdjust } :=
  lockPolled_servo (stored n)

@[simp]
lemma measured_trackingEnabled (n : Node) :
    (measured n).statics.trackingEnabled = n.statics.trackingEnabled := by
  rw [measured, lockPolled_statics]
  rfl

/-! ### What a step makes of the servo -/

section Step

variable {n : Node} (hw : WrTimestamp) (tics : UInt64)

/-- The hardware has carried out the last adjustment. -/
def AdjustDone (n : Node) : Prop := (show Bool from n.answer .adjustInProgress) = false

instance (n : Node) : Decidable (AdjustDone n) := by
  unfold AdjustDone
  infer_instance

lemma servo_servoStep_waitSyncIdle (h : n.port.servo.state = .waitSyncIdle) :
    (servoStep n hw tics).port.servo =
      if AdjustDone n then { n.port.servo with state := n.port.servo.nextState }
      else n.port.servo := by
  by_cases hdone : AdjustDone n
  · have hdone' : n.answer .adjustInProgress = false := hdone
    simp [servoStep, h, hdone, hdone']
  · have hdone' : n.answer .adjustInProgress = true := by
      simpa [AdjustDone] using hdone
    simp [servoStep, h, hdone, hdone']

lemma servo_servoStep_syncTai (h : n.port.servo.state = .syncTai) :
    (servoStep n hw tics).port.servo =
      if hw.sec ≠ 0 then
        { n.port.servo with nextState := .syncNsec, state := .waitSyncIdle, lastTics := tics }
      else { n.port.servo with state := .syncNsec } := by
  simp only [servoStep, h]
  split_ifs <;> rfl

lemma servo_servoStep_syncNsec (h : n.port.servo.state = .syncNsec) :
    (servoStep n hw tics).port.servo =
      if hw.nsec ≠ 0 then
        { n.port.servo with nextState := .syncNsec, state := .waitSyncIdle, lastTics := tics }
      else { n.port.servo with state := .syncPhase } := by
  simp only [servoStep, h]
  split_ifs <;> rfl

lemma servo_servoStep_syncPhase (h : n.port.servo.state = .syncPhase) :
    (servoStep n hw tics).port.servo =
      { n.port.servo with
        curSetpoint := i32 (hw.phase + hw.nsec * 1000)
        nextState := .waitOffsetStable
        state := .waitSyncIdle
        lastTics := tics
        deltaMsPrev := n.port.servo.deltaMs } := by
  simp only [servoStep, h]

/-- The hardware offset has whole seconds or whole ticks. -/
def Jumped (hw : WrTimestamp) : Prop := hw.sec ≠ 0 ∨ hw.nsec ≠ 0

/-- The hardware offset is below the threshold of a stable offset. -/
def Stable (hw : WrTimestamp) : Prop :=
  hw.sec = 0 ∧ hw.nsec = 0 ∧
    ((i32 (tsToPicos hw)).natAbs : ℤ) < WR_SERVO_OFFSET_STABILITY_THRESHOLD

instance (hw : WrTimestamp) : Decidable (Jumped hw) := by
  unfold Jumped
  infer_instance

instance (hw : WrTimestamp) : Decidable (Stable hw) := by
  unfold Stable
  infer_instance

lemma Stable.not_jumped {hw : WrTimestamp} (h : Stable hw) : ¬Jumped hw := by
  rintro (hsec | hnsec)
  · exact hsec h.1
  · exact hnsec h.2.1

/-- The iterations missed when a step in `WR_WAIT_OFFSET_STABLE` ends: a jump or a stable offset
does not count as one. -/
def missedAfter (hw : WrTimestamp) (s : WrServoState) : ℤ :=
  if Jumped hw ∨ Stable hw then s.missedIters else s.missedIters + 1

lemma servo_servoStep_waitOffsetStable (h : n.port.servo.state = .waitOffsetStable) :
    (servoStep n hw tics).port.servo =
      { n.port.servo with
        missedIters := missedAfter hw n.port.servo
        state :=
          if Jumped hw ∨ 10 ≤ missedAfter hw n.port.servo then .syncTai
          else if Stable hw then .trackPhase
          else .waitOffsetStable } := by
  simp only [servoStep, h]
  -- A jump is seen before the threshold is looked at.
  by_cases hjump : Jumped hw
  · have hjump' : hw.sec ≠ 0 ∨ hw.nsec ≠ 0 := hjump
    simp only [hjump, hjump', missedAfter, true_or, if_true]
    split_ifs <;> rfl
  · have hjump' : ¬(hw.sec ≠ 0 ∨ hw.nsec ≠ 0) := hjump
    have hzero : hw.sec = 0 ∧ hw.nsec = 0 := by
      simpa [Jumped] using hjump
    by_cases hstable : Stable hw
    · have hthreshold := hstable.2.2
      simp only [hjump, hjump', hstable, hthreshold, missedAfter, false_or, or_true, if_true,
        if_false]
      split_ifs <;> rfl
    · have hthreshold : ¬((i32 (tsToPicos hw)).natAbs : ℤ) <
          WR_SERVO_OFFSET_STABILITY_THRESHOLD :=
        fun hlt => hstable ⟨hzero.1, hzero.2, hlt⟩
      simp only [hjump, hjump', hstable, hthreshold, missedAfter, false_or, or_self, if_false]
      split_ifs <;> rfl

lemma servo_servoStep_trackPhase (h : n.port.servo.state = .trackPhase) :
    (servoStep n hw tics).port.servo =
      if n.statics.trackingEnabled then
        { n.port.servo with
          curSetpoint :=
            i32 (n.port.servo.curSetpoint + (n.port.servo.deltaMs - n.port.servo.deltaMsPrev))
          deltaMsPrev := n.port.servo.deltaMs
          nextState := .trackPhase
          state := .waitSyncIdle
          lastTics := tics }
      else if Jumped hw then { n.port.servo with state := .syncTai }
      else n.port.servo := by
  by_cases hjump : Jumped hw
  · have hjump' : hw.sec ≠ 0 ∨ hw.nsec ≠ 0 := hjump
    simp only [servoStep, h, hjump, hjump', if_true]
    cases htracking : n.statics.trackingEnabled <;> simp
  · have hjump' : ¬(hw.sec ≠ 0 ∨ hw.nsec ≠ 0) := hjump
    simp only [servoStep, h, hjump, hjump', if_false]
    cases htracking : n.statics.trackingEnabled <;> simp

lemma servo_servoStep_unset (h : n.port.servo.state = .unset) :
    (servoStep n hw tics).port.servo = n.port.servo := by
  simp only [servoStep, h]

end Step

/-! ### Which phase a step asks for -/

/-- The last value given to `ptpd_netif_adjust_phase`. -/
def lastPhase (commands : List NetifCommand) : Option ℤ :=
  commands.foldl
    (fun last c => match c with
      | .adjustPhase phasePs => some phasePs
      | _ => last)
    none

@[simp]
lemma lastPhase_adjustPhase (commands : List NetifCommand) (phasePs : ℤ) :
    lastPhase (commands ++ [.adjustPhase phasePs]) = some phasePs := by
  simp [lastPhase]

@[simp]
lemma lastPhase_enableTimingOutput (commands : List NetifCommand) (enable : Bool) :
    lastPhase (commands ++ [.enableTimingOutput enable]) = lastPhase commands := by
  simp [lastPhase]

/-- Polling the lock asks for no phase. -/
lemma lastPhase_measured (n : Node) :
    lastPhase (measured n).netif.commands = lastPhase n.netif.commands := by
  dsimp only [measured, lockPolled]
  split_ifs
  · rfl
  · exact lastPhase_enableTimingOutput _ _

section Commands

variable {n : Node} (hw : WrTimestamp) (tics : UInt64)

lemma lastPhase_servoStep_waitSyncIdle (h : n.port.servo.state = .waitSyncIdle) :
    lastPhase (servoStep n hw tics).netif.commands = lastPhase n.netif.commands := by
  simp only [servoStep, h]
  split_ifs <;> rfl

lemma lastPhase_servoStep_syncPhase (h : n.port.servo.state = .syncPhase) :
    lastPhase (servoStep n hw tics).netif.commands = some (i32 (hw.phase + hw.nsec * 1000)) := by
  simp only [servoStep, h]
  exact lastPhase_adjustPhase _ _

lemma lastPhase_servoStep_waitOffsetStable (h : n.port.servo.state = .waitOffsetStable) :
    lastPhase (servoStep n hw tics).netif.commands = lastPhase n.netif.commands := by
  simp only [servoStep, h]
  split_ifs <;> first | rfl | exact lastPhase_enableTimingOutput _ _

lemma lastPhase_servoStep_trackPhase (h : n.port.servo.state = .trackPhase) :
    lastPhase (servoStep n hw tics).netif.commands =
      if n.statics.trackingEnabled then
        some (i32 (n.port.servo.curSetpoint + (n.port.servo.deltaMs - n.port.servo.deltaMsPrev)))
      else lastPhase n.netif.commands := by
  simp only [servoStep, h]
  split_ifs <;> first | rfl | exact lastPhase_adjustPhase _ _

end Commands

end WhiteRabbitPtp
