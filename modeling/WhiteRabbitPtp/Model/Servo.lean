import WhiteRabbitPtp.Model.Arith
import WhiteRabbitPtp.Model.Environment

/-!
# The White Rabbit servo

The timestamp arithmetic and the servo state machine of `dep/wr_servo.c`. Values kept for display
only (`cur_servo_state`) are left out.
-/

namespace WhiteRabbitPtp

/-! ### Timestamp arithmetic -/

/-- A timestamp in picoseconds. -/
def tsToPicos (ts : WrTimestamp) : ℤ :=
  i64 (ts.sec * 1000000000000 + ts.nsec * 1000 + ts.phase)

/-- The timestamp of a number of picoseconds. -/
def picosToTs (picos : ℤ) : WrTimestamp :=
  let phase := picos.tmod 1000
  let picos := (picos - phase).tdiv 1000
  let nsec := picos.tmod 1000000000
  let picos := (picos - nsec).tdiv 1000000000
  { sec := picos, nsec := i32 nsec, phase := i32 phase, correct := 0 }

/-- `while (lo >= step) { lo -= step; hi++; }`, as the pair of `hi` and `lo`. -/
def carryOver (step lo hi : ℤ) : ℤ × ℤ :=
  if h : 0 < step ∧ step ≤ lo then carryOver step (lo - step) (hi + 1) else (hi, lo)
termination_by lo.toNat
decreasing_by omega

/-- `while (lo < 0) { lo += step; hi--; }`, as the pair of `hi` and `lo`. -/
def borrow (step lo hi : ℤ) : ℤ × ℤ :=
  if h : 0 < step ∧ lo < 0 then borrow step (lo + step) (hi - 1) else (hi, lo)
termination_by (-lo).toNat
decreasing_by omega

/-- Sum of two timestamps. -/
def tsAdd (a b : WrTimestamp) : WrTimestamp :=
  let (nsec, phase) := carryOver 1000 (i32 (a.phase + b.phase)) 0
  let (sec, nsec) := carryOver 1000000000 (i32 (nsec + (a.nsec + b.nsec))) 0
  { sec := i64 (sec + (a.sec + b.sec)), nsec, phase, correct := 0 }

/-- Difference of two timestamps. -/
def tsSub (a b : WrTimestamp) : WrTimestamp :=
  let (nsec, phase) := borrow 1000 (i32 (a.phase - b.phase)) 0
  let (sec, nsec) := borrow 1000000000 (i32 (nsec + (a.nsec - b.nsec))) 0
  { sec := i64 (sec + (a.sec - b.sec)), nsec, phase, correct := 0 }

/-- Make the nanoseconds a multiple of the clock period and put the rest into the phase. Where
`qThreshold` is `0`, for a period from `-1998` to `0`, the source divides by zero; here the
remainder is then the dividend. The results about the offset exclude these periods. -/
def tsHardwarize (ts : WrTimestamp) (clockPeriodPs : ℤ) : WrTimestamp :=
  let qThreshold := (i32 (clockPeriodPs + 999)).tdiv 1000
  let ts :=
    if 0 < ts.nsec then
      let extraNsec := ts.nsec.tmod qThreshold
      if extraNsec ≠ 0 then
        { ts with nsec := i32 (ts.nsec - extraNsec), phase := i32 (ts.phase + extraNsec * 1000) }
      else ts
    else ts
  let ts :=
    if ts.nsec < 0 then { ts with nsec := i32 (ts.nsec + 1000000000), sec := i64 (ts.sec - 1) }
    else ts
  let ts :=
    -- A second is returned to a small negative offset.
    if ts.sec = -1 ∧ 0 < ts.nsec then
      { ts with sec := ts.sec + 1, nsec := i32 (ts.nsec - 1000000000) }
    else ts
  if ts.nsec < 0 ∧ -qThreshold ≤ ts.nsec ∧ ts.sec = 0 then
    { ts with nsec := i32 (ts.nsec + qThreshold), phase := i32 (ts.phase - qThreshold * 1000) }
  else ts

/-- A `TimeInternal` as a timestamp with the given correctness mark. -/
def timeintToWr (t : TimeInternal) (correct : ℤ) : WrTimestamp :=
  { sec := t.seconds, nsec := t.nanoseconds, phase := t.phase, correct }

/-- The picoseconds of a fixed delay, as the servo takes them out of its scaled form. -/
def FixedDelta.toPicos (d : FixedDelta) : ℤ :=
  i32 (d.scaledPicoseconds.lsb >>> 16 ||| d.scaledPicoseconds.msb <<< 16).toNat

/-! ### The servo -/

/-- Offset below which the servo starts tracking, in picoseconds. -/
abbrev WR_SERVO_OFFSET_STABILITY_THRESHOLD : ℤ := 60

/-- `wr_servo_reset`. -/
def wrServoReset (n : Node) : Node := { n with statics.servoStateValid := false }

/-- `wr_servo_init`: nothing changes when the calibration data cannot be read. -/
def wrServoInit (n : Node) : Node :=
  let data : CalibrationData := n.answer .readCalibrationData
  let n := n.called .readCalibrationData
  if data.ok then
    -- The timing output stays off until the offset is found to be stable.
    let n := n.command (.enableTimingOutput false)
    { n with
      port.servo := { n.port.servo with
        fiberFixAlpha := data.fixAlpha
        clockPeriodPs := data.clockPeriod
        state := .syncTai
        curSetpoint := 0
        missedIters := 0
        deltaTxM := n.port.wr.otherNodeDeltaTx.toPicos
        deltaRxM := n.port.wr.otherNodeDeltaRx.toPicos
        deltaTxS := n.port.wr.deltaTx.toPicos
        deltaRxS := n.port.wr.deltaRx.toPicos }
      statics := { n.statics with servoStateValid := true, gotSync := false } }
  else n

/-- `wr_servo_got_sync`. -/
def wrServoGotSync (n : Node) (t1 t2 : TimeInternal) : Node :=
  { n with
    port.servo := { n.port.servo with t1 := timeintToWr t1 1, t2 := timeintToWr t2 t2.correct }
    statics.gotSync := true }

/-- `wr_servo_got_delay`. -/
def wrServoGotDelay (n : Node) (cf : ℤ) : Node :=
  { n with
    port.servo := { n.port.servo with
      t3 := n.port.delayReqTxTs
      t4 := { timeintToWr n.port.delayReqReceiveTime 1 with
        phase := i32 ((cf * 1000).tdiv 65536) } } }

/-- The delay `delay_ms_fix` as the unsigned 64-bit number the code computes. -/
def delayMsFix (s : WrServoState) (phAdjust : ℤ) : ℤ :=
  let bigDeltaFix := i32 (i32 (i32 (s.deltaTxM + s.deltaTxS) + s.deltaRxM) + s.deltaRxS)
  let rest := tsToPicos s.mu - bigDeltaFix
  ((i64 (i64 rest * s.fiberFixAlpha)) / 2 ^ 40 + (rest % 2 ^ 64) / 2 + s.deltaTxM + s.deltaRxS
    + phAdjust) % 2 ^ 64

/-- One step of the servo state machine with a hardware offset. -/
def servoStep (n : Node) (hw : WrTimestamp) (tics : UInt64) : Node :=
  let s := n.port.servo
  match s.state with
  | .waitSyncIdle =>
    let inProgress : Bool := n.answer .adjustInProgress
    let n := n.called .adjustInProgress
    if inProgress then n else { n with port.servo.state := s.nextState }
  | .syncTai =>
    let n := n.command (.enableTimingOutput false)
    if hw.sec ≠ 0 then
      let n := (n.command (.adjustCounters hw.sec 0)).command (.adjustPhase 0)
      { n with port.servo :=
        { s with nextState := .syncNsec, state := .waitSyncIdle, lastTics := tics } }
    else { n with port.servo.state := .syncNsec }
  | .syncNsec =>
    if hw.nsec ≠ 0 then
      let n := n.command (.adjustCounters 0 hw.nsec)
      { n with port.servo :=
        { s with nextState := .syncNsec, state := .waitSyncIdle, lastTics := tics } }
    else { n with port.servo.state := .syncPhase }
  | .syncPhase =>
    let setpoint := i32 (hw.phase + hw.nsec * 1000)
    let n := n.command (.adjustPhase setpoint)
    { n with port.servo :=
      { s with
        curSetpoint := setpoint
        nextState := .waitOffsetStable
        state := .waitSyncIdle
        lastTics := tics
        deltaMsPrev := s.deltaMs } }
  | .waitOffsetStable =>
    let remainingOffset : ℤ := (i32 (tsToPicos hw)).natAbs
    let n : Node :=
      if hw.sec ≠ 0 ∨ hw.nsec ≠ 0 then { n with port.servo.state := .syncTai }
      else if remainingOffset < WR_SERVO_OFFSET_STABILITY_THRESHOLD then
        { n.command (.enableTimingOutput true) with port.servo := { s with state := .trackPhase } }
      else { n with port.servo.missedIters := s.missedIters + 1 }
    -- The counter is compared after a stable measurement as well.
    if 10 ≤ n.port.servo.missedIters then { n with port.servo.state := .syncTai } else n
  | .trackPhase =>
    let n : Node :=
      if hw.sec ≠ 0 ∨ hw.nsec ≠ 0 then { n with port.servo.state := .syncTai } else n
    -- Tracking goes on even when the lock was just lost.
    if n.statics.trackingEnabled then
      let setpoint := i32 (s.curSetpoint + (s.deltaMs - s.deltaMsPrev))
      let n := n.command (.adjustPhase setpoint)
      { n with port.servo :=
        { s with
          curSetpoint := setpoint
          deltaMsPrev := s.deltaMs
          nextState := .trackPhase
          state := .waitSyncIdle
          lastTics := tics } }
    else n
  | .unset => n

/-- `wr_servo_update`. -/
def wrServoUpdate (n : Node) : Node :=
  let s := n.port.servo
  if !n.statics.gotSync then n
  -- The Sync stays pending until all four timestamps are correct.
  else if s.t1.correct = 0 ∨ s.t2.correct = 0 ∨ s.t3.correct = 0 ∨ s.t4.correct = 0 then n
  else
    let s := { s with mu := tsSub (tsSub s.t4 s.t1) (tsSub s.t3 s.t2) }
    let delay := i64 (delayMsFix s n.statics.phAdjust)
    let hw := tsHardwarize (tsAdd (tsSub s.t1 s.t2) (picosToTs delay)) s.clockPeriodPs
    let n := { n with
      statics.gotSync := false
      port.servo := { s with deltaMs := delay } }
    let tics : UInt64 := n.answer .msecTics
    let n := n.called .msecTics
    -- A port that has lost its lock is restarted, but the update goes on.
    have ready : Bool := n.answer (.lockingPoll .nonWr 0)
    let n := n.called (.lockingPoll .nonWr 0)
    let n : Node :=
      if ready then n
      else { n.command (.enableTimingOutput false) with port.doRestart := true }
    servoStep n hw tics

end WhiteRabbitPtp
