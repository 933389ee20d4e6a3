import WhiteRabbitPtp.Model.Bmc
import WhiteRabbitPtp.Model.Servo

/-!
# Transitions of the two state machines

The transition functions of the PTP state machine (`toState` of `protocol.c`) and of the White
Rabbit state machine (`toWRState` of `wr_protocol.c`), with what they call.

The two call each other: entering `PTP_UNCALIBRATED` starts the White Rabbit state machine, and a
White Rabbit transition that fails to send its message asks for `PTP_FAULTY`. That request is
`toFaulty`, which `toState` agrees with on `PTP_FAULTY` (`toState_faulty`).

## Main definitions

* `leaveState`, `enterState`, `toState`: transitions of the PTP state machine.
* `initWrData`, `enterWRState`, `toWRState`: transitions of the White Rabbit state machine.
* `wrTimerExpired`: the time-outs of the White Rabbit state machine.
-/

namespace WhiteRabbitPtp

/-! ### Leaving a PTP state, and failing -/

/-- The tasks of `toState` for leaving the current state. -/
def leaveState (rtOpts : RunTimeOpts) (n : Node) : Node :=
  match n.port.portState with
  | .master => ((n.timerStop .sync).timerStop .announceInterval).timerStop .pdelayReq
  | .slave =>
    let n := n.timerStop .announceReceipt
    let n := if rtOpts.E2E_mode then n.timerStop .delayReq else n.timerStop .pdelayReq
    { n with port.wr.wrMode := .nonWr, port.wr.wrModeON := false }
  | .passive => (n.timerStop .pdelayReq).timerStop .announceReceipt
  | .listening => n.timerStop .announceReceipt
  | _ => n

/-- `toState(PTP_FAULTY)`. A running White Rabbit state machine is not preempted. -/
def toFaulty (rtOpts : RunTimeOpts) (n : Node) : Node :=
  if n.port.wr.wrPortState ≠ .idle then n
  else { leaveState rtOpts n with port.portState := .faulty }

/-! ### Sending a message -/

/-- Pack a message into the output buffer and send its first `length` octets. `record` stores what
the transmission reported; the transmission has failed when it returned `0`, otherwise `sent`
counts it. -/
def issueMsg (rtOpts : RunTimeOpts) (buf : Octets.Buffer) (length : ℕ)
    (record : SendResult → PtpPortDS → PtpPortDS) (sent : PtpPortDS → PtpPortDS)
    (n : Node) : Node :=
  let n := { n with port.msgObuf := buf }
  let result : SendResult := n.answer .sendto
  let n := n.sendto length
  let n := { n with port := record result n.port }
  if result.ret = 0 then toFaulty rtOpts n else { n with port := sent n.port }

/-- Pack and send a White Rabbit signaling message. -/
def issueWRSignalingMsg (wrMessageID : UInt16) (rtOpts : RunTimeOpts) (n : Node) : Node :=
  let packed := msgPackWRSignalingMsg n.port.msgObuf n.clk n.port wrMessageID
  issueMsg rtOpts packed.1 packed.2.toNat (fun _ p => p) id n

/-! ### White Rabbit states -/

/-- A delay in picoseconds in its scaled form. -/
def FixedDelta.ofPicos (delta : UInt64) : FixedDelta :=
  ⟨{ msb := ((0xFFFFFFFF : UInt64) &&& delta >>> 16).toUInt32
     lsb := ((0xFFFFFFFF : UInt64) &&& delta <<< 16).toUInt32 }⟩

/-- The main state a substate belongs to (`returnCurrentWRMainState`). -/
def WrState.mainState : WrState → WrState
  | sLock1 | sLock2 => sLock
  | calibration1 | calibration2 | calibration3 | calibration4 => calibration
  | calibration5 | calibration6 | calibration7 | calibration8 => calibration
  | respCalibReq1 | respCalibReq2 | respCalibReq3 => respCalibReq
  | s => s

/-- The time-outs of the main states after `initWrData`. -/
def initialWrTimeouts (wrStateTimeout : UInt32) : WrState → ℤ
  | .present => 1000
  | .sLock => 10000
  | .mLock => 10000
  | _ => i32 wrStateTimeout.toNat

/-- Initialize the dynamic White Rabbit data of the port. -/
def initWrData (mode : InitMode) (n : Node) : Node :=
  let data : CalibrationData := n.answer .readCalibrationData
  let n := n.called .readCalibrationData
  let n := { n with
    port.wr := { n.port.wr with
      wrModeON := false
      wrPortState := .idle
      calibrated := !n.port.wr.phyCalibrationRequired
      deltaTx := if n.port.wr.phyCalibrationRequired then ⟨0, 0⟩ else .ofPicos data.deltaTx
      deltaRx := if n.port.wr.phyCalibrationRequired then ⟨0, 0⟩ else .ofPicos data.deltaRx
      parentWrConfig := .nonWr
      parentWrModeON := false
      parentCalibrated := false
      otherNodeCalPeriod := 0
      otherNodeCalRetry := 0
      otherNodeCalSendPattern := 0
      otherNodeDeltaTx := ⟨0, 0⟩
      otherNodeDeltaRx := ⟨0, 0⟩
      wrTimeouts := initialWrTimeouts n.port.wr.wrStateTimeout } }
  -- The register of the received message is not reset.
  match mode with
  | .init => { n with port.wr.wrMode := .nonWr, port.wr.wrSlaveRole := .nonSlave }
  | .reInit => n

/-- The priority a slave port locks with, by its role. -/
def WrSlaveRole.lockingPriority : WrSlaveRole → Option ℕ
  | nonSlave => none
  | primarySlave => some 0
  | secondarySlave => some 1

/-- The tasks of `toWRState` for entering a main state. -/
def enterWRState (state : WrState) (rtOpts : RunTimeOpts) (n : Node) : Node :=
  match state with
  | .idle => { n with port.wr.wrPortState := .idle }
  | .present =>
    { issueWRSignalingMsg SLAVE_PRESENT rtOpts n with port.wr.wrPortState := .present }
  | .sLock =>
    match n.port.wr.wrSlaveRole.lockingPriority with
    | some priority =>
      let call := Call.lockingEnable n.port.wr.wrMode priority
      let ok : Bool := n.answer call
      { n.called call with port.wr.wrPortState := if ok then .sLock1 else .sLock }
    | none => n
  | .locked => { issueWRSignalingMsg LOCKED rtOpts n with port.wr.wrPortState := .locked }
  | .mLock => { issueWRSignalingMsg LOCK rtOpts n with port.wr.wrPortState := .mLock }
  | .calibration =>
    let n := issueWRSignalingMsg CALIBRATE rtOpts n
    let timeout := if 0 < n.port.wr.calPeriod then n.port.wr.calPeriod else n.port.wr.wrStateTimeout
    let n := { n with
      port.wr.wrTimeouts := Function.update n.port.wr.wrTimeouts .calibration (i32 timeout.toNat) }
    if n.port.wr.calibrated then
      -- No calibration is needed: only its result is read.
      { n with port.wr.wrPortState := .calibration2 }
    else
      let patternOk : Bool := n.answer (.calibrationPatternEnable 0)
      let n := n.called (.calibrationPatternEnable 0)
      if patternOk then
        let txOk : Bool := n.answer (.calibratingEnable .tx)
        { n.called (.calibratingEnable .tx) with
          port.wr.wrPortState := if txOk then .calibration2 else .calibration1 }
      else { n with port.wr.wrPortState := .calibration }
  | .calibrated => { n with port.wr.wrPortState := .calibrated }
  | .respCalibReq =>
    if n.port.wr.otherNodeCalSendPattern = 1 then
      let timeout :=
        if 0 < n.port.wr.otherNodeCalPeriod then n.port.wr.otherNodeCalPeriod
        else n.port.wr.wrStateTimeout
      let n := { n with
        port.wr.wrTimeouts :=
          Function.update n.port.wr.wrTimeouts .respCalibReq (i32 timeout.toNat) }
      let call := Call.calibrationPatternEnable n.port.wr.otherNodeCalPeriod
      let ok : Bool := n.answer call
      { n.called call with port.wr.wrPortState := if ok then .respCalibReq1 else .respCalibReq }
    else { n with port.wr.wrPortState := .respCalibReq1 }
  | .wrLinkOn =>
    let n := { n with port.wr.wrModeON := true }
    let n := n.command .enablePhaseTracking
    let n := if n.port.wr.wrMode = .wrMaster then issueWRSignalingMsg WR_MODE_ON rtOpts n else n
    let best := n.port.fm.foreignRecordBest
    let record := n.port.fm.foreign best
    -- The record of the parent is marked as well, since `s1` reads the flags from there.
    { n with
      port.wr.parentWrModeON := true
      port.fm.foreign := Function.update n.port.fm.foreign best
        { record with announce.wrFlags := record.announce.wrFlags ||| WR_IS_WR_MODE }
      port.wr.parentCalibrated := true
      port.wr.wrPortState := .wrLinkOn }
  | _ => n

/-- `timerStop` on the timer of a main state. -/
def Node.wrTimerStop (n : Node) (s : WrState) : Node :=
  { n with
    port.wr.wrTimers := Function.update n.port.wr.wrTimers s (n.port.wr.wrTimers s).stop }

/-- `timerStart` on the timer of a main state, with the time-out of that state. -/
def Node.wrTimerStart (n : Node) (s : WrState) : Node :=
  let timer := IntervalTimer.start (n.answer .msecTics) (n.port.wr.wrTimeouts s)
  { n.called .msecTics with
    port.wr.wrTimers := Function.update n.port.wr.wrTimers s timer }

/-- Count repetitions of a main state, stop its timer when it is left and start it when it is
entered. -/
def wrTimetoutManage (enteringState exitingState : WrState) (n : Node) : Node :=
  let count := if enteringState ≠ exitingState then 0 else n.port.wr.currentWRstateCnt + 1
  let n := { n with port.wr.currentWRstateCnt := count }
  let n := if exitingState ≠ .idle then n.wrTimerStop exitingState else n
  if enteringState ≠ .idle then n.wrTimerStart enteringState else n

/-- Leave the current White Rabbit state and enter a main state. -/
def toWRState (enteringState : WrState) (rtOpts : RunTimeOpts) (n : Node) : Node :=
  let exitingState := n.port.wr.wrPortState.mainState
  let n := if n.port.wr.wrPortState = .idle then initWrData .reInit n else n
  let n := enterWRState enteringState rtOpts n
  wrTimetoutManage enteringState exitingState n

/-! ### PTP states -/

/-- The tasks of `toState` for entering a state. -/
def enterState (state : PtpState) (rtOpts : RunTimeOpts) (n : Node) : Node :=
  let announceReceipt :=
    (n.port.announceReceiptTimeout.toNat : ℤ) * 1000 * pow2 n.port.logAnnounceInterval
  match state with
  | .initializing => { n with port.portState := .initializing }
  | .faulty => { n with port.portState := .faulty }
  | .disabled => { n with port.portState := .disabled }
  | .listening =>
    let n := n.timerStart .announceReceipt announceReceipt
    { n with port.portState := .listening }
  | .master =>
    let n := n.timerStart .sync (1000 * pow2 n.port.logSyncInterval)
    let n := n.timerStart .announceInterval (1000 * pow2 n.port.logAnnounceInterval)
    let n := n.timerStart .pdelayReq (1000 * pow2 n.port.logMinPdelayReqInterval)
    { n with port.portState := .master }
  | .passive =>
    let n := n.timerStart .pdelayReq (1000 * pow2 n.port.logMinPdelayReqInterval)
    -- The source starts the announce interval timer here, not the announce receipt timer.
    let n := n.timerStart .announceInterval announceReceipt
    { n with port.portState := .passive }
  | .uncalibrated =>
    if n.port.wr.wrMode = .wrSlave ∧
        (n.port.wr.wrConfig = .wrSOnly ∨ n.port.wr.wrConfig = .wrMAndS) ∧
        (n.port.wr.parentWrConfig = .wrMOnly ∨ n.port.wr.parentWrConfig = .wrMAndS) then
      -- A port whose White Rabbit mode is still on both ends does not set the link up again.
      if !n.port.wr.parentWrModeON ∨ !n.port.wr.wrModeON then
        { toWRState .present rtOpts n with port.portState := .uncalibrated }
      else { n with port.portState := .slave }
    else { n with port.wr.wrMode := .nonWr, port.portState := .slave }
  | .slave =>
    -- Former pairs of Sync and FollowUp are forgotten, but not the timestamps they left.
    let n := wrServoInit n
    let zeroed (t : TimeInternal) : TimeInternal := { t with seconds := 0, nanoseconds := 0 }
    let n := { n with
      port.waitingForFollow := false
      port.pdelayReqSendTime := zeroed n.port.pdelayReqSendTime
      port.pdelayReqReceiveTime := zeroed n.port.pdelayReqReceiveTime
      port.pdelayRespSendTime := zeroed n.port.pdelayRespSendTime
      port.pdelayRespReceiveTime := zeroed n.port.pdelayRespReceiveTime }
    let n := n.timerStart .announceReceipt announceReceipt
    let n :=
      if rtOpts.E2E_mode then
        n.timerStart .delayReq (1000 * pow2 n.port.logMinDelayReqInterval)
      else n.timerStart .pdelayReq (1000 * pow2 n.port.logMinPdelayReqInterval)
    { n with port.portState := .slave }
  | .preMaster => n

/-- Leave the current PTP state and enter a state. A running White Rabbit state machine is not
preempted. -/
def toState (state : PtpState) (rtOpts : RunTimeOpts) (n : Node) : Node :=
  if n.port.wr.wrPortState ≠ .idle then n
  else enterState state rtOpts (leaveState rtOpts n)

/-- A failure is a transition to `PTP_FAULTY`. -/
theorem toState_faulty (rtOpts : RunTimeOpts) (n : Node) :
    toState .faulty rtOpts n = toFaulty rtOpts n := rfl

/-! ### Time-outs -/

/-- How often a main state is repeated before the link set-up is given up. -/
def WrPortDS.retryLimit (wr : WrPortDS) (currentState : WrState) : UInt8 :=
  if currentState = .calibration ∧ 0 < wr.calRetry then wr.calRetry
  else if currentState = .respCalibReq ∧ 0 < wr.otherNodeCalRetry then wr.otherNodeCalRetry
  else wr.wrStateRetry

/-- Repeat the current main state when its timer has expired, or give the link set-up up. -/
def wrTimerExpired (currentState : WrState) (rtOpts : RunTimeOpts) (wrMode : WrMode)
    (n : Node) : Node :=
  if currentState = .idle then n
  else
    let tics : UInt64 := n.answer .msecTics
    let timer := n.port.wr.wrTimers currentState
    let n : Node := { n.called .msecTics with
      port.wr.wrTimers := Function.update n.port.wr.wrTimers currentState (timer.polled tics) }
    if timer.expired tics then
      if n.port.wr.currentWRstateCnt < n.port.wr.retryLimit currentState then
        toWRState currentState rtOpts n
      else
        -- All retries are used up.
        let n := { n with port.wr.wrModeON := false }
        let n := toWRState .idle rtOpts n
        let n :=
          if rtOpts.disableFallbackIfWRFails then toState .disabled rtOpts n
          else if wrMode = .wrMaster then toState .master rtOpts n
          else toState .slave rtOpts n
        initWrData .init n
    else n

end WhiteRabbitPtp
