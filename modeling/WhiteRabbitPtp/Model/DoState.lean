import WhiteRabbitPtp.Model.Handlers
import Mathlib.Data.Fin.VecNotation

/-!
# Actions of the states

The actions of the White Rabbit states (`doWRState`), the initialization of the data sets, the
state decision of a port and the actions of the PTP states (`doState`).

The substates of a White Rabbit state are one chain of attempts: an attempt that succeeds goes on
with the next one in the same call, one that fails is repeated by the next call.

## Main definitions

* `doWRState`: the actions of the White Rabbit states, with their time-outs.
* `initDataPort`, `initDataClock`, `doInit`: initialization.
* `stateDecision`, `doStateActions`, `doState`: the two halves of `doState`, and the whole.
-/

namespace WhiteRabbitPtp

open Octets

/-! ### White Rabbit states -/

/-- Go on after a call of a chain: when it succeeded, enter the next substate. -/
def attempt (ok : Bool) (next : WrState) (continuation : Node → Node) (n : Node) : Node :=
  if ok then continuation { n with port.wr.wrPortState := next } else n

section WRState

variable (rtOpts : RunTimeOpts) (n : Node)

/-- Wait for the master to ask for locking. -/
def doPresent : Node :=
  let n := handle rtOpts n
  if n.port.wr.msgTmpWrMessageID = LOCK then
    let n := toWRState .sLock rtOpts n
    { n with port.wr.msgTmpWrMessageID := NULL_WR_TLV }
  else n

/-- Disable locking. -/
def doSLock2 : Node :=
  match n.port.wr.wrSlaveRole.lockingPriority with
  | some priority =>
    let call := Call.lockingDisable n.port.wr.wrMode priority
    let ok : Bool := n.answer call
    let n := n.called call
    if ok then toWRState .locked rtOpts n else n
  | none => n

/-- Poll the hardware until it is locked. -/
def doSLock1 : Node :=
  match n.port.wr.wrSlaveRole.lockingPriority with
  | some priority =>
    let call := Call.lockingPoll n.port.wr.wrMode priority
    attempt (n.answer call) .sLock2 (doSLock2 rtOpts) (n.called call)
  | none => n

/-- Enable locking. -/
def doSLock : Node :=
  match n.port.wr.wrSlaveRole.lockingPriority with
  | some priority =>
    let call := Call.lockingEnable n.port.wr.wrMode priority
    attempt (n.answer call) .sLock1 (doSLock1 rtOpts) (n.called call)
  | none => n

/-- Wait for the slave to be locked. -/
def doMLock : Node :=
  let n := handle rtOpts n
  if n.port.wr.msgTmpWrMessageID = LOCKED then toWRState .calibration rtOpts n else n

/-- Wait for the master to start calibrating. -/
def doLocked : Node :=
  let n := handle rtOpts n
  if n.port.wr.msgTmpWrMessageID = CALIBRATE then toWRState .respCalibReq rtOpts n else n

/-- Send the fixed delays. -/
def doCalibration8 : Node :=
  let n := issueWRSignalingMsg CALIBRATED rtOpts n
  let n := toWRState .calibrated rtOpts n
  { n with port.wr.calibrated := true }

/-- Disable receive calibration. -/
def doCalibration7 : Node :=
  let call := Call.calibratingDisable .rx
  attempt (n.answer call) .calibration8 (doCalibration8 rtOpts) (n.called call)

/-- Poll receive calibration. -/
def doCalibration6 : Node :=
  let delta : Option UInt64 := n.answer (.calibratingPoll .rx)
  let n := n.called (.calibratingPoll .rx)
  match delta with
  | some delta =>
    doCalibration7 rtOpts
      { n with port.wr.deltaRx := .ofPicos delta, port.wr.wrPortState := .calibration7 }
  | none => n

/-- Enable receive calibration. -/
def doCalibration5 : Node :=
  let call := Call.calibratingEnable .rx
  attempt (n.answer call) .calibration6 (doCalibration6 rtOpts) (n.called call)

/-- Disable the calibration pattern. -/
def doCalibration4 : Node :=
  let call := Call.calibrationPatternDisable
  attempt (n.answer call) .calibration5 (doCalibration5 rtOpts) (n.called call)

/-- Disable transmit calibration. -/
def doCalibration3 : Node :=
  let call := Call.calibratingDisable .tx
  attempt (n.answer call) .calibration4 (doCalibration4 rtOpts) (n.called call)

/-- Poll transmit calibration. -/
def doCalibration2 : Node :=
  let delta : Option UInt64 := n.answer (.calibratingPoll .tx)
  let n := n.called (.calibratingPoll .tx)
  match delta with
  | some delta =>
    doCalibration3 rtOpts
      { n with port.wr.deltaTx := .ofPicos delta, port.wr.wrPortState := .calibration3 }
  | none => n

/-- Enable transmit calibration. -/
def doCalibration1 : Node :=
  let call := Call.calibratingEnable .tx
  attempt (n.answer call) .calibration2 (doCalibration2 rtOpts) (n.called call)

/-- Enable the calibration pattern. -/
def doCalibration : Node :=
  let call := Call.calibrationPatternEnable 0
  attempt (n.answer call) .calibration1 (doCalibration1 rtOpts) (n.called call)

/-- Wait for the master's calibration request or for its confirmation of the link. -/
def doCalibrated : Node :=
  let n := handle rtOpts n
  let n :=
    if n.port.wr.msgTmpWrMessageID = CALIBRATE ∧ n.port.wr.wrMode = .wrMaster then
      toWRState .respCalibReq rtOpts n
    else n
  if n.port.wr.msgTmpWrMessageID = WR_MODE_ON ∧ n.port.wr.wrMode = .wrSlave then
    toWRState .wrLinkOn rtOpts n
  else n

/-- Go on to the link, or to the port's own calibration. -/
def doRespCalibReq3 : Node :=
  match n.port.wr.wrMode with
  | .wrMaster => toWRState .wrLinkOn rtOpts n
  | .wrSlave => toWRState .calibration rtOpts n
  | .nonWr => toWRState .idle rtOpts n

/-- Disable the calibration pattern. -/
def doRespCalibReq2 : Node :=
  let call := Call.calibrationPatternDisable
  attempt (n.answer call) .respCalibReq3 (doRespCalibReq3 rtOpts) (n.called call)

/-- Wait for the other port to be calibrated. The pattern is disabled whether it was sent or not. -/
def doRespCalibReq1 : Node :=
  let n := handle rtOpts n
  if n.port.wr.msgTmpWrMessageID = CALIBRATED then
    let next : WrState :=
      if n.port.wr.otherNodeCalSendPattern = 1 then .respCalibReq2 else .respCalibReq3
    doRespCalibReq2 rtOpts { n with port.wr.wrPortState := next }
  else n

/-- Enable the calibration pattern for the other port. -/
def doRespCalibReq : Node :=
  let call := Call.calibrationPatternEnable n.port.wr.otherNodeCalPeriod
  attempt (n.answer call) .respCalibReq1 (doRespCalibReq1 rtOpts) (n.called call)

/-- End the link set-up. -/
def doWrLinkOn : Node :=
  let n := toWRState .idle rtOpts n
  match n.port.wr.wrMode with
  | .wrSlave => toState .slave rtOpts n
  | .wrMaster => toState .master rtOpts n
  | .nonWr => n

/-- The actions of the current White Rabbit state. -/
def wrStateActions : Node :=
  match n.port.wr.wrPortState with
  | .idle => n
  | .present => doPresent rtOpts n
  | .sLock => doSLock rtOpts n
  | .sLock1 => doSLock1 rtOpts n
  | .sLock2 => doSLock2 rtOpts n
  | .mLock => doMLock rtOpts n
  | .locked => doLocked rtOpts n
  | .calibration => doCalibration rtOpts n
  | .calibration1 => doCalibration1 rtOpts n
  | .calibration2 => doCalibration2 rtOpts n
  | .calibration3 => doCalibration3 rtOpts n
  | .calibration4 => doCalibration4 rtOpts n
  | .calibration5 => doCalibration5 rtOpts n
  | .calibration6 => doCalibration6 rtOpts n
  | .calibration7 => doCalibration7 rtOpts n
  | .calibration8 => doCalibration8 rtOpts n
  | .calibrated => doCalibrated rtOpts n
  | .respCalibReq => doRespCalibReq rtOpts n
  | .respCalibReq1 => doRespCalibReq1 rtOpts n
  | .respCalibReq2 => doRespCalibReq2 rtOpts n
  | .respCalibReq3 => doRespCalibReq3 rtOpts n
  | .wrLinkOn => doWrLinkOn rtOpts n

/-- Handle the actions of the current White Rabbit state, then its time-out. -/
def doWRState : Node :=
  let n := wrStateActions rtOpts n
  wrTimerExpired n.port.wr.wrPortState.mainState rtOpts n.port.wr.wrMode n

end WRState

/-! ### Initialization -/

/-- The clock identity made of the hardware address, with an optional override of one octet. The
address goes on after the overridden octet without skipping one of its own. -/
def initClockIdentity (overrideClockIdentity : UInt8) (uuid : MacAddr) : ClockIdentity :=
  if overrideClockIdentity ≠ 0 then
    ![uuid 0, uuid 1, uuid 2, 0xFF, 0xFE, overrideClockIdentity, uuid 3, uuid 4]
  else ![uuid 0, uuid 1, uuid 2, 0xFF, 0xFE, uuid 3, uuid 4, uuid 5]

/-- Initialize the data set of the port. -/
def initDataPort (rtOpts : RunTimeOpts) (n : Node) : Node :=
  let identity := initClockIdentity rtOpts.overrideClockIdentity n.port.portUuidField
  let n := { n with
    port.doRestart := false
    port.clockIdentity := identity
    port.wr := { n.port.wr with
      wrConfig := rtOpts.wrConfig
      phyCalibrationRequired := rtOpts.phyCalibrationRequired
      wrStateTimeout := rtOpts.wrStateTimeout
      wrStateRetry := rtOpts.wrStateRetry
      calPeriod := rtOpts.calPeriod
      calRetry := UInt8.ofNat (n.clk.numberPorts + 2) } }
  let n := initWrData .init n
  { n with
    port.portIdentity.clockIdentity := identity
    port.logMinDelayReqInterval := 0
    port.logAnnounceInterval := rtOpts.announceInterval
    port.announceReceiptTimeout := 6
    port.logSyncInterval := rtOpts.syncInterval
    port.logMinPdelayReqInterval := 1
    port.versionNumber := 2
    -- Neither the cursor of the table nor the number of its best record is reset.
    port.fm.numberForeignRecords := 0
    port.fm.maxForeignRecords := rtOpts.maxForeignRecords }

/-- Initialize the data set of the clock. A clock that shall be a primary source of time but is not
locked to an external one gets another clock class. -/
def initDataClock (rtOpts : RunTimeOpts) (extsrcLocked : Bool) (tics : UInt64)
    (clk : PtpClockDS) : PtpClockDS :=
  let clk := { clk with
    twoStepFlag := true
    numberPorts := rtOpts.portNumber
    clockQuality := { clk.clockQuality with
      clockAccuracy := rtOpts.clockQuality.clockAccuracy
      offsetScaledLogVariance := rtOpts.clockQuality.offsetScaledLogVariance }
    priority1 :=
      if rtOpts.priority1 = 128 ∧ rtOpts.wrConfig ≠ WrConfig.nonWr then 64 else rtOpts.priority1
    priority2 := rtOpts.priority2
    domainNumber := rtOpts.domainNumber
    clockClassValidityTimeout := 5
    primarySlavePortNumber := 0
    Ebest := -1 }
  -- The clock shall be a primary source of time.
  if rtOpts.masterOnly ∨ rtOpts.primarySource ∨ rtOpts.clockQuality.clockClass = 6 then
    if extsrcLocked then
      { clk with
        clockQuality.clockClass := 6
        clockClassValidityTimer := .start tics (1000 * pow2 5) }
    else { clk with clockQuality.clockClass := 13 }
  else { clk with clockQuality.clockClass := rtOpts.clockQuality.clockClass }

/-- Take the configuration of the port from the hardware abstraction layer. -/
def autoDetectPortWrConfig (n : Node) : Node :=
  let mode : HexpPortMode := n.answer .portMode
  { n.called .portMode with port.wr.wrConfig := mode.wrConfig }

/-- Initialize the port and start listening. -/
def doInit (rtOpts : RunTimeOpts) (n : Node) : Node :=
  let n := initDataPort rtOpts n
  let n := if n.port.wr.wrConfig = .wrModeAuto then autoDetectPortWrConfig n else n
  let n := if n.port.wr.wrConfig = .wrSOnly then wrServoReset n else n
  let n := { n with port.timers := fun t => (n.port.timers t).stop }
  let n := m1 n
  let n := { n with port.msgObuf := msgPackHeader n.port.msgObuf n.clk n.port }
  toState .listening rtOpts n

/-! ### PTP states -/

section State

variable (rtOpts : RunTimeOpts)

/-- What `doState` does with a recommended state. -/
def followRecommendation (state : PtpState) (n : Node) : Node :=
  if state ≠ n.port.portState then
    if state = .slave ∧ (n.port.portState = .listening ∨ n.port.portState = .preMaster ∨
        n.port.portState = .master ∨ n.port.portState = .passive ∨
        n.port.portState = .uncalibrated) then
      -- Candidate for WR slave: the link set-up is run by way of `PTP_UNCALIBRATED`.
      toState .uncalibrated rtOpts
        { n with port.wr.wrMode := .wrSlave, port.wr.wrModeON := false }
    else toState state rtOpts n
  else if n.port.linkUP ∧ n.port.portState = .slave ∧ n.port.wr.wrMode = .wrSlave ∧
      (!n.port.wr.parentWrModeON ∨ !n.port.wr.wrModeON) then
    -- `SYNCHRONIZATION_FAULT`
    toState .uncalibrated rtOpts n
  else n

/-- Whether a port takes part in the state decisions. -/
def PtpState.decides : PtpState → Bool
  | listening | passive | slave | master => true
  | _ => false

/-- First half of `doState`: the state decision event, unless the White Rabbit state machine is
running. -/
def stateDecision (bestForeign : ForeignMasterRecord) (n : Node) : Node :=
  if n.port.portState.decides ∧ n.clk.globalStateDecisionEvent ∧ n.port.wr.wrPortState = .idle then
    let decision := bmc bestForeign { n with port.fm.recordUpdate := false }
    followRecommendation rtOpts decision.1 decision.2
  else n

/-- What happens when no Announce message was received for too long. -/
def announceReceiptTimeoutExpires (n : Node) : Node :=
  let n := { n with
    port.fm.numberForeignRecords := 0
    port.fm.foreignRecordI := 0
    port.wr.wrMode := .nonWr
    port.wr.wrModeON := false }
  if n.port.wr.wrConfig ≠ .wrSOnly ∧ n.clk.clockQuality.clockClass ≠ 255 then
    toState .master rtOpts (m1 n)
  else if n.port.portState ≠ .listening then toState .listening rtOpts n
  else n

/-- Poll a PTP timer and take an action when it has expired. -/
def onTimer (t : PtpTimer) (action : Node → Node) (n : Node) : Node :=
  if n.timerExpired t then action (n.timerPolled t) else n.timerPolled t

/-- The actions shared by the states that listen to a master. -/
def doSlaveActions (n : Node) : Node :=
  let n := handle rtOpts n
  let n := onTimer .announceReceipt (announceReceiptTimeoutExpires rtOpts) n
  if rtOpts.E2E_mode then onTimer .delayReq (issueDelayReq rtOpts) n
  else onTimer .pdelayReq (issuePDelayReq rtOpts) n

/-- The actions of a master whose White Rabbit state machine is idle. -/
def doMasterActions (n : Node) : Node :=
  let n := handle rtOpts n
  let n := onTimer .sync (fun n =>
    let n := issueSync rtOpts n
    if n.port.synchTxTs.correct ≠ 0 then issueFollowup rtOpts n else n) n
  let n := onTimer .announceInterval (issueAnnounce rtOpts) n
  let n := if !rtOpts.E2E_mode then onTimer .pdelayReq (issuePDelayReq rtOpts) n else n
  if n.port.wr.wrConfig = .wrSOnly ∨ n.clk.clockQuality.clockClass = 255 then
    toState .listening rtOpts n
  else n

/-- Second half of `doState`: the actions of the current PTP state. -/
def doStateActions (n : Node) : Node :=
  match n.port.portState with
  | .faulty => toState .initializing rtOpts n
  | .uncalibrated =>
    let n :=
      if n.port.wr.wrMode = .wrSlave then doWRState rtOpts n else toState .slave rtOpts n
    -- A message that the state did not wait for is forgotten.
    { n with port.wr.msgTmpWrMessageID := NULL_WR_TLV }
  | .listening =>
    if n.port.wr.wrConfig = .wrMOnly then toState .master rtOpts (m1 n)
    else doSlaveActions rtOpts n
  | .passive | .slave => doSlaveActions rtOpts n
  | .master =>
    if n.port.wr.wrMode = .wrMaster ∧ n.port.wr.wrPortState ≠ .idle then
      { doWRState rtOpts n with port.wr.msgTmpWrMessageID := NULL_WR_TLV }
    else doMasterActions rtOpts n
  | .disabled => handle rtOpts n
  -- Initialization is done by the main loop; `PTP_PRE_MASTER` is never entered.
  | .initializing | .preMaster => n

/-- Handle actions and events of the current PTP state. -/
def doState (bestForeign : ForeignMasterRecord) (n : Node) : Node :=
  doStateActions rtOpts (stateDecision rtOpts bestForeign n)

end State

end WhiteRabbitPtp
