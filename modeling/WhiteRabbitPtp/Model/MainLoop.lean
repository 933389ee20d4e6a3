import WhiteRabbitPtp.Lib.GuardedRun
import WhiteRabbitPtp.Model.DoState

/-!
# The main loop

One iteration of the main loop runs `singlePortLoop` on every port and then `sharedPortsLoop`.
`Daemon.step` splits `singlePortLoop` into up to three steps: the link state and
(re-)initialization, the state decision, and the actions of the PTP state. Every step may see any
answers of the environment; `Daemon.singlePortLoop_eq_steps` shows that the steps make up
`singlePortLoop`.

## Main definitions

* `globalBestForeignMastersUpdate`, `globalSecondSlavesUpdate`: the parts of `sharedPortsLoop`.
* `Daemon`, `Daemon.step`: the state of the daemon and its steps.
* `Daemon.Initial`: the states the main loop starts in.
* `Daemon.FramesFit`, `Daemon.FittingRun`: no frame is longer than the input buffer.
-/

namespace WhiteRabbitPtp

open Octets LinearSearch InputSystem

/-! ### All ports together -/

/-- One round of the loop of `globalBestForeignMastersUpdate`: the table of port `i` is searched
with the data set of the first port, which also gets the result. -/
def updateErBest (ports : ℕ → PtpPortDS) (i : ℕ) : ℕ → PtpPortDS :=
  if (ports i).fm.recordUpdate then
    Function.update ports 0 (ErBest (ports i).fm.foreign (ports 0))
  else ports

/-- The ports after the loop of `globalBestForeignMastersUpdate`. -/
def updateErBests (ports : ℕ → PtpPortDS) (numberPorts : ℕ) : ℕ → PtpPortDS :=
  (List.range numberPorts).foldl updateErBest ports

/-- Whether some port got an Announce message since the last state decision. -/
def anyRecordUpdate (ports : ℕ → PtpPortDS) (numberPorts : ℕ) : Bool :=
  (List.range numberPorts).any fun i => (ports i).fm.recordUpdate

/-- Update the best foreign masters of the ports and of the clock; the source also returns
`anyRecordUpdate`. -/
def globalBestForeignMastersUpdate (ports : ℕ → PtpPortDS) (clk : PtpClockDS) :
    (ℕ → PtpPortDS) × PtpClockDS :=
  let updated := updateErBests ports clk.numberPorts
  (updated, if anyRecordUpdate ports clk.numberPorts then EBest updated clk else clk)

/-- Whether port `i` is a secondary slave with a better secondary master than port `b`. -/
def secondaryBeats (ports : ℕ → PtpPortDS) (i b : ℕ) : Prop :=
  (ports i).wr.wrSlaveRole = .secondarySlave ∧
    compareRecords (ports i).secondaryForeignMaster (ports b).secondaryForeignMaster (ports 0) < 0

instance (ports : ℕ → PtpPortDS) : DecidableRel (secondaryBeats ports) := fun _ _ => by
  unfold secondaryBeats
  infer_instance

/-- Remember the secondary slave with the best secondary master. -/
def globalSecondSlavesUpdate (ports : ℕ → PtpPortDS) (clk : PtpClockDS) : PtpClockDS :=
  let first := firstIndex (fun i => (ports i).wr.wrSlaveRole = .secondarySlave) clk.numberPorts
  if first = clk.numberPorts then clk
  else
    let best := bestFrom (secondaryBeats ports) first clk.numberPorts
    { clk with secondarySlavePortNumber := (ports best).portIdentity.portNumber }

/-- Degrade the clock class of a primary source of time that lost its external source. -/
def checkClockClassValidity (tics : UInt64) (extsrcLocked : Bool) (clk : PtpClockDS) :
    PtpClockDS :=
  if clk.clockQuality.clockClass ≠ 6 then clk
  else
    let timer := clk.clockClassValidityTimer
    let clk := { clk with clockClassValidityTimer := timer.polled tics }
    if timer.expired tics ∧ !extsrcLocked then { clk with clockQuality.clockClass := 7 } else clk

/-- The part of an iteration that concerns all ports. -/
def sharedPortsLoop (tics : UInt64) (extsrcLocked : Bool) (ports : ℕ → PtpPortDS)
    (clk : PtpClockDS) : (ℕ → PtpPortDS) × PtpClockDS :=
  let clk := if clk.globalStateDecisionEvent then globalSecondSlavesUpdate ports clk else clk
  let event := anyRecordUpdate ports clk.numberPorts
  let updated := globalBestForeignMastersUpdate ports clk
  (updated.1, checkClockClassValidity tics extsrcLocked
    { updated.2 with globalStateDecisionEvent := event })

/-! ### One port -/

/-- First part of `singlePortLoop`: follow the link state; (re-)initialize the port when the link
went up or a restart is asked for. -/
def updateLink (rtOpts : RunTimeOpts) (n : Node) : Node :=
  let linkUp : Bool := n.answer .getPortState
  let n := n.called .getPortState
  let wentUp := linkUp ∧ !n.port.linkUP
  let wentDown := !linkUp ∧ n.port.linkUP
  let n := { n with port.linkUP := linkUp }
  let clearIfSlaveOnly (n : Node) : Node :=
    if n.port.wr.wrConfig = .wrSOnly then { n with port := clearForeignMasters n.port } else n
  if wentUp ∨ n.port.doRestart then
    let n := toState .initializing rtOpts n
    let n := doInit rtOpts n
    let n := clearIfSlaveOnly n
    { n with port.doRestart := false }
  else if wentDown then
    let n := clearIfSlaveOnly n
    -- The source compares `wrMode` with `WR_S_ONLY`, which has the value of `WR_SLAVE`.
    if n.port.wr.wrMode = .wrSlave then wrServoReset n else n
  else n

/-! ### The daemon -/

/-- What the main loop does next. -/
inductive Phase
  | link (i : ℕ)
  | decide (i : ℕ)
  | act (i : ℕ)
  | shared
  deriving DecidableEq, Repr

/-- The state of the daemon: its data sets, what each port has handed to the network and to the
hardware, and what the main loop does next. -/
structure Daemon where
  ports : ℕ → PtpPortDS
  clk : PtpClockDS
  statics : ServoStatics
  sent : ℕ → List (List UInt8)
  commands : ℕ → List NetifCommand
  phase : Phase

namespace Daemon

/-- What the functions of port `i` work on. -/
def node (d : Daemon) (i : ℕ) (o : Oracle) : Node :=
  { port := d.ports i
    clk := d.clk
    statics := d.statics
    netif := { oracle := o, sent := d.sent i, commands := d.commands i } }

/-- The daemon after a function of port `i`, in its next phase. -/
def store (d : Daemon) (i : ℕ) (n : Node) (phase : Phase) : Daemon :=
  { ports := Function.update d.ports i n.port
    clk := n.clk
    statics := n.statics
    sent := Function.update d.sent i n.netif.sent
    commands := Function.update d.commands i n.netif.commands
    phase }

/-- The record that `bestForeign` points to. -/
def bestForeign (d : Daemon) : ForeignMasterRecord :=
  (d.ports d.clk.bestForeign.1).fm.foreign d.clk.bestForeign.2

/-- The phase after the last one of port `i`. -/
def nextPort (rtOpts : RunTimeOpts) (i : ℕ) : Phase :=
  if i + 1 < rtOpts.portNumber then .link (i + 1) else .shared

/-- One step of the main loop. -/
def step (rtOpts : RunTimeOpts) (o : Oracle) (d : Daemon) : Daemon :=
  match d.phase with
  | .link i =>
    let n := updateLink rtOpts (d.node i o)
    -- A port without a link is skipped.
    if n.port.linkUP then
      if n.port.portState ≠ .initializing then d.store i n (.decide i)
      else d.store i (doInit rtOpts n) (nextPort rtOpts i)
    else d.store i n (nextPort rtOpts i)
  | .decide i => d.store i (stateDecision rtOpts d.bestForeign (d.node i o)) (.act i)
  | .act i => d.store i (doStateActions rtOpts (d.node i o)) (nextPort rtOpts i)
  | .shared =>
    let tics : UInt64 := o.answers .msecTics (o.used .msecTics)
    let extsrcLocked : Bool := o.answers .extsrcDetection (o.used .extsrcDetection)
    let updated := sharedPortsLoop tics extsrcLocked d.ports d.clk
    { d with ports := updated.1, clk := updated.2, phase := .link 0 }

/-- `singlePortLoop` on port `i` in one piece. -/
def singlePortLoop (rtOpts : RunTimeOpts) (i : ℕ) (o : Oracle) (d : Daemon) : Daemon :=
  let n := updateLink rtOpts (d.node i o)
  let bestForeign := (d.store i n d.phase).bestForeign
  let n :=
    if n.port.linkUP then
      if n.port.portState ≠ .initializing then doState rtOpts bestForeign n else doInit rtOpts n
    else n
  d.store i n (nextPort rtOpts i)

end Daemon

/-! ### Start -/

/-- The data of a port in zeroed memory, with what `ptpdStartup` and `netInit` put there when no
unicast address was given. -/
def initialPort (wrConfig : WrConfig) (mac : MacAddr) (i : ℕ) : PtpPortDS :=
  let identity : PortIdentity := ⟨fun _ => 0, UInt16.ofNat (i + 1)⟩
  let noIdentity : PortIdentity := ⟨fun _ => 0, 0⟩
  let time : TimeInternal := ⟨0, 0, 0, 0⟩
  let ts : WrTimestamp := ⟨0, 0, 0, 0⟩
  let timer : IntervalTimer := ⟨0, 0⟩
  let delta : FixedDelta := ⟨0, 0⟩
  let header : MsgHeader := ⟨0, 0, 0, 0, 0, fun _ => 0, ⟨0, 0⟩, noIdentity, 0, 0, 0⟩
  let announce : MsgAnnounce := ⟨⟨⟨0, 0⟩, 0⟩, 0, 0, ⟨0, 0, 0⟩, 0, fun _ => 0, 0, 0, 0⟩
  let record : ForeignMasterRecord := ⟨noIdentity, 0, 0, announce, header⟩
  { netPath :=
      { selfAddr := mac
        multicastAddr := ![0x01, 0x1b, 0x19, 0, 0, 0]
        unicastAddr := ![0, 0, 0, 0, 1, 0] }
    clockIdentity := fun _ => 0
    portIdentity := identity
    portState := .initializing
    logMinDelayReqInterval := 0
    logAnnounceInterval := 0
    announceReceiptTimeout := 0
    logSyncInterval := 0
    logMinPdelayReqInterval := 0
    versionNumber := 0
    fm :=
      { foreign := fun _ => record
        numberForeignRecords := 0
        maxForeignRecords := 0
        foreignRecordI := 0
        foreignRecordBest := 0
        recordUpdate := false }
    msgTmpHeader := header
    msgTmpAnnounce := announce
    msgObuf := fun _ => 0
    msgIbuf := fun _ => 0
    pdelayReqReceiveTime := time
    pdelayReqSendTime := time
    pdelayRespReceiveTime := time
    pdelayRespSendTime := time
    syncReceiveTime := time
    delayReqReceiveTime := time
    pdelayReqHeader := header
    delayReqHeader := header
    lastSyncCorrectionField := time
    lastPdelayRespCorrectionField := time
    sentPDelayReqSequenceId := 0
    sentDelayReqSequenceId := 0
    sentSyncSequenceId := 0
    sentAnnounceSequenceId := 0
    recvSyncSequenceId := 0
    waitingForFollow := false
    portUuidField := mac
    timers := fun _ => timer
    wr :=
      { wrConfig
        phyCalibrationRequired := false
        wrStateTimeout := 0
        wrStateRetry := 0
        parentWrConfig := .nonWr
        calPeriod := 0
        calRetry := 0
        -- `WRS_PRESENT` is the value 0 of the enumeration.
        wrPortState := .present
        wrMode := .nonWr
        wrModeON := false
        calibrated := false
        deltaTx := delta
        deltaRx := delta
        otherNodeDeltaTx := delta
        otherNodeDeltaRx := delta
        parentWrModeON := false
        parentCalibrated := false
        otherNodeCalSendPattern := 0
        otherNodeCalPeriod := 0
        otherNodeCalRetry := 0
        parentIsWRnode := false
        msgTmpWrMessageID := 0
        currentWRstateCnt := 0
        wrTimers := fun _ => timer
        wrTimeouts := fun _ => 0
        wrSlaveRole := .nonSlave }
    servo :=
      { state := .unset
        nextState := .unset
        mu := ts
        deltaTxM := 0
        deltaRxM := 0
        deltaTxS := 0
        deltaRxS := 0
        curSetpoint := 0
        deltaMs := 0
        deltaMsPrev := 0
        t1 := ts
        t2 := ts
        t3 := ts
        t4 := ts
        lastTics := 0
        fiberFixAlpha := 0
        clockPeriodPs := 0
        missedIters := 0 }
    synchTxTs := ts
    delayReqTxTs := ts
    pDelayReqTxTs := ts
    pDelayRespTxTs := ts
    currentRxTs := ts
    secondaryForeignMaster := record
    linkUP := false
    doRestart := false }

/-- The options of `ptpd.c`, for a number of ports. -/
def defaultRtOpts (portNumber : ℕ) : RunTimeOpts :=
  { announceInterval := 1
    syncInterval := 0
    clockQuality :=
      { clockClass := 187, clockAccuracy := 0xFE, offsetScaledLogVariance := .ofInt (-4000) }
    priority1 := 128
    priority2 := 128
    domainNumber := 0
    inboundLatency := ⟨0, 0, 0, 0⟩
    outboundLatency := ⟨0, 0, 0, 0⟩
    maxForeignRecords := 5
    E2E_mode := true
    portNumber
    calPeriod := 3000
    overrideClockIdentity := 0
    wrConfig := .wrModeAuto
    phyCalibrationRequired := false
    wrStateTimeout := 300
    wrStateRetry := 3
    primarySource := false
    masterOnly := false
    disableFallbackIfWRFails := true }

namespace Daemon

/-- The state in which the main loop starts, for the hardware addresses of the ports, the answers
that `initDataClock` gets and the former content of the clock's data set. -/
def initial (rtOpts : RunTimeOpts) (macs : ℕ → MacAddr) (extsrcLocked : Bool) (tics : UInt64)
    (clk : PtpClockDS) : Daemon :=
  { ports := fun i => initialPort rtOpts.wrConfig (macs i) i
    clk := initDataClock rtOpts extsrcLocked tics clk
    statics :=
      { servoStateValid := false, trackingEnabled := true, gotSync := false, phAdjust := 0 }
    sent := fun _ => []
    commands := fun _ => []
    phase := .link 0 }

/-- The states in which the main loop may start; without a port it is not started. -/
def Initial (rtOpts : RunTimeOpts) (d : Daemon) : Prop :=
  0 < rtOpts.portNumber ∧
    ∃ macs extsrcLocked tics clk, d = initial rtOpts macs extsrcLocked tics clk

/-- The states the daemon may reach. -/
abbrev Reachable (rtOpts : RunTimeOpts) : Daemon → Prop :=
  InputSystem.Reachable (Initial rtOpts) (step rtOpts)

/-- In a step no port receives a frame that is longer than its input buffer. -/
def FramesFit (o : Oracle) (d : Daemon) : Prop :=
  ∀ i, d.phase = .act i → (d.node i o).FrameFits

instance (o : Oracle) : DecidablePred (FramesFit o) := fun d =>
  match hphase : d.phase with
  | .act i => decidable_of_iff (d.node i o).FrameFits
      ⟨fun h j hj => by cases hphase.symm.trans hj; exact h, fun h => h i hphase⟩
  | .link _ | .decide _ | .shared => .isTrue fun j hj => by cases hphase.symm.trans hj

/-- A run from a start in which no frame is longer than the input buffer of its port, so that the
data of the ports are written by their own code only. -/
structure FittingRun (rtOpts : RunTimeOpts) (d : Daemon) (os : List Oracle) : Prop where
  initial : Initial rtOpts d
  framesFit : EveryStep (step rtOpts) FramesFit d os

/-- The states the daemon may reach in such runs. -/
abbrev FittingReachable (rtOpts : RunTimeOpts) : Daemon → Prop :=
  GuardedRun (Initial rtOpts) (step rtOpts) FramesFit

theorem FittingRun.reachable {rtOpts : RunTimeOpts} {d : Daemon} {os : List Oracle}
    (h : d.FittingRun rtOpts os) : FittingReachable rtOpts (runInputs (step rtOpts) d os) :=
  .runInputs (.start h.initial) os h.framesFit

/-- A clock with one port, for a hardware address, at the start of the main loop. -/
def single (mac : MacAddr) : Daemon := initial (defaultRtOpts 1) (fun _ => mac) false 0 default

/-- The port of such a clock after the first iteration, for the mode that the hardware abstraction
layer has for it. -/
def singleNode (mac : MacAddr) (mode : HexpPortMode) : Node :=
  let o := Oracle.ready true mode .nothing 64 0
  (step (defaultRtOpts 1) o (single mac)).node 0 o

theorem single_initial (mac : MacAddr) : Initial (defaultRtOpts 1) (single mac) :=
  ⟨Nat.one_pos, _, _, _, _, rfl⟩

/-- Every state of such a clock is reachable. -/
theorem single_reachable (mac : MacAddr) (os : List Oracle) :
    Reachable (defaultRtOpts 1) (runInputs (step (defaultRtOpts 1)) (single mac) os) :=
  Reachable.runInputs (.start (single_initial mac)) os

section Steps

variable (d : Daemon) (i : ℕ) (n n' : Node) (phase phase' : Phase)

/-- A step that takes over the environment works on the node the step before it left. -/
@[simp]
theorem node_store : (d.store i n phase).node i n.netif.oracle = n := by
  simp [node, store]

/-- Of two steps of one port the second one determines the result. -/
@[simp]
theorem store_store : (d.store i n phase).store i n' phase' = d.store i n' phase' := by
  simp [store]

/-- The steps of a port make up `singlePortLoop`: each takes over the environment where the one
before it left off. -/
theorem singlePortLoop_eq_steps (rtOpts : RunTimeOpts) (o : Oracle) (hphase : d.phase = .link i) :
    ∃ os, runInputs (step rtOpts) d (o :: os) = d.singlePortLoop rtOpts i o := by
  set linked := updateLink rtOpts (d.node i o) with hlinked
  by_cases hup : linked.port.linkUP
  · by_cases hinit : linked.port.portState = .initializing
    · exact ⟨[], by simp [runInputs, step, singlePortLoop, hphase, ← hlinked, hup, hinit]⟩
    · set decided := stateDecision rtOpts (d.store i linked (.decide i)).bestForeign linked
        with hdecided
      -- The second and the third step take over the environment of the step before.
      refine ⟨[linked.netif.oracle, decided.netif.oracle], ?_⟩
      have hlink : step rtOpts o d = d.store i linked (.decide i) := by
        simp [step, hphase, ← hlinked, hup, hinit]
      have hdecide : step rtOpts linked.netif.oracle (d.store i linked (.decide i)) =
          d.store i decided (.act i) := by
        rw [step, show (d.store i linked (.decide i)).phase = .decide i from rfl]
        simp [← hdecided]
      have hact : step rtOpts decided.netif.oracle (d.store i decided (.act i)) =
          d.store i (doStateActions rtOpts decided) (nextPort rtOpts i) := by
        rw [step, show (d.store i decided (.act i)).phase = .act i from rfl]
        simp
      have hbest : (d.store i linked (.decide i)).bestForeign =
          (d.store i linked d.phase).bestForeign := rfl
      simp [runInputs, hlink, hdecide, hact, singlePortLoop, ← hlinked, hup, hinit, doState,
        ← hbest, ← hdecided]
  · exact ⟨[], by simp [runInputs, step, singlePortLoop, hphase, ← hlinked, hup]⟩

end Steps

end Daemon

end WhiteRabbitPtp
