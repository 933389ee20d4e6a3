import WhiteRabbitPtp.Model.DataTypes

/-!
# The daemon's environment

Everything the daemon learns from outside while it executes one step comes from a call of
`ptpd_netif`: the link state, received frames, results of transmissions, the millisecond counter,
hardware locking and calibration. `Netif` answers the successive calls of each kind with arbitrary
values and records what the daemon hands to the network and to the hardware.

A `Node` is what the functions of one port work on: its data set, the clock's data set, the static
variables and the environment.

## Main definitions

* `Call`, `Call.Result`: the calls and the type of their results.
* `Netif`, `Node`: the environment and the state of a step.
* `Node.answer`, `Node.called`: the result of the next call, and the node after it.
* `Node.timerStart`, `Node.timerExpired`, `Node.timerPolled`: the timers of `dep/timer.c`.
-/

namespace WhiteRabbitPtp

/-- Direction of a calibration (`PTPD_NETIF_TX`, `PTPD_NETIF_RX`). -/
inductive TxRx
  | tx | rx
  deriving DecidableEq, Repr

/-- What `ptpd_netif_recvfrom` reports: an error, no frame, or a frame. -/
inductive Reception
  | failed
  | nothing
  | frame (macDest : MacAddr) (data : List UInt8) (rxTs : WrTimestamp)

/-- The number of octets that `ptpd_netif_recvfrom` copies to `msgIbuf`. -/
def Reception.length : Reception → ℕ
  | frame _ data _ => data.length
  | failed | nothing => 0

/-- What `ptpd_netif_sendto` reports: its return value and the transmit timestamp. -/
structure SendResult where
  ret : ℤ
  txTs : WrTimestamp

/-- What `ptpd_netif_read_calibration_data` reports: whether it returned `PTPD_NETIF_OK`, and what
its output variables hold afterwards. -/
structure CalibrationData where
  ok : Bool
  deltaTx : UInt64
  deltaRx : UInt64
  fixAlpha : ℤ
  clockPeriod : ℤ

/-- The configuration the hardware abstraction layer has for a port. -/
inductive HexpPortMode
  | wrMAndS | wrMaster | wrSlave | nonWr | other
  deriving DecidableEq, Repr

/-- The configuration of a port that detects it; an unknown mode counts as `NON_WR`. -/
def HexpPortMode.wrConfig : HexpPortMode → WrConfig
  | wrMAndS => .wrMAndS
  | wrMaster => .wrMOnly
  | wrSlave => .wrSOnly
  | nonWr | other => .nonWr

/-- The calls of the environment. `uninitialized` stands for reading a local variable that was not
assigned. -/
inductive Call
  | getPortState
  | recvfrom
  | sendto
  | msecTics
  | lockingEnable (wrMode : WrMode) (priority : ℕ)
  | lockingPoll (wrMode : WrMode) (priority : ℕ)
  | lockingDisable (wrMode : WrMode) (priority : ℕ)
  | calibrationPatternEnable (calibrationPeriod : UInt32)
  | calibrationPatternDisable
  | calibratingEnable (txrx : TxRx)
  | calibratingPoll (txrx : TxRx)
  | calibratingDisable (txrx : TxRx)
  | readCalibrationData
  | portMode
  | extsrcDetection
  | adjustInProgress
  | uninitialized
  deriving DecidableEq

/-- The type of a call's result. Calls that only report success are answered by whether they
returned `PTPD_NETIF_OK` (`PTPD_NETIF_READY` for `lockingPoll`); `calibratingPoll` is answered by
the measured delay when it is ready, `portMode` by the mode the HAL knows. -/
abbrev Call.Result : Call → Type
  | recvfrom => Reception
  | sendto => SendResult
  | msecTics => UInt64
  | calibratingPoll _ => Option UInt64
  | readCalibrationData => CalibrationData
  | portMode => HexpPortMode
  | uninitialized => TimeInternal
  | _ => Bool

/-- Orders given to the hardware that report nothing back. -/
inductive NetifCommand
  | enableTimingOutput (enable : Bool)
  | adjustCounters (sec nsec : ℤ)
  | adjustPhase (phasePs : ℤ)
  | enablePhaseTracking

/-- The answers of the environment: to the `k`-th call of each kind, and how many calls of each
kind were already made. -/
structure Oracle where
  answers : (c : Call) → ℕ → c.Result
  used : Call → ℕ

/-- An environment whose hardware always succeeds, with fixed delays. The link state, the mode of
the port, the received frame, the result of transmissions and the millisecond counter are given. -/
def Oracle.ready (linkUp : Bool) (mode : HexpPortMode) (reception : Reception) (sendRet : ℤ)
    (tics : UInt64) : Oracle :=
  { answers := fun
      | .getPortState, _ => linkUp
      | .recvfrom, _ => reception
      | .sendto, _ => ⟨sendRet, ⟨0, 0, 0, 1⟩⟩
      | .msecTics, _ => tics
      | .calibratingPoll .tx, _ => some 1000
      | .calibratingPoll .rx, _ => some 2000
      | .readCalibrationData, _ => ⟨true, 1000, 2000, 0, 8000⟩
      | .portMode, _ => mode
      | .uninitialized, _ => ⟨0, 0, 0, 0⟩
      | .lockingEnable .., _ | .lockingPoll .., _ | .lockingDisable .., _ => true
      | .calibrationPatternEnable .., _ | .calibrationPatternDisable, _ => true
      | .calibratingEnable .., _ | .calibratingDisable .., _ => true
      | .extsrcDetection, _ | .adjustInProgress, _ => false
    used := fun _ => 0 }

/-- The environment of a port: its answers, the frames the port has sent so far and the orders it
has given so far. -/
structure Netif where
  oracle : Oracle
  sent : List (List UInt8)
  commands : List NetifCommand

/-- What the functions of one port work on. -/
structure Node where
  port : PtpPortDS
  clk : PtpClockDS
  statics : ServoStatics
  netif : Netif

namespace Node

/-- The result of the next call of kind `c`. -/
def answer (n : Node) (c : Call) : c.Result :=
  n.netif.oracle.answers c (n.netif.oracle.used c)

/-- The node after a call of kind `c`. -/
def called (n : Node) (c : Call) : Node :=
  let used := n.netif.oracle.used
  { n with netif.oracle.used := fun c' => if c' = c then used c + 1 else used c' }

/-- The node after an order to the hardware. -/
def command (n : Node) (c : NetifCommand) : Node :=
  { n with netif.commands := n.netif.commands ++ [c] }

/-- The node after handing the first `length` octets of `msgObuf` to `ptpd_netif_sendto`. -/
def sendto (n : Node) (length : ℕ) : Node :=
  { n.called .sendto with netif.sent := n.netif.sent ++ [n.port.msgObuf.octets length] }

end Node

/-! ### Timers -/

namespace IntervalTimer

/-- `timerInit` and `timerStop`. -/
def stop (t : IntervalTimer) : IntervalTimer := { t with interval := 0 }

/-- `timerStart` at a reading of the millisecond counter. -/
def start (tics : UInt64) (interval : ℤ) : IntervalTimer :=
  { tStart := tics, interval := i32 interval }

/-- When the timer expires next. -/
def tExpire (t : IntervalTimer) : UInt64 := t.tStart + UInt64.ofInt t.interval

/-- The result of `timerExpired` at a reading of the millisecond counter. -/
def expired (t : IntervalTimer) (tics : UInt64) : Bool :=
  t.interval ≠ 0 ∧ t.tExpire ≤ tics

/-- The timer after `timerExpired`. -/
def polled (t : IntervalTimer) (tics : UInt64) : IntervalTimer :=
  if t.expired tics then
    { t with tStart := if t.tExpire < tics then tics else t.tExpire }
  else t

end IntervalTimer

/-- `1 << exp` on the host: the shift count is taken modulo 32 and the result is an `int`. -/
def pow2 (exp : Int8) : ℤ := i32 (2 ^ (exp.toInt % 32).toNat)

namespace Node

/-- `timerStop` on a PTP timer of the port. -/
def timerStop (n : Node) (t : PtpTimer) : Node :=
  { n with port.timers := Function.update n.port.timers t (n.port.timers t).stop }

/-- `timerStart` on a PTP timer of the port. -/
def timerStart (n : Node) (t : PtpTimer) (interval : ℤ) : Node :=
  { n.called .msecTics with
    port.timers := Function.update n.port.timers t (.start (n.answer .msecTics) interval) }

/-- The result of `timerExpired` on a PTP timer of the port. -/
def timerExpired (n : Node) (t : PtpTimer) : Bool :=
  (n.port.timers t).expired (n.answer .msecTics)

/-- The node after `timerExpired` on a PTP timer of the port. -/
def timerPolled (n : Node) (t : PtpTimer) : Node :=
  { n.called .msecTics with
    port.timers :=
      Function.update n.port.timers t ((n.port.timers t).polled (n.answer .msecTics)) }

section Lemmas

variable (n : Node) (c : Call) (t : PtpTimer)

@[simp]
theorem called_port : (n.called c).port = n.port := rfl

@[simp]
theorem called_clk : (n.called c).clk = n.clk := rfl

@[simp]
theorem called_statics : (n.called c).statics = n.statics := rfl

@[simp]
theorem called_sent : (n.called c).netif.sent = n.netif.sent := rfl

/-- Calls of one kind do not use up the answers to another kind. -/
@[simp]
theorem answer_called_of_ne {c c' : Call} (h : c' ≠ c) :
    (n.called c).answer c' = n.answer c' := by
  simp [answer, called, h]

@[simp]
theorem called_answers : (n.called c).netif.oracle.answers = n.netif.oracle.answers := rfl

end Lemmas

end Node

end WhiteRabbitPtp
