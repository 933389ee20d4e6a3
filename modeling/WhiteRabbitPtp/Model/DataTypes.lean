import WhiteRabbitPtp.Lib.Octets
import Mathlib.Data.Fintype.Pi
import Mathlib.Data.Int.Basic

/-!
# Data types of the PTP daemon

The data sets of one port and of the clock, the message structures and the foreign-master records,
as `datatypes.h`, `dep/datatypes_dep.h` and `constants.h` declare them.

Unsigned C integers are `UInt8` to `UInt64`. Signed fields that only travel in messages are `Int8`,
`Int16` and `Int32`; signed fields that are computed with are integers, wrapped by `i32` and `i64`
where the code stores a result. Counters and cursors of the foreign-master table are naturals.

The members of a port data set that belong together are grouped into records: `fm` for the foreign
masters, `wr` for White Rabbit, `timers` for the PTP timers and `servo` for the servo. Each member
of the union `msgTmp` is read right after it was written by the same handler, except `announce`,
whose `wr_flags` lie beyond every other member: only `announce` is kept, as `msgTmpAnnounce`.
-/

namespace WhiteRabbitPtp

open Octets

/-! ### Integers -/

/-- The value of an `int` (`Integer32`) after storing `x` in it. -/
def i32 (x : ℤ) : ℤ := x.bmod (2 ^ 32)

/-- The value of an `int64_t` after storing `x` in it. -/
def i64 (x : ℤ) : ℤ := x.bmod (2 ^ 64)

/-- `0` and `1` are the indices of the two flag octets of a header. -/
instance neZeroTwo : @NeZero ℕ Zero.ofOfNat0 2 := ⟨Nat.succ_ne_zero 1⟩

/-! ### Enumerations -/

/-- PTP port states (`PTP_INITIALIZING`, …). -/
inductive PtpState
  | initializing | faulty | disabled | listening | preMaster | master | passive | uncalibrated
  | slave
  deriving DecidableEq, Repr

/-- White Rabbit port states (`WRS_PRESENT`, …); the numbered ones are substates. -/
inductive WrState
  | present | sLock | mLock | locked | calibration | calibrated | respCalibReq | wrLinkOn | idle
  | sLock1 | sLock2
  | calibration1 | calibration2 | calibration3 | calibration4
  | calibration5 | calibration6 | calibration7 | calibration8
  | respCalibReq1 | respCalibReq2 | respCalibReq3
  deriving DecidableEq, Repr

/-- White Rabbit configuration of a port (`NON_WR`, `WR_M_ONLY`, …). -/
inductive WrConfig
  | nonWr | wrMOnly | wrSOnly | wrMAndS | wrModeAuto
  deriving DecidableEq, Repr

/-- The numeric value of a configuration, as it is packed into `wr_flags`. -/
def WrConfig.toFlags : WrConfig → UInt8
  | nonWr => 0
  | wrMOnly => 1
  | wrSOnly => 2
  | wrMAndS => 3
  | wrModeAuto => 4

/-- The configuration in the `WR_NODE_MODE` bits of `wr_flags`. -/
def WrConfig.ofFlags (flags : UInt8) : WrConfig :=
  if flags &&& 3 = 0 then nonWr
  else if flags &&& 3 = 1 then wrMOnly
  else if flags &&& 3 = 2 then wrSOnly
  else wrMAndS

/-- Current White Rabbit mode of a port. -/
inductive WrMode
  | nonWr | wrMaster | wrSlave
  deriving DecidableEq, Repr

/-- Slave-wise role of a port. -/
inductive WrSlaveRole
  | nonSlave | primarySlave | secondarySlave
  deriving DecidableEq, Repr

/-- Data initialization mode of `initWrData`. -/
inductive InitMode
  | init | reInit
  deriving DecidableEq, Repr

/-- States of the servo; `unset` is the value in zeroed memory. -/
inductive ServoState
  | unset | syncNsec | syncTai | syncPhase | trackPhase | waitSyncIdle | waitOffsetStable
  deriving DecidableEq, Repr

/-- The PTP timers of a port. -/
inductive PtpTimer
  | pdelayReq | delayReq | sync | announceReceipt | announceInterval
  deriving DecidableEq, Repr

/-! ### Identities and times -/

/-- Identity of a clock. -/
abbrev ClockIdentity := OctetString 8

/-- An Ethernet address. -/
abbrev MacAddr := OctetString 6

/-- Identity of a PTP port. -/
@[ext]
structure PortIdentity where
  clockIdentity : ClockIdentity
  portNumber : UInt16
  deriving Inhabited

-- Derived, the instance would rewrite along an equality of functions and not evaluate.
instance : DecidableEq PortIdentity := fun _ _ => decidable_of_iff' _ PortIdentity.ext_iff

/-- Quality of a clock. -/
structure ClockQuality where
  clockClass : UInt8
  clockAccuracy : UInt8
  offsetScaledLogVariance : UInt16
  deriving DecidableEq, Inhabited

/-- A 48-bit number. -/
structure UInteger48 where
  lsb : UInt32
  msb : UInt16
  deriving DecidableEq

/-- A signed 64-bit number in two halves. -/
structure Integer64 where
  lsb : UInt32
  msb : Int32
  deriving DecidableEq

/-- An unsigned 64-bit number in two halves. -/
structure UInteger64 where
  lsb : UInt32
  msb : UInt32
  deriving DecidableEq

/-- A time interval in units of `2 ^ -16` picoseconds. -/
structure FixedDelta where
  scaledPicoseconds : UInteger64
  deriving DecidableEq

/-- A time with respect to the epoch, as carried by messages. -/
structure Timestamp where
  secondsField : UInteger48
  nanosecondsField : UInt32
  deriving DecidableEq

/-- A time as the daemon computes with it. -/
structure TimeInternal where
  seconds : ℤ
  nanoseconds : ℤ
  phase : ℤ
  correct : ℤ
  deriving DecidableEq

/-- A hardware timestamp. -/
structure WrTimestamp where
  sec : ℤ
  nsec : ℤ
  phase : ℤ
  correct : ℤ
  deriving DecidableEq

/-- An interval timer; it is stopped when its interval is `0`. -/
structure IntervalTimer where
  tStart : UInt64
  interval : ℤ
  deriving DecidableEq, Inhabited

/-! ### Messages -/

/-- The common header of all PTP messages. -/
structure MsgHeader where
  transportSpecific : UInt8
  messageType : UInt8
  versionPTP : UInt8
  messageLength : UInt16
  domainNumber : UInt8
  flagField : OctetString 2
  correctionfield : Integer64
  sourcePortIdentity : PortIdentity
  sequenceId : UInt16
  controlField : UInt8
  logMessageInterval : Int8

/-- Fields of an Announce message, the White Rabbit flags included. -/
structure MsgAnnounce where
  originTimestamp : Timestamp
  currentUtcOffset : Int16
  grandmasterPriority1 : UInt8
  grandmasterClockQuality : ClockQuality
  grandmasterPriority2 : UInt8
  grandmasterIdentity : ClockIdentity
  stepsRemoved : UInt16
  timeSource : UInt8
  wrFlags : UInt8

/-- Fields of a DelayResp or PDelayResp message: a timestamp and the requesting port. -/
structure MsgResp where
  receiveTimestamp : Timestamp
  requestingPortIdentity : PortIdentity

/-- Types of PTP messages (`SYNC`, …), the low nibble of the first octet. -/
abbrev SYNC : UInt8 := 0x0
@[inherit_doc SYNC] abbrev DELAY_REQ : UInt8 := 0x1
@[inherit_doc SYNC] abbrev PDELAY_REQ : UInt8 := 0x2
@[inherit_doc SYNC] abbrev PDELAY_RESP : UInt8 := 0x3
@[inherit_doc SYNC] abbrev FOLLOW_UP : UInt8 := 0x8
@[inherit_doc SYNC] abbrev DELAY_RESP : UInt8 := 0x9
@[inherit_doc SYNC] abbrev PDELAY_RESP_FOLLOW_UP : UInt8 := 0xA
@[inherit_doc SYNC] abbrev ANNOUNCE : UInt8 := 0xB
@[inherit_doc SYNC] abbrev SIGNALING : UInt8 := 0xC

/-- White Rabbit message identifiers (`NULL_WR_TLV`, …). -/
abbrev NULL_WR_TLV : UInt16 := 0x0000
@[inherit_doc NULL_WR_TLV] abbrev SLAVE_PRESENT : UInt16 := 0x1000
@[inherit_doc NULL_WR_TLV] abbrev LOCK : UInt16 := 0x1001
@[inherit_doc NULL_WR_TLV] abbrev LOCKED : UInt16 := 0x1002
@[inherit_doc NULL_WR_TLV] abbrev CALIBRATE : UInt16 := 0x1003
@[inherit_doc NULL_WR_TLV] abbrev CALIBRATED : UInt16 := 0x1004
@[inherit_doc NULL_WR_TLV] abbrev WR_MODE_ON : UInt16 := 0x1005
@[inherit_doc NULL_WR_TLV] abbrev ANN_SUFIX : UInt16 := 0x2000

/-! ### Data sets -/

/-- A foreign master as one port knows it. -/
structure ForeignMasterRecord where
  foreignMasterPortIdentity : PortIdentity
  foreignMasterAnnounceMessages : UInt16
  receptionPortNumber : UInt16
  announce : MsgAnnounce
  header : MsgHeader

/-- The foreign-master data set of a port: a ring of records, its cursors, and the mark that
an Announce message arrived since the last state decision. The counters have 16 bits in the source;
`maxForeignRecords`, an `Integer16`, bounds them all, so none of them wraps. -/
structure ForeignMasterDS where
  foreign : ℕ → ForeignMasterRecord
  numberForeignRecords : ℕ
  maxForeignRecords : ℕ
  foreignRecordI : ℕ
  foreignRecordBest : ℕ
  recordUpdate : Bool

/-- The White Rabbit members of a port data set. -/
structure WrPortDS where
  wrConfig : WrConfig
  phyCalibrationRequired : Bool
  wrStateTimeout : UInt32
  wrStateRetry : UInt8
  parentWrConfig : WrConfig
  calPeriod : UInt32
  calRetry : UInt8
  wrPortState : WrState
  wrMode : WrMode
  wrModeON : Bool
  calibrated : Bool
  deltaTx : FixedDelta
  deltaRx : FixedDelta
  otherNodeDeltaTx : FixedDelta
  otherNodeDeltaRx : FixedDelta
  parentWrModeON : Bool
  parentCalibrated : Bool
  otherNodeCalSendPattern : UInt16
  otherNodeCalPeriod : UInt32
  otherNodeCalRetry : UInt8
  parentIsWRnode : Bool
  msgTmpWrMessageID : UInt16
  currentWRstateCnt : UInt8
  wrTimers : WrState → IntervalTimer
  wrTimeouts : WrState → ℤ
  wrSlaveRole : WrSlaveRole

/-- The state of the servo of a port (`wr_servo_state_t`). -/
structure WrServoState where
  state : ServoState
  nextState : ServoState
  mu : WrTimestamp
  deltaTxM : ℤ
  deltaRxM : ℤ
  deltaTxS : ℤ
  deltaRxS : ℤ
  curSetpoint : ℤ
  deltaMs : ℤ
  deltaMsPrev : ℤ
  t1 : WrTimestamp
  t2 : WrTimestamp
  t3 : WrTimestamp
  t4 : WrTimestamp
  lastTics : UInt64
  fiberFixAlpha : ℤ
  clockPeriodPs : ℤ
  missedIters : ℤ

/-- The network addresses a port receives on. -/
structure NetPath where
  selfAddr : MacAddr
  multicastAddr : MacAddr
  unicastAddr : MacAddr

/-- The size of `msgIbuf` and `msgObuf`. -/
abbrev PACKET_SIZE : ℕ := 1024

/-- The data set of one port. -/
structure PtpPortDS where
  netPath : NetPath
  clockIdentity : ClockIdentity
  portIdentity : PortIdentity
  portState : PtpState
  logMinDelayReqInterval : Int8
  logAnnounceInterval : Int8
  announceReceiptTimeout : UInt8
  logSyncInterval : Int8
  logMinPdelayReqInterval : Int8
  versionNumber : UInt8
  fm : ForeignMasterDS
  msgTmpHeader : MsgHeader
  msgTmpAnnounce : MsgAnnounce
  msgObuf : Buffer
  msgIbuf : Buffer
  pdelayReqReceiveTime : TimeInternal
  pdelayReqSendTime : TimeInternal
  pdelayRespReceiveTime : TimeInternal
  pdelayRespSendTime : TimeInternal
  syncReceiveTime : TimeInternal
  delayReqReceiveTime : TimeInternal
  pdelayReqHeader : MsgHeader
  delayReqHeader : MsgHeader
  lastSyncCorrectionField : TimeInternal
  lastPdelayRespCorrectionField : TimeInternal
  sentPDelayReqSequenceId : UInt16
  sentDelayReqSequenceId : UInt16
  sentSyncSequenceId : UInt16
  sentAnnounceSequenceId : UInt16
  recvSyncSequenceId : UInt16
  waitingForFollow : Bool
  portUuidField : MacAddr
  timers : PtpTimer → IntervalTimer
  wr : WrPortDS
  servo : WrServoState
  synchTxTs : WrTimestamp
  delayReqTxTs : WrTimestamp
  pDelayReqTxTs : WrTimestamp
  pDelayRespTxTs : WrTimestamp
  currentRxTs : WrTimestamp
  secondaryForeignMaster : ForeignMasterRecord
  linkUP : Bool
  doRestart : Bool

/-- The data set common to all ports of a clock. `bestForeign` points to a record by the index of
the port and the index in its table; it is indeterminate before the first `EBest`. -/
structure PtpClockDS where
  twoStepFlag : Bool
  numberPorts : ℕ
  clockQuality : ClockQuality
  priority1 : UInt8
  priority2 : UInt8
  domainNumber : UInt8
  stepsRemoved : UInt16
  primarySlavePortNumber : UInt16
  secondarySlavePortNumber : UInt16
  parentPortIdentity : PortIdentity
  grandmasterIdentity : ClockIdentity
  grandmasterClockQuality : ClockQuality
  grandmasterPriority1 : UInt8
  grandmasterPriority2 : UInt8
  currentUtcOffset : Int16
  currentUtcOffsetValid : Bool
  leap59 : Bool
  leap61 : Bool
  timeTraceable : Bool
  frequencyTraceable : Bool
  ptpTimescale : Bool
  timeSource : UInt8
  Ebest : ℤ
  globalStateDecisionEvent : Bool
  bestForeign : ℕ × ℕ
  clockClassValidityTimer : IntervalTimer
  clockClassValidityTimeout : UInt8
  deriving Inhabited

/-- Program options. -/
structure RunTimeOpts where
  announceInterval : Int8
  syncInterval : Int8
  clockQuality : ClockQuality
  priority1 : UInt8
  priority2 : UInt8
  domainNumber : UInt8
  inboundLatency : TimeInternal
  outboundLatency : TimeInternal
  maxForeignRecords : ℕ
  E2E_mode : Bool
  portNumber : ℕ
  calPeriod : UInt32
  overrideClockIdentity : UInt8
  wrConfig : WrConfig
  phyCalibrationRequired : Bool
  wrStateTimeout : UInt32
  wrStateRetry : UInt8
  primarySource : Bool
  masterOnly : Bool
  disableFallbackIfWRFails : Bool

/-- The static variables of `dep/wr_servo.c`, shared by all ports. -/
structure ServoStatics where
  servoStateValid : Bool
  trackingEnabled : Bool
  gotSync : Bool
  phAdjust : ℤ

end WhiteRabbitPtp
