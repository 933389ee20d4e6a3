import WhiteRabbitPtp.Correctness.Frames
import WhiteRabbitPtp.Correctness.ServoStep
import WhiteRabbitPtp.Correctness.WireFormat

/-!
# Instants that reach the servo

A slave converts the time in a FollowUp or a DelayResp message and gives it to its servo. The
conversion reports a failure by leaving its result alone, which no caller notices: a local variable
that was never assigned goes to the servo instead. Nor does it look at the upper 16 bits of the
seconds or at the sign of the nanoseconds.

## Main definitions

* `WrTimestamp.Denotes`: a timestamp of the servo is the time in a message.
* `AcceptsFollowUp`, `AcceptsDelayResp`: everything but the time in the message is as it should be.
* `Former`: what the handlers may find in the memory they overwrite.
* `InstantHandled`: a time reaches the servo as it is or not at all.

## Main result

* `instantHandled_iff`: the times that are handled so.
-/

namespace WhiteRabbitPtp

open Octets

/-! ### Conversions -/

/-- The instant in a message, in nanoseconds. -/
def Timestamp.nanos (ts : Timestamp) : ℤ := ts.value.seconds * nsPerSec + ts.value.nanoseconds

/-- A timestamp of the servo stands for the instant in a message. -/
def WrTimestamp.Denotes (t : WrTimestamp) (ts : Timestamp) : Prop :=
  t.sec * nsPerSec + t.nsec = ts.nanos

/-- The phase of a timestamp does not matter to its instant in nanoseconds. -/
lemma WrTimestamp.denotes_phase {t : WrTimestamp} {ts : Timestamp} (phase : ℤ) :
    ({ t with phase } : WrTimestamp).Denotes ts ↔ t.Denotes ts := .rfl

/-- The times whose seconds and nanoseconds fit an `int`, but for the last second. -/
structure Timestamp.Representable (ts : Timestamp) : Prop where
  msb : ts.secondsField.msb = 0
  lsb : ts.secondsField.lsb < 0x7FFFFFFF
  nanoseconds : ts.nanosecondsField < 0x80000000

section Conversions

variable {ts : Timestamp} (internal : TimeInternal)

/-- A time that is converted comes out as it is unless it has upper seconds or its nanoseconds do
not fit. -/
lemma denotes_toInternalTime_iff (correct : ℤ) (hlsb : ts.secondsField.lsb < 0x7FFFFFFF) :
    (timeintToWr (toInternalTime internal ts) correct).Denotes ts ↔ ts.Representable := by
  have hns := ts.nanosecondsField.toNat_lt
  rw [toInternalTime, if_pos hlsb]
  simp only [WrTimestamp.Denotes, timeintToWr, Timestamp.nanos, Timestamp.value, nsPerSec, i32,
    Int.bmod_def]
  constructor
  · intro h
    refine ⟨UInt16.toNat_inj.mp ?_, hlsb, UInt32.lt_iff_toNat_lt.mpr ?_⟩
    · simp
      omega
    · simp
      omega
  · rintro ⟨hmsb, -, hnanoseconds⟩
    have hnanoseconds := UInt32.lt_iff_toNat_lt.mp hnanoseconds
    rw [hmsb]
    simp at hnanoseconds ⊢
    omega

/-- A time that is not converted leaves what was there. -/
lemma toInternalTime_of_not_lt (hlsb : ¬ts.secondsField.lsb < 0x7FFFFFFF) :
    toInternalTime internal ts = internal := if_neg hlsb

/-- What a local variable may hold that was not assigned. -/
def strayTime : TimeInternal := ⟨-1, 0, 0, 0⟩

/-- Any other time may reach the servo as none at all. -/
lemma stray_of_not_representable (correct : ℤ) (h : ¬ts.Representable) :
    ¬(timeintToWr (toInternalTime strayTime ts) correct).Denotes ts ∧
      (toInternalTime strayTime ts).seconds ≠ -2 := by
  by_cases hlsb : ts.secondsField.lsb < 0x7FFFFFFF
  · refine ⟨mt (denotes_toInternalTime_iff _ correct hlsb).mp h, ?_⟩
    rw [toInternalTime, if_pos hlsb]
    dsimp only
    omega
  · rw [toInternalTime_of_not_lt _ hlsb]
    refine ⟨?_, by decide⟩
    -- No time in a message is before the epoch.
    simp only [WrTimestamp.Denotes, timeintToWr, strayTime, Timestamp.nanos, nsPerSec]
    omega

end Conversions

/-! ### FollowUp -/

/-- Everything but the time in a FollowUp message is as the slave expects it. -/
structure AcceptsFollowUp (header : MsgHeader) (length : ℕ) (isFromSelf : Bool) (n : Node) :
    Prop where
  length : FOLLOW_UP_LENGTH ≤ length
  fromOther : isFromSelf = false
  slave : n.port.portState = .slave ∨
    n.port.portState = .uncalibrated ∧ n.port.wr.wrMode = .nonWr
  parent : msgIsFromCurrentParent header n.clk = true
  waiting : n.port.waitingForFollow = true
  sequenceId : n.port.recvSyncSequenceId = header.sequenceId

/-- The time in a FollowUp message is given to the servo as it is, or the servo is left alone. -/
def FollowUpTaken (ts : Timestamp) (n n' : Node) : Prop :=
  n'.port.servo.t1.Denotes ts ∨
    n'.port.servo.t1 = n.port.servo.t1 ∧ n'.port.servo.t2 = n.port.servo.t2 ∧
      n'.statics.gotSync = n.statics.gotSync

/-- What the handlers may find in the memory they overwrite, and what the environment answers, the
contents of unassigned variables included. -/
structure Former where
  servo : WrServoState
  statics : ServoStatics
  delayReqReceiveTime : TimeInternal
  oracle : Oracle

/-- A node with other contents of that memory. -/
def Node.withFormer (n : Node) (former : Former) : Node :=
  { n with
    port.servo := former.servo
    port.delayReqReceiveTime := former.delayReqReceiveTime
    statics := former.statics
    netif.oracle := former.oracle }

/-- Memory in which no time of the servo is one a handler writes. -/
def strayFormer (n : Node) : Former where
  servo := { n.port.servo with t1 := ⟨-2, 0, 0, 0⟩, t4 := ⟨-2, 0, 0, 0⟩ }
  statics := n.statics
  delayReqReceiveTime := n.port.delayReqReceiveTime
  oracle :=
    { answers := fun c k => if h : c = .uninitialized then h ▸ strayTime
        else n.netif.oracle.answers c k
      used := n.netif.oracle.used }

section FollowUp

variable {rtOpts : RunTimeOpts} {header : MsgHeader} {length : ℕ} {isFromSelf : Bool} {n : Node}

@[simp]
lemma leaveState_servo (rtOpts : RunTimeOpts) (n : Node) :
    (leaveState rtOpts n).port.servo = n.port.servo := by
  cases hE : rtOpts.E2E_mode <;> cases h : n.port.portState <;>
    simp [leaveState, Node.timerStop, hE, h]

/-- Sending a request does not touch the servo. -/
lemma issueDelayReq_servo (rtOpts : RunTimeOpts) (n : Node) :
    (issueDelayReq rtOpts n).port.servo = n.port.servo := by
  unfold issueDelayReq issueMsg toFaulty
  dsimp only
  split_ifs
  · rfl
  · exact leaveState_servo _ _
  · rfl

/-- The servo gets the converted time of an accepted FollowUp message. -/
lemma handleFollowUp_servo (h : AcceptsFollowUp header length isFromSelf n) :
    (handleFollowUp header length isFromSelf rtOpts n).port.servo.t1 =
      { timeintToWr (toInternalTime (n.answer .uninitialized)
          (msgUnpackFollowUp n.port.msgIbuf)) 1 with phase := 0 } := by
  have hslave : handleFollowUp header length isFromSelf rtOpts n =
      slaveHandleFollowUp header rtOpts n := by
    rw [handleFollowUp, if_neg (not_lt.mpr h.length), if_neg (by simp [h.fromOther])]
    rcases h.slave with hslave | ⟨huncalibrated, hmode⟩
    · rw [hslave]
    · rw [huncalibrated]
      exact if_neg (not_not.mpr hmode)
  rw [hslave, slaveHandleFollowUp, if_pos ⟨h.parent, h.waiting, h.sequenceId⟩]
  exact congrArg WrServoState.t1 (issueDelayReq_servo rtOpts _)

/-- An accepted FollowUp message is handled as it should be, whatever was in the memory, exactly
when its time is representable. -/
theorem followUp_taken_iff (rtOpts : RunTimeOpts)
    (h : AcceptsFollowUp header length isFromSelf n) :
    (∀ former, FollowUpTaken (msgUnpackFollowUp n.port.msgIbuf) (n.withFormer former)
      (handleFollowUp header length isFromSelf rtOpts (n.withFormer former))) ↔
      (msgUnpackFollowUp n.port.msgIbuf).Representable := by
  have haccepts (former : Former) :
      AcceptsFollowUp header length isFromSelf (n.withFormer former) := { h with }
  constructor
  · intro htaken
    by_contra hnot
    obtain ⟨hdenotes, hseconds⟩ := stray_of_not_representable 1 hnot
    rcases htaken (strayFormer n) with ht1 | ⟨ht1, -⟩
    · rw [handleFollowUp_servo (haccepts _)] at ht1
      exact hdenotes ht1
    · rw [handleFollowUp_servo (haccepts _)] at ht1
      exact hseconds (congrArg WrTimestamp.sec ht1)
  · intro hrep former
    left
    rw [handleFollowUp_servo (haccepts former)]
    exact (denotes_toInternalTime_iff _ 1 hrep.lsb).mpr hrep

end FollowUp

/-! ### DelayResp -/

/-- Everything but the time in a DelayResp message is as the slave expects it. -/
structure AcceptsDelayResp (rtOpts : RunTimeOpts) (header : MsgHeader) (length : ℕ) (n : Node) :
    Prop where
  mode : rtOpts.E2E_mode = true
  length : DELAY_RESP_LENGTH ≤ length
  slave : n.port.portState = .slave
  requester : (msgUnpackDelayResp n.port.msgIbuf).requestingPortIdentity = n.port.portIdentity
  sequenceId : (n.port.sentDelayReqSequenceId.toNat : ℤ) - 1 = header.sequenceId.toNat
  parent : msgIsFromCurrentParent header n.clk = true

/-- The time in a DelayResp message is given to the servo as it is, or the servo is left alone. -/
def DelayRespTaken (ts : Timestamp) (n n' : Node) : Prop :=
  n'.port.servo.t4.Denotes ts ∧ (timeintToWr n'.port.delayReqReceiveTime 1).Denotes ts ∨
    n'.port.servo.t3 = n.port.servo.t3 ∧ n'.port.servo.t4 = n.port.servo.t4 ∧
      n'.port.delayReqReceiveTime = n.port.delayReqReceiveTime ∧
        n'.statics.gotSync = n.statics.gotSync

section DelayResp

variable {rtOpts : RunTimeOpts} {header : MsgHeader} {length : ℕ} {n : Node}

lemma servoStep_t4 (n : Node) (hw : WrTimestamp) (tics : UInt64) :
    (servoStep n hw tics).port.servo.t4 = n.port.servo.t4 := by
  cases h : n.port.servo.state with
  | waitSyncIdle =>
    rw [servo_servoStep_waitSyncIdle hw tics h]
    split_ifs <;> rfl
  | syncTai =>
    rw [servo_servoStep_syncTai hw tics h]
    split_ifs <;> rfl
  | syncNsec =>
    rw [servo_servoStep_syncNsec hw tics h]
    split_ifs <;> rfl
  | syncPhase => rw [servo_servoStep_syncPhase hw tics h]
  | waitOffsetStable => rw [servo_servoStep_waitOffsetStable hw tics h]
  | trackPhase =>
    rw [servo_servoStep_trackPhase hw tics h]
    split_ifs <;> rfl
  | unset => rw [servo_servoStep_unset hw tics h]

/-- Of its port the state machine of the servo changes nothing else. -/
lemma servoStep_port (n : Node) (hw : WrTimestamp) (tics : UInt64) :
    (servoStep n hw tics).port =
      { n.port with servo := (servoStep n hw tics).port.servo } := by
  simp only [servoStep]
  split <;> try split_ifs
  all_goals rfl

/-- An update computes with the times it was given and keeps them. -/
lemma wrServoUpdate_times (n : Node) :
    (wrServoUpdate n).port.servo.t4 = n.port.servo.t4 ∧
      (wrServoUpdate n).port.delayReqReceiveTime = n.port.delayReqReceiveTime := by
  by_cases hruns : UpdateRuns n
  · rw [wrServoUpdate_of_runs hruns, servoStep_t4, servoStep_port, measured_servo]
    refine ⟨rfl, ?_⟩
    dsimp only [measured, lockPolled]
    split_ifs <;> rfl
  · rw [wrServoUpdate_of_not_runs hruns]
    exact ⟨rfl, rfl⟩

/-- The converted time of the DelayResp message in the input buffer. -/
def responseTime (n : Node) : TimeInternal :=
  toInternalTime (n.answer .uninitialized) (msgUnpackDelayResp n.port.msgIbuf).receiveTimestamp

/-- The port and the servo get the converted time of an accepted DelayResp message. -/
lemma handleDelayResp_times (h : AcceptsDelayResp rtOpts header length n) :
    (handleDelayResp header length rtOpts n).port.delayReqReceiveTime = responseTime n ∧
      (handleDelayResp header length rtOpts n).port.servo.t4 =
        { timeintToWr (responseTime n) 1 with
          phase := i32 ((i32 header.correctionfield.lsb.toNat * 1000).tdiv 65536) } := by
  rw [handleDelayResp, h.mode, if_neg (by decide), if_neg (not_lt.mpr h.length), h.slave]
  dsimp only
  rw [if_pos ⟨h.requester, h.sequenceId, h.parent⟩]
  dsimp only [toLocalTime]
  have htimes := wrServoUpdate_times
    (wrServoGotDelay { n.called .uninitialized with port.delayReqReceiveTime := responseTime n }
      (i32 header.correctionfield.lsb.toNat))
  exact ⟨htimes.2, htimes.1⟩

end DelayResp

/-! ### All times -/

/-- A time is handled as it should be: it reaches the servo of a slave as it is or not at all, and
it is converted back when it can be the time of the system. -/
structure InstantHandled (ts : Timestamp) : Prop where
  followUp : ∀ rtOpts header length isFromSelf n,
    AcceptsFollowUp header length isFromSelf n → msgUnpackFollowUp n.port.msgIbuf = ts →
      FollowUpTaken ts n (handleFollowUp header length isFromSelf rtOpts n)
  delayResp : ∀ rtOpts header length n,
    AcceptsDelayResp rtOpts header length n →
      (msgUnpackDelayResp n.port.msgIbuf).receiveTimestamp = ts →
        DelayRespTaken ts n (handleDelayResp header length rtOpts n)
  convertedBack : ∀ internal external, 0 ≤ internal.seconds → internal.seconds < 2 ^ 31 →
    0 ≤ internal.nanoseconds → internal.nanoseconds < 2 ^ 31 →
      fromInternalTime internal external = ts → ∀ t,
        (toInternalTime t ts).seconds = internal.seconds ∧
          (toInternalTime t ts).nanoseconds = internal.nanoseconds

section Instants

/-- A slave that waits for the FollowUp message in its input buffer. -/
def waitingSlave (ts : Timestamp) : Node :=
  let n := Daemon.singleNode ![2, 0, 0, 0, 0, 1] .wrSlave
  let buf := putTimestamp n.port.msgIbuf 34 ts
  { n with
    port := { n.port with
      portState := .slave
      waitingForFollow := true
      msgIbuf := buf
      recvSyncSequenceId := (msgUnpackHeader buf).sequenceId }
    clk.parentPortIdentity := (msgUnpackHeader buf).sourcePortIdentity }

lemma waitingSlave_accepts (ts : Timestamp) :
    AcceptsFollowUp (msgUnpackHeader (waitingSlave ts).port.msgIbuf) FOLLOW_UP_LENGTH false
      (waitingSlave ts) where
  length := le_rfl
  fromOther := rfl
  slave := .inl rfl
  parent := decide_eq_true rfl
  waiting := rfl
  sequenceId := rfl

lemma waitingSlave_time (ts : Timestamp) :
    msgUnpackFollowUp (waitingSlave ts).port.msgIbuf = ts := by
  exact getTimestamp_putTimestamp _ _ ts

/-- The times that are handled as they should be are those whose seconds are below the greatest
`int` and whose nanoseconds fit one. -/
theorem instantHandled_iff (ts : Timestamp) : InstantHandled ts ↔ ts.Representable := by
  constructor
  -- It is enough to look at one slave that takes a FollowUp with this time.
  · intro h
    have htime := waitingSlave_time ts
    rw [← htime, ← followUp_taken_iff (defaultRtOpts 1) (waitingSlave_accepts ts)]
    intro former
    exact htime.symm ▸ h.followUp _ _ _ _ _ { waitingSlave_accepts ts with } htime
  · intro hrep
    refine ⟨?_, ?_, ?_⟩
    · intro rtOpts header length isFromSelf n haccepts hts
      left
      rw [handleFollowUp_servo haccepts, hts]
      exact (denotes_toInternalTime_iff _ 1 hrep.lsb).mpr hrep
    · intro rtOpts header length n haccepts hts
      have htimes := handleDelayResp_times haccepts
      unfold DelayRespTaken
      rw [htimes.1, htimes.2, WrTimestamp.denotes_phase, responseTime, hts]
      exact .inl ⟨(denotes_toInternalTime_iff _ 1 hrep.lsb).mpr hrep,
        (denotes_toInternalTime_iff _ 1 hrep.lsb).mpr hrep⟩
    · intro internal external hseconds hseconds' hnanoseconds hnanoseconds' hts t
      rw [fromInternalTime, if_neg (by omega)] at hts
      subst hts
      have hlsb := toNat_uInt32_ofInt internal.seconds
      have hns := toNat_uInt32_ofInt internal.nanoseconds
      rw [toInternalTime, if_pos hrep.lsb]
      dsimp only
      exact ⟨by omega, (i32_eq_self (by omega) (by omega)).trans (by omega)⟩

/-- The last second the system can tell as a time in a message. -/
def lastSecond : Timestamp := fromInternalTime ⟨2 ^ 31 - 1, 0, 0, 0⟩ .zero

/-- The last second is not handled as it should be: a FollowUp message with it is neither dropped
nor does its time reach the servo, and it is not converted back. -/
theorem not_instantHandled_lastSecond :
    ¬InstantHandled lastSecond ∧
      ¬∀ former, FollowUpTaken lastSecond ((waitingSlave lastSecond).withFormer former)
        (handleFollowUp (msgUnpackHeader (waitingSlave lastSecond).port.msgIbuf) FOLLOW_UP_LENGTH
          false (defaultRtOpts 1) ((waitingSlave lastSecond).withFormer former)) := by
  constructor
  · intro h
    have hback := (h.convertedBack ⟨2 ^ 31 - 1, 0, 0, 0⟩ .zero (by decide) (by decide)
      (by decide) (by decide) rfl strayTime).1
    revert hback
    decide
  · intro h
    have htime := waitingSlave_time lastSecond
    have hrep := (followUp_taken_iff (defaultRtOpts 1)
      (waitingSlave_accepts lastSecond)).mp fun former => htime.symm ▸ h former
    rw [htime] at hrep
    have hlsb := hrep.lsb
    revert hlsb
    decide

end Instants

end WhiteRabbitPtp
