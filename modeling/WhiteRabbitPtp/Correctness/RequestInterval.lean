import WhiteRabbitPtp.Correctness.Requests
import WhiteRabbitPtp.Correctness.SendFailures
import WhiteRabbitPtp.Correctness.Watching

/-!
# The interval of the requests

A slave learns from the DelayResp messages of its parent how often it may send requests: they carry
the logarithm of the interval as a signed octet, which is stored without a check. When the port
enters `PTP_SLAVE` the next time, the timer of its requests is started with this interval, computed
by a shift and a product.

## Main definitions

* `UsableExponent`: the exponents for which shift, product and conversion are defined.
* `LearnsInterval`: the port takes an interval from the message it receives.
* `KeepsRequests`: what all functions do with the interval and its timer that take none.
* `LearnsUsable`: a run in which only usable intervals are learned, and no slave starts without a
  timer.

## Main results

* `requests_armed_of_guardedRun`: in every such run the timer is started with a usable interval.
* `not_forall_requests_armed`: a run in which it is not.
-/

namespace WhiteRabbitPtp

open Octets InputSystem

/-! ### Exponents -/

/-- The shift count of `1 << exponent` is one of an `int`, and neither the product with `1000` nor
its conversion overflows. -/
def UsableExponent (exponent : Int8) : Prop :=
  0 ≤ exponent.toInt ∧ exponent.toInt ≤ 30 ∧ 1000 * 2 ^ exponent.toInt.toNat < (2 : ℤ) ^ 31

instance : DecidablePred UsableExponent := fun exponent => by
  unfold UsableExponent
  infer_instance

/-- `UsableExponent` in closed form: the exponents from `0` to `21`. -/
theorem usableExponent_iff (exponent : Int8) :
    UsableExponent exponent ↔ 0 ≤ exponent.toInt ∧ exponent.toInt ≤ 21 := by
  constructor
  · rintro ⟨hnonneg, -, hproduct⟩
    refine ⟨hnonneg, ?_⟩
    by_contra hlarge
    -- From `2 ^ 22` on the product is too large.
    have hpow : (2 : ℤ) ^ 22 ≤ 2 ^ exponent.toInt.toNat :=
      pow_le_pow_right₀ (by decide) (by omega)
    omega
  · rintro ⟨hnonneg, hsmall⟩
    have hpow : (2 : ℤ) ^ exponent.toInt.toNat ≤ 2 ^ 21 :=
      pow_le_pow_right₀ (by decide) (by omega)
    exact ⟨hnonneg, by omega, by omega⟩

/-- For a usable exponent the `int` computation `1000 * pow2 exponent` is exact. -/
theorem UsableExponent.interval {exponent : Int8} (h : UsableExponent exponent) :
    i32 (1000 * pow2 exponent) = 1000 * 2 ^ exponent.toInt.toNat := by
  obtain ⟨hnonneg, hsmall⟩ := (usableExponent_iff exponent).mp h
  have hcount : (exponent.toInt % 32).toNat = exponent.toInt.toNat := by omega
  have hpow : (2 : ℤ) ^ exponent.toInt.toNat ≤ 2 ^ 21 := pow_le_pow_right₀ (by decide) (by omega)
  have hpos : (0 : ℤ) < 2 ^ exponent.toInt.toNat := by positivity
  rw [pow2, hcount]
  generalize (2 : ℤ) ^ exponent.toInt.toNat = x at *
  have hx : i32 x = x := Int.bmod_eq_of_le (by omega) (by omega)
  rw [hx]
  exact Int.bmod_eq_of_le (by omega) (by omega)

/-! ### The timer of the requests -/

/-- The current interval of the timer `.delayReq`, `0` when it is stopped. -/
def PtpPortDS.requestInterval (port : PtpPortDS) : ℤ := (port.timers .delayReq).interval

/-- `logMinDelayReqInterval` stays, and a port in `PTP_SLAVE` was in it before, with the interval of
its timer as it was. -/
structure KeepsRequests (n n' : Node) : Prop where
  interval : n'.port.logMinDelayReqInterval = n.port.logMinDelayReqInterval
  slave : n'.port.portState = .slave →
    n.port.portState = .slave ∧ n'.port.requestInterval = n.port.requestInterval

section Keeps

variable {rtOpts : RunTimeOpts} {n n' n'' : Node}

/-- `KeepsRequests` of a change that touches neither the two intervals nor the state. -/
theorem KeepsRequests.of_eq
    (hinterval : n'.port.logMinDelayReqInterval = n.port.logMinDelayReqInterval)
    (hstate : n'.port.portState = n.port.portState)
    (htimer : n'.port.requestInterval = n.port.requestInterval) : KeepsRequests n n' :=
  ⟨hinterval, fun hslave => ⟨hstate.symm.trans hslave, htimer⟩⟩

/-- `KeepsRequests` is reflexive. -/
@[refl]
theorem KeepsRequests.refl (n : Node) : KeepsRequests n n := .of_eq rfl rfl rfl

/-- `KeepsRequests` is transitive. -/
@[trans]
theorem KeepsRequests.trans (h : KeepsRequests n n') (h' : KeepsRequests n' n'') :
    KeepsRequests n n'' := by
  refine ⟨h'.interval.trans h.interval, fun hslave => ?_⟩
  obtain ⟨hslave', htimer'⟩ := h'.slave hslave
  obtain ⟨hslave'', htimer⟩ := h.slave hslave'
  exact ⟨hslave'', htimer'.trans htimer⟩

/-- Starting a timer other than `.delayReq` is in `KeepsRequests`. -/
theorem timerStart_keepsRequests (n : Node) {t : PtpTimer} (h : t ≠ .delayReq) (interval : ℤ) :
    KeepsRequests n (n.timerStart t interval) :=
  .of_eq rfl rfl (congrArg IntervalTimer.interval (Function.update_of_ne h.symm _ _))

/-- `timerPolled` moves the start of a timer only, so any timer may be polled. -/
theorem timerPolled_keepsRequests (n : Node) (t : PtpTimer) :
    KeepsRequests n (n.timerPolled t) := by
  refine .of_eq rfl rfl ?_
  by_cases h : t = .delayReq
  · subst h
    simp only [PtpPortDS.requestInterval, Node.timerPolled, Function.update_self]
    unfold IntervalTimer.polled
    split <;> rfl
  · exact congrArg IntervalTimer.interval (Function.update_of_ne (Ne.symm h) _ _)

/-! ### Failing and sending -/

/-- `leaveState` keeps `logMinDelayReqInterval`. -/
theorem leaveState_interval (rtOpts : RunTimeOpts) (n : Node) :
    (leaveState rtOpts n).port.logMinDelayReqInterval = n.port.logMinDelayReqInterval := by
  rw [leaveState_port]

/-- `toFaulty` is in `KeepsRequests`: the port ends in `PTP_FAULTY`, which is not `PTP_SLAVE`. -/
theorem toFaulty_keepsRequests (rtOpts : RunTimeOpts) (n : Node) :
    KeepsRequests n (toFaulty rtOpts n) := by
  unfold toFaulty
  split
  · rfl
  · -- A faulty port is no slave.
    exact ⟨leaveState_interval rtOpts n, fun hslave => by cases hslave⟩

/-- `issueMsg` is in `KeepsRequests` when the two functions that note the outcome are. -/
theorem issueMsg_keepsRequests {buf : Buffer} {length : ℕ}
    {record : SendResult → PtpPortDS → PtpPortDS} {sent : PtpPortDS → PtpPortDS}
    (hrecord : ∀ r (n : Node), KeepsRequests n { n with port := record r n.port })
    (hsent : ∀ n : Node, KeepsRequests n { n with port := sent n.port }) :
    KeepsRequests n (issueMsg rtOpts buf length record sent n) := by
  have hbuf : KeepsRequests n (({ n with port.msgObuf := buf } : Node).sendto length) :=
    .of_eq rfl rfl rfl
  refine (hbuf.trans (hrecord (n.answer .sendto) _)).trans ?_
  unfold issueMsg
  dsimp only
  split
  · exact toFaulty_keepsRequests _ _
  · exact hsent _

/-- Every `Issue` is in `KeepsRequests`: it changes a sequence counter and the times of the port. -/
theorem Issue.run_keepsRequests (rtOpts : RunTimeOpts) (n : Node) (message : Issue) :
    KeepsRequests n (message.run rtOpts n) := by
  cases message <;>
    simp only [Issue.run, issueAnnounce, issueSync, issueFollowup, issueDelayReq, issueDelayResp,
      issuePDelayReq, issuePDelayResp, issuePDelayRespFollowUp, issueWRSignalingMsg] <;>
    exact issueMsg_keepsRequests (fun _ _ => .of_eq rfl rfl rfl) fun _ => .of_eq rfl rfl rfl

/-! ### The effects of the handlers -/

section Effects

variable {p : Footprint}

/-- All effects of `Effect` but those that write `logMinDelayReqInterval`. -/
def Footprint.keepsInterval : Footprint := { any with interval := False }

/-- `Stores` is in `KeepsRequests` when the footprint leaves the interval out. -/
theorem Stores.keepsRequests (h : Stores p n n') (hp : ¬p.interval) : KeepsRequests n n' := by
  refine .of_eq (h.interval.resolve_left hp) h.portState ?_
  rw [PtpPortDS.requestInterval, h.timers]
  rfl

/-- Every `Effect` of such a footprint is in `KeepsRequests`. -/
theorem Effect.keepsRequests (h : Effect rtOpts p n n') (hp : ¬p.interval) :
    KeepsRequests n n' := by
  cases h with
  | stores h => exact h.keepsRequests hp
  | toFaulty => exact toFaulty_keepsRequests rtOpts n
  | restartAnnounceReceipt => exact timerStart_keepsRequests n (by decide) _
  | timerPolled t => exact timerPolled_keepsRequests n t
  | issue message => exact message.run_keepsRequests rtOpts n

/-- So is every sequence of them. -/
theorem Handled.keepsRequests (h : Handled rtOpts p n n') (hp : ¬p.interval) : KeepsRequests n n' :=
  h.of_effect .refl .trans fun heffect => heffect.keepsRequests hp

/-- Storing an Announce message writes the foreign masters only. -/
theorem Announced.keepsRequests (h : Announced n n') : KeepsRequests n n' := by
  cases h with
  | ignored => rfl
  | parent record announce => exact .of_eq rfl rfl rfl
  | added header =>
    rw [addForeign_eq]
    exact .of_eq rfl rfl rfl

end Effects

/-! ### White Rabbit transitions -/

/-- The effects of a White Rabbit transition write `wr` only, or issue a Signaling message. -/
theorem WrEffect.keepsRequests (h : WrEffect rtOpts n n') : KeepsRequests n n' := by
  cases h with
  | stores h =>
    have hport := h.port
    refine .of_eq ?_ ?_ ?_ <;> rw [hport]
    rfl
  | issue id => exact Issue.run_keepsRequests rtOpts n (.wrSignaling id)

/-- `toWRState` is a sequence of these effects. -/
theorem toWRState_keepsRequests (rtOpts : RunTimeOpts) (s : WrState) (n : Node) :
    KeepsRequests n (toWRState s rtOpts n) :=
  (toWRState_entered rtOpts n s).of_effect .refl .trans WrEffect.keepsRequests

/-- `handleSignaling` stores the message, and may enter `WRS_M_LOCK` by `toWRState`. -/
theorem handleSignaling_keepsRequests (rtOpts : RunTimeOpts) (n : Node) (isFromSelf : Bool) :
    KeepsRequests n (handleSignaling isFromSelf rtOpts n) := by
  have hmaster : KeepsRequests n (asWrMaster (signaled n)) := .of_eq rfl rfl rfl
  cases isFromSelf
  · rcases handleSignaling_cases rtOpts n with h | ⟨-, h⟩ <;> rw [h]
    · exact .of_eq rfl rfl rfl
    · exact hmaster.trans (toWRState_keepsRequests _ _ _)
  · rfl

/-! ### Learning an interval -/

/-- The frame that the port receives next is a DelayResp that `handleDelayResp` takes as the answer
to the latest request, so that `logMinDelayReqInterval` is read from it. -/
def LearnsInterval (rtOpts : RunTimeOpts) (n : Node) : Prop :=
  RequestKind.delayReq.Awaits rtOpts n.port ∧ RequestKind.delayReq.HearsAnswer n ∧
    (n.port.sentDelayReqSequenceId.toNat : ℤ) - 1 = (received n).port.msgTmpHeader.sequenceId.toNat

instance (rtOpts : RunTimeOpts) : DecidablePred (LearnsInterval rtOpts) := fun n =>
  decidable_of_iff ((rtOpts.E2E_mode = true ∧ n.port.portState = .slave) ∧
      ((DELAY_RESP_LENGTH : ℤ) ≤ (netRecvMsg n).1 ∧
        (received n).port.msgTmpHeader.versionPTP = n.port.versionNumber ∧
        (received n).port.msgTmpHeader.domainNumber = n.clk.domainNumber ∧
        (received n).port.msgTmpHeader.messageType = DELAY_RESP ∧
        (msgUnpackDelayResp (received n).port.msgIbuf).requestingPortIdentity =
          (received n).port.portIdentity ∧
        msgIsFromCurrentParent (received n).port.msgTmpHeader (received n).clk = true) ∧
      (n.port.sentDelayReqSequenceId.toNat : ℤ) - 1 =
        (received n).port.msgTmpHeader.sequenceId.toNat)
    ⟨fun ⟨hawaits, ⟨hlength, hversion, hdomain, htype, haddressed⟩, hnumber⟩ =>
        ⟨hawaits, ⟨hlength, hversion, hdomain, htype, haddressed⟩, hnumber⟩,
      fun ⟨hawaits, hhears, hnumber⟩ => ⟨hawaits, ⟨hhears.length, hhears.version, hhears.domain,
        hhears.type, hhears.addressed⟩, hnumber⟩⟩

/-- `logMinDelayReqInterval` was read from the header of the frame, in `PTP_SLAVE`, and the timer
was left alone. -/
structure Learned (n n' : Node) : Prop where
  interval : n'.port.logMinDelayReqInterval = (received n).port.msgTmpHeader.logMessageInterval
  slave : n'.port.portState = .slave ∧ n.port.portState = .slave
  timer : n'.port.requestInterval = n.port.requestInterval

/-- `wrServoUpdate` keeps the state of the port and its timers. -/
theorem wrServoUpdate_timers (n : Node) : (wrServoUpdate n).port.portState = n.port.portState ∧
    (wrServoUpdate n).port.timers = n.port.timers := by
  simp only [wrServoUpdate]
  split
  · exact ⟨rfl, rfl⟩
  split
  · exact ⟨rfl, rfl⟩
  rw [(servoStep_stores _ .any _ _).portState, (servoStep_stores _ .any _ _).timers]
  split <;> exact ⟨rfl, rfl⟩

/-- Taking a DelayResp stores the `logMessageInterval` of its header, and keeps state and timer. -/
theorem taken_requests (n : Node) :
    (RequestKind.delayReq.taken n).port.logMinDelayReqInterval =
        n.port.msgTmpHeader.logMessageInterval ∧
      (RequestKind.delayReq.taken n).port.portState = n.port.portState ∧
      (RequestKind.delayReq.taken n).port.requestInterval = n.port.requestInterval := by
  unfold RequestKind.taken PtpPortDS.requestInterval
  dsimp only [toLocalTime]
  rw [(wrServoUpdate_timers _).1, (wrServoUpdate_timers _).2]
  exact ⟨rfl, rfl, rfl⟩

/-- `handleDelayResp` is in `KeepsRequests` unless the message answers the latest request. -/
theorem handleDelayResp_keepsRequests {length : ℕ}
    (h : ¬(rtOpts.E2E_mode = true ∧ DELAY_RESP_LENGTH ≤ length ∧ n.port.portState = .slave ∧
      RequestKind.delayReq.Addressed n ∧
      (n.port.sentDelayReqSequenceId.toNat : ℤ) - 1 = n.port.msgTmpHeader.sequenceId.toNat)) :
    KeepsRequests n (handleDelayResp n.port.msgTmpHeader length rtOpts n) := by
  unfold handleDelayResp
  split
  · rfl
  next hmode =>
    split
    · exact toFaulty_keepsRequests _ _
    next hlength =>
      split
      next hslave =>
        dsimp only
        split
        next hanswer =>
          exact absurd ⟨by simpa using hmode, not_lt.mp hlength, hslave,
            ⟨hanswer.1, hanswer.2.2⟩, hanswer.2.1⟩ h
        next => rfl
      next => rfl

/-- `netRecvMsg` writes the input buffer and the time stamp of the reception only. -/
theorem netRecvMsg_keepsRequests (n : Node) : KeepsRequests n (netRecvMsg n).2 :=
  (netRecvMsg_stores n .keepsInterval).keepsRequests id

/-- Decoding the header does not change this. -/
theorem received_keepsRequests (n : Node) : KeepsRequests n (received n) :=
  (netRecvMsg_keepsRequests n).trans (.of_eq rfl rfl rfl)

/-- `handle` is in `KeepsRequests` unless the port learns an interval: every handler but
`handleDelayResp` has the footprint `keepsInterval`. -/
theorem handle_keepsRequests (h : ¬LearnsInterval rtOpts n) :
    KeepsRequests n (handle rtOpts n) := by
  have hrecv := netRecvMsg_keepsRequests n
  have hreceived := received_keepsRequests n
  refine handle_induction rtOpts n hrecv (hrecv.trans (toFaulty_keepsRequests _ _)) fun _ => ?_
  refine hreceived.trans ?_
  have hframe : Frame n (received n) := (received_wrFrame (P := fun _ => True) n).toFrame
  have hcounter : (received n).port.sentDelayReqSequenceId = n.port.sentDelayReqSequenceId :=
    received_counter .delayReq n
  have hstate : (received n).port.portState = n.port.portState := received_portState n
  by_cases hversion : (received n).port.msgTmpHeader.versionPTP ≠ (received n).port.versionNumber
  · unfold dispatchMsg
    dsimp only
    rw [if_pos hversion]
  by_cases hdomain : (received n).port.msgTmpHeader.domainNumber ≠ (received n).clk.domainNumber
  · unfold dispatchMsg
    dsimp only
    rw [if_neg hversion, if_pos hdomain]
  -- All handlers but that of the DelayResp leave the interval alone.
  have hkept {m : Node} (h : Handled rtOpts .keepsInterval (received n) m) :
      KeepsRequests (received n) m := h.keepsRequests id
  have hanswers : (received n).port.portState.answers rtOpts.E2E_mode ⊆
      Footprint.keepsInterval.kinds := answers_subset_any _ _
  refine dispatchMsg_induction rtOpts (received n) (.refl _) (fun _ isFromSelf => ?_)
    (fun _ _ => hkept (handleSync_handled _ _ _ _ _ trivial))
    (fun _ _ => hkept (handleFollowUp_handled _ _ _ _ _ trivial fun _ => by decide))
    (fun _ => hkept (handleDelayReq_handled _ _ hanswers))
    (fun _ _ => hkept (handlePDelayReq_handled _ _ _ _ hanswers _))
    (fun _ _ => hkept (handlePDelayResp_handled _ _ _ _ hanswers _))
    (hkept (handlePDelayRespFollowUp_handled _ _ _ _)) (fun htype => ?_)
    fun _ => handleSignaling_keepsRequests ..
  · obtain ⟨m, hm, h⟩ := handleAnnounce_announced rtOpts .keepsInterval
      (received n).port.msgTmpHeader (netRecvMsg n).1.toNat isFromSelf (received n)
    exact hm.keepsRequests.trans (h.keepsRequests id)
  refine handleDelayResp_keepsRequests ?_
  rintro ⟨hmode, hlength, hslave, haddressed, hnumber⟩
  refine h ⟨⟨hmode, hstate ▸ hslave⟩, ⟨?_, ?_, ?_, htype, haddressed⟩, hcounter ▸ hnumber⟩
  · have hlength : RequestKind.delayReq.answerLength ≤ (netRecvMsg n).1.toNat := hlength
    omega
  · rw [not_not.mp hversion]
    exact hframe.versionNumber
  · rw [not_not.mp hdomain, hframe.clk]

/-- `handle` stores the interval when the port learns one. -/
theorem handle_learned (h : LearnsInterval rtOpts n) : Learned n (handle rtOpts n) := by
  obtain ⟨hawaits, hhears, hnumber⟩ := h
  obtain ⟨hinterval, hstate, htimer⟩ := taken_requests (received n)
  obtain ⟨msgIbuf, currentRxTs, msgTmpHeader, heq⟩ := received_port n
  rw [(handle_of_awaits hawaits hhears).trans (if_pos hnumber)]
  have hslave : (received n).port.portState = .slave := (received_portState n).trans hawaits.2
  refine ⟨hinterval, ⟨hstate.trans hslave, hawaits.2⟩, htimer.trans ?_⟩
  rw [heq]
  rfl

/-! ### Entering states -/

/-- `logMinDelayReqInterval` stays, and a port in `PTP_SLAVE` with end-to-end delays was in it
before with the interval of its timer as it was, or its timer was started with `1000 * pow2` of the
interval. -/
structure ArmsRequests (rtOpts : RunTimeOpts) (n n' : Node) : Prop where
  interval : n'.port.logMinDelayReqInterval = n.port.logMinDelayReqInterval
  armed : rtOpts.E2E_mode = true → n'.port.portState = .slave →
    n.port.portState = .slave ∧ n'.port.requestInterval = n.port.requestInterval ∨
      n'.port.requestInterval = i32 (1000 * pow2 n.port.logMinDelayReqInterval)

/-- `KeepsRequests` is the first case of `ArmsRequests`. -/
theorem KeepsRequests.arms (h : KeepsRequests n n') : ArmsRequests rtOpts n n' :=
  ⟨h.interval, fun _ hslave => .inl (h.slave hslave)⟩

/-- `ArmsRequests` is reflexive. -/
@[refl]
theorem ArmsRequests.refl (rtOpts : RunTimeOpts) (n : Node) : ArmsRequests rtOpts n n :=
  (KeepsRequests.refl n).arms

/-- `ArmsRequests` is transitive, as the interval stays in between. -/
@[trans]
theorem ArmsRequests.trans (h : ArmsRequests rtOpts n n') (h' : ArmsRequests rtOpts n' n'') :
    ArmsRequests rtOpts n n'' := by
  refine ⟨h'.interval.trans h.interval, fun hmode hslave => ?_⟩
  rcases h'.armed hmode hslave with ⟨hslave', htimer'⟩ | hstarted
  · rcases h.armed hmode hslave' with ⟨hslave'', htimer⟩ | hstarted
    · exact .inl ⟨hslave'', htimer'.trans htimer⟩
    · exact .inr (htimer'.trans hstarted)
  · -- Both start the timer with the same interval.
    exact .inr (h.interval ▸ hstarted)

/-- `wrServoInit` writes the servo and the calibration data only. -/
theorem wrServoInit_keepsRequests (n : Node) : KeepsRequests n (wrServoInit n) := by
  unfold wrServoInit
  dsimp only
  split <;> exact .of_eq rfl rfl rfl

/-- `timerStart` keeps `logMinDelayReqInterval`. -/
theorem timerStart_interval (n : Node) (t : PtpTimer) (interval : ℤ) :
    (n.timerStart t interval).port.logMinDelayReqInterval = n.port.logMinDelayReqInterval := rfl

/-- Starting `.delayReq` makes its interval the given one, as a 32-bit number. -/
theorem timerStart_delayReq (n : Node) (interval : ℤ) :
    (n.timerStart .delayReq interval).port.requestInterval = i32 interval := by
  simp [PtpPortDS.requestInterval, Node.timerStart, IntervalTimer.start]

/-- Writing `portState` keeps the interval of the timer. -/
theorem setPortState_requestInterval (n : Node) (state : PtpState) :
    ({ n with port.portState := state } : Node).port.requestInterval = n.port.requestInterval := rfl

/-- `enterState` keeps `logMinDelayReqInterval`. -/
theorem enterState_interval (state : PtpState) (rtOpts : RunTimeOpts) (n : Node) :
    (enterState state rtOpts n).port.logMinDelayReqInterval = n.port.logMinDelayReqInterval := by
  cases state <;> simp only [enterState, timerStart_interval]
  case uncalibrated =>
    split
    · split
      · exact (toWRState_keepsRequests rtOpts .present n).interval
      · rfl
    · rfl
  case slave =>
    have hinit := (wrServoInit_keepsRequests n).interval
    split <;> simp only [timerStart_interval, hinit]

/-- `enterState .slave` starts the timer with `1000 * pow2 logMinDelayReqInterval`. -/
theorem enterState_slave_requestInterval (hmode : rtOpts.E2E_mode = true) (n : Node) :
    (enterState .slave rtOpts n).port.requestInterval =
      i32 (1000 * pow2 n.port.logMinDelayReqInterval) := by
  have hinit := (wrServoInit_keepsRequests n).interval
  unfold enterState
  dsimp only
  rw [if_pos hmode, setPortState_requestInterval, timerStart_delayReq, timerStart_interval]
  simp only [hinit]

/-- `toState` is in `ArmsRequests` for every state but `PTP_UNCALIBRATED` and `PTP_PRE_MASTER`, in
which the port may stay a slave: these enter cases leave `portState` alone, or may. -/
theorem toState_armsRequests {state : PtpState} (huncalibrated : state ≠ .uncalibrated)
    (hpreMaster : state ≠ .preMaster) (n : Node) :
    ArmsRequests rtOpts n (toState state rtOpts n) := by
  unfold toState
  split
  · rfl
  · refine ⟨(enterState_interval _ _ _).trans (leaveState_interval _ _),
      fun hmode hslave => .inr ?_⟩
    rw [enterState_portState rtOpts _ huncalibrated hpreMaster] at hslave
    subst hslave
    rw [enterState_slave_requestInterval hmode, leaveState_interval]

/-- `toState` is in `ArmsRequests` when it does not end in `PTP_SLAVE`. -/
theorem toState_armsRequests_of_ne {state : PtpState} {n : Node}
    (h : (toState state rtOpts n).port.portState ≠ .slave) :
    ArmsRequests rtOpts n (toState state rtOpts n) := by
  refine ⟨?_, fun _ hslave => absurd hslave h⟩
  unfold toState
  split
  · rfl
  · exact (enterState_interval _ _ _).trans (leaveState_interval _ _)

/-! ### The White Rabbit state machine -/

/-- A move of the White Rabbit state machine outside `PTP_SLAVE` learns no interval. -/
theorem WrMove.keepsRequests (h : WrMove rtOpts n n') (hslave : n.port.portState ≠ .slave) :
    KeepsRequests n n' := by
  cases h with
  | handle => exact handle_keepsRequests fun hlearns => hslave hlearns.1.2
  | _ => exact .of_eq rfl rfl rfl

/-- The end of a call is a `toWRState`, and `doWrLinkOn` may enter `PTP_SLAVE` by `toState`. -/
theorem WrEnd.armsRequests (h : WrEnd rtOpts n n') : ArmsRequests rtOpts n n' := by
  have hset (n : Node) (wr : WrPortDS) : KeepsRequests n { n with port.wr := wr } :=
    .of_eq rfl rfl rfl
  cases h with
  | stay => rfl
  | enter => exact (toWRState_keepsRequests rtOpts _ n).arms
  | lock => exact ((toWRState_keepsRequests rtOpts .sLock n).trans (hset _ _)).arms
  | calibrated =>
    have hissue := Issue.run_keepsRequests rtOpts n (.wrSignaling CALIBRATED)
    exact ((hissue.trans (toWRState_keepsRequests _ _ _)).trans (hset _ _)).arms
  | linkOn =>
    have hidle := toWRState_keepsRequests rtOpts .idle n
    unfold doWrLinkOn
    dsimp only
    split
    · exact hidle.arms.trans (toState_armsRequests (by decide) (by decide) _)
    · exact hidle.arms.trans (toState_armsRequests (by decide) (by decide) _)
    · exact hidle.arms

/-- Giving a link set-up up enters `fallbackState`: `PTP_DISABLED`, `PTP_MASTER` or `PTP_SLAVE`. -/
theorem abandon_armsRequests (wrMode : WrMode) (n : Node) :
    ArmsRequests rtOpts n (abandon rtOpts wrMode n) := by
  have hfallback : fallbackState rtOpts wrMode ≠ .uncalibrated ∧
      fallbackState rtOpts wrMode ≠ .preMaster := by
    unfold fallbackState
    split_ifs <;> decide
  have hoff : KeepsRequests n { n with port.wr.wrModeON := false } := .of_eq rfl rfl rfl
  have hidle := hoff.trans (toWRState_keepsRequests rtOpts .idle _)
  have hreset (m : Node) : KeepsRequests m (initWrData .init m) := .of_eq rfl rfl rfl
  unfold abandon
  exact .trans (hidle.arms.trans (toState_armsRequests hfallback.1 hfallback.2 _)) (hreset _).arms

/-- `doWRState` outside `PTP_SLAVE`: the actions of the state, then its time-out. -/
theorem doWRState_armsRequests (hslave : n.port.portState ≠ .slave) :
    ArmsRequests rtOpts n (doWRState rtOpts n) := by
  have hactions : ArmsRequests rtOpts n (wrStateActions rtOpts n) := by
    refine wrStateActions_induction (P := KeepsRequests n) (fun m m' h hmove => h.trans ?_)
      (fun m m' h hend => h.arms.trans hend.armsRequests) (.refl n)
    exact hmove.keepsRequests fun hm => hslave (h.slave hm).1
  have hpolled (n : Node) (s : WrState) : KeepsRequests n (wrTimerPolled s n) := .of_eq rfl rfl rfl
  unfold doWRState
  dsimp only
  refine hactions.trans ?_
  generalize wrStateActions rtOpts n = m
  rcases wrTimerExpired_cases rtOpts m m.port.wr.wrPortState.mainState m.port.wr.wrMode with
    ⟨-, h⟩ | ⟨-, h | h | h⟩ <;> rw [h]
  · exact (hpolled _ _).arms
  · exact ((hpolled _ _).trans (toWRState_keepsRequests _ _ _)).arms
  · exact (hpolled _ _).arms.trans (abandon_armsRequests _ _)

/-! ### The phases of a port -/

/-- Polling the timers of a port has the footprint `keepsInterval`. -/
theorem timers_keepsRequests (h : Handled rtOpts .keepsInterval n n') :
    KeepsRequests n n' := h.keepsRequests id

/-- `announceReceiptTimeoutExpires` enters `PTP_MASTER` or `PTP_LISTENING`. -/
theorem announceReceiptTimeoutExpires_armsRequests (n : Node) :
    ArmsRequests rtOpts n (announceReceiptTimeoutExpires rtOpts n) := by
  have hforget : KeepsRequests n (forgetMasters n) := .of_eq rfl rfl rfl
  have hm1 : KeepsRequests n (m1 (forgetMasters n)) := .of_eq rfl rfl rfl
  rw [announceReceiptTimeoutExpires_eq]
  split
  · exact hm1.arms.trans (toState_armsRequests (by decide) (by decide) _)
  split
  · exact hforget.arms.trans (toState_armsRequests (by decide) (by decide) _)
  · exact hforget.arms

/-- `slaveTimers`: the announce receipt timer, then the timer of the requests. -/
theorem slaveTimers_armsRequests (n : Node) : ArmsRequests rtOpts n (slaveTimers rtOpts n) := by
  have hreceipt : ArmsRequests rtOpts n
      (onTimer .announceReceipt (announceReceiptTimeoutExpires rtOpts) n) := by
    have hpolled : ArmsRequests rtOpts n (n.timerPolled .announceReceipt) :=
      (timerPolled_keepsRequests n .announceReceipt).arms
    unfold onTimer
    split
    · exact hpolled.trans (announceReceiptTimeoutExpires_armsRequests _)
    · exact hpolled
  rw [slaveTimers_eq]
  exact hreceipt.trans (timers_keepsRequests (requestTimer_handled rtOpts _ rfl)).arms

/-- `doStateActions` is in `ArmsRequests` unless the port learns an interval. -/
theorem doStateActions_armsRequests (h : ¬LearnsInterval rtOpts n) :
    ArmsRequests rtOpts n (doStateActions rtOpts n) := by
  have hcleared (n : Node) :
      ArmsRequests rtOpts n { n with port.wr.msgTmpWrMessageID := NULL_WR_TLV } :=
    KeepsRequests.arms (.of_eq rfl rfl rfl)
  have hslaveActions : ArmsRequests rtOpts n (doSlaveActions rtOpts n) :=
    (handle_keepsRequests h).arms.trans (slaveTimers_armsRequests _)
  -- Of the actions of a state only those that enter `PTP_SLAVE` arm the timer.
  unfold doStateActions
  cases hstate : n.port.portState <;> dsimp only
  case faulty => exact toState_armsRequests (by decide) (by decide) _
  case uncalibrated =>
    split
    · exact (doWRState_armsRequests (by rw [hstate]; decide)).trans (hcleared _)
    · exact (toState_armsRequests (by decide) (by decide) _).trans (hcleared _)
  case listening =>
    split
    · have hm1 : KeepsRequests n (m1 n) := .of_eq rfl rfl rfl
      exact hm1.arms.trans (toState_armsRequests (by decide) (by decide) _)
    · exact hslaveActions
  case passive | slave => exact hslaveActions
  case master =>
    split
    · exact (doWRState_armsRequests (by rw [hstate]; decide)).trans (hcleared _)
    · have htimers : ArmsRequests rtOpts n (masterTimers rtOpts (handle rtOpts n)) :=
        ((handle_keepsRequests h).trans
          (timers_keepsRequests (masterTimers_handled rtOpts _ rfl))).arms
      rw [doMasterActions_eq]
      dsimp only
      split
      · exact htimers.trans (toState_armsRequests (by decide) (by decide) _)
      · exact htimers
  case disabled => exact (handle_keepsRequests h).arms
  case initializing | preMaster => rfl

/-- When it learns one, `doStateActions` is `handle` and then `slaveTimers`. -/
theorem doStateActions_learned (h : LearnsInterval rtOpts n) :
    ∃ m, Learned n m ∧ ArmsRequests rtOpts m (doStateActions rtOpts n) := by
  refine ⟨handle rtOpts n, handle_learned h, ?_⟩
  have heq : doStateActions rtOpts n = doSlaveActions rtOpts n := by
    unfold doStateActions
    rw [h.1.2]
  rw [heq]
  exact slaveTimers_armsRequests _

/-- The state decisions that make a port a slave without the enter case of `PTP_SLAVE`: a candidate
that cannot run the link set-up, and a slave whose link set-up shall be run again. -/
def SkipsEnterCase (bestForeign : ForeignMasterRecord) (n : Node) : Prop :=
  let decision := bmc bestForeign (deciding n)
  Decides n ∧ decision.1 = .slave ∧ (n.port.portState ≠ .slave ∧ ¬CanSetUp decision.2.port ∨
    n.port.portState = .slave ∧ n.port.linkUP = true ∧ n.port.wr.wrMode = .wrSlave ∧
      (decision.2.port.wr.parentWrModeON = false ∨ n.port.wr.wrModeON = false))

instance (bestForeign : ForeignMasterRecord) : DecidablePred (SkipsEnterCase bestForeign) :=
  fun n => by
    unfold SkipsEnterCase
    infer_instance

/-- `bmc` writes the data of the parent, the flags of the clock and the role only. -/
theorem bmc_keepsRequests (bestForeign : ForeignMasterRecord) (n : Node) :
    KeepsRequests n (bmc bestForeign n).2 := by
  have hupdate {m : Node} {r : PtpState × Node} (hr : BmcUpdate m r) : KeepsRequests m r.2 := by
    cases hr <;> exact .of_eq rfl rfl rfl
  have hcopy : KeepsRequests n (copyD0 n) := .of_eq rfl rfl rfl
  rcases bmc_update n bestForeign with hr | hr
  · exact hupdate hr
  · exact hcopy.trans (hupdate hr)

/-- `stateDecision` is in `ArmsRequests` unless it `SkipsEnterCase`. -/
theorem stateDecision_armsRequests {bestForeign : ForeignMasterRecord}
    (h : ¬SkipsEnterCase bestForeign n) :
    ArmsRequests rtOpts n (stateDecision rtOpts bestForeign n) := by
  by_cases hdecides : Decides n
  · have hdeciding : KeepsRequests n (deciding n) := .of_eq rfl rfl rfl
    have hkept : ArmsRequests rtOpts n (bmc bestForeign (deciding n)).2 :=
      (hdeciding.trans (bmc_keepsRequests bestForeign _)).arms
    have hdecided := bmc_decided (deciding n) bestForeign
    have hmem := bmc_recommends bestForeign (deciding n)
    have hskips := fun hcase => h ⟨hdecides, hcase⟩
    rw [stateDecision_of rtOpts n bestForeign hdecides]
    refine hkept.trans ?_
    generalize bmc bestForeign (deciding n) = decision at *
    obtain ⟨state, m⟩ := decision
    dsimp only at *
    have hstate : m.port.portState = n.port.portState := hdecided.portState
    have hwr : m.port.wr.wrMode = n.port.wr.wrMode ∧ m.port.wr.wrModeON = n.port.wr.wrModeON ∧
        m.port.wr.wrPortState = n.port.wr.wrPortState := by
      rw [hdecided.wr]
      exact ⟨rfl, rfl, rfl⟩
    have hlink : m.port.linkUP = n.port.linkUP := hdecided.linkUP
    unfold followRecommendation
    rw [hstate, hlink, hwr.1, hwr.2.1]
    split
    next hmoves =>
      split
      next hcandidate =>
        -- A candidate that can run the set-up is no slave yet.
        have hslave : n.port.portState ≠ .slave := hcandidate.1 ▸ hmoves.symm
        have hcan : CanSetUp m.port := by
          by_contra hcannot
          exact hskips ⟨hcandidate.1, .inl ⟨hslave, hcannot⟩⟩
        have hset : KeepsRequests m
            { m with port.wr := { m.port.wr with wrMode := .wrSlave, wrModeON := false } } :=
          .of_eq rfl rfl rfl
        refine hset.arms.trans (toState_armsRequests_of_ne ?_)
        exact ne_of_eq_of_ne (toState_uncalibrated_portState (hwr.2.2.trans hdecides.2.2)
          (by rwa [hstate]) rfl rfl hcan) (by decide)
      next =>
        refine toState_armsRequests ?_ ?_ m <;> rintro rfl <;> exact absurd hmem (by decide)
    next hstays =>
      split
      next hfault =>
        obtain ⟨hup, hslave, hwrSlave, hoff⟩ := hfault
        exact (hskips ⟨(not_not.mp hstays).trans hslave,
          .inr ⟨hslave, hup, hwrSlave, by simpa using hoff⟩⟩).elim
      next => rfl
  · rw [stateDecision_of_not rtOpts n bestForeign hdecides]

end Keeps

/-! ### Runs -/

/-- The timer `.delayReq` runs with the interval of this exponent, which is usable. -/
structure TimesRequests (port : PtpPortDS) (exponent : Int8) : Prop where
  usable : UsableExponent exponent
  interval : port.requestInterval = 1000 * 2 ^ exponent.toInt.toNat
  pos : 0 < port.requestInterval

instance (port : PtpPortDS) : DecidablePred (TimesRequests port) := fun exponent =>
  decidable_of_iff (UsableExponent exponent ∧
      port.requestInterval = 1000 * 2 ^ exponent.toInt.toNat ∧ 0 < port.requestInterval)
    ⟨fun h => ⟨h.1, h.2.1, h.2.2⟩, fun h => ⟨h.usable, h.interval, h.pos⟩⟩

/-- A timer started with a usable exponent has its interval. -/
theorem UsableExponent.times {exponent : Int8} (h : UsableExponent exponent) {port : PtpPortDS}
    (hstarted : port.requestInterval = i32 (1000 * pow2 exponent)) :
    TimesRequests port exponent := by
  rw [h.interval] at hstarted
  exact ⟨h, hstarted, by rw [hstarted]; positivity⟩

/-- The invariant: `logMinDelayReqInterval` is usable, and in `PTP_SLAVE` with end-to-end delays the
timer `.delayReq` runs with the interval of a usable exponent. -/
structure RequestsArmed (rtOpts : RunTimeOpts) (port : PtpPortDS) : Prop where
  usable : UsableExponent port.logMinDelayReqInterval
  armed : rtOpts.E2E_mode = true → port.portState = .slave → ∃ exponent, TimesRequests port exponent

/-- `RequestsArmed` depends on the state and the two intervals only. -/
theorem RequestsArmed.of_eq {rtOpts : RunTimeOpts} {port port' : PtpPortDS}
    (h : RequestsArmed rtOpts port)
    (hinterval : port'.logMinDelayReqInterval = port.logMinDelayReqInterval)
    (hstate : port'.portState = port.portState)
    (htimer : port'.requestInterval = port.requestInterval) : RequestsArmed rtOpts port' := by
  refine ⟨hinterval ▸ h.usable, fun hmode hslave => ?_⟩
  obtain ⟨exponent, htimes⟩ := h.armed hmode (hstate.symm.trans hslave)
  exact ⟨exponent, htimes.usable, htimer.trans htimes.interval, htimer ▸ htimes.pos⟩

/-- What is in `ArmsRequests` keeps `RequestsArmed`. -/
theorem ArmsRequests.requestsArmed {rtOpts : RunTimeOpts} {n n' : Node}
    (h : ArmsRequests rtOpts n n') (hn : RequestsArmed rtOpts n.port) :
    RequestsArmed rtOpts n'.port := by
  refine ⟨h.interval ▸ hn.usable, fun hmode hslave => ?_⟩
  rcases h.armed hmode hslave with ⟨hslave', htimer⟩ | hstarted
  · obtain ⟨exponent, htimes⟩ := hn.armed hmode hslave'
    exact ⟨exponent, htimes.usable, htimer.trans htimes.interval, htimer ▸ htimes.pos⟩
  · exact ⟨_, hn.usable.times hstarted⟩

/-- `doInit` establishes `RequestsArmed`: the interval is `0`, and the port is not in `PTP_SLAVE`.
-/
theorem doInit_requestsArmed (rtOpts : RunTimeOpts) (n : Node) :
    RequestsArmed rtOpts (doInit rtOpts n).port := by
  have hinterval : (doInit rtOpts n).port.logMinDelayReqInterval = 0 := by
    have hinit : (initialized rtOpts n).port.logMinDelayReqInterval = 0 := by
      unfold initialized
      dsimp only
      split <;> split <;> rfl
    have harms : ArmsRequests rtOpts (initialized rtOpts n) (doInit rtOpts n) :=
      toState_armsRequests (by decide) (by decide) _
    exact harms.interval.trans hinit
  refine ⟨by rw [hinterval]; decide, fun _ hslave => ?_⟩
  cases (doInit_portState rtOpts n).symm.trans hslave

/-- The guard of a step: an interval that is learned is usable, and no decision `SkipsEnterCase`. -/
def LearnsUsable (rtOpts : RunTimeOpts) (o : Oracle) (d : Daemon) : Prop :=
  (∀ i, d.phase = .act i → LearnsInterval rtOpts (d.node i o) →
    UsableExponent (received (d.node i o)).port.msgTmpHeader.logMessageInterval) ∧
  ∀ i, d.phase = .decide i → ¬SkipsEnterCase d.bestForeign (d.node i o)

instance (rtOpts : RunTimeOpts) (o : Oracle) : DecidablePred (LearnsUsable rtOpts o) := fun d =>
  match hphase : d.phase with
  | .act i => decidable_of_iff (LearnsInterval rtOpts (d.node i o) →
        UsableExponent (received (d.node i o)).port.msgTmpHeader.logMessageInterval)
      ⟨fun h => ⟨fun j hj => by cases hphase.symm.trans hj; exact h,
        fun j hj => by cases hphase.symm.trans hj⟩, fun h => h.1 i hphase⟩
  | .decide i => decidable_of_iff (¬SkipsEnterCase d.bestForeign (d.node i o))
      ⟨fun h => ⟨fun j hj => (by cases hphase.symm.trans hj),
        fun j hj => by cases hphase.symm.trans hj; exact h⟩, fun h => h.2 i hphase⟩
  | .link _ | .shared =>
    .isTrue ⟨fun j hj => (by cases hphase.symm.trans hj), fun j hj => by cases hphase.symm.trans hj⟩

section Runs

variable {rtOpts : RunTimeOpts} {n : Node} {d : Daemon} {o : Oracle} {i : ℕ}

/-- A port in `PTP_SLAVE` after the link phase was in it before. -/
theorem linked_slave (h : (linked rtOpts n).port.portState = .slave) :
    n.port.portState = .slave := by
  rcases linked_doInit rtOpts n with ⟨-, m, fm, doRestart, heq⟩ | hkept
  · rw [heq] at h
    cases (doInit_portState rtOpts m).symm.trans h
  · obtain ⟨port, hport, heq⟩ := hkept.port
    rw [heq] at h
    rcases hport with rfl | rfl <;> exact h

/-- `RequestsArmed` is an invariant of the phases of a port under the guard `LearnsUsable`. -/
theorem requestsArmed_invariant :
    PortInvariant rtOpts (LearnsUsable rtOpts) (RequestsArmed rtOpts) where
  link {d i o} _ _ hd hready := by
    rcases linked_doInit rtOpts (d.node i o) with ⟨-, m, fm, doRestart, heq⟩ | hkept
    · have hinit := doInit_requestsArmed rtOpts m
      rw [heq]
      generalize doInit rtOpts m = m at hinit ⊢
      exact hinit.of_eq rfl rfl rfl
    · obtain ⟨port, hport, heq⟩ := hkept.port
      rw [heq] at hready ⊢
      rcases hport with rfl | rfl <;> exact (hd hready).of_eq rfl rfl rfl
  decide hphase hguard _ h := (stateDecision_armsRequests (hguard.2 _ hphase)).requestsArmed h
  act {d i o} hphase hguard _ h := by
    by_cases hlearns : LearnsInterval rtOpts (d.node i o)
    · obtain ⟨m, hlearned, harms⟩ := doStateActions_learned hlearns
      have husable := hguard.1 i hphase hlearns
      rw [← hlearned.interval] at husable
      -- The timer still runs with the former interval.
      refine harms.requestsArmed ⟨husable, fun hmode _ => ?_⟩
      obtain ⟨exponent, htimes⟩ := h.armed hmode hlearned.slave.2
      exact ⟨exponent, htimes.usable, hlearned.timer.trans htimes.interval,
        hlearned.timer ▸ htimes.pos⟩
    · exact (doStateActions_armsRequests hlearns).requestsArmed h
  search _ h := h.of_eq rfl rfl rfl

/-- A step under `LearnsUsable` in which a port enters `PTP_SLAVE` starts the timer `.delayReq` with
its `logMinDelayReqInterval`. -/
theorem step_armsRequests (hprepared : Prepared d) (hguard : LearnsUsable rtOpts o d)
    (hmode : rtOpts.E2E_mode = true) (hbefore : (d.ports i).portState ≠ .slave)
    (hafter : ((Daemon.step rtOpts o d).ports i).portState = .slave) :
    (d.ports i).Ready ∧
      ((Daemon.step rtOpts o d).ports i).logMinDelayReqInterval =
        (d.ports i).logMinDelayReqInterval ∧
      ((Daemon.step rtOpts o d).ports i).requestInterval =
        i32 (1000 * pow2 (d.ports i).logMinDelayReqInterval) := by
  -- Only the port that the main loop is at changes its state.
  have hstored {j : ℕ} {n : Node} {phase : Phase} (hready : (d.ports j).Ready)
      (harms : (d.ports j).portState ≠ .slave → ArmsRequests rtOpts (d.node j o) n)
      (hslave : ((d.store j n phase).ports i).portState = .slave) :
      (d.ports i).Ready ∧
        ((d.store j n phase).ports i).logMinDelayReqInterval =
          (d.ports i).logMinDelayReqInterval ∧
        ((d.store j n phase).ports i).requestInterval =
          i32 (1000 * pow2 (d.ports i).logMinDelayReqInterval) := by
    by_cases hij : i = j
    · subst hij
      rw [Daemon.store_ports_self] at hslave ⊢
      refine ⟨hready, (harms hbefore).interval, ?_⟩
      exact ((harms hbefore).armed hmode hslave).resolve_left fun h => hbefore h.1
    · rw [Daemon.store_ports_of_ne _ _ hij] at hslave
      exact absurd hslave hbefore
  cases hphase : d.phase with
  | link j =>
    obtain ⟨phase, heq, -⟩ := Daemon.step_link rtOpts o hphase
    rw [heq] at hafter
    exfalso
    by_cases hij : i = j
    · subst hij
      rw [Daemon.store_ports_self] at hafter
      exact hbefore (linked_slave hafter)
    · rw [Daemon.store_ports_of_ne _ _ hij] at hafter
      exact hbefore hafter
  | decide j =>
    rw [Daemon.step_decide rtOpts o hphase] at hafter ⊢
    exact hstored (hprepared.deciding j (.inl hphase))
      (fun _ => stateDecision_armsRequests (hguard.2 j hphase)) hafter
  | act j =>
    rw [Daemon.step_act rtOpts o hphase] at hafter ⊢
    exact hstored (hprepared.deciding j (.inr hphase))
      (fun hne => doStateActions_armsRequests fun hlearns => hne hlearns.1.2) hafter
  | shared =>
    obtain ⟨tics, extsrcLocked, heq⟩ := Daemon.step_shared rtOpts o hphase
    rw [heq] at hafter
    dsimp only at hafter
    rw [sharedPortsLoop_port d.ports tics extsrcLocked d.clk i] at hafter
    exact absurd hafter hbefore

end Runs

/-- In every run whose frames fit and in which every step satisfies `LearnsUsable`, every port in
`PTP_SLAVE` has its requests timed with a usable interval (`TimesRequests`), and every port that
enters `PTP_SLAVE` with its `logMinDelayReqInterval`. -/
theorem requests_armed_of_guardedRun (rtOpts : RunTimeOpts) {d : Daemon} {o : Oracle}
    (h : GuardedRun (Daemon.Initial rtOpts) (Daemon.step rtOpts)
      (fun o d => LearnsUsable rtOpts o d ∧ Daemon.FramesFit o d) d)
    (hguard : LearnsUsable rtOpts o d ∧ Daemon.FramesFit o d) (hmode : rtOpts.E2E_mode = true)
    (i : ℕ) (hslave : ((Daemon.step rtOpts o d).ports i).portState = .slave) :
    (∃ exponent, TimesRequests ((Daemon.step rtOpts o d).ports i) exponent) ∧
      ((d.ports i).portState ≠ .slave → TimesRequests ((Daemon.step rtOpts o d).ports i)
        ((Daemon.step rtOpts o d).ports i).logMinDelayReqInterval) := by
  replace h := h.mono fun _ _ hguards => hguards.1
  replace hguard := hguard.1
  have hnext := GuardedRun.step o h hguard
  have hready : ((Daemon.step rtOpts o d).ports i).Ready := by
    by_contra hnot
    -- A port that was never initialized is no slave.
    have hunready := (Daemon.Reachable.prepared hnext.reachable).unready i hnot
    rw [hslave] at hunready
    cases hunready
  refine ⟨(requestsArmed_invariant.holds hnext i hready).armed hmode hslave, fun hbefore => ?_⟩
  obtain ⟨hwasReady, hinterval, htimer⟩ :=
    step_armsRequests (Daemon.Reachable.prepared h.reachable) hguard hmode hbefore hslave
  rw [hinterval]
  exact (requestsArmed_invariant.holds h i hwasReady).usable.times htimer

/-! ### A slave that hears its parent's interval -/

section Run

/-- An iteration of a slave-only port at a time, in which it receives a frame or nothing. -/
def slaveIterationAt (tics : UInt64) (frame : Option (List UInt8)) : List Oracle :=
  let reception : Reception :=
    match frame with
    | some data => .frame ![0x01, 0x1b, 0x19, 0, 0, 0] data ⟨0, 0, 0, 1⟩
    | none => .nothing
  List.replicate 4 (Oracle.ready true .wrSlave reception 64 tics)

/-- The answer to the first request of the slave, with an interval for the requests to come. -/
def answerWithInterval (logMessageInterval : UInt8) : List UInt8 :=
  let master := Daemon.singleNode ![2, 0, 0, 0, 0, 2] .wrMaster
  let slave := Daemon.singleNode ![2, 0, 0, 0, 0, 1] .wrSlave
  let clk := { slave.clk with parentPortIdentity := master.port.portIdentity }
  ((answerBuffer .delayReq 0 clk slave.port).set 33 logMessageInterval).octets 54

/-- A slave sends a request and hears the answer. Then it loses its master, hears it again, and is
about to complete the second link set-up. -/
def relearningRun (logMessageInterval : UInt8) : List Oracle :=
  askingRun ++ slaveIterationAt 2000 none ++
    slaveIterationAt 2000 (some (answerWithInterval logMessageInterval)) ++
    slaveIterationAt 20000 none ++
    [some masterAnnounce, none, some (masterFrame LOCK), none, some (masterFrame CALIBRATE),
      some (masterFrame CALIBRATED), none, some (masterFrame WR_MODE_ON)].flatMap
        (slaveIterationAt 20000) ++
    List.replicate 2 (Oracle.ready true .wrSlave .nothing 64 20000)

/-- The state after `relearningRun`. -/
def relearnedState (logMessageInterval : UInt8) : Daemon :=
  runInputs (Daemon.step (defaultRtOpts 1)) (Daemon.single ![2, 0, 0, 0, 0, 1])
    (relearningRun logMessageInterval)

set_option maxRecDepth 100000 in
/-- The answer asks for a request every two seconds, and the port that enters `PTP_SLAVE` again has
its requests timed with them. -/
theorem requests_armed_of_guardedRun_relearnedState :
    let next := Daemon.step (defaultRtOpts 1) (Oracle.ready true .wrSlave .nothing 64 20000)
      (relearnedState 1)
    (next.ports 0).logMinDelayReqInterval = 1 ∧ (next.ports 0).requestInterval = 2000 ∧
      (∃ exponent, TimesRequests (next.ports 0) exponent) ∧
      (((relearnedState 1).ports 0).portState ≠ .slave →
        TimesRequests (next.ports 0) (next.ports 0).logMinDelayReqInterval) :=
  ⟨by decide +kernel, by decide +kernel, requests_armed_of_guardedRun (defaultRtOpts 1)
    (.runInputs (.start (Daemon.single_initial _)) (relearningRun 1) (by decide +kernel))
    (by decide +kernel) rfl 0 (by decide +kernel)⟩

/-! ### A slave that never asks -/

set_option maxRecDepth 100000 in
/-- The slave starts with its requests switched off. -/
theorem relearnedState_off :
    let next := Daemon.step (defaultRtOpts 1) (Oracle.ready true .wrSlave .nothing 64 20000)
      (relearnedState 0xFF)
    ((relearnedState 0xFF).ports 0).portState ≠ .slave ∧ (next.ports 0).portState = .slave ∧
      (next.ports 0).logMinDelayReqInterval = -1 ∧ (next.ports 0).requestInterval = 0 := by
  decide +kernel

/-- A port that becomes a slave may have the timer of its requests stopped. -/
theorem not_forall_requests_armed :
    ¬∀ (rtOpts : RunTimeOpts) (d : Daemon) (o : Oracle), Daemon.Reachable rtOpts d →
      rtOpts.E2E_mode = true → ∀ i, (d.ports i).portState ≠ .slave →
        ((Daemon.step rtOpts o d).ports i).portState = .slave →
        TimesRequests ((Daemon.step rtOpts o d).ports i)
          ((Daemon.step rtOpts o d).ports i).logMinDelayReqInterval := by
  intro h
  obtain ⟨hbefore, hslave, -, hoff⟩ := relearnedState_off
  have htimes :=
    h (defaultRtOpts 1) (relearnedState 0xFF) _ (Daemon.single_reachable _ _) rfl 0 hbefore hslave
  exact absurd htimes.pos (by rw [hoff]; decide)

end Run

end WhiteRabbitPtp
