import WhiteRabbitPtp.Correctness.Reception
import WhiteRabbitPtp.Correctness.Requests

/-!
# Responses to peer delay requests

A port that measures peer delays should store what is in the PDelayResp message that answers its
latest request, and ignore the responses to others. The source has the condition the wrong way round
and compares with the number of the request that is sent next: it refuses the responses that bear
this number, and takes the rest.

## Main definitions

* `PeerTimes`: the data of a port that come from PDelayResp messages.
* `AnswersLatest`: a message answers the latest request of the port.
* `AnswersNext`: a message answers the request that the port will send next.
* `PeerMatched`: the data are stored from such a message, and from no other.

## Main results

* `peerMatched_iff`: the messages that are treated so in a run.
* `not_forall_peerMatched`: the response to another port is taken.
-/

namespace WhiteRabbitPtp

open Octets InputSystem Numbering

/-- The data of a port that come from PDelayResp messages. -/
structure PeerTimes where
  pdelayRespReceiveTime : TimeInternal
  pdelayReqReceiveTime : TimeInternal
  lastPdelayRespCorrectionField : TimeInternal

/-- Those data of a port. -/
def PtpPortDS.peerTimes (port : PtpPortDS) : PeerTimes where
  pdelayRespReceiveTime := port.pdelayRespReceiveTime
  pdelayReqReceiveTime := port.pdelayReqReceiveTime
  lastPdelayRespCorrectionField := port.lastPdelayRespCorrectionField

/-- A node with other data of that kind. -/
def Node.withPeerTimes (n : Node) (former : PeerTimes) : Node :=
  { n with
    port.pdelayRespReceiveTime := former.pdelayRespReceiveTime
    port.pdelayReqReceiveTime := former.pdelayReqReceiveTime
    port.lastPdelayRespCorrectionField := former.lastPdelayRespCorrectionField }

/-- The time at which a response came is stored. -/
def PeerTimes.received (former : PeerTimes) (time : TimeInternal) : PeerTimes :=
  { former with pdelayRespReceiveTime := { former.pdelayRespReceiveTime with
      seconds := time.seconds
      nanoseconds := time.nanoseconds } }

/-- All data of the response in the input buffer are stored. -/
def PeerTimes.stored (former : PeerTimes) (header : MsgHeader) (time : TimeInternal) (n : Node) :
    PeerTimes :=
  let requestReceiptTimestamp :=
    (toLocalTime (msgUnpackPDelayResp n.port.msgIbuf).receiveTimestamp n).1
  let correction := integer64ToInternalTime header.correctionfield ⟨0, 0, 0, 0⟩
  { former.received time with
    pdelayReqReceiveTime := { former.pdelayReqReceiveTime with
      seconds := requestReceiptTimestamp.seconds
      nanoseconds := requestReceiptTimestamp.nanoseconds }
    lastPdelayRespCorrectionField := { former.lastPdelayRespCorrectionField with
      seconds := correction.seconds
      nanoseconds := correction.nanoseconds } }

/-- The response in the input buffer is to a request of this port. -/
def AnswersPort (n : Node) : Prop :=
  (msgUnpackPDelayResp n.port.msgIbuf).requestingPortIdentity = n.port.portIdentity

instance : DecidablePred AnswersPort := fun n => by
  unfold AnswersPort
  infer_instance

/-- The response in the input buffer is to the last of the requests `sent` by this port. -/
def AnswersLatest (sent : List UInt16) (header : MsgHeader) (n : Node) : Prop :=
  AnswersPort n ∧ sent.getLast? = some header.sequenceId

instance (sent : List UInt16) (header : MsgHeader) (n : Node) :
    Decidable (AnswersLatest sent header n) := by
  unfold AnswersLatest
  infer_instance

/-- The response in the input buffer is to the request that this port will send next, which has the
number of the requests `counted` so far. -/
def AnswersNext (counted : List UInt16) (header : MsgHeader) (n : Node) : Prop :=
  AnswersPort n ∧ header.sequenceId = UInt16.ofNat counted.length

instance (counted : List UInt16) (header : MsgHeader) (n : Node) :
    Decidable (AnswersNext counted header n) := by
  unfold AnswersNext
  infer_instance

/-- A response is stored, whatever the data were before, when it is to the latest request, and
otherwise they are left alone. -/
def PeerMatched (rtOpts : RunTimeOpts) (sent : List UInt16) (header : MsgHeader)
    (time : TimeInternal) (length : ℕ) (n : Node) : Prop :=
  ∀ former : PeerTimes,
    (handlePDelayResp header time length false rtOpts (n.withPeerTimes former)).port.peerTimes =
      if AnswersLatest sent header n then former.stored header time n else former

/-! ### What the handler does -/

section Handler

variable {rtOpts : RunTimeOpts} {n : Node} {header : MsgHeader} {time : TimeInternal} {length : ℕ}

/-- `handlePDelayResp` refuses a response to the request that the port will send next, and takes all
others: completely when the sender is a two-step clock, else only the time at which it came. -/
theorem handlePDelayResp_peerTimes (hawaits : RequestKind.pdelayReq.Awaits rtOpts n.port)
    (hlength : PDELAY_RESP_LENGTH ≤ length) (former : PeerTimes) :
    (handlePDelayResp header time length false rtOpts (n.withPeerTimes former)).port.peerTimes =
      if n.port.sentPDelayReqSequenceId = header.sequenceId ∧ AnswersPort n then former
      else if header.flagField 0 &&& 0x02 = TWO_STEP_FLAG then former.stored header time n
      else former.received time := by
  obtain ⟨hmode, hstate⟩ := hawaits
  unfold handlePDelayResp
  rw [hmode, if_neg (by decide), if_neg (not_lt.mpr hlength)]
  have hstate' : (n.withPeerTimes former).port.portState = n.port.portState := rfl
  have hrefuses : ((n.withPeerTimes former).port.sentPDelayReqSequenceId = header.sequenceId ∧
      (msgUnpackPDelayResp (n.withPeerTimes former).port.msgIbuf).requestingPortIdentity =
        (n.withPeerTimes former).port.portIdentity) ↔
      n.port.sentPDelayReqSequenceId = header.sequenceId ∧ AnswersPort n := Iff.rfl
  rw [hstate']
  -- Both states have the same branch in the source.
  rcases hstate with hstate | hstate <;>
    simp only [hstate, Bool.false_eq_true, if_false, hrefuses, ite_not] <;>
    split_ifs <;> rfl

/-- A response is treated as it should be when it is refused and not to the latest request, or when
it is taken, to the latest request and from a two-step clock. -/
theorem peerMatched_of_counted {sent counted : List UInt16}
    (hcounted : Numbered (· + 1) 0 counted n.port.sentPDelayReqSequenceId)
    (hawaits : RequestKind.pdelayReq.Awaits rtOpts n.port) (hlength : PDELAY_RESP_LENGTH ≤ length) :
    PeerMatched rtOpts sent header time length n ↔
      AnswersNext counted header n ∧ ¬AnswersLatest sent header n ∨
        ¬AnswersNext counted header n ∧ AnswersLatest sent header n ∧
          header.flagField 0 &&& 0x02 = TWO_STEP_FLAG := by
  have hnext : (n.port.sentPDelayReqSequenceId = header.sequenceId ∧ AnswersPort n) ↔
      AnswersNext counted header n := by
    rw [counter_eq hcounted, AnswersNext, and_comm, eq_comm]
  -- Data that no response would leave as they are.
  let correction := integer64ToInternalTime header.correctionfield ⟨0, 0, 0, 0⟩
  let stray : PeerTimes :=
    ⟨⟨time.seconds + 1, 0, 0, 0⟩, ⟨0, 0, 0, 0⟩, ⟨correction.seconds + 1, 0, 0, 0⟩⟩
  have hreceived : (stray.received time).pdelayRespReceiveTime.seconds ≠
      stray.pdelayRespReceiveTime.seconds := by
    show time.seconds ≠ time.seconds + 1
    omega
  unfold PeerMatched
  simp only [handlePDelayResp_peerTimes hawaits hlength, hnext]
  by_cases hrefused : AnswersNext counted header n
  · simp only [hrefused, if_true, true_and, not_true_eq_false, false_and, or_false]
    refine ⟨fun h hlatest => hreceived ?_, fun hnot former => (if_neg hnot).symm⟩
    have hstored := h stray
    rw [if_pos hlatest] at hstored
    exact (congrArg (fun times => times.pdelayRespReceiveTime.seconds) hstored).symm
  simp only [hrefused, if_false, false_and, false_or, not_false_eq_true, true_and]
  by_cases hlatest : AnswersLatest sent header n
  · by_cases htwoStep : header.flagField 0 &&& 0x02 = TWO_STEP_FLAG
    · simp [hlatest, htwoStep]
    · simp only [hlatest, htwoStep, if_true, if_false, and_false, iff_false, not_forall]
      -- A one-step clock's correction is not stored.
      refine ⟨stray, fun h => ?_⟩
      have hseconds : correction.seconds + 1 = correction.seconds :=
        congrArg (fun times => times.lastPdelayRespCorrectionField.seconds) h
      omega
  · simp only [hlatest, if_false, false_and, iff_false, not_forall]
    have htime : (if header.flagField 0 &&& 0x02 = TWO_STEP_FLAG then stray.stored header time n
        else stray.received time).pdelayRespReceiveTime =
          (stray.received time).pdelayRespReceiveTime := by
      split <;> rfl
    refine ⟨stray, fun h => hreceived ?_⟩
    rw [← htime, h]

end Handler

/-! ### Runs -/

/-- In every run in which no frame is longer than the input buffer, a response is treated as it
should be exactly when it is to the request that the port will send next, and not to the one that it
has transmitted last, or when it is to the latter, not to the former, and from a two-step clock. -/
theorem peerMatched_iff {rtOpts : RunTimeOpts} {d : Daemon} {os : List Oracle}
    (hrun : d.FittingRun rtOpts os) (i : ℕ) (o : Oracle) (msgIbuf : Buffer) (header : MsgHeader)
    (time : TimeInternal) {length : ℕ} (hlength : PDELAY_RESP_LENGTH ≤ length)
    (hawaits : RequestKind.pdelayReq.Awaits rtOpts
      ((runInputs (Daemon.step rtOpts) d os).ports i)) :
    let sent := d.requests rtOpts i .pdelayReq os
    let counted := d.countedRequests rtOpts i .pdelayReq os
    let n := ((runInputs (Daemon.step rtOpts) d os).node i o).withIbuf msgIbuf
    PeerMatched rtOpts sent header time length n ↔
      AnswersNext counted header n ∧ ¬AnswersLatest sent header n ∨
        ¬AnswersNext counted header n ∧ AnswersLatest sent header n ∧
          header.flagField 0 &&& 0x02 = TWO_STEP_FLAG :=
  peerMatched_of_counted (Daemon.counted_numbered hrun.initial i .pdelayReq os) hawaits hlength

/-- The options of a clock that measures peer delays. -/
def peerRtOpts : RunTimeOpts := { defaultRtOpts 1 with E2E_mode := false }

/-- Such a clock with one port, at the start. -/
def peerClock : Daemon := .initial peerRtOpts (fun _ => ![2, 0, 0, 0, 0, 1]) false 0 default

theorem peerClock_initial : Daemon.Initial peerRtOpts peerClock := ⟨Nat.one_pos, _, _, _, _, rfl⟩

/-- A run after which its port is a master that has sent a request. -/
def peerRun : List Oracle :=
  (linkSetup 64).take 4 ++ List.replicate 4 (Oracle.ready true .wrMaster .nothing 64 20000)

/-- The header of a response from a two-step clock, with a number. -/
def respHeader (sequenceId : UInt16) : MsgHeader :=
  ⟨0, PDELAY_RESP, 2, 54, 0, fun _ => 0x02, ⟨0, 0⟩, ⟨fun _ => 0, 0⟩, sequenceId, 5, 0x7F⟩

/-- What the master works on when a response to it is in its input buffer. -/
def peerNode : Node :=
  let d := runInputs (Daemon.step peerRtOpts) peerClock peerRun
  (d.node 0 (.ready true .wrMaster .nothing 64 20000)).withIbuf
    (putPortIdentity (fun _ => 0) 44 (d.ports 0).portIdentity)

set_option maxRecDepth 100000 in
theorem peerRun_fitting : peerClock.FittingRun peerRtOpts peerRun :=
  ⟨peerClock_initial, by decide +kernel⟩

set_option maxRecDepth 100000 in
theorem peerRun_requests : peerClock.requests peerRtOpts 0 .pdelayReq peerRun = [0] ∧
    peerClock.countedRequests peerRtOpts 0 .pdelayReq peerRun = [0] := by
  decide +kernel

set_option maxRecDepth 100000 in
theorem peerRun_awaits :
    RequestKind.pdelayReq.Awaits peerRtOpts
      ((runInputs (Daemon.step peerRtOpts) peerClock peerRun).ports 0) :=
  ⟨rfl, .inr (by decide +kernel)⟩

set_option maxRecDepth 100000 in
/-- The response to the first request of the port is stored, and one to the next request is
refused. -/
theorem peerMatched_peerRun :
    PeerMatched peerRtOpts (peerClock.requests peerRtOpts 0 .pdelayReq peerRun) (respHeader 0)
        ⟨7, 0, 0, 0⟩ 54 peerNode ∧
      PeerMatched peerRtOpts (peerClock.requests peerRtOpts 0 .pdelayReq peerRun) (respHeader 1)
        ⟨7, 0, 0, 0⟩ 54 peerNode := by
  have hport : AnswersPort peerNode := by decide +kernel
  have hiff (id : UInt16) := peerMatched_iff peerRun_fitting 0
    (.ready true .wrMaster .nothing 64 20000)
    (putPortIdentity (fun _ => 0) 44
      ((runInputs (Daemon.step peerRtOpts) peerClock peerRun).ports 0).portIdentity)
    (respHeader id) ⟨7, 0, 0, 0⟩ (show PDELAY_RESP_LENGTH ≤ 54 by decide) peerRun_awaits
  obtain ⟨hsent, hcounted⟩ := peerRun_requests
  refine ⟨(hiff 0).mpr (.inr ⟨?_, ⟨hport, ?_⟩, rfl⟩), (hiff 1).mpr (.inl ⟨⟨hport, ?_⟩, ?_⟩)⟩
  · rw [hcounted]
    rintro ⟨-, hid⟩
    exact absurd hid (by decide)
  · rw [hsent]
    rfl
  · rw [hcounted]
    rfl
  · rw [hsent]
    rintro ⟨-, hid⟩
    exact absurd hid (by decide)

set_option maxRecDepth 100000 in
/-- A port takes the response to a request of another port. -/
theorem not_forall_peerMatched :
    ¬∀ (rtOpts : RunTimeOpts) (d : Daemon) (os : List Oracle), d.FittingRun rtOpts os →
      ∀ (i : ℕ) (o : Oracle) (msgIbuf : Buffer) (header : MsgHeader) (time : TimeInternal)
        (length : ℕ), PDELAY_RESP_LENGTH ≤ length →
        RequestKind.pdelayReq.Awaits rtOpts ((runInputs (Daemon.step rtOpts) d os).ports i) →
          PeerMatched rtOpts (d.requests rtOpts i .pdelayReq os) header time length
            (((runInputs (Daemon.step rtOpts) d os).node i o).withIbuf msgIbuf) := by
  intro h
  let o := Oracle.ready true .wrMaster .nothing 64 0
  let n := ((runInputs (Daemon.step peerRtOpts) peerClock peerRun).node 0 o).withIbuf fun _ => 0
  have hmatched := h _ _ peerRun peerRun_fitting 0 o (fun _ => 0) (respHeader 0) ⟨7, 0, 0, 0⟩ 54
    (by decide) peerRun_awaits
  -- The response is to port `0` of no clock.
  have hother : ¬AnswersLatest (peerClock.requests peerRtOpts 0 .pdelayReq peerRun)
      (respHeader 0) n := by
    rintro ⟨hport, -⟩
    have hzero : (msgUnpackPDelayResp fun _ => 0).requestingPortIdentity.portNumber =
        n.port.portIdentity.portNumber := congrArg PortIdentity.portNumber hport
    exact absurd hzero (by decide +kernel)
  have hkept := hmatched n.port.peerTimes
  rw [if_neg hother] at hkept
  have hseconds := congrArg (fun times => times.pdelayRespReceiveTime.seconds) hkept
  exact absurd hseconds (by decide +kernel)

end WhiteRabbitPtp
