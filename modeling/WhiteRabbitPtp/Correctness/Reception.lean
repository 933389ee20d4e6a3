import WhiteRabbitPtp.Correctness.Handling

/-!
# What handling a frame depends on

The input buffer keeps the octets of longer frames that were received before. Handling a frame is
compared for two contents of the buffer: it makes no difference unless a decoder reads beyond the
end of the frame.

## Main definitions

* `Node.withIbuf`: the node with another content of the input buffer.
* `SameData`: two nodes have the same data sets but for the input buffer.
* `ReadsBeyond`: a decoder reads octets behind the frame, and what it finds there is used.

## Main results

* `dispatchMsg_withIbuf`: a message is handled alike for two buffers its decoders cannot tell apart.
* `reception_iff`: handling a frame uses only its octets, and it fits, exactly when nothing is read
  beyond its end and it is not longer than the buffer.
* `not_forall_usesFrameOnly`: a frame for which this fails.
-/

namespace WhiteRabbitPtp

open Octets Buffer

/-- The node with another content of the input buffer. -/
def Node.withIbuf (n : Node) (b : Buffer) : Node := { n with port.msgIbuf := b }

/-! ### Functions that do not look at the input buffer -/

section Ignores

variable (rtOpts : RunTimeOpts) (n : Node) (b : Buffer)

/-- The input buffer of `n.withIbuf b` is `b`. -/
@[simp]
theorem withIbuf_msgIbuf : (n.withIbuf b).port.msgIbuf = b := rfl

/-- Giving a node the input buffer that it has changes nothing. -/
@[simp]
theorem withIbuf_self : n.withIbuf n.port.msgIbuf = n := rfl

/-- Of two exchanges of the input buffer the second one counts. -/
@[simp]
theorem withIbuf_withIbuf (b' : Buffer) : (n.withIbuf b).withIbuf b' = n.withIbuf b' := rfl

/-- An exchange of the input buffer in both branches of a test is one exchange after it. -/
theorem ite_withIbuf {p : Prop} [Decidable p] (n n' : Node) :
    (if p then n.withIbuf b else n'.withIbuf b) = (if p then n else n').withIbuf b :=
  (apply_ite (fun n : Node => n.withIbuf b) p n n').symm

/-- Two functions agree when their branches do. -/
theorem ite_eq_withIbuf {p : Prop} [Decidable p] {x y x' y' : Node} {b : Buffer}
    (hthen : p → x = x'.withIbuf b) (helse : ¬p → y = y'.withIbuf b) :
    (if p then x else y) = (if p then x' else y').withIbuf b := by
  split
  next h => exact hthen h
  next h => exact helse h

/-- `leaveState` neither reads nor writes the input buffer. -/
theorem leaveState_withIbuf :
    leaveState rtOpts (n.withIbuf b) = (leaveState rtOpts n).withIbuf b := by
  have hstate : (n.withIbuf b).port.portState = n.port.portState := rfl
  rw [leaveState, leaveState, hstate]
  cases n.port.portState
  case slave =>
    dsimp only
    split <;> rfl
  all_goals rfl

/-- `toFaulty` neither reads nor writes the input buffer. -/
theorem toFaulty_withIbuf : toFaulty rtOpts (n.withIbuf b) = (toFaulty rtOpts n).withIbuf b := by
  rw [toFaulty, toFaulty, leaveState_withIbuf]
  exact ite_withIbuf b n { leaveState rtOpts n with port.portState := .faulty }

/-- Sending a message, for functions that keep the reported values without looking at the buffer. -/
theorem issueMsg_withIbuf (buf : Buffer) (length : ℕ)
    (record : SendResult → PtpPortDS → PtpPortDS) (sent : PtpPortDS → PtpPortDS)
    (hrecord : ∀ r (p : PtpPortDS), record r { p with msgIbuf := b } =
      { record r p with msgIbuf := b })
    (hsent : ∀ p : PtpPortDS, sent { p with msgIbuf := b } = { sent p with msgIbuf := b }) :
    issueMsg rtOpts buf length record sent (n.withIbuf b) =
      (issueMsg rtOpts buf length record sent n).withIbuf b := by
  -- What the transmission reports does not depend on the input buffer.
  let result : SendResult := n.answer .sendto
  let packed : Node := ({ n with port.msgObuf := buf } : Node).sendto length
  let recorded : Node := { packed with port := record result packed.port }
  have hrecorded :
      ({ packed.withIbuf b with port := record result (packed.withIbuf b).port } : Node) =
      recorded.withIbuf b :=
    congrArg (fun p => { packed with port := p }) (hrecord result packed.port)
  have hcounted : ({ recorded.withIbuf b with port := sent (recorded.withIbuf b).port } : Node) =
      Node.withIbuf { recorded with port := sent recorded.port } b :=
    congrArg (fun p => { recorded with port := p }) (hsent recorded.port)
  calc issueMsg rtOpts buf length record sent (n.withIbuf b)
      = (let m : Node := { packed.withIbuf b with port := record result (packed.withIbuf b).port }
         if result.ret = 0 then toFaulty rtOpts m else { m with port := sent m.port }) := rfl
    _ = (if result.ret = 0 then toFaulty rtOpts (recorded.withIbuf b)
         else { recorded.withIbuf b with port := sent (recorded.withIbuf b).port }) := by
        rw [hrecorded]
    _ = (if result.ret = 0 then toFaulty rtOpts recorded
         else { recorded with port := sent recorded.port }).withIbuf b := by
        rw [toFaulty_withIbuf, hcounted, ite_withIbuf]

/-- `issueDelayReq` neither reads nor writes the input buffer. -/
theorem issueDelayReq_withIbuf :
    issueDelayReq rtOpts (n.withIbuf b) = (issueDelayReq rtOpts n).withIbuf b :=
  issueMsg_withIbuf rtOpts n b _ _ _ _ (fun _ _ => rfl) fun _ => rfl

/-- `issueDelayResp` takes what it answers from `header`, not from the input buffer. -/
theorem issueDelayResp_withIbuf (header : MsgHeader) :
    issueDelayResp header rtOpts (n.withIbuf b) = (issueDelayResp header rtOpts n).withIbuf b :=
  issueMsg_withIbuf rtOpts n b _ _ _ _ (fun _ _ => rfl) fun _ => rfl

/-- `issuePDelayResp` takes what it answers from `header`, not from the input buffer. -/
theorem issuePDelayResp_withIbuf (header : MsgHeader) :
    issuePDelayResp header rtOpts (n.withIbuf b) = (issuePDelayResp header rtOpts n).withIbuf b :=
  issueMsg_withIbuf rtOpts n b _ _ _ _ (fun _ _ => rfl) fun _ => rfl

/-- `issuePDelayRespFollowUp` takes what it answers from `header`, not from the input buffer. -/
theorem issuePDelayRespFollowUp_withIbuf (header : MsgHeader) :
    issuePDelayRespFollowUp header rtOpts (n.withIbuf b) =
      (issuePDelayRespFollowUp header rtOpts n).withIbuf b :=
  issueMsg_withIbuf rtOpts n b _ _ _ _ (fun _ _ => rfl) fun _ => rfl

/-- `issueWRSignalingMsg` neither reads nor writes the input buffer. -/
theorem issueWRSignalingMsg_withIbuf (wrMessageID : UInt16) :
    issueWRSignalingMsg wrMessageID rtOpts (n.withIbuf b) =
      (issueWRSignalingMsg wrMessageID rtOpts n).withIbuf b := by
  have hpack : msgPackWRSignalingMsg n.port.msgObuf n.clk (n.withIbuf b).port wrMessageID =
      msgPackWRSignalingMsg n.port.msgObuf n.clk n.port wrMessageID := rfl
  exact issueMsg_withIbuf rtOpts n b
    (msgPackWRSignalingMsg n.port.msgObuf n.clk n.port wrMessageID).1
    _ (fun _ p => p) id (fun _ _ => rfl) fun _ => rfl

/-- `servoStep` works on the servo of the port and leaves its input buffer alone. -/
theorem servoStep_withIbuf (hw : WrTimestamp) (tics : UInt64) :
    servoStep (n.withIbuf b) hw tics = (servoStep n hw tics).withIbuf b := by
  have hservo : (n.withIbuf b).port.servo = n.port.servo := rfl
  have hstatics : (n.withIbuf b).statics = n.statics := rfl
  have hanswer : (n.withIbuf b).answer .adjustInProgress = n.answer .adjustInProgress := rfl
  cases hstate : n.port.servo.state <;> simp only [servoStep, hservo, hanswer, hstate]
  case waitOffsetStable =>
    -- Whether the servo gives up depends on what the first test did to `missedIters`.
    split_ifs <;> rfl
  case trackPhase => split_ifs <;> first | rfl | contradiction
  all_goals first | rfl | split_ifs <;> rfl

/-- `wrServoUpdate` neither reads nor writes the input buffer, whether it steps the servo or not. -/
theorem wrServoUpdate_withIbuf : wrServoUpdate (n.withIbuf b) = (wrServoUpdate n).withIbuf b := by
  have hservo : (n.withIbuf b).port.servo = n.port.servo := rfl
  have hstatics : (n.withIbuf b).statics = n.statics := rfl
  simp only [wrServoUpdate, hservo, hstatics]
  split
  · rfl
  split
  · rfl
  rw [← servoStep_withIbuf]
  refine congrArg (servoStep · _ _) ?_
  rw [← ite_withIbuf]
  rfl

/-! The transitions of the White Rabbit state machine. -/

/-- `initWrData` neither reads nor writes the input buffer. -/
theorem initWrData_withIbuf (mode : InitMode) :
    initWrData mode (n.withIbuf b) = (initWrData mode n).withIbuf b := by
  cases mode <;> rfl

/-- `wrTimetoutManage` neither reads nor writes the input buffer. -/
theorem wrTimetoutManage_withIbuf (s s' : WrState) :
    wrTimetoutManage s s' (n.withIbuf b) = (wrTimetoutManage s s' n).withIbuf b := by
  simp only [wrTimetoutManage]
  split_ifs <;> rfl

/-- A master's entry into `WRS_M_LOCK` neither reads nor writes the input buffer. -/
theorem toWRState_mLock_withIbuf :
    toWRState .mLock rtOpts (n.withIbuf b) = (toWRState .mLock rtOpts n).withIbuf b := by
  have hlock : ∀ n : Node, enterWRState .mLock rtOpts (n.withIbuf b) =
      (enterWRState .mLock rtOpts n).withIbuf b := fun n => by
    simp only [enterWRState, issueWRSignalingMsg_withIbuf]
    rfl
  have hinit : (if (n.withIbuf b).port.wr.wrPortState = .idle then
        initWrData .reInit (n.withIbuf b) else n.withIbuf b) =
      (if n.port.wr.wrPortState = .idle then initWrData .reInit n else n).withIbuf b := by
    rw [initWrData_withIbuf]
    exact ite_withIbuf b _ _
  rw [toWRState, hinit, hlock, wrTimetoutManage_withIbuf]
  rfl

end Ignores

/-! ### Handlers -/

section Handlers

variable (rtOpts : RunTimeOpts) (n : Node) (b : Buffer) (header : MsgHeader) (length : ℕ)
  (isFromSelf : Bool)

/-- Adding a foreign master, when the decoders cannot tell the two buffers apart. -/
theorem addForeign_withIbuf (port : PtpPortDS)
    (hheader : msgUnpackHeader b = msgUnpackHeader port.msgIbuf)
    (hannounce : ∀ former, msgUnpackAnnounce b former = msgUnpackAnnounce port.msgIbuf former) :
    addForeign header { port with msgIbuf := b } =
      { addForeign header port with msgIbuf := b } := by
  simp only [addForeign, hheader, hannounce]
  split <;> rfl

/-- What a port with a parent does with an Announce message of another port. -/
def slaveHandleAnnounce (header : MsgHeader) (n : Node) : Node :=
  let n := { n with port.fm.recordUpdate := true }
  if msgIsFromCurrentParent header n.clk then
    let buf := n.port.msgIbuf
    let best := n.port.fm.foreignRecordBest
    let record := n.port.fm.foreign best
    restartAnnounceReceipt { n with
      port.msgTmpAnnounce := msgUnpackAnnounce buf n.port.msgTmpAnnounce
      port.fm.foreign := Function.update n.port.fm.foreign best { record with
        header := msgUnpackHeader buf
        announce := msgUnpackAnnounce buf record.announce } }
  else restartAnnounceReceipt { n with port := addForeign header n.port }

/-- What a port without a parent does with an Announce message of another port. -/
def otherHandleAnnounce (header : MsgHeader) (n : Node) : Node :=
  { n with port := { addForeign header n.port with
      fm := { (addForeign header n.port).fm with recordUpdate := true } } }

variable {n b} in
/-- A slave stores the same records from two input buffers whose headers and Announce bodies unpack
alike. -/
theorem slaveHandleAnnounce_withIbuf
    (hheader : msgUnpackHeader b = msgUnpackHeader n.port.msgIbuf)
    (hannounce : ∀ former, msgUnpackAnnounce b former = msgUnpackAnnounce n.port.msgIbuf former) :
    slaveHandleAnnounce header (n.withIbuf b) = (slaveHandleAnnounce header n).withIbuf b := by
  have hadd :=
    addForeign_withIbuf b header { n.port with fm.recordUpdate := true } hheader hannounce
  have hclk : (n.withIbuf b).clk = n.clk := rfl
  simp only [slaveHandleAnnounce, hclk, withIbuf_msgIbuf, hheader, hannounce]
  split
  · rfl
  · exact congrArg (fun p => restartAnnounceReceipt { n with port := p }) hadd

variable {n b} in
/-- Outside `PTP_SLAVE` an Announce is stored alike from two input buffers whose headers and
Announce bodies unpack alike. -/
theorem otherHandleAnnounce_withIbuf
    (hheader : msgUnpackHeader b = msgUnpackHeader n.port.msgIbuf)
    (hannounce : ∀ former, msgUnpackAnnounce b former = msgUnpackAnnounce n.port.msgIbuf former) :
    otherHandleAnnounce header (n.withIbuf b) = (otherHandleAnnounce header n).withIbuf b :=
  congrArg (fun p : PtpPortDS => ({ n with port := { p with fm.recordUpdate := true } } : Node))
    (addForeign_withIbuf b header n.port hheader hannounce)

/-- The states in which a port takes Announce messages of other ports. -/
def PtpState.takesAnnounce : PtpState → Bool
  | initializing | faulty | disabled => false
  | _ => true

/-- An Announce message of another port that is taken. -/
theorem handleAnnounce_taken (hlength : ANNOUNCE_LENGTH ≤ length)
    (hstate : n.port.portState.takesAnnounce) :
    (∀ b, handleAnnounce header length false rtOpts (n.withIbuf b) =
        slaveHandleAnnounce header (n.withIbuf b)) ∨
      ∀ b, handleAnnounce header length false rtOpts (n.withIbuf b) =
        otherHandleAnnounce header (n.withIbuf b) := by
  have hport : ∀ b, (n.withIbuf b).port.portState = n.port.portState := fun _ => rfl
  cases hcase : n.port.portState <;> rw [hcase] at hstate
  case initializing => exact absurd hstate (by decide)
  case faulty => exact absurd hstate (by decide)
  case disabled => exact absurd hstate (by decide)
  case uncalibrated | slave =>
    refine .inl fun b => ?_
    rw [handleAnnounce, if_neg (not_lt.mpr hlength), hport, hcase]
    rfl
  case listening | preMaster | master | passive =>
    refine .inr fun b => ?_
    rw [handleAnnounce, if_neg (not_lt.mpr hlength), hport, hcase]
    rfl

variable {n b} in
/-- `handleAnnounce` depends on the input buffer through the header and, for a message that is long
enough, not the port's own and taken in the port's state, through the Announce body. -/
theorem handleAnnounce_withIbuf
    (hheader : msgUnpackHeader b = msgUnpackHeader n.port.msgIbuf)
    (hannounce : ANNOUNCE_LENGTH ≤ length → isFromSelf = false → n.port.portState.takesAnnounce →
      ∀ former, msgUnpackAnnounce b former = msgUnpackAnnounce n.port.msgIbuf former) :
    handleAnnounce header length isFromSelf rtOpts (n.withIbuf b) =
      (handleAnnounce header length isFromSelf rtOpts n).withIbuf b := by
  have hstate : (n.withIbuf b).port.portState = n.port.portState := rfl
  rw [handleAnnounce, handleAnnounce, toFaulty_withIbuf, hstate]
  by_cases hlength : length < ANNOUNCE_LENGTH
  · rw [if_pos hlength, if_pos hlength]
  · rw [if_neg hlength, if_neg hlength]
    -- Only a message of another port is decoded, in the states that take it.
    have hslave : isFromSelf = false → n.port.portState.takesAnnounce → _ := fun hself htakes =>
      slaveHandleAnnounce_withIbuf header hheader (hannounce (not_lt.mp hlength) hself htakes)
    have hother : isFromSelf = false → n.port.portState.takesAnnounce → _ := fun hself htakes =>
      otherHandleAnnounce_withIbuf header hheader (hannounce (not_lt.mp hlength) hself htakes)
    cases hport : n.port.portState <;> cases isFromSelf
    case uncalibrated.false => exact hslave rfl (by rw [hport]; rfl)
    case slave.false => exact hslave rfl (by rw [hport]; rfl)
    case listening.false => exact hother rfl (by rw [hport]; rfl)
    case preMaster.false => exact hother rfl (by rw [hport]; rfl)
    case master.false => exact hother rfl (by rw [hport]; rfl)
    case passive.false => exact hother rfl (by rw [hport]; rfl)
    all_goals rfl

/-- A slave takes a Sync by its header alone. -/
theorem slaveHandleSync_withIbuf : slaveHandleSync header isFromSelf (n.withIbuf b) =
    (slaveHandleSync header isFromSelf n).withIbuf b := by
  have hclk : (n.withIbuf b).clk = n.clk := rfl
  simp only [slaveHandleSync, hclk]
  split_ifs <;> rfl

/-- `handleSync` reads the header that was unpacked before, not the input buffer. -/
theorem handleSync_withIbuf : handleSync header length isFromSelf rtOpts (n.withIbuf b) =
    (handleSync header length isFromSelf rtOpts n).withIbuf b := by
  have hstate : (n.withIbuf b).port.portState = n.port.portState := rfl
  have hwr : (n.withIbuf b).port.wr = n.port.wr := rfl
  rw [handleSync, handleSync, toFaulty_withIbuf, hstate, hwr, slaveHandleSync_withIbuf]
  by_cases hlength : length < SYNC_LENGTH
  · rw [if_pos hlength, if_pos hlength]
  · rw [if_neg hlength, if_neg hlength]
    cases n.port.portState
    case uncalibrated => exact ite_withIbuf b _ _
    all_goals rfl

variable {n b} in
/-- A slave takes a FollowUp alike from two input buffers in which it finds the same time. -/
theorem slaveHandleFollowUp_withIbuf
    (htime : msgUnpackFollowUp b = msgUnpackFollowUp n.port.msgIbuf) :
    slaveHandleFollowUp header rtOpts (n.withIbuf b) =
      (slaveHandleFollowUp header rtOpts n).withIbuf b := by
  have hclk : (n.withIbuf b).clk = n.clk := rfl
  have hwaiting : (n.withIbuf b).port.waitingForFollow = n.port.waitingForFollow := rfl
  have hsequence : (n.withIbuf b).port.recvSyncSequenceId = n.port.recvSyncSequenceId := rfl
  simp only [slaveHandleFollowUp, hclk, hwaiting, hsequence, toLocalTime, withIbuf_msgIbuf, htime]
  split
  · rw [← issueDelayReq_withIbuf]
    rfl
  · rfl

variable {n b} in
/-- `handleFollowUp` depends on the input buffer through the time of a message of at least
`FOLLOW_UP_LENGTH` octets. -/
theorem handleFollowUp_withIbuf
    (htime : FOLLOW_UP_LENGTH ≤ length →
      msgUnpackFollowUp b = msgUnpackFollowUp n.port.msgIbuf) :
    handleFollowUp header length isFromSelf rtOpts (n.withIbuf b) =
      (handleFollowUp header length isFromSelf rtOpts n).withIbuf b := by
  have hstate : (n.withIbuf b).port.portState = n.port.portState := rfl
  have hwr : (n.withIbuf b).port.wr = n.port.wr := rfl
  rw [handleFollowUp, handleFollowUp, toFaulty_withIbuf, hstate, hwr]
  by_cases hlength : length < FOLLOW_UP_LENGTH
  · rw [if_pos hlength, if_pos hlength]
  · have hslave := slaveHandleFollowUp_withIbuf rtOpts header (htime (not_lt.mp hlength))
    rw [if_neg hlength, if_neg hlength, hslave]
    cases isFromSelf
    · cases n.port.portState
      case uncalibrated => exact ite_withIbuf b _ _
      all_goals rfl
    · rfl

variable {n b} in
/-- `handleDelayReq` unpacks the header a second time and reads nothing else of the input buffer. -/
theorem handleDelayReq_withIbuf
    (hheader : msgUnpackHeader b = msgUnpackHeader n.port.msgIbuf) :
    handleDelayReq length rtOpts (n.withIbuf b) = (handleDelayReq length rtOpts n).withIbuf b := by
  have hstate : (n.withIbuf b).port.portState = n.port.portState := rfl
  have hts : (n.withIbuf b).port.currentRxTs = n.port.currentRxTs := rfl
  simp only [handleDelayReq, toFaulty_withIbuf, hstate, hts, withIbuf_msgIbuf, hheader]
  split
  · rfl
  split
  · rfl
  cases n.port.portState
  case master =>
    dsimp only
    rw [← issueDelayResp_withIbuf]
    rfl
  all_goals rfl

variable {n b} in
/-- `handleDelayResp` depends on the input buffer through the body of a message of at least
`DELAY_RESP_LENGTH` octets. -/
theorem handleDelayResp_withIbuf
    (hresp : DELAY_RESP_LENGTH ≤ length →
      msgUnpackDelayResp b = msgUnpackDelayResp n.port.msgIbuf) :
    handleDelayResp header length rtOpts (n.withIbuf b) =
      (handleDelayResp header length rtOpts n).withIbuf b := by
  have hstate : (n.withIbuf b).port.portState = n.port.portState := rfl
  rw [handleDelayResp, handleDelayResp, toFaulty_withIbuf, hstate]
  by_cases hlength : length < DELAY_RESP_LENGTH
  · rw [if_pos hlength, if_pos hlength]
    split <;> rfl
  · rw [if_neg hlength, if_neg hlength]
    split
    · rfl
    cases n.port.portState
    case slave =>
      have hclk : (n.withIbuf b).clk = n.clk := rfl
      have hidentity : (n.withIbuf b).port.portIdentity = n.port.portIdentity := rfl
      have hsequence : (n.withIbuf b).port.sentDelayReqSequenceId = n.port.sentDelayReqSequenceId :=
        rfl
      -- The interval is stored after the servo has run, so it is moved out of the way first.
      have hinterval : ∀ m : Node,
          Node.withIbuf { m with port.logMinDelayReqInterval := header.logMessageInterval } b =
            { m.withIbuf b with port.logMinDelayReqInterval := header.logMessageInterval } :=
        fun _ => rfl
      simp only [hclk, hidentity, hsequence, toLocalTime, withIbuf_msgIbuf,
        hresp (not_lt.mp hlength)]
      split
      · rw [hinterval, ← wrServoUpdate_withIbuf]
        rfl
      · rfl
    all_goals rfl

variable {n b} in
/-- `handlePDelayReq` unpacks the header a second time and reads no more of the input buffer. -/
theorem handlePDelayReq_withIbuf (time : TimeInternal)
    (hheader : msgUnpackHeader b = msgUnpackHeader n.port.msgIbuf) :
    handlePDelayReq header length time isFromSelf rtOpts (n.withIbuf b) =
      (handlePDelayReq header length time isFromSelf rtOpts n).withIbuf b := by
  have hstate : (n.withIbuf b).port.portState = n.port.portState := rfl
  -- The request is decoded once more, into the header that the answer is made of.
  have hrequest : issuePDelayResp header rtOpts
      { n.withIbuf b with port.pdelayReqHeader := msgUnpackHeader b } =
        (issuePDelayResp header rtOpts
          { n with port.pdelayReqHeader := msgUnpackHeader n.port.msgIbuf }).withIbuf b := by
    rw [← issuePDelayResp_withIbuf, hheader]
    rfl
  rw [handlePDelayReq, handlePDelayReq, toFaulty_withIbuf, hstate, withIbuf_msgIbuf, hrequest]
  split
  · rfl
  split
  · rfl
  cases n.port.portState <;> cases isFromSelf <;> rfl

variable {n b} in
/-- `handlePDelayResp` depends on the input buffer through the body of a message of at least
`PDELAY_RESP_LENGTH` octets. -/
theorem handlePDelayResp_withIbuf (time : TimeInternal)
    (hpresp : PDELAY_RESP_LENGTH ≤ length →
      msgUnpackPDelayResp b = msgUnpackPDelayResp n.port.msgIbuf) :
    handlePDelayResp header time length isFromSelf rtOpts (n.withIbuf b) =
      (handlePDelayResp header time length isFromSelf rtOpts n).withIbuf b := by
  have hstate : (n.withIbuf b).port.portState = n.port.portState := rfl
  have hheader : (n.withIbuf b).port.pdelayReqHeader = n.port.pdelayReqHeader := rfl
  have hsequence : (n.withIbuf b).port.sentPDelayReqSequenceId = n.port.sentPDelayReqSequenceId :=
    rfl
  have hidentity : (n.withIbuf b).port.portIdentity = n.port.portIdentity := rfl
  rw [handlePDelayResp, handlePDelayResp, toFaulty_withIbuf, hstate, hheader]
  by_cases hlength : length < PDELAY_RESP_LENGTH
  · rw [if_pos hlength, if_pos hlength]
    split <;> rfl
  · rw [if_neg hlength, if_neg hlength, issuePDelayRespFollowUp_withIbuf]
    split
    · rfl
    cases n.port.portState
    case slave =>
      simp only [hsequence, hidentity, toLocalTime, withIbuf_msgIbuf, hpresp (not_lt.mp hlength)]
      split_ifs <;> rfl
    case master =>
      simp only [hsequence, hidentity, toLocalTime, withIbuf_msgIbuf, hpresp (not_lt.mp hlength)]
      split_ifs <;> rfl
    all_goals rfl

variable {n b} in
/-- `handlePDelayRespFollowUp` depends on the input buffer through the body of a message of at least
`PDELAY_RESP_FOLLOW_UP_LENGTH` octets. -/
theorem handlePDelayRespFollowUp_withIbuf
    (hpresp : PDELAY_RESP_FOLLOW_UP_LENGTH ≤ length →
      msgUnpackPDelayRespFollowUp b = msgUnpackPDelayRespFollowUp n.port.msgIbuf) :
    handlePDelayRespFollowUp header length rtOpts (n.withIbuf b) =
      (handlePDelayRespFollowUp header length rtOpts n).withIbuf b := by
  have hstate : (n.withIbuf b).port.portState = n.port.portState := rfl
  have hsequence : (n.withIbuf b).port.sentPDelayReqSequenceId = n.port.sentPDelayReqSequenceId :=
    rfl
  rw [handlePDelayRespFollowUp, handlePDelayRespFollowUp, toFaulty_withIbuf, hstate]
  by_cases hlength : length < PDELAY_RESP_FOLLOW_UP_LENGTH
  · rw [if_pos hlength, if_pos hlength]
    split <;> rfl
  · rw [if_neg hlength, if_neg hlength]
    split
    · rfl
    cases n.port.portState
    case slave =>
      simp only [hsequence, toLocalTime, withIbuf_msgIbuf, hpresp (not_lt.mp hlength)]
      split <;> rfl
    case master =>
      simp only [hsequence, toLocalTime, withIbuf_msgIbuf, hpresp (not_lt.mp hlength)]
      split <;> rfl
    all_goals rfl

variable {n b} in
/-- `handleSignaling` depends on the input buffer through the message that `msgUnpackWRSignalingMsg`
finds in it. -/
theorem handleSignaling_withIbuf
    (hsignaling : isFromSelf = false →
      ∀ wr, (msgUnpackWRSignalingMsg b wr).2 = (msgUnpackWRSignalingMsg n.port.msgIbuf wr).2) :
    handleSignaling isFromSelf rtOpts (n.withIbuf b) =
      (handleSignaling isFromSelf rtOpts n).withIbuf b := by
  cases isFromSelf
  · have hsignaled : signaled (n.withIbuf b) = (signaled n).withIbuf b := by
      simp only [signaled, withIbuf_msgIbuf, hsignaling rfl]
      rfl
    have hmaster : asWrMaster ((signaled n).withIbuf b) = (asWrMaster (signaled n)).withIbuf b :=
      rfl
    rw [handleSignaling_eq, handleSignaling_eq, hsignaled, hmaster, toWRState_mLock_withIbuf]
    exact ite_withIbuf b _ _
  · rfl

end Handlers

/-! ### What the decoders read -/

section Decoders

variable {b b' : Buffer} {off : ℕ}

/-- `getTimestamp` reads the ten octets from `off` on. -/
theorem getTimestamp_congr (h : ∀ i, off ≤ i → i < off + 10 → b i = b' i) :
    getTimestamp b off = getTimestamp b' off := by
  have hmsb : b.getBe16 off = b'.getBe16 off := getBe16_congr fun i _ _ => h i (by omega) (by omega)
  have hlsb : b.getBe32 (off + 2) = b'.getBe32 (off + 2) :=
    getBe32_congr fun i _ _ => h i (by omega) (by omega)
  have hnsec : b.getBe32 (off + 6) = b'.getBe32 (off + 6) :=
    getBe32_congr fun i _ _ => h i (by omega) (by omega)
  rw [getTimestamp, getTimestamp, hmsb, hlsb, hnsec]

/-- `getPortIdentity` reads the ten octets from `off` on. -/
theorem getPortIdentity_congr (h : ∀ i, off ≤ i → i < off + 10 → b i = b' i) :
    getPortIdentity b off = getPortIdentity b' off := by
  have hclock : b.read off 8 = b'.read off 8 := read_congr fun i _ _ => h i (by omega) (by omega)
  have hport : b.getBe16 (off + 8) = b'.getBe16 (off + 8) :=
    getBe16_congr fun i _ _ => h i (by omega) (by omega)
  rw [getPortIdentity, getPortIdentity, hclock, hport]

/-- The header lies in the first octets. -/
theorem msgUnpackHeader_congr (h : ∀ i < HEADER_LENGTH, b i = b' i) :
    msgUnpackHeader b = msgUnpackHeader b' := by
  have hlt : ∀ i, i < 34 → b i = b' i := h
  have hlength : b.getBe16 2 = b'.getBe16 2 := getBe16_congr fun i _ _ => hlt i (by omega)
  have hflags : b.read 6 2 = b'.read 6 2 := read_congr fun i _ _ => hlt i (by omega)
  have hmsb : b.getBe32 8 = b'.getBe32 8 := getBe32_congr fun i _ _ => hlt i (by omega)
  have hlsb : b.getBe32 12 = b'.getBe32 12 := getBe32_congr fun i _ _ => hlt i (by omega)
  have hidentity : getPortIdentity b 20 = getPortIdentity b' 20 :=
    getPortIdentity_congr fun i _ _ => hlt i (by omega)
  have hsequence : b.getBe16 30 = b'.getBe16 30 := getBe16_congr fun i _ _ => hlt i (by omega)
  simp only [msgUnpackHeader, hlength, hflags, hmsb, hlsb, hidentity, hsequence, hlt 0 (by omega),
    hlt 1 (by omega), hlt 4 (by omega), hlt 32 (by omega), hlt 33 (by omega)]

/-- The octets a White Rabbit TLV is recognized by. -/
def wrTlvOctets (off : ℕ) : List (ℕ × UInt8) :=
  [(off, 0x00), (off + 1, 0x03), (off + 4, 0x08), (off + 5, 0x00), (off + 6, 0x30), (off + 7, 0xDE),
    (off + 8, 0xAD), (off + 9, 0x01)]

/-- The octets the suffix of an Announce message is recognized by. -/
def wrSuffixOctets : List (ℕ × UInt8) := wrTlvOctets 64 ++ [(74, 0x20), (75, 0x00)]

/-- `isWrTlv` compares the octets of `wrTlvOctets`, and no others. -/
theorem isWrTlv_iff_octets (b : Buffer) (off : ℕ) :
    isWrTlv b off = true ↔ ∀ p ∈ wrTlvOctets off, b p.1 = p.2 := by
  simp [isWrTlv_iff, wrTlvOctets, and_assoc]

/-- An Announce has the White Rabbit suffix when its own length field says that there is one and the
octets of `wrSuffixOctets` are there. -/
theorem hasWrSuffix_iff_octets (b : Buffer) : HasWrSuffix b ↔
    ANNOUNCE_LENGTH < (b.getBe16 2).toNat ∧ ∀ p ∈ wrSuffixOctets, b p.1 = p.2 := by
  have hsuffix : ANN_SUFIX = word16 0x20 0x00 := by decide
  have hid : b.getBe16 74 = ANN_SUFIX ↔ b 74 = 0x20 ∧ b 75 = 0x00 := by
    rw [hsuffix]
    exact word16_inj
  rw [HasWrSuffix, isWrTlv_iff_octets, hid]
  simp [wrSuffixOctets, or_imp, forall_and]

end Decoders

/-! ### Frames and the rest of the buffer -/

section Frames

/-- The octets of a frame, as far as it reaches, are those in a list. -/
def FitsOctets (data : List UInt8) (octets : List (ℕ × UInt8)) : Prop :=
  ∀ p ∈ octets, ∀ x, data[p.1]? = some x → x = p.2

/-- A content of the buffer with the octets in a list, and `x` elsewhere. -/
def completing (octets : List (ℕ × UInt8)) (x : UInt8) : Buffer :=
  fun i => (octets.lookup i).getD x

variable {data : List UInt8} {octets : List (ℕ × UInt8)}

/-- Behind the received octets the input buffer keeps what it held before. -/
theorem load_of_ge {b : Buffer} {i : ℕ} (h : data.length ≤ i) : b.load data i = b i := by
  simp [load, List.getD_eq_getElem?_getD, List.getElem?_eq_none h]

/-- Below the end of the frame the rest of the buffer does not matter. -/
theorem load_agree {b b' : Buffer} {i : ℕ} (h : i < data.length) :
    b.load data i = b'.load data i := by
  rw [load_apply_of_lt _ _ h, load_apply_of_lt _ _ h]

/-- A frame in a buffer with certain octets fits them. -/
theorem fitsOctets_of_load {b : Buffer} (h : ∀ p ∈ octets, b.load data p.1 = p.2) :
    FitsOctets data octets := by
  intro p hp x hx
  rw [← h p hp]
  simp [load, List.getD_eq_getElem?_getD, hx]

/-- A frame that fits certain octets can be completed to them. -/
theorem load_completing (hlookup : ∀ p ∈ octets, octets.lookup p.1 = some p.2)
    (hfits : FitsOctets data octets) (x : UInt8) :
    ∀ p ∈ octets, (completing octets x).load data p.1 = p.2 := by
  intro p hp
  -- An octet comes from the frame as far as it reaches, and from the buffer behind it.
  cases hdata : data[p.1]? with
  | none => simp [load, List.getD_eq_getElem?_getD, hdata, completing, hlookup p hp]
  | some y => simp [load, List.getD_eq_getElem?_getD, hdata, hfits p hp y hdata]

end Frames

/-! ### The dispatch -/

/-- A message of another port, of the port's version and domain. -/
structure Accepts (port : PtpPortDS) (clk : PtpClockDS) (header : MsgHeader) : Prop where
  version : header.versionPTP = port.versionNumber
  domain : header.domainNumber = clk.domainNumber
  other : port.portIdentity ≠ header.sourcePortIdentity

/-- A message is handled alike for two buffers that its decoders cannot tell apart. -/
theorem dispatchMsg_withIbuf (rtOpts : RunTimeOpts) {n : Node} {b : Buffer} {length : ℕ}
    (hlength : HEADER_LENGTH ≤ length) (hagree : ∀ i < length, b i = n.port.msgIbuf i)
    (hannounce : Accepts n.port n.clk n.port.msgTmpHeader →
      n.port.msgTmpHeader.messageType = ANNOUNCE → ANNOUNCE_LENGTH ≤ length →
      n.port.portState.takesAnnounce →
      ∀ former, msgUnpackAnnounce b former = msgUnpackAnnounce n.port.msgIbuf former)
    (hsignaling : Accepts n.port n.clk n.port.msgTmpHeader →
      n.port.msgTmpHeader.messageType = SIGNALING →
      ∀ wr, (msgUnpackWRSignalingMsg b wr).2 = (msgUnpackWRSignalingMsg n.port.msgIbuf wr).2) :
    dispatchMsg length rtOpts (n.withIbuf b) = (dispatchMsg length rtOpts n).withIbuf b := by
  have hheader : msgUnpackHeader b = msgUnpackHeader n.port.msgIbuf :=
    msgUnpackHeader_congr fun i hi => hagree i (lt_of_lt_of_le hi hlength)
  have htime (h : FOLLOW_UP_LENGTH ≤ length) : getTimestamp b 34 = getTimestamp n.port.msgIbuf 34 :=
    getTimestamp_congr fun i _ hi => hagree i (lt_of_lt_of_le hi h)
  have hresp (h : DELAY_RESP_LENGTH ≤ length) :
      msgUnpackDelayResp b = msgUnpackDelayResp n.port.msgIbuf := by
    have hidentity : getPortIdentity b 44 = getPortIdentity n.port.msgIbuf 44 :=
      getPortIdentity_congr fun i _ hi => hagree i (lt_of_lt_of_le hi h)
    rw [msgUnpackDelayResp, msgUnpackDelayResp, htime (le_trans (by decide) h), hidentity]
  -- The type is tested for one handler after the other, as in the source.
  unfold dispatchMsg
  refine ite_eq_withIbuf (fun _ => rfl) fun hversion => ?_
  refine ite_eq_withIbuf (fun _ => rfl) fun hdomain => ?_
  have haccepts : ∀ isFromSelf : Bool,
      isFromSelf = decide (n.port.portIdentity = n.port.msgTmpHeader.sourcePortIdentity) →
      isFromSelf = false → Accepts n.port n.clk n.port.msgTmpHeader := fun _ hdecide hself =>
    ⟨not_not.mp hversion, not_not.mp hdomain, decide_eq_false_iff_not.mp (hdecide.symm.trans hself)⟩
  refine ite_eq_withIbuf (fun htype => handleAnnounce_withIbuf _ _ _ _ hheader
    fun hlong hself => hannounce (haccepts _ rfl hself) htype hlong) fun _ => ?_
  refine ite_eq_withIbuf (fun _ => handleSync_withIbuf _ _ _ _ _ _) fun _ => ?_
  refine ite_eq_withIbuf (fun _ => handleFollowUp_withIbuf _ _ _ _ htime) fun _ => ?_
  refine ite_eq_withIbuf (fun _ => handleDelayReq_withIbuf _ _ hheader) fun _ => ?_
  refine ite_eq_withIbuf (fun _ => handlePDelayReq_withIbuf _ _ _ _ _ hheader) fun _ => ?_
  refine ite_eq_withIbuf (fun _ => handlePDelayResp_withIbuf _ _ _ _ _ hresp) fun _ => ?_
  refine ite_eq_withIbuf (fun _ => handlePDelayRespFollowUp_withIbuf _ _ _ hresp) fun _ => ?_
  refine ite_eq_withIbuf (fun _ => handleDelayResp_withIbuf _ _ _ hresp) fun _ => ?_
  refine ite_eq_withIbuf (fun htype => handleSignaling_withIbuf _ _
    fun hself => hsignaling (haccepts _ rfl hself) htype) fun _ => rfl

/-! ### Reading beyond the end of a frame -/

/-- The frame that `netRecvMsg` delivers; empty when it delivers none. -/
def deliveredFrame (n : Node) : List UInt8 :=
  match (n.answer .recvfrom : Reception) with
  | .frame macDest data _ =>
    if macDest = n.port.netPath.selfAddr ∨ macDest = n.port.netPath.multicastAddr ∨
        macDest = n.port.netPath.unicastAddr then data
    else []
  | _ => []

/-- A frame in an empty buffer. -/
def frameBuffer (data : List UInt8) : Buffer := Buffer.load (fun _ => 0) data

/-- An Announce message that ends before its suffix does: the length in its header announces one,
and its octets do not contradict it. -/
structure CutSuffix (data : List UInt8) : Prop where
  short : data.length < WR_ANNOUNCE_LENGTH
  announced : ANNOUNCE_LENGTH < ((frameBuffer data).getBe16 2).toNat
  fits : FitsOctets data wrSuffixOctets

/-- A White Rabbit signaling message that ends before its values do. -/
structure CutSignaling (data : List UInt8) : Prop where
  fits : FitsOctets data (wrTlvOctets 44)
  short : data.length < 56 ∨
    (frameBuffer data).getBe16 54 = CALIBRATE ∧ data.length < 62 ∨
    (frameBuffer data).getBe16 54 = CALIBRATED ∧ data.length < 72

/-- A decoder reads octets behind a frame, and what it finds there is used. -/
structure ReadsBeyond (n : Node) (data : List UInt8) : Prop where
  header : HEADER_LENGTH ≤ data.length
  accepts : Accepts n.port n.clk (msgUnpackHeader (frameBuffer data))
  cut : (msgUnpackHeader (frameBuffer data)).messageType = ANNOUNCE ∧
      ANNOUNCE_LENGTH ≤ data.length ∧ n.port.portState.takesAnnounce ∧ CutSuffix data ∨
    (msgUnpackHeader (frameBuffer data)).messageType = SIGNALING ∧ CutSignaling data

section Beyond

variable {data : List UInt8} (b b' : Buffer)

/-- Whether a frame has a suffix does not depend on the buffer when it is complete, or contradicts
one. -/
theorem hasWrSuffix_load (hlong : ANNOUNCE_LENGTH ≤ data.length) (hcut : ¬CutSuffix data) :
    (HasWrSuffix (b.load data) ↔ HasWrSuffix (b'.load data)) ∧
      (HasWrSuffix (b.load data) → (b.load data).getBe16 76 = (b'.load data).getBe16 76) := by
  have hlength : ∀ b : Buffer, (b.load data).getBe16 2 = (frameBuffer data).getBe16 2 := fun b =>
    getBe16_congr fun i _ hi => load_agree (lt_of_lt_of_le (by omega : i < 64) hlong)
  simp only [hasWrSuffix_iff_octets, hlength]
  -- A frame without room for a suffix contradicts it at some octet, in every buffer.
  by_cases hshort : data.length < WR_ANNOUNCE_LENGTH
  · have hnone : ∀ b : Buffer, ¬(ANNOUNCE_LENGTH < ((frameBuffer data).getBe16 2).toNat ∧
        ∀ p ∈ wrSuffixOctets, b.load data p.1 = p.2) := fun b h =>
      hcut ⟨hshort, h.1, fitsOctets_of_load h.2⟩
    simp only [hnone, false_implies, and_self]
  · have hagree : ∀ i < 78, b.load data i = b'.load data i := fun i hi =>
      load_agree (lt_of_lt_of_le hi (not_lt.mp hshort))
    have hoctets : ∀ p ∈ wrSuffixOctets, b.load data p.1 = b'.load data p.1 := fun p hp =>
      hagree p.1 (by revert p; decide)
    exact ⟨and_congr_right fun _ => forall₂_congr fun p hp => by rw [hoctets p hp],
      fun _ => getBe16_congr fun i _ hi => hagree i (by omega)⟩

/-- An Announce that is long enough and whose suffix is not cut off unpacks alike, whatever was in
the input buffer before it was received. -/
theorem msgUnpackAnnounce_load (hlong : ANNOUNCE_LENGTH ≤ data.length) (hcut : ¬CutSuffix data)
    (former : MsgAnnounce) :
    msgUnpackAnnounce (b.load data) former = msgUnpackAnnounce (b'.load data) former := by
  obtain ⟨hsuffix, hflags⟩ := hasWrSuffix_load b b' hlong hcut
  have hagree : ∀ i, i < 64 → b.load data i = b'.load data i := fun i hi =>
    load_agree (lt_of_lt_of_le hi hlong)
  have htime : getTimestamp (b.load data) 34 = getTimestamp (b'.load data) 34 :=
    getTimestamp_congr fun i _ hi => hagree i (by omega)
  have hoffset : (b.load data).getBe16 44 = (b'.load data).getBe16 44 :=
    getBe16_congr fun i _ hi => hagree i (by omega)
  have hvariance : (b.load data).getBe16 50 = (b'.load data).getBe16 50 :=
    getBe16_congr fun i _ hi => hagree i (by omega)
  have hidentity : (b.load data).read 53 8 = (b'.load data).read 53 8 :=
    read_congr fun i _ hi => hagree i (by omega)
  -- The flags are the only field that the suffix decides about.
  have hwrFlags : (if HasWrSuffix (b.load data) then ((b.load data).getBe16 76).toUInt8
        else former.wrFlags) =
      if HasWrSuffix (b'.load data) then ((b'.load data).getBe16 76).toUInt8
        else former.wrFlags := by
    by_cases h : HasWrSuffix (b.load data)
    · rw [if_pos h, if_pos (hsuffix.mp h), hflags h]
    · rw [if_neg h, if_neg (mt hsuffix.mpr h)]
  rw [msgUnpackAnnounce_eq, msgUnpackAnnounce_eq, hwrFlags, htime, hoffset, hvariance, hidentity,
    hagree 47 (by omega), hagree 48 (by omega), hagree 49 (by omega), hagree 52 (by omega),
    hagree 61 (by omega), hagree 62 (by omega), hagree 63 (by omega)]

/-- A Signaling message that is not cut off unpacks alike, whatever was in the input buffer before
it was received. -/
theorem msgUnpackWRSignalingMsg_load (hcut : ¬CutSignaling data) (wr : WrPortDS) :
    (msgUnpackWRSignalingMsg (b.load data) wr).2 =
      (msgUnpackWRSignalingMsg (b'.load data) wr).2 := by
  -- A frame that contradicts the TLV is not decoded, whatever the buffer holds.
  by_cases hfits : FitsOctets data (wrTlvOctets 44)
  · have hlong : 56 ≤ data.length := by
      by_contra hshort
      exact hcut ⟨hfits, .inl (not_le.mp hshort)⟩
    have htlv : isWrTlv (b.load data) 44 = isWrTlv (b'.load data) 44 := by
      rw [Bool.eq_iff_iff, isWrTlv_iff_octets, isWrTlv_iff_octets]
      refine forall₂_congr fun p hp => ?_
      have hlt : ∀ p ∈ wrTlvOctets 44, p.1 < 56 := by decide
      rw [load_agree (lt_of_lt_of_le (hlt p hp) hlong)]
    have hid : ∀ b : Buffer, (b.load data).getBe16 54 = (frameBuffer data).getBe16 54 := fun b =>
      getBe16_congr fun i _ hi => load_agree (lt_of_lt_of_le hi hlong)
    simp only [msgUnpackWRSignalingMsg, htlv, hid]
    -- The values behind the identifier matter for two of the messages only.
    by_cases hcalibrate : (frameBuffer data).getBe16 54 = CALIBRATE
    · have hall : 62 ≤ data.length := by
        by_contra hshort
        exact hcut ⟨hfits, .inr (.inl ⟨hcalibrate, not_le.mp hshort⟩)⟩
      have hpattern : (b.load data).getBe16 56 = (b'.load data).getBe16 56 :=
        getBe16_congr fun i _ hi => load_agree (by omega)
      have hperiod : (b.load data).getBe32 58 = (b'.load data).getBe32 58 :=
        getBe32_congr fun i _ hi => load_agree (by omega)
      simp only [hcalibrate, if_true, hpattern, hperiod]
      split <;> rfl
    · by_cases hcalibrated : (frameBuffer data).getBe16 54 = CALIBRATED
      · have hall : 72 ≤ data.length := by
          by_contra hshort
          exact hcut ⟨hfits, .inr (.inr ⟨hcalibrated, not_le.mp hshort⟩)⟩
        have hword : ∀ off, off + 4 ≤ 72 → (b.load data).getBe32 off = (b'.load data).getBe32 off :=
          fun off hoff => getBe32_congr fun i _ hi => load_agree (by omega)
        simp only [hcalibrated, if_true, hword 56 (by omega), hword 60 (by omega),
          hword 64 (by omega), hword 68 (by omega)]
        split <;> rfl
      · simp only [hcalibrate, hcalibrated, if_false]
        split <;> rfl
  · have hnone : ∀ b : Buffer, isWrTlv (b.load data) 44 ≠ true := fun b h =>
      hfits (fitsOctets_of_load ((isWrTlv_iff_octets _ _).mp h))
    simp only [msgUnpackWRSignalingMsg, hnone, if_false, Bool.false_eq_true]

/-! #### Different contents make a difference -/

/-- Behind the end of the frame the buffer has the chosen octet. -/
theorem completing_load_of_ge {octets : List (ℕ × UInt8)} {i : ℕ} (x : UInt8)
    (hi : data.length ≤ i) (hlookup : octets.lookup i = none) :
    (completing octets x).load data i = x := by
  rw [load_of_ge hi, completing, hlookup]
  rfl

/-- A cut suffix is completed by the rest of the buffer, with arbitrary flags. -/
theorem msgUnpackAnnounce_completing (hcut : CutSuffix data) (hlong : ANNOUNCE_LENGTH ≤ data.length)
    (x : UInt8) (former : MsgAnnounce) :
    (msgUnpackAnnounce ((completing wrSuffixOctets x).load data) former).wrFlags = x := by
  have hlength :
      ((completing wrSuffixOctets x).load data).getBe16 2 = (frameBuffer data).getBe16 2 :=
    getBe16_congr fun i _ hi => load_agree (lt_of_lt_of_le (by omega : i < 64) hlong)
  have hsuffix : HasWrSuffix ((completing wrSuffixOctets x).load data) := by
    rw [hasWrSuffix_iff_octets, hlength]
    exact ⟨hcut.announced, load_completing (by decide) hcut.fits x⟩
  -- The flags are the low octet of a word that ends behind the frame.
  have hoctet : (completing wrSuffixOctets x).load data 77 = x :=
    completing_load_of_ge x (Nat.le_of_lt_succ hcut.short) (by decide)
  rw [msgUnpackAnnounce_eq]
  simp only [if_pos hsuffix, getBe16, word16_octets_eq]
  exact hoctet

/-- The register takes the identifier of a White Rabbit TLV. -/
theorem msgUnpackWRSignalingMsg_register {b : Buffer} (h : isWrTlv b 44 = true) (wr : WrPortDS) :
    (msgUnpackWRSignalingMsg b wr).2.msgTmpWrMessageID = b.getBe16 54 := by
  simp only [msgUnpackWRSignalingMsg, if_pos h]
  split_ifs <;> rfl

/-- A cut TLV is completed by the rest of the buffer, with an identifier or a value that is
arbitrary. -/
theorem msgUnpackWRSignalingMsg_completing (hcut : CutSignaling data) :
    ∃ b b' : Buffer, ∀ wr,
      (msgUnpackWRSignalingMsg (b.load data) wr).2 ≠ (msgUnpackWRSignalingMsg (b'.load data) wr).2 ∧
        (msgUnpackWRSignalingMsg (b.load data) wr).2.msgTmpWrMessageID ≠ SLAVE_PRESENT ∧
        (msgUnpackWRSignalingMsg (b'.load data) wr).2.msgTmpWrMessageID ≠ SLAVE_PRESENT := by
  have htlv : ∀ x, isWrTlv ((completing (wrTlvOctets 44) x).load data) 44 = true := fun x =>
    (isWrTlv_iff_octets _ _).mpr (load_completing (by decide) hcut.fits x)
  have hvalue : ∀ x i, data.length ≤ i → (wrTlvOctets 44).lookup i = none →
      (completing (wrTlvOctets 44) x).load data i = x := fun x i => completing_load_of_ge x
  by_cases hshort : data.length < 56
  · -- The low octet of the identifier is free.
    have hlow : ∀ x, (((completing (wrTlvOctets 44) x).load data).getBe16 54).toUInt8 = x :=
      fun x => by
      rw [getBe16, (word16_octets_eq _ _).2]
      exact hvalue x 55 (Nat.le_of_lt_succ hshort) (by decide)
    have hne : ∀ x y, x ≠ y → ((completing (wrTlvOctets 44) x).load data).getBe16 54 ≠
        ((completing (wrTlvOctets 44) y).load data).getBe16 54 := fun x y hxy h =>
      hxy (by rw [← hlow x, h, hlow y])
    have hpresent : ∀ x, x ≠ 0 →
        ((completing (wrTlvOctets 44) x).load data).getBe16 54 ≠ SLAVE_PRESENT := fun x hx h =>
      hx (by rw [← hlow x, h]; rfl)
    refine ⟨completing (wrTlvOctets 44) 0x20, completing (wrTlvOctets 44) 0x21,
      fun wr => ⟨fun h => ?_, ?_, ?_⟩⟩
    · have hregister := congrArg WrPortDS.msgTmpWrMessageID h
      rw [msgUnpackWRSignalingMsg_register (htlv _), msgUnpackWRSignalingMsg_register (htlv _)]
        at hregister
      exact hne _ _ (by decide) hregister
    · rw [msgUnpackWRSignalingMsg_register (htlv _)]
      exact hpresent _ (by decide)
    · rw [msgUnpackWRSignalingMsg_register (htlv _)]
      exact hpresent _ (by decide)
  · have hid : ∀ b : Buffer, (b.load data).getBe16 54 = (frameBuffer data).getBe16 54 := fun b =>
      getBe16_congr fun i _ hi => load_agree (lt_of_lt_of_le hi (not_lt.mp hshort))
    refine ⟨completing (wrTlvOctets 44) 0, completing (wrTlvOctets 44) 1, fun wr => ?_⟩
    rw [msgUnpackWRSignalingMsg_register (htlv _), msgUnpackWRSignalingMsg_register (htlv _), hid,
      hid]
    -- The last octet of the values is behind the end of the frame.
    have hlast : ∀ off, data.length ≤ off + 3 → (wrTlvOctets 44).lookup (off + 3) = none →
        ((completing (wrTlvOctets 44) 0).load data).getBe32 off ≠
          ((completing (wrTlvOctets 44) 1).load data).getBe32 off := fun off hoff hlookup h => by
      rw [getBe32, getBe32, word32_inj, hvalue 0 _ hoff hlookup, hvalue 1 _ hoff hlookup] at h
      exact absurd h.2.2.2 (by decide)
    rcases hcut.short.resolve_left hshort with ⟨hcalibrate, hlt⟩ | ⟨hcalibrated, hlt⟩
    · rw [hcalibrate]
      refine ⟨fun h => ?_, by decide, by decide⟩
      have hperiod := congrArg WrPortDS.otherNodeCalPeriod h
      simp only [msgUnpackWRSignalingMsg, htlv, hid, hcalibrate, if_true] at hperiod
      exact hlast 58 (by omega) (by decide) hperiod
    · rw [hcalibrated]
      refine ⟨fun h => ?_, by decide, by decide⟩
      have hdelta := congrArg (fun wr => wr.otherNodeDeltaRx.scaledPicoseconds.lsb) h
      have hne : CALIBRATED ≠ CALIBRATE := by decide
      simp only [msgUnpackWRSignalingMsg, htlv, hid, hcalibrated, if_true, if_neg hne] at hdelta
      exact hlast 68 (by omega) (by decide) hdelta

end Beyond

/-! ### The handling of a frame -/

/-- Two nodes have the same data sets but for the input buffer. -/
def SameData (n n' : Node) : Prop :=
  n'.port = { n.port with msgIbuf := n'.port.msgIbuf } ∧ n'.clk = n.clk

/-- Two nodes that differ in their input buffers only have the same data. -/
theorem sameData_withIbuf (n : Node) (b b' : Buffer) : SameData (n.withIbuf b) (n.withIbuf b') :=
  ⟨rfl, rfl⟩

section Handle

variable (rtOpts : RunTimeOpts) (n : Node) (b b' : Buffer)

/-- The length that is reported is the length of the delivered frame, or an error. -/
theorem netRecvMsg_length :
    (netRecvMsg n).1 = (deliveredFrame n).length ∨
      (netRecvMsg n).1 < 0 ∧ deliveredFrame n = [] := by
  unfold netRecvMsg deliveredFrame
  generalize (n.answer .recvfrom : Reception) = reception
  cases reception with
  | failed => exact .inr ⟨neg_one_lt_zero, rfl⟩
  | nothing => exact .inl rfl
  | frame macDest data rxTs =>
    refine .inl ?_
    dsimp only
    split <;> split
    next => rfl
    next h h' => exact absurd h h'
    next h h' => exact absurd h' h
    next => rfl

/-- What is received depends on the buffer only where it is left in place. -/
theorem netRecvMsg_withIbuf : ∃ b', netRecvMsg (n.withIbuf b) =
    ((netRecvMsg n).1, (netRecvMsg n).2.withIbuf b') := by
  have hanswer : (n.withIbuf b).answer .recvfrom = n.answer .recvfrom := rfl
  unfold netRecvMsg
  rw [hanswer]
  generalize (n.answer .recvfrom : Reception) = reception
  cases reception with
  | failed => exact ⟨b, rfl⟩
  | nothing => exact ⟨b, rfl⟩
  | frame macDest data rxTs =>
    refine ⟨b.load data, ?_⟩
    dsimp only
    split <;> split
    next => rfl
    next h h' => exact absurd h h'
    next h h' => exact absurd h' h
    next => rfl

/-- A delivered frame is loaded into the buffer. -/
theorem netRecvMsg_delivered (h : deliveredFrame n ≠ []) (b : Buffer) :
    netRecvMsg (n.withIbuf b) =
      (((deliveredFrame n).length : ℤ), (netRecvMsg n).2.withIbuf (b.load (deliveredFrame n))) := by
  have hanswer : (n.withIbuf b).answer .recvfrom = n.answer .recvfrom := rfl
  unfold netRecvMsg deliveredFrame at *
  rw [hanswer]
  generalize (n.answer .recvfrom : Reception) = reception at h
  cases reception with
  | failed => exact absurd rfl h
  | nothing => exact absurd rfl h
  | frame macDest data rxTs =>
    dsimp only at h ⊢
    -- A frame for another address is not delivered.
    by_cases haddr : macDest = n.port.netPath.selfAddr ∨ macDest = n.port.netPath.multicastAddr ∨
        macDest = n.port.netPath.unicastAddr
    · rw [if_pos haddr]
      split <;> split
      next => rfl
      next h h' => exact absurd h h'
      next h h' => exact absurd h' h
      next h => exact absurd haddr h
    · exact absurd (if_neg haddr) h

/-- The node that dispatches the delivered frame. -/
def dispatching (n : Node) : Node :=
  { received n with port.msgTmpHeader := msgUnpackHeader (frameBuffer (deliveredFrame n)) }

/-- A frame with a header is dispatched, with the buffer it was loaded into. -/
theorem handle_delivered (h : HEADER_LENGTH ≤ (deliveredFrame n).length) :
    handle rtOpts (n.withIbuf b) = dispatchMsg (deliveredFrame n).length rtOpts
      ((dispatching n).withIbuf (b.load (deliveredFrame n))) := by
  have hnil : deliveredFrame n ≠ [] := fun hnil => absurd h (by rw [hnil]; decide)
  -- The header lies inside the frame.
  have hheader : msgUnpackHeader (b.load (deliveredFrame n)) =
      msgUnpackHeader (frameBuffer (deliveredFrame n)) :=
    msgUnpackHeader_congr fun i hi => load_agree (lt_of_lt_of_le hi h)
  have hdispatching : ({ (netRecvMsg n).2.withIbuf (b.load (deliveredFrame n)) with
        port.msgTmpHeader := msgUnpackHeader (b.load (deliveredFrame n)) } : Node) =
      (dispatching n).withIbuf (b.load (deliveredFrame n)) := by
    rw [hheader]
    rfl
  simp only [handle, netRecvMsg_delivered n hnil, withIbuf_msgIbuf]
  have hpos : (0 : ℤ) < (deliveredFrame n).length :=
    Int.natCast_pos.mpr (List.length_pos_of_ne_nil hnil)
  rw [if_neg hpos.not_gt, if_neg hpos.ne', if_neg (by exact_mod_cast not_lt.mpr h),
    Int.toNat_natCast]
  exact congrArg (dispatchMsg _ rtOpts) hdispatching

/-- Without a whole header the buffer is not looked at. -/
theorem handle_short (h : (deliveredFrame n).length < HEADER_LENGTH) :
    SameData (handle rtOpts (n.withIbuf b)) (handle rtOpts (n.withIbuf b')) := by
  -- The length is tested before anything is decoded.
  have hlength : (netRecvMsg n).1 < HEADER_LENGTH := by
    rcases netRecvMsg_length n with hlen | ⟨hlen, -⟩ <;> omega
  obtain ⟨c, hrecv⟩ := netRecvMsg_withIbuf n b
  obtain ⟨c', hrecv'⟩ := netRecvMsg_withIbuf n b'
  simp only [handle, hrecv, hrecv', toFaulty_withIbuf]
  split_ifs <;> exact sameData_withIbuf _ _ _

/-- What `handle` does before it dispatches leaves the tests of `Accepts` as they are. -/
theorem accepts_dispatching (header : MsgHeader) :
    Accepts ((dispatching n).withIbuf b).port ((dispatching n).withIbuf b).clk header ↔
      Accepts n.port n.clk header := by
  have hframe : Frame n (received n) := (received_wrFrame (P := fun _ => True) n).toFrame
  have hversion : ((dispatching n).withIbuf b).port.versionNumber = n.port.versionNumber :=
    hframe.versionNumber
  have hidentity : ((dispatching n).withIbuf b).port.portIdentity = n.port.portIdentity :=
    hframe.portIdentity
  have hclk : ((dispatching n).withIbuf b).clk = n.clk := hframe.clk
  constructor <;> intro h
  · exact ⟨hversion ▸ h.version, hclk ▸ h.domain, hidentity ▸ h.other⟩
  · exact ⟨hversion ▸ h.version, hclk ▸ h.domain, hidentity ▸ h.other⟩

/-- Unless a decoder reads beyond the frame, the rest of the buffer makes no difference. -/
theorem sameData_of_not_readsBeyond (h : ¬ReadsBeyond n (deliveredFrame n)) :
    SameData (handle rtOpts (n.withIbuf b)) (handle rtOpts (n.withIbuf b')) := by
  by_cases hlength : HEADER_LENGTH ≤ (deliveredFrame n).length
  · have hstate : (dispatching n).port.portState = n.port.portState := received_portState n
    -- The decoders cannot tell the buffers apart, so the dispatch commutes with exchanging them.
    have hcommutes : dispatchMsg (deliveredFrame n).length rtOpts
          ((dispatching n).withIbuf (b.load (deliveredFrame n))) =
        (dispatchMsg (deliveredFrame n).length rtOpts
          ((dispatching n).withIbuf (b'.load (deliveredFrame n)))).withIbuf
            (b.load (deliveredFrame n)) := by
      have hagree : ∀ i < (deliveredFrame n).length, b.load (deliveredFrame n) i =
          ((dispatching n).withIbuf (b'.load (deliveredFrame n))).port.msgIbuf i :=
        fun i hi => load_agree hi
      have hcommutes := dispatchMsg_withIbuf rtOpts hlength hagree ?_ ?_
      · rwa [withIbuf_withIbuf] at hcommutes
      · intro haccepts htype hlong htakes former
        refine msgUnpackAnnounce_load b b' hlong (fun hcut => h ?_) former
        exact ⟨hlength, (accepts_dispatching n _ _).mp haccepts,
          .inl ⟨htype, hlong, hstate ▸ htakes, hcut⟩⟩
      · intro haccepts htype wr
        refine msgUnpackWRSignalingMsg_load b b' (fun hcut => h ?_) wr
        exact ⟨hlength, (accepts_dispatching n _ _).mp haccepts, .inr ⟨htype, hcut⟩⟩
    rw [handle_delivered rtOpts n b hlength, handle_delivered rtOpts n b' hlength, hcommutes]
    generalize dispatchMsg _ rtOpts _ = m
    exact sameData_withIbuf m _ m.port.msgIbuf
  · exact handle_short rtOpts n b b' (not_le.mp hlength)

/-- An accepted message is dispatched by its type. -/
theorem dispatchMsg_accepted (length : ℕ) (h : Accepts n.port n.clk n.port.msgTmpHeader) :
    (n.port.msgTmpHeader.messageType = ANNOUNCE → dispatchMsg length rtOpts n =
        handleAnnounce n.port.msgTmpHeader length false rtOpts n) ∧
      (n.port.msgTmpHeader.messageType = SIGNALING →
        dispatchMsg length rtOpts n = handleSignaling false rtOpts n) := by
  have hself : decide (n.port.portIdentity = n.port.msgTmpHeader.sourcePortIdentity) = false :=
    decide_eq_false h.other
  unfold dispatchMsg
  dsimp only
  rw [if_neg (not_not.mpr h.version), if_neg (not_not.mpr h.domain), hself]
  constructor <;> intro htype <;> rw [htype]
  · exact if_pos rfl
  · simp [SIGNALING, ANNOUNCE, SYNC, FOLLOW_UP, DELAY_REQ, PDELAY_REQ, PDELAY_RESP,
      PDELAY_RESP_FOLLOW_UP, DELAY_RESP]

/-- The record that an added Announce message ends in does not depend on the buffer. -/
theorem addForeign_record (header : MsgHeader) (port : PtpPortDS) : ∃ j former, ∀ b,
    ((addForeign header { port with msgIbuf := b }).fm.foreign j).announce =
      msgUnpackAnnounce b former := by
  -- Which record is written is decided by the header, not by the body in the buffer.
  cases hfind : findForeign port.fm header.sourcePortIdentity port.fm.numberForeignRecords
      port.fm.foreignRecordBest with
  | some j =>
    refine ⟨j, (port.fm.foreign j).announce, fun b => ?_⟩
    simp only [addForeign, hfind, Function.update_self]
  | none =>
    refine ⟨port.fm.foreignRecordI, (port.fm.foreign port.fm.foreignRecordI).announce, fun b => ?_⟩
    simp only [addForeign, hfind, Function.update_self]

/-- A slave's record of the parent is what `msgUnpackAnnounce` finds in the input buffer, whatever
that buffer holds. -/
theorem slaveHandleAnnounce_record (header : MsgHeader) : ∃ j former, ∀ b,
    ((slaveHandleAnnounce header (n.withIbuf b)).port.fm.foreign j).announce =
      msgUnpackAnnounce b former := by
  by_cases hparent : msgIsFromCurrentParent header n.clk
  · refine ⟨n.port.fm.foreignRecordBest, (n.port.fm.foreign n.port.fm.foreignRecordBest).announce,
      fun b => ?_⟩
    have hclk : (n.withIbuf b).clk = n.clk := rfl
    simp only [slaveHandleAnnounce, hclk, if_pos hparent, restartAnnounceReceipt, Node.timerStart]
    simp [Node.withIbuf]
  · obtain ⟨j, former, hrecord⟩ := addForeign_record header { n.port with fm.recordUpdate := true }
    refine ⟨j, former, fun b => ?_⟩
    have hclk : (n.withIbuf b).clk = n.clk := rfl
    simp only [slaveHandleAnnounce, hclk, if_neg hparent]
    exact hrecord b

/-- A taken Announce message ends in a record that does not depend on the buffer. -/
theorem handleAnnounce_record {length : ℕ} (header : MsgHeader) (hlength : ANNOUNCE_LENGTH ≤ length)
    (hstate : n.port.portState.takesAnnounce) : ∃ j former, ∀ b,
    ((handleAnnounce header length false rtOpts (n.withIbuf b)).port.fm.foreign j).announce =
      msgUnpackAnnounce b former := by
  rcases handleAnnounce_taken rtOpts n header length hlength hstate with hslave | hother
  · obtain ⟨j, former, hrecord⟩ := slaveHandleAnnounce_record n header
    exact ⟨j, former, fun b => by rw [hslave, hrecord]⟩
  · obtain ⟨j, former, hrecord⟩ := addForeign_record header n.port
    exact ⟨j, former, fun b => by rw [hother]; exact hrecord b⟩

/-- A decoder that reads beyond the frame makes a difference. -/
theorem not_sameData_of_readsBeyond (h : ReadsBeyond n (deliveredFrame n)) :
    ∃ b b', ¬SameData (handle rtOpts (n.withIbuf b)) (handle rtOpts (n.withIbuf b')) := by
  have hstate : (dispatching n).port.portState = n.port.portState := received_portState n
  have hdispatch := fun b => dispatchMsg_accepted rtOpts ((dispatching n).withIbuf b)
    (deliveredFrame n).length ((accepts_dispatching n b _).mpr h.accepts)
  rcases h.cut with ⟨htype, hlong, htakes, hcut⟩ | ⟨htype, hcut⟩
  · -- The flags of the suffix end in a record.
    obtain ⟨j, former, hrecord⟩ := handleAnnounce_record rtOpts (dispatching n)
      (dispatching n).port.msgTmpHeader hlong (hstate ▸ htakes)
    have hflags : ∀ x, ((handle rtOpts (n.withIbuf (completing wrSuffixOctets x))).port.fm.foreign
        j).announce.wrFlags = x := fun x => by
      rw [handle_delivered rtOpts n _ h.header, (hdispatch _).1 htype]
      exact (congrArg MsgAnnounce.wrFlags (hrecord _)).trans
        (msgUnpackAnnounce_completing hcut hlong x former)
    refine ⟨completing wrSuffixOctets 0, completing wrSuffixOctets 1, fun hsame => ?_⟩
    have hsame := congrArg (fun port : PtpPortDS => (port.fm.foreign j).announce.wrFlags) hsame.1
    exact absurd ((hflags 1).symm.trans (hsame.trans (hflags 0))) (by decide)
  · -- The register or a value ends in the White Rabbit data.
    obtain ⟨b, b', hdiffer⟩ := msgUnpackWRSignalingMsg_completing hcut
    obtain ⟨hne, hid, hid'⟩ := hdiffer (dispatching n).port.wr
    have hwr : ∀ b : Buffer, (msgUnpackWRSignalingMsg (b.load (deliveredFrame n))
          (dispatching n).port.wr).2.msgTmpWrMessageID ≠ SLAVE_PRESENT →
        (handle rtOpts (n.withIbuf b)).port.wr = (msgUnpackWRSignalingMsg
          (b.load (deliveredFrame n)) (dispatching n).port.wr).2 := fun b hid => by
      rw [handle_delivered rtOpts n _ h.header, (hdispatch _).2 htype, handleSignaling_eq,
        if_neg fun hpresent => hid hpresent.2.1]
      rfl
    refine ⟨b, b', fun hsame => hne ?_⟩
    have hsame := congrArg PtpPortDS.wr hsame.1
    exact (hwr b hid).symm.trans (hsame.symm.trans (hwr b' hid'))

/-- A frame that netRecvMsg delivers fits into the buffer. -/
theorem netRecvMsg_le_iff :
    (netRecvMsg n).1 ≤ PACKET_SIZE ↔ (deliveredFrame n).length ≤ PACKET_SIZE := by
  rcases netRecvMsg_length n with h | ⟨hneg, hnil⟩
  · rw [h]
    exact Int.ofNat_le
  · rw [hnil]
    exact ⟨fun _ => Nat.zero_le _, fun _ => hneg.le.trans (by decide)⟩

/-- The handling of the next frame uses its octets only, and its length is not larger than the
buffer. -/
def UsesFrameOnly (rtOpts : RunTimeOpts) (n : Node) : Prop :=
  (∀ b b', SameData (handle rtOpts (n.withIbuf b)) (handle rtOpts (n.withIbuf b'))) ∧
    (netRecvMsg n).1 ≤ PACKET_SIZE

/-- The handling of a frame uses its octets only exactly when no decoder reads beyond its end and
the frame is not longer than the buffer. -/
theorem reception_iff : UsesFrameOnly rtOpts n ↔
    ¬ReadsBeyond n (deliveredFrame n) ∧ (deliveredFrame n).length ≤ PACKET_SIZE := by
  -- The two halves are the two conditions: what is decoded, and what is loaded.
  refine and_congr ⟨fun hsame hbeyond => ?_, fun h b b' => ?_⟩ (netRecvMsg_le_iff n)
  · obtain ⟨b, b', hdiffer⟩ := not_sameData_of_readsBeyond rtOpts n hbeyond
    exact hdiffer (hsame b b')
  · exact sameData_of_not_readsBeyond rtOpts n b b' h

end Handle

/-! ### A message that is cut off -/

/-- A port that receives the message of a slave that is present, without its identifier. -/
def cutNode : Node :=
  let n := Daemon.singleNode ![2, 0, 0, 0, 0, 1] .wrMaster
  let sender := Daemon.singleNode ![2, 0, 0, 0, 0, 2] .wrSlave
  let frame := wrSignalingFrame SLAVE_PRESENT { sender with port.wr.wrMode := .wrSlave }
  let reception : Reception := .frame ![0x01, 0x1b, 0x19, 0, 0, 0] (frame.take 54) ⟨0, 0, 0, 1⟩
  { n with netif.oracle := .ready true .wrMaster reception 64 0 }

set_option maxRecDepth 100000 in
/-- The frame of `cutNode` is one of those that are read beyond their end. -/
theorem cutNode_readsBeyond : ReadsBeyond cutNode (deliveredFrame cutNode) where
  header := by decide +kernel
  accepts := ⟨by decide +kernel, by decide +kernel, by decide +kernel⟩
  cut := by
    have hfits : FitsOctets (deliveredFrame cutNode) (wrTlvOctets 44) :=
      fitsOctets_of_load (b := fun _ => 0) (by decide +kernel)
    exact .inr ⟨by decide +kernel, hfits, .inl (by decide +kernel)⟩

/-- Not every frame is handled by its octets only. -/
theorem not_forall_usesFrameOnly :
    ¬∀ (rtOpts : RunTimeOpts) (n : Node), UsesFrameOnly rtOpts n := by
  intro h
  obtain ⟨b, b', hdiffer⟩ :=
    not_sameData_of_readsBeyond (defaultRtOpts 1) cutNode cutNode_readsBeyond
  exact hdiffer ((h (defaultRtOpts 1) cutNode).1 b b')

end WhiteRabbitPtp
