import WhiteRabbitPtp.Correctness.SyncTimes

/-!
# The times that a master answers with

A slave asks a master when its request arrives, and the master answers at once, with the time that
the hardware has noted for the frame. Whether that time is a correct one is neither looked at nor
told.

## Main definitions

* `HearsRequest`: a master receives a request that it is to answer.
* `AnswersRequest`: a DelayResp is the answer to it.
* `Replies`: a node sends at most one DelayResp, and that one is an answer.

## Main result

* `replies_of_reachable`: in every step from a reachable state a port answers the request that it
  receives in this step, or none.
-/

namespace WhiteRabbitPtp

open Octets Buffer InputSystem

/-! ### Answers among frames -/

/-- The DelayResp messages among some frames. -/
def delayResps (frames : List (List UInt8)) : List (List UInt8) :=
  frames.filter fun frame => frameType frame = DELAY_RESP

/-- A message that a node has received is a request of its domain, and long enough. -/
structure IsRequest (length : ℕ) (m : Node) : Prop where
  version : m.port.msgTmpHeader.versionPTP = m.port.versionNumber
  domain : m.port.msgTmpHeader.domainNumber = m.clk.domainNumber
  type : m.port.msgTmpHeader.messageType = DELAY_REQ
  length : DELAY_REQ_LENGTH ≤ length

/-- A master with end-to-end delays receives a request next. -/
structure HearsRequest (rtOpts : RunTimeOpts) (n : Node) : Prop where
  mode : rtOpts.E2E_mode = true
  master : n.port.portState = .master
  request : IsRequest (netRecvMsg n).1.toNat (received n)

instance (rtOpts : RunTimeOpts) (n : Node) : Decidable (HearsRequest rtOpts n) :=
  decidable_of_iff (rtOpts.E2E_mode = true ∧ n.port.portState = .master ∧
      (received n).port.msgTmpHeader.versionPTP = (received n).port.versionNumber ∧
      (received n).port.msgTmpHeader.domainNumber = (received n).clk.domainNumber ∧
      (received n).port.msgTmpHeader.messageType = DELAY_REQ ∧
      DELAY_REQ_LENGTH ≤ (netRecvMsg n).1.toNat)
    ⟨fun ⟨hmode, hmaster, h₁, h₂, h₃, h₄⟩ => ⟨hmode, hmaster, h₁, h₂, h₃, h₄⟩,
      fun ⟨hmode, hmaster, h₁, h₂, h₃, h₄⟩ => ⟨hmode, hmaster, h₁, h₂, h₃, h₄⟩⟩

/-- A DelayResp has the number of the message that a node has received, the identity of its sender
and the time at which it arrived, the phase included. -/
structure TellsArrival (m : Node) (frame : List UInt8) : Prop where
  sequenceId : frameSequenceId frame = m.port.msgTmpHeader.sequenceId
  requestingPortIdentity : (msgUnpackDelayResp (frameBuffer frame)).requestingPortIdentity =
    m.port.msgTmpHeader.sourcePortIdentity
  receiveTimestamp : (msgUnpackDelayResp (frameBuffer frame)).receiveTimestamp =
    m.port.currentRxTs.carried
  phase : (msgUnpackHeader (frameBuffer frame)).correctionfield.lsb =
    .ofInt (phaseToCfUnits m.port.currentRxTs.phase)

/-- A DelayResp answers the request that a master receives next. -/
structure AnswersRequest (rtOpts : RunTimeOpts) (n : Node) (frame : List UInt8) : Prop where
  hears : HearsRequest rtOpts n
  received : ∃ macDest data, (n.answer .recvfrom : Reception) =
    .frame macDest data (received n).port.currentRxTs
  tells : TellsArrival (WhiteRabbitPtp.received n) frame

/-- Some frames with no DelayResp are sent. -/
def SendsNoResp (n n' : Node) : Prop :=
  ∃ frames, n'.netif.sent = n.netif.sent ++ frames ∧ delayResps frames = []

/-- Among the frames sent there is at most one DelayResp, of some kind. -/
def Replies (P : List UInt8 → Prop) (n n' : Node) : Prop :=
  ∃ frames, n'.netif.sent = n.netif.sent ++ frames ∧
    (delayResps frames = [] ∨ ∃ frame, delayResps frames = [frame] ∧ P frame)

section Replying

variable {rtOpts : RunTimeOpts} {P Q : List UInt8 → Prop} {n n' n'' : Node}

theorem SendsNoResp.of_eq (h : n'.netif.sent = n.netif.sent) : SendsNoResp n n' :=
  ⟨[], by simp [h], rfl⟩

/-- A node that sends messages of other types. -/
theorem SendsOnly.noResp {kinds : List UInt8} (h : SendsOnly kinds n n')
    (hkinds : DELAY_RESP ∉ kinds) : SendsNoResp n n' := by
  obtain ⟨frames, hsent, hbears⟩ := h
  refine ⟨frames, hsent, List.filter_eq_nil_iff.mpr fun frame hframe htype => ?_⟩
  have htype : frameType frame = DELAY_RESP := of_decide_eq_true htype
  by_cases hnil : frame = []
  · subst hnil
    revert htype
    decide
  · exact hkinds (htype ▸ (hbears frame hframe).frameType_mem hnil)

theorem SendsNoResp.replies (h : SendsNoResp n n') : Replies P n n' := by
  obtain ⟨frames, hsent, hnone⟩ := h
  exact ⟨frames, hsent, .inl hnone⟩

theorem Replies.mono (h : Replies P n n') (hPQ : ∀ frame, P frame → Q frame) : Replies Q n n' := by
  obtain ⟨frames, hsent, hanswers⟩ := h
  exact ⟨frames, hsent, hanswers.imp_right fun ⟨frame, hframe, h⟩ => ⟨frame, hframe, hPQ frame h⟩⟩

/-- What is sent before an answer. -/
theorem Replies.before (h : SendsNoResp n n') (h' : Replies P n' n'') : Replies P n n'' := by
  obtain ⟨frames, hsent, hnone⟩ := h
  obtain ⟨frames', hsent', hanswers⟩ := h'
  refine ⟨frames ++ frames', by rw [hsent', hsent, List.append_assoc], ?_⟩
  rwa [delayResps, List.filter_append, show frames.filter _ = [] from hnone]

/-- What is sent after an answer. -/
theorem Replies.after (h : Replies P n n') (h' : SendsNoResp n' n'') : Replies P n n'' := by
  obtain ⟨frames, hsent, hanswers⟩ := h
  obtain ⟨frames', hsent', hnone⟩ := h'
  refine ⟨frames ++ frames', by rw [hsent', hsent, List.append_assoc], ?_⟩
  rwa [delayResps, List.filter_append, show frames'.filter _ = [] from hnone, List.append_nil]

/-! ### Handling a request -/

/-- A DelayResp in answer to a header. -/
theorem delayResp_reads (header : MsgHeader) (clk : PtpClockDS) (port : PtpPortDS) (buf : Buffer) :
    let frame := (msgPackDelayResp buf header port).octets DELAY_RESP_LENGTH
    frameType frame = DELAY_RESP ∧ frameSequenceId frame = header.sequenceId ∧
      msgUnpackDelayResp (frameBuffer frame) =
        ⟨port.currentRxTs.carried, header.sourcePortIdentity⟩ ∧
      (msgUnpackHeader (frameBuffer frame)).correctionfield.lsb = header.correctionfield.lsb := by
  intro frame
  obtain ⟨htype, hid⟩ := (PtpMessage.delayResp header).frame_reads clk port buf
  have hoctet (i : ℕ) (hi : i < DELAY_RESP_LENGTH) :
      frameBuffer frame i = msgPackDelayResp buf header port i := load_octets_apply _ _ _ _ hi
  refine ⟨htype, hid, ?_, ?_⟩
  · have htime : getTimestamp (frameBuffer frame) 34 = port.currentRxTs.carried :=
      (getTimestamp_congr fun i _ hi => hoctet i (by unfold DELAY_RESP_LENGTH; omega)).trans
        (getTimestamp_response _ _ _)
    have hidentity : getPortIdentity (frameBuffer frame) 44 = header.sourcePortIdentity :=
      (getPortIdentity_congr fun i _ hi => hoctet i (by unfold DELAY_RESP_LENGTH; omega)).trans
        (getPortIdentity_putPortIdentity _ _ _)
    rw [msgUnpackDelayResp, htime, hidentity]
  · refine (Buffer.getBe32_load_octets _ _ 12 _ (by decide)).trans ?_
    simp [msgPackDelayResp, putPortIdentity, putWrTimestamp]

/-- A DelayResp is handed over whether its transmission succeeds or not. -/
theorem issueDelayResp_sent (rtOpts : RunTimeOpts) (header : MsgHeader) (n : Node) :
    (issueDelayResp header rtOpts n).netif.sent = n.netif.sent ++
      [(msgPackDelayResp n.port.msgObuf header n.port).octets DELAY_RESP_LENGTH] := by
  unfold issueDelayResp
  exact issueMsg_handsOver.2.1

theorem issueDelayResp_replies {header : MsgHeader}
    (hid : header.sequenceId = n.port.msgTmpHeader.sequenceId)
    (hsource : header.sourcePortIdentity = n.port.msgTmpHeader.sourcePortIdentity)
    (hphase : header.correctionfield.lsb = .ofInt (phaseToCfUnits n.port.currentRxTs.phase)) :
    Replies (TellsArrival n) n (issueDelayResp header rtOpts n) := by
  obtain ⟨htype, hid', hbody, hlsb⟩ := delayResp_reads header n.clk n.port n.port.msgObuf
  have hanswers : TellsArrival n
      ((msgPackDelayResp n.port.msgObuf header n.port).octets DELAY_RESP_LENGTH) :=
    ⟨hid'.trans hid, by rw [hbody]; exact hsource, by rw [hbody], hlsb.trans hphase⟩
  exact ⟨_, issueDelayResp_sent rtOpts header n,
    .inr ⟨_, List.filter_cons_of_pos (decide_eq_true htype), hanswers⟩⟩

theorem handleDelayReq_replies {length : ℕ}
    (hheader : n.port.msgTmpHeader = msgUnpackHeader n.port.msgIbuf) :
    Replies (fun frame => DELAY_REQ_LENGTH ≤ length ∧ TellsArrival n frame) n
      (handleDelayReq length rtOpts n) := by
  have hnone : Replies (fun frame => DELAY_REQ_LENGTH ≤ length ∧ TellsArrival n frame) n n :=
    (SendsNoResp.of_eq rfl).replies
  unfold handleDelayReq
  split
  · exact hnone
  split
  · exact (SendsNoResp.of_eq (congrArg Netif.sent (toFaulty_netif rtOpts n))).replies
  rename_i hlength
  split
  · -- The header of the answer is kept in the port, where the reception is not looked at again.
    rw [← hheader]
    dsimp only
    set header : MsgHeader := { n.port.msgTmpHeader with correctionfield := _ }
    have hreplies : Replies (TellsArrival { n with port.delayReqHeader := header })
        { n with port.delayReqHeader := header }
        (issueDelayResp header rtOpts { n with port.delayReqHeader := header }) :=
      issueDelayResp_replies rfl rfl rfl
    exact hreplies.mono fun frame h => ⟨not_lt.mp hlength,
      h.sequenceId, h.requestingPortIdentity, h.receiveTimestamp, h.phase⟩
  · exact hnone

/-- A master with end-to-end delays answers a request, and any other message with no DelayResp. -/
theorem dispatchMsg_replies {length : ℕ} (hmode : rtOpts.E2E_mode = true)
    (hstate : n.port.portState = .master) (hn : Headed n.port)
    (hheader : n.port.msgTmpHeader = msgUnpackHeader n.port.msgIbuf) :
    Replies (fun frame => IsRequest length n ∧ TellsArrival n frame) n
      (dispatchMsg length rtOpts n) := by
  have hnone {n' : Node} (h : Handles rtOpts [SIGNALING] n n') :
      Replies (fun frame => IsRequest length n ∧ TellsArrival n frame) n n' :=
    ((h.sent hn).noResp (by decide)).replies
  by_cases hdomain : n.port.msgTmpHeader.versionPTP = n.port.versionNumber ∧
      n.port.msgTmpHeader.domainNumber = n.clk.domainNumber
  case neg =>
    have hignored : dispatchMsg length rtOpts n = n := by
      unfold dispatchMsg
      by_cases hversion : n.port.msgTmpHeader.versionPTP = n.port.versionNumber
      · exact (if_neg (not_not.mpr hversion)).trans (if_pos fun h => hdomain ⟨hversion, h⟩)
      · exact if_pos hversion
    rw [hignored]
    exact hnone (.refl _)
  have hsilent {n' : Node} (h : Handled rtOpts (.issuing [SIGNALING]) n n') :
      Replies (fun frame => IsRequest length n ∧ TellsArrival n frame) n n' := hnone h.handles
  have hnoSlave : ¬(n.port.portState = .slave ∨
      n.port.portState = .uncalibrated ∧ n.port.wr.wrMode = .nonWr) := by simp [hstate]
  -- One branch for each message type: only that of a DelayReq answers.
  refine dispatchMsg_induction rtOpts n (hnone (.refl _)) (fun _ isFromSelf => hnone ?_)
    (fun _ _ => hsilent (handleSync_handled _ _ _ _ _ trivial))
    (fun _ _ => hsilent (handleFollowUp_handled _ _ _ _ _ trivial fun h => absurd h hnoSlave))
    (fun htype => (handleDelayReq_replies hheader).mono fun frame h =>
      ⟨⟨hdomain.1, hdomain.2, htype, h.1⟩, h.2⟩)
    (fun _ _ => hnone ?_) (fun _ _ => hnone ?_)
    (hsilent (handlePDelayRespFollowUp_handled _ _ _ _))
    (fun _ => hsilent (handleDelayResp_handled _ _ _ _ trivial)) fun isFromSelf => hnone ?_
  · obtain ⟨m, hm, h⟩ := handleAnnounce_announced rtOpts (.issuing [SIGNALING])
      n.port.msgTmpHeader length isFromSelf n
    exact hm.handles.trans h.handles
  · simp only [handlePDelayReq, hmode, if_true]
    rfl
  · simp only [handlePDelayResp, hmode, if_true]
    rfl
  · cases isFromSelf
    · rcases handleSignaling_cases rtOpts n with h | ⟨-, h⟩ <;> rw [h]
      · exact .of_eq rfl rfl rfl rfl
      · refine .trans ?_ (toWRState_handles rtOpts _ _ (List.mem_singleton_self _))
        exact .of_eq rfl rfl rfl rfl
    · rfl

/-- What has a length was received as a frame. -/
theorem frame_of_pos_length (h : 0 < (netRecvMsg n).1) : ∃ macDest data,
    (n.answer .recvfrom : Reception) = .frame macDest data (received n).port.currentRxTs ∧
      (received n).port.msgTmpHeader.messageType = frameType data := by
  unfold received netRecvMsg at *
  generalize (n.answer .recvfrom : Reception) = reception at h ⊢
  cases reception with
  | failed | nothing =>
    dsimp only at h
    exact absurd h (by decide)
  | frame macDest data rxTs =>
    dsimp only at h ⊢
    split at h
    next haddr =>
      rw [if_pos haddr]
      cases data with
      | nil => exact absurd h (lt_irrefl 0)
      | cons octet rest => exact ⟨macDest, octet :: rest, rfl, rfl⟩
    next => exact absurd h (lt_irrefl 0)

/-- Whatever is received, it is answered by at most one DelayResp, and only as a request. -/
theorem handle_replies (hn : Headed n.port)
    (hwr : n.port.portState = .uncalibrated → n.port.wr.wrMode ≠ .nonWr) :
    Replies (AnswersRequest rtOpts n) n (handle rtOpts n) := by
  by_cases hmaster : n.port.portState = .master ∧ rtOpts.E2E_mode = true
  · have hrecv := netRecvMsg_handles rtOpts [] n
    have hignored : Replies (AnswersRequest rtOpts n) n (netRecvMsg n).2 :=
      ((hrecv.sent hn).noResp List.not_mem_nil).replies
    have hreceived := received_handles rtOpts [] n
    refine handle_induction rtOpts n hignored (hignored.after ?_) fun hlength => ?_
    · exact .of_eq (congrArg Netif.sent (toFaulty_netif rtOpts _))
    · refine .before ((hreceived.sent hn).noResp List.not_mem_nil) ?_
      refine (dispatchMsg_replies hmaster.2 ((received_portState n).trans hmaster.1)
        (hreceived.headed hn) rfl).mono fun frame h => ⟨⟨hmaster.2, hmaster.1, h.1⟩, ?_, h.2⟩
      obtain ⟨macDest, data, hanswer, -⟩ :=
        frame_of_pos_length (lt_of_lt_of_le (by decide) hlength)
      exact ⟨macDest, data, hanswer⟩
  · refine (((handle_answers rtOpts hwr).sent hn).noResp ?_).replies
    cases hstate : n.port.portState <;> cases hmode : rtOpts.E2E_mode <;>
      first | decide | exact absurd ⟨hstate, hmode⟩ hmaster

/-! ### The actions of a state -/

/-- What is received depends on the answer of the interface. -/
theorem received_congr {k : Node} (hanswer : (k.answer .recvfrom : Reception) = n.answer .recvfrom)
    (hpath : k.port.netPath = n.port.netPath) (hbuf : k.port.msgIbuf = n.port.msgIbuf)
    (htime : k.port.currentRxTs = n.port.currentRxTs) :
    (netRecvMsg k).1 = (netRecvMsg n).1 ∧
      (received k).port.msgTmpHeader = (received n).port.msgTmpHeader ∧
      (received k).port.currentRxTs = (received n).port.currentRxTs := by
  unfold received netRecvMsg
  rw [hanswer]
  generalize (n.answer .recvfrom : Reception) = reception
  cases reception with
  | failed | nothing => exact ⟨rfl, congrArg msgUnpackHeader hbuf, htime⟩
  | frame macDest data rxTs =>
    have hload := congrArg (fun buf => msgUnpackHeader (Buffer.load buf data)) hbuf
    have hpath' : (k.called .recvfrom).port.netPath = (n.called .recvfrom).port.netPath := hpath
    -- The address decides about the length only.
    dsimp only
    rw [hpath']
    split <;> exact ⟨rfl, hload, rfl⟩

/-- The node that hears something in a White Rabbit state hears what the port does. -/
theorem AnswersRequest.of_wrHearing {k : Node} {frame : List UInt8}
    (h : AnswersRequest rtOpts k frame) (hhearing : wrHearing n = some k) :
    AnswersRequest rtOpts n frame := by
  have hk : (k.port.portState = n.port.portState ∧ k.port.versionNumber = n.port.versionNumber ∧
        k.clk = n.clk) ∧ (k.answer .recvfrom : Reception) = n.answer .recvfrom ∧
      k.port.netPath = n.port.netPath ∧ k.port.msgIbuf = n.port.msgIbuf ∧
      k.port.currentRxTs = n.port.currentRxTs := by
    -- Each state handles the frame first; `WRS_RESP_CALIB_REQ` enables the pattern before.
    unfold wrHearing at hhearing
    split at hhearing
    case h_6 =>
      dsimp only at hhearing
      split at hhearing
      · obtain rfl := Option.some.inj hhearing
        exact ⟨⟨rfl, rfl, rfl⟩, rfl, rfl, rfl, rfl⟩
      · cases hhearing
    case h_7 => cases hhearing
    all_goals
      obtain rfl := Option.some.inj hhearing
      exact ⟨⟨rfl, rfl, rfl⟩, rfl, rfl, rfl, rfl⟩
  obtain ⟨⟨hstate, hversion, hclk⟩, hanswer, hpath, hbuf, htime⟩ := hk
  obtain ⟨hlength, hheader, htime⟩ := received_congr hanswer hpath hbuf htime
  have hkept (m : Node) : Frame m (WhiteRabbitPtp.received m) :=
    (received_wrFrame (P := fun _ => True) m).toFrame
  obtain ⟨⟨hmode, hmaster, hrequest⟩, ⟨macDest, data, hreceived⟩, htells⟩ := h
  refine ⟨⟨hmode, hstate ▸ hmaster, ?_⟩,
    ⟨macDest, data, by rw [← hanswer, hreceived, htime]⟩, ?_⟩
  · refine ⟨?_, ?_, hheader ▸ hrequest.type, hlength ▸ hrequest.length⟩
    · rw [← hheader, hrequest.version, (hkept k).versionNumber, (hkept n).versionNumber, hversion]
    · rw [← hheader, hrequest.domain, (hkept k).clk, (hkept n).clk, hclk]
  exact ⟨hheader ▸ htells.sequenceId,
    hheader ▸ htells.requestingPortIdentity, htime ▸ htells.receiveTimestamp, htime ▸ htells.phase⟩

/-- A master may be asked while it sets up a link. -/
theorem doWRState_replies (hn : Headed n.port) (htimed : Timed rtOpts n.port)
    (hwr : n.port.portState = .uncalibrated → n.port.wr.wrMode ≠ .nonWr) :
    Replies (AnswersRequest rtOpts n) n (doWRState rtOpts n) := by
  have hsilent {k k' : Node} (h : Sends rtOpts [SIGNALING] k k') (hk : Headed k.port)
      (hk' : Timed rtOpts k.port) : SendsNoResp k k' := (h.sent hk hk').noResp (by decide)
  have hexpired (k : Node) : Sends rtOpts [SIGNALING] k _ :=
    wrTimerExpired_sends k (List.mem_singleton_self _)
  cases hhearing : wrHearing n with
  | none =>
    have hrun : SilentRun rtOpts n (wrStateActions rtOpts n) := wrStateActions_silentRun hhearing
    exact (hsilent ((hrun.sends (List.mem_singleton_self _)).trans (hexpired _)) hn htimed).replies
  | some k =>
    have hrun : SilentRun rtOpts (handle rtOpts k) (wrStateActions rtOpts n) :=
      wrStateActions_hearingRun hhearing
    have hmoves : Handles rtOpts [SIGNALING] n k := silentMoves_handles (wrHearing_moves hhearing)
    have hk : k.port.portState = n.port.portState ∧ k.port.wr.wrMode = n.port.wr.wrMode := by
      rcases wrHearing_cases hhearing with ⟨-, rfl⟩ | ⟨-, c, rfl⟩ <;> exact ⟨rfl, rfl⟩
    have hhandle := handle_answers rtOpts (n := k) (by rwa [hk.1, hk.2])
    have hreplies : Replies (AnswersRequest rtOpts n) k (handle rtOpts k) :=
      (handle_replies (hmoves.headed hn) (by rwa [hk.1, hk.2])).mono
        fun frame h => h.of_wrHearing hhearing
    refine (hreplies.before (hsilent hmoves.sends hn htimed)).after ?_
    exact hsilent ((hrun.sends (List.mem_singleton_self _)).trans (hexpired _))
      (hhandle.headed (hmoves.headed hn)) (hhandle.timed (hmoves.timed htimed))

/-- In its actions a port answers the request that it receives, or none. -/
theorem doStateActions_replies (hn : Headed n.port) (htimed : Timed rtOpts n.port) :
    Replies (AnswersRequest rtOpts n) n (doStateActions rtOpts n) := by
  by_cases hstate : n.port.portState = .master
  · have hnot : n.port.portState = .uncalibrated → n.port.wr.wrMode ≠ .nonWr :=
      fun h => by rw [hstate] at h; cases h
    unfold doStateActions
    rw [hstate]
    dsimp only
    split
    · exact (doWRState_replies hn htimed hnot).after (.of_eq rfl)
    · have hhandle := handle_answers rtOpts hnot
      have htimers : Handles rtOpts [SYNC, FOLLOW_UP, ANNOUNCE, PDELAY_REQ] (handle rtOpts n)
          (masterTimers rtOpts (handle rtOpts n)) :=
        masterTimers_handles rtOpts _ (by decide) fun _ => by decide
      have hsent := ((htimers.sent (hhandle.headed hn)).noResp (by decide))
      have hactions := (handle_replies hn hnot).after hsent
      rw [doMasterActions_eq]
      dsimp only
      split
      · have hlistening (m : Node) : Sends rtOpts [] m (toState .listening rtOpts m) :=
          toState_sends_of_ne (by decide) (by decide)
        exact hactions.after (((hlistening _).sent (htimers.headed (hhandle.headed hn))
          (htimers.timed (hhandle.timed htimed))).noResp List.not_mem_nil)
      · exact hactions
  -- In the other states no DelayResp is among the messages that may be sent.
  · refine (((doStateActions_sends rtOpts n).sent hn htimed).noResp ?_).replies
    cases hother : n.port.portState <;> cases rtOpts.E2E_mode <;> first | decide | contradiction

end Replying

/-! ### In every run -/

section Reachable

variable {rtOpts : RunTimeOpts} {d : Daemon}

/-- In every step from a reachable state a port hands over at most one DelayResp. It answers the
request that the port receives in this step, with the time at which the hardware says that the
request has arrived, be it a correct one or not. -/
theorem replies_of_reachable (h : Daemon.Reachable rtOpts d) (o : Oracle) (i : ℕ) :
    ∃ frames, (Daemon.step rtOpts o d).sent i = d.sent i ++ frames ∧
      (delayResps frames = [] ∨ ∃ frame, delayResps frames = [frame] ∧ d.phase = .act i ∧
        AnswersRequest rtOpts (d.node i o) frame) := by
  have hprepared := Daemon.Reachable.prepared h
  -- The step of another port hands nothing over for this one.
  have hstored {j : ℕ} {n : Node} {phase : Phase} (hn : i = j → SendsNoResp (d.node j o) n) :
      ∃ frames, (d.store j n phase).sent i = d.sent i ++ frames ∧ delayResps frames = [] := by
    by_cases hij : i = j
    · subst hij
      obtain ⟨frames, hsent, hnone⟩ := hn rfl
      exact ⟨frames, by rw [Daemon.store_sent_self]; exact hsent, hnone⟩
    · exact ⟨[], by simp [Daemon.store, hij], rfl⟩
  cases hphase : d.phase with
  | link j =>
    obtain ⟨phase, heq, -⟩ := Daemon.step_link rtOpts o hphase
    have hsent : (linked rtOpts (d.node j o)).netif.sent = (d.node j o).netif.sent :=
      (linked_cases rtOpts (d.node j o)).elim Reinitialized.sent LinkKept.sent
    rw [heq]
    obtain ⟨frames, hframes, hnone⟩ := hstored fun _ => .of_eq hsent
    exact ⟨frames, hframes, .inl hnone⟩
  | decide j =>
    obtain ⟨htimed, hheaded⟩ := h.conduct j (hprepared.deciding j (.inl hphase))
    have hsends : Sends rtOpts [SIGNALING] (d.node j o) _ :=
      stateDecision_sends rtOpts d.bestForeign fun _ => List.mem_singleton_self _
    rw [Daemon.step_decide rtOpts o hphase]
    obtain ⟨frames, hframes, hnone⟩ :=
      hstored fun _ => (hsends.sent hheaded htimed).noResp (by decide)
    exact ⟨frames, hframes, .inl hnone⟩
  | act j =>
    obtain ⟨htimed, hheaded⟩ := h.conduct j (hprepared.deciding j (.inr hphase))
    rw [Daemon.step_act rtOpts o hphase]
    by_cases hij : i = j
    · subst hij
      obtain ⟨frames, hsent, hanswers⟩ :=
        doStateActions_replies (n := d.node i o) hheaded htimed
      refine ⟨frames, by rw [Daemon.store_sent_self]; exact hsent, ?_⟩
      rcases hanswers with hnone | ⟨frame, hframe, hanswer⟩
      · exact .inl hnone
      · exact .inr ⟨frame, hframe, rfl, hanswer⟩
    · obtain ⟨frames, hframes, hnone⟩ := hstored fun h => absurd h hij
      exact ⟨frames, hframes, .inl hnone⟩
  | shared =>
    obtain ⟨tics, extsrcLocked, heq⟩ := Daemon.step_shared rtOpts o hphase
    rw [heq]
    exact ⟨[], by simp, .inl rfl⟩

end Reachable

/-- A request of a slave, at a time that the hardware does not vouch for. -/
def doubtedRequest : Oracle :=
  let slave := Daemon.singleNode ![2, 0, 0, 0, 0, 2] .wrSlave
  let request := (msgPackDelayReq slave.port.msgObuf .zero slave.port).octets DELAY_REQ_LENGTH
  .ready true .wrMaster (.frame ![0x01, 0x1b, 0x19, 0, 0, 0] request ⟨7, 96, 0, 0⟩) 64 0

/-- A master that is about to act. -/
def actingMaster : Daemon :=
  runInputs (Daemon.step (defaultRtOpts 1)) (.single ![2, 0, 0, 0, 0, 1])
    (List.replicate 6 (Oracle.ready true .wrMaster .nothing 64 0))

set_option maxRecDepth 100000 in
/-- The master answers this request. -/
theorem replies_of_reachable_doubtedRequest :
    delayResps ((Daemon.step (defaultRtOpts 1) doubtedRequest actingMaster).sent 0) ≠ [] ∧
      ∃ frames, (Daemon.step (defaultRtOpts 1) doubtedRequest actingMaster).sent 0 =
          actingMaster.sent 0 ++ frames ∧
        (delayResps frames = [] ∨ ∃ frame, delayResps frames = [frame] ∧
          actingMaster.phase = .act 0 ∧
            AnswersRequest (defaultRtOpts 1) (actingMaster.node 0 doubtedRequest) frame) :=
  ⟨by decide +kernel, replies_of_reachable (Daemon.single_reachable _ _) doubtedRequest 0⟩

end WhiteRabbitPtp
