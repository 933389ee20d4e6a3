import WhiteRabbitPtp.Correctness.Effects

/-!
# What handling a frame leaves alone

All handlers but `handleSignaling` are a `WrFrame`. So `handle` either is one, or it passes a
Signaling message of another port on to `handleSignaling`, which overwrites the register of received
White Rabbit data and may start the White Rabbit state machine.

## Main results

* `handle_cases`: the two outcomes of `handle`.
* `handleSignaling_cases`: the two outcomes of `handleSignaling`.
-/

namespace WhiteRabbitPtp

open Octets

/-! ### The effects of the handlers -/

section Effects

variable {P : List UInt8 → Prop} {rtOpts : RunTimeOpts} {p : Footprint} {n n' : Node}

theorem Stores.wrFrame (h : Stores p n n') : WrFrame P n n' := by
  have hframe : Frame n n' := ⟨h.clk, h.clockIdentity, h.portIdentity, h.versionNumber, h.linkUP,
    by rw [h.wr], h.answers, by rw [h.fm]⟩
  exact .of_frame hframe h.wr h.portState h.sent

/-- Every effect of a handler is inside the frame. -/
theorem Effect.wrFrame (h : Effect rtOpts p n n') : WrFrame NotSignaling n n' := by
  cases h with
  | stores h => exact h.wrFrame
  | toFaulty => exact toFaulty_wrFrame _ _
  | restartAnnounceReceipt => exact restartAnnounceReceipt_wrFrame _
  | timerPolled t => exact timerPolled_wrFrame _ t
  | issue message htype =>
    cases message with
    | announce => exact issueAnnounce_wrFrame _ _
    | sync => exact issueSync_wrFrame _ _
    | followup => exact issueFollowup_wrFrame _ _
    | delayReq => exact issueDelayReq_wrFrame _ _
    | pdelayReq => exact issuePDelayReq_wrFrame _ _
    | delayResp header => exact issueDelayResp_wrFrame _ header _
    | pdelayResp header => exact issuePDelayResp_wrFrame _ header _
    | pdelayRespFollowUp header => exact issuePDelayRespFollowUp_wrFrame _ header _
    | wrSignaling id => exact absurd rfl htype

theorem Handled.wrFrame (h : Handled rtOpts p n n') : WrFrame NotSignaling n n' :=
  h.of_effect .refl .trans Effect.wrFrame

/-- Storing an Announce message overwrites or adds a record and marks the table. -/
theorem Announced.wrFrame (h : Announced n n') : WrFrame P n n' := by
  cases h with
  | ignored => rfl
  | parent record announce =>
    exact .of_frame ⟨rfl, rfl, rfl, rfl, rfl, rfl, rfl, rfl, rfl, le_rfl, fun _ => rfl,
      fun _ => rfl⟩ rfl rfl rfl
  | added header =>
    -- The table may grow by a record, and its best record stays.
    obtain ⟨hbest, hmax, hnumber, -⟩ := addForeign_fm header n.port
    rw [addForeign_eq]
    exact .of_frame ⟨rfl, rfl, rfl, rfl, rfl, rfl, rfl, hbest, hmax, hnumber, fun _ => rfl,
      fun _ => rfl⟩ rfl rfl rfl

end Effects

/-! ### Signaling messages and the dispatch -/

section Dispatch

variable (rtOpts : RunTimeOpts) (n : Node)

/-- The node after a Signaling message was decoded into its White Rabbit data. -/
def signaled (n : Node) : Node :=
  { n with port.wr := (msgUnpackWRSignalingMsg n.port.msgIbuf n.port.wr).2 }

/-- A port that becomes a White Rabbit master. -/
def asWrMaster (n : Node) : Node := { n with port.wr.wrMode := .wrMaster }

/-- A Signaling message of another port is decoded; a message that a slave is present starts the
White Rabbit state machine of a master. -/
theorem handleSignaling_eq :
    handleSignaling false rtOpts n =
      if n.port.portState = .master ∧ (signaled n).port.wr.msgTmpWrMessageID = SLAVE_PRESENT ∧
          (n.port.wr.wrConfig = .wrMOnly ∨ n.port.wr.wrConfig = .wrMAndS) then
        toWRState .mLock rtOpts (asWrMaster (signaled n))
      else signaled n := by
  -- The source reads the configuration after decoding, which does not write it.
  have hconfig : (signaled n).port.wr.wrConfig = n.port.wr.wrConfig := by
    unfold signaled msgUnpackWRSignalingMsg
    dsimp only
    split_ifs <;> rfl
  rw [← hconfig]
  rfl

/-- The two outcomes of a Signaling message of another port. -/
theorem handleSignaling_cases :
    handleSignaling false rtOpts n = signaled n ∨
      (n.port.portState = .master ∧ (signaled n).port.wr.msgTmpWrMessageID = SLAVE_PRESENT ∧
        (n.port.wr.wrConfig = .wrMOnly ∨ n.port.wr.wrConfig = .wrMAndS)) ∧
      handleSignaling false rtOpts n =
        toWRState .mLock rtOpts (asWrMaster (signaled n)) := by
  rw [handleSignaling_eq]
  split
  next h => exact .inr ⟨h, rfl⟩
  · exact .inl rfl

/-- The node after a frame was received and its header was decoded. -/
def received (n : Node) : Node :=
  let n := (netRecvMsg n).2
  { n with port.msgTmpHeader := msgUnpackHeader n.port.msgIbuf }

variable {P : List UInt8 → Prop}

/-- A frame goes to the buffer before its address is looked at, so also when it is ignored. -/
theorem netRecvMsg_stores (p : Footprint) : Stores p n (netRecvMsg n).2 := by
  unfold netRecvMsg
  generalize (n.answer .recvfrom : Reception) = reception
  cases reception with
  | failed | nothing => constructor <;> first | rfl | exact .inr rfl | exact .inr id
  | frame macDest data rxTs =>
    dsimp only
    split <;> constructor <;> first | rfl | exact .inr rfl | exact .inr id

theorem netRecvMsg_wrFrame : WrFrame P n (netRecvMsg n).2 := (netRecvMsg_stores n .any).wrFrame

/-- A message that is handled is a received frame, and is in the input buffer. -/
theorem netRecvMsg_pos (h : 0 < (netRecvMsg n).1) :
    ∃ macDest data rxTs, n.answer .recvfrom = .frame macDest data rxTs ∧
      (netRecvMsg n).1 = data.length ∧
      (netRecvMsg n).2.port.msgIbuf = n.port.msgIbuf.load data := by
  unfold netRecvMsg at h ⊢
  generalize (n.answer .recvfrom : Reception) = reception at h ⊢
  cases reception with
  | failed => simp at h
  | nothing => simp at h
  | frame macDest data rxTs =>
    refine ⟨macDest, data, rxTs, rfl, ?_⟩
    dsimp only at h ⊢
    -- A frame for another address counts as none.
    split at h
    next haddr =>
      rw [if_pos haddr]
      exact ⟨rfl, rfl⟩
    · simp at h

theorem received_wrFrame : WrFrame P n (received n) := by
  unfold received
  refine (netRecvMsg_wrFrame n).trans ?_
  exact .of_frame (by constructor <;> rfl) rfl rfl rfl

/-- A frame changes the input buffer and the timestamp, and is one call of the environment. -/
theorem received_netif : (received n).netif = (n.called .recvfrom).netif := by
  unfold received netRecvMsg
  generalize (n.answer .recvfrom : Reception) = reception
  cases reception with
  | failed => rfl
  | nothing => rfl
  | frame macDest data rxTs =>
    dsimp only
    split <;> rfl

/-- Receiving a frame changes what was received last. -/
theorem received_port : ∃ msgIbuf currentRxTs msgTmpHeader, (received n).port =
    { n.port with
      msgIbuf := msgIbuf
      currentRxTs := currentRxTs
      msgTmpHeader := msgTmpHeader } := by
  unfold received netRecvMsg
  generalize (n.answer .recvfrom : Reception) = reception
  cases reception with
  | failed => exact ⟨_, _, _, rfl⟩
  | nothing => exact ⟨_, _, _, rfl⟩
  | frame macDest data rxTs =>
    dsimp only
    split <;> exact ⟨_, _, _, rfl⟩

/-- Receiving a frame leaves the White Rabbit data alone. -/
theorem received_wr : (received n).port.wr = n.port.wr := by
  obtain ⟨msgIbuf, currentRxTs, msgTmpHeader, heq⟩ := received_port n
  rw [heq]

/-- Receiving a frame leaves the state of the port alone. -/
theorem received_portState : (received n).port.portState = n.port.portState := by
  obtain ⟨msgIbuf, currentRxTs, msgTmpHeader, heq⟩ := received_port n
  rw [heq]

/-- Receiving a frame leaves the foreign masters alone. -/
theorem received_fm : (received n).port.fm = n.port.fm := by
  obtain ⟨msgIbuf, currentRxTs, msgTmpHeader, heq⟩ := received_port n
  rw [heq]

/-- Decoding a Signaling message changes the register and the values received with it. -/
theorem signaled_wr :
    (signaled n).port.wr = { n.port.wr with
      msgTmpWrMessageID := (signaled n).port.wr.msgTmpWrMessageID
      otherNodeCalSendPattern := (signaled n).port.wr.otherNodeCalSendPattern
      otherNodeCalPeriod := (signaled n).port.wr.otherNodeCalPeriod
      otherNodeCalRetry := (signaled n).port.wr.otherNodeCalRetry
      otherNodeDeltaTx := (signaled n).port.wr.otherNodeDeltaTx
      otherNodeDeltaRx := (signaled n).port.wr.otherNodeDeltaRx } := by
  unfold signaled msgUnpackWRSignalingMsg
  dsimp only
  split_ifs <;> rfl

/-- Whether the frame that is received next is a Signaling message that `handleSignaling` decodes:
long enough, of the port's version and domain, and not sent by the port itself. -/
def HearsSignaling (n : Node) : Prop :=
  HEADER_LENGTH ≤ (netRecvMsg n).1 ∧
    (received n).port.msgTmpHeader.versionPTP = n.port.versionNumber ∧
    (received n).port.msgTmpHeader.domainNumber = n.clk.domainNumber ∧
    (received n).port.msgTmpHeader.messageType = SIGNALING ∧
    n.port.portIdentity ≠ (received n).port.msgTmpHeader.sourcePortIdentity

instance : DecidablePred HearsSignaling := fun n => by
  unfold HearsSignaling
  infer_instance

/-- A message is dispatched to the handler of its type, or to none. -/
theorem dispatchMsg_induction {Q : Node → Prop} {length : ℕ} (hnone : Q n)
    (hannounce : n.port.msgTmpHeader.messageType = ANNOUNCE → ∀ isFromSelf,
      Q (handleAnnounce n.port.msgTmpHeader length isFromSelf rtOpts n))
    (hsync : n.port.msgTmpHeader.messageType = SYNC → ∀ isFromSelf,
      Q (handleSync n.port.msgTmpHeader length isFromSelf rtOpts n))
    (hfollowUp : n.port.msgTmpHeader.messageType = FOLLOW_UP → ∀ isFromSelf,
      Q (handleFollowUp n.port.msgTmpHeader length isFromSelf rtOpts n))
    (hdelayReq : n.port.msgTmpHeader.messageType = DELAY_REQ →
      Q (handleDelayReq length rtOpts n))
    (hpdelayReq : ∀ time isFromSelf,
      Q (handlePDelayReq n.port.msgTmpHeader length time isFromSelf rtOpts n))
    (hpdelayResp : ∀ time isFromSelf,
      Q (handlePDelayResp n.port.msgTmpHeader time length isFromSelf rtOpts n))
    (hpdelayRespFollowUp : Q (handlePDelayRespFollowUp n.port.msgTmpHeader length rtOpts n))
    (hdelayResp : n.port.msgTmpHeader.messageType = DELAY_RESP →
      Q (handleDelayResp n.port.msgTmpHeader length rtOpts n))
    (hsignaling : ∀ isFromSelf, Q (handleSignaling isFromSelf rtOpts n)) :
    Q (dispatchMsg length rtOpts n) := by
  -- The tests of version and domain come first, then one per type.
  refine iteInduction (fun _ => hnone) fun _ => iteInduction (fun _ => hnone) fun _ => ?_
  refine iteInduction (fun h => hannounce h _) fun _ => ?_
  refine iteInduction (fun h => hsync h _) fun _ => ?_
  refine iteInduction (fun h => hfollowUp h _) fun _ => ?_
  refine iteInduction hdelayReq fun _ => ?_
  refine iteInduction (fun _ => hpdelayReq _ _) fun _ => ?_
  refine iteInduction (fun _ => hpdelayResp _ _) fun _ => ?_
  refine iteInduction (fun _ => hpdelayRespFollowUp) fun _ => ?_
  refine iteInduction hdelayResp fun _ => ?_
  exact iteInduction (fun _ => hsignaling _) fun _ => hnone

/-- A dispatched message is inside the frame unless it is a Signaling message of another port. -/
theorem dispatchMsg_cases (length : ℕ) :
    WrFrame NotSignaling n (dispatchMsg length rtOpts n) ∨
      (n.port.msgTmpHeader.versionPTP = n.port.versionNumber ∧
        n.port.msgTmpHeader.domainNumber = n.clk.domainNumber ∧
        n.port.msgTmpHeader.messageType = SIGNALING ∧
        n.port.portIdentity ≠ n.port.msgTmpHeader.sourcePortIdentity) ∧
        dispatchMsg length rtOpts n = handleSignaling false rtOpts n := by
  have hdispatched := dispatchMsg_dispatched rtOpts n length
  generalize dispatchMsg length rtOpts n = n' at hdispatched ⊢
  cases hdispatched with
  | announce _ hm h => exact .inl (hm.wrFrame.trans h.wrFrame)
  | handled h => exact .inl h.wrFrame
  | signaling h => exact .inr ⟨⟨h.version, h.domain, h.type, h.other⟩, rfl⟩

/-- A frame that is handled is dispatched when it is long enough, and otherwise a failure or
ignored. -/
theorem handle_induction {Q : Node → Prop} (hignored : Q (netRecvMsg n).2)
    (hfailed : Q (toFaulty rtOpts (netRecvMsg n).2))
    (hdispatched : HEADER_LENGTH ≤ (netRecvMsg n).1 →
      Q (dispatchMsg (netRecvMsg n).1.toNat rtOpts (received n))) : Q (handle rtOpts n) := by
  refine iteInduction (fun _ => hfailed) fun _ => ?_
  refine iteInduction (fun _ => hignored) fun _ => ?_
  exact iteInduction (fun _ => hfailed) fun h => hdispatched (not_lt.mp h)

/-- The outcomes of handling a frame: it stays inside the frame, or it is a Signaling message of
another port. -/
theorem handle_cases :
    WrFrame NotSignaling n (handle rtOpts n) ∨
      HearsSignaling n ∧ handle rtOpts n = handleSignaling false rtOpts (received n) := by
  have hrecv : WrFrame NotSignaling n (netRecvMsg n).2 := netRecvMsg_wrFrame n
  have hrecv' : WrFrame NotSignaling n (received n) := received_wrFrame n
  unfold handle
  dsimp only
  split
  · -- The reception has failed, or the frame is shorter than a header.
    exact .inl (hrecv.trans (toFaulty_wrFrame _ _))
  split
  · exact .inl hrecv
  split
  · exact .inl (hrecv.trans (toFaulty_wrFrame _ _))
  next hneg hzero hlength =>
  -- Version, domain and identity are compared with the port as it was before the reception.
  rcases dispatchMsg_cases rtOpts (received n) (netRecvMsg n).1.toNat with h | ⟨hsig, h⟩
  · exact .inl (hrecv'.trans h)
  · rw [hrecv'.versionNumber, hrecv'.portIdentity, hrecv'.clk] at hsig
    exact .inr ⟨⟨by omega, hsig⟩, h⟩

/-- A Signaling message of another port is passed on. -/
theorem handle_of_hears (h : HearsSignaling n) :
    handle rtOpts n = handleSignaling false rtOpts (received n) := by
  obtain ⟨hlength, hversion, hdomain, htype, hself⟩ := h
  have hframe : Frame n (received n) := (received_wrFrame (P := fun _ => True) n).toFrame
  have hpos : 0 < (netRecvMsg n).1 := lt_of_lt_of_le (by decide) hlength
  have hdispatch : dispatchMsg (netRecvMsg n).1.toNat rtOpts (received n) =
      handleSignaling false rtOpts (received n) := by
    rw [← hframe.versionNumber] at hversion
    rw [← hframe.clk] at hdomain
    rw [← hframe.portIdentity] at hself
    -- The type is that of a Signaling message, so none of the earlier tests holds.
    unfold dispatchMsg
    generalize received n = m at *
    dsimp only
    rw [if_neg (not_not.mpr hversion), if_neg (not_not.mpr hdomain), htype]
    simp [hself, SIGNALING, ANNOUNCE, SYNC, FOLLOW_UP, DELAY_REQ, PDELAY_REQ, PDELAY_RESP,
      PDELAY_RESP_FOLLOW_UP, DELAY_RESP]
  unfold handle
  dsimp only
  rw [if_neg (by omega), if_neg (by omega), if_neg (by omega)]
  exact hdispatch

/-- A Signaling message that is heard is a received frame, and is in the input buffer. -/
theorem HearsSignaling.frame {n : Node} (h : HearsSignaling n) :
    ∃ macDest data rxTs, n.answer .recvfrom = .frame macDest data rxTs ∧
      HEADER_LENGTH ≤ data.length ∧ (received n).port.msgIbuf = n.port.msgIbuf.load data ∧
      (received n).port.msgIbuf 0 &&& 0x0F = SIGNALING := by
  have hlength := h.1
  obtain ⟨macDest, data, rxTs, hanswer, hlen, hbuf⟩ :=
    netRecvMsg_pos n (lt_of_lt_of_le (by decide) hlength)
  exact ⟨macDest, data, rxTs, hanswer, by omega, hbuf, h.2.2.2.1⟩

end Dispatch

end WhiteRabbitPtp
