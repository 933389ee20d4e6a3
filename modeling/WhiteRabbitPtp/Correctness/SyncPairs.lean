import WhiteRabbitPtp.Lib.Trace
import WhiteRabbitPtp.Correctness.RequestInterval

/-!
# The Sync and the FollowUp of an exchange

A slave measures when a Sync arrives, and is told by a FollowUp when it was sent. Between the two it
may receive anything else, lose its master and find another one. What the servo is given are the
times of one Sync and of its FollowUp nevertheless.

## Main definitions

* `FromParent`: the message in the input buffer is one that a slave takes from its parent.
* `KeepsExchange`: what everything but a Sync and a FollowUp does.
* `SyncHeard`, `FollowUpHeard`: what a port hears in a step of a run.
* `Paired`: two times are those of a Sync and of its FollowUp.

## Main result

* `servo_exchanged`: in every run the times that the servo of a port was given are those of the last
  FollowUp it took and of the last Sync before it.
-/

namespace WhiteRabbitPtp

open Octets InputSystem

/-! ### What is remembered of an exchange -/

/-- The flag `TWO_STEP_FLAG` of a Sync: a FollowUp with its time will come. -/
def MsgHeader.TwoStep (header : MsgHeader) : Prop := header.flagField 0 &&& 0x02 = TWO_STEP_FLAG

instance : DecidablePred MsgHeader.TwoStep := fun header => by
  unfold MsgHeader.TwoStep
  infer_instance

namespace Exchange

/-- The exchange after a Sync with this header, received at time `ts`. -/
def withSync (e : Exchange) (header : MsgHeader) (ts : WrTimestamp) : Exchange :=
  let e := { e with syncReceiveTime :=
    { seconds := i32 ts.sec, nanoseconds := ts.nsec, phase := ts.phase, correct := ts.correct } }
  if header.TwoStep then
    { e with waitingForFollow := true, recvSyncSequenceId := header.sequenceId }
  else { e with waitingForFollow := false }

/-- The exchange after the FollowUp: the servo has `t1` from the message and `t2` from the Sync. -/
def withFollowUp (e : Exchange) (preciseOriginTimestamp : TimeInternal) : Exchange :=
  { e with
    waitingForFollow := false
    t1 := timeintToWr { preciseOriginTimestamp with phase := 0 } 1
    t2 := timeintToWr e.syncReceiveTime e.syncReceiveTime.correct }

end Exchange

/-- The exchange stays, or the FollowUp is no longer waited for. -/
def Exchange.Keeps (e e' : Exchange) : Prop := e' = e ∨ e' = { e with waitingForFollow := false }

/-- `Exchange.Keeps` is reflexive. -/
@[refl]
theorem Exchange.Keeps.refl (e : Exchange) : e.Keeps e := .inl rfl

/-- `Exchange.Keeps` is transitive. -/
@[trans]
theorem Exchange.Keeps.trans {e e' e'' : Exchange} (h : e.Keeps e') (h' : e'.Keeps e'') :
    e.Keeps e'' := by
  rcases h with rfl | rfl <;> rcases h' with rfl | rfl
  exacts [.inl rfl, .inr rfl, .inr rfl, .inr rfl]

/-- The exchange of a port stays, and its servo is told nothing. -/
structure SameExchange (n n' : Node) : Prop where
  exchange : n'.port.exchange = n.port.exchange
  gotSync : n'.statics.gotSync = true → n.statics.gotSync = true

/-- The exchange is kept in the sense of `Exchange.Keeps`, and the servo is told nothing. -/
structure KeepsExchange (n n' : Node) : Prop where
  exchange : n.port.exchange.Keeps n'.port.exchange
  gotSync : n'.statics.gotSync = true → n.statics.gotSync = true

section Exchange

variable {rtOpts : RunTimeOpts} {n n' n'' : Node}

/-- A change of other data. -/
theorem SameExchange.of_eq (hexchange : n'.port.exchange = n.port.exchange)
    (hgotSync : n'.statics.gotSync = n.statics.gotSync) : SameExchange n n' :=
  ⟨hexchange, fun h => hgotSync ▸ h⟩

/-- `SameExchange` is reflexive. -/
@[refl]
theorem SameExchange.refl (n : Node) : SameExchange n n := .of_eq rfl rfl

/-- `SameExchange` is transitive. -/
@[trans]
theorem SameExchange.trans (h : SameExchange n n') (h' : SameExchange n' n'') :
    SameExchange n n'' := ⟨h'.exchange.trans h.exchange, fun hgot => h.gotSync (h'.gotSync hgot)⟩

/-- `SameExchange` is a case of `KeepsExchange`. -/
theorem SameExchange.keeps (h : SameExchange n n') : KeepsExchange n n' :=
  ⟨.inl h.exchange, h.gotSync⟩

/-- `KeepsExchange` of a change that does not touch the exchange. -/
theorem KeepsExchange.of_eq (hexchange : n'.port.exchange = n.port.exchange)
    (hgotSync : n'.statics.gotSync = n.statics.gotSync) : KeepsExchange n n' :=
  (SameExchange.of_eq hexchange hgotSync).keeps

/-- `KeepsExchange` is reflexive. -/
@[refl]
theorem KeepsExchange.refl (n : Node) : KeepsExchange n n := .of_eq rfl rfl

/-- `KeepsExchange` is transitive. -/
@[trans]
theorem KeepsExchange.trans (h : KeepsExchange n n') (h' : KeepsExchange n' n'') :
    KeepsExchange n n'' :=
  ⟨h.exchange.trans h'.exchange, fun hgot => h.gotSync (h'.gotSync hgot)⟩

/-! ### Failing and sending -/

/-- `leaveState` keeps the exchange. -/
theorem leaveState_exchange (rtOpts : RunTimeOpts) (n : Node) :
    SameExchange n (leaveState rtOpts n) := by
  have hgotSync : (leaveState rtOpts n).statics.gotSync = n.statics.gotSync := by
    unfold leaveState
    split
    case h_2 => cases rtOpts.E2E_mode <;> rfl
    all_goals rfl
  refine .of_eq ?_ hgotSync
  rw [leaveState_port]
  rfl

/-- `toFaulty` keeps the exchange. -/
theorem toFaulty_exchange (rtOpts : RunTimeOpts) (n : Node) :
    SameExchange n (toFaulty rtOpts n) := by
  unfold toFaulty
  split
  · rfl
  · exact (leaveState_exchange rtOpts n).trans (.of_eq rfl rfl)

/-- `issueMsg` keeps the exchange when the two functions that note the outcome do. -/
theorem issueMsg_exchange {buf : Buffer} {length : ℕ}
    {record : SendResult → PtpPortDS → PtpPortDS} {sent : PtpPortDS → PtpPortDS}
    (hrecord : ∀ r port, (record r port).exchange = port.exchange)
    (hsent : ∀ port, (sent port).exchange = port.exchange) :
    SameExchange n (issueMsg rtOpts buf length record sent n) := by
  have hrecorded : SameExchange n
      (let m := ({ n with port.msgObuf := buf } : Node).sendto length
       { m with port := record (n.answer .sendto) m.port }) := .of_eq (hrecord _ _) rfl
  unfold issueMsg
  dsimp only
  split
  · exact hrecorded.trans (toFaulty_exchange _ _)
  · exact hrecorded.trans (.of_eq (hsent _) rfl)

/-- Every `Issue` keeps the exchange: it changes a sequence counter and the time of sending. -/
theorem Issue.run_exchange (rtOpts : RunTimeOpts) (n : Node) (message : Issue) :
    SameExchange n (message.run rtOpts n) := by
  cases message <;>
    simp only [Issue.run, issueAnnounce, issueSync, issueFollowup, issueDelayReq, issueDelayResp,
      issuePDelayReq, issuePDelayResp, issuePDelayRespFollowUp, issueWRSignalingMsg] <;>
    exact issueMsg_exchange (fun _ _ => rfl) fun _ => rfl

/-! ### The effects of the handlers -/

section Effects

variable {p : Footprint}

/-- All effects of `Effect` but those that write the exchange, by a Sync or a FollowUp. -/
def Footprint.keepsExchange : Footprint := { any with exchange := False }

/-- Every `Effect` of a footprint without the exchange keeps it. -/
theorem Effect.exchange (h : Effect rtOpts p n n') (hp : ¬p.exchange) : SameExchange n n' := by
  cases h with
  | stores h => exact ⟨h.exchange.resolve_left hp, h.gotSync.resolve_left hp⟩
  | toFaulty => exact toFaulty_exchange rtOpts n
  | restartAnnounceReceipt | timerPolled => exact .of_eq rfl rfl
  | issue message => exact message.run_exchange rtOpts n

/-- So does every sequence of them. -/
theorem Handled.exchange (h : Handled rtOpts p n n') (hp : ¬p.exchange) : SameExchange n n' :=
  h.of_effect .refl .trans fun heffect => heffect.exchange hp

/-- Storing an Announce message writes the foreign masters only. -/
theorem Announced.exchange (h : Announced n n') : SameExchange n n' := by
  cases h with
  | ignored | parent => exact .of_eq rfl rfl
  | added header =>
    rw [addForeign_eq]
    exact .of_eq rfl rfl

end Effects

/-! ### White Rabbit transitions -/

/-- The effects of a White Rabbit transition write `wr` only, or issue a Signaling message. -/
theorem WrEffect.exchange (h : WrEffect rtOpts n n') : SameExchange n n' := by
  cases h with
  | stores h =>
    refine .of_eq ?_ (congrArg ServoStatics.gotSync h.statics)
    rw [h.port]
    rfl
  | issue id => exact Issue.run_exchange rtOpts n (.wrSignaling id)

/-- `toWRState` is a sequence of these effects. -/
theorem toWRState_exchange (rtOpts : RunTimeOpts) (s : WrState) (n : Node) :
    SameExchange n (toWRState s rtOpts n) :=
  (toWRState_entered rtOpts n s).of_effect .refl .trans WrEffect.exchange

/-- `handleSignaling` stores the message, and may enter `WRS_M_LOCK` by `toWRState`. -/
theorem handleSignaling_exchange (rtOpts : RunTimeOpts) (n : Node) (isFromSelf : Bool) :
    SameExchange n (handleSignaling isFromSelf rtOpts n) := by
  have hmaster : SameExchange n (asWrMaster (signaled n)) := .of_eq rfl rfl
  cases isFromSelf
  · rcases handleSignaling_cases rtOpts n with h | ⟨-, h⟩ <;> rw [h]
    · exact .of_eq rfl rfl
    · exact hmaster.trans (toWRState_exchange _ _ _)
  · rfl

/-! ### Messages of the parent -/

/-- The message in the input buffer is one of this type that a port in `PTP_SLAVE` takes from its
parent: long enough, of its version and domain, and not its own. -/
structure FromParent (type : UInt8) (least length : ℕ) (n : Node) : Prop where
  slave : n.port.portState = .slave
  length : least ≤ length
  version : n.port.msgTmpHeader.versionPTP = n.port.versionNumber
  domain : n.port.msgTmpHeader.domainNumber = n.clk.domainNumber
  type : n.port.msgTmpHeader.messageType = type
  other : n.port.portIdentity ≠ n.port.msgTmpHeader.sourcePortIdentity
  parent : msgIsFromCurrentParent n.port.msgTmpHeader n.clk = true

instance {type : UInt8} {least length : ℕ} {n : Node} :
    Decidable (FromParent type least length n) :=
  decidable_of_iff (n.port.portState = .slave ∧ least ≤ length ∧
      n.port.msgTmpHeader.versionPTP = n.port.versionNumber ∧
      n.port.msgTmpHeader.domainNumber = n.clk.domainNumber ∧
      n.port.msgTmpHeader.messageType = type ∧
      n.port.portIdentity ≠ n.port.msgTmpHeader.sourcePortIdentity ∧
      msgIsFromCurrentParent n.port.msgTmpHeader n.clk = true)
    ⟨fun ⟨h₁, h₂, h₃, h₄, h₅, h₆, h₇⟩ => ⟨h₁, h₂, h₃, h₄, h₅, h₆, h₇⟩,
      fun ⟨h₁, h₂, h₃, h₄, h₅, h₆, h₇⟩ => ⟨h₁, h₂, h₃, h₄, h₅, h₆, h₇⟩⟩

/-- The frame that is received next is a Sync of the parent that `slaveHandleSync` takes. -/
def HearsSync (n : Node) : Prop :=
  FromParent SYNC SYNC_LENGTH (netRecvMsg n).1.toNat (received n)

/-- The frame that is received next is a FollowUp of the parent with the number in
`recvSyncSequenceId`, while the port is `waitingForFollow`. -/
def TakesFollowUp (n : Node) : Prop :=
  FromParent FOLLOW_UP FOLLOW_UP_LENGTH (netRecvMsg n).1.toNat (received n) ∧
    n.port.waitingForFollow = true ∧
    n.port.recvSyncSequenceId = (received n).port.msgTmpHeader.sequenceId

/-- A Sync of the parent is noted, with its number if it is `TwoStep`. -/
structure NotesSync (n n' : Node) : Prop where
  exchange : n'.port.exchange = n.port.exchange.withSync n.port.msgTmpHeader n.port.currentRxTs
  gotSync : n'.statics.gotSync = true → n.statics.gotSync = true

/-- The FollowUp in the input buffer is given to the servo. -/
def TellsServo (n n' : Node) : Prop :=
  ∃ former, n'.port.exchange =
    n.port.exchange.withFollowUp (toInternalTime former (msgUnpackFollowUp n.port.msgIbuf))

section Dispatching

variable (rtOpts : RunTimeOpts) (length : ℕ) (n : Node)

/-- `slaveHandleSync` notes a Sync of the parent, and keeps the exchange otherwise. -/
theorem slaveHandleSync_exchange (isFromSelf : Bool) :
    if isFromSelf = false ∧ msgIsFromCurrentParent n.port.msgTmpHeader n.clk = true then
      NotesSync n (slaveHandleSync n.port.msgTmpHeader isFromSelf n)
    else SameExchange n (slaveHandleSync n.port.msgTmpHeader isFromSelf n) := by
  cases isFromSelf
  · simp only [slaveHandleSync, Bool.false_eq_true, if_false, true_and]
    split
    · by_cases htwoStep : n.port.msgTmpHeader.TwoStep
      · rw [if_pos (show n.port.msgTmpHeader.flagField 0 &&& 0x02 = TWO_STEP_FLAG from htwoStep)]
        refine ⟨?_, id⟩
        unfold Exchange.withSync
        rw [if_pos htwoStep]
        rfl
      · rw [if_neg (show ¬n.port.msgTmpHeader.flagField 0 &&& 0x02 = TWO_STEP_FLAG from htwoStep)]
        refine ⟨?_, id⟩
        unfold Exchange.withSync
        rw [if_neg htwoStep]
        rfl
    · rfl
  · simp only [slaveHandleSync, if_true, Bool.true_eq_false, false_and, if_false]
    rfl

/-- `slaveHandleFollowUp` gives a FollowUp to the servo when it is the one that is waited for. -/
theorem slaveHandleFollowUp_exchange (header : MsgHeader) :
    if msgIsFromCurrentParent header n.clk = true ∧ n.port.waitingForFollow = true ∧
        n.port.recvSyncSequenceId = header.sequenceId then
      TellsServo n (slaveHandleFollowUp header rtOpts n)
    else SameExchange n (slaveHandleFollowUp header rtOpts n) := by
  unfold slaveHandleFollowUp
  split
  · exact ⟨_, (Issue.run_exchange rtOpts _ .delayReq).exchange⟩
  · rfl

variable {n} (hwr : n.port.portState = .uncalibrated → n.port.wr.wrMode ≠ .nonWr)
  (isFromSelf : Bool)

include hwr

/-- `handleSync` notes a Sync of the parent in `PTP_SLAVE`, and nothing otherwise. -/
theorem handleSync_exchange :
    if (SYNC_LENGTH ≤ length ∧ n.port.portState = .slave) ∧
        isFromSelf = false ∧ msgIsFromCurrentParent n.port.msgTmpHeader n.clk = true then
      NotesSync n (handleSync n.port.msgTmpHeader length isFromSelf rtOpts n)
    else SameExchange n (handleSync n.port.msgTmpHeader length isFromSelf rtOpts n) := by
  generalize hm : handleSync n.port.msgTmpHeader length isFromSelf rtOpts n = m
  unfold handleSync at hm
  split at hm
  next hshort =>
    rw [if_neg fun h => absurd hshort (not_lt.mpr h.1.1), ← hm]
    exact toFaulty_exchange _ _
  next hlength =>
  split at hm
  next hstate =>
    rw [if_pos (hwr hstate)] at hm
    rw [← hm, if_neg fun h => by rw [hstate] at h; cases h.1.2]
  next hstate =>
    have htaken := slaveHandleSync_exchange n isFromSelf
    rw [hm] at htaken
    exact (if_congr (and_iff_right ⟨not_lt.mp hlength, hstate⟩) rfl rfl).mpr htaken
  next hstate => rw [if_neg fun h => hstate h.1.2, ← hm]

/-- `handleFollowUp` takes the FollowUp that is waited for in `PTP_SLAVE`, and nothing otherwise. -/
theorem handleFollowUp_exchange (header : MsgHeader) :
    if (FOLLOW_UP_LENGTH ≤ length ∧ n.port.portState = .slave ∧ isFromSelf = false) ∧
        msgIsFromCurrentParent header n.clk = true ∧ n.port.waitingForFollow = true ∧
          n.port.recvSyncSequenceId = header.sequenceId then
      TellsServo n (handleFollowUp header length isFromSelf rtOpts n)
    else SameExchange n (handleFollowUp header length isFromSelf rtOpts n) := by
  generalize hm : handleFollowUp header length isFromSelf rtOpts n = m
  unfold handleFollowUp at hm
  split at hm
  next hshort =>
    rw [if_neg fun h => absurd hshort (not_lt.mpr h.1.1), ← hm]
    exact toFaulty_exchange _ _
  next hlength =>
  split at hm
  -- A port does not hear its own messages.
  next hself => rw [← hm, if_neg fun h => by rw [hself] at h; cases h.1.2.2]
  next hself =>
  split at hm
  next hstate =>
    -- With a White Rabbit mode a port ignores a FollowUp in `PTP_UNCALIBRATED`.
    rw [if_pos (hwr hstate)] at hm
    rw [← hm, if_neg fun h => by rw [hstate] at h; cases h.1.2.1]
  next hstate =>
    have htaken := slaveHandleFollowUp_exchange rtOpts n header
    rw [hm] at htaken
    exact (if_congr (and_iff_right ⟨not_lt.mp hlength, hstate, Bool.eq_false_iff.mpr hself⟩)
      rfl rfl).mpr htaken
  next hstate => rw [if_neg fun h => hstate h.1.2.1, ← hm]

omit hwr in
/-- `dispatchMsg` gives a Sync and a FollowUp of the version and domain of the port to `handleSync`
and `handleFollowUp`. -/
theorem dispatchMsg_of_type {type : UInt8}
    (hversion : n.port.msgTmpHeader.versionPTP = n.port.versionNumber)
    (hdomain : n.port.msgTmpHeader.domainNumber = n.clk.domainNumber)
    (htype : n.port.msgTmpHeader.messageType = type) :
    (type = SYNC → dispatchMsg length rtOpts n = handleSync n.port.msgTmpHeader length
        (n.port.portIdentity = n.port.msgTmpHeader.sourcePortIdentity) rtOpts n) ∧
      (type = FOLLOW_UP → dispatchMsg length rtOpts n = handleFollowUp n.port.msgTmpHeader length
        (n.port.portIdentity = n.port.msgTmpHeader.sourcePortIdentity) rtOpts n) := by
  unfold dispatchMsg
  dsimp only
  rw [if_neg (not_not.mpr hversion), if_neg (not_not.mpr hdomain), htype]
  constructor <;> rintro rfl <;> rfl

omit hwr in
/-- `dispatchMsg` keeps the exchange for every other message: the other handlers have the footprint
`keepsExchange`. -/
theorem dispatchMsg_exchange_of_not (h : ¬(n.port.msgTmpHeader.versionPTP = n.port.versionNumber ∧
      n.port.msgTmpHeader.domainNumber = n.clk.domainNumber ∧
      (n.port.msgTmpHeader.messageType = SYNC ∨ n.port.msgTmpHeader.messageType = FOLLOW_UP))) :
    SameExchange n (dispatchMsg length rtOpts n) := by
  by_cases hversion : n.port.msgTmpHeader.versionPTP = n.port.versionNumber
  · by_cases hdomain : n.port.msgTmpHeader.domainNumber = n.clk.domainNumber
    · have htype := not_or.mp fun htype => h ⟨hversion, hdomain, htype⟩
      have hkept {m : Node} (h : Handled rtOpts .keepsExchange n m) : SameExchange n m :=
        h.exchange id
      have hanswers : n.port.portState.answers rtOpts.E2E_mode ⊆ Footprint.keepsExchange.kinds :=
        answers_subset_any _ _
      refine dispatchMsg_induction (Q := SameExchange n) rtOpts n (.refl n)
        (fun _ isFromSelf => ?_) (fun hsync => absurd hsync htype.1)
        (fun hfollowUp => absurd hfollowUp htype.2)
        (fun _ => hkept (handleDelayReq_handled _ _ hanswers))
        (fun _ _ => hkept (handlePDelayReq_handled _ _ _ _ hanswers _))
        (fun _ _ => hkept (handlePDelayResp_handled _ _ _ _ hanswers _))
        (hkept (handlePDelayRespFollowUp_handled _ _ _ _))
        (fun _ => hkept (handleDelayResp_handled _ _ _ _ trivial))
        fun _ => handleSignaling_exchange ..
      obtain ⟨m, hm, h⟩ := handleAnnounce_announced rtOpts .keepsExchange n.port.msgTmpHeader length
        isFromSelf n
      exact hm.exchange.trans (h.exchange id)
    · unfold dispatchMsg
      dsimp only
      rw [if_neg (not_not.mpr hversion), if_pos hdomain]
  · unfold dispatchMsg
    dsimp only
    rw [if_pos hversion]

end Dispatching

/-- The three outcomes of `dispatchMsg`: a Sync of the parent is noted, the FollowUp that is waited
for is taken, or the exchange stays. -/
theorem dispatchMsg_exchange (rtOpts : RunTimeOpts) (length : ℕ)
    (hwr : n.port.portState = .uncalibrated → n.port.wr.wrMode ≠ .nonWr) :
    FromParent SYNC SYNC_LENGTH length n ∧ NotesSync n (dispatchMsg length rtOpts n) ∨
      (FromParent FOLLOW_UP FOLLOW_UP_LENGTH length n ∧ n.port.waitingForFollow = true ∧
        n.port.recvSyncSequenceId = n.port.msgTmpHeader.sequenceId) ∧
        TellsServo n (dispatchMsg length rtOpts n) ∨
      ¬FromParent SYNC SYNC_LENGTH length n ∧
        ¬(FromParent FOLLOW_UP FOLLOW_UP_LENGTH length n ∧ n.port.waitingForFollow = true ∧
          n.port.recvSyncSequenceId = n.port.msgTmpHeader.sequenceId) ∧
        SameExchange n (dispatchMsg length rtOpts n) := by
  by_cases hmessage : n.port.msgTmpHeader.versionPTP = n.port.versionNumber ∧
      n.port.msgTmpHeader.domainNumber = n.clk.domainNumber ∧
      (n.port.msgTmpHeader.messageType = SYNC ∨ n.port.msgTmpHeader.messageType = FOLLOW_UP)
  · obtain ⟨hversion, hdomain, htype | htype⟩ := hmessage
    -- The checks of `dispatchMsg` and those of the handler together are `FromParent`.
    · have hhandled := handleSync_exchange rtOpts length hwr
        (decide (n.port.portIdentity = n.port.msgTmpHeader.sourcePortIdentity))
      rw [(dispatchMsg_of_type rtOpts length hversion hdomain htype).1 rfl]
      split at hhandled
      next h =>
        exact .inl ⟨⟨h.1.2, h.1.1, hversion, hdomain, htype, by simpa using h.2.1, h.2.2⟩, hhandled⟩
      next h =>
        refine .inr (.inr ⟨fun hsync => h ⟨⟨hsync.length, hsync.slave⟩, ?_, hsync.parent⟩,
          fun hfollowUp => ?_, hhandled⟩)
        · simpa using hsync.other
        · exact absurd (htype.symm.trans hfollowUp.1.type) (by decide)
    · have hhandled := handleFollowUp_exchange rtOpts length hwr
        (decide (n.port.portIdentity = n.port.msgTmpHeader.sourcePortIdentity)) n.port.msgTmpHeader
      rw [(dispatchMsg_of_type rtOpts length hversion hdomain htype).2 rfl]
      split at hhandled
      next h =>
        exact .inr (.inl ⟨⟨⟨h.1.2.1, h.1.1, hversion, hdomain, htype, by simpa using h.1.2.2,
          h.2.1⟩, h.2.2⟩, hhandled⟩)
      next h =>
        refine .inr (.inr ⟨fun hsync => ?_, fun hfollowUp => h
          ⟨⟨hfollowUp.1.length, hfollowUp.1.slave, ?_⟩, hfollowUp.1.parent, hfollowUp.2⟩,
          hhandled⟩)
        · exact absurd (htype.symm.trans hsync.type) (by decide)
        · simpa using hfollowUp.1.other
  -- No other message reaches the two handlers.
  · exact .inr (.inr ⟨fun h => hmessage ⟨h.version, h.domain, .inl h.type⟩,
      fun h => hmessage ⟨h.1.version, h.1.domain, .inr h.1.type⟩,
      dispatchMsg_exchange_of_not rtOpts length hmessage⟩)

/-- The exchange after `handle`, by the frame that is received. -/
inductive Hearing (n : Node) : Exchange → Prop
  | sync : HearsSync n → Hearing n
      (n.port.exchange.withSync (received n).port.msgTmpHeader (received n).port.currentRxTs)
  | followUp (former : TimeInternal) : TakesFollowUp n → Hearing n (n.port.exchange.withFollowUp
      (toInternalTime former (msgUnpackFollowUp (received n).port.msgIbuf)))
  | other : ¬HearsSync n → ¬TakesFollowUp n → Hearing n n.port.exchange

/-- The port hears a message of an exchange, or none, and then keeps the exchange. Its servo is told
of no Sync but by a FollowUp that the port takes. -/
structure Hears (n n' : Node) : Prop where
  exchange : ∃ e, Hearing n e ∧ e.Keeps n'.port.exchange
  gotSync : n'.statics.gotSync = true → n.statics.gotSync = true ∨ TakesFollowUp n

/-- A port that hears nothing. -/
theorem KeepsExchange.hears (h : KeepsExchange n n') (hsync : ¬HearsSync n)
    (hfollowUp : ¬TakesFollowUp n) : Hears n n' :=
  ⟨⟨_, .other hsync hfollowUp, h.exchange⟩, fun hgot => .inl (h.gotSync hgot)⟩

/-- What keeps the exchange may follow. -/
theorem Hears.trans_keeps (h : Hears n n') (h' : KeepsExchange n' n'') : Hears n n'' := by
  obtain ⟨⟨e, hhearing, hkeeps⟩, hgotSync⟩ := h
  exact ⟨⟨e, hhearing, hkeeps.trans h'.exchange⟩, fun hgot => hgotSync (h'.gotSync hgot)⟩

/-- Outside `PTP_SLAVE` a port hears no message of an exchange. -/
theorem Hears.of_ne (h : Hears n n') (hslave : n.port.portState ≠ .slave) : KeepsExchange n n' := by
  rw [← received_portState n] at hslave
  obtain ⟨⟨e, hhearing, hkeeps⟩, hgotSync⟩ := h
  refine ⟨?_, fun hgot => (hgotSync hgot).resolve_right fun hfollowUp =>
    hslave hfollowUp.1.slave⟩
  cases hhearing with
  | sync hsync => exact absurd hsync.slave hslave
  | followUp _ hfollowUp => exact absurd hfollowUp.1.slave hslave
  | other => exact hkeeps

/-- `netRecvMsg` keeps the exchange. -/
theorem netRecvMsg_exchange (n : Node) : SameExchange n (netRecvMsg n).2 :=
  have hstores := netRecvMsg_stores n .keepsExchange
  ⟨hstores.exchange.resolve_left id, hstores.gotSync.resolve_left id⟩

/-- `received` keeps the exchange. -/
theorem received_exchange (n : Node) : SameExchange n (received n) :=
  (netRecvMsg_exchange n).trans (.of_eq rfl rfl)

/-- `handle` does what `Hears` says, as long as a port in `PTP_UNCALIBRATED` has a White Rabbit
mode. -/
theorem handle_exchange (rtOpts : RunTimeOpts)
    (hwr : n.port.portState = .uncalibrated → n.port.wr.wrMode ≠ .nonWr) :
    Hears n (handle rtOpts n) := by
  have hreceived := received_exchange n
  have hfailed : SameExchange n (toFaulty rtOpts (netRecvMsg n).2) :=
    (netRecvMsg_exchange n).trans (toFaulty_exchange _ _)
  -- A frame that is shorter than a header is none of the two messages.
  have hshort (h : (netRecvMsg n).1 < HEADER_LENGTH) {m : Node} (hm : SameExchange n m) :
      Hears n m := by
    refine hm.keeps.hears (fun hsync => ?_) fun hfollowUp => ?_
    · have hlength := hsync.length
      unfold SYNC_LENGTH at hlength
      unfold HEADER_LENGTH at h
      omega
    · have hlength := hfollowUp.1.length
      unfold FOLLOW_UP_LENGTH at hlength
      unfold HEADER_LENGTH at h
      omega
  unfold handle
  dsimp only
  split
  next hlength => exact hshort (lt_trans hlength (by decide)) hfailed
  split
  next hlength => exact hshort (hlength ▸ by decide) (netRecvMsg_exchange n)
  split
  next hlength => exact hshort hlength hfailed
  rw [← received_portState n, ← received_wr n] at hwr
  have hwaiting : (received n).port.waitingForFollow = n.port.waitingForFollow :=
    congrArg Exchange.waitingForFollow hreceived.exchange
  have hnumber : (received n).port.recvSyncSequenceId = n.port.recvSyncSequenceId :=
    congrArg Exchange.recvSyncSequenceId hreceived.exchange
  have hdispatched := dispatchMsg_exchange rtOpts (netRecvMsg n).1.toNat hwr
  rw [hwaiting, hnumber] at hdispatched
  change Hears n (dispatchMsg (netRecvMsg n).1.toNat rtOpts (received n))
  rcases hdispatched with ⟨hsync, hnotes⟩ | ⟨hfollowUp, former, heq⟩ | ⟨hsync, hfollowUp, hsame⟩
  · refine ⟨⟨_, .sync hsync, ?_⟩, fun hgot => .inl (hreceived.gotSync (hnotes.gotSync hgot))⟩
    rw [hnotes.exchange, hreceived.exchange]
  · refine ⟨⟨_, .followUp former hfollowUp, ?_⟩, fun _ => .inr hfollowUp⟩
    rw [heq, hreceived.exchange]
  · exact (hreceived.trans hsame).keeps.hears hsync hfollowUp

end Exchange

/-! ### Transitions -/

section Transitions

variable {rtOpts : RunTimeOpts} {n n' n'' : Node}

/-- `toWRState` is in `KeepsExchange`. -/
theorem toWRState_keepsExchange (rtOpts : RunTimeOpts) (s : WrState) (n : Node) :
    KeepsExchange n (toWRState s rtOpts n) := (toWRState_exchange rtOpts s n).keeps

/-- `timerStart` keeps the exchange. -/
theorem timerStart_exchange (n : Node) (t : PtpTimer) (interval : ℤ) :
    SameExchange n (n.timerStart t interval) := .of_eq rfl rfl

/-- Writing `portState` keeps the exchange. -/
theorem setPortState_exchange (n : Node) (state : PtpState) :
    SameExchange n { n with port.portState := state } := .of_eq rfl rfl

/-- `wrServoInit` keeps the times of the exchange in the servo, and takes `gotSync` back. -/
theorem wrServoInit_exchange (n : Node) : SameExchange n (wrServoInit n) := by
  unfold wrServoInit
  dsimp only
  split
  · exact ⟨rfl, fun h => by cases h⟩
  · exact .of_eq rfl rfl

/-- `enterState` keeps the exchange, but that `PTP_SLAVE` waits for no FollowUp. -/
theorem enterState_keepsExchange (state : PtpState) (rtOpts : RunTimeOpts) (n : Node) :
    KeepsExchange n (enterState state rtOpts n) := by
  have hset {m : Node} (h : SameExchange n m) (state : PtpState) :
      KeepsExchange n { m with port.portState := state } :=
    (h.trans (setPortState_exchange m state)).keeps
  have hstart (m : Node) (t : PtpTimer) (interval : ℤ) := timerStart_exchange m t interval
  cases state <;> unfold enterState <;> dsimp only
  case slave =>
    refine (wrServoInit_exchange n).keeps.trans ⟨.inr ?_, ?_⟩
    · rw [(setPortState_exchange _ _).exchange]
      split <;>
        rw [(timerStart_exchange _ _ _).exchange, (timerStart_exchange _ _ _).exchange] <;> rfl
    · split <;> exact id
  case uncalibrated =>
    split
    · split
      · exact hset (toWRState_exchange rtOpts .present n) _
      · exact hset (.refl n) _
    · exact .of_eq rfl rfl
  case listening => exact hset (hstart n _ _) _
  case master => exact hset (((hstart n _ _).trans (hstart _ _ _)).trans (hstart _ _ _)) _
  case passive => exact hset ((hstart n _ _).trans (hstart _ _ _)) _
  all_goals exact hset (.refl n) _

/-- `toState` is in `KeepsExchange`. -/
theorem toState_keepsExchange (state : PtpState) (rtOpts : RunTimeOpts) (n : Node) :
    KeepsExchange n (toState state rtOpts n) := by
  unfold toState
  split
  · rfl
  · exact (leaveState_exchange rtOpts n).keeps.trans (enterState_keepsExchange _ _ _)

/-! ### The White Rabbit state machine -/

/-- Moves of the White Rabbit state machine that receive nothing keep the exchange. -/
theorem silentMoves_exchange (h : Relation.ReflTransGen SilentMove n n') : SameExchange n n' :=
  sequence_of_preorder .refl .trans (fun hmove => by cases hmove <;> exact .of_eq rfl rfl) h

/-- The end of a call is a `toWRState`, and `doWrLinkOn` may change the state by `toState`. -/
theorem WrEnd.keepsExchange (h : WrEnd rtOpts n n') : KeepsExchange n n' := by
  have hset (n : Node) (wr : WrPortDS) : KeepsExchange n { n with port.wr := wr } := .of_eq rfl rfl
  cases h with
  | stay => rfl
  | enter => exact toWRState_keepsExchange _ _ _
  | lock => exact (toWRState_keepsExchange rtOpts .sLock n).trans (hset _ _)
  | calibrated =>
    have hissue := (Issue.run_exchange rtOpts n (.wrSignaling CALIBRATED)).keeps
    exact (hissue.trans (toWRState_keepsExchange rtOpts .calibrated _)).trans (hset _ _)
  | linkOn =>
    have hidle := toWRState_keepsExchange rtOpts .idle n
    unfold doWrLinkOn
    dsimp only
    split
    · exact hidle.trans (toState_keepsExchange _ _ _)
    · exact hidle.trans (toState_keepsExchange _ _ _)
    · exact hidle

/-- So a call that receives nothing is in `KeepsExchange`. -/
theorem SilentRun.keepsExchange (h : SilentRun rtOpts n n') : KeepsExchange n n' := by
  obtain ⟨m, hmoves, hend⟩ := h
  exact (silentMoves_exchange hmoves).keeps.trans hend.keepsExchange

/-- Giving a link set-up up is in `KeepsExchange`. -/
theorem abandon_keepsExchange (rtOpts : RunTimeOpts) (wrMode : WrMode) (n : Node) :
    KeepsExchange n (abandon rtOpts wrMode n) := by
  have hoff : KeepsExchange n { n with port.wr.wrModeON := false } := .of_eq rfl rfl
  have hreset (m : Node) : KeepsExchange m (initWrData .init m) := .of_eq rfl rfl
  unfold abandon
  exact ((hoff.trans (toWRState_keepsExchange rtOpts .idle _)).trans
    (toState_keepsExchange _ _ _)).trans (hreset _)

/-- `wrStateActions` is in `KeepsExchange` outside `PTP_SLAVE`: what it receives is no part of an
exchange. -/
theorem wrStateActions_keepsExchange (rtOpts : RunTimeOpts) (hslave : n.port.portState ≠ .slave)
    (hwr : n.port.portState = .uncalibrated → n.port.wr.wrMode ≠ .nonWr) :
    KeepsExchange n (wrStateActions rtOpts n) := by
  cases hhearing : wrHearing n with
  | none =>
    have hrun : SilentRun rtOpts n (wrStateActions rtOpts n) := wrStateActions_silentRun hhearing
    exact hrun.keepsExchange
  | some k =>
    have hrun : SilentRun rtOpts (handle rtOpts k) (wrStateActions rtOpts n) :=
      wrStateActions_hearingRun hhearing
    have hk : k.port.portState = n.port.portState ∧ k.port.wr.wrMode = n.port.wr.wrMode := by
      rcases wrHearing_cases hhearing with ⟨-, rfl⟩ | ⟨-, c, rfl⟩ <;> exact ⟨rfl, rfl⟩
    have hhandle := (handle_exchange rtOpts (by rwa [hk.1, hk.2])).of_ne (hk.1 ▸ hslave)
    exact ((silentMoves_exchange (wrHearing_moves hhearing)).keeps.trans hhandle).trans
      hrun.keepsExchange

/-- `doWRState` outside `PTP_SLAVE`: the actions of the state, then its time-out. -/
theorem doWRState_keepsExchange (rtOpts : RunTimeOpts) (hslave : n.port.portState ≠ .slave)
    (hwr : n.port.portState = .uncalibrated → n.port.wr.wrMode ≠ .nonWr) :
    KeepsExchange n (doWRState rtOpts n) := by
  have hpolled (m : Node) (s : WrState) : KeepsExchange m (wrTimerPolled s m) := .of_eq rfl rfl
  unfold doWRState
  dsimp only
  refine (wrStateActions_keepsExchange rtOpts hslave hwr).trans ?_
  generalize wrStateActions rtOpts n = m
  rcases wrTimerExpired_cases rtOpts m m.port.wr.wrPortState.mainState m.port.wr.wrMode with
    ⟨-, h⟩ | ⟨-, h | h | h⟩ <;> rw [h]
  · exact hpolled _ _
  · exact (hpolled _ _).trans (toWRState_keepsExchange _ _ _)
  · exact (hpolled _ _).trans (abandon_keepsExchange _ _ _)

/-! ### The phases of a port -/

/-- Polling the timers of a port has the footprint `keepsExchange`. -/
theorem timers_keepsExchange (h : Handled rtOpts .keepsExchange n n') : KeepsExchange n n' :=
  (h.exchange id).keeps

/-- `announceReceiptTimeoutExpires` forgets the masters and enters a state by `toState`. -/
theorem announceReceiptTimeoutExpires_keepsExchange (rtOpts : RunTimeOpts) (n : Node) :
    KeepsExchange n (announceReceiptTimeoutExpires rtOpts n) := by
  have hforget : KeepsExchange n (forgetMasters n) := .of_eq rfl rfl
  have hm1 : KeepsExchange n (m1 (forgetMasters n)) := .of_eq rfl rfl
  rw [announceReceiptTimeoutExpires_eq]
  split
  · exact hm1.trans (toState_keepsExchange _ _ _)
  split
  · exact hforget.trans (toState_keepsExchange _ _ _)
  · exact hforget

/-- `slaveTimers`: the announce receipt timer, then the timer of the requests. -/
theorem slaveTimers_keepsExchange (rtOpts : RunTimeOpts) (n : Node) :
    KeepsExchange n (slaveTimers rtOpts n) := by
  have hreceipt : KeepsExchange n
      (onTimer .announceReceipt (announceReceiptTimeoutExpires rtOpts) n) := by
    have hpolled : KeepsExchange n (n.timerPolled .announceReceipt) := .of_eq rfl rfl
    unfold onTimer
    split
    · exact hpolled.trans (announceReceiptTimeoutExpires_keepsExchange rtOpts _)
    · exact hpolled
  rw [slaveTimers_eq]
  exact hreceipt.trans (timers_keepsExchange (requestTimer_handled rtOpts _ rfl))

/-- `doStateActions` calls `handle` at most once, and what it does besides is in `KeepsExchange`. -/
theorem doStateActions_exchange (rtOpts : RunTimeOpts) (n : Node) :
    Hears n (doStateActions rtOpts n) := by
  -- Outside `PTP_SLAVE` nothing is heard, so that it is enough to keep the exchange.
  have hother (hslave : n.port.portState ≠ .slave)
      (h : KeepsExchange n (doStateActions rtOpts n)) : Hears n (doStateActions rtOpts n) := by
    rw [← received_portState n] at hslave
    exact h.hears (fun h => hslave h.slave) fun h => hslave h.1.slave
  have hcleared (m : Node) :
      KeepsExchange m { m with port.wr.msgTmpWrMessageID := NULL_WR_TLV } := .of_eq rfl rfl
  have hslaveActions (hstate : n.port.portState ≠ .uncalibrated) :
      Hears n (doSlaveActions rtOpts n) :=
    (handle_exchange rtOpts fun h => absurd h hstate).trans_keeps (slaveTimers_keepsExchange _ _)
  have hhandle (hstate : n.port.portState ≠ .uncalibrated) (hslave : n.port.portState ≠ .slave) :
      KeepsExchange n (handle rtOpts n) :=
    (handle_exchange rtOpts fun h => absurd h hstate).of_ne hslave
  cases hstate : n.port.portState
  case slave | passive =>
    unfold doStateActions
    simp only [hstate]
    exact hslaveActions (by rw [hstate]; decide)
  case listening =>
    unfold doStateActions at hother ⊢
    simp only [hstate] at hother ⊢
    split
    next h =>
      rw [if_pos h] at hother
      have hm1 : KeepsExchange n (m1 n) := .of_eq rfl rfl
      exact hother (by decide) (hm1.trans (toState_keepsExchange _ _ _))
    next => exact hslaveActions (by rw [hstate]; decide)
  all_goals
    refine hother (by rw [hstate]; decide) ?_
    unfold doStateActions
    simp only [hstate]
  case initializing | preMaster => rfl
  case faulty => exact toState_keepsExchange _ _ _
  case disabled => exact hhandle (by rw [hstate]; decide) (by rw [hstate]; decide)
  case uncalibrated =>
    split
    next hslave =>
      exact .trans (doWRState_keepsExchange rtOpts (by rw [hstate]; decide)
        fun _ => by rw [hslave]; decide) (hcleared _)
    next => exact .trans (toState_keepsExchange _ _ _) (hcleared _)
  case master =>
    have hnot : n.port.portState ≠ .slave ∧ n.port.portState ≠ .uncalibrated := by
      rw [hstate]
      decide
    split
    · exact .trans (doWRState_keepsExchange rtOpts hnot.1 fun h => absurd h hnot.2) (hcleared _)
    · have htimers : KeepsExchange n (masterTimers rtOpts (handle rtOpts n)) :=
        (hhandle hnot.2 hnot.1).trans (timers_keepsExchange (masterTimers_handled rtOpts _ rfl))
      rw [doMasterActions_eq]
      dsimp only
      split
      · exact htimers.trans (toState_keepsExchange _ _ _)
      · exact htimers

/-- `stateDecision` is in `KeepsExchange`: `bmc`, then a transition. -/
theorem stateDecision_keepsExchange (rtOpts : RunTimeOpts) (bestForeign : ForeignMasterRecord)
    (n : Node) : KeepsExchange n (stateDecision rtOpts bestForeign n) := by
  by_cases hdecides : Decides n
  · have hbmc (m : Node) : KeepsExchange m (bmc bestForeign m).2 := by
      have hupdate {m : Node} {r : PtpState × Node} (h : BmcUpdate m r) : KeepsExchange m r.2 := by
        cases h <;> exact .of_eq rfl rfl
      have hcopy : KeepsExchange m (copyD0 m) := .of_eq rfl rfl
      exact (bmc_update m bestForeign).elim hupdate fun h => hcopy.trans (hupdate h)
    have hdeciding : KeepsExchange n (deciding n) := .of_eq rfl rfl
    rw [stateDecision_of rtOpts n bestForeign hdecides]
    refine (hdeciding.trans (hbmc _)).trans ?_
    generalize bmc bestForeign (deciding n) = decision
    rcases followRecommendation_cases rtOpts decision.2 decision.1 with h | ⟨s, h⟩ | h <;> rw [h]
    · exact toState_keepsExchange _ _ _
    · refine .trans ?_ (toState_keepsExchange .uncalibrated rtOpts _)
      exact .of_eq rfl rfl
  · rw [stateDecision_of_not rtOpts n bestForeign hdecides]

/-- `doInit` does not clear the exchange. -/
theorem doInit_keepsExchange (rtOpts : RunTimeOpts) (n : Node) :
    KeepsExchange n (doInit rtOpts n) := by
  have hinit : KeepsExchange n (initialized rtOpts n) := by
    unfold initialized
    dsimp only
    split <;> split <;> exact .of_eq rfl rfl
  rw [doInit_eq]
  exact hinit.trans (toState_keepsExchange _ _ _)

/-- `updateLink` initializes the port when the link comes up, and marks it otherwise. -/
theorem updateLink_keepsExchange (rtOpts : RunTimeOpts) (n : Node) :
    KeepsExchange n (updateLink rtOpts n) := by
  have hlink (up : Bool) : KeepsExchange n { n.called .getPortState with port.linkUP := up } :=
    .of_eq rfl rfl
  unfold updateLink
  generalize (n.answer .getPortState : Bool) = up
  dsimp only
  split
  · have hinit := ((hlink up).trans (toState_keepsExchange .initializing rtOpts _)).trans
      (doInit_keepsExchange rtOpts _)
    generalize doInit rtOpts _ = m at hinit ⊢
    refine hinit.trans ?_
    split <;> exact .of_eq rfl rfl
  split
  · split <;> split <;> exact .of_eq rfl rfl
  · exact hlink up

/-- The link phase is in `KeepsExchange`. -/
theorem linked_keepsExchange (rtOpts : RunTimeOpts) (n : Node) :
    KeepsExchange n (linked rtOpts n) := by
  unfold linked
  dsimp only
  split
  · exact (updateLink_keepsExchange rtOpts n).trans (doInit_keepsExchange _ _)
  · exact updateLink_keepsExchange rtOpts n

end Transitions

/-! ### Steps -/

/-- The port as it has received the frame of a step. -/
def receiver (i : ℕ) (m : Oracle × Daemon) : Node := received (m.2.node i m.1)

/-- In this step a port hears a Sync of its parent. -/
def SyncHeard (i : ℕ) (m : Oracle × Daemon) : Prop :=
  m.2.phase = .act i ∧ HearsSync (m.2.node i m.1)

instance {i : ℕ} {m : Oracle × Daemon} : Decidable (SyncHeard i m) := by
  unfold SyncHeard HearsSync
  infer_instance

/-- In this step a port takes the FollowUp that it waits for. -/
def FollowUpHeard (i : ℕ) (m : Oracle × Daemon) : Prop :=
  m.2.phase = .act i ∧ TakesFollowUp (m.2.node i m.1)

instance {i : ℕ} {m : Oracle × Daemon} : Decidable (FollowUpHeard i m) := by
  unfold FollowUpHeard TakesFollowUp
  infer_instance

/-- What becomes of the exchange of a port in a step. -/
inductive ExchangeStep (i : ℕ) (m : Oracle × Daemon) : Exchange → Prop
  | sync : SyncHeard i m → ExchangeStep i m ((m.2.ports i).exchange.withSync
      (receiver i m).port.msgTmpHeader (receiver i m).port.currentRxTs)
  | followUp (former : TimeInternal) : FollowUpHeard i m →
      ExchangeStep i m ((m.2.ports i).exchange.withFollowUp
        (toInternalTime former (msgUnpackFollowUp (receiver i m).port.msgIbuf)))
  | other : ¬SyncHeard i m → ¬FollowUpHeard i m → ExchangeStep i m (m.2.ports i).exchange

section Steps

variable {rtOpts : RunTimeOpts}

/-- A step of a port that is not its turn to act, or of another port. -/
theorem ExchangeStep.of_ne {i : ℕ} {o : Oracle} {d : Daemon} (hphase : d.phase ≠ .act i) :
    ExchangeStep i (o, d) (d.ports i).exchange :=
  .other (fun h => hphase h.1) fun h => hphase h.1

/-- A step in which a Sync is heard is none in which a FollowUp is. -/
theorem SyncHeard.not_followUpHeard {i j : ℕ} {m : Oracle × Daemon} (h : SyncHeard i m) :
    ¬FollowUpHeard j m := by
  intro hfollowUp
  obtain rfl : i = j := by simpa using h.1.symm.trans hfollowUp.1
  exact absurd (h.2.type.symm.trans hfollowUp.2.1.type) (by decide)

/-- In a step of the daemon a port hears at most one message of an exchange. -/
theorem step_exchange (rtOpts : RunTimeOpts) (o : Oracle) (d : Daemon) (i : ℕ) :
    ∃ e, ExchangeStep i (o, d) e ∧ e.Keeps ((Daemon.step rtOpts o d).ports i).exchange := by
  -- A port that does not act in this step has its exchange kept.
  have hstored {j : ℕ} {n : Node} {phase : Phase} (hphase : d.phase ≠ .act i)
      (h : KeepsExchange (d.node j o) n) :
      ∃ e, ExchangeStep i (o, d) e ∧ e.Keeps ((d.store j n phase).ports i).exchange := by
    refine ⟨_, .of_ne hphase, ?_⟩
    by_cases hij : i = j
    · subst hij
      rw [Daemon.store_ports_self]
      exact h.exchange
    · rw [Daemon.store_ports_of_ne _ _ hij]
  cases hphase : d.phase with
  | link j =>
    obtain ⟨phase, heq, -⟩ := Daemon.step_link rtOpts o hphase
    rw [heq]
    exact hstored (by rw [hphase]; rintro ⟨⟩) (linked_keepsExchange _ _)
  | decide j =>
    rw [Daemon.step_decide rtOpts o hphase]
    exact hstored (by rw [hphase]; rintro ⟨⟩) (stateDecision_keepsExchange _ _ _)
  | act j =>
    rw [Daemon.step_act rtOpts o hphase]
    by_cases hij : i = j
    · subst hij
      obtain ⟨e, hhearing, hkeeps⟩ := (doStateActions_exchange rtOpts (d.node i o)).exchange
      rw [Daemon.store_ports_self]
      refine ⟨e, ?_, hkeeps⟩
      cases hhearing with
      | sync hsync => exact .sync ⟨hphase, hsync⟩
      | followUp former hfollowUp => exact .followUp former ⟨hphase, hfollowUp⟩
      | other hsync hfollowUp => exact .other (fun h => hsync h.2) fun h => hfollowUp h.2
    · rw [Daemon.store_ports_of_ne _ _ hij]
      exact ⟨_, .of_ne (by rw [hphase]; rintro ⟨⟩; exact hij rfl), .refl _⟩
  | shared =>
    obtain ⟨tics, extsrcLocked, heq⟩ := Daemon.step_shared rtOpts o hphase
    rw [heq]
    dsimp only
    rw [sharedPortsLoop_port d.ports tics extsrcLocked d.clk i]
    exact ⟨_, .of_ne (by rw [hphase]; rintro ⟨⟩), .refl _⟩

/-- The servo is told of no Sync but by a FollowUp that a port takes (`FollowUpHeard`). -/
theorem step_gotSync {o : Oracle} {d : Daemon}
    (hgot : (Daemon.step rtOpts o d).statics.gotSync = true) :
    d.statics.gotSync = true ∨ ∃ i, FollowUpHeard i (o, d) := by
  cases hphase : d.phase with
  | link j =>
    obtain ⟨phase, heq, -⟩ := Daemon.step_link rtOpts o hphase
    rw [heq] at hgot
    exact .inl ((linked_keepsExchange rtOpts (d.node j o)).gotSync hgot)
  | decide j =>
    rw [Daemon.step_decide rtOpts o hphase] at hgot
    exact .inl ((stateDecision_keepsExchange rtOpts d.bestForeign (d.node j o)).gotSync hgot)
  | act j =>
    rw [Daemon.step_act rtOpts o hphase] at hgot
    exact ((doStateActions_exchange rtOpts (d.node j o)).gotSync hgot).imp_right
      fun hfollowUp => ⟨j, hphase, hfollowUp⟩
  | shared =>
    obtain ⟨tics, extsrcLocked, heq⟩ := Daemon.step_shared rtOpts o hphase
    rw [heq] at hgot
    exact .inl hgot

end Steps

/-! ### Runs -/

/-- The steps of the run of some environments. -/
abbrev Daemon.trace (rtOpts : RunTimeOpts) (d : Daemon) (os : List Oracle) :
    List (Oracle × Daemon) := InputSystem.trace (Daemon.step rtOpts) d os

/-- A Sync is the one that a port waits for the FollowUp of. -/
structure Awaited (i : ℕ) (sync : Oracle × Daemon) (e : Exchange) : Prop where
  twoStep : (receiver i sync).port.msgTmpHeader.TwoStep
  sequenceId : e.recvSyncSequenceId = (receiver i sync).port.msgTmpHeader.sequenceId
  syncReceiveTime : timeintToWr e.syncReceiveTime e.syncReceiveTime.correct =
    { (receiver i sync).port.currentRxTs with sec := i32 (receiver i sync).port.currentRxTs.sec }

/-- Two times are those of a Sync and of its FollowUp. -/
structure Paired (i : ℕ) (sync followUp : Oracle × Daemon) (t1 t2 : WrTimestamp) : Prop where
  twoStep : (receiver i sync).port.msgTmpHeader.TwoStep
  sequenceId : (receiver i sync).port.msgTmpHeader.sequenceId =
    (receiver i followUp).port.msgTmpHeader.sequenceId
  /-- The time that the message carries, which is converted without a look at the result. -/
  t1 : ∃ former, t1 = timeintToWr { toInternalTime former
    (msgUnpackFollowUp (receiver i followUp).port.msgIbuf) with phase := 0 } 1
  /-- The time that was measured, in seconds of 32 bits. -/
  t2 : t2 =
    { (receiver i sync).port.currentRxTs with sec := i32 (receiver i sync).port.currentRxTs.sec }

/-- Where the times of an exchange stem from. -/
structure Documented (i : ℕ) (steps : List (Oracle × Daemon)) (e : Exchange) : Prop where
  awaited : e.waitingForFollow = true →
    ∃ earlier sync, Last (SyncHeard i) earlier sync steps ∧ Awaited i sync e
  told : e.t1.correct ≠ 0 → ∃ before followUp, Last (FollowUpHeard i) before followUp steps ∧
    ∃ earlier sync, Last (SyncHeard i) earlier sync before ∧ Paired i sync followUp e.t1 e.t2

section Runs

variable {rtOpts : RunTimeOpts} {d : Daemon} {i : ℕ} {steps : List (Oracle × Daemon)}

/-- `Documented` of an exchange that is kept. -/
theorem Documented.keeps {e e' : Exchange} (h : Documented i steps e) (hkeeps : e.Keeps e') :
    Documented i steps e' := by
  rcases hkeeps with rfl | rfl
  · exact h
  · exact ⟨(fun hwaiting => by cases hwaiting), h.told⟩

/-- A step extends the documented run: a Sync becomes the last one, a FollowUp is paired with it. -/
theorem Documented.step {m : Oracle × Daemon} {e' : Exchange}
    (h : Documented i steps (m.2.ports i).exchange) (hstep : ExchangeStep i m e') :
    Documented i (steps ++ [m]) e' := by
  cases hstep with
  | sync hsync =>
    have htold {e : Exchange} (ht1 : e.t1 = (m.2.ports i).exchange.t1)
        (ht2 : e.t2 = (m.2.ports i).exchange.t2) (hcorrect : e.t1.correct ≠ 0) :
        ∃ before followUp, Last (FollowUpHeard i) before followUp (steps ++ [m]) ∧
          ∃ earlier sync, Last (SyncHeard i) earlier sync before ∧
            Paired i sync followUp e.t1 e.t2 := by
      rw [ht1] at hcorrect
      obtain ⟨before, followUp, hlast, hpair⟩ := h.told hcorrect
      rw [ht1, ht2]
      exact ⟨before, followUp, hlast.concat hsync.not_followUpHeard, hpair⟩
    unfold Exchange.withSync
    dsimp only
    split
    next htwoStep =>
      exact ⟨fun _ => ⟨_, m, .self hsync, htwoStep, rfl, rfl⟩, htold rfl rfl⟩
    -- A Sync without the two-step flag is not waited for.
    next => exact ⟨(fun hwaiting => by cases hwaiting), htold rfl rfl⟩
  | followUp former hfollowUp =>
    obtain ⟨earlier, sync, hlast, hawaited⟩ := h.awaited hfollowUp.2.2.1
    refine ⟨(fun hwaiting => by cases hwaiting), fun _ => ⟨steps, m, .self hfollowUp, earlier, sync,
      hlast, hawaited.twoStep, ?_, ⟨former, rfl⟩, hawaited.syncReceiveTime⟩⟩
    exact hawaited.sequenceId.symm.trans hfollowUp.2.2.2
  | other hsync hfollowUp =>
    refine ⟨fun hwaiting => ?_, fun hcorrect => ?_⟩
    · obtain ⟨earlier, sync, hlast, hawaited⟩ := h.awaited hwaiting
      exact ⟨earlier, sync, hlast.concat hsync, hawaited⟩
    · obtain ⟨before, followUp, hlast, hpair⟩ := h.told hcorrect
      exact ⟨before, followUp, hlast.concat hfollowUp, hpair⟩

/-- `Documented` holds along every run, by induction on the run. -/
theorem Daemon.documented (hstart : Daemon.Initial rtOpts d) (os : List Oracle) (i : ℕ) :
    Documented i (d.trace rtOpts os)
      ((runInputs (Daemon.step rtOpts) d os).ports i).exchange := by
  refine trace_invariant (I := fun steps d => Documented i steps (d.ports i).exchange) ?_
    (fun steps d o h => ?_) os
  · -- Before the first step the servo has been told nothing.
    obtain ⟨-, macs, extsrcLocked, tics, clk, rfl⟩ := hstart
    exact ⟨(fun hwaiting => by cases hwaiting), fun hcorrect => absurd rfl hcorrect⟩
  · obtain ⟨e, hstep, hkeeps⟩ := step_exchange rtOpts o d i
    exact (h.step hstep).keeps hkeeps

/-- In every run whose frames fit, the times that the servo of a port was given are those of the
last FollowUp that the port took (`FollowUpHeard`) and of the last Sync that it heard before it
(`SyncHeard`): both were messages of its parent when they were received, with the same number
(`Paired`). -/
theorem servo_exchanged {os : List Oracle} (hrun : d.FittingRun rtOpts os) (i : ℕ)
    (htold : ((runInputs (Daemon.step rtOpts) d os).ports i).servo.t1.correct ≠ 0) :
    ∃ before followUp, Last (FollowUpHeard i) before followUp (d.trace rtOpts os) ∧
      ∃ earlier sync, Last (SyncHeard i) earlier sync before ∧
        Paired i sync followUp ((runInputs (Daemon.step rtOpts) d os).ports i).servo.t1
          ((runInputs (Daemon.step rtOpts) d os).ports i).servo.t2 :=
  (Daemon.documented hrun.initial os i).told htold

end Runs

/-! ### A slave that is told the times of a Sync -/

/-- The first Sync of a White Rabbit master. -/
def masterSync : List UInt8 :=
  let master := Daemon.singleNode ![2, 0, 0, 0, 0, 2] .wrMaster
  (msgPackSync master.port.msgObuf .zero master.port).octets SYNC_LENGTH

/-- Its FollowUp, which is packed when the counter of the Sync messages has moved on. -/
def masterFollowUp : List UInt8 :=
  let master := Daemon.singleNode ![2, 0, 0, 0, 0, 2] .wrMaster
  let sent := { master.port with sentSyncSequenceId := master.port.sentSyncSequenceId + 1 }
  (msgPackFollowUp master.port.msgObuf sent).octets FOLLOW_UP_LENGTH

/-- After the link set-up a slave hears a Sync, nothing, and the FollowUp. -/
def toldRun : List Oracle :=
  askingRun ++ [some masterSync, none, some masterFollowUp].flatMap slaveIteration

set_option maxRecDepth 100000 in
/-- The servo of this slave is told the times of a Sync. -/
theorem servo_exchanged_toldRun :
    let servo := ((runInputs (Daemon.step (defaultRtOpts 1)) (Daemon.single ![2, 0, 0, 0, 0, 1])
      toldRun).ports 0).servo
    ∃ before followUp, Last (FollowUpHeard 0) before followUp
        ((Daemon.single ![2, 0, 0, 0, 0, 1]).trace (defaultRtOpts 1) toldRun) ∧
      ∃ earlier sync, Last (SyncHeard 0) earlier sync before ∧
        Paired 0 sync followUp servo.t1 servo.t2 :=
  servo_exchanged ⟨Daemon.single_initial _, by decide +kernel⟩ 0 (by decide +kernel)

end WhiteRabbitPtp
