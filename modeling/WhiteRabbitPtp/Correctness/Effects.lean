import Mathlib.Logic.Relation
import WhiteRabbitPtp.Correctness.Frames

/-!
# What handling a message does, effect by effect

The handlers differ in what they check and in what they store. Beyond the data that a port receives
and measures they do only a few things: the port fails, a timer is started, or a message is issued.
So a preorder that contains these effects contains what every handler does. Which messages a handler
issues, and whether it writes the data of an exchange or the interval of the requests, is its
footprint. An Announce message first writes the foreign masters; a Signaling message of another port
writes the White Rabbit data and is told apart.

## Main definitions

* `Issue`: a message a port issues.
* `Footprint`: what effects may do.
* `Stores`: only what a port receives and measures changes.
* `Effect`: one effect of a handler, or of a timer, inside a footprint.
* `Handled`: effects one after the other.
* `Announced`: the foreign masters are written for an Announce message.
* `Dispatched`: what dispatching a message may do.

## Main results

* `sequence_of_preorder`: a preorder that contains some steps contains all sequences of them.
* `dispatchMsg_dispatched`: a message that is dispatched has these effects.
-/

namespace WhiteRabbitPtp

open Octets Relation

/-! ### Messages that are issued -/

/-- A message a port issues. -/
inductive Issue
  | announce
  | sync
  | followup
  | delayReq
  | delayResp (header : MsgHeader)
  | pdelayReq
  | pdelayResp (header : MsgHeader)
  | pdelayRespFollowUp (header : MsgHeader)
  | wrSignaling (wrMessageID : UInt16)

namespace Issue

/-- Issue a message. -/
def run (rtOpts : RunTimeOpts) (n : Node) : Issue → Node
  | announce => issueAnnounce rtOpts n
  | sync => issueSync rtOpts n
  | followup => issueFollowup rtOpts n
  | delayReq => issueDelayReq rtOpts n
  | delayResp header => issueDelayResp header rtOpts n
  | pdelayReq => issuePDelayReq rtOpts n
  | pdelayResp header => issuePDelayResp header rtOpts n
  | pdelayRespFollowUp header => issuePDelayRespFollowUp header rtOpts n
  | wrSignaling wrMessageID => issueWRSignalingMsg wrMessageID rtOpts n

/-- The type of an issued message. -/
def type : Issue → UInt8
  | announce => ANNOUNCE
  | sync => SYNC
  | followup => FOLLOW_UP
  | delayReq => DELAY_REQ
  | delayResp _ => DELAY_RESP
  | pdelayReq => PDELAY_REQ
  | pdelayResp _ => PDELAY_RESP
  | pdelayRespFollowUp _ => PDELAY_RESP_FOLLOW_UP
  | wrSignaling _ => SIGNALING

end Issue

/-- The types of the messages that a port sends in a state in answer to others, with end-to-end
delays or with peer-to-peer ones. -/
def PtpState.answers (e2e : Bool) : PtpState → List UInt8
  | master => SIGNALING :: if e2e then [DELAY_RESP] else [PDELAY_RESP, PDELAY_RESP_FOLLOW_UP]
  | slave => DELAY_REQ :: if e2e then [] else [PDELAY_RESP, PDELAY_RESP_FOLLOW_UP]
  | passive => if e2e then [] else [PDELAY_RESP]
  | listening | uncalibrated | initializing | faulty | disabled | preMaster => []

/-! ### The effects -/

/-- What a port remembers of the last Sync, and the times of the last exchange that its servo has.
-/
structure Exchange where
  waitingForFollow : Bool
  recvSyncSequenceId : UInt16
  syncReceiveTime : TimeInternal
  t1 : WrTimestamp
  t2 : WrTimestamp

/-- The exchange of a port, in its data set and that of its servo. -/
def PtpPortDS.exchange (port : PtpPortDS) : Exchange :=
  { waitingForFollow := port.waitingForFollow
    recvSyncSequenceId := port.recvSyncSequenceId
    syncReceiveTime := port.syncReceiveTime
    t1 := port.servo.t1
    t2 := port.servo.t2 }

/-- What effects may do: the types of the messages they may issue, and whether they may write what
is remembered of an exchange and the interval of the requests. -/
structure Footprint where
  kinds : List UInt8
  exchange : Prop
  interval : Prop

/-- All that effects do. -/
def Footprint.any : Footprint where
  kinds := [ANNOUNCE, SYNC, FOLLOW_UP, DELAY_REQ, DELAY_RESP, PDELAY_REQ, PDELAY_RESP,
    PDELAY_RESP_FOLLOW_UP, SIGNALING]
  exchange := True
  interval := True

/-- `Footprint.any` has the answers of every state. -/
theorem answers_subset_any (e2e : Bool) (state : PtpState) :
    state.answers e2e ⊆ Footprint.any.kinds := by
  cases state <;> cases e2e <;> decide

/-- Only what a port receives and measures changes, inside a footprint, and the data of its servo;
of the environment anything but a transmission is asked for. -/
structure Stores (p : Footprint) (n n' : Node) : Prop where
  clk : n'.clk = n.clk
  clockIdentity : n'.port.clockIdentity = n.port.clockIdentity
  portIdentity : n'.port.portIdentity = n.port.portIdentity
  versionNumber : n'.port.versionNumber = n.port.versionNumber
  linkUP : n'.port.linkUP = n.port.linkUP
  portState : n'.port.portState = n.port.portState
  wr : n'.port.wr = n.port.wr
  fm : n'.port.fm = n.port.fm
  timers : n'.port.timers = n.port.timers
  announceReceiptTimeout : n'.port.announceReceiptTimeout = n.port.announceReceiptTimeout
  logAnnounceInterval : n'.port.logAnnounceInterval = n.port.logAnnounceInterval
  logSyncInterval : n'.port.logSyncInterval = n.port.logSyncInterval
  msgObuf : n'.port.msgObuf = n.port.msgObuf
  sentDelayReq : n'.port.sentDelayReqSequenceId = n.port.sentDelayReqSequenceId
  sentPDelayReq : n'.port.sentPDelayReqSequenceId = n.port.sentPDelayReqSequenceId
  delayReqTxTs : n'.port.delayReqTxTs = n.port.delayReqTxTs
  exchange : p.exchange ∨ n'.port.exchange = n.port.exchange
  gotSync : p.exchange ∨ (n'.statics.gotSync = true → n.statics.gotSync = true)
  interval : p.interval ∨ n'.port.logMinDelayReqInterval = n.port.logMinDelayReqInterval
  answers : n'.netif.oracle.answers = n.netif.oracle.answers
  used : n'.netif.oracle.used .sendto = n.netif.oracle.used .sendto
  sent : n'.netif.sent = n.netif.sent

/-- One effect of a handler, or of a timer, inside a footprint. -/
inductive Effect (rtOpts : RunTimeOpts) (p : Footprint) (n : Node) : Node → Prop
  | stores {n' : Node} : Stores p n n' → Effect rtOpts p n n'
  | toFaulty : Effect rtOpts p n (toFaulty rtOpts n)
  | restartAnnounceReceipt : Effect rtOpts p n (restartAnnounceReceipt n)
  | timerPolled (t : PtpTimer) : Effect rtOpts p n (n.timerPolled t)
  -- Signaling messages are sent by transitions of the White Rabbit state machine.
  | issue (message : Issue) : message.type ≠ SIGNALING → message.type ∈ p.kinds →
      Effect rtOpts p n (message.run rtOpts n)

/-- Effects one after the other. -/
abbrev Handled (rtOpts : RunTimeOpts) (p : Footprint) : Node → Node → Prop :=
  ReflTransGen (Effect rtOpts p)

section Handled

variable {rtOpts : RunTimeOpts} {p : Footprint} {n n' : Node}

/-- One `Effect` is `Handled`. -/
theorem Effect.handled (h : Effect rtOpts p n n') : Handled rtOpts p n n' := .single h

/-- So is a change in `Stores`. -/
theorem Stores.handled (h : Stores p n n') : Handled rtOpts p n n' := (Effect.stores h).handled

/-- A message that is issued, by the function of its kind. -/
theorem Issue.handled (message : Issue) (hkinds : message.type ∈ p.kinds)
    (htype : message.type ≠ SIGNALING) : Handled rtOpts p n (message.run rtOpts n) :=
  (Effect.issue message htype hkinds).handled

/-- A preorder that contains some steps contains all sequences of them. -/
theorem sequence_of_preorder {S R : Node → Node → Prop} (hrefl : ∀ n, R n n)
    (htrans : ∀ {n n' n''}, R n n' → R n' n'' → R n n'') (hstep : ∀ {n n'}, S n n' → R n n')
    (h : ReflTransGen S n n') : R n n' := by
  induction h with
  | refl => exact hrefl n
  | tail _ hlast ih => exact htrans ih (hstep hlast)

/-- `sequence_of_preorder` for the effects of a footprint. -/
theorem Handled.of_effect {R : Node → Node → Prop} (hrefl : ∀ n, R n n)
    (htrans : ∀ {n n' n''}, R n n' → R n' n'' → R n n'')
    (heffect : ∀ {n n'}, Effect rtOpts p n n' → R n n') (h : Handled rtOpts p n n') : R n n' :=
  sequence_of_preorder hrefl htrans heffect h

/-- Polling a timer whose action consists of effects. -/
theorem onTimer_handled {t : PtpTimer} {action : Node → Node}
    (h : ∀ m, Handled rtOpts p m (action m)) : Handled rtOpts p n (onTimer t action n) := by
  have hpolled : Handled rtOpts p n (n.timerPolled t) := (Effect.timerPolled t).handled
  unfold onTimer
  split
  · exact hpolled.trans (h _)
  · exact hpolled

/-- A condition for another handler. -/
theorem Handled.ite {c : Prop} [Decidable c] {m m' : Node} (h : Handled rtOpts p n m)
    (h' : Handled rtOpts p n m') : Handled rtOpts p n (if c then m else m') :=
  iteInduction (fun _ => h) fun _ => h'

end Handled

/-! ### The servo -/

section Servo

variable (n : Node)

/-- The servo changes its own data and gives orders to the hardware. -/
theorem servoStep_stores (p : Footprint) (hw : WrTimestamp) (tics : UInt64) :
    Stores p n (servoStep n hw tics) := by
  simp only [servoStep]
  split <;> try split_ifs
  all_goals constructor <;> first | rfl | exact .inr rfl | exact .inr id

end Servo

/-! ### Announce messages -/

/-- Adding a foreign master only adds or overwrites a record. -/
theorem addForeign_fm (header : MsgHeader) (port : PtpPortDS) :
    (addForeign header port).fm.foreignRecordBest = port.fm.foreignRecordBest ∧
      (addForeign header port).fm.maxForeignRecords = port.fm.maxForeignRecords ∧
      port.fm.numberForeignRecords ≤ (addForeign header port).fm.numberForeignRecords ∧
      (addForeign header port).fm.recordUpdate = port.fm.recordUpdate := by
  unfold addForeign
  dsimp only
  split
  · simp
  · refine ⟨rfl, rfl, ?_, rfl⟩
    dsimp only
    split <;> omega

/-- Adding a foreign master changes nothing else of the port. -/
theorem addForeign_eq (header : MsgHeader) (port : PtpPortDS) :
    addForeign header port = { port with fm := (addForeign header port).fm } := by
  unfold addForeign
  dsimp only
  split <;> rfl

/-- Setting the mark first makes no difference. -/
theorem addForeign_recordUpdate (header : MsgHeader) (port : PtpPortDS) :
    addForeign header { port with fm.recordUpdate := true } =
      { addForeign header port with
        fm := { (addForeign header port).fm with recordUpdate := true } } := by
  have hfind : ∀ rounds j, findForeign { port.fm with recordUpdate := true }
      header.sourcePortIdentity rounds j =
        findForeign port.fm header.sourcePortIdentity rounds j := by
    intro rounds
    induction rounds with
    | zero => intro j; rfl
    | succ rounds ih => intro j; simp only [findForeign, ih]
  unfold addForeign
  dsimp only
  rw [hfind]
  split <;> rfl

/-- An Announce message is stored in the best record, in that of its sender, or nowhere. -/
inductive Announced (n : Node) : Node → Prop
  | ignored : Announced n n
  | parent (record : ForeignMasterRecord) (announce : MsgAnnounce) : Announced n { n with
      port.msgTmpAnnounce := announce
      port.fm := { n.port.fm with
        foreign := Function.update n.port.fm.foreign n.port.fm.foreignRecordBest record
        recordUpdate := true } }
  | added (header : MsgHeader) : Announced n { n with
      port := { addForeign header n.port with
        fm := { (addForeign header n.port).fm with recordUpdate := true } } }

section Handlers

variable (rtOpts : RunTimeOpts) (p : Footprint) (header : MsgHeader) (length : ℕ)
  (isFromSelf : Bool) (n : Node)

/-- An Announce message is stored, and then the announce receipt timer may be started. -/
theorem handleAnnounce_announced : ∃ m, Announced n m ∧
    Handled rtOpts p m (handleAnnounce header length isFromSelf rtOpts n) := by
  unfold handleAnnounce
  split
  · exact ⟨n, .ignored, Effect.toFaulty.handled⟩
  split
  · exact ⟨n, .ignored, .refl⟩
  · exact ⟨n, .ignored, .refl⟩
  · exact ⟨n, .ignored, .refl⟩
  -- `PTP_UNCALIBRATED` and `PTP_SLAVE`: a message of the parent, or one for the table.
  · split
    · exact ⟨n, .ignored, .refl⟩
    dsimp only
    split
    · exact ⟨_, .parent _ _, Effect.restartAnnounceReceipt.handled⟩
    · rw [addForeign_recordUpdate]
      exact ⟨_, .added header, Effect.restartAnnounceReceipt.handled⟩
  · split
    · exact ⟨n, .ignored, .refl⟩
    dsimp only
    split
    · exact ⟨_, .parent _ _, Effect.restartAnnounceReceipt.handled⟩
    · rw [addForeign_recordUpdate]
      exact ⟨_, .added header, Effect.restartAnnounceReceipt.handled⟩
  -- In the other states every sender is looked up in the table.
  · split
    · exact ⟨n, .ignored, .refl⟩
    · exact ⟨_, .added header, .refl⟩

/-! ### Event and general messages -/

variable {p}

/-- `slaveHandleSync` writes the exchange only. -/
theorem slaveHandleSync_handled (hexchange : p.exchange) :
    Handled rtOpts p n (slaveHandleSync header isFromSelf n) := by
  simp only [slaveHandleSync]
  split_ifs <;> refine Stores.handled ?_ <;> constructor <;>
    first | rfl | exact .inl hexchange | exact .inr rfl

/-- `handleSync` fails, or writes the exchange. -/
theorem handleSync_handled (hexchange : p.exchange) :
    Handled rtOpts p n (handleSync header length isFromSelf rtOpts n) := by
  unfold handleSync
  split
  · exact Effect.toFaulty.handled
  split
  · split
    · rfl
    · exact slaveHandleSync_handled rtOpts _ _ _ hexchange
  · exact slaveHandleSync_handled rtOpts _ _ _ hexchange
  · rfl

/-- A FollowUp that is used is answered by a DelayReq. -/
theorem slaveHandleFollowUp_handled (hexchange : p.exchange) (hkinds : DELAY_REQ ∈ p.kinds) :
    Handled rtOpts p n (slaveHandleFollowUp header rtOpts n) := by
  simp only [slaveHandleFollowUp, toLocalTime]
  split
  · refine .trans (Stores.handled ?_) (Issue.handled .delayReq hkinds (by decide))
    constructor <;> first | rfl | exact .inl hexchange | exact .inr rfl
  · rfl

/-- `handleFollowUp` issues its request in `PTP_SLAVE`, or in `PTP_UNCALIBRATED` without a White
Rabbit mode. -/
theorem handleFollowUp_handled (hexchange : p.exchange)
    (hkinds : n.port.portState = .slave ∨
      n.port.portState = .uncalibrated ∧ n.port.wr.wrMode = .nonWr → DELAY_REQ ∈ p.kinds) :
    Handled rtOpts p n (handleFollowUp header length isFromSelf rtOpts n) := by
  unfold handleFollowUp
  split
  · exact Effect.toFaulty.handled
  split
  · rfl
  split
  next hstate =>
    split
    next => rfl
    next hmode =>
      exact slaveHandleFollowUp_handled _ _ _ hexchange (hkinds (.inr ⟨hstate, not_not.mp hmode⟩))
  next hstate => exact slaveHandleFollowUp_handled _ _ _ hexchange (hkinds (.inl hstate))
  next => rfl

/-- `wrServoUpdate` keeps the times it works on. -/
theorem wrServoUpdate_handled : Handled rtOpts p n (wrServoUpdate n) := by
  simp only [wrServoUpdate]
  split
  · rfl
  split
  · rfl
  refine .tail (Stores.handled ?_) (.stores (servoStep_stores _ _ _ _))
  -- The Sync is used up by the update.
  split <;> constructor <;> first | rfl | exact .inr rfl | exact .inr fun h => by cases h

/-- `handleDelayResp` runs the servo, and writes the interval of the requests. -/
theorem handleDelayResp_handled (hinterval : p.interval) :
    Handled rtOpts p n (handleDelayResp header length rtOpts n) := by
  unfold handleDelayResp
  split
  · rfl
  split
  · exact Effect.toFaulty.handled
  split
  · dsimp only [toLocalTime]
    split
    · -- The time of the answer is stored before the servo runs, its interval after it.
      have hlearn (n : Node) :
          Stores p n { n with port.logMinDelayReqInterval := header.logMessageInterval } := by
        constructor <;> first | rfl | exact .inl hinterval | exact .inr rfl | exact .inr id
      refine .tail (.trans (Stores.handled ?_) (wrServoUpdate_handled _ _)) (.stores (hlearn _))
      constructor <;> first | rfl | exact .inr rfl | exact .inr id
    · rfl
  · rfl

/-- `handlePDelayRespFollowUp` fails, or measures the delay to the peer. -/
theorem handlePDelayRespFollowUp_handled :
    Handled rtOpts p n (handlePDelayRespFollowUp header length rtOpts n) := by
  simp only [handlePDelayRespFollowUp, toLocalTime]
  split
  · rfl
  split
  · exact Effect.toFaulty.handled
  split <;> try split
  all_goals first
    | rfl
    | (refine Stores.handled ?_
       constructor <;> first | rfl | exact .inr rfl | exact .inr id)

/-! ### Requests -/

variable {n} (hkinds : n.port.portState.answers rtOpts.E2E_mode ⊆ p.kinds)

include hkinds

/-- `handleDelayReq` answers by a DelayResp in `PTP_MASTER`. -/
theorem handleDelayReq_handled : Handled rtOpts p n (handleDelayReq length rtOpts n) := by
  unfold handleDelayReq
  split
  · rfl
  next hmode =>
    split
    · exact Effect.toFaulty.handled
    split
    next hstate =>
      have hanswers : DELAY_RESP ∈ n.port.portState.answers rtOpts.E2E_mode := by
        rw [hstate, show rtOpts.E2E_mode = true by simpa using hmode]
        decide
      have htype : DELAY_RESP ≠ SIGNALING := by decide
      refine .trans (Stores.handled ?_) (Issue.handled (.delayResp _) (hkinds hanswers) htype)
      constructor <;> first | rfl | exact .inr rfl | exact .inr id
    next => rfl

/-- `handlePDelayReq` answers by a PDelayResp in `PTP_MASTER`, `PTP_SLAVE` and `PTP_PASSIVE`. -/
theorem handlePDelayReq_handled (time : TimeInternal) :
    Handled rtOpts p n (handlePDelayReq header length time isFromSelf rtOpts n) := by
  unfold handlePDelayReq
  split
  · rfl
  next hmode =>
    have hmode : rtOpts.E2E_mode = false := by simpa using hmode
    split
    · exact Effect.toFaulty.handled
    split
    case h_1 hstate | h_2 hstate | h_3 hstate =>
      have hanswers : PDELAY_RESP ∈ n.port.portState.answers rtOpts.E2E_mode := by
        rw [hstate, hmode]
        decide
      split
      · refine Stores.handled ?_
        constructor <;> first | rfl | exact .inr rfl | exact .inr id
      · have htype : PDELAY_RESP ≠ SIGNALING := by decide
        refine .trans (Stores.handled ?_) (Issue.handled (.pdelayResp _) (hkinds hanswers) htype)
        constructor <;> first | rfl | exact .inr rfl | exact .inr id
    case h_4 => rfl

/-- `handlePDelayResp` answers its own messages by a PDelayRespFollowUp, in `PTP_MASTER` and
`PTP_SLAVE`. -/
theorem handlePDelayResp_handled (time : TimeInternal) :
    Handled rtOpts p n (handlePDelayResp header time length isFromSelf rtOpts n) := by
  simp only [handlePDelayResp, toLocalTime]
  split
  · rfl
  next hmode =>
    have hmode : rtOpts.E2E_mode = false := by simpa using hmode
    split
    · exact Effect.toFaulty.handled
    split
    case h_1 hstate | h_2 hstate =>
      have hanswers : PDELAY_RESP_FOLLOW_UP ∈ n.port.portState.answers rtOpts.E2E_mode := by
        rw [hstate, hmode]
        decide
      split_ifs
      · have htype : PDELAY_RESP_FOLLOW_UP ≠ SIGNALING := by decide
        exact Issue.handled (.pdelayRespFollowUp _) (hkinds hanswers) htype
      all_goals
        refine Stores.handled ?_
        constructor <;> first | rfl | exact .inr rfl | exact .inr id
    case h_3 => rfl

end Handlers

/-! ### The dispatch -/

/-- The message that is dispatched is a Signaling message of another port. -/
structure SignalingDispatched (n : Node) : Prop where
  version : n.port.msgTmpHeader.versionPTP = n.port.versionNumber
  domain : n.port.msgTmpHeader.domainNumber = n.clk.domainNumber
  type : n.port.msgTmpHeader.messageType = SIGNALING
  other : n.port.portIdentity ≠ n.port.msgTmpHeader.sourcePortIdentity

/-- What dispatching a message may do. -/
inductive Dispatched (rtOpts : RunTimeOpts) (n : Node) : Node → Prop
  | announce {m n' : Node} : n.port.msgTmpHeader.messageType = ANNOUNCE → Announced n m →
      Handled rtOpts .any m n' → Dispatched rtOpts n n'
  | handled {n' : Node} : Handled rtOpts .any n n' → Dispatched rtOpts n n'
  | signaling : SignalingDispatched n →
      Dispatched rtOpts n (handleSignaling false rtOpts n)

/-- `dispatchMsg` does what `Dispatched` says, by the type of the message. -/
theorem dispatchMsg_dispatched (rtOpts : RunTimeOpts) (n : Node) (length : ℕ) :
    Dispatched rtOpts n (dispatchMsg length rtOpts n) := by
  have hkinds : n.port.portState.answers rtOpts.E2E_mode ⊆ Footprint.any.kinds :=
    answers_subset_any _ _
  -- The type of the message is tested once for each handler.
  refine iteInduction (fun _ => .handled .refl) fun hversion => ?_
  refine iteInduction (fun _ => .handled .refl) fun hdomain => ?_
  refine iteInduction (fun htype => ?_) fun _ => ?_
  · obtain ⟨m, hm, h⟩ := handleAnnounce_announced rtOpts .any n.port.msgTmpHeader length
      (decide (n.port.portIdentity = n.port.msgTmpHeader.sourcePortIdentity)) n
    exact .announce htype hm h
  refine iteInduction (fun _ => .handled (handleSync_handled _ _ _ _ _ trivial)) fun _ => ?_
  refine iteInduction (fun _ => .handled (handleFollowUp_handled _ _ _ _ _ trivial
    fun _ => by decide)) fun _ => ?_
  refine iteInduction (fun _ => .handled (handleDelayReq_handled _ _ hkinds)) fun _ => ?_
  refine iteInduction (fun _ => .handled (handlePDelayReq_handled _ _ _ _ hkinds _)) fun _ => ?_
  refine iteInduction (fun _ => .handled (handlePDelayResp_handled _ _ _ _ hkinds _)) fun _ => ?_
  refine iteInduction (fun _ => .handled (handlePDelayRespFollowUp_handled _ _ _ _)) fun _ => ?_
  refine iteInduction (fun _ => .handled (handleDelayResp_handled _ _ _ _ trivial)) fun _ => ?_
  refine iteInduction (fun htype => ?_) fun _ => .handled .refl
  by_cases hself : n.port.portIdentity = n.port.msgTmpHeader.sourcePortIdentity
  · rw [decide_eq_true hself]
    exact .handled .refl
  · rw [decide_eq_false hself]
    exact .signaling ⟨not_not.mp hversion, not_not.mp hdomain, htype, hself⟩

end WhiteRabbitPtp
