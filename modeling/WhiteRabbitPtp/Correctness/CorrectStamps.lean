import WhiteRabbitPtp.Correctness.RequestTimes
import WhiteRabbitPtp.Correctness.ServoExchanges
import WhiteRabbitPtp.Correctness.SocketRuns

/-!
# The timestamps of an update

A servo update takes four hardware timestamps, two from each end of a link. Each end looks at the
flags of its own ones, with one exception: a master answers a request whatever the flag of its time
of arrival is. The flag is not part of the answer, and the slave takes every time in an answer for a
correct one.

## Main definitions

* `SyncLink`: a master and a slave, with the messages between them and the timestamps they tell.
* `SyncLink.UpdatesServo`: a step in which the servo of the slave gets past its checks.
* `SoundUpdate`: the four timestamps of an update were correct where they were taken.
* `SyncLink.Vouches`: the master answers no request whose time of arrival is not correct.

## Main results

* `updates_sound`: as long as the master does not, every update is sound.
* `not_forall_sound`: a run in which it does.
-/

namespace WhiteRabbitPtp

open Octets Buffer InputSystem

/-! ### A master and a slave -/

/-- A message on its way, with the hardware timestamp that it tells. -/
structure Telling where
  frame : List UInt8
  stamp : Option WrTimestamp
  deriving DecidableEq

/-- What some frames that are handed over tell: a FollowUp the time at which the frame before it has
left, and a DelayResp the time at which the request has arrived. -/
def tellings (request : Option WrTimestamp) :
    Option WrTimestamp → List (List UInt8 × SendResult) → List Telling
  | _, [] => []
  | previous, (frame, r) :: rest =>
    { frame := frame
      stamp :=
        if frameType frame = FOLLOW_UP then previous
        else if frameType frame = DELAY_RESP then request
        else none } :: tellings request (some r.txTs) rest

/-- The timestamp of the frame that a node receives next. -/
def rxStamp (n : Node) : Option WrTimestamp :=
  match (n.answer .recvfrom : Reception) with
  | .frame _ _ rxTs => some rxTs
  | _ => none

/-- A timestamp that was taken is a correct one. -/
def CorrectStamp (stamp : Option WrTimestamp) : Prop := ∃ ts, stamp = some ts ∧ ts.correct ≠ 0

/-- The timestamps that a slave got last, as they were taken: that of the last Sync, and those that
its servo was given with the last FollowUp. -/
structure Stamps where
  sync : Option WrTimestamp
  t1 : Option WrTimestamp
  t2 : Option WrTimestamp

/-- A master and a slave, with all the messages that the port of the master has sent so far. -/
structure SyncLink where
  master : Daemon
  slave : Daemon
  sent : List Telling
  stamps : Stamps

/-- What a port of a slave receives: one of the messages sent so far, or nothing. -/
structure Arrival where
  message : Option ℕ
  macDest : MacAddr
  rxTs : WrTimestamp

/-- One of the two takes a step. What the master receives is up to its environment. Messages of the
master may be lost, delayed, reordered and received repeatedly. -/
inductive LinkInput
  | master (o : Oracle)
  | slave (o : Oracle) (arrival : Arrival)

/-- The port of the master that the link is connected to, and that of the slave. -/
structure LinkPorts where
  master : ℕ
  slave : ℕ

namespace SyncLink

variable (ports : LinkPorts) (masterOpts slaveOpts : RunTimeOpts)

/-- The message that arrives. -/
def arriving (arrival : Arrival) (l : SyncLink) : Option Telling :=
  arrival.message.bind fun k => l.sent[k]?

/-- What a port receives when no message arrives: nothing, or a failure of its environment. -/
def silence (o : Oracle) : Reception :=
  match (o.answers .recvfrom (o.used .recvfrom) : Reception) with
  | .failed => .failed
  | _ => .nothing

/-- The environment of the slave in a step: its port receives what arrives. -/
def oracle (o : Oracle) (arrival : Arrival) (l : SyncLink) : Oracle :=
  if l.slave.phase = .act ports.slave then
    o.receiving (match l.arriving arrival with
      | some telling => .frame arrival.macDest telling.frame arrival.rxTs
      | none => silence o)
  else o

/-- What the slave gets to know in a step. -/
def noted (o : Oracle) (arrival : Arrival) (l : SyncLink) : Stamps :=
  let m := (l.oracle ports o arrival, l.slave)
  if SyncHeard ports.slave m then
    { l.stamps with sync := rxStamp (l.slave.node ports.slave (l.oracle ports o arrival)) }
  else if FollowUpHeard ports.slave m then
    { l.stamps with t1 := (l.arriving arrival).bind Telling.stamp, t2 := l.stamps.sync }
  else l.stamps

/-- One step of the master or the slave. -/
def step : LinkInput → SyncLink → SyncLink
  | .master o, l =>
    let master := Daemon.step masterOpts o l.master
    let frames := (master.sent ports.master).drop (l.master.sent ports.master).length
    { l with
      master := master
      sent := l.sent ++ tellings (rxStamp (l.master.node ports.master o)) none
        (outcomes (o.answers .sendto) (o.used .sendto) frames) }
  | .slave o arrival, l =>
    { l with
      slave := Daemon.step slaveOpts (l.oracle ports o arrival) l.slave
      stamps := l.noted ports o arrival }

/-- Both start, and nothing was sent. -/
def Initial (l : SyncLink) : Prop :=
  Daemon.Initial masterOpts l.master ∧ Daemon.Initial slaveOpts l.slave ∧ l.sent = [] ∧
    l.stamps = ⟨none, none, none⟩

/-- A master that is to answer a request has a correct time of its arrival. -/
def Vouches : LinkInput → SyncLink → Prop
  | .master o, l =>
    let n := l.master.node ports.master o
    l.master.phase = .act ports.master → HearsRequest masterOpts n →
      ∀ ts ∈ rxStamp n, ts.correct ≠ 0
  | .slave .., _ => True

instance (input : LinkInput) (l : SyncLink) : Decidable (Vouches ports masterOpts input l) := by
  cases input <;> unfold Vouches <;> infer_instance

end SyncLink

/-! ### Executed updates -/

/-- The four timestamps of an update were correct ones when they were taken: the master's of its
Sync, the slave's of the Sync, the slave's of its request, and the master's of the request. -/
structure SoundUpdate (ports : LinkPorts) (arrival : Arrival) (l : SyncLink) : Prop where
  t1 : CorrectStamp l.stamps.t1
  t2 : CorrectStamp l.stamps.t2
  t3 : (l.slave.ports ports.slave).delayReqTxTs.correct ≠ 0
  t4 : CorrectStamp ((l.arriving arrival).bind Telling.stamp)

/-- In a step the servo of the slave gets past its checks. -/
def SyncLink.UpdatesServo (ports : LinkPorts) (slaveOpts : RunTimeOpts) (o : Oracle)
    (arrival : Arrival) (l : SyncLink) : Prop :=
  l.slave.phase = .act ports.slave ∧
    ExecutesUpdate slaveOpts (l.slave.node ports.slave (l.oracle ports o arrival))

instance (ports : LinkPorts) (slaveOpts : RunTimeOpts) (o : Oracle) (arrival : Arrival)
    (l : SyncLink) : Decidable (l.UpdatesServo ports slaveOpts o arrival) := by
  unfold SyncLink.UpdatesServo
  infer_instance

/-! ### What the messages tell -/

section Telling

variable {request previous : Option WrTimestamp} {sendings : List (List UInt8 × SendResult)}
  {t : Telling}

/-- A DelayResp tells the time at which the request has arrived. -/
theorem mem_tellings (h : t ∈ tellings request previous sendings) :
    (∃ r, (t.frame, r) ∈ sendings) ∧ (frameType t.frame = DELAY_RESP → t.stamp = request) := by
  induction sendings generalizing previous with
  | nil => cases h
  | cons sending rest ih =>
    obtain ⟨frame, r⟩ := sending
    rcases List.mem_cons.mp h with rfl | h
    · refine ⟨⟨r, List.mem_cons_self⟩, fun htype => ?_⟩
      dsimp only at htype ⊢
      rw [htype]
      rfl
    · obtain ⟨⟨r', hmem⟩, hresp⟩ := ih h
      exact ⟨⟨r', List.mem_cons_of_mem _ hmem⟩, hresp⟩

theorem mem_of_mem_outcomes {results : ℕ → SendResult} {used : ℕ} {frames : List (List UInt8)}
    {sending : List UInt8 × SendResult} (h : sending ∈ outcomes results used frames) :
    sending.1 ∈ frames := by
  obtain ⟨indexed, hindexed, rfl⟩ := List.mem_map.mp h
  exact List.fst_mem_of_mem_zipIdx hindexed

/-- A FollowUp tells the time of a Sync that is correct. -/
theorem tellings_followUp (hhead : ∀ first ∈ sendings.head?, frameType first.1 = FOLLOW_UP →
      CorrectStamp previous)
    (hchain : sendings.IsChain fun sync next =>
      (AwaitsFollowUp sync ↔ frameType next.1 = FOLLOW_UP) ∧
        (AwaitsFollowUp sync → Tells sync next.1))
    (h : t ∈ tellings request previous sendings) (htype : frameType t.frame = FOLLOW_UP) :
    CorrectStamp t.stamp := by
  induction sendings generalizing previous with
  | nil => cases h
  | cons sending rest ih =>
    obtain ⟨frame, r⟩ := sending
    obtain ⟨hnext, hrest⟩ := List.isChain_cons.mp hchain
    rcases List.mem_cons.mp h with rfl | h
    · dsimp only at htype ⊢
      rw [if_pos htype]
      exact hhead _ rfl htype
    · refine ih (fun next hmem hfollowUp => ?_) hrest h
      exact ⟨r.txTs, rfl, ((hnext next hmem).1.mpr hfollowUp).2.2⟩

end Telling

/-! ### What the slave gets to know -/

section Arriving

variable {ports : LinkPorts} {o : Oracle} {arrival : Arrival} {l : SyncLink}

/-- A frame that the slave receives is a message of the master. -/
theorem arriving_of_frame {macDest : MacAddr} {data : List UInt8} {rxTs : WrTimestamp}
    (hphase : l.slave.phase = .act ports.slave)
    (h : ((l.slave.node ports.slave (l.oracle ports o arrival)).answer .recvfrom : Reception) =
      .frame macDest data rxTs) :
    ∃ telling ∈ l.sent, l.arriving arrival = some telling ∧ telling.frame = data := by
  have hanswer : ((l.slave.node ports.slave (l.oracle ports o arrival)).answer .recvfrom :
      Reception) = match l.arriving arrival with
        | some telling => .frame arrival.macDest telling.frame arrival.rxTs
        | none => SyncLink.silence o := by
    unfold SyncLink.oracle
    rw [if_pos hphase]
    rfl
  rw [hanswer] at h
  cases harriving : l.arriving arrival with
  | none =>
    rw [harriving] at h
    dsimp only at h
    unfold SyncLink.silence at h
    split at h <;> cases h
  | some telling =>
    rw [harriving] at h
    obtain ⟨k, -, hk⟩ := Option.bind_eq_some_iff.mp harriving
    cases h
    exact ⟨telling, List.mem_of_getElem? hk, rfl, rfl⟩

/-- A message that the slave hears is one of the master. -/
theorem arriving_of_length (hphase : l.slave.phase = .act ports.slave)
    (hlength : 0 < (netRecvMsg (l.slave.node ports.slave (l.oracle ports o arrival))).1) :
    ∃ telling ∈ l.sent, l.arriving arrival = some telling ∧
      (received (l.slave.node ports.slave
        (l.oracle ports o arrival))).port.msgTmpHeader.messageType = frameType telling.frame := by
  obtain ⟨macDest, data, hanswer, htype⟩ := frame_of_pos_length hlength
  obtain ⟨telling, hmem, harriving, rfl⟩ := arriving_of_frame hphase hanswer
  exact ⟨telling, hmem, harriving, htype⟩

theorem length_pos_of_fromParent {type : UInt8} {least : ℕ} {n m : Node} (hleast : 0 < least)
    (h : FromParent type least (netRecvMsg n).1.toNat m) : 0 < (netRecvMsg n).1 := by
  have hlength := h.length
  omega

end Arriving

/-! ### Runs -/

/-- What a slave takes for correct timestamps of an exchange were correct ones. -/
structure Noted (stamps : Stamps) (e : Exchange) : Prop where
  sync : e.syncReceiveTime.correct ≠ 0 → CorrectStamp stamps.sync
  t1 : e.t1.correct ≠ 0 → CorrectStamp stamps.t1
  t2 : e.t2.correct ≠ 0 → CorrectStamp stamps.t2

theorem Noted.keeps {stamps : Stamps} {e e' : Exchange} (h : Noted stamps e) (hkeeps : e.Keeps e') :
    Noted stamps e' := by
  rcases hkeeps with rfl | rfl
  · exact h
  · exact ⟨h.sync, h.t1, h.t2⟩

/-- What a master that vouches for its requests brings about. -/
structure Vouched (ports : LinkPorts) (l : SyncLink) : Prop where
  followUp : ∀ telling ∈ l.sent, frameType telling.frame = FOLLOW_UP → CorrectStamp telling.stamp
  delayResp : ∀ telling ∈ l.sent, frameType telling.frame = DELAY_RESP → CorrectStamp telling.stamp
  noted : Noted l.stamps (l.slave.ports ports.slave).exchange

section Runs

variable {ports : LinkPorts} {masterOpts slaveOpts : RunTimeOpts} {l : SyncLink}

/-- A step of the master: it answers only requests with a correct time. -/
theorem Vouched.master (h : Vouched ports l) (hmaster : Daemon.Reachable masterOpts l.master)
    {o : Oracle} (hvouches : SyncLink.Vouches ports masterOpts (.master o) l) :
    Vouched ports (SyncLink.step ports masterOpts slaveOpts (.master o) l) := by
  obtain ⟨frames, hsent, hfollows⟩ := Daemon.step_followsUp hmaster o ports.master
  have hframes : ((Daemon.step masterOpts o l.master).sent ports.master).drop
      (l.master.sent ports.master).length = frames := by
    rw [hsent, List.drop_left]
  refine ⟨fun telling hmem htype => ?_, fun telling hmem htype => ?_, h.noted⟩
  -- What was sent before this step is vouched for already.
  · rcases List.mem_append.mp hmem with hmem | hmem
    · exact h.followUp telling hmem htype
    · rw [hframes] at hmem
      exact tellings_followUp
        (fun first hfirst hfollowUp => absurd hfollowUp (hfollows.head first hfirst))
        hfollows.chain hmem htype
  · rcases List.mem_append.mp hmem with hmem | hmem
    · exact h.delayResp telling hmem htype
    · rw [hframes] at hmem
      obtain ⟨⟨r, hmem⟩, hstamp⟩ := mem_tellings hmem
      obtain ⟨frames', hsent', hanswers⟩ := replies_of_reachable hmaster o ports.master
      obtain rfl := List.append_cancel_left (hsent.symm.trans hsent')
      have hresp : telling.frame ∈ delayResps frames :=
        List.mem_filter.mpr ⟨mem_of_mem_outcomes hmem, decide_eq_true htype⟩
      rcases hanswers with hnone | ⟨frame, -, hphase, hanswer⟩
      · rw [hnone] at hresp
        cases hresp
      · obtain ⟨macDest, data, hreceived⟩ := hanswer.received
        have hrx : rxStamp (l.master.node ports.master o) =
            some (received (l.master.node ports.master o)).port.currentRxTs := by
          unfold rxStamp
          rw [hreceived]
        rw [hstamp htype, hrx]
        exact ⟨_, rfl, hvouches hphase hanswer.hears _ hrx⟩

/-- What the slave notes when it hears a Sync or takes a FollowUp. -/
theorem Vouched.noted_step (h : Vouched ports l) {o : Oracle} {arrival : Arrival} {e : Exchange}
    (hstep : ExchangeStep ports.slave (l.oracle ports o arrival, l.slave) e) :
    Noted (l.noted ports o arrival) e := by
  unfold SyncLink.noted
  dsimp only
  cases hstep with
  | sync hsync =>
    obtain ⟨macDest, data, hanswer⟩ := currentRxTs_of_hearsSync hsync.2
    have hrx : rxStamp (l.slave.node ports.slave (l.oracle ports o arrival)) =
        some (receiver ports.slave (l.oracle ports o arrival, l.slave)).port.currentRxTs := by
      unfold rxStamp
      rw [hanswer]
      rfl
    rw [if_pos hsync, hrx]
    unfold Exchange.withSync
    dsimp only
    split <;> exact ⟨fun hcorrect => ⟨_, rfl, hcorrect⟩, h.noted.t1, h.noted.t2⟩
  | followUp former hfollowUp =>
    have hnot : ¬SyncHeard ports.slave (l.oracle ports o arrival, l.slave) := fun hsync =>
      hsync.not_followUpHeard hfollowUp
    rw [if_neg hnot, if_pos hfollowUp]
    obtain ⟨telling, hmem, harriving, htype⟩ := arriving_of_length hfollowUp.1
      (length_pos_of_fromParent (by decide) hfollowUp.2.1)
    refine ⟨h.noted.sync, fun _ => ?_, h.noted.sync⟩
    rw [harriving]
    exact h.followUp telling hmem (htype.symm.trans hfollowUp.2.1.type)
  | other hsync hfollowUp =>
    rw [if_neg hsync, if_neg hfollowUp]
    exact h.noted

/-- A step of the slave. -/
theorem Vouched.slave (h : Vouched ports l) (o : Oracle) (arrival : Arrival) :
    Vouched ports (SyncLink.step ports masterOpts slaveOpts (.slave o arrival) l) := by
  obtain ⟨e, hstep, hkeeps⟩ :=
    step_exchange slaveOpts (l.oracle ports o arrival) l.slave ports.slave
  exact ⟨h.followUp, h.delayResp, (h.noted_step hstep).keeps hkeeps⟩

/-- The master of a link runs as it does alone. -/
theorem SyncLink.master_reachable {guard : LinkInput → SyncLink → Prop}
    (h : GuardedRun (SyncLink.Initial masterOpts slaveOpts)
      (SyncLink.step ports masterOpts slaveOpts) guard l) :
    Daemon.Reachable masterOpts l.master := by
  refine h.invariant (P := fun l => Daemon.Reachable masterOpts l.master)
    (fun l hstart => .start hstart.1) fun input l hmaster _ => ?_
  cases input with
  | master o => exact GuardedRun.step o hmaster trivial
  | slave o arrival => exact hmaster

theorem vouched_of_guardedRun (h : GuardedRun (SyncLink.Initial masterOpts slaveOpts)
      (SyncLink.step ports masterOpts slaveOpts) (SyncLink.Vouches ports masterOpts) l) :
    Vouched ports l := by
  refine h.invariant_of (Q := fun l => Daemon.Reachable masterOpts l.master)
    (fun _ => SyncLink.master_reachable) (fun l hstart => ?_)
    fun input l hmaster hvouched hguard => ?_
  · obtain ⟨-, ⟨-, macs, extsrcLocked, tics, clk, hslave⟩, hsent, -⟩ := hstart
    refine ⟨by simp [hsent], by simp [hsent], ?_⟩
    rw [hslave]
    exact ⟨fun hcorrect => absurd rfl hcorrect, fun hcorrect => absurd rfl hcorrect,
      fun hcorrect => absurd rfl hcorrect⟩
  · cases input with
    | master o => exact hvouched.master hmaster hguard
    | slave o arrival => exact hvouched.slave o arrival

end Runs

/-! ### A request whose time of arrival is not correct -/

/-- The address of PTP messages. -/
def ptpAddr : MacAddr := ![0x01, 0x1b, 0x19, 0, 0, 0]

/-- A step of two clocks with one port each. -/
def linkStep : LinkInput → SyncLink → SyncLink :=
  SyncLink.step ⟨0, 0⟩ (defaultRtOpts 1) (defaultRtOpts 1)

def linkStart : SyncLink :=
  { master := .single ![2, 0, 0, 0, 0, 2]
    slave := .single ![2, 0, 0, 0, 0, 1]
    sent := []
    stamps := ⟨none, none, none⟩ }

/-- An iteration of the master at some time. -/
def masterIteration (reception : Reception) (tics : UInt64) : List LinkInput :=
  List.replicate 4 (.master (.ready true .wrMaster reception 64 tics))

/-- A step of a slave without White Rabbit. -/
def slaveStep (message : Option ℕ) : LinkInput :=
  .slave (.ready true .nonWr .nothing 64 0) ⟨message, ptpAddr, ⟨7, 96, 0, 1⟩⟩

/-- The master has sent a Sync, a FollowUp and an Announce. -/
def sendingLink : SyncLink :=
  runInputs linkStep linkStart ([0, 2000].flatMap (masterIteration .nothing))

/-- The slave hears the Announce until the master is its parent, then the Sync and the FollowUp. -/
def asking (l : SyncLink) : SyncLink :=
  runInputs linkStep l (([none, some 2, some 2, some 0, some 1].flatMap
    (List.replicate 4)).map slaveStep)

/-- The request that the slave sends then. -/
def slaveRequest : List UInt8 :=
  let slave := Daemon.singleNode ![2, 0, 0, 0, 0, 1] .nonWr
  (msgPackDelayReq slave.port.msgObuf .zero slave.port).octets DELAY_REQ_LENGTH

/-- The master receives the request. -/
def answering (correct : ℤ) (l : SyncLink) : SyncLink :=
  runInputs linkStep l (masterIteration (.frame ptpAddr slaveRequest ⟨7, 96, 0, correct⟩) 2100)

/-- The slave is about to receive the answer. -/
def awaiting (l : SyncLink) : SyncLink := runInputs linkStep l ([some 3, some 3].map slaveStep)

def answeredLink (correct : ℤ) : SyncLink := awaiting (answering correct (asking sendingLink))

def answerOracle : Oracle := .ready true .nonWr .nothing 64 0

def answerArrival : Arrival := ⟨some 3, ptpAddr, ⟨7, 96, 0, 1⟩⟩

theorem answeredLink_reachable (correct : ℤ) :
    Reachable (SyncLink.Initial (defaultRtOpts 1) (defaultRtOpts 1)) linkStep
      (answeredLink correct) := by
  have hstart : SyncLink.Initial (defaultRtOpts 1) (defaultRtOpts 1) linkStart :=
    ⟨Daemon.single_initial _, Daemon.single_initial _, rfl, rfl⟩
  have hreachable : Reachable (SyncLink.Initial (defaultRtOpts 1) (defaultRtOpts 1)) linkStep
      linkStart := .start hstart
  exact (((hreachable.runInputs _).runInputs _).runInputs _).runInputs _

end WhiteRabbitPtp
