import WhiteRabbitPtp.Correctness.RequestInterval
import WhiteRabbitPtp.Correctness.SharedBuffer
import WhiteRabbitPtp.Correctness.Signaling

/-!
# The messages that handlers send

A port sends messages of its own accord, by timers, and in answer to others. All of them are packed
into one buffer, in which initialization leaves the header of the port.

## Main definitions

* `PtpState.sends`: the types of the messages that a port may send in a state.
* `PtpState.signals`: the types of the messages that it sends on entering the state.
* `Bears`: what the receiver of a frame reads in its header.
* `Timed`, `Headed`: the timers of a port are those of its state, and the buffer has its header.
* `Handles`: what everything but a transition does with them, and the messages it sends.

## Main results

* `Issue.run_handles`: an issued message bears its type and the identity of the port.
* `handle_handles`: whatever is received, a port answers it with messages of its state only.
-/

namespace WhiteRabbitPtp

open Octets Buffer InputSystem

/-! ### The messages of a state -/

/-- The types of the messages that a port may send in a state, with end-to-end delays or with
peer-to-peer ones. -/
def PtpState.sends (e2e : Bool) : PtpState → List UInt8
  | master => [SYNC, FOLLOW_UP, ANNOUNCE, SIGNALING] ++
      if e2e then [DELAY_RESP] else [PDELAY_REQ, PDELAY_RESP, PDELAY_RESP_FOLLOW_UP]
  | slave => DELAY_REQ :: if e2e then [] else [PDELAY_REQ, PDELAY_RESP, PDELAY_RESP_FOLLOW_UP]
  | passive => if e2e then [] else [PDELAY_REQ, PDELAY_RESP]
  -- A port that has just become a master polls the timer of its requests in the same call.
  | listening => if e2e then [] else [PDELAY_REQ]
  | uncalibrated => [SIGNALING]
  | initializing | faulty | disabled | preMaster => []

/-- The answers of a state are among the messages it sends. -/
theorem PtpState.answers_subset_sends (e2e : Bool) (state : PtpState) :
    state.answers e2e ⊆ state.sends e2e := by
  cases state <;> cases e2e <;> decide

/-- The types of the messages that a port sends when it enters a state: a slave announces itself
when it starts to set up its link. -/
def PtpState.signals : PtpState → List UInt8
  | uncalibrated => [SIGNALING]
  | _ => []

/-- A receiver of the frame reads a message of one of these types, of version 2, that a port has
sent. A port without a White Rabbit mode sends empty frames in place of Signaling messages. -/
def Bears (kinds : List UInt8) (identity : PortIdentity) (frame : List UInt8) : Prop :=
  if frame = [] then SIGNALING ∈ kinds
  else
    let header := msgUnpackHeader (frameBuffer frame)
    header.messageType ∈ kinds ∧ header.versionPTP = 2 ∧ header.sourcePortIdentity = identity

/-- The frames a node sends until it becomes another one are messages of some types. -/
def SendsOnly (kinds : List UInt8) (n n' : Node) : Prop :=
  ∃ frames, n'.netif.sent = n.netif.sent ++ frames ∧
    ∀ frame ∈ frames, Bears kinds n.port.portIdentity frame

/-- `Bears` is monotone in the types. -/
theorem Bears.mono {kinds kinds' : List UInt8} {identity : PortIdentity} {frame : List UInt8}
    (h : Bears kinds identity frame) (hkinds : kinds ⊆ kinds') : Bears kinds' identity frame := by
  unfold Bears at h ⊢
  split at h
  next hnil => rw [if_pos hnil]; exact hkinds h
  next hcons => rw [if_neg hcons]; exact ⟨hkinds h.1, h.2⟩

namespace SendsOnly

variable {kinds kinds' : List UInt8} {n n' n'' : Node}

/-- Nothing is sent. -/
theorem of_eq (h : n'.netif.sent = n.netif.sent) : SendsOnly kinds n n' :=
  ⟨[], by simp [h], by simp⟩

theorem mono (h : SendsOnly kinds n n') (hkinds : kinds ⊆ kinds') : SendsOnly kinds' n n' := by
  obtain ⟨frames, hsent, hbears⟩ := h
  exact ⟨frames, hsent, fun frame hframe => (hbears frame hframe).mono hkinds⟩

theorem trans (h : SendsOnly kinds n n') (h' : SendsOnly kinds n' n'')
    (hidentity : n'.port.portIdentity = n.port.portIdentity) : SendsOnly kinds n n'' := by
  obtain ⟨frames, hsent, hbears⟩ := h
  obtain ⟨frames', hsent', hbears'⟩ := h'
  refine ⟨frames ++ frames', by rw [hsent', hsent, List.append_assoc], fun frame hframe => ?_⟩
  rcases List.mem_append.mp hframe with hframe | hframe
  · exact hbears frame hframe
  · exact hidentity ▸ hbears' frame hframe

end SendsOnly

/-! ### Timers and header -/

/-- The current interval of a timer, `0` when it is stopped. -/
def PtpPortDS.interval (port : PtpPortDS) (t : PtpTimer) : ℤ := (port.timers t).interval

/-- No timer that messages are sent by is running. The announce interval timer is left out: it goes
on after `PTP_PASSIVE`. -/
structure Quiet (port : PtpPortDS) : Prop where
  sync : port.interval .sync = 0
  delayReq : port.interval .delayReq = 0
  pdelayReq : port.interval .pdelayReq = 0

/-- A master times its Sync and Announce messages as configured; the timers of the Sync messages and
of the requests run in no other states than those that send these. -/
structure Timed (rtOpts : RunTimeOpts) (port : PtpPortDS) : Prop where
  logSyncInterval : port.logSyncInterval = rtOpts.syncInterval
  logAnnounceInterval : port.logAnnounceInterval = rtOpts.announceInterval
  master : port.portState = .master →
    port.interval .sync = i32 (1000 * pow2 rtOpts.syncInterval) ∧
      port.interval .announceInterval = i32 (1000 * pow2 rtOpts.announceInterval)
  sync : port.interval .sync ≠ 0 → port.portState = .master
  delayReq : port.interval .delayReq ≠ 0 → port.portState = .slave ∧ rtOpts.E2E_mode = true
  pdelayReq : port.interval .pdelayReq ≠ 0 → port.portState = .master ∨
    port.portState = .passive ∨ port.portState = .slave ∧ rtOpts.E2E_mode = false

/-- The output buffer has the header of the port. -/
structure Headed (port : PtpPortDS) : Prop where
  version : (msgUnpackHeader port.msgObuf).versionPTP = 2
  source : (msgUnpackHeader port.msgObuf).sourcePortIdentity = port.portIdentity

/-- What of a port goes into its messages or says how often it sends them, the timers apart. -/
structure Outgoing where
  portIdentity : PortIdentity
  logSyncInterval : Int8
  logAnnounceInterval : Int8
  msgObuf : Buffer

/-- The outgoing data of a port. -/
def PtpPortDS.outgoing (port : PtpPortDS) : Outgoing :=
  { portIdentity := port.portIdentity
    logSyncInterval := port.logSyncInterval
    logAnnounceInterval := port.logAnnounceInterval
    msgObuf := port.msgObuf }

/-- `Headed` depends on the outgoing data only. -/
theorem Headed.of_eq {port port' : PtpPortDS} (h : Headed port)
    (hport : port'.outgoing = port.outgoing) : Headed port' := by
  have hbuf : port'.msgObuf = port.msgObuf := congrArg Outgoing.msgObuf hport
  have hidentity : port'.portIdentity = port.portIdentity := congrArg Outgoing.portIdentity hport
  exact ⟨by rw [hbuf, h.version], by rw [hbuf, h.source, hidentity]⟩

section Interval

variable (n : Node) (t t' : PtpTimer) (interval : ℤ)

/-- `timerStop` makes the interval of its timer `0`. -/
@[simp]
theorem interval_timerStop :
    (n.timerStop t).port.interval t' = if t' = t then 0 else n.port.interval t' := by
  by_cases h : t' = t
  · subst h
    simp [PtpPortDS.interval, Node.timerStop, IntervalTimer.stop]
  · simp [PtpPortDS.interval, Node.timerStop, h]

/-- `timerStart` makes the interval of its timer the given one, as a 32-bit number. -/
@[simp]
theorem interval_timerStart :
    (n.timerStart t interval).port.interval t' =
      if t' = t then i32 interval else n.port.interval t' := by
  by_cases h : t' = t
  · subst h
    simp [PtpPortDS.interval, Node.timerStart, IntervalTimer.start]
  · simp [PtpPortDS.interval, Node.timerStart, h]

/-- `timerPolled` moves the start of its timer only. -/
@[simp]
theorem interval_timerPolled : (n.timerPolled t).port.interval t' = n.port.interval t' := by
  by_cases h : t' = t
  · subst h
    simp only [PtpPortDS.interval, Node.timerPolled, Function.update_self]
    unfold IntervalTimer.polled
    split <;> rfl
  · simp [PtpPortDS.interval, Node.timerPolled, h]

end Interval

/-- A port that is `Quiet` and not in `PTP_MASTER` is `Timed`. -/
theorem Quiet.timed {rtOpts : RunTimeOpts} {port : PtpPortDS} (h : Quiet port)
    (hsync : port.logSyncInterval = rtOpts.syncInterval)
    (hannounce : port.logAnnounceInterval = rtOpts.announceInterval)
    (hstate : port.portState ≠ .master) : Timed rtOpts port :=
  ⟨hsync, hannounce, fun hmaster => absurd hmaster hstate, fun hne => absurd h.sync hne,
    fun hne => absurd h.delayReq hne, fun hne => absurd h.pdelayReq hne⟩

/-! ### Everything but transitions -/

/-- What everything but a transition does: the state and the timers go on, or the port ends in
`PTP_FAULTY` with its timers stopped; the header of the buffer stays, and the messages sent are of
the given types. -/
structure Handles (rtOpts : RunTimeOpts) (kinds : List UInt8) (n n' : Node) : Prop where
  identity : n'.port.portIdentity = n.port.portIdentity
  logSyncInterval : n'.port.logSyncInterval = n.port.logSyncInterval
  logAnnounceInterval : n'.port.logAnnounceInterval = n.port.logAnnounceInterval
  headed : Headed n.port → Headed n'.port
  interval : ∀ t ≠ .announceReceipt,
    n'.port.interval t = n.port.interval t ∨ n'.port.interval t = 0
  state : n'.port.portState = n.port.portState ∧
      (∀ t ≠ .announceReceipt, n'.port.interval t = n.port.interval t) ∨
    n'.port.portState = .faulty ∧ (Timed rtOpts n.port → Quiet n'.port)
  sent : Headed n.port → SendsOnly kinds n n'

namespace Handles

variable {rtOpts : RunTimeOpts} {kinds kinds' : List UInt8} {n n' n'' : Node}

/-- `Handles` keeps `Timed`. -/
theorem timed (h : Handles rtOpts kinds n n') (hn : Timed rtOpts n.port) :
    Timed rtOpts n'.port := by
  have hsync := h.logSyncInterval.trans hn.logSyncInterval
  have hannounce := h.logAnnounceInterval.trans hn.logAnnounceInterval
  rcases h.state with ⟨hstate, hinterval⟩ | ⟨hfaulty, hquiet⟩
  · refine ⟨hsync, hannounce, ?_, ?_, ?_, ?_⟩ <;> rw [hstate]
    · rw [hinterval _ (by decide), hinterval _ (by decide)]
      exact hn.master
    · rw [hinterval _ (by decide)]
      exact hn.sync
    · rw [hinterval _ (by decide)]
      exact hn.delayReq
    · rw [hinterval _ (by decide)]
      exact hn.pdelayReq
  · exact (hquiet hn).timed hsync hannounce (by rw [hfaulty]; decide)

/-- `Handles` keeps `Quiet`. -/
theorem quiet (h : Handles rtOpts kinds n n') (hn : Quiet n.port) : Quiet n'.port := by
  have hstopped {t : PtpTimer} (ht : t ≠ .announceReceipt) (hzero : n.port.interval t = 0) :
      n'.port.interval t = 0 := (h.interval t ht).elim (·.trans hzero) id
  exact ⟨hstopped (by decide) hn.sync, hstopped (by decide) hn.delayReq,
    hstopped (by decide) hn.pdelayReq⟩

theorem mono (h : Handles rtOpts kinds n n') (hkinds : kinds ⊆ kinds') :
    Handles rtOpts kinds' n n' :=
  { h with sent := fun hn => (h.sent hn).mono hkinds }

/-- A change of other data. -/
theorem of_eq (hport : n'.port.outgoing = n.port.outgoing)
    (hstate : n'.port.portState = n.port.portState) (htimers : n'.port.timers = n.port.timers)
    (hsent : n'.netif.sent = n.netif.sent) : Handles rtOpts kinds n n' := by
  have hinterval (t : PtpTimer) : n'.port.interval t = n.port.interval t := by
    rw [PtpPortDS.interval, htimers]
    rfl
  exact ⟨congrArg Outgoing.portIdentity hport, congrArg Outgoing.logSyncInterval hport,
    congrArg Outgoing.logAnnounceInterval hport, fun hn => hn.of_eq hport,
    fun t _ => .inl (hinterval t), .inl ⟨hstate, fun t _ => hinterval t⟩, fun _ => .of_eq hsent⟩

/-- `Handles` is reflexive. -/
@[refl]
theorem refl (n : Node) : Handles rtOpts kinds n n := .of_eq rfl rfl rfl rfl

@[trans]
theorem trans (h : Handles rtOpts kinds n n') (h' : Handles rtOpts kinds n' n'') :
    Handles rtOpts kinds n n'' where
  identity := h'.identity.trans h.identity
  logSyncInterval := h'.logSyncInterval.trans h.logSyncInterval
  logAnnounceInterval := h'.logAnnounceInterval.trans h.logAnnounceInterval
  headed hn := h'.headed (h.headed hn)
  interval t ht := by
    rcases h'.interval t ht with heq | hzero
    · rw [heq]
      exact h.interval t ht
    · exact .inr hzero
  state := by
    rcases h'.state with ⟨hstate', hinterval'⟩ | ⟨hfaulty', hquiet'⟩
    · rcases h.state with ⟨hstate, hinterval⟩ | ⟨hfaulty, hquiet⟩
      · exact .inl ⟨hstate'.trans hstate, fun t ht => (hinterval' t ht).trans (hinterval t ht)⟩
      · exact .inr ⟨hstate'.trans hfaulty, fun hn => h'.quiet (hquiet hn)⟩
    · exact .inr ⟨hfaulty', fun hn => hquiet' (h.timed hn)⟩
  sent hn := (h.sent hn).trans (h'.sent (h.headed hn)) h.identity

end Handles

/-! ### Failing and sending -/

/-- The timers that `leaveState` stops in a state. -/
def PtpState.stops (e2e : Bool) : PtpState → List PtpTimer
  | master => [.sync, .announceInterval, .pdelayReq]
  | slave => [.announceReceipt, if e2e then .delayReq else .pdelayReq]
  | passive => [.pdelayReq, .announceReceipt]
  | listening => [.announceReceipt]
  | initializing | faulty | disabled | preMaster | uncalibrated => []

section Sending

variable {rtOpts : RunTimeOpts} {kinds : List UInt8} {n : Node}

/-- `leaveState` stops the timers of its state and no others. -/
theorem interval_leaveState (rtOpts : RunTimeOpts) (n : Node) (t : PtpTimer) :
    (leaveState rtOpts n).port.interval t =
      if t ∈ n.port.portState.stops rtOpts.E2E_mode then 0 else n.port.interval t := by
  have hslave (n : Node) (wrMode : WrMode) (wrModeON : Bool) :
      ({ n with port.wr.wrMode := wrMode, port.wr.wrModeON := wrModeON } : Node).port.interval t =
        n.port.interval t := rfl
  unfold leaveState
  cases n.port.portState <;> simp only [interval_timerStop, PtpState.stops]
  case slave =>
    rw [hslave]
    cases rtOpts.E2E_mode <;> cases t <;> simp
  all_goals cases t <;> simp

/-- `leaveState` keeps the outgoing data. -/
theorem leaveState_outgoing (rtOpts : RunTimeOpts) (n : Node) :
    (leaveState rtOpts n).port.outgoing = n.port.outgoing := by
  rw [leaveState_port]
  rfl

/-- `leaveState` leaves a `Timed` port `Quiet`: it stops all the timers that may run in the state.
-/
theorem leaveState_quiet (h : Timed rtOpts n.port) : Quiet (leaveState rtOpts n).port := by
  have hsync := not_imp_comm.mp h.sync
  have hdelayReq := not_imp_comm.mp h.delayReq
  have hpdelayReq := not_imp_comm.mp h.pdelayReq
  -- A slave stops only the one of the two timers that it has.
  cases hstate : n.port.portState <;> cases hmode : rtOpts.E2E_mode <;>
    simp [hstate, hmode] at hsync hdelayReq hpdelayReq <;> constructor <;>
      simp [interval_leaveState, PtpState.stops, *]

/-- `toFaulty` is in `Handles`, by its second case. -/
theorem toFaulty_handles (rtOpts : RunTimeOpts) (kinds : List UInt8) (n : Node) :
    Handles rtOpts kinds n (toFaulty rtOpts n) := by
  have hport := leaveState_outgoing rtOpts n
  unfold toFaulty
  split
  · rfl
  · refine ⟨congrArg Outgoing.portIdentity hport, congrArg Outgoing.logSyncInterval hport,
      congrArg Outgoing.logAnnounceInterval hport, fun hn => hn.of_eq hport, fun t _ => ?_,
      .inr ⟨rfl, fun hn => ?_⟩, fun _ => .of_eq (leaveState_sent _ _)⟩
    · exact (ite_eq_or_eq _ _ _).symm.imp (interval_leaveState rtOpts n t).trans
        (interval_leaveState rtOpts n t).trans
    · have hquiet := leaveState_quiet hn
      exact ⟨hquiet.sync, hquiet.delayReq, hquiet.pdelayReq⟩

/-- A packer writes neither `versionPTP` nor `sourcePortIdentity`. -/
theorem PackCall.pack_header (c : PackCall) (clk : PtpClockDS) (port : PtpPortDS) (buf : Buffer) :
    (msgUnpackHeader (c.pack clk port buf)).versionPTP = (msgUnpackHeader buf).versionPTP ∧
      (msgUnpackHeader (c.pack clk port buf)).sourcePortIdentity =
        (msgUnpackHeader buf).sourcePortIdentity := by
  by_cases hlength : 0 < c.length port
  · rw [(c.pack_packs clk port buf hlength).unpackHeader (c.messageType_and port)]
    exact ⟨rfl, rfl⟩
  · rw [c.pack_of_length hlength]
    exact ⟨rfl, rfl⟩

/-- The frame of a packed message `Bears` its type and the header in the buffer. -/
theorem PackCall.bears (c : PackCall) (clk : PtpClockDS) {port : PtpPortDS} (h : Headed port) :
    Bears [(c.fields port).messageType] port.portIdentity
      ((c.pack clk port port.msgObuf).octets (c.length port)) := by
  obtain ⟨hversion, hsource⟩ := c.pack_header clk port port.msgObuf
  unfold Bears
  split
  next hnil =>
    -- Only the packer of Signaling messages may pack nothing.
    have hlength : c.length port = 0 := by simpa using congrArg List.length hnil
    cases c with
    | message m => exact absurd hlength (m.length_pos port).ne'
    | wrSignaling id => simp [fields]
  next hcons =>
    have hpos : 0 < c.length port := by
      by_contra hnot
      exact hcons (by simp [octets, Nat.eq_zero_of_not_pos hnot])
    have hheader : msgUnpackHeader (frameBuffer ((c.pack clk port port.msgObuf).octets
        (c.length port))) = msgUnpackHeader (c.pack clk port port.msgObuf) :=
      msgUnpackHeader_congr fun i hi => load_octets_apply _ _ _ _
        (lt_of_lt_of_le hi (le_trans (by decide) (c.length_bounds port hpos).1))
    dsimp only
    rw [hheader, hversion, hsource]
    refine ⟨?_, h.version, h.source⟩
    rw [(c.pack_packs clk port port.msgObuf hpos).unpackHeader (c.messageType_and port)]
    exact List.mem_singleton_self _

/-- `issueMsg` is in `Handles` for the type of its message, when the functions that note the outcome
are. -/
theorem issueMsg_handles (c : PackCall) (htype : (c.fields n.port).messageType ∈ kinds) {length : ℕ}
    (hlength : length = c.length n.port) {record : SendResult → PtpPortDS → PtpPortDS}
    {sent : PtpPortDS → PtpPortDS}
    (hrecord : ∀ r (m : Node), Handles rtOpts kinds m { m with port := record r m.port })
    (hsent : ∀ m : Node, Handles rtOpts kinds m { m with port := sent m.port }) :
    Handles rtOpts kinds n
      (issueMsg rtOpts (c.pack n.clk n.port n.port.msgObuf) length record sent n) := by
  subst hlength
  have hpacked : Handles rtOpts kinds n
      (({ n with port.msgObuf := c.pack n.clk n.port n.port.msgObuf } : Node).sendto
        (c.length n.port)) := by
    obtain ⟨hversion, hsource⟩ := c.pack_header n.clk n.port n.port.msgObuf
    refine ⟨rfl, rfl, rfl, fun hn => ⟨hversion.trans hn.version, hsource.trans hn.source⟩,
      fun _ _ => .inl rfl, .inl ⟨rfl, fun _ _ => rfl⟩, fun hn => ⟨_, rfl, ?_⟩⟩
    intro frame hframe
    rw [List.mem_singleton.mp hframe]
    exact (c.bears n.clk hn).mono (by simpa using htype)
  refine (hpacked.trans (hrecord (n.answer .sendto) _)).trans ?_
  unfold issueMsg
  dsimp only
  split
  · exact toFaulty_handles _ _ _
  · exact hsent _

/-- `msgPackWRSignalingMsg` returns the length of the message, `0` when it packs none. -/
theorem length_msgPackWRSignalingMsg (buf : Buffer) (clk : PtpClockDS) (port : PtpPortDS)
    (wrMessageID : UInt16) : (msgPackWRSignalingMsg buf clk port wrMessageID).2.toNat =
      (PackCall.wrSignaling wrMessageID).length port := by
  by_cases hpacked : SignalingPacked port wrMessageID
  · rw [PackCall.length, if_pos hpacked]
    exact length_wrSignaling clk port buf hpacked
  · have hskipped : port.wr.wrMode = .nonWr ∨ wrMessageID = ANN_SUFIX := by
      unfold SignalingPacked at hpacked
      tauto
    rw [msgPackWRSignalingMsg, if_pos hskipped, PackCall.length, if_neg hpacked]
    rfl

/-- Every `Issue` is in `Handles` for its type. -/
theorem Issue.run_handles (rtOpts : RunTimeOpts) (n : Node) (message : Issue)
    (h : message.type ∈ kinds) : Handles rtOpts kinds n (message.run rtOpts n) := by
  -- The times and numbers that are noted matter neither for the header nor for the timers.
  cases message <;>
    simp only [Issue.run, issueAnnounce, issueSync, issueFollowup, issueDelayReq, issueDelayResp,
      issuePDelayReq, issuePDelayResp, issuePDelayRespFollowUp, issueWRSignalingMsg]
  case announce =>
    exact issueMsg_handles (.message .announce) h rfl (fun _ _ => .of_eq rfl rfl rfl rfl)
      fun _ => .of_eq rfl rfl rfl rfl
  case sync =>
    exact issueMsg_handles (.message (.sync .zero)) h rfl (fun _ _ => .of_eq rfl rfl rfl rfl)
      fun _ => .of_eq rfl rfl rfl rfl
  case followup =>
    exact issueMsg_handles (.message .followUp) h rfl (fun _ _ => .of_eq rfl rfl rfl rfl)
      fun _ => .of_eq rfl rfl rfl rfl
  case delayReq =>
    exact issueMsg_handles (.message (.delayReq .zero)) h rfl (fun _ _ => .of_eq rfl rfl rfl rfl)
      fun _ => .of_eq rfl rfl rfl rfl
  case delayResp header =>
    exact issueMsg_handles (.message (.delayResp header)) h rfl (fun _ _ => .of_eq rfl rfl rfl rfl)
      fun _ => .of_eq rfl rfl rfl rfl
  case pdelayReq =>
    exact issueMsg_handles (.message (.pdelayReq .zero)) h rfl (fun _ _ => .of_eq rfl rfl rfl rfl)
      fun _ => .of_eq rfl rfl rfl rfl
  case pdelayResp header =>
    exact issueMsg_handles (.message (.pdelayResp header)) h rfl (fun _ _ => .of_eq rfl rfl rfl rfl)
      fun _ => .of_eq rfl rfl rfl rfl
  case pdelayRespFollowUp header =>
    exact issueMsg_handles (.message (.pdelayRespFollowUp header)) h rfl
      (fun _ _ => .of_eq rfl rfl rfl rfl) fun _ => .of_eq rfl rfl rfl rfl
  case wrSignaling id =>
    exact issueMsg_handles (.wrSignaling id) h (length_msgPackWRSignalingMsg _ _ _ _)
      (fun _ _ => .of_eq rfl rfl rfl rfl) fun _ => .of_eq rfl rfl rfl rfl

/-- The effects of a White Rabbit transition send Signaling messages only. -/
theorem WrEffect.handles {n' : Node} (h : WrEffect rtOpts n n') (hkinds : SIGNALING ∈ kinds) :
    Handles rtOpts kinds n n' := by
  cases h with
  | stores h =>
    refine .of_eq ?_ ?_ ?_ h.sent <;> rw [h.port]
    rfl
  | issue id => exact Issue.run_handles rtOpts n (.wrSignaling id) hkinds

/-- `toWRState` is a sequence of these effects. -/
theorem toWRState_handles (rtOpts : RunTimeOpts) (s : WrState) (n : Node)
    (hkinds : SIGNALING ∈ kinds) : Handles rtOpts kinds n (toWRState s rtOpts n) :=
  (toWRState_entered rtOpts n s).of_effect .refl .trans fun h => h.handles hkinds

/-- `restartAnnounceReceipt` starts the one timer that `Handles` leaves out. -/
theorem restartAnnounceReceipt_handles (n : Node) :
    Handles rtOpts kinds n (restartAnnounceReceipt n) := by
  have hinterval (t : PtpTimer) (ht : t ≠ .announceReceipt) :
      (restartAnnounceReceipt n).port.interval t = n.port.interval t := by
    simp [restartAnnounceReceipt, ht]
  exact ⟨rfl, rfl, rfl, fun hn => ⟨hn.version, hn.source⟩, fun t ht => .inl (hinterval t ht),
    .inl ⟨rfl, hinterval⟩, fun _ => .of_eq rfl⟩

/-- `timerPolled` is in `Handles`. -/
theorem timerPolled_handles (rtOpts : RunTimeOpts) (kinds : List UInt8) (n : Node) (t : PtpTimer) :
    Handles rtOpts kinds n (n.timerPolled t) :=
  ⟨rfl, rfl, rfl, fun hn => ⟨hn.version, hn.source⟩, fun _ _ => .inl (interval_timerPolled _ _ _),
    .inl ⟨rfl, fun _ _ => interval_timerPolled _ _ _⟩,
    fun _ => .of_eq rfl⟩

end Sending

/-! ### The effects of the handlers -/

/-- All effects of `Effect`, with messages of these types only. -/
def Footprint.issuing (kinds : List UInt8) : Footprint := { any with kinds := kinds }

section Effects

variable {rtOpts : RunTimeOpts} {p : Footprint} {kinds : List UInt8} {n n' : Node}

/-- `Stores` is in `Handles` for any types: it sends nothing. -/
theorem Stores.handles (h : Stores p n n') : Handles rtOpts kinds n n' := by
  refine .of_eq ?_ h.portState h.timers h.sent
  unfold PtpPortDS.outgoing
  rw [h.portIdentity, h.logSyncInterval, h.logAnnounceInterval, h.msgObuf]

/-- Storing an Announce message writes the foreign masters only. -/
theorem Announced.handles (h : Announced n n') : Handles rtOpts kinds n n' := by
  cases h with
  | ignored => rfl
  | parent record announce => exact .of_eq rfl rfl rfl rfl
  | added header =>
    rw [addForeign_eq]
    exact .of_eq rfl rfl rfl rfl

/-- Every `Effect` is in `Handles` for the types of its footprint. -/
theorem Effect.handles (h : Effect rtOpts p n n') : Handles rtOpts p.kinds n n' := by
  cases h with
  | stores h => exact h.handles
  | toFaulty => exact toFaulty_handles rtOpts _ n
  | restartAnnounceReceipt => exact restartAnnounceReceipt_handles n
  | timerPolled t => exact timerPolled_handles rtOpts _ n t
  | issue message _ hkinds => exact message.run_handles rtOpts n hkinds

/-- So is every sequence of them. -/
theorem Handled.handles (h : Handled rtOpts p n n') : Handles rtOpts p.kinds n n' :=
  h.of_effect .refl .trans Effect.handles

end Effects

/-! ### Receiving -/

section Receiving

variable (rtOpts : RunTimeOpts) (kinds : List UInt8) (n : Node)

/-- `handleSignaling` answers in `PTP_MASTER` only, by entering `WRS_M_LOCK`. -/
theorem handleSignaling_handles (isFromSelf : Bool) :
    Handles rtOpts (n.port.portState.answers rtOpts.E2E_mode) n
      (handleSignaling isFromSelf rtOpts n) := by
  cases isFromSelf
  · rcases handleSignaling_cases rtOpts n with h | ⟨⟨hmaster, -⟩, h⟩ <;> rw [h]
    · exact .of_eq rfl rfl rfl rfl
    · have hkinds : SIGNALING ∈ n.port.portState.answers rtOpts.E2E_mode := by
        rw [hmaster]
        cases rtOpts.E2E_mode <;> decide
      refine .trans ?_ (toWRState_handles rtOpts _ _ hkinds)
      exact .of_eq rfl rfl rfl rfl
  · rfl

/-- `netRecvMsg` is in `Handles` for any types. -/
theorem netRecvMsg_handles : Handles rtOpts kinds n (netRecvMsg n).2 :=
  (netRecvMsg_stores n .any).handles

/-- Decoding the header does not change this. -/
theorem received_handles : Handles rtOpts kinds n (received n) :=
  (netRecvMsg_handles rtOpts kinds n).trans (.of_eq rfl rfl rfl rfl)

variable {n}

/-- `handle` is in `Handles` for the answers of the state: every handler has the footprint `issuing`
them. -/
theorem handle_answers (hwr : n.port.portState = .uncalibrated → n.port.wr.wrMode ≠ .nonWr) :
    Handles rtOpts (n.port.portState.answers rtOpts.E2E_mode) n (handle rtOpts n) := by
  have hrecv := netRecvMsg_handles rtOpts (n.port.portState.answers rtOpts.E2E_mode) n
  refine handle_induction rtOpts n hrecv (hrecv.trans (toFaulty_handles _ _ _)) fun _ => ?_
  refine (received_handles rtOpts _ n).trans ?_
  rw [← received_portState n] at hwr ⊢
  rw [← received_wr n] at hwr
  generalize received n = m at *
  set kinds := m.port.portState.answers rtOpts.E2E_mode with hkinds
  have hanswered {m' : Node} (h : Handled rtOpts (.issuing kinds) m m') :
      Handles rtOpts kinds m m' := h.handles
  have hanswers : m.port.portState.answers rtOpts.E2E_mode ⊆ (Footprint.issuing kinds).kinds :=
    List.Subset.refl _
  -- A port in `PTP_UNCALIBRATED` sets up its link, and takes no FollowUp.
  have hrequest (h : m.port.portState = .slave ∨
      m.port.portState = .uncalibrated ∧ m.port.wr.wrMode = .nonWr) : DELAY_REQ ∈ kinds := by
    rcases h with hslave | ⟨hstate, hmode⟩
    · rw [hkinds, hslave]
      exact List.mem_cons_self
    · exact absurd hmode (hwr hstate)
  refine dispatchMsg_induction rtOpts m (.refl _) (fun _ isFromSelf => ?_)
    (fun _ _ => hanswered (handleSync_handled _ _ _ _ _ trivial))
    (fun _ _ => hanswered (handleFollowUp_handled _ _ _ _ _ trivial hrequest))
    (fun _ => hanswered (handleDelayReq_handled _ _ hanswers))
    (fun _ _ => hanswered (handlePDelayReq_handled _ _ _ _ hanswers _))
    (fun _ _ => hanswered (handlePDelayResp_handled _ _ _ _ hanswers _))
    (hanswered (handlePDelayRespFollowUp_handled _ _ _ _))
    (fun _ => hanswered (handleDelayResp_handled _ _ _ _ trivial))
    fun _ => handleSignaling_handles ..
  obtain ⟨m', hm', h⟩ := handleAnnounce_announced rtOpts (.issuing kinds) m.port.msgTmpHeader
    (netRecvMsg n).1.toNat isFromSelf m
  exact hm'.handles.trans h.handles

/-- `handle` is in `Handles` for the messages of the state. -/
theorem handle_handles (hwr : n.port.portState = .uncalibrated → n.port.wr.wrMode ≠ .nonWr) :
    Handles rtOpts (n.port.portState.sends rtOpts.E2E_mode) n (handle rtOpts n) :=
  (handle_answers rtOpts hwr).mono (PtpState.answers_subset_sends _ _)

end Receiving

end WhiteRabbitPtp
