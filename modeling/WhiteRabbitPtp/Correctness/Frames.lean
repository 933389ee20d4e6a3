import WhiteRabbitPtp.Correctness.Packing
import WhiteRabbitPtp.Model.MainLoop

/-!
# What the functions of a port leave alone

Two relations between a node and what a function makes of it. `Frame` holds of everything a port
does between its initialization and a state decision: the clock's data set, the identity and the
configuration of the port stay, and the foreign-master table only grows. `WrFrame` holds of
everything that neither is nor starts a White Rabbit transition: moreover the White Rabbit data
stay, except that an idle port may become faulty.

## Main definitions

* `FmFrame`, `Frame`, `WrFrame`: the relations.

## Main results

* `toFaulty_wrFrame`, `issueMsg_wrFrame`: failing and sending a message.
* `issueAnnounce_wrFrame` and its siblings: issuing a message of one type.
* `wrServoInit_wrFrame`: the servo.
-/

namespace WhiteRabbitPtp

/-! ### The relations -/

/-- Between two states of a foreign-master data set records were only added or overwritten, and
a table that grew is marked as updated. -/
structure FmFrame (fm fm' : ForeignMasterDS) : Prop where
  best : fm'.foreignRecordBest = fm.foreignRecordBest
  max : fm'.maxForeignRecords = fm.maxForeignRecords
  number_le : fm.numberForeignRecords ≤ fm'.numberForeignRecords
  update : fm.recordUpdate = true → fm'.recordUpdate = true
  grown : fm.numberForeignRecords < fm'.numberForeignRecords → fm'.recordUpdate = true

/-- What a port does not change outside of its initialization and of a state decision. -/
structure Frame (n n' : Node) : Prop where
  clk : n'.clk = n.clk
  clockIdentity : n'.port.clockIdentity = n.port.clockIdentity
  portIdentity : n'.port.portIdentity = n.port.portIdentity
  versionNumber : n'.port.versionNumber = n.port.versionNumber
  linkUP : n'.port.linkUP = n.port.linkUP
  wrConfig : n'.port.wr.wrConfig = n.port.wr.wrConfig
  answers : n'.netif.oracle.answers = n.netif.oracle.answers
  fm : FmFrame n.port.fm n'.port.fm

/-- The type of the message in a frame. -/
def frameType (frame : List UInt8) : UInt8 := frame.getD 0 0 &&& 0x0F

/-- A frame with a message that is not a Signaling message. -/
def NotSignaling (frame : List UInt8) : Prop := frameType frame ≠ SIGNALING

/-- The White Rabbit data of a port and its state are left alone as well, except that an idle port
may become faulty; a slave that does so leaves its White Rabbit mode. The frames that are sent
satisfy `P`. -/
structure WrFrame (P : List UInt8 → Prop) (n n' : Node) : Prop extends Frame n n' where
  wr : n'.port.wr = n.port.wr ∨
    (n.port.wr.wrPortState = .idle ∧ n.port.portState = .slave) ∧
      n'.port.wr = { n.port.wr with wrMode := .nonWr, wrModeON := false }
  portState : n'.port.portState = n.port.portState ∨
    n.port.wr.wrPortState = .idle ∧ n'.port.portState = .faulty
  sent : ∃ frames, n'.netif.sent = n.netif.sent ++ frames ∧ ∀ frame ∈ frames, P frame

namespace FmFrame

variable {fm fm' fm'' : ForeignMasterDS}

/-- A table that is left alone is inside the frame. -/
@[refl]
theorem refl (fm : ForeignMasterDS) : FmFrame fm fm := ⟨rfl, rfl, le_rfl, id, fun h => by omega⟩

/-- Two changes of a table inside the frame are one inside it. -/
@[trans]
theorem trans (h : FmFrame fm fm') (h' : FmFrame fm' fm'') : FmFrame fm fm'' where
  best := h'.best.trans h.best
  max := h'.max.trans h.max
  number_le := h.number_le.trans h'.number_le
  update hu := h'.update (h.update hu)
  grown hlt := by
    rcases h.number_le.lt_or_eq with hg | he
    · exact h'.update (h.grown hg)
    · exact h'.grown (by omega)

end FmFrame

namespace Frame

variable {n n' n'' : Node}

/-- A node that is left alone is inside the frame. -/
@[refl]
theorem refl (n : Node) : Frame n n := ⟨rfl, rfl, rfl, rfl, rfl, rfl, rfl, .refl _⟩

/-- Two changes inside the frame are one inside it. -/
@[trans]
theorem trans (h : Frame n n') (h' : Frame n' n'') : Frame n n'' where
  clk := h'.clk.trans h.clk
  clockIdentity := h'.clockIdentity.trans h.clockIdentity
  portIdentity := h'.portIdentity.trans h.portIdentity
  versionNumber := h'.versionNumber.trans h.versionNumber
  linkUP := h'.linkUP.trans h.linkUP
  wrConfig := h'.wrConfig.trans h.wrConfig
  answers := h'.answers.trans h.answers
  fm := h.fm.trans h'.fm

end Frame

namespace WrFrame

variable {P : List UInt8 → Prop} {n n' n'' : Node}

/-- A change of other data is inside the frame. -/
theorem of_frame (h : Frame n n') (hwr : n'.port.wr = n.port.wr)
    (hstate : n'.port.portState = n.port.portState) (hsent : n'.netif.sent = n.netif.sent) :
    WrFrame P n n' :=
  ⟨h, .inl hwr, .inl hstate, [], by simp [hsent], by simp⟩

/-- A node that is left alone sends nothing. -/
@[refl]
theorem refl (n : Node) : WrFrame P n n := of_frame (.refl n) rfl rfl rfl

/-- Nothing changes while the White Rabbit state machine is running. -/
theorem eq_of_running (h : WrFrame P n n') (hrun : n.port.wr.wrPortState ≠ .idle) :
    n'.port.wr = n.port.wr ∧ n'.port.portState = n.port.portState := by
  constructor
  · rcases h.wr with hwr | ⟨⟨hidle, -⟩, -⟩
    · exact hwr
    · exact absurd hidle hrun
  · rcases h.portState with hs | ⟨hidle, -⟩
    · exact hs
    · exact absurd hidle hrun

/-- The White Rabbit state stays. -/
theorem wrPortState (h : WrFrame P n n') : n'.port.wr.wrPortState = n.port.wr.wrPortState := by
  rcases h.wr with hwr | ⟨-, hwr⟩ <;> rw [hwr]

/-- Two changes inside the frame are one inside it, and their frames are joined. -/
@[trans]
theorem trans (h : WrFrame P n n') (h' : WrFrame P n' n'') : WrFrame P n n'' where
  toFrame := h.toFrame.trans h'.toFrame
  wr := by
    have hidle := h.wrPortState
    rcases h.wr with hwr | ⟨hi, hwr⟩ <;> rcases h'.wr with hwr' | ⟨⟨hi', hs'⟩, hwr'⟩
    · exact .inl (hwr'.trans hwr)
    · -- A port that is a slave now was not made faulty before.
      have hslave : n.port.portState = .slave := by
        rcases h.portState with hs | ⟨-, hs⟩
        · rw [← hs, hs']
        · simp [hs] at hs'
      exact .inr ⟨⟨hidle ▸ hi', hslave⟩, by rw [hwr', hwr]⟩
    · exact .inr ⟨hi, by rw [hwr', hwr]⟩
    · exact .inr ⟨hi, by rw [hwr', hwr]⟩
  portState := by
    have hidle := h.wrPortState
    rcases h'.portState with hs' | ⟨hi', hs'⟩
    · rw [hs']
      exact h.portState
    · exact .inr ⟨hidle ▸ hi', hs'⟩
  sent := by
    obtain ⟨frames, hsent, hP⟩ := h.sent
    obtain ⟨frames', hsent', hP'⟩ := h'.sent
    refine ⟨frames ++ frames', by rw [hsent', hsent, List.append_assoc], fun frame hf => ?_⟩
    rcases List.mem_append.mp hf with hf | hf
    · exact hP frame hf
    · exact hP' frame hf

end WrFrame

/-! ### Elementary changes -/

section Elementary

variable {P : List UInt8 → Prop} (n : Node)

/-- A call to the host is inside the frame. -/
theorem called_wrFrame (c : Call) : WrFrame P n (n.called c) :=
  .of_frame (by constructor <;> rfl) rfl rfl rfl

/-- Stopping a timer is inside the frame. -/
theorem timerStop_wrFrame (t : PtpTimer) : WrFrame P n (n.timerStop t) := by
  unfold Node.timerStop
  exact .of_frame (by constructor <;> rfl) rfl rfl rfl

/-- Starting a timer is inside the frame. -/
theorem timerStart_wrFrame (t : PtpTimer) (interval : ℤ) :
    WrFrame P n (n.timerStart t interval) := by
  unfold Node.timerStart
  exact .of_frame (by constructor <;> rfl) rfl rfl rfl

/-- Polling a timer is inside the frame. -/
theorem timerPolled_wrFrame (t : PtpTimer) : WrFrame P n (n.timerPolled t) := by
  unfold Node.timerPolled
  exact .of_frame (by constructor <;> rfl) rfl rfl rfl

/-- Restarting the announce receipt timer is inside the frame. -/
theorem restartAnnounceReceipt_wrFrame : WrFrame P n (restartAnnounceReceipt n) :=
  timerStart_wrFrame _ _ _

end Elementary

/-! ### Failing and sending -/

section Sending

variable {P : List UInt8 → Prop} (rtOpts : RunTimeOpts) (n : Node)

/-- Leaving a state changes timers and, for a slave, its White Rabbit mode. -/
theorem leaveState_frame : Frame n (leaveState rtOpts n) := by
  have hstop (n : Node) (t : PtpTimer) : Frame n (n.timerStop t) :=
    (timerStop_wrFrame (P := fun _ => True) n t).toFrame
  unfold leaveState
  split
  · exact ((hstop _ _).trans (hstop _ _)).trans (hstop _ _)
  · -- A slave leaves its White Rabbit mode and stops the timer of its delay mechanism.
    have hreset (n : Node) :
        Frame n { n with port.wr.wrMode := .nonWr, port.wr.wrModeON := false } := by
      constructor <;> rfl
    cases rtOpts.E2E_mode
    · exact ((hstop n .announceReceipt).trans (hstop _ .pdelayReq)).trans (hreset _)
    · exact ((hstop n .announceReceipt).trans (hstop _ .delayReq)).trans (hreset _)
  · exact (hstop _ _).trans (hstop _ _)
  · exact hstop _ _
  · rfl

/-- Leaving a state resets the White Rabbit mode of a slave only. -/
theorem leaveState_wr :
    (leaveState rtOpts n).port.wr =
      if n.port.portState = .slave then { n.port.wr with wrMode := .nonWr, wrModeON := false }
      else n.port.wr := by
  unfold leaveState
  cases rtOpts.E2E_mode <;> cases n.port.portState <;> rfl

/-- Leaving a state does not change it yet. -/
@[simp]
theorem leaveState_portState : (leaveState rtOpts n).port.portState = n.port.portState := by
  cases hE : rtOpts.E2E_mode <;> cases h : n.port.portState <;>
    simp [leaveState, Node.timerStop, hE, h]

/-- Leaving a state does not touch the foreign masters. -/
@[simp]
theorem leaveState_fm : (leaveState rtOpts n).port.fm = n.port.fm := by
  cases hE : rtOpts.E2E_mode <;> cases h : n.port.portState <;>
    simp [leaveState, Node.timerStop, hE, h]

/-- Leaving a state sends nothing. -/
@[simp]
theorem leaveState_sent : (leaveState rtOpts n).netif.sent = n.netif.sent := by
  cases hE : rtOpts.E2E_mode <;> cases h : n.port.portState <;>
    simp [leaveState, Node.timerStop, hE, h]

/-- A failure does not preempt a running White Rabbit state machine. -/
theorem toFaulty_wrFrame : WrFrame P n (toFaulty rtOpts n) := by
  unfold toFaulty
  split
  · rfl
  next hidle =>
  -- From here on the White Rabbit state machine is idle, so the failure is carried out.
  have hidle : n.port.wr.wrPortState = .idle := by simpa using hidle
  refine ⟨(leaveState_frame rtOpts n).trans (by constructor <;> rfl), ?_, .inr ⟨hidle, rfl⟩,
    [], by simp, by simp⟩
  show (leaveState rtOpts n).port.wr = _ ∨ _ ∧ (leaveState rtOpts n).port.wr = _
  rw [leaveState_wr]
  split
  next hslave => exact .inr ⟨⟨hidle, hslave⟩, rfl⟩
  · exact .inl rfl

variable {rtOpts n} {buf : Octets.Buffer} {length : ℕ}
  {record : SendResult → PtpPortDS → PtpPortDS} {sent : PtpPortDS → PtpPortDS}

/-- Sending a message changes the output buffer and what `record` and `sent` change; a failed
transmission is a failure of the port. -/
theorem issueMsg_wrFrame (hP : P (buf.octets length))
    (hrecord : ∀ r n, WrFrame P n { n with port := record r n.port })
    (hsent : ∀ n, WrFrame P n { n with port := sent n.port }) :
    WrFrame P n (issueMsg rtOpts buf length record sent n) := by
  -- The frame counts as sent even when the transmission fails.
  have hbuf : WrFrame P n (({ n with port.msgObuf := buf } : Node).sendto length) :=
    ⟨by constructor <;> rfl, .inl rfl, .inl rfl, [buf.octets length], rfl, by simpa using hP⟩
  refine (hbuf.trans (hrecord (n.answer .sendto) _)).trans ?_
  unfold issueMsg
  dsimp only
  split
  · exact toFaulty_wrFrame _ _
  · exact hsent _

end Sending

/-! ### Issuing messages -/

section MessageType

open Octets

/-- The frame of a packed message has the type that was put into its first octet. -/
theorem frameType_octets (buf : Buffer) {length : ℕ} (h : 0 < length) :
    frameType (buf.octets length) = buf 0 &&& 0x0F := by
  simp [frameType, Buffer.octets, h]

variable (buf : Buffer) (header : MsgHeader) (ts : Timestamp) (clk : PtpClockDS) (port : PtpPortDS)

/-- Packing writes its type into the first octet and nothing else. -/
theorem msgPackAnnounce_zero :
    msgPackAnnounce buf clk port 0 = setMessageType buf ANNOUNCE 0 := by
  unfold msgPackAnnounce
  split <;> simp [putWrTlv, Buffer.set, Buffer.fill, Buffer.copy, Buffer.putBe16]

@[inherit_doc msgPackAnnounce_zero]
theorem msgPackSync_zero : msgPackSync buf ts port 0 = setMessageType buf SYNC 0 := by
  simp [msgPackSync, putTimestamp, Buffer.set, Buffer.fill, Buffer.putBe16, Buffer.putBe32]

@[inherit_doc msgPackAnnounce_zero]
theorem msgPackFollowUp_zero : msgPackFollowUp buf port 0 = setMessageType buf FOLLOW_UP 0 := by
  simp [msgPackFollowUp, putWrTimestamp, Buffer.set, Buffer.putBe16, Buffer.putBe32]

@[inherit_doc msgPackAnnounce_zero]
theorem msgPackDelayReq_zero :
    msgPackDelayReq buf ts port 0 = setMessageType buf DELAY_REQ 0 := by
  simp [msgPackDelayReq, putTimestamp, Buffer.set, Buffer.fill, Buffer.putBe16, Buffer.putBe32]

@[inherit_doc msgPackAnnounce_zero]
theorem msgPackPDelayReq_zero :
    msgPackPDelayReq buf ts port 0 = setMessageType buf PDELAY_REQ 0 := by
  simp [msgPackPDelayReq, putTimestamp, Buffer.set, Buffer.fill, Buffer.putBe16, Buffer.putBe32]

@[inherit_doc msgPackAnnounce_zero]
theorem msgPackDelayResp_zero :
    msgPackDelayResp buf header port 0 = setMessageType buf DELAY_RESP 0 := by
  simp [msgPackDelayResp, putWrTimestamp, putPortIdentity, Buffer.set, Buffer.fill, Buffer.copy,
    Buffer.putBe16, Buffer.putBe32]

@[inherit_doc msgPackAnnounce_zero]
theorem msgPackPDelayResp_zero :
    msgPackPDelayResp buf header port 0 = setMessageType buf PDELAY_RESP 0 := by
  simp [msgPackPDelayResp, putWrTimestamp, putPortIdentity, Buffer.set, Buffer.fill, Buffer.copy,
    Buffer.putBe16, Buffer.putBe32]

@[inherit_doc msgPackAnnounce_zero]
theorem msgPackPDelayRespFollowUp_zero :
    msgPackPDelayRespFollowUp buf header port 0 =
      setMessageType buf PDELAY_RESP_FOLLOW_UP 0 := by
  simp [msgPackPDelayRespFollowUp, putWrTimestamp, putPortIdentity, Buffer.set, Buffer.copy,
    Buffer.putBe16, Buffer.putBe32]

/-- A message of another type than `SIGNALING` makes a frame of that type. -/
theorem notSignaling_octets {packed : Buffer} {type : UInt8} {length : ℕ}
    (hzero : packed 0 = setMessageType buf type 0) (hlength : 0 < length)
    (hnibble : type &&& 0x0F = type) (htype : type ≠ SIGNALING) :
    NotSignaling (packed.octets length) := by
  -- The upper half of the octet is masked out when the frame is dispatched.
  rw [NotSignaling, frameType_octets _ hlength, hzero, setMessageType_and _ hnibble]
  exact htype

end MessageType

section Issuing

variable (rtOpts : RunTimeOpts) (header : MsgHeader) (n : Node)

/-- The frame that `issueAnnounce` hands to the network. -/
def announceFrame (n : Node) : List UInt8 :=
  (msgPackAnnounce n.port.msgObuf n.clk n.port).octets
    (if n.port.wr.wrConfig.hasAnnounceSuffix then WR_ANNOUNCE_LENGTH else ANNOUNCE_LENGTH)

/-- An Announce is no Signaling message, with the suffix or without. -/
theorem announceFrame_notSignaling : NotSignaling (announceFrame n) :=
  notSignaling_octets _ (msgPackAnnounce_zero _ _ _) (by split <;> decide) (by decide) (by decide)

/-- `issueAnnounce` is inside the frame and sends no Signaling message. -/
theorem issueAnnounce_wrFrame : WrFrame NotSignaling n (issueAnnounce rtOpts n) :=
  issueMsg_wrFrame (announceFrame_notSignaling n) (fun _ _ => .refl _) fun _ =>
    .of_frame (by constructor <;> rfl) rfl rfl rfl

/-- `issueSync` is inside the frame and sends no Signaling message. -/
theorem issueSync_wrFrame : WrFrame NotSignaling n (issueSync rtOpts n) := by
  refine issueMsg_wrFrame ?_ (fun _ _ => .of_frame (by constructor <;> rfl) rfl rfl rfl) fun _ =>
    .of_frame (by constructor <;> rfl) rfl rfl rfl
  exact notSignaling_octets _ (msgPackSync_zero _ _ _) (by decide) (by decide) (by decide)

/-- `issueFollowup` is inside the frame and sends no Signaling message. -/
theorem issueFollowup_wrFrame : WrFrame NotSignaling n (issueFollowup rtOpts n) := by
  refine issueMsg_wrFrame ?_ (fun _ _ => .refl _) fun _ => .refl _
  exact notSignaling_octets _ (msgPackFollowUp_zero _ _) (by decide) (by decide) (by decide)

/-- `issueDelayReq` is inside the frame and sends no Signaling message. -/
theorem issueDelayReq_wrFrame : WrFrame NotSignaling n (issueDelayReq rtOpts n) := by
  refine issueMsg_wrFrame ?_ (fun _ _ => .of_frame (by constructor <;> rfl) rfl rfl rfl) fun _ =>
    .of_frame (by constructor <;> rfl) rfl rfl rfl
  exact notSignaling_octets _ (msgPackDelayReq_zero _ _ _) (by decide) (by decide) (by decide)

/-- `issuePDelayReq` is inside the frame and sends no Signaling message. -/
theorem issuePDelayReq_wrFrame : WrFrame NotSignaling n (issuePDelayReq rtOpts n) := by
  refine issueMsg_wrFrame ?_ (fun _ _ => .of_frame (by constructor <;> rfl) rfl rfl rfl) fun _ =>
    .of_frame (by constructor <;> rfl) rfl rfl rfl
  exact notSignaling_octets _ (msgPackPDelayReq_zero _ _ _) (by decide) (by decide) (by decide)

/-- `issueDelayResp` is inside the frame and sends no Signaling message. -/
theorem issueDelayResp_wrFrame : WrFrame NotSignaling n (issueDelayResp header rtOpts n) := by
  refine issueMsg_wrFrame ?_ (fun _ _ => .refl _) fun _ => .refl _
  exact notSignaling_octets _ (msgPackDelayResp_zero _ _ _) (by decide) (by decide) (by decide)

/-- `issuePDelayResp` is inside the frame and sends no Signaling message. -/
theorem issuePDelayResp_wrFrame : WrFrame NotSignaling n (issuePDelayResp header rtOpts n) := by
  refine issueMsg_wrFrame ?_ (fun _ _ => .of_frame (by constructor <;> rfl) rfl rfl rfl)
    fun _ => .refl _
  exact notSignaling_octets _ (msgPackPDelayResp_zero _ _ _) (by decide) (by decide) (by decide)

/-- `issuePDelayRespFollowUp` is inside the frame and sends no Signaling message. -/
theorem issuePDelayRespFollowUp_wrFrame :
    WrFrame NotSignaling n (issuePDelayRespFollowUp header rtOpts n) := by
  refine issueMsg_wrFrame ?_ (fun _ _ => .refl _) fun _ => .refl _
  exact notSignaling_octets _ (msgPackPDelayRespFollowUp_zero _ _ _) (by decide) (by decide)
    (by decide)

/-- The frame that `issueWRSignalingMsg` hands to the network. -/
def wrSignalingFrame (wrMessageID : UInt16) (n : Node) : List UInt8 :=
  let packed := msgPackWRSignalingMsg n.port.msgObuf n.clk n.port wrMessageID
  packed.1.octets packed.2.toNat

/-- `issueWRSignalingMsg` is inside the frame and sends the frame `wrSignalingFrame`, and no other.
-/
theorem issueWRSignalingMsg_wrFrame (wrMessageID : UInt16) :
    WrFrame (· = wrSignalingFrame wrMessageID n) n (issueWRSignalingMsg wrMessageID rtOpts n) := by
  unfold issueWRSignalingMsg
  exact issueMsg_wrFrame rfl (fun _ _ => .refl _) fun _ => .refl _

end Issuing

/-! ### The servo -/

section Servo

variable {P : List UInt8 → Prop} (n : Node)

/-- Starting the servo is inside the frame and sends nothing. -/
theorem wrServoInit_wrFrame : WrFrame P n (wrServoInit n) := by
  simp only [wrServoInit]
  split
  · exact .of_frame (by constructor <;> rfl) rfl rfl rfl
  · exact called_wrFrame _ _

end Servo

end WhiteRabbitPtp
