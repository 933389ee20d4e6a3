import WhiteRabbitPtp.Lib.Numbering
import WhiteRabbitPtp.Correctness.Triggers

/-!
# The numbers of the requests

A port numbers its DelayReq and its PDelayReq messages with a counter each, which it advances unless
`ptpd_netif_sendto` returns `0`. Everything a port does hands some frames to the network; the
requests among those that were counted bear consecutive numbers. They were transmitted when the
result was positive: a negative one is an error, which the source does not tell from a success.

## Main definitions

* `RequestKind`: the two kinds of requests.
* `SendResult.counted`, `SendResult.transmitted`: the results that are counted, and the good ones.
* `framesWith`: the frames among some others that were sent with a result of one kind.
* `outcomes`: frames that are handed over, each with the result of its transmission.
* `Stamped`: what a port notes of the DelayReq messages that are handed over.
* `Transmits`: frames are handed over, the requests counted are numbered, and the last one is noted.
* `Daemon.framesWith`: the frames a port has sent in a run with a result of one kind.
* `Daemon.sendings`: what a port hands over in a run.

## Main results

* `Daemon.counted_numbered`: in every run the requests that a port counts are numbered from `0` on.
* `Daemon.sendings_stamped`: in every run a port notes the DelayReq that it has handed over last.
-/

namespace WhiteRabbitPtp

open Octets InputSystem Numbering

/-! ### Requests -/

/-- The requests a port asks for its delay with. -/
inductive RequestKind
  | delayReq | pdelayReq
  deriving DecidableEq, Repr

namespace RequestKind

/-- The message type of the requests. -/
def type : RequestKind → UInt8
  | delayReq => DELAY_REQ
  | pdelayReq => PDELAY_REQ

/-- The counter of a port for the requests. -/
def counter (port : PtpPortDS) : RequestKind → UInt16
  | delayReq => port.sentDelayReqSequenceId
  | pdelayReq => port.sentPDelayReqSequenceId

end RequestKind

/-- The sequence number in a frame. -/
def frameSequenceId (frame : List UInt8) : UInt16 := (Buffer.load (fun _ => 0) frame).getBe16 30

/-- The sequence numbers of the requests among some frames. -/
def RequestKind.sequenceIds (kind : RequestKind) (frames : List (List UInt8)) : List UInt16 :=
  (frames.filter fun frame => frameType frame = kind.type).map frameSequenceId

/-- The senders advance their counters unless `ptpd_netif_sendto` returns `0`. -/
def SendResult.counted (r : SendResult) : Bool := r.ret ≠ 0

/-- A frame was transmitted when `ptpd_netif_sendto` returns the number of its octets. -/
def SendResult.transmitted (r : SendResult) : Bool := 0 < r.ret

/-- The ones of some frames that were sent with a result of one kind, when they are handed over from
the transmission `used` on. -/
def framesWith (kind : SendResult → Bool) (results : ℕ → SendResult) :
    ℕ → List (List UInt8) → List (List UInt8)
  | _, [] => []
  | used, frame :: frames =>
    if kind (results used) then frame :: framesWith kind results (used + 1) frames
    else framesWith kind results (used + 1) frames

/-- What happens to some frames depends on how many were handed over before. -/
theorem framesWith_append (kind : SendResult → Bool) (results : ℕ → SendResult) (used : ℕ)
    (frames frames' : List (List UInt8)) :
    framesWith kind results used (frames ++ frames') =
      framesWith kind results used frames ++
        framesWith kind results (used + frames.length) frames' := by
  -- Each frame uses up one answer, whatever it is.
  induction frames generalizing used with
  | nil => rfl
  | cons frame frames ih =>
    have hlength : used + (frame :: frames).length = used + 1 + frames.length := by
      rw [List.length_cons]
      omega
    rw [hlength, List.cons_append, framesWith, framesWith, ih]
    split <;> rfl

/-- Results that two kinds do not tell apart make no difference. -/
theorem framesWith_congr {kind kind' : SendResult → Bool} {results : ℕ → SendResult}
    (h : ∀ k, kind (results k) = kind' (results k)) (used : ℕ) (frames : List (List UInt8)) :
    framesWith kind results used frames = framesWith kind' results used frames := by
  induction frames generalizing used with
  | nil => rfl
  | cons frame frames ih => rw [framesWith, framesWith, h, ih]

/-- The sequence ids of joined lists of frames are those of the first, then those of the second. -/
theorem RequestKind.sequenceIds_append (kind : RequestKind) (frames frames' : List (List UInt8)) :
    kind.sequenceIds (frames ++ frames') = kind.sequenceIds frames ++ kind.sequenceIds frames' := by
  simp [sequenceIds]

/-! ### What a port transmits -/

/-- The frames a node may hand over when it becomes another one. -/
def Node.HandsOver (n n' : Node) (frames : List (List UInt8)) : Prop :=
  n'.netif.sent = n.netif.sent ++ frames ∧
    n'.netif.oracle.used .sendto = n.netif.oracle.used .sendto + frames.length

/-- Some frames that are handed over from the transmission `used` on, each with what comes of it. -/
def outcomes (results : ℕ → SendResult) (used : ℕ) (frames : List (List UInt8)) :
    List (List UInt8 × SendResult) :=
  (frames.zipIdx used).map fun sending => (sending.1, results sending.2)

/-- The later frames use the results after those of the earlier ones. -/
theorem outcomes_append (results : ℕ → SendResult) (used : ℕ) (frames frames' : List (List UInt8)) :
    outcomes results used (frames ++ frames') =
      outcomes results used frames ++ outcomes results (used + frames.length) frames' := by
  rw [outcomes, List.zipIdx_append, List.map_append]
  rfl

/-- What a port notes of its DelayReq messages: the time stamp of the last one, and the number of
the next one. -/
def PtpPortDS.delayReqNotes (port : PtpPortDS) : WrTimestamp × UInt16 :=
  (port.delayReqTxTs, port.sentDelayReqSequenceId)

/-- Each DelayReq among what is handed over bears the next number, and leaves its time stamp behind
even when it is not counted. -/
inductive Stamped : WrTimestamp × UInt16 → List (List UInt8 × SendResult) →
    WrTimestamp × UInt16 → Prop
  | nil (notes : WrTimestamp × UInt16) : Stamped notes [] notes
  | other {notes notes' : WrTimestamp × UInt16} {sending : List UInt8 × SendResult}
      {sendings : List (List UInt8 × SendResult)} : frameType sending.1 ≠ DELAY_REQ →
      Stamped notes sendings notes' → Stamped notes (sending :: sendings) notes'
  | request {notes notes' : WrTimestamp × UInt16} {sending : List UInt8 × SendResult}
      {sendings : List (List UInt8 × SendResult)} : frameType sending.1 = DELAY_REQ →
      frameSequenceId sending.1 = notes.2 →
      Stamped (sending.2.txTs, if sending.2.ret = 0 then notes.2 else notes.2 + 1) sendings notes' →
      Stamped notes (sending :: sendings) notes'

/-- What is handed over in two stretches. -/
theorem Stamped.append {notes notes' notes'' : WrTimestamp × UInt16}
    {sendings sendings' : List (List UInt8 × SendResult)} (h : Stamped notes sendings notes')
    (h' : Stamped notes' sendings' notes'') : Stamped notes (sendings ++ sendings') notes'' := by
  induction h with
  | nil => exact h'
  | other htype _ ih => exact .other htype (ih h')
  | request htype hid _ ih => exact .request htype hid (ih h')

/-- Some frames are handed over, the counters give out the numbers of the requests that were
counted, and the last DelayReq is noted. -/
structure Transmits (n n' : Node) : Prop where
  answers : n'.netif.oracle.answers = n.netif.oracle.answers
  numbered : ∃ frames, n.HandsOver n' frames ∧ (∀ kind : RequestKind,
    Numbered (· + 1) (kind.counter n.port)
      (kind.sequenceIds (framesWith SendResult.counted (n.netif.oracle.answers .sendto)
        (n.netif.oracle.used .sendto) frames)) (kind.counter n'.port)) ∧
    Stamped n.port.delayReqNotes (outcomes (n.netif.oracle.answers .sendto)
      (n.netif.oracle.used .sendto) frames) n'.port.delayReqNotes

namespace Transmits

variable {n n' n'' : Node}

/-- Nothing is handed over, and the counters stay. -/
theorem of_eq (hanswers : n'.netif.oracle.answers = n.netif.oracle.answers)
    (hused : n'.netif.oracle.used .sendto = n.netif.oracle.used .sendto)
    (hsent : n'.netif.sent = n.netif.sent)
    (hdelayReq : n'.port.sentDelayReqSequenceId = n.port.sentDelayReqSequenceId)
    (hpdelayReq : n'.port.sentPDelayReqSequenceId = n.port.sentPDelayReqSequenceId)
    (hstamp : n'.port.delayReqTxTs = n.port.delayReqTxTs) : Transmits n n' := by
  refine ⟨hanswers, [], ⟨by simp [hsent], hused⟩, fun kind => ?_, ?_⟩
  · have hcounter : kind.counter n'.port = kind.counter n.port := by
      cases kind
      · exact hdelayReq
      · exact hpdelayReq
    rw [hcounter]
    exact .nil _
  · rw [PtpPortDS.delayReqNotes, PtpPortDS.delayReqNotes, hstamp, hdelayReq]
    exact .nil _

/-- A step that does nothing transmits nothing. -/
@[refl]
theorem refl (n : Node) : Transmits n n := .of_eq rfl rfl rfl rfl rfl rfl

/-- Two steps that number their requests one after the other number them as one step. -/
@[trans]
theorem trans (h : Transmits n n') (h' : Transmits n' n'') : Transmits n n'' := by
  obtain ⟨hanswers, frames, ⟨hsent, hused⟩, hnumbered, hstamped⟩ := h
  obtain ⟨hanswers', frames', ⟨hsent', hused'⟩, hnumbered', hstamped'⟩ := h'
  refine ⟨hanswers'.trans hanswers, frames ++ frames', ⟨?_, ?_⟩, fun kind => ?_, ?_⟩
  · rw [hsent', hsent, List.append_assoc]
  · rw [hused', hused, List.length_append, Nat.add_assoc]
  -- The later frames use the answers that come after those to the earlier ones.
  · rw [framesWith_append, RequestKind.sequenceIds_append, ← hused, ← hanswers]
    rw [hanswers] at hnumbered' ⊢
    exact (hnumbered kind).append (hnumbered' kind)
  · rw [outcomes_append, ← hused]
    rw [hanswers] at hstamped'
    exact hstamped.append hstamped'

end Transmits

/-! ### Failing and sending -/

section Sending

variable {rtOpts : RunTimeOpts} {n : Node}

/-- Leaving a state stops timers and, for a slave, resets its White Rabbit mode. -/
theorem leaveState_transmits (rtOpts : RunTimeOpts) (n : Node) :
    Transmits n (leaveState rtOpts n) := by
  have hstop (n : Node) (t : PtpTimer) : Transmits n (n.timerStop t) :=
    .of_eq rfl rfl rfl rfl rfl rfl
  have hreset (n : Node) :
      Transmits n { n with port.wr.wrMode := .nonWr, port.wr.wrModeON := false } :=
    .of_eq rfl rfl rfl rfl rfl rfl
  unfold leaveState
  split
  · exact ((hstop _ _).trans (hstop _ _)).trans (hstop _ _)
  · cases rtOpts.E2E_mode
    · exact ((hstop n .announceReceipt).trans (hstop _ .pdelayReq)).trans (hreset _)
    · exact ((hstop n .announceReceipt).trans (hstop _ .delayReq)).trans (hreset _)
  · exact (hstop _ _).trans (hstop _ _)
  · exact hstop _ _
  · rfl

/-- `toFaulty` transmits nothing and keeps the counters. -/
theorem toFaulty_transmits (rtOpts : RunTimeOpts) (n : Node) : Transmits n (toFaulty rtOpts n) := by
  unfold toFaulty
  split
  · rfl
  · exact (leaveState_transmits rtOpts n).trans (.of_eq rfl rfl rfl rfl rfl rfl)

/-- Sending one frame, whose number is that of the counter when it is a request, and whose time
stamp is noted when it is a DelayReq. -/
theorem issueMsg_transmits {buf : Buffer} {length : ℕ}
    {record : SendResult → PtpPortDS → PtpPortDS} {sent : PtpPortDS → PtpPortDS}
    (hrecord : ∀ (kind : RequestKind) r port, kind.counter (record r port) = kind.counter port)
    (hsent : ∀ (kind : RequestKind) port, kind.counter port = kind.counter n.port →
      Numbered (· + 1) (kind.counter n.port) (kind.sequenceIds [buf.octets length])
        (kind.counter (sent port)))
    (hnotes : ∀ (r : SendResult) port, port.delayReqNotes = n.port.delayReqNotes →
      Stamped n.port.delayReqNotes [(buf.octets length, r)]
        (if r.ret = 0 then record r port else sent (record r port)).delayReqNotes) :
    Transmits n (issueMsg rtOpts buf length record sent n) := by
  -- The counter is advanced by `sent`, which is not reached when the result is `0`.
  let result : SendResult := n.answer .sendto
  let recorded : Node :=
    let n := ({ n with port.msgObuf := buf } : Node).sendto length
    { n with port := record result n.port }
  have hcounter (kind : RequestKind) : kind.counter recorded.port = kind.counter n.port := by
    refine (hrecord kind _ _).trans ?_
    cases kind <;> rfl
  have hissue : issueMsg rtOpts buf length record sent n =
      if result.ret = 0 then toFaulty rtOpts recorded
      else { recorded with port := sent recorded.port } := rfl
  have hhanded : n.HandsOver recorded [buf.octets length] := ⟨rfl, rfl⟩
  have hcounted : framesWith SendResult.counted (n.netif.oracle.answers .sendto)
      (n.netif.oracle.used .sendto) [buf.octets length] =
        if result.counted then [buf.octets length] else [] := rfl
  have hstamped := hnotes result (({ n with port.msgObuf := buf } : Node).sendto length).port rfl
  rw [hissue]
  split
  next hzero =>
    have hrecorded : Transmits n recorded := by
      refine ⟨rfl, _, hhanded, fun kind => ?_, ?_⟩
      · rw [hcounted, if_neg (by simp [SendResult.counted, hzero]), hcounter]
        exact .nil _
      · rwa [if_pos hzero] at hstamped
    exact hrecorded.trans (toFaulty_transmits rtOpts recorded)
  next hnonzero =>
    refine ⟨rfl, _, hhanded, fun kind => ?_, ?_⟩
    · rw [hcounted, if_pos (by simp [SendResult.counted, hnonzero])]
      exact hsent kind _ (hcounter kind)
    · rwa [if_neg hnonzero] at hstamped

end Sending

/-! ### Issuing messages -/

section Issuing

variable {rtOpts : RunTimeOpts} {n : Node} (kind : RequestKind)

/-- A frame of another type is no request. -/
theorem sequenceIds_of_ne {frame : List UInt8} (h : frameType frame ≠ kind.type) :
    kind.sequenceIds [frame] = [] := by
  simp [RequestKind.sequenceIds, h]

/-- The kind of request a message is. -/
def PtpMessage.kind? : PtpMessage → Option RequestKind
  | delayReq _ => some .delayReq
  | pdelayReq _ => some .pdelayReq
  | _ => none

/-- Of the messages only the requests of the kind have its message type. -/
theorem PtpMessage.type_eq_iff (m : PtpMessage) : m.type = kind.type ↔ m.kind? = some kind := by
  cases m <;> cases kind <;> simp only [type, RequestKind.type, kind?] <;> decide

/-- A request bears the number of its counter. -/
theorem PtpMessage.sequenceId_of_kind {m : PtpMessage} {kind : RequestKind}
    (h : m.kind? = some kind) (port : PtpPortDS) : m.sequenceId port = kind.counter port := by
  cases m <;> cases h <;> rfl

/-- What a receiver reads in the frame of a message. -/
theorem PtpMessage.frame_reads (m : PtpMessage) (clk : PtpClockDS) (port : PtpPortDS)
    (buf : Buffer) :
    frameType ((m.pack clk port buf).octets (m.length port)) = m.type ∧
      frameSequenceId ((m.pack clk port buf).octets (m.length port)) = m.sequenceId port := by
  have hpacks := m.pack_packs clk port buf
  have hlength : 44 ≤ m.length port :=
    ((PackCall.message m).length_bounds port (m.length_pos port)).1
  constructor
  · rw [frameType_octets _ (m.length_pos port), hpacks.messageType]
    exact setMessageType_and buf m.type_and
  · rw [frameSequenceId, Buffer.getBe16_load_octets _ _ _ _ (by omega)]
    exact hpacks.sequenceId

/-- The frame of a message is a request when the message is one, and bears the number of the
counter. -/
theorem sequenceIds_message (clk : PtpClockDS) (port : PtpPortDS) (buf : Buffer) (m : PtpMessage) :
    kind.sequenceIds [(m.pack clk port buf).octets (m.length port)] =
      if m.kind? = some kind then [kind.counter port] else [] := by
  obtain ⟨htype, hid⟩ := m.frame_reads clk port buf
  split
  next h =>
    rw [← m.sequenceId_of_kind h port]
    simp [RequestKind.sequenceIds, htype, hid, (m.type_eq_iff kind).mpr h]
  next h => exact sequenceIds_of_ne kind (by rwa [htype, ne_eq, m.type_eq_iff])

/-- The frame of a signaling message is no request, even when nothing was packed. -/
theorem frameType_wrSignaling_ne (id : UInt16) (n : Node) :
    frameType (wrSignalingFrame id n) ≠ kind.type := by
  have hempty : frameType [] ≠ kind.type := by cases kind <;> decide
  unfold wrSignalingFrame
  dsimp only
  -- A port without a White Rabbit mode packs nothing and sends an empty frame.
  rcases Nat.eq_zero_or_pos
    (msgPackWRSignalingMsg n.port.msgObuf n.clk n.port id).2.toNat with hzero | hpos
  · rw [hzero]
    exact hempty
  have hpacked : SignalingPacked n.port id := by
    by_contra hnot
    have hskipped : n.port.wr.wrMode = .nonWr ∨ id = ANN_SUFIX := by
      unfold SignalingPacked at hnot
      tauto
    rw [msgPackWRSignalingMsg, if_pos hskipped] at hpos
    exact absurd hpos (lt_irrefl 0)
  have htype := (PackCall.wrSignaling_packs n.clk n.port n.port.msgObuf hpacked).messageType
  rw [frameType_octets _ hpos]
  refine (congrArg (· &&& 0x0F) htype).trans_ne ?_
  rw [setMessageType_and _ (PackCall.messageType_and n.port _)]
  cases kind <;> simp only [PackCall.fields] <;> decide

/-- Sending a message, which advances the counter of its kind, and leaves its time stamp behind when
it is a DelayReq. -/
theorem issueMessage_transmits (m : PtpMessage) {record : SendResult → PtpPortDS → PtpPortDS}
    {sent : PtpPortDS → PtpPortDS}
    (hrecord : ∀ (kind : RequestKind) r port, kind.counter (record r port) = kind.counter port)
    (hsent : ∀ (kind : RequestKind) port, kind.counter (sent port) =
      if m.kind? = some kind then kind.counter port + 1 else kind.counter port)
    (hstamp : ∀ (r : SendResult) port, (record r port).delayReqTxTs =
      if m.kind? = some .delayReq then r.txTs else port.delayReqTxTs)
    (hkept : ∀ port, (sent port).delayReqTxTs = port.delayReqTxTs) :
    Transmits n (issueMsg rtOpts (m.pack n.clk n.port n.port.msgObuf) (m.length n.port) record sent
      n) := by
  refine issueMsg_transmits hrecord (fun kind port hport => ?_) fun r port hport => ?_
  · rw [sequenceIds_message, hsent, hport]
    split
    · exact .single _ _
    · exact .nil _
  · obtain ⟨htype, hid⟩ := m.frame_reads n.clk n.port n.port.msgObuf
    have hcounter : (record r port).sentDelayReqSequenceId = port.sentDelayReqSequenceId :=
      hrecord .delayReq r port
    have hadvanced := hsent .delayReq (record r port)
    by_cases hkind : m.kind? = some .delayReq
    · -- The time stamp is noted whatever the result; the number is used up when it is not `0`.
      have hnotes : (if r.ret = 0 then record r port else sent (record r port)).delayReqNotes =
          (r.txTs, if r.ret = 0 then n.port.delayReqNotes.2 else n.port.delayReqNotes.2 + 1) := by
        have hstamped : (record r port).delayReqTxTs = r.txTs := by rw [hstamp, if_pos hkind]
        have hnumber : (sent (record r port)).sentDelayReqSequenceId =
            port.sentDelayReqSequenceId + 1 := by
          rw [← hcounter]
          exact hadvanced.trans (if_pos hkind)
        rw [← hport]
        split
        · exact Prod.ext hstamped hcounter
        · exact Prod.ext ((hkept _).trans hstamped) hnumber
      rw [hnotes]
      exact .request (htype.trans ((m.type_eq_iff .delayReq).mpr hkind))
        (hid.trans (m.sequenceId_of_kind hkind n.port)) (.nil _)
    · have hnotes : (if r.ret = 0 then record r port else sent (record r port)).delayReqNotes =
          n.port.delayReqNotes := by
        have hstamped : (record r port).delayReqTxTs = port.delayReqTxTs := by
          rw [hstamp, if_neg hkind]
        have hnumber : (sent (record r port)).sentDelayReqSequenceId =
            port.sentDelayReqSequenceId := (hadvanced.trans (if_neg hkind)).trans hcounter
        rw [← hport]
        split
        · exact Prod.ext hstamped hcounter
        · exact Prod.ext ((hkept _).trans hstamped) hnumber
      rw [hnotes]
      exact .other (fun h => hkind ((m.type_eq_iff .delayReq).mp (htype.symm.trans h))) (.nil _)

variable (rtOpts n)

/-- `issueAnnounce` hands over no request, so their counters stay. -/
theorem issueAnnounce_transmits : Transmits n (issueAnnounce rtOpts n) :=
  issueMessage_transmits .announce (fun _ _ _ => rfl) (by rintro (_ | _) _ <;> rfl)
    (fun _ _ => rfl) fun _ => rfl

/-- `issueSync` hands over no request, so their counters stay. -/
theorem issueSync_transmits : Transmits n (issueSync rtOpts n) :=
  issueMessage_transmits (.sync .zero) (by rintro (_ | _) _ _ <;> rfl)
    (by rintro (_ | _) _ <;> rfl) (fun _ _ => rfl) fun _ => rfl

/-- `issueFollowup` hands over no request, so their counters stay. -/
theorem issueFollowup_transmits : Transmits n (issueFollowup rtOpts n) :=
  issueMessage_transmits .followUp (fun _ _ _ => rfl) (fun _ _ => rfl)
    (fun _ _ => rfl) fun _ => rfl

/-- `issueDelayReq` numbers its request by `sentDelayReqSequenceId` and advances that counter when
the request is counted. -/
theorem issueDelayReq_transmits : Transmits n (issueDelayReq rtOpts n) :=
  issueMessage_transmits (.delayReq .zero) (by rintro (_ | _) _ _ <;> rfl)
    (by rintro (_ | _) _ <;> rfl) (fun _ _ => rfl) fun _ => rfl

/-- `issuePDelayReq` numbers its request by `sentPDelayReqSequenceId` and advances that counter when
the request is counted. -/
theorem issuePDelayReq_transmits : Transmits n (issuePDelayReq rtOpts n) :=
  issueMessage_transmits (.pdelayReq .zero) (by rintro (_ | _) _ _ <;> rfl)
    (by rintro (_ | _) _ <;> rfl) (fun _ _ => rfl) fun _ => rfl

/-- `issueDelayResp` hands over no request, so their counters stay. -/
theorem issueDelayResp_transmits (header : MsgHeader) :
    Transmits n (issueDelayResp header rtOpts n) :=
  issueMessage_transmits (.delayResp header) (fun _ _ _ => rfl) (fun _ _ => rfl)
    (fun _ _ => rfl) fun _ => rfl

/-- `issuePDelayResp` hands over no request, so their counters stay. -/
theorem issuePDelayResp_transmits (header : MsgHeader) :
    Transmits n (issuePDelayResp header rtOpts n) :=
  issueMessage_transmits (.pdelayResp header) (by rintro (_ | _) _ _ <;> rfl) (fun _ _ => rfl)
    (fun _ _ => rfl) fun _ => rfl

/-- `issuePDelayRespFollowUp` hands over no request, so their counters stay. -/
theorem issuePDelayRespFollowUp_transmits (header : MsgHeader) :
    Transmits n (issuePDelayRespFollowUp header rtOpts n) :=
  issueMessage_transmits (.pdelayRespFollowUp header) (fun _ _ _ => rfl) (fun _ _ => rfl)
    (fun _ _ => rfl) fun _ => rfl

/-- `issueWRSignalingMsg` hands over no request, so their counters stay. -/
theorem issueWRSignalingMsg_transmits (id : UInt16) :
    Transmits n (issueWRSignalingMsg id rtOpts n) := by
  unfold issueWRSignalingMsg
  refine issueMsg_transmits (fun _ _ _ => rfl) (fun kind port hport => ?_) fun r port hport => ?_
  · have hframe := sequenceIds_of_ne kind (frameType_wrSignaling_ne kind id n)
    unfold wrSignalingFrame at hframe
    rw [hframe, id_eq, hport]
    exact .nil _
  · rw [id_eq, ite_self, hport]
    exact .other (frameType_wrSignaling_ne .delayReq id n) (.nil _)

end Issuing

/-! ### The effects of the handlers -/

section Effects

variable {rtOpts : RunTimeOpts} {p : Footprint} {n n' : Node}

/-- What only stores data transmits nothing. -/
theorem Stores.transmits (h : Stores p n n') : Transmits n n' :=
  .of_eq h.answers h.used h.sent h.sentDelayReq h.sentPDelayReq h.delayReqTxTs

/-- Every sender of `Issue` numbers its requests by their counter. -/
theorem Issue.run_transmits (rtOpts : RunTimeOpts) (n : Node) (message : Issue) :
    Transmits n (message.run rtOpts n) := by
  cases message with
  | announce => exact issueAnnounce_transmits _ _
  | sync => exact issueSync_transmits _ _
  | followup => exact issueFollowup_transmits _ _
  | delayReq => exact issueDelayReq_transmits _ _
  | pdelayReq => exact issuePDelayReq_transmits _ _
  | delayResp header => exact issueDelayResp_transmits _ _ header
  | pdelayResp header => exact issuePDelayResp_transmits _ _ header
  | pdelayRespFollowUp header => exact issuePDelayRespFollowUp_transmits _ _ header
  | wrSignaling id => exact issueWRSignalingMsg_transmits _ _ id

/-- Every effect of a handler numbers its requests by their counter. -/
theorem Effect.transmits (h : Effect rtOpts p n n') : Transmits n n' := by
  cases h with
  | stores h => exact h.transmits
  | toFaulty => exact toFaulty_transmits _ _
  | restartAnnounceReceipt | timerPolled => exact .of_eq rfl rfl rfl rfl rfl rfl
  | issue message => exact message.run_transmits rtOpts n

/-- A handler, as a sequence of effects, numbers its requests by their counter. -/
theorem Handled.transmits (h : Handled rtOpts p n n') : Transmits n n' :=
  h.of_effect .refl .trans Effect.transmits

/-- Storing an Announce message changes the table of foreign masters only. -/
theorem Announced.transmits (h : Announced n n') : Transmits n n' := by
  cases h with
  | ignored => rfl
  | parent record announce => exact .of_eq rfl rfl rfl rfl rfl rfl
  | added header =>
    rw [addForeign_eq]
    exact .of_eq rfl rfl rfl rfl rfl rfl

end Effects

/-! ### White Rabbit transitions and the dispatch -/

section Transitions

variable (rtOpts : RunTimeOpts) (n : Node)

/-- `initWrData` transmits nothing and keeps the counters. -/
theorem initWrData_transmits (mode : InitMode) : Transmits n (initWrData mode n) := by
  unfold initWrData
  cases mode <;> exact .of_eq rfl rfl rfl rfl rfl rfl

/-- A move of the link set-up hands over no request, so their counters stay. -/
theorem WrEffect.transmits {rtOpts : RunTimeOpts} {n n' : Node} (h : WrEffect rtOpts n n') :
    Transmits n n' := by
  cases h with
  | stores h =>
    have hport := h.port
    refine .of_eq h.answers h.used h.sent ?_ ?_ ?_ <;> rw [hport]
  | issue id => exact issueWRSignalingMsg_transmits _ _ id

/-- `toWRState` hands over no request, so their counters stay. -/
theorem toWRState_transmits (state : WrState) : Transmits n (toWRState state rtOpts n) :=
  (toWRState_entered rtOpts n state).of_effect .refl .trans WrEffect.transmits

/-- `handleSignaling` hands over no request, so their counters stay. -/
theorem handleSignaling_transmits : Transmits n (handleSignaling false rtOpts n) := by
  have hsignaled : Transmits n (signaled n) := .of_eq rfl rfl rfl rfl rfl rfl
  have hmaster : Transmits n (asWrMaster (signaled n)) := .of_eq rfl rfl rfl rfl rfl rfl
  rcases handleSignaling_cases rtOpts n with heq | ⟨-, heq⟩ <;> rw [heq]
  · exact hsignaled
  · exact hmaster.trans (toWRState_transmits rtOpts _ .mLock)

/-- Receiving a frame transmits nothing. -/
theorem netRecvMsg_transmits : Transmits n (netRecvMsg n).2 :=
  (netRecvMsg_stores n .any).transmits

/-- What `handle` stores of a received frame transmits nothing. -/
theorem received_transmits : Transmits n (received n) :=
  (netRecvMsg_transmits n).trans (.of_eq rfl rfl rfl rfl rfl rfl)

/-- `handle` numbers the requests that it sends by their counter. -/
theorem handle_transmits : Transmits n (handle rtOpts n) := by
  refine handle_induction rtOpts n (netRecvMsg_transmits n)
    ((netRecvMsg_transmits n).trans (toFaulty_transmits _ _)) fun _ => ?_
  refine (received_transmits n).trans ?_
  have hdispatched := dispatchMsg_dispatched rtOpts (received n) (netRecvMsg n).1.toNat
  generalize dispatchMsg (netRecvMsg n).1.toNat rtOpts (received n) = n' at hdispatched ⊢
  cases hdispatched with
  | announce _ hm h => exact hm.transmits.trans h.transmits
  | handled h => exact h.transmits
  | signaling => exact handleSignaling_transmits rtOpts (received n)

/-! ### PTP transitions -/

/-- Entering a state hands over no request, so their counters stay. -/
theorem enterState_transmits (state : PtpState) : Transmits n (enterState state rtOpts n) := by
  have hinit : Transmits n (wrServoInit n) := by
    unfold wrServoInit
    dsimp only
    split <;> exact .of_eq rfl rfl rfl rfl rfl rfl
  cases state
  case uncalibrated =>
    unfold enterState
    dsimp only
    split
    · split
      · exact (toWRState_transmits rtOpts n .present).trans (.of_eq rfl rfl rfl rfl rfl rfl)
      · exact .of_eq rfl rfl rfl rfl rfl rfl
    · exact .of_eq rfl rfl rfl rfl rfl rfl
  case slave =>
    refine hinit.trans ?_
    cases hE : rtOpts.E2E_mode <;> apply Transmits.of_eq <;>
      simp [enterState, hE, Node.timerStart, Node.called]
  case listening | master | passive =>
    apply Transmits.of_eq <;> simp [enterState, Node.timerStart, Node.called]
  all_goals exact .of_eq rfl rfl rfl rfl rfl rfl

/-- `toState` hands over no request, so their counters stay. -/
theorem toState_transmits (state : PtpState) : Transmits n (toState state rtOpts n) := by
  unfold toState
  split
  · rfl
  · exact (leaveState_transmits rtOpts n).trans (enterState_transmits _ _ _)

end Transitions

/-! ### The White Rabbit state machine -/

section WRStates

variable {rtOpts : RunTimeOpts} {n n' : Node}

/-- A silent move hands nothing over. -/
theorem SilentMove.transmits (h : SilentMove n n') : Transmits n n' := by
  cases h with
  | called hc => exact .of_eq rfl (if_neg hc.symm) rfl rfl rfl rfl
  | advance | respond | deltaTx | deltaRx => exact .of_eq rfl rfl rfl rfl rfl rfl

/-- Moves of the link set-up that send nothing hand over no request, so their counters stay. -/
theorem silentMoves_transmits (h : Relation.ReflTransGen SilentMove n n') : Transmits n n' :=
  sequence_of_preorder .refl .trans SilentMove.transmits h

variable (rtOpts n)

/-- `doWrLinkOn` hands over no request, so their counters stay. -/
theorem doWrLinkOn_transmits : Transmits n (doWrLinkOn rtOpts n) := by
  have hidle := toWRState_transmits rtOpts n .idle
  unfold doWrLinkOn
  dsimp only
  split
  · exact hidle.trans (toState_transmits _ _ _)
  · exact hidle.trans (toState_transmits _ _ _)
  · exact hidle

variable {rtOpts n}

/-- The end of a link set-up hands over no request, so their counters stay. -/
theorem WrEnd.transmits (h : WrEnd rtOpts n n') : Transmits n n' := by
  cases h with
  | stay => rfl
  | enter => exact toWRState_transmits _ _ _
  | lock => exact (toWRState_transmits rtOpts n .sLock).trans (.of_eq rfl rfl rfl rfl rfl rfl)
  | calibrated =>
    have hissue := issueWRSignalingMsg_transmits rtOpts n CALIBRATED
    have hcalibrated := hissue.trans (toWRState_transmits rtOpts _ .calibrated)
    exact hcalibrated.trans (.of_eq rfl rfl rfl rfl rfl rfl)
  | linkOn => exact doWrLinkOn_transmits rtOpts n

/-- A silent run of the link set-up with its end hands over no request, so their counters stay. -/
theorem SilentRun.transmits (h : SilentRun rtOpts n n') : Transmits n n' :=
  h.induction (P := Transmits n) (fun _ _ hm hmove => hm.trans hmove.transmits)
    (fun _ _ hm hend => hm.trans hend.transmits) (.refl n)

variable (rtOpts n)

/-- The actions of the White Rabbit states hand over no request, so their counters stay. -/
theorem wrStateActions_transmits : Transmits n (wrStateActions rtOpts n) := by
  cases hhearing : wrHearing n with
  | none =>
    have hrun : SilentRun rtOpts n (wrStateActions rtOpts n) := wrStateActions_silentRun hhearing
    exact hrun.transmits
  | some k =>
    have hrun : SilentRun rtOpts (handle rtOpts k) (wrStateActions rtOpts n) :=
      wrStateActions_hearingRun hhearing
    have hk := silentMoves_transmits (wrHearing_moves hhearing)
    exact (hk.trans (handle_transmits rtOpts k)).trans hrun.transmits

/-- Giving up the link set-up hands over no request, so their counters stay. -/
theorem abandon_transmits (wrMode : WrMode) : Transmits n (abandon rtOpts wrMode n) := by
  have hoff : Transmits n { n with port.wr.wrModeON := false } := .of_eq rfl rfl rfl rfl rfl rfl
  have hidle := hoff.trans (toWRState_transmits rtOpts _ .idle)
  exact (hidle.trans (toState_transmits rtOpts _ _)).trans (initWrData_transmits _ _)

/-- `doWRState` hands over no request, so their counters stay. -/
theorem doWRState_transmits : Transmits n (doWRState rtOpts n) := by
  have hactions := wrStateActions_transmits rtOpts n
  unfold doWRState
  dsimp only
  generalize wrStateActions rtOpts n = m at hactions ⊢
  refine hactions.trans ?_
  have hpolled : Transmits m (wrTimerPolled m.port.wr.wrPortState.mainState m) :=
    .of_eq rfl rfl rfl rfl rfl rfl
  rcases wrTimerExpired_cases rtOpts m m.port.wr.wrPortState.mainState m.port.wr.wrMode with
    ⟨-, h⟩ | ⟨-, h | h | h⟩ <;> rw [h]
  · exact hpolled
  · exact hpolled.trans (toWRState_transmits _ _ _)
  · exact hpolled.trans (abandon_transmits _ _ _)

end WRStates

/-! ### The phases of a port -/

section Phases

variable (rtOpts : RunTimeOpts) (n : Node)

/-- The time-out of the announce receipt hands over no request, so their counters stay. -/
theorem announceReceiptTimeoutExpires_transmits :
    Transmits n (announceReceiptTimeoutExpires rtOpts n) := by
  have hforget : Transmits n (forgetMasters n) := .of_eq rfl rfl rfl rfl rfl rfl
  have hm1 : Transmits n (m1 (forgetMasters n)) := .of_eq rfl rfl rfl rfl rfl rfl
  rw [announceReceiptTimeoutExpires_eq]
  split
  · exact hm1.trans (toState_transmits _ _ _)
  split
  · exact hforget.trans (toState_transmits _ _ _)
  · exact hforget

/-- What a slave does in a step numbers its requests by their counter. -/
theorem doSlaveActions_transmits : Transmits n (doSlaveActions rtOpts n) :=
  doSlaveActions_induction (P := Transmits n) (handle_transmits rtOpts n)
    (fun m hm => hm.trans (announceReceiptTimeoutExpires_transmits rtOpts m))
    fun _ _ hm heffects => hm.trans heffects.transmits

/-- The actions of every PTP state number their requests by their counter. -/
theorem doStateActions_transmits : Transmits n (doStateActions rtOpts n) := by
  have hm1 : Transmits n (m1 n) := .of_eq rfl rfl rfl rfl rfl rfl
  have hcleared {m : Node} (h : Transmits n m) :
      Transmits n { m with port.wr.msgTmpWrMessageID := NULL_WR_TLV } :=
    h.trans (.of_eq rfl rfl rfl rfl rfl rfl)
  unfold doStateActions
  cases n.port.portState <;> dsimp only
  case faulty => exact toState_transmits _ _ _
  case uncalibrated =>
    split
    · exact hcleared (doWRState_transmits _ _)
    · exact hcleared (toState_transmits _ _ _)
  case listening =>
    split
    · exact hm1.trans (toState_transmits _ _ _)
    · exact doSlaveActions_transmits _ _
  case passive | slave => exact doSlaveActions_transmits _ _
  case master =>
    split
    · exact hcleared (doWRState_transmits _ _)
    · have htimers := (handle_transmits rtOpts n).trans
        (masterTimers_handled rtOpts _ (p := .any) rfl).transmits
      rw [doMasterActions_eq]
      dsimp only
      split
      · exact htimers.trans (toState_transmits _ _ _)
      · exact htimers
  case disabled => exact handle_transmits _ _
  case initializing | preMaster => rfl

/-- A state decision hands nothing over but what its transition does. -/
theorem stateDecision_transmits (bestForeign : ForeignMasterRecord) :
    Transmits n (stateDecision rtOpts bestForeign n) := by
  by_cases hdecides : Decides n
  · -- The algorithm only writes data sets; the transition may send a Signaling message.
    have hbmc (m : Node) : Transmits m (bmc bestForeign m).2 := by
      have hupdate {m : Node} {r : PtpState × Node} (h : BmcUpdate m r) : Transmits m r.2 := by
        cases h <;> exact .of_eq rfl rfl rfl rfl rfl rfl
      have hcopy : Transmits m (copyD0 m) := .of_eq rfl rfl rfl rfl rfl rfl
      rcases bmc_update m bestForeign with h | h
      · exact hupdate h
      · exact hcopy.trans (hupdate h)
    have hdeciding : Transmits n (deciding n) := .of_eq rfl rfl rfl rfl rfl rfl
    rw [stateDecision_of rtOpts n bestForeign hdecides]
    refine (hdeciding.trans (hbmc _)).trans ?_
    generalize bmc bestForeign (deciding n) = decision
    rcases followRecommendation_cases rtOpts decision.2 decision.1 with h | ⟨s, h⟩ | h <;> rw [h]
    · exact toState_transmits _ _ _
    · refine .trans ?_ (toState_transmits rtOpts _ .uncalibrated)
      exact .of_eq rfl rfl rfl rfl rfl rfl
  · rw [stateDecision_of_not rtOpts n bestForeign hdecides]

/-- Initialization keeps the counters. -/
theorem doInit_transmits : Transmits n (doInit rtOpts n) := by
  have hinit : Transmits n (initialized rtOpts n) := by
    unfold initialized
    dsimp only
    split <;> split <;> exact .of_eq rfl rfl rfl rfl rfl rfl
  rw [doInit_eq]
  exact hinit.trans (toState_transmits _ _ _)

/-- `updateLink` transmits nothing and keeps the counters. -/
theorem updateLink_transmits : Transmits n (updateLink rtOpts n) := by
  have hlink (up : Bool) : Transmits n { n.called .getPortState with port.linkUP := up } :=
    .of_eq rfl rfl rfl rfl rfl rfl
  unfold updateLink
  generalize (n.answer .getPortState : Bool) = up
  dsimp only
  split
  · have hinit := ((hlink up).trans (toState_transmits rtOpts _ .initializing)).trans
      (doInit_transmits rtOpts _)
    generalize doInit rtOpts _ = m at hinit ⊢
    refine hinit.trans ?_
    split <;> exact .of_eq rfl rfl rfl rfl rfl rfl
  split
  · split <;> split <;> exact .of_eq rfl rfl rfl rfl rfl rfl
  · exact hlink up

/-- What a step does with the link numbers its requests by their counter. -/
theorem linked_transmits : Transmits n (linked rtOpts n) := by
  unfold linked
  dsimp only
  split
  · exact (updateLink_transmits rtOpts n).trans (doInit_transmits _ _)
  · exact updateLink_transmits rtOpts n

end Phases

/-! ### Runs -/

namespace Daemon

variable {rtOpts : RunTimeOpts} {d : Daemon}

/-- The frames that port `i` has sent with a result of one kind in the run of some environments. -/
def framesWith (kind : SendResult → Bool) (rtOpts : RunTimeOpts) (i : ℕ) :
    Daemon → List Oracle → List (List UInt8)
  | _, [] => []
  | d, o :: os =>
    let d' := step rtOpts o d
    let frames := (d'.sent i).drop (d.sent i).length
    WhiteRabbitPtp.framesWith kind (o.answers .sendto) (o.used .sendto) frames ++
      framesWith kind rtOpts i d' os

/-- What is sent in a run that goes on. -/
theorem framesWith_append (kind : SendResult → Bool) (i : ℕ) (d : Daemon)
    (os os' : List Oracle) :
    framesWith kind rtOpts i d (os ++ os') = framesWith kind rtOpts i d os ++
      framesWith kind rtOpts i (runInputs (step rtOpts) d os) os' := by
  induction os generalizing d with
  | nil => rfl
  | cons o os ih =>
    rw [List.cons_append, framesWith, framesWith, ih, List.append_assoc]
    rfl

/-- Results that two kinds do not tell apart make no difference in a run. -/
theorem framesWith_congr {kind kind' : SendResult → Bool} {os : List Oracle}
    (h : ∀ o ∈ os, ∀ k, kind (o.answers .sendto k) = kind' (o.answers .sendto k)) (i : ℕ)
    (d : Daemon) : framesWith kind rtOpts i d os = framesWith kind' rtOpts i d os := by
  induction os generalizing d with
  | nil => rfl
  | cons o os ih =>
    rw [framesWith, framesWith, ih fun o' ho' => h o' (List.mem_cons_of_mem o ho'),
      WhiteRabbitPtp.framesWith_congr (h o List.mem_cons_self)]

/-- Frames are handed over by port `i`, the requests counted are numbered, and the last DelayReq is
noted. -/
def StepTransmits (o : Oracle) (d d' : Daemon) (i : ℕ) : Prop :=
  ∃ frames, d'.sent i = d.sent i ++ frames ∧ (∀ kind : RequestKind,
    Numbered (· + 1) (kind.counter (d.ports i))
      (kind.sequenceIds (WhiteRabbitPtp.framesWith SendResult.counted (o.answers .sendto)
        (o.used .sendto) frames)) (kind.counter (d'.ports i))) ∧
    Stamped (d.ports i).delayReqNotes (outcomes (o.answers .sendto) (o.used .sendto) frames)
      (d'.ports i).delayReqNotes

/-- A step that does not concern a port hands none of its frames over. -/
theorem StepTransmits.of_eq {o : Oracle} {d' : Daemon} {i : ℕ} (hsent : d'.sent i = d.sent i)
    (hcounter : ∀ kind : RequestKind, kind.counter (d'.ports i) = kind.counter (d.ports i))
    (hnotes : (d'.ports i).delayReqNotes = (d.ports i).delayReqNotes) :
    StepTransmits o d d' i :=
  ⟨[], by simp [hsent], fun kind => by rw [hcounter]; exact .nil _, by rw [hnotes]; exact .nil _⟩

/-- A phase of one port that numbers its requests is one of the daemon that does, for every port. -/
theorem store_transmits {o : Oracle} {i : ℕ} {n : Node} (h : Transmits (d.node i o) n)
    (phase : Phase) (j : ℕ) : StepTransmits o d (d.store i n phase) j := by
  by_cases hj : j = i
  · subst hj
    obtain ⟨-, frames, ⟨hsent, -⟩, hnumbered, hstamped⟩ := h
    refine ⟨frames, ?_, fun kind => ?_, ?_⟩
    · simpa [store] using (show n.netif.sent = d.sent j ++ frames from hsent)
    · rw [store_ports_self]
      exact hnumbered kind
    · rw [store_ports_self]
      exact hstamped
  · have hports : (d.store i n phase).ports j = d.ports j := store_ports_of_ne _ _ hj
    exact .of_eq (by simp [store, hj]) (fun kind => by rw [hports]) (by rw [hports])

/-- Every step of the daemon numbers the requests it counts. -/
theorem step_transmits (rtOpts : RunTimeOpts) (o : Oracle) (d : Daemon) (i : ℕ) :
    StepTransmits o d (step rtOpts o d) i := by
  cases hphase : d.phase with
  | link j =>
    obtain ⟨phase, heq, -⟩ := step_link rtOpts o hphase
    rw [heq]
    exact store_transmits (linked_transmits _ _) _ _
  | decide j =>
    rw [step_decide rtOpts o hphase]
    exact store_transmits (stateDecision_transmits _ _ _) _ _
  | act j =>
    rw [step_act rtOpts o hphase]
    exact store_transmits (doStateActions_transmits _ _) _ _
  | shared =>
    obtain ⟨tics, extsrcLocked, heq⟩ := step_shared rtOpts o hphase
    rw [heq]
    have hport := sharedPortsLoop_port d.ports tics extsrcLocked d.clk i
    refine .of_eq rfl (fun kind => ?_) ?_ <;> dsimp only <;> rw [hport]
    · cases kind <;> rfl
    · rfl

/-- In every run the requests that a port counts are numbered one after the other. -/
theorem framesWith_numbered (rtOpts : RunTimeOpts) (i : ℕ) (kind : RequestKind) (d : Daemon)
    (os : List Oracle) :
    Numbered (· + 1) (kind.counter (d.ports i))
      (kind.sequenceIds (framesWith SendResult.counted rtOpts i d os))
      (kind.counter ((runInputs (step rtOpts) d os).ports i)) := by
  induction os generalizing d with
  | nil => exact .nil _
  | cons o os ih =>
    obtain ⟨frames, hsent, hnumbered, -⟩ := step_transmits rtOpts o d i
    have hframes : ((step rtOpts o d).sent i).drop (d.sent i).length = frames := by
      rw [hsent, List.drop_left]
    rw [framesWith, RequestKind.sequenceIds_append, hframes]
    exact (hnumbered kind).append (ih (step rtOpts o d))

/-- What port `i` hands over in the run of some environments, with what comes of it. -/
def sendings (rtOpts : RunTimeOpts) (i : ℕ) : Daemon → List Oracle → List (List UInt8 × SendResult)
  | _, [] => []
  | d, o :: os =>
    let d' := step rtOpts o d
    outcomes (o.answers .sendto) (o.used .sendto) ((d'.sent i).drop (d.sent i).length) ++
      sendings rtOpts i d' os

/-- In every run the DelayReq messages that a port hands over are stamped and numbered. -/
theorem sendings_stamped (rtOpts : RunTimeOpts) (i : ℕ) (d : Daemon) (os : List Oracle) :
    Stamped (d.ports i).delayReqNotes (sendings rtOpts i d os)
      ((runInputs (step rtOpts) d os).ports i).delayReqNotes := by
  induction os generalizing d with
  | nil => exact .nil _
  | cons o os ih =>
    obtain ⟨frames, hsent, -, hstamped⟩ := step_transmits rtOpts o d i
    have hframes : ((step rtOpts o d).sent i).drop (d.sent i).length = frames := by
      rw [hsent, List.drop_left]
    rw [sendings, hframes]
    exact hstamped.append (ih (step rtOpts o d))

/-- The numbers of the requests that port `i` has transmitted in a run. -/
def requests (rtOpts : RunTimeOpts) (i : ℕ) (kind : RequestKind) (d : Daemon) (os : List Oracle) :
    List UInt16 := kind.sequenceIds (d.framesWith SendResult.transmitted rtOpts i os)

/-- The numbers of the requests that port `i` has counted in a run: those that it has transmitted,
and those for which `ptpd_netif_sendto` returned an error. -/
def countedRequests (rtOpts : RunTimeOpts) (i : ℕ) (kind : RequestKind) (d : Daemon)
    (os : List Oracle) : List UInt16 :=
  kind.sequenceIds (d.framesWith SendResult.counted rtOpts i os)

/-- In every run from a start the counter of a port counts these requests. -/
theorem counted_numbered (hstart : Initial rtOpts d) (i : ℕ) (kind : RequestKind)
    (os : List Oracle) :
    Numbered (· + 1) 0 (d.countedRequests rtOpts i kind os)
      (kind.counter ((runInputs (step rtOpts) d os).ports i)) := by
  have hnumbered := framesWith_numbered rtOpts i kind d os
  obtain ⟨-, macs, extsrcLocked, tics, clk, rfl⟩ := hstart
  cases kind <;> exact hnumbered

end Daemon

end WhiteRabbitPtp
