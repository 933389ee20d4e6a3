import WhiteRabbitPtp.Correctness.LiveMaster
import WhiteRabbitPtp.Correctness.PortInvariants
import WhiteRabbitPtp.Correctness.Resync
import WhiteRabbitPtp.Correctness.Transmissions

/-!
# Answers to the latest request

A slave takes a DelayResp when its number is that of the latest DelayReq, and both ends of a link
that measures peer delays take a PDelayRespFollowUp when its number is that of the latest PDelayReq.
The number is found by counting the counter of the next request down, as an `int`: when the counter
has wrapped to `0` the result is `-1`, and no answer has this number. Requests for which
`ptpd_netif_sendto` returns an error are counted, too, so that the number may be one of them.

## Main definitions

* `RequestKind.Awaits`: a port handles the answers to a kind of request.
* `RequestKind.HearsAnswer`, `RequestKind.taken`: an answer is received, and what it does.
* `LatestAnswered`: an answer is taken exactly when it is to the latest request.
* `WrappedAround`: the counter of the requests is back at `0`.
* `LatestCounted`: the request transmitted last has the number of the one counted last.

## Main results

* `latestAnswered_iff`: answers are taken so exactly as long as `LatestCounted` holds.
* `not_forall_latestAnswered`: a run after which the latest request is not answered.
-/

namespace WhiteRabbitPtp

open Octets InputSystem Numbering

/-! ### Answers -/

namespace RequestKind

/-- A port in its state handles the answers to its requests of a kind. -/
def Awaits (rtOpts : RunTimeOpts) (port : PtpPortDS) : RequestKind → Prop
  | delayReq => rtOpts.E2E_mode = true ∧ port.portState = .slave
  | pdelayReq => rtOpts.E2E_mode = false ∧ (port.portState = .slave ∨ port.portState = .master)

/-- The type of the answers that are told apart by their numbers. -/
def answerType : RequestKind → UInt8
  | delayReq => DELAY_RESP
  | pdelayReq => PDELAY_RESP_FOLLOW_UP

/-- The least length of an answer. -/
def answerLength : RequestKind → ℕ
  | delayReq => DELAY_RESP_LENGTH
  | pdelayReq => PDELAY_RESP_FOLLOW_UP_LENGTH

/-- Everything but the number of an answer is as it should be. -/
def Addressed (n : Node) : RequestKind → Prop
  | delayReq => (msgUnpackDelayResp n.port.msgIbuf).requestingPortIdentity = n.port.portIdentity ∧
      msgIsFromCurrentParent n.port.msgTmpHeader n.clk = true
  | pdelayReq => True

/-- The frame that is received next is an answer to the port, with any number. -/
structure HearsAnswer (kind : RequestKind) (n : Node) : Prop where
  length : kind.answerLength ≤ (netRecvMsg n).1
  version : (received n).port.msgTmpHeader.versionPTP = n.port.versionNumber
  domain : (received n).port.msgTmpHeader.domainNumber = n.clk.domainNumber
  type : (received n).port.msgTmpHeader.messageType = kind.answerType
  addressed : kind.Addressed (received n)

/-- What taking an answer makes of a node: a DelayResp is passed to the servo, and the time in a
PDelayRespFollowUp is stored. -/
def taken (n : Node) : RequestKind → Node
  | delayReq =>
    let header := n.port.msgTmpHeader
    let (requestReceiptTimestamp, n) :=
      toLocalTime (msgUnpackDelayResp n.port.msgIbuf).receiveTimestamp n
    let n := { n with port.delayReqReceiveTime := requestReceiptTimestamp }
    let n := wrServoUpdate (wrServoGotDelay n (i32 header.correctionfield.lsb.toNat))
    { n with port.logMinDelayReqInterval := header.logMessageInterval }
  | pdelayReq =>
    let (responseOriginTimestamp, n) :=
      toLocalTime (msgUnpackPDelayRespFollowUp n.port.msgIbuf).receiveTimestamp n
    { n with port.pdelayRespSendTime := { n.port.pdelayRespSendTime with
      seconds := responseOriginTimestamp.seconds
      nanoseconds := responseOriginTimestamp.nanoseconds } }

end RequestKind

/-- An answer that is received is taken when its number is the last one of those sent, and otherwise
nothing is done with it. -/
def LatestAnswered (rtOpts : RunTimeOpts) (kind : RequestKind) (sent : List UInt16) (n : Node) :
    Prop :=
  kind.HearsAnswer n →
    (sent.getLast? = some (received n).port.msgTmpHeader.sequenceId →
      handle rtOpts n = kind.taken (received n)) ∧
    (sent.getLast? ≠ some (received n).port.msgTmpHeader.sequenceId →
      handle rtOpts n = received n)

/-- Requests were counted, as many as bring their counter back to `0`. -/
def WrappedAround (counted : List UInt16) : Prop := counted ≠ [] ∧ 65536 ∣ counted.length

/-- Of the requests that were transmitted the last one has the number of the last one counted, and
the counter has not wrapped around; or it has, and none was transmitted. -/
def LatestCounted (sent counted : List UInt16) : Prop :=
  ¬WrappedAround counted ∧ sent.getLast? = counted.getLast? ∨ WrappedAround counted ∧ sent = []

/-! ### Handling an answer -/

section Handling

variable {rtOpts : RunTimeOpts} {kind : RequestKind} {n : Node}

/-- Taking an answer is never the same as doing nothing: the time in it is converted. -/
theorem taken_ne (kind : RequestKind) (n : Node) : kind.taken n ≠ n := by
  have hservo (n : Node) : (wrServoUpdate n).netif.oracle.used .uninitialized =
      n.netif.oracle.used .uninitialized := by
    have hstep (n : Node) (hw : WrTimestamp) (tics : UInt64) :
        (servoStep n hw tics).netif.oracle.used .uninitialized =
          n.netif.oracle.used .uninitialized := by
      simp only [servoStep]
      split <;> try split_ifs
      all_goals rfl
    simp only [wrServoUpdate]
    split
    · rfl
    split
    · rfl
    rw [hstep]
    split <;> rfl
  intro h
  have hused : (kind.taken n).netif.oracle.used .uninitialized =
      n.netif.oracle.used .uninitialized + 1 := by
    cases kind
    · exact hservo _
    · rfl
  rw [h] at hused
  omega

theorem received_counter (kind : RequestKind) (n : Node) :
    kind.counter (received n).port = kind.counter n.port := by
  obtain ⟨msgIbuf, currentRxTs, msgTmpHeader, heq⟩ := received_port n
  rw [heq]
  cases kind <;> rfl

theorem received_awaits (h : kind.Awaits rtOpts n.port) : kind.Awaits rtOpts (received n).port := by
  obtain ⟨msgIbuf, currentRxTs, msgTmpHeader, heq⟩ := received_port n
  rw [heq]
  cases kind <;> exact h

/-- The handler that answers of a kind are dispatched to. -/
def RequestKind.handler (header : MsgHeader) (length : ℕ) (rtOpts : RunTimeOpts) (n : Node) :
    RequestKind → Node
  | delayReq => handleDelayResp header length rtOpts n
  | pdelayReq => handlePDelayRespFollowUp header length rtOpts n

/-- A handler takes an answer when the counter counted down gives its number. -/
theorem handler_eq {length : ℕ} (hawaits : kind.Awaits rtOpts n.port)
    (hlength : kind.answerLength ≤ length) (haddressed : kind.Addressed n) :
    kind.handler n.port.msgTmpHeader length rtOpts n =
      if ((kind.counter n.port).toNat : ℤ) - 1 = n.port.msgTmpHeader.sequenceId.toNat
        then kind.taken n else n := by
  cases kind with
  | delayReq =>
    obtain ⟨hmode, hslave⟩ := hawaits
    obtain ⟨hrequester, hparent⟩ := haddressed
    have hlength : DELAY_RESP_LENGTH ≤ length := hlength
    unfold RequestKind.handler handleDelayResp
    dsimp only
    rw [hmode, if_neg (by decide), if_neg (not_lt.mpr hlength), hslave]
    dsimp only
    simp only [hrequester, hparent, true_and, and_true]
    rfl
  | pdelayReq =>
    obtain ⟨hmode, hstate⟩ := hawaits
    have hlength : PDELAY_RESP_FOLLOW_UP_LENGTH ≤ length := hlength
    unfold RequestKind.handler handlePDelayRespFollowUp
    dsimp only
    rw [hmode, if_neg (by decide), if_neg (not_lt.mpr hlength)]
    rcases hstate with hstate | hstate <;> rw [hstate] <;> simp only [eq_comm] <;> rfl

/-- An answer that is received is given to its handler. -/
theorem handle_of_hearsAnswer (h : kind.HearsAnswer n) :
    handle rtOpts n = kind.handler (received n).port.msgTmpHeader (netRecvMsg n).1.toNat rtOpts
      (received n) := by
  obtain ⟨hlength, hversion, hdomain, htype, -⟩ := h
  have hpos : (HEADER_LENGTH : ℤ) ≤ (netRecvMsg n).1 :=
    le_trans (by cases kind <;> decide) hlength
  have hframe : Frame n (received n) := (received_wrFrame (P := fun _ => True) n).toFrame
  rw [← hframe.versionNumber] at hversion
  rw [← hframe.clk] at hdomain
  have hdispatch : dispatchMsg (netRecvMsg n).1.toNat rtOpts (received n) =
      kind.handler (received n).port.msgTmpHeader (netRecvMsg n).1.toNat rtOpts (received n) := by
    unfold dispatchMsg
    generalize received n = m at *
    dsimp only
    rw [if_neg (not_not.mpr hversion), if_neg (not_not.mpr hdomain), htype]
    cases kind <;> simp [RequestKind.answerType, RequestKind.handler, ANNOUNCE, SYNC, FOLLOW_UP,
      DELAY_REQ, PDELAY_REQ, PDELAY_RESP, PDELAY_RESP_FOLLOW_UP, DELAY_RESP]
  unfold handle
  dsimp only
  rw [if_neg (not_lt.mpr (le_trans (by decide) hpos)),
    if_neg (ne_of_gt (lt_of_lt_of_le (by decide) hpos)), if_neg (not_lt.mpr hpos)]
  exact hdispatch

/-- An answer is taken when the counter counted down gives its number. -/
theorem handle_of_awaits (hawaits : kind.Awaits rtOpts n.port) (h : kind.HearsAnswer n) :
    handle rtOpts n =
      if ((kind.counter n.port).toNat : ℤ) - 1 = (received n).port.msgTmpHeader.sequenceId.toNat
        then kind.taken (received n) else received n := by
  rw [handle_of_hearsAnswer h, ← received_counter kind n]
  exact handler_eq (received_awaits hawaits) (by have := h.length; omega) h.addressed

end Handling

/-! ### The number of the latest request -/

section Latest

variable {sent : List UInt16} {c : UInt16}

/-- A counter that started at `0` has the number of requests, but for whole turns. -/
theorem counter_eq (h : Numbered (· + 1) 0 sent c) : c = UInt16.ofNat sent.length := by
  rw [← h.iterate]
  generalize sent.length = k
  induction k with
  | zero => rfl
  | succ k ih => rw [Function.iterate_succ_apply', ih, UInt16.ofNat_add]; rfl

theorem wrappedAround_iff (h : Numbered (· + 1) 0 sent c) :
    WrappedAround sent ↔ sent ≠ [] ∧ c = 0 := by
  rw [WrappedAround, counter_eq h, ← UInt16.toNat_inj, UInt16.toNat_ofNat']
  exact and_congr_right fun _ => Nat.dvd_iff_mod_eq_zero ..

/-- Counting the counter down gives the number of the latest request, unless the counter has wrapped
around. -/
theorem getLast_eq_iff (h : Numbered (· + 1) 0 sent c) (hwrapped : ¬WrappedAround sent)
    (id : UInt16) : sent.getLast? = some id ↔ (c.toNat : ℤ) - 1 = id.toNat := by
  rw [wrappedAround_iff h, not_and] at hwrapped
  cases hlast : sent.getLast? with
  | none =>
    -- Nothing was sent, so the counter gives `-1`, which is no number.
    have hempty : sent = [] := List.getLast?_eq_none_iff.mp hlast
    have hzero : c.toNat = 0 := by
      rw [counter_eq h, hempty]
      rfl
    simp only [hzero, reduceCtorEq, false_iff]
    omega
  | some last =>
    have hne : sent ≠ [] := by
      rintro rfl
      simp at hlast
    have hcounter : (last.toNat + 1) % 65536 = c.toNat := by
      simpa using congrArg UInt16.toNat (h.next_getLast hlast)
    have hzero : c.toNat ≠ 0 := fun hzero => hwrapped hne (UInt16.toNat_inj.mp hzero)
    rw [Option.some_inj, ← UInt16.toNat_inj]
    have hlt := last.toNat_lt
    omega

end Latest

/-! ### Every number may be answered -/

section Hearing

/-- A message that answers a port, with a number. -/
def answerBuffer (kind : RequestKind) (id : UInt16) (clk : PtpClockDS) (port : PtpPortDS) :
    Buffer :=
  let buf := Buffer.set (fun _ => 0) 0 kind.answerType
  let buf := (buf.set 1 port.versionNumber).set 4 clk.domainNumber
  let buf := (putPortIdentity buf 20 clk.parentPortIdentity).putBe16 30 id
  putPortIdentity buf 44 port.portIdentity

/-- What is read of the message when it is received. -/
theorem answerBuffer_load (kind : RequestKind) (id : UInt16) (clk : PtpClockDS) {port : PtpPortDS}
    (hready : port.Ready) (msgIbuf : Buffer) :
    let buf := msgIbuf.load ((answerBuffer kind id clk port).octets 54)
    (msgUnpackHeader buf).messageType = kind.answerType ∧
      (msgUnpackHeader buf).versionPTP = port.versionNumber ∧
      (msgUnpackHeader buf).domainNumber = clk.domainNumber ∧
      (msgUnpackHeader buf).sourcePortIdentity = clk.parentPortIdentity ∧
      (msgUnpackHeader buf).sequenceId = id ∧
      (msgUnpackDelayResp buf).requestingPortIdentity = port.portIdentity := by
  have hoctet (k : ℕ) (hk : k < 54) :
      msgIbuf.load ((answerBuffer kind id clk port).octets 54) k =
        answerBuffer kind id clk port k :=
    Buffer.load_octets_apply _ _ _ _ hk
  have hidentity (off : ℕ) (hoff : off + 10 ≤ 54) :
      getPortIdentity (msgIbuf.load ((answerBuffer kind id clk port).octets 54)) off =
        getPortIdentity (answerBuffer kind id clk port) off := by
    rw [getPortIdentity, getPortIdentity, Buffer.read_load_octets _ _ _ _ (by omega),
      Buffer.getBe16_load_octets _ _ _ _ (by omega)]
  refine ⟨?_, ?_, ?_, ?_, ?_, ?_⟩
  -- The low nibble of octet 0 is the type, that of octet 1 the version.
  · rw [msgUnpackHeader]
    dsimp only
    rw [hoctet 0 (by decide)]
    cases kind <;> simp [answerBuffer, putPortIdentity, RequestKind.answerType] <;> decide
  · rw [msgUnpackHeader]
    dsimp only
    rw [hoctet 1 (by decide), show port.versionNumber = 2 from hready]
    simp [answerBuffer, putPortIdentity, show port.versionNumber = 2 from hready]
    decide
  · rw [msgUnpackHeader]
    dsimp only
    rw [hoctet 4 (by decide)]
    simp [answerBuffer, putPortIdentity]
  · refine (hidentity 20 (by decide)).trans ?_
    simp [answerBuffer, putPortIdentity, getPortIdentity]
  · refine (Buffer.getBe16_load_octets _ _ _ _ (by decide)).trans ?_
    simp [answerBuffer, putPortIdentity]
  · refine (hidentity 44 (by decide)).trans ?_
    simp [answerBuffer, putPortIdentity, getPortIdentity]

/-- A frame to the port is received. -/
theorem netRecvMsg_of_frame {n : Node} {data : List UInt8} {rxTs : WrTimestamp}
    (h : n.answer .recvfrom = .frame n.port.netPath.selfAddr data rxTs) :
    netRecvMsg n = ((data.length : ℤ), { n.called .recvfrom with
      port := { n.port with msgIbuf := n.port.msgIbuf.load data, currentRxTs := rxTs } }) := by
  unfold netRecvMsg
  rw [h]
  exact if_pos (.inl rfl)

/-- An initialized port may hear an answer with any number, which fits its input buffer. -/
theorem exists_hearsAnswer (kind : RequestKind) (id : UInt16) {d : Daemon} {i : ℕ}
    (hready : (d.ports i).Ready) : ∃ o, (d.node i o).FrameFits ∧ kind.HearsAnswer (d.node i o) ∧
      (received (d.node i o)).port.msgTmpHeader.sequenceId = id := by
  set frame := (answerBuffer kind id d.clk (d.ports i)).octets 54 with hframe
  set o := Oracle.ready true .nonWr (.frame (d.ports i).netPath.selfAddr frame ⟨0, 0, 0, 1⟩) 64 0
    with ho
  obtain ⟨htype, hversion, hdomain, hsource, hid, hrequester⟩ :=
    answerBuffer_load kind id d.clk hready (d.ports i).msgIbuf
  have hrecv : netRecvMsg (d.node i o) = ((frame.length : ℤ), { (d.node i o).called .recvfrom with
      port := { d.ports i with
        msgIbuf := (d.ports i).msgIbuf.load frame, currentRxTs := ⟨0, 0, 0, 1⟩ } }) :=
    netRecvMsg_of_frame rfl
  have hheader : (received (d.node i o)).port.msgTmpHeader =
      msgUnpackHeader ((d.ports i).msgIbuf.load frame) := by
    unfold received
    rw [hrecv]
  have hfits : (d.node i o).FrameFits := by
    change frame.length ≤ PACKET_SIZE
    rw [hframe, Buffer.length_octets]
    decide
  refine ⟨o, hfits, ⟨?_, ?_, ?_, ?_, ?_⟩, ?_⟩
  -- Both kinds of answers are 54 octets long.
  · have hlength : kind.answerLength = 54 := by cases kind <;> rfl
    rw [hrecv, hframe, Buffer.length_octets, hlength]
  · rw [hheader]
    exact hversion
  · rw [hheader]
    exact hdomain
  · rw [hheader]
    exact htype
  · cases kind
    · refine ⟨?_, ?_⟩
      · unfold received
        rw [hrecv]
        exact hrequester
      · rw [hheader]
        unfold received
        rw [hrecv]
        exact decide_eq_true hsource.symm
    · trivial
  · rw [hheader]
    exact hid

end Hearing

/-! ### Runs -/

section Runs

variable {rtOpts : RunTimeOpts} {d : Daemon} {i : ℕ} {kind : RequestKind}

/-- A port that handles answers is initialized. -/
theorem RequestKind.Awaits.ready (h : kind.Awaits rtOpts (d.ports i))
    (hd : Daemon.Reachable rtOpts d) : (d.ports i).Ready := by
  by_contra hready
  have hinit := (Daemon.Reachable.prepared hd).unready i hready
  cases kind with
  | delayReq => exact absurd (hinit.symm.trans h.2) (by decide)
  | pdelayReq =>
    rcases h.2 with hstate | hstate <;> exact absurd (hinit.symm.trans hstate) (by decide)

/-- A port takes the answers to the latest request exactly when the number that its counter gives is
the one of this request. -/
theorem latestAnswered_iff_counter (hready : (d.ports i).Ready)
    (hawaits : kind.Awaits rtOpts (d.ports i)) (sent : List UInt16) :
    (∀ o, (d.node i o).FrameFits → LatestAnswered rtOpts kind sent (d.node i o)) ↔
      ∀ id : UInt16, sent.getLast? = some id ↔
        ((kind.counter (d.ports i)).toNat : ℤ) - 1 = id.toNat := by
  constructor
  · intro hanswered id
    -- An answer with this number may be received next.
    obtain ⟨o, hfits, hhears, hid⟩ := exists_hearsAnswer kind id hready
    obtain ⟨htakes, hignores⟩ := hanswered o hfits hhears
    have hhandle := handle_of_awaits (n := d.node i o) hawaits hhears
    rw [hid] at htakes hignores hhandle
    rw [show (d.node i o).port = d.ports i from rfl] at hhandle
    constructor
    · intro hlatest
      by_contra hother
      rw [if_neg hother] at hhandle
      exact taken_ne kind _ ((htakes hlatest).symm.trans hhandle)
    · intro hnumber
      by_contra hlatest
      rw [if_pos hnumber] at hhandle
      exact taken_ne kind _ (hhandle.symm.trans (hignores hlatest))
  · intro hlatest o _ hhears
    have hhandle := handle_of_awaits (n := d.node i o) hawaits hhears
    rw [show (d.node i o).port = d.ports i from rfl] at hhandle
    rw [hlatest, ne_eq, hlatest]
    exact ⟨fun hid => hhandle.trans (if_pos hid), fun hid => hhandle.trans (if_neg hid)⟩

/-- The counter gives the number of the latest request exactly when this is the last one counted. -/
theorem latestCounted_iff {counted : List UInt16} {c : UInt16}
    (hcounted : Numbered (· + 1) 0 counted c) (sent : List UInt16) :
    (∀ id : UInt16, sent.getLast? = some id ↔ (c.toNat : ℤ) - 1 = id.toNat) ↔
      LatestCounted sent counted := by
  unfold LatestCounted
  by_cases hwrapped : WrappedAround counted
  · -- No number is counted down to.
    have hzero : c = 0 := ((wrappedAround_iff hcounted).mp hwrapped).2
    have hnever (id : UInt16) : ¬((c.toNat : ℤ) - 1 = id.toNat) := by
      rw [hzero]
      exact (show (-1 : ℤ) ≠ id.toNat by omega)
    simp only [hnever, iff_false, hwrapped, not_true_eq_false, false_and, true_and, false_or]
    rw [← Option.eq_none_iff_forall_ne_some, List.getLast?_eq_none_iff]
  · simp only [← getLast_eq_iff hcounted hwrapped, hwrapped, not_false_eq_true, true_and, false_and,
      or_false]
    exact Option.ext_iff.symm

/-- In every run in which no frame is longer than the input buffer, the answer to the request that a
port has transmitted last is taken, and no other, exactly when this request has the number of the
last one counted and the counter has not wrapped around to `0` (`LatestCounted`). -/
theorem latestAnswered_iff {os : List Oracle} (hrun : d.FittingRun rtOpts os)
    (hawaits : kind.Awaits rtOpts ((runInputs (Daemon.step rtOpts) d os).ports i)) :
    (∀ o, ((runInputs (Daemon.step rtOpts) d os).node i o).FrameFits →
      LatestAnswered rtOpts kind (d.requests rtOpts i kind os)
        ((runInputs (Daemon.step rtOpts) d os).node i o)) ↔
      LatestCounted (d.requests rtOpts i kind os) (d.countedRequests rtOpts i kind os) := by
  have hready := hawaits.ready (Reachable.runInputs (.start hrun.initial) os)
  rw [latestAnswered_iff_counter hready hawaits]
  exact latestCounted_iff (Daemon.counted_numbered hrun.initial i kind os) _

end Runs

/-! ### A run that wraps around -/

section Wrapping

/-- A slave that has nothing else to do than to send its requests. -/
structure Asks (d : Daemon) : Prop where
  phase : d.phase = .link 0
  linkUP : (d.ports 0).linkUP = true
  doRestart : (d.ports 0).doRestart = false
  slave : (d.ports 0).portState = .slave
  recordUpdate : (d.ports 0).fm.recordUpdate = false
  event : d.clk.globalStateDecisionEvent = false
  numberPorts : d.clk.numberPorts = 1
  heard : ((d.ports 0).timers .announceReceipt).expired 0 = false
  armed : ((d.ports 0).timers .delayReq).interval ≠ 0

instance : DecidablePred Asks := fun d =>
  decidable_of_iff (d.phase = .link 0 ∧ (d.ports 0).linkUP = true ∧ (d.ports 0).doRestart = false ∧
    (d.ports 0).portState = .slave ∧ (d.ports 0).fm.recordUpdate = false ∧
    d.clk.globalStateDecisionEvent = false ∧ d.clk.numberPorts = 1 ∧
    ((d.ports 0).timers .announceReceipt).expired 0 = false ∧
    ((d.ports 0).timers .delayReq).interval ≠ 0)
    ⟨fun ⟨h₁, h₂, h₃, h₄, h₅, h₆, h₇, h₈, h₉⟩ => ⟨h₁, h₂, h₃, h₄, h₅, h₆, h₇, h₈, h₉⟩,
      fun h => ⟨h.1, h.2, h.3, h.4, h.5, h.6, h.7, h.8, h.9⟩⟩

/-- An environment in which the clock shows `0` when it is read first and `tics` from then on. -/
def askingOracle (tics : UInt64) : Oracle :=
  let ready := Oracle.ready true .wrSlave .nothing 64 0
  { ready with answers := fun
      | .msecTics, k => if k = 0 then 0 else tics
      | c, k => ready.answers c k }

/-- A slave that receives nothing and whose master was heard polls the timer of its requests. -/
theorem doSlaveActions_of_heard {n : Node} (hnothing : n.answer .recvfrom = .nothing)
    (htics : n.answer .msecTics = 0)
    (hheard : (n.port.timers .announceReceipt).expired 0 = false) :
    doSlaveActions (defaultRtOpts 1) n = onTimer .delayReq (issueDelayReq (defaultRtOpts 1))
      ((n.called .recvfrom).called .msecTics) := by
  have hhandle : handle (defaultRtOpts 1) n = n.called .recvfrom := by
    simp [handle, netRecvMsg, hnothing]
  have hpolled : (n.called .recvfrom).timerPolled .announceReceipt =
      (n.called .recvfrom).called .msecTics := by
    have hanswer : (n.called .recvfrom).answer .msecTics = 0 := htics
    simp [Node.timerPolled, hanswer, IntervalTimer.polled, hheard]
    rfl
  have hexpired : (n.called .recvfrom).timerExpired .announceReceipt = false := by
    have hanswer : (n.called .recvfrom).answer .msecTics = 0 := htics
    simp [Node.timerExpired, hanswer, hheard]
  have htimeout : onTimer .announceReceipt (announceReceiptTimeoutExpires (defaultRtOpts 1))
      (n.called .recvfrom) = (n.called .recvfrom).called .msecTics := by
    rw [onTimer, hexpired, hpolled]
    rfl
  rw [doSlaveActions, hhandle, htimeout]
  rfl

/-- A message whose transmission succeeds is counted. -/
theorem issueMsg_of_ret {rtOpts : RunTimeOpts} {buf : Buffer} {length : ℕ}
    {record : SendResult → PtpPortDS → PtpPortDS} {sent : PtpPortDS → PtpPortDS} {n : Node}
    (hret : (n.answer .sendto).ret ≠ 0) :
    issueMsg rtOpts buf length record sent n =
      let m := ({ n with port.msgObuf := buf } : Node).sendto length
      { m with port := sent (record (n.answer .sendto) m.port) } := if_neg hret

/-- When its timer expires, a slave sends a request. -/
theorem onTimer_issueDelayReq {n : Node} (harmed : (n.port.timers .delayReq).interval ≠ 0)
    (htics : n.answer .msecTics = (n.port.timers .delayReq).tExpire)
    (hret : (n.answer .sendto).ret ≠ 0) :
    let n' := onTimer .delayReq (issueDelayReq (defaultRtOpts 1)) n
    n'.clk = n.clk ∧ n'.port = { n.port with
      msgObuf := n'.port.msgObuf
      delayReqTxTs := n'.port.delayReqTxTs
      timers := Function.update n.port.timers .delayReq
        ((n.port.timers .delayReq).polled (n.port.timers .delayReq).tExpire)
      sentDelayReqSequenceId := n.port.sentDelayReqSequenceId + 1 } := by
  have hexpired : n.timerExpired .delayReq = true := by
    simp [Node.timerExpired, htics, IntervalTimer.expired, harmed]
  have hret : ((n.timerPolled .delayReq).answer .sendto).ret ≠ 0 := hret
  dsimp only
  rw [onTimer, if_pos hexpired, issueDelayReq, issueMsg_of_ret hret, ← htics]
  exact ⟨rfl, rfl⟩

/-- Following a link that stays up. -/
theorem updateLink_of_up {rtOpts : RunTimeOpts} {n : Node} (hup : n.answer .getPortState = true)
    (hlink : n.port.linkUP = true) (hrestart : n.port.doRestart = false) :
    updateLink rtOpts n = n.called .getPortState := by
  have hport : { n.port with linkUP := true } = n.port := by rw [← hlink]
  unfold updateLink
  rw [hup]
  dsimp only
  rw [if_neg (by simp [hlink, hrestart]), if_neg (by simp)]
  show ({ n.called .getPortState with port := { n.port with linkUP := true } } : Node) = _
  rw [hport]
  rfl

/-- The first two steps of an iteration change nothing but the phase. -/
theorem Asks.unchanged {d : Daemon} (h : Asks d) : ∃ d' : Daemon,
    Daemon.step (defaultRtOpts 1) (askingOracle 0)
        (Daemon.step (defaultRtOpts 1) (askingOracle 0) d) = d' ∧
      d'.phase = .act 0 ∧ d'.ports 0 = d.ports 0 ∧ d'.clk = d.clk := by
  let n := d.node 0 (askingOracle 0)
  let linked := d.store 0 (n.called .getPortState) (.decide 0)
  have hlink : Daemon.step (defaultRtOpts 1) (askingOracle 0) d = linked := by
    have hupdate : updateLink (defaultRtOpts 1) n = n.called .getPortState :=
      updateLink_of_up rfl h.linkUP h.doRestart
    have hstate : (n.called .getPortState).port.portState ≠ .initializing := by
      rw [show (n.called .getPortState).port.portState = .slave from h.slave]
      decide
    rw [Daemon.step, h.phase]
    dsimp only
    rw [hupdate, if_pos (show (n.called .getPortState).port.linkUP = true from h.linkUP),
      if_pos hstate]
  have hdecide : Daemon.step (defaultRtOpts 1) (askingOracle 0) linked =
      linked.store 0 (linked.node 0 (askingOracle 0)) (.act 0) := by
    rw [Daemon.step_decide _ _ rfl, stateDecision_of_not]
    rintro ⟨-, hevent, -⟩
    exact absurd (h.event.symm.trans hevent) (by decide)
  refine ⟨linked.store 0 (linked.node 0 (askingOracle 0)) (.act 0), ?_, rfl, ?_, rfl⟩
  · rw [hlink, hdecide]
  · simp [linked, n, Daemon.node]

/-- The third step sends a request. -/
theorem Asks.sends {d d' : Daemon} (h : Asks d) (hphase : d'.phase = .act 0)
    (hport : d'.ports 0 = d.ports 0) :
    let timer := (d.ports 0).timers .delayReq
    ∃ n : Node, Daemon.step (defaultRtOpts 1) (askingOracle timer.tExpire) d' =
        d'.store 0 n .shared ∧
      n.clk = d'.clk ∧ n.port = { d.ports 0 with
        msgObuf := n.port.msgObuf
        delayReqTxTs := n.port.delayReqTxTs
        timers := Function.update (d.ports 0).timers .delayReq (timer.polled timer.tExpire)
        sentDelayReqSequenceId := (d.ports 0).sentDelayReqSequenceId + 1 } := by
  intro timer
  let asking := askingOracle timer.tExpire
  have hact : Daemon.step (defaultRtOpts 1) asking d' =
      d'.store 0 (doSlaveActions (defaultRtOpts 1) (d'.node 0 asking)) .shared := by
    have hslave : (d'.node 0 asking).port.portState = .slave := by
      rw [show (d'.node 0 asking).port = d.ports 0 from hport]
      exact h.slave
    rw [Daemon.step_act _ _ hphase, doStateActions, hslave]
    rfl
  have hheard : ((d'.ports 0).timers .announceReceipt).expired 0 = false := by
    rw [hport]
    exact h.heard
  let polled := ((d'.node 0 asking).called .recvfrom).called .msecTics
  have hpolled : polled.port = d.ports 0 := hport
  have hactions : doSlaveActions (defaultRtOpts 1) (d'.node 0 asking) =
      onTimer .delayReq (issueDelayReq (defaultRtOpts 1)) polled :=
    doSlaveActions_of_heard rfl rfl hheard
  have hsent := onTimer_issueDelayReq (n := polled) (by rw [hpolled]; exact h.armed)
    (by rw [hpolled]; rfl) (show (64 : ℤ) ≠ 0 by decide)
  dsimp only at hsent
  rw [← hactions, hpolled] at hsent
  exact ⟨_, hact, hsent⟩

/-- In one iteration a slave that only sends requests sends one. -/
theorem asks_iteration {d : Daemon} (h : Asks d) : ∃ os : List Oracle,
    (∀ o ∈ os, ∃ tics, o = askingOracle tics) ∧
    Asks (runInputs (Daemon.step (defaultRtOpts 1)) d os) ∧
      ((runInputs (Daemon.step (defaultRtOpts 1)) d os).ports 0).sentDelayReqSequenceId =
        (d.ports 0).sentDelayReqSequenceId + 1 := by
  let timer := (d.ports 0).timers .delayReq
  let ready := askingOracle 0
  let asking := askingOracle timer.tExpire
  obtain ⟨decided, hdecided, hphase, hport, hdecidedClk⟩ := h.unchanged
  obtain ⟨n, hact, hclk, hn⟩ := h.sends hphase hport
  -- The last step finds no record to search.
  let acted := decided.store 0 n .shared
  have hacted : acted.ports 0 = n.port := by simp [acted]
  have hmark : n.port.fm.recordUpdate = false := by
    rw [hn]
    exact h.recordUpdate
  have hnumber : acted.clk.numberPorts = 1 := by
    rw [show acted.clk = d.clk from hclk.trans hdecidedClk]
    exact h.numberPorts
  have hnone : ∀ i < acted.clk.numberPorts, (acted.ports i).fm.recordUpdate = false := by
    intro i hi
    rw [show i = 0 by omega, hacted]
    exact hmark
  obtain ⟨tics, extsrcLocked, hshared⟩ :=
    Daemon.step_shared (d := acted) (defaultRtOpts 1) ready rfl
  have hports : (sharedPortsLoop tics extsrcLocked acted.ports acted.clk).1 0 = n.port := by
    rw [sharedPortsLoop_fst, updateErBests_of_not _ hnone, hacted]
  obtain ⟨hnumber', hevent, -, -⟩ := sharedPortsLoop_clk acted.ports tics extsrcLocked acted.clk
  have hquiet := (anyRecordUpdate_eq_false_iff acted.ports acted.clk.numberPorts).mpr hnone
  refine ⟨[ready, ready, asking, ready], ?_, ?_, ?_⟩
  · simp only [List.forall_mem_cons]
    exact ⟨⟨0, rfl⟩, ⟨0, rfl⟩, ⟨_, rfl⟩, ⟨0, rfl⟩, fun o ho => absurd ho List.not_mem_nil⟩
  all_goals
    rw [show runInputs (Daemon.step (defaultRtOpts 1)) d [ready, ready, asking, ready] =
      Daemon.step (defaultRtOpts 1) ready (Daemon.step (defaultRtOpts 1) asking
        (Daemon.step (defaultRtOpts 1) ready (Daemon.step (defaultRtOpts 1) ready d))) from rfl,
      hdecided, hact, hshared]
  · have htimers : n.port.timers = Function.update (d.ports 0).timers .delayReq
        (timer.polled timer.tExpire) := by rw [hn]
    have hpolled : (timer.polled timer.tExpire).interval = timer.interval := by
      unfold IntervalTimer.polled
      split <;> rfl
    constructor
    case phase => rfl
    case event => exact hevent.trans hquiet
    case numberPorts => exact hnumber'.trans hnumber
    all_goals dsimp only; rw [hports]
    case linkUP => rw [hn]; exact h.linkUP
    case doRestart => rw [hn]; exact h.doRestart
    case slave => rw [hn]; exact h.slave
    case recordUpdate => exact hmark
    case heard =>
      rw [htimers, Function.update_of_ne (by decide)]
      exact h.heard
    case armed =>
      rw [htimers, Function.update_self, hpolled]
      exact h.armed
  · dsimp only
    rw [hports, hn]

/-- Such a slave may advance its counter as often as one likes. -/
theorem asks_run {d : Daemon} (h : Asks d) (k : ℕ) : ∃ os : List Oracle,
    (∀ o ∈ os, ∃ tics, o = askingOracle tics) ∧
    Asks (runInputs (Daemon.step (defaultRtOpts 1)) d os) ∧
      ((runInputs (Daemon.step (defaultRtOpts 1)) d os).ports 0).sentDelayReqSequenceId =
        (d.ports 0).sentDelayReqSequenceId + UInt16.ofNat k := by
  induction k with
  | zero => exact ⟨[], fun o ho => absurd ho List.not_mem_nil, h, by simp [runInputs]⟩
  | succ k ih =>
    obtain ⟨os, hos, hasks, hcounter⟩ := ih
    obtain ⟨os', hos', hasks', hcounter'⟩ := asks_iteration hasks
    refine ⟨os ++ os', List.forall_mem_append.mpr ⟨hos, hos'⟩, by rwa [run_append], ?_⟩
    rw [run_append, hcounter', hcounter, UInt16.add_assoc, UInt16.ofNat_add]
    rfl

/-- Every transmission succeeds. -/
def Oracle.Delivers (o : Oracle) : Prop := ∀ k, (o.answers .sendto k).transmitted = true

/-- As long as every transmission succeeds, the requests counted are those transmitted. -/
theorem Daemon.requests_eq_countedRequests {rtOpts : RunTimeOpts} {os : List Oracle}
    (h : ∀ o ∈ os, o.Delivers) (d : Daemon) (i : ℕ) (kind : RequestKind) :
    d.requests rtOpts i kind os = d.countedRequests rtOpts i kind os := by
  refine congrArg kind.sequenceIds (Daemon.framesWith_congr (fun o ho k => ?_) i d)
  have hpos : 0 < (o.answers .sendto k).ret := of_decide_eq_true (h o ho k)
  rw [h o ho k]
  exact (decide_eq_true hpos.ne').symm

/-- A slave that only sends requests, and has counted none, may send as many as bring its counter
back. -/
theorem exists_wrappedAround {d : Daemon} {os : List Oracle}
    (hrun : d.FittingRun (defaultRtOpts 1) os) (hdelivers : ∀ o ∈ os, o.Delivers)
    (hasks : Asks (runInputs (Daemon.step (defaultRtOpts 1)) d os))
    (hzero : ((runInputs (Daemon.step (defaultRtOpts 1)) d os).ports
      0).sentDelayReqSequenceId = 0) :
    ∃ os, d.FittingRun (defaultRtOpts 1) os ∧
      Asks (runInputs (Daemon.step (defaultRtOpts 1)) d os) ∧
        ¬LatestCounted (d.requests (defaultRtOpts 1) 0 .delayReq os)
          (d.countedRequests (defaultRtOpts 1) 0 .delayReq os) := by
  -- The counter shows its last number, and then `0` again.
  obtain ⟨os₁, hos₁, hasks₁, hlast⟩ := asks_run hasks 65535
  obtain ⟨os₂, hos₂, hasks₂, hback⟩ := asks_iteration hasks₁
  have hadded : ∀ o ∈ os₁ ++ os₂, ∃ tics, o = askingOracle tics :=
    List.forall_mem_append.mpr ⟨hos₁, hos₂⟩
  rw [← run_append] at hasks₁ hlast
  rw [← run_append, ← run_append] at hasks₂ hback
  have hfits : EveryStep (Daemon.step (defaultRtOpts 1)) Daemon.FramesFit
      (runInputs (Daemon.step (defaultRtOpts 1)) d os) (os₁ ++ os₂) := by
    refine .of_forall fun o ho d' i _ => ?_
    obtain ⟨tics, rfl⟩ := hadded o ho
    exact Nat.zero_le PACKET_SIZE
  have hdelivers' : ∀ o ∈ os ++ (os₁ ++ os₂), o.Delivers := by
    refine List.forall_mem_append.mpr ⟨hdelivers, fun o ho k => ?_⟩
    obtain ⟨tics, rfl⟩ := hadded o ho
    rfl
  refine ⟨os ++ (os₁ ++ os₂), ⟨hrun.initial, EveryStep.append.mpr ⟨hrun.framesFit, hfits⟩⟩,
    hasks₂, ?_⟩
  have hnumbered₁ := Daemon.counted_numbered hrun.initial 0 .delayReq (os ++ os₁)
  have hnumbered₂ := Daemon.counted_numbered hrun.initial 0 .delayReq (os ++ (os₁ ++ os₂))
  have hsome : d.countedRequests (defaultRtOpts 1) 0 .delayReq (os ++ os₁) ≠ [] := by
    intro hnone
    have hcounter := counter_eq hnumbered₁
    rw [hnone] at hcounter
    exact absurd (hcounter.symm.trans (hlast.trans (by rw [hzero]))) (by decide)
  have hne : d.countedRequests (defaultRtOpts 1) 0 .delayReq (os ++ (os₁ ++ os₂)) ≠ [] := by
    rw [← List.append_assoc, Daemon.countedRequests, Daemon.framesWith_append,
      RequestKind.sequenceIds_append]
    exact List.append_ne_nil_of_left_ne_nil hsome _
  have hwrapped : WrappedAround
      (d.countedRequests (defaultRtOpts 1) 0 .delayReq (os ++ (os₁ ++ os₂))) := by
    refine (wrappedAround_iff hnumbered₂).mpr ⟨hne, hback.trans ?_⟩
    rw [← run_append, hlast, hzero]
    decide
  rw [Daemon.requests_eq_countedRequests hdelivers']
  rintro (⟨hnot, -⟩ | ⟨-, hnone⟩)
  · exact hnot hwrapped
  · exact hne hnone

/-- A slave runs a complete link set-up. -/
def askingRun : List Oracle :=
  [some masterAnnounce, none, some (masterFrame LOCK), none, some (masterFrame CALIBRATE),
    some (masterFrame CALIBRATED), none, some (masterFrame WR_MODE_ON), none, none,
    none].flatMap slaveIteration

/-- The state of the slave's clock after this run. -/
def askingState : Daemon :=
  runInputs (Daemon.step (defaultRtOpts 1)) (Daemon.single ![2, 0, 0, 0, 0, 1]) askingRun

set_option maxRecDepth 100000 in
theorem askingState_asks : Asks askingState ∧ (askingState.ports 0).sentDelayReqSequenceId = 0 := by
  decide +kernel

set_option maxRecDepth 100000 in
/-- The frames that the slave receives in this run fit its input buffer. -/
theorem askingRun_fitting :
    (Daemon.single ![2, 0, 0, 0, 0, 1]).FittingRun (defaultRtOpts 1) askingRun :=
  ⟨Daemon.single_initial _, by decide +kernel⟩

theorem askingRun_delivers : ∀ o ∈ askingRun, o.Delivers := by
  intro o ho k
  obtain ⟨frame, -, hmem⟩ := List.mem_flatMap.mp ho
  rw [List.eq_of_mem_replicate hmem]
  rfl

/-- A slave that sends its first request. -/
def askedRun : List Oracle := askingRun ++ List.replicate 4 (askingOracle 2000)

set_option maxRecDepth 100000 in
/-- The slave takes the answer to its first request. -/
theorem latestAnswered_iff_askedRun :
    (Daemon.single ![2, 0, 0, 0, 0, 1]).requests (defaultRtOpts 1) 0 .delayReq askedRun = [0] ∧
    ∀ o, ((runInputs (Daemon.step (defaultRtOpts 1)) (Daemon.single ![2, 0, 0, 0, 0, 1])
        askedRun).node 0 o).FrameFits →
      LatestAnswered (defaultRtOpts 1) .delayReq
        ((Daemon.single ![2, 0, 0, 0, 0, 1]).requests (defaultRtOpts 1) 0 .delayReq askedRun)
        ((runInputs (Daemon.step (defaultRtOpts 1)) (Daemon.single ![2, 0, 0, 0, 0, 1])
          askedRun).node 0 o) := by
  have hrun : (Daemon.single ![2, 0, 0, 0, 0, 1]).FittingRun (defaultRtOpts 1) askedRun :=
    ⟨Daemon.single_initial _, by decide +kernel⟩
  have hsent : (Daemon.single ![2, 0, 0, 0, 0, 1]).requests (defaultRtOpts 1) 0 .delayReq askedRun =
      [0] := by decide +kernel
  have hcounted : (Daemon.single ![2, 0, 0, 0, 0, 1]).countedRequests (defaultRtOpts 1) 0 .delayReq
      askedRun = [0] := by decide +kernel
  have hawaits : RequestKind.delayReq.Awaits (defaultRtOpts 1)
      ((runInputs (Daemon.step (defaultRtOpts 1)) (Daemon.single ![2, 0, 0, 0, 0, 1])
        askedRun).ports 0) := ⟨rfl, by decide +kernel⟩
  refine ⟨hsent, (latestAnswered_iff hrun hawaits).mpr ?_⟩
  rw [hsent, hcounted]
  exact .inl ⟨fun hwrapped => absurd hwrapped.2 (by decide), rfl⟩

set_option maxRecDepth 100000 in
/-- After 65536 requests the answer to the latest one is refused. -/
theorem not_forall_latestAnswered :
    ¬∀ (rtOpts : RunTimeOpts) (d : Daemon) (os : List Oracle), d.FittingRun rtOpts os →
      ∀ (i : ℕ) (kind : RequestKind),
        kind.Awaits rtOpts ((runInputs (Daemon.step rtOpts) d os).ports i) →
          ∀ o, ((runInputs (Daemon.step rtOpts) d os).node i o).FrameFits →
            LatestAnswered rtOpts kind (d.requests rtOpts i kind os)
              ((runInputs (Daemon.step rtOpts) d os).node i o) := by
  intro h
  obtain ⟨os, hrun, hasks, hnot⟩ := exists_wrappedAround askingRun_fitting askingRun_delivers
    askingState_asks.1 askingState_asks.2
  have hawaits : RequestKind.delayReq.Awaits (defaultRtOpts 1)
      ((runInputs (Daemon.step (defaultRtOpts 1)) (Daemon.single ![2, 0, 0, 0, 0, 1])
        os).ports 0) :=
    ⟨rfl, hasks.slave⟩
  have hready := hawaits.ready (Reachable.runInputs (.start hrun.initial) os)
  exact hnot ((latestCounted_iff (Daemon.counted_numbered hrun.initial 0 .delayReq os) _).mp
    ((latestAnswered_iff_counter hready hawaits _).mp (h _ _ os hrun 0 .delayReq hawaits)))

end Wrapping

end WhiteRabbitPtp
