import WhiteRabbitPtp.Model.WrProtocol

/-!
# Receiving and issuing messages

The functions of `protocol.c` that issue messages, the handlers of received messages, and `handle`,
which receives one frame and dispatches it. Computations of a handler that nothing reads (the
correction of a FollowUp, the calls of the empty functions of `dep/servo.c`) are left out.
-/

namespace WhiteRabbitPtp

open Octets

/-! ### Issuing messages -/

/-- The timestamp with all fields zero. -/
def Timestamp.zero : Timestamp := ⟨⟨0, 0⟩, 0⟩

/-- Pack and send an Announce message. -/
def issueAnnounce (rtOpts : RunTimeOpts) (n : Node) : Node :=
  issueMsg rtOpts (msgPackAnnounce n.port.msgObuf n.clk n.port)
    (if n.port.wr.wrConfig.hasAnnounceSuffix then WR_ANNOUNCE_LENGTH else ANNOUNCE_LENGTH)
    (fun _ p => p)
    (fun p => { p with sentAnnounceSequenceId := p.sentAnnounceSequenceId + 1 }) n

/-- Pack and send a Sync message. -/
def issueSync (rtOpts : RunTimeOpts) (n : Node) : Node :=
  issueMsg rtOpts (msgPackSync n.port.msgObuf .zero n.port) SYNC_LENGTH
    (fun r p => { p with synchTxTs := r.txTs })
    (fun p => { p with sentSyncSequenceId := p.sentSyncSequenceId + 1 }) n

/-- Pack and send a FollowUp message. -/
def issueFollowup (rtOpts : RunTimeOpts) (n : Node) : Node :=
  issueMsg rtOpts (msgPackFollowUp n.port.msgObuf n.port) FOLLOW_UP_LENGTH
    (fun _ p => p) id n

/-- Pack and send a DelayReq message. -/
def issueDelayReq (rtOpts : RunTimeOpts) (n : Node) : Node :=
  issueMsg rtOpts (msgPackDelayReq n.port.msgObuf .zero n.port) DELAY_REQ_LENGTH
    (fun r p => { p with delayReqTxTs := r.txTs })
    (fun p => { p with sentDelayReqSequenceId := p.sentDelayReqSequenceId + 1 }) n

/-- Pack and send a PDelayReq message. -/
def issuePDelayReq (rtOpts : RunTimeOpts) (n : Node) : Node :=
  issueMsg rtOpts (msgPackPDelayReq n.port.msgObuf .zero n.port) PDELAY_REQ_LENGTH
    (fun r p => { p with pDelayReqTxTs := r.txTs })
    (fun p => { p with sentPDelayReqSequenceId := p.sentPDelayReqSequenceId + 1 }) n

/-- Pack and send a PDelayResp message. -/
def issuePDelayResp (header : MsgHeader) (rtOpts : RunTimeOpts) (n : Node) : Node :=
  issueMsg rtOpts (msgPackPDelayResp n.port.msgObuf header n.port) PDELAY_RESP_LENGTH
    (fun r p => { p with pDelayRespTxTs := r.txTs }) id n

/-- Pack and send a DelayResp message. -/
def issueDelayResp (header : MsgHeader) (rtOpts : RunTimeOpts) (n : Node) : Node :=
  issueMsg rtOpts (msgPackDelayResp n.port.msgObuf header n.port) PDELAY_RESP_LENGTH
    (fun _ p => p) id n

/-- Pack and send a PDelayRespFollowUp message. -/
def issuePDelayRespFollowUp (header : MsgHeader) (rtOpts : RunTimeOpts) (n : Node) : Node :=
  issueMsg rtOpts (msgPackPDelayRespFollowUp n.port.msgObuf header n.port)
    PDELAY_RESP_FOLLOW_UP_LENGTH (fun _ p => p) id n

/-! ### Foreign masters -/

/-- Look a port identity up in the live records, in ring order from record `j` on. -/
def findForeign (fm : ForeignMasterDS) (identity : PortIdentity) : ℕ → ℕ → Option ℕ
  | 0, _ => none
  | rounds + 1, j =>
    if identity = (fm.foreign j).foreignMasterPortIdentity then some j
    else findForeign fm identity rounds ((j + 1) % fm.numberForeignRecords)

/-- Store the Announce message in the input buffer in the record of its sender, or in the next
record of the ring for a new sender. -/
def addForeign (header : MsgHeader) (port : PtpPortDS) : PtpPortDS :=
  let fm := port.fm
  let buf := port.msgIbuf
  match findForeign fm header.sourcePortIdentity fm.numberForeignRecords fm.foreignRecordBest with
  | some j =>
    let record := fm.foreign j
    let record := { record with
      foreignMasterAnnounceMessages := record.foreignMasterAnnounceMessages + 1
      header := msgUnpackHeader buf
      announce := msgUnpackAnnounce buf record.announce }
    { port with fm.foreign := Function.update fm.foreign j record }
  | none =>
    -- A full table overwrites its oldest record.
    let number :=
      if fm.numberForeignRecords < fm.maxForeignRecords then fm.numberForeignRecords + 1
      else fm.numberForeignRecords
    let j := fm.foreignRecordI
    let record : ForeignMasterRecord :=
      { foreignMasterPortIdentity := header.sourcePortIdentity
        foreignMasterAnnounceMessages := 0
        header := msgUnpackHeader buf
        announce := msgUnpackAnnounce buf (fm.foreign j).announce
        receptionPortNumber := port.portIdentity.portNumber }
    { port with fm := { fm with
        numberForeignRecords := number
        foreignRecordI := (j + 1) % fm.maxForeignRecords
        foreign := Function.update fm.foreign j record } }

/-- Forget all foreign masters. -/
def clearForeignMasters (port : PtpPortDS) : PtpPortDS :=
  let fm := port.fm
  let cleared (i : ℕ) : ForeignMasterRecord :=
    if i < fm.numberForeignRecords then { fm.foreign i with receptionPortNumber := 0 }
    else fm.foreign i
  { port with fm := { fm with
      foreign := cleared
      foreignRecordI := 0
      numberForeignRecords := 0
      foreignRecordBest := 0 } }

/-! ### Handlers -/

/-- Whether a message was sent by the parent of the clock. -/
def msgIsFromCurrentParent (header : MsgHeader) (clk : PtpClockDS) : Bool :=
  clk.parentPortIdentity = header.sourcePortIdentity

/-- Start the announce receipt timer anew. -/
def restartAnnounceReceipt (n : Node) : Node :=
  n.timerStart .announceReceipt
    ((n.port.announceReceiptTimeout.toNat : ℤ) * 1000 * pow2 n.port.logAnnounceInterval)

/-- Handle an Announce message. -/
def handleAnnounce (header : MsgHeader) (length : ℕ) (isFromSelf : Bool) (rtOpts : RunTimeOpts)
    (n : Node) : Node :=
  if length < ANNOUNCE_LENGTH then toFaulty rtOpts n
  else
    match n.port.portState with
    | .initializing | .faulty | .disabled => n
    | .uncalibrated | .slave =>
      if isFromSelf then n
      else
        -- The table is marked before it is known whose message this is.
        let n := { n with port.fm.recordUpdate := true }
        if msgIsFromCurrentParent header n.clk then
          let buf := n.port.msgIbuf
          let best := n.port.fm.foreignRecordBest
          let record := n.port.fm.foreign best
          let record := { record with
            header := msgUnpackHeader buf
            announce := msgUnpackAnnounce buf record.announce }
          restartAnnounceReceipt { n with
            port.msgTmpAnnounce := msgUnpackAnnounce buf n.port.msgTmpAnnounce
            port.fm.foreign := Function.update n.port.fm.foreign best record }
        else restartAnnounceReceipt { n with port := addForeign header n.port }
    -- Without a parent to listen to, every sender is looked up in the table.
    | _ =>
      if isFromSelf then n
      else
        let n := { n with port := addForeign header n.port }
        { n with port.fm.recordUpdate := true }

/-- The part of `handleSync` for a slave. -/
def slaveHandleSync (header : MsgHeader) (isFromSelf : Bool) (n : Node) : Node :=
  if isFromSelf then n
  else if msgIsFromCurrentParent header n.clk then
    let ts := n.port.currentRxTs
    let n := { n with port.syncReceiveTime :=
      { seconds := i32 ts.sec, nanoseconds := ts.nsec, phase := ts.phase, correct := ts.correct } }
    -- Only the Sync of a two-step clock waits for a FollowUp.
    if header.flagField 0 &&& 0x02 = TWO_STEP_FLAG then
      let correction := integer64ToInternalTime header.correctionfield ⟨0, 0, 0, 0⟩
      { n with
        port.waitingForFollow := true
        port.recvSyncSequenceId := header.sequenceId
        port.lastSyncCorrectionField := { n.port.lastSyncCorrectionField with
          seconds := correction.seconds
          nanoseconds := correction.nanoseconds } }
    else { n with port.waitingForFollow := false }
  else n

/-- Handle a Sync message. -/
def handleSync (header : MsgHeader) (length : ℕ) (isFromSelf : Bool) (rtOpts : RunTimeOpts)
    (n : Node) : Node :=
  if length < SYNC_LENGTH then toFaulty rtOpts n
  else
    match n.port.portState with
    | .uncalibrated =>
      -- While a White Rabbit link is set up, Sync messages are ignored.
      if n.port.wr.wrMode ≠ .nonWr then n else slaveHandleSync header isFromSelf n
    | .slave => slaveHandleSync header isFromSelf n
    | _ => n

/-- Convert a received timestamp into a local variable that was not assigned before. -/
def toLocalTime (ts : Timestamp) (n : Node) : TimeInternal × Node :=
  (toInternalTime (n.answer .uninitialized) ts, n.called .uninitialized)

/-- The part of `handleFollowUp` for a slave. -/
def slaveHandleFollowUp (header : MsgHeader) (rtOpts : RunTimeOpts) (n : Node) : Node :=
  if msgIsFromCurrentParent header n.clk ∧ n.port.waitingForFollow ∧
      n.port.recvSyncSequenceId = header.sequenceId then
    let (preciseOriginTimestamp, n) := toLocalTime (msgUnpackFollowUp n.port.msgIbuf) n
    -- A FollowUp is used once.
    let n := { n with port.waitingForFollow := false }
    let n :=
      wrServoGotSync n { preciseOriginTimestamp with phase := 0 } n.port.syncReceiveTime
    issueDelayReq rtOpts n
  else n

/-- Handle a FollowUp message. -/
def handleFollowUp (header : MsgHeader) (length : ℕ) (isFromSelf : Bool) (rtOpts : RunTimeOpts)
    (n : Node) : Node :=
  if length < FOLLOW_UP_LENGTH then toFaulty rtOpts n
  else if isFromSelf then n
  else
    match n.port.portState with
    | .uncalibrated =>
      if n.port.wr.wrMode ≠ .nonWr then n else slaveHandleFollowUp header rtOpts n
    | .slave => slaveHandleFollowUp header rtOpts n
    | _ => n

/-- A phase in picoseconds in units of the correction field. -/
def phaseToCfUnits (phase : ℤ) : ℤ := i32 ((i64 (phase * 65536)).tdiv 1000)

/-- Handle a DelayReq message. -/
def handleDelayReq (length : ℕ) (rtOpts : RunTimeOpts) (n : Node) : Node :=
  if !rtOpts.E2E_mode then n
  else if length < DELAY_REQ_LENGTH then toFaulty rtOpts n
  else
    match n.port.portState with
    | .master =>
      -- Neither the correctness of the timestamp nor the sender is looked at.
      let header := { msgUnpackHeader n.port.msgIbuf with
        correctionfield :=
          { msb := 0, lsb := UInt32.ofInt (phaseToCfUnits n.port.currentRxTs.phase) } }
      issueDelayResp header rtOpts { n with port.delayReqHeader := header }
    | _ => n

/-- Handle a DelayResp message. -/
def handleDelayResp (header : MsgHeader) (length : ℕ) (rtOpts : RunTimeOpts) (n : Node) : Node :=
  if !rtOpts.E2E_mode then n
  else if length < DELAY_RESP_LENGTH then toFaulty rtOpts n
  else
    match n.port.portState with
    | .slave =>
      let resp := msgUnpackDelayResp n.port.msgIbuf
      -- The sequence number is decremented as an `int`, so it does not wrap.
      if resp.requestingPortIdentity = n.port.portIdentity ∧
          (n.port.sentDelayReqSequenceId.toNat : ℤ) - 1 = header.sequenceId.toNat ∧
          msgIsFromCurrentParent header n.clk then
        let (requestReceiptTimestamp, n) := toLocalTime resp.receiveTimestamp n
        let n := { n with port.delayReqReceiveTime := requestReceiptTimestamp }
        let n := wrServoGotDelay n (i32 header.correctionfield.lsb.toNat)
        let n := wrServoUpdate n
        { n with port.logMinDelayReqInterval := header.logMessageInterval }
      else n
    | _ => n

/-- Handle a PDelayReq message. -/
def handlePDelayReq (header : MsgHeader) (length : ℕ) (time : TimeInternal) (isFromSelf : Bool)
    (rtOpts : RunTimeOpts) (n : Node) : Node :=
  if rtOpts.E2E_mode then n
  else if length < PDELAY_REQ_LENGTH then toFaulty rtOpts n
  else
    match n.port.portState with
    | .slave | .master | .passive =>
      if isFromSelf then
        let t := { n.port.pdelayReqSendTime with
          seconds := time.seconds
          nanoseconds := time.nanoseconds }
        { n with port.pdelayReqSendTime := addTime t t rtOpts.outboundLatency }
      else
        issuePDelayResp header rtOpts
          { n with port.pdelayReqHeader := msgUnpackHeader n.port.msgIbuf }
    | _ => n

/-- Handle a PDelayResp message. -/
def handlePDelayResp (header : MsgHeader) (time : TimeInternal) (length : ℕ) (isFromSelf : Bool)
    (rtOpts : RunTimeOpts) (n : Node) : Node :=
  if rtOpts.E2E_mode then n
  else if length < PDELAY_RESP_LENGTH then toFaulty rtOpts n
  else
    match n.port.portState with
    | .slave | .master =>
      -- A response of its own that the port hears back is followed up.
      if isFromSelf then issuePDelayRespFollowUp n.port.pdelayReqHeader rtOpts n
      else
        let presp := msgUnpackPDelayResp n.port.msgIbuf
        -- The source negates the whole condition.
        if ¬(n.port.sentPDelayReqSequenceId = header.sequenceId ∧
            presp.requestingPortIdentity = n.port.portIdentity) then
          let n := { n with port.pdelayRespReceiveTime := { n.port.pdelayRespReceiveTime with
            seconds := time.seconds
            nanoseconds := time.nanoseconds } }
          if header.flagField 0 &&& 0x02 = TWO_STEP_FLAG then
            let (requestReceiptTimestamp, n) := toLocalTime presp.receiveTimestamp n
            let correction := integer64ToInternalTime header.correctionfield ⟨0, 0, 0, 0⟩
            { n with
              port.pdelayReqReceiveTime := { n.port.pdelayReqReceiveTime with
                seconds := requestReceiptTimestamp.seconds
                nanoseconds := requestReceiptTimestamp.nanoseconds }
              port.lastPdelayRespCorrectionField := { n.port.lastPdelayRespCorrectionField with
                seconds := correction.seconds
                nanoseconds := correction.nanoseconds } }
          else n
        else n
    | _ => n

/-- Handle a PDelayRespFollowUp message. -/
def handlePDelayRespFollowUp (header : MsgHeader) (length : ℕ) (rtOpts : RunTimeOpts)
    (n : Node) : Node :=
  if rtOpts.E2E_mode then n
  else if length < PDELAY_RESP_FOLLOW_UP_LENGTH then toFaulty rtOpts n
  else
    match n.port.portState with
    | .slave | .master =>
      if (header.sequenceId.toNat : ℤ) = n.port.sentPDelayReqSequenceId.toNat - 1 then
        let prespfollow := msgUnpackPDelayRespFollowUp n.port.msgIbuf
        let (responseOriginTimestamp, n) := toLocalTime prespfollow.receiveTimestamp n
        { n with port.pdelayRespSendTime := { n.port.pdelayRespSendTime with
          seconds := responseOriginTimestamp.seconds
          nanoseconds := responseOriginTimestamp.nanoseconds } }
      else n
    | _ => n

/-- Handle a Signaling message: a slave that announces itself turns a master-capable master port
into a White Rabbit master. -/
def handleSignaling (isFromSelf : Bool) (rtOpts : RunTimeOpts) (n : Node) : Node :=
  if isFromSelf then n
  else
    let n := { n with port.wr := (msgUnpackWRSignalingMsg n.port.msgIbuf n.port.wr).2 }
    -- The first message of a slave starts the link set-up of its master.
    if n.port.portState = .master ∧ n.port.wr.msgTmpWrMessageID = SLAVE_PRESENT ∧
        (n.port.wr.wrConfig = .wrMOnly ∨ n.port.wr.wrConfig = .wrMAndS) then
      toWRState .mLock rtOpts { n with port.wr.wrMode := .wrMaster }
    else n

/-! ### Receiving a frame -/

/-- Receive a frame into the input buffer; returns its length, `0` when there is none for this
port, and a negative number for an error. Of a frame that is longer than `msgIbuf` the source writes
the rest over the fields behind the buffer, which are left alone here; see `Node.FrameFits`. -/
def netRecvMsg (n : Node) : ℤ × Node :=
  let reception : Reception := n.answer .recvfrom
  let n := n.called .recvfrom
  match reception with
  | .failed => (-1, n)
  | .nothing => (0, n)
  | .frame macDest data rxTs =>
    -- A frame is in the buffer even when it is addressed to someone else.
    let n := { n with port.msgIbuf := n.port.msgIbuf.load data, port.currentRxTs := rxTs }
    if macDest = n.port.netPath.selfAddr ∨ macDest = n.port.netPath.multicastAddr ∨
        macDest = n.port.netPath.unicastAddr then (data.length, n)
    else (0, n)

/-- The frame that is received next is not longer than `msgIbuf`, whomever it is addressed to.
`netRecvMsg` asks for up to 1518 octets: a longer frame reaches the times and sequence numbers of
the port and its timers. -/
def Node.FrameFits (n : Node) : Prop :=
  (n.answer .recvfrom : Reception).length ≤ PACKET_SIZE

instance : DecidablePred Node.FrameFits := fun n => by
  unfold Node.FrameFits
  infer_instance

/-- Dispatch a received message whose header was unpacked. -/
def dispatchMsg (length : ℕ) (rtOpts : RunTimeOpts) (n : Node) : Node :=
  let header := n.port.msgTmpHeader
  if header.versionPTP ≠ n.port.versionNumber then n
  else if header.domainNumber ≠ n.clk.domainNumber then n
  else
    let isFromSelf : Bool := n.port.portIdentity = header.sourcePortIdentity
    let time : TimeInternal :=
      { seconds := i32 n.port.currentRxTs.sec, nanoseconds := n.port.currentRxTs.nsec
        phase := 0, correct := 0 }
    let time :=
      if !isFromSelf ∧ 0 < time.seconds then subTime time time rtOpts.inboundLatency else time
    let type := header.messageType
    if type = ANNOUNCE then handleAnnounce header length isFromSelf rtOpts n
    else if type = SYNC then handleSync header length isFromSelf rtOpts n
    else if type = FOLLOW_UP then handleFollowUp header length isFromSelf rtOpts n
    else if type = DELAY_REQ then handleDelayReq length rtOpts n
    else if type = PDELAY_REQ then handlePDelayReq header length time isFromSelf rtOpts n
    else if type = PDELAY_RESP then handlePDelayResp header time length isFromSelf rtOpts n
    else if type = PDELAY_RESP_FOLLOW_UP then handlePDelayRespFollowUp header length rtOpts n
    else if type = DELAY_RESP then handleDelayResp header length rtOpts n
    else if type = SIGNALING then handleSignaling isFromSelf rtOpts n
    -- Management messages are not supported, other types are unknown.
    else n

/-- Receive one frame and handle it. -/
def handle (rtOpts : RunTimeOpts) (n : Node) : Node :=
  let received := netRecvMsg n
  let length := received.1
  let n := received.2
  if length < 0 then toFaulty rtOpts n
  else if length = 0 then n
  else if length < HEADER_LENGTH then toFaulty rtOpts n
  else
    dispatchMsg length.toNat rtOpts { n with port.msgTmpHeader := msgUnpackHeader n.port.msgIbuf }

end WhiteRabbitPtp
