import WhiteRabbitPtp.Model.DataTypes

/-!
# Packing and unpacking of messages

The functions of `dep/msg.c`, on a little-endian host: there `flip16` and `flip32` make every word
that is written or read through them big-endian, as `put_be16` and `get_be16` do. Packers write
into the output buffer of the port, which keeps what earlier packers left in it.
-/

namespace WhiteRabbitPtp

open Octets

/-- Length of the common header (`HEADER_LENGTH`). -/
abbrev HEADER_LENGTH : ℕ := 34
/-- Length of an Announce message without suffix. -/
abbrev ANNOUNCE_LENGTH : ℕ := 64
/-- Length of a Sync message. -/
abbrev SYNC_LENGTH : ℕ := 44
/-- Length of a FollowUp message. -/
abbrev FOLLOW_UP_LENGTH : ℕ := 44
/-- Length of a PDelayReq message. -/
abbrev PDELAY_REQ_LENGTH : ℕ := 54
/-- Length of a DelayReq message. -/
abbrev DELAY_REQ_LENGTH : ℕ := 44
/-- Length of a DelayResp message. -/
abbrev DELAY_RESP_LENGTH : ℕ := 54
/-- Length of a PDelayResp message. -/
abbrev PDELAY_RESP_LENGTH : ℕ := 54
/-- Length of a PDelayRespFollowUp message. -/
abbrev PDELAY_RESP_FOLLOW_UP_LENGTH : ℕ := 54
/-- Length of an Announce message with the White Rabbit suffix. -/
abbrev WR_ANNOUNCE_LENGTH : ℕ := 78
/-- Length of a White Rabbit signaling message up to the value of its TLV. -/
abbrev WR_SIGNALING_MSG_BASE_LENGTH : ℕ := 48

/-- The two-step bit of the flag field. -/
abbrev TWO_STEP_FLAG : UInt8 := 0x02
/-- TLV type of an organization extension. -/
abbrev TLV_TYPE_ORG_EXTENSION : UInt16 := 0x0003
/-- Organization of the White Rabbit TLVs. -/
abbrev WR_TLV_ORGANIZATION_ID : UInt32 := 0x080030
/-- Magic number of the White Rabbit TLVs. -/
abbrev WR_TLV_MAGIC_NUMBER : UInt16 := 0xDEAD
/-- Version of the White Rabbit TLVs. -/
abbrev WR_TLV_WR_VERSION_NUMBER : UInt16 := 0x01
/-- Bits of `wr_flags`: calibrated. -/
abbrev WR_IS_CALIBRATED : UInt8 := 0x04
/-- Bits of `wr_flags`: in White Rabbit mode. -/
abbrev WR_IS_WR_MODE : UInt8 := 0x08

/-- Replace the message type in the low nibble of the first octet. -/
def setMessageType (buf : Buffer) (type : UInt8) : Buffer :=
  buf.set 0 (buf 0 &&& 0xF0 ||| type)

/-- Write a timestamp: 16 bits and 32 bits of seconds, 32 bits of nanoseconds. -/
def putTimestamp (buf : Buffer) (off : ℕ) (ts : Timestamp) : Buffer :=
  buf.putBe16 off ts.secondsField.msb
    |>.putBe32 (off + 2) ts.secondsField.lsb
    |>.putBe32 (off + 6) ts.nanosecondsField

/-- Read a timestamp. -/
def getTimestamp (buf : Buffer) (off : ℕ) : Timestamp :=
  { secondsField := { msb := buf.getBe16 off, lsb := buf.getBe32 (off + 2) }
    nanosecondsField := buf.getBe32 (off + 6) }

/-- Write a hardware timestamp as a message timestamp. -/
def putWrTimestamp (buf : Buffer) (off : ℕ) (ts : WrTimestamp) : Buffer :=
  buf.putBe16 off (UInt16.ofInt (ts.sec / 2 ^ 32))
    |>.putBe32 (off + 2) (UInt32.ofInt ts.sec)
    |>.putBe32 (off + 6) (UInt32.ofInt ts.nsec)

/-- Write a port identity. -/
def putPortIdentity (buf : Buffer) (off : ℕ) (id : PortIdentity) : Buffer :=
  buf.copy off id.clockIdentity |>.putBe16 (off + 8) id.portNumber

/-- Read a port identity. -/
def getPortIdentity (buf : Buffer) (off : ℕ) : PortIdentity :=
  { clockIdentity := buf.read off 8, portNumber := buf.getBe16 (off + 8) }

/-- Write a White Rabbit TLV up to its message identifier; its length is left alone. -/
def putWrTlv (buf : Buffer) (off : ℕ) (wrMessageID : UInt16) : Buffer :=
  buf.putBe16 off TLV_TYPE_ORG_EXTENSION
    |>.putBe16 (off + 4) (WR_TLV_ORGANIZATION_ID >>> 8).toUInt16
    |>.putBe16 (off + 6)
      (WR_TLV_ORGANIZATION_ID <<< 8 ||| (WR_TLV_MAGIC_NUMBER >>> 8).toUInt32).toUInt16
    |>.putBe16 (off + 8) (WR_TLV_MAGIC_NUMBER <<< 8 ||| WR_TLV_WR_VERSION_NUMBER)
    |>.putBe16 (off + 10) wrMessageID

/-- Whether there is a TLV with the organization, magic number and version of White Rabbit. -/
def isWrTlv (buf : Buffer) (off : ℕ) : Bool :=
  let tlv_type := buf.getBe16 off
  let tlv_organizationID : UInt32 :=
    (buf.getBe16 (off + 4)).toUInt32 <<< 8 ||| (buf.getBe16 (off + 6) >>> 8).toUInt32
  let tlv_magicNumber : UInt16 :=
    buf.getBe16 (off + 8) >>> 8 ||| ((0xFF00 : UInt16) &&& buf.getBe16 (off + 6) <<< 8)
  let tlv_versionNumber : UInt16 := (0xFF : UInt16) &&& buf.getBe16 (off + 8)
  tlv_type = TLV_TYPE_ORG_EXTENSION ∧ tlv_organizationID = WR_TLV_ORGANIZATION_ID ∧
    tlv_magicNumber = WR_TLV_MAGIC_NUMBER ∧ tlv_versionNumber = WR_TLV_WR_VERSION_NUMBER

/-! ### Header -/

/-- Unpack the header of a message. -/
def msgUnpackHeader (buf : Buffer) : MsgHeader :=
  { transportSpecific := buf 0 >>> 4
    messageType := buf 0 &&& 0x0F
    versionPTP := buf 1 &&& 0x0F
    messageLength := buf.getBe16 2
    domainNumber := buf 4
    flagField := buf.read 6 2
    correctionfield := { msb := (buf.getBe32 8).toInt32, lsb := buf.getBe32 12 }
    sourcePortIdentity := getPortIdentity buf 20
    sequenceId := buf.getBe16 30
    controlField := buf 32
    logMessageInterval := (buf 33).toInt8 }

/-- Pack the header into the output buffer, once for all messages of the port. -/
def msgPackHeader (buf : Buffer) (clk : PtpClockDS) (port : PtpPortDS) : Buffer :=
  let buf := buf.set 0 0x0 |>.set 1 port.versionNumber |>.set 4 clk.domainNumber
  let buf := if clk.twoStepFlag then buf.set 6 TWO_STEP_FLAG else buf
  buf.fill 8 8 0
    |>.copy 20 port.portIdentity.clockIdentity
    |>.putBe16 28 port.portIdentity.portNumber
    |>.set 33 0x7F

/-! ### Announce -/

/-- Whether the port sends Announce messages with the White Rabbit suffix. -/
def WrConfig.hasAnnounceSuffix (c : WrConfig) : Bool := c ≠ .nonWr ∧ c ≠ .wrSOnly

/-- Pack an Announce message. -/
def msgPackAnnounce (buf : Buffer) (clk : PtpClockDS) (port : PtpPortDS) : Buffer :=
  let buf := setMessageType buf ANNOUNCE
  let buf := buf.putBe16 2
    (if port.wr.wrConfig.hasAnnounceSuffix then .ofNat WR_ANNOUNCE_LENGTH
     else .ofNat ANNOUNCE_LENGTH)
  let buf := buf.putBe16 30 port.sentAnnounceSequenceId
    |>.set 32 0x05
    |>.set 33 port.logAnnounceInterval.toUInt8
    |>.fill 34 10 0
    |>.putBe16 44 clk.currentUtcOffset.toUInt16
    |>.set 47 clk.grandmasterPriority1
    |>.set 48 clk.clockQuality.clockClass
    |>.set 49 clk.clockQuality.clockAccuracy
    |>.putBe16 50 clk.clockQuality.offsetScaledLogVariance
    |>.set 52 clk.grandmasterPriority2
    |>.copy 53 clk.grandmasterIdentity
    -- The low octet comes first; the source has left out the swap here.
    |>.set 61 clk.stepsRemoved.toUInt8
    |>.set 62 (clk.stepsRemoved >>> 8).toUInt8
    |>.set 63 clk.timeSource
  if port.wr.wrConfig.hasAnnounceSuffix then
    let wr_flags := port.wr.wrConfig.toFlags
    let wr_flags := if port.wr.calibrated then WR_IS_CALIBRATED ||| wr_flags else wr_flags
    let wr_flags := if port.wr.wrModeON then WR_IS_WR_MODE ||| wr_flags else wr_flags
    putWrTlv buf 64 ANN_SUFIX
      |>.putBe16 66 0x0A
      |>.putBe16 76 wr_flags.toUInt16
  else buf

/-- Unpack an Announce message into `announce`, whose `wrFlags` are kept when the message has no
White Rabbit suffix. -/
def msgUnpackAnnounce (buf : Buffer) (announce : MsgAnnounce) : MsgAnnounce :=
  let announce := { announce with
    originTimestamp := getTimestamp buf 34
    currentUtcOffset := (buf.getBe16 44).toInt16
    grandmasterPriority1 := buf 47
    grandmasterClockQuality :=
      { clockClass := buf 48, clockAccuracy := buf 49, offsetScaledLogVariance := buf.getBe16 50 }
    grandmasterPriority2 := buf 52
    grandmasterIdentity := buf.read 53 8
    stepsRemoved := (buf 61).toUInt16 ||| (buf 62).toUInt16 <<< 8
    timeSource := buf 63 }
  let messageLen := buf.getBe16 2
  -- The suffix is looked for when the header says that there is one.
  if ANNOUNCE_LENGTH < messageLen.toNat then
    if isWrTlv buf 64 ∧ buf.getBe16 74 = ANN_SUFIX then
      { announce with wrFlags := (buf.getBe16 76).toUInt8 }
    else announce
  else announce

/-! ### Event and general messages -/

/-- Pack a Sync message. -/
def msgPackSync (buf : Buffer) (originTimestamp : Timestamp) (port : PtpPortDS) : Buffer :=
  let buf := setMessageType buf SYNC
    |>.putBe16 2 (.ofNat SYNC_LENGTH)
    |>.putBe16 30 port.sentSyncSequenceId
    |>.set 32 0x00
    |>.set 33 port.logSyncInterval.toUInt8
    |>.fill 8 8 0
  putTimestamp buf 34 originTimestamp

/-- Pack a FollowUp message; the sequence number was already incremented by `issueSync`. -/
def msgPackFollowUp (buf : Buffer) (port : PtpPortDS) : Buffer :=
  let buf := setMessageType buf FOLLOW_UP
    |>.putBe16 2 (.ofNat FOLLOW_UP_LENGTH)
    |>.putBe16 30 (port.sentSyncSequenceId - 1)
    |>.set 32 0x02
    |>.set 33 port.logSyncInterval.toUInt8
  putWrTimestamp buf 34 port.synchTxTs

/-- Pack a PDelayReq message. -/
def msgPackPDelayReq (buf : Buffer) (originTimestamp : Timestamp) (port : PtpPortDS) : Buffer :=
  let buf := setMessageType buf PDELAY_REQ
    |>.putBe16 2 (.ofNat PDELAY_REQ_LENGTH)
    |>.putBe16 30 port.sentPDelayReqSequenceId
    |>.set 32 0x05
    |>.set 33 0x7F
    |>.fill 8 8 0
  (putTimestamp buf 34 originTimestamp).fill 44 10 0

/-- Pack a DelayReq message. -/
def msgPackDelayReq (buf : Buffer) (originTimestamp : Timestamp) (port : PtpPortDS) : Buffer :=
  let buf := setMessageType buf DELAY_REQ
    |>.putBe16 2 (.ofNat DELAY_REQ_LENGTH)
    |>.putBe16 30 port.sentDelayReqSequenceId
    |>.set 32 0x01
    |>.set 33 0x7F
    |>.fill 8 8 0
  putTimestamp buf 34 originTimestamp

/-- Pack a DelayResp message in answer to the request with the given header. -/
def msgPackDelayResp (buf : Buffer) (header : MsgHeader) (port : PtpPortDS) : Buffer :=
  let buf := setMessageType buf DELAY_RESP
    |>.putBe16 2 (.ofNat DELAY_RESP_LENGTH)
    |>.set 4 header.domainNumber
    |>.fill 8 8 0
    |>.putBe32 8 header.correctionfield.msb.toUInt32
    |>.putBe32 12 header.correctionfield.lsb
    |>.putBe16 30 header.sequenceId
    |>.set 32 0x03
    |>.set 33 port.logMinDelayReqInterval.toUInt8
  putPortIdentity (putWrTimestamp buf 34 port.currentRxTs) 44 header.sourcePortIdentity

/-- Pack a PDelayResp message in answer to the request with the given header. -/
def msgPackPDelayResp (buf : Buffer) (header : MsgHeader) (port : PtpPortDS) : Buffer :=
  let buf := setMessageType buf PDELAY_RESP
    |>.putBe16 2 (.ofNat PDELAY_RESP_LENGTH)
    |>.set 4 header.domainNumber
    |>.fill 8 8 0
    |>.putBe16 30 header.sequenceId
    |>.set 32 0x05
    |>.set 33 0x7F
  putPortIdentity (putWrTimestamp buf 34 port.currentRxTs) 44 header.sourcePortIdentity

/-- Pack a PDelayRespFollowUp message. -/
def msgPackPDelayRespFollowUp (buf : Buffer) (header : MsgHeader) (port : PtpPortDS) : Buffer :=
  let buf := setMessageType buf PDELAY_RESP_FOLLOW_UP
    |>.putBe16 2 (.ofNat PDELAY_RESP_FOLLOW_UP_LENGTH)
    |>.putBe16 30 port.pdelayReqHeader.sequenceId
    |>.set 32 0x05
    |>.set 33 0x7F
    |>.putBe32 8 header.correctionfield.msb.toUInt32
    |>.putBe32 12 header.correctionfield.lsb
  putPortIdentity (putWrTimestamp buf 34 port.pDelayRespTxTs) 44 header.sourcePortIdentity

/-- Unpack the timestamp of a Sync message. -/
def msgUnpackSync (buf : Buffer) : Timestamp := getTimestamp buf 34

/-- Unpack the timestamp of a FollowUp message. -/
def msgUnpackFollowUp (buf : Buffer) : Timestamp := getTimestamp buf 34

/-- Unpack the timestamp of a DelayReq message. -/
def msgUnpackDelayReq (buf : Buffer) : Timestamp := getTimestamp buf 34

/-- Unpack the timestamp of a PDelayReq message. -/
def msgUnpackPDelayReq (buf : Buffer) : Timestamp := getTimestamp buf 34

/-- Unpack a DelayResp message. -/
def msgUnpackDelayResp (buf : Buffer) : MsgResp :=
  { receiveTimestamp := getTimestamp buf 34, requestingPortIdentity := getPortIdentity buf 44 }

/-- Unpack a PDelayResp message. -/
def msgUnpackPDelayResp (buf : Buffer) : MsgResp :=
  { receiveTimestamp := getTimestamp buf 34, requestingPortIdentity := getPortIdentity buf 44 }

/-- Unpack a PDelayRespFollowUp message. -/
def msgUnpackPDelayRespFollowUp (buf : Buffer) : MsgResp :=
  { receiveTimestamp := getTimestamp buf 34, requestingPortIdentity := getPortIdentity buf 44 }

/-! ### White Rabbit signaling -/

/-- Pack a White Rabbit signaling message; returns the buffer and the length to send. Nothing is
packed when the port is not in a White Rabbit mode. -/
def msgPackWRSignalingMsg (buf : Buffer) (clk : PtpClockDS) (port : PtpPortDS)
    (wrMessageID : UInt16) : Buffer × UInt16 :=
  if port.wr.wrMode = .nonWr ∨ wrMessageID = ANN_SUFIX then (buf, 0)
  else
    let buf := (setMessageType buf SIGNALING).set 32 0x05
    let buf := putPortIdentity buf 34 clk.parentPortIdentity
    let buf := putWrTlv buf 44 wrMessageID
    let (buf, len) : Buffer × UInt16 :=
      if wrMessageID = CALIBRATE then
        -- A calibrated port asks for no calibration pattern.
        let pattern : UInt16 := if port.wr.calibrated then 0x0000 else 0x0001
        (buf.putBe16 56 (port.wr.calRetry.toUInt16 <<< 8 ||| pattern)
          |>.putBe32 58 port.wr.calPeriod, 20)
      else if wrMessageID = CALIBRATED then
        (buf.putBe32 56 port.wr.deltaTx.scaledPicoseconds.msb
          |>.putBe32 60 port.wr.deltaTx.scaledPicoseconds.lsb
          |>.putBe32 64 port.wr.deltaRx.scaledPicoseconds.msb
          |>.putBe32 68 port.wr.deltaRx.scaledPicoseconds.lsb, 24)
      else (buf, 8)
    (buf.putBe16 2 (.ofNat WR_SIGNALING_MSG_BASE_LENGTH + len) |>.putBe16 46 len,
      .ofNat WR_SIGNALING_MSG_BASE_LENGTH + len)

/-- Unpack a White Rabbit signaling message: the target port, and the port's White Rabbit data
with the message identifier and the values received. Other TLVs change nothing. -/
def msgUnpackWRSignalingMsg (buf : Buffer) (wr : WrPortDS) : PortIdentity × WrPortDS :=
  let target := getPortIdentity buf 34
  if isWrTlv buf 44 then
    let wrMessageID := buf.getBe16 54
    let wr := { wr with msgTmpWrMessageID := wrMessageID }
    -- The number of the message stays in the register until it is read or overwritten.
    if wrMessageID = CALIBRATE then
      (target, { wr with
        otherNodeCalSendPattern := (0x00FF : UInt16) &&& buf.getBe16 56
        otherNodeCalRetry := (buf.getBe16 56 >>> 8).toUInt8
        otherNodeCalPeriod := buf.getBe32 58 })
    else if wrMessageID = CALIBRATED then
      (target, { wr with
        otherNodeDeltaTx := ⟨{ msb := buf.getBe32 56, lsb := buf.getBe32 60 }⟩
        otherNodeDeltaRx := ⟨{ msb := buf.getBe32 64, lsb := buf.getBe32 68 }⟩ })
    else (target, wr)
  else (target, wr)

end WhiteRabbitPtp
