import WhiteRabbitPtp.Model.Msg
import Mathlib.Tactic.IntervalCases

/-!
# What the packers write

All packers write into the output buffer of the port, each over what the former ones left there.
Here the nine packers are one operation, and each is described by the octets of the header it writes
and those it leaves alone.

## Main definitions

* `PtpMessage`: a PTP message with the argument of its packer.
* `PackCall`: a call of a packer, the one of White Rabbit signaling messages included.
* `HeaderFields`, `Packs`: the header fields a packer writes, and what it makes of a buffer.

## Main results

* `PackCall.pack_packs`: every packer writes its header fields and keeps the others.
-/

namespace WhiteRabbitPtp

open Octets Buffer

/-! ### Calls of the packers -/

/-- A PTP message with the argument of its packer. -/
inductive PtpMessage
  | sync (originTimestamp : Timestamp)
  | followUp
  | delayReq (originTimestamp : Timestamp)
  | delayResp (header : MsgHeader)
  | pdelayReq (originTimestamp : Timestamp)
  | pdelayResp (header : MsgHeader)
  | pdelayRespFollowUp (header : MsgHeader)
  | announce

/-- A call of a packer. -/
inductive PackCall
  | message (m : PtpMessage)
  | wrSignaling (wrMessageID : UInt16)

/-- Pack a message with its packer. -/
def PtpMessage.pack (clk : PtpClockDS) (port : PtpPortDS) (buf : Buffer) : PtpMessage → Buffer
  | sync originTimestamp => msgPackSync buf originTimestamp port
  | followUp => msgPackFollowUp buf port
  | delayReq originTimestamp => msgPackDelayReq buf originTimestamp port
  | delayResp header => msgPackDelayResp buf header port
  | pdelayReq originTimestamp => msgPackPDelayReq buf originTimestamp port
  | pdelayResp header => msgPackPDelayResp buf header port
  | pdelayRespFollowUp header => msgPackPDelayRespFollowUp buf header port
  | announce => msgPackAnnounce buf clk port

/-- The output buffer after a call. -/
def PackCall.pack (clk : PtpClockDS) (port : PtpPortDS) (buf : Buffer) : PackCall → Buffer
  | message m => m.pack clk port buf
  | wrSignaling wrMessageID => (msgPackWRSignalingMsg buf clk port wrMessageID).1

/-- Whether the packer of signaling messages packs anything. -/
def SignalingPacked (port : PtpPortDS) (wrMessageID : UInt16) : Prop :=
  port.wr.wrMode ≠ .nonWr ∧ wrMessageID ≠ ANN_SUFIX

instance (port : PtpPortDS) (wrMessageID : UInt16) :
    Decidable (SignalingPacked port wrMessageID) := by
  unfold SignalingPacked
  infer_instance

/-! ### Header fields -/

/-- The header fields a packer writes; it keeps those that are `none`. -/
structure HeaderFields where
  messageType : UInt8
  messageLength : UInt16
  domainNumber : Option UInt8
  correctionfield : Option Integer64
  sequenceId : Option UInt16
  controlField : UInt8
  logMessageInterval : Option Int8

/-- The correction in the header of a message. -/
def getCorrection (buf : Buffer) : Integer64 :=
  { msb := (buf.getBe32 8).toInt32, lsb := buf.getBe32 12 }

/-- A packer that writes the given header fields turns one buffer into another. -/
structure Packs (fields : HeaderFields) (buf buf' : Buffer) : Prop where
  messageType : buf' 0 = setMessageType buf fields.messageType 0
  messageLength : buf'.getBe16 2 = fields.messageLength
  domainNumber : buf' 4 = fields.domainNumber.getD (buf 4)
  correctionfield : getCorrection buf' = fields.correctionfield.getD (getCorrection buf)
  sequenceId : buf'.getBe16 30 = fields.sequenceId.getD (buf.getBe16 30)
  controlField : buf' 32 = fields.controlField
  logMessageInterval : (buf' 33).toInt8 = fields.logMessageInterval.getD (buf 33).toInt8
  kept : ∀ i, i = 1 ∨ 5 ≤ i ∧ i < 8 ∨ 16 ≤ i ∧ i < 30 → buf' i = buf i

namespace PtpMessage

/-- Type of a message. -/
def type : PtpMessage → UInt8
  | sync _ => SYNC
  | followUp => FOLLOW_UP
  | delayReq _ => DELAY_REQ
  | delayResp _ => DELAY_RESP
  | pdelayReq _ => PDELAY_REQ
  | pdelayResp _ => PDELAY_RESP
  | pdelayRespFollowUp _ => PDELAY_RESP_FOLLOW_UP
  | announce => ANNOUNCE

/-- Number of octets of a message. -/
def length (port : PtpPortDS) : PtpMessage → ℕ
  | sync _ => SYNC_LENGTH
  | followUp => FOLLOW_UP_LENGTH
  | delayReq _ => DELAY_REQ_LENGTH
  | delayResp _ => DELAY_RESP_LENGTH
  | pdelayReq _ => PDELAY_REQ_LENGTH
  | pdelayResp _ => PDELAY_RESP_LENGTH
  | pdelayRespFollowUp _ => PDELAY_RESP_FOLLOW_UP_LENGTH
  | announce => if port.wr.wrConfig.hasAnnounceSuffix then WR_ANNOUNCE_LENGTH else ANNOUNCE_LENGTH

theorem length_pos (port : PtpPortDS) (m : PtpMessage) : 0 < m.length port := by
  cases m <;> simp only [length]
  case announce => split <;> decide
  all_goals decide

/-- Sequence number of a message. -/
def sequenceId (port : PtpPortDS) : PtpMessage → UInt16
  | sync _ => port.sentSyncSequenceId
  | followUp => port.sentSyncSequenceId - 1
  | delayReq _ => port.sentDelayReqSequenceId
  | delayResp header | pdelayResp header => header.sequenceId
  | pdelayReq _ => port.sentPDelayReqSequenceId
  | pdelayRespFollowUp _ => port.pdelayReqHeader.sequenceId
  | announce => port.sentAnnounceSequenceId

/-- Control field of a message. -/
def controlField : PtpMessage → UInt8
  | sync _ => 0
  | delayReq _ => 1
  | followUp => 2
  | delayResp _ => 3
  | pdelayReq _ | pdelayResp _ | pdelayRespFollowUp _ | announce => 5

/-- Interval of a message; `0x7F` where there is none. -/
def logMessageInterval (port : PtpPortDS) : PtpMessage → Int8
  | sync _ | followUp => port.logSyncInterval
  | delayResp _ => port.logMinDelayReqInterval
  | announce => port.logAnnounceInterval
  | delayReq _ | pdelayReq _ | pdelayResp _ | pdelayRespFollowUp _ => 0x7F

/-- The domain a packer writes: two of the responses take over the one of the request. -/
def domainNumber? : PtpMessage → Option UInt8
  | delayResp header | pdelayResp header => some header.domainNumber
  | _ => none

/-- The correction a packer writes. -/
def correctionField? : PtpMessage → Option Integer64
  | delayResp header | pdelayRespFollowUp header => some header.correctionfield
  | sync _ | delayReq _ | pdelayReq _ | pdelayResp _ => some { msb := 0, lsb := 0 }
  | followUp | announce => none

/-- The header fields the packer of a message writes. -/
def fields (port : PtpPortDS) (m : PtpMessage) : HeaderFields :=
  { messageType := m.type
    messageLength := .ofNat (m.length port)
    domainNumber := m.domainNumber?
    correctionfield := m.correctionField?
    sequenceId := some (m.sequenceId port)
    controlField := m.controlField
    logMessageInterval := some (m.logMessageInterval port) }

section Packs

variable (clk : PtpClockDS) (port : PtpPortDS) (buf : Buffer)

/-- The packer of a message writes its header fields. -/
theorem pack_packs (m : PtpMessage) : Packs (m.fields port) buf (m.pack clk port buf) := by
  cases m
  case announce =>
    simp only [pack, msgPackAnnounce, putWrTlv]
    -- The suffix lies behind the header.
    cases hsuffix : port.wr.wrConfig.hasAnnounceSuffix <;>
      simp only [if_true, if_false, Bool.false_eq_true]
    all_goals
      constructor
      -- No packer touches the reserved octets, the flags and the identity of the sender.
      case kept =>
        intro i hi
        simp (disch := omega) [setMessageType]
      all_goals
        simp [setMessageType, fields, type, length, domainNumber?, correctionField?, getCorrection,
          sequenceId, controlField, logMessageInterval, hsuffix]
  all_goals
    simp only [pack, msgPackSync, msgPackFollowUp, msgPackDelayReq, msgPackDelayResp,
      msgPackPDelayReq, msgPackPDelayResp, msgPackPDelayRespFollowUp, putTimestamp, putWrTimestamp,
      putPortIdentity]
    constructor
    case kept =>
      intro i hi
      simp (disch := omega) [setMessageType]
    all_goals
      simp [setMessageType, fields, type, length, domainNumber?, correctionField?, getCorrection,
        sequenceId, controlField, logMessageInterval]

end Packs

end PtpMessage

namespace PackCall

/-- Number of octets of the value of a White Rabbit TLV in a signaling message. -/
def tlvLength (wrMessageID : UInt16) : UInt16 :=
  if wrMessageID = CALIBRATE then 20 else if wrMessageID = CALIBRATED then 24 else 8

/-- Number of octets of the message a call packs; `0` when it packs none. -/
def length (port : PtpPortDS) : PackCall → ℕ
  | message m => m.length port
  | wrSignaling wrMessageID =>
    if SignalingPacked port wrMessageID then
      WR_SIGNALING_MSG_BASE_LENGTH + (tlvLength wrMessageID).toNat
    else 0

/-- The header fields a call writes. -/
def fields (port : PtpPortDS) : PackCall → HeaderFields
  | message m => m.fields port
  | c@(wrSignaling _) =>
    { messageType := SIGNALING
      messageLength := .ofNat (c.length port)
      domainNumber := none
      correctionfield := none
      sequenceId := none
      controlField := 5
      logMessageInterval := none }

section Packs

variable (clk : PtpClockDS) (port : PtpPortDS) (buf : Buffer)

theorem tlvLength_cases (wrMessageID : UInt16) :
    wrMessageID = CALIBRATE ∧ tlvLength wrMessageID = 20 ∨
      wrMessageID ≠ CALIBRATE ∧ wrMessageID = CALIBRATED ∧ tlvLength wrMessageID = 24 ∨
      wrMessageID ≠ CALIBRATE ∧ wrMessageID ≠ CALIBRATED ∧ tlvLength wrMessageID = 8 := by
  by_cases h : wrMessageID = CALIBRATE
  · exact .inl ⟨h, if_pos h⟩
  · by_cases h' : wrMessageID = CALIBRATED
    · exact .inr (.inl ⟨h, h', by simp only [tlvLength, if_neg h, if_pos h']⟩)
    · exact .inr (.inr ⟨h, h', by simp only [tlvLength, if_neg h, if_neg h']⟩)

/-- A signaling message of positive length was packed. -/
theorem signalingPacked_of_length {port : PtpPortDS} {wrMessageID : UInt16}
    (h : 0 < (wrSignaling wrMessageID).length port) : SignalingPacked port wrMessageID := by
  by_contra hnot
  simp [length, hnot] at h

/-- The packer of signaling messages writes its header fields, unless it packs nothing. -/
theorem wrSignaling_packs {wrMessageID : UInt16} (h : SignalingPacked port wrMessageID) :
    Packs ((wrSignaling wrMessageID).fields port) buf
      ((wrSignaling wrMessageID).pack clk port buf) := by
  have hpacked : ¬(port.wr.wrMode = .nonWr ∨ wrMessageID = ANN_SUFIX) := not_or.mpr h
  simp only [pack, msgPackWRSignalingMsg, if_neg hpacked, putWrTlv, putPortIdentity]
  -- The three kinds of values differ behind the header and in the length.
  rcases tlvLength_cases wrMessageID with
    ⟨rfl, hlength⟩ | ⟨hne, rfl, hlength⟩ | ⟨hne, hne', hlength⟩
  all_goals
    constructor
    case kept =>
      intro i hi
      simp (disch := omega) [setMessageType, *]
    all_goals simp [setMessageType, fields, length, getCorrection, *]

/-- Every packer that packs a message writes its header fields. -/
theorem pack_packs (c : PackCall) (h : 0 < c.length port) :
    Packs (c.fields port) buf (c.pack clk port buf) := by
  cases c with
  | message m => exact m.pack_packs clk port buf
  | wrSignaling wrMessageID => exact wrSignaling_packs clk port buf (signalingPacked_of_length h)

/-- Number of octets of a message. -/
theorem length_bounds (c : PackCall) (h : 0 < c.length port) :
    44 ≤ c.length port ∧ c.length port < 2 ^ 16 := by
  cases c with
  | message m =>
    cases m <;> simp only [length, PtpMessage.length]
    case announce => split <;> decide
    all_goals decide
  | wrSignaling wrMessageID =>
    have hpacked := signalingPacked_of_length h
    simp only [length, if_pos hpacked]
    rcases tlvLength_cases wrMessageID with ⟨-, hlength⟩ | ⟨-, -, hlength⟩ | ⟨-, -, hlength⟩ <;>
      rw [hlength] <;> decide

/-- The length in the header is the one of the message. -/
theorem messageLength_pack (c : PackCall) (h : 0 < c.length port) :
    ((c.pack clk port buf).getBe16 2).toNat = c.length port := by
  -- The length fits into 16 bits, so the field holds it.
  have hfield : (c.fields port).messageLength = .ofNat (c.length port) := by cases c <;> rfl
  rw [(c.pack_packs clk port buf h).messageLength, hfield,
    UInt16.toNat_ofNat_of_lt' (c.length_bounds port h).2]

end Packs

end PackCall

/-! ### The header of a packed message -/

theorem PtpMessage.type_and (m : PtpMessage) : m.type &&& 0x0F = m.type := by
  cases m <;> simp only [PtpMessage.type] <;> decide

theorem PackCall.messageType_and (port : PtpPortDS) (c : PackCall) :
    (c.fields port).messageType &&& 0x0F = (c.fields port).messageType := by
  cases c with
  | message m => exact m.type_and
  | wrSignaling id => simp only [PackCall.fields]; decide

section Header

variable {fields : HeaderFields} {buf buf' : Buffer}

/-- The type put into the first octet can be taken out again. -/
theorem setMessageType_and (buf : Buffer) {type : UInt8} (h : type &&& 0x0F = type) :
    setMessageType buf type 0 &&& 0x0F = type := by
  -- The mask distributes over the octet, and takes its old low half away.
  have hsplit : (buf 0 &&& 0xF0 ||| type) &&& 0x0F = type &&& 0x0F := by
    apply UInt8.toBitVec_inj.mp
    simp [BitVec.and_or_distrib_right, BitVec.and_assoc]
  simpa [setMessageType, Buffer.set, h] using hsplit

/-- The type put into the first octet leaves the high nibble alone. -/
theorem setMessageType_shiftRight (buf : Buffer) {type : UInt8} (h : type &&& 0x0F = type) :
    setMessageType buf type 0 >>> 4 = buf 0 >>> 4 := by
  rw [setMessageType, set_self, ← h]
  apply UInt8.toBitVec_inj.mp
  apply BitVec.eq_of_getLsbD_eq
  intro i hi
  simp only [UInt8.toBitVec_shiftRight, UInt8.toBitVec_or, UInt8.toBitVec_and]
  interval_cases i <;> simp

@[inherit_doc setMessageType_shiftRight]
theorem setMessageType_and_high (buf : Buffer) {type : UInt8} (h : type &&& 0x0F = type) :
    setMessageType buf type 0 &&& 0xF0 = buf 0 &&& 0xF0 := by
  rw [setMessageType, set_self, ← h]
  apply UInt8.toBitVec_inj.mp
  simp [BitVec.and_or_distrib_right, BitVec.and_assoc]

/-- The header that is read after a packer has written its fields. -/
theorem Packs.unpackHeader (h : Packs fields buf buf')
    (htype : fields.messageType &&& 0x0F = fields.messageType) :
    msgUnpackHeader buf' = { msgUnpackHeader buf with
      messageType := fields.messageType
      messageLength := fields.messageLength
      domainNumber := fields.domainNumber.getD (msgUnpackHeader buf).domainNumber
      correctionfield := fields.correctionfield.getD (msgUnpackHeader buf).correctionfield
      sequenceId := fields.sequenceId.getD (msgUnpackHeader buf).sequenceId
      controlField := fields.controlField
      logMessageInterval :=
        fields.logMessageInterval.getD (msgUnpackHeader buf).logMessageInterval } := by
  -- The fields that no packer writes lie in the octets that it keeps.
  have hclock : buf'.read 20 8 = buf.read 20 8 := read_congr fun i hi hi' => h.kept i (by omega)
  have hnumber : buf'.getBe16 28 = buf.getBe16 28 :=
    getBe16_congr fun i hi hi' => h.kept i (by omega)
  have hflags : buf'.read 6 2 = buf.read 6 2 :=
    read_congr fun i hi hi' => h.kept i (by omega)
  simp only [msgUnpackHeader, getPortIdentity, MsgHeader.mk.injEq, PortIdentity.mk.injEq]
  rw [h.messageType]
  refine ⟨setMessageType_shiftRight buf htype, setMessageType_and buf htype,
    by rw [h.kept 1 (.inl rfl)], h.messageLength, h.domainNumber, hflags, h.correctionfield,
    ⟨hclock, hnumber⟩, h.sequenceId, h.controlField, h.logMessageInterval⟩

end Header

/-! ### White Rabbit TLVs -/

section Tlv

variable (buf : Buffer) (off : ℕ)

theorem toNat_word16_shiftRight (c d : UInt8) : (word16 c d >>> 8).toNat = c.toNat := by
  have hd := d.toNat_lt
  rw [UInt16.toNat_shiftRight, toNat_word16, show UInt16.toNat 8 % 16 = 8 from rfl,
    Nat.shiftRight_eq_div_pow]
  omega

/-- The organization is put together from the first three octets of two words. -/
theorem organizationID_eq (a b c d : UInt8) :
    (word16 a b).toUInt32 <<< 8 ||| (word16 c d >>> 8).toUInt32 = word32 0 a b c := by
  have ha := a.toNat_lt
  have hb := b.toNat_lt
  have hor := Nat.shiftLeft_add_eq_or_of_lt c.toNat_lt (a.toNat * 256 + b.toNat)
  apply UInt32.toNat_inj.mp
  calc ((word16 a b).toUInt32 <<< 8 ||| (word16 c d >>> 8).toUInt32).toNat
      = (a.toNat * 256 + b.toNat) <<< 8 % 2 ^ 32 ||| c.toNat := by
        rw [UInt32.toNat_or, UInt32.toNat_shiftLeft, UInt16.toNat_toUInt32, UInt16.toNat_toUInt32,
          toNat_word16, toNat_word16_shiftRight]
        rfl
    _ = (a.toNat * 256 + b.toNat) <<< 8 + c.toNat := by
        rw [Nat.mod_eq_of_lt (by rw [Nat.shiftLeft_eq]; omega), ← hor]
    _ = (word32 0 a b c).toNat := by
        rw [toNat_word32, Nat.shiftLeft_eq]
        simp

/-- The magic number is put together from the middle octets of two words. -/
theorem magicNumber_eq (a b c d : UInt8) :
    word16 c d >>> 8 ||| ((0xFF00 : UInt16) &&& word16 a b <<< 8) = word16 b c := by
  apply UInt16.toBitVec_inj.mp
  apply BitVec.eq_of_getLsbD_eq
  intro i hi
  simp only [word16, UInt16.toBitVec_or, UInt16.toBitVec_and, UInt16.toBitVec_shiftLeft,
    UInt16.toBitVec_shiftRight]
  interval_cases i <;> simp

/-- The version is the last octet of a word. -/
theorem versionNumber_eq (c d : UInt8) : (0xFF : UInt16) &&& word16 c d = word16 0 d := by
  apply UInt16.toBitVec_inj.mp
  apply BitVec.eq_of_getLsbD_eq
  intro i hi
  simp only [word16, UInt16.toBitVec_or, UInt16.toBitVec_and, UInt16.toBitVec_shiftLeft]
  interval_cases i <;> simp

/-- The octets of a TLV with the organization, magic number and version of White Rabbit; its length
is not looked at. -/
theorem isWrTlv_iff :
    isWrTlv buf off = true ↔
      (buf off = 0x00 ∧ buf (off + 1) = 0x03) ∧
        (buf (off + 4) = 0x08 ∧ buf (off + 5) = 0x00 ∧ buf (off + 6) = 0x30) ∧
        (buf (off + 7) = 0xDE ∧ buf (off + 8) = 0xAD) ∧ buf (off + 9) = 0x01 := by
  -- The constants of the protocol, octet by octet.
  have htype : TLV_TYPE_ORG_EXTENSION = word16 0x00 0x03 := by decide
  have horganization : WR_TLV_ORGANIZATION_ID = word32 0x00 0x08 0x00 0x30 := by decide
  have hmagic : WR_TLV_MAGIC_NUMBER = word16 0xDE 0xAD := by decide
  have hversion : WR_TLV_WR_VERSION_NUMBER = word16 0x00 0x01 := by decide
  simp only [isWrTlv, getBe16, organizationID_eq, magicNumber_eq, versionNumber_eq, htype,
    horganization, hmagic, hversion, word16_inj, word32_inj, decide_eq_true_eq, true_and]

end Tlv

/-! ### Announce messages -/

section Announce

variable (buf : Buffer)

/-- Whether an Announce message has a White Rabbit suffix, by the length in its header. -/
def HasWrSuffix (buf : Buffer) : Prop :=
  ANNOUNCE_LENGTH < (buf.getBe16 2).toNat ∧ isWrTlv buf 64 ∧ buf.getBe16 74 = ANN_SUFIX

instance : DecidablePred HasWrSuffix := fun buf => by
  unfold HasWrSuffix
  infer_instance

/-- The suffix only concerns the flags, which are kept when there is none. -/
theorem msgUnpackAnnounce_eq (announce : MsgAnnounce) :
    msgUnpackAnnounce buf announce =
      { originTimestamp := getTimestamp buf 34
        currentUtcOffset := (buf.getBe16 44).toInt16
        grandmasterPriority1 := buf 47
        grandmasterClockQuality :=
          { clockClass := buf 48, clockAccuracy := buf 49,
            offsetScaledLogVariance := buf.getBe16 50 }
        grandmasterPriority2 := buf 52
        grandmasterIdentity := buf.read 53 8
        stepsRemoved := (buf 61).toUInt16 ||| (buf 62).toUInt16 <<< 8
        timeSource := buf 63
        wrFlags := if HasWrSuffix buf then (buf.getBe16 76).toUInt8 else announce.wrFlags } := by
  by_cases hlength : ANNOUNCE_LENGTH < (buf.getBe16 2).toNat
  · by_cases htlv : isWrTlv buf 64 ∧ buf.getBe16 74 = ANN_SUFIX
    · have hsuffix : HasWrSuffix buf := ⟨hlength, htlv⟩
      simp only [msgUnpackAnnounce, if_pos hlength, if_pos htlv, if_pos hsuffix]
    · have hnot : ¬HasWrSuffix buf := fun h => htlv h.2
      simp only [msgUnpackAnnounce, if_pos hlength, if_neg htlv, if_neg hnot]
  · have hnot : ¬HasWrSuffix buf := fun h => hlength h.1
    simp only [msgUnpackAnnounce, if_neg hlength, if_neg hnot]

end Announce

/-! ### The first message -/

section Fresh

variable (clk : PtpClockDS) (port : PtpPortDS)

/-- The output buffer in which the first message is packed. -/
def freshBuffer : Buffer := msgPackHeader (fun _ => 0) clk port

/-- The header in the output buffer before the first message. -/
theorem unpackHeader_freshBuffer :
    msgUnpackHeader (freshBuffer clk port) =
      { transportSpecific := 0
        messageType := 0
        versionPTP := port.versionNumber &&& 0x0F
        messageLength := 0
        domainNumber := clk.domainNumber
        flagField := fun k => if k = 0 ∧ clk.twoStepFlag then TWO_STEP_FLAG else 0
        correctionfield := { msb := 0, lsb := 0 }
        sourcePortIdentity := port.portIdentity
        sequenceId := 0
        controlField := 0
        logMessageInterval := 0x7F } := by
  have hzero : Buffer.getBe16 (fun _ => 0) 2 = 0 ∧ Buffer.getBe16 (fun _ => 0) 30 = 0 := by
    decide
  simp only [freshBuffer, msgPackHeader, msgUnpackHeader, getPortIdentity]
  cases htwo : clk.twoStepFlag <;> simp [hzero]
  · rfl
  · funext k
    match k with
    | 0 | 1 => rfl

end Fresh

end WhiteRabbitPtp
