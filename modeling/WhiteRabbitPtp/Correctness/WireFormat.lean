import WhiteRabbitPtp.Lib.BigEndian
import WhiteRabbitPtp.Correctness.RoundTrip

/-!
# Packers and unpackers against the wire format

A second decoder reads every field of a message at the offset the standard gives it, as a number of
so many octets, most significant first. It knows nothing of the words, shifts and masks of the
packers and unpackers, which are compared with it here.

## Main definitions

* `Wire.Message`, `Wire.read`: a message as numbers, and how it is read from a buffer.
* `Wire.given`: the message a packer was given.
* `Wire.Message.ReadFrom`: the unpackers read that message from a buffer.

## Main results

* `Wire.readFrom_read_iff`, `Wire.read_pack_iff`: only `stepsRemoved` has its octets swapped.
* `wireFormat_iff`: the messages and buffers where packers and unpackers agree with the standard.
-/

namespace WhiteRabbitPtp

open Octets Buffer

namespace Wire

/-! ### Messages as numbers -/

/-- A time in a message. -/
structure Time where
  seconds : ℕ
  nanoseconds : ℕ
  deriving DecidableEq

/-- A port in a message. -/
structure Identity where
  clockIdentity : ClockIdentity
  portNumber : ℕ

/-- The header of a message. -/
structure Header where
  transportSpecific : ℕ
  messageType : ℕ
  versionPTP : ℕ
  messageLength : ℕ
  domainNumber : ℕ
  flagField : OctetString 2
  correctionField : ℤ
  sourcePortIdentity : Identity
  sequenceId : ℕ
  controlField : ℕ
  logMessageInterval : ℤ

/-- The body of an Announce message. -/
structure Announce where
  originTimestamp : Time
  currentUtcOffset : ℤ
  grandmasterPriority1 : ℕ
  clockClass : ℕ
  clockAccuracy : ℕ
  offsetScaledLogVariance : ℕ
  grandmasterPriority2 : ℕ
  grandmasterIdentity : ClockIdentity
  stepsRemoved : ℕ
  timeSource : ℕ

/-- The fields of a White Rabbit TLV that all of them have. -/
structure Tlv where
  tlvType : ℕ
  length : ℕ
  organizationID : ℕ
  magicNumber : ℕ
  versionNumber : ℕ
  wrMessageID : ℕ
  deriving DecidableEq

/-- The values in a White Rabbit signaling message. -/
inductive WrValues
  | calibrate (sendPattern retry period : ℕ)
  | calibrated (deltaTx deltaRx : ℕ)
  | none

/-- The body of a message. -/
inductive Body
  | sync (originTimestamp : Time)
  | followUp (preciseOriginTimestamp : Time)
  | delayReq (originTimestamp : Time)
  | delayResp (receiveTimestamp : Time) (requestingPortIdentity : Identity)
  | pdelayReq (originTimestamp : Time)
  | pdelayResp (requestReceiptTimestamp : Time) (requestingPortIdentity : Identity)
  | pdelayRespFollowUp (responseOriginTimestamp : Time) (requestingPortIdentity : Identity)
  | announce (fields : Announce) (suffix : Option (Tlv × ℕ))
  | signaling (targetPortIdentity : Identity) (tlv : Option (Tlv × WrValues))
  | other

/-- A message. -/
structure Message where
  header : Header
  body : Body

/-! ### Reading a message -/

section Read

variable (buf : Buffer)

/-- Read a time: six octets of seconds, four of nanoseconds. -/
def readTime (off : ℕ) : Time :=
  { seconds := buf.beNat off 6, nanoseconds := buf.beNat (off + 6) 4 }

/-- Read a port identity. -/
def readIdentity (off : ℕ) : Identity :=
  { clockIdentity := fun k => buf (off + k), portNumber := buf.beNat (off + 8) 2 }

/-- Read the header. -/
def readHeader : Header :=
  { transportSpecific := buf.beNat 0 1 / 16
    messageType := buf.beNat 0 1 % 16
    versionPTP := buf.beNat 1 1 % 16
    messageLength := buf.beNat 2 2
    domainNumber := buf.beNat 4 1
    flagField := fun k => buf (6 + k)
    correctionField := buf.beInt 8 8
    sourcePortIdentity := readIdentity buf 20
    sequenceId := buf.beNat 30 2
    controlField := buf.beNat 32 1
    logMessageInterval := buf.beInt 33 1 }

/-- Read the body of an Announce message. -/
def readAnnounce : Announce :=
  { originTimestamp := readTime buf 34
    currentUtcOffset := buf.beInt 44 2
    grandmasterPriority1 := buf.beNat 47 1
    clockClass := buf.beNat 48 1
    clockAccuracy := buf.beNat 49 1
    offsetScaledLogVariance := buf.beNat 50 2
    grandmasterPriority2 := buf.beNat 52 1
    grandmasterIdentity := fun k => buf (53 + k)
    stepsRemoved := buf.beNat 61 2
    timeSource := buf.beNat 63 1 }

/-- Read the fields of a TLV. -/
def readTlv (off : ℕ) : Tlv :=
  { tlvType := buf.beNat off 2
    length := buf.beNat (off + 2) 2
    organizationID := buf.beNat (off + 4) 3
    magicNumber := buf.beNat (off + 7) 2
    versionNumber := buf.beNat (off + 9) 1
    wrMessageID := buf.beNat (off + 10) 2 }

/-- A TLV is one of White Rabbit. -/
def Tlv.IsWr (tlv : Tlv) : Prop :=
  tlv.tlvType = 0x0003 ∧ tlv.organizationID = 0x080030 ∧ tlv.magicNumber = 0xDEAD ∧
    tlv.versionNumber = 1

instance : DecidablePred Tlv.IsWr := fun tlv => by
  unfold Tlv.IsWr
  infer_instance

/-- Read the suffix of an Announce message, which is longer then. -/
def readSuffix : Option (Tlv × ℕ) :=
  let tlv := readTlv buf 64
  if 64 < buf.beNat 2 2 ∧ tlv.IsWr ∧ tlv.wrMessageID = 0x2000 then some (tlv, buf.beNat 76 2)
  else none

/-- Read the values of a signaling message with the given identifier. -/
def readValues (wrMessageID : ℕ) : WrValues :=
  if wrMessageID = 0x1003 then
    .calibrate (buf.beNat 57 1) (buf.beNat 56 1) (buf.beNat 58 4)
  else if wrMessageID = 0x1004 then .calibrated (buf.beNat 56 8) (buf.beNat 64 8)
  else .none

/-- Read the TLV of a signaling message. -/
def readSignaling : Option (Tlv × WrValues) :=
  let tlv := readTlv buf 44
  if tlv.IsWr then some (tlv, readValues buf tlv.wrMessageID) else none

/-- Read the body of a message of the given type. -/
def readBody : ℕ → Body
  | 0x0 => .sync (readTime buf 34)
  | 0x1 => .delayReq (readTime buf 34)
  | 0x2 => .pdelayReq (readTime buf 34)
  | 0x3 => .pdelayResp (readTime buf 34) (readIdentity buf 44)
  | 0x8 => .followUp (readTime buf 34)
  | 0x9 => .delayResp (readTime buf 34) (readIdentity buf 44)
  | 0xA => .pdelayRespFollowUp (readTime buf 34) (readIdentity buf 44)
  | 0xB => .announce (readAnnounce buf) (readSuffix buf)
  | 0xC => .signaling (readIdentity buf 34) (readSignaling buf)
  | _ => .other

/-- Read a message. -/
def read : Message :=
  { header := readHeader buf, body := readBody buf (buf.beNat 0 1 % 16) }

end Read

/-! ### The values of the program's data -/

end Wire

/-- The number in two halves. -/
def Integer64.value (x : Integer64) : ℤ := x.msb.toInt * 2 ^ 32 + x.lsb.toNat

@[inherit_doc Integer64.value]
def UInteger64.value (x : UInteger64) : ℕ := x.msb.toNat * 2 ^ 32 + x.lsb.toNat

/-- The time in a message. -/
def Timestamp.value (ts : Timestamp) : Wire.Time :=
  { seconds := ts.secondsField.msb.toNat * 2 ^ 32 + ts.secondsField.lsb.toNat
    nanoseconds := ts.nanosecondsField.toNat }

/-- The time of a hardware timestamp, as far as there is room for it in a message. -/
def WrTimestamp.value (ts : WrTimestamp) : Wire.Time :=
  { seconds := (ts.sec % 2 ^ 48).toNat, nanoseconds := (ts.nsec % 2 ^ 32).toNat }

/-- The port. -/
def PortIdentity.value (id : PortIdentity) : Wire.Identity :=
  { clockIdentity := id.clockIdentity, portNumber := id.portNumber.toNat }

/-- The header as numbers. -/
def MsgHeader.value (header : MsgHeader) : Wire.Header :=
  { transportSpecific := header.transportSpecific.toNat
    messageType := header.messageType.toNat
    versionPTP := header.versionPTP.toNat
    messageLength := header.messageLength.toNat
    domainNumber := header.domainNumber.toNat
    flagField := header.flagField
    correctionField := header.correctionfield.value
    sourcePortIdentity := header.sourcePortIdentity.value
    sequenceId := header.sequenceId.toNat
    controlField := header.controlField.toNat
    logMessageInterval := header.logMessageInterval.toInt }

/-- The Announce message as numbers; its flags belong to the suffix. -/
def MsgAnnounce.value (announce : MsgAnnounce) : Wire.Announce :=
  { originTimestamp := announce.originTimestamp.value
    currentUtcOffset := announce.currentUtcOffset.toInt
    grandmasterPriority1 := announce.grandmasterPriority1.toNat
    clockClass := announce.grandmasterClockQuality.clockClass.toNat
    clockAccuracy := announce.grandmasterClockQuality.clockAccuracy.toNat
    offsetScaledLogVariance := announce.grandmasterClockQuality.offsetScaledLogVariance.toNat
    grandmasterPriority2 := announce.grandmasterPriority2.toNat
    grandmasterIdentity := announce.grandmasterIdentity
    stepsRemoved := announce.stepsRemoved.toNat
    timeSource := announce.timeSource.toNat }

namespace Wire

/-! ### The message a packer is given -/

section Given

variable (clk : PtpClockDS) (port : PtpPortDS)

/-- The header a call is given. -/
def givenHeader (c : PackCall) : Header :=
  let fields := c.fields port
  { transportSpecific := 0
    messageType := fields.messageType.toNat
    versionPTP := port.versionNumber.toNat % 16
    messageLength := c.length port
    domainNumber := (fields.domainNumber.getD clk.domainNumber).toNat
    flagField := fun k => if k = 0 ∧ clk.twoStepFlag then TWO_STEP_FLAG else 0
    correctionField := (fields.correctionfield.getD { msb := 0, lsb := 0 }).value
    sourcePortIdentity := port.portIdentity.value
    sequenceId := (fields.sequenceId.getD 0).toNat
    controlField := fields.controlField.toNat
    logMessageInterval := (fields.logMessageInterval.getD 0x7F).toInt }

/-- The Announce message of a clock. -/
def givenAnnounce : Announce :=
  { originTimestamp := ⟨0, 0⟩
    currentUtcOffset := clk.currentUtcOffset.toInt
    grandmasterPriority1 := clk.grandmasterPriority1.toNat
    clockClass := clk.clockQuality.clockClass.toNat
    clockAccuracy := clk.clockQuality.clockAccuracy.toNat
    offsetScaledLogVariance := clk.clockQuality.offsetScaledLogVariance.toNat
    grandmasterPriority2 := clk.grandmasterPriority2.toNat
    grandmasterIdentity := clk.grandmasterIdentity
    stepsRemoved := clk.stepsRemoved.toNat
    timeSource := clk.timeSource.toNat }

/-- A White Rabbit TLV with a value of the given length. -/
def wrTlv (length wrMessageID : ℕ) : Tlv :=
  { tlvType := 0x0003, length, organizationID := 0x080030, magicNumber := 0xDEAD
    versionNumber := 1, wrMessageID }

/-- The suffix of the Announce messages of a port. -/
def givenSuffix : Option (Tlv × ℕ) :=
  if port.wr.wrConfig.hasAnnounceSuffix then
    some (wrTlv 10 0x2000, (PtpMessage.announcedFlags port.wr).toNat)
  else none

/-- The values in a signaling message of a port. -/
def givenValues (wrMessageID : UInt16) : WrValues :=
  if wrMessageID = CALIBRATE then
    .calibrate (if port.wr.calibrated then 0 else 1) port.wr.calRetry.toNat port.wr.calPeriod.toNat
  else if wrMessageID = CALIBRATED then
    .calibrated port.wr.deltaTx.scaledPicoseconds.value port.wr.deltaRx.scaledPicoseconds.value
  else .none

/-- The body a call is given. -/
def givenBody : PackCall → Body
  | .message (.sync originTimestamp) => .sync originTimestamp.value
  | .message .followUp => .followUp port.synchTxTs.value
  | .message (.delayReq originTimestamp) => .delayReq originTimestamp.value
  | .message (.delayResp header) =>
    .delayResp port.currentRxTs.value header.sourcePortIdentity.value
  | .message (.pdelayReq originTimestamp) => .pdelayReq originTimestamp.value
  | .message (.pdelayResp header) =>
    .pdelayResp port.currentRxTs.value header.sourcePortIdentity.value
  | .message (.pdelayRespFollowUp header) =>
    .pdelayRespFollowUp port.pDelayRespTxTs.value header.sourcePortIdentity.value
  | .message .announce => .announce (givenAnnounce clk) (givenSuffix port)
  | c@(.wrSignaling wrMessageID) =>
    .signaling clk.parentPortIdentity.value
      (some (wrTlv (c.length port - 48) wrMessageID.toNat, givenValues port wrMessageID))

/-- The message a call is given. -/
def given (c : PackCall) : Message :=
  { header := givenHeader clk port c, body := givenBody clk port c }

end Given

/-! ### What the unpackers read -/

section ReadAs

variable (buf : Buffer)

/-- The values that a port takes out of a signaling message. -/
def WrValues.TakenBy (wr : WrPortDS) : WrValues → Prop
  | .calibrate sendPattern retry period =>
    wr.otherNodeCalSendPattern.toNat = sendPattern ∧ wr.otherNodeCalRetry.toNat = retry ∧
      wr.otherNodeCalPeriod.toNat = period
  | .calibrated deltaTx deltaRx =>
    wr.otherNodeDeltaTx.scaledPicoseconds.value = deltaTx ∧
      wr.otherNodeDeltaRx.scaledPicoseconds.value = deltaRx
  | .none => True

/-- The unpacker for a body reads that body. -/
def Body.ReadFrom : Body → Prop
  | .sync ts => (msgUnpackSync buf).value = ts
  | .followUp ts => (msgUnpackFollowUp buf).value = ts
  | .delayReq ts => (msgUnpackDelayReq buf).value = ts
  | .delayResp ts id =>
    (msgUnpackDelayResp buf).receiveTimestamp.value = ts ∧
      (msgUnpackDelayResp buf).requestingPortIdentity.value = id
  | .pdelayReq ts => (msgUnpackPDelayReq buf).value = ts
  | .pdelayResp ts id =>
    (msgUnpackPDelayResp buf).receiveTimestamp.value = ts ∧
      (msgUnpackPDelayResp buf).requestingPortIdentity.value = id
  | .pdelayRespFollowUp ts id =>
    (msgUnpackPDelayRespFollowUp buf).receiveTimestamp.value = ts ∧
      (msgUnpackPDelayRespFollowUp buf).requestingPortIdentity.value = id
  | .announce fields suffix =>
    ∀ former, (msgUnpackAnnounce buf former).value = fields ∧
      (msgUnpackAnnounce buf former).wrFlags.toNat =
        match suffix with
        | some (_, wrFlags) => wrFlags
        | none => former.wrFlags.toNat
  | .signaling target tlv =>
    ∀ wr, (msgUnpackWRSignalingMsg buf wr).1.value = target ∧
      match tlv with
      | some (tlv, values) =>
        (msgUnpackWRSignalingMsg buf wr).2.msgTmpWrMessageID.toNat = tlv.wrMessageID ∧
          values.TakenBy (msgUnpackWRSignalingMsg buf wr).2
      | none => (msgUnpackWRSignalingMsg buf wr).2 = wr
  | .other => True

/-- The unpackers read a message from a buffer. -/
def Message.ReadFrom (message : Message) : Prop :=
  (msgUnpackHeader buf).value = message.header ∧ message.body.ReadFrom buf

end ReadAs

/-! ### Unpackers -/

section Unpackers

variable (buf : Buffer) (off : ℕ)

theorem value_getTimestamp : (getTimestamp buf off).value = readTime buf off := by
  simp [Timestamp.value, getTimestamp, readTime, beNat_add buf off 2 4]

theorem value_getPortIdentity : (getPortIdentity buf off).value = readIdentity buf off := by
  simp only [PortIdentity.value, getPortIdentity, readIdentity, beNat_two]
  rfl

/-- All of the header is read as the standard has it. -/
theorem value_msgUnpackHeader : (msgUnpackHeader buf).value = readHeader buf := by
  -- Two octets are cut into halves; the low one is taken by a mask, the high one by a shift.
  have hlow : ∀ x : UInt8, (x &&& 0x0F).toNat = x.toNat % 16 := fun x => by
    rw [UInt8.toNat_and]
    exact Nat.and_two_pow_sub_one_eq_mod _ 4
  have hhigh : (buf 0 >>> 4).toNat = (buf 0).toNat / 16 := by
    rw [UInt8.toNat_shiftRight]
    exact Nat.shiftRight_eq_div_pow _ 4
  simp only [MsgHeader.value, msgUnpackHeader, readHeader, value_getPortIdentity, hlow, hhigh,
    Integer64.value, beNat_one, beNat_two, beInt_one, beInt_eight]
  rfl

/-- A White Rabbit TLV is recognized by the fields the standard gives it. -/
theorem isWrTlv_iff_isWr : isWrTlv buf off = true ↔ (readTlv buf off).IsWr := by
  -- A number of several octets is the expected one when each of its octets is.
  have hlt : ∀ i, (buf i).toNat < 256 := fun i => (buf i).toNat_lt
  have h₁ := hlt (off + 1)
  have h₅ := hlt (off + 5)
  have h₆ := hlt (off + 6)
  have h₈ := hlt (off + 8)
  rw [isWrTlv_iff]
  simp only [Tlv.IsWr, readTlv, beNat, ← UInt8.toNat_inj, UInt8.reduceToNat, Nat.add_zero]
  simp only [Nat.add_assoc, Nat.reduceAdd] at *
  omega

/-- The identifier behind the header of a TLV. -/
theorem readTlv_wrMessageID : (readTlv buf off).wrMessageID = (buf.getBe16 (off + 10)).toNat :=
  beNat_two buf (off + 10)

/-- All of an Announce message but `stepsRemoved`, whose octets are swapped, is read as the standard
has it. -/
theorem value_msgUnpackAnnounce (former : MsgAnnounce) :
    (msgUnpackAnnounce buf former).value =
      { readAnnounce buf with stepsRemoved := (word16 (buf 62) (buf 61)).toNat } := by
  rw [msgUnpackAnnounce_eq]
  simp only [MsgAnnounce.value, value_getTimestamp, readAnnounce, beNat_one, beNat_two, beInt_two,
    word16, UInt16.or_comm]
  rfl

/-- What the standard has of an Announce message, by what is read of it. -/
theorem readAnnounce_eq (former : MsgAnnounce) : readAnnounce buf =
    { (msgUnpackAnnounce buf former).value with
      stepsRemoved := (word16 (buf 61) (buf 62)).toNat } := by
  have hsteps : (readAnnounce buf).stepsRemoved = (word16 (buf 61) (buf 62)).toNat :=
    beNat_two buf 61
  rw [value_msgUnpackAnnounce, ← hsteps]

/-- An Announce message is read as the standard has it exactly when the octets of `stepsRemoved` are
the same. -/
theorem value_msgUnpackAnnounce_iff (former : MsgAnnounce) :
    (msgUnpackAnnounce buf former).value = readAnnounce buf ↔ buf 61 = buf 62 := by
  rw [value_msgUnpackAnnounce]
  constructor
  · intro h
    -- The two octets swapped give the same number only when they are equal.
    have hsteps : (word16 (buf 62) (buf 61)).toNat = buf.beNat 61 2 :=
      congrArg Announce.stepsRemoved h
    rw [beNat_two, UInt16.toNat_inj, getBe16, word16_inj] at hsteps
    exact hsteps.2
  · intro h
    simp [readAnnounce, getBe16, h]

/-- The suffix is found where the standard has it. -/
theorem hasWrSuffix_iff : HasWrSuffix buf ↔
    64 < buf.beNat 2 2 ∧ (readTlv buf 64).IsWr ∧ (readTlv buf 64).wrMessageID = 0x2000 := by
  rw [HasWrSuffix, isWrTlv_iff_isWr, readTlv_wrMessageID, beNat_two, ← UInt16.toNat_inj]
  rfl

instance : Nonempty MsgAnnounce := ⟨.zero, 0, 0, default, 0, fun _ => 0, 0, 0, 0⟩

/-- The flags are read as the standard has them when the reserved octet in front of them is zero. -/
theorem wrFlags_iff : (∀ former, (msgUnpackAnnounce buf former).wrFlags.toNat =
      match readSuffix buf with
      | some (_, wrFlags) => wrFlags
      | none => former.wrFlags.toNat) ↔ (HasWrSuffix buf → buf 76 = 0) := by
  simp only [msgUnpackAnnounce_eq, readSuffix, ← hasWrSuffix_iff]
  by_cases h : HasWrSuffix buf
  · -- The program keeps the low octet of the word, the standard has all of it.
    have hhigh : ∀ hi lo, hi < 2 ^ 8 → lo < 2 ^ 8 →
        ((hi * 256 + lo) % 2 ^ 8 = hi * 256 + lo ↔ hi = 0) := by omega
    have hword : (buf.getBe16 76).toNat = (buf 76).toNat * 256 + (buf 77).toNat := toNat_word16 _ _
    simp only [h, if_true, forall_const, beNat_two, UInt16.toNat_toUInt8, hword, ← UInt8.toNat_inj,
      UInt8.toNat_zero]
    exact hhigh _ _ (buf 76).toNat_lt (buf 77).toNat_lt
  · simp [h]

theorem readValues_calibrate : readValues buf CALIBRATE.toNat =
    .calibrate (buf 57).toNat (buf 56).toNat (buf.getBe32 58).toNat := by
  have hcalibrate : CALIBRATE.toNat = 0x1003 := rfl
  simp only [readValues, hcalibrate, if_true, beNat_one, beNat_four]

theorem readValues_calibrated : readValues buf CALIBRATED.toNat =
    .calibrated (UInteger64.value ⟨buf.getBe32 60, buf.getBe32 56⟩)
      (UInteger64.value ⟨buf.getBe32 68, buf.getBe32 64⟩) := by
  have hcalibrated : CALIBRATED.toNat ≠ 0x1003 := by decide
  simp only [readValues, hcalibrated, if_false, beNat_add buf _ 4 4, beNat_four, UInteger64.value]
  rfl

/-- The values of a signaling message are read as the standard has them. -/
theorem takenBy_msgUnpackWRSignalingMsg (wr : WrPortDS) (h : isWrTlv buf 44 = true) :
    (readValues buf (buf.getBe16 54).toNat).TakenBy (msgUnpackWRSignalingMsg buf wr).2 := by
  -- The pattern and the retries share a word, which the program takes apart.
  have hpattern : ((0x00FF : UInt16) &&& buf.getBe16 56).toNat = (buf 57).toNat := by
    rw [UInt16.and_comm, UInt16.toNat_and, getBe16, toNat_word16]
    calc ((buf 56).toNat * 256 + (buf 57).toNat) &&& 2 ^ 8 - 1
        = ((buf 56).toNat * 256 + (buf 57).toNat) % 256 := Nat.and_two_pow_sub_one_eq_mod _ 8
      _ = (buf 57).toNat := by
        rw [Nat.mul_add_mod_self_right, Nat.mod_eq_of_lt (buf 57).toNat_lt]
  have hretry : (buf.getBe16 56 >>> 8).toUInt8.toNat = (buf 56).toNat := by
    rw [UInt16.toNat_toUInt8, getBe16, toNat_word16_shiftRight]
    exact Nat.mod_eq_of_lt (buf 56).toNat_lt
  have hcases : ∀ id : UInt16, (buf.getBe16 54).toNat = id.toNat ↔ buf.getBe16 54 = id := fun id =>
    UInt16.toNat_inj
  have hne : CALIBRATED ≠ CALIBRATE := by decide
  simp only [msgUnpackWRSignalingMsg, if_pos h]
  by_cases hcalibrate : buf.getBe16 54 = CALIBRATE
  · simp only [hcalibrate, if_true, readValues_calibrate]
    exact ⟨hpattern, hretry, rfl⟩
  · by_cases hcalibrated : buf.getBe16 54 = CALIBRATED
    · simp only [hcalibrated, if_neg hne, if_true, readValues_calibrated]
      exact ⟨rfl, rfl⟩
    · have hvalues : (buf.getBe16 54).toNat ≠ 0x1003 ∧ (buf.getBe16 54).toNat ≠ 0x1004 :=
        ⟨mt (hcases CALIBRATE).mp hcalibrate, mt (hcases CALIBRATED).mp hcalibrated⟩
      simp only [readValues, hcalibrate, hcalibrated, hvalues, if_false]
      exact trivial

/-- Signaling messages are read as the standard has them. -/
theorem readFrom_signaling :
    (Body.signaling (readIdentity buf 34) (readSignaling buf)).ReadFrom buf := by
  intro wr
  have htarget : (msgUnpackWRSignalingMsg buf wr).1 = getPortIdentity buf 34 := by
    simp only [msgUnpackWRSignalingMsg]
    split <;> [split <;> [rfl; split <;> rfl]; rfl]
  refine ⟨by rw [htarget, value_getPortIdentity], ?_⟩
  simp only [readSignaling, ← isWrTlv_iff_isWr, readTlv_wrMessageID]
  cases htlv : isWrTlv buf 44
  · simp [msgUnpackWRSignalingMsg, htlv]
  · refine ⟨?_, takenBy_msgUnpackWRSignalingMsg buf wr htlv⟩
    rw [readTlv_wrMessageID, msgUnpackWRSignalingMsg]
    simp only [htlv, if_true]
    split <;> [rfl; split <;> rfl]

/-- A message is read as the standard has it exactly when it is no Announce message, or one with
equal octets in `stepsRemoved` and nothing in the reserved octet of the flags. -/
theorem readFrom_read_iff : (Wire.read buf).ReadFrom buf ↔
    (buf.beNat 0 1 % 16 = 0xB → buf 61 = buf 62 ∧ (HasWrSuffix buf → buf 76 = 0)) := by
  have hbody : (Wire.read buf).ReadFrom buf ↔ (readBody buf (buf.beNat 0 1 % 16)).ReadFrom buf :=
    ⟨And.right, fun h => ⟨value_msgUnpackHeader buf, h⟩⟩
  rw [hbody]
  generalize buf.beNat 0 1 % 16 = type
  by_cases hannounce : type = 0xB
  · subst hannounce
    have hfields : (∀ former, (msgUnpackAnnounce buf former).value = readAnnounce buf) ↔
        buf 61 = buf 62 := by
      simp only [value_msgUnpackAnnounce_iff, forall_const]
    simp only [readBody, Body.ReadFrom, forall_true_left, forall_and, hfields, wrFlags_iff]
  · refine ⟨fun _ h => absurd h hannounce, fun _ => ?_⟩
    have htime : (getTimestamp buf 34).value = readTime buf 34 := value_getTimestamp buf 34
    have hresponse : (getTimestamp buf 34).value = readTime buf 34 ∧
        (getPortIdentity buf 44).value = readIdentity buf 44 :=
      ⟨htime, value_getPortIdentity buf 44⟩
    simp only [readBody]
    split
    all_goals first
      | exact htime
      | exact hresponse
      | exact readFrom_signaling buf
      | exact trivial
      | contradiction

end Unpackers

/-! ### Packers -/

section Packers

variable (clk : PtpClockDS) (port : PtpPortDS) (buf : Buffer)

/-- All of the header is packed as the standard has it. -/
theorem readHeader_pack (c : PackCall) (h : 0 < c.length port) :
    readHeader (c.pack clk port (freshBuffer clk port)) = givenHeader clk port c := by
  have hfield : (c.fields port).messageLength.toNat = c.length port := by
    have hlength : (c.fields port).messageLength = .ofNat (c.length port) := by cases c <;> rfl
    rw [hlength, UInt16.toNat_ofNat_of_lt' (c.length_bounds port h).2]
  have hversion : (port.versionNumber &&& 0x0F).toNat = port.versionNumber.toNat % 16 := by
    rw [UInt8.toNat_and]
    exact Nat.and_two_pow_sub_one_eq_mod _ 4
  rw [← value_msgUnpackHeader, (c.pack_packs clk port _ h).unpackHeader (c.messageType_and port),
    unpackHeader_freshBuffer]
  simp only [MsgHeader.value, givenHeader, hfield, hversion]
  rfl

theorem value_carried (ts : WrTimestamp) : ts.carried.value = ts.value := by
  obtain ⟨hseconds, hnanoseconds⟩ := ts.carried_toNat
  simp only [Timestamp.value, WrTimestamp.value, Time.mk.injEq]
  omega

/-- A hardware timestamp is packed as the standard has it. -/
theorem readTime_putWrTimestamp (off : ℕ) (ts : WrTimestamp) :
    readTime (putWrTimestamp buf off ts) off = ts.value := by
  rw [← value_getTimestamp, getTimestamp_putWrTimestamp, value_carried]

/-- A response is packed as the standard has it. -/
theorem readTime_response (ts : WrTimestamp) (id : PortIdentity) :
    readTime (putPortIdentity (putWrTimestamp buf 34 ts) 44 id) 34 = ts.value := by
  rw [← value_getTimestamp, getTimestamp_response, value_carried]

theorem readIdentity_putPortIdentity (off : ℕ) (id : PortIdentity) :
    readIdentity (putPortIdentity buf off id) off = id.value := by
  rw [← value_getPortIdentity, getPortIdentity_putPortIdentity]

/-- All of an Announce message but `stepsRemoved`, whose octets are swapped, is packed as the
standard has it. -/
theorem readAnnounce_pack : readAnnounce (msgPackAnnounce buf clk port) =
    { givenAnnounce clk with
      stepsRemoved :=
        (word16 clk.stepsRemoved.toUInt8 (clk.stepsRemoved >>> 8).toUInt8).toNat } := by
  have former : MsgAnnounce := Classical.choice inferInstance
  have hzero : Timestamp.zero.value = ⟨0, 0⟩ := by decide
  have hoctets : msgPackAnnounce buf clk port 61 = clk.stepsRemoved.toUInt8 ∧
      msgPackAnnounce buf clk port 62 = (clk.stepsRemoved >>> 8).toUInt8 := by
    cases hsuffix : port.wr.wrConfig.hasAnnounceSuffix <;> simp [msgPackAnnounce, hsuffix, putWrTlv]
  rw [readAnnounce_eq _ former, PtpMessage.unpackAnnounce_pack, hoctets.1, hoctets.2]
  simp only [MsgAnnounce.value, PtpMessage.announced, hzero, givenAnnounce]

/-- A White Rabbit TLV has the fields of one. -/
theorem Tlv.IsWr.eq_wrTlv {tlv : Tlv} (h : tlv.IsWr) : tlv = wrTlv tlv.length tlv.wrMessageID := by
  obtain ⟨htype, horganization, hmagic, hversion⟩ := h
  cases tlv
  simp only at htype horganization hmagic hversion
  rw [htype, horganization, hmagic, hversion]
  rfl

theorem readTlv_length (off : ℕ) : (readTlv buf off).length = (buf.getBe16 (off + 2)).toNat :=
  beNat_two buf (off + 2)

/-- The suffix of an Announce message is packed as the standard has it. -/
theorem readSuffix_pack : readSuffix (msgPackAnnounce buf clk port) = givenSuffix port := by
  have hiff := PtpMessage.hasWrSuffix_msgPackAnnounce clk port buf
  have hlength := readTlv_length (msgPackAnnounce buf clk port) 64
  simp only [readSuffix, ← hasWrSuffix_iff, hiff, givenSuffix]
  cases hsuffix : port.wr.wrConfig.hasAnnounceSuffix
  · rfl
  · obtain ⟨-, hwr, hid⟩ := (hasWrSuffix_iff _).mp (hiff.mpr hsuffix)
    have hflags : (msgPackAnnounce buf clk port).beNat 76 2 =
        (PtpMessage.announcedFlags port.wr).toNat := by
      simp [msgPackAnnounce, hsuffix, putWrTlv, PtpMessage.announcedFlags]
    have hten : (msgPackAnnounce buf clk port).getBe16 66 = 0x0A := by
      simp [msgPackAnnounce, hsuffix, putWrTlv]
    rw [hten] at hlength
    rw [if_pos rfl, if_pos rfl, hwr.eq_wrTlv, hid, hlength, hflags]
    rfl

/-- The target of a signaling message is packed as the standard has it. -/
theorem readIdentity_wrSignaling {wrMessageID : UInt16} (h : SignalingPacked port wrMessageID) :
    readIdentity ((PackCall.wrSignaling wrMessageID).pack clk port buf) 34 =
      clk.parentPortIdentity.value := by
  have hpacked : ¬(port.wr.wrMode = .nonWr ∨ wrMessageID = ANN_SUFIX) := not_or.mpr h
  rw [← value_getPortIdentity]
  refine congrArg _ ?_
  simp only [PackCall.pack, msgPackWRSignalingMsg, if_neg hpacked, putWrTlv, putPortIdentity]
  rcases PackCall.tlvLength_cases wrMessageID with ⟨rfl, -⟩ | ⟨hne, rfl, -⟩ | ⟨hne, hne', -⟩ <;>
    simp [getPortIdentity, *]

/-- The TLV of a signaling message is packed as the standard has it. -/
theorem readTlv_wrSignaling {wrMessageID : UInt16} (h : SignalingPacked port wrMessageID) :
    readTlv ((PackCall.wrSignaling wrMessageID).pack clk port buf) 44 =
      wrTlv (PackCall.tlvLength wrMessageID).toNat wrMessageID.toNat := by
  have hpacked : ¬(port.wr.wrMode = .nonWr ∨ wrMessageID = ANN_SUFIX) := not_or.mpr h
  let buf' := (PackCall.wrSignaling wrMessageID).pack clk port buf
  have hwords : isWrTlv buf' 44 = true ∧ buf'.getBe16 46 = PackCall.tlvLength wrMessageID ∧
      buf'.getBe16 54 = wrMessageID := by
    simp only [buf', PackCall.pack, msgPackWRSignalingMsg, if_neg hpacked, putWrTlv,
      putPortIdentity]
    rcases PackCall.tlvLength_cases wrMessageID with
      ⟨rfl, hlength⟩ | ⟨hne, rfl, hlength⟩ | ⟨hne, hne', hlength⟩ <;>
      simp [isWrTlv, *] <;> decide
  obtain ⟨hwr, hlength, hid⟩ := hwords
  rw [((isWrTlv_iff_isWr buf' 44).mp hwr).eq_wrTlv, readTlv_length, readTlv_wrMessageID, hlength,
    hid]

/-- The values of a signaling message are packed as the standard has them. -/
theorem readValues_wrSignaling {wrMessageID : UInt16} (h : SignalingPacked port wrMessageID) :
    readValues ((PackCall.wrSignaling wrMessageID).pack clk port buf) wrMessageID.toNat =
      givenValues port wrMessageID := by
  have hpacked : ¬(port.wr.wrMode = .nonWr ∨ wrMessageID = ANN_SUFIX) := not_or.mpr h
  simp only [PackCall.pack, msgPackWRSignalingMsg, if_neg hpacked, putWrTlv, putPortIdentity,
    givenValues]
  rcases PackCall.tlvLength_cases wrMessageID with ⟨rfl, -⟩ | ⟨hne, rfl, -⟩ | ⟨hne, hne', -⟩
  · -- The retry counter and the pattern share a word.
    have hoctets := word16_octets_eq port.wr.calRetry (if port.wr.calibrated then 0x00 else 0x01)
    have hword : word16 port.wr.calRetry (if port.wr.calibrated then 0x00 else 0x01) =
        port.wr.calRetry.toUInt16 <<< 8 ||| (if port.wr.calibrated then 0x0000 else 0x0001) := by
      cases port.wr.calibrated <;> rfl
    rw [hword] at hoctets
    rw [readValues_calibrate]
    simp [putBe16_fst, putBe16_snd, hoctets, apply_ite UInt8.toNat]
  · rw [readValues_calibrated]
    simp [hne]
  · have hvalues : wrMessageID.toNat ≠ 0x1003 ∧ wrMessageID.toNat ≠ 0x1004 :=
      ⟨fun h => hne (UInt16.toNat_inj.mp h), fun h => hne' (UInt16.toNat_inj.mp h)⟩
    simp only [readValues, hvalues, hne, hne', if_false]

/-- A signaling message is packed as the standard has it. -/
theorem readSignaling_pack {wrMessageID : UInt16} (h : SignalingPacked port wrMessageID) :
    readSignaling ((PackCall.wrSignaling wrMessageID).pack clk port buf) =
      some (wrTlv ((PackCall.wrSignaling wrMessageID).length port - 48) wrMessageID.toNat,
        givenValues port wrMessageID) := by
  have hwr : ∀ length id, (wrTlv length id).IsWr := fun _ _ => ⟨rfl, rfl, rfl, rfl⟩
  have hlength : (PackCall.wrSignaling wrMessageID).length port - 48 =
      (PackCall.tlvLength wrMessageID).toNat := by
    rw [PackCall.length, if_pos h]
    exact Nat.add_sub_cancel_left _ _
  simp only [readSignaling, readTlv_wrSignaling clk port buf h, hwr, if_true, hlength]
  rw [wrTlv, readValues_wrSignaling clk port buf h]

/-- The body of a message other than Announce is packed as the standard has it. -/
theorem readBody_pack (c : PackCall) (h : 0 < c.length port) (hne : c ≠ .message .announce) :
    readBody (c.pack clk port buf) (c.fields port).messageType.toNat = givenBody clk port c := by
  cases c with
  | message m =>
    have htime : ∀ (b : Buffer) ts, readTime (putTimestamp b 34 ts) 34 = ts.value := fun b ts => by
      rw [← value_getTimestamp, getTimestamp_putTimestamp]
    cases m with
    | announce => exact absurd rfl hne
    | sync ts => exact congrArg Body.sync (htime _ ts)
    | followUp => exact congrArg Body.followUp (readTime_putWrTimestamp _ 34 _)
    | delayReq ts => exact congrArg Body.delayReq (htime _ ts)
    | delayResp header =>
      exact congrArg₂ Body.delayResp (readTime_response _ _ _) (readIdentity_putPortIdentity _ 44 _)
    | pdelayReq ts =>
      -- The packer also clears the ten octets behind the time stamp.
      refine congrArg Body.pdelayReq (Eq.trans ?_ (htime buf ts))
      rw [← value_getTimestamp, ← value_getTimestamp]
      simp [PackCall.pack, PtpMessage.pack, msgPackPDelayReq, getTimestamp, putTimestamp]
    | pdelayResp header =>
      exact congrArg₂ Body.pdelayResp (readTime_response _ _ _)
        (readIdentity_putPortIdentity _ 44 _)
    | pdelayRespFollowUp header =>
      exact congrArg₂ Body.pdelayRespFollowUp (readTime_response _ _ _)
        (readIdentity_putPortIdentity _ 44 _)
  | wrSignaling wrMessageID =>
    have hpacked := PackCall.signalingPacked_of_length h
    exact congrArg₂ Body.signaling (readIdentity_wrSignaling clk port buf hpacked)
      (readSignaling_pack clk port buf hpacked)

/-- An Announce message is packed as the standard has it exactly when the octets of `stepsRemoved`
are the same. -/
theorem readAnnounce_pack_iff : readAnnounce (msgPackAnnounce buf clk port) = givenAnnounce clk ↔
    clk.stepsRemoved.toUInt8 = (clk.stepsRemoved >>> 8).toUInt8 := by
  have hsteps := word16_octets clk.stepsRemoved
  rw [readAnnounce_pack]
  constructor
  · intro h
    have hnat := congrArg Announce.stepsRemoved h
    simp only [givenAnnounce, UInt16.toNat_inj] at hnat
    exact (word16_inj.mp (hnat.trans hsteps.symm)).1
  · intro h
    rw [← h] at hsteps ⊢
    simp only [hsteps, givenAnnounce]

/-- A message is packed as the standard has it exactly when it is no Announce message, or one of a
clock with equal octets in `stepsRemoved`. -/
theorem read_pack_iff (c : PackCall) (h : 0 < c.length port) :
    Wire.read (c.pack clk port (freshBuffer clk port)) = given clk port c ↔
      (c = .message .announce → clk.stepsRemoved.toUInt8 = (clk.stepsRemoved >>> 8).toUInt8) := by
  have hheader := readHeader_pack clk port c h
  have htype : (c.pack clk port (freshBuffer clk port)).beNat 0 1 % 16 =
      (c.fields port).messageType.toNat := congrArg Header.messageType hheader
  have hbody : Wire.read (c.pack clk port (freshBuffer clk port)) = given clk port c ↔
      readBody (c.pack clk port (freshBuffer clk port)) (c.fields port).messageType.toNat =
        givenBody clk port c := by
    simp only [Wire.read, given, Message.mk.injEq, hheader, htype, true_and]
  rw [hbody]
  by_cases hannounce : c = .message .announce
  · subst hannounce
    have hread : readBody ((PackCall.message .announce).pack clk port (freshBuffer clk port))
        ((PackCall.message .announce).fields port).messageType.toNat =
          .announce (readAnnounce (msgPackAnnounce (freshBuffer clk port) clk port))
            (readSuffix (msgPackAnnounce (freshBuffer clk port) clk port)) := rfl
    rw [hread, readSuffix_pack, givenBody, Body.announce.injEq, readAnnounce_pack_iff]
    simp
  · simp only [readBody_pack clk port _ c h hannounce, hannounce, false_implies]

end Packers

end Wire

/-- Packers and unpackers agree with the standard except for the octets of `stepsRemoved` in
Announce messages, which they put least significant first, and which must be the same to make no
difference; of the flags in the suffix of an Announce message they read the second octet only. -/
theorem wireFormat_iff (clk : PtpClockDS) (port : PtpPortDS) (c : PackCall) (buf : Buffer) :
    ((0 < c.length port →
        Wire.read (c.pack clk port (freshBuffer clk port)) = Wire.given clk port c) ↔
      (c = .message .announce →
        clk.stepsRemoved.toUInt8 = (clk.stepsRemoved >>> 8).toUInt8)) ∧
    ((Wire.read buf).ReadFrom buf ↔
      (buf.beNat 0 1 % 16 = 0xB → buf 61 = buf 62 ∧ (HasWrSuffix buf → buf 76 = 0))) := by
  refine ⟨?_, Wire.readFrom_read_iff buf⟩
  by_cases hlength : 0 < c.length port
  · simp only [hlength, forall_true_left]
    exact Wire.read_pack_iff clk port c hlength
  · have hne : c ≠ .message .announce := by
      rintro rfl
      exact hlength (PtpMessage.length_pos port .announce)
    simp [hlength, hne]

/-- A clock one step away from its grandmaster announces 256 steps, and takes one step in an
Announce message for 256. -/
theorem not_forall_wireFormat :
    (¬∀ (clk : PtpClockDS) (port : PtpPortDS) (c : PackCall), 0 < c.length port →
        Wire.read (c.pack clk port (freshBuffer clk port)) = Wire.given clk port c) ∧
      ¬∀ buf : Buffer, (Wire.read buf).ReadFrom buf := by
  constructor
  · intro h
    let clk : PtpClockDS := { (default : PtpClockDS) with stepsRemoved := 1 }
    have hlength : 0 < (PackCall.message .announce).length syncedPort :=
      PtpMessage.length_pos syncedPort .announce
    have hpack := h clk syncedPort (.message .announce) hlength
    have hoctets := (Wire.read_pack_iff clk syncedPort (.message .announce) hlength).mp hpack rfl
    exact absurd hoctets (by decide)
  · intro h
    have hread := h (((freshBuffer default syncedPort).set 0 0x0B).putBe16 2 64 |>.putBe16 61 1)
    exact absurd ((Wire.readFrom_read_iff _).mp hread (by decide +kernel)).1 (by decide)

end WhiteRabbitPtp
