import WhiteRabbitPtp.Correctness.Packing
import WhiteRabbitPtp.Model.MainLoop

/-!
# Decoding undoes encoding

A message that was packed into a buffer fresh from `msgPackHeader` is read back by `msgUnpackHeader`
and by the matching decoder as it was meant.

## Main definitions

* `PtpMessage.header`: the header a message is meant to have.
* `PtpMessage.BodyDecodes`: the matching decoder gives back what the packer was given.

## Main results

* `PtpMessage.unpackHeader_pack`, `PtpMessage.body_pack`: header and body of a packed message.
* `decode_encode`: both together.
-/

namespace WhiteRabbitPtp

open Octets Buffer

/-! ### Timestamps -/

/-- A hardware timestamp as a message carries it. -/
def WrTimestamp.carried (ts : WrTimestamp) : Timestamp :=
  { secondsField := { msb := UInt16.ofInt (ts.sec / 2 ^ 32), lsb := UInt32.ofInt ts.sec }
    nanosecondsField := UInt32.ofInt ts.nsec }

/-- A hardware timestamp that fits into a message. -/
def WrTimestamp.InRange (ts : WrTimestamp) : Prop :=
  0 ≤ ts.sec ∧ ts.sec < 2 ^ 48 ∧ 0 ≤ ts.nsec ∧ ts.nsec < 2 ^ 31

/-- The timestamp of a message has the value of a hardware timestamp. -/
def Timestamp.Represents (external : Timestamp) (ts : WrTimestamp) : Prop :=
  (external.secondsField.msb.toNat * 2 ^ 32 + external.secondsField.lsb.toNat : ℤ) = ts.sec ∧
    (external.nanosecondsField.toNat : ℤ) = ts.nsec

theorem toNat_uInt16_ofInt (x : ℤ) : ((UInt16.ofInt x).toNat : ℤ) = x % 2 ^ 16 := by
  have hlt : (x % 2 ^ 16).toNat < 2 ^ 16 := by omega
  rw [UInt16.ofInt, UInt16.toNat_ofNat_of_lt' hlt]
  omega

theorem toNat_uInt32_ofInt (x : ℤ) : ((UInt32.ofInt x).toNat : ℤ) = x % 2 ^ 32 := by
  have hlt : (x % 2 ^ 32).toNat < 2 ^ 32 := by omega
  rw [UInt32.ofInt, UInt32.toNat_ofNat_of_lt' hlt]
  omega

/-- A message carries the seconds of a hardware timestamp modulo `2 ^ 48`, the nanoseconds modulo
`2 ^ 32`. -/
theorem WrTimestamp.carried_toNat (ts : WrTimestamp) :
    (ts.carried.secondsField.msb.toNat * 2 ^ 32 + ts.carried.secondsField.lsb.toNat : ℤ) =
        ts.sec % 2 ^ 48 ∧
      (ts.carried.nanosecondsField.toNat : ℤ) = ts.nsec % 2 ^ 32 := by
  -- The 48 bits of the seconds are cut into 16 and 32, each taken modulo its width.
  have hmsb := toNat_uInt16_ofInt (ts.sec / 2 ^ 32)
  have hlsb := toNat_uInt32_ofInt ts.sec
  refine ⟨?_, toNat_uInt32_ofInt ts.nsec⟩
  simp only [carried]
  omega

theorem WrTimestamp.represents_carried {ts : WrTimestamp} (h : ts.InRange) :
    ts.carried.Represents ts := by
  obtain ⟨hsec, hsec', hnsec, hnsec'⟩ := h
  obtain ⟨hseconds, hnanoseconds⟩ := ts.carried_toNat
  exact ⟨by omega, by omega⟩

section Timestamps

variable (buf : Buffer) (off : ℕ)

theorem getTimestamp_putTimestamp (ts : Timestamp) :
    getTimestamp (putTimestamp buf off ts) off = ts := by
  simp (disch := omega) [getTimestamp, putTimestamp]

theorem getTimestamp_putWrTimestamp (ts : WrTimestamp) :
    getTimestamp (putWrTimestamp buf off ts) off = ts.carried := by
  simp (disch := omega) [getTimestamp, putWrTimestamp, WrTimestamp.carried]

theorem getPortIdentity_putPortIdentity (id : PortIdentity) :
    getPortIdentity (putPortIdentity buf off id) off = id := by
  simp (disch := omega) [getPortIdentity, putPortIdentity]

/-- The timestamp of a response lies in front of the identity of the requesting port. -/
theorem getTimestamp_response (ts : WrTimestamp) (id : PortIdentity) :
    getTimestamp (putPortIdentity (putWrTimestamp buf 34 ts) 44 id) 34 = ts.carried := by
  simp [getTimestamp, putPortIdentity, putWrTimestamp, WrTimestamp.carried]

theorem represents_response {ts : WrTimestamp} (h : ts.InRange) (id : PortIdentity) :
    (getTimestamp (putPortIdentity (putWrTimestamp buf 34 ts) 44 id) 34).Represents ts := by
  rw [getTimestamp_response]
  exact WrTimestamp.represents_carried h

end Timestamps

/-! ### Header -/

namespace PtpMessage

/-- The domain in a message; two of the responses take over the one of the request. -/
def domainNumber (clk : PtpClockDS) (m : PtpMessage) : UInt8 :=
  m.domainNumber?.getD clk.domainNumber

/-- The correction in a message; two of the responses take over the one of the request. -/
def correctionField (m : PtpMessage) : Integer64 :=
  m.correctionField?.getD { msb := 0, lsb := 0 }

/-- The header a message is meant to have. -/
def header (clk : PtpClockDS) (port : PtpPortDS) (m : PtpMessage) : MsgHeader :=
  { transportSpecific := 0
    messageType := m.type
    versionPTP := port.versionNumber
    messageLength := .ofNat (m.length port)
    domainNumber := m.domainNumber clk
    flagField := fun k => if k = 0 ∧ clk.twoStepFlag then TWO_STEP_FLAG else 0
    correctionfield := m.correctionField
    sourcePortIdentity := port.portIdentity
    sequenceId := m.sequenceId port
    controlField := m.controlField
    logMessageInterval := m.logMessageInterval port }

variable (clk : PtpClockDS) (port : PtpPortDS)

theorem unpackHeader_pack (m : PtpMessage) (hversion : port.versionNumber < 16) :
    msgUnpackHeader (m.pack clk port (freshBuffer clk port)) = m.header clk port := by
  -- The version shares its octet with reserved bits, so only four bits of it travel.
  have hnibble : port.versionNumber &&& 0x0F = port.versionNumber := by
    apply UInt8.toNat_inj.mp
    rw [UInt8.toNat_and]
    exact (Nat.and_two_pow_sub_one_eq_mod _ 4).trans (Nat.mod_eq_of_lt hversion)
  rw [(m.pack_packs clk port (freshBuffer clk port)).unpackHeader m.type_and,
    unpackHeader_freshBuffer, hnibble]
  rfl

/-! ### Body -/

/-- The flags in the White Rabbit suffix of an Announce message. -/
def announcedFlags (wr : WrPortDS) : UInt8 :=
  let wr_flags := wr.wrConfig.toFlags
  let wr_flags := if wr.calibrated then WR_IS_CALIBRATED ||| wr_flags else wr_flags
  if wr.wrModeON then WR_IS_WR_MODE ||| wr_flags else wr_flags

/-- What is read of an Announce message that announces the data set of the clock. -/
def announced (former : MsgAnnounce) : MsgAnnounce :=
  { originTimestamp := .zero
    currentUtcOffset := clk.currentUtcOffset
    grandmasterPriority1 := clk.grandmasterPriority1
    grandmasterClockQuality := clk.clockQuality
    grandmasterPriority2 := clk.grandmasterPriority2
    grandmasterIdentity := clk.grandmasterIdentity
    stepsRemoved := clk.stepsRemoved
    timeSource := clk.timeSource
    wrFlags :=
      if port.wr.wrConfig.hasAnnounceSuffix then announcedFlags port.wr else former.wrFlags }

/-- The matching decoder gives back what the packer of a message was given. -/
def BodyDecodes (buf : Buffer) : PtpMessage → Prop
  | sync originTimestamp => msgUnpackSync buf = originTimestamp
  | followUp => (msgUnpackFollowUp buf).Represents port.synchTxTs
  | delayReq originTimestamp => msgUnpackDelayReq buf = originTimestamp
  | delayResp header =>
    (msgUnpackDelayResp buf).receiveTimestamp.Represents port.currentRxTs ∧
      (msgUnpackDelayResp buf).requestingPortIdentity = header.sourcePortIdentity
  | pdelayReq originTimestamp => msgUnpackPDelayReq buf = originTimestamp
  | pdelayResp header =>
    (msgUnpackPDelayResp buf).receiveTimestamp.Represents port.currentRxTs ∧
      (msgUnpackPDelayResp buf).requestingPortIdentity = header.sourcePortIdentity
  | pdelayRespFollowUp header =>
    (msgUnpackPDelayRespFollowUp buf).receiveTimestamp.Represents port.pDelayRespTxTs ∧
      (msgUnpackPDelayRespFollowUp buf).requestingPortIdentity = header.sourcePortIdentity
  | announce => ∀ former, msgUnpackAnnounce buf former = announced clk port former

/-- The hardware timestamp a message carries. -/
def hardwareTimestamp? : PtpMessage → Option WrTimestamp
  | followUp => some port.synchTxTs
  | delayResp _ | pdelayResp _ => some port.currentRxTs
  | pdelayRespFollowUp _ => some port.pDelayRespTxTs
  | sync _ | delayReq _ | pdelayReq _ | announce => none

section Body

variable (buf : Buffer)

/-- A packed Announce message has a suffix when its port sends one. -/
theorem hasWrSuffix_msgPackAnnounce :
    HasWrSuffix (msgPackAnnounce buf clk port) ↔ port.wr.wrConfig.hasAnnounceSuffix = true := by
  have hlength := (pack_packs clk port buf announce).messageLength
  simp only [pack, fields, length] at hlength
  constructor
  · intro h
    -- Without a suffix the packer writes the length of a plain Announce, which the decoder tests.
    by_contra hnone
    have hlt := h.1
    rw [hlength, if_neg hnone] at hlt
    exact absurd hlt (by decide)
  · intro hsuffix
    -- The packed TLV answers each comparison that the decoder makes.
    refine ⟨by rw [hlength, if_pos hsuffix]; decide, ?_, ?_⟩
    · rw [isWrTlv_iff]
      simp [msgPackAnnounce, hsuffix, putWrTlv, putBe16, Buffer.set]
      decide
    · simp [msgPackAnnounce, hsuffix, putWrTlv]

/-- A packed Announce message is read as the data set it was packed from. -/
theorem unpackAnnounce_pack (former : MsgAnnounce) :
    msgUnpackAnnounce (msgPackAnnounce buf clk port) former = announced clk port former := by
  have hiff := hasWrSuffix_msgPackAnnounce clk port buf
  simp only [msgUnpackAnnounce_eq, hiff]
  -- With a suffix all flags come from the message, without one they stay as they were.
  cases hsuffix : port.wr.wrConfig.hasAnnounceSuffix <;>
    simp [msgPackAnnounce, hsuffix, putWrTlv, announced, getTimestamp, octets_word16,
      Timestamp.zero, announcedFlags, -UInt16.toUInt16_toUInt8]

/-- The body of a packed message is read as it was meant. -/
theorem body_pack (m : PtpMessage)
    (hrange : ∀ ts, m.hardwareTimestamp? port = some ts → ts.InRange) :
    m.BodyDecodes clk port (m.pack clk port buf) := by
  cases m with
  | announce => exact unpackAnnounce_pack clk port buf
  | sync ts => exact getTimestamp_putTimestamp _ _ _
  | delayReq ts => exact getTimestamp_putTimestamp _ _ _
  -- A PDelayReq has a reserved field of its own behind the time.
  | pdelayReq ts =>
    simp [BodyDecodes, pack, msgPackPDelayReq, msgUnpackPDelayReq, getTimestamp, putTimestamp]
  | followUp =>
    have hcarried : msgUnpackFollowUp (followUp.pack clk port buf) = port.synchTxTs.carried :=
      getTimestamp_putWrTimestamp _ _ _
    rw [BodyDecodes, hcarried]
    exact WrTimestamp.represents_carried (hrange _ rfl)
  | delayResp header | pdelayResp header | pdelayRespFollowUp header =>
    exact ⟨represents_response _ (hrange _ rfl) _, getPortIdentity_putPortIdentity _ _ _⟩

end Body

end PtpMessage

/-- Decoding undoes encoding: of a message that was packed right after the header, the decoders read
the header and the body it was meant to have. -/
theorem decode_encode (clk : PtpClockDS) (port : PtpPortDS) (m : PtpMessage)
    (hversion : port.versionNumber < 16)
    (hrange : ∀ ts, m.hardwareTimestamp? port = some ts → ts.InRange) :
    msgUnpackHeader (m.pack clk port (freshBuffer clk port)) = m.header clk port ∧
      m.BodyDecodes clk port (m.pack clk port (freshBuffer clk port)) :=
  ⟨m.unpackHeader_pack clk port hversion, m.body_pack clk port _ hrange⟩

/-- The port of a clock with one port whose last Sync message was sent at a given time. -/
def syncedPort : PtpPortDS :=
  { (Daemon.singleNode ![2, 0, 0, 0, 0, 1] .wrMaster).port with
    synchTxTs := { sec := 2 ^ 40 + 5, nsec := 999999992, phase := 0, correct := 1 } }

/-- A FollowUp message carries that time, beyond the 32 low bits of the seconds. -/
theorem decode_encode_syncedPort :
    msgUnpackHeader (PtpMessage.followUp.pack default syncedPort (freshBuffer default syncedPort)) =
        PtpMessage.followUp.header default syncedPort ∧
      (msgUnpackFollowUp (PtpMessage.followUp.pack default syncedPort
        (freshBuffer default syncedPort))).Represents syncedPort.synchTxTs :=
  decode_encode default syncedPort .followUp (by decide +kernel)
    (by rintro ts ⟨⟩; exact ⟨by decide, by decide, by decide, by decide⟩)

end WhiteRabbitPtp
