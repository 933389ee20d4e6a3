import WhiteRabbitPtp.Correctness.WireFormat
import WhiteRabbitPtp.Correctness.Transitions

/-!
# Signaling messages and the delays they carry

The two ends of a link exchange White Rabbit signaling messages. What one end packs is what the
other one unpacks, and a message that is not one of White Rabbit is ignored. The fixed delays of the
master reach the servo of the slave this way: they are scaled where the hardware reports them, sent
in four words, and put together again by the servo.

## Main definitions

* `WrPortDS.informed`: the data of a port after a signaling message of another port.
* `Converts`: a port scales a delay reported by its hardware.

## Main results

* `signaling_codec`: packing and unpacking of signaling messages.
* `fixedDelays_reach_servo`: the servo has the delays that the hardware of both ends reported.
-/

namespace WhiteRabbitPtp

open Octets Buffer Wire

/-! ### Packing and unpacking -/

/-- The White Rabbit data of a port that has received a signaling message of the port `sender`: the
identifier is kept, and what the message carries is taken over. -/
def WrPortDS.informed (wr sender : WrPortDS) (wrMessageID : UInt16) : WrPortDS :=
  let wr := { wr with msgTmpWrMessageID := wrMessageID }
  if wrMessageID = CALIBRATE then
    { wr with
      otherNodeCalSendPattern := if sender.calibrated then 0 else 1
      otherNodeCalRetry := sender.calRetry
      otherNodeCalPeriod := sender.calPeriod }
  else if wrMessageID = CALIBRATED then
    { wr with otherNodeDeltaTx := sender.deltaTx, otherNodeDeltaRx := sender.deltaRx }
  else wr

@[simp]
theorem WrPortDS.informed_calibrated (wr sender : WrPortDS) : wr.informed sender CALIBRATED =
    { wr with
      msgTmpWrMessageID := CALIBRATED
      otherNodeDeltaTx := sender.deltaTx
      otherNodeDeltaRx := sender.deltaRx } := by
  rw [WrPortDS.informed, if_neg (by decide), if_pos rfl]

section Codec

variable (clk : PtpClockDS) (port : PtpPortDS) (buf : Buffer) (wr : WrPortDS)

/-- The TLV of a signaling message is recognized. -/
theorem isWrTlv_wrSignaling {wrMessageID : UInt16} (h : SignalingPacked port wrMessageID) :
    isWrTlv (msgPackWRSignalingMsg buf clk port wrMessageID).1 44 = true := by
  apply (isWrTlv_iff_isWr _ 44).mpr
  have htlv := readTlv_wrSignaling clk port buf h
  rw [PackCall.pack] at htlv
  rw [htlv]
  exact ⟨rfl, rfl, rfl, rfl⟩

/-- The identifier of a signaling message. -/
theorem getBe16_wrSignaling {wrMessageID : UInt16} (h : SignalingPacked port wrMessageID) :
    (msgPackWRSignalingMsg buf clk port wrMessageID).1.getBe16 54 = wrMessageID := by
  have hpacked : ¬(port.wr.wrMode = .nonWr ∨ wrMessageID = ANN_SUFIX) := not_or.mpr h
  simp only [msgPackWRSignalingMsg, if_neg hpacked, putWrTlv, putPortIdentity]
  split_ifs <;> simp

/-- The words behind the identifier of a `CALIBRATE` message. -/
theorem getBe_calibrate (h : port.wr.wrMode ≠ .nonWr) :
    let packed := (msgPackWRSignalingMsg buf clk port CALIBRATE).1
    packed.getBe16 56 =
        word16 port.wr.calRetry (if port.wr.calibrated then 0x00 else 0x01) ∧
      packed.getBe32 58 = port.wr.calPeriod := by
  have hpacked : ¬(port.wr.wrMode = .nonWr ∨ CALIBRATE = ANN_SUFIX) := not_or.mpr ⟨h, by decide⟩
  -- The retries are the high octet of the word, the pattern is the low one.
  have hword : port.wr.calRetry.toUInt16 <<< 8 ||| (if port.wr.calibrated then 0x0000 else 0x0001) =
      word16 port.wr.calRetry (if port.wr.calibrated then 0x00 else 0x01) := by
    cases port.wr.calibrated <;> rfl
  simp only [msgPackWRSignalingMsg, if_neg hpacked, if_true, hword]
  constructor <;> simp

/-- The words behind the identifier of a `CALIBRATED` message. -/
theorem getBe32_calibrated (h : port.wr.wrMode ≠ .nonWr) :
    let packed := (msgPackWRSignalingMsg buf clk port CALIBRATED).1
    (⟨⟨packed.getBe32 60, packed.getBe32 56⟩⟩ : FixedDelta) = port.wr.deltaTx ∧
      (⟨⟨packed.getBe32 68, packed.getBe32 64⟩⟩ : FixedDelta) = port.wr.deltaRx := by
  have hpacked : ¬(port.wr.wrMode = .nonWr ∨ CALIBRATED = ANN_SUFIX) := not_or.mpr ⟨h, by decide⟩
  have hne : ¬CALIBRATED = CALIBRATE := by decide
  simp only [msgPackWRSignalingMsg, if_neg hpacked, if_neg hne, if_true]
  constructor <;> simp

/-- The pattern and the retries are taken out of the word they share. -/
theorem calibrate_word (hi lo : UInt8) :
    (0x00FF : UInt16) &&& word16 hi lo = lo.toUInt16 ∧ (word16 hi lo >>> 8).toUInt8 = hi := by
  constructor
  · apply UInt16.toNat_inj.mp
    rw [versionNumber_eq, toNat_word16]
    simp
  · apply UInt8.toNat_inj.mp
    rw [UInt16.toNat_toUInt8, toNat_word16_shiftRight]
    exact Nat.mod_eq_of_lt hi.toNat_lt

/-- What a port packs into a signaling message, another port takes out of it. -/
theorem msgUnpackWRSignalingMsg_pack {wrMessageID : UInt16} (h : SignalingPacked port wrMessageID) :
    msgUnpackWRSignalingMsg (msgPackWRSignalingMsg buf clk port wrMessageID).1 wr =
      (clk.parentPortIdentity, wr.informed port.wr wrMessageID) := by
  have hpacked : ¬(port.wr.wrMode = .nonWr ∨ wrMessageID = ANN_SUFIX) := not_or.mpr h
  have hwr := isWrTlv_wrSignaling clk port buf h
  have htarget : getPortIdentity (msgPackWRSignalingMsg buf clk port wrMessageID).1 34 =
      clk.parentPortIdentity := by
    simp only [msgPackWRSignalingMsg, if_neg hpacked, putWrTlv, putPortIdentity]
    split_ifs <;> simp [getPortIdentity]
  have hid := getBe16_wrSignaling clk port buf h
  simp only [msgUnpackWRSignalingMsg, hwr, if_true, htarget, hid, WrPortDS.informed]
  by_cases hcalibrate : wrMessageID = CALIBRATE
  · subst hcalibrate
    obtain ⟨hword, hperiod⟩ := getBe_calibrate clk port buf h.1
    obtain ⟨hpattern, hretry⟩ :=
      calibrate_word port.wr.calRetry (if port.wr.calibrated then 0x00 else 0x01)
    simp only [if_true, hword, hperiod, hpattern, hretry]
    cases port.wr.calibrated <;> rfl
  · by_cases hcalibrated : wrMessageID = CALIBRATED
    · subst hcalibrated
      obtain ⟨htx, hrx⟩ := getBe32_calibrated clk port buf h.1
      simp only [if_neg hcalibrate, if_true, htx, hrx]
    · simp only [if_neg hcalibrate, if_neg hcalibrated]

/-- The octets of a message reach as far as the words that are read from it. -/
theorem length_wrSignaling {wrMessageID : UInt16} (h : SignalingPacked port wrMessageID) :
    (msgPackWRSignalingMsg buf clk port wrMessageID).2.toNat =
      WR_SIGNALING_MSG_BASE_LENGTH + (PackCall.tlvLength wrMessageID).toNat := by
  have hpacked : ¬(port.wr.wrMode = .nonWr ∨ wrMessageID = ANN_SUFIX) := not_or.mpr h
  simp only [msgPackWRSignalingMsg, if_neg hpacked]
  rcases PackCall.tlvLength_cases wrMessageID with
    ⟨hid, hlength⟩ | ⟨hne, hid, hlength⟩ | ⟨hne, hne', hlength⟩
  · subst hid
    rw [hlength]
    rfl
  · subst hid
    rw [hlength]
    rfl
  · simp only [hne, hne', hlength, if_false]
    rfl

/-- Unpacking reads no further than the message reaches. -/
theorem msgUnpackWRSignalingMsg_load_octets (msgIbuf : Buffer) {length : ℕ} (h : 56 ≤ length)
    (hcalibrate : buf.getBe16 54 = CALIBRATE → 62 ≤ length)
    (hcalibrated : buf.getBe16 54 = CALIBRATED → 72 ≤ length) :
    msgUnpackWRSignalingMsg (msgIbuf.load (buf.octets length)) wr =
      msgUnpackWRSignalingMsg buf wr := by
  have hread : ∀ off, off + 2 ≤ length →
      (msgIbuf.load (buf.octets length)).getBe16 off = buf.getBe16 off :=
    fun off => getBe16_load_octets buf msgIbuf off length
  simp (disch := omega) only [msgUnpackWRSignalingMsg, isWrTlv, getPortIdentity, hread,
    read_load_octets]
  by_cases hid : buf.getBe16 54 = CALIBRATE
  · have hlong := hcalibrate hid
    simp (disch := omega) only [hid, if_true, hread, getBe32_load_octets]
  · by_cases hid' : buf.getBe16 54 = CALIBRATED
    · have hlong := hcalibrated hid'
      have hne : ¬CALIBRATED = CALIBRATE := by decide
      simp (disch := omega) only [hid', if_neg hne, if_true, getBe32_load_octets]
    · simp only [if_neg hid, if_neg hid']

/-- A received frame is unpacked to what was packed into it, whatever the buffer held before. -/
theorem msgUnpackWRSignalingMsg_frame (msgIbuf : Buffer) {wrMessageID : UInt16}
    (h : SignalingPacked port wrMessageID) :
    let packed := msgPackWRSignalingMsg buf clk port wrMessageID
    msgUnpackWRSignalingMsg (msgIbuf.load (packed.1.octets packed.2.toNat)) wr =
      (clk.parentPortIdentity, wr.informed port.wr wrMessageID) := by
  have hunpack := msgUnpackWRSignalingMsg_pack clk port buf wr h
  have hlength := length_wrSignaling clk port buf h
  have hid := getBe16_wrSignaling clk port buf h
  generalize msgPackWRSignalingMsg buf clk port wrMessageID = packed at *
  dsimp only
  -- The length of the TLV tells how far the message reaches.
  have htlv : ∀ id, wrMessageID = id → packed.2.toNat = 48 + (PackCall.tlvLength id).toNat :=
    fun id hid => by rw [hlength, hid]
  rw [msgUnpackWRSignalingMsg_load_octets _ wr msgIbuf, hunpack]
  · rcases PackCall.tlvLength_cases wrMessageID with ⟨-, h⟩ | ⟨-, -, h⟩ | ⟨-, -, h⟩ <;>
      rw [hlength, h] <;> decide
  · exact fun h => le_of_le_of_eq (by decide) (htlv CALIBRATE (hid.symm.trans h)).symm
  · exact fun h => le_of_le_of_eq (by decide) (htlv CALIBRATED (hid.symm.trans h)).symm

end Codec

/-- A signaling message is unpacked to what was packed: its target, its identifier and the data of
the sender it carries, and nothing else of the receiving port changes. A TLV of another type,
organization, magic number or version changes nothing at all. -/
theorem signaling_codec (clk : PtpClockDS) (buf : Buffer) (wr : WrPortDS) :
    (∀ (port : PtpPortDS) (wrMessageID : UInt16), port.wr.wrMode ≠ .nonWr →
      wrMessageID ≠ ANN_SUFIX →
      msgUnpackWRSignalingMsg (msgPackWRSignalingMsg buf clk port wrMessageID).1 wr =
        (clk.parentPortIdentity, wr.informed port.wr wrMessageID)) ∧
    ((readTlv buf 44).tlvType ≠ 0x0003 ∨ (readTlv buf 44).organizationID ≠ 0x080030 ∨
        (readTlv buf 44).magicNumber ≠ 0xDEAD ∨ (readTlv buf 44).versionNumber ≠ 1 →
      (msgUnpackWRSignalingMsg buf wr).2 = wr) := by
  refine ⟨fun port _ hmode hid => msgUnpackWRSignalingMsg_pack clk port buf wr ⟨hmode, hid⟩, ?_⟩
  intro hother
  have hwr : isWrTlv buf 44 ≠ true := fun h => by
    obtain ⟨htype, horganization, hmagic, hversion⟩ := (isWrTlv_iff_isWr buf 44).mp h
    simp [htype, horganization, hmagic, hversion] at hother
  simp only [msgUnpackWRSignalingMsg, if_neg hwr]

/-- A master that is to be calibrated. -/
def calibratingMaster : PtpPortDS :=
  { (Daemon.singleNode ![2, 0, 0, 0, 0, 1] .wrMaster).port with
    wr.wrMode := .wrMaster
    wr.calibrated := false
    wr.calRetry := 3
    wr.calPeriod := 3000 }

/-- The request of that master is understood, and its own buffer holds no TLV before. -/
theorem signaling_codec_calibratingMaster (wr : WrPortDS) :
    msgUnpackWRSignalingMsg
        (msgPackWRSignalingMsg (fun _ => 0) default calibratingMaster CALIBRATE).1 wr =
      ((default : PtpClockDS).parentPortIdentity, wr.informed calibratingMaster.wr CALIBRATE) ∧
    (msgUnpackWRSignalingMsg (fun _ => 0) wr).2 = wr :=
  ⟨(signaling_codec default (fun _ => 0) wr).1 calibratingMaster CALIBRATE (by decide) (by decide),
    (signaling_codec default (fun _ => 0) wr).2 (.inl (by decide))⟩

/-! ### Fixed delays -/

/-- A delay of the port itself. -/
def WrPortDS.delta (wr : WrPortDS) : TxRx → FixedDelta
  | .tx => wr.deltaTx
  | .rx => wr.deltaRx

/-- A delay among the calibration data. -/
def CalibrationData.delta (data : CalibrationData) : TxRx → UInt64
  | .tx => data.deltaTx
  | .rx => data.deltaRx

/-- The part of the chain of substates that polls a calibration, from its `case` label on. -/
def doCalibrationPoll (rtOpts : RunTimeOpts) : TxRx → Node → Node
  | .tx => doCalibration2 rtOpts
  | .rx => doCalibration6 rtOpts

/-- The node after a port has converted a delay that its hardware reported. -/
inductive Converts (rtOpts : RunTimeOpts) (txrx : TxRx) (delta : UInt64) : Node → Prop
  /-- A port without calibration reads its delays when it initializes its data. -/
  | read {n : Node} {data : CalibrationData} (mode : InitMode) :
      n.port.wr.phyCalibrationRequired = false → n.answer .readCalibrationData = data →
      data.delta txrx = delta → Converts rtOpts txrx delta (initWrData mode n)
  /-- A calibration has come to its end. -/
  | poll {n : Node} : n.answer (.calibratingPoll txrx) = some delta →
      Converts rtOpts txrx delta (doCalibrationPoll rtOpts txrx n)

section Conversion

variable (rtOpts : RunTimeOpts)

/-- An attempt keeps what the rest of its chain keeps. -/
theorem attempt_keeps {α : Type} {f : Node → α} {next : WrState} {continuation : Node → Node}
    (hset : ∀ m : Node, f { m with port.wr.wrPortState := next } = f m)
    (h : ∀ m : Node, m.port.wr.wrPortState = next → f (continuation m) = f m) (ok : Bool)
    (n : Node) : f (attempt ok next continuation n) = f n := by
  unfold attempt
  split
  · rw [h _ rfl, hset]
  · rfl

/-- Sending the delays keeps them. -/
theorem doCalibration8_delta (txrx : TxRx) {n : Node} (h : n.port.wr.wrPortState = .calibration8) :
    (doCalibration8 rtOpts n).port.wr.delta txrx = n.port.wr.delta txrx := by
  have hrun : n.port.wr.wrPortState ≠ .idle := by rw [h]; decide
  obtain ⟨hwr, -⟩ := issueWRSignalingMsg_running rtOpts n hrun CALIBRATED
  obtain ⟨⟨s, -, hmoved⟩, -⟩ := toWRState_wr rtOpts (issueWRSignalingMsg CALIBRATED rtOpts n)
    (by rw [hwr]; exact hrun) (show WrState.calibrated.mainState = .calibrated from rfl)
  unfold doCalibration8
  dsimp only
  rw [hmoved, hwr]
  cases txrx <;> rfl

theorem doCalibration7_delta (txrx : TxRx) (n : Node) :
    (doCalibration7 rtOpts n).port.wr.delta txrx = n.port.wr.delta txrx :=
  attempt_keeps (f := fun m => m.port.wr.delta txrx) (fun _ => by cases txrx <;> rfl)
    (fun _ => doCalibration8_delta rtOpts txrx) _ _

/-- The second poll keeps the delay that the first one reported. -/
theorem doCalibration6_deltaTx (n : Node) :
    (doCalibration6 rtOpts n).port.wr.deltaTx = n.port.wr.deltaTx := by
  unfold doCalibration6
  dsimp only
  split
  · exact doCalibration7_delta rtOpts .tx _
  · rfl

theorem doCalibration5_deltaTx (n : Node) :
    (doCalibration5 rtOpts n).port.wr.deltaTx = n.port.wr.deltaTx :=
  attempt_keeps (f := fun m => m.port.wr.deltaTx) (fun _ => rfl)
    (fun m _ => doCalibration6_deltaTx rtOpts m) _ _

theorem doCalibration4_deltaTx (n : Node) :
    (doCalibration4 rtOpts n).port.wr.deltaTx = n.port.wr.deltaTx :=
  attempt_keeps (f := fun m => m.port.wr.deltaTx) (fun _ => rfl)
    (fun m _ => doCalibration5_deltaTx rtOpts m) _ _

theorem doCalibration3_deltaTx (n : Node) :
    (doCalibration3 rtOpts n).port.wr.deltaTx = n.port.wr.deltaTx :=
  attempt_keeps (f := fun m => m.port.wr.deltaTx) (fun _ => rfl)
    (fun m _ => doCalibration4_deltaTx rtOpts m) _ _

/-- A port has the delays that it converted, in their scaled form. -/
theorem Converts.delta_eq {txrx : TxRx} {delta : UInt64} {n : Node}
    (h : Converts rtOpts txrx delta n) : n.port.wr.delta txrx = .ofPicos delta := by
  cases h with
  | @read n data mode hcalibration hanswer hdelta =>
    subst hdelta hanswer
    cases mode <;> cases txrx <;> simp [initWrData, hcalibration, WrPortDS.delta] <;> rfl
  | @poll n hanswer =>
    cases txrx with
    | tx =>
      simp only [doCalibrationPoll, doCalibration2, hanswer]
      exact doCalibration3_deltaTx rtOpts _
    | rx =>
      simp only [doCalibrationPoll, doCalibration6, hanswer]
      exact doCalibration7_delta rtOpts .rx _

end Conversion

/-- The servo takes out of the scaled form what was put into it. -/
theorem FixedDelta.toPicos_ofPicos {delta : UInt64} (h : delta.toNat < 2 ^ 31) :
    (FixedDelta.ofPicos delta).toPicos = delta.toNat := by
  -- `ofPicos` cuts the product with `2 ^ 16` into two words, which are put together again.
  have hmask : ∀ x : UInt64, ((0xFFFFFFFF : UInt64) &&& x).toUInt32.toNat = x.toNat % 2 ^ 32 := by
    intro x
    rw [UInt64.toNat_toUInt32, UInt64.toNat_and, Nat.and_comm]
    have hlow := Nat.and_two_pow_sub_one_eq_mod x.toNat 32
    rw [show (0xFFFFFFFF : UInt64).toNat = 2 ^ 32 - 1 from rfl, hlow, Nat.mod_mod]
  have hlsb : (((0xFFFFFFFF : UInt64) &&& delta <<< 16).toUInt32 >>> 16).toNat =
      delta.toNat % 2 ^ 16 := by
    rw [UInt32.toNat_shiftRight, hmask, UInt64.toNat_shiftLeft]
    simp only [UInt32.reduceToNat, UInt64.reduceToNat, Nat.reduceMod, Nat.shiftLeft_eq,
      Nat.shiftRight_eq_div_pow]
    omega
  have hmsb : (((0xFFFFFFFF : UInt64) &&& delta >>> 16).toUInt32 <<< 16).toNat =
      (delta.toNat / 2 ^ 16) <<< 16 := by
    rw [UInt32.toNat_shiftLeft, hmask, UInt64.toNat_shiftRight]
    simp only [UInt32.reduceToNat, UInt64.reduceToNat, Nat.reduceMod, Nat.shiftLeft_eq,
      Nat.shiftRight_eq_div_pow]
    omega
  have hword : ((FixedDelta.ofPicos delta).scaledPicoseconds.lsb >>> 16 |||
      (FixedDelta.ofPicos delta).scaledPicoseconds.msb <<< 16).toNat = delta.toNat := by
    rw [UInt32.toNat_or]
    simp only [FixedDelta.ofPicos]
    rw [hlsb, hmsb, Nat.or_comm, ← Nat.shiftLeft_add_eq_or_of_lt (Nat.mod_lt _ (by decide)),
      Nat.shiftLeft_eq]
    omega
  rw [FixedDelta.toPicos, hword, i32, Int.bmod_def]
  omega

/-- The data of a port hold the delays that it has converted. -/
def HasDelays (rtOpts : RunTimeOpts) (wr : WrPortDS) (delta : TxRx → UInt64) : Prop :=
  ∀ txrx, ∃ n, Converts rtOpts txrx (delta txrx) n ∧ wr.delta txrx = n.port.wr.delta txrx

/-- The data of a port hold the delays of the other end from a frame it has received. -/
def HasPeerDelays (wr : WrPortDS) (frame : List UInt8) : Prop :=
  ∃ (msgIbuf : Buffer) (former : WrPortDS),
    let got := (msgUnpackWRSignalingMsg (msgIbuf.load frame) former).2
    wr.otherNodeDeltaTx = got.otherNodeDeltaTx ∧ wr.otherNodeDeltaRx = got.otherNodeDeltaRx

/-- A slave that has converted its own delays and has received the `CALIBRATED` message of a master
that has converted its own starts its servo with the delays that the hardware of both reported. -/
theorem fixedDelays_reach_servo {rtOptsM rtOptsS : RunTimeOpts} {deltaM deltaS : TxRx → UInt64}
    {clk : PtpClockDS} {buf : Buffer} {master : PtpPortDS} {slave : Node}
    (hM : ∀ txrx, (deltaM txrx).toNat < 2 ^ 31) (hS : ∀ txrx, (deltaS txrx).toNat < 2 ^ 31)
    (hmaster : HasDelays rtOptsM master.wr deltaM) (hmode : master.wr.wrMode ≠ .nonWr)
    (hslave : HasDelays rtOptsS slave.port.wr deltaS)
    (hpeer : let packed := msgPackWRSignalingMsg buf clk master CALIBRATED
      HasPeerDelays slave.port.wr (packed.1.octets packed.2.toNat))
    {data : CalibrationData} (hdata : slave.answer .readCalibrationData = data)
    (hok : data.ok = true) :
    let servo := (wrServoInit slave).port.servo
    servo.deltaTxM = (deltaM .tx).toNat ∧ servo.deltaRxM = (deltaM .rx).toNat ∧
      servo.deltaTxS = (deltaS .tx).toNat ∧ servo.deltaRxS = (deltaS .rx).toNat := by
  -- What the data of each end hold is the scaled form of what its hardware reported.
  have hscaled : ∀ {rtOpts : RunTimeOpts} {wr : WrPortDS} {delta : TxRx → UInt64},
      HasDelays rtOpts wr delta → ∀ txrx, wr.delta txrx = .ofPicos (delta txrx) := by
    intro rtOpts wr delta h txrx
    obtain ⟨n, hconverts, hkept⟩ := h txrx
    rw [hkept, hconverts.delta_eq]
  obtain ⟨msgIbuf, former, htx, hrx⟩ := hpeer
  have hpacked : SignalingPacked master CALIBRATED := ⟨hmode, by decide⟩
  rw [msgUnpackWRSignalingMsg_frame clk master buf former msgIbuf hpacked,
    WrPortDS.informed_calibrated] at htx hrx
  have htxM : slave.port.wr.otherNodeDeltaTx = .ofPicos (deltaM .tx) :=
    htx.trans (hscaled hmaster .tx)
  have hrxM : slave.port.wr.otherNodeDeltaRx = .ofPicos (deltaM .rx) :=
    hrx.trans (hscaled hmaster .rx)
  have htxS : slave.port.wr.deltaTx = .ofPicos (deltaS .tx) := hscaled hslave .tx
  have hrxS : slave.port.wr.deltaRx = .ofPicos (deltaS .rx) := hscaled hslave .rx
  have hservo : (wrServoInit slave).port.servo.deltaTxM = slave.port.wr.otherNodeDeltaTx.toPicos ∧
      (wrServoInit slave).port.servo.deltaRxM = slave.port.wr.otherNodeDeltaRx.toPicos ∧
      (wrServoInit slave).port.servo.deltaTxS = slave.port.wr.deltaTx.toPicos ∧
      (wrServoInit slave).port.servo.deltaRxS = slave.port.wr.deltaRx.toPicos := by
    simp only [wrServoInit, hdata, hok, if_true]
    exact ⟨rfl, rfl, rfl, rfl⟩
  obtain ⟨h₁, h₂, h₃, h₄⟩ := hservo
  rw [htxM, FixedDelta.toPicos_ofPicos (hM .tx)] at h₁
  rw [hrxM, FixedDelta.toPicos_ofPicos (hM .rx)] at h₂
  rw [htxS, FixedDelta.toPicos_ofPicos (hS .tx)] at h₃
  rw [hrxS, FixedDelta.toPicos_ofPicos (hS .rx)] at h₄
  exact ⟨h₁, h₂, h₃, h₄⟩

/-- A master whose calibration has come to its end, and which has sent the result. -/
def calibratedMaster : Node :=
  doCalibration2 (defaultRtOpts 1)
    { Daemon.singleNode ![2, 0, 0, 0, 0, 1] .wrMaster with
      port.wr := { calibratingMaster.wr with wrPortState := .calibration2 } }

/-- What a slave is before it initializes its data; it needs no calibration. -/
def uninitializedSlave : Node :=
  { Daemon.singleNode ![2, 0, 0, 0, 0, 2] .wrSlave with port.wr.phyCalibrationRequired := false }

/-- The slave of that master, which has received its message. -/
def informedSlave : Node :=
  let packed := msgPackWRSignalingMsg (fun _ => 0) default calibratedMaster.port CALIBRATED
  signaled { initWrData .init uninitializedSlave with
    port.msgIbuf := Buffer.load (fun _ => 0) (packed.1.octets packed.2.toNat) }

/-- The delays that the hardware of both reports. -/
def readyDelta : TxRx → UInt64
  | .tx => 1000
  | .rx => 2000

set_option maxRecDepth 100000 in
/-- Its servo starts with the delays of both. -/
theorem fixedDelays_reach_informedSlave :
    let servo := (wrServoInit informedSlave).port.servo
    servo.deltaTxM = 1000 ∧ servo.deltaRxM = 2000 ∧ servo.deltaTxS = 1000 ∧
      servo.deltaRxS = 2000 := by
  refine @fixedDelays_reach_servo (defaultRtOpts 1) (defaultRtOpts 1) readyDelta readyDelta default
    (fun _ => 0) calibratedMaster.port informedSlave (fun txrx => by cases txrx <;> decide)
    (fun txrx => by cases txrx <;> decide)
    ?_ (by decide +kernel) ?_ ⟨fun _ => 0, (initWrData .init uninitializedSlave).port.wr, rfl, rfl⟩
    ⟨true, 1000, 2000, 0, 8000⟩ rfl rfl
  · rintro (_ | _)
    · exact ⟨calibratedMaster, .poll rfl, rfl⟩
    · exact ⟨_, .poll (n := Daemon.singleNode ![2, 0, 0, 0, 0, 1] .wrMaster) rfl, by decide +kernel⟩
  · rintro (_ | _) <;>
      exact ⟨_, .read (n := uninitializedSlave) .init rfl rfl rfl, by decide +kernel⟩

end WhiteRabbitPtp
