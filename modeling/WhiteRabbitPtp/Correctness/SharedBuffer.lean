import WhiteRabbitPtp.Correctness.RoundTrip
import Mathlib.Tactic.FinCases

/-!
# What earlier messages leave in a message

All messages of a port are packed into one buffer, which is filled with `msgPackHeader` once. A
packer does not write every octet of its message: what the calls before it left in the others is
sent along.

## Main definitions

* `Leftover`: what the calls so far left in the octets that some packer does not write.
* `PackCall.leave`, `leftovers`: what one call, and a sequence of calls, leaves there.
* `PackCall.Hides`: two leftovers make no difference for the message of a call.
* `PackCall.packed`: the message of a call.

## Main results

* `Leaves.packAll`: the buffer after any sequence of calls.
* `packed_eq_iff`: after two sequences of calls the next message is the same exactly when they
  leave the same in the octets its packer does not write.
* `not_forall_packed_eq`: an Announce message after a DelayResp message.
-/

namespace WhiteRabbitPtp

open Octets Buffer

/-! ### What a call leaves -/

/-- What the calls so far left in the octets that some packer does not write: header fields, octet
46, and octets 62 to 67. -/
structure Leftover where
  domainNumber : UInt8
  correctionfield : Integer64
  sequenceId : UInt16
  logMessageInterval : Int8
  reserved : UInt8
  tail : OctetString 6

/-- A call of a packer with the data sets it reads. -/
structure PackEvent where
  call : PackCall
  clk : PtpClockDS
  port : PtpPortDS

namespace PackCall

/-- What a call writes to octet 46, which is reserved in an Announce message. -/
def reserved? : PackCall → Option UInt8
  | message (.delayResp header) | message (.pdelayResp header)
  | message (.pdelayRespFollowUp header) => some (header.sourcePortIdentity.clockIdentity 2)
  | message (.pdelayReq _) | wrSignaling _ => some 0
  | message (.sync _) | message .followUp | message (.delayReq _) | message .announce => none

/-- What a call writes to octets 62 to 67, which belong to the value of a `CALIBRATE` message but
are not written by its packer. -/
def tail? (clk : PtpClockDS) (port : PtpPortDS) : PackCall → Fin 6 → Option UInt8
  | message .announce =>
    let suffix (x : UInt8) := if port.wr.wrConfig.hasAnnounceSuffix then some x else none
    ![some (clk.stepsRemoved >>> 8).toUInt8, some clk.timeSource, suffix 0x00, suffix 0x03,
      suffix 0x00, suffix 0x0A]
  | wrSignaling wrMessageID =>
    if wrMessageID = CALIBRATED then
      let tx := port.wr.deltaTx.scaledPicoseconds.lsb
      let rx := port.wr.deltaRx.scaledPicoseconds.msb
      ![some (tx >>> 8).toUInt8, some tx.toUInt8, some (rx >>> 24).toUInt8,
        some (rx >>> 16).toUInt8, some (rx >>> 8).toUInt8, some rx.toUInt8]
    else fun _ => none
  | _ => fun _ => none

/-- What is left after a call; one that packs nothing changes nothing. -/
def leave (clk : PtpClockDS) (port : PtpPortDS) (l : Leftover) (c : PackCall) : Leftover :=
  if 0 < c.length port then
    { domainNumber := (c.fields port).domainNumber.getD l.domainNumber
      correctionfield := (c.fields port).correctionfield.getD l.correctionfield
      sequenceId := (c.fields port).sequenceId.getD l.sequenceId
      logMessageInterval := (c.fields port).logMessageInterval.getD l.logMessageInterval
      reserved := c.reserved?.getD l.reserved
      tail := fun k => (c.tail? clk port k).getD (l.tail k) }
  else l

/-- Two leftovers do not make a difference for the message of a call: they agree in what its packer
does not write. -/
structure Hides (port : PtpPortDS) (c : PackCall) (l l' : Leftover) : Prop where
  domainNumber : (c.fields port).domainNumber = none → l.domainNumber = l'.domainNumber
  correctionfield : (c.fields port).correctionfield = none → l.correctionfield = l'.correctionfield
  sequenceId : (c.fields port).sequenceId = none → l.sequenceId = l'.sequenceId
  logMessageInterval :
    (c.fields port).logMessageInterval = none → l.logMessageInterval = l'.logMessageInterval
  reserved : c = message .announce → l.reserved = l'.reserved
  tail : c = wrSignaling CALIBRATE → l.tail = l'.tail

end PackCall

/-- What is left right after `msgPackHeader`. -/
def freshLeftover (clk : PtpClockDS) : Leftover :=
  { domainNumber := clk.domainNumber
    correctionfield := { msb := 0, lsb := 0 }
    sequenceId := 0
    logMessageInterval := 0x7F
    reserved := 0
    tail := fun _ => 0 }

/-- What is left after a sequence of calls. -/
def leftovers (clk : PtpClockDS) (events : List PackEvent) : Leftover :=
  events.foldl (fun l e => e.call.leave e.clk e.port l) (freshLeftover clk)

/-- The buffer after a sequence of calls. -/
def packAll (buf : Buffer) (events : List PackEvent) : Buffer :=
  events.foldl (fun buf e => e.call.pack e.clk e.port buf) buf

/-! ### The buffer after any sequence of calls -/

/-- A buffer in which the calls so far left something; what no packer writes is as after
`msgPackHeader`. -/
structure Leaves (fresh buf : Buffer) (l : Leftover) : Prop where
  nibble : buf 0 &&& 0xF0 = 0
  kept : ∀ i, i = 1 ∨ 5 ≤ i ∧ i < 8 ∨ 16 ≤ i ∧ i < 30 → buf i = fresh i
  domainNumber : buf 4 = l.domainNumber
  correctionfield : getCorrection buf = l.correctionfield
  sequenceId : buf.getBe16 30 = l.sequenceId
  logMessageInterval : (buf 33).toInt8 = l.logMessageInterval
  reserved : buf 46 = l.reserved
  tail : ∀ k : Fin 6, buf (62 + k) = l.tail k

section Sequence

variable {clk : PtpClockDS} {port : PtpPortDS} {fresh buf : Buffer} {l : Leftover}

/-- A PTP message leaves octet 46 and octets 62 to 67 as described. -/
theorem PtpMessage.pack_body (m : PtpMessage) :
    m.pack clk port buf 46 = (PackCall.message m).reserved?.getD (buf 46) ∧
      ∀ k : Fin 6, m.pack clk port buf (62 + k) =
        ((PackCall.message m).tail? clk port k).getD (buf (62 + k)) := by
  have hcopy : ∀ (b : Buffer) (xs : OctetString 8), b.copy 44 xs 46 = xs 2 := fun _ _ => rfl
  have hfill : ∀ b : Buffer, b.fill 44 10 0 46 = 0 := fun _ => rfl
  have hhigh : ((0x03 : UInt16) >>> 8).toUInt8 = 0 ∧ ((0x0A : UInt16) >>> 8).toUInt8 = 0 := by
    decide
  cases m
  case announce =>
    cases hsuffix : port.wr.wrConfig.hasAnnounceSuffix
    all_goals
      refine ⟨?_, fun k => ?_⟩
      · simp [pack, msgPackAnnounce, hsuffix, putWrTlv, setMessageType, PackCall.reserved?]
      · fin_cases k <;>
          simp [pack, msgPackAnnounce, hsuffix, putWrTlv, setMessageType, PackCall.tail?,
            putBe16_fst, putBe16_snd, TLV_TYPE_ORG_EXTENSION, hhigh]
  all_goals
    simp only [pack, msgPackSync, msgPackFollowUp, msgPackDelayReq, msgPackDelayResp,
      msgPackPDelayReq, msgPackPDelayResp, msgPackPDelayRespFollowUp, putTimestamp, putWrTimestamp,
      putPortIdentity]
    refine ⟨?_, fun k => ?_⟩
    · simp [setMessageType, PackCall.reserved?, hcopy, hfill]
    · simp (disch := omega) [setMessageType, PackCall.tail?]

/-- A signaling message leaves octet 46 and octets 62 to 67 as described. -/
theorem wrSignaling_body {wrMessageID : UInt16} (h : SignalingPacked port wrMessageID) :
    (PackCall.wrSignaling wrMessageID).pack clk port buf 46 = 0 ∧
      ∀ k : Fin 6, (PackCall.wrSignaling wrMessageID).pack clk port buf (62 + k) =
        ((PackCall.wrSignaling wrMessageID).tail? clk port k).getD (buf (62 + k)) := by
  have hpacked : ¬(port.wr.wrMode = .nonWr ∨ wrMessageID = ANN_SUFIX) := not_or.mpr h
  have hhigh : ((0x14 : UInt16) >>> 8).toUInt8 = 0 ∧ ((0x18 : UInt16) >>> 8).toUInt8 = 0 ∧
      ((0x08 : UInt16) >>> 8).toUInt8 = 0 := by
    decide
  simp only [PackCall.pack, msgPackWRSignalingMsg, if_neg hpacked, putWrTlv, putPortIdentity]
  rcases PackCall.tlvLength_cases wrMessageID with ⟨rfl, -⟩ | ⟨hne, rfl, -⟩ | ⟨hne, hne', -⟩
  · have hne : CALIBRATE ≠ CALIBRATED := by decide
    refine ⟨by simp [putBe16_fst, hhigh], fun k => ?_⟩
    simp (disch := omega) [setMessageType, PackCall.tail?, hne]
  · refine ⟨by simp [putBe16_fst, hne, hhigh], fun k => ?_⟩
    fin_cases k <;> simp [hne, setMessageType, PackCall.tail?, putBe32, Buffer.set]
  · refine ⟨by simp [putBe16_fst, hne, hne', hhigh], fun k => ?_⟩
    simp (disch := omega) [setMessageType, PackCall.tail?, hne, hne']

variable (clk buf) in
/-- A call that packs a message leaves octet 46 and octets 62 to 67 as described. -/
theorem PackCall.pack_body (c : PackCall) (h : 0 < c.length port) :
    c.pack clk port buf 46 = c.reserved?.getD (buf 46) ∧
      ∀ k : Fin 6, c.pack clk port buf (62 + k) = (c.tail? clk port k).getD (buf (62 + k)) := by
  cases c with
  | message m => exact m.pack_body
  | wrSignaling wrMessageID => exact wrSignaling_body (signalingPacked_of_length h)

/-- A call that packs nothing leaves the buffer alone. -/
theorem PackCall.pack_of_length (c : PackCall) (h : ¬0 < c.length port) :
    c.pack clk port buf = buf := by
  cases c with
  | message m => exact absurd (m.length_pos port) h
  | wrSignaling wrMessageID =>
    have hnot : port.wr.wrMode = .nonWr ∨ wrMessageID = ANN_SUFIX := by
      by_contra hpacked
      rw [not_or] at hpacked
      refine h ?_
      rw [length, if_pos (show SignalingPacked port wrMessageID from hpacked)]
      exact Nat.add_pos_left (by decide) _
    simp only [pack, msgPackWRSignalingMsg, if_pos hnot]

variable (clk port) in
/-- What a call leaves in the buffer. -/
theorem Leaves.pack (h : Leaves fresh buf l) (c : PackCall) :
    Leaves fresh (c.pack clk port buf) (c.leave clk port l) := by
  by_cases hlength : 0 < c.length port
  · have hpacks := c.pack_packs clk port buf hlength
    obtain ⟨hreserved, htail⟩ := c.pack_body clk buf hlength
    rw [PackCall.leave, if_pos hlength]
    exact {
      nibble := by
        rw [hpacks.messageType, setMessageType_and_high _ (c.messageType_and port), h.nibble]
      kept := fun i hi => (hpacks.kept i hi).trans (h.kept i hi)
      domainNumber := hpacks.domainNumber.trans (by rw [h.domainNumber])
      correctionfield := hpacks.correctionfield.trans (by rw [h.correctionfield])
      sequenceId := hpacks.sequenceId.trans (by rw [h.sequenceId])
      logMessageInterval := hpacks.logMessageInterval.trans (by rw [h.logMessageInterval])
      reserved := hreserved.trans (by rw [h.reserved])
      tail := fun k => (htail k).trans (by rw [h.tail]) }
  · rw [c.pack_of_length hlength, PackCall.leave, if_neg hlength]
    exact h

/-- The buffer after any sequence of calls. -/
theorem Leaves.packAll (h : Leaves fresh buf l) (events : List PackEvent) :
    Leaves fresh (packAll buf events)
      (events.foldl (fun l e => e.call.leave e.clk e.port l) l) := by
  induction events generalizing buf l with
  | nil => exact h
  | cons e events ih => exact ih (h.pack e.clk e.port e.call)

/-- The buffer before the first call. -/
theorem leaves_freshBuffer (clk : PtpClockDS) (port : PtpPortDS) :
    Leaves (freshBuffer clk port) (freshBuffer clk port) (freshLeftover clk) := by
  have hzero : Buffer.getBe16 (fun _ => 0) 30 = 0 := by decide
  constructor
  case kept => exact fun _ _ => rfl
  all_goals
    simp only [freshBuffer, msgPackHeader, freshLeftover, getCorrection]
    cases clk.twoStepFlag <;> simp (disch := omega) [hzero]

/-! ### The next message -/

/-- What the packer of a PTP message writes to its body, octet 46 of an Announce message apart. -/
theorem PtpMessage.pack_agree (m : PtpMessage) {b b' : Buffer} {i : ℕ} (hi : 34 ≤ i)
    (hi' : i < m.length port) (h : m = .announce → i = 46 → b i = b' i) :
    m.pack clk port b i = m.pack clk port b' i := by
  cases m
  case announce =>
    simp only [pack, msgPackAnnounce, putWrTlv]
    simp only [length, ANNOUNCE_LENGTH, WR_ANNOUNCE_LENGTH] at hi'
    cases hsuffix : port.wr.wrConfig.hasAnnounceSuffix <;>
      simp only [hsuffix, if_true, if_false, Bool.false_eq_true] at hi' ⊢
    case' true =>
      refine putBe16_agree fun _ => putBe16_agree fun _ => putBe16_agree fun _ =>
        putBe16_agree fun _ => putBe16_agree fun _ => putBe16_agree fun _ =>
          putBe16_agree fun _ => ?_
    -- The writes up to octet 63, the last one first; they leave out octet 46 only.
    all_goals
      refine set_agree fun _ => set_agree fun _ => set_agree fun _ => copy_agree fun _ =>
        set_agree fun _ => putBe16_agree fun _ => set_agree fun _ => set_agree fun _ =>
        set_agree fun _ => putBe16_agree fun _ => fill_agree fun _ => ?_
      have h46 : i = 46 := by omega
      subst h46
      simpa [setMessageType] using h rfl rfl
  all_goals
    simp only [pack, msgPackSync, msgPackFollowUp, msgPackDelayReq, msgPackDelayResp,
      msgPackPDelayReq, msgPackPDelayResp, msgPackPDelayRespFollowUp, putTimestamp, putWrTimestamp,
      putPortIdentity]
    simp only [length, SYNC_LENGTH, FOLLOW_UP_LENGTH, DELAY_REQ_LENGTH, DELAY_RESP_LENGTH,
      PDELAY_REQ_LENGTH, PDELAY_RESP_LENGTH, PDELAY_RESP_FOLLOW_UP_LENGTH] at hi'
  case sync => exact putBe32_agree fun _ => putBe32_agree fun _ => putBe16_agree fun _ => by omega
  case followUp =>
    exact putBe32_agree fun _ => putBe32_agree fun _ => putBe16_agree fun _ => by omega
  case delayReq =>
    exact putBe32_agree fun _ => putBe32_agree fun _ => putBe16_agree fun _ => by omega
  case pdelayReq =>
    exact fill_agree fun _ => putBe32_agree fun _ => putBe32_agree fun _ =>
      putBe16_agree fun _ => by
      omega
  all_goals
    exact putBe16_agree fun _ => copy_agree fun _ => putBe32_agree fun _ => putBe32_agree fun _ =>
      putBe16_agree fun _ => by omega

/-- What the packer of signaling messages writes to the body, octets 62 to 67 of a `CALIBRATE`
message apart. -/
theorem wrSignaling_agree {wrMessageID : UInt16} (hpacked : SignalingPacked port wrMessageID)
    {b b' : Buffer} {i : ℕ} (hi : 34 ≤ i) (hi' : i < (PackCall.wrSignaling wrMessageID).length port)
    (h : wrMessageID = CALIBRATE → 62 ≤ i ∧ i < 68 → b i = b' i) :
    (PackCall.wrSignaling wrMessageID).pack clk port b i =
      (PackCall.wrSignaling wrMessageID).pack clk port b' i := by
  have hnot : ¬(port.wr.wrMode = .nonWr ∨ wrMessageID = ANN_SUFIX) := not_or.mpr hpacked
  have hne : CALIBRATED ≠ CALIBRATE := by decide
  simp only [PackCall.pack, msgPackWRSignalingMsg, if_neg hnot, putWrTlv, putPortIdentity]
  simp only [PackCall.length, if_pos hpacked, WR_SIGNALING_MSG_BASE_LENGTH] at hi'
  rcases PackCall.tlvLength_cases wrMessageID with
    ⟨rfl, hlength⟩ | ⟨-, rfl, hlength⟩ | ⟨hne, hne', hlength⟩
  all_goals
    rw [hlength] at hi'
    simp only [UInt16.reduceToNat, Nat.reduceAdd] at hi'
  case' inl => simp only [if_true]
  case' inr.inl => simp only [if_neg hne, if_true]
  case' inr.inr => simp only [if_neg hne, if_neg hne']
  -- The two lengths are written last, then the value of the TLV.
  all_goals refine putBe16_agree fun _ => putBe16_agree fun _ => ?_
  case' inl => refine putBe32_agree fun _ => putBe16_agree fun _ => ?_
  case' inr.inl =>
    refine putBe32_agree fun _ => putBe32_agree fun _ => putBe32_agree fun _ =>
      putBe32_agree fun _ => ?_
  all_goals
    refine putBe16_agree fun _ => putBe16_agree fun _ => putBe16_agree fun _ =>
      putBe16_agree fun _ => putBe16_agree fun _ => putBe16_agree fun _ => copy_agree fun _ => ?_
  case inl =>
    simpa (disch := omega) [setMessageType] using h rfl (by omega)
  all_goals omega

/-- What a packer writes to the body of its message. -/
theorem PackCall.pack_agree (c : PackCall) {b b' : Buffer} {i : ℕ} (hi : 34 ≤ i)
    (hi' : i < c.length port) (h : c = message .announce → i = 46 → b i = b' i)
    (h' : c = wrSignaling CALIBRATE → 62 ≤ i ∧ i < 68 → b i = b' i) :
    c.pack clk port b i = c.pack clk port b' i := by
  cases c with
  | message m => exact m.pack_agree hi hi' fun hm => h (by rw [hm])
  | wrSignaling wrMessageID =>
    have hpacked := signalingPacked_of_length (Nat.lt_of_le_of_lt (Nat.zero_le i) hi')
    exact wrSignaling_agree hpacked hi hi' fun hid => h' (by rw [hid])

/-- The same octets up to a length that covers it are the same leftovers. -/
theorem Leaves.agree {b b' : Buffer} {l l' : Leftover} {n : ℕ} (hb : Leaves fresh b l)
    (hb' : Leaves fresh b' l') (h : ∀ i < n, b i = b' i) (hn : 34 ≤ n) :
    l.domainNumber = l'.domainNumber ∧ l.correctionfield = l'.correctionfield ∧
      l.sequenceId = l'.sequenceId ∧ l.logMessageInterval = l'.logMessageInterval ∧
      (47 ≤ n → l.reserved = l'.reserved) ∧ (68 ≤ n → l.tail = l'.tail) := by
  have hcorrection : getCorrection b = getCorrection b' := by
    have hmsb : b.getBe32 8 = b'.getBe32 8 := getBe32_congr fun i _ _ => h i (by omega)
    have hlsb : b.getBe32 12 = b'.getBe32 12 := getBe32_congr fun i _ _ => h i (by omega)
    rw [getCorrection, getCorrection, hmsb, hlsb]
  refine ⟨?_, ?_, ?_, ?_, fun hn => ?_, fun hn => funext fun k => ?_⟩
  · rw [← hb.domainNumber, ← hb'.domainNumber, h 4 (by omega)]
  · rw [← hb.correctionfield, ← hb'.correctionfield, hcorrection]
  · rw [← hb.sequenceId, ← hb'.sequenceId, getBe16_congr fun i _ _ => h i (by omega)]
  · rw [← hb.logMessageInterval, ← hb'.logMessageInterval, h 33 (by omega)]
  · rw [← hb.reserved, ← hb'.reserved, h 46 (by omega)]
  · rw [← hb.tail, ← hb'.tail, h _ (by omega)]

/-- What is left in two buffers makes no difference for a message when the buffers do not. -/
theorem hides_of_pack_eq {c : PackCall} {b b' : Buffer} {l l' : Leftover}
    (hlength : 0 < c.length port) (hb : Leaves fresh b l) (hb' : Leaves fresh b' l')
    (h : ∀ i < c.length port, c.pack clk port b i = c.pack clk port b' i) : c.Hides port l l' := by
  -- What the packer does not write is afterwards what it was before.
  obtain ⟨hdomain, hcorrection, hsequence, hinterval, hreserved, htail⟩ :=
    (hb.pack clk port c).agree (hb'.pack clk port c) h
      (Nat.le_trans (by decide) (c.length_bounds port hlength).1)
  simp only [PackCall.leave, if_pos hlength]
    at hdomain hcorrection hsequence hinterval hreserved htail
  constructor
  · intro hnone
    simpa [hnone] using hdomain
  · intro hnone
    simpa [hnone] using hcorrection
  · intro hnone
    simpa [hnone] using hsequence
  · intro hnone
    simpa [hnone] using hinterval
  · rintro rfl
    have hlt : 47 ≤ (PackCall.message .announce).length port := by
      simp only [PackCall.length, PtpMessage.length]
      split <;> decide
    simpa [PackCall.reserved?] using hreserved hlt
  · rintro rfl
    have hne : CALIBRATE ≠ CALIBRATED := by decide
    have hlt : 68 ≤ (PackCall.wrSignaling CALIBRATE).length port := by
      rw [PackCall.length, if_pos (PackCall.signalingPacked_of_length hlength)]
      decide
    simpa [PackCall.tail?, hne] using htail hlt

/-- The header of a message does not depend on the buffer when what is left in it does not. -/
theorem header_eq_of_hides {c : PackCall} {b b' : Buffer} {l l' : Leftover}
    (hlength : 0 < c.length port) (hb : Leaves fresh b l) (hb' : Leaves fresh b' l')
    (hides : c.Hides port l l') {i : ℕ} (hi : i < 34) :
    c.pack clk port b i = c.pack clk port b' i := by
  have hpacks := c.pack_packs clk port b hlength
  have hpacks' := c.pack_packs clk port b' hlength
  have htype : ∀ {b l}, Leaves fresh b l → ∀ type, setMessageType b type 0 = type :=
    fun h type => by
    simp [setMessageType, h.nibble]
  -- An octet that is written is the message's own or, as `hides` says, the same in both.
  have h0 : c.pack clk port b 0 = c.pack clk port b' 0 := by
    rw [hpacks.messageType, hpacks'.messageType, htype hb, htype hb']
  have h2 := getBe16_eq_iff.mp (hpacks.messageLength.trans hpacks'.messageLength.symm)
  have h4 : c.pack clk port b 4 = c.pack clk port b' 4 := by
    rw [hpacks.domainNumber, hpacks'.domainNumber, hb.domainNumber, hb'.domainNumber]
    cases hfield : (c.fields port).domainNumber
    · exact hides.domainNumber hfield
    · rfl
  have hcorrection : getCorrection (c.pack clk port b) = getCorrection (c.pack clk port b') := by
    rw [hpacks.correctionfield, hpacks'.correctionfield, hb.correctionfield, hb'.correctionfield]
    cases hfield : (c.fields port).correctionfield
    · exact hides.correctionfield hfield
    · rfl
  simp only [getCorrection, Integer64.mk.injEq] at hcorrection
  have hmsb : (c.pack clk port b).getBe32 8 = (c.pack clk port b').getBe32 8 := by
    simpa using congrArg Int32.toUInt32 hcorrection.2
  have h8 := getBe32_eq_iff.mp hmsb
  have h12 := getBe32_eq_iff.mp hcorrection.1
  have hsequence : (c.pack clk port b).getBe16 30 = (c.pack clk port b').getBe16 30 := by
    rw [hpacks.sequenceId, hpacks'.sequenceId, hb.sequenceId, hb'.sequenceId]
    cases hfield : (c.fields port).sequenceId
    · exact hides.sequenceId hfield
    · rfl
  have h30 := getBe16_eq_iff.mp hsequence
  have h32 := hpacks.controlField.trans hpacks'.controlField.symm
  have hinterval : (c.pack clk port b 33).toInt8 = (c.pack clk port b' 33).toInt8 := by
    rw [hpacks.logMessageInterval, hpacks'.logMessageInterval, hb.logMessageInterval,
      hb'.logMessageInterval]
    cases hfield : (c.fields port).logMessageInterval
    · exact hides.logMessageInterval hfield
    · rfl
  have h33 : c.pack clk port b 33 = c.pack clk port b' 33 := by
    simpa using congrArg Int8.toUInt8 hinterval
  -- The other octets are as `msgPackHeader` left them.
  by_cases hkept : i = 1 ∨ 5 ≤ i ∧ i < 8 ∨ 16 ≤ i ∧ i < 30
  · rw [hpacks.kept i hkept, hpacks'.kept i hkept, hb.kept i hkept, hb'.kept i hkept]
  · have hwritten : i = 0 ∨ i = 2 ∨ i = 3 ∨ i = 4 ∨ i = 8 ∨ i = 9 ∨ i = 10 ∨ i = 11 ∨ i = 12 ∨
        i = 13 ∨ i = 14 ∨ i = 15 ∨ i = 30 ∨ i = 31 ∨ i = 32 ∨ i = 33 := by
      omega
    rcases hwritten with rfl | rfl | rfl | rfl | rfl | rfl | rfl | rfl | rfl | rfl | rfl | rfl |
      rfl | rfl | rfl | rfl
    exacts [h0, h2.1, h2.2, h4, h8.1, h8.2.1, h8.2.2.1, h8.2.2.2, h12.1, h12.2.1, h12.2.2.1,
      h12.2.2.2, h30.1, h30.2, h32, h33]

/-- Two buffers make no difference for a message when what is left in them does not. -/
theorem pack_eq_of_hides {c : PackCall} {b b' : Buffer} {l l' : Leftover}
    (hlength : 0 < c.length port) (hb : Leaves fresh b l) (hb' : Leaves fresh b' l')
    (hides : c.Hides port l l') {i : ℕ} (hi : i < c.length port) :
    c.pack clk port b i = c.pack clk port b' i := by
  rcases Nat.lt_or_ge i 34 with hheader | hbody
  · exact header_eq_of_hides hlength hb hb' hides hheader
  · refine c.pack_agree hbody hi ?_ ?_
    · rintro hc rfl
      rw [hb.reserved, hb'.reserved, hides.reserved hc]
    · rintro hc ⟨hge, hlt⟩
      obtain ⟨k, rfl⟩ := Nat.exists_eq_add_of_le hge
      have hk := hb.tail ⟨k, by omega⟩
      have hk' := hb'.tail ⟨k, by omega⟩
      rw [hk, hk', hides.tail hc]

end Sequence

/-- The message a call packs into a buffer: the octets up to the length in its header. -/
def PackCall.packed (clk : PtpClockDS) (port : PtpPortDS) (buf : Buffer) (c : PackCall) :
    List UInt8 :=
  let buf' := c.pack clk port buf
  if 0 < c.length port then buf'.octets (buf'.getBe16 2).toNat else []

/-- The frame of a call that packs a message has the length of that message. -/
theorem PackCall.packed_of_length (clk : PtpClockDS) (port : PtpPortDS) (buf : Buffer)
    (c : PackCall) (h : 0 < c.length port) :
    c.packed clk port buf = (c.pack clk port buf).octets (c.length port) := by
  simp only [packed, if_pos h, c.messageLength_pack clk port buf h]

/-- After two sequences of calls the next message is the same exactly when they left the same in
what its packer does not write: the domain number in all messages but DelayResp and PDelayResp, the
correction in FollowUp, Announce and signaling messages, octet 46 in Announce messages, the sequence
number and the interval in signaling messages, and octets 62 to 67 in `CALIBRATE` messages. -/
theorem packed_eq_iff (clk₀ : PtpClockDS) (port₀ : PtpPortDS) (events events' : List PackEvent)
    (clk : PtpClockDS) (port : PtpPortDS) (c : PackCall) :
    c.packed clk port (packAll (freshBuffer clk₀ port₀) events) =
        c.packed clk port (packAll (freshBuffer clk₀ port₀) events') ↔
      (0 < c.length port → c.Hides port (leftovers clk₀ events) (leftovers clk₀ events')) := by
  by_cases hlength : 0 < c.length port
  · have hb := (leaves_freshBuffer clk₀ port₀).packAll events
    have hb' := (leaves_freshBuffer clk₀ port₀).packAll events'
    rw [c.packed_of_length _ _ _ hlength, c.packed_of_length _ _ _ hlength, octets, octets,
      List.map_inj_left]
    constructor
    · intro h _
      exact hides_of_pack_eq hlength hb hb' fun i hi => h i (List.mem_range.mpr hi)
    · intro hides i hi
      exact pack_eq_of_hides hlength hb hb' (hides hlength) (List.mem_range.mp hi)
  · simp [PackCall.packed, hlength]

/-- A DelayResp message leaves its correction in the Announce message that is packed after it. -/
theorem not_forall_packed_eq :
    ¬∀ (clk₀ : PtpClockDS) (port₀ : PtpPortDS) (events events' : List PackEvent) (clk : PtpClockDS)
        (port : PtpPortDS) (c : PackCall),
      c.packed clk port (packAll (freshBuffer clk₀ port₀) events) =
        c.packed clk port (packAll (freshBuffer clk₀ port₀) events') := by
  intro h
  let request : MsgHeader := msgUnpackHeader (Buffer.set (fun _ => 0) 15 8)
  have heq := h default syncedPort [⟨.message (.delayResp request), default, syncedPort⟩] [] default
    syncedPort (.message .announce)
  revert heq
  decide +kernel

end WhiteRabbitPtp
