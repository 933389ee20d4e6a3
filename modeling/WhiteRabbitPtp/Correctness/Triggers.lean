import WhiteRabbitPtp.Correctness.PortInvariants
import WhiteRabbitPtp.Correctness.Reception
import WhiteRabbitPtp.Correctness.Resync

/-!
# Transitions that messages trigger

The White Rabbit state machine looks at a register that holds the identifier of the last White
Rabbit message. The register is written when a Signaling message with a White Rabbit TLV is decoded,
and cleared at the end of most steps only; so a transition may be triggered by a message of an
earlier step.

## Main definitions

* `hearing`: the node that receives a frame in the actions of a port.
* `Triggers`: the message-triggered transitions that the actions of a port make.
* `HearsWrMessage`: the frame that is received is a White Rabbit message with a given identifier.
* `StaleLock`, `StaleSlavePresent`, `CutTrigger`: the ways in which a transition is triggered by
  something else.

## Main results

* `wrStateActions_outcomes`: a White Rabbit state that receives a frame handles it, and then makes
  at most one transition.
* `movedByReceived_iff`: all transitions are triggered by the received frame exactly in the absence
  of these.
* `not_forall_movedByReceived`: a run in which a stale message triggers a transition.
-/

namespace WhiteRabbitPtp

open Octets Buffer InputSystem

/-! ### The transitions -/

/-- The node that receives a frame in the actions of a White Rabbit state. The attempt to enable the
pattern goes on with the reception when it succeeds. -/
def wrHearing (n : Node) : Option Node :=
  match n.port.wr.wrPortState with
  | .present | .mLock | .locked | .calibrated | .respCalibReq1 => some n
  | .respCalibReq =>
    let call := Call.calibrationPatternEnable n.port.wr.otherNodeCalPeriod
    let ok : Bool := n.answer call
    if ok then some { n.called call with port.wr.wrPortState := .respCalibReq1 } else none
  | _ => none

/-- The node that receives a frame in the actions of a port. -/
def hearing (n : Node) : Option Node :=
  if RunsWr n then wrHearing n
  else
    match n.port.portState with
    | .listening => if n.port.wr.wrConfig = .wrMOnly then none else some n
    | .passive | .slave | .master | .disabled => some n
    | _ => none

/-- A master that hears of a slave starts the White Rabbit state machine. -/
def StartsMaster (k : Node) : Prop :=
  HearsSignaling k ∧ k.port.portState = .master ∧
    (signaled (received k)).port.wr.msgTmpWrMessageID = SLAVE_PRESENT ∧
    (k.port.wr.wrConfig = .wrMOnly ∨ k.port.wr.wrConfig = .wrMAndS)

/-- The transitions that a White Rabbit state makes because of what the register holds after the
frame was handled, with the node they lead to. -/
inductive WrTransition (rtOpts : RunTimeOpts) (k : Node) : UInt16 → Node → Prop
  | sLock : k.port.wr.wrPortState = .present →
      (handle rtOpts k).port.wr.msgTmpWrMessageID = LOCK →
      WrTransition rtOpts k LOCK { toWRState .sLock rtOpts (handle rtOpts k) with
        port.wr.msgTmpWrMessageID := NULL_WR_TLV }
  | calibration : k.port.wr.wrPortState = .mLock →
      (handle rtOpts k).port.wr.msgTmpWrMessageID = LOCKED →
      WrTransition rtOpts k LOCKED (toWRState .calibration rtOpts (handle rtOpts k))
  | slaveRespCalibReq : k.port.wr.wrPortState = .locked →
      (handle rtOpts k).port.wr.msgTmpWrMessageID = CALIBRATE →
      WrTransition rtOpts k CALIBRATE (toWRState .respCalibReq rtOpts (handle rtOpts k))
  | masterRespCalibReq : k.port.wr.wrPortState = .calibrated →
      (handle rtOpts k).port.wr.msgTmpWrMessageID = CALIBRATE →
      (handle rtOpts k).port.wr.wrMode = .wrMaster →
      WrTransition rtOpts k CALIBRATE (toWRState .respCalibReq rtOpts (handle rtOpts k))
  | wrLinkOn : k.port.wr.wrPortState = .calibrated →
      (handle rtOpts k).port.wr.msgTmpWrMessageID = WR_MODE_ON →
      (handle rtOpts k).port.wr.wrMode = .wrSlave →
      WrTransition rtOpts k WR_MODE_ON (toWRState .wrLinkOn rtOpts (handle rtOpts k))
  | respCalibReq2 {s : WrState} : k.port.wr.wrPortState = .respCalibReq1 →
      (handle rtOpts k).port.wr.msgTmpWrMessageID = CALIBRATED →
      s = (if (handle rtOpts k).port.wr.otherNodeCalSendPattern = 1 then .respCalibReq2
        else .respCalibReq3) →
      WrTransition rtOpts k CALIBRATED
        (doRespCalibReq2 rtOpts { handle rtOpts k with port.wr.wrPortState := s })

/-- The message-triggered transitions that the actions of a port make. -/
inductive Triggers (rtOpts : RunTimeOpts) (n : Node) : UInt16 → Prop
  | mLock {k : Node} : hearing n = some k → StartsMaster k → Triggers rtOpts n SLAVE_PRESENT
  | wr {k n' : Node} {id : UInt16} : RunsWr n → wrHearing n = some k →
      WrTransition rtOpts k id n' → Triggers rtOpts n id

section Outcomes

variable {rtOpts : RunTimeOpts} {n k n' : Node} {id : UInt16}

theorem WrTransition.register (h : WrTransition rtOpts k id n') :
    (handle rtOpts k).port.wr.msgTmpWrMessageID = id := by
  cases h with
  | sLock _ hid => exact hid
  | calibration _ hid => exact hid
  | slaveRespCalibReq _ hid => exact hid
  | masterRespCalibReq _ hid => exact hid
  | wrLinkOn _ hid => exact hid
  | respCalibReq2 _ hid => exact hid

/-- A master starts the White Rabbit state machine while it handles the frame, and not otherwise. -/
theorem handle_startsMaster (h : StartsMaster k) :
    handle rtOpts k = toWRState .mLock rtOpts (asWrMaster (signaled (received k))) := by
  obtain ⟨hhears, hmaster, hregister, hconfig⟩ := h
  rw [handle_of_hears rtOpts k hhears, handleSignaling_eq,
    if_pos ⟨by rw [received_portState, hmaster], hregister, by rwa [received_wr]⟩]

theorem doCalibrated_outcomes (h : k.port.wr.wrPortState = .calibrated) :
    doCalibrated rtOpts k = handle rtOpts k ∨
      ∃ id, WrTransition rtOpts k id (doCalibrated rtOpts k) := by
  unfold doCalibrated
  dsimp only
  by_cases hcalibrate : (handle rtOpts k).port.wr.msgTmpWrMessageID = CALIBRATE ∧
      (handle rtOpts k).port.wr.wrMode = .wrMaster
  · have hstate : (handle rtOpts k).port.wr.wrPortState = .calibrated :=
      (handle_wrPortState rtOpts k (by rw [hcalibrate.1]; decide)).trans h
    -- The request is still in the register, so the second test fails.
    have hregister : (toWRState .respCalibReq rtOpts (handle rtOpts k)).port.wr.msgTmpWrMessageID =
        CALIBRATE := by
      obtain ⟨⟨s, -, hmoved⟩, -⟩ := toWRState_wr rtOpts (handle rtOpts k) (by rw [hstate]; decide)
        (show WrState.respCalibReq.mainState = .respCalibReq from rfl)
      rw [hmoved]
      exact hcalibrate.1
    rw [if_pos hcalibrate, hregister, if_neg fun h => absurd h.1 (by decide)]
    exact .inr ⟨_, .masterRespCalibReq h hcalibrate.1 hcalibrate.2⟩
  · rw [if_neg hcalibrate]
    split
    next hon => exact .inr ⟨_, .wrLinkOn h hon.1 hon.2⟩
    next => exact .inl rfl

/-- A White Rabbit state that receives a frame handles it, and then makes at most one transition. -/
theorem wrStateActions_outcomes (h : wrHearing n = some k) :
    wrStateActions rtOpts n = handle rtOpts k ∨
      ∃ id, WrTransition rtOpts k id (wrStateActions rtOpts n) := by
  -- Two states share this one: the first goes on to it when its attempt succeeds.
  have hrequest : ∀ k : Node, k.port.wr.wrPortState = .respCalibReq1 →
      doRespCalibReq1 rtOpts k = handle rtOpts k ∨
        ∃ id, WrTransition rtOpts k id (doRespCalibReq1 rtOpts k) := by
    intro k hk
    unfold doRespCalibReq1
    dsimp only
    split
    next hid => exact .inr ⟨_, .respCalibReq2 hk hid rfl⟩
    next => exact .inl rfl
  unfold wrHearing at h
  unfold wrStateActions
  cases hstate : n.port.wr.wrPortState <;> rw [hstate] at h <;> dsimp only at h ⊢
  case present =>
    cases h
    unfold doPresent
    dsimp only
    split
    next hid => exact .inr ⟨_, .sLock hstate hid⟩
    next => exact .inl rfl
  case mLock =>
    cases h
    unfold doMLock
    dsimp only
    split
    next hid => exact .inr ⟨_, .calibration hstate hid⟩
    next => exact .inl rfl
  case locked =>
    cases h
    unfold doLocked
    dsimp only
    split
    next hid => exact .inr ⟨_, .slaveRespCalibReq hstate hid⟩
    next => exact .inl rfl
  case calibrated =>
    cases h
    exact doCalibrated_outcomes hstate
  case respCalibReq =>
    unfold doRespCalibReq attempt
    split at h
    next hok =>
      cases h
      rw [if_pos hok]
      exact hrequest _ rfl
    next => cases h
  case respCalibReq1 =>
    cases h
    exact hrequest n hstate
  all_goals cases h

/-- A White Rabbit state that receives no frame makes silent moves, and then at most one transition.
-/
theorem wrStateActions_silentRun (h : wrHearing n = none) :
    SilentRun rtOpts n (wrStateActions rtOpts n) := by
  unfold wrStateActions
  split
  next => exact .stay _ _
  next hpos => simp [wrHearing, hpos] at h
  next hpos => exact doSLock_run hpos
  next hpos => exact doSLock1_run hpos
  next hpos => exact doSLock2_run hpos
  next hpos => simp [wrHearing, hpos] at h
  next hpos => simp [wrHearing, hpos] at h
  next hpos => exact doCalibration_run hpos
  next hpos => exact doCalibration1_run hpos
  next hpos => exact doCalibration2_run hpos
  next hpos => exact doCalibration3_run hpos
  next hpos => exact doCalibration4_run hpos
  next hpos => exact doCalibration5_run hpos
  next hpos => exact doCalibration6_run hpos
  next hpos => exact doCalibration7_run hpos
  next hpos => exact doCalibration8_run hpos
  next hpos => simp [wrHearing, hpos] at h
  next hpos =>
    -- The attempt to enable the pattern has failed.
    simp only [wrHearing, hpos, ite_eq_right_iff, reduceCtorEq, imp_false] at h
    unfold doRespCalibReq attempt
    rw [if_neg h]
    exact .move (.called (by simp)) (.stay _ _)
  next hpos => simp [wrHearing, hpos] at h
  next hpos => exact doRespCalibReq2_run (.inl hpos)
  next hpos => exact doRespCalibReq3_run hpos
  next hpos => exact .of_end (.linkOn hpos)

/-- A transition that a message triggers starts from the node that has handled the message. -/
theorem WrTransition.silentRun (h : WrTransition rtOpts k id n') :
    SilentRun rtOpts (handle rtOpts k) n' := by
  have hpos (hid : id ≠ SLAVE_PRESENT) :
      (handle rtOpts k).port.wr.wrPortState = k.port.wr.wrPortState :=
    handle_wrPortState rtOpts k (by rw [h.register]; exact hid)
  cases h with
  | sLock hk hid => exact .of_end (.lock ((hpos (by decide)).trans hk) hid)
  | calibration hk hid =>
    exact .of_end (.enter (.masterCalibration ((hpos (by decide)).trans hk) hid))
  | slaveRespCalibReq hk hid =>
    exact .of_end (.enter (.slaveRespCalibReq ((hpos (by decide)).trans hk) hid))
  | masterRespCalibReq hk hid hmode =>
    exact .of_end (.enter (.masterRespCalibReq ((hpos (by decide)).trans hk) hid hmode))
  | wrLinkOn hk hid hmode =>
    exact .of_end (.enter (.slaveWrLinkOn ((hpos (by decide)).trans hk) hid hmode))
  -- The only outcome that stays in its main state, and may run on in the same call.
  | @respCalibReq2 s hk hid hs =>
    have hchoice : s = .respCalibReq2 ∨ s = .respCalibReq3 := by
      rw [hs]
      split <;> simp
    exact .move (.respond ((hpos (by decide)).trans hk) hid hchoice) (doRespCalibReq2_run hchoice)

/-- A White Rabbit state that receives a frame handles it first. -/
theorem wrStateActions_hearingRun (h : wrHearing n = some k) :
    SilentRun rtOpts (handle rtOpts k) (wrStateActions rtOpts n) := by
  have houtcomes : wrStateActions rtOpts n = handle rtOpts k ∨
      ∃ id, WrTransition rtOpts k id (wrStateActions rtOpts n) := wrStateActions_outcomes h
  rcases houtcomes with heq | ⟨id, htransition⟩
  · rw [heq]
    exact .stay _ _
  · exact htransition.silentRun

end Outcomes

/-! ### The register -/

section Register

variable {rtOpts : RunTimeOpts} {n k : Node} {id : UInt16}

/-- Whether the frame that is received next overwrites the register. -/
def Overwrites (k : Node) : Prop :=
  HearsSignaling k ∧ isWrTlv (received k).port.msgIbuf 44 = true

instance : DecidablePred Overwrites := fun k => by
  unfold Overwrites
  infer_instance

/-- The identifier where a White Rabbit TLV has it. -/
def heardId (k : Node) : UInt16 := (received k).port.msgIbuf.getBe16 54

theorem signaled_register : (signaled (received k)).port.wr.msgTmpWrMessageID =
    if isWrTlv (received k).port.msgIbuf 44 = true then heardId k
    else k.port.wr.msgTmpWrMessageID := by
  split
  next h => exact msgUnpackWRSignalingMsg_register h _
  next h =>
    simp only [signaled, msgUnpackWRSignalingMsg, if_neg h]
    rw [received_wr]

/-- Handling a Signaling message leaves in the register what was decoded. -/
theorem handle_register_of_hears (h : HearsSignaling k) :
    (handle rtOpts k).port.wr.msgTmpWrMessageID =
      (signaled (received k)).port.wr.msgTmpWrMessageID := by
  rw [handle_of_hears rtOpts k h]
  rcases handleSignaling_cases rtOpts (received k) with heq | ⟨-, heq⟩
  · rw [heq]
  · rw [heq, toWRState_mLock_register]
    rfl

/-- The register after a frame was handled. -/
theorem handle_register : (handle rtOpts k).port.wr.msgTmpWrMessageID =
    if Overwrites k then heardId k else k.port.wr.msgTmpWrMessageID := by
  by_cases hhears : HearsSignaling k
  · rw [handle_register_of_hears hhears, signaled_register]
    exact if_congr ⟨fun h => ⟨hhears, h⟩, fun h => h.2⟩ rfl rfl
  · rw [if_neg fun h => hhears h.1]
    -- No other message concerns the White Rabbit data but by a failure.
    rcases handle_cases rtOpts k with hframe | ⟨h, -⟩
    · rcases hframe.wr with hwr | ⟨-, hwr⟩ <;> rw [hwr]
    · exact absurd h hhears

/-- The frame that is received is a White Rabbit message with the given identifier. -/
def HearsWrMessage (k : Node) (id : UInt16) : Prop :=
  HearsSignaling k ∧ 56 ≤ (deliveredFrame k).length ∧
    isWrTlv (frameBuffer (deliveredFrame k)) 44 = true ∧
    (frameBuffer (deliveredFrame k)).getBe16 54 = id

/-- What is in the buffer is what was received, as far as the frame reaches. -/
theorem received_ibuf (h : HearsSignaling k) :
    (received k).port.msgIbuf = k.port.msgIbuf.load (deliveredFrame k) := by
  have hpos : 0 < (netRecvMsg k).1 := lt_of_lt_of_le (by decide) h.1
  -- A Signaling message is not empty, so the frame that was delivered is the one in the buffer.
  have hnil : deliveredFrame k ≠ [] := by
    rcases netRecvMsg_length k with hlen | ⟨hneg, -⟩
    · rintro hnil
      rw [hlen, hnil] at hpos
      exact absurd hpos (lt_irrefl _)
    · exact absurd hpos hneg.not_gt
  have hrecv := netRecvMsg_delivered k hnil k.port.msgIbuf
  rw [withIbuf_self] at hrecv
  unfold received
  rw [hrecv]
  rfl

/-- A White Rabbit message overwrites the register with its identifier, and only such a message does
unless its end is cut off. -/
theorem hearsWrMessage_iff : HearsWrMessage k id ↔
    56 ≤ (deliveredFrame k).length ∧ Overwrites k ∧ heardId k = id := by
  -- All that is compared lies in front of octet 56, where the buffer and the frame agree.
  have hequal (hhears : HearsSignaling k) (hlong : 56 ≤ (deliveredFrame k).length) :
      isWrTlv (received k).port.msgIbuf 44 = isWrTlv (frameBuffer (deliveredFrame k)) 44 ∧
        heardId k = (frameBuffer (deliveredFrame k)).getBe16 54 := by
    have hagree : ∀ i < 56, (received k).port.msgIbuf i = frameBuffer (deliveredFrame k) i := by
      intro i hi
      rw [received_ibuf hhears]
      exact load_agree (lt_of_lt_of_le hi hlong)
    refine ⟨?_, getBe16_congr fun i _ hi => hagree i hi⟩
    have hlt : ∀ p ∈ wrTlvOctets 44, p.1 < 56 := by decide
    rw [Bool.eq_iff_iff, isWrTlv_iff_octets, isWrTlv_iff_octets]
    exact forall₂_congr fun p hp => by rw [hagree p.1 (hlt p hp)]
  constructor
  · rintro ⟨hhears, hlong, htlv, hid⟩
    obtain ⟨htlv', hid'⟩ := hequal hhears hlong
    exact ⟨hlong, ⟨hhears, htlv'.trans htlv⟩, hid'.trans hid⟩
  · rintro ⟨hlong, ⟨hhears, htlv⟩, hid⟩
    obtain ⟨htlv', hid'⟩ := hequal hhears hlong
    exact ⟨hhears, hlong, htlv'.symm.trans htlv, hid'.symm.trans hid⟩

end Register

/-! ### Awaited messages -/

/-- The messages that make a port move when they are in the register after it handled a frame. -/
inductive Awaits (n : Node) : UInt16 → Prop
  | slavePresent : n.port.portState = .master →
      n.port.wr.wrConfig = .wrMOnly ∨ n.port.wr.wrConfig = .wrMAndS → Awaits n SLAVE_PRESENT
  | lock : RunsWr n → n.port.wr.wrPortState = .present → Awaits n LOCK
  | locked : RunsWr n → n.port.wr.wrPortState = .mLock → Awaits n LOCKED
  | calibrate : RunsWr n → n.port.wr.wrPortState = .locked → Awaits n CALIBRATE
  | masterCalibrate : RunsWr n → n.port.wr.wrPortState = .calibrated →
      n.port.wr.wrMode = .wrMaster → Awaits n CALIBRATE
  | wrModeOn : RunsWr n → n.port.wr.wrPortState = .calibrated →
      n.port.wr.wrMode = .wrSlave → Awaits n WR_MODE_ON
  | calibrated : RunsWr n → n.port.wr.wrPortState = .respCalibReq ∨
      n.port.wr.wrPortState = .respCalibReq1 → Awaits n CALIBRATED

section Awaits

variable {rtOpts : RunTimeOpts} {n k : Node} {id : UInt16}

/-- The node that receives a frame is the port itself, except that an attempt may have succeeded. -/
theorem wrHearing_cases (h : wrHearing n = some k) :
    n.port.wr.wrPortState ≠ .respCalibReq ∧ k = n ∨ n.port.wr.wrPortState = .respCalibReq ∧
      ∃ c, k = { n.called c with port.wr.wrPortState := .respCalibReq1 } := by
  unfold wrHearing at h
  cases hstate : n.port.wr.wrPortState <;> rw [hstate] at h <;> dsimp only at h
  case respCalibReq =>
    split at h
    next =>
      cases h
      exact .inr ⟨rfl, _, rfl⟩
    next => cases h
  case present | mLock | locked | calibrated | respCalibReq1 =>
    exact .inl ⟨by decide, (Option.some.inj h).symm⟩
  all_goals cases h

/-- A White Rabbit state makes at most silent moves before it receives a frame. -/
theorem wrHearing_moves (h : wrHearing n = some k) : Relation.ReflTransGen SilentMove n k := by
  unfold wrHearing at h
  cases hstate : n.port.wr.wrPortState <;> rw [hstate] at h <;> dsimp only at h
  case respCalibReq =>
    split at h
    next =>
      cases h
      exact .tail (.single (.called (by simp))) (.advance (by rw [Node.called_port, hstate]; rfl))
    next => cases h
  case present | mLock | locked | calibrated | respCalibReq1 => rw [Option.some.inj h]
  all_goals cases h

theorem hearing_of_runsWr (h : RunsWr n) : hearing n = wrHearing n := if_pos h

theorem hearing_cases (h : hearing n = some k) :
    k = n ∨ RunsWr n ∧ n.port.wr.wrPortState = .respCalibReq ∧
      ∃ c, k = { n.called c with port.wr.wrPortState := .respCalibReq1 } := by
  by_cases hrun : RunsWr n
  · rw [hearing_of_runsWr hrun] at h
    exact (wrHearing_cases h).imp And.right fun hk => ⟨hrun, hk⟩
  · rw [hearing, if_neg hrun] at h
    refine .inl ?_
    -- Outside of the White Rabbit state machine a port receives in the state it is in.
    cases hstate : n.port.portState <;> rw [hstate] at h <;> dsimp only at h
    case listening =>
      split at h
      next => cases h
      next => exact (Option.some.inj h).symm
    case passive | slave | master | disabled => exact (Option.some.inj h).symm
    all_goals cases h

/-- What the node that receives a frame shares with the port. -/
theorem hearing_eq (h : hearing n = some k) :
    k.port.wr.msgTmpWrMessageID = n.port.wr.msgTmpWrMessageID ∧
      k.port.portState = n.port.portState ∧ k.port.wr.wrConfig = n.port.wr.wrConfig ∧
      k.port.wr.wrMode = n.port.wr.wrMode := by
  rcases hearing_cases h with rfl | ⟨-, -, c, rfl⟩ <;> exact ⟨rfl, rfl, rfl, rfl⟩

variable (rtOpts k) in
/-- Handling a frame keeps the mode of a running state machine unless it is started anew. -/
theorem handle_wrMode (hrun : k.port.wr.wrPortState ≠ .idle)
    (h : (handle rtOpts k).port.wr.msgTmpWrMessageID ≠ SLAVE_PRESENT) :
    (handle rtOpts k).port.wr.wrMode = k.port.wr.wrMode := by
  rcases handle_cases rtOpts k with hframe | ⟨-, heq⟩
  · rw [(hframe.eq_of_running hrun).1]
  rcases handleSignaling_cases rtOpts (received k) with hsig | ⟨⟨-, hregister, -⟩, hsig⟩
  · rw [heq, hsig, signaled_wr, received_wr]
  · -- Only a master that is asked to set the link up changes its mode.
    rw [heq, hsig, toWRState_mLock_register] at h
    exact absurd hregister h

theorem wrHearing_wrPortState (h : wrHearing n = some k) :
    n.port.wr.wrPortState ≠ .respCalibReq ∧ k.port.wr.wrPortState = n.port.wr.wrPortState ∨
      n.port.wr.wrPortState = .respCalibReq ∧ k.port.wr.wrPortState = .respCalibReq1 := by
  rcases wrHearing_cases h with ⟨hn, rfl⟩ | ⟨hn, c, rfl⟩
  · exact .inl ⟨hn, rfl⟩
  · exact .inr ⟨hn, rfl⟩

/-- A transition of a White Rabbit state is one that the port awaits. -/
theorem WrTransition.awaits {n' : Node} (hrun : RunsWr n) (hk : wrHearing n = some k)
    (h : WrTransition rtOpts k id n') : Awaits n id ∧ id ≠ SLAVE_PRESENT := by
  have hmode := (hearing_eq ((hearing_of_runsWr hrun).trans hk)).2.2.2
  -- An attempt that succeeds moves the port to `WRS_RESP_CALIB_REQ_1` and to no other state.
  have hstate : ∀ s, s ≠ .respCalibReq1 → k.port.wr.wrPortState = s →
      n.port.wr.wrPortState = s := by
    intro s hs hpos
    rcases wrHearing_wrPortState hk with ⟨-, heq⟩ | ⟨-, hpos'⟩
    · exact heq.symm.trans hpos
    · exact absurd (hpos.symm.trans hpos') hs
  have hkept := handle_wrMode rtOpts k
  cases h with
  | sLock hpos => exact ⟨.lock hrun (hstate _ (by decide) hpos), by decide⟩
  | calibration hpos => exact ⟨.locked hrun (hstate _ (by decide) hpos), by decide⟩
  | slaveRespCalibReq hpos => exact ⟨.calibrate hrun (hstate _ (by decide) hpos), by decide⟩
  | masterRespCalibReq hpos hid hmaster =>
    have hkept := hkept (by rw [hpos]; decide) (by rw [hid]; decide)
    exact ⟨.masterCalibrate hrun (hstate _ (by decide) hpos)
      (hmode.symm.trans (hkept.symm.trans hmaster)), by decide⟩
  | wrLinkOn hpos hid hslave =>
    have hkept := hkept (by rw [hpos]; decide) (by rw [hid]; decide)
    exact ⟨.wrModeOn hrun (hstate _ (by decide) hpos)
      (hmode.symm.trans (hkept.symm.trans hslave)), by decide⟩
  | respCalibReq2 hpos =>
    refine ⟨.calibrated hrun ?_, by decide⟩
    rcases wrHearing_wrPortState hk with ⟨-, heq⟩ | ⟨hn, -⟩
    · exact .inr (heq.symm.trans hpos)
    · exact .inl hn

/-- A transition is triggered when the register has what the port awaits. -/
theorem triggers_iff : Triggers rtOpts n id ↔ Awaits n id ∧ ∃ k, hearing n = some k ∧
    (handle rtOpts k).port.wr.msgTmpWrMessageID = id ∧
    (id = SLAVE_PRESENT → HearsSignaling k) := by
  constructor
  · rintro (⟨hk, hstarts⟩ | ⟨hrun, hk, htransition⟩)
    · obtain ⟨-, hstate, hconfig, -⟩ := hearing_eq hk
      refine ⟨.slavePresent (hstate ▸ hstarts.2.1) (hconfig ▸ hstarts.2.2.2), _, hk, ?_,
        fun _ => hstarts.1⟩
      exact (handle_register_of_hears hstarts.1).trans hstarts.2.2.1
    · obtain ⟨hawaits, hid⟩ := htransition.awaits hrun hk
      exact ⟨hawaits, _, (hearing_of_runsWr hrun).trans hk, htransition.register,
        fun h => absurd h hid⟩
  · rintro ⟨hawaits, k, hk, hid, hhears⟩
    -- Only in `WRS_RESP_CALIB_REQ` is the node changed before the frame is handled.
    have hself : n.port.wr.wrPortState ≠ .respCalibReq → k = n := fun hpos => by
      rcases hearing_cases hk with heq | ⟨-, hpos', -⟩
      · exact heq
      · exact absurd hpos' hpos
    have hmode := (hearing_eq hk).2.2.2
    have hkept := handle_wrMode rtOpts k
    cases hawaits with
    | slavePresent hmaster hconfig =>
      obtain ⟨-, hstate, hconfig', -⟩ := hearing_eq hk
      exact .mLock hk ⟨hhears rfl, hstate.trans hmaster,
        (handle_register_of_hears (hhears rfl)).symm.trans hid, hconfig'.symm ▸ hconfig⟩
    | lock hrun hpos =>
      obtain rfl := hself (by rw [hpos]; decide)
      exact .wr hrun ((hearing_of_runsWr hrun).symm.trans hk) (.sLock hpos hid)
    | locked hrun hpos =>
      obtain rfl := hself (by rw [hpos]; decide)
      exact .wr hrun ((hearing_of_runsWr hrun).symm.trans hk) (.calibration hpos hid)
    | calibrate hrun hpos =>
      obtain rfl := hself (by rw [hpos]; decide)
      exact .wr hrun ((hearing_of_runsWr hrun).symm.trans hk) (.slaveRespCalibReq hpos hid)
    -- The mode, which the source reads after the frame was handled, is the one before.
    | masterCalibrate hrun hpos hmaster =>
      obtain rfl := hself (by rw [hpos]; decide)
      have hkept := hkept (by rw [hpos]; decide) (by rw [hid]; decide)
      exact .wr hrun ((hearing_of_runsWr hrun).symm.trans hk)
        (.masterRespCalibReq hpos hid (hkept.trans hmaster))
    | wrModeOn hrun hpos hslave =>
      obtain rfl := hself (by rw [hpos]; decide)
      have hkept := hkept (by rw [hpos]; decide) (by rw [hid]; decide)
      exact .wr hrun ((hearing_of_runsWr hrun).symm.trans hk)
        (.wrLinkOn hpos hid (hkept.trans hslave))
    | calibrated hrun hpos =>
      have hk' := (hearing_of_runsWr hrun).symm.trans hk
      refine .wr hrun hk' (.respCalibReq2 ?_ hid rfl)
      rcases wrHearing_wrPortState hk' with ⟨hn, heq⟩ | ⟨-, hpos'⟩
      · exact heq.trans (hpos.resolve_left hn)
      · exact hpos'

end Awaits

/-! ### What the register may hold -/

/-- While the White Rabbit state machine is running, a port that is not faulty is in a state that
runs it, and from its second state on the register is cleared or has what started it. -/
structure Cleared (port : PtpPortDS) : Prop where
  driven : Interlock port ∨ port.portState = .faulty
  register : port.wr.wrPortState ≠ .idle → port.wr.wrPortState ≠ .present →
    port.wr.msgTmpWrMessageID = NULL_WR_TLV ∨ port.wr.msgTmpWrMessageID = SLAVE_PRESENT

section Cleared

variable {rtOpts : RunTimeOpts} {n : Node}

theorem Cleared.of_idle {port : PtpPortDS} (h : port.wr.wrPortState = .idle) : Cleared port :=
  ⟨.inl (.of_idle h), fun hrun => absurd h hrun⟩

/-- A transition from a state in which the White Rabbit state machine is idle may start it as a
slave. -/
theorem toState_idle_or_present (hidle : n.port.wr.wrPortState = .idle) (state : PtpState) :
    (toState state rtOpts n).port.wr.wrPortState = .idle ∨
      (toState state rtOpts n).port.wr.wrPortState = .present := by
  by_cases hstate : state = .uncalibrated
  · subst hstate
    rcases toState_uncalibrated_cases rtOpts hidle with ⟨-, hpresent, -⟩ | ⟨-, hstopped, -⟩
    · exact .inr hpresent
    · exact .inl hstopped
  · exact .inl (toState_idle hidle hstate)

/-- A state decision leaves the White Rabbit state machine idle or in its first state. -/
theorem stateDecision_cleared (bestForeign : ForeignMasterRecord) (h : Cleared n.port) :
    Cleared (stateDecision rtOpts bestForeign n).port := by
  by_cases hdecides : n.port.portState.decides = true ∧ n.clk.globalStateDecisionEvent = true ∧
      n.port.wr.wrPortState = .idle
  · refine ⟨.inl (stateDecision_interlock bestForeign (.of_idle hdecides.2.2)), ?_⟩
    have hidle : (bmc bestForeign (deciding n)).2.port.wr.wrPortState = .idle := by
      rw [(bmc_decided (deciding n) bestForeign).wr]
      exact hdecides.2.2
    rw [stateDecision_of rtOpts n bestForeign hdecides]
    generalize bmc bestForeign (deciding n) = decision at hidle ⊢
    -- A decision starts the state machine in `WRS_PRESENT`, or not at all.
    have hstart : (followRecommendation rtOpts decision.1 decision.2).port.wr.wrPortState = .idle ∨
        (followRecommendation rtOpts decision.1 decision.2).port.wr.wrPortState = .present := by
      rcases followRecommendation_cases rtOpts decision.2 decision.1 with heq | ⟨s, heq⟩ | heq <;>
        rw [heq]
      · exact .inl hidle
      · exact toState_idle_or_present hidle s
      · refine toState_idle_or_present ?_ _
        exact hidle
    intro hrun hpresent
    exact (hstart.elim hrun hpresent).elim
  · rwa [stateDecision_of_not rtOpts n bestForeign hdecides]

/-- A master that starts the White Rabbit state machine keeps the message that started it. -/
theorem doMasterActions_register (hidle : n.port.wr.wrPortState = .idle)
    (hrun : (doMasterActions rtOpts n).port.wr.wrPortState ≠ .idle) :
    (doMasterActions rtOpts n).port.wr.msgTmpWrMessageID = SLAVE_PRESENT := by
  have htimers := masterTimers_wrFrame rtOpts (handle rtOpts n)
  rw [doMasterActions_eq] at hrun ⊢
  dsimp only at hrun ⊢
  -- The timers and the transition leave a running state machine alone, so the frame started it.
  have hrunning : (masterTimers rtOpts (handle rtOpts n)).port.wr.wrPortState ≠ .idle := by
    intro hstopped
    refine hrun ?_
    split
    · exact toState_idle hstopped (by decide)
    · exact hstopped
  rw [toState_running rtOpts _ hrunning, ite_self]
  rw [htimers.wrPortState] at hrunning
  rw [(htimers.eq_of_running hrunning).1]
  by_contra hother
  exact hrunning ((handle_wrPortState rtOpts n hother).trans hidle)

/-- The actions of a port clear the register, unless they start the White Rabbit state machine or do
not run it. -/
theorem doStateActions_register (hinterlock : Interlock n.port) (h : Cleared n.port)
    (hrun : (doStateActions rtOpts n).port.wr.wrPortState ≠ .idle)
    (hpresent : (doStateActions rtOpts n).port.wr.wrPortState ≠ .present) :
    (doStateActions rtOpts n).port.wr.msgTmpWrMessageID = NULL_WR_TLV ∨
      (doStateActions rtOpts n).port.wr.msgTmpWrMessageID = SLAVE_PRESENT := by
  unfold doStateActions at *
  cases hstate : n.port.portState <;> simp only [hstate] at hrun hpresent ⊢
  case faulty =>
    have hidle := hinterlock.idle (by simp [hstate]) (by simp [hstate])
    exact absurd (toState_idle hidle (by decide)) hrun
  case uncalibrated => exact .inl trivial
  case listening =>
    have hidle := hinterlock.idle (by simp [hstate]) (by simp [hstate])
    refine absurd ?_ hrun
    split
    · refine toState_idle ?_ (by decide)
      rw [(m1_decided n).wr]
      exact hidle
    · exact doSlaveActions_idle hidle (by simp [hstate])
  case passive | slave =>
    have hidle := hinterlock.idle (by simp [hstate]) (by simp [hstate])
    exact absurd (doSlaveActions_idle hidle (by simp [hstate])) hrun
  case master =>
    split
    · exact .inl rfl
    next hother =>
      have hidle : n.port.wr.wrPortState = .idle := by
        -- A master that runs the state machine is a White Rabbit master, and has its own case.
        by_contra hrunning
        rcases hinterlock hrunning with ⟨hs, -⟩ | ⟨-, hmode⟩
        · rw [hstate] at hs
          cases hs
        · exact hother ⟨hmode, hrunning⟩
      rw [if_neg hother] at hrun
      exact .inr (doMasterActions_register hidle hrun)
  case disabled =>
    have hidle := hinterlock.idle (by simp [hstate]) (by simp [hstate])
    exact absurd (handle_idle hidle (by simp [hstate])) hrun
  case initializing | preMaster => exact h.register hrun hpresent

/-- The actions of a port keep the register cleared. -/
theorem doStateActions_cleared (h : Cleared n.port) : Cleared (doStateActions rtOpts n).port := by
  rcases h.driven with hinterlock | hfaulty
  · constructor
    · by_cases hfails : SetupFails n
      · exact .inr (hfails.doStateActions_faulty rtOpts).1
      · exact .inl (doStateActions_interlock hinterlock hfails)
    · exact doStateActions_register hinterlock h
  · -- A port that fails only tries to initialize itself.
    have heq : doStateActions rtOpts n = toState .initializing rtOpts n := by
      unfold doStateActions
      rw [hfaulty]
    rw [heq]
    by_cases hidle : n.port.wr.wrPortState = .idle
    · exact .of_idle (toState_idle hidle (by decide))
    · rwa [toState_running rtOpts n hidle]

end Cleared

/-- The register is cleared in every run. -/
theorem cleared_invariant (rtOpts : RunTimeOpts) :
    PortInvariant rtOpts (fun _ _ => True) Cleared where
  link {d i o} _ _ hd hready := by
    rcases linked_cases rtOpts (d.node i o) with hinit | hkept
    · exact .of_idle hinit.wrPortState
    · obtain ⟨port, hport, heq⟩ := hkept.port
      rw [heq] at hready ⊢
      rcases hport with rfl | rfl
      · exact ⟨(hd hready).driven, (hd hready).register⟩
      · exact ⟨(hd hready).driven, (hd hready).register⟩
  decide _ _ _ h := stateDecision_cleared _ h
  act _ _ _ h := doStateActions_cleared h
  search _ h := ⟨h.driven, h.register⟩

/-! ### Messages of an earlier step -/

/-- A slave that waits to be locked finds an old request in the register. -/
def StaleLock (n : Node) : Prop :=
  Awaits n LOCK ∧ n.port.wr.msgTmpWrMessageID = LOCK ∧ ¬Overwrites n

/-- A master receives a Signaling message without a White Rabbit TLV and finds an old message of a
slave in the register. -/
def StaleSlavePresent (n : Node) : Prop :=
  Awaits n SLAVE_PRESENT ∧ n.port.wr.msgTmpWrMessageID = SLAVE_PRESENT ∧
    ∃ k, hearing n = some k ∧ HearsSignaling k ∧ ¬Overwrites k

/-- A port receives a Signaling message that ends before its identifier, and what an older frame
left in the buffer makes it an awaited one. -/
def CutTrigger (n : Node) : Prop :=
  ∃ k, hearing n = some k ∧ (deliveredFrame k).length < 56 ∧ Overwrites k ∧ Awaits n (heardId k)

/-- Every message-triggered transition of the actions of a port is triggered by the frame that is
received in them. -/
def MovedByReceived (rtOpts : RunTimeOpts) (n : Node) : Prop :=
  ∀ id, Triggers rtOpts n id → ∃ k, hearing n = some k ∧ HearsWrMessage k id

section Moved

variable {rtOpts : RunTimeOpts} {n k : Node} {id : UInt16}

/-- Only two messages may be found in the register when a frame is received. -/
theorem Cleared.stale (h : Cleared n.port) (hid : n.port.wr.msgTmpWrMessageID = id)
    (hawaits : Awaits n id) : id = LOCK ∨ id = SLAVE_PRESENT := by
  -- Beyond the first state the register has been cleared since the state machine was started.
  have hnull : ∀ s, n.port.wr.wrPortState = s → s ≠ .idle → s ≠ .present →
      id = NULL_WR_TLV ∨ id = SLAVE_PRESENT := by
    rintro s hs hidle hpresent
    rw [← hid]
    exact h.register (hs ▸ hidle) (hs ▸ hpresent)
  cases hawaits with
  | slavePresent => exact .inr rfl
  | lock => exact .inl rfl
  | locked _ hpos => exact absurd (hnull _ hpos (by decide) (by decide)) (by decide)
  | calibrate _ hpos => exact absurd (hnull _ hpos (by decide) (by decide)) (by decide)
  | masterCalibrate _ hpos => exact absurd (hnull _ hpos (by decide) (by decide)) (by decide)
  | wrModeOn _ hpos => exact absurd (hnull _ hpos (by decide) (by decide)) (by decide)
  | calibrated _ hpos =>
    rcases hpos with hpos | hpos
    · exact absurd (hnull _ hpos (by decide) (by decide)) (by decide)
    · exact absurd (hnull _ hpos (by decide) (by decide)) (by decide)

/-- A slave that waits to be locked receives frames itself. -/
theorem Awaits.hearing_lock (h : Awaits n LOCK) : hearing n = some n := by
  generalize hid : LOCK = id at h
  cases h with
  | lock hrun hpos =>
    rw [hearing_of_runsWr hrun]
    unfold wrHearing
    rw [hpos]
  | _ => exact absurd hid (by decide)

/-- A transition that is not triggered by the received frame is of one of three kinds. -/
theorem MovedByReceived.of_not (h : Cleared n.port) (hlock : ¬StaleLock n)
    (hpresent : ¬StaleSlavePresent n) (hcut : ¬CutTrigger n) : MovedByReceived rtOpts n := by
  intro id htriggers
  obtain ⟨hawaits, k, hk, hid, hhears⟩ := triggers_iff.mp htriggers
  refine ⟨k, hk, hearsWrMessage_iff.mpr ?_⟩
  rw [handle_register] at hid
  -- Either the frame is in the register, or what is there is older than the frame.
  by_cases hoverwrites : Overwrites k
  · rw [if_pos hoverwrites] at hid
    refine ⟨?_, hoverwrites, hid⟩
    by_contra hshort
    exact hcut ⟨k, hk, not_le.mp hshort, hoverwrites, hid.symm ▸ hawaits⟩
  · rw [if_neg hoverwrites, (hearing_eq hk).1] at hid
    rcases h.stale hid hawaits with rfl | rfl
    · obtain rfl : n = k := Option.some.inj (hawaits.hearing_lock.symm.trans hk)
      exact absurd ⟨hawaits, hid, hoverwrites⟩ hlock
    · exact absurd ⟨hawaits, hid, k, hk, hhears rfl, hoverwrites⟩ hpresent

theorem StaleLock.not_movedByReceived (h : StaleLock n) : ¬MovedByReceived rtOpts n := by
  obtain ⟨hawaits, hid, hoverwrites⟩ := h
  have hk := hawaits.hearing_lock
  intro hmoved
  obtain ⟨k, hk', hhears⟩ := hmoved LOCK (triggers_iff.mpr ⟨hawaits, n, hk,
    by rw [handle_register, if_neg hoverwrites, hid], fun h => absurd h (by decide)⟩)
  obtain rfl : n = k := Option.some.inj (hk.symm.trans hk')
  exact hoverwrites (hearsWrMessage_iff.mp hhears).2.1

theorem StaleSlavePresent.not_movedByReceived (h : StaleSlavePresent n) :
    ¬MovedByReceived rtOpts n := by
  obtain ⟨hawaits, hid, k, hk, hsignaling, hoverwrites⟩ := h
  intro hmoved
  obtain ⟨k', hk', hhears⟩ := hmoved SLAVE_PRESENT (triggers_iff.mpr ⟨hawaits, k, hk,
    by rw [handle_register, if_neg hoverwrites, (hearing_eq hk).1, hid], fun _ => hsignaling⟩)
  obtain rfl : k = k' := Option.some.inj (hk.symm.trans hk')
  exact hoverwrites (hearsWrMessage_iff.mp hhears).2.1

theorem CutTrigger.not_movedByReceived (h : CutTrigger n) : ¬MovedByReceived rtOpts n := by
  obtain ⟨k, hk, hshort, hoverwrites, hawaits⟩ := h
  intro hmoved
  obtain ⟨k', hk', hhears⟩ := hmoved (heardId k) (triggers_iff.mpr ⟨hawaits, k, hk,
    by rw [handle_register, if_pos hoverwrites], fun _ => hoverwrites.1⟩)
  obtain rfl : k = k' := Option.some.inj (hk.symm.trans hk')
  exact absurd (hearsWrMessage_iff.mp hhears).1 (not_le.mpr hshort)

/-- In every run, the transitions of a step are triggered by the frame received in it exactly when
the step finds no awaited message in the register and completes none from the buffer. -/
theorem movedByReceived_iff (rtOpts : RunTimeOpts) {d : Daemon} {i : ℕ} (o : Oracle)
    (h : Daemon.Reachable rtOpts d) (hphase : d.phase = .act i) :
    MovedByReceived rtOpts (d.node i o) ↔ ¬StaleLock (d.node i o) ∧
      ¬StaleSlavePresent (d.node i o) ∧ ¬CutTrigger (d.node i o) := by
  have hready : (d.ports i).Ready := (Daemon.Reachable.prepared h).deciding i (.inr hphase)
  have hcleared : Cleared (d.node i o).port := (cleared_invariant rtOpts).holds h i hready
  constructor
  · -- Each of the three kinds is a transition without a message.
    intro hmoved
    exact ⟨fun h => h.not_movedByReceived hmoved, fun h => h.not_movedByReceived hmoved,
      fun h => h.not_movedByReceived hmoved⟩
  · rintro ⟨hlock, hpresent, hcut⟩
    exact .of_not hcleared hlock hpresent hcut

end Moved

/-! ### A request that is too old -/

/-- A slave-only port hears a request to lock while it is listening; an iteration later an Announce
message of the same master makes it a candidate for a slave, and it is about to act. -/
def staleState : Daemon :=
  runInputs (Daemon.step (defaultRtOpts 1)) (Daemon.single ![2, 0, 0, 0, 0, 1])
    (slaveIteration (some (masterFrame LOCK)) ++ slaveIteration (some masterAnnounce) ++
      (slaveIteration none).take 2)

/-- The port of this clock, when it receives a frame or nothing. -/
def staleNode (reception : Reception) : Node :=
  staleState.node 0 (.ready true .wrSlave reception 64 0)

set_option maxRecDepth 100000 in
theorem staleState_awaits (reception : Reception) : staleState.phase = .act 0 ∧
    Awaits (staleNode reception) LOCK ∧
    (staleNode reception).port.wr.msgTmpWrMessageID = LOCK := by
  have h : staleState.phase = .act 0 ∧ (staleState.ports 0).portState = .uncalibrated ∧
      (staleState.ports 0).wr.wrMode = .wrSlave ∧ (staleState.ports 0).wr.wrPortState = .present ∧
      (staleState.ports 0).wr.msgTmpWrMessageID = LOCK := by
    decide +kernel
  obtain ⟨hphase, hstate, hmode, hpos, hid⟩ := h
  exact ⟨hphase, .lock (.inl ⟨hstate, hmode⟩) hpos, hid⟩

set_option maxRecDepth 100000 in
/-- When the request is repeated, it is this frame that the port follows. -/
theorem movedByReceived_staleNode : MovedByReceived (defaultRtOpts 1)
    (staleNode (.frame ![0x01, 0x1b, 0x19, 0, 0, 0] (masterFrame LOCK) ⟨0, 0, 0, 1⟩)) := by
  obtain ⟨hphase, hawaits, -⟩ :=
    staleState_awaits (.frame ![0x01, 0x1b, 0x19, 0, 0, 0] (masterFrame LOCK) ⟨0, 0, 0, 1⟩)
  refine (movedByReceived_iff (defaultRtOpts 1) _ (Daemon.single_reachable _ _) hphase).mpr
    ⟨fun h => h.2.2 ?_, fun h => absurd h.2.1 ?_, ?_⟩
  · decide +kernel
  · decide +kernel
  · rintro ⟨k, hk, hshort, -⟩
    obtain rfl : _ = k := Option.some.inj (hawaits.hearing_lock.symm.trans hk)
    exact absurd hshort (by decide +kernel)

set_option maxRecDepth 100000 in
/-- A port that receives nothing follows the old request. -/
theorem staleNode_staleLock : StaleLock (staleNode .nothing) := by
  obtain ⟨-, hawaits, hid⟩ := staleState_awaits .nothing
  exact ⟨hawaits, hid, by decide +kernel⟩

/-- Not every transition of a run is triggered by a frame received in the same step. -/
theorem not_forall_movedByReceived :
    ¬∀ (rtOpts : RunTimeOpts) (d : Daemon) (i : ℕ) (o : Oracle), Daemon.Reachable rtOpts d →
      d.phase = .act i → MovedByReceived rtOpts (d.node i o) := by
  intro h
  exact staleNode_staleLock.not_movedByReceived (h (defaultRtOpts 1) staleState 0 _
    (Daemon.single_reachable _ _) (staleState_awaits .nothing).1)

end WhiteRabbitPtp
