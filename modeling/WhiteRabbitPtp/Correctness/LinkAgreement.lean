import WhiteRabbitPtp.Correctness.Interlock
import WhiteRabbitPtp.Correctness.Signaling

/-!
# What the two ends of a link agree on

Two ports set up a White Rabbit link by signaling messages, which may be lost, duplicated, delayed
and reordered on their way. Each end keeps what it needs to know: the delays of the other end from
the message with which that end confirms its calibration, and that the master is in White Rabbit
mode from the message that says so. What an end knows depends on its own state and on the register
of the last message alone, so that an abandoned and restarted set-up does no harm.

## Main definitions

* `LinkEnd`: an end of the link: a port of a daemon, and the delays its hardware reports.
* `Informed`: what the White Rabbit data of a port say about the other end.
* `Truthful`: what the frames of an end say about it.
* `Link.Guard`: what a link does that loses, duplicates and reorders messages but forges none.

## Main results

* `signaled_informed`: a signaling message of the other end does not mislead an end.
* `doStateActions_endInvariant`: neither do the actions of an end.
* `Link.link_agreement`: the two ends agree on the delays and on who was in White Rabbit mode first.
-/

namespace WhiteRabbitPtp

open Octets Buffer InputSystem

/-! ### Messages of the other end -/

section Decoding

variable {id : UInt16} {m : Node} (b : Buffer) (wr : WrPortDS)

/-- A signaling message that is long enough to be heard was packed. -/
lemma signalingPacked_of_frame (h : HEADER_LENGTH ≤ (wrSignalingFrame id m).length) :
    SignalingPacked m.port id := by
  by_contra hnot
  have hnone : m.port.wr.wrMode = .nonWr ∨ id = ANN_SUFIX := by
    unfold SignalingPacked at hnot
    tauto
  simp [wrSignalingFrame, msgPackWRSignalingMsg, hnone, HEADER_LENGTH] at h

/-- A signaling message is decoded into its identifier, and into the delays of the sender when that
confirms its calibration. -/
theorem msgUnpackWRSignalingMsg_wrSignalingFrame (h : SignalingPacked m.port id) :
    (msgUnpackWRSignalingMsg (b.load (wrSignalingFrame id m)) wr).2.msgTmpWrMessageID = id ∧
      (msgUnpackWRSignalingMsg (b.load (wrSignalingFrame id m)) wr).2.otherNodeDeltaTx =
        (if id = CALIBRATED then m.port.wr.deltaTx else wr.otherNodeDeltaTx) ∧
      (msgUnpackWRSignalingMsg (b.load (wrSignalingFrame id m)) wr).2.otherNodeDeltaRx =
        (if id = CALIBRATED then m.port.wr.deltaRx else wr.otherNodeDeltaRx) := by
  have hunpack : (msgUnpackWRSignalingMsg (b.load (wrSignalingFrame id m)) wr).2 =
      wr.informed m.port.wr id :=
    congrArg Prod.snd (msgUnpackWRSignalingMsg_frame m.clk m.port m.port.msgObuf wr b h)
  rw [hunpack]
  by_cases hcalibrated : id = CALIBRATED
  · subst hcalibrated
    simp
  · simp only [WrPortDS.informed, hcalibrated, if_false]
    split <;> exact ⟨rfl, rfl, rfl⟩

end Decoding

/-! ### What an end knows -/

/-- An end of the link: a port of a daemon, and the delays in picoseconds that its hardware reports
whenever it is polled with success. -/
structure LinkEnd where
  rtOpts : RunTimeOpts
  port : ℕ
  deltaTx : UInt64
  deltaRx : UInt64

/-- The delays of the other end are known. -/
def KnowsDelays (peer : LinkEnd) (wr : WrPortDS) : Prop :=
  wr.otherNodeDeltaTx = .ofPicos peer.deltaTx ∧ wr.otherNodeDeltaRx = .ofPicos peer.deltaRx

/-- The states that follow the confirmation of the other end's calibration: the end of the answer to
its request, and for a slave, which answers first, its own calibration as well. -/
def WrState.followsCalibrated (wrMode : WrMode) : WrState → Bool
  | respCalibReq2 | respCalibReq3 | wrLinkOn => true
  | calibration | calibration1 | calibration2 | calibration3 | calibration4 => wrMode = .wrSlave
  | calibration5 | calibration6 | calibration7 | calibration8 | calibrated => wrMode = .wrSlave
  | _ => false

/-- The states in which the end's own transmit delay has been polled. -/
def WrState.hasDeltaTx : WrState → Bool
  | calibration3 | calibration4 | calibration5 | calibration6 | calibration7 | calibration8 => true
  | _ => false

/-- The states in which the end's own receive delay has been polled as well. -/
def WrState.hasDeltaRx : WrState → Bool
  | calibration7 | calibration8 => true
  | _ => false

/-- What the White Rabbit data of an end say about the other one, of which `peerOn` says whether it
has been a master in White Rabbit mode. -/
structure Informed (own peer : LinkEnd) (peerOn : Prop) (wr : WrPortDS) : Prop where
  deltaTx : wr.wrPortState.hasDeltaTx = true → wr.deltaTx = .ofPicos own.deltaTx
  deltaRx : wr.wrPortState.hasDeltaRx = true → wr.deltaRx = .ofPicos own.deltaRx
  /-- A confirmation of the calibration in the register is not left over from an earlier set-up. -/
  heard : wr.wrPortState ≠ .idle → wr.wrPortState ≠ .present →
    wr.msgTmpWrMessageID = CALIBRATED → KnowsDelays peer wr
  follows : wr.wrPortState.followsCalibrated wr.wrMode = true → KnowsDelays peer wr
  mLock : wr.wrPortState = .mLock → wr.wrMode ≠ .wrSlave
  on : wr.wrModeON = true → KnowsDelays peer wr
  register : wr.msgTmpWrMessageID = WR_MODE_ON → peerOn
  slaveLinkOn : wr.wrPortState = .wrLinkOn → wr.wrMode = .wrSlave → peerOn
  slaveOn : wr.wrModeON = true → wr.wrMode = .wrSlave → peerOn

/-- What a signaling frame of an end says about it. -/
def Truthful (own : LinkEnd) (on : Prop) (frame : List UInt8) : Prop :=
  ∃ id m, frame = wrSignalingFrame id m ∧
    (id = CALIBRATED → m.port.wr.deltaTx = .ofPicos own.deltaTx ∧
      m.port.wr.deltaRx = .ofPicos own.deltaRx) ∧
    (id = WR_MODE_ON → on)

/-- What an end may see of its environment: the signaling messages are among those the other end has
sent, and the delays are always the same. -/
structure Environs (own : LinkEnd) (peerSent : List (List UInt8)) (o : Oracle) : Prop where
  notForged : ∀ k macDest data rxTs, o.answers .recvfrom k = .frame macDest data rxTs →
    frameType data = SIGNALING → data ∈ peerSent
  deltaTx : ∀ k delta, o.answers (.calibratingPoll .tx) k = some delta → delta = own.deltaTx
  deltaRx : ∀ k delta, o.answers (.calibratingPoll .rx) k = some delta → delta = own.deltaRx

section Informing

variable {own peer : LinkEnd} {peerOn : Prop} {wr : WrPortDS} {s t : WrState} {wrMode : WrMode}

/-- An idle state machine only has to keep what it is in White Rabbit mode with. -/
lemma Informed.of_idle (hidle : wr.wrPortState = .idle)
    (hon : wr.wrModeON = true → KnowsDelays peer wr)
    (hregister : wr.msgTmpWrMessageID = WR_MODE_ON → peerOn)
    (hslave : wr.wrModeON = true → wr.wrMode = .wrSlave → peerOn) :
    Informed own peer peerOn wr where
  deltaTx h := by simp [hidle, WrState.hasDeltaTx] at h
  deltaRx h := by simp [hidle, WrState.hasDeltaRx] at h
  heard h := absurd hidle h
  follows h := by simp [hidle, WrState.followsCalibrated] at h
  mLock h := by simp [hidle] at h
  on := hon
  register := hregister
  slaveLinkOn h := by simp [hidle] at h
  slaveOn := hslave

/-- What is known once is not forgotten. -/
lemma Informed.mono {peerOn' : Prop} (h : Informed own peer peerOn wr) (hon : peerOn → peerOn') :
    Informed own peer peerOn' wr where
  __ := h
  register hregister := hon (h.register hregister)
  slaveLinkOn hs hmode := hon (h.slaveLinkOn hs hmode)
  slaveOn hwr hmode := hon (h.slaveOn hwr hmode)

lemma followsCalibrated_nonWr (h : s.followsCalibrated .nonWr = true) :
    s.followsCalibrated wrMode = true := by
  cases s <;> simp_all [WrState.followsCalibrated]

lemma followsCalibrated_master (h : s.followsCalibrated .wrMaster = true) :
    s.followsCalibrated wrMode = true := by
  cases s <;> simp_all [WrState.followsCalibrated]

/-- A port that leaves its mode needs no more than before. -/
lemma Informed.leaveMode (h : Informed own peer peerOn wr) :
    Informed own peer peerOn { wr with wrMode := .nonWr } where
  __ := h
  follows hf := h.follows (followsCalibrated_nonWr hf)
  mLock _ := by simp
  slaveLinkOn _ hmode := by simp at hmode
  slaveOn _ hmode := by simp at hmode

@[inherit_doc Informed.leaveMode]
lemma Informed.leave (h : Informed own peer peerOn wr) :
    Informed own peer peerOn { wr with wrMode := .nonWr, wrModeON := false } where
  __ := h.leaveMode
  on hon := by simp at hon
  slaveOn hon := by simp at hon

/-- A port that becomes a master needs no more than before. -/
lemma Informed.asWrMaster (h : Informed own peer peerOn wr) :
    Informed own peer peerOn { wr with wrMode := .wrMaster } where
  __ := h
  follows hf := h.follows (followsCalibrated_master hf)
  mLock _ := by simp
  slaveLinkOn _ hmode := by simp at hmode
  slaveOn _ hmode := by simp at hmode

/-- The register of the received message may be cleared. -/
lemma Informed.clearRegister (h : Informed own peer peerOn wr) :
    Informed own peer peerOn { wr with msgTmpWrMessageID := NULL_WR_TLV } where
  __ := h
  heard _ _ hregister := absurd (show NULL_WR_TLV = CALIBRATED from hregister) (by decide)
  register hregister := absurd (show NULL_WR_TLV = WR_MODE_ON from hregister) (by decide)

/-! ### Transitions of an end -/

/-- What an end has to know to enter a main state. -/
structure MayEnter (peer : LinkEnd) (peerOn : Prop) (wr : WrPortDS) (state : WrState) : Prop where
  heard : wr.wrPortState = .present → state = .present ∨ wr.msgTmpWrMessageID ≠ CALIBRATED
  follows : state.followsCalibrated wr.wrMode = true → KnowsDelays peer wr
  mLock : state = .mLock → wr.wrMode ≠ .wrSlave
  slaveLinkOn : state = .wrLinkOn → wr.wrMode = .wrSlave → peerOn

lemma entries_followsCalibrated (h : t ∈ s.entries) :
    t.followsCalibrated wrMode = s.followsCalibrated wrMode := by
  cases s <;> simp only [WrState.entries, List.mem_cons, List.not_mem_nil, or_false] at h <;>
    rcases h with rfl | rfl | rfl <;> rfl

lemma entries_hasDelta (h : t ∈ s.entries) (hmain : s.mainState = s) :
    t.hasDeltaTx = false ∧ t.hasDeltaRx = false := by
  cases s <;> cases hmain <;>
    simp only [WrState.entries, List.mem_cons, List.not_mem_nil, or_false] at h <;>
    rcases h with rfl | rfl | rfl <;> exact ⟨rfl, rfl⟩

lemma entries_mem_singleton (h : t ∈ s.entries) (ht : t = .mLock ∨ t = .wrLinkOn ∨ t = .present) :
    s = t := by
  cases s <;> simp only [WrState.entries, List.mem_cons, List.not_mem_nil, or_false] at h <;>
    rcases h with rfl | rfl | rfl <;> first | rfl | simp at ht

/-- A running state machine that may enter a main state stays informed. -/
theorem Informed.enter (rtOpts : RunTimeOpts) {n : Node} (h : Informed own peer peerOn n.port.wr)
    (hrun : n.port.wr.wrPortState ≠ .idle) (hmain : s.mainState = s)
    (hmay : MayEnter peer peerOn n.port.wr s) :
    Informed own peer peerOn (toWRState s rtOpts n).port.wr := by
  obtain ⟨⟨t, ht, hmoved⟩, -⟩ := toWRState_wr rtOpts n hrun hmain
  rw [hmoved]
  have hmode : (n.port.wr.entering s).wrMode = n.port.wr.wrMode := by
    unfold WrPortDS.entering
    split <;> rfl
  have hknows : KnowsDelays peer n.port.wr → KnowsDelays peer (n.port.wr.entering s) := by
    unfold WrPortDS.entering
    split <;> exact id
  have hregister : (n.port.wr.entering s).msgTmpWrMessageID = n.port.wr.msgTmpWrMessageID := by
    unfold WrPortDS.entering
    split <;> rfl
  have hon : (n.port.wr.entering s).wrModeON = true →
      n.port.wr.wrModeON = true ∨ s = .wrLinkOn := by
    unfold WrPortDS.entering
    split
    next hs => exact fun _ => .inr hs
    · exact .inl
  have hdelta : (n.port.wr.entering s).deltaTx = n.port.wr.deltaTx ∧
      (n.port.wr.entering s).deltaRx = n.port.wr.deltaRx := by
    unfold WrPortDS.entering
    split <;> exact ⟨rfl, rfl⟩
  -- What entering a state does to the data is now said by the facts above.
  generalize hentering : n.port.wr.entering s = wr at *
  rcases ht with ht | ⟨rfl, rfl⟩
  · have hfollows : t.followsCalibrated wr.wrMode = true → KnowsDelays peer wr := by
      rw [entries_followsCalibrated ht, hmode]
      exact fun hs => hknows (hmay.follows hs)
    have hentered : s = .wrLinkOn → KnowsDelays peer wr := by
      rintro rfl
      exact hknows (hmay.follows rfl)
    refine ⟨fun htx => ?_, fun hrx => ?_, fun _ hpresent hcalibrated => ?_, hfollows, fun ht' => ?_,
      fun hwr => ?_, fun hwr => h.register (hregister ▸ hwr), fun ht' hslave => ?_,
      fun hwr hslave => ?_⟩
    · -- Polled delays are claimed in substates only, and a main state is entered at its beginning.
      exact absurd htx (by rw [(entries_hasDelta ht hmain).1]; decide)
    · exact absurd hrx (by rw [(entries_hasDelta ht hmain).2]; decide)
    · -- Only a slave that is asked to lock comes out of `WRS_PRESENT`.
      have hcalibrated : n.port.wr.msgTmpWrMessageID = CALIBRATED := hregister ▸ hcalibrated
      refine hknows (h.heard hrun (fun hp => ?_) hcalibrated)
      rcases hmay.heard hp with rfl | hne
      · simp [WrState.entries] at ht
        exact hpresent ht
      · exact hne hcalibrated
    · have hs := entries_mem_singleton ht (.inl ht')
      exact hmode ▸ hmay.mLock (hs.trans ht')
    · -- The mode is switched on by entering `WRS_WR_LINK_ON`, where the delays are known.
      exact (hon hwr).elim (fun hwr => hknows (h.on hwr)) hentered
    · have hs := entries_mem_singleton ht (.inr (.inl ht'))
      exact hmay.slaveLinkOn (hs.trans ht') (hmode ▸ hslave)
    · rcases hon hwr with hwr | hs
      · exact h.slaveOn hwr (hmode ▸ hslave)
      · exact hmay.slaveLinkOn hs (hmode ▸ hslave)
  · -- A slave without a role stays where it is.
    rw [← hentering]
    exact { h with }

/-- What the actions of a state enter may be entered. -/
lemma Informed.mayEnter (h : Informed own peer peerOn wr) (henters : WrEnters wr s) :
    MayEnter peer peerOn wr s := by
  have hfollows : ∀ {t}, wr.wrPortState = t → t.followsCalibrated wr.wrMode = true →
      KnowsDelays peer wr := fun ht hf => h.follows (ht ▸ hf)
  cases henters with
  | locked hs => exact ⟨fun hp => by simp [hs] at hp, nofun, nofun, nofun⟩
  -- A master calibrates first, before it knows anything: its states claim nothing then.
  | masterCalibration hs =>
    refine ⟨fun hp => by simp [hs] at hp, fun hf => absurd ?_ (h.mLock hs), nofun, nofun⟩
    simpa [WrState.followsCalibrated] using hf
  | slaveCalibration hs =>
    exact ⟨fun hp => by simp [hs] at hp, fun _ => hfollows hs rfl, nofun, nofun⟩
  | slaveRespCalibReq hs => exact ⟨fun hp => by simp [hs] at hp, nofun, nofun, nofun⟩
  | masterRespCalibReq hs => exact ⟨fun hp => by simp [hs] at hp, nofun, nofun, nofun⟩
  | masterWrLinkOn hs hmode =>
    refine ⟨fun hp => by simp [hs] at hp, fun _ => hfollows hs rfl, nofun, fun _ hslave => ?_⟩
    rw [hmode] at hslave
    cases hslave
  -- A slave switches the link on when it hears that the master has.
  | slaveWrLinkOn hs hregister hmode =>
    refine ⟨fun hp => by simp [hs] at hp, fun _ => hfollows hs ?_, nofun,
      fun _ _ => h.register hregister⟩
    rw [hmode]
    rfl
  | idle hs => exact ⟨fun hp => by simp [hs] at hp, nofun, nofun, nofun⟩

lemma mainState_followsCalibrated (h : s.mainState.followsCalibrated wrMode = true) :
    s.followsCalibrated wrMode = true := by
  cases s <;> simp_all [WrState.mainState, WrState.followsCalibrated]

/-- A main state without substates is a state of its own. -/
lemma mainState_eq (h : s.mainState = t) (ht : t = .mLock ∨ t = .wrLinkOn) : s = t := by
  cases s <;> subst h <;> first | rfl | simp [WrState.mainState] at ht

/-- The current main state may be entered again. -/
lemma Informed.mayRepeat (h : Informed own peer peerOn wr) :
    MayEnter peer peerOn wr wr.wrPortState.mainState where
  heard hp := .inl (by rw [hp]; rfl)
  follows hf := h.follows (mainState_followsCalibrated hf)
  mLock hs := h.mLock (mainState_eq hs (.inl rfl))
  slaveLinkOn hs := h.slaveLinkOn (mainState_eq hs (.inr rfl))

/-- A slave that is asked to lock, or a master that hears a slave, has something else in its
register. -/
lemma MayEnter.sLock (h : wr.msgTmpWrMessageID = LOCK) : MayEnter peer peerOn wr .sLock :=
  ⟨fun _ => .inr (by rw [h]; decide), nofun, nofun, nofun⟩

@[inherit_doc MayEnter.sLock]
lemma MayEnter.mLock_master (h : wr.msgTmpWrMessageID = SLAVE_PRESENT)
    (hmode : wr.wrMode = .wrMaster) : MayEnter peer peerOn wr .mLock :=
  ⟨fun _ => .inr (by rw [h]; decide), nofun, fun _ => by rw [hmode]; decide, nofun⟩

/-- A state machine that starts has forgotten the other end. -/
theorem Informed.start {rtOpts : RunTimeOpts} {n : Node} (h : Informed own peer peerOn n.port.wr)
    (hidle : n.port.wr.wrPortState = .idle)
    (hs : s = .present ∨ s = .mLock ∧ n.port.wr.msgTmpWrMessageID = SLAVE_PRESENT ∧
      n.port.wr.wrMode = .wrMaster) :
    Informed own peer peerOn (toWRState s rtOpts n).port.wr := by
  obtain ⟨m, id, -, rfl, hmoved, -, -⟩ :=
    toWRState_start rtOpts n hidle (hs.imp_right And.left)
  have hinit : (initWrData .reInit n).port.wr.wrModeON = false ∧
      (initWrData .reInit n).port.wr.msgTmpWrMessageID = n.port.wr.msgTmpWrMessageID ∧
      (initWrData .reInit n).port.wr.wrMode = n.port.wr.wrMode := ⟨rfl, rfl, rfl⟩
  have hissued := (issueWRSignalingMsg_wrFrame rtOpts (initWrData .reInit n) id).wr
  -- `toWRState` issues the first message of the role, which may fail and leave the mode.
  generalize issueWRSignalingMsg id rtOpts (initWrData .reInit n) = m at hmoved hissued
  have hm : m.port.wr.wrModeON = false ∧
      m.port.wr.msgTmpWrMessageID = n.port.wr.msgTmpWrMessageID ∧
      (m.port.wr.wrMode = n.port.wr.wrMode ∨ m.port.wr.wrMode = .nonWr) := by
    -- The register is not reset with the rest of the data, so it may hold an old message.
    rcases hissued with hwr | ⟨-, hwr⟩
    · rw [hwr]
      exact ⟨hinit.1, hinit.2.1, .inl hinit.2.2⟩
    · rw [hwr]
      exact ⟨rfl, hinit.2.1, .inr rfl⟩
  obtain ⟨hoff, hregister, hmode⟩ := hm
  rw [hmoved]
  have hstate : s = .present ∨ s = .mLock := hs.imp_right And.left
  refine ⟨?_, ?_, fun _ hp hcalibrated => ?_, ?_, fun hlock hslave => ?_, ?_, fun hwr => ?_, ?_, ?_⟩
  · rcases hstate with rfl | rfl <;> exact nofun
  · rcases hstate with rfl | rfl <;> exact nofun
  · rcases hs with rfl | ⟨-, hpresent, -⟩
    · exact absurd rfl hp
    · have hcalibrated : m.port.wr.msgTmpWrMessageID = CALIBRATED := hcalibrated
      rw [hregister, hpresent] at hcalibrated
      exact absurd hcalibrated (by decide)
  · rcases hstate with rfl | rfl <;> exact nofun
  · rcases hs with rfl | ⟨-, -, hmaster⟩
    · cases hlock
    · rw [hmaster] at hmode
      rcases hmode with hmode | hmode <;> simp [hmode] at hslave
  · intro hon
    exact absurd hon (by simp [hoff])
  · exact h.register (hregister ▸ hwr)
  · rcases hstate with rfl | rfl <;> exact nofun
  · intro hon
    exact absurd hon (by simp [hoff])

end Informing

/-! ### The frames of an end -/

/-- All signaling frames that an end has sent are truthful. -/
def SentBy (own : LinkEnd) (on : Prop) (frames : List (List UInt8)) : Prop :=
  ∀ frame ∈ frames, frameType frame = SIGNALING → Truthful own on frame

/-- Whether a port is in White Rabbit mode in a role. -/
def IsOn (wrMode : WrMode) (wr : WrPortDS) : Prop := wr.wrModeON = true ∧ wr.wrMode = wrMode

instance (wrMode : WrMode) : DecidablePred (IsOn wrMode) := fun wr => by
  unfold IsOn
  infer_instance

section Sending

variable {own peer : LinkEnd} {on on' : Prop} {rtOpts : RunTimeOpts} {n n' : Node} {s : WrState}

lemma SentBy.mono {frames : List (List UInt8)} (h : SentBy own on frames) (hon : on → on') :
    SentBy own on' frames := by
  intro frame hframe htype
  obtain ⟨id, m, heq, hcalibrated, hmodeOn⟩ := h frame hframe htype
  exact ⟨id, m, heq, hcalibrated, fun hid => hon (hmodeOn hid)⟩

lemma SentBy.append {frames frames' : List (List UInt8)} (h : SentBy own on frames)
    (h' : SentBy own on frames') : SentBy own on (frames ++ frames') := by
  intro frame hframe
  rcases List.mem_append.mp hframe with hframe | hframe
  · exact h frame hframe
  · exact h' frame hframe

/-- Other messages do not matter. -/
lemma WrFrame.sentBy (h : WrFrame NotSignaling n n') (hn : SentBy own on n.netif.sent) :
    SentBy own on n'.netif.sent := by
  obtain ⟨frames, hsent, hframes⟩ := h.sent
  rw [hsent]
  exact hn.append fun frame hframe htype => absurd htype (hframes frame hframe)

/-- A transition that does not switch the link on says nothing about the end. -/
lemma toWRState_sentBy (hs : s ≠ .wrLinkOn) (hn : SentBy own on n.netif.sent) :
    SentBy own on (toWRState s rtOpts n).netif.sent := by
  obtain ⟨frames, hsent, hframes⟩ := toWRState_sent rtOpts n s
  rw [hsent]
  refine hn.append fun frame hframe _ => ?_
  obtain ⟨id, m, heq, hne, hmodeOn⟩ := hframes frame hframe
  exact ⟨id, m, heq, fun hid => absurd hid hne, fun hid => absurd (hmodeOn hid) hs⟩

/-- A port that is no master does not tell the other end that it has switched the link on. -/
lemma toWRState_wrLinkOn_sent (hrun : n.port.wr.wrPortState ≠ .idle)
    (hmode : n.port.wr.wrMode ≠ .wrMaster) :
    (toWRState .wrLinkOn rtOpts n).netif.sent = n.netif.sent := by
  unfold toWRState
  dsimp only
  rw [wrTimetoutManage_sent, if_neg hrun]
  unfold enterWRState
  dsimp only
  split
  next hmaster => exact absurd hmaster hmode
  · rfl

/-- A port that tells the other end that it has switched the link on is a master in White Rabbit
mode. -/
theorem toWRState_sentBy_or (hrun : n.port.wr.wrPortState ≠ .idle) (hmain : s.mainState = s)
    (hn : SentBy own on n.netif.sent) :
    SentBy own (on ∨ IsOn .wrMaster (toWRState s rtOpts n).port.wr)
      (toWRState s rtOpts n).netif.sent := by
  -- Only a master says something when it switches the link on, and then the claim is about itself.
  by_cases hs : s = .wrLinkOn
  · subst hs
    by_cases hmode : n.port.wr.wrMode = .wrMaster
    · have hison : IsOn .wrMaster (toWRState .wrLinkOn rtOpts n).port.wr := by
        obtain ⟨⟨t, -, hmoved⟩, -⟩ := toWRState_wr rtOpts n hrun hmain
        rw [hmoved]
        exact ⟨rfl, hmode⟩
      obtain ⟨frames, hsent, hframes⟩ := toWRState_sent rtOpts n .wrLinkOn
      rw [hsent]
      refine (hn.mono .inl).append fun frame hframe _ => ?_
      obtain ⟨id, m, heq, hne, -⟩ := hframes frame hframe
      exact ⟨id, m, heq, fun hid => absurd hid hne, fun _ => .inr hison⟩
    · rw [toWRState_wrLinkOn_sent hrun hmode]
      exact hn.mono .inl
  · exact (toWRState_sentBy hs hn).mono .inl

end Sending

/-! ### The actions of an end -/

/-- What holds of an end whatever it does: it is informed, its frames are truthful, and its
environment is that of the link. -/
structure EndInvariant (own peer : LinkEnd) (peerSent : List (List UInt8)) (on peerOn : Prop)
    (n : Node) : Prop where
  informed : Informed own peer peerOn n.port.wr
  sent : SentBy own on n.netif.sent
  environs : Environs own peerSent n.netif.oracle

section Acting

variable {own peer : LinkEnd} {peerSent : List (List UInt8)} {on on' peerOn : Prop}
  {rtOpts : RunTimeOpts} {n n' : Node}

lemma Environs.congr {o o' : Oracle} (h : Environs own peerSent o) (heq : o'.answers = o.answers) :
    Environs own peerSent o' := by
  obtain ⟨hforged, htx, hrx⟩ := h
  exact ⟨by rwa [heq], by rwa [heq], by rwa [heq]⟩

lemma EndInvariant.mono (h : EndInvariant own peer peerSent on peerOn n) (hon : on → on') :
    EndInvariant own peer peerSent on' peerOn n :=
  ⟨h.informed, h.sent.mono hon, h.environs⟩

/-- What stays inside the frame of the White Rabbit data keeps the invariant. -/
lemma WrFrame.endInvariant (h : WrFrame NotSignaling n n')
    (hn : EndInvariant own peer peerSent on peerOn n) :
    EndInvariant own peer peerSent on peerOn n' := by
  refine ⟨?_, h.sentBy hn.sent, hn.environs.congr h.answers⟩
  rcases h.wr with hwr | ⟨-, hwr⟩
  · rw [hwr]
    exact hn.informed
  · rw [hwr]
    exact hn.informed.leave

/-- A message of the other end is decoded into what that end says about itself. -/
theorem signaled_informed (hn : EndInvariant own peer peerSent on peerOn n)
    (hpeer : SentBy peer peerOn peerSent) (hhears : HearsSignaling n) :
    Informed own peer peerOn (signaled (received n)).port.wr := by
  obtain ⟨macDest, data, rxTs, hanswer, hlength, hload, htype⟩ := hhears.frame
  have hdata : frameType data = SIGNALING := by
    have hpos : 0 < data.length := lt_of_lt_of_le (by decide) hlength
    rw [hload, load_apply_of_lt _ _ hpos] at htype
    simpa [frameType, hpos] using htype
  -- The message was sent by the other end, so that end vouches for what it says.
  obtain ⟨id, m, rfl, hcalibrated, hmodeOn⟩ :=
    hpeer _ (hn.environs.notForged _ _ _ _ hanswer hdata) hdata
  obtain ⟨hid, htx, hrx⟩ := msgUnpackWRSignalingMsg_wrSignalingFrame n.port.msgIbuf n.port.wr
    (signalingPacked_of_frame hlength)
  have hwr : (signaled (received n)).port.wr =
      (msgUnpackWRSignalingMsg (n.port.msgIbuf.load (wrSignalingFrame id m)) n.port.wr).2 := by
    unfold signaled
    rw [hload, received_wr]
  have hkept := signaled_wr (received n)
  rw [← hwr] at hid htx hrx
  rw [received_wr] at hkept
  -- The message overwrites the delays by itself: a late duplicate says the same again.
  generalize (signaled (received n)).port.wr = wr at *
  have hknows : KnowsDelays peer n.port.wr → KnowsDelays peer wr := by
    rintro ⟨hknowsTx, hknowsRx⟩
    unfold KnowsDelays
    rw [htx, hrx]
    split
    next hid => exact hcalibrated hid
    · exact ⟨hknowsTx, hknowsRx⟩
  have hconfirmed : wr.msgTmpWrMessageID = CALIBRATED → KnowsDelays peer wr := by
    intro hregister
    have hid := hid.symm.trans hregister
    unfold KnowsDelays
    rw [htx, hrx, if_pos hid, if_pos hid]
    exact hcalibrated hid
  have hold := hn.informed
  rw [hkept]
  rw [hkept] at hknows hconfirmed hid
  exact ⟨hold.deltaTx, hold.deltaRx, fun _ _ => hconfirmed, fun hf => hknows (hold.follows hf),
    hold.mLock, fun hon => hknows (hold.on hon),
    fun hregister => hmodeOn (hid.symm.trans hregister), hold.slaveLinkOn, hold.slaveOn⟩

/-- Receiving a frame keeps the invariant. -/
theorem handle_endInvariant (hn : EndInvariant own peer peerSent on peerOn n)
    (hpeer : SentBy peer peerOn peerSent) :
    EndInvariant own peer peerSent on peerOn (handle rtOpts n) := by
  have hframe := handle_frame rtOpts n
  rcases handle_cases rtOpts n with hwr | ⟨hhears, heq⟩
  · exact hwr.endInvariant hn
  refine ⟨?_, ?_, hn.environs.congr hframe.answers⟩
  -- What is known and what was sent are two goals with the same cases.
  all_goals
    have hinformed := signaled_informed hn hpeer hhears
    have hsent : SentBy own on (signaled (received n)).netif.sent := by
      show SentBy own on (received n).netif.sent
      rw [received_netif]
      exact hn.sent
    rw [heq]
    rcases handleSignaling_cases rtOpts (received n) with hsig | ⟨⟨-, hregister, -⟩, hsig⟩
  · rwa [hsig]
  · -- The master starts the link set-up, or starts it anew.
    rw [hsig]
    have hmaster : Informed own peer peerOn (asWrMaster (signaled (received n))).port.wr :=
      hinformed.asWrMaster
    by_cases hidle : (asWrMaster (signaled (received n))).port.wr.wrPortState = .idle
    · exact hmaster.start hidle (.inr ⟨rfl, hregister, rfl⟩)
    · exact hmaster.enter rtOpts hidle rfl (.mLock_master hregister rfl)
  · rwa [hsig]
  · rw [hsig]
    exact toWRState_sentBy (by decide) hsent

/-! ### PTP transitions -/

/-- A transition of the PTP state machine keeps the invariant. -/
theorem toState_endInvariant (hn : EndInvariant own peer peerSent on peerOn n) (state : PtpState) :
    EndInvariant own peer peerSent on peerOn (toState state rtOpts n) := by
  -- A port does not change its state while the White Rabbit state machine is running.
  by_cases hidle : n.port.wr.wrPortState = .idle
  swap
  · rwa [toState_running rtOpts n hidle]
  have henvirons := hn.environs.congr (toState_frame rtOpts n state).answers
  have hleft : Informed own peer peerOn (leaveState rtOpts n).port.wr := by
    rw [leaveState_wr]
    split
    · exact hn.informed.leave
    · exact hn.informed
  have hleftIdle : (leaveState rtOpts n).port.wr.wrPortState = .idle := by
    rw [leaveState_wr]
    split <;> exact hidle
  have hleftSent : SentBy own on (leaveState rtOpts n).netif.sent := by
    rw [leaveState_sent]
    exact hn.sent
  -- Entering `PTP_UNCALIBRATED` is what starts the set-up of a slave.
  by_cases hstate : state = .uncalibrated
  · subst hstate
    refine ⟨?_, ?_, henvirons⟩
    all_goals
      unfold toState enterState
      rw [if_neg (not_not.mpr hidle)]
      dsimp only
      split_ifs
    · exact hleft.start hleftIdle (.inl rfl)
    · exact hleft
    · exact hleft.leaveMode
    · exact toWRState_sentBy (by decide) hleftSent
    · exact hleftSent
    · exact hleftSent
  · obtain ⟨hwr, hsent⟩ := toState_eq rtOpts n hidle hstate
    exact ⟨by rwa [hwr], by rw [hsent]; exact hn.sent, henvirons⟩

/-- Every action outside of the White Rabbit state machine keeps the invariant. -/
theorem QuietAction.endInvariant (h : QuietAction rtOpts n n')
    (hn : EndInvariant own peer peerSent on peerOn n) (hpeer : SentBy peer peerOn peerSent) :
    EndInvariant own peer peerSent on peerOn n' := by
  cases h with
  | frame hframe => exact hframe.endInvariant hn
  | handle => exact handle_endInvariant hn hpeer
  | forgetMasters => exact ⟨hn.informed.leave, hn.sent, hn.environs⟩
  | m1 => exact ⟨{ hn.informed with }, hn.sent, hn.environs⟩
  | toState => exact toState_endInvariant hn _
  | clearRegister => exact ⟨hn.informed.clearRegister, hn.sent, hn.environs⟩

/-! ### The White Rabbit state machine -/

lemma successor_followsCalibrated {s t : WrState} {wrMode : WrMode} (h : s.successor = some t)
    (ht : t.followsCalibrated wrMode = true) : s.followsCalibrated wrMode = true := by
  cases s <;> simp only [WrState.successor, Option.some.injEq, reduceCtorEq] at h <;> subst h <;>
    simp_all [WrState.followsCalibrated]

lemma successor_hasDelta {s t : WrState} (h : s.successor = some t) :
    (t.hasDeltaTx = true → s.hasDeltaTx = true) ∧ (t.hasDeltaRx = true → s.hasDeltaRx = true) := by
  cases s <;> simp only [WrState.successor, Option.some.injEq, reduceCtorEq] at h <;> subst h <;>
    decide

lemma successor_ne {s t : WrState} (h : s.successor = some t) :
    s ≠ .idle ∧ s ≠ .present ∧ t ≠ .mLock ∧ t ≠ .wrLinkOn := by
  cases s <;> simp only [WrState.successor, Option.some.injEq, reduceCtorEq] at h <;> subst h <;>
    decide

/-- Every move of the state machine keeps the invariant. -/
theorem WrMove.endInvariant (h : WrMove rtOpts n n')
    (hn : EndInvariant own peer peerSent on peerOn n) (hpeer : SentBy peer peerOn peerSent) :
    EndInvariant own peer peerSent on peerOn n' := by
  have hinformed := hn.informed
  cases h with
  | called c => exact ⟨hinformed, hn.sent, hn.environs.congr rfl⟩
  | handle => exact handle_endInvariant hn hpeer
  -- A substate is reached from the one before it.
  | advance hnext =>
    obtain ⟨hrun, hpresent, hlock, hon⟩ := successor_ne hnext
    obtain ⟨htx, hrx⟩ := successor_hasDelta hnext
    refine ⟨⟨fun h => hinformed.deltaTx (htx h), fun h => hinformed.deltaRx (hrx h), ?_,
      fun h => hinformed.follows (successor_followsCalibrated hnext h), fun h => absurd h hlock,
      hinformed.on, hinformed.register, fun h => absurd h hon, hinformed.slaveOn⟩, hn.sent,
      hn.environs⟩
    exact fun _ _ => hinformed.heard hrun hpresent
  -- The end has heard the confirmation of the calibration, and its delays with it.
  | respond hs hregister hs' =>
    have hknows : KnowsDelays peer n.port.wr :=
      hinformed.heard (by rw [hs]; decide) (by rw [hs]; decide) hregister
    refine ⟨?_, hn.sent, hn.environs⟩
    rcases hs' with rfl | rfl
    · exact ⟨nofun, nofun, fun _ _ _ => hknows, fun _ => hknows, nofun, hinformed.on,
        hinformed.register, nofun, hinformed.slaveOn⟩
    · exact ⟨nofun, nofun, fun _ _ _ => hknows, fun _ => hknows, nofun, hinformed.on,
        hinformed.register, nofun, hinformed.slaveOn⟩
  | deltaTx hs hanswer =>
    have hdelta := hn.environs.deltaTx _ _ hanswer
    subst hdelta
    refine ⟨⟨fun _ => rfl, nofun, fun _ _ => ?_, fun h => ?_, nofun, hinformed.on,
      hinformed.register, nofun, hinformed.slaveOn⟩, hn.sent, hn.environs⟩
    · exact hinformed.heard (by rw [hs]; decide) (by rw [hs]; decide)
    · exact hinformed.follows (by rw [hs]; exact h)
  | deltaRx hs hanswer =>
    have hdelta := hn.environs.deltaRx _ _ hanswer
    subst hdelta
    refine ⟨⟨fun _ => hinformed.deltaTx (by rw [hs]; rfl), fun _ => rfl, fun _ _ => ?_, fun h => ?_,
      nofun, hinformed.on, hinformed.register, nofun, hinformed.slaveOn⟩, hn.sent, hn.environs⟩
    · exact hinformed.heard (by rw [hs]; decide) (by rw [hs]; decide)
    · exact hinformed.follows (by rw [hs]; exact h)

lemma WrEnters.running {wr : WrPortDS} {s : WrState} (h : WrEnters wr s) :
    wr.wrPortState ≠ .idle := by
  cases h <;> simp [*]

/-- Sending the delays keeps the invariant: they have been polled. -/
theorem doCalibration8_endInvariant (hn : EndInvariant own peer peerSent on peerOn n)
    (hs : n.port.wr.wrPortState = .calibration8) :
    EndInvariant own peer peerSent on peerOn (doCalibration8 rtOpts n) := by
  have hrun : n.port.wr.wrPortState ≠ .idle := by simp [hs]
  obtain ⟨hwr, -⟩ := issueWRSignalingMsg_running rtOpts n hrun CALIBRATED
  obtain ⟨frames, hsent, hframes⟩ := (issueWRSignalingMsg_wrFrame rtOpts n CALIBRATED).sent
  have htruthful : SentBy own on (issueWRSignalingMsg CALIBRATED rtOpts n).netif.sent := by
    rw [hsent]
    refine hn.sent.append fun frame hframe _ => ⟨CALIBRATED, n, hframes frame hframe, fun _ => ?_,
      fun hid => absurd hid (by decide)⟩
    exact ⟨hn.informed.deltaTx (by rw [hs]; rfl), hn.informed.deltaRx (by rw [hs]; rfl)⟩
  have henvirons := hn.environs.congr (doCalibration8_frame rtOpts n).answers
  unfold doCalibration8 at henvirons ⊢
  dsimp only at henvirons ⊢
  -- Sending leaves the running state machine alone, so the end is still in its last substate.
  generalize issueWRSignalingMsg CALIBRATED rtOpts n = m at hwr htruthful henvirons ⊢
  rw [← hwr] at hs hrun
  have hm : Informed own peer peerOn m.port.wr := hwr ▸ hn.informed
  have hentered := hm.enter rtOpts hrun (s := .calibrated) rfl
    ⟨fun hp => by simp [hs] at hp, fun hf => hm.follows (by rw [hs]; exact hf), nofun, nofun⟩
  exact ⟨{ hentered with }, toWRState_sentBy (by decide) htruthful, henvirons⟩

/-- The end of the actions of a state keeps the invariant; a master that is in White Rabbit mode
then may have said so. -/
theorem WrEnd.endInvariant (h : WrEnd rtOpts n n')
    (hn : EndInvariant own peer peerSent on peerOn n) :
    EndInvariant own peer peerSent (on ∨ IsOn .wrMaster n'.port.wr) peerOn n' := by
  have henvirons := hn.environs.congr h.frame.answers
  cases h with
  | stay => exact hn.mono .inl
  | enter henters =>
    have hentered := hn.informed.enter rtOpts henters.running henters.mainState
      (hn.informed.mayEnter henters)
    exact ⟨hentered, toWRState_sentBy_or henters.running henters.mainState hn.sent, henvirons⟩
  | lock hs hregister =>
    have hlocked := hn.informed.enter rtOpts (by rw [hs]; decide) (s := .sLock) rfl
      (.sLock hregister)
    exact ⟨hlocked.clearRegister, (toWRState_sentBy (by decide) hn.sent).mono .inl, henvirons⟩
  | calibrated hs => exact (doCalibration8_endInvariant hn hs).mono .inl
  | linkOn hs =>
    have hmay : MayEnter peer peerOn n.port.wr .idle :=
      ⟨fun hp => by simp [hs] at hp, nofun, nofun, nofun⟩
    have hidle : EndInvariant own peer peerSent on peerOn (toWRState .idle rtOpts n) :=
      ⟨hn.informed.enter rtOpts (by rw [hs]; decide) rfl hmay,
        toWRState_sentBy (by decide) hn.sent,
        hn.environs.congr (toWRState_frame rtOpts n .idle).answers⟩
    -- Leaving the set-up after its success sends nothing.
    refine EndInvariant.mono ?_ Or.inl
    unfold doWrLinkOn
    dsimp only
    split
    · exact toState_endInvariant hidle _
    · exact toState_endInvariant hidle _
    · exact hidle

/-- Time-outs keep the invariant; a master that enters the link again may have said so. -/
theorem wrTimerExpired_endInvariant (hn : EndInvariant own peer peerSent on peerOn n)
    (wrMode : WrMode) :
    EndInvariant own peer peerSent
      (on ∨ IsOn .wrMaster
        (wrTimerExpired n.port.wr.wrPortState.mainState rtOpts wrMode n).port.wr) peerOn
      (wrTimerExpired n.port.wr.wrPortState.mainState rtOpts wrMode n) := by
  have henvirons := hn.environs.congr
    (wrTimerExpired_frame rtOpts n n.port.wr.wrPortState.mainState wrMode).answers
  have hmoved := wrTimerPolled_wr n n.port.wr.wrPortState.mainState
  have hsent : (wrTimerPolled n.port.wr.wrPortState.mainState n).netif.sent = n.netif.sent := rfl
  rcases wrTimerExpired_cases rtOpts n n.port.wr.wrPortState.mainState wrMode with
    ⟨-, heq⟩ | ⟨hmain, heq⟩
  · rw [heq]
    exact hn.mono .inl
  have hrun := mainState_ne_idle hmain
  generalize wrTimerPolled n.port.wr.wrPortState.mainState n = m at *
  have hm : Informed own peer peerOn m.port.wr := by
    rw [hmoved]
    exact { hn.informed with }
  have hstate : m.port.wr.wrPortState = n.port.wr.wrPortState := by rw [hmoved]
  have hmSent : SentBy own on m.netif.sent := hsent ▸ hn.sent
  rw [← hstate] at hrun heq henvirons ⊢
  rcases heq with heq | heq | heq <;> rw [heq] at henvirons ⊢
  · -- The timer is still running.
    exact ⟨hm, hmSent.mono .inl, henvirons⟩
  · -- The main state is repeated: its message is sent once more.
    exact ⟨hm.enter rtOpts hrun (mainState_mainState _) hm.mayRepeat,
      toWRState_sentBy_or hrun (mainState_mainState _) hmSent, henvirons⟩
  · -- The set-up is given up, and the mode with it.
    obtain ⟨hidle, -, hoff, hregister, hquiet⟩ := abandon_eq rtOpts m hrun wrMode
    refine ⟨.of_idle hidle ?_ (fun hr => hm.register (hregister ▸ hr)) ?_, ?_, henvirons⟩
    · rw [hoff]
      exact nofun
    · rw [hoff]
      exact nofun
    · rw [hquiet]
      exact hmSent.mono .inl

/-- The White Rabbit state machine keeps the invariant; a master that is in White Rabbit mode before
or after the time-outs may have said so. -/
theorem doWRState_endInvariant (rtOpts : RunTimeOpts)
    (hn : EndInvariant own peer peerSent on peerOn n) (hpeer : SentBy peer peerOn peerSent) :
    EndInvariant own peer peerSent (on ∨ IsOn .wrMaster (wrStateActions rtOpts n).port.wr) peerOn
        (wrStateActions rtOpts n) ∧
      EndInvariant own peer peerSent
        ((on ∨ IsOn .wrMaster (wrStateActions rtOpts n).port.wr) ∨
          IsOn .wrMaster (doWRState rtOpts n).port.wr) peerOn (doWRState rtOpts n) := by
  have hactions : EndInvariant own peer peerSent
      (on ∨ IsOn .wrMaster (wrStateActions rtOpts n).port.wr) peerOn (wrStateActions rtOpts n) :=
    wrStateActions_induction (P := EndInvariant own peer peerSent on peerOn)
      (Q := fun m => EndInvariant own peer peerSent (on ∨ IsOn .wrMaster m.port.wr) peerOn m)
      (fun _ _ hm hmove => hmove.endInvariant hm hpeer) (fun _ _ hm hend => hend.endInvariant hm) hn
  exact ⟨hactions, wrTimerExpired_endInvariant hactions _⟩

/-- A state decision keeps the invariant. -/
theorem stateDecision_endInvariant (rtOpts : RunTimeOpts)
    (hn : EndInvariant own peer peerSent on peerOn n) (bestForeign : ForeignMasterRecord) :
    EndInvariant own peer peerSent on peerOn (stateDecision rtOpts bestForeign n) := by
  by_cases hdecides : Decides n
  swap
  · rwa [stateDecision_of_not rtOpts n bestForeign hdecides]
  rw [stateDecision_of rtOpts n bestForeign hdecides]
  have hdecided := bmc_decided (deciding n) bestForeign
  have hnetif : (bmc bestForeign (deciding n)).2.netif = n.netif := hdecided.netif
  generalize (bmc bestForeign (deciding n)).1 = state
  generalize (bmc bestForeign (deciding n)).2 = m at hdecided hnetif ⊢
  have hm : EndInvariant own peer peerSent on peerOn m := by
    refine ⟨?_, by rw [hnetif]; exact hn.sent, by rw [hnetif]; exact hn.environs⟩
    rw [hdecided.wr]
    exact { hn.informed with }
  have hidle : m.port.wr.wrPortState = .idle := by
    rw [hdecided.wr]
    exact hdecides.2.2
  rcases followRecommendation_cases rtOpts m state with heq | ⟨t, heq⟩ | heq <;> rw [heq]
  · exact hm
  · exact toState_endInvariant hm _
  · -- The candidate for a slave is not in White Rabbit mode yet.
    have hcandidate : EndInvariant own peer peerSent on peerOn
        { m with port.wr.wrMode := .wrSlave, port.wr.wrModeON := false } :=
      ⟨.of_idle hidle nofun hm.informed.register nofun, hm.sent, hm.environs⟩
    exact toState_endInvariant hcandidate _

/-- Following the link state keeps an end informed, and nothing is sent. -/
theorem linked_informed (rtOpts : RunTimeOpts) (h : Informed own peer peerOn n.port.wr) :
    Informed own peer peerOn (linked rtOpts n).port.wr ∧
      (linked rtOpts n).netif.sent = n.netif.sent := by
  rcases linked_cases rtOpts n with hinit | hkept
  · -- The port was initialized, but its register was not.
    have hregister := hinit.register
    refine ⟨.of_idle hinit.wrPortState ?_ (fun hr => h.register (hregister ▸ hr)) ?_, hinit.sent⟩
    · rw [hinit.wrModeON]
      exact nofun
    · rw [hinit.wrModeON]
      exact nofun
  · obtain ⟨port, hport, heq⟩ := hkept.port
    refine ⟨?_, hkept.sent⟩
    rw [heq]
    rcases hport with rfl | rfl <;> exact h

/-- The actions of a port keep the invariant; a master that is in White Rabbit mode in between or
afterwards may have said so. -/
theorem doStateActions_endInvariant (rtOpts : RunTimeOpts)
    (hn : EndInvariant own peer peerSent on peerOn n) (hpeer : SentBy peer peerOn peerSent) :
    EndInvariant own peer peerSent
      (on ∨ (RunsWr n ∧ IsOn .wrMaster (wrStateActions rtOpts n).port.wr) ∨
        IsOn .wrMaster (doStateActions rtOpts n).port.wr) peerOn (doStateActions rtOpts n) := by
  -- Either the White Rabbit state machine runs, or none of its moves is made.
  by_cases hrun : RunsWr n
  · obtain ⟨-, hdone⟩ := doWRState_endInvariant rtOpts hn hpeer
    rw [doStateActions_of_runsWr hrun]
    have hcleared : EndInvariant own peer peerSent
        ((on ∨ IsOn .wrMaster (wrStateActions rtOpts n).port.wr) ∨
          IsOn .wrMaster (doWRState rtOpts n).port.wr) peerOn
        { doWRState rtOpts n with port.wr.msgTmpWrMessageID := NULL_WR_TLV } :=
      ⟨hdone.informed.clearRegister, hdone.sent, hdone.environs⟩
    refine hcleared.mono ?_
    rintro ((hon | hactions) | hison)
    · exact .inl hon
    · exact .inr (.inl ⟨hrun, hactions⟩)
    · exact .inr (.inr hison)
  · exact (doStateActions_quiet_induction hrun hn fun _ _ hm haction =>
      haction.endInvariant hm hpeer).mono .inl

end Acting

/-! ### The link -/

/-- The two sides of the link. -/
inductive Side
  | left
  | right
  deriving DecidableEq, Repr

/-- The side across the link. -/
def Side.other : Side → Side
  | left => right
  | right => left

/-- Two daemons, one on each side of a link, and in which roles their ports at the link have been in
White Rabbit mode. -/
structure LinkState where
  daemon : Side → Daemon
  wasOn : Side → WrMode → Bool

/-- Whether the port of an end is in White Rabbit mode during a step of its daemon: before the
time-outs of the White Rabbit state machine or after the step. -/
def OnDuring (own : LinkEnd) (o : Oracle) (d : Daemon) (wrMode : WrMode) : Prop :=
  d.phase = .act own.port ∧ RunsWr (d.node own.port o) ∧
      IsOn wrMode (wrStateActions own.rtOpts (d.node own.port o)).port.wr ∨
    IsOn wrMode ((Daemon.step own.rtOpts o d).ports own.port).wr

instance (own : LinkEnd) (o : Oracle) (d : Daemon) (wrMode : WrMode) :
    Decidable (OnDuring own o d wrMode) := by
  unfold OnDuring
  infer_instance

namespace Link

variable (ends : Side → LinkEnd)

/-- The White Rabbit data of the port on a side. -/
def wr (s : LinkState) (x : Side) : WrPortDS := ((s.daemon x).ports (ends x).port).wr

/-- The frames that the port on a side has sent to the other one. -/
def sent (s : LinkState) (x : Side) : List (List UInt8) := (s.daemon x).sent (ends x).port

/-- A step of the daemon on one side. -/
def step (input : Side × Oracle) (s : LinkState) : LinkState :=
  let own := ends input.1
  let d := s.daemon input.1
  { daemon := Function.update s.daemon input.1 (Daemon.step own.rtOpts input.2 d)
    wasOn := Function.update s.wasOn input.1 fun wrMode =>
      s.wasOn input.1 wrMode || decide (OnDuring own input.2 d wrMode) }

/-- Both daemons start. -/
def Start (s : LinkState) : Prop :=
  ∀ x, Daemon.Initial (ends x).rtOpts (s.daemon x) ∧ ∀ wrMode, s.wasOn x wrMode = false

/-- The link may lose, duplicate, delay and reorder signaling messages: a port hears any of those
that the other one has ever sent, but no others. -/
def Guard (input : Side × Oracle) (s : LinkState) : Prop :=
  (s.daemon input.1).phase = .decide (ends input.1).port ∨
      (s.daemon input.1).phase = .act (ends input.1).port →
    Environs (ends input.1) (sent ends s input.1.other) input.2

/-- What holds of the two ends of a link in every run. -/
structure Invariant (s : LinkState) : Prop where
  informed : ∀ x, Informed (ends x) (ends x.other) (s.wasOn x.other .wrMaster = true) (wr ends s x)
  sent : ∀ x, SentBy (ends x) (s.wasOn x .wrMaster = true) (sent ends s x)
  slave : ∀ x, s.wasOn x .wrSlave = true → s.wasOn x.other .wrMaster = true

variable {ends} {s : LinkState}

/-- What a step of the daemon of an end keeps: the end is informed and its frames are truthful, and
a slave only gets into White Rabbit mode when the other end has been a master in it. -/
structure EndKept (own peer : LinkEnd) (on peerOn : Prop) (o : Oracle) (d : Daemon) : Prop where
  informed : Informed own peer peerOn ((Daemon.step own.rtOpts o d).ports own.port).wr
  sent : SentBy own (on ∨ OnDuring own o d .wrMaster) ((Daemon.step own.rtOpts o d).sent own.port)
  slave : OnDuring own o d .wrSlave → peerOn

section DaemonStep

variable {own peer : LinkEnd} {peerSent : List (List UInt8)} {on peerOn : Prop} {d : Daemon}
  {o : Oracle}

/-- Only when the port acts may the White Rabbit state machine be in the mode in between. -/
theorem EndKept.of_quiet (hphase : d.phase ≠ .act own.port)
    (hinformed : Informed own peer peerOn ((Daemon.step own.rtOpts o d).ports own.port).wr)
    (hsent : SentBy own on ((Daemon.step own.rtOpts o d).sent own.port)) :
    EndKept own peer on peerOn o d := by
  refine ⟨hinformed, hsent.mono .inl, ?_⟩
  rintro (⟨hact, -⟩ | hison)
  · exact absurd hact hphase
  · exact hinformed.slaveOn hison.1 hison.2

/-- A step of another port does not concern the end. -/
theorem EndKept.of_other (hinformed : Informed own peer peerOn (d.ports own.port).wr)
    (hsent : SentBy own on (d.sent own.port)) {j : ℕ} {n : Node} {phase : Phase}
    (hj : j ≠ own.port) (hphase : d.phase ≠ .act own.port)
    (heq : Daemon.step own.rtOpts o d = d.store j n phase) : EndKept own peer on peerOn o d := by
  have hports : (d.store j n phase).ports own.port = d.ports own.port :=
    Daemon.store_ports_of_ne _ _ hj.symm
  have hframes : (d.store j n phase).sent own.port = d.sent own.port :=
    Function.update_of_ne hj.symm _ _
  refine .of_quiet hphase ?_ ?_ <;> rw [heq]
  · rwa [hports]
  · rwa [hframes]

/-- A step of the port itself that is not its turn to act. -/
theorem EndKept.of_self {n : Node} {phase : Phase} (hphase : d.phase ≠ .act own.port)
    (heq : Daemon.step own.rtOpts o d = d.store own.port n phase)
    (hinformed : Informed own peer peerOn n.port.wr) (hsent : SentBy own on n.netif.sent) :
    EndKept own peer on peerOn o d := by
  have hframes : (d.store own.port n phase).sent own.port = n.netif.sent :=
    Function.update_self _ _ _
  refine .of_quiet hphase ?_ ?_ <;> rw [heq]
  · rwa [Daemon.store_ports_self]
  · rwa [hframes]

/-- The port acts. -/
theorem EndKept.act (hphase : d.phase = .act own.port) (hpeer : SentBy peer peerOn peerSent)
    (hn : EndInvariant own peer peerSent on peerOn (d.node own.port o)) :
    EndKept own peer on peerOn o d := by
  have hdone := doStateActions_endInvariant own.rtOpts hn hpeer
  have hport : (Daemon.step own.rtOpts o d).ports own.port =
      (doStateActions own.rtOpts (d.node own.port o)).port := by
    rw [Daemon.step_act own.rtOpts o hphase, Daemon.store_ports_self]
  have hframes : (Daemon.step own.rtOpts o d).sent own.port =
      (doStateActions own.rtOpts (d.node own.port o)).netif.sent := by
    rw [Daemon.step_act own.rtOpts o hphase]
    exact Function.update_self _ _ _
  refine ⟨hport ▸ hdone.informed, ?_, ?_⟩ <;> unfold OnDuring
  · rw [hframes]
    refine hdone.sent.mono ?_
    rintro (hon | hactions | hison)
    · exact .inl hon
    · exact .inr (.inl ⟨hphase, hactions⟩)
    · exact .inr (.inr (hport ▸ hison))
  · rintro (⟨-, -, hison⟩ | hison)
    · have hactions := (doWRState_endInvariant own.rtOpts hn hpeer).1
      exact hactions.informed.slaveOn hison.1 hison.2
    · rw [hport] at hison
      exact hdone.informed.slaveOn hison.1 hison.2

/-- Every step of the daemon of an end keeps what holds of the end. -/
theorem daemonStep_end (hinformed : Informed own peer peerOn (d.ports own.port).wr)
    (hsent : SentBy own on (d.sent own.port)) (hpeer : SentBy peer peerOn peerSent)
    (henvirons : d.phase = .decide own.port ∨ d.phase = .act own.port → Environs own peerSent o) :
    EndKept own peer on peerOn o d := by
  cases hphase : d.phase with
  | link j =>
    obtain ⟨phase, heq, -⟩ := Daemon.step_link own.rtOpts o hphase
    -- The step of another port of the daemon leaves this end alone.
    by_cases hj : j = own.port
    · subst hj
      obtain ⟨hlinked, hnothing⟩ :=
        linked_informed own.rtOpts (n := d.node own.port o) hinformed
      exact .of_self (by simp [hphase]) heq hlinked (hnothing ▸ hsent)
    · exact .of_other hinformed hsent hj (by simp [hphase]) heq
  | decide j =>
    have heq := Daemon.step_decide own.rtOpts o hphase
    by_cases hj : j = own.port
    · subst hj
      have hn : EndInvariant own peer peerSent on peerOn (d.node own.port o) :=
        ⟨hinformed, hsent, henvirons (.inl hphase)⟩
      have hdone := stateDecision_endInvariant own.rtOpts hn d.bestForeign
      exact .of_self (by simp [hphase]) heq hdone.informed hdone.sent
    · exact .of_other hinformed hsent hj (by simp [hphase]) heq
  | act j =>
    by_cases hj : j = own.port
    · subst hj
      exact .act hphase hpeer ⟨hinformed, hsent, henvirons (.inr hphase)⟩
    · exact .of_other hinformed hsent hj (by simpa [hphase] using hj)
        (Daemon.step_act own.rtOpts o hphase)
  | shared =>
    obtain ⟨tics, extsrcLocked, heq⟩ := Daemon.step_shared own.rtOpts o hphase
    -- `sharedPortsLoop` writes to the tables and the clock only.
    have hport := sharedPortsLoop_port d.ports tics extsrcLocked d.clk own.port
    refine .of_quiet (by simp [hphase]) ?_ ?_ <;> rw [heq]
    · show Informed own peer peerOn
        ((sharedPortsLoop tics extsrcLocked d.ports d.clk).1 own.port).wr
      rwa [hport]
    · exact hsent

end DaemonStep

lemma Side.other_other (x : Side) : x.other.other = x := by cases x <;> rfl

lemma Side.other_ne (x : Side) : x.other ≠ x := by cases x <;> decide

/-- The invariant holds when both daemons start. -/
theorem Invariant.start (h : Start ends s) : Invariant ends s := by
  refine ⟨fun x => ?_, fun x => ?_, fun x hslave => ?_⟩
  · obtain ⟨⟨-, macs, extsrcLocked, tics, clk, heq⟩, -⟩ := h x
    unfold wr
    rw [heq]
    exact ⟨nofun, nofun, fun _ hpresent => absurd rfl hpresent, nofun, nofun, nofun, nofun, nofun,
      nofun⟩
  · obtain ⟨⟨-, macs, extsrcLocked, tics, clk, heq⟩, -⟩ := h x
    unfold Link.sent
    rw [heq]
    exact nofun
  · rw [(h x).2] at hslave
    cases hslave

/-- Every step of either daemon keeps the invariant. -/
theorem Invariant.step (h : Invariant ends s) (input : Side × Oracle)
    (hguard : Guard ends input s) : Invariant ends (Link.step ends input s) := by
  obtain ⟨x, o⟩ := input
  obtain ⟨hinformed, hsent, hslave⟩ :=
    daemonStep_end (h.informed x) (h.sent x) (h.sent x.other) hguard
  have hdaemon : (Link.step ends (x, o) s).daemon x =
      Daemon.step (ends x).rtOpts o (s.daemon x) := Function.update_self _ _ _
  have hwasOn : ∀ wrMode, (Link.step ends (x, o) s).wasOn x wrMode = true ↔
      s.wasOn x wrMode = true ∨ OnDuring (ends x) o (s.daemon x) wrMode := by
    intro wrMode
    simp [Link.step]
  have hkept : (Link.step ends (x, o) s).daemon x.other = s.daemon x.other ∧
      (Link.step ends (x, o) s).wasOn x.other = s.wasOn x.other :=
    ⟨Function.update_of_ne (Side.other_ne x) _ _, Function.update_of_ne (Side.other_ne x) _ _⟩
  obtain ⟨hkeptDaemon, hkeptOn⟩ := hkept
  have hcases : ∀ {P : Side → Prop}, P x → P x.other → ∀ y, P y := by
    intro P hx hother y
    cases x <;> cases y <;> assumption
  refine ⟨hcases ?_ ?_, hcases ?_ ?_, hcases ?_ ?_⟩
  · unfold wr
    rw [hdaemon, hkeptOn]
    exact hinformed
  · -- The other end learns from frames only, and what has been stays.
    have hold := h.informed x.other
    rw [Side.other_other] at hold ⊢
    unfold wr at hold ⊢
    rw [hkeptDaemon]
    exact hold.mono fun hon => (hwasOn _).mpr (.inl hon)
  · unfold Link.sent
    rw [hdaemon]
    exact hsent.mono fun hon => (hwasOn _).mpr hon
  · have hold := h.sent x.other
    unfold Link.sent at hold ⊢
    rw [hkeptDaemon, hkeptOn]
    exact hold
  · rw [hwasOn, hkeptOn]
    exact fun hon => hon.elim (h.slave x) hslave
  · rw [hkeptOn, Side.other_other, hwasOn]
    intro hon
    have hpeer := h.slave x.other hon
    rw [Side.other_other] at hpeer
    exact .inl hpeer

/-- What a side does leaves the frames of the other one. -/
lemma step_sent_other (x : Side) (o : Oracle) :
    sent ends (Link.step ends (x, o) s) x.other = sent ends s x.other := by
  unfold Link.sent
  congr 1
  exact Function.update_of_ne (Side.other_ne x) _ _

/-- A side may take any number of steps on what the link has delivered to it. -/
lemma guardedRun_replicate (h : GuardedRun (Start ends) (Link.step ends) (Guard ends) s)
    {x : Side} {o : Oracle} (ho : Environs (ends x) (sent ends s x.other) o) (k : ℕ) :
    GuardedRun (Start ends) (Link.step ends) (Guard ends)
      (runInputs (Link.step ends) s (List.replicate k (x, o))) := by
  induction k generalizing s with
  | zero => exact h
  | succ k ih => exact ih (.step (x, o) h fun _ => ho) (by rwa [step_sent_other])

/-! ### Runs of two ready ends -/

/-- Two ends whose hardware always succeeds: a master on the left, a slave on the right. -/
def readyEnds : Side → LinkEnd := fun _ => ⟨defaultRtOpts 1, 0, 1000, 2000⟩

@[inherit_doc readyEnds]
def readyMode : Side → HexpPortMode
  | .left => .wrMaster
  | .right => .wrSlave

/-- What the link delivers to an end: nothing, the announcement of the other end, or the frame that
the other end has sent after `k` others. -/
inductive Delivery
  | nothing
  | announce
  | frame (k : ℕ)

/-- The reception of what the link delivers. -/
def delivered (s : LinkState) (x : Side) : Delivery → Reception
  | .nothing => .nothing
  | .announce =>
    let n := (s.daemon x.other).node 0 (.ready true (readyMode x.other) .nothing 64 0)
    .frame ![0x01, 0x1b, 0x19, 0, 0, 0] (announceFrame n) ⟨0, 0, 0, 1⟩
  | .frame k =>
    .frame ![0x01, 0x1b, 0x19, 0, 0, 0] ((sent readyEnds s x.other).getD k []) ⟨0, 0, 0, 1⟩

/-- An end takes the four steps of an iteration of its main loop on what is delivered to it. -/
def iterate (s : LinkState) (x : Side) (delivery : Delivery) : LinkState :=
  let o := Oracle.ready true (readyMode x) (delivered s x delivery) 64 0
  runInputs (Link.step readyEnds) s (List.replicate 4 (x, o))

/-- The ends take turns. -/
def exchange (s : LinkState) (turns : List (Side × Delivery)) : LinkState :=
  turns.foldl (fun s turn => iterate s turn.1 turn.2) s

/-- Both ends start. -/
def readyStart : LinkState where
  daemon
    | .left => .single ![2, 0, 0, 0, 0, 1]
    | .right => .single ![2, 0, 0, 0, 0, 2]
  wasOn _ _ := false

/-- What is delivered is no forged signaling message. -/
lemma delivered_environs (s : LinkState) (x : Side) (delivery : Delivery) :
    Environs (readyEnds x) (sent readyEnds s x.other)
      (.ready true (readyMode x) (delivered s x delivery) 64 0) := by
  refine ⟨fun _ macDest data rxTs hrecv hsignaling => ?_, ?_, ?_⟩
  · simp only [Oracle.ready] at hrecv
    -- A delivered frame is the announcement, or one that was sent, or an empty one.
    cases delivery with
    | nothing => cases hrecv
    | announce =>
      cases hrecv
      exact absurd hsignaling (announceFrame_notSignaling _)
    | frame k =>
      cases hrecv
      rw [List.getD_eq_getElem?_getD] at hsignaling ⊢
      cases hk : (sent readyEnds s x.other)[k]? with
      | none =>
        rw [hk] at hsignaling
        cases hsignaling
      | some frame => exact List.mem_of_getElem? hk
  · rintro _ _ ⟨⟩
    rfl
  · rintro _ _ ⟨⟩
    rfl

/-- Whatever the link delivers, the ends are on a guarded run. -/
theorem exchange_run {s : LinkState}
    (h : GuardedRun (Start readyEnds) (Link.step readyEnds) (Guard readyEnds) s)
    (turns : List (Side × Delivery)) :
    GuardedRun (Start readyEnds) (Link.step readyEnds) (Guard readyEnds) (exchange s turns) := by
  induction turns generalizing s with
  | nil => exact h
  | cons turn turns ih =>
    exact ih (guardedRun_replicate h (delivered_environs s turn.1 turn.2) 4)

lemma readyStart_start : Start readyEnds readyStart
  | .left => ⟨Daemon.single_initial _, fun _ => rfl⟩
  | .right => ⟨Daemon.single_initial _, fun _ => rfl⟩

/-- A whole set-up: the slave hears the announcement of the master, and then each end hears every
frame of the other. -/
def handshake : List (Side × Delivery) :=
  [(.left, .nothing), (.right, .nothing), (.left, .nothing), (.right, .announce),
    (.right, .nothing), (.left, .frame 0), (.right, .frame 0), (.right, .nothing),
    (.left, .frame 1), (.right, .frame 1), (.left, .nothing), (.right, .frame 2),
    (.left, .frame 2), (.right, .nothing), (.left, .frame 3), (.right, .frame 3)]

/-! ### The agreement -/

/-- On every run of two daemons that are joined by a link, an end in White Rabbit mode knows exactly
the delays that the hardware of the other end reports; and an end has been in White Rabbit mode as a
slave only after the other end has been in it as a master. -/
theorem link_agreement (h : GuardedRun (Start ends) (Link.step ends) (Guard ends) s) (x : Side) :
    ((wr ends s x).wrModeON = true →
      (wr ends s x).otherNodeDeltaTx = .ofPicos (ends x.other).deltaTx ∧
        (wr ends s x).otherNodeDeltaRx = .ofPicos (ends x.other).deltaRx) ∧
      (s.wasOn x .wrSlave = true → s.wasOn x.other .wrMaster = true) := by
  have hinvariant : Invariant ends s :=
    h.invariant (fun _ => .start) fun input _ hs => hs.step input
  exact ⟨(hinvariant.informed x).on, hinvariant.slave x⟩

set_option maxRecDepth 100000 in
/-- At the end of a whole set-up both ends know the delays of the other. -/
theorem handshake_agreement :
    let s := exchange readyStart handshake
    ((wr readyEnds s .left).wrModeON = true ∧ (wr readyEnds s .right).wrModeON = true ∧
      s.wasOn .right .wrSlave = true) ∧
      (∀ x, (wr readyEnds s x).otherNodeDeltaTx = .ofPicos 1000 ∧
        (wr readyEnds s x).otherNodeDeltaRx = .ofPicos 2000) ∧
      s.wasOn .left .wrMaster = true := by
  have hrun := exchange_run (.start readyStart_start) handshake
  -- The run itself is computed; what the ends know of each other follows from the agreement.
  have hon : (wr readyEnds (exchange readyStart handshake) .left).wrModeON = true ∧
      (wr readyEnds (exchange readyStart handshake) .right).wrModeON = true ∧
      (exchange readyStart handshake).wasOn .right .wrSlave = true := by decide +kernel
  obtain ⟨hleft, hright, hslave⟩ := hon
  have hknows (x : Side) (hx : (wr readyEnds (exchange readyStart handshake) x).wrModeON = true) :=
    (link_agreement hrun x).1 hx
  refine ⟨⟨hleft, hright, hslave⟩, ?_, (link_agreement hrun .right).2 hslave⟩
  rintro (_ | _)
  · exact hknows .left hleft
  · exact hknows .right hright

end Link

end WhiteRabbitPtp
