import WhiteRabbitPtp.Correctness.WrSteps

/-!
# What a state decision and the initialization change

The actions of a state decision write the parent's data, in the clock's data set and in the White
Rabbit data of the port, and the slave-wise role of the port. They leave alone what `Decided` lists.
The transition to the recommended state comes after them.

## Main definitions

* `Decided`: what the state decision algorithm leaves alone.

## Main results

* `bmc_decided`: the state decision algorithm is a `Decided`.
* `followRecommendation_cases`: the transition to the recommended state.
* `doInit_eq`: what initialization establishes.
-/

namespace WhiteRabbitPtp

open Octets

/-- What the state decision algorithm leaves alone. -/
structure Decided (n n' : Node) : Prop where
  portState : n'.port.portState = n.port.portState
  linkUP : n'.port.linkUP = n.port.linkUP
  versionNumber : n'.port.versionNumber = n.port.versionNumber
  clockIdentity : n'.port.clockIdentity = n.port.clockIdentity
  portIdentity : n'.port.portIdentity = n.port.portIdentity
  fm : n'.port.fm = n.port.fm
  netif : n'.netif = n.netif
  wr : n'.port.wr = { n.port.wr with
    parentWrConfig := n'.port.wr.parentWrConfig
    parentIsWRnode := n'.port.wr.parentIsWRnode
    parentWrModeON := n'.port.wr.parentWrModeON
    parentCalibrated := n'.port.wr.parentCalibrated
    wrSlaveRole := n'.port.wr.wrSlaveRole }
  numberPorts : n'.clk.numberPorts = n.clk.numberPorts
  clockQuality : n'.clk.clockQuality = n.clk.clockQuality
  priority1 : n'.clk.priority1 = n.clk.priority1
  priority2 : n'.clk.priority2 = n.clk.priority2
  ebest : n'.clk.Ebest = n.clk.Ebest
  bestForeign : n'.clk.bestForeign = n.clk.bestForeign
  globalStateDecisionEvent : n'.clk.globalStateDecisionEvent = n.clk.globalStateDecisionEvent

namespace Decided

variable {n n' n'' : Node}

@[refl]
theorem refl (n : Node) : Decided n n := by constructor <;> rfl

@[trans]
theorem trans (h : Decided n n') (h' : Decided n' n'') : Decided n n'' where
  portState := h'.portState.trans h.portState
  linkUP := h'.linkUP.trans h.linkUP
  versionNumber := h'.versionNumber.trans h.versionNumber
  clockIdentity := h'.clockIdentity.trans h.clockIdentity
  portIdentity := h'.portIdentity.trans h.portIdentity
  fm := h'.fm.trans h.fm
  netif := h'.netif.trans h.netif
  wr := by rw [h'.wr, h.wr]
  numberPorts := h'.numberPorts.trans h.numberPorts
  clockQuality := h'.clockQuality.trans h.clockQuality
  priority1 := h'.priority1.trans h.priority1
  priority2 := h'.priority2.trans h.priority2
  ebest := h'.ebest.trans h.ebest
  bestForeign := h'.bestForeign.trans h.bestForeign
  globalStateDecisionEvent := h'.globalStateDecisionEvent.trans h.globalStateDecisionEvent

end Decided

/-! ### The actions of a decision -/

section Actions

variable (n : Node) (header : MsgHeader) (announce : MsgAnnounce)

theorem m1_decided : Decided n (m1 n) := by
  unfold m1
  constructor <;> rfl

theorem m3_decided : Decided n (m3 n) := by
  unfold m3
  constructor <;> rfl

theorem p1_decided : Decided n (p1 n) := by
  unfold p1
  constructor <;> rfl

theorem s1_decided : Decided n (s1 header announce n) := by
  unfold s1
  constructor <;> rfl

theorem s2_decided : Decided n (s2 header n) := by
  unfold s2
  constructor <;> rfl

theorem copyD0_decided : Decided n (copyD0 n) := by
  unfold copyD0
  constructor <;> rfl

/-- The updates that the algorithm may make, each with the state it recommends then. -/
inductive BmcUpdate (n : Node) : PtpState × Node → Prop
  | m1 : BmcUpdate n (.master, m1 n)
  | m3 : BmcUpdate n (.master, m3 n)
  | p1 : BmcUpdate n (.passive, p1 n)
  | s1 (header : MsgHeader) (announce : MsgAnnounce) : BmcUpdate n (.slave, s1 header announce n)
  | s2 (header : MsgHeader) : BmcUpdate n (.slave, s2 header n)
  | passive : BmcUpdate n (.passive, n)
  | listening : BmcUpdate n (.listening, n)

/-- The algorithm makes one of the updates, once it compares data sets on the copy of its own. -/
theorem bmc_update (bestForeign : ForeignMasterRecord) :
    BmcUpdate n (bmc bestForeign n) ∨ BmcUpdate (copyD0 n) (bmc bestForeign n) := by
  unfold bmc
  split
  · exact .inl .m1
  unfold bmcStateDecision
  split
  · exact .inl (.s1 _ _)
  split
  · exact .inl .m1
  split
  · exact .inl .listening
  refine .inr ?_
  dsimp only
  generalize copyD0 n = m
  split
  · -- A clock that does not become a slave is compared with the best record of the port.
    split
    · exact .m1
    split
    · exact .p1
    · exact .passive
  · -- Any other clock is compared with the best record of all ports.
    split
    · exact .m1
    split
    · split
      · exact .s1 _ _
      split
      · exact .s2 _
      · exact .m3
    · exact .passive

theorem BmcUpdate.decided {n : Node} {r : PtpState × Node} (h : BmcUpdate n r) :
    Decided n r.2 := by
  cases h with
  | m1 => exact m1_decided n
  | m3 => exact m3_decided n
  | p1 => exact p1_decided n
  | s1 => exact s1_decided n _ _
  | s2 => exact s2_decided n _
  | passive | listening => exact .refl n

/-- The state decision algorithm writes the parent's data only. -/
theorem bmc_decided (bestForeign : ForeignMasterRecord) : Decided n (bmc bestForeign n).2 := by
  rcases bmc_update n bestForeign with h | h
  · exact h.decided
  · exact (copyD0_decided n).trans h.decided

end Actions

/-! ### The transition to the recommended state -/

section Following

variable (rtOpts : RunTimeOpts) (n : Node)

/-- The port stays in its state, takes one transition, or becomes a candidate for a slave. -/
theorem followRecommendation_cases (state : PtpState) :
    followRecommendation rtOpts state n = n ∨
      (∃ s, followRecommendation rtOpts state n = toState s rtOpts n) ∨
      followRecommendation rtOpts state n = toState .uncalibrated rtOpts
        { n with port.wr.wrMode := .wrSlave, port.wr.wrModeON := false } := by
  unfold followRecommendation
  split
  · split
    · exact .inr (.inr rfl)
    · exact .inr (.inl ⟨state, rfl⟩)
  · split
    · exact .inr (.inl ⟨.uncalibrated, rfl⟩)
    · exact .inl rfl

/-- The transition to the recommended state stays inside the frame. -/
theorem followRecommendation_frame (state : PtpState) :
    Frame n (followRecommendation rtOpts state n) := by
  rcases followRecommendation_cases rtOpts n state with h | ⟨s, h⟩ | h <;> rw [h]
  · exact toState_frame _ _ _
  · refine .trans ?_ (toState_frame _ _ _)
    constructor <;> rfl

/-- The transition to the recommended state does not touch the foreign masters. -/
theorem followRecommendation_fm (state : PtpState) :
    (followRecommendation rtOpts state n).port.fm = n.port.fm := by
  rcases followRecommendation_cases rtOpts n state with h | ⟨s, h⟩ | h <;> rw [h]
  · exact toState_fm _ _ _
  · rw [toState_fm]

/-- Whether a port makes a state decision in its second phase. -/
def Decides (n : Node) : Prop :=
  n.port.portState.decides = true ∧ n.clk.globalStateDecisionEvent = true ∧
    n.port.wr.wrPortState = .idle

instance : DecidablePred Decides := fun n => by
  unfold Decides
  infer_instance

/-- A port without an event or with a running White Rabbit state machine decides nothing. -/
theorem stateDecision_of_not (bestForeign : ForeignMasterRecord)
    (h : ¬(n.port.portState.decides = true ∧ n.clk.globalStateDecisionEvent = true ∧
      n.port.wr.wrPortState = .idle)) : stateDecision rtOpts bestForeign n = n := by
  unfold stateDecision
  rw [if_neg h]

/-- What a decision starts from: the mark of new Announce messages is taken back. -/
def deciding (n : Node) : Node := { n with port.fm.recordUpdate := false }

/-- A state decision is the algorithm and the transition to the state it recommends. -/
theorem stateDecision_of (bestForeign : ForeignMasterRecord)
    (h : n.port.portState.decides = true ∧ n.clk.globalStateDecisionEvent = true ∧
      n.port.wr.wrPortState = .idle) :
    stateDecision rtOpts bestForeign n =
      followRecommendation rtOpts (bmc bestForeign (deciding n)).1
        (bmc bestForeign (deciding n)).2 := by
  unfold stateDecision
  rw [if_pos h]
  rfl

end Following

/-! ### Initialization -/

section Initialization

variable (rtOpts : RunTimeOpts) (n : Node)

/-- The port after its initialization, before it starts listening. -/
def initialized (rtOpts : RunTimeOpts) (n : Node) : Node :=
  let n := initDataPort rtOpts n
  let n := if n.port.wr.wrConfig = .wrModeAuto then autoDetectPortWrConfig n else n
  let n := if n.port.wr.wrConfig = .wrSOnly then wrServoReset n else n
  let n := { n with port.timers := fun t => (n.port.timers t).stop }
  let n := m1 n
  { n with port.msgObuf := msgPackHeader n.port.msgObuf n.clk n.port }

/-- Initialization ends with listening. -/
theorem doInit_eq : doInit rtOpts n = toState .listening rtOpts (initialized rtOpts n) := rfl

/-- The foreign-master table is emptied without its cursors. -/
theorem initDataPort_fm :
    (initDataPort rtOpts n).port.fm = { n.port.fm with
      numberForeignRecords := 0, maxForeignRecords := rtOpts.maxForeignRecords } := rfl

/-- What initialization establishes: the White Rabbit state machine is idle and the foreign-master
table is empty. -/
structure Initialized (rtOpts : RunTimeOpts) (n n' : Node) : Prop where
  fm : n'.port.fm = { n.port.fm with
    numberForeignRecords := 0, maxForeignRecords := rtOpts.maxForeignRecords }
  wrPortState : n'.port.wr.wrPortState = .idle
  wrMode : n'.port.wr.wrMode = .nonWr
  wrModeON : n'.port.wr.wrModeON = false
  register : n'.port.wr.msgTmpWrMessageID = n.port.wr.msgTmpWrMessageID
  versionNumber : n'.port.versionNumber = 2
  linkUP : n'.port.linkUP = n.port.linkUP
  sent : n'.netif.sent = n.netif.sent
  ebest : n'.clk.Ebest = n.clk.Ebest
  bestForeign : n'.clk.bestForeign = n.clk.bestForeign
  numberPorts : n'.clk.numberPorts = n.clk.numberPorts
  globalStateDecisionEvent : n'.clk.globalStateDecisionEvent = n.clk.globalStateDecisionEvent

theorem initialized_initialized : Initialized rtOpts n (initialized rtOpts n) := by
  unfold initialized
  dsimp only
  split <;> split <;> constructor <;> rfl

/-- Initialization ends with an initialized port that is listening. -/
theorem doInit_initialized : Initialized rtOpts n (doInit rtOpts n) := by
  have hinit := initialized_initialized rtOpts n
  rw [doInit_eq]
  generalize initialized rtOpts n = m at hinit ⊢
  -- The transition to `PTP_LISTENING` concerns timers, the state and the mode only.
  have hframe := toState_frame rtOpts m .listening
  obtain ⟨hwr, hsent⟩ := toState_eq rtOpts m hinit.wrPortState
    (show PtpState.listening ≠ .uncalibrated by decide)
  rw [leaveState_wr] at hwr
  refine ⟨by rw [toState_fm, hinit.fm], ?_, ?_, ?_, ?_,
    hframe.versionNumber.trans hinit.versionNumber,
    hframe.linkUP.trans hinit.linkUP, hsent.trans hinit.sent, ?_, ?_, ?_, ?_⟩
  -- A port that was a slave leaves a mode it no longer has.
  · rw [hwr]
    split <;> exact hinit.wrPortState
  · rw [hwr]
    split
    · rfl
    · exact hinit.wrMode
  · rw [hwr]
    split
    · rfl
    · exact hinit.wrModeON
  · rw [hwr]
    split <;> exact hinit.register
  · rw [hframe.clk, hinit.ebest]
  · rw [hframe.clk, hinit.bestForeign]
  · rw [hframe.clk, hinit.numberPorts]
  · rw [hframe.clk, hinit.globalStateDecisionEvent]

/-- Initialization ends with listening. -/
theorem doInit_portState : (doInit rtOpts n).port.portState = .listening := by
  have hidle := (initialized_initialized rtOpts n).wrPortState
  rw [doInit_eq, toState, if_neg (not_not.mpr hidle)]
  exact enterState_portState rtOpts _ (by decide) (by decide)

/-- A transition to `PTP_INITIALIZING` keeps the register and sends nothing. -/
theorem toState_initializing_eq :
    (toState .initializing rtOpts n).port.wr.msgTmpWrMessageID = n.port.wr.msgTmpWrMessageID ∧
      (toState .initializing rtOpts n).netif.sent = n.netif.sent := by
  by_cases hidle : n.port.wr.wrPortState = .idle
  · obtain ⟨hwr, hsent⟩ := toState_eq rtOpts n hidle
      (show PtpState.initializing ≠ .uncalibrated by decide)
    refine ⟨?_, hsent⟩
    rw [hwr, leaveState_wr]
    split <;> rfl
  · -- A running White Rabbit state machine refuses the transition.
    rw [toState_running rtOpts n hidle]
    exact ⟨rfl, rfl⟩

/-- A slave-only port forgets its foreign masters. -/
def clearIfSlaveOnly (port : PtpPortDS) : PtpPortDS :=
  if port.wr.wrConfig = .wrSOnly then clearForeignMasters port else port

theorem clearIfSlaveOnly_eq (port : PtpPortDS) :
    clearIfSlaveOnly port = { port with fm := (clearIfSlaveOnly port).fm } := by
  unfold clearIfSlaveOnly
  split <;> rfl

/-- Resetting the servo only concerns its static variables. -/
theorem wrServoReset_of_slave :
    (if n.port.wr.wrMode = .wrSlave then wrServoReset n else n).port = n.port ∧
      (if n.port.wr.wrMode = .wrSlave then wrServoReset n else n).clk = n.clk ∧
      (if n.port.wr.wrMode = .wrSlave then wrServoReset n else n).netif.sent = n.netif.sent := by
  split <;> exact ⟨rfl, rfl, rfl⟩

/-- The link state and the (re-)initialization of a port: it is initialized, or it keeps everything
but its link state and, when it is slave-only, its foreign masters. -/
theorem updateLink_cases :
    (∃ m, Initialized rtOpts { n with port.linkUP := n.answer .getPortState } (doInit rtOpts m) ∧
      updateLink rtOpts n = { doInit rtOpts m with
        port := { clearIfSlaveOnly (doInit rtOpts m).port with doRestart := false } }) ∨
    ((n.answer .getPortState : Bool) = true → n.port.linkUP = true) ∧
      (∃ port, (port = n.port ∨ port = clearIfSlaveOnly n.port) ∧
        (updateLink rtOpts n).port = { port with linkUP := n.answer .getPortState }) ∧
      (updateLink rtOpts n).clk = n.clk ∧
      (updateLink rtOpts n).netif.sent = n.netif.sent := by
  unfold updateLink
  generalize (n.answer .getPortState : Bool) = up
  dsimp only
  split
  next h =>
    refine .inl ⟨toState .initializing rtOpts
      { n.called .getPortState with port.linkUP := up }, ?_, ?_⟩
    · -- The port is initialized out of `PTP_INITIALIZING`, which it enters first.
      generalize hlinked : ({ n.called .getPortState with port.linkUP := up } : Node) = linked
      have hframe := toState_frame rtOpts linked .initializing
      obtain ⟨hregister, hsent⟩ := toState_initializing_eq rtOpts linked
      have hfm := toState_fm rtOpts linked .initializing
      have hinit := doInit_initialized rtOpts (toState .initializing rtOpts linked)
      generalize toState .initializing rtOpts linked = m at *
      subst hlinked
      exact ⟨by rw [hinit.fm, hfm]; rfl, hinit.wrPortState, hinit.wrMode, hinit.wrModeON,
        hinit.register.trans hregister, hinit.versionNumber, hinit.linkUP.trans hframe.linkUP,
        hinit.sent.trans hsent, by rw [hinit.ebest, hframe.clk]; rfl,
        by rw [hinit.bestForeign, hframe.clk]; rfl, by rw [hinit.numberPorts, hframe.clk]; rfl,
        by rw [hinit.globalStateDecisionEvent, hframe.clk]; rfl⟩
    · unfold clearIfSlaveOnly
      generalize doInit rtOpts _ = m
      split <;> rfl
  next h =>
    have hup : up = true → n.port.linkUP = true := fun hup => by
      -- A link that has come up would have initialized the port.
      by_contra hdown
      exact h (.inl ⟨hup, by simpa using hdown⟩)
    refine .inr ⟨hup, ?_⟩
    -- What the port forgets and the reset of the servo only matter when the link went down.
    split
    next hdown =>
      refine ⟨⟨clearIfSlaveOnly n.port, .inr rfl, (wrServoReset_of_slave _).1.trans ?_⟩,
        (wrServoReset_of_slave _).2.1.trans ?_, (wrServoReset_of_slave _).2.2.trans ?_⟩
      · unfold clearIfSlaveOnly
        split
        next honly => rw [if_pos (show n.port.wr.wrConfig = .wrSOnly from honly)]; rfl
        next honly => rw [if_neg (show n.port.wr.wrConfig ≠ .wrSOnly from honly)]; rfl
      · split <;> rfl
      · split <;> rfl
    next hdown => exact ⟨⟨_, .inl rfl, rfl⟩, rfl, rfl⟩

end Initialization

end WhiteRabbitPtp
