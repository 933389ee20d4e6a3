import WhiteRabbitPtp.Correctness.Steps

/-!
# The two state machines and each other

While the White Rabbit state machine of a port is running, its PTP state machine refuses every
transition. So the port has to be in a state whose actions run the White Rabbit state machine.

One step breaks this: an idle master whose first message of the link set-up cannot be sent becomes
faulty before the White Rabbit state machine counts as running, which then starts all the same.

## Main definitions

* `Interlock`: a running White Rabbit state machine is driven by the PTP state.
* `SetupFails`: the step that breaks the interlock.

## Main results

* `interlock_of_guardedRun`: the interlock holds in every run without such a step.
* `interlock_fails`: a run with such a step, after which it does not hold.
-/

namespace WhiteRabbitPtp

open Octets InputSystem

/-- While the White Rabbit state machine is running, the port is in a state that runs it. -/
def Interlock (port : PtpPortDS) : Prop :=
  port.wr.wrPortState ≠ .idle →
    port.portState = .uncalibrated ∧ port.wr.wrMode = .wrSlave ∨
      port.portState = .master ∧ port.wr.wrMode = .wrMaster

/-- A master-capable master hears a slave that is present, and the answer cannot be sent. -/
def SetupFails (n : Node) : Prop :=
  n.port.portState = .master ∧ n.port.wr.wrPortState = .idle ∧
    (n.port.wr.wrConfig = .wrMOnly ∨ n.port.wr.wrConfig = .wrMAndS) ∧
    HearsSignaling n ∧ (signaled (received n)).port.wr.msgTmpWrMessageID = SLAVE_PRESENT ∧
    (n.answer .sendto : SendResult).ret = 0

/-! ### Transitions -/

section Transitions

variable {P : List UInt8 → Prop} {rtOpts : RunTimeOpts} {n n' : Node}

/-- An idle White Rabbit state machine imposes nothing. -/
theorem Interlock.of_idle {port : PtpPortDS} (h : port.wr.wrPortState = .idle) : Interlock port :=
  fun hrun => absurd h hrun

/-- A port whose White Rabbit state machine was left alone stays interlocked. -/
theorem WrFrame.interlock (h : WrFrame P n n') (hn : Interlock n.port) : Interlock n'.port := by
  by_cases hidle : n.port.wr.wrPortState = .idle
  · exact .of_idle (h.wrPortState.trans hidle)
  · obtain ⟨hwr, hstate⟩ := h.eq_of_running hidle
    intro _
    rw [hwr, hstate]
    exact hn hidle

/-- A transition of a running White Rabbit state machine keeps state and mode of the port. -/
theorem toWRState_interlock (hrun : n.port.wr.wrPortState ≠ .idle) (hn : Interlock n.port)
    {s : WrState} (hmain : s.mainState = s) : Interlock (toWRState s rtOpts n).port := by
  obtain ⟨⟨t, -, hmoved⟩, hstate⟩ := toWRState_wr rtOpts n hrun hmain
  have hmode : (toWRState s rtOpts n).port.wr.wrMode = n.port.wr.wrMode := by
    rw [hmoved]
    unfold WrPortDS.entering
    split <;> rfl
  intro _
  rw [hmode, hstate]
  exact hn hrun

/-- A transition to `PTP_UNCALIBRATED` starts the White Rabbit state machine of a slave, or it ends
in `PTP_SLAVE` without it. -/
theorem toState_uncalibrated_cases (rtOpts : RunTimeOpts) (hidle : n.port.wr.wrPortState = .idle) :
    let n' := toState .uncalibrated rtOpts n
    n'.port.portState = .uncalibrated ∧ n'.port.wr.wrPortState = .present ∧
        n'.port.wr.wrMode = .wrSlave ∨
      n'.port.portState = .slave ∧ n'.port.wr.wrPortState = .idle ∧
        (n'.port.wr.wrMode = .wrSlave ∨ n'.port.wr.wrMode = .nonWr) := by
  have hleft : (leaveState rtOpts n).port.wr.wrPortState = .idle := by
    rw [leaveState_wr]
    split <;> exact hidle
  unfold toState
  rw [if_neg (by simp [hidle])]
  unfold enterState
  dsimp only
  split
  next hslave =>
    split
    · -- A port that was a slave has lost the mode of a slave on leaving that state.
      have hnot : (leaveState rtOpts n).port.portState ≠ .slave := by
        intro h
        rw [leaveState_portState] at h
        have hmode := hslave.1
        rw [leaveState_wr, if_pos h] at hmode
        cases hmode
      obtain ⟨m, id, -, rfl, hmoved, -, -⟩ :=
        toWRState_start rtOpts (leaveState rtOpts n) hleft (.inl rfl)
      refine .inl ⟨rfl, ?_⟩
      show (toWRState .present rtOpts (leaveState rtOpts n)).port.wr.wrPortState = _ ∧
        (toWRState .present rtOpts (leaveState rtOpts n)).port.wr.wrMode = _
      rw [hmoved]
      refine ⟨rfl, ?_⟩
      rcases (issueWRSignalingMsg_wrFrame rtOpts (initWrData .reInit (leaveState rtOpts n)) id).wr
        with h | ⟨⟨-, h⟩, -⟩
      · rw [h]
        exact hslave.1
      · exact absurd h hnot
    · exact .inr ⟨rfl, hleft, .inl hslave.1⟩
  · exact .inr ⟨rfl, hleft, .inr rfl⟩

/-- A PTP transition interlocks the port: it starts the White Rabbit state machine only in
`PTP_UNCALIBRATED`, and only of a slave. -/
theorem toState_interlock (hidle : n.port.wr.wrPortState = .idle) (state : PtpState) :
    Interlock (toState state rtOpts n).port := by
  by_cases hstate : state = .uncalibrated
  · subst hstate
    rcases toState_uncalibrated_cases rtOpts hidle with ⟨hs, -, hmode⟩ | ⟨-, hstopped, -⟩
    · exact fun _ => .inl ⟨hs, hmode⟩
    · exact .of_idle hstopped
  · refine .of_idle ((toState_eq rtOpts n hidle hstate).1 ▸ ?_)
    rw [leaveState_wr]
    split <;> exact hidle

/-- A message that could be sent changes neither the state of the port nor its White Rabbit data. -/
theorem issueWRSignalingMsg_of_ret (rtOpts : RunTimeOpts) (id : UInt16)
    (hret : (n.answer .sendto : SendResult).ret ≠ 0) :
    (issueWRSignalingMsg id rtOpts n).port.wr = n.port.wr ∧
      (issueWRSignalingMsg id rtOpts n).port.portState = n.port.portState := by
  unfold issueWRSignalingMsg issueMsg
  dsimp only
  split
  next hzero => exact absurd hzero hret
  · exact ⟨rfl, rfl⟩

/-! ### Handling a frame -/

/-- Neither receiving nor initializing uses up an answer to `ptpd_netif_sendto`. -/
theorem startingMaster_answer (n : Node) :
    (initWrData .reInit (asWrMaster (signaled (received n)))).answer .sendto = n.answer .sendto :=
  calc (initWrData .reInit (asWrMaster (signaled (received n)))).answer .sendto
      = ((asWrMaster (signaled (received n))).called .readCalibrationData).answer .sendto := rfl
    _ = (asWrMaster (signaled (received n))).answer .sendto :=
      Node.answer_called_of_ne _ (by decide)
    _ = (received n).answer .sendto := rfl
    _ = (n.called .recvfrom).answer .sendto := by unfold Node.answer; rw [received_netif]
    _ = n.answer .sendto := Node.answer_called_of_ne _ (by decide)

/-- Handling a frame keeps the interlock unless the start of a link set-up fails. -/
theorem handle_interlock (hn : Interlock n.port) (h : ¬SetupFails n) :
    Interlock (handle rtOpts n).port := by
  rcases handle_cases rtOpts n with hframe | ⟨hhears, heq⟩
  · exact hframe.interlock hn
  have hwr : (signaled (received n)).port.wr.wrPortState = n.port.wr.wrPortState := by
    rw [signaled_wr, received_wr]
  rw [heq]
  rcases handleSignaling_cases rtOpts (received n) with hsig | ⟨⟨hmaster, hregister, hconfig⟩, hsig⟩
  · rw [hsig]
    intro hrun
    show (received n).port.portState = _ ∧ _ ∨ (received n).port.portState = _ ∧ _
    rw [signaled_wr, received_wr, received_portState]
    exact hn (by rwa [hwr] at hrun)
  -- The master starts the White Rabbit state machine, anew or for the first time.
  rw [hsig]
  generalize hm : asWrMaster (signaled (received n)) = m
  have hmmaster : m.port.portState = .master := by rw [← hm]; exact hmaster
  have hmmode : m.port.wr.wrMode = .wrMaster := by rw [← hm]; rfl
  have hmstate : m.port.wr.wrPortState = n.port.wr.wrPortState := by rw [← hm]; exact hwr
  by_cases hidle : n.port.wr.wrPortState = .idle
  · obtain ⟨m', id, -, rfl, hmoved, hstate, -⟩ :=
      toWRState_start rtOpts m (hmstate.trans hidle) (.inr rfl)
    have hret : ((initWrData .reInit m).answer .sendto : SendResult).ret ≠ 0 := by
      have hanswer : (initWrData .reInit m).answer .sendto = n.answer .sendto := by
        rw [← hm]
        exact startingMaster_answer n
      rw [hanswer]
      rw [received_portState] at hmaster
      intro hzero
      exact h ⟨hmaster, hidle, by rwa [received_wr] at hconfig, hhears, hregister, hzero⟩
    obtain ⟨hwr', hstate'⟩ := issueWRSignalingMsg_of_ret rtOpts id hret
    refine fun _ => .inr ⟨by rw [hstate, hstate']; exact hmmaster, ?_⟩
    rw [hmoved, hwr']
    exact hmmode
  · exact toWRState_interlock (by rwa [hmstate]) (fun _ => .inr ⟨hmmaster, hmmode⟩) rfl

/-- A running White Rabbit state machine keeps running while a frame is handled. -/
theorem handle_running (hrun : n.port.wr.wrPortState ≠ .idle) :
    (handle rtOpts n).port.wr.wrPortState ≠ .idle := by
  rcases handle_cases rtOpts n with hframe | ⟨-, heq⟩
  · rwa [hframe.wrPortState]
  have hwr : (signaled (received n)).port.wr.wrPortState = n.port.wr.wrPortState := by
    rw [signaled_wr, received_wr]
  rw [heq]
  rcases handleSignaling_cases rtOpts (received n) with hsig | ⟨-, hsig⟩
  · rwa [hsig, hwr]
  · rw [hsig]
    rw [toWRState_wrPortState _ _ (by rwa [← hwr] at hrun) rfl rfl]
    simp

/-! ### White Rabbit states -/

/-- The running state machine of an interlocked port. -/
def Driven (n : Node) : Prop := n.port.wr.wrPortState ≠ .idle ∧ Interlock n.port

/-- A change of the White Rabbit state to another one that is not `WRS_IDLE`. -/
theorem Driven.of_wr (h : Driven n) (hrun : n'.port.wr.wrPortState ≠ .idle)
    (hmode : n'.port.wr.wrMode = n.port.wr.wrMode)
    (hstate : n'.port.portState = n.port.portState) : Driven n' :=
  ⟨hrun, fun _ => by rw [hmode, hstate]; exact h.2 h.1⟩

theorem successor_ne_idle {s t : WrState} (h : s.successor = some t) : t ≠ .idle := by
  rintro rfl
  cases s <;> simp [WrState.successor] at h

/-- Every move keeps a port driven. -/
theorem WrMove.driven (h : WrMove rtOpts n n') (hn : Driven n) : Driven n' := by
  cases h with
  | called c => exact hn
  | handle => exact ⟨handle_running hn.1, handle_interlock hn.2 fun h => hn.1 h.2.1⟩
  | advance hnext => exact hn.of_wr (successor_ne_idle hnext) rfl rfl
  | respond _ _ hs => exact hn.of_wr (by rcases hs with rfl | rfl <;> simp) rfl rfl
  | deltaTx => exact hn.of_wr (by simp) rfl rfl
  | deltaRx => exact hn.of_wr (by simp) rfl rfl

theorem WrEnters.mainState {wr : WrPortDS} {s : WrState} (h : WrEnters wr s) :
    s.mainState = s := by
  cases h <;> rfl

/-- Every end leaves an interlocked port. -/
theorem WrEnd.interlock (h : WrEnd rtOpts n n') (hn : Driven n) : Interlock n'.port := by
  cases h with
  | stay => exact hn.2
  | enter h => exact toWRState_interlock hn.1 hn.2 h.mainState
  | lock =>
    have hlock : Interlock (toWRState .sLock rtOpts n).port :=
      toWRState_interlock hn.1 hn.2 (show WrState.sLock.mainState = .sLock from rfl)
    -- The register that is cleared then is not part of the interlock.
    generalize toWRState .sLock rtOpts n = m at hlock
    exact hlock
  | calibrated =>
    obtain ⟨hwr, hstate⟩ := issueWRSignalingMsg_running rtOpts n hn.1 CALIBRATED
    have hissued : Driven (issueWRSignalingMsg CALIBRATED rtOpts n) :=
      hn.of_wr (by rw [hwr]; exact hn.1) (by rw [hwr]) hstate
    unfold doCalibration8
    dsimp only
    generalize issueWRSignalingMsg CALIBRATED rtOpts n = m at hissued
    have hcalibrated : Interlock (toWRState .calibrated rtOpts m).port :=
      toWRState_interlock hissued.1 hissued.2
        (show WrState.calibrated.mainState = .calibrated from rfl)
    generalize toWRState .calibrated rtOpts m = m' at hcalibrated
    exact hcalibrated
  | linkOn =>
    have hidle : (toWRState .idle rtOpts n).port.wr.wrPortState = .idle :=
      toWRState_wrPortState _ _ hn.1 rfl rfl
    unfold doWrLinkOn
    dsimp only
    split
    · exact toState_interlock hidle _
    · exact toState_interlock hidle _
    · exact .of_idle hidle

theorem mainState_ne_idle {s : WrState} (h : s.mainState ≠ .idle) : s ≠ .idle := by
  rintro rfl
  exact h rfl

theorem mainState_mainState (s : WrState) : s.mainState.mainState = s.mainState := by
  cases s <;> rfl

/-- Time-outs keep the interlock. -/
theorem wrTimerExpired_interlock (hn : Interlock n.port) (wrMode : WrMode) :
    Interlock (wrTimerExpired n.port.wr.wrPortState.mainState rtOpts wrMode n).port := by
  rcases wrTimerExpired_cases rtOpts n n.port.wr.wrPortState.mainState wrMode with
    ⟨-, h⟩ | ⟨hrun, h⟩
  · rwa [h]
  have hpolled : Driven (wrTimerPolled n.port.wr.wrPortState.mainState n) := by
    unfold wrTimerPolled
    exact Driven.of_wr ⟨mainState_ne_idle hrun, hn⟩ (mainState_ne_idle hrun) rfl rfl
  rcases h with h | h | h <;> rw [h]
  · exact hpolled.2
  · exact toWRState_interlock hpolled.1 hpolled.2 (mainState_mainState _)
  · exact .of_idle (abandon_eq rtOpts _ hpolled.1 wrMode).1

theorem doWRState_interlock (hn : Driven n) : Interlock (doWRState rtOpts n).port :=
  wrTimerExpired_interlock
    (wrStateActions_induction (P := Driven) (Q := fun m => Interlock m.port)
      (fun _ _ h hmove => hmove.driven h) (fun _ _ h hend => hend.interlock h) hn) _

/-! ### The actions of a port -/

/-- A PTP transition keeps the interlock. -/
theorem Interlock.toState (hn : Interlock n.port) (state : PtpState) :
    Interlock (toState state rtOpts n).port := by
  by_cases hidle : n.port.wr.wrPortState = .idle
  · exact toState_interlock hidle state
  · rwa [toState_running rtOpts n hidle]

/-- A port in a state that does not run the White Rabbit state machine has it idle. -/
theorem Interlock.idle (hn : Interlock n.port) (h : n.port.portState ≠ .uncalibrated)
    (h' : n.port.portState ≠ .master) : n.port.wr.wrPortState = .idle := by
  by_contra hrun
  rcases hn hrun with ⟨hs, -⟩ | ⟨hs, -⟩
  · exact h hs
  · exact h' hs

/-- A port that is not a master does not start the White Rabbit state machine on receiving. -/
theorem handle_idle (hidle : n.port.wr.wrPortState = .idle) (h : n.port.portState ≠ .master) :
    (handle rtOpts n).port.wr.wrPortState = .idle := by
  rcases handle_cases rtOpts n with hframe | ⟨-, heq⟩
  · exact hframe.wrPortState.trans hidle
  rw [heq]
  rcases handleSignaling_cases rtOpts (received n) with hsig | ⟨⟨hmaster, -⟩, -⟩
  · rw [hsig, signaled_wr, received_wr]
    exact hidle
  · rw [received_portState] at hmaster
    exact absurd hmaster h

/-- A transition to a state other than `PTP_UNCALIBRATED` leaves the state machine idle. -/
theorem toState_idle (hidle : n.port.wr.wrPortState = .idle) {state : PtpState}
    (h : state ≠ .uncalibrated) : (toState state rtOpts n).port.wr.wrPortState = .idle := by
  rw [(toState_eq rtOpts n hidle h).1, leaveState_wr]
  split <;> exact hidle

theorem announceReceiptTimeoutExpires_idle (hidle : n.port.wr.wrPortState = .idle) :
    (announceReceiptTimeoutExpires rtOpts n).port.wr.wrPortState = .idle := by
  have hforget : (forgetMasters n).port.wr.wrPortState = .idle := hidle
  rw [announceReceiptTimeoutExpires_eq]
  split
  · refine toState_idle ?_ (by decide)
    rw [(m1_decided (forgetMasters n)).wr]
    exact hforget
  split
  · exact toState_idle hforget (by decide)
  · exact hforget

/-- The actions of a listening state leave an idle state machine idle. -/
theorem doSlaveActions_idle (hidle : n.port.wr.wrPortState = .idle)
    (h : n.port.portState ≠ .master) :
    (doSlaveActions rtOpts n).port.wr.wrPortState = .idle :=
  doSlaveActions_induction (P := fun m => m.port.wr.wrPortState = .idle) (handle_idle hidle h)
    (fun _ => announceReceiptTimeoutExpires_idle)
    fun _ _ hm heffects => heffects.wrFrame.wrPortState.trans hm

/-- The actions of a port keep the interlock unless the start of a link set-up fails. -/
theorem doStateActions_interlock (hn : Interlock n.port) (h : ¬SetupFails n) :
    Interlock (doStateActions rtOpts n).port := by
  unfold doStateActions
  split
  next => exact hn.toState _
  next hstate =>
    -- In `PTP_UNCALIBRATED` the state machine need not be running: then nothing happens.
    suffices hwr : Interlock (if n.port.wr.wrMode = .wrSlave then doWRState rtOpts n
        else toState .slave rtOpts n).port from hwr
    split
    · by_cases hidle : n.port.wr.wrPortState = .idle
      · rwa [doWRState_idle rtOpts hidle]
      · exact doWRState_interlock ⟨hidle, hn⟩
    · exact hn.toState _
  next hstate =>
    have hidle := hn.idle (by simp [hstate]) (by simp [hstate])
    split
    · refine Interlock.toState (.of_idle ?_) _
      rw [(m1_decided n).wr]
      exact hidle
    · exact .of_idle (doSlaveActions_idle hidle (by simp [hstate]))
  next hstate =>
    exact .of_idle (doSlaveActions_idle (hn.idle (by simp [hstate]) (by simp [hstate]))
      (by simp [hstate]))
  next hstate =>
    exact .of_idle (doSlaveActions_idle (hn.idle (by simp [hstate]) (by simp [hstate]))
      (by simp [hstate]))
  next hstate =>
    split
    next hrun => exact doWRState_interlock ⟨hrun.2, hn⟩
    next =>
      have hhandled := (masterTimers_wrFrame rtOpts (handle rtOpts n)).interlock
        (handle_interlock hn h)
      rw [doMasterActions_eq]
      dsimp only
      split
      · exact hhandled.toState _
      · exact hhandled
  next => exact handle_interlock hn h
  next => exact hn
  next => exact hn

/-- A link set-up that starts badly leaves a faulty port whose state machine is running. -/
theorem SetupFails.handle_faulty (rtOpts : RunTimeOpts) (h : SetupFails n) :
    (handle rtOpts n).port.portState = .faulty ∧
      (handle rtOpts n).port.wr.wrPortState = .mLock := by
  obtain ⟨hmaster, hidle, hconfig, hhears, hregister, hret⟩ := h
  have hwr : (signaled (received n)).port.wr.wrPortState = .idle := by
    rw [signaled_wr, received_wr]
    exact hidle
  rw [handle_of_hears rtOpts n hhears, handleSignaling_eq,
    if_pos ⟨by rw [received_portState]; exact hmaster, hregister, by rwa [received_wr]⟩]
  obtain ⟨m, id, -, hm, hmoved, hstate, -⟩ :=
    toWRState_start rtOpts (asWrMaster (signaled (received n))) hwr (.inr rfl)
  refine ⟨hstate.trans ?_, by rw [hmoved]⟩
  -- The transmission fails while the state machine still counts as idle.
  rw [← startingMaster_answer] at hret
  rw [hm]
  unfold issueWRSignalingMsg issueMsg
  dsimp only
  split
  · rfl
  next hne => exact absurd hret hne

/-- A port whose link set-up starts badly stays faulty for the rest of the step. -/
theorem SetupFails.doStateActions_faulty (rtOpts : RunTimeOpts) (h : SetupFails n) :
    (doStateActions rtOpts n).port.portState = .faulty ∧
      (doStateActions rtOpts n).port.wr.wrPortState = .mLock := by
  obtain ⟨hfaulty, hlock⟩ := h.handle_faulty rtOpts
  obtain ⟨hwr, hstate⟩ := (masterTimers_wrFrame rtOpts (handle rtOpts n)).eq_of_running
    (by rw [hlock]; decide)
  have heq : doStateActions rtOpts n = masterTimers rtOpts (handle rtOpts n) := by
    unfold doStateActions
    rw [h.1]
    dsimp only
    rw [if_neg fun hrun => hrun.2 h.2.1, doMasterActions_eq]
    dsimp only
    rw [toState_running rtOpts _ (by rw [hwr, hlock]; decide), ite_self]
  rw [heq]
  exact ⟨hstate.trans hfaulty, by rw [hwr, hlock]⟩

/-! ### State decisions -/

/-- A state decision keeps the interlock: it is only taken while the state machine is idle. -/
theorem stateDecision_interlock (bestForeign : ForeignMasterRecord) (hn : Interlock n.port) :
    Interlock (stateDecision rtOpts bestForeign n).port := by
  by_cases h : n.port.portState.decides = true ∧ n.clk.globalStateDecisionEvent = true ∧
      n.port.wr.wrPortState = .idle
  · rw [stateDecision_of rtOpts n bestForeign h]
    have hidle : (bmc bestForeign (deciding n)).2.port.wr.wrPortState = .idle := by
      rw [(bmc_decided (deciding n) bestForeign).wr]
      exact h.2.2
    generalize bmc bestForeign (deciding n) = decision at hidle ⊢
    rcases followRecommendation_cases rtOpts decision.2 decision.1 with heq | ⟨s, heq⟩ | heq <;>
      rw [heq]
    · exact .of_idle hidle
    · exact toState_interlock hidle _
    · refine toState_interlock ?_ _
      exact hidle
  · rwa [stateDecision_of_not rtOpts n bestForeign h]

/-- A state decision does not change the version of the protocol. -/
theorem stateDecision_versionNumber (bestForeign : ForeignMasterRecord) :
    (stateDecision rtOpts bestForeign n).port.versionNumber = n.port.versionNumber ∧
      (stateDecision rtOpts bestForeign n).port.linkUP = n.port.linkUP := by
  by_cases h : n.port.portState.decides = true ∧ n.clk.globalStateDecisionEvent = true ∧
      n.port.wr.wrPortState = .idle
  · rw [stateDecision_of rtOpts n bestForeign h]
    have hdecided := bmc_decided (deciding n) bestForeign
    have hfollow := followRecommendation_frame rtOpts (bmc bestForeign (deciding n)).2
      (bmc bestForeign (deciding n)).1
    exact ⟨hfollow.versionNumber.trans hdecided.versionNumber,
      hfollow.linkUP.trans hdecided.linkUP⟩
  · rw [stateDecision_of_not rtOpts n bestForeign h]
    exact ⟨rfl, rfl⟩

end Transitions

/-! ### Runs -/

/-- A port that was initialized: only `initDataPort` writes the version of the protocol. -/
def PtpPortDS.Ready (port : PtpPortDS) : Prop := port.versionNumber = 2

instance : DecidablePred PtpPortDS.Ready := fun port => by
  unfold PtpPortDS.Ready
  infer_instance

/-- What holds of a daemon whose link set-ups start well. -/
structure Interlocked (d : Daemon) : Prop where
  interlock : ∀ i, (d.ports i).Ready → Interlock (d.ports i)
  fresh : ∀ i, (d.ports i).linkUP = true → (d.ports i).Ready
  deciding : ∀ i, d.phase = .decide i ∨ d.phase = .act i → (d.ports i).Ready

/-- The next step is not one in which the start of a link set-up fails. -/
def StartsWell (o : Oracle) (d : Daemon) : Prop :=
  match d.phase with
  | .act i => ¬SetupFails (d.node i o)
  | _ => True

instance : DecidablePred SetupFails := fun n => by
  unfold SetupFails
  infer_instance

instance (o : Oracle) : DecidablePred (StartsWell o) := fun d => by
  unfold StartsWell
  split <;> infer_instance

namespace Interlocked

variable {rtOpts : RunTimeOpts} {d : Daemon}

/-- The daemon starts with ports that were never initialized. -/
theorem initial (h : Daemon.Initial rtOpts d) : Interlocked d := by
  obtain ⟨-, macs, extsrcLocked, tics, clk, rfl⟩ := h
  have hversion : ∀ i, ¬((Daemon.initial rtOpts macs extsrcLocked tics clk).ports i).Ready :=
    fun i => show ¬(0 : UInt8) = 2 by decide
  refine ⟨fun i h => absurd h (hversion i), fun i h => ?_, fun i h => ?_⟩
  · exact absurd (show false = true from h) (by decide)
  · rcases h with h | h <;> cases h

/-- A step of one port keeps the invariant when it does so for that port. -/
theorem store (hd : Interlocked d) {i : ℕ} {n : Node} {phase : Phase}
    (hport : n.port.Ready → Interlock n.port) (hfresh : n.port.linkUP = true → n.port.Ready)
    (hphase : ∀ j, phase = .decide j ∨ phase = .act j → j = i ∧ n.port.Ready) :
    Interlocked (d.store i n phase) := by
  constructor
  · intro j
    by_cases hj : j = i
    · subst hj
      rwa [Daemon.store_ports_self]
    · rw [Daemon.store_ports_of_ne _ _ hj]
      exact hd.interlock j
  · intro j
    by_cases hj : j = i
    · subst hj
      rwa [Daemon.store_ports_self]
    · rw [Daemon.store_ports_of_ne _ _ hj]
      exact hd.fresh j
  · intro j h
    obtain ⟨rfl, hready⟩ := hphase j h
    rwa [Daemon.store_ports_self]

/-- The phase after the last one of a port is not one of its other phases. -/
theorem nextPort_ne (rtOpts : RunTimeOpts) (i j : ℕ) :
    ¬(Daemon.nextPort rtOpts i = .decide j ∨ Daemon.nextPort rtOpts i = .act j) := by
  rcases Daemon.nextPort_cases rtOpts i with h | h <;> simp [h]

section Linked

variable (rtOpts) (o : Oracle) (hd : Interlocked d) (i : ℕ)

include hd

/-- A port with a link is ready after the link phase: it was so before, or is initialized. -/
theorem linked_ready (hup : (linked rtOpts (d.node i o)).port.linkUP = true) :
    (linked rtOpts (d.node i o)).port.Ready := by
  rcases linked_cases rtOpts (d.node i o) with hinit | hkept
  · exact hinit.versionNumber
  · have hfresh := hd.fresh i (hkept.linkUP hup)
    obtain ⟨port, hport, heq⟩ := hkept.port
    rw [heq]
    rcases hport with rfl | rfl <;> exact hfresh

/-- The link phase leaves the White Rabbit state machine alone or idle. -/
theorem linked_interlock (hready : (linked rtOpts (d.node i o)).port.Ready) :
    Interlock (linked rtOpts (d.node i o)).port := by
  rcases linked_cases rtOpts (d.node i o) with hinit | hkept
  · exact .of_idle hinit.wrPortState
  · obtain ⟨port, hport, heq⟩ := hkept.port
    rw [heq] at hready ⊢
    rcases hport with rfl | rfl
    · exact hd.interlock i hready
    · exact hd.interlock i hready

end Linked

/-- The step of all ports together. -/
theorem shared (hd : Interlocked d) (tics : UInt64) (extsrcLocked : Bool) :
    Interlocked { d with
      ports := (sharedPortsLoop tics extsrcLocked d.ports d.clk).1
      clk := (sharedPortsLoop tics extsrcLocked d.ports d.clk).2
      phase := .link 0 } := by
  have hport := sharedPortsLoop_port d.ports tics extsrcLocked d.clk
  constructor
  · intro i
    dsimp only
    rw [hport i]
    exact hd.interlock i
  · intro i
    dsimp only
    rw [hport i]
    exact hd.fresh i
  · rintro i (hi | hi) <;> cases hi

/-- Every step of the daemon keeps the invariant unless the start of a link set-up fails. -/
theorem step (o : Oracle) (hd : Interlocked d)
    (h : StartsWell o d) : Interlocked (Daemon.step rtOpts o d) := by
  unfold StartsWell at h
  cases hphase : d.phase with
  | link i =>
    obtain ⟨phase, heq, hnext⟩ := Daemon.step_link rtOpts o hphase
    rw [heq]
    refine hd.store (hd.linked_interlock rtOpts o i) (hd.linked_ready rtOpts o i) ?_
    rintro j hj
    -- The state decision comes next when the link of the port is up.
    rcases hnext with ⟨rfl, hup⟩ | rfl
    · rcases hj with hj | hj
      · cases hj
        exact ⟨rfl, hd.linked_ready rtOpts o _ hup⟩
      · cases hj
    · exact absurd hj (nextPort_ne _ _ _)
  | decide i =>
    rw [Daemon.step_decide rtOpts o hphase]
    have hready := hd.deciding i (.inl hphase)
    have hversion : (stateDecision rtOpts d.bestForeign (d.node i o)).port.versionNumber =
        (d.ports i).versionNumber := (stateDecision_versionNumber _).1
    refine hd.store (fun _ => stateDecision_interlock _ (hd.interlock i hready))
      (fun _ => hversion.trans hready) ?_
    rintro j (hj | hj)
    · cases hj
    · cases hj
      exact ⟨rfl, hversion.trans hready⟩
  | act i =>
    rw [Daemon.step_act rtOpts o hphase]
    have hready := hd.deciding i (.inr hphase)
    have hinterlock : Interlock (doStateActions rtOpts (d.node i o)).port :=
      doStateActions_interlock (hd.interlock i hready) (by rwa [hphase] at h)
    have hversion : (doStateActions rtOpts (d.node i o)).port.Ready :=
      doStateActions_induction (P := fun n => n.port.Ready) hready
        fun _ _ hn haction => haction.versionNumber.trans hn
    exact hd.store (fun _ => hinterlock) (fun _ => hversion)
      fun j hj => absurd hj (nextPort_ne _ _ _)
  | shared =>
    obtain ⟨tics, extsrcLocked, heq⟩ := Daemon.step_shared rtOpts o hphase
    rw [heq]
    exact hd.shared tics extsrcLocked

end Interlocked

/-- In every run in which no step is one where the start of a link set-up fails, a running White
Rabbit state machine is driven by the state of its port. -/
theorem interlock_of_guardedRun (rtOpts : RunTimeOpts) {d : Daemon}
    (h : GuardedRun (Daemon.Initial rtOpts) (Daemon.step rtOpts) StartsWell d)
    (i : ℕ) (hready : (d.ports i).Ready) : Interlock (d.ports i) := by
  have hinv : Interlocked d := h.invariant (fun _ => Interlocked.initial)
    fun o _ hd hguard => hd.step o hguard
  exact hinv.interlock i hready

/-! ### A link set-up that starts badly -/

/-- The frame of a slave that is present. -/
def slavePresentFrame : List UInt8 :=
  let n := Daemon.singleNode ![2, 0, 0, 0, 0, 2] .wrSlave
  wrSignalingFrame SLAVE_PRESENT { n with port.wr.wrMode := .wrSlave }

/-- A master-only port becomes a master; then it hears a slave, and its answer is sent or not. -/
def linkSetup (sendRet : ℤ) : List Oracle :=
  let started := Oracle.ready true .wrMaster .nothing 64 0
  let hearing := Oracle.ready true .wrMaster
    (.frame ![0x01, 0x1b, 0x19, 0, 0, 0] slavePresentFrame ⟨0, 0, 0, 1⟩) sendRet 0
  [started, started, started, started, hearing, hearing, hearing]

set_option maxRecDepth 100000 in
/-- An answer that is sent leads to a run of the White Rabbit state machine. -/
theorem interlock_of_guardedRun_linkSetup :
    let d := runInputs (Daemon.step (defaultRtOpts 1)) (Daemon.single ![2, 0, 0, 0, 0, 1])
      (linkSetup 64)
    (d.ports 0).wr.wrPortState = .mLock ∧ Interlock (d.ports 0) := by
  refine ⟨by decide +kernel, interlock_of_guardedRun (defaultRtOpts 1)
    (.runInputs (.start (Daemon.single_initial _)) _ ?_) 0 (by decide +kernel)⟩
  decide +kernel

set_option maxRecDepth 100000 in
theorem linkSetup_fails :
    let d := runInputs (Daemon.step (defaultRtOpts 1)) (Daemon.single ![2, 0, 0, 0, 0, 1])
      (linkSetup 0)
    (d.ports 0).versionNumber = 2 ∧ (d.ports 0).portState = .faulty ∧
      (d.ports 0).wr.wrPortState = .mLock := by
  decide +kernel

/-- The interlock does not hold in all reachable states. -/
theorem interlock_fails :
    ¬∀ (rtOpts : RunTimeOpts) (d : Daemon), Daemon.Reachable rtOpts d →
      ∀ i, (d.ports i).Ready → Interlock (d.ports i) := by
  intro h
  obtain ⟨hready, hstate, hwr⟩ := linkSetup_fails
  rcases h _ _ (Daemon.single_reachable _ _) 0 hready (by rw [hwr]; decide) with ⟨hs, -⟩ | ⟨hs, -⟩
  · rw [hstate] at hs
    cases hs
  · rw [hstate] at hs
    cases hs

end WhiteRabbitPtp
