import WhiteRabbitPtp.Correctness.ConfiguredRole

/-!
# Watching for the loss of a master

A port in `PTP_LISTENING`, `PTP_PASSIVE` or `PTP_SLAVE` depends on its announce receipt timer. The
timer is started when `PTP_LISTENING` or `PTP_SLAVE` is entered by its own enter case, and stopped
when one of the three states is left. Two transitions end in one of them without that case.

## Main definitions

* `Attends`: what the functions that take no PTP transition do with the timer.
* `Watching`: the timer of a port in one of the three states is armed.
* `LosesWatch`: the state decisions that enter such a state without starting the timer.

## Main results

* `armed_of_guardedRun`: in every run without these decisions the timer is armed.
* `not_forall_armed`: a run after which a slave does not watch.
-/

namespace WhiteRabbitPtp

open InputSystem

/-! ### The announce receipt timer -/

/-- The interval that the announce receipt timer of a port is started with. -/
def PtpPortDS.receiptInterval (port : PtpPortDS) : ℤ :=
  i32 ((port.announceReceiptTimeout.toNat : ℤ) * 1000 * pow2 port.logAnnounceInterval)

/-- The current interval of the announce receipt timer. -/
def PtpPortDS.receiptTimer (port : PtpPortDS) : ℤ := (port.timers .announceReceipt).interval

/-- The port keeps its state, with the timer as it was or started anew, or becomes faulty. -/
structure Attends (n n' : Node) : Prop where
  timeout : n'.port.announceReceiptTimeout = n.port.announceReceiptTimeout
  logInterval : n'.port.logAnnounceInterval = n.port.logAnnounceInterval
  armed : n'.port.portState = .faulty ∨ n'.port.portState = n.port.portState ∧
    (n'.port.receiptTimer = n.port.receiptTimer ∨ n'.port.receiptTimer = n.port.receiptInterval)

section Attends

variable {rtOpts : RunTimeOpts} {n n' n'' : Node}

/-- A change of other data. -/
theorem Attends.of_eq (htimeout : n'.port.announceReceiptTimeout = n.port.announceReceiptTimeout)
    (hlog : n'.port.logAnnounceInterval = n.port.logAnnounceInterval)
    (hstate : n'.port.portState = n.port.portState)
    (htimer : n'.port.receiptTimer = n.port.receiptTimer) : Attends n n' :=
  ⟨htimeout, hlog, .inr ⟨hstate, .inl htimer⟩⟩

/-- A step that does nothing attends the timer. -/
@[refl]
theorem Attends.refl (n : Node) : Attends n n := .of_eq rfl rfl rfl rfl

/-- Two steps that attend the timer attend it together. -/
@[trans]
theorem Attends.trans (h : Attends n n') (h' : Attends n' n'') : Attends n n'' where
  timeout := h'.timeout.trans h.timeout
  logInterval := h'.logInterval.trans h.logInterval
  armed := by
    -- Both changes start the timer with the same interval.
    have hinterval : n'.port.receiptInterval = n.port.receiptInterval := by
      unfold PtpPortDS.receiptInterval
      rw [h.timeout, h.logInterval]
    rcases h'.armed with hfaulty | ⟨hstate', htimer'⟩
    · exact .inl hfaulty
    rcases h.armed with hfaulty | ⟨hstate, htimer⟩
    · exact .inl (hstate'.trans hfaulty)
    refine .inr ⟨hstate'.trans hstate, ?_⟩
    rcases htimer' with hkept | hstarted
    · rw [hkept]
      exact htimer
    · exact .inr (hstarted.trans hinterval)

/-! ### Timers -/

/-- Starting another timer keeps `receiptTimer`. -/
theorem timerStart_receiptTimer (n : Node) {t : PtpTimer} (h : t ≠ .announceReceipt)
    (interval : ℤ) : (n.timerStart t interval).port.receiptTimer = n.port.receiptTimer :=
  congrArg IntervalTimer.interval (Function.update_of_ne h.symm _ _)

/-- Starting the announce receipt timer sets its interval. -/
theorem timerStart_announceReceipt (n : Node) (interval : ℤ) :
    (n.timerStart .announceReceipt interval).port.receiptTimer = i32 interval := by
  simp [PtpPortDS.receiptTimer, Node.timerStart, IntervalTimer.start]

/-- Polling a timer does not change its interval. -/
theorem timerPolled_receiptTimer (n : Node) (t : PtpTimer) :
    (n.timerPolled t).port.receiptTimer = n.port.receiptTimer := by
  by_cases h : t = .announceReceipt
  · subst h
    simp only [PtpPortDS.receiptTimer, Node.timerPolled, Function.update_self]
    unfold IntervalTimer.polled
    split <;> rfl
  · exact congrArg IntervalTimer.interval (Function.update_of_ne (Ne.symm h) _ _)

/-- `restartAnnounceReceipt` starts the timer anew. -/
theorem restartAnnounceReceipt_attends (n : Node) : Attends n (restartAnnounceReceipt n) :=
  ⟨rfl, rfl, .inr ⟨rfl, .inr (timerStart_announceReceipt n _)⟩⟩

/-! ### Failing and sending -/

/-- `leaveState` keeps the configuration from which `receiptInterval` is computed. -/
theorem leaveState_config (rtOpts : RunTimeOpts) (n : Node) :
    (leaveState rtOpts n).port.announceReceiptTimeout = n.port.announceReceiptTimeout ∧
      (leaveState rtOpts n).port.logAnnounceInterval = n.port.logAnnounceInterval := by
  cases hE : rtOpts.E2E_mode <;> cases h : n.port.portState <;>
    simp [leaveState, Node.timerStop, hE, h]

/-- `toFaulty` leaves the port faulty. -/
theorem toFaulty_attends (rtOpts : RunTimeOpts) (n : Node) : Attends n (toFaulty rtOpts n) := by
  unfold toFaulty
  split
  · rfl
  · exact ⟨(leaveState_config rtOpts n).1, (leaveState_config rtOpts n).2, .inl rfl⟩

/-- Sending a message changes the output buffer and what `record` and `sent` change. -/
theorem issueMsg_attends {buf : Octets.Buffer} {length : ℕ}
    {record : SendResult → PtpPortDS → PtpPortDS} {sent : PtpPortDS → PtpPortDS}
    (hrecord : ∀ r (n : Node), Attends n { n with port := record r n.port })
    (hsent : ∀ n : Node, Attends n { n with port := sent n.port }) :
    Attends n (issueMsg rtOpts buf length record sent n) := by
  -- A failed transmission ends in `PTP_FAULTY`, which waits for nothing.
  have hbuf : Attends n (({ n with port.msgObuf := buf } : Node).sendto length) :=
    .of_eq rfl rfl rfl rfl
  refine (hbuf.trans (hrecord (n.answer .sendto) _)).trans ?_
  unfold issueMsg
  dsimp only
  split
  · exact toFaulty_attends _ _
  · exact hsent _

/-- The messages change the counters and the times of the port. -/
theorem Issue.run_attends (rtOpts : RunTimeOpts) (n : Node) (message : Issue) :
    Attends n (message.run rtOpts n) := by
  cases message <;>
    simp only [Issue.run, issueAnnounce, issueSync, issueFollowup, issueDelayReq, issueDelayResp,
      issuePDelayReq, issuePDelayResp, issuePDelayRespFollowUp, issueWRSignalingMsg] <;>
    exact issueMsg_attends (fun _ _ => .of_eq rfl rfl rfl rfl) fun _ => .of_eq rfl rfl rfl rfl

end Attends

/-! ### The effects of the handlers -/

section Effects

variable {rtOpts : RunTimeOpts} {p : Footprint} {n n' : Node}

/-- What only stores data keeps the timer. -/
theorem Stores.attends (h : Stores p n n') : Attends n n' := by
  refine .of_eq h.announceReceiptTimeout h.logAnnounceInterval h.portState ?_
  rw [PtpPortDS.receiptTimer, h.timers]
  rfl

/-- Every effect of a handler attends the timer. -/
theorem Effect.attends (h : Effect rtOpts p n n') : Attends n n' := by
  cases h with
  | stores h => exact h.attends
  | toFaulty => exact toFaulty_attends _ _
  | restartAnnounceReceipt => exact restartAnnounceReceipt_attends _
  | timerPolled t => exact Attends.of_eq rfl rfl rfl (timerPolled_receiptTimer n t)
  | issue message => exact message.run_attends rtOpts n

/-- A handler, as a sequence of effects, attends the timer. -/
theorem Handled.attends (h : Handled rtOpts p n n') : Attends n n' :=
  h.of_effect .refl .trans Effect.attends

/-- Storing an Announce, in the record of the parent or in another one, keeps the timer. -/
theorem Announced.attends (h : Announced n n') : Attends n n' := by
  cases h with
  | ignored => rfl
  | parent record announce => exact .of_eq rfl rfl rfl rfl
  | added header =>
    rw [addForeign_eq]
    exact .of_eq rfl rfl rfl rfl

end Effects

/-! ### White Rabbit transitions and the dispatch -/

section Transitions

variable (rtOpts : RunTimeOpts) (n : Node)

/-- Every effect of a White Rabbit transition keeps the timer, or leaves the port faulty. -/
theorem WrEffect.attends {rtOpts : RunTimeOpts} {n n' : Node} (h : WrEffect rtOpts n n') :
    Attends n n' := by
  cases h with
  | stores h =>
    have hport := h.port
    refine .of_eq ?_ ?_ ?_ ?_ <;> rw [hport]
    rfl
  | issue id => exact Issue.run_attends rtOpts n (.wrSignaling id)

/-- `toWRState` attends the timer. -/
theorem toWRState_attends (state : WrState) : Attends n (toWRState state rtOpts n) :=
  (toWRState_entered rtOpts n state).of_effect .refl .trans WrEffect.attends

/-- `handleSignaling` attends the timer. -/
theorem handleSignaling_attends : Attends n (handleSignaling false rtOpts n) := by
  have hsignaled : Attends n (signaled n) := .of_eq rfl rfl rfl rfl
  have hmaster : Attends n (asWrMaster (signaled n)) := .of_eq rfl rfl rfl rfl
  rcases handleSignaling_cases rtOpts n with heq | ⟨-, heq⟩ <;> rw [heq]
  · exact hsignaled
  · exact hmaster.trans (toWRState_attends rtOpts _ .mLock)

/-- Receiving a frame keeps the timer. -/
theorem netRecvMsg_attends : Attends n (netRecvMsg n).2 :=
  (netRecvMsg_stores n .any).attends

/-- Receiving a frame keeps the state of the port, or the port becomes faulty. -/
theorem handle_attends : Attends n (handle rtOpts n) := by
  have hrecv := netRecvMsg_attends n
  have hreceived : Attends n (received n) := hrecv.trans (.of_eq rfl rfl rfl rfl)
  refine handle_induction rtOpts n hrecv (hrecv.trans (toFaulty_attends _ _)) fun _ => ?_
  refine hreceived.trans ?_
  -- A Signaling message is the only one that may start the White Rabbit state machine.
  have hdispatched := dispatchMsg_dispatched rtOpts (received n) (netRecvMsg n).1.toNat
  generalize dispatchMsg (netRecvMsg n).1.toNat rtOpts (received n) = n' at hdispatched ⊢
  cases hdispatched with
  | announce _ hm h => exact hm.attends.trans h.attends
  | handled h => exact h.attends
  | signaling => exact handleSignaling_attends rtOpts (received n)

end Transitions

/-! ### Watching ports -/

/-- The announce receipt timer of a port that depends on a master is armed. `PTP_PASSIVE`, which no
step enters with the timer armed, is not entered at all. -/
structure Watching (rtOpts : RunTimeOpts) (port : PtpPortDS) : Prop where
  timeout : port.announceReceiptTimeout = 6
  logInterval : port.logAnnounceInterval = rtOpts.announceInterval
  passive : port.portState ≠ .passive
  armed : port.portState = .listening ∨ port.portState = .slave → port.receiptTimer ≠ 0

/-- The options give an announce receipt timer an interval that fits an `int` and is not `0`. -/
def RunTimeOpts.Watchable (rtOpts : RunTimeOpts) : Prop :=
  i32 (6 * 1000 * pow2 rtOpts.announceInterval) ≠ 0

instance : DecidablePred RunTimeOpts.Watchable := fun rtOpts => by
  unfold RunTimeOpts.Watchable
  infer_instance

section Watching

variable {rtOpts : RunTimeOpts} {n n' : Node}

/-- A port whose configuration is that of the options starts the timer with their interval. -/
theorem receiptInterval_ne_zero {port : PtpPortDS} (hopts : rtOpts.Watchable)
    (htimeout : port.announceReceiptTimeout = 6)
    (hlog : port.logAnnounceInterval = rtOpts.announceInterval) : port.receiptInterval ≠ 0 := by
  unfold PtpPortDS.receiptInterval
  rw [htimeout, hlog]
  exact hopts

/-- A port that watches still does after a step that attends the timer. -/
theorem Attends.watching (h : Attends n n') (hopts : rtOpts.Watchable)
    (hn : Watching rtOpts n.port) : Watching rtOpts n'.port := by
  have hinterval := receiptInterval_ne_zero hopts hn.timeout hn.logInterval
  refine ⟨h.timeout.trans hn.timeout, h.logInterval.trans hn.logInterval, ?_, ?_⟩
  · rcases h.armed with hfaulty | ⟨hstate, -⟩
    · rw [hfaulty]
      decide
    · rw [hstate]
      exact hn.passive
  · intro hdepends
    rcases h.armed with hfaulty | ⟨hstate, htimer⟩
    · rw [hfaulty] at hdepends
      rcases hdepends with hdepends | hdepends <;> cases hdepends
    rw [hstate] at hdepends
    -- The port is in the state it was in, and its timer was kept or started.
    rcases htimer with hkept | hstarted
    · rw [hkept]
      exact hn.armed hdepends
    · rw [hstarted]
      exact hinterval

/-- Starting the servo keeps the timer. -/
theorem wrServoInit_attends (n : Node) : Attends n (wrServoInit n) := by
  unfold wrServoInit
  dsimp only
  split <;> exact .of_eq rfl rfl rfl rfl

/-- Starting a timer keeps the configuration from which `receiptInterval` is computed. -/
theorem timerStart_config (n : Node) (t : PtpTimer) (interval : ℤ) :
    (n.timerStart t interval).port.announceReceiptTimeout = n.port.announceReceiptTimeout ∧
      (n.timerStart t interval).port.logAnnounceInterval = n.port.logAnnounceInterval :=
  ⟨rfl, rfl⟩

/-- Entering a state keeps the configuration of the timer. -/
theorem enterState_config (rtOpts : RunTimeOpts) (n : Node) (state : PtpState) :
    (enterState state rtOpts n).port.announceReceiptTimeout = n.port.announceReceiptTimeout ∧
      (enterState state rtOpts n).port.logAnnounceInterval = n.port.logAnnounceInterval := by
  cases state <;> simp only [enterState, timerStart_config, and_self]
  -- `PTP_UNCALIBRATED` may start the link set-up, which has timers of its own.
  case uncalibrated =>
    split
    · split
      · have hstart := toWRState_attends rtOpts n .present
        exact ⟨hstart.timeout, hstart.logInterval⟩
      · exact ⟨rfl, rfl⟩
    · exact ⟨rfl, rfl⟩
  case slave =>
    have hinit := wrServoInit_attends n
    split <;> simp only [timerStart_config, hinit.timeout, hinit.logInterval, and_self]

/-- The state of the port is not part of `receiptTimer`. -/
theorem setPortState_receiptTimer (n : Node) (state : PtpState) :
    ({ n with port.portState := state } : Node).port.receiptTimer = n.port.receiptTimer := rfl

/-- The enter cases of `PTP_LISTENING` and `PTP_SLAVE` start the timer. -/
theorem enterState_receiptTimer (rtOpts : RunTimeOpts) (n : Node) {state : PtpState}
    (h : state = .listening ∨ state = .slave) :
    (enterState state rtOpts n).port.receiptTimer = n.port.receiptInterval := by
  unfold PtpPortDS.receiptInterval enterState
  rcases h with rfl | rfl <;> dsimp only
  · rw [setPortState_receiptTimer, timerStart_announceReceipt]
  -- The timer of the delay requests is started after it.
  split <;> rw [setPortState_receiptTimer, timerStart_receiptTimer _ (by decide),
    timerStart_announceReceipt]

/-- A state that is entered by its own enter case is watched in. -/
theorem enterState_watching (hopts : rtOpts.Watchable)
    (htimeout : n.port.announceReceiptTimeout = 6)
    (hlog : n.port.logAnnounceInterval = rtOpts.announceInterval) {state : PtpState}
    (hpassive : state ≠ .passive) (huncalibrated : state ≠ .uncalibrated)
    (hpreMaster : state ≠ .preMaster) : Watching rtOpts (enterState state rtOpts n).port := by
  have hstate := enterState_portState rtOpts n huncalibrated hpreMaster
  obtain ⟨htimeout', hlog'⟩ := enterState_config rtOpts n state
  refine ⟨htimeout'.trans htimeout, hlog'.trans hlog, by rwa [hstate], fun hdepends => ?_⟩
  rw [hstate] at hdepends
  rw [enterState_receiptTimer rtOpts n hdepends]
  exact receiptInterval_ne_zero hopts htimeout hlog

/-- Transitions to other states than `PTP_PASSIVE` and `PTP_UNCALIBRATED` keep the port watching. -/
theorem toState_watching (hopts : rtOpts.Watchable) (hn : Watching rtOpts n.port)
    {state : PtpState} (hpassive : state ≠ .passive) (huncalibrated : state ≠ .uncalibrated)
    (hpreMaster : state ≠ .preMaster) : Watching rtOpts (toState state rtOpts n).port := by
  unfold toState
  split
  · exact hn
  · obtain ⟨htimeout, hlog⟩ := leaveState_config rtOpts n
    exact enterState_watching hopts (htimeout.trans hn.timeout) (hlog.trans hn.logInterval)
      hpassive huncalibrated hpreMaster

/-- A port can run the link set-up: it and its parent are configured for it. -/
def CanSetUp (port : PtpPortDS) : Prop :=
  (port.wr.wrConfig = .wrSOnly ∨ port.wr.wrConfig = .wrMAndS) ∧
    (port.wr.parentWrConfig = .wrMOnly ∨ port.wr.parentWrConfig = .wrMAndS)

instance : DecidablePred CanSetUp := fun port => by
  unfold CanSetUp
  infer_instance

/-- A candidate for a slave that can run the link set-up starts it. -/
theorem toState_uncalibrated_portState (hidle : n.port.wr.wrPortState = .idle)
    (hslave : n.port.portState ≠ .slave) (hmode : n.port.wr.wrMode = .wrSlave)
    (hoff : n.port.wr.wrModeON = false) (hcan : CanSetUp n.port) :
    (toState .uncalibrated rtOpts n).port.portState = .uncalibrated := by
  have hwr : (leaveState rtOpts n).port.wr = n.port.wr := by
    rw [leaveState_wr, if_neg hslave]
  unfold toState
  rw [if_neg (not_not.mpr hidle)]
  unfold enterState
  dsimp only
  rw [hwr, if_pos ⟨hmode, hcan⟩, hoff, if_pos (by simp)]

/-- A port that can run the link set-up watches after entering `PTP_UNCALIBRATED`. -/
theorem toState_uncalibrated_watching (hn : Watching rtOpts n.port)
    (hslave : n.port.portState ≠ .slave) (hmode : n.port.wr.wrMode = .wrSlave)
    (hoff : n.port.wr.wrModeON = false) (hcan : CanSetUp n.port) :
    Watching rtOpts (toState .uncalibrated rtOpts n).port := by
  by_cases hidle : n.port.wr.wrPortState = .idle
  · obtain ⟨htimeout, hlog⟩ := leaveState_config rtOpts n
    obtain ⟨htimeout', hlog'⟩ := enterState_config rtOpts (leaveState rtOpts n) .uncalibrated
    have heq : toState .uncalibrated rtOpts n =
        enterState .uncalibrated rtOpts (leaveState rtOpts n) := by
      unfold toState
      rw [if_neg (not_not.mpr hidle)]
    have hstate : (toState .uncalibrated rtOpts n).port.portState = .uncalibrated :=
      toState_uncalibrated_portState hidle hslave hmode hoff hcan
    rw [← heq] at htimeout' hlog'
    refine ⟨htimeout'.trans (htimeout.trans hn.timeout), hlog'.trans (hlog.trans hn.logInterval),
      by rw [hstate]; decide, fun hdepends => ?_⟩
    rw [hstate] at hdepends
    rcases hdepends with hdepends | hdepends <;> cases hdepends
  · rwa [toState_running rtOpts n hidle]

/-! ### The White Rabbit state machine -/

/-- A move of the link set-up keeps `Watching`. -/
theorem WrMove.watching (h : WrMove rtOpts n n') (hopts : rtOpts.Watchable)
    (hn : Watching rtOpts n.port) : Watching rtOpts n'.port := by
  refine Attends.watching ?_ hopts hn
  -- A move of the state machine concerns the port only when it receives a frame.
  cases h with
  | handle => exact handle_attends rtOpts n
  | _ => exact .of_eq rfl rfl rfl rfl

/-- Every end of the actions of a White Rabbit state keeps `Watching`. -/
theorem WrEnd.watching (h : WrEnd rtOpts n n') (hopts : rtOpts.Watchable)
    (hn : Watching rtOpts n.port) : Watching rtOpts n'.port := by
  cases h with
  | stay => exact hn
  | enter => exact (toWRState_attends rtOpts n _).watching hopts hn
  | lock =>
    have hlock := (toWRState_attends rtOpts n .sLock).watching hopts hn
    generalize toWRState .sLock rtOpts n = m at hlock ⊢
    exact ⟨hlock.timeout, hlock.logInterval, hlock.passive, hlock.armed⟩
  | calibrated =>
    have hissue : Attends n (issueWRSignalingMsg CALIBRATED rtOpts n) :=
      Issue.run_attends rtOpts n (.wrSignaling CALIBRATED)
    have hcalibrated := (hissue.trans (toWRState_attends rtOpts _ .calibrated)).watching hopts hn
    unfold doCalibration8
    dsimp only
    generalize toWRState .calibrated rtOpts _ = m at hcalibrated ⊢
    exact ⟨hcalibrated.timeout, hcalibrated.logInterval, hcalibrated.passive, hcalibrated.armed⟩
  | linkOn =>
    have hidle := (toWRState_attends rtOpts n .idle).watching hopts hn
    unfold doWrLinkOn
    dsimp only
    split
    · exact toState_watching hopts hidle (by decide) (by decide) (by decide)
    · exact toState_watching hopts hidle (by decide) (by decide) (by decide)
    · exact hidle

/-- Giving up a link set-up keeps `Watching`. -/
theorem abandon_watching (hopts : rtOpts.Watchable) (hn : Watching rtOpts n.port)
    (wrMode : WrMode) : Watching rtOpts (abandon rtOpts wrMode n).port := by
  have hoff : Attends n { n with port.wr.wrModeON := false } := .of_eq rfl rfl rfl rfl
  have hidle := (hoff.trans (toWRState_attends rtOpts _ .idle)).watching hopts hn
  have hfallback : fallbackState rtOpts wrMode ≠ .passive ∧
      fallbackState rtOpts wrMode ≠ .uncalibrated ∧ fallbackState rtOpts wrMode ≠ .preMaster := by
    unfold fallbackState
    split_ifs <;> decide
  have hfallen := toState_watching hopts hidle hfallback.1 hfallback.2.1 hfallback.2.2
  unfold abandon
  generalize toState (fallbackState rtOpts wrMode) rtOpts _ = m at hfallen ⊢
  exact ⟨hfallen.timeout, hfallen.logInterval, hfallen.passive, hfallen.armed⟩

/-- `doWRState` keeps `Watching`. -/
theorem doWRState_watching (hopts : rtOpts.Watchable) (hn : Watching rtOpts n.port) :
    Watching rtOpts (doWRState rtOpts n).port := by
  have hactions : Watching rtOpts (wrStateActions rtOpts n).port :=
    wrStateActions_induction (P := fun m => Watching rtOpts m.port)
      (Q := fun m => Watching rtOpts m.port) (fun _ _ h hmove => hmove.watching hopts h)
      (fun _ _ h hend => hend.watching hopts h) hn
  unfold doWRState
  dsimp only
  generalize wrStateActions rtOpts n = m at hactions ⊢
  have hpolled : Attends m (wrTimerPolled m.port.wr.wrPortState.mainState m) :=
    .of_eq rfl rfl rfl rfl
  rcases wrTimerExpired_cases rtOpts m m.port.wr.wrPortState.mainState m.port.wr.wrMode with
    ⟨-, h⟩ | ⟨-, h | h | h⟩ <;> rw [h]
  · exact hactions
  · exact hpolled.watching hopts hactions
  · exact (hpolled.trans (toWRState_attends _ _ _)).watching hopts hactions
  · exact abandon_watching hopts (hpolled.watching hopts hactions) _

/-! ### The phases of a port -/

/-- The time-out of the announce receipt keeps `Watching`: it starts the timer of the state that it
enters. -/
theorem announceReceiptTimeoutExpires_watching (hopts : rtOpts.Watchable)
    (hn : Watching rtOpts n.port) :
    Watching rtOpts (announceReceiptTimeoutExpires rtOpts n).port := by
  have hforget : Watching rtOpts (forgetMasters n).port :=
    ⟨hn.timeout, hn.logInterval, hn.passive, hn.armed⟩
  have hm1 : Watching rtOpts (m1 (forgetMasters n)).port :=
    ⟨hn.timeout, hn.logInterval, hn.passive, hn.armed⟩
  rw [announceReceiptTimeoutExpires_eq]
  split
  · exact toState_watching hopts hm1 (by decide) (by decide) (by decide)
  split
  · exact toState_watching hopts hforget (by decide) (by decide) (by decide)
  · exact hforget

/-- What a slave does in a step keeps `Watching`. -/
theorem doSlaveActions_watching (hopts : rtOpts.Watchable) (hn : Watching rtOpts n.port) :
    Watching rtOpts (doSlaveActions rtOpts n).port :=
  doSlaveActions_induction (P := fun m => Watching rtOpts m.port)
    ((handle_attends rtOpts n).watching hopts hn)
    (fun _ => announceReceiptTimeoutExpires_watching hopts)
    fun _ _ hm heffects => heffects.attends.watching hopts hm

/-- The actions of a port keep it watching. -/
theorem doStateActions_watching (hopts : rtOpts.Watchable) (hn : Watching rtOpts n.port) :
    Watching rtOpts (doStateActions rtOpts n).port := by
  have hcleared {m : Node} (h : Watching rtOpts m.port) :
      Watching rtOpts { m.port with wr.msgTmpWrMessageID := NULL_WR_TLV } :=
    ⟨h.timeout, h.logInterval, h.passive, h.armed⟩
  unfold doStateActions
  cases hstate : n.port.portState <;> dsimp only
  case faulty => exact toState_watching hopts hn (by decide) (by decide) (by decide)
  case uncalibrated =>
    split
    · exact hcleared (doWRState_watching hopts hn)
    · exact hcleared (toState_watching hopts hn (by decide) (by decide) (by decide))
  case listening =>
    split
    · have hm1 : Watching rtOpts (m1 n).port := ⟨hn.timeout, hn.logInterval, hn.passive, hn.armed⟩
      exact toState_watching hopts hm1 (by decide) (by decide) (by decide)
    · exact doSlaveActions_watching hopts hn
  -- `PTP_PASSIVE` is never entered while the port watches.
  case passive => exact absurd hstate hn.passive
  case slave => exact doSlaveActions_watching hopts hn
  case master =>
    split
    · exact hcleared (doWRState_watching hopts hn)
    · have htimers := (masterTimers_handled rtOpts _ (p := .any) rfl).attends.watching hopts
        ((handle_attends rtOpts n).watching hopts hn)
      rw [doMasterActions_eq]
      dsimp only
      split
      · exact toState_watching hopts htimers (by decide) (by decide) (by decide)
      · exact htimers
  case disabled => exact (handle_attends rtOpts n).watching hopts hn
  case initializing | preMaster => exact hn

/-- Initialization configures the timer and starts it. -/
theorem doInit_watching (hopts : rtOpts.Watchable) (n : Node) :
    Watching rtOpts (doInit rtOpts n).port := by
  have hconfig : (initialized rtOpts n).port.announceReceiptTimeout = 6 ∧
      (initialized rtOpts n).port.logAnnounceInterval = rtOpts.announceInterval := by
    unfold initialized
    dsimp only
    split <;> split <;> exact ⟨rfl, rfl⟩
  have hidle := (initialized_initialized rtOpts n).wrPortState
  rw [doInit_eq, toState, if_neg (not_not.mpr hidle)]
  obtain ⟨htimeout, hlog⟩ := leaveState_config rtOpts (initialized rtOpts n)
  exact enterState_watching hopts (htimeout.trans hconfig.1) (hlog.trans hconfig.2) (by decide)
    (by decide) (by decide)

/-- The state decisions after which a port depends on a master without having started its timer:
`PTP_PASSIVE`, whose enter case starts the timer of the Announce messages instead; a candidate for
a slave that cannot run the link set-up; and a slave whose link set-up shall be run again. -/
def LosesWatch (bestForeign : ForeignMasterRecord) (n : Node) : Prop :=
  let decision := bmc bestForeign (deciding n)
  Decides n ∧ (decision.1 = .passive ∧ n.port.portState ≠ .passive ∨
    decision.1 = .slave ∧ n.port.portState ≠ .slave ∧ ¬CanSetUp decision.2.port ∨
    decision.1 = .slave ∧ n.port.portState = .slave ∧ n.port.linkUP = true ∧
      n.port.wr.wrMode = .wrSlave ∧
      (decision.2.port.wr.parentWrModeON = false ∨ n.port.wr.wrModeON = false))

instance (bestForeign : ForeignMasterRecord) : DecidablePred (LosesWatch bestForeign) := fun n => by
  unfold LosesWatch
  infer_instance

/-- The algorithm does not touch the timers. -/
theorem bmc_watching (bestForeign : ForeignMasterRecord) (hn : Watching rtOpts n.port) :
    Watching rtOpts (bmc bestForeign n).2.port := by
  have hupdate {m : Node} {r : PtpState × Node} (hr : BmcUpdate m r) :
      r.2.port.announceReceiptTimeout = m.port.announceReceiptTimeout ∧
        r.2.port.logAnnounceInterval = m.port.logAnnounceInterval ∧
        r.2.port.receiptTimer = m.port.receiptTimer := by
    cases hr <;> exact ⟨rfl, rfl, rfl⟩
  have heq : (bmc bestForeign n).2.port.announceReceiptTimeout = n.port.announceReceiptTimeout ∧
      (bmc bestForeign n).2.port.logAnnounceInterval = n.port.logAnnounceInterval ∧
      (bmc bestForeign n).2.port.receiptTimer = n.port.receiptTimer :=
    (bmc_update n bestForeign).elim hupdate hupdate
  have hstate := (bmc_decided n bestForeign).portState
  obtain ⟨htimeout, hlog, htimer⟩ := heq
  refine ⟨htimeout.trans hn.timeout, hlog.trans hn.logInterval, by rw [hstate]; exact hn.passive,
    fun hdepends => ?_⟩
  rw [hstate] at hdepends
  rw [htimer]
  exact hn.armed hdepends

/-- A state decision that does not lose the watch keeps the port watching. -/
theorem stateDecision_watching (hopts : rtOpts.Watchable) (bestForeign : ForeignMasterRecord)
    (hn : Watching rtOpts n.port) (h : ¬LosesWatch bestForeign n) :
    Watching rtOpts (stateDecision rtOpts bestForeign n).port := by
  by_cases hdecides : Decides n
  · have hdeciding : Watching rtOpts (deciding n).port :=
      ⟨hn.timeout, hn.logInterval, hn.passive, hn.armed⟩
    have hdecided := bmc_decided (deciding n) bestForeign
    have hwatching := bmc_watching bestForeign hdeciding
    have hmem := bmc_recommends bestForeign (deciding n)
    have hkeeps := fun hloses => h ⟨hdecides, hloses⟩
    rw [stateDecision_of rtOpts n bestForeign hdecides]
    -- From here on only what was decided matters, not how.
    generalize bmc bestForeign (deciding n) = decision at *
    obtain ⟨state, m⟩ := decision
    dsimp only at *
    have hstate : m.port.portState = n.port.portState := hdecided.portState
    have hmode : m.port.wr.wrMode = n.port.wr.wrMode ∧ m.port.wr.wrModeON = n.port.wr.wrModeON := by
      rw [hdecided.wr]
      exact ⟨rfl, rfl⟩
    have hlink : m.port.linkUP = n.port.linkUP := hdecided.linkUP
    unfold followRecommendation
    rw [hstate, hlink, hmode.1, hmode.2]
    split
    next hmoves =>
      split
      next hcandidate =>
        -- A candidate for a slave: if it could not run the set-up, the watch would be lost.
        have hslave : n.port.portState ≠ .slave := hcandidate.1 ▸ hmoves.symm
        refine toState_uncalibrated_watching ?_ (by rwa [hstate]) rfl rfl ?_
        · exact ⟨hwatching.timeout, hwatching.logInterval, hwatching.passive, hwatching.armed⟩
        · by_contra hcannot
          exact hkeeps (.inr (.inl ⟨hcandidate.1, hslave, hcannot⟩))
      next =>
        have hpassive : state ≠ .passive := fun hp => hkeeps (.inl ⟨hp, hn.passive⟩)
        refine toState_watching hopts hwatching hpassive ?_ ?_ <;> rintro rfl <;>
          exact absurd hmem (by decide)
    next hstays =>
      split
      next hfault =>
        -- A slave whose set-up shall be run again is the third way to lose the watch.
        obtain ⟨hup, hslave, hwrSlave, hoff⟩ := hfault
        exact (hkeeps (.inr (.inr ⟨(not_not.mp hstays).trans hslave, hslave, hup, hwrSlave,
          by simpa using hoff⟩))).elim
      next => exact hwatching
  · rwa [stateDecision_of_not rtOpts n bestForeign hdecides]

end Watching

/-! ### Runs -/

/-- No state decision loses the watch. -/
def KeepsWatch (o : Oracle) (d : Daemon) : Prop :=
  ∀ i, d.phase = .decide i → ¬LosesWatch d.bestForeign (d.node i o)

instance (o : Oracle) : DecidablePred (KeepsWatch o) := fun d =>
  match hphase : d.phase with
  | .decide i => decidable_of_iff (¬LosesWatch d.bestForeign (d.node i o))
      ⟨fun h j hj => by cases hphase.symm.trans hj; exact h, fun h => h i hphase⟩
  | .link _ | .act _ | .shared => .isTrue fun j hj => by cases hphase.symm.trans hj

/-- Every phase of a port keeps it watching. -/
theorem watching_invariant {rtOpts : RunTimeOpts} (hopts : rtOpts.Watchable) :
    PortInvariant rtOpts KeepsWatch (Watching rtOpts) where
  link {d i o} _ _ hd hready := by
    rcases linked_doInit rtOpts (d.node i o) with ⟨-, m, fm, doRestart, heq⟩ | hkept
    · have hinit := doInit_watching hopts m
      rw [heq]
      generalize doInit rtOpts m = m at hinit ⊢
      exact ⟨hinit.timeout, hinit.logInterval, hinit.passive, hinit.armed⟩
    · obtain ⟨port, hport, heq⟩ := hkept.port
      rw [heq] at hready ⊢
      rcases hport with rfl | rfl
      · exact ⟨(hd hready).timeout, (hd hready).logInterval, (hd hready).passive, (hd hready).armed⟩
      · exact ⟨(hd hready).timeout, (hd hready).logInterval, (hd hready).passive, (hd hready).armed⟩
  decide hphase hguard _ h := stateDecision_watching hopts _ h (hguard _ hphase)
  act _ _ _ h := doStateActions_watching hopts h
  search _ h := ⟨h.timeout, h.logInterval, h.passive, h.armed⟩

/-- In every run in which no state decision loses the watch (`KeepsWatch`) and no frame is longer
than the input buffer (`Daemon.FramesFit`), a port that is listening, passive or a slave has its
`announceReceipt` timer armed. -/
theorem armed_of_guardedRun (rtOpts : RunTimeOpts) (hopts : rtOpts.Watchable) {d : Daemon}
    (h : GuardedRun (Daemon.Initial rtOpts) (Daemon.step rtOpts)
      (fun o d => KeepsWatch o d ∧ Daemon.FramesFit o d) d) (i : ℕ)
    (hstate : (d.ports i).portState = .listening ∨ (d.ports i).portState = .passive ∨
      (d.ports i).portState = .slave) : ((d.ports i).timers .announceReceipt).interval ≠ 0 := by
  by_cases hready : (d.ports i).Ready
  · have hwatching := (watching_invariant hopts).holds (h.mono fun _ _ => And.left) i hready
    rcases hstate with hlistening | hpassive | hslave
    · exact hwatching.armed (.inl hlistening)
    · exact absurd hpassive hwatching.passive
    · exact hwatching.armed (.inr hslave)
  · -- A port that was never initialized is in none of the three states.
    rw [(Daemon.Reachable.prepared h.reachable).unready i hready] at hstate
    rcases hstate with hstate | hstate | hstate <;> cases hstate

set_option maxRecDepth 100000 in
/-- A slave-only port that has run a complete link set-up watches. -/
theorem armed_of_guardedRun_resyncState :
    ((resyncState.ports 0).timers .announceReceipt).interval ≠ 0 :=
  armed_of_guardedRun (defaultRtOpts 1) (by decide)
    (.runInputs (.start (Daemon.single_initial _)) resyncRun (by decide +kernel)) 0
    (.inr (.inr (by decide +kernel)))

/-! ### A slave that does not watch -/

/-- A port without White Rabbit hears a better master and becomes a slave of it. -/
def unwatchedState : Daemon :=
  let announce := announceFrame (Daemon.singleNode ![2, 0, 0, 0, 0, 0] .wrMaster)
  runInputs (Daemon.step (defaultRtOpts 1)) (Daemon.single ![2, 0, 0, 0, 0, 1])
    (List.replicate 6 (Oracle.ready true .nonWr
      (.frame ![0x01, 0x1b, 0x19, 0, 0, 0] announce ⟨0, 0, 0, 1⟩) 64 0))

set_option maxRecDepth 100000 in
/-- The port of `unwatchedState` is a slave whose timer is stopped. -/
theorem unwatchedState_stopped : (unwatchedState.ports 0).portState = .slave ∧
    ((unwatchedState.ports 0).timers .announceReceipt).interval = 0 := by
  decide +kernel

/-- A slave may have its announce receipt timer stopped. -/
theorem not_forall_armed :
    ¬∀ (rtOpts : RunTimeOpts) (d : Daemon), Daemon.Reachable rtOpts d → ∀ i,
      (d.ports i).portState = .listening ∨ (d.ports i).portState = .passive ∨
        (d.ports i).portState = .slave → ((d.ports i).timers .announceReceipt).interval ≠ 0 := by
  intro h
  obtain ⟨hslave, hstopped⟩ := unwatchedState_stopped
  exact h (defaultRtOpts 1) unwatchedState (Daemon.single_reachable _ _) 0 (.inr (.inr hslave))
    hstopped

end WhiteRabbitPtp
