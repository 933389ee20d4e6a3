import WhiteRabbitPtp.Correctness.SetupEnds
import WhiteRabbitPtp.Correctness.Watching

/-!
# Retries of a link set-up

A link set-up is given up when the counter of retries has reached the limit of the current main
state. The counter stands for the expirations of the timer, but every entry of a main state from
itself advances it. Only a message of a slave makes a port do that without an expiration, while the
port waits in `WRS_M_LOCK` for the slave to be locked.

The daemon is run beside a record of the expirations of each port, which it does not look at.

## Main definitions

* `Abandons`: the call gives the link set-up up.
* `Reenters`: a message makes a port enter `WRS_M_LOCK` from itself.
* `Tally`: the daemon, with the expirations of the timer in the current main state of each port.

## Main results

* `expired_of_guardedRun`: in every run without such a message the counter is the number of
  expirations, so that a set-up is given up for time-outs only.
* `not_forall_expired`: a slave that repeats its first message uses up the retries of its master.
-/

namespace WhiteRabbitPtp

open InputSystem

/-! ### Entries and expirations -/

/-- A message makes a port enter `WRS_M_LOCK` from itself. -/
def Reenters (n : Node) : Prop := n.port.wr.wrPortState = .mLock ∧ StartsMaster n

instance : DecidablePred Reenters := fun n => by
  unfold Reenters StartsMaster
  infer_instance

/-- The call gives the link set-up up: the timer has expired and no retries are left. -/
def Abandons (rtOpts : RunTimeOpts) (n : Node) : Prop :=
  let m := wrStateActions rtOpts n
  RunsWr n ∧ TimerDue m ∧
    ¬m.port.wr.currentWRstateCnt < m.port.wr.retryLimit m.port.wr.wrPortState.mainState

instance (rtOpts : RunTimeOpts) : DecidablePred (Abandons rtOpts) := fun n => by
  unfold Abandons
  infer_instance

/-- Giving up leaves the state machine idle and the port without White Rabbit. -/
theorem Abandons.doWRState_eq {rtOpts : RunTimeOpts} {n : Node} (h : Abandons rtOpts n) :
    let m := wrStateActions rtOpts n
    doWRState rtOpts n =
      abandon rtOpts m.port.wr.wrMode (wrTimerPolled m.port.wr.wrPortState.mainState m) := by
  obtain ⟨-, hdue, hover⟩ := h
  rcases wrTimerExpired_running rtOpts hdue.1 (wrStateActions rtOpts n).port.wr.wrMode with
    ⟨hnot, -⟩ | ⟨-, hlt, -⟩ | ⟨-, -, heq⟩
  · exact absurd hdue hnot
  · exact absurd hlt hover
  · exact heq

/-- How the counter goes on while the timer is running: a main state that stays keeps it, and one
that is entered starts it anew. -/
def Counted (wr wr' : WrPortDS) : Prop :=
  wr'.wrPortState ≠ .idle → wr'.Armed →
    wr'.wrPortState.mainState = wr.wrPortState.mainState ∧ wr.Armed ∧
        wr'.currentWRstateCnt = wr.currentWRstateCnt ∨
      wr'.wrPortState.mainState ≠ wr.wrPortState.mainState ∧ wr'.currentWRstateCnt = 0

/-- Neither the main state nor the counter nor the timers change. -/
structure Uncounted (wr wr' : WrPortDS) : Prop where
  mainState : wr'.wrPortState.mainState = wr.wrPortState.mainState
  count : wr'.currentWRstateCnt = wr.currentWRstateCnt
  timers : wr'.wrTimers = wr.wrTimers

section Counted

variable {wr wr' wr'' : WrPortDS}

@[refl]
theorem Uncounted.refl (wr : WrPortDS) : Uncounted wr wr := ⟨rfl, rfl, rfl⟩

theorem Uncounted.trans (h : Uncounted wr wr') (h' : Uncounted wr' wr'') : Uncounted wr wr'' where
  mainState := h'.mainState.trans h.mainState
  count := h'.count.trans h.count
  timers := h'.timers.trans h.timers

theorem Uncounted.armed (h : Uncounted wr wr') : wr'.Armed ↔ wr.Armed := by
  unfold WrPortDS.Armed
  rw [h.mainState, h.timers]

theorem Uncounted.idle (h : Uncounted wr wr') :
    wr'.wrPortState = .idle ↔ wr.wrPortState = .idle := by
  rw [← WrState.mainState_eq_idle, h.mainState, WrState.mainState_eq_idle]

theorem Uncounted.counted (h : Uncounted wr wr') : Counted wr wr' :=
  fun _ harmed => .inl ⟨h.mainState, h.armed.mp harmed, h.count⟩

/-- A state machine that is over does not count. -/
theorem Counted.of_idle (h : wr'.wrPortState = .idle) : Counted wr wr' := fun hrun => absurd h hrun

/-- What does not count may come before. -/
theorem Counted.after (h : Counted wr' wr'') (h' : Uncounted wr wr') : Counted wr wr'' := by
  intro hrun harmed
  rcases h hrun harmed with ⟨hmain, hbefore, hcount⟩ | ⟨hmain, hcount⟩
  · exact .inl ⟨hmain.trans h'.mainState, h'.armed.mp hbefore, hcount.trans h'.count⟩
  · exact .inr ⟨h'.mainState ▸ hmain, hcount⟩

/-- What does not count may come afterwards. -/
theorem Counted.before (h : Counted wr wr') (h' : Uncounted wr' wr'') : Counted wr wr'' := by
  intro hrun harmed
  have hcounted := h (mt h'.idle.mpr hrun) (h'.armed.mp harmed)
  rwa [← h'.mainState, ← h'.count] at hcounted

end Counted

/-! ### Transitions -/

section Transitions

variable {P : List UInt8 → Prop} {rtOpts : RunTimeOpts} {n n' k : Node} {id : UInt16}

theorem WrFrame.uncounted (h : WrFrame P n n') : Uncounted n.port.wr n'.port.wr := by
  rcases h.wr with hwr | ⟨-, hwr⟩ <;> rw [hwr]
  exact ⟨rfl, rfl, rfl⟩

theorem Decided.uncounted (h : Decided n n') : Uncounted n.port.wr n'.port.wr := by
  rw [h.wr]
  exact ⟨rfl, rfl, rfl⟩

/-- A transition to another main state starts the counter anew. -/
theorem toWRState_counted (rtOpts : RunTimeOpts) (n : Node) {s : WrState}
    (h : s ≠ n.port.wr.wrPortState.mainState) :
    Counted n.port.wr (toWRState s rtOpts n).port.wr := by
  intro hrun harmed
  have hcount := toWRState_count rtOpts n s
  rw [if_pos h] at hcount
  refine .inr ⟨fun hstays => ?_, hcount⟩
  -- A transition that is refused has stopped the timer all the same.
  have hleft : n.port.wr.wrPortState ≠ .idle := fun hidle =>
    hrun (WrState.mainState_eq_idle.mp (hstays.trans (WrState.mainState_eq_idle.mpr hidle)))
  unfold WrPortDS.Armed at harmed
  rw [hstays] at harmed
  exact harmed (toWRState_stops rtOpts n hleft h)

theorem SilentMove.uncounted (h : SilentMove n n') : Uncounted n.port.wr n'.port.wr := by
  have hsetup := h.setup
  exact ⟨congrArg Setup.mainState hsetup, congrArg Setup.count hsetup, congrArg Setup.timers hsetup⟩

/-- A call ends in its main state, or in another one that starts its counter anew. -/
theorem WrEnd.counted (h : WrEnd rtOpts n n') : Counted n.port.wr n'.port.wr := by
  cases h with
  | stay => exact (Uncounted.refl _).counted
  | @enter s henters =>
    refine toWRState_counted rtOpts n fun heq => ?_
    -- The transition leads forward, so that the state entered is another one.
    have hahead := henters.ahead
    rw [heq] at hahead
    exact absurd hahead (lt_irrefl _)
  | lock hpos =>
    have hlock : Counted n.port.wr (toWRState .sLock rtOpts n).port.wr :=
      toWRState_counted rtOpts n (by rw [hpos]; decide)
    exact hlock.before ⟨rfl, rfl, rfl⟩
  | calibrated hpos =>
    have hissued := issueWRSignalingMsg_wrFrame rtOpts n CALIBRATED
    have hnext : Counted (issueWRSignalingMsg CALIBRATED rtOpts n).port.wr
        (toWRState .calibrated rtOpts (issueWRSignalingMsg CALIBRATED rtOpts n)).port.wr := by
      refine toWRState_counted rtOpts _ ?_
      rw [hissued.uncounted.mainState, hpos]
      decide
    exact (hnext.after hissued.uncounted).before ⟨rfl, rfl, rfl⟩
  | linkOn hpos =>
    have hidle : (toWRState .idle rtOpts n).port.wr.wrPortState = .idle :=
      toWRState_wrPortState _ _ (by rw [hpos]; decide) rfl rfl
    refine .of_idle ?_
    unfold doWrLinkOn
    dsimp only
    split
    · exact toState_idle hidle (by decide)
    · exact toState_idle hidle (by decide)
    · exact hidle

theorem SilentRun.counted (h : SilentRun rtOpts n n') : Counted n.port.wr n'.port.wr :=
  h.induction (P := fun m => Uncounted n.port.wr m.port.wr)
    (fun _ _ hm hmove => hm.trans hmove.uncounted) (fun _ _ hm hend => hend.counted.after hm)
    (.refl _)

/-! ### Frames -/

/-- A frame does not count, unless it starts the state machine of a master. -/
theorem handle_uncounted_or (rtOpts : RunTimeOpts) (k : Node) :
    Uncounted k.port.wr (handle rtOpts k).port.wr ∨ StartsMaster k := by
  rcases handle_cases rtOpts k with hframe | ⟨hhears, heq⟩
  · exact .inl hframe.uncounted
  rcases handleSignaling_cases rtOpts (received k) with hsig | ⟨⟨hmaster, hregister, hconfig⟩, -⟩
  · -- A message that is only decoded writes the values of the other end.
    rw [heq, hsig, signaled_wr, received_wr]
    exact .inl ⟨rfl, rfl, rfl⟩
  · rw [received_portState] at hmaster
    rw [received_wr] at hconfig
    exact .inr ⟨hhears, hmaster, hregister, hconfig⟩

/-- A frame that does not make the port enter `WRS_M_LOCK` from itself does not use up retries. -/
theorem handle_counted (rtOpts : RunTimeOpts) (h : ¬Reenters k) :
    Counted k.port.wr (handle rtOpts k).port.wr := by
  rcases handle_uncounted_or rtOpts k with hframe | hstarts
  · exact hframe.counted
  have hsame : Uncounted k.port.wr (asWrMaster (signaled (received k))).port.wr := by
    show Uncounted k.port.wr { (signaled (received k)).port.wr with wrMode := .wrMaster }
    rw [signaled_wr, received_wr]
    exact ⟨rfl, rfl, rfl⟩
  rw [handle_startsMaster hstarts]
  refine (toWRState_counted rtOpts _ fun hmain => ?_).after hsame
  -- `WRS_M_LOCK` has no substates.
  have hlock (s : WrState) : s.mainState = .mLock → s = .mLock := by cases s <;> decide
  exact h ⟨hlock _ (hsame.mainState.symm.trans hmain.symm), hstarts⟩

theorem WrTransition.ne_slavePresent (h : WrTransition rtOpts k id n') : id ≠ SLAVE_PRESENT := by
  cases h <;> decide

/-- The actions of a White Rabbit state do not use up retries. -/
theorem wrStateActions_counted (rtOpts : RunTimeOpts) (h : ¬Reenters n) :
    Counted n.port.wr (wrStateActions rtOpts n).port.wr := by
  cases hhearing : wrHearing n with
  | none =>
    have hrun : SilentRun rtOpts n (wrStateActions rtOpts n) := wrStateActions_silentRun hhearing
    exact hrun.counted
  | some k =>
    have hk : ¬Reenters k ∧ Uncounted n.port.wr k.port.wr := by
      rcases wrHearing_cases hhearing with ⟨-, rfl⟩ | ⟨hpos, c, rfl⟩
      · exact ⟨h, .refl _⟩
      · refine ⟨fun hlock => ?_, by rw [hpos]; rfl, rfl, rfl⟩
        cases show WrState.respCalibReq1 = .mLock from hlock.1
    have houtcomes : wrStateActions rtOpts n = handle rtOpts k ∨
        ∃ id, WrTransition rtOpts k id (wrStateActions rtOpts n) := wrStateActions_outcomes hhearing
    rcases houtcomes with heq | ⟨id, htransition⟩
    · rw [heq]
      exact (handle_counted rtOpts hk.1).after hk.2
    · -- A message that makes the port move on has not started the state machine anew.
      have hframe : Uncounted k.port.wr (handle rtOpts k).port.wr := by
        rcases handle_uncounted_or rtOpts k with hframe | hstarts
        · exact hframe
        · refine absurd ?_ htransition.ne_slavePresent
          rw [← htransition.register, handle_register_of_hears hstarts.1]
          exact hstarts.2.2.1
      exact htransition.silentRun.counted.after (hk.2.trans hframe)

end Transitions

/-! ### The phases of a port -/

section Phases

variable {rtOpts : RunTimeOpts} {n m : Node}

/-- A transition to a state other than `PTP_UNCALIBRATED` does not count. -/
theorem toState_counted (h : Counted n.port.wr m.port.wr) {state : PtpState}
    (hne : state ≠ .uncalibrated) : Counted n.port.wr (toState state rtOpts m).port.wr := by
  by_cases hidle : m.port.wr.wrPortState = .idle
  · exact .of_idle (toState_idle hidle hne)
  · rwa [toState_running rtOpts m hidle]

/-- Forgetting all masters does not count. -/
theorem announceReceiptTimeoutExpires_counted (h : Counted n.port.wr m.port.wr) :
    Counted n.port.wr (announceReceiptTimeoutExpires rtOpts m).port.wr := by
  have hforget : Counted n.port.wr (forgetMasters m).port.wr := h.before ⟨rfl, rfl, rfl⟩
  rw [announceReceiptTimeoutExpires_eq]
  split
  · exact toState_counted (hforget.before (m1_decided _).uncounted) (by decide)
  split
  · exact toState_counted hforget (by decide)
  · exact hforget

theorem doSlaveActions_counted (rtOpts : RunTimeOpts) (h : ¬Reenters n) :
    Counted n.port.wr (doSlaveActions rtOpts n).port.wr :=
  doSlaveActions_induction (P := fun m => Counted n.port.wr m.port.wr) (handle_counted rtOpts h)
    (fun _ => announceReceiptTimeoutExpires_counted)
    fun _ _ hm heffects => hm.before heffects.wrFrame.uncounted

/-- The actions of a port that does not run the state machine do not use up retries. -/
theorem doStateActions_counted (rtOpts : RunTimeOpts) (hquiet : ¬RunsWr n) (h : ¬Reenters n) :
    Counted n.port.wr (doStateActions rtOpts n).port.wr := by
  have hself : Counted n.port.wr n.port.wr := (Uncounted.refl _).counted
  unfold doStateActions
  cases hstate : n.port.portState <;> dsimp only
  case faulty => exact toState_counted hself (by decide)
  case uncalibrated =>
    rw [if_neg fun hmode => hquiet (.inl ⟨hstate, hmode⟩)]
    have hslave : Counted n.port.wr (toState .slave rtOpts n).port.wr :=
      toState_counted hself (by decide)
    exact hslave.before ⟨rfl, rfl, rfl⟩
  case listening =>
    split
    · exact toState_counted (m1_decided n).uncounted.counted (by decide)
    · exact doSlaveActions_counted rtOpts h
  case passive | slave => exact doSlaveActions_counted rtOpts h
  case master =>
    rw [if_neg fun hmode => hquiet (.inr ⟨hstate, hmode⟩), doMasterActions_eq]
    have htimers := (masterTimers_wrFrame rtOpts (handle rtOpts n)).uncounted
    dsimp only
    split
    · exact toState_counted ((handle_counted rtOpts h).before htimers) (by decide)
    · exact (handle_counted rtOpts h).before htimers
  case disabled => exact handle_counted rtOpts h
  case initializing | preMaster => exact hself

/-- The start of the state machine of a slave starts its counter. -/
theorem toState_uncalibrated_count (hidle : n.port.wr.wrPortState = .idle)
    (hrun : (toState .uncalibrated rtOpts n).port.wr.wrPortState ≠ .idle) :
    (toState .uncalibrated rtOpts n).port.wr.currentWRstateCnt = 0 := by
  have hleft : (leaveState rtOpts n).port.wr.wrPortState = .idle := by
    rw [leaveState_wr]
    split <;> exact hidle
  unfold toState enterState at *
  rw [if_neg (not_not.mpr hidle)] at *
  dsimp only at hrun ⊢
  split
  next hslave =>
    split
    next =>
      have hcount := toWRState_count rtOpts (leaveState rtOpts n) .present
      rw [hleft] at hcount
      exact hcount
    next hon =>
      rw [if_pos hslave, if_neg hon] at hrun
      exact absurd hleft hrun
  next hslave =>
    rw [if_neg hslave] at hrun
    exact absurd hleft hrun

/-- A state decision starts the counter when it starts the state machine. -/
theorem stateDecision_counted (rtOpts : RunTimeOpts) (bestForeign : ForeignMasterRecord)
    (n : Node) : Counted n.port.wr (stateDecision rtOpts bestForeign n).port.wr := by
  by_cases hdecides : n.port.portState.decides = true ∧ n.clk.globalStateDecisionEvent = true ∧
      n.port.wr.wrPortState = .idle
  · have hidle : (bmc bestForeign (deciding n)).2.port.wr.wrPortState = .idle := by
      rw [(bmc_decided (deciding n) bestForeign).wr]
      exact hdecides.2.2
    -- Whatever is recommended, the state machine was idle before.
    have hstart {m : Node} (hm : m.port.wr.wrPortState = .idle) (s : PtpState) :
        Counted n.port.wr (toState s rtOpts m).port.wr := by
      by_cases hs : s = .uncalibrated
      · subst hs
        refine fun hrun _ => .inr ⟨?_, toState_uncalibrated_count hm hrun⟩
        rw [hdecides.2.2]
        exact mt WrState.mainState_eq_idle.mp hrun
      · exact .of_idle (toState_idle hm hs)
    rw [stateDecision_of rtOpts n bestForeign hdecides]
    generalize bmc bestForeign (deciding n) = decision at hidle ⊢
    rcases followRecommendation_cases rtOpts decision.2 decision.1 with heq | ⟨s, heq⟩ | heq <;>
      rw [heq]
    · exact .of_idle hidle
    · exact hstart hidle s
    · exact hstart (m := { decision.2 with
        port.wr.wrMode := .wrSlave, port.wr.wrModeON := false }) hidle _
  · rw [stateDecision_of_not rtOpts n bestForeign hdecides]
    exact (Uncounted.refl _).counted

/-- Following the link state does not count. -/
theorem linked_counted (rtOpts : RunTimeOpts) (n : Node) :
    Counted n.port.wr (linked rtOpts n).port.wr := by
  rcases linked_cases rtOpts n with hinit | hkept
  · exact .of_idle hinit.wrPortState
  · obtain ⟨port, hport, heq⟩ := hkept.port
    rw [heq]
    rcases hport with rfl | rfl
    · exact (Uncounted.refl _).counted
    · exact (Uncounted.refl _).counted

end Phases

/-! ### Time-outs -/

/-- The counter of a state machine whose timer is running is a number of expirations. -/
def Tallied (wr : WrPortDS) (expirations : ℕ) : Prop :=
  wr.wrPortState ≠ .idle → wr.Armed → wr.currentWRstateCnt.toNat = expirations

section TimeOuts

variable {rtOpts : RunTimeOpts} {n : Node} {wr wr' : WrPortDS} {e : ℕ}

/-- A main state that is entered has no expirations yet. -/
theorem Counted.tallied (h : Counted wr wr') (he : Tallied wr e) :
    Tallied wr' (if wr'.wrPortState.mainState = wr.wrPortState.mainState then e else 0) := by
  intro hrun harmed
  rcases h hrun harmed with ⟨hmain, hbefore, hcount⟩ | ⟨hmain, hcount⟩
  · have hrunning : wr.wrPortState ≠ .idle := by
      rwa [Ne, ← WrState.mainState_eq_idle, ← hmain, WrState.mainState_eq_idle]
    rw [if_pos hmain, hcount]
    exact he hrunning hbefore
  · rw [if_neg hmain, hcount]
    rfl

/-- A timer that has expired was running. -/
theorem TimerDue.armed (h : TimerDue n) : n.port.wr.Armed := by
  have hexpired := h.2
  unfold IntervalTimer.expired at hexpired
  exact (of_decide_eq_true hexpired).1

/-- The time-out handling counts an expiration. -/
theorem wrTimerExpired_tallied (he : Tallied n.port.wr e) (wrMode : WrMode) :
    Tallied (wrTimerExpired n.port.wr.wrPortState.mainState rtOpts wrMode n).port.wr
      (e + if TimerDue n then 1 else 0) := by
  by_cases hidle : n.port.wr.wrPortState = .idle
  · rw [hidle]
    exact fun hrun => absurd hidle hrun
  have hpolled : (wrTimerPolled n.port.wr.wrPortState.mainState n).port.wr.wrPortState ≠ .idle := by
    unfold wrTimerPolled
    exact hidle
  rcases wrTimerExpired_running rtOpts hidle wrMode with
    ⟨hdue, heq⟩ | ⟨hdue, hlt, heq⟩ | ⟨hdue, -, heq⟩ <;> rw [heq]
  · rw [if_neg hdue]
    exact fun _ harmed => he hidle ((wrTimerPolled_armed n).mp harmed)
  · -- The expiration is what the repetition counts.
    intro _ _
    rw [if_pos hdue, ← he hidle hdue.armed]
    exact repeat_count rtOpts (n := wrTimerPolled n.port.wr.wrPortState.mainState n) hlt
  · intro hrun
    exact absurd (abandon_eq rtOpts _ hpolled wrMode).1 hrun

end TimeOuts

/-! ### Runs -/

/-- How often the timer of the current main state of port `i` has expired since that state was
entered, after a step. -/
def nextExpirations (rtOpts : RunTimeOpts) (o : Oracle) (d : Daemon) (i expirations : ℕ) : ℕ :=
  let n := d.node i o
  let m := wrStateActions rtOpts n
  if d.phase = .act i ∧ RunsWr n then
    -- The timer is looked at after the actions, which may have entered another main state.
    (if m.port.wr.wrPortState.mainState = n.port.wr.wrPortState.mainState then expirations else 0) +
      if TimerDue m then 1 else 0
  else if ((Daemon.step rtOpts o d).ports i).wr.wrPortState.mainState =
      (d.ports i).wr.wrPortState.mainState then expirations
  else 0

/-- The daemon, with the expirations of the timers of its ports. -/
structure Tally where
  daemon : Daemon
  expirations : ℕ → ℕ

namespace Tally

/-- The daemon at the start of its main loop, before any timer has expired. -/
def Initial (rtOpts : RunTimeOpts) (t : Tally) : Prop :=
  Daemon.Initial rtOpts t.daemon ∧ t.expirations = fun _ => 0

/-- The daemon goes on by itself. -/
def step (rtOpts : RunTimeOpts) (o : Oracle) (t : Tally) : Tally where
  daemon := Daemon.step rtOpts o t.daemon
  expirations i := nextExpirations rtOpts o t.daemon i (t.expirations i)

/-- No message makes a port enter `WRS_M_LOCK` from itself. -/
def KeepsRetries (o : Oracle) (t : Tally) : Prop :=
  ∀ i, t.daemon.phase = .act i → ¬Reenters (t.daemon.node i o)

instance (o : Oracle) : DecidablePred (KeepsRetries o) := fun t =>
  match hphase : t.daemon.phase with
  | .act i => decidable_of_iff (¬Reenters (t.daemon.node i o))
      ⟨fun h j hj => by cases hphase.symm.trans hj; exact h, fun h => h i hphase⟩
  | .link _ | .decide _ | .shared => .isTrue fun j hj => by cases hphase.symm.trans hj

end Tally

section Runs

variable {rtOpts : RunTimeOpts} {o : Oracle} {d : Daemon} {i e : ℕ}

/-- A step that does not run the state machine of a port does not use up its retries. -/
theorem step_counted (rtOpts : RunTimeOpts) (hquiet : ¬(d.phase = .act i ∧ RunsWr (d.node i o)))
    (h : d.phase = .act i → ¬Reenters (d.node i o)) :
    Counted (d.ports i).wr ((Daemon.step rtOpts o d).ports i).wr := by
  -- A step of another port leaves this one alone.
  have hstore {j : ℕ} {n : Node} {phase : Phase}
      (hn : j = i → Counted (d.ports i).wr n.port.wr) :
      Counted (d.ports i).wr ((d.store j n phase).ports i).wr := by
    by_cases hj : i = j
    · subst hj
      rw [Daemon.store_ports_self]
      exact hn rfl
    · rw [Daemon.store_ports_of_ne _ _ hj]
      exact (Uncounted.refl _).counted
  cases hphase : d.phase with
  | link j =>
    obtain ⟨phase, heq, -⟩ := Daemon.step_link rtOpts o hphase
    rw [heq]
    refine hstore ?_
    rintro rfl
    exact linked_counted rtOpts (d.node j o)
  | decide j =>
    rw [Daemon.step_decide rtOpts o hphase]
    refine hstore ?_
    rintro rfl
    exact stateDecision_counted rtOpts d.bestForeign (d.node j o)
  | act j =>
    rw [Daemon.step_act rtOpts o hphase]
    refine hstore ?_
    rintro rfl
    exact doStateActions_counted rtOpts (fun hruns => hquiet ⟨hphase, hruns⟩) (h hphase)
  | shared =>
    obtain ⟨tics, extsrcLocked, heq⟩ := Daemon.step_shared rtOpts o hphase
    rw [heq]
    show Counted (d.ports i).wr ((sharedPortsLoop tics extsrcLocked d.ports d.clk).1 i).wr
    rw [sharedPortsLoop_port d.ports tics extsrcLocked d.clk i]
    exact (Uncounted.refl _).counted

/-- Every step without such a message keeps the counter at the number of expirations. -/
theorem step_tallied (he : Tallied (d.ports i).wr e)
    (h : d.phase = .act i → ¬Reenters (d.node i o)) :
    Tallied ((Daemon.step rtOpts o d).ports i).wr (nextExpirations rtOpts o d i e) := by
  unfold nextExpirations
  dsimp only
  split
  next hruns =>
    have hactions : Tallied (wrStateActions rtOpts (d.node i o)).port.wr _ :=
      (wrStateActions_counted rtOpts (h hruns.1)).tallied he
    have hcall : Tallied (doWRState rtOpts (d.node i o)).port.wr _ :=
      wrTimerExpired_tallied hactions _
    rw [Daemon.step_act rtOpts o hruns.1, Daemon.store_ports_self, doStateActions_of_runsWr hruns.2]
    exact hcall
  next hquiet => exact (step_counted rtOpts hquiet h).tallied he

/-- A call that gives the link set-up up finds a counter at its limit. -/
theorem nextExpirations_of_abandons (he : Tallied (d.ports i).wr e) (hphase : d.phase = .act i)
    (h : ¬Reenters (d.node i o)) (hgives : Abandons rtOpts (d.node i o)) :
    let m := wrStateActions rtOpts (d.node i o)
    (m.port.wr.retryLimit m.port.wr.wrPortState.mainState).toNat + 1 ≤
      nextExpirations rtOpts o d i e := by
  obtain ⟨hruns, hdue, hover⟩ := hgives
  have hactions := (wrStateActions_counted rtOpts h).tallied he hdue.1 hdue.armed
  have hlimit := UInt8.le_iff_toNat_le.mp (UInt8.not_lt.mp hover)
  unfold nextExpirations
  dsimp only
  rw [if_pos ⟨hphase, hruns⟩, if_pos hdue]
  exact Nat.succ_le_succ (hlimit.trans_eq hactions)

end Runs

/-- In every run in which no message makes a port enter `WRS_M_LOCK` from itself, the counter of a
running link set-up is the number of expirations in its main state, so it does not overflow, and a
call gives the set-up up only when there were more expirations in a row than the limit. -/
theorem expired_of_guardedRun (rtOpts : RunTimeOpts) {t : Tally}
    (h : GuardedRun (Tally.Initial rtOpts) (Tally.step rtOpts) Tally.KeepsRetries t) (i : ℕ) :
    ((t.daemon.ports i).wr.wrPortState ≠ .idle → (t.daemon.ports i).wr.Armed →
      (t.daemon.ports i).wr.currentWRstateCnt.toNat = t.expirations i) ∧
      ∀ o, Tally.KeepsRetries o t → t.daemon.phase = .act i →
        Abandons rtOpts (t.daemon.node i o) →
        let m := wrStateActions rtOpts (t.daemon.node i o)
        (m.port.wr.retryLimit m.port.wr.wrPortState.mainState).toNat + 1 ≤
          (Tally.step rtOpts o t).expirations i := by
  have htallied : ∀ i, Tallied (t.daemon.ports i).wr (t.expirations i) := by
    refine GuardedRun.invariant (P := fun t => ∀ i, Tallied (t.daemon.ports i).wr
      (t.expirations i)) h (fun t hstart i => ?_) fun o t ht hguard i => ?_
    · -- No timer is running at the start.
      obtain ⟨⟨-, macs, extsrcLocked, tics, clk, hdaemon⟩, -⟩ := hstart
      intro _ harmed
      rw [hdaemon] at harmed
      exact absurd rfl harmed
    · exact step_tallied (ht i) (hguard i)
  exact ⟨htallied i, fun o hguard hphase hgives =>
    nextExpirations_of_abandons (htallied i) hphase (hguard i hphase) hgives⟩

/-! ### A master and its slave -/

/-- One iteration of a master at a time, in which a slave is heard or nothing. -/
def masterIterationAt (tics : UInt64) (hears : Bool) : List Oracle :=
  let reception :=
    if hears then .frame ![0x01, 0x1b, 0x19, 0, 0, 0] slavePresentFrame ⟨0, 0, 0, 1⟩ else .nothing
  List.replicate 4 (Oracle.ready true .wrMaster reception 64 tics)

/-- A master hears a slave a number of times and is then alone for a number of time-outs, and one
more in which it is about to act. -/
def retriesRun (heard alone : ℕ) : List Oracle :=
  masterIterationAt 0 false ++ (List.replicate heard (masterIterationAt 0 true)).flatten ++
    ((List.range alone).map fun k =>
      masterIterationAt (UInt64.ofNat (20000 * (k + 1))) false).flatten ++
    (masterIterationAt (UInt64.ofNat (20000 * (alone + 1))) false).take 2

/-- The clock of the master after `retriesRun heard alone`. -/
def retriesState (heard alone : ℕ) : Tally :=
  runInputs (Tally.step (defaultRtOpts 1)) ⟨Daemon.single ![2, 0, 0, 0, 0, 1], fun _ => 0⟩
    (retriesRun heard alone)

/-- What the environment answers when this clock acts. -/
def lastAnswers (alone : ℕ) : Oracle :=
  Oracle.ready true .wrMaster .nothing 64 (UInt64.ofNat (20000 * (alone + 1)))

theorem retriesState_initial : Tally.Initial (defaultRtOpts 1)
    ⟨Daemon.single ![2, 0, 0, 0, 0, 1], fun _ => 0⟩ :=
  ⟨Daemon.single_initial _, rfl⟩

set_option maxRecDepth 100000 in
/-- A master that hears its slave once gives up after four time-outs. -/
theorem expired_of_guardedRun_retriesState :
    ((retriesState 1 3).daemon.ports 0).wr.currentWRstateCnt.toNat =
        (retriesState 1 3).expirations 0 ∧
      3 + 1 ≤ (Tally.step (defaultRtOpts 1) (lastAnswers 3) (retriesState 1 3)).expirations 0 := by
  obtain ⟨hcount, hgives⟩ := expired_of_guardedRun (defaultRtOpts 1)
    (.runInputs (.start retriesState_initial) (retriesRun 1 3) (by decide +kernel)) 0
  refine ⟨hcount (by decide +kernel) (by decide +kernel), ?_⟩
  have hlast := hgives (lastAnswers 3) (by decide +kernel) (by decide +kernel) (by decide +kernel)
  refine le_trans ?_ hlast
  decide +kernel

set_option maxRecDepth 100000 in
/-- A slave that is heard four times uses up the retries of its master, which gives up after a
single time-out. -/
theorem retriesState_abandons : (retriesState 4 0).daemon.phase = .act 0 ∧
    Abandons (defaultRtOpts 1) ((retriesState 4 0).daemon.node 0 (lastAnswers 0)) ∧
    (Tally.step (defaultRtOpts 1) (lastAnswers 0) (retriesState 4 0)).expirations 0 = 1 := by
  decide +kernel

/-- Not every link set-up that is given up has had its time-outs. -/
theorem not_forall_expired : ¬∀ (rtOpts : RunTimeOpts) (t : Tally) (i : ℕ) (o : Oracle),
    Reachable (Tally.Initial rtOpts) (Tally.step rtOpts) t → t.daemon.phase = .act i →
    Abandons rtOpts (t.daemon.node i o) →
    let m := wrStateActions rtOpts (t.daemon.node i o)
    (m.port.wr.retryLimit m.port.wr.wrPortState.mainState).toNat + 1 ≤
      (Tally.step rtOpts o t).expirations i := by
  intro h
  obtain ⟨hphase, hgives, hone⟩ := retriesState_abandons
  have hfour := h (defaultRtOpts 1) (retriesState 4 0) 0 (lastAnswers 0)
    (Reachable.runInputs (.start retriesState_initial) _) hphase hgives
  rw [hone] at hfour
  exact absurd hfour (by decide +kernel)

end WhiteRabbitPtp
