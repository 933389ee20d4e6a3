import WhiteRabbitPtp.Correctness.ConfiguredRole

/-!
# The timers of a link set-up

While the White Rabbit state machine of a port is running, the timer of its current main state has
to be running as well: nothing else ends the wait for a silent peer. A transition stops the timer of
the main state it leaves and starts the one of the main state it enters, so the timer is lost when a
transition does not arrive. Only `WRS_S_LOCK` can be missed, by a port that is no slave.

## Main definitions

* `WrPortDS.Armed`: the timer of the current main state is running.
* `Setup`: what the course of a link set-up depends on.
* `Setup.Underway`: what holds of a link set-up that is running.

## Main results

* `setup_underway`: what holds of every running link set-up of a port that was initialized.
-/

namespace WhiteRabbitPtp

open InputSystem

/-- The timer of the current main state is running. -/
def WrPortDS.Armed (wr : WrPortDS) : Prop :=
  (wr.wrTimers wr.wrPortState.mainState).interval ≠ 0

instance : DecidablePred WrPortDS.Armed := fun wr => by
  unfold WrPortDS.Armed
  infer_instance

/-- What the course of a link set-up depends on; the substates of a main state are not told apart.
-/
structure Setup where
  portState : PtpState
  mainState : WrState
  wrMode : WrMode
  wrSlaveRole : WrSlaveRole
  wrStateTimeout : UInt32
  wrStateRetry : UInt8
  calRetry : UInt8
  otherNodeCalRetry : UInt8
  count : UInt8
  timers : WrState → IntervalTimer
  timeouts : WrState → ℤ

/-- The link set-up of a port. -/
def PtpPortDS.setup (port : PtpPortDS) : Setup where
  portState := port.portState
  mainState := port.wr.wrPortState.mainState
  wrMode := port.wr.wrMode
  wrSlaveRole := port.wr.wrSlaveRole
  wrStateTimeout := port.wr.wrStateTimeout
  wrStateRetry := port.wr.wrStateRetry
  calRetry := port.wr.calRetry
  otherNodeCalRetry := port.wr.otherNodeCalRetry
  count := port.wr.currentWRstateCnt
  timers := port.wr.wrTimers
  timeouts := port.wr.wrTimeouts

/-- A running link set-up: its time-outs and the timer of the current main state are not zero, and
the states that look at the role of a slave find one. -/
structure Setup.Underway (s : Setup) : Prop where
  running : s.mainState ≠ .idle
  place : s.portState = .uncalibrated ∨ s.portState = .master ∨ s.portState = .faulty
  stateTimeout : s.wrStateTimeout ≠ 0
  timeouts : ∀ t, i32 (s.timeouts t) ≠ 0
  armed : (s.timers s.mainState).interval ≠ 0
  role : s.mainState = .present ∨ s.mainState = .sLock → s.wrSlaveRole ≠ .nonSlave

theorem WrState.mainState_eq_idle {s : WrState} : s.mainState = .idle ↔ s = .idle := by
  cases s <;> decide

/-- A time-out that was taken from an unsigned number is zero only if that number is. -/
theorem i32_ne_zero {v : UInt32} (h : v ≠ 0) : i32 (i32 v.toNat) ≠ 0 := by
  have hpos : v.toNat ≠ 0 := fun hzero => h (UInt32.toNat_inj.mp hzero)
  have hlt := v.toNat_lt
  intro hzero
  unfold i32 at hzero
  rw [Int.bmod_bmod] at hzero
  have hdvd := Int.dvd_of_bmod_eq_zero hzero
  omega

/-! ### Transitions of the White Rabbit state machine -/

section Transitions

variable (rtOpts : RunTimeOpts) (n : Node)

/-- What entering a main state leaves alone. -/
structure EnterKeeps (wr wr' : WrPortDS) : Prop where
  role : wr'.wrSlaveRole = wr.wrSlaveRole
  stateTimeout : wr'.wrStateTimeout = wr.wrStateTimeout
  count : wr'.currentWRstateCnt = wr.currentWRstateCnt
  timers : wr'.wrTimers = wr.wrTimers
  timeouts : wr.wrStateTimeout ≠ 0 → (∀ t, i32 (wr.wrTimeouts t) ≠ 0) →
    ∀ t, i32 (wr'.wrTimeouts t) ≠ 0

/-- Data that differ in nothing a link set-up waits for. -/
theorem EnterKeeps.of_timeouts {wr wr' : WrPortDS} (hrole : wr'.wrSlaveRole = wr.wrSlaveRole)
    (hstate : wr'.wrStateTimeout = wr.wrStateTimeout)
    (hcount : wr'.currentWRstateCnt = wr.currentWRstateCnt) (htimers : wr'.wrTimers = wr.wrTimers)
    (h : wr'.wrTimeouts = wr.wrTimeouts) : EnterKeeps wr wr' :=
  ⟨hrole, hstate, hcount, htimers, fun _ htimeouts t => by rw [h]; exact htimeouts t⟩

theorem EnterKeeps.trans {wr wr' wr'' : WrPortDS} (h : EnterKeeps wr wr')
    (h' : EnterKeeps wr' wr'') : EnterKeeps wr wr'' where
  role := h'.role.trans h.role
  stateTimeout := h'.stateTimeout.trans h.stateTimeout
  count := h'.count.trans h.count
  timers := h'.timers.trans h.timers
  timeouts hstate htimeouts :=
    h'.timeouts (by rwa [h.stateTimeout]) (h.timeouts hstate htimeouts)

/-- A main state sets its own time-out. -/
theorem EnterKeeps.update_timeouts {wr : WrPortDS} {v : UInt32}
    (hv : wr.wrStateTimeout ≠ 0 → v ≠ 0) (s t : WrState) :
    EnterKeeps wr { wr with
      wrTimeouts := Function.update wr.wrTimeouts s (i32 v.toNat), wrPortState := t } := by
  refine ⟨rfl, rfl, rfl, rfl, fun hstate htimeouts u => ?_⟩
  dsimp only
  by_cases hus : u = s
  · rw [hus, Function.update_self]
    exact i32_ne_zero (hv hstate)
  · rw [Function.update_of_ne hus]
    exact htimeouts u

/-- A calibration period that is zero is replaced by the time-out of the other states. -/
theorem period_ne_zero {timeout : UInt32} (h : timeout ≠ 0) (period : UInt32) :
    (if 0 < period then period else timeout) ≠ 0 := by
  split
  next hpos =>
    rintro rfl
    exact absurd hpos (by decide)
  next => exact h

/-- Sending a message keeps the data a link set-up waits for. -/
theorem issueWRSignalingMsg_keeps (id : UInt16) :
    EnterKeeps n.port.wr (issueWRSignalingMsg id rtOpts n).port.wr := by
  rcases (issueWRSignalingMsg_wrFrame rtOpts n id).wr with h | ⟨-, h⟩ <;> rw [h] <;>
    exact .of_timeouts rfl rfl rfl rfl rfl

theorem enterWRState_keeps (s : WrState) :
    EnterKeeps n.port.wr (enterWRState s rtOpts n).port.wr := by
  have hset (id : UInt16) (t : WrState) : EnterKeeps n.port.wr
      { (issueWRSignalingMsg id rtOpts n).port.wr with wrPortState := t } :=
    (issueWRSignalingMsg_keeps rtOpts n id).trans (.of_timeouts rfl rfl rfl rfl rfl)
  unfold enterWRState
  cases s
  case present | locked | mLock => exact hset _ _
  case sLock =>
    dsimp only
    split <;> exact .of_timeouts rfl rfl rfl rfl rfl
  -- The period of the calibration pattern is the time-out, and never becomes zero.
  case calibration =>
    refine (issueWRSignalingMsg_keeps rtOpts n CALIBRATE).trans ?_
    generalize issueWRSignalingMsg CALIBRATE rtOpts n = m
    dsimp only
    have hv (h : m.port.wr.wrStateTimeout ≠ 0) := period_ne_zero h m.port.wr.calPeriod
    generalize (if 0 < m.port.wr.calPeriod then m.port.wr.calPeriod
      else m.port.wr.wrStateTimeout) = v at hv ⊢
    split_ifs <;> exact .update_timeouts hv _ _
  -- The other end asks for its period by the last message.
  case respCalibReq =>
    dsimp only
    split
    · exact .update_timeouts (fun h => period_ne_zero h _) _ _
    · exact .of_timeouts rfl rfl rfl rfl rfl
  case wrLinkOn =>
    let on : Node := ({ n with port.wr.wrModeON := true } : Node).command .enablePhaseTracking
    have hon : EnterKeeps n.port.wr on.port.wr := .of_timeouts rfl rfl rfl rfl rfl
    dsimp only
    split
    · refine (hon.trans (issueWRSignalingMsg_keeps rtOpts on WR_MODE_ON)).trans ?_
      generalize issueWRSignalingMsg WR_MODE_ON rtOpts on = m
      exact .of_timeouts rfl rfl rfl rfl rfl
    · exact .of_timeouts rfl rfl rfl rfl rfl
  all_goals exact .of_timeouts rfl rfl rfl rfl rfl

/-- Managing the timers counts the repetition of a main state. -/
theorem wrTimetoutManage_count (entering exiting : WrState) :
    (wrTimetoutManage entering exiting n).port.wr.currentWRstateCnt =
      if entering ≠ exiting then 0 else n.port.wr.currentWRstateCnt + 1 := by
  unfold wrTimetoutManage Node.wrTimerStop Node.wrTimerStart
  dsimp only
  split <;> split <;> rfl

/-- Managing the timers stops the timer of a main state that is left for another one. -/
theorem wrTimetoutManage_stops {entering exiting : WrState} (h : exiting ≠ .idle)
    (hne : entering ≠ exiting) :
    ((wrTimetoutManage entering exiting n).port.wr.wrTimers exiting).interval = 0 := by
  unfold wrTimetoutManage Node.wrTimerStop Node.wrTimerStart
  dsimp only
  rw [if_pos h]
  split <;> simp [IntervalTimer.stop, Function.update_of_ne hne.symm]

/-- Managing the timers starts the timer of the main state that is entered. -/
theorem wrTimetoutManage_timers {entering : WrState} (h : entering ≠ .idle) (exiting : WrState) :
    let wr' := (wrTimetoutManage entering exiting n).port.wr
    (wr'.wrTimers entering).interval = i32 (wr'.wrTimeouts entering) ∧
      wr'.wrTimeouts = n.port.wr.wrTimeouts := by
  unfold wrTimetoutManage Node.wrTimerStop Node.wrTimerStart
  dsimp only
  rw [if_pos h]
  split <;> simp [IntervalTimer.start]

/-- A transition counts the repetition of a main state. -/
theorem toWRState_count (s : WrState) : (toWRState s rtOpts n).port.wr.currentWRstateCnt =
    if s ≠ n.port.wr.wrPortState.mainState then 0 else n.port.wr.currentWRstateCnt + 1 := by
  unfold toWRState
  dsimp only
  rw [wrTimetoutManage_count, (enterWRState_keeps rtOpts _ s).count]
  -- The counter is not among the data that are reset at the start of the state machine.
  by_cases hidle : n.port.wr.wrPortState = .idle
  · rw [if_pos hidle]
    rfl
  · rw [if_neg hidle]

/-- A transition stops the timer of a main state that it leaves for another one. -/
theorem toWRState_stops {s : WrState} (hrun : n.port.wr.wrPortState ≠ .idle)
    (hne : s ≠ n.port.wr.wrPortState.mainState) :
    ((toWRState s rtOpts n).port.wr.wrTimers n.port.wr.wrPortState.mainState).interval = 0 :=
  wrTimetoutManage_stops _ (mt WrState.mainState_eq_idle.mp hrun) hne

/-- A transition starts the timer of the main state it enters. -/
theorem toWRState_timers {s : WrState} (h : s ≠ .idle) (hstate : n.port.wr.wrStateTimeout ≠ 0)
    (htimeouts : n.port.wr.wrPortState ≠ .idle → ∀ t, i32 (n.port.wr.wrTimeouts t) ≠ 0) :
    let wr' := (toWRState s rtOpts n).port.wr
    (wr'.wrTimers s).interval ≠ 0 ∧ ∀ t, i32 (wr'.wrTimeouts t) ≠ 0 := by
  unfold toWRState
  dsimp only
  generalize hm : (if n.port.wr.wrPortState = .idle then initWrData .reInit n else n) = m
  -- The time-outs are set before the start of the state machine.
  have hset : m.port.wr.wrStateTimeout ≠ 0 ∧ ∀ t, i32 (m.port.wr.wrTimeouts t) ≠ 0 := by
    rw [← hm]
    split
    next =>
      refine ⟨hstate, fun t => ?_⟩
      show i32 (initialWrTimeouts n.port.wr.wrStateTimeout t) ≠ 0
      unfold initialWrTimeouts
      split
      next => decide
      next => decide
      next => decide
      next => exact i32_ne_zero hstate
    next hrun => exact ⟨hstate, htimeouts hrun⟩
  have hkeeps := enterWRState_keeps rtOpts m s
  obtain ⟨hinterval, htimeouts'⟩ :=
    wrTimetoutManage_timers (enterWRState s rtOpts m) h n.port.wr.wrPortState.mainState
  have hne : ∀ t, i32 ((enterWRState s rtOpts m).port.wr.wrTimeouts t) ≠ 0 :=
    hkeeps.timeouts hset.1 hset.2
  rw [hinterval, htimeouts']
  exact ⟨hne s, hne⟩

/-- `WRS_S_LOCK` is reached by a port that is a slave. -/
theorem toWRState_sLock (hrole : n.port.wr.wrSlaveRole ≠ .nonSlave) :
    (toWRState .sLock rtOpts n).port.wr.wrPortState.mainState = .sLock := by
  have hmanage (m : Node) (exiting : WrState) :
      (wrTimetoutManage .sLock exiting m).port.wr.wrPortState = m.port.wr.wrPortState := by
    rw [wrTimetoutManage_wr m .sLock exiting]
  -- Locking may fail, but both outcomes are substates of the same main state.
  have henter (m : Node) (hm : m.port.wr.wrSlaveRole ≠ .nonSlave) :
      (enterWRState .sLock rtOpts m).port.wr.wrPortState.mainState = .sLock := by
    unfold enterWRState
    cases hpriority : m.port.wr.wrSlaveRole.lockingPriority with
    | none =>
      cases hslave : m.port.wr.wrSlaveRole <;> rw [hslave] at hpriority hm
      case nonSlave => exact absurd rfl hm
      all_goals cases hpriority
    | some priority =>
      dsimp only
      split <;> rfl
  unfold toWRState
  dsimp only
  rw [hmanage]
  refine henter _ ?_
  split <;> exact hrole

theorem mainState_of_mem_entries {s t : WrState} (hmain : s.mainState = s) (h : t ∈ s.entries) :
    t.mainState = s := by
  cases s <;> cases hmain <;> simp only [WrState.entries, List.mem_cons, List.not_mem_nil,
    or_false] at h <;> rcases h with rfl | rfl | rfl <;> rfl

/-- A transition of a running link set-up arrives at the main state it asks for. -/
theorem toWRState_setup (hrun : n.port.wr.wrPortState ≠ .idle) {s : WrState}
    (hmain : s.mainState = s) (hrole : s = .sLock → n.port.wr.wrSlaveRole ≠ .nonSlave) :
    (toWRState s rtOpts n).port.setup = { n.port.setup with
      mainState := s
      count := (toWRState s rtOpts n).port.wr.currentWRstateCnt
      timers := (toWRState s rtOpts n).port.wr.wrTimers
      timeouts := (toWRState s rtOpts n).port.wr.wrTimeouts } := by
  obtain ⟨⟨t, ht, hmoved⟩, hstate⟩ := toWRState_wr rtOpts n hrun hmain
  have hreached : (toWRState s rtOpts n).port.wr.wrPortState.mainState = s := by
    by_cases hs : s = .sLock
    · subst hs
      exact toWRState_sLock rtOpts n (hrole rfl)
    · rcases ht with ht | ⟨hs', -⟩
      · rw [hmoved]
        exact mainState_of_mem_entries hmain ht
      · exact absurd hs' hs
  generalize toWRState s rtOpts n = n' at hmoved hstate hreached
  -- Entering `WRS_WR_LINK_ON` only sets flags.
  obtain ⟨hmode, hslave, htimeout, hretry, hcal, hother⟩ :
      n'.port.wr.wrMode = n.port.wr.wrMode ∧ n'.port.wr.wrSlaveRole = n.port.wr.wrSlaveRole ∧
        n'.port.wr.wrStateTimeout = n.port.wr.wrStateTimeout ∧
        n'.port.wr.wrStateRetry = n.port.wr.wrStateRetry ∧
        n'.port.wr.calRetry = n.port.wr.calRetry ∧
        n'.port.wr.otherNodeCalRetry = n.port.wr.otherNodeCalRetry := by
    rw [hmoved]
    unfold WrPortDS.entering
    split <;> exact ⟨rfl, rfl, rfl, rfl, rfl, rfl⟩
  unfold PtpPortDS.setup
  rw [hstate, hreached, hmode, hslave, htimeout, hretry, hcal, hother]

/-- A transition of a running link set-up leaves one that is running. -/
theorem toWRState_underway (h : n.port.setup.Underway) {s : WrState} (hmain : s.mainState = s)
    (hs : s ≠ .idle) (hrole : s = .present ∨ s = .sLock → n.port.wr.wrSlaveRole ≠ .nonSlave) :
    (toWRState s rtOpts n).port.setup.Underway := by
  have hrun : n.port.wr.wrPortState ≠ .idle := mt WrState.mainState_eq_idle.mpr h.running
  obtain ⟨harmed, htimeouts⟩ := toWRState_timers rtOpts n hs h.stateTimeout fun _ => h.timeouts
  rw [toWRState_setup rtOpts n hrun hmain fun hlock => hrole (.inr hlock)]
  exact ⟨hs, h.place, h.stateTimeout, htimeouts, harmed, hrole⟩

/-- The start of a link set-up, for a port that ends in one of the right states. -/
theorem toWRState_start_underway (hidle : n.port.wr.wrPortState = .idle)
    (hstate : n.port.wr.wrStateTimeout ≠ 0) {s : WrState} (hs : s = .present ∨ s = .mLock)
    (hrole : s = .present → n.port.wr.wrSlaveRole ≠ .nonSlave) {p : PtpState}
    (hplace : p = .uncalibrated ∨ p = .master ∨ p = .faulty) :
    Setup.Underway { (toWRState s rtOpts n).port.setup with portState := p } := by
  obtain ⟨m, id, -, hm, hmoved, -, -⟩ := toWRState_start rtOpts n hidle hs
  have hne : s ≠ .idle := by
    rintro rfl
    rcases hs with hs | hs <;> cases hs
  obtain ⟨harmed, htimeouts⟩ := toWRState_timers rtOpts n hne hstate fun hrun => absurd hidle hrun
  -- The data are reset first, but not the time-outs the port is configured with.
  have hkeeps := issueWRSignalingMsg_keeps rtOpts (initWrData .reInit n) id
  rw [← hm] at hkeeps
  have hmain : (toWRState s rtOpts n).port.wr.wrPortState.mainState = s := by
    rw [hmoved]
    rcases hs with rfl | rfl <;> rfl
  have hslave : (toWRState s rtOpts n).port.wr.wrSlaveRole = n.port.wr.wrSlaveRole := by
    rw [hmoved]
    exact hkeeps.role
  have htimeout : (toWRState s rtOpts n).port.wr.wrStateTimeout = n.port.wr.wrStateTimeout := by
    rw [hmoved]
    exact hkeeps.stateTimeout
  constructor
  case running => exact hmain.trans_ne hne
  case place => exact hplace
  case stateTimeout => exact htimeout.trans_ne hstate
  case timeouts => exact htimeouts
  case armed =>
    show ((toWRState s rtOpts n).port.wr.wrTimers
      (toWRState s rtOpts n).port.wr.wrPortState.mainState).interval ≠ 0
    rwa [hmain]
  case role =>
    intro hpos
    refine hslave.trans_ne (hrole ?_)
    rcases hpos with hpos | hpos <;> rcases hs with rfl | rfl <;> cases hmain.symm.trans hpos
    rfl

/-- Transitions of the White Rabbit state machine keep the configured time-out. -/
theorem toWRState_stateTimeout (s : WrState) :
    (toWRState s rtOpts n).port.wr.wrStateTimeout = n.port.wr.wrStateTimeout := by
  unfold toWRState
  dsimp only
  rw [wrTimetoutManage_wr]
  refine (enterWRState_keeps rtOpts _ s).stateTimeout.trans ?_
  split <;> rfl

theorem leaveState_stateTimeout :
    (leaveState rtOpts n).port.wr.wrStateTimeout = n.port.wr.wrStateTimeout := by
  rw [leaveState_wr]
  split <;> rfl

/-- PTP transitions keep the configured time-out. -/
theorem toState_stateTimeout (state : PtpState) :
    (toState state rtOpts n).port.wr.wrStateTimeout = n.port.wr.wrStateTimeout := by
  by_cases hidle : n.port.wr.wrPortState = .idle
  · -- Only `PTP_UNCALIBRATED` starts the link set-up.
    by_cases hstate : state = .uncalibrated
    · subst hstate
      refine .trans ?_ (leaveState_stateTimeout rtOpts n)
      unfold toState enterState
      rw [if_neg (not_not.mpr hidle)]
      dsimp only
      split
      · split
        · exact toWRState_stateTimeout rtOpts _ _
        · rfl
      · rfl
    · rw [(toState_eq rtOpts n hidle hstate).1, leaveState_stateTimeout]
  · rw [toState_running rtOpts n hidle]

end Transitions

/-! ### White Rabbit states -/

/-- What holds of the link set-up of a port that was initialized. -/
structure SetupTimed (port : PtpPortDS) : Prop where
  stateTimeout : port.wr.wrStateTimeout ≠ 0
  underway : port.wr.wrPortState ≠ .idle → port.setup.Underway

section States

variable {P : List UInt8 → Prop} {rtOpts : RunTimeOpts} {n n' : Node}

theorem Setup.Underway.timed (h : n.port.setup.Underway) : SetupTimed n.port :=
  ⟨h.stateTimeout, fun _ => h⟩

theorem Setup.Underway.ne_idle (h : n.port.setup.Underway) : n.port.wr.wrPortState ≠ .idle :=
  mt WrState.mainState_eq_idle.mpr h.running

/-- An idle port only has to keep the configured time-out. -/
theorem SetupTimed.of_idle {port : PtpPortDS} (h : port.wr.wrStateTimeout ≠ 0)
    (hidle : port.wr.wrPortState = .idle) : SetupTimed port :=
  ⟨h, fun hrun => absurd hidle hrun⟩

theorem WrFrame.setupTimed (h : WrFrame P n n') (hn : SetupTimed n.port) : SetupTimed n'.port := by
  by_cases hidle : n.port.wr.wrPortState = .idle
  · refine .of_idle ?_ (h.wrPortState.trans hidle)
    rcases h.wr with hwr | ⟨-, hwr⟩ <;> rw [hwr] <;> exact hn.stateTimeout
  · obtain ⟨hwr, hstate⟩ := h.eq_of_running hidle
    have hsetup : n'.port.setup = n.port.setup := by
      unfold PtpPortDS.setup
      rw [hwr, hstate]
    exact ⟨hwr ▸ hn.stateTimeout, fun _ => hsetup ▸ hn.underway hidle⟩

/-- A master that hears of a slave starts the link set-up, or starts it anew. -/
theorem startMaster_underway (hn : SetupTimed n.port) (hmaster : n.port.portState = .master) :
    (toWRState .mLock rtOpts (asWrMaster n)).port.setup.Underway := by
  by_cases hidle : n.port.wr.wrPortState = .idle
  · obtain ⟨m, id, -, hm, -, hport, -⟩ :=
      toWRState_start rtOpts (asWrMaster n) hidle (.inr rfl)
    have hframe := issueWRSignalingMsg_wrFrame rtOpts (initWrData .reInit (asWrMaster n)) id
    rw [← hm] at hframe
    have hplace : (toWRState .mLock rtOpts (asWrMaster n)).port.portState = .master ∨
        (toWRState .mLock rtOpts (asWrMaster n)).port.portState = .faulty := by
      rw [hport]
      -- A port that fails to send its first message becomes faulty.
      rcases hframe.portState with h | ⟨-, h⟩
      · exact .inl (h.trans hmaster)
      · exact .inr h
    exact toWRState_start_underway rtOpts (asWrMaster n) hidle hn.stateTimeout (.inr rfl)
      (fun h => by cases h) (.inr hplace)
  · obtain ⟨hrunning, hplace, hstate, htimeouts, harmed, hrole⟩ := hn.underway hidle
    refine toWRState_underway rtOpts (asWrMaster n) ?_ rfl (by decide) fun hs => ?_
    · exact ⟨hrunning, hplace, hstate, htimeouts, harmed, hrole⟩
    · rcases hs with hs | hs <;> cases hs

theorem successor_mainState {s t : WrState} (h : s.successor = some t) :
    t.mainState = s.mainState := by
  cases s <;> simp only [WrState.successor, Option.some.injEq, reduceCtorEq] at h <;> subst h <;>
    rfl

/-- A message changes neither the timers nor the role of a slave; it may start the link set-up. -/
theorem handle_setupTimed (hn : SetupTimed n.port) : SetupTimed (handle rtOpts n).port := by
  rcases handle_cases rtOpts n with hframe | ⟨-, heq⟩
  · exact hframe.setupTimed hn
  -- A decoded message writes the values of the other end, which the timers do not depend on.
  have hsignaled : SetupTimed (signaled (received n)).port := by
    refine ⟨?_, fun hrun => ?_⟩
    · rw [signaled_wr, received_wr]
      exact hn.stateTimeout
    · rw [signaled_wr, received_wr] at hrun
      obtain ⟨hrunning, hplace, hstate, htimeouts, harmed, hrole⟩ := hn.underway hrun
      have hsetup : (signaled (received n)).port.setup = { n.port.setup with
          otherNodeCalRetry := (signaled (received n)).port.wr.otherNodeCalRetry } := by
        unfold PtpPortDS.setup
        rw [signaled_wr, received_wr]
        exact congrArg (fun p : PtpState => Setup.mk p _ _ _ _ _ _ _ _ _ _) (received_portState n)
      rw [hsetup]
      exact ⟨hrunning, hplace, hstate, htimeouts, harmed, hrole⟩
  rw [heq]
  rcases handleSignaling_cases rtOpts (received n) with hsig | ⟨⟨hmaster, -, -⟩, hsig⟩ <;> rw [hsig]
  · exact hsignaled
  · exact (startMaster_underway hsignaled hmaster).timed

/-- Sending a message does not change a running link set-up. -/
theorem issueWRSignalingMsg_underway (rtOpts : RunTimeOpts) (id : UInt16)
    (hn : n.port.setup.Underway) : (issueWRSignalingMsg id rtOpts n).port.setup.Underway := by
  obtain ⟨hwr, hstate⟩ := issueWRSignalingMsg_running rtOpts n hn.ne_idle id
  unfold PtpPortDS.setup
  rw [hwr, hstate]
  exact hn

/-- Every move of a running link set-up leaves it running, with its timer. -/
theorem WrMove.underway (h : WrMove rtOpts n n') (hn : n.port.setup.Underway) :
    n'.port.setup.Underway := by
  -- Moves stay in their main state, and the timer belongs to it.
  have hmain {m : Node} {s : WrState} (hs : s.mainState = n.port.wr.wrPortState.mainState)
      (hm : m.port.setup = { n.port.setup with mainState := s.mainState }) :
      m.port.setup.Underway := by
    rw [hm, hs]
    exact hn
  cases h with
  | called c => exact hn
  | handle =>
    exact (handle_setupTimed hn.timed).underway (handle_running hn.ne_idle)
  | advance hnext => exact hmain (successor_mainState hnext) rfl
  | respond hpos _ hs =>
    refine hmain ?_ rfl
    rw [hpos]
    rcases hs with rfl | rfl <;> rfl
  | deltaTx hpos => exact hmain (s := .calibration3) (by rw [hpos]; rfl) rfl
  | deltaRx hpos => exact hmain (s := .calibration7) (by rw [hpos]; rfl) rfl

/-- However a call ends, the timers are right. -/
theorem WrEnd.setupTimed (h : WrEnd rtOpts n n') (hn : n.port.setup.Underway) :
    SetupTimed n'.port := by
  -- A main state is entered with its timer, or the set-up is over.
  have henter {s : WrState} (hs : s.mainState = s)
      (hrole : s = .present ∨ s = .sLock → n.port.wr.wrSlaveRole ≠ .nonSlave) :
      SetupTimed (toWRState s rtOpts n).port := by
    by_cases hidle : s = .idle
    · subst hidle
      exact .of_idle ((toWRState_stateTimeout rtOpts n _).trans_ne hn.stateTimeout)
        (toWRState_wrPortState _ _ hn.ne_idle rfl rfl)
    · exact (toWRState_underway rtOpts n hn hs hidle hrole).timed
  cases h with
  | stay => exact hn.timed
  | enter h =>
    refine henter h.mainState fun hs => ?_
    cases h <;> rcases hs with hs | hs <;> cases hs
  | lock hpos =>
    have hpresent : n.port.wr.wrPortState.mainState = .present := by
      rw [hpos]
      rfl
    have hlock : SetupTimed (toWRState .sLock rtOpts n).port :=
      henter rfl fun _ => hn.role (.inl hpresent)
    generalize toWRState .sLock rtOpts n = m at hlock ⊢
    exact ⟨hlock.stateTimeout, hlock.underway⟩
  | calibrated =>
    have hissued := issueWRSignalingMsg_underway rtOpts CALIBRATED hn
    have hdone : (toWRState .calibrated rtOpts
        (issueWRSignalingMsg CALIBRATED rtOpts n)).port.setup.Underway :=
      toWRState_underway rtOpts _ hissued rfl (by decide) fun hs => by
        rcases hs with hs | hs <;> cases hs
    unfold doCalibration8
    dsimp only
    generalize toWRState .calibrated rtOpts _ = m at hdone ⊢
    exact Setup.Underway.timed (n := { m with port.wr.calibrated := true }) hdone
  | linkOn =>
    have hidle : (toWRState .idle rtOpts n).port.wr.wrPortState = .idle :=
      toWRState_wrPortState _ _ hn.ne_idle rfl rfl
    have hstate : (toWRState .idle rtOpts n).port.wr.wrStateTimeout ≠ 0 :=
      (toWRState_stateTimeout rtOpts n _).trans_ne hn.stateTimeout
    -- The port becomes a master or a slave, and the set-up is over in any case.
    unfold doWrLinkOn
    dsimp only
    split
    · exact .of_idle ((toState_stateTimeout rtOpts _ _).trans_ne hstate)
        (toState_idle hidle (by decide))
    · exact .of_idle ((toState_stateTimeout rtOpts _ _).trans_ne hstate)
        (toState_idle hidle (by decide))
    · exact .of_idle hstate hidle

/-- Polling the timer of the current main state does not stop it. -/
theorem wrTimerPolled_armed (n : Node) :
    (wrTimerPolled n.port.wr.wrPortState.mainState n).port.wr.Armed ↔ n.port.wr.Armed := by
  have hinterval (t : IntervalTimer) (tics : UInt64) :
      (t.polled tics).interval = t.interval := by
    unfold IntervalTimer.polled
    split <;> rfl
  have hself : (wrTimerPolled n.port.wr.wrPortState.mainState n).port.wr.wrTimers
      n.port.wr.wrPortState.mainState =
      (n.port.wr.wrTimers n.port.wr.wrPortState.mainState).polled (n.answer .msecTics) :=
    Function.update_self _ _ _
  show ((wrTimerPolled n.port.wr.wrPortState.mainState n).port.wr.wrTimers
    n.port.wr.wrPortState.mainState).interval ≠ 0 ↔ _
  rw [hself, hinterval]
  rfl

theorem wrTimerPolled_underway (hn : n.port.setup.Underway) :
    (wrTimerPolled n.port.wr.wrPortState.mainState n).port.setup.Underway := by
  obtain ⟨hrunning, hplace, hstate, htimeouts, harmed, hrole⟩ := hn
  exact ⟨hrunning, hplace, hstate, htimeouts, (wrTimerPolled_armed n).mpr harmed, hrole⟩

theorem abandon_setupTimed (hn : n.port.setup.Underway) (wrMode : WrMode) :
    SetupTimed (abandon rtOpts wrMode n).port := by
  have hkept : (toState (fallbackState rtOpts wrMode) rtOpts (toWRState .idle rtOpts
      { n with port.wr.wrModeON := false })).port.wr.wrStateTimeout = n.port.wr.wrStateTimeout := by
    rw [toState_stateTimeout, toWRState_stateTimeout]
  refine .of_idle ?_ (abandon_eq rtOpts n hn.ne_idle wrMode).1
  unfold abandon
  generalize toState (fallbackState rtOpts wrMode) rtOpts _ = m at hkept ⊢
  exact hkept.trans_ne hn.stateTimeout

/-- The timer that has expired is started again, or the link set-up is given up. -/
theorem wrTimerExpired_setupTimed (hn : SetupTimed n.port) (wrMode : WrMode) :
    SetupTimed (wrTimerExpired n.port.wr.wrPortState.mainState rtOpts wrMode n).port := by
  rcases wrTimerExpired_cases rtOpts n n.port.wr.wrPortState.mainState wrMode with
    ⟨-, h⟩ | ⟨hrun, h⟩
  · rwa [h]
  have hpolled := wrTimerPolled_underway (hn.underway (mainState_ne_idle hrun))
  rcases h with h | h | h <;> rw [h]
  · exact hpolled.timed
  · exact (toWRState_underway rtOpts _ hpolled (mainState_mainState _) hrun hpolled.role).timed
  · exact abandon_setupTimed hpolled wrMode

/-- A call of the White Rabbit state machine keeps its timers right. -/
theorem doWRState_setupTimed (hn : SetupTimed n.port) :
    SetupTimed (doWRState rtOpts n).port := by
  by_cases hidle : n.port.wr.wrPortState = .idle
  · rwa [doWRState_idle rtOpts hidle]
  · exact wrTimerExpired_setupTimed
      (wrStateActions_induction (P := fun m => m.port.setup.Underway)
        (Q := fun m => SetupTimed m.port) (fun _ _ h hmove => hmove.underway h)
        (fun _ _ h hend => hend.setupTimed h) (hn.underway hidle)) _

end States

/-! ### The actions of a port -/

section Actions

variable {rtOpts : RunTimeOpts} {n : Node}

/-- A transition to a state other than `PTP_UNCALIBRATED` does not start the link set-up. -/
theorem toState_setupTimed (hn : SetupTimed n.port) {state : PtpState} (h : state ≠ .uncalibrated) :
    SetupTimed (toState state rtOpts n).port := by
  by_cases hidle : n.port.wr.wrPortState = .idle
  · exact .of_idle ((toState_stateTimeout rtOpts n state).trans_ne hn.stateTimeout)
      (toState_idle hidle h)
  · rwa [toState_running rtOpts n hidle]

/-- A slave starts the link set-up in its role. -/
theorem toState_uncalibrated_setupTimed (hidle : n.port.wr.wrPortState = .idle)
    (hstate : n.port.wr.wrStateTimeout ≠ 0) (hrole : n.port.wr.wrSlaveRole ≠ .nonSlave) :
    SetupTimed (toState .uncalibrated rtOpts n).port := by
  have hleft : (leaveState rtOpts n).port.wr.wrPortState = .idle ∧
      (leaveState rtOpts n).port.wr.wrStateTimeout ≠ 0 ∧
      (leaveState rtOpts n).port.wr.wrSlaveRole ≠ .nonSlave := by
    rw [leaveState_wr]
    split <;> exact ⟨hidle, hstate, hrole⟩
  obtain ⟨hidle', hstate', hrole'⟩ := hleft
  unfold toState enterState
  rw [if_neg (not_not.mpr hidle)]
  dsimp only
  split
  · split
    · have hstart := toWRState_start_underway rtOpts (leaveState rtOpts n) hidle' hstate'
        (.inl rfl) (fun _ => hrole') (p := .uncalibrated) (.inl rfl)
      generalize toWRState .present rtOpts (leaveState rtOpts n) = m at hstart ⊢
      exact Setup.Underway.timed (n := { m with port.portState := .uncalibrated }) hstart
    · exact .of_idle hstate' hidle'
  · exact .of_idle hstate' hidle'

theorem handle_stateTimeout (rtOpts : RunTimeOpts) (n : Node) :
    (handle rtOpts n).port.wr.wrStateTimeout = n.port.wr.wrStateTimeout := by
  rcases handle_cases rtOpts n with hframe | ⟨-, heq⟩
  · rcases hframe.wr with hwr | ⟨-, hwr⟩ <;> rw [hwr]
  · have hsignaled : (signaled (received n)).port.wr.wrStateTimeout = n.port.wr.wrStateTimeout := by
      rw [signaled_wr, received_wr]
    rw [heq]
    rcases handleSignaling_cases rtOpts (received n) with hsig | ⟨-, hsig⟩ <;> rw [hsig]
    · exact hsignaled
    · exact (toWRState_stateTimeout rtOpts _ _).trans hsignaled

theorem announceReceiptTimeoutExpires_stateTimeout (rtOpts : RunTimeOpts) (n : Node) :
    (announceReceiptTimeoutExpires rtOpts n).port.wr.wrStateTimeout =
      n.port.wr.wrStateTimeout := by
  rw [announceReceiptTimeoutExpires_eq]
  split
  · rw [toState_stateTimeout, (m1_decided (forgetMasters n)).wr]
    rfl
  split
  · exact toState_stateTimeout rtOpts (forgetMasters n) _
  · rfl

/-- A port that listens to a master has no link set-up running, and starts none. -/
theorem doSlaveActions_setupTimed (hn : SetupTimed n.port) (hidle : n.port.wr.wrPortState = .idle)
    (h : n.port.portState ≠ .master) : SetupTimed (doSlaveActions rtOpts n).port := by
  refine .of_idle ?_ (doSlaveActions_idle hidle h)
  -- Nothing that the port does changes the configured time-outs.
  have hkeeps : (doSlaveActions rtOpts n).port.wr.wrStateTimeout = n.port.wr.wrStateTimeout := by
    refine doSlaveActions_induction
      (P := fun m => m.port.wr.wrStateTimeout = n.port.wr.wrStateTimeout)
      (handle_stateTimeout rtOpts n) (fun m hm => ?_) fun m m' hm heffects => ?_
    · exact (announceReceiptTimeoutExpires_stateTimeout rtOpts m).trans hm
    · rcases heffects.wrFrame.wr with hwr | ⟨-, hwr⟩ <;> rw [hwr] <;> exact hm
  exact hkeeps.trans_ne hn.stateTimeout

/-- A running link set-up keeps the port in one of three states. -/
theorem SetupTimed.idle (hn : SetupTimed n.port) (h : n.port.portState ≠ .uncalibrated)
    (h' : n.port.portState ≠ .master) (h'' : n.port.portState ≠ .faulty) :
    n.port.wr.wrPortState = .idle := by
  by_contra hrun
  rcases (hn.underway hrun).place with hs | hs | hs
  · exact h hs
  · exact h' hs
  · exact h'' hs

/-- The actions of a port keep the timers of its link set-up right. -/
theorem doStateActions_setupTimed (hn : SetupTimed n.port) :
    SetupTimed (doStateActions rtOpts n).port := by
  have hclear {m : Node} (hm : SetupTimed m.port) :
      SetupTimed { m.port with wr.msgTmpWrMessageID := NULL_WR_TLV } :=
    ⟨hm.stateTimeout, hm.underway⟩
  -- The states that listen to a master do not set up a link.
  have hlisten (hne : n.port.portState ≠ .uncalibrated ∧ n.port.portState ≠ .master ∧
      n.port.portState ≠ .faulty) : SetupTimed (doSlaveActions rtOpts n).port :=
    doSlaveActions_setupTimed hn (hn.idle hne.1 hne.2.1 hne.2.2) hne.2.1
  unfold doStateActions
  cases hstate : n.port.portState <;> dsimp only
  case faulty => exact toState_setupTimed hn (by decide)
  case uncalibrated =>
    refine hclear (m := if n.port.wr.wrMode = .wrSlave then doWRState rtOpts n
      else toState .slave rtOpts n) ?_
    split
    · exact doWRState_setupTimed hn
    · exact toState_setupTimed hn (by decide)
  case listening =>
    split
    · refine toState_setupTimed ?_ (by decide)
      have hidle := hn.idle (by rw [hstate]; decide) (by rw [hstate]; decide)
        (by rw [hstate]; decide)
      have hwr := (m1_decided n).wr
      exact .of_idle (by rw [hwr]; exact hn.stateTimeout) (by rw [hwr]; exact hidle)
    · exact hlisten (by rw [hstate]; decide)
  case passive | slave => exact hlisten (by rw [hstate]; decide)
  case master =>
    split
    · exact hclear (doWRState_setupTimed hn)
    · have htimers := (masterTimers_wrFrame rtOpts (handle rtOpts n)).setupTimed
        (handle_setupTimed hn)
      rw [doMasterActions_eq]
      dsimp only
      split
      · exact toState_setupTimed htimers (by decide)
      · exact htimers
  case disabled => exact handle_setupTimed hn
  case initializing | preMaster => exact hn

end Actions

/-! ### State decisions -/

section Decisions

variable {rtOpts : RunTimeOpts} {n : Node}

/-- A port that is recommended to be a slave has the role of one. -/
theorem bmc_slave_role (bestForeign : ForeignMasterRecord) (n : Node)
    (h : (bmc bestForeign n).1 = .slave) :
    (bmc bestForeign n).2.port.wr.wrSlaveRole ≠ .nonSlave := by
  have hupdate {m : Node} {r : PtpState × Node} (hr : BmcUpdate m r) (hslave : r.1 = .slave) :
      r.2.port.wr.wrSlaveRole ≠ .nonSlave := by
    cases hr with
    | s1 | s2 => exact nofun
    | m1 | m3 | p1 | passive | listening => cases hslave
  exact (bmc_update n bestForeign).elim (hupdate · h) (hupdate · h)

/-- Following a recommendation starts the link set-up only of a port with the role of a slave. -/
theorem followRecommendation_setupTimed (hidle : n.port.wr.wrPortState = .idle)
    (hstate : n.port.wr.wrStateTimeout ≠ 0) {s : PtpState} (hs : s ≠ .uncalibrated)
    (hrole : s = .slave → n.port.wr.wrSlaveRole ≠ .nonSlave) :
    SetupTimed (followRecommendation rtOpts s n).port := by
  have hn : SetupTimed n.port := .of_idle hstate hidle
  unfold followRecommendation
  split
  next hne =>
    split
    -- A candidate for a White Rabbit slave.
    next hslave =>
      exact toState_uncalibrated_setupTimed
        (n := { n with port.wr.wrMode := .wrSlave, port.wr.wrModeON := false }) hidle hstate
        (hrole hslave.1)
    next => exact toState_setupTimed hn hs
  next heq =>
    split
    -- The slave has lost its mode and sets up the link again.
    next hfault =>
      exact toState_uncalibrated_setupTimed hidle hstate
        (hrole ((not_not.mp heq).trans hfault.2.1))
    next => exact hn

/-- A state decision keeps the timers of a link set-up right: it is taken while none is running. -/
theorem stateDecision_setupTimed (bestForeign : ForeignMasterRecord) (hn : SetupTimed n.port) :
    SetupTimed (stateDecision rtOpts bestForeign n).port := by
  by_cases h : n.port.portState.decides = true ∧ n.clk.globalStateDecisionEvent = true ∧
      n.port.wr.wrPortState = .idle
  · rw [stateDecision_of rtOpts n bestForeign h]
    have hwr := (bmc_decided (deciding n) bestForeign).wr
    have hmem := bmc_recommends bestForeign (deciding n)
    refine followRecommendation_setupTimed (by rw [hwr]; exact h.2.2)
      (by rw [hwr]; exact hn.stateTimeout) ?_ (bmc_slave_role bestForeign (deciding n))
    intro huncalibrated
    rw [huncalibrated] at hmem
    exact absurd hmem (by decide)
  · rwa [stateDecision_of_not rtOpts n bestForeign h]

/-- Initialization sets the time-out that the port was configured with. -/
theorem doInit_setupTimed (htimeout : rtOpts.wrStateTimeout ≠ 0) (n : Node) :
    SetupTimed (doInit rtOpts n).port := by
  have hinit : (initialized rtOpts n).port.wr.wrStateTimeout = rtOpts.wrStateTimeout := by
    unfold initialized
    dsimp only
    split <;> split <;> rfl
  rw [doInit_eq]
  exact toState_setupTimed
    (.of_idle (hinit.trans_ne htimeout) (initialized_initialized rtOpts n).wrPortState) (by decide)

end Decisions

/-! ### Runs -/

/-- Every phase of a port keeps the timers of its link set-up right. -/
theorem setupTimed_invariant {rtOpts : RunTimeOpts} (htimeout : rtOpts.wrStateTimeout ≠ 0) :
    PortInvariant rtOpts (fun _ _ => True) SetupTimed where
  link {d i o} _ _ hd hready := by
    rcases linked_doInit rtOpts (d.node i o) with ⟨-, m, fm, doRestart, heq⟩ | hkept
    · -- The port was initialized, which sets all time-outs.
      have hinit := doInit_setupTimed htimeout m
      rw [heq]
      generalize doInit rtOpts m = m at hinit ⊢
      exact ⟨hinit.stateTimeout, hinit.underway⟩
    · -- Only the link state changes, and the foreign masters of a slave-only port.
      obtain ⟨port, hport, heq⟩ := hkept.port
      rw [heq] at hready ⊢
      rcases hport with rfl | rfl
      · exact ⟨(hd hready).stateTimeout, (hd hready).underway⟩
      · exact ⟨(hd hready).stateTimeout, (hd hready).underway⟩
  decide _ _ _ h := stateDecision_setupTimed _ h
  act _ _ _ h := doStateActions_setupTimed h
  search _ h := ⟨h.stateTimeout, h.underway⟩

/-- In every reachable state, a port that was initialized and whose White Rabbit state machine is
running has the timer of its current main state running, with the time-outs it is started with. -/
theorem setup_underway {rtOpts : RunTimeOpts} (htimeout : rtOpts.wrStateTimeout ≠ 0) {d : Daemon}
    (h : Daemon.Reachable rtOpts d) (i : ℕ) (hinit : (d.ports i).portState ≠ .initializing)
    (hrun : (d.ports i).wr.wrPortState ≠ .idle) : (d.ports i).setup.Underway := by
  have hready : (d.ports i).Ready := by
    by_contra hready
    exact hinit (h.prepared.unready i hready)
  exact ((setupTimed_invariant htimeout).holds h i hready).underway hrun

end WhiteRabbitPtp
