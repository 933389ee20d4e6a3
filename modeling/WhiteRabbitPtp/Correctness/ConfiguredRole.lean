import WhiteRabbitPtp.Correctness.Triggers

/-!
# The configured role

A port that is configured as a White Rabbit master only never depends on another one, and a port
that is configured as a White Rabbit slave only is never a master. The state of a port, its White
Rabbit mode and the state of its link set-up keep each other in the configured role.

## Main definitions

* `WrConfig.allows`, `WrConfig.allowsMode`: the states and the modes that a configuration allows.
* `Role`: a port is in its configured role.

## Main results

* `role_invariant`: every phase of a port keeps its role.
* `role_of_reachable`: the role is never violated.
-/

namespace WhiteRabbitPtp

open InputSystem

/-! ### Roles -/

/-- The states that a configuration allows. -/
def WrConfig.allows : WrConfig → PtpState → Bool
  | .wrMOnly, .slave | .wrMOnly, .uncalibrated | .wrMOnly, .passive => false
  | .wrSOnly, .master | .wrSOnly, .passive => false
  | _, _ => true

/-- The White Rabbit modes that a configuration allows. -/
def WrConfig.allowsMode : WrConfig → WrMode → Bool
  | .wrMOnly, .wrSlave => false
  | .wrSOnly, .wrMaster => false
  | _, _ => true

/-- A port is in its configured role. While the link set-up is running, the port has a mode. -/
structure Role (port : PtpPortDS) : Prop where
  state : port.wr.wrConfig.allows port.portState = true
  mode : port.wr.wrConfig.allowsMode port.wr.wrMode = true
  running : port.wr.wrPortState ≠ .idle → port.wr.wrMode ≠ .nonWr

section Configurations

variable (c : WrConfig)

@[simp]
theorem allows_faulty : c.allows .faulty = true := by cases c <;> rfl

@[simp]
theorem allows_initializing : c.allows .initializing = true := by cases c <;> rfl

@[simp]
theorem allows_disabled : c.allows .disabled = true := by cases c <;> rfl

@[simp]
theorem allows_listening : c.allows .listening = true := by cases c <;> rfl

@[simp]
theorem allowsMode_nonWr : c.allowsMode .nonWr = true := by cases c <;> rfl

/-- A slave is in the mode of a slave or in none. -/
theorem allows_slave : c.allows .slave = c.allowsMode .wrSlave := by cases c <;> rfl

theorem allows_uncalibrated : c.allows .uncalibrated = c.allowsMode .wrSlave := by
  cases c <;> rfl

theorem allows_master : c.allows .master = c.allowsMode .wrMaster := by cases c <;> rfl

end Configurations

/-! ### Transitions -/

section Transitions

variable {P : List UInt8 → Prop} {rtOpts : RunTimeOpts} {n n' : Node} {s : PtpState}

/-- A change of a port that keeps its configuration and its mode. -/
theorem Role.of_mode (hn : Role n.port) (hconfig : n'.port.wr.wrConfig = n.port.wr.wrConfig)
    (hmode : n'.port.wr.wrMode = n.port.wr.wrMode)
    (hstate : n.port.wr.wrConfig.allows n'.port.portState = true)
    (hrun : n'.port.wr.wrPortState ≠ .idle → n.port.wr.wrPortState ≠ .idle) : Role n'.port :=
  ⟨hconfig ▸ hstate, by rw [hconfig, hmode]; exact hn.mode,
    fun h => hmode ▸ hn.running (hrun h)⟩

/-- A change that leaves the mode, while the link set-up is not running. -/
theorem Role.of_nonWr (hn : n.port.wr.wrConfig.allows n'.port.portState = true)
    (hconfig : n'.port.wr.wrConfig = n.port.wr.wrConfig) (hmode : n'.port.wr.wrMode = .nonWr)
    (hidle : n'.port.wr.wrPortState = .idle) : Role n'.port :=
  ⟨hconfig ▸ hn, by rw [hmode, allowsMode_nonWr], fun h => absurd hidle h⟩

theorem WrFrame.role (h : WrFrame P n n') (hn : Role n.port) : Role n'.port := by
  have hstate : n.port.wr.wrConfig.allows n'.port.portState = true := by
    rcases h.portState with hs | ⟨-, hs⟩
    · rw [hs]
      exact hn.state
    · rw [hs, allows_faulty]
  rcases h.wr with hwr | ⟨⟨hidle, -⟩, hwr⟩
  · exact hn.of_mode h.wrConfig (by rw [hwr]) hstate fun hrun => by rwa [hwr] at hrun
  · -- A slave that fails leaves its mode, while its state machine is idle.
    exact .of_nonWr hstate h.wrConfig (by rw [hwr]) (h.wrPortState.trans hidle)

variable (rtOpts) in
/-- Leaving a state keeps the role. -/
theorem leaveState_role (hn : Role n.port) (hidle : n.port.wr.wrPortState = .idle) :
    Role (leaveState rtOpts n).port := by
  have hstate : n.port.wr.wrConfig.allows (leaveState rtOpts n).port.portState = true := by
    rw [leaveState_portState]
    exact hn.state
  have hwr := leaveState_wr rtOpts n
  split at hwr
  · exact .of_nonWr hstate (by rw [hwr]) (by rw [hwr]) (by rw [hwr]; exact hidle)
  · exact hn.of_mode (by rw [hwr]) (by rw [hwr]) hstate fun hrun => by rwa [hwr] at hrun

/-- A transition to a state that the configuration allows. -/
theorem toState_role (hn : Role n.port) (hs : n.port.wr.wrConfig.allows s = true)
    (hne : s ≠ .uncalibrated) (hne' : s ≠ .preMaster) : Role (toState s rtOpts n).port := by
  by_cases hidle : n.port.wr.wrPortState = .idle
  · have hleft := leaveState_role rtOpts hn hidle
    have hwr := (toState_eq rtOpts n hidle hne).1
    have hstate : (toState s rtOpts n).port.portState = s := by
      rw [toState, if_neg (not_not.mpr hidle)]
      exact enterState_portState rtOpts _ hne hne'
    have hconfig : (toState s rtOpts n).port.wr.wrConfig = n.port.wr.wrConfig :=
      (toState_frame rtOpts n s).wrConfig
    refine ⟨by rw [hconfig, hstate]; exact hs, by rw [hwr]; exact hleft.mode, ?_⟩
    rw [hwr]
    exact hleft.running
  · rwa [toState_running rtOpts n hidle]

/-- A transition to `PTP_UNCALIBRATED`, of a port that is allowed to be there. -/
theorem toState_uncalibrated_role (hn : Role n.port)
    (hs : n.port.wr.wrConfig.allows .uncalibrated = true) :
    Role (toState .uncalibrated rtOpts n).port := by
  by_cases hidle : n.port.wr.wrPortState = .idle
  · have hconfig : (toState .uncalibrated rtOpts n).port.wr.wrConfig = n.port.wr.wrConfig :=
      (toState_frame rtOpts n _).wrConfig
    have hmode : n.port.wr.wrConfig.allowsMode .wrSlave = true := allows_uncalibrated _ ▸ hs
    -- The set-up is started, or the port is a slave at once, with or without the mode.
    rcases toState_uncalibrated_cases rtOpts hidle with
      ⟨hstate, -, hslave⟩ | ⟨hstate, hstopped, hslave | hnone⟩
    · exact ⟨by rw [hconfig, hstate, hs], by rw [hconfig, hslave, hmode],
        fun _ => by rw [hslave]; decide⟩
    · exact ⟨by rw [hconfig, hstate, allows_slave, hmode], by rw [hconfig, hslave, hmode],
        fun h => absurd hstopped h⟩
    · exact ⟨by rw [hconfig, hstate, allows_slave, hmode],
        by rw [hconfig, hnone, allowsMode_nonWr], fun h => absurd hstopped h⟩
  · rwa [toState_running rtOpts n hidle]

/-- A transition of a running White Rabbit state machine keeps the role. -/
theorem toWRState_role (hrun : n.port.wr.wrPortState ≠ .idle) (hn : Role n.port) {s : WrState}
    (hmain : s.mainState = s) : Role (toWRState s rtOpts n).port := by
  -- A running state machine moves without touching mode and configuration.
  obtain ⟨⟨t, -, hmoved⟩, hstate⟩ := toWRState_wr rtOpts n hrun hmain
  have hmode : (toWRState s rtOpts n).port.wr.wrMode = n.port.wr.wrMode := by
    rw [hmoved]
    unfold WrPortDS.entering
    split <;> rfl
  exact hn.of_mode (toWRState_frame rtOpts n s).wrConfig hmode (by rw [hstate]; exact hn.state)
    fun _ => hrun

/-- Decoding a Signaling message keeps the role. -/
theorem signaled_role (hn : Role n.port) : Role (signaled n).port := by
  refine hn.of_mode ?_ ?_ hn.state ?_
  · rw [signaled_wr]
  · rw [signaled_wr]
  · rw [signaled_wr]
    exact id

/-- A master that starts the White Rabbit state machine is allowed to be one. -/
theorem toWRState_mLock_role (hn : Role n.port) (hmaster : n.port.portState = .master) :
    Role (toWRState .mLock rtOpts (asWrMaster n)).port := by
  have hallowed : n.port.wr.wrConfig.allowsMode .wrMaster = true := by
    rw [← allows_master, ← hmaster]
    exact hn.state
  have hmastered : Role (asWrMaster n).port :=
    ⟨hn.state, hallowed, fun _ => show WrMode.wrMaster ≠ .nonWr by decide⟩
  by_cases hidle : n.port.wr.wrPortState = .idle
  · obtain ⟨m, id, -, rfl, hmoved, hstate, -⟩ :=
      toWRState_start rtOpts (asWrMaster n) hidle (.inr rfl)
    have hinit : Role (initWrData .reInit (asWrMaster n)).port :=
      ⟨hn.state, hallowed, fun h => absurd rfl h⟩
    -- A failed transmission makes the port faulty, but it keeps the mode of a master.
    have hframe := issueWRSignalingMsg_wrFrame rtOpts (initWrData .reInit (asWrMaster n)) id
    have hissued := hframe.role hinit
    have hmode :
        (issueWRSignalingMsg id rtOpts (initWrData .reInit (asWrMaster n))).port.wr.wrMode =
        .wrMaster := by
      rcases hframe.wr with hwr | ⟨⟨-, hslave⟩, -⟩
      · rw [hwr]
        rfl
      · exact absurd (hmaster.symm.trans hslave) (by decide)
    exact ⟨by rw [hstate, hmoved]; exact hissued.state, by rw [hmoved]; exact hissued.mode,
      fun _ => by rw [hmoved]; exact hmode ▸ (by decide)⟩
  · have hrun : (asWrMaster n).port.wr.wrPortState ≠ .idle := hidle
    exact toWRState_role hrun hmastered rfl

/-- Handling a frame keeps the role. -/
theorem handle_role (hn : Role n.port) : Role (handle rtOpts n).port := by
  rcases handle_cases rtOpts n with hframe | ⟨-, heq⟩
  · exact hframe.role hn
  have hreceived : Role (received n).port := (received_wrFrame (P := NotSignaling) n).role hn
  rw [heq]
  rcases handleSignaling_cases rtOpts (received n) with hsig | ⟨⟨hmaster, -⟩, hsig⟩
  · rw [hsig]
    exact signaled_role hreceived
  · rw [hsig]
    exact toWRState_mLock_role (signaled_role hreceived) hmaster

end Transitions

/-! ### The actions of a port -/

section Actions

variable {rtOpts : RunTimeOpts} {n n' : Node}

/-- Every move of a running state machine keeps the role, and the machine running. -/
theorem WrMove.role (h : WrMove rtOpts n n') (hn : Role n.port ∧ n.port.wr.wrPortState ≠ .idle) :
    Role n'.port ∧ n'.port.wr.wrPortState ≠ .idle := by
  obtain ⟨hrole, hrun⟩ := hn
  have hset : ∀ m : Node, m.port.wr.wrConfig = n.port.wr.wrConfig →
      m.port.wr.wrMode = n.port.wr.wrMode → m.port.portState = n.port.portState →
      m.port.wr.wrPortState ≠ .idle → Role m.port ∧ m.port.wr.wrPortState ≠ .idle :=
    fun m hconfig hmode hstate hrunning =>
      ⟨hrole.of_mode hconfig hmode (hstate ▸ hrole.state) fun _ => hrun, hrunning⟩
  cases h with
  | called c => exact ⟨hrole, hrun⟩
  | handle => exact ⟨handle_role hrole, handle_running hrun⟩
  | advance hnext => exact hset _ rfl rfl rfl (successor_ne_idle hnext)
  | respond _ _ hs => exact hset _ rfl rfl rfl (by rcases hs with rfl | rfl <;> simp)
  | deltaTx => exact hset _ rfl rfl rfl (by simp)
  | deltaRx => exact hset _ rfl rfl rfl (by simp)

/-- Every end of a call keeps the role. -/
theorem WrEnd.role (h : WrEnd rtOpts n n') (hn : Role n.port ∧ n.port.wr.wrPortState ≠ .idle) :
    Role n'.port := by
  obtain ⟨hrole, hrun⟩ := hn
  cases h with
  | stay => exact hrole
  | enter h => exact toWRState_role hrun hrole h.mainState
  | lock =>
    have hlock : Role (toWRState .sLock rtOpts n).port := toWRState_role hrun hrole rfl
    exact hlock.of_mode rfl rfl hlock.state id
  | calibrated =>
    have hframe := issueWRSignalingMsg_wrFrame rtOpts n CALIBRATED
    have hrunning : (issueWRSignalingMsg CALIBRATED rtOpts n).port.wr.wrPortState ≠ .idle := by
      rwa [hframe.wrPortState]
    have hcalibrated : Role (toWRState .calibrated rtOpts
        (issueWRSignalingMsg CALIBRATED rtOpts n)).port :=
      toWRState_role hrunning (hframe.role hrole) rfl
    exact hcalibrated.of_mode rfl rfl hcalibrated.state id
  | linkOn =>
    have hidle : Role (toWRState .idle rtOpts n).port := toWRState_role hrun hrole rfl
    unfold doWrLinkOn
    dsimp only
    -- The set-up ends in the PTP state that belongs to the mode.
    split
    next hslave =>
      refine toState_role hidle ?_ (by decide) (by decide)
      rw [allows_slave, ← hslave]
      exact hidle.mode
    next hmaster =>
      refine toState_role hidle ?_ (by decide) (by decide)
      rw [allows_master, ← hmaster]
      exact hidle.mode
    next => exact hidle

/-- Giving the link set-up up ends in the state of its mode, or with a disabled port. -/
theorem abandon_role (hn : Role n.port) (hrun : n.port.wr.wrPortState ≠ .idle) {wrMode : WrMode}
    (hs : n.port.wr.wrConfig.allows (fallbackState rtOpts wrMode) = true) :
    Role (abandon rtOpts wrMode n).port := by
  have hoff : Role ({ n with port.wr.wrModeON := false } : Node).port :=
    hn.of_mode rfl rfl hn.state id
  have hoffrun : ({ n with port.wr.wrModeON := false } : Node).port.wr.wrPortState ≠ .idle := hrun
  have hstopped :
      Role (toWRState .idle rtOpts ({ n with port.wr.wrModeON := false } : Node)).port :=
    toWRState_role hoffrun hoff rfl
  have hconfig :=
    (toWRState_frame rtOpts ({ n with port.wr.wrModeON := false } : Node) .idle).wrConfig
  have hne : fallbackState rtOpts wrMode ≠ .uncalibrated ∧
      fallbackState rtOpts wrMode ≠ .preMaster := by
    unfold fallbackState
    split_ifs <;> decide
  unfold abandon
  -- What the port falls back to is entered out of `WRS_IDLE`, and the mode is reset last.
  generalize toWRState .idle rtOpts ({ n with port.wr.wrModeON := false } : Node) = m
    at hstopped hconfig
  have hfallen : Role (toState (fallbackState rtOpts wrMode) rtOpts m).port :=
    toState_role hstopped (hconfig ▸ hs) hne.1 hne.2
  exact .of_nonWr hfallen.state rfl rfl rfl

theorem allows_fallbackState {c : WrConfig} {wrMode : WrMode} (h : c.allowsMode wrMode = true)
    (hmode : wrMode ≠ .nonWr) : c.allows (fallbackState rtOpts wrMode) = true := by
  unfold fallbackState
  split
  · exact allows_disabled c
  split
  next hmaster => rw [allows_master, ← hmaster, h]
  next hother =>
    -- The mode is that of a slave, since a port without one is not in the set-up.
    cases wrMode with
    | nonWr => exact absurd rfl hmode
    | wrMaster => exact absurd rfl hother
    | wrSlave => rw [allows_slave, h]

/-- Time-outs keep the role: a link set-up that is given up ends in a state of its mode. -/
theorem wrTimerExpired_role (hn : Role n.port) : Role (wrTimerExpired
    n.port.wr.wrPortState.mainState rtOpts n.port.wr.wrMode n).port := by
  rcases wrTimerExpired_cases rtOpts n n.port.wr.wrPortState.mainState n.port.wr.wrMode with
    ⟨-, h⟩ | ⟨hmain, h⟩
  · rwa [h]
  have hrun : n.port.wr.wrPortState ≠ .idle := mainState_ne_idle hmain
  have hpolled : Role (wrTimerPolled n.port.wr.wrPortState.mainState n).port :=
    hn.of_mode rfl rfl hn.state fun _ => hrun
  have hrunning : (wrTimerPolled n.port.wr.wrPortState.mainState n).port.wr.wrPortState ≠ .idle :=
    hrun
  rcases h with h | h | h <;> rw [h]
  · exact hpolled
  · exact toWRState_role hrunning hpolled (mainState_mainState _)
  · -- The fallback follows the mode, which the configuration allows.
    generalize hm : wrTimerPolled n.port.wr.wrPortState.mainState n = m at hpolled hrunning
    have hmode : m.port.wr.wrMode = n.port.wr.wrMode := by
      rw [← hm]
      rfl
    exact abandon_role hpolled hrunning
      (allows_fallbackState (hmode ▸ hpolled.mode) (hmode ▸ hpolled.running hrunning))

theorem doWRState_role (hn : Role n.port) : Role (doWRState rtOpts n).port := by
  refine wrTimerExpired_role ?_
  by_cases hidle : n.port.wr.wrPortState = .idle
  · rwa [wrStateActions_idle rtOpts hidle]
  · exact wrStateActions_induction
      (P := fun m => Role m.port ∧ m.port.wr.wrPortState ≠ .idle) (Q := fun m => Role m.port)
      (fun _ _ h hmove => hmove.role h) (fun _ _ h hend => hend.role h) ⟨hn, hidle⟩

/-- Clearing the register of the received message keeps the role. -/
theorem Role.clearRegister (hn : Role n.port) :
    Role ({ n with port.wr.msgTmpWrMessageID := NULL_WR_TLV } : Node).port :=
  hn.of_mode rfl rfl hn.state id

/-- The actions of a decision keep the role. -/
theorem Decided.role (h : Decided n n') (hn : Role n.port) : Role n'.port := by
  refine hn.of_mode ?_ ?_ (by rw [h.portState]; exact hn.state) ?_
  · rw [h.wr]
  · rw [h.wr]
  · rw [h.wr]
    exact id

/-- Only a slave-only port may not become a master. -/
theorem allows_master_of_ne {c : WrConfig} (h : c ≠ .wrSOnly) : c.allows .master = true := by
  cases c with
  | wrSOnly => exact absurd rfl h
  | _ => rfl

/-- A port that hears no master becomes one itself unless it is a slave only. -/
theorem announceReceiptTimeoutExpires_role (hn : Role n.port)
    (hidle : n.port.wr.wrPortState = .idle) :
    Role (announceReceiptTimeoutExpires rtOpts n).port := by
  have hforget : Role (forgetMasters n).port := .of_nonWr hn.state rfl rfl hidle
  rw [announceReceiptTimeoutExpires_eq]
  split
  next hcapable =>
    have hm1 := m1_decided (forgetMasters n)
    have hconfig : (m1 (forgetMasters n)).port.wr.wrConfig = n.port.wr.wrConfig := by
      rw [hm1.wr]
      rfl
    -- Only a clock that may be a master gets here.
    refine toState_role (hm1.role hforget) ?_ (by decide) (by decide)
    rw [hconfig]
    exact allows_master_of_ne hcapable.1
  split
  · exact toState_role hforget (allows_listening _) (by decide) (by decide)
  · exact hforget

theorem doSlaveActions_role (hn : Role n.port) (hidle : n.port.wr.wrPortState = .idle)
    (hstate : n.port.portState ≠ .master) : Role (doSlaveActions rtOpts n).port := by
  have hhandled : (handle rtOpts n).port.wr.wrPortState = .idle := handle_idle hidle hstate
  -- A White Rabbit state machine that is idle stays so, which losing the master relies on.
  refine (doSlaveActions_induction (P := fun m => Role m.port ∧ m.port.wr.wrPortState = .idle)
    ⟨handle_role hn, hhandled⟩ (fun m hm => ?_) fun m m' hm h => ?_).1
  · exact ⟨announceReceiptTimeoutExpires_role hm.1 hm.2, announceReceiptTimeoutExpires_idle hm.2⟩
  · exact ⟨h.wrFrame.role hm.1, h.wrFrame.wrPortState.trans hm.2⟩

theorem doMasterActions_role (hn : Role n.port) : Role (doMasterActions rtOpts n).port := by
  have htimers := (masterTimers_wrFrame rtOpts (handle rtOpts n)).role (handle_role hn)
  rw [doMasterActions_eq]
  dsimp only
  split
  · exact toState_role htimers (allows_listening _) (by decide) (by decide)
  · exact htimers

/-- The actions of a port keep its role. -/
theorem doStateActions_role (hn : Role n.port) (hcleared : Cleared n.port) :
    Role (doStateActions rtOpts n).port := by
  have hidle : n.port.portState ≠ .uncalibrated → n.port.portState ≠ .master →
      n.port.portState ≠ .faulty → n.port.wr.wrPortState = .idle := fun h h' hfaulty =>
    (hcleared.driven.resolve_right hfaulty).idle h h'
  unfold doStateActions
  cases hstate : n.port.portState <;> rw [hstate] at hidle <;> dsimp only
  case faulty => exact toState_role hn (allows_initializing _) (by decide) (by decide)
  case uncalibrated =>
    suffices hwr : Role (if n.port.wr.wrMode = .wrSlave then doWRState rtOpts n
        else toState .slave rtOpts n).port from hwr.clearRegister
    split
    · exact doWRState_role hn
    · -- A port that is allowed to be uncalibrated may be a slave.
      refine toState_role hn ?_ (by decide) (by decide)
      rw [allows_slave, ← allows_uncalibrated, ← hstate]
      exact hn.state
  case listening =>
    have hidle := hidle (by decide) (by decide) (by decide)
    split
    next honly =>
      have hm1 := m1_decided n
      refine toState_role (hm1.role hn) ?_ (by decide) (by decide)
      rw [hm1.wr]
      exact allows_master_of_ne (by rw [honly]; decide)
    next => exact doSlaveActions_role hn hidle (by rw [hstate]; decide)
  case passive | slave =>
    exact doSlaveActions_role hn (hidle (by decide) (by decide) (by decide))
      (by rw [hstate]; decide)
  case master =>
    split
    · exact (doWRState_role hn).clearRegister
    · exact doMasterActions_role hn
  case disabled => exact handle_role hn
  case initializing | preMaster => exact hn

end Actions

/-! ### State decisions -/

section Decisions

variable {rtOpts : RunTimeOpts} {n : Node}

/-- The algorithm recommends one of four states. -/
theorem bmc_recommends (bestForeign : ForeignMasterRecord) (n : Node) :
    (bmc bestForeign n).1 ∈ [PtpState.master, .slave, .passive, .listening] := by
  have hupdate {m : Node} {r : PtpState × Node} (hr : BmcUpdate m r) :
      r.1 ∈ [PtpState.master, .slave, .passive, .listening] := by
    cases hr <;> simp
  exact (bmc_update n bestForeign).elim hupdate hupdate

/-- The recommended state is one that the configuration allows. -/
theorem bmc_allowed (bestForeign : ForeignMasterRecord) (hn : Role n.port) :
    n.port.wr.wrConfig.allows (bmc bestForeign n).1 = true := by
  have hstate := hn.state
  cases hconfig : n.port.wr.wrConfig <;> rw [hconfig] at hstate
  case wrMOnly =>
    -- A port that may only be a master is recommended nothing else.
    unfold bmc bmcStateDecision
    simp [hconfig, WrConfig.allows]
  case wrSOnly =>
    have hother : n.port.portState ≠ .master := by
      intro hmaster
      rw [hmaster] at hstate
      cases hstate
    unfold bmc bmcStateDecision
    simp [hconfig, hother, WrConfig.allows]
  all_goals cases (bmc bestForeign n).1 <;> rfl

/-- Following a recommendation that the configuration allows keeps the role. -/
theorem followRecommendation_role (hn : Role n.port) (hidle : n.port.wr.wrPortState = .idle)
    {s : PtpState} (hs : n.port.wr.wrConfig.allows s = true)
    (hmem : s ∈ [PtpState.master, .slave, .passive, .listening]) :
    Role (followRecommendation rtOpts s n).port := by
  have hne : s ≠ .uncalibrated ∧ s ≠ .preMaster := by
    constructor <;> rintro rfl <;> exact absurd hmem (by decide)
  unfold followRecommendation
  split
  · split
    next hslave =>
      rw [hslave.1, allows_slave] at hs
      have hcandidate : Role ({ n with port.wr.wrMode := .wrSlave, port.wr.wrModeON := false }
          : Node).port := ⟨hn.state, hs, fun hrun => absurd hidle hrun⟩
      exact toState_uncalibrated_role hcandidate ((allows_uncalibrated _).trans hs)
    next => exact toState_role hn hs hne.1 hne.2
  · split
    next hfault =>
      -- A slave that shall run the set-up again was allowed to be one.
      have hslave := hn.state
      rw [hfault.2.1, allows_slave] at hslave
      exact toState_uncalibrated_role hn ((allows_uncalibrated _).trans hslave)
    next => exact hn

theorem stateDecision_role (bestForeign : ForeignMasterRecord) (hn : Role n.port) :
    Role (stateDecision rtOpts bestForeign n).port := by
  by_cases h : n.port.portState.decides = true ∧ n.clk.globalStateDecisionEvent = true ∧
      n.port.wr.wrPortState = .idle
  · have hdecided := bmc_decided (deciding n) bestForeign
    have hrole : Role (deciding n).port := hn.of_mode rfl rfl hn.state id
    rw [stateDecision_of rtOpts n bestForeign h]
    refine followRecommendation_role (hdecided.role hrole) ?_ ?_ (bmc_recommends _ _)
    · rw [hdecided.wr]
      exact h.2.2
    · rw [hdecided.wr]
      exact bmc_allowed bestForeign hrole
  · rwa [stateDecision_of_not rtOpts n bestForeign h]

end Decisions

/-! ### Runs -/

/-- Every phase of a port keeps its role. -/
theorem role_invariant (rtOpts : RunTimeOpts) :
    PortInvariant rtOpts (fun _ _ => True) fun port => Role port ∧ Cleared port where
  link {d i o} hphase hguard hd hready := by
    refine ⟨?_, (cleared_invariant rtOpts).link hphase hguard (fun h => (hd h).2) hready⟩
    rcases linked_listening rtOpts (d.node i o) with ⟨hinit, hlistening⟩ | hkept
    · exact ⟨by rw [hlistening, allows_listening], by rw [hinit.wrMode, allowsMode_nonWr],
        fun hrun => absurd hinit.wrPortState hrun⟩
    · obtain ⟨port, hport, heq⟩ := hkept.port
      rw [heq] at hready ⊢
      rcases hport with rfl | rfl
      · exact ⟨(hd hready).1.state, (hd hready).1.mode, (hd hready).1.running⟩
      · exact ⟨(hd hready).1.state, (hd hready).1.mode, (hd hready).1.running⟩
  decide hphase hguard hready h :=
    ⟨stateDecision_role _ h.1, (cleared_invariant rtOpts).decide hphase hguard hready h.2⟩
  act hphase hguard hready h :=
    ⟨doStateActions_role h.1 h.2, (cleared_invariant rtOpts).act hphase hguard hready h.2⟩
  search best h :=
    ⟨⟨h.1.state, h.1.mode, h.1.running⟩, (cleared_invariant rtOpts).search best h.2⟩

/-- In every reachable state, a port that may only be a master is neither a slave nor on the way to
one nor passive, and a port that may only be a slave is neither a master nor passive. -/
theorem role_of_reachable (rtOpts : RunTimeOpts) {d : Daemon} (h : Daemon.Reachable rtOpts d)
    (i : ℕ) :
    ((d.ports i).wr.wrConfig = .wrMOnly → (d.ports i).portState ≠ .slave ∧
        (d.ports i).portState ≠ .uncalibrated ∧ (d.ports i).portState ≠ .passive) ∧
      ((d.ports i).wr.wrConfig = .wrSOnly → (d.ports i).portState ≠ .master ∧
        (d.ports i).portState ≠ .passive) := by
  have hallowed : (d.ports i).wr.wrConfig.allows (d.ports i).portState = true := by
    -- A port that was never initialized is still in its first state.
    by_cases hready : (d.ports i).Ready
    · exact ((role_invariant rtOpts).holds h i hready).1.state
    · rw [(Daemon.Reachable.prepared h).unready i hready, allows_initializing]
  constructor
  · intro hconfig
    rw [hconfig] at hallowed
    refine ⟨?_, ?_, ?_⟩ <;> intro hstate <;> rw [hstate] at hallowed <;> cases hallowed
  · intro hconfig
    rw [hconfig] at hallowed
    refine ⟨?_, ?_⟩ <;> intro hstate <;> rw [hstate] at hallowed <;> cases hallowed

set_option maxRecDepth 100000 in
/-- A slave-only port after a complete link set-up. -/
theorem role_of_reachable_resyncState : (resyncState.ports 0).wr.wrConfig = .wrSOnly ∧
    (resyncState.ports 0).portState ≠ .master ∧ (resyncState.ports 0).portState ≠ .passive := by
  have hconfig : (resyncState.ports 0).wr.wrConfig = .wrSOnly := by decide +kernel
  exact ⟨hconfig, (role_of_reachable (defaultRtOpts 1) resyncState_reachable 0).2 hconfig⟩

end WhiteRabbitPtp
