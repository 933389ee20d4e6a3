import WhiteRabbitPtp.Correctness.Actions

/-!
# The steps of the daemon

What each step of the main loop does, in terms of the relations between nodes. The proofs about runs
of the daemon use these descriptions only.

## Main definitions

* `Reinitialized`, `LinkKept`: the two outcomes of following the link state.

## Main results

* `linked_cases`: the first phase of a port initializes it or keeps it.
* `Daemon.step_link`, `Daemon.step_shared`: the steps of the first and the last phase.
* `sharedPortsLoop_port`: the ports after the shared part of an iteration.
-/

namespace WhiteRabbitPtp

open Octets InputSystem LinearSearch

/-! ### The link state -/

/-- The port was initialized: its White Rabbit state machine is idle and its foreign-master table is
empty. -/
structure Reinitialized (n n' : Node) : Prop where
  number : n'.port.fm.numberForeignRecords = 0
  best : n'.port.fm.foreignRecordBest = n.port.fm.foreignRecordBest ∨
    n'.port.fm.foreignRecordBest = 0
  recordUpdate : n'.port.fm.recordUpdate = n.port.fm.recordUpdate
  wrPortState : n'.port.wr.wrPortState = .idle
  wrMode : n'.port.wr.wrMode = .nonWr
  wrModeON : n'.port.wr.wrModeON = false
  register : n'.port.wr.msgTmpWrMessageID = n.port.wr.msgTmpWrMessageID
  versionNumber : n'.port.versionNumber = 2
  sent : n'.netif.sent = n.netif.sent
  ebest : n'.clk.Ebest = n.clk.Ebest
  bestForeign : n'.clk.bestForeign = n.clk.bestForeign
  numberPorts : n'.clk.numberPorts = n.clk.numberPorts
  globalStateDecisionEvent : n'.clk.globalStateDecisionEvent = n.clk.globalStateDecisionEvent

/-- The port was kept but for its link state; its foreign masters may have been forgotten. -/
structure LinkKept (n n' : Node) : Prop where
  port : ∃ port, (port = n.port ∨ port = clearForeignMasters n.port) ∧
    n'.port = { port with linkUP := n'.port.linkUP }
  linkUP : n'.port.linkUP = true → n.port.linkUP = true
  clk : n'.clk = n.clk
  sent : n'.netif.sent = n.netif.sent

/-- The first phase of a port: follow the link state, and initialize the port if it has not been. -/
def linked (rtOpts : RunTimeOpts) (n : Node) : Node :=
  let n := updateLink rtOpts n
  if n.port.linkUP ∧ n.port.portState = .initializing then doInit rtOpts n else n

section Link

variable {rtOpts : RunTimeOpts} {n n' n'' : Node}

theorem clearIfSlaveOnly_cases (port : PtpPortDS) :
    clearIfSlaveOnly port = port ∨ clearIfSlaveOnly port = clearForeignMasters port := by
  unfold clearIfSlaveOnly
  split
  · exact .inr rfl
  · exact .inl rfl

/-- What initialization establishes survives the clearing of the table and the end of a restart. -/
theorem Initialized.reinitialized {m : Node} {up : Bool}
    (h : Initialized rtOpts { n with port.linkUP := up } m)
    (hn' : n' = { m with port := { clearIfSlaveOnly m.port with doRestart := false } }) :
    Reinitialized n n' := by
  have hfm := h.fm
  have hwr : n'.port.wr = m.port.wr := by
    rw [hn', clearIfSlaveOnly_eq]
  -- What the clearing of the table touches is told apart; the rest is what `doInit` wrote.
  constructor
  · rcases clearIfSlaveOnly_cases m.port with hc | hc
    · rw [hn', hc]
      show m.port.fm.numberForeignRecords = 0
      rw [hfm]
    · rw [hn', hc]
      rfl
  · rcases clearIfSlaveOnly_cases m.port with hc | hc
    · refine .inl ?_
      rw [hn', hc]
      show m.port.fm.foreignRecordBest = _
      rw [hfm]
    · refine .inr ?_
      rw [hn', hc]
      rfl
  · rcases clearIfSlaveOnly_cases m.port with hc | hc
    · rw [hn', hc]
      show m.port.fm.recordUpdate = _
      rw [hfm]
    · rw [hn', hc]
      show m.port.fm.recordUpdate = _
      rw [hfm]
  · rw [hwr, h.wrPortState]
  · rw [hwr, h.wrMode]
  · rw [hwr, h.wrModeON]
  · rw [hwr, h.register]
  · rw [hn', clearIfSlaveOnly_eq]
    exact h.versionNumber
  · rw [hn']
    exact h.sent
  · rw [hn']
    exact h.ebest
  · rw [hn']
    exact h.bestForeign
  · rw [hn']
    exact h.numberPorts
  · rw [hn']
    exact h.globalStateDecisionEvent

/-- Following the link state initializes the port, apart from its foreign masters and the mark of a
restart, or keeps it. -/
theorem updateLink_linked (rtOpts : RunTimeOpts) (n : Node) :
    (Reinitialized n (updateLink rtOpts n) ∧ ∃ m fm, (updateLink rtOpts n).port =
        { (doInit rtOpts m).port with fm := fm, doRestart := false }) ∨
      LinkKept n (updateLink rtOpts n) := by
  rcases updateLink_cases rtOpts n with ⟨m, hm, heq⟩ | ⟨hup, ⟨port, hport, heq⟩, hclk, hsent⟩
  · refine .inl ⟨hm.reinitialized heq, m, (clearIfSlaveOnly (doInit rtOpts m).port).fm, ?_⟩
    rw [heq]
    exact congrArg (fun port : PtpPortDS => { port with doRestart := false })
      (clearIfSlaveOnly_eq _)
  · -- The port was kept: its link state is the answer of the network interface.
    have hlink : (updateLink rtOpts n).port.linkUP = n.answer .getPortState := by rw [heq]
    refine .inr ⟨⟨port, ?_, by rw [heq]⟩, fun h => hup (by rw [← h, hlink]), hclk, hsent⟩
    rcases hport with rfl | rfl
    · exact .inl rfl
    · exact clearIfSlaveOnly_cases _

/-- Initialization after following the link state. -/
theorem Initialized.of_linked (h : Initialized rtOpts n' n'')
    (h' : Reinitialized n n' ∨ LinkKept n n') : Reinitialized n n'' := by
  have hfm := h.fm
  rcases h' with h' | h'
  · exact ⟨by rw [hfm], by rw [hfm]; exact h'.best, by rw [hfm]; exact h'.recordUpdate,
      h.wrPortState, h.wrMode, h.wrModeON, h.register.trans h'.register, h.versionNumber,
      h.sent.trans h'.sent, h.ebest.trans h'.ebest, h.bestForeign.trans h'.bestForeign,
      h.numberPorts.trans h'.numberPorts,
      h.globalStateDecisionEvent.trans h'.globalStateDecisionEvent⟩
  · -- A kept port may have had its table cleared before it is initialized.
    obtain ⟨port, hport, heq⟩ := h'.port
    have hkept : (n'.port.fm.foreignRecordBest = n.port.fm.foreignRecordBest ∨
        n'.port.fm.foreignRecordBest = 0) ∧
        n'.port.fm.recordUpdate = n.port.fm.recordUpdate ∧
        n'.port.wr.msgTmpWrMessageID = n.port.wr.msgTmpWrMessageID := by
      rw [heq]
      rcases hport with rfl | rfl
      · exact ⟨.inl rfl, rfl, rfl⟩
      · exact ⟨.inr rfl, rfl, rfl⟩
    obtain ⟨hbest, hupdate, hregister⟩ := hkept
    exact ⟨by rw [hfm], by rw [hfm]; exact hbest, by rw [hfm]; exact hupdate, h.wrPortState,
      h.wrMode, h.wrModeON, h.register.trans hregister, h.versionNumber, h.sent.trans h'.sent,
      by rw [h.ebest, h'.clk], by rw [h.bestForeign, h'.clk], by rw [h.numberPorts, h'.clk],
      by rw [h.globalStateDecisionEvent, h'.clk]⟩

/-- The first phase of a port initializes it, apart from its foreign masters and the mark of a
restart, or keeps it. -/
theorem linked_doInit (rtOpts : RunTimeOpts) (n : Node) :
    (Reinitialized n (linked rtOpts n) ∧ ∃ m fm doRestart, (linked rtOpts n).port =
        { (doInit rtOpts m).port with fm := fm, doRestart := doRestart }) ∨
      LinkKept n (linked rtOpts n) := by
  have hlink := updateLink_linked rtOpts n
  by_cases hup : (updateLink rtOpts n).port.linkUP = true ∧
      (updateLink rtOpts n).port.portState = .initializing
  · have heq : linked rtOpts n = doInit rtOpts (updateLink rtOpts n) := if_pos hup
    have hinit := (doInit_initialized rtOpts (updateLink rtOpts n)).of_linked
      (hlink.imp_left And.left)
    rw [heq]
    refine .inl ⟨hinit, updateLink rtOpts n, ?_⟩
    generalize doInit rtOpts (updateLink rtOpts n) = m
    exact ⟨m.port.fm, m.port.doRestart, rfl⟩
  · have heq : linked rtOpts n = updateLink rtOpts n := if_neg hup
    rw [heq]
    refine hlink.imp_left (And.imp_right ?_)
    -- The mark of a restart was cleared by following the link state.
    rintro ⟨m, fm, hport⟩
    exact ⟨m, fm, false, hport⟩

/-- The first phase of a port initializes it, which ends with listening, or keeps it. -/
theorem linked_listening (rtOpts : RunTimeOpts) (n : Node) :
    Reinitialized n (linked rtOpts n) ∧ (linked rtOpts n).port.portState = .listening ∨
      LinkKept n (linked rtOpts n) := by
  refine (linked_doInit rtOpts n).imp_left (And.imp_right ?_)
  rintro ⟨m, fm, doRestart, hport⟩
  rw [hport]
  exact doInit_portState rtOpts m

/-- The first phase of a port initializes it or keeps it. -/
theorem linked_cases (rtOpts : RunTimeOpts) (n : Node) :
    Reinitialized n (linked rtOpts n) ∨ LinkKept n (linked rtOpts n) :=
  (linked_listening rtOpts n).imp_left And.left

end Link

/-! ### All ports -/

section Shared

variable (ports : ℕ → PtpPortDS)

/-- The search for a best record only writes its index. -/
theorem ErBest_eq (foreign : ℕ → ForeignMasterRecord) (port : PtpPortDS) :
    ErBest foreign port =
      { port with fm.foreignRecordBest := (ErBest foreign port).fm.foreignRecordBest } := by
  unfold ErBest
  dsimp only
  split <;> rfl

/-- One round of the update leaves the other ports alone. -/
theorem updateErBest_of_ne (i : ℕ) {j : ℕ} (hj : j ≠ 0) : updateErBest ports i j = ports j := by
  unfold updateErBest
  split
  · rw [Function.update_of_ne hj]
  · rfl

theorem updateErBest_eq (i j : ℕ) :
    updateErBest ports i j = { ports j with
      fm.foreignRecordBest := (updateErBest ports i j).fm.foreignRecordBest } := by
  unfold updateErBest
  split
  · by_cases hj : j = 0
    · subst hj
      rw [Function.update_self]
      exact ErBest_eq _ _
    · rw [Function.update_of_ne hj]
  · rfl

theorem updateErBests_succ (k : ℕ) :
    updateErBests ports (k + 1) = updateErBest (updateErBests ports k) k := by
  unfold updateErBests
  rw [List.range_succ, List.foldl_append]
  rfl

/-- The update of all ports only writes the index of the best record. -/
theorem updateErBests_eq (k j : ℕ) :
    updateErBests ports k j = { ports j with
      fm.foreignRecordBest := (updateErBests ports k j).fm.foreignRecordBest } := by
  -- Each round writes the first port only, whatever table it searches.
  induction k with
  | zero => rfl
  | succ k ih =>
    rw [updateErBests_succ, updateErBest_eq, ih]

/-- The update of all ports only writes the first one. -/
theorem updateErBests_of_ne (k : ℕ) {j : ℕ} (hj : j ≠ 0) : updateErBests ports k j = ports j := by
  induction k with
  | zero => rfl
  | succ k ih => rw [updateErBests_succ, updateErBest_of_ne _ _ hj, ih]

/-- The shared part of an iteration searches the tables of all ports. -/
theorem sharedPortsLoop_fst (tics : UInt64) (extsrcLocked : Bool) (clk : PtpClockDS) :
    (sharedPortsLoop tics extsrcLocked ports clk).1 = updateErBests ports clk.numberPorts := by
  unfold sharedPortsLoop globalBestForeignMastersUpdate globalSecondSlavesUpdate
  dsimp only
  split_ifs <;> rfl

/-- The ports after the shared part of an iteration. -/
theorem sharedPortsLoop_port (tics : UInt64) (extsrcLocked : Bool) (clk : PtpClockDS) (j : ℕ) :
    (sharedPortsLoop tics extsrcLocked ports clk).1 j = { ports j with
      fm.foreignRecordBest :=
        ((sharedPortsLoop tics extsrcLocked ports clk).1 j).fm.foreignRecordBest } := by
  rw [sharedPortsLoop_fst]
  exact updateErBests_eq ports _ j

/-- The search for the secondary slave writes its number only. -/
theorem globalSecondSlavesUpdate_eq (clk : PtpClockDS) : ∃ number,
    globalSecondSlavesUpdate ports clk = { clk with secondarySlavePortNumber := number } := by
  unfold globalSecondSlavesUpdate
  dsimp only
  split <;> exact ⟨_, rfl⟩

/-- The check of the external source writes the class of the clock and the timer for it. -/
theorem checkClockClassValidity_eq (tics : UInt64) (extsrcLocked : Bool) (clk : PtpClockDS) :
    ∃ clockClass timer, checkClockClassValidity tics extsrcLocked clk = { clk with
      clockQuality.clockClass := clockClass, clockClassValidityTimer := timer } := by
  unfold checkClockClassValidity
  dsimp only
  split_ifs <;> exact ⟨_, _, rfl⟩

/-- What the shared part of an iteration writes into the clock's data set: the best master is
searched for when a table is marked. -/
theorem sharedPortsLoop_snd (tics : UInt64) (extsrcLocked : Bool) (clk : PtpClockDS) :
    ∃ number clockClass timer,
      let event := anyRecordUpdate ports clk.numberPorts
      let searched := if event then EBest (updateErBests ports clk.numberPorts) clk else clk
      (sharedPortsLoop tics extsrcLocked ports clk).2 = { searched with
        globalStateDecisionEvent := event
        secondarySlavePortNumber := number
        clockQuality.clockClass := clockClass
        clockClassValidityTimer := timer } := by
  -- The secondary slave of the last decision is looked for before the tables are searched again.
  obtain ⟨number, hnumber⟩ : ∃ number, (if clk.globalStateDecisionEvent then
      globalSecondSlavesUpdate ports clk else clk) =
        { clk with secondarySlavePortNumber := number } := by
    split
    · exact globalSecondSlavesUpdate_eq ports clk
    · exact ⟨_, rfl⟩
  unfold sharedPortsLoop
  rw [hnumber]
  obtain ⟨clockClass, timer, hclass⟩ := checkClockClassValidity_eq tics extsrcLocked
    { (globalBestForeignMastersUpdate ports { clk with secondarySlavePortNumber := number }).2 with
      globalStateDecisionEvent := anyRecordUpdate ports clk.numberPorts }
  refine ⟨number, clockClass, timer, hclass.trans ?_⟩
  unfold globalBestForeignMastersUpdate
  dsimp only
  cases anyRecordUpdate ports clk.numberPorts <;> rfl

end Shared

/-! ### Steps -/

namespace Daemon

variable {d : Daemon} {i : ℕ}

@[simp]
theorem store_ports_self (n : Node) (phase : Phase) : (d.store i n phase).ports i = n.port := by
  simp [store]

@[simp]
theorem store_ports_of_ne (n : Node) (phase : Phase) {j : ℕ} (hj : j ≠ i) :
    (d.store i n phase).ports j = d.ports j := by
  simp [store, hj]

@[simp]
theorem store_phase (n : Node) (phase : Phase) : (d.store i n phase).phase = phase := rfl

@[simp]
theorem store_clk (n : Node) (phase : Phase) : (d.store i n phase).clk = n.clk := rfl

/-- The phase after the last one of a port is the first one of another or the shared one. -/
theorem nextPort_cases (rtOpts : RunTimeOpts) (i : ℕ) :
    nextPort rtOpts i = .link (i + 1) ∨ nextPort rtOpts i = .shared := by
  unfold nextPort
  split
  · exact .inl rfl
  · exact .inr rfl

/-- The step that follows the link state. A port whose link is up decides next, unless it was not
initialized before. -/
theorem step_link (rtOpts : RunTimeOpts) (o : Oracle) (h : d.phase = .link i) :
    ∃ phase, step rtOpts o d = d.store i (linked rtOpts (d.node i o)) phase ∧
      (phase = .decide i ∧ (linked rtOpts (d.node i o)).port.linkUP = true ∨
        phase = nextPort rtOpts i) := by
  unfold step linked
  rw [h]
  dsimp only
  generalize updateLink rtOpts (d.node i o) = n
  -- A port that has just been initialized does not decide before the next iteration.
  by_cases hup : n.port.linkUP
  · by_cases hinit : n.port.portState = .initializing
    · exact ⟨nextPort rtOpts i, by simp [hup, hinit], .inr rfl⟩
    · exact ⟨.decide i, by simp [hup, hinit], .inl ⟨rfl, by simp [hup, hinit]⟩⟩
  · exact ⟨nextPort rtOpts i, by simp [hup], .inr rfl⟩

theorem step_decide (rtOpts : RunTimeOpts) (o : Oracle) (h : d.phase = .decide i) :
    step rtOpts o d = d.store i (stateDecision rtOpts d.bestForeign (d.node i o)) (.act i) := by
  unfold step
  rw [h]

theorem step_act (rtOpts : RunTimeOpts) (o : Oracle) (h : d.phase = .act i) :
    step rtOpts o d = d.store i (doStateActions rtOpts (d.node i o)) (nextPort rtOpts i) := by
  unfold step
  rw [h]

theorem step_shared (rtOpts : RunTimeOpts) (o : Oracle) (h : d.phase = .shared) :
    ∃ tics extsrcLocked,
      step rtOpts o d =
        { d with
          ports := (sharedPortsLoop tics extsrcLocked d.ports d.clk).1
          clk := (sharedPortsLoop tics extsrcLocked d.ports d.clk).2
          phase := .link 0 } := by
  unfold step
  rw [h]
  exact ⟨_, _, rfl⟩

end Daemon

end WhiteRabbitPtp
