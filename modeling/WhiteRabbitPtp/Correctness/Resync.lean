import WhiteRabbitPtp.Correctness.Steps

/-!
# Synchronising a White Rabbit slave again

A slave whose link set-up has to be run again takes a transition to `PTP_UNCALIBRATED` from
`PTP_SLAVE`. Leaving `PTP_SLAVE` resets the White Rabbit mode of the port, and entering
`PTP_UNCALIBRATED` starts the White Rabbit state machine only in the mode of a slave. So the
transition ends in `PTP_SLAVE`, out of the White Rabbit mode.

## Main definitions

* `ResyncDue`: a state decision that shall run the link set-up again.
* `Resynchronising`: a port that runs the link set-up again.

## Main results

* `stateDecision_resync`: what the decision leads to.
* `resync_fails`: it never runs the link set-up again.
-/

namespace WhiteRabbitPtp

open InputSystem

/-- A state decision again recommends `PTP_SLAVE` to a White Rabbit slave, and the White Rabbit mode
of the port or of its parent is off. -/
structure ResyncDue (bestForeign : ForeignMasterRecord) (n : Node) : Prop where
  portState : n.port.portState = .slave
  wrPortState : n.port.wr.wrPortState = .idle
  linkUP : n.port.linkUP = true
  wrMode : n.port.wr.wrMode = .wrSlave
  wrConfig : n.port.wr.wrConfig = .wrSOnly ∨ n.port.wr.wrConfig = .wrMAndS
  event : n.clk.globalStateDecisionEvent = true
  recommended : (bmc bestForeign (deciding n)).1 = .slave
  parentWrConfig : (bmc bestForeign (deciding n)).2.port.wr.parentWrConfig = .wrMOnly ∨
    (bmc bestForeign (deciding n)).2.port.wr.parentWrConfig = .wrMAndS
  off : (bmc bestForeign (deciding n)).2.port.wr.parentWrModeON = false ∨
    (bmc bestForeign (deciding n)).2.port.wr.wrModeON = false

/-- The link set-up of the port has started. -/
def Resynchronising (port : PtpPortDS) : Prop :=
  port.portState = .uncalibrated ∧ port.wr.wrMode = .wrSlave ∧ port.wr.wrPortState = .present

section

variable (rtOpts : RunTimeOpts) {bestForeign : ForeignMasterRecord} {n : Node}

/-- `PTP_UNCALIBRATED` cannot be entered from `PTP_SLAVE`: the port goes on as a slave without White
Rabbit. -/
theorem toState_uncalibrated_of_slave (hslave : n.port.portState = .slave)
    (hidle : n.port.wr.wrPortState = .idle) :
    (toState .uncalibrated rtOpts n).port.portState = .slave ∧
      (toState .uncalibrated rtOpts n).port.wr.wrMode = .nonWr ∧
      (toState .uncalibrated rtOpts n).port.wr.wrPortState = .idle := by
  have hleft : (leaveState rtOpts n).port.wr.wrMode = .nonWr ∧
      (leaveState rtOpts n).port.wr.wrPortState = .idle := by
    rw [leaveState_wr, if_pos hslave]
    exact ⟨rfl, hidle⟩
  unfold toState
  rw [if_neg (not_not.mpr hidle)]
  unfold enterState
  dsimp only
  -- The mode of a slave, which the first test asks for, is gone.
  rw [if_neg fun h => absurd (hleft.1.symm.trans h.1) (by decide)]
  exact ⟨rfl, rfl, hleft.2⟩

/-- When a slave shall be synchronised again, it loses its White Rabbit mode. -/
theorem stateDecision_resync (h : ResyncDue bestForeign n) :
    (stateDecision rtOpts bestForeign n).port.portState = .slave ∧
      (stateDecision rtOpts bestForeign n).port.wr.wrMode = .nonWr ∧
      (stateDecision rtOpts bestForeign n).port.wr.wrPortState = .idle := by
  have hdecides : n.port.portState.decides = true := by rw [h.portState]; rfl
  rw [stateDecision_of rtOpts n bestForeign ⟨hdecides, h.event, h.wrPortState⟩, h.recommended]
  have hdecided := bmc_decided (deciding n) bestForeign
  have hoff := h.off
  generalize (bmc bestForeign (deciding n)).2 = m at hdecided hoff
  have hslave : m.port.portState = .slave := hdecided.portState.trans h.portState
  have hidle : m.port.wr.wrPortState = .idle := by
    rw [hdecided.wr]
    exact h.wrPortState
  have hmode : m.port.wr.wrMode = .wrSlave := by
    rw [hdecided.wr]
    exact h.wrMode
  have hlink : m.port.linkUP = true := hdecided.linkUP.trans h.linkUP
  -- The recommendation is the current state, so the decision is a `SYNCHRONIZATION_FAULT`.
  have hfault : followRecommendation rtOpts .slave m = toState .uncalibrated rtOpts m := by
    unfold followRecommendation
    rw [if_neg (not_not.mpr hslave.symm), if_pos ⟨hlink, hslave, hmode, by simpa using hoff⟩]
  rw [hfault]
  exact toState_uncalibrated_of_slave rtOpts hslave hidle

/-- The link set-up is never run again by a state decision. -/
theorem resync_fails (h : ResyncDue bestForeign n) :
    ¬Resynchronising (stateDecision rtOpts bestForeign n).port := by
  intro hresync
  have hstate := (stateDecision_resync rtOpts h).1
  rw [hresync.1] at hstate
  cases hstate

end

/-! ### A slave that shall be synchronised again -/

section Run

/-- A frame of a White Rabbit master with the given message; its mode is still off. -/
def masterFrame (wrMessageID : UInt16) : List UInt8 :=
  wrSignalingFrame wrMessageID (asWrMaster (Daemon.singleNode ![2, 0, 0, 0, 0, 2] .wrMaster))

/-- An Announce message of a White Rabbit master whose mode is off. -/
def masterAnnounce : List UInt8 :=
  announceFrame (Daemon.singleNode ![2, 0, 0, 0, 0, 2] .wrMaster)

/-- An iteration in which a slave-only port receives a frame or nothing. -/
def slaveIteration (frame : Option (List UInt8)) : List Oracle :=
  let reception : Reception :=
    match frame with
    | some data => .frame ![0x01, 0x1b, 0x19, 0, 0, 0] data ⟨0, 0, 0, 1⟩
    | none => .nothing
  List.replicate 4 (Oracle.ready true .wrSlave reception 64 0)

/-- A slave runs a complete link set-up; then an Announce message says that the mode of its parent
is off, and the slave is about to decide. -/
def resyncRun : List Oracle :=
  [some masterAnnounce, none, some (masterFrame LOCK), none, some (masterFrame CALIBRATE),
    some (masterFrame CALIBRATED), none, some (masterFrame WR_MODE_ON), none, none,
    some masterAnnounce].flatMap slaveIteration ++
  [Oracle.ready true .wrSlave .nothing 64 0]

/-- The state of the slave's clock after this run. -/
def resyncState : Daemon :=
  runInputs (Daemon.step (defaultRtOpts 1)) (Daemon.single ![2, 0, 0, 0, 0, 1]) resyncRun

/-- What the decision of the slave works on. -/
def resyncNode : Node := resyncState.node 0 (Oracle.ready true .wrSlave .nothing 64 0)

set_option maxRecDepth 100000 in
theorem resyncNode_due : ResyncDue resyncState.bestForeign resyncNode := by
  have h : resyncNode.port.portState = .slave ∧ resyncNode.port.wr.wrPortState = .idle ∧
      resyncNode.port.linkUP = true ∧ resyncNode.port.wr.wrMode = .wrSlave ∧
      resyncNode.port.wr.wrConfig = .wrSOnly ∧ resyncNode.clk.globalStateDecisionEvent = true ∧
      (bmc resyncState.bestForeign (deciding resyncNode)).1 = .slave ∧
      (bmc resyncState.bestForeign (deciding resyncNode)).2.port.wr.parentWrConfig = .wrMOnly ∧
      (bmc resyncState.bestForeign (deciding resyncNode)).2.port.wr.parentWrModeON = false := by
    decide +kernel
  obtain ⟨hstate, hidle, hlink, hmode, hconfig, hevent, hrecommended, hparent, hoff⟩ := h
  exact ⟨hstate, hidle, hlink, hmode, .inl hconfig, hevent, hrecommended, .inl hparent,
    .inl hoff⟩

theorem resyncState_reachable : Daemon.Reachable (defaultRtOpts 1) resyncState :=
  Daemon.single_reachable _ _

/-- A reachable slave that shall be synchronised again is not. -/
theorem resync_fails_resyncNode :
    ¬Resynchronising (stateDecision (defaultRtOpts 1) resyncState.bestForeign resyncNode).port :=
  resync_fails (defaultRtOpts 1) resyncNode_due

/-- Not every reachable slave that shall be synchronised again is. -/
theorem not_forall_resynchronising :
    ¬∀ (rtOpts : RunTimeOpts) (d : Daemon), Daemon.Reachable rtOpts d → ∀ i o,
      ResyncDue d.bestForeign (d.node i o) →
        Resynchronising (stateDecision rtOpts d.bestForeign (d.node i o)).port := by
  intro h
  have hresync := h _ _ resyncState_reachable 0 _ resyncNode_due
  have hstate := (stateDecision_resync (defaultRtOpts 1) resyncNode_due).1
  rw [show resyncNode = resyncState.node 0 (Oracle.ready true .wrSlave .nothing 64 0) from rfl,
    hresync.1] at hstate
  cases hstate

end Run

end WhiteRabbitPtp
