import WhiteRabbitPtp.Correctness.ConfiguredRole
import WhiteRabbitPtp.Correctness.LiveMaster
import WhiteRabbitPtp.Correctness.Resync
import WhiteRabbitPtp.Correctness.Senders

/-!
# The parent's record

`handleAnnounce` stores an Announce message of the parent in the best record of the port, without a
look at whose record it is; `addForeign` looks the sender up. The two agree as long as the best
record is the parent's whenever a port that follows the parent receives a frame.

The parent is one for all ports and is written by state decisions; the best record is searched for
in every iteration, also while the running link set-up of a port suspends its decisions. So the two
come apart when a decision takes the parent away from another port, when a search moves the best
record of a port that cannot decide, or when a new sender gets that record.

## Main definitions

* `FollowsParent`, `Redecides`: a port follows the parent; it decides again before it receives.
* `OverwritesParent`: the best record is the parent's when it is overwritten.
* `FastPathAgrees`: it is, and every live record has a header of its own master.
* `StaysAtParent`: the steps that keep it so.

## Main results

* `handleAnnounce_eq_addForeign`: the record is then written as `addForeign` would, but for its
  count of messages.
* `fastPathAgrees_of_guardedRun`: it is so in every run of such steps.
* `not_forall_fastPathAgrees`: a run after which the record of another master is overwritten.
-/

namespace WhiteRabbitPtp

open Octets InputSystem

/-! ### Following the parent -/

/-- The port has a link and follows the parent, or is about to. -/
def FollowsParent (port : PtpPortDS) : Prop := port.linkUP = true ∧ port.portState.follows = true

instance : DecidablePred FollowsParent := fun port => by
  unfold FollowsParent
  infer_instance

/-- Whether port `i` has yet to decide in the current iteration. -/
def Phase.Undecided (i : ℕ) : Phase → Prop
  | link j | decide j => j ≤ i
  | act j => j < i
  | shared => False

instance (i : ℕ) : DecidablePred (Phase.Undecided i) := fun phase => by
  cases phase <;> unfold Phase.Undecided <;> infer_instance

/-- A slave decides about its state before it receives the next frame: in this iteration because of
an event, or in the next one because its table is marked. -/
def Redecides (d : Daemon) (i : ℕ) : Prop :=
  (d.ports i).portState = .slave ∧ (d.ports i).wr.wrPortState = .idle ∧ d.phase ≠ .act i ∧
    if d.phase.Undecided i then d.clk.globalStateDecisionEvent = true
    else (d.ports i).fm.recordUpdate = true

instance (d : Daemon) : DecidablePred (Redecides d) := fun i => by
  unfold Redecides
  infer_instance

/-- The record that an Announce message of the parent overwrites is live and the sender's, so it is
the one `addForeign` finds. A port receives in the phase in which it acts. -/
def OverwritesParent (d : Daemon) : Prop :=
  ∀ i, d.phase = .act i →
    (d.ports i).portState = .slave ∨ (d.ports i).portState = .uncalibrated →
      ∀ header, msgIsFromCurrentParent header d.clk = true →
        let fm := (d.ports i).fm
        IsRecordOf fm header.sourcePortIdentity fm.foreignRecordBest ∧
          findForeign fm header.sourcePortIdentity fm.numberForeignRecords fm.foreignRecordBest =
            some fm.foreignRecordBest

/-- Every live record has a header of its own master. -/
def LiveHeadersOwn (d : Daemon) : Prop :=
  ∀ i, ∀ k < (d.ports i).fm.numberForeignRecords,
    ((d.ports i).fm.foreign k).foreignMasterPortIdentity =
      ((d.ports i).fm.foreign k).header.sourcePortIdentity

/-- The fast path of `handleAnnounce` agrees with the lookup, and so the table keeps its senders. -/
structure FastPathAgrees (d : Daemon) : Prop where
  record : OverwritesParent d
  own : LiveHeadersOwn d

/-! ### The steps -/

/-- A port that decides to become or stay a slave has a live record and hears the best master of the
clock itself, unless it is slave-only; and the parent stays, or every other port that follows it
decides again. -/
def SoundDecision (d : Daemon) (i : ℕ) (n : Node) : Prop :=
  Decides n → (bmc d.bestForeign (deciding n)).1 = .slave →
    0 < n.port.fm.numberForeignRecords ∧
      (n.port.wr.wrConfig = .wrSOnly ∨
        d.bestForeign.receptionPortNumber = n.port.portIdentity.portNumber) ∧
      (n.port.erbest.header.sourcePortIdentity = n.clk.parentPortIdentity ∨
        ∀ j < n.clk.numberPorts, j ≠ i → FollowsParent (d.ports j) → Redecides d j)

/-- A candidate for a slave does not give its best record to a new sender. -/
def SoundReception (n : Node) : Prop :=
  n.port.portState = .uncalibrated → ∀ k ∈ hearing n, NewSender k →
    n.port.fm.foreignRecordI ≠ n.port.fm.foreignRecordBest

/-- The search leaves a candidate for a slave its best record. -/
def SoundSearch (d : Daemon) : Prop :=
  ∀ i < d.clk.numberPorts, (d.ports i).linkUP = true → (d.ports i).portState = .uncalibrated →
    (updateErBests d.ports d.clk.numberPorts i).fm.foreignRecordBest =
      (d.ports i).fm.foreignRecordBest

/-- The steps that keep the best record of a port that follows the parent at the parent's. -/
def StaysAtParent (o : Oracle) (d : Daemon) : Prop :=
  match d.phase with
  | .link _ => True
  | .decide i => SoundDecision d i (d.node i o)
  | .act i => SoundReception (d.node i o)
  | .shared => SoundSearch d

instance (o : Oracle) : DecidablePred (StaysAtParent o) := fun d => by
  unfold StaysAtParent SoundDecision SoundReception SoundSearch
  exact match d.phase with
    | .link _ | .decide _ | .act _ | .shared => inferInstance

/-! ### The phases of one port -/

section Port

variable {rtOpts : RunTimeOpts} {n : Node}

/-- Following the link state keeps the headers with their senders. -/
theorem linked_own (hown : OwnHeaders n.port.fm) : OwnHeaders (linked rtOpts n).port.fm := by
  have hinit (m : Node) (hm : OwnHeaders m.port.fm) : OwnHeaders (doInit rtOpts m).port.fm := by
    rw [(doInit_initialized rtOpts m).fm]
    exact hm
  have hclear (port : PtpPortDS) (h : OwnHeaders port.fm) :
      OwnHeaders (clearIfSlaveOnly port).fm := by
    unfold clearIfSlaveOnly clearForeignMasters
    split
    · intro k
      dsimp only
      split <;> exact h k
    · exact h
  -- The table is kept, or emptied for a slave-only port; neither moves a header.
  have hlink : OwnHeaders (updateLink rtOpts n).port.fm := by
    rcases updateLink_cases rtOpts n with ⟨m, hm, heq⟩ | ⟨-, ⟨port, hport, heq⟩, -⟩
    · have hm' : OwnHeaders (doInit rtOpts m).port.fm := by
        rw [hm.fm]
        exact hown
      generalize doInit rtOpts m = m' at heq hm'
      have hfm : (updateLink rtOpts n).port.fm = (clearIfSlaveOnly m'.port).fm := by rw [heq]
      rw [hfm]
      exact hclear _ hm'
    · have hfm : (updateLink rtOpts n).port.fm = port.fm := by rw [heq]
      rw [hfm]
      rcases hport with rfl | rfl
      · exact hown
      · exact hclear _ hown
  unfold linked
  dsimp only
  split
  · exact hinit _ hlink
  · exact hlink

/-- Initialization does not write the parent's identity. -/
theorem doInit_parent (rtOpts : RunTimeOpts) (n : Node) :
    (doInit rtOpts n).clk.parentPortIdentity = n.clk.parentPortIdentity := by
  rw [doInit_eq, (toState_frame rtOpts _ .listening).clk]
  unfold initialized
  dsimp only
  split <;> split <;> rfl

/-- Neither does the link state. -/
theorem linked_parent (rtOpts : RunTimeOpts) (n : Node) :
    (linked rtOpts n).clk.parentPortIdentity = n.clk.parentPortIdentity := by
  have hlink : (updateLink rtOpts n).clk.parentPortIdentity = n.clk.parentPortIdentity := by
    unfold updateLink
    generalize (n.answer .getPortState : Bool) = up
    dsimp only
    split
    · generalize hm : toState .initializing rtOpts
        { n.called .getPortState with port.linkUP := up } = m
      have hinit := doInit_parent rtOpts m
      generalize doInit rtOpts m = m' at hinit ⊢
      have hparent : m'.clk.parentPortIdentity = n.clk.parentPortIdentity := by
        rw [hinit, ← hm, (toState_frame rtOpts _ .initializing).clk]
        rfl
      split <;> exact hparent
    · split
      · rw [(wrServoReset_of_slave _).2.1]
        split <;> rfl
      · rfl
  unfold linked
  dsimp only
  split
  · exact (doInit_parent _ _).trans hlink
  · exact hlink

/-- A port whose link is up has not changed when its link state was read, unless it was
initialized. -/
theorem updateLink_up (hup : (updateLink rtOpts n).port.linkUP = true) :
    (updateLink rtOpts n).port.portState = .listening ∨ (updateLink rtOpts n).port = n.port := by
  unfold updateLink at hup ⊢
  generalize (n.answer .getPortState : Bool) = up at hup ⊢
  dsimp only at hup ⊢
  split
  · left
    generalize toState .initializing rtOpts
      { n.called .getPortState with port.linkUP := up } = m
    have hlistening := doInit_portState rtOpts m
    generalize doInit rtOpts m = m' at hlistening ⊢
    split <;> exact hlistening
  next hkept =>
    rw [if_neg hkept] at hup
    split
    next hdown =>
      rw [if_pos hdown, (wrServoReset_of_slave _).1] at hup
      have hstill : up = true := by
        revert hup
        split <;> exact id
      simp [hstill] at hdown
    next hdown =>
      right
      rw [if_neg hdown] at hup
      replace hup : up = true := hup
      have hport : n.port.linkUP = true := by
        -- A link that has just come up leads to an initialization.
        by_contra hold
        exact hkept (.inl ⟨hup, by simpa using hold⟩)
      show { n.port with linkUP := up } = n.port
      rw [hup, ← hport]

/-- A port that follows the parent after its link state was read has not changed, and decides
next. -/
theorem linked_of_follows (h : FollowsParent (linked rtOpts n).port) :
    (linked rtOpts n).port = n.port ∧ (updateLink rtOpts n).port.portState ≠ .initializing ∧
      (updateLink rtOpts n).port.linkUP = true := by
  unfold linked at h ⊢
  dsimp only at h ⊢
  by_cases hinit : (updateLink rtOpts n).port.linkUP = true ∧
      (updateLink rtOpts n).port.portState = .initializing
  · rw [if_pos hinit] at h
    have hlistening := doInit_portState rtOpts (updateLink rtOpts n)
    rw [FollowsParent, hlistening] at h
    cases h.2
  · rw [if_neg hinit] at h ⊢
    -- A port that was initialized is listening and does not follow.
    refine ⟨?_, fun hstate => hinit ⟨h.1, hstate⟩, h.1⟩
    refine (updateLink_up h.1).resolve_left fun hlistening => ?_
    rw [FollowsParent, hlistening] at h
    cases h.2

/-- The algorithm writes the parent's identity only for a slave that hears the best master itself.
-/
theorem bmc_parent (bestForeign : ForeignMasterRecord) (n : Node) :
    (bmc bestForeign n).2.clk.parentPortIdentity = n.clk.parentPortIdentity ∨
      (bmc bestForeign n).1 = .slave := by
  -- Only `s1` writes the identity, and it recommends `PTP_SLAVE`.
  have hupdate {m : Node} {r : PtpState × Node} (hr : BmcUpdate m r) :
      r.2.clk.parentPortIdentity = m.clk.parentPortIdentity ∨ r.1 = .slave := by
    cases hr with
    | s1 | s2 => exact .inr rfl
    | m1 | m3 | p1 | passive | listening => exact .inl rfl
  exact (bmc_update n bestForeign).elim hupdate hupdate

/-- A slave that hears the best master itself takes the parent's identity from its best record. -/
theorem bmc_parent_of_slave {bestForeign : ForeignMasterRecord}
    (hslave : (bmc bestForeign n).1 = .slave)
    (hheard : n.port.wr.wrConfig = .wrSOnly ∨
      bestForeign.receptionPortNumber = n.port.portIdentity.portNumber) :
    (bmc bestForeign n).2.clk.parentPortIdentity = n.port.erbest.header.sourcePortIdentity := by
  let Outcome (r : PtpState × Node) : Prop :=
    r.1 = .slave → r.2.clk.parentPortIdentity = n.port.erbest.header.sourcePortIdentity
  have hs1 (m : Node) : Outcome (.slave, s1 n.port.erbest.header n.port.erbest.announce m) :=
    fun _ => rfl
  have hother {r : PtpState × Node} (hr : r.1 ≠ .slave) : Outcome r := fun h => absurd h hr
  revert hslave
  show Outcome (bmc bestForeign n)
  refine iteInduction (fun _ => hother (by simp)) fun _ => ?_
  refine iteInduction (fun _ => hs1 n) fun honly => ?_
  refine iteInduction (fun _ => hother (by simp)) fun _ => ?_
  refine iteInduction (fun _ => hother (by simp)) fun _ => ?_
  -- A clock of a class below 128 never becomes a slave by a comparison.
  refine iteInduction (fun _ => hother (by dsimp only; split_ifs <;> simp)) fun _ => ?_
  refine iteInduction (fun _ => hother (by simp)) fun _ => ?_
  refine iteInduction (fun _ => ?_) fun _ => hother (by simp)
  exact iteInduction (fun _ => hs1 (copyD0 n)) fun hport =>
    absurd (hheard.resolve_left honly) hport

/-- A port that follows the parent after its link state was read decides next. -/
theorem Daemon.step_linked {d : Daemon} {i : ℕ} (o : Oracle) (h : d.phase = .link i) :
    ∃ phase, step rtOpts o d = d.store i (linked rtOpts (d.node i o)) phase ∧
      (phase = .decide i ∧ (linked rtOpts (d.node i o)).port.linkUP = true ∨
        phase = nextPort rtOpts i ∧ ¬FollowsParent (linked rtOpts (d.node i o)).port) := by
  have hfollows (hskipped : (updateLink rtOpts (d.node i o)).port.portState = .initializing ∨
      (updateLink rtOpts (d.node i o)).port.linkUP ≠ true) :
      ¬FollowsParent (linked rtOpts (d.node i o)).port := by
    intro hf
    obtain ⟨-, hstate, hup⟩ := linked_of_follows hf
    exact hskipped.elim hstate fun hdown => hdown hup
  unfold step
  rw [h]
  dsimp only
  unfold linked at hfollows ⊢
  generalize updateLink rtOpts (d.node i o) = n at hfollows ⊢
  by_cases hup : n.port.linkUP
  · by_cases hinit : n.port.portState = .initializing
    · exact ⟨nextPort rtOpts i, by simp [hup, hinit], .inr ⟨rfl, hfollows (.inl hinit)⟩⟩
    · exact ⟨.decide i, by simp [hup, hinit], .inl ⟨rfl, by simp [hup, hinit]⟩⟩
  · exact ⟨nextPort rtOpts i, by simp [hup], .inr ⟨rfl, hfollows (.inr hup)⟩⟩

/-- A decision that recommends another state than that of a slave leads there, and does not write
the parent's identity. -/
theorem stateDecision_of_other {bestForeign : ForeignMasterRecord} (hdecides : Decides n)
    (hother : (bmc bestForeign (deciding n)).1 ≠ .slave) :
    (stateDecision rtOpts bestForeign n).port.portState.follows = false ∧
      (stateDecision rtOpts bestForeign n).clk.parentPortIdentity = n.clk.parentPortIdentity := by
  have hparent := (bmc_parent bestForeign (deciding n)).resolve_right hother
  have hdecided := bmc_decided (deciding n) bestForeign
  have hmem := bmc_recommends bestForeign (deciding n)
  rw [stateDecision_of rtOpts n bestForeign hdecides]
  generalize bmc bestForeign (deciding n) = decision at hother hparent hdecided hmem ⊢
  obtain ⟨state, m⟩ := decision
  refine ⟨?_, by rw [(followRecommendation_frame rtOpts m state).clk]; exact hparent⟩
  -- The algorithm never recommends `PTP_UNCALIBRATED`, so what is left does not follow.
  have hstate : state.follows = false ∧ state ≠ .preMaster := by
    dsimp only at hother hmem
    cases state <;> simp_all [PtpState.follows]
  have hidle : m.port.wr.wrPortState = .idle := by
    rw [hdecided.wr]
    exact hdecides.2.2
  unfold followRecommendation
  split
  next hne =>
    rw [if_neg fun h => hother h.1, toState, if_neg (not_not.mpr hidle),
      enterState_portState _ _ (by rintro rfl; cases hstate.1) hstate.2]
    exact hstate.1
  next hsame =>
    rw [if_neg fun h => hother ((not_not.mp hsame).trans h.2.1)]
    rw [← not_not.mp hsame]
    exact hstate.1

/-- A decision for a slave takes the parent's identity from the best record of the port. -/
theorem stateDecision_of_slave {bestForeign : ForeignMasterRecord} (hdecides : Decides n)
    (hslave : (bmc bestForeign (deciding n)).1 = .slave)
    (hheard : n.port.wr.wrConfig = .wrSOnly ∨
      bestForeign.receptionPortNumber = n.port.portIdentity.portNumber) :
    (stateDecision rtOpts bestForeign n).clk.parentPortIdentity =
      n.port.erbest.header.sourcePortIdentity := by
  rw [stateDecision_of rtOpts n bestForeign hdecides, (followRecommendation_frame rtOpts _ _).clk]
  exact bmc_parent_of_slave (n := deciding n) hslave hheard

end Port

/-- The actions of a slave leave its White Rabbit state machine idle. -/
theorem doStateActions_idle_of_slave {rtOpts : RunTimeOpts} {n : Node}
    (hstate : n.port.portState = .slave) (hidle : n.port.wr.wrPortState = .idle) :
    (doStateActions rtOpts n).port.wr.wrPortState = .idle := by
  unfold doStateActions
  rw [hstate]
  exact doSlaveActions_idle hidle (by rw [hstate]; decide)

/-- The shared part of an iteration does not write the parent's identity. -/
theorem sharedPortsLoop_parent (ports : ℕ → PtpPortDS) (tics : UInt64) (extsrcLocked : Bool)
    (clk : PtpClockDS) :
    (sharedPortsLoop tics extsrcLocked ports clk).2.parentPortIdentity =
      clk.parentPortIdentity := by
  obtain ⟨number, clockClass, timer, heq⟩ := sharedPortsLoop_snd ports tics extsrcLocked clk
  rw [heq]
  cases anyRecordUpdate ports clk.numberPorts <;> rfl

/-! ### The invariant -/

/-- A port that follows the parent has the parent's record as its best one, or decides again. -/
structure ParentsTracked (rtOpts : RunTimeOpts) (d : Daemon) : Prop where
  numberPorts : d.clk.numberPorts = rtOpts.portNumber
  own : ∀ i, OwnHeaders (d.ports i).fm
  up : ∀ i, d.phase = .decide i ∨ d.phase = .act i → (d.ports i).linkUP = true
  parent : ∀ i < rtOpts.portNumber, FollowsParent (d.ports i) →
    AtParent (d.ports i).fm d.clk.parentPortIdentity ∨ Redecides d i

/-- What is known of the states of every run. -/
structure Known (rtOpts : RunTimeOpts) (d : Daemon) : Prop where
  live : TablesLive d
  range : d.InRange rtOpts
  cleared : ∀ i, (d.ports i).portState.follows = true ∨ d.phase = .act i → Cleared (d.ports i)

theorem Daemon.Reachable.known {rtOpts : RunTimeOpts} {d : Daemon}
    (h : Daemon.Reachable rtOpts d) : Known rtOpts d := by
  refine ⟨tablesLive_of_reachable h, h.inRange, fun i hi => ?_⟩
  refine (cleared_invariant rtOpts).holds h i ?_
  rcases hi with hfollows | hphase
  · -- A port that was never initialized does not follow.
    by_contra hunready
    rw [h.prepared.unready i hunready] at hfollows
    cases hfollows
  · exact h.prepared.deciding i (.inr hphase)

/-- The White Rabbit state machine of a slave is idle. -/
theorem Cleared.slave_idle {port : PtpPortDS} (h : Cleared port)
    (hslave : port.portState = .slave) : port.wr.wrPortState = .idle := by
  have hinterlock : Interlock port := h.driven.resolve_right (by rw [hslave]; decide)
  by_contra hrun
  rcases hinterlock hrun with ⟨hstate, -⟩ | ⟨hstate, -⟩ <;>
    · rw [hslave] at hstate
      cases hstate

namespace ParentsTracked

variable {rtOpts : RunTimeOpts} {d : Daemon}

theorem initial (h : Daemon.Initial rtOpts d) : ParentsTracked rtOpts d := by
  obtain ⟨-, macs, extsrcLocked, tics, clk, rfl⟩ := h
  refine ⟨?_, fun _ _ => rfl, fun i hphase => ?_, fun i _ hfollows => ?_⟩
  · unfold Daemon.initial initDataClock
    dsimp only
    split_ifs <;> rfl
  · rcases hphase with hphase | hphase <;> cases hphase
  · cases hfollows.1

/-- A port that is not stepped decides again as it would have before. -/
theorem redecides_store {i j : ℕ} {n : Node} {phase : Phase} (hij : j ≠ i)
    (hevent : n.clk.globalStateDecisionEvent = d.clk.globalStateDecisionEvent)
    (hact : phase ≠ .act j) (hphase : phase.Undecided j ↔ d.phase.Undecided j)
    (h : Redecides d j) : Redecides (d.store i n phase) j := by
  unfold Redecides at h ⊢
  rw [Daemon.store_ports_of_ne _ _ hij, Daemon.store_phase, Daemon.store_clk, hevent]
  simp only [hphase]
  exact ⟨h.1, h.2.1, hact, h.2.2.2⟩

/-- A step of one port keeps the invariant when it does so for that port, and does not take the
parent away from another one. -/
theorem store (hd : ParentsTracked rtOpts d) {i : ℕ} {n : Node} {phase : Phase}
    (hnumber : n.clk.numberPorts = d.clk.numberPorts)
    (hevent : n.clk.globalStateDecisionEvent = d.clk.globalStateDecisionEvent)
    (hown : OwnHeaders n.port.fm)
    (hup : ∀ j, phase = .decide j ∨ phase = .act j → j = i ∧ n.port.linkUP = true)
    (hundecided : ∀ j < rtOpts.portNumber, j ≠ i → (phase.Undecided j ↔ d.phase.Undecided j))
    (hparent : FollowsParent n.port → AtParent n.port.fm n.clk.parentPortIdentity ∨
      Redecides (d.store i n phase) i)
    (hothers : n.clk.parentPortIdentity = d.clk.parentPortIdentity ∨
      ∀ j < rtOpts.portNumber, j ≠ i → FollowsParent (d.ports j) → Redecides d j) :
    ParentsTracked rtOpts (d.store i n phase) := by
  refine ⟨hnumber.trans hd.numberPorts, fun j => ?_, fun j hj => ?_, fun j hlt hfollows => ?_⟩
  · -- The tables of the other ports are not touched.
    by_cases hji : j = i
    · rw [hji, Daemon.store_ports_self]
      exact hown
    · rw [Daemon.store_ports_of_ne _ _ hji]
      exact hd.own j
  · obtain ⟨rfl, hlink⟩ := hup j hj
    rw [Daemon.store_ports_self]
    exact hlink
  · by_cases hji : j = i
    · subst hji
      rw [Daemon.store_ports_self] at hfollows ⊢
      exact hparent hfollows
    · have hact : phase ≠ .act j := fun hact => hji (hup j (.inr hact)).1
      have hstill (h : Redecides d j) : Redecides (d.store i n phase) j :=
        redecides_store hji hevent hact (hundecided j hlt hji) h
      rw [Daemon.store_ports_of_ne _ _ hji] at hfollows ⊢
      rw [Daemon.store_clk]
      -- The other ports keep their best records, so only a new parent concerns them.
      rcases hothers with hsame | hagain
      · rw [hsame]
        exact (hd.parent j hlt hfollows).imp_right hstill
      · exact .inr (hstill (hagain j hlt hji hfollows))

/-- The phase after the last one of a port: the earlier ports have decided, the later ones have not.
-/
theorem undecided_nextPort {i j : ℕ} (hlt : j < rtOpts.portNumber) (hji : j ≠ i) :
    (Daemon.nextPort rtOpts i).Undecided j ↔ i ≤ j := by
  unfold Daemon.nextPort
  split
  · show i + 1 ≤ j ↔ i ≤ j
    omega
  next hlast =>
    refine ⟨fun h => absurd h id, fun h => ?_⟩
    omega

theorem link (hd : ParentsTracked rtOpts d) (hknown : Known rtOpts d) {i : ℕ}
    (hphase : d.phase = .link i) (o : Oracle) : ParentsTracked rtOpts (Daemon.step rtOpts o d) := by
  have hrange : i < rtOpts.portNumber := hknown.range i (.inl hphase)
  obtain ⟨phase, heq, hnext⟩ := Daemon.step_linked o hphase
  have hclk := (linked_table rtOpts (d.node i o)).2
  have hparent := linked_parent rtOpts (d.node i o)
  have hown : OwnHeaders (linked rtOpts (d.node i o)).port.fm := linked_own (hd.own i)
  have hkept (h : FollowsParent (linked rtOpts (d.node i o)).port) :
      (linked rtOpts (d.node i o)).port = d.ports i := (linked_of_follows h).1
  rw [heq]
  generalize linked rtOpts (d.node i o) = n at *
  refine hd.store hclk.numberPorts hclk.event hown (fun j hj => ?_) (fun j hlt hji => ?_)
    (fun hfollows => ?_) (.inl hparent)
  · rcases hnext with ⟨rfl, hup⟩ | ⟨rfl, -⟩
    · rcases hj with hj | hj <;> cases hj
      exact ⟨rfl, hup⟩
    · exact absurd hj (Interlocked.nextPort_ne _ _ _)
  · rw [hphase]
    rcases hnext with ⟨rfl, -⟩ | ⟨rfl, -⟩
    · exact Iff.rfl
    · exact undecided_nextPort hlt hji
  -- A port that follows the parent has not changed, and its decision is due.
  · obtain ⟨rfl, hup⟩ : phase = .decide i ∧ n.port.linkUP = true :=
      hnext.resolve_right fun hother => hother.2 hfollows
    have hport := hkept hfollows
    rw [hport] at hfollows ⊢
    rw [hparent]
    refine (hd.parent i hrange hfollows).imp_right fun hagain => ?_
    obtain ⟨hslave, hidle, -, hevent⟩ := hagain
    rw [hphase, if_pos (show Phase.Undecided i (.link i) from le_rfl)] at hevent
    refine ⟨?_, ?_, by simp, ?_⟩
    · rw [Daemon.store_ports_self, hport]
      exact hslave
    · rw [Daemon.store_ports_self, hport]
      exact hidle
    · rw [Daemon.store_phase, if_pos (show Phase.Undecided i (.decide i) from le_rfl),
        Daemon.store_clk, hclk.event]
      exact hevent

theorem decide (hd : ParentsTracked rtOpts d) (hknown : Known rtOpts d) {i : ℕ}
    (hphase : d.phase = .decide i) {o : Oracle} (hsound : SoundDecision d i (d.node i o)) :
    ParentsTracked rtOpts (Daemon.step rtOpts o d) := by
  have hrange : i < rtOpts.portNumber := hknown.range i (.inr (.inl hphase))
  have hup : (d.ports i).linkUP = true := hd.up i (.inl hphase)
  have hlink : (stateDecision rtOpts d.bestForeign (d.node i o)).port.linkUP =
      (d.ports i).linkUP := (stateDecision_versionNumber d.bestForeign).2
  obtain ⟨htable, hclk⟩ := stateDecision_table rtOpts d.bestForeign (d.node i o)
  -- The senders stay, so the best record is judged by the parent after the decision.
  have hsenders : SameSenders (d.ports i).fm
      (stateDecision rtOpts d.bestForeign (d.node i o)).port.fm := by
    rcases htable with h | ⟨-, h⟩ <;> rw [h] <;> exact ⟨rfl, rfl, fun _ => rfl, fun _ => rfl⟩
  rw [Daemon.step_decide rtOpts o hphase]
  refine hd.store hclk.numberPorts hclk.event (hsenders.ownHeaders (hd.own i)) (fun j hj => ?_)
    (fun j hlt hji => ?_) (fun hfollows => .inl ?_) ?_
  · rcases hj with hj | hj <;> cases hj
    exact ⟨rfl, hlink.trans hup⟩
  · rw [hphase]
    show i < j ↔ i ≤ j
    omega
  · refine hsenders.atParent ?_
    by_cases hdecides : Decides (d.node i o)
    · by_cases hslave : (bmc d.bestForeign (deciding (d.node i o))).1 = .slave
      · obtain ⟨hpos, hheard, -⟩ := hsound hdecides hslave
        rw [stateDecision_of_slave hdecides hslave hheard]
        -- The decision takes the parent from the best record, which is live.
        have hlive := hknown.live.before i (by rw [hphase]; exact le_rfl) hpos
        exact ⟨hlive, hd.own i _⟩
      · rw [FollowsParent, (stateDecision_of_other hdecides hslave).1] at hfollows
        cases hfollows.2
    · rw [stateDecision_of_not rtOpts _ _ hdecides] at hfollows ⊢
      -- A port that was to decide again would have decided now.
      refine (hd.parent i hrange hfollows).resolve_right fun hagain => hdecides ?_
      obtain ⟨hslave, hidle, -, hevent⟩ := hagain
      rw [hphase, if_pos (show Phase.Undecided i (.decide i) from le_rfl)] at hevent
      exact ⟨by rw [show (d.node i o).port.portState = .slave from hslave]; rfl, hevent, hidle⟩
  · by_cases hdecides : Decides (d.node i o)
    · by_cases hslave : (bmc d.bestForeign (deciding (d.node i o))).1 = .slave
      · obtain ⟨-, hheard, hothers⟩ := hsound hdecides hslave
        rw [stateDecision_of_slave hdecides hslave hheard]
        refine hothers.imp_right fun h j hlt => h j ?_
        rwa [show (d.node i o).clk.numberPorts = rtOpts.portNumber from hd.numberPorts]
      · exact .inl (stateDecision_of_other hdecides hslave).2
    · rw [stateDecision_of_not rtOpts _ _ hdecides]
      exact .inl rfl

theorem act (hd : ParentsTracked rtOpts d) (hknown : Known rtOpts d) {i : ℕ}
    (hphase : d.phase = .act i) {o : Oracle} (hsound : SoundReception (d.node i o)) :
    ParentsTracked rtOpts (Daemon.step rtOpts o d) := by
  have hrange : i < rtOpts.portNumber := hknown.range i (.inr (.inr hphase))
  have hcleared : Cleared (d.ports i) := hknown.cleared i (.inr hphase)
  have hclk := (doStateActions_table rtOpts (d.node i o)).2
  have hparent := doStateActions_parent rtOpts (d.node i o)
  -- Whatever the port was before, it has the parent's record or a marked table if it follows now.
  have houtcome : OwnHeaders (doStateActions rtOpts (d.node i o)).port.fm ∧
      (FollowsParent (doStateActions rtOpts (d.node i o)).port →
        AtParent (doStateActions rtOpts (d.node i o)).port.fm d.clk.parentPortIdentity ∨
          (doStateActions rtOpts (d.node i o)).port.portState = .slave ∧
          (doStateActions rtOpts (d.node i o)).port.wr.wrPortState = .idle ∧
          (doStateActions rtOpts (d.node i o)).port.fm.recordUpdate = true) := by
    -- The port acts now, so its decision is behind it and the record is the parent's.
    have hat (hfollows : (d.ports i).portState.follows = true) :
        AtParent (d.ports i).fm d.clk.parentPortIdentity :=
      (hd.parent i hrange ⟨hd.up i (.inr hphase), hfollows⟩).resolve_right fun hagain =>
        hagain.2.2.1 hphase
    cases hstate : (d.ports i).portState
    case uncalibrated =>
      have hboth : OwnHeaders (doStateActions rtOpts (d.node i o)).port.fm ∧
          AtParent (doStateActions rtOpts (d.node i o)).port.fm d.clk.parentPortIdentity :=
        doStateActions_of_uncalibrated hstate (hd.own i) (hat (by rw [hstate]; rfl))
          (hsound hstate)
      exact ⟨hboth.1, fun _ => .inl hboth.2⟩
    case slave =>
      have hidle := hcleared.slave_idle hstate
      obtain ⟨hown, hkept⟩ : OwnHeaders (doStateActions rtOpts (d.node i o)).port.fm ∧ (_ → _) :=
        doStateActions_of_slave hstate hidle (hd.own i) (hat (by rw [hstate]; rfl))
      refine ⟨hown, fun hfollows => ?_⟩
      obtain ⟨hslave, hmarked⟩ := hkept hfollows.2
      refine hmarked.imp_right fun hmarked => ⟨hslave, ?_, hmarked⟩
      exact doStateActions_idle_of_slave hstate hidle
    all_goals
      obtain ⟨hown, hother⟩ : OwnHeaders (doStateActions rtOpts (d.node i o)).port.fm ∧ _ :=
        doStateActions_of_other (by rw [show (d.node i o).port.portState = _ from hstate]; rfl)
          hcleared (hd.own i)
      refine ⟨hown, fun hfollows => ?_⟩
      rw [FollowsParent, hother] at hfollows
      cases hfollows.2
  rw [Daemon.step_act rtOpts o hphase]
  generalize doStateActions rtOpts (d.node i o) = n at *
  refine hd.store hclk.numberPorts hclk.event houtcome.1 (fun j hj => ?_) (fun j hlt hji => ?_)
    (fun hfollows => ?_) (.inl hparent)
  · exact absurd hj (Interlocked.nextPort_ne _ _ _)
  · rw [hphase, undecided_nextPort hlt hji]
    show i ≤ j ↔ i < j
    omega
  · rw [hparent]
    refine (houtcome.2 hfollows).imp_right fun hagain => ?_
    obtain ⟨hslave, hidle, hmarked⟩ := hagain
    have hdone : ¬(Daemon.nextPort rtOpts i).Undecided i := by
      rcases Daemon.nextPort_cases rtOpts i with hnext | hnext <;> rw [hnext]
      · exact Nat.not_succ_le_self i
      · exact id
    refine ⟨?_, ?_, ?_, ?_⟩
    · rwa [Daemon.store_ports_self]
    · rwa [Daemon.store_ports_self]
    · exact fun h => Interlocked.nextPort_ne rtOpts i i (.inr h)
    · rw [Daemon.store_phase, if_neg hdone, Daemon.store_ports_self]
      exact hmarked

theorem shared (hd : ParentsTracked rtOpts d) (hknown : Known rtOpts d)
    (hphase : d.phase = .shared) (o : Oracle) (hsound : SoundSearch d) :
    ParentsTracked rtOpts (Daemon.step rtOpts o d) := by
  obtain ⟨tics, extsrcLocked, heq⟩ := Daemon.step_shared rtOpts o hphase
  have hparent := sharedPortsLoop_parent d.ports tics extsrcLocked d.clk
  have hports := sharedPortsLoop_fst d.ports tics extsrcLocked d.clk
  obtain ⟨hnumber, hevent, -, -⟩ := sharedPortsLoop_clk d.ports tics extsrcLocked d.clk
  rw [heq]
  generalize sharedPortsLoop tics extsrcLocked d.ports d.clk = updated at *
  rw [hports]
  have hport (i : ℕ) := updateErBests_eq d.ports d.clk.numberPorts i
  refine ⟨hnumber.trans hd.numberPorts, fun i => ?_, fun i hi => ?_, fun i hlt hfollows => ?_⟩
  · show OwnHeaders (updateErBests d.ports d.clk.numberPorts i).fm
    rw [hport]
    exact hd.own i
  · rcases hi with hi | hi <;> cases hi
  replace hfollows : FollowsParent (d.ports i) := by
    have h : FollowsParent (updateErBests d.ports d.clk.numberPorts i) := hfollows
    rw [hport] at h
    exact h
  show AtParent (updateErBests d.ports d.clk.numberPorts i).fm updated.2.parentPortIdentity ∨ _
  rw [hparent]
  -- A search that does not move the best record keeps it at the parent's.
  have hsearched (hbest : (updateErBests d.ports d.clk.numberPorts i).fm.foreignRecordBest =
      (d.ports i).fm.foreignRecordBest) (hat : AtParent (d.ports i).fm d.clk.parentPortIdentity) :
      AtParent (updateErBests d.ports d.clk.numberPorts i).fm d.clk.parentPortIdentity := by
    rw [hport, hbest]
    exact hat
  by_cases hany : anyRecordUpdate d.ports d.clk.numberPorts = true
  · by_cases hslave : (d.ports i).portState = .slave
    · -- The search is followed by a decision of every slave.
      have hidle := (hknown.cleared i (.inl hfollows.2)).slave_idle hslave
      refine .inr ⟨?_, ?_, by simp, ?_⟩
      · show (updateErBests d.ports d.clk.numberPorts i).portState = _
        rw [hport]
        exact hslave
      · show (updateErBests d.ports d.clk.numberPorts i).wr.wrPortState = _
        rw [hport]
        exact hidle
      · rw [if_pos (show Phase.Undecided i (.link 0) from Nat.zero_le i)]
        exact hevent.trans hany
    · have hstate : (d.ports i).portState = .uncalibrated := by
        have h := hfollows.2
        revert h hslave
        cases (d.ports i).portState <;> simp [PtpState.follows]
      refine .inl (hsearched (hsound i (by rwa [hd.numberPorts]) hfollows.1 hstate) ?_)
      exact (hd.parent i hlt hfollows).resolve_right fun hagain => hslave hagain.1
  · -- Without a marked table nothing is searched, and no port decides again.
    have hnone := (anyRecordUpdate_eq_false_iff d.ports d.clk.numberPorts).mp (by simpa using hany)
    refine .inl (hsearched (by rw [updateErBests_of_not d.ports hnone]) ?_)
    refine (hd.parent i hlt hfollows).resolve_right fun hagain => ?_
    have hmarked := hagain.2.2.2
    rw [hphase, if_neg (show ¬Phase.Undecided i .shared from id),
      hnone i (by rwa [hd.numberPorts])] at hmarked
    cases hmarked

/-- Every step that stays at the parent keeps the invariant. -/
theorem step (hd : ParentsTracked rtOpts d) (hknown : Known rtOpts d) (o : Oracle)
    (hguard : StaysAtParent o d) : ParentsTracked rtOpts (Daemon.step rtOpts o d) := by
  unfold StaysAtParent at hguard
  cases hphase : d.phase <;> rw [hphase] at hguard
  case link i => exact hd.link hknown hphase o
  case decide i => exact hd.decide hknown hphase hguard
  case act i => exact hd.act hknown hphase hguard
  case shared => exact hd.shared hknown hphase o hguard

theorem fastPathAgrees (hd : ParentsTracked rtOpts d) (hknown : Known rtOpts d) :
    FastPathAgrees d := by
  refine ⟨fun i hphase hstate header hparent => ?_, fun i k _ => hd.own i k⟩
  have hfollows : FollowsParent (d.ports i) := by
    refine ⟨hd.up i (.inr hphase), ?_⟩
    rcases hstate with hstate | hstate <;> rw [hstate] <;> rfl
  have hat := (hd.parent i (hknown.range i (.inr (.inr hphase))) hfollows).resolve_right
    fun hagain => hagain.2.2.1 hphase
  have hsender : d.clk.parentPortIdentity = header.sourcePortIdentity := by
    simpa [msgIsFromCurrentParent] using hparent
  rw [hsender] at hat
  exact ⟨hat, hat.findForeign⟩

end ParentsTracked

/-! ### The fast path and the lookup -/

/-- When the best record is the one that the lookup finds, an Announce message of the parent leaves
it as `addForeign` would, but for the number of messages, which only `addForeign` counts. -/
theorem handleAnnounce_eq_addForeign {header : MsgHeader} {length : ℕ} {rtOpts : RunTimeOpts}
    {n : Node} (hlength : ANNOUNCE_LENGTH ≤ length)
    (hstate : n.port.portState = .slave ∨ n.port.portState = .uncalibrated)
    (hparent : msgIsFromCurrentParent header n.clk = true)
    (hfound : findForeign n.port.fm header.sourcePortIdentity n.port.fm.numberForeignRecords
      n.port.fm.foreignRecordBest = some n.port.fm.foreignRecordBest) :
    let best := n.port.fm.foreignRecordBest
    let added := (addForeign header n.port).fm.foreign
    (handleAnnounce header length false rtOpts n).port.fm.foreign =
      Function.update added best { added best with
        foreignMasterAnnounceMessages :=
          (n.port.fm.foreign best).foreignMasterAnnounceMessages } := by
  intro best added
  have hadded : added = Function.update n.port.fm.foreign best
      { n.port.fm.foreign best with
        foreignMasterAnnounceMessages :=
          (n.port.fm.foreign best).foreignMasterAnnounceMessages + 1
        header := msgUnpackHeader n.port.msgIbuf
        announce := msgUnpackAnnounce n.port.msgIbuf (n.port.fm.foreign best).announce } := by
    show (addForeign header n.port).fm.foreign = _
    rw [addForeign, hfound]
  rw [hadded, Function.update_idem, Function.update_self]
  unfold handleAnnounce
  rw [if_neg hlength.not_gt]
  -- Both states take the fast path.
  rcases hstate with hstate | hstate <;>
    · rw [hstate]
      dsimp only
      rw [if_neg (by decide), if_pos hparent]
      rfl

/-- A slave-only port runs a complete link set-up with its parent, and is about to receive another
Announce message of it. -/
def steadyRun : List Oracle :=
  resyncRun.dropLast ++ (slaveIteration none).take 2

/-- The state of its clock after this run. -/
def steadyState : Daemon :=
  runInputs (Daemon.step (defaultRtOpts 1)) (Daemon.single ![2, 0, 0, 0, 0, 1]) steadyRun

/-- In every run of steps that stay at the parent, an Announce message of the parent overwrites the
parent's record, and every record has a header of its own master. -/
theorem fastPathAgrees_of_guardedRun (rtOpts : RunTimeOpts) {d : Daemon}
    (h : GuardedRun (Daemon.Initial rtOpts) (Daemon.step rtOpts) StaysAtParent d) :
    FastPathAgrees d := by
  have hinv : ParentsTracked rtOpts d := h.invariant_of (Q := Known rtOpts)
    (fun _ hrun => Daemon.Reachable.known hrun.reachable) (fun _ => ParentsTracked.initial)
    fun o _ hknown hd hguard => hd.step hknown o hguard
  exact hinv.fastPathAgrees (Daemon.Reachable.known h.reachable)

set_option maxRecDepth 100000 in
/-- The port hears the best master itself, and no other one. -/
theorem fastPathAgrees_of_guardedRun_steadyState : FastPathAgrees steadyState ∧
    steadyState.phase = .act 0 ∧ (steadyState.ports 0).portState.follows = true ∧
    (steadyState.ports 0).fm.numberForeignRecords = 1 :=
  ⟨fastPathAgrees_of_guardedRun (defaultRtOpts 1)
    (.runInputs (.start (Daemon.single_initial _)) steadyRun (by decide +kernel)),
    by decide +kernel⟩

/-! ### A better master while the link is set up -/

/-- An Announce message of a better master than the one of `masterAnnounce`. -/
def rivalAnnounce : List UInt8 :=
  announceFrame (Daemon.singleNode ![2, 0, 0, 0, 0, 0] .wrMaster)

/-- A slave-only port starts the link set-up with its parent. Meanwhile it hears a better master,
and the search moves its best record to that one; then an Announce message of the parent arrives. -/
def strayRun : List Oracle :=
  [some masterAnnounce, none, some rivalAnnounce, some masterAnnounce].flatMap slaveIteration

/-- The state of its clock when that message arrives. -/
def strayState : Daemon :=
  runInputs (Daemon.step (defaultRtOpts 1)) (Daemon.single ![2, 0, 0, 0, 0, 1]) (strayRun.take 14)

/-- The state of its clock when that message has been handled. -/
def overwrittenState : Daemon :=
  runInputs (Daemon.step (defaultRtOpts 1)) (Daemon.single ![2, 0, 0, 0, 0, 1]) (strayRun.take 15)

/-- The header of that message. -/
def strayHeader : MsgHeader :=
  msgUnpackHeader ((strayState.ports 0).msgIbuf.load masterAnnounce)

set_option maxRecDepth 100000 in
/-- The message is the parent's, but the best record is not. -/
theorem strayState_best : strayState.phase = .act 0 ∧
    (strayState.ports 0).portState = .uncalibrated ∧
    msgIsFromCurrentParent strayHeader strayState.clk = true ∧
    ((strayState.ports 0).fm.foreign
      (strayState.ports 0).fm.foreignRecordBest).foreignMasterPortIdentity ≠
        strayHeader.sourcePortIdentity := by
  decide +kernel

set_option maxRecDepth 100000 in
/-- The record of the better master now has a header of the parent. -/
theorem overwrittenState_header : 1 < (overwrittenState.ports 0).fm.numberForeignRecords ∧
    ((overwrittenState.ports 0).fm.foreign 1).foreignMasterPortIdentity ≠
      ((overwrittenState.ports 0).fm.foreign 1).header.sourcePortIdentity := by
  decide +kernel

/-- An Announce message of the parent may overwrite the record of another master, which then has a
header that is not its own. -/
theorem not_forall_fastPathAgrees :
    (¬∀ (rtOpts : RunTimeOpts) (d : Daemon), Daemon.Reachable rtOpts d → OverwritesParent d) ∧
      ¬∀ (rtOpts : RunTimeOpts) (d : Daemon), Daemon.Reachable rtOpts d → LiveHeadersOwn d := by
  constructor
  · intro h
    obtain ⟨hphase, hstate, hparent, hbest⟩ := strayState_best
    have hoverwrites : OverwritesParent strayState :=
      h (defaultRtOpts 1) strayState (Daemon.single_reachable _ _)
    exact hbest (hoverwrites 0 hphase (.inr hstate) strayHeader hparent).1.2
  · intro h
    obtain ⟨hlive, hheader⟩ := overwrittenState_header
    exact hheader (h (defaultRtOpts 1) overwrittenState (Daemon.single_reachable _ _) 0 1 hlive)

end WhiteRabbitPtp
