import WhiteRabbitPtp.Correctness.Interlock

/-!
# Invariants of one port

Most invariants of the daemon concern the data of one port that was initialized. Such an invariant
is proved for the three phases of a port; the rest of the daemon's steps are dealt with here, once.

## Main definitions

* `Prepared`: only ports that were initialized take part in state decisions and actions.
* `PortInvariant`: what has to be shown of an invariant of one port.

## Main results

* `Daemon.Reachable.prepared`: every reachable state is prepared.
* `PortInvariant.holds`: an invariant of one port holds of every initialized port in every guarded
  run.
-/

namespace WhiteRabbitPtp

open InputSystem

/-! ### Initialized ports -/

/-- Only ports that were initialized have their link up, and decide and act; the others have not
left their first state. -/
structure Prepared (d : Daemon) : Prop where
  fresh : ∀ i, (d.ports i).linkUP = true → (d.ports i).Ready
  deciding : ∀ i, d.phase = .decide i ∨ d.phase = .act i → (d.ports i).Ready
  unready : ∀ i, ¬(d.ports i).Ready → (d.ports i).portState = .initializing

/-- The actions of a port keep it initialized. -/
theorem doStateActions_ready (rtOpts : RunTimeOpts) {n : Node} (h : n.port.Ready) :
    (doStateActions rtOpts n).port.Ready :=
  doStateActions_induction (P := fun n => n.port.Ready) h fun _ _ hn haction =>
    haction.versionNumber.trans hn

/-- A port is initialized when its link went up, and stays so. -/
theorem linked_ready (rtOpts : RunTimeOpts) {n : Node} (h : n.port.linkUP = true → n.port.Ready)
    (hup : (linked rtOpts n).port.linkUP = true) : (linked rtOpts n).port.Ready := by
  rcases linked_cases rtOpts n with hinit | hkept
  · exact hinit.versionNumber
  · -- A kept port whose link is up had it up before.
    have hready := h (hkept.linkUP hup)
    obtain ⟨port, hport, heq⟩ := hkept.port
    rw [heq]
    rcases hport with rfl | rfl <;> exact hready

/-- A port that is not initialized yet stays in its first state. -/
theorem linked_unready (rtOpts : RunTimeOpts) {n : Node}
    (h : ¬n.port.Ready → n.port.portState = .initializing)
    (hn : ¬(linked rtOpts n).port.Ready) : (linked rtOpts n).port.portState = .initializing := by
  rcases linked_cases rtOpts n with hinit | hkept
  · exact absurd hinit.versionNumber hn
  · obtain ⟨port, hport, heq⟩ := hkept.port
    rw [heq] at hn ⊢
    rcases hport with rfl | rfl <;> exact h hn

namespace Prepared

variable {rtOpts : RunTimeOpts} {d : Daemon}

theorem initial (h : Daemon.Initial rtOpts d) : Prepared d := by
  obtain ⟨-, macs, extsrcLocked, tics, clk, rfl⟩ := h
  refine ⟨fun i hup => absurd (show false = true from hup) (by decide), fun i hphase => ?_,
    fun _ _ => rfl⟩
  rcases hphase with hphase | hphase <;> cases hphase

theorem store (hd : Prepared d) {i : ℕ} {n : Node} {phase : Phase}
    (hfresh : n.port.linkUP = true → n.port.Ready)
    (hphase : ∀ j, phase = .decide j ∨ phase = .act j → j = i ∧ n.port.Ready)
    (hunready : ¬n.port.Ready → n.port.portState = .initializing) :
    Prepared (d.store i n phase) := by
  refine ⟨fun j => ?_, fun j h => ?_, fun j => ?_⟩
  · by_cases hj : j = i
    · subst hj
      rwa [Daemon.store_ports_self]
    · rw [Daemon.store_ports_of_ne _ _ hj]
      exact hd.fresh j
  · -- Only the port that was stored decides or acts next.
    obtain ⟨rfl, hready⟩ := hphase j h
    rwa [Daemon.store_ports_self]
  · by_cases hj : j = i
    · subst hj
      rwa [Daemon.store_ports_self]
    · rw [Daemon.store_ports_of_ne _ _ hj]
      exact hd.unready j

/-- Every step keeps the daemon prepared. -/
theorem step (o : Oracle) (hd : Prepared d) : Prepared (Daemon.step rtOpts o d) := by
  cases hphase : d.phase with
  | link i =>
    obtain ⟨phase, heq, hnext⟩ := Daemon.step_link rtOpts o hphase
    have hready := linked_ready rtOpts (n := d.node i o) (hd.fresh i)
    rw [heq]
    refine hd.store hready (fun j hj => ?_) (linked_unready rtOpts (hd.unready i))
    -- It decides next when its link is up, so it was initialized.
    rcases hnext with ⟨rfl, hup⟩ | rfl
    · rcases hj with hj | hj <;> cases hj
      exact ⟨rfl, hready hup⟩
    · exact absurd hj (Interlocked.nextPort_ne _ _ _)
  | decide i =>
    rw [Daemon.step_decide rtOpts o hphase]
    have hready : (stateDecision rtOpts d.bestForeign (d.node i o)).port.Ready :=
      (stateDecision_versionNumber _).1.trans (hd.deciding i (.inl hphase))
    refine hd.store (fun _ => hready) (fun j hj => ?_) fun hn => absurd hready hn
    rcases hj with hj | hj <;> cases hj
    exact ⟨rfl, hready⟩
  | act i =>
    rw [Daemon.step_act rtOpts o hphase]
    have hready : (doStateActions rtOpts (d.node i o)).port.Ready :=
      doStateActions_ready rtOpts (hd.deciding i (.inr hphase))
    exact hd.store (fun _ => hready) (fun j hj => absurd hj (Interlocked.nextPort_ne _ _ _))
      fun hn => absurd hready hn
  | shared =>
    obtain ⟨tics, extsrcLocked, heq⟩ := Daemon.step_shared rtOpts o hphase
    rw [heq]
    refine ⟨fun i => ?_, fun i hi => ?_, fun i => ?_⟩
    · -- The shared part of an iteration moves the best records only.
      show ((sharedPortsLoop tics extsrcLocked d.ports d.clk).1 i).linkUP = true →
        ((sharedPortsLoop tics extsrcLocked d.ports d.clk).1 i).Ready
      rw [sharedPortsLoop_port d.ports tics extsrcLocked d.clk i]
      exact hd.fresh i
    · rcases hi with hi | hi <;> cases hi
    · show ¬((sharedPortsLoop tics extsrcLocked d.ports d.clk).1 i).Ready →
        ((sharedPortsLoop tics extsrcLocked d.ports d.clk).1 i).portState = .initializing
      rw [sharedPortsLoop_port d.ports tics extsrcLocked d.clk i]
      exact hd.unready i

end Prepared

/-- Every reachable state is prepared. -/
theorem Daemon.Reachable.prepared {rtOpts : RunTimeOpts} {d : Daemon}
    (h : Daemon.Reachable rtOpts d) : Prepared d :=
  GuardedRun.invariant h (fun _ => Prepared.initial) fun o _ hd _ => hd.step o

/-! ### The phases -/

/-- The main loop is at a port of the clock or at the part for all ports. -/
def Daemon.InRange (rtOpts : RunTimeOpts) (d : Daemon) : Prop :=
  ∀ i, d.phase = .link i ∨ d.phase = .decide i ∨ d.phase = .act i → i < rtOpts.portNumber

/-- In every reachable state the main loop is at a port of the clock. -/
theorem Daemon.Reachable.inRange {rtOpts : RunTimeOpts} {d : Daemon}
    (h : Daemon.Reachable rtOpts d) : d.InRange rtOpts := by
  -- The next port is one of the clock, and the ports follow each other.
  have hnext (i j : ℕ) (hj : nextPort rtOpts i = .link j ∨ nextPort rtOpts i = .decide j ∨
      nextPort rtOpts i = .act j) : j < rtOpts.portNumber := by
    unfold nextPort at hj
    split at hj
    next hlt =>
      rcases hj with hj | hj | hj <;> cases hj
      exact hlt
    next => rcases hj with hj | hj | hj <;> cases hj
  have hpos : 0 < rtOpts.portNumber :=
    GuardedRun.invariant (P := fun _ => 0 < rtOpts.portNumber) h (fun _ hstart => hstart.1)
      fun _ _ hd _ => hd
  refine GuardedRun.invariant h (fun d hstart => ?_) fun o d hd _ => ?_
  · obtain ⟨-, macs, extsrcLocked, tics, clk, rfl⟩ := hstart
    intro i hi
    rcases hi with hi | hi | hi <;> cases hi
    exact hpos
  · intro j hj
    cases hphase : d.phase with
    | link i =>
      obtain ⟨phase, heq, hphase' | rfl⟩ := Daemon.step_link rtOpts o hphase
      · rw [heq, hphase'.1, store_phase] at hj
        rcases hj with hj | hj | hj <;> cases hj
        exact hd j (.inl hphase)
      · rw [heq] at hj
        exact hnext i j hj
    | decide i =>
      rw [Daemon.step_decide rtOpts o hphase, store_phase] at hj
      rcases hj with hj | hj | hj <;> cases hj
      exact hd j (.inr (.inl hphase))
    | act i =>
      rw [Daemon.step_act rtOpts o hphase] at hj
      exact hnext i j hj
    | shared =>
      obtain ⟨tics, extsrcLocked, heq⟩ := Daemon.step_shared rtOpts o hphase
      rw [heq] at hj
      rcases hj with hj | hj | hj <;> cases hj
      exact hpos

/-! ### Invariants -/

/-- What has to be shown of an invariant of one port: its phases keep it. -/
structure PortInvariant (rtOpts : RunTimeOpts) (guard : Oracle → Daemon → Prop)
    (Inv : PtpPortDS → Prop) : Prop where
  link {d : Daemon} {i : ℕ} {o : Oracle} : d.phase = .link i → guard o d →
    ((d.ports i).Ready → Inv (d.ports i)) → (linked rtOpts (d.node i o)).port.Ready →
    Inv (linked rtOpts (d.node i o)).port
  decide {d : Daemon} {i : ℕ} {o : Oracle} : d.phase = .decide i → guard o d →
    (d.ports i).Ready → Inv (d.ports i) →
    Inv (stateDecision rtOpts d.bestForeign (d.node i o)).port
  act {d : Daemon} {i : ℕ} {o : Oracle} : d.phase = .act i → guard o d →
    (d.ports i).Ready → Inv (d.ports i) → Inv (doStateActions rtOpts (d.node i o)).port
  search {port : PtpPortDS} (best : ℕ) : Inv port → Inv { port with fm.foreignRecordBest := best }

namespace PortInvariant

variable {rtOpts : RunTimeOpts} {guard : Oracle → Daemon → Prop} {Inv : PtpPortDS → Prop}
  {d : Daemon}

/-- A step of one port keeps the invariant of all when it does so for that port. -/
theorem store (hd : ∀ i, (d.ports i).Ready → Inv (d.ports i)) {i : ℕ} {n : Node} {phase : Phase}
    (h : n.port.Ready → Inv n.port) (j : ℕ) (hready : ((d.store i n phase).ports j).Ready) :
    Inv ((d.store i n phase).ports j) := by
  by_cases hj : j = i
  · subst hj
    rw [Daemon.store_ports_self] at hready ⊢
    exact h hready
  · rw [Daemon.store_ports_of_ne _ _ hj] at hready ⊢
    exact hd j hready

/-- Every guarded step keeps the invariant. -/
theorem step (h : PortInvariant rtOpts guard Inv) (hprepared : Prepared d) (o : Oracle)
    (hd : ∀ i, (d.ports i).Ready → Inv (d.ports i)) (hguard : guard o d) (i : ℕ)
    (hready : ((Daemon.step rtOpts o d).ports i).Ready) :
    Inv ((Daemon.step rtOpts o d).ports i) := by
  cases hphase : d.phase with
  | link j =>
    obtain ⟨phase, heq, -⟩ := Daemon.step_link rtOpts o hphase
    rw [heq] at hready ⊢
    exact store hd (h.link hphase hguard (hd j)) i hready
  | decide j =>
    -- Only initialized ports decide.
    have hdeciding := hprepared.deciding j (.inl hphase)
    rw [Daemon.step_decide rtOpts o hphase] at hready ⊢
    exact store hd (fun _ => h.decide hphase hguard hdeciding (hd j hdeciding)) i hready
  | act j =>
    have hacting := hprepared.deciding j (.inr hphase)
    rw [Daemon.step_act rtOpts o hphase] at hready ⊢
    exact store hd (fun _ => h.act hphase hguard hacting (hd j hacting)) i hready
  | shared =>
    obtain ⟨tics, extsrcLocked, heq⟩ := Daemon.step_shared rtOpts o hphase
    rw [heq] at hready ⊢
    dsimp only at hready ⊢
    rw [sharedPortsLoop_port d.ports tics extsrcLocked d.clk i] at hready ⊢
    exact h.search _ (hd i hready)

/-- An invariant of one port holds of every initialized port in every guarded run. -/
theorem holds (h : PortInvariant rtOpts guard Inv)
    (hrun : GuardedRun (Daemon.Initial rtOpts) (Daemon.step rtOpts) guard d) (i : ℕ)
    (hready : (d.ports i).Ready) : Inv (d.ports i) := by
  refine GuardedRun.invariant_of (P := fun d => ∀ i, (d.ports i).Ready → Inv (d.ports i)) hrun
    (fun _ hrun => Daemon.Reachable.prepared hrun.reachable) (fun d hstart i hready => ?_)
    (fun o _ hprepared hd hguard => h.step hprepared o hd hguard) i hready
  -- No port is initialized at the start.
  obtain ⟨-, macs, extsrcLocked, tics, clk, rfl⟩ := hstart
  exact absurd (show (0 : UInt8) = 2 from hready) (by decide)

end PortInvariant

end WhiteRabbitPtp
