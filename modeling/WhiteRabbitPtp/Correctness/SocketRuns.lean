import WhiteRabbitPtp.Correctness.SyncPairs
import WhiteRabbitPtp.Correctness.RxPhase

/-!
# The daemon and its sockets

The daemon receives what its sockets give it. A run of both is a run of the daemon and of each
socket, so what holds of every run of one of them holds here: the time at which the servo of a port
takes a Sync to have arrived was made with a phase that was measured shortly before.

## Main definitions

* `Ptpd`: the daemon together with the sockets of its ports.
* `Ptpd.call`: the call of a socket in a step.
* `Ptpd.FittingRun`: no frame is longer than the input buffer.

## Main results

* `Ptpd.trace_daemon`, `Ptpd.run_socket`: a run is one of the daemon, and of each socket.
* `syncTime_fresh`: where the time of a Sync comes from.
-/

namespace WhiteRabbitPtp

open InputSystem

/-! ### Steps -/

/-- The environment of a port that receives something. -/
def Oracle.receiving (o : Oracle) (reception : Reception) : Oracle :=
  { o with answers := fun
      | .recvfrom, _ => reception
      | c, k => o.answers c k }

/-- The daemon and the sockets of its ports. -/
structure Ptpd where
  daemon : Daemon
  sockets : ℕ → Linux.MySocket

namespace Ptpd

/-- The environment of a step as the daemon sees it: a port that acts receives from its socket,
whose answers are given apart. -/
def oracle (m : Oracle × RecvCall) (p : Ptpd) : Oracle :=
  match p.daemon.phase with
  | .act i => m.1.receiving (Linux.ptpdNetifRecvfrom m.2 (p.sockets i)).1
  | _ => m.1

/-- Whether the step of a port looks for a frame. -/
def receives (rtOpts : RunTimeOpts) (i : ℕ) (m : Oracle × RecvCall) (p : Ptpd) : Bool :=
  let n := p.daemon.node i (p.oracle m)
  p.daemon.phase = .act i ∧
    (doStateActions rtOpts n).netif.oracle.used .recvfrom ≠ n.netif.oracle.used .recvfrom

/-- One step of the daemon, with a call of the socket of a port that looks for a frame. -/
def step (rtOpts : RunTimeOpts) (m : Oracle × RecvCall) (p : Ptpd) : Ptpd :=
  { daemon := Daemon.step rtOpts (p.oracle m) p.daemon
    sockets := fun i => if p.receives rtOpts i m then recvStep m.2 (p.sockets i) else p.sockets i }

/-- The call of the socket of a port in a step. -/
def call (rtOpts : RunTimeOpts) (i : ℕ) (m : Oracle × RecvCall) (p : Ptpd) : Option RecvCall :=
  if p.receives rtOpts i m then some m.2 else none

/-- A step as the daemon sees it. -/
def view (m : (Oracle × RecvCall) × Ptpd) : Oracle × Daemon := (m.2.oracle m.1, m.2.daemon)

variable (rtOpts : RunTimeOpts) (p : Ptpd) (inputs : List (Oracle × RecvCall))

/-- A run of the daemon with its sockets is a run of the daemon. -/
theorem run_daemon :
    (runInputs (step rtOpts) p inputs).daemon = runInputs (Daemon.step rtOpts) p.daemon
      (inputsOf (fun m p => some (p.oracle m)) (trace (step rtOpts) p inputs)) :=
  run_component Ptpd.daemon (fun _ _ => rfl) p inputs

/-- Its steps are those of the daemon. -/
theorem trace_daemon :
    (trace (step rtOpts) p inputs).map view = p.daemon.trace rtOpts
      (inputsOf (fun m p => some (p.oracle m)) (trace (step rtOpts) p inputs)) :=
  trace_component Ptpd.daemon (fun _ _ => rfl) p inputs

/-- A run of the daemon with its sockets is a run of each socket. -/
theorem run_socket (i : ℕ) :
    (runInputs (step rtOpts) p inputs).sockets i = runInputs recvStep (p.sockets i)
      (inputsOf (call rtOpts i) (trace (step rtOpts) p inputs)) := by
  refine run_component (fun p => p.sockets i) (fun m p => ?_) p inputs
  unfold step call
  dsimp only
  split <;> rfl

variable {p}

/-- A port that acts receives what its socket gives. -/
theorem answer_recvfrom {i : ℕ} {m : Oracle × RecvCall} (h : p.daemon.phase = .act i) :
    (((p.daemon.node i (p.oracle m)).answer .recvfrom : Reception)) =
      (Linux.ptpdNetifRecvfrom m.2 (p.sockets i)).1 := by
  unfold oracle
  rw [h]
  rfl

end Ptpd

/-- A run of the daemon with its sockets in which no frame is longer than the input buffer of its
port, as in `Daemon.FittingRun`. -/
structure Ptpd.FittingRun (rtOpts : RunTimeOpts) (p : Ptpd) (inputs : List (Oracle × RecvCall)) :
    Prop where
  initial : Daemon.Initial rtOpts p.daemon
  framesFit : EveryStep (Ptpd.step rtOpts)
    (fun m p => Daemon.FramesFit (p.oracle m) p.daemon) p inputs

/-! ### The time of a Sync -/

/-- A Sync that is heard was received as a frame. -/
theorem currentRxTs_of_hearsSync {n : Node} (h : HearsSync n) :
    ∃ macDest data, (n.answer .recvfrom : Reception) =
      .frame macDest data (received n).port.currentRxTs := by
  have hlength := h.length
  unfold received netRecvMsg at *
  generalize (n.answer .recvfrom : Reception) = reception at hlength ⊢
  cases reception with
  | failed | nothing =>
    dsimp only at hlength
    exact absurd hlength (by decide)
  | frame macDest data rxTs =>
    refine ⟨macDest, data, ?_⟩
    dsimp only
    split <;> rfl

/-- In every run of the daemon with its sockets whose frames fit, a time of arrival that the servo
of a port takes for a correct one was measured by the hardware when a Sync came from the parent. It
was made with a phase that the hardware abstraction layer had found valid no longer than half a
second before (`FreshlyMade`). -/
theorem syncTime_fresh {rtOpts : RunTimeOpts} {p : Ptpd} {pstate : HexpPortState} {tics : UInt64}
    {inputs : List (Oracle × RecvCall)} (hruns : p.FittingRun rtOpts inputs) (i : ℕ)
    (hsocket : p.sockets i = Linux.ptpdNetifCreateSocket pstate tics) :
    let servo := ((runInputs (Ptpd.step rtOpts) p inputs).daemon.ports i).servo
    servo.t1.correct ≠ 0 → servo.t2.correct ≠ 0 →
      ∃ earlier sync after, trace (Ptpd.step rtOpts) p inputs = earlier ++ sync :: after ∧
        SyncHeard i (Ptpd.view sync) ∧
          ∃ hwtimeraw rxTs, sync.1.2.hwtimeraw = some hwtimeraw ∧
            FreshlyMade pstate tics (inputsOf (Ptpd.call rtOpts i) earlier) sync.1.2 hwtimeraw
                rxTs ∧
              servo.t2 = { rxTs with sec := i32 rxTs.sec } := by
  intro servo htold hcorrect
  have hrun := Ptpd.run_daemon rtOpts p inputs
  have htrace := Ptpd.trace_daemon rtOpts p inputs
  generalize inputsOf (fun m p => some (p.oracle m)) (trace (Ptpd.step rtOpts) p inputs) = os
    at hrun htrace
  have hdocumented := Daemon.documented hruns.initial os i
  rw [← hrun, ← htrace] at hdocumented
  -- The Sync that the time stems from is a step of the run.
  obtain ⟨before, followUp, ⟨-, afterFollowUp, hsplit, -⟩, before', sync',
    ⟨hheard, between, rfl, -⟩, hpaired⟩ := hdocumented.told htold
  rw [List.append_assoc, List.cons_append] at hsplit
  obtain ⟨earlier, rest, hsteps, rfl, hrest⟩ := List.map_eq_append_iff.mp hsplit
  obtain ⟨sync, after, rfl, rfl, -⟩ := List.map_eq_cons_iff.mp hrest
  refine ⟨earlier, sync, after, hsteps, hheard, ?_⟩
  -- What the port received then is what its socket gave after the calls before.
  obtain ⟨inputs', rfl, hsync⟩ := exists_of_trace_eq hsteps
  obtain ⟨macDest, data, hanswer⟩ := currentRxTs_of_hearsSync hheard.2
  have hsocket' : sync.2.sockets i = socketAfter pstate tics
      (inputsOf (Ptpd.call rtOpts i) (trace (Ptpd.step rtOpts) p inputs')) := by
    rw [hsync, Ptpd.run_socket, hsocket]
  have hrecv : (Linux.ptpdNetifRecvfrom sync.1.2 (sync.2.sockets i)).1 =
      .frame macDest data (receiver i (Ptpd.view sync)).port.currentRxTs := by
    rw [← Ptpd.answer_recvfrom hheard.1]
    exact hanswer
  rw [hsocket'] at hrecv
  have ht2 : servo.t2 = _ := hpaired.t2
  rw [ht2] at hcorrect
  obtain ⟨hwtimeraw, hstamped, hfresh⟩ :=
    freshlyMade_of_correct pstate tics _ sync.1.2 hrecv hcorrect
  exact ⟨hwtimeraw, _, hstamped, hfresh, ht2⟩

/-- An iteration of a slave whose socket finds a frame, a second after the socket was created. -/
def socketIteration (frame : Option (List UInt8)) : List (Oracle × RecvCall) :=
  let recvmsg : Recvmsg :=
    match frame with
    | some data => .frame ![0x01, 0x1b, 0x19, 0, 0, 0] data (some ⟨7, 96⟩)
    | none => .nothing
  (slaveIteration none).map fun o =>
    (o, { stampedCall 1000000 with recvmsg := recvmsg })

/-- A slave with its sockets runs a link set-up, then it hears a Sync and its FollowUp. -/
def socketRun : List (Oracle × RecvCall) :=
  [some masterAnnounce, none, some (masterFrame LOCK), none, some (masterFrame CALIBRATE),
    some (masterFrame CALIBRATED), none, some (masterFrame WR_MODE_ON), none, none, none,
    some masterSync, none, some masterFollowUp].flatMap socketIteration

/-- Its clock, with sockets that know no phase. -/
def socketStart : Ptpd :=
  { daemon := .single ![2, 0, 0, 0, 0, 1]
    sockets := fun _ => Linux.ptpdNetifCreateSocket ⟨3999, 1, 8000, 4000⟩ 0 }

set_option maxRecDepth 100000 in
/-- The servo of this slave has a correct time. -/
theorem syncTime_fresh_socketRun :
    let p := runInputs (Ptpd.step (defaultRtOpts 1)) socketStart socketRun
    let servo := (p.daemon.ports 0).servo
    ∃ earlier sync after,
      trace (Ptpd.step (defaultRtOpts 1)) socketStart socketRun = earlier ++ sync :: after ∧
        SyncHeard 0 (Ptpd.view sync) ∧
          ∃ hwtimeraw rxTs, sync.1.2.hwtimeraw = some hwtimeraw ∧
            FreshlyMade ⟨3999, 1, 8000, 4000⟩ 0 (inputsOf (Ptpd.call (defaultRtOpts 1) 0) earlier)
              sync.1.2 hwtimeraw rxTs ∧
              servo.t2 = { rxTs with sec := i32 rxTs.sec } :=
  syncTime_fresh ⟨Daemon.single_initial _, by decide +kernel⟩ 0 rfl (by decide +kernel)
    (by decide +kernel)

end WhiteRabbitPtp
