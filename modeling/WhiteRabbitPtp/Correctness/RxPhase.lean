import WhiteRabbitPtp.Lib.Trace
import WhiteRabbitPtp.Model.RxSocket

/-!
# The phase that receive timestamps are made with

A socket makes the time stamps of the hardware into timestamps with the phase that it was told last.
The phase is never older than the interval of its timer, and a timestamp passes for a correct one
exactly when the hardware abstraction layer vouched for the phase.

## Main definitions

* `AsksPhase`: a call in which the socket asks the hardware abstraction layer for the phase.
* `Measured`: what the socket knows stems from the calls before.
* `FreshlyMade`: a timestamp that is made with the phase that was told last.

## Main result

* `rxTimestamp_fresh`: the timestamp of a frame, in every run of a socket.
-/

namespace WhiteRabbitPtp

open InputSystem

/-! ### Calls that ask for the phase -/

/-- The time stamp that comes with the frame of a call. -/
def RecvCall.hwtimeraw (c : RecvCall) : Option Timespec :=
  match c.recvmsg with
  | .frame _ _ hwtimeraw => hwtimeraw
  | .failed | .nothing => none

/-- The socket after a call. -/
def recvStep (c : RecvCall) (s : Linux.MySocket) : Linux.MySocket := (Linux.ptpdNetifRecvfrom c s).2

/-- The socket is asked for the timestamp of a frame when its timer has expired, so it asks the
hardware abstraction layer for the phase. -/
def AsksPhase (m : RecvCall × Linux.MySocket) : Prop :=
  m.1.hwtimeraw ≠ none ∧ m.2.dmtdUpdateTmo.expired m.1.polled = true

instance : DecidablePred AsksPhase := fun m => by
  unfold AsksPhase
  infer_instance

/-- A socket that asks notes the answer, and starts its timer again. -/
theorem recvStep_of_asks {c : RecvCall} {s : Linux.MySocket} (h : AsksPhase (c, s)) :
    recvStep c s = { s with
      dmtdPhase := c.pstate.phaseVal
      dmtdPhaseValid := c.pstate.phaseValValid
      dmtdUpdateTmo := s.dmtdUpdateTmo.restart c.restarted } := by
  obtain ⟨hstamped, hexpired⟩ := h
  unfold RecvCall.hwtimeraw at hstamped
  unfold recvStep Linux.ptpdNetifRecvfrom
  split at hstamped
  next hrecvmsg =>
    rw [hrecvmsg]
    cases hts : ‹Option Timespec› with
    | none => exact absurd hts hstamped
    | some hwtimeraw => exact if_pos hexpired
  all_goals exact absurd rfl hstamped

/-- Every other call leaves the socket alone. -/
theorem recvStep_of_not_asks {c : RecvCall} {s : Linux.MySocket} (h : ¬AsksPhase (c, s)) :
    recvStep c s = s := by
  unfold recvStep Linux.ptpdNetifRecvfrom
  split
  next => rfl
  next => rfl
  next => rfl
  next hrecvmsg =>
    refine if_neg fun hexpired => h ⟨?_, hexpired⟩
    unfold RecvCall.hwtimeraw
    rw [hrecvmsg]
    simp

/-! ### Runs of a socket -/

section Runs

variable {pstate : HexpPortState} {tics : UInt64} {steps : List (RecvCall × Linux.MySocket)}
  {s : Linux.MySocket}

/-- A reading of the clock is the one at which the socket was told a phase for the last time, or
else the one at its creation. -/
inductive Since (tics : UInt64) (steps : List (RecvCall × Linux.MySocket)) : UInt64 → Prop
  | created : (∀ m ∈ steps, ¬AsksPhase m) → Since tics steps tics
  | told {before : List (RecvCall × Linux.MySocket)} {m : RecvCall × Linux.MySocket} :
      Last AsksPhase before m steps → Since tics steps m.1.restarted

theorem Since.concat {reading : UInt64} {m : RecvCall × Linux.MySocket}
    (h : Since tics steps reading) (hm : ¬AsksPhase m) : Since tics (steps ++ [m]) reading := by
  cases h with
  | created hnone =>
    refine .created fun m' hm' => ?_
    rcases List.mem_append.mp hm' with hm' | hm'
    · exact hnone m' hm'
    · rwa [List.mem_singleton.mp hm']
  | told hlast => exact .told (hlast.concat hm)

/-- What a socket knows stems from the last call in which it asked. -/
structure Measured (pstate : HexpPortState) (tics : UInt64)
    (steps : List (RecvCall × Linux.MySocket)) (s : Linux.MySocket) : Prop where
  clockPeriod : s.clockPeriod = pstate.clockPeriod
  phaseTransition : s.phaseTransition = pstate.t2PhaseTransition
  timeout : s.dmtdUpdateTmo.timeout = 500 * 1000
  since : Since tics steps s.dmtdUpdateTmo.startTics
  valid : s.dmtdPhaseValid ≠ 0 →
    ∃ before m, Last AsksPhase before m steps ∧ m.1.pstate.phaseValValid ≠ 0
  told : ∀ before m, Last AsksPhase before m steps → s.dmtdPhase = m.1.pstate.phaseVal ∧
    s.dmtdPhaseValid = m.1.pstate.phaseValValid ∧ s.dmtdUpdateTmo.startTics = m.1.restarted

/-- A call in which the socket asks, or any other call. -/
theorem Measured.step (h : Measured pstate tics steps s) (c : RecvCall) :
    Measured pstate tics (steps ++ [(c, s)]) (recvStep c s) := by
  by_cases hasks : AsksPhase (c, s)
  · have hself : Last AsksPhase steps (c, s) (steps ++ [(c, s)]) := .self hasks
    rw [recvStep_of_asks hasks]
    refine ⟨h.clockPeriod, h.phaseTransition, h.timeout, .told hself, fun hvalid => ?_,
      fun before m hlast => ?_⟩
    · exact ⟨steps, (c, s), hself, hvalid⟩
    · rcases hlast.of_concat with ⟨-, -, rfl⟩ | ⟨hnot, -⟩
      · exact ⟨rfl, rfl, rfl⟩
      · exact absurd hasks hnot
  · rw [recvStep_of_not_asks hasks]
    refine ⟨h.clockPeriod, h.phaseTransition, h.timeout, ?_, fun hvalid => ?_,
      fun before m hlast => ?_⟩
    · exact h.since.concat hasks
    · obtain ⟨before, m, hlast, hm⟩ := h.valid hvalid
      exact ⟨before, m, hlast.concat hasks, hm⟩
    · rcases hlast.of_concat with ⟨h', -⟩ | ⟨-, hbefore⟩
      · exact absurd h' hasks
      · exact h.told before m hbefore

/-- The steps of the run of a socket from its creation. -/
abbrev socketTrace (pstate : HexpPortState) (tics : UInt64) (calls : List RecvCall) :
    List (RecvCall × Linux.MySocket) :=
  trace recvStep (Linux.ptpdNetifCreateSocket pstate tics) calls

/-- The socket after this run. -/
abbrev socketAfter (pstate : HexpPortState) (tics : UInt64) (calls : List RecvCall) :
    Linux.MySocket :=
  runInputs recvStep (Linux.ptpdNetifCreateSocket pstate tics) calls

/-- In every run a socket knows what it was told last. -/
theorem measured_socketAfter (pstate : HexpPortState) (tics : UInt64) (calls : List RecvCall) :
    Measured pstate tics (socketTrace pstate tics calls) (socketAfter pstate tics calls) := by
  refine trace_invariant ?_ (fun steps s c h => h.step c) calls
  refine ⟨rfl, rfl, rfl, .created (by simp), (fun hvalid => absurd rfl hvalid), ?_⟩
  intro before m h
  obtain ⟨-, after, heq, -⟩ := h
  simp at heq

/-- The timestamp of a frame that the socket makes with a phase. -/
def RecvCall.linearized (c : RecvCall) (hwtimeraw : Timespec) (pstate : HexpPortState)
    (phaseVal : UInt32) : WrTimestamp :=
  recvTimestamp c.rxTimestamp hwtimeraw.tvSec hwtimeraw.tvNsec true phaseVal.toInt32.toInt
    pstate.t2PhaseTransition.toInt32.toInt pstate.clockPeriod.toInt32.toInt

theorem recvTimestamp_correct (former : WrTimestamp) (tvSec tvNsec : ℤ) (dmtdPhaseValid : Bool)
    (dmtdPhase phaseTransition clockPeriod : ℤ) :
    (recvTimestamp former tvSec tvNsec dmtdPhaseValid dmtdPhase phaseTransition
      clockPeriod).correct ≠ 0 ↔ dmtdPhaseValid = true := by
  cases dmtdPhaseValid <;> simp [recvTimestamp]

/-- A socket that receives a frame with a time stamp makes a timestamp with what it knows then. -/
theorem recvfrom_frame {c : RecvCall} {macDest : MacAddr} {data : List UInt8} {hwtimeraw : Timespec}
    (hframe : c.recvmsg = .frame macDest data (some hwtimeraw)) (s : Linux.MySocket) :
    (Linux.ptpdNetifRecvfrom c s).1 = .frame macDest data
      (recvTimestamp c.rxTimestamp hwtimeraw.tvSec hwtimeraw.tvNsec
        (decide ((recvStep c s).dmtdPhaseValid ≠ 0)) (recvStep c s).dmtdPhase.toInt32.toInt
        (recvStep c s).phaseTransition.toInt32.toInt (recvStep c s).clockPeriod.toInt32.toInt) := by
  unfold recvStep Linux.ptpdNetifRecvfrom
  rw [hframe]

/-- The phase in use is the one that was told last, less than the interval of the timer ago. -/
theorem Measured.fresh (h : Measured pstate tics steps s) {c : RecvCall}
    (hstamped : c.hwtimeraw ≠ none) {before : List (RecvCall × Linux.MySocket)}
    {m : RecvCall × Linux.MySocket}
    (hlast : Last AsksPhase before m (steps ++ [(c, s)])) :
    m = (c, s) ∨ c.polled - m.1.restarted ≤ 500 * 1000 := by
  rcases hlast.of_concat with ⟨-, -, heq⟩ | ⟨hnot, hbefore⟩
  · exact .inl heq
  · right
    rw [← (h.told before m hbefore).2.2, ← h.timeout]
    refine UInt64.not_lt.mp fun hexpired => hnot ⟨hstamped, ?_⟩
    simpa [Timeout.expired] using hexpired

/-- A timestamp is made with the phase that the socket was told last, no longer ago than the
interval of its timer. -/
def FreshlyMade (pstate : HexpPortState) (tics : UInt64) (calls : List RecvCall) (c : RecvCall)
    (hwtimeraw : Timespec) (rxTs : WrTimestamp) : Prop :=
  ∃ before m, Last AsksPhase before m (socketTrace pstate tics (calls ++ [c])) ∧
    m.1.pstate.phaseValValid ≠ 0 ∧ rxTs = c.linearized hwtimeraw pstate m.1.pstate.phaseVal ∧
      (m = (c, socketAfter pstate tics calls) ∨ c.polled - m.1.restarted ≤ 500 * 1000)

/-- In every run the socket knows what it is told in a call. -/
theorem measured_recvStep (pstate : HexpPortState) (tics : UInt64) (calls : List RecvCall)
    (c : RecvCall) : Measured pstate tics (socketTrace pstate tics (calls ++ [c]))
      (recvStep c (socketAfter pstate tics calls)) := by
  have h := measured_socketAfter pstate tics (calls ++ [c])
  rwa [socketAfter, run_append] at h

/-- A correct timestamp is made from a time stamp of the hardware, with a fresh phase. -/
theorem freshlyMade_of_correct (pstate : HexpPortState) (tics : UInt64) (calls : List RecvCall)
    (c : RecvCall) {macDest : MacAddr} {data : List UInt8} {rxTs : WrTimestamp}
    (hrecv : (Linux.ptpdNetifRecvfrom c (socketAfter pstate tics calls)).1 =
      .frame macDest data rxTs)
    (hcorrect : rxTs.correct ≠ 0) :
    ∃ hwtimeraw, c.hwtimeraw = some hwtimeraw ∧ FreshlyMade pstate tics calls c hwtimeraw rxTs := by
  have hnext := measured_recvStep pstate tics calls c
  cases hframe : c.recvmsg with
  | failed | nothing =>
    unfold Linux.ptpdNetifRecvfrom at hrecv
    rw [hframe] at hrecv
    cases hrecv
  | frame macDest' data' hwtimeraw =>
    cases hwtimeraw with
    | none =>
      -- A frame without a time stamp has no correct timestamp.
      unfold Linux.ptpdNetifRecvfrom at hrecv
      rw [hframe] at hrecv
      obtain ⟨-, -, rfl⟩ := Reception.frame.inj hrecv
      exact absurd rfl hcorrect
    | some hwtimeraw =>
      have hstamped : c.hwtimeraw = some hwtimeraw := by
        unfold RecvCall.hwtimeraw
        rw [hframe]
      rw [recvfrom_frame hframe] at hrecv
      obtain ⟨-, -, rfl⟩ := Reception.frame.inj hrecv
      rw [recvTimestamp_correct] at hcorrect
      obtain ⟨before, m, hlast, hm⟩ := hnext.valid (of_decide_eq_true hcorrect)
      refine ⟨hwtimeraw, hstamped, before, m, hlast, hm, ?_, ?_⟩
      · unfold RecvCall.linearized
        rw [hcorrect, (hnext.told before m hlast).1, hnext.phaseTransition, hnext.clockPeriod]
      · rw [socketTrace, trace_concat] at hlast
        exact (measured_socketAfter pstate tics calls).fresh (by rw [hstamped]; simp) hlast

/-- Whatever happened before, a socket that receives a frame with a time stamp asks for the phase
when half a second has passed since it did so last. The timestamp passes for a correct one exactly
when the last answer was valid, and is then made with the phase of this answer, which is not older
than that. -/
theorem rxTimestamp_fresh (pstate : HexpPortState) (tics : UInt64) (calls : List RecvCall)
    (c : RecvCall) {macDest : MacAddr} {data : List UInt8} {hwtimeraw : Timespec}
    (hframe : c.recvmsg = .frame macDest data (some hwtimeraw)) :
    let s := socketAfter pstate tics calls
    (∃ reading, Since tics (socketTrace pstate tics calls) reading ∧
      (AsksPhase (c, s) ↔ 500 * 1000 < c.polled - reading)) ∧
    ∃ rxTs, (Linux.ptpdNetifRecvfrom c s).1 = .frame macDest data rxTs ∧
      (rxTs.correct ≠ 0 ↔ ∃ before m,
        Last AsksPhase before m (socketTrace pstate tics (calls ++ [c])) ∧
          m.1.pstate.phaseValValid ≠ 0) ∧
      (rxTs.correct ≠ 0 → FreshlyMade pstate tics calls c hwtimeraw rxTs) := by
  intro s
  have hmeasured : Measured pstate tics (socketTrace pstate tics calls) s := measured_socketAfter ..
  have hnext := measured_recvStep pstate tics calls c
  have hstamped : c.hwtimeraw = some hwtimeraw := by
    unfold RecvCall.hwtimeraw
    rw [hframe]
  refine ⟨⟨_, hmeasured.since, ?_⟩, _, recvfrom_frame hframe s, ?_, fun hcorrect => ?_⟩
  -- The timeout is half a second in the microseconds that `get_tics` counts.
  · unfold AsksPhase Timeout.expired
    rw [hmeasured.timeout]
    simp [hstamped]
  · rw [recvTimestamp_correct, decide_eq_true_iff]
    refine ⟨hnext.valid, ?_⟩
    rintro ⟨before, m, hlast, hm⟩
    rwa [(hnext.told before m hlast).2.1]
  · obtain ⟨hwtimeraw', hstamped', hfresh⟩ := freshlyMade_of_correct pstate tics calls c
      (recvfrom_frame hframe s) hcorrect
    obtain rfl := Option.some.inj (hstamped.symm.trans hstamped')
    exact hfresh

end Runs

/-- A frame with a time stamp, at a time of day, when the phase is valid. -/
def stampedCall (tics : UInt64) : RecvCall :=
  { rxTimestamp := ⟨0, 0, 0, 0⟩
    recvmsg := .frame (fun _ => 0) [] (some ⟨7, 96⟩)
    polled := tics
    pstate := ⟨3999, 1, 8000, 4000⟩
    restarted := tics + 1 }

/-- The socket asks in the second call and uses the answer in the third one. -/
theorem rxTimestamp_fresh_stampedCall :
    let calls := [stampedCall 400000, stampedCall 600000]
    let pstate : HexpPortState := ⟨3999, 1, 8000, 4000⟩
    let s := socketAfter pstate 0 calls
    (∃ reading, Since 0 (socketTrace pstate 0 calls) reading ∧
      (AsksPhase (stampedCall 900000, s) ↔ 500 * 1000 < 900000 - reading)) ∧
    ∃ rxTs, (Linux.ptpdNetifRecvfrom (stampedCall 900000) s).1 = .frame (fun _ => 0) [] rxTs ∧
      (rxTs.correct ≠ 0 ↔ ∃ before m,
        Last AsksPhase before m (socketTrace pstate 0 (calls ++ [stampedCall 900000])) ∧
          m.1.pstate.phaseValValid ≠ 0) ∧
      (rxTs.correct ≠ 0 → FreshlyMade pstate 0 calls (stampedCall 900000) ⟨7, 96⟩ rxTs) :=
  rxTimestamp_fresh _ _ _ _ rfl

end WhiteRabbitPtp
