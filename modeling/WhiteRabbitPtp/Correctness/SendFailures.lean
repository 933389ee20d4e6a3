import WhiteRabbitPtp.Correctness.Effects
import WhiteRabbitPtp.Model.MainLoop

/-!
# Failed transmissions

A port that issues a message hands it to the network, which reports the number of octets sent or, by
a number that is not positive, that nothing was sent. All nine functions that issue messages compare
the report with zero: a negative one counts as success.

## Main definitions

* `Issue.counter?`: the counter of the messages of one kind.
* `Issue.TellsFailure`: the outcomes that a failure and a success should have.

## Main results

* `tellsFailure_iff`: a failure is told from a success unless the report is negative.
* `tellsFailure_fails`: a transmission with an error number is counted.
-/

namespace WhiteRabbitPtp

open Octets

namespace Issue

/-- The counter of a port for the messages of one kind; most responses have none of their own. -/
def counter? (port : PtpPortDS) : Issue → Option UInt16
  | announce => some port.sentAnnounceSequenceId
  | sync => some port.sentSyncSequenceId
  | delayReq => some port.sentDelayReqSequenceId
  | pdelayReq => some port.sentPDelayReqSequenceId
  | followup | delayResp _ | pdelayResp _ | pdelayRespFollowUp _ | wrSignaling _ => none

/-- A failure makes the port faulty and is not counted; a success is counted and leaves the port as
it is. -/
def TellsFailure (rtOpts : RunTimeOpts) (n : Node) (message : Issue) : Prop :=
  let n' := message.run rtOpts n
  let result : SendResult := n.answer .sendto
  if result.ret ≤ 0 then
    n'.port.portState = .faulty ∧ message.counter? n'.port = message.counter? n.port
  else
    n'.port.portState = n.port.portState ∧
      message.counter? n'.port = (message.counter? n.port).map (· + 1)

end Issue

/-! ### Sending -/

section Sending

variable {rtOpts : RunTimeOpts} {n : Node} (message : Issue)

/-- Leaving a state changes timers and White Rabbit data of the port only. -/
theorem leaveState_port (rtOpts : RunTimeOpts) (n : Node) : (leaveState rtOpts n).port =
    { n.port with
      timers := (leaveState rtOpts n).port.timers
      wr := (leaveState rtOpts n).port.wr } := by
  unfold leaveState
  split
  case h_2 => cases rtOpts.E2E_mode <;> rfl
  all_goals rfl

/-- Leaving a state keeps the counters of the messages. -/
theorem leaveState_counter? (rtOpts : RunTimeOpts) (n : Node) :
    message.counter? (leaveState rtOpts n).port = message.counter? n.port := by
  rw [leaveState_port]
  cases message <;> rfl

/-- What becomes of a port that sends a message, of which `record` and `sent` touch neither state.
-/
theorem issueMsg_outcome {buf : Buffer} {length : ℕ} {record : SendResult → PtpPortDS → PtpPortDS}
    {sent : PtpPortDS → PtpPortDS} (hidle : n.port.wr.wrPortState = .idle)
    (hrecord : ∀ r port, (record r port).wr = port.wr ∧ (record r port).portState = port.portState ∧
      message.counter? (record r port) = message.counter? port)
    (hsent : ∀ port, (sent port).portState = port.portState ∧
      message.counter? (sent port) = (message.counter? port).map (· + 1)) :
    let n' := issueMsg rtOpts buf length record sent n
    let result : SendResult := n.answer .sendto
    if result.ret = 0 then
      n'.port.portState = .faulty ∧ message.counter? n'.port = message.counter? n.port
    else
      n'.port.portState = n.port.portState ∧
        message.counter? n'.port = (message.counter? n.port).map (· + 1) := by
  -- Packing touches the output buffer alone.
  have hbuf : message.counter? { n.port with msgObuf := buf } = message.counter? n.port := by
    cases message <;> rfl
  let result : SendResult := n.answer .sendto
  let recorded : Node :=
    let n := ({ n with port.msgObuf := buf } : Node).sendto length
    { n with port := record result n.port }
  obtain ⟨hwr, hstate, hcounter⟩ := hrecord result { n.port with msgObuf := buf }
  have hissue : issueMsg rtOpts buf length record sent n =
      if result.ret = 0 then toFaulty rtOpts recorded
      else { recorded with port := sent recorded.port } := rfl
  dsimp only
  rw [hissue]
  show if result.ret = 0 then _ else _
  split
  · have hidle' : recorded.port.wr.wrPortState = .idle := by
      show (record result { n.port with msgObuf := buf }).wr.wrPortState = .idle
      rw [hwr]
      exact hidle
    unfold toFaulty
    rw [if_neg (not_not.mpr hidle')]
    refine ⟨rfl, ?_⟩
    have hset (m : Node) : message.counter? { m.port with portState := .faulty } =
        message.counter? m.port := by
      cases message <;> rfl
    rw [hset, leaveState_counter?]
    exact hcounter.trans hbuf
  · obtain ⟨hstate', hcounter'⟩ := hsent recorded.port
    exact ⟨hstate'.trans hstate, hcounter'.trans (congrArg _ (hcounter.trans hbuf))⟩

/-- What becomes of a port that issues a message. -/
theorem Issue.run_outcome (rtOpts : RunTimeOpts) (hidle : n.port.wr.wrPortState = .idle) :
    let n' := message.run rtOpts n
    let result : SendResult := n.answer .sendto
    if result.ret = 0 then
      n'.port.portState = .faulty ∧ message.counter? n'.port = message.counter? n.port
    else
      n'.port.portState = n.port.portState ∧
        message.counter? n'.port = (message.counter? n.port).map (· + 1) := by
  cases message <;>
    exact issueMsg_outcome _ hidle (fun _ _ => ⟨rfl, rfl, rfl⟩) (fun _ => ⟨rfl, rfl⟩)

end Sending

/-- A number is not its own successor modulo `2 ^ 16`. -/
theorem map_succ_eq_self_iff (counter? : Option UInt16) :
    counter?.map (· + 1) = counter? ↔ counter? = none := by
  cases counter? with
  | none => simp
  | some counter => simp

/-- A failure is told from a success unless the network reports it by a negative number. Nothing is
seen of that in a faulty port, except for the messages it counts. -/
theorem tellsFailure_iff (rtOpts : RunTimeOpts) (n : Node) (message : Issue)
    (hidle : n.port.wr.wrPortState = .idle) :
    message.TellsFailure rtOpts n ↔
      0 ≤ (show SendResult from n.answer .sendto).ret ∨
        n.port.portState = .faulty ∧ message.counter? n.port = none := by
  have houtcome := message.run_outcome rtOpts hidle
  unfold Issue.TellsFailure
  dsimp only at houtcome ⊢
  rcases lt_trichotomy (show SendResult from n.answer .sendto).ret 0 with hret | hret | hret
  · -- The message is counted, which shows unless it is not one that is counted.
    rw [if_neg hret.ne] at houtcome
    rw [if_pos hret.le, houtcome.1, houtcome.2, map_succ_eq_self_iff]
    exact (or_iff_right (not_le.mpr hret)).symm
  · rw [if_pos hret] at houtcome
    rw [if_pos hret.le]
    exact iff_of_true houtcome (.inl hret.ge)
  · rw [if_neg hret.ne'] at houtcome
    rw [if_neg (not_le.mpr hret)]
    exact iff_of_true houtcome (.inl hret.le)

/-- A listening port whose network reports the given number. -/
def sendingNode (ret : ℤ) : Node :=
  let n := Daemon.singleNode ![2, 0, 0, 0, 0, 1] .wrMaster
  { n with netif.oracle := Oracle.ready true .wrMaster .nothing ret 0 }

/-- A transmission of no octets is a failure, and seen as one. -/
theorem tellsFailure_sendingNode :
    (Issue.delayReq).TellsFailure (defaultRtOpts 1) (sendingNode 0) :=
  (tellsFailure_iff _ _ _ (by decide +kernel)).mpr (.inl (by decide +kernel))

/-- A transmission that fails with an error number is counted. -/
theorem tellsFailure_fails :
    ¬∀ (rtOpts : RunTimeOpts) (n : Node) (message : Issue), n.port.wr.wrPortState = .idle →
      message.TellsFailure rtOpts n := by
  intro h
  have htells := h (defaultRtOpts 1) (sendingNode (-1)) .announce (by decide +kernel)
  have hfaulty : ((Issue.announce).run (defaultRtOpts 1) (sendingNode (-1))).port.portState =
      .faulty := htells.1
  exact absurd hfaulty (by decide +kernel)

end WhiteRabbitPtp
