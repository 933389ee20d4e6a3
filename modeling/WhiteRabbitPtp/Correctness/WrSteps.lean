import WhiteRabbitPtp.Correctness.Transitions
import Mathlib.Logic.Relation

/-!
# The White Rabbit state machine as a relation

What one call of `wrStateActions` does, as a relation: some moves inside the current main state, and
at most one transition at the end. Invariants of the state machine are proved for the moves and the
ends, once each.

## Main definitions

* `WrMove`: one move inside a main state.
* `WrEnters`: which main state the current state may enter, and when.
* `WrEnd`: how a call ends.

## Main results

* `wrStateActions_run`: a call of `wrStateActions` is a sequence of moves with an end.
* `wrStateActions_induction`: the induction rule that follows.
* `wrTimerExpired_cases`: the outcomes of the time-out handling.
-/

namespace WhiteRabbitPtp

open Relation

/-! ### Moves and ends -/

/-- The substate that an attempt which succeeds goes on with. -/
def WrState.successor : WrState → Option WrState
  | sLock => some sLock1
  | sLock1 => some sLock2
  | calibration => some calibration1
  | calibration1 => some calibration2
  | calibration3 => some calibration4
  | calibration4 => some calibration5
  | calibration5 => some calibration6
  | calibration7 => some calibration8
  | respCalibReq => some respCalibReq1
  | respCalibReq2 | respCalibReq3 => some respCalibReq3
  | _ => none

/-- One move of the state machine inside a main state. -/
inductive WrMove (rtOpts : RunTimeOpts) (n : Node) : Node → Prop
  /-- A call of the environment. -/
  | called (c : Call) : WrMove rtOpts n (n.called c)
  /-- The reception of a frame. -/
  | handle : WrMove rtOpts n (handle rtOpts n)
  /-- An attempt has succeeded. -/
  | advance {s : WrState} : n.port.wr.wrPortState.successor = some s →
      WrMove rtOpts n { n with port.wr.wrPortState := s }
  /-- The other port is calibrated. -/
  | respond {s : WrState} : n.port.wr.wrPortState = .respCalibReq1 →
      n.port.wr.msgTmpWrMessageID = CALIBRATED → s = .respCalibReq2 ∨ s = .respCalibReq3 →
      WrMove rtOpts n { n with port.wr.wrPortState := s }
  /-- The transmit delay is known. -/
  | deltaTx {k : ℕ} {delta : UInt64} : n.port.wr.wrPortState = .calibration2 →
      n.netif.oracle.answers (.calibratingPoll .tx) k = some delta →
      WrMove rtOpts n
        { n with port.wr.deltaTx := .ofPicos delta, port.wr.wrPortState := .calibration3 }
  /-- The receive delay is known. -/
  | deltaRx {k : ℕ} {delta : UInt64} : n.port.wr.wrPortState = .calibration6 →
      n.netif.oracle.answers (.calibratingPoll .rx) k = some delta →
      WrMove rtOpts n
        { n with port.wr.deltaRx := .ofPicos delta, port.wr.wrPortState := .calibration7 }

/-- The main states that the actions of the current state may enter. -/
inductive WrEnters (wr : WrPortDS) : WrState → Prop
  | locked : wr.wrPortState = .sLock2 → WrEnters wr .locked
  | masterCalibration : wr.wrPortState = .mLock → wr.msgTmpWrMessageID = LOCKED →
      WrEnters wr .calibration
  | slaveCalibration : wr.wrPortState = .respCalibReq3 → wr.wrMode = .wrSlave →
      WrEnters wr .calibration
  | slaveRespCalibReq : wr.wrPortState = .locked → wr.msgTmpWrMessageID = CALIBRATE →
      WrEnters wr .respCalibReq
  | masterRespCalibReq : wr.wrPortState = .calibrated → wr.msgTmpWrMessageID = CALIBRATE →
      wr.wrMode = .wrMaster → WrEnters wr .respCalibReq
  | masterWrLinkOn : wr.wrPortState = .respCalibReq3 → wr.wrMode = .wrMaster →
      WrEnters wr .wrLinkOn
  | slaveWrLinkOn : wr.wrPortState = .calibrated → wr.msgTmpWrMessageID = WR_MODE_ON →
      wr.wrMode = .wrSlave → WrEnters wr .wrLinkOn
  | idle : wr.wrPortState = .respCalibReq3 → wr.wrMode = .nonWr → WrEnters wr .idle

/-- How the actions of a state end. -/
inductive WrEnd (rtOpts : RunTimeOpts) (n : Node) : Node → Prop
  /-- The state waits for something. -/
  | stay : WrEnd rtOpts n n
  /-- The state enters another main state. -/
  | enter {s : WrState} : WrEnters n.port.wr s → WrEnd rtOpts n (toWRState s rtOpts n)
  /-- A slave that is asked to lock forgets the request. -/
  | lock : n.port.wr.wrPortState = .present → n.port.wr.msgTmpWrMessageID = LOCK →
      WrEnd rtOpts n
        { toWRState .sLock rtOpts n with port.wr.msgTmpWrMessageID := NULL_WR_TLV }
  /-- A calibrated port sends its delays. -/
  | calibrated : n.port.wr.wrPortState = .calibration8 →
      WrEnd rtOpts n (doCalibration8 rtOpts n)
  /-- The link set-up is complete. -/
  | linkOn : n.port.wr.wrPortState = .wrLinkOn → WrEnd rtOpts n (doWrLinkOn rtOpts n)

/-- Moves, and then an end. -/
def WrRun (rtOpts : RunTimeOpts) (n n' : Node) : Prop :=
  ∃ m, ReflTransGen (WrMove rtOpts) n m ∧ WrEnd rtOpts m n'

/-- One move that neither receives nor transmits anything. -/
inductive SilentMove (n : Node) : Node → Prop
  | called {c : Call} : c ≠ .sendto → SilentMove n (n.called c)
  | advance {s : WrState} : n.port.wr.wrPortState.successor = some s →
      SilentMove n { n with port.wr.wrPortState := s }
  | respond {s : WrState} : n.port.wr.wrPortState = .respCalibReq1 →
      n.port.wr.msgTmpWrMessageID = CALIBRATED → s = .respCalibReq2 ∨ s = .respCalibReq3 →
      SilentMove n { n with port.wr.wrPortState := s }
  | deltaTx {k : ℕ} {delta : UInt64} : n.port.wr.wrPortState = .calibration2 →
      n.netif.oracle.answers (.calibratingPoll .tx) k = some delta →
      SilentMove n
        { n with port.wr.deltaTx := .ofPicos delta, port.wr.wrPortState := .calibration3 }
  | deltaRx {k : ℕ} {delta : UInt64} : n.port.wr.wrPortState = .calibration6 →
      n.netif.oracle.answers (.calibratingPoll .rx) k = some delta →
      SilentMove n
        { n with port.wr.deltaRx := .ofPicos delta, port.wr.wrPortState := .calibration7 }

/-- Silent moves, and then an end. -/
def SilentRun (rtOpts : RunTimeOpts) (n n' : Node) : Prop :=
  ∃ m, ReflTransGen SilentMove n m ∧ WrEnd rtOpts m n'

/-! ### The actions of a state are moves with an end -/

section Actions

variable {rtOpts : RunTimeOpts} {n m n' : Node}

/-- A silent move is a move. -/
theorem SilentMove.move (h : SilentMove n n') : WrMove rtOpts n n' := by
  cases h with
  | called => exact .called _
  | advance hnext => exact .advance hnext
  | respond hpos hid hs => exact .respond hpos hid hs
  | deltaTx hpos hdelta => exact .deltaTx hpos hdelta
  | deltaRx hpos hdelta => exact .deltaRx hpos hdelta

/-- A state that does nothing waits, after no move. -/
theorem WrRun.stay (rtOpts : RunTimeOpts) (n : Node) : WrRun rtOpts n n :=
  ⟨n, .refl, .stay⟩

/-- A move before a run makes a run. -/
theorem WrRun.move (hmove : WrMove rtOpts n m) (h : WrRun rtOpts m n') : WrRun rtOpts n n' := by
  obtain ⟨k, hk, hend⟩ := h
  exact ⟨k, .head hmove hk, hend⟩

namespace SilentRun

/-- A state that does nothing waits, after no silent move. -/
theorem stay (rtOpts : RunTimeOpts) (n : Node) : SilentRun rtOpts n n := ⟨n, .refl, .stay⟩

/-- An end alone is a silent run. -/
theorem of_end (h : WrEnd rtOpts n n') : SilentRun rtOpts n n' := ⟨n, .refl, h⟩

/-- A silent move before a silent run makes a silent run. -/
theorem move (hmove : SilentMove n m) (h : SilentRun rtOpts m n') : SilentRun rtOpts n n' := by
  obtain ⟨k, hk, hend⟩ := h
  exact ⟨k, .head hmove hk, hend⟩

/-- A silent run is a run. -/
theorem run (h : SilentRun rtOpts n n') : WrRun rtOpts n n' := by
  obtain ⟨k, hk, hend⟩ := h
  exact ⟨k, ReflTransGen.mono (fun _ _ => SilentMove.move) _ _ hk, hend⟩

/-- What every silent move keeps holds before the end. -/
theorem induction {P Q : Node → Prop} (hrun : SilentRun rtOpts n n')
    (hmove : ∀ m m', P m → SilentMove m m' → P m')
    (hend : ∀ m m', P m → WrEnd rtOpts m m' → Q m') (h : P n) : Q n' := by
  obtain ⟨m, hmoves, hm⟩ := hrun
  refine hend m _ ?_ hm
  clear hm
  induction hmoves with
  | refl => exact h
  | tail _ hstep ih => exact hmove _ _ ih hstep

/-- A chain goes on with its continuation when the attempt succeeds. -/
theorem attempt {ok : Bool} {next : WrState} {continuation : Node → Node} {c : Call}
    (hc : c ≠ .sendto) (hnext : n.port.wr.wrPortState.successor = some next)
    (h : ∀ m : Node, m.port.wr.wrPortState = next → SilentRun rtOpts m (continuation m)) :
    SilentRun rtOpts n (attempt ok next continuation (n.called c)) := by
  refine .move (.called hc) ?_
  unfold WhiteRabbitPtp.attempt
  split
  · -- The source goes on with the next substate without leaving the call.
    exact .move (.advance hnext) (h _ rfl)
  · exact .stay _ _

end SilentRun

/-- Entering `WRS_M_LOCK` keeps the register of the received message. -/
theorem toWRState_mLock_register (n : Node) :
    (toWRState .mLock rtOpts n).port.wr.msgTmpWrMessageID = n.port.wr.msgTmpWrMessageID := by
  by_cases hidle : n.port.wr.wrPortState = .idle
  · -- An idle state machine initializes its data first, but for the register.
    obtain ⟨m, id, -, hm, hmoved, -⟩ := toWRState_start rtOpts n hidle (.inr rfl)
    rw [hmoved, hm]
    rcases (issueWRSignalingMsg_wrFrame rtOpts (initWrData .reInit n) id).wr with h | ⟨-, h⟩ <;>
      rw [h] <;> rfl
  · obtain ⟨⟨s, -, hmoved⟩, -⟩ :=
      toWRState_wr rtOpts n hidle (show WrState.mLock.mainState = .mLock from rfl)
    rw [hmoved]
    rfl

/-- Only a message that starts the state machine anew moves it while it is received. -/
theorem handle_wrPortState (rtOpts : RunTimeOpts) (n : Node)
    (h : (handle rtOpts n).port.wr.msgTmpWrMessageID ≠ SLAVE_PRESENT) :
    (handle rtOpts n).port.wr.wrPortState = n.port.wr.wrPortState := by
  rcases handle_cases rtOpts n with hframe | ⟨-, heq⟩
  · exact hframe.wrPortState
  have hrecv : WrFrame NotSignaling n (received n) := received_wrFrame n
  rcases handleSignaling_cases rtOpts (received n) with hsig | ⟨⟨-, hregister, -⟩, hsig⟩
  · rw [heq, hsig]
    -- A decoded message is only stored; the actions of the state look at it.
    refine .trans ?_ hrecv.wrPortState
    unfold signaled msgUnpackWRSignalingMsg
    dsimp only
    split_ifs <;> rfl
  · -- A port that starts the state machine has read `SLAVE_PRESENT`, and it is still there.
    rw [heq, hsig, toWRState_mLock_register] at h
    exact absurd hregister h

/-- A slave in `WRS_PRESENT` enters `WRS_S_LOCK` when it finds `LOCK` in its register, and otherwise
waits. -/
theorem doPresent_run (h : n.port.wr.wrPortState = .present) :
    WrRun rtOpts n (doPresent rtOpts n) := by
  refine .move .handle ?_
  unfold doPresent
  dsimp only
  split
  next hlock =>
    -- `LOCK` does not start the state machine, so it is still in `WRS_PRESENT`.
    have hpos := handle_wrPortState rtOpts n (by rw [hlock]; decide)
    exact SilentRun.run (.of_end (.lock (hpos.trans h) hlock))
  · exact .stay _ _

/-- `WRS_S_LOCK_2` disables locking and enters `WRS_LOCKED`. -/
theorem doSLock2_run (h : n.port.wr.wrPortState = .sLock2) :
    SilentRun rtOpts n (doSLock2 rtOpts n) := by
  unfold doSLock2
  split
  next priority _ =>
    refine .move (.called (c := .lockingDisable n.port.wr.wrMode priority) (by simp)) ?_
    dsimp only
    split
    · refine .of_end (.enter ?_)
      exact .locked h
    · exact .stay _ _
  · exact .stay _ _

/-- `WRS_S_LOCK_1` waits until the hardware is locked, and then does the work of `WRS_S_LOCK_2`. -/
theorem doSLock1_run (h : n.port.wr.wrPortState = .sLock1) :
    SilentRun rtOpts n (doSLock1 rtOpts n) := by
  unfold doSLock1
  split
  · exact .attempt (by simp) (by rw [h]; rfl) fun _ => doSLock2_run
  · exact .stay _ _

/-- `WRS_S_LOCK` enables locking, and then does the work of `WRS_S_LOCK_1`. -/
theorem doSLock_run (h : n.port.wr.wrPortState = .sLock) :
    SilentRun rtOpts n (doSLock rtOpts n) := by
  unfold doSLock
  split
  · exact .attempt (by simp) (by rw [h]; rfl) fun _ => doSLock1_run
  · exact .stay _ _

/-- A master in `WRS_M_LOCK` starts its calibration when it finds `LOCKED` in its register, and
otherwise waits. -/
theorem doMLock_run (h : n.port.wr.wrPortState = .mLock) :
    WrRun rtOpts n (doMLock rtOpts n) := by
  refine .move .handle ?_
  unfold doMLock
  dsimp only
  split
  next hlocked =>
    have hpos := handle_wrPortState rtOpts n (by rw [hlocked]; decide)
    exact SilentRun.run (.of_end (.enter (.masterCalibration (hpos.trans h) hlocked)))
  · exact .stay _ _

/-- A slave in `WRS_LOCKED` enters `WRS_RESP_CALIB_REQ` when it finds `CALIBRATE` in its register,
and otherwise waits. -/
theorem doLocked_run (h : n.port.wr.wrPortState = .locked) :
    WrRun rtOpts n (doLocked rtOpts n) := by
  refine .move .handle ?_
  unfold doLocked
  dsimp only
  split
  next hcalibrate =>
    have hpos := handle_wrPortState rtOpts n (by rw [hcalibrate]; decide)
    exact SilentRun.run (.of_end (.enter (.slaveRespCalibReq (hpos.trans h) hcalibrate)))
  · exact .stay _ _

/-- `WRS_CALIBRATION_8` sends the fixed delays, which ends the calibration. -/
theorem doCalibration8_run (h : n.port.wr.wrPortState = .calibration8) :
    SilentRun rtOpts n (doCalibration8 rtOpts n) :=
  .of_end (.calibrated h)

/-- `WRS_CALIBRATION_7` disables the receive calibration, and then does the work of the next state.
-/
theorem doCalibration7_run (h : n.port.wr.wrPortState = .calibration7) :
    SilentRun rtOpts n (doCalibration7 rtOpts n) :=
  .attempt (by simp) (by rw [h]; rfl) fun _ => doCalibration8_run

/-- `WRS_CALIBRATION_6` waits for the receive delay, and then does the work of the next state. -/
theorem doCalibration6_run (h : n.port.wr.wrPortState = .calibration6) :
    SilentRun rtOpts n (doCalibration6 rtOpts n) := by
  unfold doCalibration6
  refine .move (.called (c := .calibratingPoll .rx) (by simp)) ?_
  -- Without an answer of the hardware the port asks again in the next call.
  cases hdelta : (n.answer (.calibratingPoll .rx) : Option UInt64) with
  | none => exact .stay _ _
  | some delta => exact .move (.deltaRx h hdelta) (doCalibration7_run rfl)

/-- `WRS_CALIBRATION_5` enables the receive calibration, and then does the work of the next state.
-/
theorem doCalibration5_run (h : n.port.wr.wrPortState = .calibration5) :
    SilentRun rtOpts n (doCalibration5 rtOpts n) :=
  .attempt (by simp) (by rw [h]; rfl) fun _ => doCalibration6_run

/-- `WRS_CALIBRATION_4` disables the calibration pattern, and then does the work of the next state.
-/
theorem doCalibration4_run (h : n.port.wr.wrPortState = .calibration4) :
    SilentRun rtOpts n (doCalibration4 rtOpts n) :=
  .attempt (by simp) (by rw [h]; rfl) fun _ => doCalibration5_run

/-- `WRS_CALIBRATION_3` disables the transmit calibration, and then does the work of the next state.
-/
theorem doCalibration3_run (h : n.port.wr.wrPortState = .calibration3) :
    SilentRun rtOpts n (doCalibration3 rtOpts n) :=
  .attempt (by simp) (by rw [h]; rfl) fun _ => doCalibration4_run

/-- `WRS_CALIBRATION_2` waits for the transmit delay, and then does the work of the next state. -/
theorem doCalibration2_run (h : n.port.wr.wrPortState = .calibration2) :
    SilentRun rtOpts n (doCalibration2 rtOpts n) := by
  unfold doCalibration2
  refine .move (.called (c := .calibratingPoll .tx) (by simp)) ?_
  cases hdelta : (n.answer (.calibratingPoll .tx) : Option UInt64) with
  | none => exact .stay _ _
  | some delta => exact .move (.deltaTx h hdelta) (doCalibration3_run rfl)

/-- `WRS_CALIBRATION_1` enables the transmit calibration, and then does the work of the next state.
-/
theorem doCalibration1_run (h : n.port.wr.wrPortState = .calibration1) :
    SilentRun rtOpts n (doCalibration1 rtOpts n) :=
  .attempt (by simp) (by rw [h]; rfl) fun _ => doCalibration2_run

/-- `WRS_CALIBRATION` enables the calibration pattern, and then does the work of
`WRS_CALIBRATION_1`. -/
theorem doCalibration_run (h : n.port.wr.wrPortState = .calibration) :
    SilentRun rtOpts n (doCalibration rtOpts n) :=
  .attempt (by simp) (by rw [h]; rfl) fun _ => doCalibration1_run

/-- `WRS_RESP_CALIB_REQ_3` enters the main state that the mode of the port asks for. -/
theorem doRespCalibReq3_run (h : n.port.wr.wrPortState = .respCalibReq3) :
    SilentRun rtOpts n (doRespCalibReq3 rtOpts n) := by
  unfold doRespCalibReq3
  split
  next hmode => exact .of_end (.enter (.masterWrLinkOn h hmode))
  next hmode => exact .of_end (.enter (.slaveCalibration h hmode))
  next hmode => exact .of_end (.enter (.idle h hmode))

/-- `WRS_RESP_CALIB_REQ_2` disables the pattern, also when the state is `WRS_RESP_CALIB_REQ_3`
already. -/
theorem doRespCalibReq2_run
    (h : n.port.wr.wrPortState = .respCalibReq2 ∨ n.port.wr.wrPortState = .respCalibReq3) :
    SilentRun rtOpts n (doRespCalibReq2 rtOpts n) :=
  .attempt (by simp) (by rcases h with h | h <;> rw [h] <;> rfl) fun _ => doRespCalibReq3_run

/-- `WRS_RESP_CALIB_REQ_1` waits for `CALIBRATED` in the register, and then goes on. -/
theorem doRespCalibReq1_run (h : n.port.wr.wrPortState = .respCalibReq1) :
    WrRun rtOpts n (doRespCalibReq1 rtOpts n) := by
  refine .move .handle ?_
  unfold doRespCalibReq1
  dsimp only
  split
  next hcalibrated =>
    have hpos := handle_wrPortState rtOpts n (by rw [hcalibrated]; decide)
    -- The pattern decides which substate follows; both run the same actions.
    refine .move (.respond (hpos.trans h) hcalibrated ?_) (doRespCalibReq2_run ?_).run <;>
      split <;> simp
  · exact .stay _ _

/-- `WRS_RESP_CALIB_REQ` enables the pattern for the other port, and then does the work of
`WRS_RESP_CALIB_REQ_1`. -/
theorem doRespCalibReq_run (h : n.port.wr.wrPortState = .respCalibReq) :
    WrRun rtOpts n (doRespCalibReq rtOpts n) := by
  have hnext : n.port.wr.wrPortState.successor = some .respCalibReq1 := by
    rw [h]
    rfl
  unfold doRespCalibReq attempt
  refine .move (.called (.calibrationPatternEnable n.port.wr.otherNodeCalPeriod)) ?_
  dsimp only
  split
  · exact .move (.advance hnext) (doRespCalibReq1_run rfl)
  · exact .stay _ _

/-- A calibrated port goes on when the message that its mode waits for is in the register, and
otherwise waits. -/
theorem doCalibrated_run (h : n.port.wr.wrPortState = .calibrated) :
    WrRun rtOpts n (doCalibrated rtOpts n) := by
  refine .move .handle ?_
  have hpos := handle_wrPortState rtOpts n
  unfold doCalibrated
  dsimp only
  generalize handle rtOpts n = m at hpos ⊢
  by_cases hcalibrate : m.port.wr.msgTmpWrMessageID = CALIBRATE ∧ m.port.wr.wrMode = .wrMaster
  · have hm : m.port.wr.wrPortState = .calibrated :=
      (hpos (by rw [hcalibrate.1]; decide)).trans h
    -- The request is still in the register, so the second test fails.
    have hregister : (toWRState .respCalibReq rtOpts m).port.wr.msgTmpWrMessageID = CALIBRATE := by
      obtain ⟨⟨s, -, hmoved⟩, -⟩ := toWRState_wr rtOpts m (by rw [hm]; decide)
        (show WrState.respCalibReq.mainState = .respCalibReq from rfl)
      rw [hmoved]
      exact hcalibrate.1
    rw [if_pos hcalibrate, hregister, if_neg fun h => absurd h.1 (by decide)]
    exact SilentRun.run (.of_end (.enter (.masterRespCalibReq hm hcalibrate.1 hcalibrate.2)))
  · rw [if_neg hcalibrate]
    split
    next hon =>
      have hm : m.port.wr.wrPortState = .calibrated := (hpos (by rw [hon.1]; decide)).trans h
      -- A slave is told that the link is on.
      exact SilentRun.run (.of_end (.enter (.slaveWrLinkOn hm hon.1 hon.2)))
    · exact .stay _ _

/-- The actions of a running state machine are moves with an end. -/
theorem wrStateActions_run : WrRun rtOpts n (wrStateActions rtOpts n) := by
  unfold wrStateActions
  split
  next h => exact .stay _ _
  next h => exact doPresent_run h
  next h => exact (doSLock_run h).run
  next h => exact (doSLock1_run h).run
  next h => exact (doSLock2_run h).run
  next h => exact doMLock_run h
  next h => exact doLocked_run h
  next h => exact (doCalibration_run h).run
  next h => exact (doCalibration1_run h).run
  next h => exact (doCalibration2_run h).run
  next h => exact (doCalibration3_run h).run
  next h => exact (doCalibration4_run h).run
  next h => exact (doCalibration5_run h).run
  next h => exact (doCalibration6_run h).run
  next h => exact (doCalibration7_run h).run
  next h => exact (doCalibration8_run h).run
  next h => exact doCalibrated_run h
  next h => exact doRespCalibReq_run h
  next h => exact doRespCalibReq1_run h
  next h => exact (doRespCalibReq2_run (.inl h)).run
  next h => exact (doRespCalibReq3_run h).run
  next h => exact SilentRun.run (.of_end (.linkOn h))

/-- An idle state machine does nothing. -/
theorem wrStateActions_idle (rtOpts : RunTimeOpts) (h : n.port.wr.wrPortState = .idle) :
    wrStateActions rtOpts n = n := by
  unfold wrStateActions
  rw [h]

/-- `doWRState` does nothing while no link set-up is running. -/
theorem doWRState_idle (rtOpts : RunTimeOpts) (h : n.port.wr.wrPortState = .idle) :
    doWRState rtOpts n = n := by
  unfold doWRState
  dsimp only
  rw [wrStateActions_idle rtOpts h, h]
  rfl

/-- What holds before the actions of a state and is kept by every move holds before the end. -/
theorem wrStateActions_induction {P Q : Node → Prop}
    (hmove : ∀ m m', P m → WrMove rtOpts m m' → P m')
    (hend : ∀ m m', P m → WrEnd rtOpts m m' → Q m') (h : P n) :
    Q (wrStateActions rtOpts n) := by
  obtain ⟨m, hmoves, hm⟩ : WrRun rtOpts n (wrStateActions rtOpts n) := wrStateActions_run
  refine hend m _ ?_ hm
  -- By induction on the moves, the last one outermost.
  clear hm
  induction hmoves with
  | refl => exact h
  | tail _ hstep ih => exact hmove _ _ ih hstep

end Actions

/-! ### Time-outs -/

section TimeOuts

variable (rtOpts : RunTimeOpts) (n : Node)

/-- The node after polling the timer of a main state. -/
def wrTimerPolled (s : WrState) (n : Node) : Node :=
  let tics : UInt64 := n.answer .msecTics
  { n.called .msecTics with
    port.wr.wrTimers := Function.update n.port.wr.wrTimers s ((n.port.wr.wrTimers s).polled tics) }

/-- The PTP state a port falls back to when the link set-up is given up. -/
def fallbackState (rtOpts : RunTimeOpts) (wrMode : WrMode) : PtpState :=
  if rtOpts.disableFallbackIfWRFails then .disabled
  else if wrMode = .wrMaster then .master
  else .slave

/-- Giving the link set-up up. -/
def abandon (rtOpts : RunTimeOpts) (wrMode : WrMode) (n : Node) : Node :=
  initWrData .init (toState (fallbackState rtOpts wrMode) rtOpts
    (toWRState .idle rtOpts { n with port.wr.wrModeON := false }))

/-- The outcomes of the time-out handling: nothing happens, the main state is entered again, or the
link set-up is given up. -/
theorem wrTimerExpired_cases (s : WrState) (wrMode : WrMode) :
    (s = .idle ∧ wrTimerExpired s rtOpts wrMode n = n) ∨
      s ≠ .idle ∧
        (wrTimerExpired s rtOpts wrMode n = wrTimerPolled s n ∨
          wrTimerExpired s rtOpts wrMode n = toWRState s rtOpts (wrTimerPolled s n) ∨
          wrTimerExpired s rtOpts wrMode n = abandon rtOpts wrMode (wrTimerPolled s n)) := by
  unfold wrTimerExpired
  split
  next hidle => exact .inl ⟨hidle, rfl⟩
  next hidle =>
    refine .inr ⟨hidle, ?_⟩
    dsimp only
    split
    · split
      · -- There are attempts left.
        exact .inr (.inl rfl)
      · -- There are none; the port falls back to a state without White Rabbit.
        refine .inr (.inr ?_)
        unfold abandon fallbackState
        split_ifs <;> rfl
    · exact .inl rfl

/-- Polling the timer of a White Rabbit state is inside the frame. -/
theorem wrTimerPolled_frame (s : WrState) : Frame n (wrTimerPolled s n) := by
  unfold wrTimerPolled
  constructor <;> rfl

/-- Polling a timer changes the timers only. -/
theorem wrTimerPolled_wr (s : WrState) :
    WrMoved n.port.wr.wrPortState n.port.wr (wrTimerPolled s n).port.wr := by
  unfold wrTimerPolled
  rfl

/-- Giving up a link set-up is inside the frame. -/
theorem abandon_frame (wrMode : WrMode) : Frame n (abandon rtOpts wrMode n) := by
  have hoff : Frame n { n with port.wr.wrModeON := false } := by constructor <;> rfl
  unfold abandon
  exact ((hoff.trans (toWRState_frame rtOpts _ .idle)).trans (toState_frame rtOpts _ _)).trans
    (initWrData_frame _ _)

/-- After giving up the White Rabbit state machine is idle and out of its mode, and nothing was
sent; the register of the received message stays. -/
theorem abandon_eq (hrun : n.port.wr.wrPortState ≠ .idle) (wrMode : WrMode) :
    (abandon rtOpts wrMode n).port.wr.wrPortState = .idle ∧
      (abandon rtOpts wrMode n).port.wr.wrMode = .nonWr ∧
      (abandon rtOpts wrMode n).port.wr.wrModeON = false ∧
      (abandon rtOpts wrMode n).port.wr.msgTmpWrMessageID = n.port.wr.msgTmpWrMessageID ∧
      (abandon rtOpts wrMode n).netif.sent = n.netif.sent := by
  have hfallback : fallbackState rtOpts wrMode ≠ .uncalibrated := by
    unfold fallbackState
    split_ifs <;> decide
  unfold abandon
  generalize hoff : ({ n with port.wr.wrModeON := false } : Node) = off
  have hidle : (toWRState .idle rtOpts off).port.wr.wrPortState = .idle ∧
      (toWRState .idle rtOpts off).port.wr.msgTmpWrMessageID = n.port.wr.msgTmpWrMessageID := by
    have hrun : off.port.wr.wrPortState ≠ .idle := by rw [← hoff]; exact hrun
    refine ⟨toWRState_wrPortState _ _ hrun rfl rfl, ?_⟩
    obtain ⟨⟨s, -, hmoved⟩, -⟩ := toWRState_wr rtOpts off hrun
      (show WrState.idle.mainState = .idle from rfl)
    rw [hmoved, ← hoff]
    rfl
  -- Only the start of the state machine sends, and it was running.
  have hquiet : (toWRState .idle rtOpts off).netif.sent = n.netif.sent := by
    unfold toWRState
    dsimp only
    rw [wrTimetoutManage_sent, if_neg (by rw [← hoff]; exact hrun), ← hoff]
    rfl
  obtain ⟨hwr, hsent⟩ := toState_eq rtOpts (toWRState .idle rtOpts off) hidle.1 hfallback
  generalize toState (fallbackState rtOpts wrMode) rtOpts (toWRState .idle rtOpts off) = left
    at hwr hsent ⊢
  refine ⟨rfl, rfl, rfl, ?_, hsent.trans hquiet⟩
  show left.port.wr.msgTmpWrMessageID = _
  rw [hwr, leaveState_wr, ← hidle.2]
  split <;> rfl

end TimeOuts

/-! ### The frame -/

section StatesFrame

variable (rtOpts : RunTimeOpts) (n : Node)

/-- A move of the link set-up is inside the frame. -/
theorem WrMove.frame {rtOpts : RunTimeOpts} {n m : Node} (h : WrMove rtOpts n m) : Frame n m := by
  cases h with
  | called c => exact called_frame n c
  | handle => exact handle_frame rtOpts n
  | advance | respond => exact setWrPortState_frame n _
  | deltaTx | deltaRx => constructor <;> rfl

/-- The end of a calibration is inside the frame. -/
theorem doCalibration8_frame : Frame n (doCalibration8 rtOpts n) := by
  refine ((issueWRSignalingMsg_frame rtOpts n CALIBRATED).trans
    (toWRState_frame rtOpts _ .calibrated)).trans ?_
  constructor <;> rfl

/-- The end of a complete link set-up is inside the frame. -/
theorem doWrLinkOn_frame : Frame n (doWrLinkOn rtOpts n) := by
  refine (toWRState_frame rtOpts n .idle).trans ?_
  unfold doWrLinkOn
  dsimp only
  split
  · exact toState_frame _ _ _
  · exact toState_frame _ _ _
  · rfl

/-- Every end of the actions of a state is inside the frame. -/
theorem WrEnd.frame {rtOpts : RunTimeOpts} {n m : Node} (h : WrEnd rtOpts n m) : Frame n m := by
  cases h with
  | stay => rfl
  | enter => exact toWRState_frame _ _ _
  | lock => exact (toWRState_frame rtOpts n .sLock).trans (by constructor <;> rfl)
  | calibrated => exact doCalibration8_frame _ _
  | linkOn => exact doWrLinkOn_frame _ _

/-- The actions of a White Rabbit state are inside the frame. -/
theorem wrStateActions_frame : Frame n (wrStateActions rtOpts n) :=
  wrStateActions_induction (P := Frame n) (fun _ _ h hmove => h.trans hmove.frame)
    (fun _ _ h hend => h.trans hend.frame) (.refl n)

/-- The time-out of a White Rabbit state is inside the frame, whether it tries again or gives up. -/
theorem wrTimerExpired_frame (s : WrState) (wrMode : WrMode) :
    Frame n (wrTimerExpired s rtOpts wrMode n) := by
  rcases wrTimerExpired_cases rtOpts n s wrMode with ⟨-, h⟩ | ⟨-, h | h | h⟩ <;> rw [h]
  · exact wrTimerPolled_frame _ _
  · exact (wrTimerPolled_frame _ _).trans (toWRState_frame _ _ _)
  · exact (wrTimerPolled_frame _ _).trans (abandon_frame _ _ _)

/-- A step of the White Rabbit state machine is inside the frame. -/
theorem doWRState_frame : Frame n (doWRState rtOpts n) :=
  (wrStateActions_frame rtOpts n).trans (wrTimerExpired_frame rtOpts _ _ _)

end StatesFrame

end WhiteRabbitPtp
