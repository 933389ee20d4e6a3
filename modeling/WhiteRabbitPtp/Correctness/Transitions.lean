import WhiteRabbitPtp.Correctness.Handling

/-!
# What transitions leave alone

The transitions of both state machines and the handling of any frame stay inside `Frame`. A
transition of the White Rabbit state machine changes the machine's own data and issues at most one
message, so a preorder that contains these effects contains every such transition.

## Main definitions

* `WrStores`: only the data of the White Rabbit state machine change.
* `WrEffect`, `WrEntered`: the effects of a White Rabbit transition, and sequences of them.

## Main results

* `toWRState_entered`: a White Rabbit transition consists of these effects.
* `toState_frame`, `toWRState_frame`, `handle_frame`: `Frame` of the functions that the steps of a
  port are made of.
* `toState_fm`: a PTP transition does not touch the foreign masters at all.
-/

namespace WhiteRabbitPtp

open Octets Relation

/-! ### The effects of a White Rabbit transition -/

/-- At most the flags of the parent's record differ. -/
def FlagsAside (fm fm' : ForeignMasterDS) : Prop :=
  let record := fm.foreign fm.foreignRecordBest
  ∃ flags, fm' = { fm with
    foreign := Function.update fm.foreign fm.foreignRecordBest
      { record with announce.wrFlags := flags } }

/-- A table that is left alone differs in no flags. -/
@[refl]
theorem FlagsAside.refl (fm : ForeignMasterDS) : FlagsAside fm fm :=
  ⟨_, by rw [Function.update_eq_self]⟩

/-- No cursor of the table is touched. -/
theorem FlagsAside.fmFrame {fm fm' : ForeignMasterDS} (h : FlagsAside fm fm') : FmFrame fm fm' := by
  obtain ⟨flags, rfl⟩ := h
  exact ⟨rfl, rfl, le_rfl, id, fun h => absurd h (lt_irrefl _)⟩

/-- Only the data of the White Rabbit state machine change, but for the configuration and the role
of the port; the parent may be marked. -/
structure WrStores (n n' : Node) : Prop where
  clk : n'.clk = n.clk
  statics : n'.statics = n.statics
  port : n'.port = { n.port with wr := n'.port.wr, fm := n'.port.fm }
  wrConfig : n'.port.wr.wrConfig = n.port.wr.wrConfig
  wrSlaveRole : n'.port.wr.wrSlaveRole = n.port.wr.wrSlaveRole
  fm : FlagsAside n.port.fm n'.port.fm
  answers : n'.netif.oracle.answers = n.netif.oracle.answers
  used : n'.netif.oracle.used .sendto = n.netif.oracle.used .sendto
  sent : n'.netif.sent = n.netif.sent

/-- One effect of a White Rabbit transition. -/
inductive WrEffect (rtOpts : RunTimeOpts) (n : Node) : Node → Prop
  | stores {n' : Node} : WrStores n n' → WrEffect rtOpts n n'
  | issue (wrMessageID : UInt16) : WrEffect rtOpts n (issueWRSignalingMsg wrMessageID rtOpts n)

/-- Such effects one after the other. -/
abbrev WrEntered (rtOpts : RunTimeOpts) : Node → Node → Prop := ReflTransGen (WrEffect rtOpts)

section WrEntered

variable {rtOpts : RunTimeOpts} {n n' : Node}

/-- Storing data is one effect of a transition. -/
theorem WrStores.entered (h : WrStores n n') : WrEntered rtOpts n n' := .single (.stores h)

/-- A preorder that holds across every effect holds across the whole transition. -/
theorem WrEntered.of_effect {R : Node → Node → Prop} (hrefl : ∀ n, R n n)
    (htrans : ∀ {n n' n''}, R n n' → R n' n'' → R n n'')
    (heffect : ∀ {n n'}, WrEffect rtOpts n n' → R n n') (h : WrEntered rtOpts n n') : R n n' :=
  sequence_of_preorder hrefl htrans heffect h

end WrEntered

section WrEntering

variable (rtOpts : RunTimeOpts) (n : Node)

/-- `initWrData` changes the data of the state machine only. -/
theorem initWrData_stores : WrStores n (initWrData .reInit n) := by constructor <;> rfl

/-- Entering a state sends at most one message. -/
theorem enterWRState_entered (state : WrState) :
    WrEntered rtOpts n (enterWRState state rtOpts n) := by
  have hissue (id : UInt16) : WrEntered rtOpts n (issueWRSignalingMsg id rtOpts n) :=
    .single (.issue id)
  have hissueSet (id : UInt16) (s : WrState) :
      WrEntered rtOpts n { issueWRSignalingMsg id rtOpts n with port.wr.wrPortState := s } := by
    refine (hissue id).tail (.stores ?_)
    constructor <;> rfl
  unfold enterWRState
  cases state
  case present | locked | mLock => exact hissueSet _ _
  case calibration =>
    refine (hissue CALIBRATE).tail (.stores ?_)
    -- A port that is calibrated skips the substates of its own calibration.
    generalize issueWRSignalingMsg CALIBRATE rtOpts n = m
    dsimp only
    split_ifs <;> constructor <;> rfl
  case sLock | respCalibReq =>
    refine WrStores.entered ?_
    dsimp only
    split <;> constructor <;> rfl
  case wrLinkOn =>
    have hon : WrStores n (({ n with port.wr.wrModeON := true } : Node).command
        .enablePhaseTracking) := by constructor <;> rfl
    dsimp only
    -- Only a master announces that the link is on, but either side marks its parent.
    generalize
      (({ n with port.wr.wrModeON := true } : Node).command .enablePhaseTracking) = m at hon
    have hissued : WrEntered rtOpts n (if m.port.wr.wrMode = .wrMaster then
        issueWRSignalingMsg WR_MODE_ON rtOpts m else m) := by
      split
      · exact hon.entered.tail (.issue WR_MODE_ON)
      · exact hon.entered
    refine hissued.tail (.stores ?_)
    generalize (if m.port.wr.wrMode = .wrMaster then _ else m) = m'
    exact ⟨rfl, rfl, rfl, rfl, rfl, ⟨_, rfl⟩, rfl, rfl, rfl⟩
  all_goals
    refine WrStores.entered ?_
    constructor <;> rfl

/-- `wrTimetoutManage` changes the data of the state machine only. -/
theorem wrTimetoutManage_stores (enteringState exitingState : WrState) :
    WrStores n (wrTimetoutManage enteringState exitingState n) := by
  unfold wrTimetoutManage
  dsimp only
  split <;> split <;> constructor <;> rfl

/-- `toWRState` consists of effects of a transition, whatever state it enters. -/
theorem toWRState_entered (state : WrState) : WrEntered rtOpts n (toWRState state rtOpts n) := by
  unfold toWRState
  dsimp only
  refine .tail ?_ (.stores (wrTimetoutManage_stores _ _ _))
  split
  · exact (initWrData_stores n).entered.trans (enterWRState_entered _ _ _)
  · exact enterWRState_entered _ _ _

end WrEntering

/-! ### White Rabbit transitions -/

section WRTransitions

variable (rtOpts : RunTimeOpts) (n : Node)

/-- A call to the host is inside the frame. -/
theorem called_frame (c : Call) : Frame n (n.called c) := by constructor <;> rfl

/-- The White Rabbit state is not part of the frame. -/
theorem setWrPortState_frame (s : WrState) : Frame n { n with port.wr.wrPortState := s } := by
  constructor <;> rfl

/-- Sending a Signaling message is inside the frame. -/
theorem issueWRSignalingMsg_frame (wrMessageID : UInt16) :
    Frame n (issueWRSignalingMsg wrMessageID rtOpts n) :=
  (issueWRSignalingMsg_wrFrame rtOpts n wrMessageID).toFrame

/-- `initWrData` is inside the frame in each of its modes. -/
theorem initWrData_frame (mode : InitMode) : Frame n (initWrData mode n) := by
  unfold initWrData
  cases mode <;> constructor <;> rfl

/-- Storing data of the state machine is inside the frame. -/
theorem WrStores.frame {n n' : Node} (h : WrStores n n') : Frame n n' where
  clk := h.clk
  clockIdentity := by rw [h.port]
  portIdentity := by rw [h.port]
  versionNumber := by rw [h.port]
  linkUP := by rw [h.port]
  wrConfig := h.wrConfig
  answers := h.answers
  fm := h.fm.fmFrame

/-- Every effect of a transition is inside the frame. -/
theorem WrEffect.frame {rtOpts : RunTimeOpts} {n n' : Node} (h : WrEffect rtOpts n n') :
    Frame n n' := by
  cases h with
  | stores h => exact h.frame
  | issue id => exact issueWRSignalingMsg_frame _ _ id

/-- `toWRState` is inside the frame. -/
theorem toWRState_frame (state : WrState) : Frame n (toWRState state rtOpts n) :=
  (toWRState_entered rtOpts n state).of_effect .refl .trans WrEffect.frame

end WRTransitions

/-! ### The White Rabbit data after a transition -/

/-- The White Rabbit data after moving to a state: only that state and what belongs to the timers
differ. -/
def WrMoved (s : WrState) (wr wr' : WrPortDS) : Prop :=
  wr' = { wr with
    wrPortState := s
    wrTimeouts := wr'.wrTimeouts
    wrTimers := wr'.wrTimers
    currentWRstateCnt := wr'.currentWRstateCnt }

/-- The states that `toWRState` may leave a port in when it enters a main state: a chain of attempts
may already have begun. -/
def WrState.entries : WrState → List WrState
  | sLock => [sLock, sLock1]
  | calibration => [calibration, calibration1, calibration2]
  | respCalibReq => [respCalibReq, respCalibReq1]
  | s => [s]

/-- The White Rabbit mode is switched on by entering `WRS_WR_LINK_ON`. -/
def WrPortDS.entering (wr : WrPortDS) (state : WrState) : WrPortDS :=
  if state = .wrLinkOn then
    { wr with wrModeON := true, parentWrModeON := true, parentCalibrated := true }
  else wr

section WREffect

variable (rtOpts : RunTimeOpts) (n : Node)

/-- Of two moves the second one says where the state machine ends. -/
theorem WrMoved.trans {s s' : WrState} {wr wr' wr'' : WrPortDS} (h : WrMoved s wr wr')
    (h' : WrMoved s' wr' wr'') : WrMoved s' wr wr'' := by
  unfold WrMoved at *
  rw [h', h]

/-- Managing the timers changes what belongs to the timers. -/
theorem wrTimetoutManage_wr (enteringState exitingState : WrState) :
    WrMoved n.port.wr.wrPortState n.port.wr
      (wrTimetoutManage enteringState exitingState n).port.wr := by
  unfold wrTimetoutManage Node.wrTimerStop Node.wrTimerStart WrMoved
  dsimp only
  split <;> split <;> rfl

/-- Counting the repetitions of a main state changes no other data of the port. -/
theorem wrTimetoutManage_port (enteringState exitingState : WrState) :
    (wrTimetoutManage enteringState exitingState n).port =
      { n.port with wr := (wrTimetoutManage enteringState exitingState n).port.wr } := by
  unfold wrTimetoutManage Node.wrTimerStop Node.wrTimerStart
  dsimp only
  split <;> split <;> rfl

/-- `wrTimetoutManage` keeps the state of the port. -/
@[simp]
theorem wrTimetoutManage_portState (enteringState exitingState : WrState) :
    (wrTimetoutManage enteringState exitingState n).port.portState = n.port.portState := by
  rw [wrTimetoutManage_port]

/-- `wrTimetoutManage` sends nothing. -/
@[simp]
theorem wrTimetoutManage_sent (enteringState exitingState : WrState) :
    (wrTimetoutManage enteringState exitingState n).netif.sent = n.netif.sent := by
  unfold wrTimetoutManage Node.wrTimerStop Node.wrTimerStart
  dsimp only
  split <;> split <;> rfl

/-- Sending a signaling message changes nothing while the state machine is running. -/
theorem issueWRSignalingMsg_running (hrun : n.port.wr.wrPortState ≠ .idle) (id : UInt16) :
    (issueWRSignalingMsg id rtOpts n).port.wr = n.port.wr ∧
      (issueWRSignalingMsg id rtOpts n).port.portState = n.port.portState :=
  (issueWRSignalingMsg_wrFrame rtOpts n id).eq_of_running hrun

/-- Entering a main state while the state machine is running. -/
theorem enterWRState_wr (hrun : n.port.wr.wrPortState ≠ .idle) {state : WrState}
    (hmain : state.mainState = state) :
    (∃ s, (s ∈ state.entries ∨ state = .sLock ∧ s = n.port.wr.wrPortState) ∧
      WrMoved s (n.port.wr.entering state) (enterWRState state rtOpts n).port.wr) ∧
    (enterWRState state rtOpts n).port.portState = n.port.portState := by
  have hissue := issueWRSignalingMsg_running rtOpts n hrun
  -- A transition that sends a message finds the data as they were before.
  have hset : ∀ (id : UInt16) (s : WrState), WrMoved s n.port.wr
      { (issueWRSignalingMsg id rtOpts n).port.wr with wrPortState := s } := by
    intro id s
    rw [(hissue id).1]
    rfl
  unfold enterWRState
  cases state <;> cases hmain
  case idle => exact ⟨⟨.idle, .inl (by simp [WrState.entries]), rfl⟩, rfl⟩
  case calibrated => exact ⟨⟨.calibrated, .inl (by simp [WrState.entries]), rfl⟩, rfl⟩
  case present =>
    exact ⟨⟨.present, .inl (by simp [WrState.entries]), hset _ _⟩, (hissue _).2⟩
  case locked => exact ⟨⟨.locked, .inl (by simp [WrState.entries]), hset _ _⟩, (hissue _).2⟩
  case mLock => exact ⟨⟨.mLock, .inl (by simp [WrState.entries]), hset _ _⟩, (hissue _).2⟩
  case sLock =>
    dsimp only
    split
    · -- The hardware answers at once, or the port asks again in `WRS_S_LOCK`.
      refine ⟨⟨_, .inl ?_, rfl⟩, rfl⟩
      split <;> simp [WrState.entries]
    · exact ⟨⟨_, .inr ⟨rfl, rfl⟩, rfl⟩, rfl⟩
  case calibration =>
    obtain ⟨hwr, hstate⟩ := hissue CALIBRATE
    generalize issueWRSignalingMsg CALIBRATE rtOpts n = m at hwr hstate
    show (∃ s, _ ∧ WrMoved s n.port.wr _) ∧ _
    rw [← hwr, ← hstate]
    dsimp only
    split_ifs <;> refine ⟨⟨_, .inl ?_, rfl⟩, rfl⟩ <;> simp [WrState.entries]
  case respCalibReq =>
    dsimp only
    split_ifs <;> refine ⟨⟨_, .inl ?_, rfl⟩, rfl⟩ <;> simp [WrState.entries]
  case wrLinkOn =>
    -- The mode is switched on before the message is sent.
    let on : Node := ({ n with port.wr.wrModeON := true } : Node).command .enablePhaseTracking
    obtain ⟨hwr, hstate⟩ := issueWRSignalingMsg_running rtOpts on hrun WR_MODE_ON
    dsimp only
    split
    · generalize issueWRSignalingMsg WR_MODE_ON rtOpts _ = m at hwr hstate ⊢
      refine ⟨⟨.wrLinkOn, .inl (by simp [WrState.entries]), ?_⟩, hstate⟩
      unfold WrMoved
      rw [hwr]
      rfl
    · exact ⟨⟨.wrLinkOn, .inl (by simp [WrState.entries]), rfl⟩, rfl⟩

/-- A transition while the state machine is running. -/
theorem toWRState_wr (hrun : n.port.wr.wrPortState ≠ .idle) {state : WrState}
    (hmain : state.mainState = state) :
    (∃ s, (s ∈ state.entries ∨ state = .sLock ∧ s = n.port.wr.wrPortState) ∧
      WrMoved s (n.port.wr.entering state) (toWRState state rtOpts n).port.wr) ∧
    (toWRState state rtOpts n).port.portState = n.port.portState := by
  unfold toWRState
  dsimp only
  rw [if_neg hrun]
  obtain ⟨⟨s, hs, hmoved⟩, hstate⟩ := enterWRState_wr rtOpts n hrun hmain
  refine ⟨⟨s, hs, ?_⟩, by rw [wrTimetoutManage_portState, hstate]⟩
  -- What is counted is the main state that the port was in before.
  have hpos : (enterWRState state rtOpts n).port.wr.wrPortState = s := by rw [hmoved]
  have hmanage := wrTimetoutManage_wr (enterWRState state rtOpts n) state
    n.port.wr.wrPortState.mainState
  rw [hpos] at hmanage
  exact hmoved.trans hmanage

/-- A main state without substates is reached at once. -/
theorem toWRState_wrPortState (hrun : n.port.wr.wrPortState ≠ .idle) {state : WrState}
    (hentries : state.entries = [state]) (hmain : state.mainState = state) :
    (toWRState state rtOpts n).port.wr.wrPortState = state := by
  obtain ⟨⟨s, hs, hmoved⟩, -⟩ := toWRState_wr rtOpts n hrun hmain
  -- Only `WRS_S_LOCK` may be refused, and it has substates.
  have hs : s = state := by
    rcases hs with hs | ⟨rfl, -⟩
    · simpa [hentries] using hs
    · simp [WrState.entries] at hentries
  rw [hmoved, hs]

/-- The start of the state machine from `WRS_IDLE`, in `WRS_PRESENT` or `WRS_M_LOCK`: the data are
initialized before the message is sent, and a failed transmission is a failure of a port that is
still idle. -/
theorem toWRState_start (hidle : n.port.wr.wrPortState = .idle) {state : WrState}
    (hstate : state = .present ∨ state = .mLock) :
    ∃ m : Node, ∃ id : UInt16, (id = SLAVE_PRESENT ∨ id = LOCK) ∧
      m = issueWRSignalingMsg id rtOpts (initWrData .reInit n) ∧
      WrMoved state m.port.wr (toWRState state rtOpts n).port.wr ∧
      (toWRState state rtOpts n).port.portState = m.port.portState ∧
      (toWRState state rtOpts n).netif.sent = m.netif.sent := by
  -- Both states end alike: the substate is set and the timers are managed after the message.
  have hsplit : ∀ id : UInt16, ∀ m : Node,
      m = { issueWRSignalingMsg id rtOpts (initWrData .reInit n) with
        port.wr.wrPortState := state } →
      WrMoved state (issueWRSignalingMsg id rtOpts (initWrData .reInit n)).port.wr
          (wrTimetoutManage state .idle m).port.wr ∧
        (wrTimetoutManage state .idle m).port.portState =
          (issueWRSignalingMsg id rtOpts (initWrData .reInit n)).port.portState ∧
        (wrTimetoutManage state .idle m).netif.sent =
          (issueWRSignalingMsg id rtOpts (initWrData .reInit n)).netif.sent := by
    rintro id m rfl
    refine ⟨WrMoved.trans (s := state) ?_ (wrTimetoutManage_wr _ _ _),
      wrTimetoutManage_portState _ _ _, wrTimetoutManage_sent _ _ _⟩
    rfl
  unfold toWRState
  dsimp only
  rw [if_pos hidle, hidle]
  rcases hstate with rfl | rfl
  · exact ⟨_, SLAVE_PRESENT, .inl rfl, rfl, hsplit _ _ rfl⟩
  · exact ⟨_, LOCK, .inr rfl, rfl, hsplit _ _ rfl⟩

/-- The frames a transition may send: never a `CALIBRATED` message, and a `WR_MODE_ON` message only
when the link is switched on. -/
def TransitionFrame (state : WrState) (frame : List UInt8) : Prop :=
  ∃ id m, frame = wrSignalingFrame id m ∧ id ≠ CALIBRATED ∧
    (id = WR_MODE_ON → state = .wrLinkOn)

/-- A Signaling message other than `CALIBRATED` may be sent on entering any state, `WR_MODE_ON` only
on entering `WRS_WR_LINK_ON`. -/
theorem issueWRSignalingMsg_sent (state : WrState) (id : UInt16) (hid : id ≠ CALIBRATED)
    (hon : id = WR_MODE_ON → state = .wrLinkOn) :
    ∃ frames, (issueWRSignalingMsg id rtOpts n).netif.sent = n.netif.sent ++ frames ∧
      ∀ frame ∈ frames, TransitionFrame state frame := by
  obtain ⟨frames, hsent, hframes⟩ := (issueWRSignalingMsg_wrFrame rtOpts n id).sent
  exact ⟨frames, hsent, fun frame hf => ⟨id, n, hframes frame hf, hid, hon⟩⟩

/-- Entering a state sends frames that belong to that transition. -/
theorem enterWRState_sent (state : WrState) :
    ∃ frames, (enterWRState state rtOpts n).netif.sent = n.netif.sent ++ frames ∧
      ∀ frame ∈ frames, TransitionFrame state frame := by
  have hnone : ∃ frames, n.netif.sent = n.netif.sent ++ frames ∧
      ∀ frame ∈ frames, TransitionFrame state frame := ⟨[], by simp, by simp⟩
  unfold enterWRState
  cases state
  case present => exact issueWRSignalingMsg_sent rtOpts n _ _ (by decide) (by decide)
  case locked => exact issueWRSignalingMsg_sent rtOpts n _ _ (by decide) (by decide)
  case mLock => exact issueWRSignalingMsg_sent rtOpts n _ _ (by decide) (by decide)
  case calibration =>
    have hsent := issueWRSignalingMsg_sent rtOpts n .calibration CALIBRATE (by decide) (by decide)
    -- The message is sent before the hardware is asked.
    generalize issueWRSignalingMsg CALIBRATE rtOpts n = m at hsent ⊢
    dsimp only
    split_ifs <;> exact hsent
  case wrLinkOn =>
    dsimp only
    split
    · exact issueWRSignalingMsg_sent rtOpts _ .wrLinkOn _ (by decide) fun _ => rfl
    · exact hnone
  case sLock =>
    dsimp only
    split <;> exact hnone
  case respCalibReq =>
    dsimp only
    split <;> exact hnone
  all_goals exact hnone

/-- `toWRState` sends frames that belong to the transition into the state that it enters. -/
theorem toWRState_sent (state : WrState) :
    ∃ frames, (toWRState state rtOpts n).netif.sent = n.netif.sent ++ frames ∧
      ∀ frame ∈ frames, TransitionFrame state frame := by
  unfold toWRState
  dsimp only
  rw [wrTimetoutManage_sent]
  split
  · have hinit : (initWrData .reInit n).netif.sent = n.netif.sent := rfl
    rw [← hinit]
    exact enterWRState_sent _ _ _
  · exact enterWRState_sent _ _ _

end WREffect

/-! ### PTP transitions -/

section Transitions

variable (rtOpts : RunTimeOpts) (n : Node)

/-- Starting a timer is inside the frame. -/
theorem timerStart_frame (t : PtpTimer) (interval : ℤ) : Frame n (n.timerStart t interval) :=
  (timerStart_wrFrame (P := fun _ => True) n t interval).toFrame

/-- The state of the port is not part of the frame. -/
theorem setPortState_frame (s : PtpState) : Frame n { n with port.portState := s } := by
  constructor <;> rfl

/-- Entering a PTP state is inside the frame. -/
theorem enterState_frame (state : PtpState) : Frame n (enterState state rtOpts n) := by
  unfold enterState
  cases state <;> dsimp only
  case initializing | faulty | disabled => exact setPortState_frame _ _
  case listening => exact (timerStart_frame _ _ _).trans (setPortState_frame _ _)
  case master =>
    exact (((timerStart_frame _ _ _).trans (timerStart_frame _ _ _)).trans
      (timerStart_frame _ _ _)).trans (setPortState_frame _ _)
  case passive =>
    exact ((timerStart_frame _ _ _).trans (timerStart_frame _ _ _)).trans (setPortState_frame _ _)
  case preMaster => rfl
  case uncalibrated =>
    split
    · split
      · exact (toWRState_frame _ _ _).trans (setPortState_frame _ _)
      · exact setPortState_frame _ _
    · constructor <;> rfl
  case slave =>
    refine (wrServoInit_wrFrame (P := fun _ => True) n).toFrame.trans ?_
    generalize wrServoInit n = m
    unfold Node.timerStart
    split <;> constructor <;> rfl

/-- `toState` is inside the frame. -/
theorem toState_frame (state : PtpState) : Frame n (toState state rtOpts n) := by
  unfold toState
  split
  · rfl
  · exact (leaveState_frame _ _).trans (enterState_frame _ _ _)

/-! ### The foreign masters -/

/-- Starting a timer does not touch the table of foreign masters. -/
@[simp]
theorem timerStart_fm (t : PtpTimer) (interval : ℤ) :
    (n.timerStart t interval).port.fm = n.port.fm := by
  unfold Node.timerStart
  rfl

/-- A failure does not touch the foreign masters. -/
@[simp]
theorem toFaulty_fm : (toFaulty rtOpts n).port.fm = n.port.fm := by
  unfold toFaulty
  split
  · rfl
  · exact leaveState_fm _ _

/-- Sending a Signaling message does not touch the table of foreign masters. -/
@[simp]
theorem issueWRSignalingMsg_fm (wrMessageID : UInt16) :
    (issueWRSignalingMsg wrMessageID rtOpts n).port.fm = n.port.fm := by
  unfold issueWRSignalingMsg issueMsg
  dsimp only
  split
  · rw [toFaulty_fm]
    rfl
  · rfl

/-- `wrTimetoutManage` does not touch the table of foreign masters. -/
@[simp]
theorem wrTimetoutManage_fm (enteringState exitingState : WrState) :
    (wrTimetoutManage enteringState exitingState n).port.fm = n.port.fm := by
  rw [wrTimetoutManage_port]

/-- Starting the servo does not touch the table of foreign masters. -/
@[simp]
theorem wrServoInit_fm : (wrServoInit n).port.fm = n.port.fm := by
  unfold wrServoInit
  dsimp only
  split <;> rfl

/-- Entering `WRS_PRESENT` does not touch the foreign masters. -/
theorem toWRState_present_fm : (toWRState .present rtOpts n).port.fm = n.port.fm := by
  unfold toWRState enterWRState
  dsimp only
  rw [wrTimetoutManage_fm]
  show (issueWRSignalingMsg SLAVE_PRESENT rtOpts _).port.fm = _
  rw [issueWRSignalingMsg_fm]
  split
  · rfl
  · rfl

/-- Entering a state does not touch the foreign masters. -/
@[simp]
theorem enterState_fm (state : PtpState) : (enterState state rtOpts n).port.fm = n.port.fm := by
  cases state <;> simp only [enterState, timerStart_fm]
  case uncalibrated =>
    split
    · split
      · exact toWRState_present_fm _ _
      · rfl
    · rfl
  case slave => split <;> simp only [timerStart_fm, wrServoInit_fm]

/-- A PTP transition does not touch the foreign masters. -/
theorem toState_fm (state : PtpState) : (toState state rtOpts n).port.fm = n.port.fm := by
  unfold toState
  split
  · rfl
  · rw [enterState_fm, leaveState_fm]

/-! ### The effect of a PTP transition -/

/-- Starting a timer changes neither the White Rabbit data nor the state, and sends nothing. -/
theorem timerStart_eq (t : PtpTimer) (interval : ℤ) :
    (n.timerStart t interval).port.wr = n.port.wr ∧
      (n.timerStart t interval).port.portState = n.port.portState ∧
      (n.timerStart t interval).netif.sent = n.netif.sent := by
  unfold Node.timerStart
  exact ⟨rfl, rfl, rfl⟩

/-- Starting the servo does not change the White Rabbit data, and sends nothing. -/
theorem wrServoInit_eq :
    (wrServoInit n).port.wr = n.port.wr ∧ (wrServoInit n).netif.sent = n.netif.sent := by
  unfold wrServoInit
  dsimp only
  split <;> exact ⟨rfl, rfl⟩

/-- Entering a state other than `PTP_UNCALIBRATED` neither touches the White Rabbit data nor sends
anything. -/
theorem enterState_eq {state : PtpState} (h : state ≠ .uncalibrated) :
    (enterState state rtOpts n).port.wr = n.port.wr ∧
      (enterState state rtOpts n).netif.sent = n.netif.sent := by
  cases state <;> simp only [enterState, timerStart_eq, and_self]
  case uncalibrated => exact absurd rfl h
  case slave => split <;> simp only [timerStart_eq, wrServoInit_eq, and_self]

/-- Entering a state other than `PTP_UNCALIBRATED` and `PTP_PRE_MASTER` ends there. -/
theorem enterState_portState {state : PtpState} (h : state ≠ .uncalibrated)
    (h' : state ≠ .preMaster) : (enterState state rtOpts n).port.portState = state := by
  cases state <;> first | rfl | skip
  case uncalibrated => exact absurd rfl h
  case preMaster => exact absurd rfl h'

/-- A transition to a state other than `PTP_UNCALIBRATED` while the White Rabbit state machine is
idle. -/
theorem toState_eq (hidle : n.port.wr.wrPortState = .idle) {state : PtpState}
    (h : state ≠ .uncalibrated) :
    (toState state rtOpts n).port.wr = (leaveState rtOpts n).port.wr ∧
      (toState state rtOpts n).netif.sent = n.netif.sent := by
  unfold toState
  rw [if_neg (by simp [hidle])]
  obtain ⟨hwr, hsent⟩ := enterState_eq rtOpts (leaveState rtOpts n) h
  exact ⟨hwr, by rw [hsent, leaveState_sent]⟩

/-- A running White Rabbit state machine is not preempted. -/
theorem toState_running (hrun : n.port.wr.wrPortState ≠ .idle) (state : PtpState) :
    toState state rtOpts n = n := by
  unfold toState
  rw [if_pos hrun]

end Transitions

/-! ### Handling a frame -/

section States

variable (rtOpts : RunTimeOpts) (n : Node)

/-- Storing a received Signaling message is inside the frame. -/
theorem signaled_frame : Frame n (signaled n) := by
  have hconfig : (signaled n).port.wr.wrConfig = n.port.wr.wrConfig := by
    unfold signaled msgUnpackWRSignalingMsg
    dsimp only
    split_ifs <;> rfl
  exact ⟨rfl, rfl, rfl, rfl, rfl, hconfig, rfl, .refl _⟩

/-- Handling a frame stays inside the frame, whatever the frame is. -/
theorem handle_frame : Frame n (handle rtOpts n) := by
  rcases handle_cases rtOpts n with h | ⟨-, h⟩
  · exact h.toFrame
  · rw [h]
    have hrecv : Frame n (received n) := (received_wrFrame (P := fun _ => True) n).toFrame
    refine (hrecv.trans (signaled_frame _)).trans ?_
    rcases handleSignaling_cases rtOpts (received n) with h' | ⟨-, h'⟩
    · rw [h']
    · rw [h']
      refine .trans ?_ (toWRState_frame _ _ _)
      constructor <;> rfl

end States

end WhiteRabbitPtp
