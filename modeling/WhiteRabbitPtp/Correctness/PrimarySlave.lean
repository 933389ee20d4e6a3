import WhiteRabbitPtp.Correctness.LiveMaster
import WhiteRabbitPtp.Correctness.Triggers

/-!
# The primary slave of a clock

The role of a port is kept by the port, the number of the primary slave by the clock. They belong
together as long as no step writes one of them while the other says something else.

## Main definitions

* `decisionCode`: which of the updates `m1`, `m3`, `p1`, `s1` and `s2` a state decision makes.
* `RoleKept`, `RoleCleared`, `RoleTaken`, `RoleLeft`: what a function of a port may do with the role
  and the number.
* `OnePrimary`: at most one port is the primary slave, and the clock has its number.
* `KeepsPrimary`: the steps that leave the primary slave alone, or are taken when there is none.

## Main results

* `onePrimary_of_guardedRun`: in every run of such steps there is at most one primary slave.
* `not_forall_onePrimary`: a run after which the clock has the number of a port that is none.
-/

namespace WhiteRabbitPtp

open InputSystem Daemon

/-! ### The role and the number -/

/-- The role of the port, the number of the primary slave and the number of the port stay. -/
structure RoleKept (n n' : Node) : Prop where
  role : n'.port.wr.wrSlaveRole = n.port.wr.wrSlaveRole
  number : n'.clk.primarySlavePortNumber = n.clk.primarySlavePortNumber
  portNumber : n'.port.portIdentity.portNumber = n.port.portIdentity.portNumber

/-- The port loses its role, and the clock its primary slave. -/
structure RoleCleared (n n' : Node) : Prop where
  role : n'.port.wr.wrSlaveRole = .nonSlave
  number : n'.clk.primarySlavePortNumber = 0
  portNumber : n'.port.portIdentity.portNumber = n.port.portIdentity.portNumber

/-- The port becomes the primary slave. -/
structure RoleTaken (n n' : Node) : Prop where
  role : n'.port.wr.wrSlaveRole = .primarySlave
  number : n'.clk.primarySlavePortNumber = n.port.portIdentity.portNumber
  portNumber : n'.port.portIdentity.portNumber = n.port.portIdentity.portNumber

/-- The port is not the primary slave any more, but the clock keeps its number. -/
structure RoleLeft (n n' : Node) : Prop where
  role : n'.port.wr.wrSlaveRole ≠ .primarySlave
  number : n'.clk.primarySlavePortNumber = n.clk.primarySlavePortNumber
  portNumber : n'.port.portIdentity.portNumber = n.port.portIdentity.portNumber

section Kept

variable {P : List UInt8 → Prop} {rtOpts : RunTimeOpts} {n n' n'' : Node}

/-- A step that does nothing keeps the role. -/
@[refl]
theorem RoleKept.refl (n : Node) : RoleKept n n := ⟨rfl, rfl, rfl⟩

/-- Two steps that keep the role keep it together. -/
@[trans]
theorem RoleKept.trans (h : RoleKept n n') (h' : RoleKept n' n'') : RoleKept n n'' :=
  ⟨h'.role.trans h.role, h'.number.trans h.number, h'.portNumber.trans h.portNumber⟩

/-- A step that keeps the role may follow one that clears it. -/
theorem RoleCleared.trans (h : RoleCleared n n') (h' : RoleKept n' n'') : RoleCleared n n'' :=
  ⟨h'.role.trans h.role, h'.number.trans h.number, h'.portNumber.trans h.portNumber⟩

/-- A step that keeps the role may follow one in which the port becomes the primary slave. -/
theorem RoleTaken.trans (h : RoleTaken n n') (h' : RoleKept n' n'') : RoleTaken n n'' :=
  ⟨h'.role.trans h.role, h'.number.trans h.number, h'.portNumber.trans h.portNumber⟩

/-- Clearing the role twice clears it. -/
theorem RoleCleared.cleared (h : RoleCleared n n') (h' : RoleCleared n' n'') :
    RoleCleared n n'' :=
  ⟨h'.role, h'.number, h'.portNumber.trans h.portNumber⟩

/-- A step that keeps the role may follow one that leaves it. -/
theorem RoleLeft.trans (h : RoleLeft n n') (h' : RoleKept n' n'') : RoleLeft n n'' :=
  ⟨h'.role.symm ▸ h.role, h'.number.trans h.number, h'.portNumber.trans h.portNumber⟩

/-- A step that keeps the role may come before one that clears it. -/
theorem RoleKept.cleared (h : RoleKept n n') (h' : RoleCleared n' n'') : RoleCleared n n'' :=
  ⟨h'.role, h'.number, h'.portNumber.trans h.portNumber⟩

/-- A step that keeps the role may come before one in which the port becomes the primary slave. -/
theorem RoleKept.taken (h : RoleKept n n') (h' : RoleTaken n' n'') : RoleTaken n n'' :=
  ⟨h'.role, by rw [h'.number, h.portNumber], h'.portNumber.trans h.portNumber⟩

/-- A step that keeps the role may come before one that leaves it. -/
theorem RoleKept.left (h : RoleKept n n') (h' : RoleLeft n' n'') : RoleLeft n n'' :=
  ⟨h'.role, h'.number.trans h.number, h'.portNumber.trans h.portNumber⟩

/-- Inside the frame only the role is left to look at. -/
theorem Frame.roleKept (h : Frame n n')
    (hrole : n'.port.wr.wrSlaveRole = n.port.wr.wrSlaveRole) : RoleKept n n' :=
  ⟨hrole, by rw [h.clk], by rw [h.portIdentity]⟩

/-- What keeps inside `WrFrame` keeps the role. -/
theorem WrFrame.roleKept (h : WrFrame P n n') : RoleKept n n' := by
  refine h.toFrame.roleKept ?_
  rcases h.wr with hwr | ⟨-, hwr⟩ <;> rw [hwr]

/-! ### Transitions -/

/-- Every effect of entering a White Rabbit state keeps the role. -/
theorem WrEffect.roleKept (h : WrEffect rtOpts n n') : RoleKept n n' := by
  cases h with
  | stores h => exact h.frame.roleKept h.wrSlaveRole
  | issue id => exact (issueWRSignalingMsg_wrFrame rtOpts n id).roleKept

/-- `toWRState` keeps the role. -/
theorem toWRState_roleKept (rtOpts : RunTimeOpts) (n : Node) (s : WrState) :
    RoleKept n (toWRState s rtOpts n) :=
  (toWRState_entered rtOpts n s).of_effect .refl .trans WrEffect.roleKept

/-- `leaveState` keeps `wrSlaveRole`, although leaving `PTP_SLAVE` changes the White Rabbit mode. -/
theorem leaveState_slaveRole (rtOpts : RunTimeOpts) (n : Node) :
    (leaveState rtOpts n).port.wr.wrSlaveRole = n.port.wr.wrSlaveRole := by
  rw [leaveState_wr]
  split <;> rfl

/-- `toState` keeps the role. -/
theorem toState_roleKept (rtOpts : RunTimeOpts) (n : Node) (s : PtpState) :
    RoleKept n (toState s rtOpts n) := by
  refine (toState_frame rtOpts n s).roleKept ?_
  unfold toState
  split
  · rfl
  refine .trans ?_ (leaveState_slaveRole rtOpts n)
  by_cases hs : s = .uncalibrated
  · subst hs
    unfold enterState
    dsimp only
    split
    · split
      · exact (toWRState_roleKept rtOpts (leaveState rtOpts n) .present).role
      · rfl
    · rfl
  · rw [(enterState_eq rtOpts (leaveState rtOpts n) hs).1]

/-- `handle` keeps the role. -/
theorem handle_roleKept (rtOpts : RunTimeOpts) (n : Node) : RoleKept n (handle rtOpts n) := by
  rcases handle_cases rtOpts n with hframe | ⟨-, heq⟩
  · exact hframe.roleKept
  have hsignaled : RoleKept n (signaled (received n)) :=
    (received_wrFrame (P := NotSignaling) n).roleKept.trans
      ((signaled_frame (received n)).roleKept (by rw [signaled_wr]))
  rw [heq]
  rcases handleSignaling_cases rtOpts (received n) with hsig | ⟨-, hsig⟩ <;> rw [hsig]
  · exact hsignaled
  · have hmaster : RoleKept (signaled (received n)) (asWrMaster (signaled (received n))) :=
      ⟨rfl, rfl, rfl⟩
    exact (hsignaled.trans hmaster).trans (toWRState_roleKept rtOpts _ _)

/-! ### The White Rabbit state machine -/

/-- A move of the link set-up keeps the role. -/
theorem WrMove.roleKept (h : WrMove rtOpts n n') : RoleKept n n' := by
  cases h with
  | called c => exact ⟨rfl, rfl, rfl⟩
  | handle => exact handle_roleKept rtOpts n
  | advance | respond | deltaTx | deltaRx => exact ⟨rfl, rfl, rfl⟩

/-- Every end of the actions of a White Rabbit state keeps the role. -/
theorem WrEnd.roleKept (h : WrEnd rtOpts n n') : RoleKept n n' := by
  cases h with
  | stay => rfl
  | enter => exact toWRState_roleKept _ _ _
  | lock => exact (toWRState_roleKept rtOpts n .sLock).trans ⟨rfl, rfl, rfl⟩
  | calibrated =>
    exact ((issueWRSignalingMsg_wrFrame rtOpts n CALIBRATED).roleKept.trans
      (toWRState_roleKept rtOpts _ .calibrated)).trans ⟨rfl, rfl, rfl⟩
  | linkOn =>
    refine (toWRState_roleKept rtOpts n .idle).trans ?_
    unfold doWrLinkOn
    dsimp only
    split
    · exact toState_roleKept _ _ _
    · exact toState_roleKept _ _ _
    · rfl

/-- The actions of a White Rabbit state keep the role. -/
theorem wrStateActions_roleKept (rtOpts : RunTimeOpts) (n : Node) :
    RoleKept n (wrStateActions rtOpts n) :=
  wrStateActions_induction (P := RoleKept n) (fun _ _ h hmove => h.trans hmove.roleKept)
    (fun _ _ h hend => h.trans hend.roleKept) (.refl n)

end Kept

/-! ### Giving the link set-up up -/

/-- The link set-up of a port is given up: the timer of its main state has expired too often. -/
def GivesUp (n : Node) : Prop :=
  n.port.wr.wrPortState.mainState ≠ .idle ∧
    (n.port.wr.wrTimers n.port.wr.wrPortState.mainState).expired (n.answer .msecTics) = true ∧
    ¬n.port.wr.currentWRstateCnt < n.port.wr.retryLimit n.port.wr.wrPortState.mainState

instance : DecidablePred GivesUp := fun n => by
  unfold GivesUp
  infer_instance

section Abandon

variable {rtOpts : RunTimeOpts} {n : Node}

/-- Giving the link set-up up takes the role from the port and leaves the number. -/
theorem abandon_roleLeft (rtOpts : RunTimeOpts) (n : Node) (wrMode : WrMode) :
    RoleLeft n (abandon rtOpts wrMode n) := by
  have hframe := abandon_frame rtOpts n wrMode
  have hrole : (abandon rtOpts wrMode n).port.wr.wrSlaveRole = .nonSlave := rfl
  exact ⟨by rw [hrole]; decide, by rw [hframe.clk], by rw [hframe.portIdentity]⟩

/-- The time-out handling keeps the role unless the link set-up is given up. -/
theorem wrTimerExpired_role_cases (rtOpts : RunTimeOpts) (n : Node) (wrMode : WrMode) :
    RoleKept n (wrTimerExpired n.port.wr.wrPortState.mainState rtOpts wrMode n) ∨
      GivesUp n ∧
        RoleLeft n (wrTimerExpired n.port.wr.wrPortState.mainState rtOpts wrMode n) := by
  have hpolled : RoleKept n (wrTimerPolled n.port.wr.wrPortState.mainState n) := ⟨rfl, rfl, rfl⟩
  by_cases hgives : GivesUp n
  · rcases wrTimerExpired_cases rtOpts n n.port.wr.wrPortState.mainState wrMode with
      ⟨-, h⟩ | ⟨-, h | h | h⟩ <;> rw [h]
    · exact .inl (.refl n)
    · exact .inl hpolled
    · exact .inl (hpolled.trans (toWRState_roleKept _ _ _))
    · exact .inr ⟨hgives, hpolled.left (abandon_roleLeft _ _ _)⟩
  · refine .inl ?_
    unfold wrTimerExpired
    split
    · rfl
    next hmain =>
    dsimp only
    split
    next hexpired =>
      split
      · exact hpolled.trans (toWRState_roleKept _ _ _)
      next hcount => exact absurd ⟨hmain, hexpired, hcount⟩ hgives
    next => exact hpolled

/-- `doWRState` keeps the role, unless the port gives up its link set-up and leaves the role. -/
theorem doWRState_role_cases (rtOpts : RunTimeOpts) (n : Node) :
    RoleKept n (doWRState rtOpts n) ∨
      GivesUp (wrStateActions rtOpts n) ∧ RoleLeft n (doWRState rtOpts n) := by
  have hactions := wrStateActions_roleKept rtOpts n
  rcases wrTimerExpired_role_cases rtOpts (wrStateActions rtOpts n)
      (wrStateActions rtOpts n).port.wr.wrMode with hkept | ⟨hgives, hleft⟩
  · exact .inl (hactions.trans hkept)
  · exact .inr ⟨hgives, hactions.left hleft⟩

end Abandon

/-! ### The actions of a port -/

/-- A port becomes a master without a state decision: because it may be nothing else, or because it
heard no master for too long. -/
def RunsM1 (rtOpts : RunTimeOpts) (n : Node) : Prop :=
  n.port.portState = .listening ∧ n.port.wr.wrConfig = .wrMOnly ∨
    (n.port.portState = .listening ∨ n.port.portState = .passive ∨ n.port.portState = .slave) ∧
      (handle rtOpts n).timerExpired .announceReceipt = true ∧
      n.port.wr.wrConfig ≠ .wrSOnly ∧ n.clk.clockQuality.clockClass ≠ 255

instance (rtOpts : RunTimeOpts) : DecidablePred (RunsM1 rtOpts) := fun n => by
  unfold RunsM1
  infer_instance

section Acting

variable {rtOpts : RunTimeOpts} {n : Node}

/-- The decision `m1` clears the role. -/
theorem m1_roleCleared (n : Node) : RoleCleared n (m1 n) := ⟨rfl, rfl, rfl⟩

/-- Forgetting the foreign masters keeps the role. -/
theorem forgetMasters_roleKept (n : Node) : RoleKept n (forgetMasters n) := ⟨rfl, rfl, rfl⟩

/-- Emptying the register of the last White Rabbit message keeps the role. -/
theorem clearRegister_roleKept (n : Node) :
    RoleKept n { n with port.wr.msgTmpWrMessageID := NULL_WR_TLV } := ⟨rfl, rfl, rfl⟩

/-- A port that hears no master for too long forgets its role when it becomes one. -/
theorem announceReceiptTimeoutExpires_role_cases (rtOpts : RunTimeOpts) (n : Node) :
    RoleKept n (announceReceiptTimeoutExpires rtOpts n) ∨
      (n.port.wr.wrConfig ≠ .wrSOnly ∧ n.clk.clockQuality.clockClass ≠ 255) ∧
        RoleCleared n (announceReceiptTimeoutExpires rtOpts n) := by
  have hforget := forgetMasters_roleKept n
  rw [announceReceiptTimeoutExpires_eq]
  split
  next hmaster =>
    exact .inr ⟨hmaster, (hforget.cleared (m1_roleCleared _)).trans (toState_roleKept _ _ _)⟩
  split
  · exact .inl (hforget.trans (toState_roleKept _ _ _))
  · exact .inl hforget

/-- What a slave does in a step keeps the role, unless its announce receipt timer has expired and
the port may become a master: then the role is cleared. -/
theorem doSlaveActions_role_cases (rtOpts : RunTimeOpts) (n : Node) :
    RoleKept n (doSlaveActions rtOpts n) ∨
      ((handle rtOpts n).timerExpired .announceReceipt = true ∧ n.port.wr.wrConfig ≠ .wrSOnly ∧
        n.clk.clockQuality.clockClass ≠ 255) ∧ RoleCleared n (doSlaveActions rtOpts n) := by
  have hhandle := handle_roleKept rtOpts n
  have hframe := handle_frame rtOpts n
  -- The request for the delay is issued last and does not matter.
  have hrequest : ∀ m : Node, RoleKept m
      (if rtOpts.E2E_mode then onTimer .delayReq (issueDelayReq rtOpts) m
        else onTimer .pdelayReq (issuePDelayReq rtOpts) m) :=
    fun m => (requestTimer_handled rtOpts m (p := .any) rfl).wrFrame.roleKept
  unfold doSlaveActions
  dsimp only
  rw [← hframe.wrConfig, ← hframe.clk]
  generalize handle rtOpts n = m at hhandle ⊢
  have hpolled := (timerPolled_wrFrame (P := NotSignaling) m .announceReceipt).roleKept
  have hconfig : (m.timerPolled .announceReceipt).port.wr.wrConfig = m.port.wr.wrConfig := rfl
  have hclk : (m.timerPolled .announceReceipt).clk = m.clk := rfl
  by_cases hexpired : m.timerExpired .announceReceipt = true
  · have htimer : onTimer .announceReceipt (announceReceiptTimeoutExpires rtOpts) m =
        announceReceiptTimeoutExpires rtOpts (m.timerPolled .announceReceipt) := by
      unfold onTimer
      rw [if_pos hexpired]
    rw [htimer]
    rcases announceReceiptTimeoutExpires_role_cases rtOpts (m.timerPolled .announceReceipt) with
      hkept | ⟨hmaster, hcleared⟩
    · exact .inl (((hhandle.trans hpolled).trans hkept).trans (hrequest _))
    · rw [hconfig, hclk] at hmaster
      exact .inr ⟨⟨hexpired, hmaster⟩,
        ((hhandle.trans hpolled).cleared hcleared).trans (hrequest _)⟩
  · have htimer : onTimer .announceReceipt (announceReceiptTimeoutExpires rtOpts) m =
        m.timerPolled .announceReceipt := by
      unfold onTimer
      rw [if_neg hexpired]
    rw [htimer]
    exact .inl ((hhandle.trans hpolled).trans (hrequest _))

/-- What a master does in a step keeps the role. -/
theorem doMasterActions_roleKept (rtOpts : RunTimeOpts) (n : Node) :
    RoleKept n (doMasterActions rtOpts n) := by
  have htimers : RoleKept n (masterTimers rtOpts (handle rtOpts n)) :=
    (handle_roleKept rtOpts n).trans (masterTimers_wrFrame rtOpts _).roleKept
  rw [doMasterActions_eq]
  dsimp only
  split
  · exact htimers.trans (toState_roleKept _ _ _)
  · exact htimers

/-- What the actions of a port do with its role. -/
theorem doStateActions_role_cases (rtOpts : RunTimeOpts) (n : Node) :
    RoleKept n (doStateActions rtOpts n) ∨
      RunsM1 rtOpts n ∧ RoleCleared n (doStateActions rtOpts n) ∨
      (RunsWr n ∧ GivesUp (wrStateActions rtOpts n)) ∧
        RoleLeft n (doStateActions rtOpts n) := by
  unfold doStateActions
  cases hstate : n.port.portState <;> dsimp only
  case faulty => exact .inl (toState_roleKept _ _ _)
  case uncalibrated =>
    split
    next hslave =>
      -- A set-up that gives up takes the role from the port and leaves the number.
      rcases doWRState_role_cases rtOpts n with hkept | ⟨hgives, hleft⟩
      · exact .inl (hkept.trans (clearRegister_roleKept _))
      · exact .inr (.inr ⟨⟨.inl ⟨hstate, hslave⟩, hgives⟩, hleft.trans (clearRegister_roleKept _)⟩)
    next => exact .inl ((toState_roleKept _ _ _).trans (clearRegister_roleKept _))
  case listening =>
    -- `m1` is called by a `WR_M_ONLY` port, and when the announce receipt timer expires.
    split
    next honly =>
      exact .inr (.inl ⟨.inl ⟨hstate, honly⟩, (m1_roleCleared n).trans (toState_roleKept _ _ _)⟩)
    next =>
      rcases doSlaveActions_role_cases rtOpts n with hkept | ⟨hexpired, hcleared⟩
      · exact .inl hkept
      · exact .inr (.inl ⟨.inr ⟨.inl hstate, hexpired⟩, hcleared⟩)
  case passive =>
    rcases doSlaveActions_role_cases rtOpts n with hkept | ⟨hexpired, hcleared⟩
    · exact .inl hkept
    · exact .inr (.inl ⟨.inr ⟨.inr (.inl hstate), hexpired⟩, hcleared⟩)
  case slave =>
    rcases doSlaveActions_role_cases rtOpts n with hkept | ⟨hexpired, hcleared⟩
    · exact .inl hkept
    · exact .inr (.inl ⟨.inr ⟨.inr (.inr hstate), hexpired⟩, hcleared⟩)
  case master =>
    split
    next hmaster =>
      rcases doWRState_role_cases rtOpts n with hkept | ⟨hgives, hleft⟩
      · exact .inl (hkept.trans (clearRegister_roleKept _))
      · exact .inr (.inr ⟨⟨.inr ⟨hstate, hmaster⟩, hgives⟩, hleft.trans (clearRegister_roleKept _)⟩)
    next => exact .inl (doMasterActions_roleKept _ _)
  case disabled => exact .inl (handle_roleKept _ _)
  case initializing | preMaster => exact .inl (.refl n)

end Acting

/-! ### State decisions -/

/-- The updates of the data sets that a state decision may make. -/
inductive DecisionCode
  | m1 | m3 | p1 | s1 | s2 | none
  deriving DecidableEq, Repr

/-- The update that the best master clock algorithm makes, by the data sets alone. -/
def decisionCode (bestForeign : ForeignMasterRecord) (n : Node) : DecisionCode :=
  if n.clk.Ebest < 0 ∧ n.port.portState = .master then .m1
  else if n.port.wr.wrConfig = .wrSOnly then .s1
  else if n.port.wr.wrConfig = .wrMOnly then .m1
  else if n.port.fm.numberForeignRecords = 0 ∧ n.port.portState = .listening then .none
  else if n.clk.clockQuality.clockClass < 128 then
    if compareD0 n.port.erbest n < 0 then .m1
    else if 0 < compareD0 n.port.erbest n then .p1
    else .none
  else if compareD0 bestForeign n < 0 then .m1
  else if 0 < compareD0 bestForeign n then
    if bestForeign.receptionPortNumber = n.port.portIdentity.portNumber then .s1
    else if compareRecords bestForeign n.port.erbest n.port = A_better_by_topology_then_B then .s2
    else .m3
  else .none

/-- What an update does with the role of the port and the number of the primary slave. -/
def DecisionCode.Writes : DecisionCode → Node → Node → Prop
  | m1 => RoleCleared
  | s1 => RoleTaken
  | m3 | p1 | s2 => RoleLeft
  | none => RoleKept

section Decisions

variable {rtOpts : RunTimeOpts} {n n' n'' : Node}

/-- A step that keeps the role may follow the code of a decision. -/
theorem DecisionCode.Writes.trans {c : DecisionCode} (h : c.Writes n n') (h' : RoleKept n' n'') :
    c.Writes n n'' := by
  cases c with
  | m1 => exact RoleCleared.trans h h'
  | s1 => exact RoleTaken.trans h h'
  | m3 | p1 | s2 => exact RoleLeft.trans h h'
  | none => exact RoleKept.trans h h'

/-- The code and the update are chosen by the same condition. -/
theorem DecisionCode.Writes.ite {p : Prop} [Decidable p] {c c' : DecisionCode}
    {r r' : PtpState × Node} (h : p → c.Writes n r.2) (h' : ¬p → c'.Writes n r'.2) :
    (if p then c else c').Writes n (if p then r else r').2 := by
  by_cases hp : p
  · rw [if_pos hp, if_pos hp]
    exact h hp
  · rw [if_neg hp, if_neg hp]
    exact h' hp

/-- The decision `m3` takes the role from the port and keeps the clock's number. -/
theorem m3_roleLeft (n : Node) : RoleLeft n (m3 n) := ⟨WrSlaveRole.noConfusion, rfl, rfl⟩

/-- The decision `p1` takes the role from the port and keeps the clock's number. -/
theorem p1_roleLeft (n : Node) : RoleLeft n (p1 n) := ⟨WrSlaveRole.noConfusion, rfl, rfl⟩

/-- The decision for a secondary slave takes the primary role from the port and keeps the clock's
number. -/
theorem s2_roleLeft (header : MsgHeader) (n : Node) : RoleLeft n (s2 header n) :=
  ⟨WrSlaveRole.noConfusion, rfl, rfl⟩

/-- The decision `s1` makes the port the primary slave. -/
theorem s1_roleTaken (header : MsgHeader) (announce : MsgAnnounce) (n : Node) :
    RoleTaken n (s1 header announce n) := ⟨rfl, rfl, rfl⟩

/-- The algorithm makes the update that its code says. -/
theorem bmc_writes (bestForeign : ForeignMasterRecord) (n : Node) :
    (decisionCode bestForeign n).Writes n (bmc bestForeign n).2 := by
  unfold decisionCode bmc
  refine .ite (fun _ => m1_roleCleared n) fun _ => ?_
  unfold bmcStateDecision
  refine .ite (fun _ => s1_roleTaken _ _ n) fun _ => ?_
  refine .ite (fun _ => m1_roleCleared n) fun _ => ?_
  refine .ite (fun _ => RoleKept.refl n) fun _ => ?_
  -- The comparisons are made on the copy of the clock's own data set.
  have hcopy : RoleKept n (copyD0 n) := ⟨rfl, rfl, rfl⟩
  have hown (record : ForeignMasterRecord) : bmcDataSetComparison (copyD0 n).port.msgTmpHeader
      (copyD0 n).port.msgTmpAnnounce (copyD0 n).port.portIdentity.portNumber record.header
      record.announce record.receptionPortNumber (copyD0 n).port = compareD0 record n := rfl
  have hclass : (copyD0 n).clk.clockQuality.clockClass = n.clk.clockQuality.clockClass := rfl
  have hnumber : (copyD0 n).port.portIdentity.portNumber = n.port.portIdentity.portNumber := rfl
  have hrecords : compareRecords bestForeign (n.port.fm.foreign n.port.fm.foreignRecordBest)
      (copyD0 n).port = compareRecords bestForeign n.port.erbest n.port := rfl
  have herbest : n.port.fm.foreign n.port.fm.foreignRecordBest = n.port.erbest := rfl
  dsimp only
  rw [hown, hown, hclass, hnumber, hrecords, herbest]
  generalize copyD0 n = m at hcopy
  have hm1 : RoleCleared n (m1 m) := hcopy.cleared (m1_roleCleared m)
  refine .ite (fun _ => ?_) fun _ => .ite (fun _ => hm1) fun _ => .ite (fun _ => ?_) fun _ => hcopy
  -- A clock of a class up to 127 compares itself with the best master of the port.
  · refine .ite (fun _ => hm1) fun _ => ?_
    exact .ite (fun _ => hcopy.left (p1_roleLeft m)) fun _ => hcopy
  -- Any other clock that is worse than the best master looks for the port that hears it.
  · refine .ite (fun _ => hcopy.taken (s1_roleTaken _ _ m)) fun _ => ?_
    exact .ite (fun _ => hcopy.left (s2_roleLeft _ m)) fun _ => hcopy.left (m3_roleLeft m)

/-- Following the recommendation does not concern the role. -/
theorem followRecommendation_roleKept (rtOpts : RunTimeOpts) (state : PtpState) (n : Node) :
    RoleKept n (followRecommendation rtOpts state n) := by
  rcases followRecommendation_cases rtOpts n state with h | ⟨s, h⟩ | h <;> rw [h]
  · exact toState_roleKept _ _ _
  · have hcandidate : RoleKept n { n with port.wr.wrMode := .wrSlave, port.wr.wrModeON := false } :=
      ⟨rfl, rfl, rfl⟩
    exact hcandidate.trans (toState_roleKept _ _ _)

/-- What the second phase of a port does with its role. -/
theorem stateDecision_role_cases (rtOpts : RunTimeOpts) (bestForeign : ForeignMasterRecord)
    (n : Node) : RoleKept n (stateDecision rtOpts bestForeign n) ∨
      Decides n ∧ (decisionCode bestForeign (deciding n)).Writes n
        (stateDecision rtOpts bestForeign n) := by
  by_cases h : Decides n
  · have hdeciding : RoleKept n (deciding n) := ⟨rfl, rfl, rfl⟩
    have hwrites := (bmc_writes bestForeign (deciding n)).trans
      (followRecommendation_roleKept rtOpts (bmc bestForeign (deciding n)).1 _)
    rw [stateDecision_of rtOpts n bestForeign h]
    refine .inr ⟨h, ?_⟩
    generalize followRecommendation rtOpts _ _ = m at hwrites ⊢
    cases hcode : decisionCode bestForeign (deciding n) <;> rw [hcode] at hwrites
    · exact hdeciding.cleared hwrites
    · exact hdeciding.left hwrites
    · exact hdeciding.left hwrites
    · exact hdeciding.taken hwrites
    · exact hdeciding.left hwrites
    · exact hdeciding.trans hwrites
  · rw [stateDecision_of_not rtOpts n bestForeign h]
    exact .inl (.refl n)

end Decisions

/-! ### Initialization -/

/-- The port is initialized in its first phase: its link went up, a restart was asked for, or it was
not initialized yet. -/
def Reinitializes (n : Node) : Prop :=
  let up : Bool := n.answer .getPortState
  up = true ∧ n.port.linkUP = false ∨ n.port.doRestart = true ∨
    up = true ∧ n.port.portState = .initializing

instance : DecidablePred Reinitializes := fun n => by
  unfold Reinitializes
  infer_instance

section Initializing

variable {rtOpts : RunTimeOpts} {n : Node}

/-- Initialization ends with the update of a master. -/
theorem doInit_roleCleared (rtOpts : RunTimeOpts) (n : Node) : RoleCleared n (doInit rtOpts n) := by
  rw [doInit_eq]
  refine RoleCleared.trans ?_ (toState_roleKept _ _ _)
  unfold initialized
  dsimp only
  split <;> split <;> exact ⟨rfl, rfl, rfl⟩

/-- `updateLink` keeps the role, the state and the link of the port, or initializes the port again,
which clears the role. -/
theorem updateLink_role_cases (rtOpts : RunTimeOpts) (n : Node) :
    (RoleKept n (updateLink rtOpts n) ∧
        (updateLink rtOpts n).port.portState = n.port.portState ∧
        (updateLink rtOpts n).port.linkUP = n.answer .getPortState) ∨
      Reinitializes n ∧ RoleCleared n (updateLink rtOpts n) := by
  unfold updateLink Reinitializes
  generalize (n.answer .getPortState : Bool) = up
  dsimp only
  have hlinked : RoleKept n { n.called .getPortState with port.linkUP := up } := ⟨rfl, rfl, rfl⟩
  split
  next h =>
    have hinit := (hlinked.trans (toState_roleKept rtOpts _ .initializing)).cleared
      (doInit_roleCleared rtOpts _)
    refine .inr ⟨?_, ?_⟩
    · rcases h with h | h
      · exact .inl ⟨h.1, by simpa using h.2⟩
      · exact .inr (.inl h)
    · generalize doInit rtOpts _ = m at hinit ⊢
      split
      · exact ⟨hinit.role, hinit.number, hinit.portNumber⟩
      · exact ⟨hinit.role, hinit.number, hinit.portNumber⟩
  next =>
    -- Forgetting the foreign masters and resetting the servo do not concern the role.
    refine .inl ?_
    split
    · split <;> split <;> exact ⟨⟨rfl, rfl, rfl⟩, rfl, rfl⟩
    · exact ⟨hlinked, rfl, rfl⟩

/-- What the first phase of a port does with its role. -/
theorem linked_role_cases (rtOpts : RunTimeOpts) (n : Node) :
    RoleKept n (linked rtOpts n) ∨ Reinitializes n ∧ RoleCleared n (linked rtOpts n) := by
  unfold linked
  dsimp only
  rcases updateLink_role_cases rtOpts n with ⟨hkept, hstate, hup⟩ | ⟨hinit, hcleared⟩
  · generalize updateLink rtOpts n = m at hkept hstate hup ⊢
    split
    next h =>
      rw [hup, hstate] at h
      exact .inr ⟨.inr (.inr h), hkept.cleared (doInit_roleCleared rtOpts m)⟩
    next => exact .inl hkept
  · refine .inr ⟨hinit, ?_⟩
    split
    · exact hcleared.cleared (doInit_roleCleared rtOpts _)
    · exact hcleared

end Initializing

/-! ### Runs -/

/-- At most one port is the primary slave, and the clock has its number, or `0` without one. -/
structure OnePrimary (rtOpts : RunTimeOpts) (d : Daemon) : Prop where
  unique : ∀ i < rtOpts.portNumber, ∀ j < rtOpts.portNumber,
    (d.ports i).wr.wrSlaveRole = .primarySlave → (d.ports j).wr.wrSlaveRole = .primarySlave → i = j
  number : ∀ i < rtOpts.portNumber, (d.ports i).wr.wrSlaveRole = .primarySlave →
    d.clk.primarySlavePortNumber = (d.ports i).portIdentity.portNumber
  none : (∀ i < rtOpts.portNumber, (d.ports i).wr.wrSlaveRole ≠ .primarySlave) →
    d.clk.primarySlavePortNumber = 0

/-- Another port of the clock is the primary slave. -/
def OtherPrimary (rtOpts : RunTimeOpts) (d : Daemon) (i : ℕ) : Prop :=
  ∃ j < rtOpts.portNumber, j ≠ i ∧ (d.ports j).wr.wrSlaveRole = .primarySlave

instance (rtOpts : RunTimeOpts) (d : Daemon) : DecidablePred (OtherPrimary rtOpts d) := fun i => by
  unfold OtherPrimary
  infer_instance

/-- The update concerns no primary slave: `m1` and `s1` are made while no other port is one, the
updates that write the role alone while the port itself is none. -/
def DecisionCode.Keeps (rtOpts : RunTimeOpts) (d : Daemon) (i : ℕ) : DecisionCode → Prop
  | m1 | s1 => ¬OtherPrimary rtOpts d i
  | m3 | p1 | s2 => (d.ports i).wr.wrSlaveRole ≠ .primarySlave
  | none => True

instance (rtOpts : RunTimeOpts) (d : Daemon) (i : ℕ) :
    DecidablePred (DecisionCode.Keeps rtOpts d i) := fun c => by
  cases c <;> unfold DecisionCode.Keeps <;> infer_instance

/-- A step that writes the number of the primary slave is taken while no other port is the primary
slave, and one that takes the role from a port while that port is not the primary slave. -/
def KeepsPrimary (rtOpts : RunTimeOpts) (o : Oracle) (d : Daemon) : Prop :=
  match d.phase with
  | .link i => Reinitializes (d.node i o) → ¬OtherPrimary rtOpts d i
  | .decide i => Decides (d.node i o) →
      (decisionCode d.bestForeign (deciding (d.node i o))).Keeps rtOpts d i
  | .act i => (RunsM1 rtOpts (d.node i o) → ¬OtherPrimary rtOpts d i) ∧
      (RunsWr (d.node i o) ∧ GivesUp (wrStateActions rtOpts (d.node i o)) →
        (d.ports i).wr.wrSlaveRole ≠ .primarySlave)
  | .shared => True

instance (rtOpts : RunTimeOpts) (o : Oracle) : DecidablePred (KeepsPrimary rtOpts o) := fun d => by
  unfold KeepsPrimary
  exact match d.phase with
    | .link _ | .decide _ | .act _ | .shared => inferInstance

namespace OnePrimary

variable {rtOpts : RunTimeOpts} {d : Daemon} {i : ℕ} {o : Oracle} {n : Node}

/-- In an initial state no port is a slave. -/
theorem initial (h : Daemon.Initial rtOpts d) : OnePrimary rtOpts d := by
  obtain ⟨-, macs, extsrcLocked, tics, clk, rfl⟩ := h
  have hrole (i : ℕ) : ((Daemon.initial rtOpts macs extsrcLocked tics clk).ports i).wr.wrSlaveRole =
      .nonSlave := rfl
  refine ⟨fun i _ j _ hi _ => ?_, fun i _ hi => ?_, fun _ => ?_⟩
  · cases (hrole i).symm.trans hi
  · cases (hrole i).symm.trans hi
  · show (initDataClock rtOpts extsrcLocked tics clk).primarySlavePortNumber = 0
    unfold initDataClock
    dsimp only
    split_ifs <;> rfl

/-- The invariant depends on which ports are primary slaves and on the numbers. -/
theorem congr {d' : Daemon} (hd : OnePrimary rtOpts d)
    (hprimary : ∀ j, (d'.ports j).wr.wrSlaveRole = .primarySlave ↔
      (d.ports j).wr.wrSlaveRole = .primarySlave)
    (hport : ∀ j, (d'.ports j).portIdentity.portNumber = (d.ports j).portIdentity.portNumber)
    (hclk : d'.clk.primarySlavePortNumber = d.clk.primarySlavePortNumber) :
    OnePrimary rtOpts d' := by
  refine ⟨fun j hj k hk => ?_, fun j hj => ?_, fun hnone => ?_⟩
  · rw [hprimary, hprimary]
    exact hd.unique j hj k hk
  · rw [hprimary, hclk, hport]
    exact hd.number j hj
  · rw [hclk]
    exact hd.none fun j hj hj' => hnone j hj ((hprimary j).mpr hj')

/-- A step of one port that neither makes nor unmakes a primary slave. -/
theorem store (hd : OnePrimary rtOpts d)
    (hprimary : n.port.wr.wrSlaveRole = .primarySlave ↔
      (d.ports i).wr.wrSlaveRole = .primarySlave)
    (hport : n.port.portIdentity.portNumber = (d.ports i).portIdentity.portNumber)
    (hclk : n.clk.primarySlavePortNumber = d.clk.primarySlavePortNumber) (phase : Phase) :
    OnePrimary rtOpts (d.store i n phase) := by
  refine hd.congr (fun j => ?_) (fun j => ?_) hclk <;> by_cases hj : j = i
  · subst hj
    rwa [store_ports_self]
  · rw [store_ports_of_ne _ _ hj]
  · subst hj
    rwa [store_ports_self]
  · rw [store_ports_of_ne _ _ hj]

/-- A step that keeps the role and the number. -/
theorem kept (hd : OnePrimary rtOpts d) (h : RoleKept (d.node i o) n) (phase : Phase) :
    OnePrimary rtOpts (d.store i n phase) :=
  hd.store (by rw [h.role]; rfl) h.portNumber h.number phase

/-- Without another primary slave the number may be cleared. -/
theorem cleared (h : RoleCleared (d.node i o) n) (hother : ¬OtherPrimary rtOpts d i)
    (phase : Phase) : OnePrimary rtOpts (d.store i n phase) := by
  have hrole : ∀ j < rtOpts.portNumber,
      ((d.store i n phase).ports j).wr.wrSlaveRole ≠ .primarySlave := by
    intro j hj
    by_cases hij : j = i
    · subst hij
      rw [store_ports_self, h.role]
      decide
    · rw [store_ports_of_ne _ _ hij]
      exact fun hprimary => hother ⟨j, hj, hij, hprimary⟩
  exact ⟨fun j hj _ _ hprimary => absurd hprimary (hrole j hj),
    fun j hj hprimary => absurd hprimary (hrole j hj), fun _ => h.number⟩

/-- Without another primary slave a port may become it. -/
theorem taken (h : RoleTaken (d.node i o) n) (hother : ¬OtherPrimary rtOpts d i)
    (hi : i < rtOpts.portNumber) (phase : Phase) : OnePrimary rtOpts (d.store i n phase) := by
  have hself (j : ℕ) (hj : j < rtOpts.portNumber)
      (hprimary : ((d.store i n phase).ports j).wr.wrSlaveRole = .primarySlave) : j = i := by
    by_contra hij
    rw [store_ports_of_ne _ _ hij] at hprimary
    exact hother ⟨j, hj, hij, hprimary⟩
  refine ⟨fun j hj k hk hprimary hprimary' => ?_, fun j hj hprimary => ?_, fun hnone => ?_⟩
  · rw [hself j hj hprimary, hself k hk hprimary']
  · obtain rfl := hself j hj hprimary
    rw [store_ports_self, h.portNumber]
    exact h.number
  · refine absurd ?_ (hnone i hi)
    rw [store_ports_self]
    exact h.role

/-- A port that is not the primary slave may be given another role. -/
theorem left (hd : OnePrimary rtOpts d) (h : RoleLeft (d.node i o) n)
    (hi : (d.ports i).wr.wrSlaveRole ≠ .primarySlave) (phase : Phase) :
    OnePrimary rtOpts (d.store i n phase) :=
  hd.store (iff_of_false h.role hi) h.portNumber h.number phase

/-- A state decision whose update concerns no primary slave. -/
theorem writes (hd : OnePrimary rtOpts d) {c : DecisionCode} (h : c.Writes (d.node i o) n)
    (hkeeps : c.Keeps rtOpts d i) (hi : i < rtOpts.portNumber) (phase : Phase) :
    OnePrimary rtOpts (d.store i n phase) := by
  cases c with
  | m1 => exact cleared h hkeeps phase
  | s1 => exact taken h hkeeps hi phase
  | m3 | p1 | s2 => exact hd.left h hkeeps phase
  | none => exact hd.kept h phase

/-- The part of an iteration for all ports. -/
theorem shared (hd : OnePrimary rtOpts d) (tics : UInt64) (extsrcLocked : Bool) :
    OnePrimary rtOpts { d with
      ports := (sharedPortsLoop tics extsrcLocked d.ports d.clk).1
      clk := (sharedPortsLoop tics extsrcLocked d.ports d.clk).2
      phase := .link 0 } := by
  have hport := sharedPortsLoop_port d.ports tics extsrcLocked d.clk
  have hclk : (sharedPortsLoop tics extsrcLocked d.ports d.clk).2.primarySlavePortNumber =
      d.clk.primarySlavePortNumber := by
    obtain ⟨number, clockClass, timer, heq⟩ := sharedPortsLoop_snd d.ports tics extsrcLocked d.clk
    rw [heq]
    cases anyRecordUpdate d.ports d.clk.numberPorts <;> rfl
  refine hd.congr (fun j => ?_) (fun j => ?_) hclk
  · dsimp only
    rw [hport j]
  · dsimp only
    rw [hport j]

/-- Every guarded step keeps the primary slave and its number together. -/
theorem step (hd : OnePrimary rtOpts d) (hrange : d.InRange rtOpts)
    (h : KeepsPrimary rtOpts o d) : OnePrimary rtOpts (Daemon.step rtOpts o d) := by
  unfold KeepsPrimary at h
  cases hphase : d.phase with
  | link i =>
    rw [hphase] at h
    obtain ⟨phase, heq, -⟩ := Daemon.step_link rtOpts o hphase
    rw [heq]
    -- Of the actions on the link only an initialization writes the role.
    rcases linked_role_cases rtOpts (d.node i o) with hkept | ⟨hinit, hcleared⟩
    · exact hd.kept hkept phase
    · exact cleared hcleared (h hinit) phase
  | decide i =>
    rw [hphase] at h
    rw [Daemon.step_decide rtOpts o hphase]
    rcases stateDecision_role_cases rtOpts d.bestForeign (d.node i o) with
      hkept | ⟨hdecides, hwrites⟩
    · exact hd.kept hkept _
    · exact hd.writes hwrites (h hdecides) (hrange i (.inr (.inl hphase))) _
  | act i =>
    rw [hphase] at h
    rw [Daemon.step_act rtOpts o hphase]
    rcases doStateActions_role_cases rtOpts (d.node i o) with
      hkept | ⟨hm1, hcleared⟩ | ⟨hgives, hleft⟩
    · exact hd.kept hkept _
    · exact cleared hcleared (h.1 hm1) _
    · exact hd.left hleft (h.2 hgives) _
  | shared =>
    obtain ⟨tics, extsrcLocked, heq⟩ := Daemon.step_shared rtOpts o hphase
    rw [heq]
    exact hd.shared tics extsrcLocked

end OnePrimary

/-- In every run whose steps leave the primary slave alone, at most one port is the primary slave
and the clock has its number. -/
theorem onePrimary_of_guardedRun (rtOpts : RunTimeOpts) {d : Daemon}
    (h : GuardedRun (Daemon.Initial rtOpts) (Daemon.step rtOpts) (KeepsPrimary rtOpts) d) :
    OnePrimary rtOpts d :=
  GuardedRun.invariant_of h (fun _ hrun => Daemon.Reachable.inRange hrun.reachable)
    (fun _ hstart => OnePrimary.initial hstart) fun _ _ hrange hd hguard => hd.step hrange hguard

/-- A clock with two ports at the start of the main loop. -/
def redundantClock : Daemon :=
  .initial (defaultRtOpts 2)
    (fun i => if i = 0 then ![2, 0, 0, 0, 0, 0x10] else ![2, 0, 0, 0, 0, 0x11]) false 0 default

/-- An iteration in which each of the two ports receives a frame or nothing; the first one is a
slave only. -/
def redundantIteration (frames : Option (List UInt8) × Option (List UInt8)) : List Oracle :=
  let reception : Option (List UInt8) → Reception
    | some data => .frame ![0x01, 0x1b, 0x19, 0, 0, 0] data ⟨0, 0, 0, 1⟩
    | none => .nothing
  List.replicate 3 (Oracle.ready true .wrSlave (reception frames.1) 64 0) ++
    List.replicate 4 (Oracle.ready true .wrMAndS (reception frames.2) 64 0)

/-- Both ports hear the same White Rabbit master, and the first one is told to lock to it. -/
def redundantRun : List Oracle :=
  [(some masterAnnounce, some masterAnnounce), (none, none), (some (masterFrame LOCK), none),
    (none, none)].flatMap redundantIteration

/-- The state of the clock after this run. -/
def redundantState : Daemon :=
  runInputs (Daemon.step (defaultRtOpts 2)) redundantClock redundantRun

set_option maxRecDepth 100000 in
/-- The first port becomes the primary slave of this clock, and the second one a secondary slave. -/
theorem onePrimary_of_guardedRun_redundantState : OnePrimary (defaultRtOpts 2) redundantState ∧
    (redundantState.ports 0).wr.wrSlaveRole = .primarySlave ∧
    (redundantState.ports 1).wr.wrSlaveRole = .secondarySlave ∧
    redundantState.clk.primarySlavePortNumber = 1 :=
  ⟨onePrimary_of_guardedRun (defaultRtOpts 2)
    (.runInputs (.start ⟨Nat.two_pos, _, _, _, _, rfl⟩) redundantRun (by decide +kernel)),
    by decide +kernel⟩

/-! ### A link set-up that is given up -/

/-- An iteration at a reading of the millisecond counter, in which a slave-only port receives a
frame or nothing. -/
def iterationAt (tics : UInt64) (reception : Reception) : List Oracle :=
  List.replicate 4 (Oracle.ready true .wrSlave reception 64 tics)

/-- The port hears a White Rabbit master, which does not answer when it starts the link set-up: its
first state is repeated until the set-up is given up. -/
def abandonedState : Daemon :=
  runInputs (Daemon.step (defaultRtOpts 1)) (Daemon.single ![2, 0, 0, 0, 0, 1])
    (iterationAt 0 (.frame ![0x01, 0x1b, 0x19, 0, 0, 0] masterAnnounce ⟨0, 0, 0, 1⟩) ++
      [0, 1000, 2000, 3000, 4000].flatMap (iterationAt · .nothing))

set_option maxRecDepth 100000 in
/-- After the run of `abandonedState` the clock has the number of a port that is no slave. -/
theorem abandonedState_number : (abandonedState.ports 0).wr.wrSlaveRole = .nonSlave ∧
    abandonedState.clk.primarySlavePortNumber = 1 := by
  decide +kernel

/-- A clock may have the number of a port that is not its primary slave. -/
theorem not_forall_onePrimary :
    ¬∀ (rtOpts : RunTimeOpts) (d : Daemon), Daemon.Reachable rtOpts d → OnePrimary rtOpts d := by
  intro h
  obtain ⟨hrole, hnumber⟩ := abandonedState_number
  have hnone := (h (defaultRtOpts 1) abandonedState (Daemon.single_reachable _ _)).none
    fun i hi hprimary => by
      obtain rfl : i = 0 := Nat.lt_one_iff.mp hi
      rw [hrole] at hprimary
      cases hprimary
  rw [hnumber] at hnone
  cases hnone

end WhiteRabbitPtp
