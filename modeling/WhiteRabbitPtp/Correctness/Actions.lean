import WhiteRabbitPtp.Correctness.Decision

/-!
# The actions of the PTP states as a relation

What one call of `doStateActions` does, as a sequence of actions. Invariants of a port are proved
for the actions, once each, and then for the whole call and for the steps of the daemon.

## Main definitions

* `Action`, `QuietAction`: one action of a port, with the White Rabbit state machine or without.
* `RunsWr`: the actions of the port are those of its White Rabbit state machine.

## Main results

* `doStateActions_run`: a call of `doStateActions` is a sequence of actions.
* `doStateActions_induction`: the induction rule that follows.
* `doStateActions_of_runsWr`, `doStateActions_quiet_induction`: the same, told apart by `RunsWr`.
-/

namespace WhiteRabbitPtp

open Relation

/-- What a port does when it hears no master: it empties the foreign-master table by its counter and
its cursor, and leaves the White Rabbit mode. -/
def forgetMasters (n : Node) : Node :=
  { n with
    port.fm.numberForeignRecords := 0
    port.fm.foreignRecordI := 0
    port.wr.wrMode := .nonWr
    port.wr.wrModeON := false }

/-- One action of a port. -/
inductive Action (rtOpts : RunTimeOpts) (n : Node) : Node → Prop
  /-- A timer is polled or a message is issued. -/
  | frame {n' : Node} : WrFrame NotSignaling n n' → Action rtOpts n n'
  /-- The reception of a frame. -/
  | handle : Action rtOpts n (handle rtOpts n)
  /-- No Announce message was received for too long. -/
  | forgetMasters : Action rtOpts n (forgetMasters n)
  /-- The data sets of a grandmaster are written. -/
  | m1 : Action rtOpts n (m1 n)
  /-- A transition; none of the actions asks for `PTP_UNCALIBRATED`. -/
  | toState {state : PtpState} : state ≠ .uncalibrated → Action rtOpts n (toState state rtOpts n)
  /-- The White Rabbit state machine, in the states that run it. -/
  | wrState : n.port.portState = .uncalibrated ∨ n.port.portState = .master →
      Action rtOpts n (doWRState rtOpts n)
  /-- The register of the received message is cleared. -/
  | clearRegister : Action rtOpts n { n with port.wr.msgTmpWrMessageID := NULL_WR_TLV }

/-- One action of a port outside of its White Rabbit state machine. -/
inductive QuietAction (rtOpts : RunTimeOpts) (n : Node) : Node → Prop
  | frame {n' : Node} : WrFrame NotSignaling n n' → QuietAction rtOpts n n'
  | handle : QuietAction rtOpts n (handle rtOpts n)
  | forgetMasters : QuietAction rtOpts n (forgetMasters n)
  | m1 : QuietAction rtOpts n (m1 n)
  | toState {state : PtpState} : state ≠ .uncalibrated →
      QuietAction rtOpts n (toState state rtOpts n)
  | clearRegister : QuietAction rtOpts n { n with port.wr.msgTmpWrMessageID := NULL_WR_TLV }

section Actions

variable {rtOpts : RunTimeOpts} {n m n' : Node}

theorem QuietAction.action (h : QuietAction rtOpts n n') : Action rtOpts n n' := by
  cases h with
  | frame h => exact .frame h
  | handle => exact .handle
  | forgetMasters => exact .forgetMasters
  | m1 => exact .m1
  | toState h => exact .toState h
  | clearRegister => exact .clearRegister

/-- The actions of a port, one after the other. -/
abbrev ActionRun (rtOpts : RunTimeOpts) : Node → Node → Prop := ReflTransGen (Action rtOpts)

@[inherit_doc ActionRun]
abbrev QuietRun (rtOpts : RunTimeOpts) : Node → Node → Prop := ReflTransGen (QuietAction rtOpts)

theorem Action.run (h : Action rtOpts n n') : ActionRun rtOpts n n' := .single h

theorem QuietAction.run (h : QuietAction rtOpts n n') : QuietRun rtOpts n n' := .single h

theorem QuietRun.actionRun (h : QuietRun rtOpts n n') : ActionRun rtOpts n n' :=
  ReflTransGen.mono (fun _ _ => QuietAction.action) _ _ h

/-- What happens when no Announce message was received for too long. -/
theorem announceReceiptTimeoutExpires_eq (rtOpts : RunTimeOpts) (n : Node) :
    announceReceiptTimeoutExpires rtOpts n =
      if n.port.wr.wrConfig ≠ .wrSOnly ∧ n.clk.clockQuality.clockClass ≠ 255 then
        toState .master rtOpts (m1 (forgetMasters n))
      else if n.port.portState ≠ .listening then toState .listening rtOpts (forgetMasters n)
      else forgetMasters n := rfl

theorem announceReceiptTimeoutExpires_run (n : Node) :
    QuietRun rtOpts n (announceReceiptTimeoutExpires rtOpts n) := by
  have hforget : QuietRun rtOpts n (forgetMasters n) := QuietAction.forgetMasters.run
  rw [announceReceiptTimeoutExpires_eq]
  split
  · -- A clock that may be a grandmaster becomes one.
    exact (hforget.tail .m1).tail (.toState (by decide))
  split
  · -- A slave only clock waits for another master instead.
    exact hforget.tail (.toState (by decide))
  · exact hforget

/-- The request for the delay that is issued when its interval is over. -/
def requestTimer (rtOpts : RunTimeOpts) (n : Node) : Node :=
  if rtOpts.E2E_mode then onTimer .delayReq (issueDelayReq rtOpts) n
  else onTimer .pdelayReq (issuePDelayReq rtOpts) n

theorem requestTimer_handled (rtOpts : RunTimeOpts) (n : Node) {p : Footprint}
    (hkinds : p.kinds = Footprint.any.kinds) : Handled rtOpts p n (requestTimer rtOpts n) := by
  have hdelayReq : DELAY_REQ ∈ p.kinds := by rw [hkinds]; decide
  have hpdelayReq : PDELAY_REQ ∈ p.kinds := by rw [hkinds]; decide
  exact Handled.ite (onTimer_handled fun _ => Issue.handled .delayReq hdelayReq (by decide))
    (onTimer_handled fun _ => Issue.handled .pdelayReq hpdelayReq (by decide))

/-- What a port does after it has received a frame, in a state that listens to a master. -/
def slaveTimers (rtOpts : RunTimeOpts) (n : Node) : Node :=
  let n := onTimer .announceReceipt (announceReceiptTimeoutExpires rtOpts) n
  if rtOpts.E2E_mode then onTimer .delayReq (issueDelayReq rtOpts) n
  else onTimer .pdelayReq (issuePDelayReq rtOpts) n

theorem slaveTimers_eq (rtOpts : RunTimeOpts) (n : Node) : slaveTimers rtOpts n =
    requestTimer rtOpts (onTimer .announceReceipt (announceReceiptTimeoutExpires rtOpts) n) := rfl

theorem doSlaveActions_eq (rtOpts : RunTimeOpts) (n : Node) :
    doSlaveActions rtOpts n = slaveTimers rtOpts (handle rtOpts n) := rfl

/-- What handling a frame leads to, and losing the master and the effects of the timers keep, holds
after the actions of a port that listens to a master. -/
theorem doSlaveActions_induction {P : Node → Prop} (hhandle : P (handle rtOpts n))
    (hexpires : ∀ m, P m → P (announceReceiptTimeoutExpires rtOpts m))
    (heffects : ∀ m m', P m → Handled rtOpts .any m m' → P m') : P (doSlaveActions rtOpts n) := by
  have hpolled : P ((handle rtOpts n).timerPolled .announceReceipt) :=
    heffects _ _ hhandle (Effect.timerPolled _).handled
  rw [doSlaveActions_eq, slaveTimers_eq]
  refine heffects _ _ ?_ (requestTimer_handled rtOpts _ rfl)
  -- Only an expired timer makes the port forget its master; the poll itself is one effect.
  unfold onTimer
  split
  · exact hexpires _ hpolled
  · exact hpolled

theorem doSlaveActions_run (n : Node) : QuietRun rtOpts n (doSlaveActions rtOpts n) :=
  doSlaveActions_induction (P := QuietRun rtOpts n) QuietAction.handle.run
    (fun m hm => hm.trans (announceReceiptTimeoutExpires_run m))
    fun _ _ hm h => hm.tail (.frame h.wrFrame)

/-- What a master does after it has received a frame. -/
def masterTimers (rtOpts : RunTimeOpts) (n : Node) : Node :=
  let n := onTimer .sync (fun n =>
    let n := issueSync rtOpts n
    if n.port.synchTxTs.correct ≠ 0 then issueFollowup rtOpts n else n) n
  let n := onTimer .announceInterval (issueAnnounce rtOpts) n
  if !rtOpts.E2E_mode then onTimer .pdelayReq (issuePDelayReq rtOpts) n else n

theorem doMasterActions_eq (rtOpts : RunTimeOpts) (n : Node) :
    doMasterActions rtOpts n =
      let n := masterTimers rtOpts (handle rtOpts n)
      if n.port.wr.wrConfig = .wrSOnly ∨ n.clk.clockQuality.clockClass = 255 then
        toState .listening rtOpts n
      else n := rfl

theorem masterTimers_handled (rtOpts : RunTimeOpts) (n : Node) {p : Footprint}
    (hkinds : p.kinds = Footprint.any.kinds) : Handled rtOpts p n (masterTimers rtOpts n) := by
  have hissue (n : Node) (message : Issue) (hmem : message.type ∈ Footprint.any.kinds)
      (htype : message.type ≠ SIGNALING) : Handled rtOpts p n (message.run rtOpts n) :=
    message.handled (hkinds ▸ hmem) htype
  -- The FollowUp is part of the same timer, and is left out when the timestamp is no good.
  have hsync (m : Node) : Handled rtOpts p m (let n := issueSync rtOpts m
      if n.port.synchTxTs.correct ≠ 0 then issueFollowup rtOpts n else n) :=
    (hissue m .sync (by decide) (by decide)).trans
      (Handled.ite (hissue _ .followup (by decide) (by decide)) .refl)
  have hannounced := (onTimer_handled (n := n) (t := .sync) hsync).trans
    (onTimer_handled (t := .announceInterval)
      fun m => hissue m .announce (by decide) (by decide))
  exact hannounced.trans
    (Handled.ite (onTimer_handled fun m => hissue m .pdelayReq (by decide) (by decide)) .refl)

theorem masterTimers_wrFrame (rtOpts : RunTimeOpts) (n : Node) :
    WrFrame NotSignaling n (masterTimers rtOpts n) :=
  (masterTimers_handled rtOpts n (p := .any) rfl).wrFrame

theorem doMasterActions_run (n : Node) : QuietRun rtOpts n (doMasterActions rtOpts n) := by
  have htimers : QuietRun rtOpts n (masterTimers rtOpts (handle rtOpts n)) :=
    (QuietAction.handle.run).tail (.frame (masterTimers_wrFrame _ _))
  rw [doMasterActions_eq]
  dsimp only
  split
  · exact htimers.tail (.toState (by decide))
  · exact htimers

/-- Whether the actions of a port run its White Rabbit state machine. -/
def RunsWr (n : Node) : Prop :=
  n.port.portState = .uncalibrated ∧ n.port.wr.wrMode = .wrSlave ∨
    n.port.portState = .master ∧ n.port.wr.wrMode = .wrMaster ∧ n.port.wr.wrPortState ≠ .idle

instance : DecidablePred RunsWr := fun n => by
  unfold RunsWr
  infer_instance

/-- The actions of a port that runs its White Rabbit state machine. -/
theorem doStateActions_of_runsWr (h : RunsWr n) :
    doStateActions rtOpts n =
      { doWRState rtOpts n with port.wr.msgTmpWrMessageID := NULL_WR_TLV } := by
  unfold doStateActions
  rcases h with ⟨hstate, hmode⟩ | ⟨hstate, hmode⟩
  · rw [hstate]
    dsimp only
    rw [if_pos hmode]
  · rw [hstate]
    dsimp only
    rw [if_pos hmode]

/-- The actions of a port that does not run its White Rabbit state machine. -/
theorem doStateActions_quiet_run (h : ¬RunsWr n) : QuietRun rtOpts n (doStateActions rtOpts n) := by
  unfold doStateActions
  split
  next => exact (QuietAction.toState (by decide)).run
  next hstate =>
    -- `PTP_UNCALIBRATED` without a White Rabbit mode goes on to `PTP_SLAVE` at once.
    rw [if_neg fun hmode => h (.inl ⟨hstate, hmode⟩)]
    exact (QuietAction.toState (by decide)).run.tail .clearRegister
  next =>
    split
    · exact (QuietAction.m1.run).tail (.toState (by decide))
    · exact doSlaveActions_run n
  next => exact doSlaveActions_run n
  next => exact doSlaveActions_run n
  next hstate =>
    rw [if_neg fun hmode => h (.inr ⟨hstate, hmode⟩)]
    exact doMasterActions_run n
  next => exact QuietAction.handle.run
  next => exact .refl
  next => exact .refl

/-- A call of `doStateActions` is a sequence of actions. -/
theorem doStateActions_run (n : Node) : ActionRun rtOpts n (doStateActions rtOpts n) := by
  by_cases h : RunsWr n
  · rw [doStateActions_of_runsWr h]
    -- The state machine runs in two states only, which is all that an action says about it.
    exact ((Action.wrState (h.imp And.left And.left)).run).tail .clearRegister
  · exact (doStateActions_quiet_run h).actionRun

/-- What every quiet action keeps is kept where the White Rabbit state machine does not run. -/
theorem doStateActions_quiet_induction {P : Node → Prop} (hquiet : ¬RunsWr n) (h : P n)
    (haction : ∀ m m', P m → QuietAction rtOpts m m' → P m') : P (doStateActions rtOpts n) := by
  have hrun : QuietRun rtOpts n (doStateActions rtOpts n) := doStateActions_quiet_run hquiet
  generalize doStateActions rtOpts n = n' at hrun
  induction hrun with
  | refl => exact h
  | tail _ hstep ih => exact haction _ _ ih hstep

/-- What every action keeps is kept by all of them together. -/
theorem doStateActions_induction {P : Node → Prop} (h : P n)
    (haction : ∀ m m', P m → Action rtOpts m m' → P m') : P (doStateActions rtOpts n) := by
  have hrun : ActionRun rtOpts n (doStateActions rtOpts n) := doStateActions_run n
  generalize doStateActions rtOpts n = n' at hrun
  induction hrun with
  | refl => exact h
  | tail _ hstep ih => exact haction _ _ ih hstep

/-- The counter of foreign masters may be reset by an action; what is left of the frame. -/
structure ActionFrame (n n' : Node) : Prop where
  versionNumber : n'.port.versionNumber = n.port.versionNumber
  linkUP : n'.port.linkUP = n.port.linkUP
  clockIdentity : n'.port.clockIdentity = n.port.clockIdentity
  portIdentity : n'.port.portIdentity = n.port.portIdentity
  wrConfig : n'.port.wr.wrConfig = n.port.wr.wrConfig
  answers : n'.netif.oracle.answers = n.netif.oracle.answers

theorem Frame.actionFrame (h : Frame n n') : ActionFrame n n' :=
  ⟨h.versionNumber, h.linkUP, h.clockIdentity, h.portIdentity, h.wrConfig, h.answers⟩

/-- What every action leaves alone. -/
theorem Action.actionFrame (h : Action rtOpts n n') : ActionFrame n n' := by
  cases h with
  | frame h => exact h.toFrame.actionFrame
  | handle => exact (handle_frame rtOpts n).actionFrame
  | forgetMasters => constructor <;> rfl
  | m1 =>
    have hm1 := m1_decided n
    exact ⟨hm1.versionNumber, hm1.linkUP, hm1.clockIdentity, hm1.portIdentity, by rw [hm1.wr],
      by rw [hm1.netif]⟩
  | toState => exact (toState_frame rtOpts n _).actionFrame
  | wrState => exact (doWRState_frame rtOpts n).actionFrame
  | clearRegister => constructor <;> rfl

theorem Action.versionNumber (h : Action rtOpts n n') :
    n'.port.versionNumber = n.port.versionNumber :=
  h.actionFrame.versionNumber

end Actions

end WhiteRabbitPtp
