import WhiteRabbitPtp.Correctness.Outgoing

/-!
# Which messages a port sends in which state

A master sends its Sync and Announce messages by two timers, a slave its requests by another one.
The actions of a state poll the timers of that state without a look at the others, so it is the
transitions that have to stop and start them.

## Main definitions

* `Sends`: what any action of a port does with its timers, and the messages it sends.
* `Enters`: what entering a state does with a port whose timers were stopped.
* `Daemon.HandsOver`: what a port hands over while the daemon becomes another one.

## Main results

* `timed_of_fitting`: in every run whose frames fit, the timers of a port are those of its state.
* `sends_of_fitting`: in every step of such a run a port only sends the messages of its state, under
  its own identity.
* `configured_sends`: a port with a fixed role only sends the messages of that role.
-/

namespace WhiteRabbitPtp

open Octets Buffer InputSystem

/-! ### Transitions -/

/-- What any action of a port does: the timers of the port stay those of its state, and the messages
sent are of some types. -/
structure Sends (rtOpts : RunTimeOpts) (kinds : List UInt8) (n n' : Node) : Prop where
  identity : n'.port.portIdentity = n.port.portIdentity
  headed : Headed n.port → Headed n'.port
  timed : Timed rtOpts n.port → Timed rtOpts n'.port
  sent : Headed n.port → Timed rtOpts n.port → SendsOnly kinds n n'

section Transitions

variable {rtOpts : RunTimeOpts} {kinds kinds' : List UInt8} {n n' n'' : Node}

theorem Handles.sends (h : Handles rtOpts kinds n n') : Sends rtOpts kinds n n' :=
  ⟨h.identity, h.headed, h.timed, fun hn _ => h.sent hn⟩

@[refl]
theorem Sends.refl (n : Node) : Sends rtOpts kinds n n := (Handles.refl n).sends

@[trans]
theorem Sends.trans (h : Sends rtOpts kinds n n') (h' : Sends rtOpts kinds n' n'') :
    Sends rtOpts kinds n n'' where
  identity := h'.identity.trans h.identity
  headed hn := h'.headed (h.headed hn)
  timed hn := h'.timed (h.timed hn)
  sent hn htimed := (h.sent hn htimed).trans (h'.sent (h.headed hn) (h.timed htimed)) h.identity

/-- What entering a state does with a port whose timers were stopped. -/
structure Enters (rtOpts : RunTimeOpts) (kinds : List UInt8) (n n' : Node) : Prop where
  identity : n'.port.portIdentity = n.port.portIdentity
  headed : Headed n.port → Headed n'.port
  timed : Quiet n.port → n.port.logSyncInterval = rtOpts.syncInterval →
    n.port.logAnnounceInterval = rtOpts.announceInterval → Timed rtOpts n'.port
  sent : Headed n.port → SendsOnly kinds n n'

/-- A transition leaves one state and enters another one. -/
theorem Enters.sends (h : Enters rtOpts kinds (leaveState rtOpts n) n') :
    Sends rtOpts kinds n n' := by
  have hport := leaveState_outgoing rtOpts n
  refine ⟨h.identity.trans (congrArg Outgoing.portIdentity hport),
    fun hn => h.headed (hn.of_eq hport), fun hn => ?_, fun hn _ => ?_⟩
  · exact h.timed (leaveState_quiet hn)
      ((congrArg Outgoing.logSyncInterval hport).trans hn.logSyncInterval)
      ((congrArg Outgoing.logAnnounceInterval hport).trans hn.logAnnounceInterval)
  · exact .trans (.of_eq (leaveState_sent _ _)) (h.sent (hn.of_eq hport))
      (congrArg Outgoing.portIdentity hport)

theorem timerStart_outgoing (n : Node) (t : PtpTimer) (interval : ℤ) :
    (n.timerStart t interval).port.outgoing = n.port.outgoing := rfl

theorem setPortState_outgoing (n : Node) (state : PtpState) :
    ({ n with port.portState := state } : Node).port.outgoing = n.port.outgoing := rfl

theorem setPortState_interval (n : Node) (state : PtpState) (t : PtpTimer) :
    ({ n with port.portState := state } : Node).port.interval t = n.port.interval t := rfl

/-- Entering a state other than `PTP_UNCALIBRATED` concerns timers and the servo. -/
theorem enterState_outgoing (rtOpts : RunTimeOpts) {state : PtpState} (h : state ≠ .uncalibrated)
    (n : Node) :
    (enterState state rtOpts n).port.outgoing = n.port.outgoing := by
  have hinit : (wrServoInit n).port.outgoing = n.port.outgoing := by
    unfold wrServoInit
    dsimp only
    split <;> rfl
  cases state <;> unfold enterState <;> dsimp only
  case uncalibrated => exact absurd rfl h
  case listening => rw [setPortState_outgoing, timerStart_outgoing]
  case master =>
    rw [setPortState_outgoing, timerStart_outgoing, timerStart_outgoing, timerStart_outgoing]
  case passive => rw [setPortState_outgoing, timerStart_outgoing, timerStart_outgoing]
  case slave =>
    rw [setPortState_outgoing]
    split <;> rw [timerStart_outgoing, timerStart_outgoing] <;> exact hinit
  all_goals rfl

/-- A master starts the timers of its messages. -/
theorem interval_enterState_master (rtOpts : RunTimeOpts) (n : Node) (t : PtpTimer) :
    (enterState .master rtOpts n).port.interval t =
      if t = .pdelayReq then i32 (1000 * pow2 n.port.logMinPdelayReqInterval)
      else if t = .announceInterval then i32 (1000 * pow2 n.port.logAnnounceInterval)
      else if t = .sync then i32 (1000 * pow2 n.port.logSyncInterval)
      else n.port.interval t := by
  unfold enterState
  dsimp only
  rw [setPortState_interval, interval_timerStart, interval_timerStart, interval_timerStart]
  rfl

/-- A passive port starts the timer of its requests. -/
theorem interval_enterState_passive (rtOpts : RunTimeOpts) (n : Node) {t : PtpTimer}
    (ht : t ≠ .announceInterval) : (enterState .passive rtOpts n).port.interval t =
      if t = .pdelayReq then i32 (1000 * pow2 n.port.logMinPdelayReqInterval)
      else n.port.interval t := by
  unfold enterState
  dsimp only
  rw [setPortState_interval, interval_timerStart, interval_timerStart, if_neg ht]

/-- A slave starts the timer of the requests that it has, besides the announce receipt timer. -/
theorem interval_enterState_slave (rtOpts : RunTimeOpts) (n : Node) {t : PtpTimer}
    (ht : t ≠ .announceReceipt)
    (hne : (enterState .slave rtOpts n).port.interval t ≠ n.port.interval t) :
    t = if rtOpts.E2E_mode then .delayReq else .pdelayReq := by
  have hinit : (wrServoInit n).port.interval t = n.port.interval t := by
    unfold wrServoInit
    dsimp only
    split <;> rfl
  revert hne
  unfold enterState
  dsimp only
  rw [setPortState_interval]
  split <;> rw [interval_timerStart, interval_timerStart, if_neg ht] <;>
    refine fun hne => by_contra fun hother => hne ?_ <;> rw [if_neg hother] <;> exact hinit

/-- Entering a state starts the timers of that state. -/
theorem enterState_timed {state : PtpState} (hun : state ≠ .uncalibrated)
    (hpre : state ≠ .preMaster) (hquiet : Quiet n.port)
    (hsync : n.port.logSyncInterval = rtOpts.syncInterval)
    (hannounce : n.port.logAnnounceInterval = rtOpts.announceInterval) :
    Timed rtOpts (enterState state rtOpts n).port := by
  have hport := enterState_outgoing rtOpts hun n
  have hstate := enterState_portState rtOpts n hun hpre
  have hsync' := (congrArg Outgoing.logSyncInterval hport).trans hsync
  have hannounce' := (congrArg Outgoing.logAnnounceInterval hport).trans hannounce
  have hidle (hinterval : ∀ t ≠ .announceReceipt,
      (enterState state rtOpts n).port.interval t = n.port.interval t) (hne : state ≠ .master) :
      Timed rtOpts (enterState state rtOpts n).port :=
    Quiet.timed ⟨(hinterval _ (by decide)).trans hquiet.sync,
      (hinterval _ (by decide)).trans hquiet.delayReq,
      (hinterval _ (by decide)).trans hquiet.pdelayReq⟩ hsync' hannounce' (by rwa [hstate])
  cases state
  case uncalibrated => exact absurd rfl hun
  case preMaster => exact absurd rfl hpre
  case initializing | faulty | disabled => exact hidle (fun _ _ => rfl) (by decide)
  case listening =>
    refine hidle (fun t ht => ?_) (by decide)
    unfold enterState
    dsimp only
    rw [setPortState_interval, interval_timerStart, if_neg ht]
  case master =>
    refine ⟨hsync', hannounce', fun _ => ⟨?_, ?_⟩, fun _ => hstate, fun h => ?_,
      fun _ => .inl hstate⟩
    · simp [interval_enterState_master, hsync]
    · simp [interval_enterState_master, hannounce]
    · simp [interval_enterState_master, hquiet.delayReq] at h
  case passive =>
    refine ⟨hsync', hannounce', fun h => ?_, fun h => ?_, fun h => ?_, fun _ => .inr (.inl hstate)⟩
    · rw [hstate] at h
      cases h
    · simp [interval_enterState_passive, hquiet.sync] at h
    · simp [interval_enterState_passive, hquiet.delayReq] at h
  case slave =>
    have hinterval {t : PtpTimer} (ht : t ≠ .announceReceipt) (hzero : n.port.interval t = 0)
        (hne : (enterState .slave rtOpts n).port.interval t ≠ 0) :
        t = if rtOpts.E2E_mode then .delayReq else .pdelayReq :=
      interval_enterState_slave rtOpts n ht (by rwa [hzero])
    refine ⟨hsync', hannounce', fun h => ?_, fun h => ?_, fun h => ⟨hstate, ?_⟩,
      fun h => .inr (.inr ⟨hstate, ?_⟩)⟩
    · rw [hstate] at h
      cases h
    -- The timer of the requests is the only one that may run.
    · have htimer := hinterval (by decide) hquiet.sync h
      split at htimer <;> cases htimer
    · have htimer := hinterval (by decide) hquiet.delayReq h
      split at htimer
      next hmode => exact hmode
      next => cases htimer
    · have htimer := hinterval (by decide) hquiet.pdelayReq h
      split at htimer
      next => cases htimer
      next hmode => simpa using hmode

/-- Entering a state starts its timers. Only the start of a link set-up sends anything. -/
theorem enterState_enters {state : PtpState} (hpre : state ≠ .preMaster)
    (hkinds : state = .uncalibrated →
      (enterState state rtOpts n).port.portState = .uncalibrated → SIGNALING ∈ kinds) :
    Enters rtOpts kinds n (enterState state rtOpts n) := by
  by_cases hun : state = .uncalibrated
  · subst hun
    -- Without a set-up the enter case of `PTP_UNCALIBRATED` makes the port a slave at once.
    have hslave (wr : WrPortDS) : Enters rtOpts kinds n
        { n with port.wr := wr, port.portState := .slave } :=
      ⟨rfl, fun hn => ⟨hn.version, hn.source⟩, fun hquiet hsync hannounce =>
        Quiet.timed ⟨hquiet.sync, hquiet.delayReq, hquiet.pdelayReq⟩ hsync hannounce (by simp),
        fun _ => .of_eq rfl⟩
    have hkinds := hkinds rfl
    unfold enterState at hkinds ⊢
    dsimp only at hkinds ⊢
    split
    next hsetUp =>
      rw [if_pos hsetUp] at hkinds
      split
      next hoff =>
        rw [if_pos hoff] at hkinds
        have hpresent := toWRState_handles rtOpts .present n (hkinds rfl)
        generalize toWRState .present rtOpts n = m at hpresent ⊢
        refine ⟨hpresent.identity, fun hn => (hpresent.headed hn).of_eq rfl,
          fun hquiet hsync hannounce => ?_, fun hn => hpresent.sent hn⟩
        have hquiet' := hpresent.quiet hquiet
        exact Quiet.timed ⟨hquiet'.sync, hquiet'.delayReq, hquiet'.pdelayReq⟩
          (hpresent.logSyncInterval.trans hsync) (hpresent.logAnnounceInterval.trans hannounce)
          (by simp)
      next => exact hslave _
    next => exact hslave _
  · have hport := enterState_outgoing rtOpts hun n
    exact ⟨congrArg Outgoing.portIdentity hport, fun hn => hn.of_eq hport,
      enterState_timed hun hpre, fun _ => .of_eq (enterState_eq rtOpts n hun).2⟩

/-- A transition stops the timers of one state and starts those of another one. -/
theorem toState_sends {state : PtpState} (hpre : state ≠ .preMaster)
    (hkinds : state = .uncalibrated →
      (toState state rtOpts n).port.portState = .uncalibrated → SIGNALING ∈ kinds) :
    Sends rtOpts kinds n (toState state rtOpts n) := by
  unfold toState at hkinds ⊢
  split
  · rfl
  next hidle =>
    rw [if_neg hidle] at hkinds
    exact (enterState_enters hpre hkinds).sends

/-- A transition other than the start of a link set-up sends nothing. -/
theorem toState_sends_of_ne {state : PtpState} (hpre : state ≠ .preMaster)
    (hun : state ≠ .uncalibrated) : Sends rtOpts kinds n (toState state rtOpts n) :=
  toState_sends hpre fun h => absurd h hun

end Transitions

/-! ### The White Rabbit state machine -/

section WRStates

variable {rtOpts : RunTimeOpts} {kinds : List UInt8} {n n' : Node}

theorem silentMoves_handles (h : Relation.ReflTransGen SilentMove n n') :
    Handles rtOpts kinds n n' :=
  sequence_of_preorder .refl .trans
    (fun hmove => by cases hmove <;> exact .of_eq rfl rfl rfl rfl) h

theorem doWrLinkOn_sends (n : Node) (hkinds : SIGNALING ∈ kinds) :
    Sends rtOpts kinds n (doWrLinkOn rtOpts n) := by
  have hidle := (toWRState_handles rtOpts .idle n hkinds).sends
  unfold doWrLinkOn
  dsimp only
  split
  · exact hidle.trans (toState_sends_of_ne (by decide) (by decide))
  · exact hidle.trans (toState_sends_of_ne (by decide) (by decide))
  · exact hidle

theorem WrEnd.sends (h : WrEnd rtOpts n n') (hkinds : SIGNALING ∈ kinds) :
    Sends rtOpts kinds n n' := by
  have hset (n : Node) (wr : WrPortDS) : Handles rtOpts kinds n { n with port.wr := wr } :=
    .of_eq rfl rfl rfl rfl
  cases h with
  | stay => rfl
  | enter => exact (toWRState_handles rtOpts _ n hkinds).sends
  | lock => exact ((toWRState_handles rtOpts .sLock n hkinds).trans (hset _ _)).sends
  | calibrated =>
    have hissue := Issue.run_handles rtOpts n (.wrSignaling CALIBRATED) hkinds
    exact ((hissue.trans (toWRState_handles _ _ _ hkinds)).trans (hset _ _)).sends
  | linkOn => exact doWrLinkOn_sends n hkinds

theorem SilentRun.sends (h : SilentRun rtOpts n n') (hkinds : SIGNALING ∈ kinds) :
    Sends rtOpts kinds n n' := by
  obtain ⟨m, hmoves, hend⟩ := h
  exact (silentMoves_handles hmoves).sends.trans (hend.sends hkinds)

theorem abandon_sends (wrMode : WrMode) (n : Node) (hkinds : SIGNALING ∈ kinds) :
    Sends rtOpts kinds n (abandon rtOpts wrMode n) := by
  have hfallback : fallbackState rtOpts wrMode ≠ .uncalibrated ∧
      fallbackState rtOpts wrMode ≠ .preMaster := by
    unfold fallbackState
    split_ifs <;> decide
  have hoff : Handles rtOpts kinds n { n with port.wr.wrModeON := false } := .of_eq rfl rfl rfl rfl
  have hidle := hoff.trans (toWRState_handles rtOpts .idle _ hkinds)
  have hreset (m : Node) : Handles rtOpts kinds m (initWrData .init m) := .of_eq rfl rfl rfl rfl
  unfold abandon
  exact (hidle.sends.trans (toState_sends_of_ne hfallback.2 hfallback.1)).trans (hreset _).sends

/-- A White Rabbit state receives at most one frame, before its transition. -/
theorem wrStateActions_sends (hkinds : SIGNALING ∈ kinds)
    (hanswers : n.port.portState.answers rtOpts.E2E_mode ⊆ kinds)
    (hwr : n.port.portState = .uncalibrated → n.port.wr.wrMode ≠ .nonWr) :
    Sends rtOpts kinds n (wrStateActions rtOpts n) := by
  cases hhearing : wrHearing n with
  | none =>
    have hrun : SilentRun rtOpts n (wrStateActions rtOpts n) := wrStateActions_silentRun hhearing
    exact hrun.sends hkinds
  | some k =>
    have hrun : SilentRun rtOpts (handle rtOpts k) (wrStateActions rtOpts n) :=
      wrStateActions_hearingRun hhearing
    have hk : k.port.portState = n.port.portState ∧ k.port.wr.wrMode = n.port.wr.wrMode := by
      rcases wrHearing_cases hhearing with ⟨-, rfl⟩ | ⟨-, c, rfl⟩ <;> exact ⟨rfl, rfl⟩
    have hhandle := handle_answers rtOpts (n := k) (by rwa [hk.1, hk.2])
    rw [hk.1] at hhandle
    replace hhandle := hhandle.mono hanswers
    exact ((silentMoves_handles (wrHearing_moves hhearing)).trans hhandle).sends.trans
      (hrun.sends hkinds)

/-- The time-out of a White Rabbit state is looked at after its actions. -/
theorem wrTimerExpired_sends (n : Node) (hkinds : SIGNALING ∈ kinds) : Sends rtOpts kinds n
    (wrTimerExpired n.port.wr.wrPortState.mainState rtOpts n.port.wr.wrMode n) := by
  have hpolled (s : WrState) : Handles rtOpts kinds n (wrTimerPolled s n) := .of_eq rfl rfl rfl rfl
  rcases wrTimerExpired_cases rtOpts n n.port.wr.wrPortState.mainState n.port.wr.wrMode with
    ⟨-, h⟩ | ⟨-, h | h | h⟩ <;> rw [h]
  · exact (hpolled _).sends
  · exact ((hpolled _).trans (toWRState_handles _ _ _ hkinds)).sends
  · exact (hpolled _).sends.trans (abandon_sends _ _ hkinds)

theorem doWRState_sends (hkinds : SIGNALING ∈ kinds)
    (hanswers : n.port.portState.answers rtOpts.E2E_mode ⊆ kinds)
    (hwr : n.port.portState = .uncalibrated → n.port.wr.wrMode ≠ .nonWr) :
    Sends rtOpts kinds n (doWRState rtOpts n) :=
  (wrStateActions_sends hkinds hanswers hwr).trans (wrTimerExpired_sends _ hkinds)

end WRStates

/-! ### The phases of a port -/

section Phases

variable {rtOpts : RunTimeOpts} {kinds : List UInt8} {n : Node}

theorem onTimer_handles {t : PtpTimer} {action : Node → Node}
    (h : ∀ m, Handles rtOpts kinds m (action m)) (n : Node) :
    Handles rtOpts kinds n (onTimer t action n) := by
  unfold onTimer
  split
  · exact (timerPolled_handles rtOpts kinds n t).trans (h _)
  · exact timerPolled_handles rtOpts kinds n t

theorem announceReceiptTimeoutExpires_sends (n : Node) :
    Sends rtOpts kinds n (announceReceiptTimeoutExpires rtOpts n) := by
  have hforget : Handles rtOpts kinds n (forgetMasters n) := .of_eq rfl rfl rfl rfl
  have hm1 : Handles rtOpts kinds n (m1 (forgetMasters n)) := .of_eq rfl rfl rfl rfl
  rw [announceReceiptTimeoutExpires_eq]
  split
  · exact hm1.sends.trans (toState_sends_of_ne (by decide) (by decide))
  split
  · exact hforget.sends.trans (toState_sends_of_ne (by decide) (by decide))
  · exact hforget.sends

/-- A Sync and, when its time is known, its FollowUp. -/
theorem issueSyncs_handles (rtOpts : RunTimeOpts) (n : Node) : Handles rtOpts [SYNC, FOLLOW_UP] n
    (if (issueSync rtOpts n).port.synchTxTs.correct ≠ 0 then
      issueFollowup rtOpts (issueSync rtOpts n) else issueSync rtOpts n) := by
  have hsync := Issue.run_handles rtOpts n .sync (show SYNC ∈ [SYNC, FOLLOW_UP] by decide)
  split
  · exact hsync.trans (Issue.run_handles rtOpts _ .followup (by decide))
  · exact hsync

/-- The types of the messages that a master sends by its timers. -/
theorem PtpState.timed_subset_sends (e2e : Bool) :
    [SYNC, FOLLOW_UP, ANNOUNCE] ⊆ PtpState.sends e2e .master ∧
      (e2e = false → PDELAY_REQ ∈ PtpState.sends e2e .master) := by
  cases e2e <;> decide

theorem masterTimers_handles (rtOpts : RunTimeOpts) (n : Node)
    (hkinds : [SYNC, FOLLOW_UP, ANNOUNCE] ⊆ kinds)
    (hrequest : rtOpts.E2E_mode = false → PDELAY_REQ ∈ kinds) :
    Handles rtOpts kinds n (masterTimers rtOpts n) := by
  have hsync := onTimer_handles (t := .sync) (fun m => (issueSyncs_handles rtOpts m).mono
    (List.Subset.trans (List.subset_append_left _ [ANNOUNCE]) hkinds)) n
  have hannounce := hsync.trans (onTimer_handles (t := .announceInterval)
    (fun m => Issue.run_handles rtOpts m .announce (hkinds (by decide))) _)
  unfold masterTimers
  dsimp only
  split
  next hmode =>
    have hrequest := hrequest (by simpa using hmode)
    exact hannounce.trans
      (onTimer_handles (fun m => Issue.run_handles rtOpts m .pdelayReq hrequest) _)
  next => exact hannounce

/-- A timer that is stopped does not expire, so its message is sent only when it runs. -/
theorem onTimer_sends {t : PtpTimer} {action : Node → Node} {kind : UInt8}
    (haction : ∀ m, Handles rtOpts [kind] m (action m))
    (hkind : Timed rtOpts n.port → n.port.interval t ≠ 0 → kind ∈ kinds) :
    Sends rtOpts kinds n (onTimer t action n) := by
  have hhandles := onTimer_handles (t := t) haction n
  refine ⟨hhandles.identity, hhandles.headed, hhandles.timed, fun hn htimed => ?_⟩
  by_cases hzero : n.port.interval t = 0
  · have hexpired : n.timerExpired t = false := by
      have hinterval : (n.port.timers t).interval = 0 := hzero
      simp [Node.timerExpired, IntervalTimer.expired, hinterval]
    refine .of_eq ?_
    rw [onTimer, hexpired]
    rfl
  · exact (hhandles.sent hn).mono (by simpa using hkind htimed hzero)

/-- Losing the master makes no port a slave. -/
theorem announceReceiptTimeoutExpires_slave
    (h : (announceReceiptTimeoutExpires rtOpts n).port.portState = .slave) :
    n.port.portState = .slave := by
  have hto {state : PtpState} {m : Node} (hun : state ≠ .uncalibrated) (hpre : state ≠ .preMaster)
      (hslave : state ≠ .slave) (hm : (toState state rtOpts m).port.portState = .slave) :
      m.port.portState = .slave := by
    unfold toState at hm
    split at hm
    · exact hm
    · rw [enterState_portState rtOpts _ hun hpre] at hm
      exact absurd hm hslave
  rw [announceReceiptTimeoutExpires_eq] at h
  split at h
  · exact hto (m := m1 (forgetMasters n)) (by decide) (by decide) (by decide) h
  split at h
  · exact hto (m := forgetMasters n) (by decide) (by decide) (by decide) h
  · exact h

/-- A port that listens to a master. Its requests wait for their timer, which runs in a slave only.
-/
theorem doSlaveActions_sends (hstate : n.port.portState = .listening ∨ n.port.portState = .passive ∨
      n.port.portState = .slave) :
    Sends rtOpts (n.port.portState.sends rtOpts.E2E_mode) n (doSlaveActions rtOpts n) := by
  have hhandle := handle_handles rtOpts (n := n)
    fun h => by rw [h] at hstate; rcases hstate with h | h | h <;> cases h
  have hreceipt : Sends rtOpts (n.port.portState.sends rtOpts.E2E_mode) (handle rtOpts n)
      (onTimer .announceReceipt (announceReceiptTimeoutExpires rtOpts) (handle rtOpts n)) := by
    have hpolled := timerPolled_handles rtOpts (n.port.portState.sends rtOpts.E2E_mode)
      (handle rtOpts n) .announceReceipt
    unfold onTimer
    split
    · exact hpolled.sends.trans (announceReceiptTimeoutExpires_sends _)
    · exact hpolled.sends
  have hreceiptSlave (m : Node) (h : (onTimer .announceReceipt
      (announceReceiptTimeoutExpires rtOpts) m).port.portState = .slave) :
      m.port.portState = .slave := by
    unfold onTimer at h
    split at h
    · exact announceReceiptTimeoutExpires_slave (n := m.timerPolled .announceReceipt) h
    · exact h
  rw [doSlaveActions_eq, slaveTimers_eq]
  refine (hhandle.sends.trans hreceipt).trans ?_
  unfold requestTimer
  split
  next hmode =>
    refine onTimer_sends (fun m => Issue.run_handles rtOpts m .delayReq (List.mem_singleton_self _))
      fun htimed hrunning => ?_
    -- The timer belongs to a slave, and the port was one before all this.
    have hslave : (handle rtOpts n).port.portState = .slave :=
      hreceiptSlave _ (htimed.delayReq hrunning).1
    rcases hhandle.state with ⟨hsame, -⟩ | ⟨hfaulty, -⟩
    · rw [← hsame, hslave]
      exact List.mem_cons_self
    · rw [hfaulty] at hslave
      cases hslave
  next hmode =>
    refine onTimer_sends
      (fun m => Issue.run_handles rtOpts m .pdelayReq (List.mem_singleton_self _)) fun _ _ => ?_
    rw [show rtOpts.E2E_mode = false by simpa using hmode]
    rcases hstate with h | h | h <;> rw [h] <;> decide

/-- The actions of a port send the messages of its state. -/
theorem doStateActions_sends (rtOpts : RunTimeOpts) (n : Node) :
    Sends rtOpts (n.port.portState.sends rtOpts.E2E_mode) n (doStateActions rtOpts n) := by
  -- Forgetting the message that was received sends nothing.
  have hcleared (m : Node) : Sends rtOpts (n.port.portState.sends rtOpts.E2E_mode) m
      { m with port.wr.msgTmpWrMessageID := NULL_WR_TLV } :=
    Handles.sends (.of_eq rfl rfl rfl rfl)
  unfold doStateActions
  split
  next hstate => exact toState_sends_of_ne (by decide) (by decide)
  next hstate =>
    split
    next hslave =>
      refine .trans (doWRState_sends ?_ (PtpState.answers_subset_sends _ _)
        fun _ => by rw [hslave]; decide) (hcleared _)
      rw [hstate]
      exact List.mem_singleton_self _
    next => exact .trans (toState_sends_of_ne (by decide) (by decide)) (hcleared _)
  next hstate =>
    split
    · have hm1 : Handles rtOpts (n.port.portState.sends rtOpts.E2E_mode) n (m1 n) :=
        .of_eq rfl rfl rfl rfl
      exact hm1.sends.trans (toState_sends_of_ne (by decide) (by decide))
    · exact doSlaveActions_sends (.inl hstate)
  next hstate => exact doSlaveActions_sends (.inr (.inl hstate))
  next hstate => exact doSlaveActions_sends (.inr (.inr hstate))
  next hstate =>
    have hnot : n.port.portState = .uncalibrated → n.port.wr.wrMode ≠ .nonWr :=
      fun h => by rw [hstate] at h; cases h
    split
    · refine .trans (doWRState_sends ?_ (PtpState.answers_subset_sends _ _) hnot) (hcleared _)
      rw [hstate]
      exact List.mem_append_left _ (by decide)
    · obtain ⟨htimed, hrequest⟩ := PtpState.timed_subset_sends rtOpts.E2E_mode
      have htimers := masterTimers_handles rtOpts (handle rtOpts n) htimed hrequest
      rw [← hstate] at htimers
      have hactions := ((handle_handles rtOpts hnot).trans htimers).sends
      rw [doMasterActions_eq]
      dsimp only
      split
      · exact hactions.trans (toState_sends_of_ne (by decide) (by decide))
      · exact hactions
  next hstate => exact (handle_handles rtOpts fun h => by rw [hstate] at h; cases h).sends
  next => rfl
  next => rfl

/-- A state decision sends nothing but the start of a link set-up. -/
theorem stateDecision_sends (rtOpts : RunTimeOpts) (bestForeign : ForeignMasterRecord)
    (hkinds : (stateDecision rtOpts bestForeign n).port.portState = .uncalibrated →
      SIGNALING ∈ kinds) :
    Sends rtOpts kinds n (stateDecision rtOpts bestForeign n) := by
  by_cases hdecides : Decides n
  -- `bmc` writes data sets only.
  · have hbmc (m : Node) : Handles rtOpts kinds m (bmc bestForeign m).2 := by
      have hupdate {m : Node} {r : PtpState × Node} (h : BmcUpdate m r) :
          Handles rtOpts kinds m r.2 := by
        cases h <;> exact .of_eq rfl rfl rfl rfl
      have hcopy : Handles rtOpts kinds m (copyD0 m) := .of_eq rfl rfl rfl rfl
      exact (bmc_update m bestForeign).elim hupdate fun h => hcopy.trans (hupdate h)
    have hdeciding : Handles rtOpts kinds n (deciding n) := .of_eq rfl rfl rfl rfl
    have hmem := bmc_recommends bestForeign (deciding n)
    rw [stateDecision_of rtOpts n bestForeign hdecides] at hkinds ⊢
    refine (hdeciding.trans (hbmc _)).sends.trans ?_
    generalize bmc bestForeign (deciding n) = decision at *
    obtain ⟨state, m⟩ := decision
    dsimp only at *
    have hset : Handles rtOpts kinds m
        { m with port.wr := { m.port.wr with wrMode := .wrSlave, wrModeON := false } } :=
      .of_eq rfl rfl rfl rfl
    unfold followRecommendation at hkinds ⊢
    split
    next hmoves =>
      rw [if_pos hmoves] at hkinds
      split
      next hcandidate =>
        rw [if_pos hcandidate] at hkinds
        exact hset.sends.trans (toState_sends (by decide) fun _ => hkinds)
      next =>
        -- `bmc` recommends none of the two states.
        refine toState_sends_of_ne ?_ ?_ <;> rintro rfl <;> exact absurd hmem (by decide)
    next hstays =>
      rw [if_neg hstays] at hkinds
      split
      next hfault =>
        rw [if_pos hfault] at hkinds
        exact toState_sends (by decide) fun _ => hkinds
      next => rfl
  · rw [stateDecision_of_not rtOpts n bestForeign hdecides]

/-- The header that is packed at initialization is that of the port. -/
theorem msgPackHeader_header (buf : Buffer) (clk : PtpClockDS) (port : PtpPortDS) :
    (msgUnpackHeader (msgPackHeader buf clk port)).versionPTP = port.versionNumber &&& 0x0F ∧
      (msgUnpackHeader (msgPackHeader buf clk port)).sourcePortIdentity = port.portIdentity := by
  simp only [msgPackHeader, msgUnpackHeader, getPortIdentity]
  cases clk.twoStepFlag <;> simp

/-- Before it starts to listen, initialization has stopped all timers and packed the header. -/
theorem initialized_conduct (rtOpts : RunTimeOpts) (n : Node) :
    Quiet (initialized rtOpts n).port ∧ Headed (initialized rtOpts n).port ∧
      (initialized rtOpts n).port.logSyncInterval = rtOpts.syncInterval ∧
      (initialized rtOpts n).port.logAnnounceInterval = rtOpts.announceInterval := by
  have hversion : (initialized rtOpts n).port.versionNumber = 2 :=
    (initialized_initialized rtOpts n).versionNumber
  have hpacked : ∃ buf clk port, (initialized rtOpts n).port.msgObuf = msgPackHeader buf clk port ∧
      port.versionNumber = (initialized rtOpts n).port.versionNumber ∧
      port.portIdentity = (initialized rtOpts n).port.portIdentity := ⟨_, _, _, rfl, rfl, rfl⟩
  obtain ⟨buf, clk, port, hbuf, hport, hidentity⟩ := hpacked
  obtain ⟨hheader, hsource⟩ := msgPackHeader_header buf clk port
  refine ⟨⟨rfl, rfl, rfl⟩, ⟨?_, ?_⟩, ?_⟩
  · rw [hbuf, hheader, hport, hversion]
    rfl
  · rw [hbuf, hsource, hidentity]
  · unfold initialized
    dsimp only
    split <;> split <;> exact ⟨rfl, rfl⟩

/-- An initialized port has its header packed, and the timers of `PTP_LISTENING`. -/
theorem doInit_conduct (rtOpts : RunTimeOpts) (n : Node) :
    Timed rtOpts (doInit rtOpts n).port ∧ Headed (doInit rtOpts n).port := by
  have hidle := (initialized_initialized rtOpts n).wrPortState
  obtain ⟨hquiet, hheaded, hsync, hannounce⟩ := initialized_conduct rtOpts n
  rw [doInit_eq, toState, if_neg (not_not.mpr hidle)]
  generalize initialized rtOpts n = m at *
  have hleft := leaveState_outgoing rtOpts m
  have hstopped (t : PtpTimer) (hzero : m.port.interval t = 0) :
      (leaveState rtOpts m).port.interval t = 0 := by
    rw [interval_leaveState, hzero, ite_self]
  constructor
  · exact enterState_timed (by decide) (by decide)
      ⟨hstopped _ hquiet.sync, hstopped _ hquiet.delayReq, hstopped _ hquiet.pdelayReq⟩
      ((congrArg Outgoing.logSyncInterval hleft).trans hsync)
      ((congrArg Outgoing.logAnnounceInterval hleft).trans hannounce)
  · exact (hheaded.of_eq hleft).of_eq (enterState_outgoing rtOpts (by decide) _)

end Phases

/-! ### Runs -/

section Runs

variable {rtOpts : RunTimeOpts} {d : Daemon}

/-- A change of other data. -/
theorem Timed.of_eq {port port' : PtpPortDS} (h : Timed rtOpts port)
    (hport : port'.outgoing = port.outgoing) (hstate : port'.portState = port.portState)
    (htimers : port'.timers = port.timers) : Timed rtOpts port' := by
  have hinterval : port'.interval = port.interval := by
    unfold PtpPortDS.interval
    rw [htimers]
  refine ⟨(congrArg Outgoing.logSyncInterval hport).trans h.logSyncInterval,
    (congrArg Outgoing.logAnnounceInterval hport).trans h.logAnnounceInterval, ?_, ?_, ?_, ?_⟩ <;>
    rw [hstate, hinterval]
  exacts [h.master, h.sync, h.delayReq, h.pdelayReq]

/-- Every phase of a port leaves its timers those of its state, and the header in the buffer its
own. -/
theorem conduct_invariant (rtOpts : RunTimeOpts) :
    PortInvariant rtOpts (fun _ _ => True) fun port => Timed rtOpts port ∧ Headed port where
  link {d i o} _ _ hd hready := by
    rcases linked_doInit rtOpts (d.node i o) with ⟨-, m, fm, doRestart, heq⟩ | hkept
    · obtain ⟨htimed, hheaded⟩ := doInit_conduct rtOpts m
      rw [heq]
      generalize doInit rtOpts m = m at htimed hheaded ⊢
      exact ⟨htimed.of_eq rfl rfl rfl, hheaded.of_eq rfl⟩
    · obtain ⟨port, hport, heq⟩ := hkept.port
      rw [heq] at hready ⊢
      rcases hport with rfl | rfl <;>
        exact ⟨(hd hready).1.of_eq rfl rfl rfl, (hd hready).2.of_eq rfl⟩
  decide {d i o} _ _ _ h :=
    have hsends : Sends rtOpts [SIGNALING] (d.node i o) _ :=
      stateDecision_sends rtOpts d.bestForeign fun _ => List.mem_singleton_self _
    ⟨hsends.timed h.1, hsends.headed h.2⟩
  act {d i o} _ _ _ h :=
    have hsends := doStateActions_sends rtOpts (d.node i o)
    ⟨hsends.timed h.1, hsends.headed h.2⟩
  search _ h := ⟨h.1.of_eq rfl rfl rfl, h.2.of_eq rfl⟩

/-- What a port hands over while the daemon becomes another one. -/
def Daemon.HandsOver (d d' : Daemon) (kinds : List UInt8) (i : ℕ) : Prop :=
  ∃ frames, d'.sent i = d.sent i ++ frames ∧
    ∀ frame ∈ frames, Bears kinds (d.ports i).portIdentity frame

theorem Daemon.HandsOver.mono {d d' : Daemon} {kinds kinds' : List UInt8} {i : ℕ}
    (h : d.HandsOver d' kinds i) (hkinds : kinds ⊆ kinds') : d.HandsOver d' kinds' i := by
  obtain ⟨frames, hsent, hbears⟩ := h
  exact ⟨frames, hsent, fun frame hframe => (hbears frame hframe).mono hkinds⟩

theorem Daemon.store_sent_self (d : Daemon) (i : ℕ) (n : Node) (phase : Phase) :
    (d.store i n phase).sent i = n.netif.sent := Function.update_self ..

/-- A step of one port hands over what that port sends. -/
theorem Daemon.store_handsOver (o : Oracle) {i j : ℕ} {n : Node} {kinds : List UInt8}
    {phase : Phase}
    (h : i = j → SendsOnly kinds (d.node j o) n) : d.HandsOver (d.store j n phase) kinds i := by
  by_cases hij : i = j
  · subst hij
    obtain ⟨frames, hsent, hbears⟩ := h rfl
    refine ⟨frames, ?_, hbears⟩
    rw [Daemon.store_sent_self]
    exact hsent
  · exact ⟨[], by simp [Daemon.store, hij], by simp⟩

/-- In a step a port sends the messages of the state it is in, and the one that starts its link
set-up. -/
theorem Daemon.step_handsOver (hprepared : Prepared d)
    (hd : ∀ i, (d.ports i).Ready → Timed rtOpts (d.ports i) ∧ Headed (d.ports i)) (o : Oracle)
    (i : ℕ) : d.HandsOver (Daemon.step rtOpts o d) ((d.ports i).portState.sends rtOpts.E2E_mode ++
      ((Daemon.step rtOpts o d).ports i).portState.signals) i := by
  cases hphase : d.phase with
  | link j =>
    obtain ⟨phase, heq, -⟩ := Daemon.step_link rtOpts o hphase
    rw [heq]
    refine Daemon.store_handsOver o fun _ => .of_eq ?_
    exact (linked_cases rtOpts (d.node j o)).elim Reinitialized.sent LinkKept.sent
  | decide j =>
    obtain ⟨htimed, hheaded⟩ := hd j (hprepared.deciding j (.inl hphase))
    rw [Daemon.step_decide rtOpts o hphase]
    refine Daemon.store_handsOver o fun hij => ?_
    subst hij
    refine (stateDecision_sends rtOpts (n := d.node i o) _ fun h => ?_).sent hheaded htimed
    -- A port that is in `PTP_UNCALIBRATED` after its decision has started a set-up.
    rw [Daemon.store_ports_self, h]
    exact List.mem_append_right _ (List.mem_singleton_self _)
  | act j =>
    obtain ⟨htimed, hheaded⟩ := hd j (hprepared.deciding j (.inr hphase))
    rw [Daemon.step_act rtOpts o hphase]
    refine Daemon.store_handsOver o fun hij => ?_
    subst hij
    exact ((doStateActions_sends rtOpts (d.node i o)).sent hheaded htimed).mono
      (List.subset_append_left _ _)
  | shared =>
    obtain ⟨tics, extsrcLocked, heq⟩ := Daemon.step_shared rtOpts o hphase
    rw [heq]
    exact ⟨[], by simp, by simp⟩

end Runs

/-! ### In every run -/

section Reachable

variable {rtOpts : RunTimeOpts} {d : Daemon} {i : ℕ}

theorem Daemon.Reachable.conduct (h : Daemon.Reachable rtOpts d) (i : ℕ)
    (hready : (d.ports i).Ready) : Timed rtOpts (d.ports i) ∧ Headed (d.ports i) :=
  (conduct_invariant rtOpts).holds h i hready

/-- In every state of a run whose frames fit, the timers of a port that was initialized are those of
its state (`Timed`): a master times its Sync and Announce messages as configured, and no other port
has a timer for the messages of a master. -/
theorem timed_of_fitting (h : Daemon.FittingReachable rtOpts d)
    (hstate : (d.ports i).portState ≠ .initializing) : Timed rtOpts (d.ports i) := by
  refine (Daemon.Reachable.conduct h.reachable i ?_).1
  by_contra hnot
  exact hstate ((Daemon.Reachable.prepared h.reachable).unready i hnot)

/-- A slave after a complete link set-up that is about to poll the timer of its requests. -/
def requestingState : Daemon :=
  runInputs (Daemon.step (defaultRtOpts 1)) (Daemon.single ![2, 0, 0, 0, 0, 1])
    (askingRun ++ List.replicate 2 (askingOracle 2000))

set_option maxRecDepth 100000 in
theorem requestingState_fitting : Daemon.FittingReachable (defaultRtOpts 1) requestingState :=
  Daemon.FittingRun.reachable ⟨Daemon.single_initial _, by decide +kernel⟩

set_option maxRecDepth 100000 in
/-- The slave runs the timer of its requests and none of a master. -/
theorem timed_of_fitting_requestingState : (requestingState.ports 0).portState = .slave ∧
    (requestingState.ports 0).interval .delayReq ≠ 0 ∧
    Timed (defaultRtOpts 1) (requestingState.ports 0) := by
  have hslave : (requestingState.ports 0).portState = .slave := by decide +kernel
  exact ⟨hslave, by decide +kernel,
    timed_of_fitting requestingState_fitting (by rw [hslave]; decide)⟩

/-- In every step of a run whose frames fit, a port sends messages of the state it is in, and the
message that starts its link set-up when it enters `PTP_UNCALIBRATED`; whoever receives them reads
the identity of this port (`Daemon.HandsOver`). -/
theorem sends_of_fitting (h : Daemon.FittingReachable rtOpts d) (o : Oracle)
    (_ : Daemon.FramesFit o d) (i : ℕ) :
    d.HandsOver (Daemon.step rtOpts o d) ((d.ports i).portState.sends rtOpts.E2E_mode ++
      ((Daemon.step rtOpts o d).ports i).portState.signals) i :=
  Daemon.step_handsOver (Daemon.Reachable.prepared h.reachable)
    (Daemon.Reachable.conduct h.reachable) o i

set_option maxRecDepth 100000 in
/-- The slave hands over a request. -/
theorem sends_of_fitting_requestingState :
    let next := Daemon.step (defaultRtOpts 1) (askingOracle 2000) requestingState
    next.sent 0 ≠ requestingState.sent 0 ∧ requestingState.HandsOver next
      ((requestingState.ports 0).portState.sends (defaultRtOpts 1).E2E_mode ++
        (next.ports 0).portState.signals) 0 :=
  ⟨by decide +kernel, sends_of_fitting requestingState_fitting _ (by decide +kernel) 0⟩

/-- The configured role is kept on the network, too: a slave-only port sends no message of a master,
and a master-only port no request for its delay to a master. -/
theorem configured_sends (h : Daemon.Reachable rtOpts d) (o : Oracle) (i : ℕ) :
    ((d.ports i).wr.wrConfig = .wrSOnly → d.HandsOver (Daemon.step rtOpts o d)
        (SIGNALING :: PtpState.sends rtOpts.E2E_mode .slave) i) ∧
      ((d.ports i).wr.wrConfig = .wrMOnly →
        d.HandsOver (Daemon.step rtOpts o d) (PtpState.sends rtOpts.E2E_mode .master) i) := by
  have hallowed : (d.ports i).wr.wrConfig.allows (d.ports i).portState = true := by
    by_cases hready : (d.ports i).Ready
    · exact ((role_invariant rtOpts).holds h i hready).1.state
    · rw [(Daemon.Reachable.prepared h).unready i hready, allows_initializing]
  have hsent := Daemon.step_handsOver (Daemon.Reachable.prepared h) h.conduct o i
  generalize (d.ports i).portState = state at hallowed hsent
  have hsignals : ((Daemon.step rtOpts o d).ports i).portState.signals ⊆ [SIGNALING] := by
    cases ((Daemon.step rtOpts o d).ports i).portState <;> simp [PtpState.signals]
  constructor
  · intro hconfig
    rw [hconfig] at hallowed
    refine hsent.mono (List.append_subset.mpr ⟨?_, List.Subset.trans hsignals ?_⟩)
    -- The states with other messages are not allowed.
    · cases state <;> cases rtOpts.E2E_mode <;> first | decide | cases hallowed
    · exact List.cons_subset.mpr ⟨List.mem_cons_self, List.nil_subset _⟩
  · intro hconfig
    rw [hconfig] at hallowed
    refine hsent.mono (List.append_subset.mpr ⟨?_, List.Subset.trans hsignals ?_⟩)
    · cases state <;> cases rtOpts.E2E_mode <;> first | decide | cases hallowed
    · exact List.cons_subset.mpr ⟨List.mem_append_left _ (by decide), List.nil_subset _⟩

set_option maxRecDepth 100000 in
/-- What a slave-only port hands over is a request. -/
theorem configured_sends_requestingState :
    let next := Daemon.step (defaultRtOpts 1) (askingOracle 2000) requestingState
    next.sent 0 ≠ requestingState.sent 0 ∧
      requestingState.HandsOver next (SIGNALING :: PtpState.sends (defaultRtOpts 1).E2E_mode .slave)
        0 :=
  ⟨by decide +kernel,
    (configured_sends requestingState_fitting.reachable _ 0).1 (by decide +kernel)⟩

end Reachable

end WhiteRabbitPtp
