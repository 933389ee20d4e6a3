import WhiteRabbitPtp.Lib.Potential
import WhiteRabbitPtp.Correctness.SetupTimers

/-!
# A link set-up with a silent peer

A main state is repeated when its timer expires, as often as its limit allows; then the link set-up
is given up. Without messages the main states follow each other in one direction only, which is
different for a master and a slave. So the timers of a link set-up can expire a bounded number of
times: what is left of this number is a potential of the calls of the White Rabbit state machine.

## Main definitions

* `Setup.left`: how often the timers of a link set-up may still expire.
* `SilentCall`, `SetupExpires`: a call that receives no signaling message, and one in which the
  timer expires.
* `setupRun`: the port after the calls of a sequence.

## Main results

* `doWRState_within`: a silent call lowers the potential by one when the timer expires, and never
  raises it.
* `setup_ends`: the link set-up ends after a bounded number of expirations.
-/

namespace WhiteRabbitPtp

open InputSystem

/-! ### The potential -/

/-- The largest number of repetitions of a main state. -/
def Setup.maxRetry (s : Setup) : ℕ :=
  max s.wrStateRetry.toNat (max s.calRetry.toNat s.otherNodeCalRetry.toNat)

/-- How many main states may follow a main state. A master is calibrated first. -/
def WrState.ahead (wrMode : WrMode) : WrState → ℕ
  | present => 6
  | sLock => 5
  | mLock | locked => 4
  | calibration => if wrMode = .wrMaster then 3 else 2
  | calibrated => if wrMode = .wrMaster then 2 else 1
  | respCalibReq => if wrMode = .wrMaster then 1 else 3
  | _ => 0

/-- How often the timers of a link set-up may still expire: as often as the current main state may
still be entered, and as often as the ones that may follow it. -/
def Setup.left (s : Setup) : ℕ :=
  if s.mainState = .idle then 0
  else s.mainState.ahead s.wrMode * (1 + s.maxRetry) + (s.maxRetry - s.count.toNat) + 1

/-- The link set-up is over or running, and its timers may expire a number of times at most. -/
structure Setup.Within (b : ℕ) (s : Setup) : Prop where
  underway : s.mainState ≠ .idle → s.Underway
  left : s.left ≤ b

section Potential

variable {s : Setup} {b : ℕ}

theorem Setup.Underway.within (h : s.Underway) : s.Within s.left := ⟨fun _ => h, le_rfl⟩

theorem Setup.left_of_idle (h : s.mainState = .idle) : s.left = 0 := if_pos h

theorem Setup.left_of_running (h : s.mainState ≠ .idle) : s.left =
    s.mainState.ahead s.wrMode * (1 + s.maxRetry) + (s.maxRetry - s.count.toNat) + 1 := if_neg h

theorem Setup.within_of_idle (h : s.mainState = .idle) : s.Within b :=
  ⟨fun hrun => absurd h hrun, (Setup.left_of_idle h).trans_le (Nat.zero_le _)⟩

/-- A link set-up is over when nothing is left of its potential. -/
theorem Setup.left_eq_zero : s.left = 0 ↔ s.mainState = .idle := by
  refine ⟨fun h => ?_, Setup.left_of_idle⟩
  by_contra hrun
  rw [Setup.left_of_running hrun] at h
  omega

end Potential

section Calls

variable {rtOpts : RunTimeOpts} {n n' : Node} {b : ℕ}

/-! ### Transitions -/

/-- A transition to a main state that may follow the current one. -/
theorem toWRState_within (h : n.port.setup.Underway) {s : WrState} (hmain : s.mainState = s)
    (hrole : s = .present ∨ s = .sLock → n.port.wr.wrSlaveRole ≠ .nonSlave)
    (hahead : s.ahead n.port.wr.wrMode < n.port.wr.wrPortState.mainState.ahead n.port.wr.wrMode) :
    (toWRState s rtOpts n).port.setup.Within n.port.setup.left := by
  -- Giving up leaves nothing to do; any other state starts its counter anew.
  by_cases hs : s = .idle
  · subst hs
    refine Setup.within_of_idle ?_
    exact congrArg WrState.mainState (toWRState_wrPortState rtOpts n h.ne_idle rfl rfl)
  have hnext := toWRState_underway rtOpts n h hmain hs hrole
  refine ⟨fun _ => hnext, ?_⟩
  have hcount := toWRState_count rtOpts n s
  have hne : s ≠ n.port.wr.wrPortState.mainState := by
    rintro rfl
    exact absurd hahead (lt_irrefl _)
  rw [if_pos hne] at hcount
  rw [Setup.left_of_running hnext.running, Setup.left_of_running h.running,
    toWRState_setup rtOpts n h.ne_idle hmain fun hlock => hrole (.inr hlock)]
  -- One state less is ahead, and it had at most all of its retries.
  show s.ahead n.port.wr.wrMode * (1 + n.port.setup.maxRetry) +
    (n.port.setup.maxRetry - (toWRState s rtOpts n).port.wr.currentWRstateCnt.toNat) + 1 ≤
    n.port.wr.wrPortState.mainState.ahead n.port.wr.wrMode * (1 + n.port.setup.maxRetry) +
      (n.port.setup.maxRetry - n.port.setup.count.toNat) + 1
  have hmul := Nat.mul_le_mul_right (1 + n.port.setup.maxRetry) hahead
  rw [hcount, UInt8.toNat_zero]
  rw [Nat.succ_mul] at hmul
  omega

/-- Entering a substate of the same main state. -/
theorem setup_of_mainState {m : Node} {s : WrState}
    (hs : s.mainState = n.port.wr.wrPortState.mainState)
    (hm : m.port.setup = { n.port.setup with mainState := s.mainState }) :
    m.port.setup = n.port.setup := by
  rw [hm, hs]
  rfl

/-- A silent move stays in its main state. -/
theorem SilentMove.setup (h : SilentMove n n') : n'.port.setup = n.port.setup := by
  cases h with
  | called => rfl
  | advance hnext => exact setup_of_mainState (successor_mainState hnext) rfl
  | respond hpos _ hs =>
    refine setup_of_mainState ?_ rfl
    rw [hpos]
    rcases hs with rfl | rfl <;> rfl
  | deltaTx hpos => exact setup_of_mainState (s := .calibration3) (by rw [hpos]; rfl) rfl
  | deltaRx hpos => exact setup_of_mainState (s := .calibration7) (by rw [hpos]; rfl) rfl

/-! ### The ends of a call -/

/-- The main states that are entered are ahead of those they are entered from. -/
theorem WrEnters.ahead {wr : WrPortDS} {s : WrState} (h : WrEnters wr s) :
    s.ahead wr.wrMode < wr.wrPortState.mainState.ahead wr.wrMode := by
  cases h with
  | locked hpos | masterCalibration hpos | slaveRespCalibReq hpos =>
    rw [hpos]
    cases wr.wrMode <;> decide
  | slaveCalibration hpos hmode | masterWrLinkOn hpos hmode | idle hpos hmode =>
    rw [hpos, hmode]
    decide
  | masterRespCalibReq hpos _ hmode | slaveWrLinkOn hpos _ hmode =>
    rw [hpos, hmode]
    decide

theorem doCalibration8_within (h : n.port.setup.Underway)
    (hpos : n.port.wr.wrPortState = .calibration8) :
    (doCalibration8 rtOpts n).port.setup.Within n.port.setup.left := by
  have hissued := issueWRSignalingMsg_underway rtOpts CALIBRATED h
  obtain ⟨hwr, hstate⟩ := issueWRSignalingMsg_running rtOpts n h.ne_idle CALIBRATED
  have hsame : (issueWRSignalingMsg CALIBRATED rtOpts n).port.setup = n.port.setup := by
    unfold PtpPortDS.setup
    rw [hwr, hstate]
  -- The message does not touch the set-up, the transition brings it forward.
  have hwithin : (toWRState .calibrated rtOpts
      (issueWRSignalingMsg CALIBRATED rtOpts n)).port.setup.Within n.port.setup.left := by
    rw [← hsame]
    refine toWRState_within hissued rfl (fun hs => ?_) ?_
    · rcases hs with hs | hs <;> cases hs
    · rw [hwr, hpos]
      cases n.port.wr.wrMode <;> decide
  exact hwithin

/-- The end of the link set-up. -/
theorem doWrLinkOn_within (h : n.port.setup.Underway) :
    (doWrLinkOn rtOpts n).port.setup.Within b := by
  have hidle : (toWRState .idle rtOpts n).port.wr.wrPortState = .idle :=
    toWRState_wrPortState _ _ h.ne_idle rfl rfl
  have hover {m : Node} (hm : m.port.wr.wrPortState = .idle) : m.port.setup.Within b :=
    Setup.within_of_idle (congrArg WrState.mainState hm)
  unfold doWrLinkOn
  dsimp only
  split
  · exact hover (toState_idle hidle (by decide))
  · exact hover (toState_idle hidle (by decide))
  · exact hover hidle

/-- However a call ends, it brings the set-up forward. -/
theorem WrEnd.within (hend : WrEnd rtOpts n n') (h : n.port.setup.Underway) :
    n'.port.setup.Within n.port.setup.left := by
  cases hend with
  | stay => exact h.within
  | enter henters =>
    refine toWRState_within h henters.mainState (fun hs => ?_) henters.ahead
    cases henters <;> rcases hs with hs | hs <;> cases hs
  | lock hpos =>
    have hlock : (toWRState .sLock rtOpts n).port.setup.Within n.port.setup.left := by
      refine toWRState_within h rfl (fun _ => h.role (.inl ?_)) ?_
      · show n.port.wr.wrPortState.mainState = .present
        rw [hpos]
        rfl
      · rw [hpos]
        exact Nat.lt_succ_self 5
    exact hlock
  | calibrated hpos => exact doCalibration8_within h hpos
  | linkOn => exact doWrLinkOn_within h

/-- Silent moves with an end do not raise the potential. -/
theorem SilentRun.within (hrun : SilentRun rtOpts n n') (h : n.port.setup.Underway) :
    n'.port.setup.Within n.port.setup.left := by
  refine hrun.induction (P := fun m => m.port.setup = n.port.setup)
    (Q := fun m => m.port.setup.Within n.port.setup.left)
    (fun m m' hm hmove => hmove.setup.trans hm) (fun m m' hm hend => ?_) rfl
  rw [← hm]
  exact hend.within (hm ▸ h)

/-! ### Waiting for a message -/

/-- The call receives no signaling message. -/
def SilentCall (n : Node) : Prop := ∀ k, wrHearing n = some k → ¬HearsSignaling k

/-- A port that receives no signaling message goes on as it was. -/
theorem handle_silent (rtOpts : RunTimeOpts) {k : Node} (h : n.port.setup.Underway)
    (hk : wrHearing n = some k) (hsilent : ¬HearsSignaling k) :
    (handle rtOpts k).port.setup = n.port.setup := by
  have hsame : k.port.setup = n.port.setup := by
    rcases wrHearing_cases hk with ⟨-, rfl⟩ | ⟨hpos, c, rfl⟩
    · rfl
    · exact setup_of_mainState (s := .respCalibReq1) (by rw [hpos]; rfl) rfl
  have hrun : k.port.setup.Underway := hsame ▸ h
  -- Only a Signaling message could change the set-up, and none is heard.
  rcases handle_cases rtOpts k with hframe | ⟨hhears, -⟩
  · obtain ⟨hwr, hstate⟩ := hframe.eq_of_running hrun.ne_idle
    refine .trans ?_ hsame
    unfold PtpPortDS.setup
    rw [hwr, hstate]
  · exact absurd hhears hsilent

/-- The actions of a White Rabbit state do not raise the potential when no message is received. -/
theorem wrStateActions_within (h : n.port.setup.Underway) (hsilent : SilentCall n) :
    (wrStateActions rtOpts n).port.setup.Within n.port.setup.left := by
  cases hhearing : wrHearing n with
  | some k =>
    -- What the register holds from an earlier message may still move the port, but only ahead.
    have hsame := handle_silent rtOpts h hhearing (hsilent k hhearing)
    have hrun : SilentRun rtOpts (handle rtOpts k) (wrStateActions rtOpts n) :=
      wrStateActions_hearingRun hhearing
    rw [← hsame]
    exact hrun.within (hsame ▸ h)
  | none =>
    have hrun : SilentRun rtOpts n (wrStateActions rtOpts n) := wrStateActions_silentRun hhearing
    exact hrun.within h

/-! ### Time-outs -/

/-- The timer of the current main state has expired when it is polled. -/
def TimerDue (n : Node) : Prop :=
  n.port.wr.wrPortState ≠ .idle ∧
    (n.port.wr.wrTimers n.port.wr.wrPortState.mainState).expired (n.answer .msecTics) = true

instance : DecidablePred TimerDue := fun n => by
  unfold TimerDue
  infer_instance

/-- The call finds that the timer of the current main state has expired. -/
def SetupExpires (rtOpts : RunTimeOpts) (n : Node) : Prop := TimerDue (wrStateActions rtOpts n)

instance (rtOpts : RunTimeOpts) : DecidablePred (SetupExpires rtOpts) := fun n => by
  unfold SetupExpires
  infer_instance

/-- The limit of a main state is one of the three. -/
theorem retryLimit_le (port : PtpPortDS) (s : WrState) :
    (port.wr.retryLimit s).toNat ≤ port.setup.maxRetry := by
  unfold WrPortDS.retryLimit Setup.maxRetry
  dsimp only [PtpPortDS.setup]
  split
  · omega
  split
  · omega
  · omega

/-- A running link set-up whose timer has not expired waits; one whose timer has expired repeats the
main state, or is given up. -/
theorem wrTimerExpired_running (rtOpts : RunTimeOpts) (hrun : n.port.wr.wrPortState ≠ .idle)
    (wrMode : WrMode) :
    let s := n.port.wr.wrPortState.mainState
    ¬TimerDue n ∧ wrTimerExpired s rtOpts wrMode n = wrTimerPolled s n ∨
      TimerDue n ∧ n.port.wr.currentWRstateCnt < n.port.wr.retryLimit s ∧
        wrTimerExpired s rtOpts wrMode n = toWRState s rtOpts (wrTimerPolled s n) ∨
      TimerDue n ∧ ¬n.port.wr.currentWRstateCnt < n.port.wr.retryLimit s ∧
        wrTimerExpired s rtOpts wrMode n = abandon rtOpts wrMode (wrTimerPolled s n) := by
  unfold wrTimerExpired
  dsimp only
  rw [if_neg (mt WrState.mainState_eq_idle.mp hrun)]
  split
  next hdue =>
    split
    next hlt => exact .inr (.inl ⟨⟨hrun, hdue⟩, hlt, rfl⟩)
    -- The fallback depends on the mode alone.
    next hover =>
      refine .inr (.inr ⟨⟨hrun, hdue⟩, hover, ?_⟩)
      unfold abandon fallbackState
      split_ifs <;> rfl
  next hdue => exact .inl ⟨fun h => hdue h.2, rfl⟩

/-- Repeating a main state is counted. The counter is below a limit, so it does not overflow. -/
theorem repeat_count (rtOpts : RunTimeOpts)
    (hlt : n.port.wr.currentWRstateCnt < n.port.wr.retryLimit n.port.wr.wrPortState.mainState) :
    (toWRState n.port.wr.wrPortState.mainState rtOpts n).port.wr.currentWRstateCnt.toNat =
      n.port.wr.currentWRstateCnt.toNat + 1 := by
  have hlt' := UInt8.lt_iff_toNat_lt.mp hlt
  have hbyte := (n.port.wr.retryLimit n.port.wr.wrPortState.mainState).toNat_lt
  rw [toWRState_count, if_neg (not_not.mpr rfl), UInt8.toNat_add]
  exact Nat.mod_eq_of_lt (by simpa using by omega)

/-- Repeating a main state uses up one repetition. -/
theorem repeat_left (h : n.port.setup.Underway)
    (hlt : n.port.wr.currentWRstateCnt < n.port.wr.retryLimit n.port.wr.wrPortState.mainState) :
    (toWRState n.port.wr.wrPortState.mainState rtOpts n).port.setup.left + 1 ≤
      n.port.setup.left := by
  have hmain := mainState_mainState n.port.wr.wrPortState
  have hnext := toWRState_underway rtOpts n h hmain h.running h.role
  rw [Setup.left_of_running hnext.running, Setup.left_of_running h.running,
    toWRState_setup rtOpts n h.ne_idle hmain fun hlock => h.role (.inr hlock)]
  show n.port.setup.mainState.ahead n.port.setup.wrMode * (1 + n.port.setup.maxRetry) +
    (n.port.setup.maxRetry -
      (toWRState n.port.wr.wrPortState.mainState rtOpts n).port.wr.currentWRstateCnt.toNat) + 1 +
      1 ≤ n.port.setup.mainState.ahead n.port.setup.wrMode * (1 + n.port.setup.maxRetry) +
        (n.port.setup.maxRetry - n.port.wr.currentWRstateCnt.toNat) + 1
  have hlimit := retryLimit_le n.port n.port.wr.wrPortState.mainState
  have hlt' := UInt8.lt_iff_toNat_lt.mp hlt
  rw [repeat_count rtOpts hlt]
  omega

/-- An expiration of the timer uses up one. -/
theorem wrTimerExpired_left (h : n.port.setup.Within b) (wrMode : WrMode) :
    (wrTimerExpired n.port.wr.wrPortState.mainState rtOpts wrMode n).port.setup.left +
      (if TimerDue n then 1 else 0) ≤ b := by
  -- An idle state machine has no timer that could expire.
  by_cases hidle : n.port.wr.wrPortState = .idle
  · rw [if_neg fun hdue => hdue.1 hidle, hidle]
    exact h.left
  have hmain : n.port.wr.wrPortState.mainState ≠ .idle := mt WrState.mainState_eq_idle.mp hidle
  have hn := h.underway hmain
  have hpolled := wrTimerPolled_underway hn
  have hsame : (wrTimerPolled n.port.wr.wrPortState.mainState n).port.setup.left =
      n.port.setup.left := rfl
  have hleft := h.left
  rcases wrTimerExpired_running rtOpts hidle wrMode with
    ⟨hdue, heq⟩ | ⟨hdue, hlt, heq⟩ | ⟨hdue, -, heq⟩ <;> rw [heq]
  · rw [if_neg hdue, hsame]
    exact hleft
  · -- An expiration is paid for by the retry it uses up.
    rw [if_pos hdue]
    exact ((repeat_left hpolled hlt).trans_eq hsame).trans hleft
  · -- The last expiration of a state ends the set-up.
    have hover := (abandon_eq rtOpts _ hpolled.ne_idle wrMode).1
    rw [if_pos hdue, Setup.left_of_idle (congrArg WrState.mainState hover)]
    rw [Setup.left_of_running hn.running] at hleft
    omega

/-- A silent call lowers the potential by one when the timer expires, and never raises it. -/
theorem doWRState_within (h : n.port.setup.mainState ≠ .idle → n.port.setup.Underway)
    (hsilent : SilentCall n) :
    (doWRState rtOpts n).port.setup.left + (if SetupExpires rtOpts n then 1 else 0) ≤
      n.port.setup.left := by
  refine wrTimerExpired_left (n := wrStateActions rtOpts n) ?_ _
  by_cases hidle : n.port.wr.wrPortState = .idle
  · rw [wrStateActions_idle rtOpts hidle]
    exact ⟨h, le_rfl⟩
  · exact wrStateActions_within (h (mt WrState.mainState_eq_idle.mp hidle)) hsilent

end Calls

/-! ### Runs -/

/-- The node that a call works on: the state of the port and its White Rabbit data are those after
the call before, everything else may have changed. -/
def resume (surroundings : Node) (port : PtpPortDS) : Node :=
  { surroundings with port.portState := port.portState, port.wr := port.wr }

/-- The port after a call, after which `doState` clears the register of the received message. -/
def setupCall (rtOpts : RunTimeOpts) (surroundings : Node) (port : PtpPortDS) : PtpPortDS :=
  { (doWRState rtOpts (resume surroundings port)).port with wr.msgTmpWrMessageID := NULL_WR_TLV }

/-- The port after the first calls of a sequence. -/
def setupRun (rtOpts : RunTimeOpts) (calls : ℕ → Node) (port : PtpPortDS) : ℕ → PtpPortDS
  | 0 => port
  | k + 1 => setupCall rtOpts (calls k) (setupRun rtOpts calls port k)

/-- The main states with a timer. -/
def WrState.mainStates : List WrState :=
  [present, sLock, mLock, locked, calibration, calibrated, respCalibReq, wrLinkOn]

/-- How often the timers of a link set-up expire at most: each main state may be repeated as often
as the largest of the limits says. -/
def WrPortDS.expirationBound (wr : WrPortDS) : ℕ :=
  WrState.mainStates.length *
    (1 + max wr.wrStateRetry.toNat (max wr.calRetry.toNat wr.otherNodeCalRetry.toNat))

section Runs

variable {rtOpts : RunTimeOpts} {calls : ℕ → Node} {port : PtpPortDS}

theorem ahead_le (wrMode : WrMode) (s : WrState) : s.ahead wrMode ≤ 6 := by
  cases s <;> cases wrMode <;> decide

theorem left_lt_expirationBound (port : PtpPortDS) :
    port.setup.left < port.wr.expirationBound := by
  have hahead := Nat.mul_le_mul_right (1 + port.setup.maxRetry)
    (ahead_le port.setup.wrMode port.setup.mainState)
  have hbound : port.wr.expirationBound = 8 * (1 + port.setup.maxRetry) := rfl
  unfold Setup.left
  rw [hbound]
  split <;> omega

/-- The timers of the link set-up are right after every call, whatever is received. -/
theorem setupRun_setupTimed (h : SetupTimed port) (k : ℕ) :
    SetupTimed (setupRun rtOpts calls port k) := by
  induction k with
  | zero => exact h
  | succ k ih =>
    have hcall : SetupTimed
        (doWRState rtOpts (resume (calls k) (setupRun rtOpts calls port k))).port :=
      doWRState_setupTimed ⟨ih.stateTimeout, ih.underway⟩
    exact ⟨hcall.stateTimeout, hcall.underway⟩

/-- A silent call of a run pays for the expiration of the timer. -/
theorem setupRun_left (h : SetupTimed port) {j : ℕ}
    (hsilent : SilentCall (resume (calls j) (setupRun rtOpts calls port j))) :
    (setupRun rtOpts calls port (j + 1)).setup.left +
      (if SetupExpires rtOpts (resume (calls j) (setupRun rtOpts calls port j)) then 1 else 0) ≤
      (setupRun rtOpts calls port j).setup.left := by
  have hj : SetupTimed (setupRun rtOpts calls port j) := setupRun_setupTimed h j
  exact doWRState_within (fun hrun => hj.underway (mt WrState.mainState_eq_idle.mpr hrun)) hsilent

/-- In every reachable state, the timer of the current main state of a running link set-up is
running. When no signaling message is received any more, it goes on running until the link set-up is
over, and by then it has expired a bounded number of times; so the link set-up ends if the timer
goes on expiring. -/
theorem setup_ends (htimeout : 0 < rtOpts.wrStateTimeout) {d : Daemon}
    (h : Daemon.Reachable rtOpts d) (i : ℕ) (hinit : (d.ports i).portState ≠ .initializing)
    (hrun : (d.ports i).wr.wrPortState ≠ .idle) (calls : ℕ → Node) :
    let run := setupRun rtOpts calls (d.ports i)
    let expirations := Nat.count fun j => SetupExpires rtOpts (resume (calls j) (run j))
    (d.ports i).wr.Armed ∧
      (∀ k, (∀ j < k, SilentCall (resume (calls j) (run j))) → (run k).wr.wrPortState ≠ .idle →
        (run k).wr.Armed ∧ expirations k < (d.ports i).wr.expirationBound) ∧
      ((∀ j, SilentCall (resume (calls j) (run j))) →
        (∀ k, (run k).wr.wrPortState ≠ .idle →
          ∃ j ≥ k, SetupExpires rtOpts (resume (calls j) (run j))) →
        ∃ k, (run k).wr.wrPortState = .idle ∧
          expirations k ≤ (d.ports i).wr.expirationBound) := by
  have hne : rtOpts.wrStateTimeout ≠ 0 := fun hzero => by
    rw [hzero] at htimeout
    exact absurd htimeout (by decide)
  have hunderway := setup_underway hne h i hinit hrun
  have htimed : SetupTimed (d.ports i) := ⟨hunderway.stateTimeout, fun _ => hunderway⟩
  have hbound := left_lt_expirationBound (d.ports i)
  intro run expirations
  -- What is left pays for the expirations, over any silent beginning of the run.
  have hcount (k : ℕ) (hsilent : ∀ j < k, SilentCall (resume (calls j) (run j))) :
      expirations k + (run k).setup.left ≤ (d.ports i).setup.left :=
    Potential.count_add_le (μ := fun k => (run k).setup.left) fun j hj =>
      setupRun_left htimed (hsilent j hj)
  refine ⟨hunderway.armed, fun k hsilent hk => ?_, fun hsilent hexpires => ?_⟩
  · have hle := hcount k hsilent
    exact ⟨((setupRun_setupTimed htimed k).underway hk).armed, by omega⟩
  · -- Were the state machine never idle, its timer would expire for ever.
    obtain ⟨k, hk⟩ := Potential.exists_eq_zero (μ := fun k => (run k).setup.left)
      (fun j => setupRun_left htimed (hsilent j)) fun k hk =>
        hexpires k fun hidle => hk (Setup.left_of_idle (congrArg WrState.mainState hidle))
    have hle := hcount k fun j _ => hsilent j
    refine ⟨k, WrState.mainState_eq_idle.mp (Setup.left_eq_zero.mp hk), by omega⟩

/-- A link set-up that is over stays so. -/
theorem setupRun_idle {k l : ℕ} (hle : k ≤ l)
    (h : (setupRun rtOpts calls port k).wr.wrPortState = .idle) :
    (setupRun rtOpts calls port l).wr.wrPortState = .idle := by
  induction l, hle using Nat.le_induction with
  | base => exact h
  | succ l _ ih =>
    show (doWRState rtOpts (resume (calls l) (setupRun rtOpts calls port l))).port.wr.wrPortState =
      .idle
    rw [doWRState_idle rtOpts (show (resume (calls l)
      (setupRun rtOpts calls port l)).port.wr.wrPortState = .idle from ih)]
    exact ih

end Runs

/-! ### A master without a slave -/

/-- A master that has heard of a slave and waits for it to be locked. -/
def lockingState : Daemon :=
  runInputs (Daemon.step (defaultRtOpts 1)) (Daemon.single ![2, 0, 0, 0, 0, 1]) (linkSetup 64)

theorem lockingState_reachable : Daemon.Reachable (defaultRtOpts 1) lockingState :=
  Daemon.single_reachable _ _

/-- Calls twenty seconds apart in which nothing is received. -/
def quietCalls (k : ℕ) : Node :=
  lockingState.node 0 (Oracle.ready true .wrMaster .nothing 64 (UInt64.ofNat (20000 * (k + 1))))

theorem quietCalls_silent (k : ℕ) (port : PtpPortDS) : SilentCall (resume (quietCalls k) port) := by
  intro m hm hhears
  have hanswer : m.answer .recvfrom = .nothing := by
    rcases wrHearing_cases hm with ⟨-, rfl⟩ | ⟨-, c, rfl⟩ <;> rfl
  obtain ⟨macDest, data, rxTs, hframe, -⟩ := hhears.frame
  rw [hanswer] at hframe
  cases hframe

set_option maxRecDepth 100000 in
/-- The master gives up after four expirations. -/
theorem setup_ends_lockingState : (lockingState.ports 0).wr.wrPortState = .mLock ∧
    (lockingState.ports 0).wr.Armed ∧
    ∃ k, (setupRun (defaultRtOpts 1) quietCalls (lockingState.ports 0) k).wr.wrPortState = .idle ∧
      (Nat.count (fun j => SetupExpires (defaultRtOpts 1) (resume (quietCalls j)
        (setupRun (defaultRtOpts 1) quietCalls (lockingState.ports 0) j))) k) ≤ 32 := by
  have hlock : (lockingState.ports 0).wr.wrPortState = .mLock := by decide +kernel
  have htimeout : 0 < (defaultRtOpts 1).wrStateTimeout := by decide
  obtain ⟨harmed, -, hends⟩ := setup_ends htimeout lockingState_reachable 0 (by decide +kernel)
    (by rw [hlock]; decide) quietCalls
  refine ⟨hlock, harmed, hends (fun j => quietCalls_silent j _) fun k hk => ?_⟩
  -- The fourth expiration gives up, and an idle port stays idle.
  by_cases hlast : k ≤ 3
  · exact ⟨3, hlast, by decide +kernel⟩
  · refine absurd (setupRun_idle (k := 4) (by omega) ?_) hk
    decide +kernel

end WhiteRabbitPtp
