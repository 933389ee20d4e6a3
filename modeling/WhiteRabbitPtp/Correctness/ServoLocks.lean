import WhiteRabbitPtp.Correctness.ServoOffset
import WhiteRabbitPtp.Correctness.ServoRun

/-!
# The servo and the clock it steers

The servo is closed into a loop with hardware that carries out its orders: the counters of the
slave's clock are moved by what `ptpd_netif_adjust_counters` is given, and its phase by as much as
the setpoint changes. When the fibre grows, the clock that is recovered from it falls behind by as
much.

## Main definitions

* `Plant`, `Plant.obey`: the clock of the slave, and what an order does to it.
* `Loop`, `Loop.step`: the servo with the clock it steers.
* `Loop.Exact`: the timestamps of an update are those of an exchange with this clock.
* `Loop.Follows`: what an update does to the setpoint and the clock while the servo tracks.
* `Approach`: the stages from the start of the servo to tracking, with the updates that are left.

## Main results

* `locks`: after eight updates that found no adjustment in progress the servo tracks, and the clock
  of the slave is that of the master.
* `tracking_cancels`: from then on each update that tracks moves the setpoint by the change of the
  delay, and the clocks agree again.
-/

namespace WhiteRabbitPtp

open InputSystem

/-! ### The clock -/

/-- The clock of a slave, in picoseconds: how far it is ahead of the master's, how long the way from
the master takes, and the phase setpoint that it is held at. -/
structure Plant where
  clockError : ℤ
  delay : ℤ
  setpoint : ℤ

namespace Plant

variable (p : Plant)

/-- The clock after an order. A setpoint is absolute: the phase moves by as much as it changes. -/
def obey : NetifCommand → Plant
  | .adjustCounters sec nsec =>
    { p with clockError := p.clockError + sec * 1000000000000 + nsec * 1000 }
  | .adjustPhase phasePs =>
    { p with clockError := p.clockError + (phasePs - p.setpoint), setpoint := phasePs }
  | .enableTimingOutput _ | .enablePhaseTracking => p

/-- The clock after the orders that were added to others. -/
def obeyAdded (before after : List NetifCommand) : Plant :=
  (after.drop before.length).foldl obey p

/-- The clock after the fibre has grown. -/
def stretch (d : ℤ) : Plant := { p with delay := p.delay + d, clockError := p.clockError - d }

theorem obeyAdded_append (before orders : List NetifCommand) :
    p.obeyAdded before (before ++ orders) = orders.foldl obey p := by
  rw [obeyAdded, List.drop_left]

@[simp]
theorem obeyAdded_self (before : List NetifCommand) : p.obeyAdded before before = p := by
  rw [obeyAdded, List.drop_length]
  rfl

end Plant

/-! ### The orders of a step -/

section Orders

variable {n : Node} (hw : WrTimestamp) (tics : UInt64)

/-- A poll of the lock may only turn the timing output off. -/
theorem commands_measured (n : Node) : ∃ orders, (measured n).netif.commands =
    n.netif.commands ++ orders ∧ ∀ p : Plant, orders.foldl Plant.obey p = p := by
  dsimp only [measured, lockPolled]
  split_ifs
  · exact ⟨[], (List.append_nil _).symm, fun _ => rfl⟩
  · exact ⟨[.enableTimingOutput false], rfl, fun _ => rfl⟩

theorem commands_servoStep_waitSyncIdle (h : n.port.servo.state = .waitSyncIdle) :
    (servoStep n hw tics).netif.commands = n.netif.commands := by
  simp only [servoStep, h]
  split_ifs <;> rfl

theorem commands_servoStep_syncTai (h : n.port.servo.state = .syncTai) :
    (servoStep n hw tics).netif.commands = n.netif.commands ++
      if hw.sec ≠ 0 then
        [.enableTimingOutput false, .adjustCounters hw.sec 0, .adjustPhase 0]
      else [.enableTimingOutput false] := by
  simp only [servoStep, h]
  split_ifs <;> simp [Node.command]

theorem commands_servoStep_syncNsec (h : n.port.servo.state = .syncNsec) :
    (servoStep n hw tics).netif.commands = n.netif.commands ++
      if hw.nsec ≠ 0 then [.adjustCounters 0 hw.nsec] else [] := by
  simp only [servoStep, h]
  split_ifs <;> simp [Node.command]

theorem commands_servoStep_syncPhase (h : n.port.servo.state = .syncPhase) :
    (servoStep n hw tics).netif.commands =
      n.netif.commands ++ [.adjustPhase (i32 (hw.phase + hw.nsec * 1000))] := by
  simp only [servoStep, h]
  rfl

/-- While the servo waits for a stable offset, it gives no order that moves the clock. -/
theorem commands_servoStep_waitOffsetStable (h : n.port.servo.state = .waitOffsetStable) :
    ∃ orders, (servoStep n hw tics).netif.commands = n.netif.commands ++ orders ∧
      ∀ p : Plant, orders.foldl Plant.obey p = p := by
  simp only [servoStep, h]
  split_ifs
  all_goals
    first
    | exact ⟨[], (List.append_nil _).symm, fun _ => rfl⟩
    | exact ⟨[.enableTimingOutput true], rfl, fun _ => rfl⟩

theorem commands_servoStep_trackPhase (h : n.port.servo.state = .trackPhase) :
    (servoStep n hw tics).netif.commands = n.netif.commands ++
      if n.statics.trackingEnabled then
        [.adjustPhase (i32 (n.port.servo.curSetpoint +
          (n.port.servo.deltaMs - n.port.servo.deltaMsPrev)))]
      else [] := by
  simp only [servoStep, h]
  split_ifs <;> simp [Node.command]

theorem clockPeriodPs_servoStep (n : Node) (hw : WrTimestamp) (tics : UInt64) :
    (servoStep n hw tics).port.servo.clockPeriodPs = n.port.servo.clockPeriodPs := by
  cases h : n.port.servo.state with
  | waitSyncIdle => rw [servo_servoStep_waitSyncIdle hw tics h]; split_ifs <;> rfl
  | syncTai => rw [servo_servoStep_syncTai hw tics h]; split_ifs <;> rfl
  | syncNsec => rw [servo_servoStep_syncNsec hw tics h]; split_ifs <;> rfl
  | syncPhase => rw [servo_servoStep_syncPhase hw tics h]
  | waitOffsetStable => rw [servo_servoStep_waitOffsetStable hw tics h]
  | trackPhase => rw [servo_servoStep_trackPhase hw tics h]; split_ifs <;> rfl
  | unset => rw [servo_servoStep_unset hw tics h]

end Orders

/-! ### The offset in whole ticks -/

/-- What the servo makes of a clock error, in whole ticks of the hardware. -/
def hwOffset (clockPeriodPs theta : ℤ) : WrTimestamp :=
  tsHardwarize (normalTs (-theta)) clockPeriodPs

section Ticks

variable {clockPeriodPs theta : ℤ}

/-- The nanoseconds beyond whole ticks. -/
theorem extraNsec_bounds {q nsec : ℤ} (hq : 0 < q) (hn : 0 ≤ nsec) :
    0 ≤ nsec % q ∧ nsec % q < q ∧ nsec % q ≤ nsec ∧ q ∣ nsec - nsec % q := by
  refine ⟨Int.emod_nonneg _ hq.ne', Int.emod_lt_of_pos _ hq, ?_, Int.dvd_self_sub_emod⟩
  have hsplit := Int.emod_add_mul_ediv nsec q
  have hwhole := mul_nonneg hq.le (Int.ediv_nonneg hn hq.le)
  omega

/-- The offset by cases: a second that was borrowed is given back, and so is its last tick. -/
theorem hwOffset_eq (hperiod : TicksDivideSecond clockPeriodPs) :
    hwOffset clockPeriodPs theta =
      let o := normalTs (-theta)
      let q := ticks clockPeriodPs
      if o.sec = -1 ∧ 0 < o.nsec - o.nsec % q then
        if -q ≤ o.nsec - o.nsec % q - 1000000000 then
          { o with
            sec := 0
            nsec := o.nsec - o.nsec % q - 1000000000 + q
            phase := o.phase + o.nsec % q * 1000 - q * 1000 }
        else
          { o with
            sec := 0
            nsec := o.nsec - o.nsec % q - 1000000000
            phase := o.phase + o.nsec % q * 1000 }
      else { o with nsec := o.nsec - o.nsec % q, phase := o.phase + o.nsec % q * 1000 } := by
  obtain ⟨hq, hq'⟩ := hperiod.ticks_bounds
  obtain ⟨hn, hn', hp, hp'⟩ := normalTs_normalised (-theta)
  rw [hwOffset, tsHardwarize_eq, hperiod.qThreshold_eq]
  exact corrections_of_nonneg hq hq' hn hn' (by omega) (by omega)

/-- The parts of the offset make up the clock error. Without whole seconds less than a tick is left
beside the nanoseconds; otherwise less than a second is left beside the seconds. -/
theorem hwOffset_parts (hperiod : TicksDivideSecond clockPeriodPs)
    (hfits : FitsInt64 (-theta / 1000000000000)) :
    let h := hwOffset clockPeriodPs theta
    h.sec * 1000000000000 + h.nsec * 1000 + h.phase = -theta ∧
      (h.sec = 0 → -(1000 * ticks clockPeriodPs) ≤ h.phase ∧
        h.phase < 1000 * ticks clockPeriodPs) ∧
      (h.sec ≠ 0 → 0 ≤ h.nsec * 1000 + h.phase ∧
        h.nsec * 1000 + h.phase < 1000000000000) := by
  obtain ⟨hq, hq'⟩ := hperiod.ticks_bounds
  have hpicos := normalTs_picos hfits.1 hfits.2
  obtain ⟨hn, hn', hp, hp'⟩ := normalTs_normalised (-theta)
  simp only [hwOffset_eq hperiod, WrTimestamp.picos] at hpicos ⊢
  generalize normalTs (-theta) = o at *
  obtain ⟨he, he', hle, -⟩ := extraNsec_bounds hq hn
  generalize o.nsec % ticks clockPeriodPs = e at *
  generalize ticks clockPeriodPs = q at *
  split_ifs with hsec htick
  all_goals
    dsimp only
    omega

/-- A clock error of no more than a tick is a phase. -/
theorem hwOffset_of_belowTick (hperiod : TicksDivideSecond clockPeriodPs)
    (hlow : -(1000 * ticks clockPeriodPs) ≤ -theta) (hhigh : -theta < 1000 * ticks clockPeriodPs) :
    (hwOffset clockPeriodPs theta).sec = 0 ∧ (hwOffset clockPeriodPs theta).nsec = 0 := by
  obtain ⟨hq, hq'⟩ := hperiod.ticks_bounds
  have hpicos : (normalTs (-theta)).picos = -theta := normalTs_picos (by omega) (by omega)
  obtain ⟨hn, hn', hp, hp'⟩ := normalTs_normalised (-theta)
  simp only [hwOffset_eq hperiod, WrTimestamp.picos] at hpicos ⊢
  generalize normalTs (-theta) = o at *
  obtain ⟨he, he', -, hdvd⟩ := extraNsec_bounds hq hn
  have hsecond := hperiod.dvd_second
  generalize o.nsec % ticks clockPeriodPs = e at *
  generalize ticks clockPeriodPs = q at *
  -- The whole ticks are none, or all but one of a second that was borrowed.
  have hwhole : o.nsec - e = 0 ∨ o.nsec - e = 1000000000 - q := by
    rcases lt_or_ge theta 1 with hahead | hbehind
    · exact .inl (eq_of_dvd_of_lt hdvd (dvd_zero q) (by omega) (by omega))
    · have hlast : q ∣ 1000000000 - q := Int.dvd_sub hsecond (dvd_refl q)
      exact .inr (eq_of_dvd_of_lt hdvd hlast (by omega) (by omega))
  split_ifs with hsec htick
  all_goals
    dsimp only
    omega

/-- A clock that is behind by less than a second is not behind by whole seconds. -/
theorem hwOffset_of_belowSecond (hperiod : TicksDivideSecond clockPeriodPs) (hlow : 0 ≤ -theta)
    (hhigh : -theta < 1000000000000) : (hwOffset clockPeriodPs theta).sec = 0 := by
  have hpicos : (normalTs (-theta)).picos = -theta := normalTs_picos (by omega) (by omega)
  obtain ⟨hn, hn', hp, hp'⟩ := normalTs_normalised (-theta)
  simp only [hwOffset_eq hperiod, WrTimestamp.picos] at hpicos ⊢
  generalize normalTs (-theta) = o at *
  split_ifs with hsec htick
  · rfl
  · rfl
  · dsimp only
    omega

end Ticks

/-! ### The loop -/

/-- The servo of a slave, and the clock that it steers. -/
structure Loop where
  node : Node
  plant : Plant

/-- A call of the servo, before which the fibre may have grown. -/
structure LoopInput where
  stretch : ℤ
  call : ServoInput

namespace Loop

variable (i : LoopInput) (l : Loop)

/-- The clock that a call meets. -/
def met : Plant := l.plant.stretch i.stretch

/-- The loop after a call, whose orders the hardware has carried out. -/
def step : Loop :=
  let node := i.call.run l.node
  ⟨node, (met i l).obeyAdded l.node.netif.commands node.netif.commands⟩

/-- The servo is not started anew, and an update finds the timestamps of an exchange with the clock
it steers. -/
structure Exact : Prop where
  notInit : i.call.call.isInit = false
  phAdjust : i.call.surroundings.statics.phAdjust = 0
  exchange : i.call.Updates l.node → ∃ dms dsm,
    TwoWayExchange l.node.port.servo (met i l).clockError dms dsm ∧
      ExchangeFits l.node.port.servo (met i l).clockError dms dsm ∧
      (met i l).delay = l.node.port.servo.deltaTxM + dms + l.node.port.servo.deltaRxS

/-- An update is executed, and a servo that waits finds no adjustment in progress. -/
def Progresses : Prop :=
  i.call.Updates l.node ∧
    (l.node.port.servo.state = .waitSyncIdle → AdjustDone (measured (i.call.meet l.node)))

instance : Decidable (Progresses i l) := by
  unfold Progresses
  infer_instance

/-- The number of updates in a run that make progress. -/
def progress : Loop → List LoopInput → ℕ
  | _, [] => 0
  | l, i :: is => (if Progresses i l then 1 else 0) + progress (step i l) is

/-- The servo tracks the phase: the hardware holds the setpoint it believes in, and the clock is off
by what the delay has changed since it was last looked at. -/
structure Locked : Prop where
  tracks : Tracks l.node.port.servo
  setpoint : l.plant.setpoint = l.node.port.servo.curSetpoint
  error : l.plant.clockError = l.node.port.servo.deltaMsPrev - l.plant.delay

end Loop

/-- What a step of the loop does with an update: one step of the servo with the offset of the clock.
-/
theorem Loop.step_updates {i : LoopInput} {l : Loop} (hexact : Exact i l)
    (hupdates : i.call.Updates l.node) :
    ∃ m : Node, ∃ tics,
      m.port.servo =
        { l.node.port.servo with mu := m.port.servo.mu, deltaMs := (met i l).delay } ∧
      m.statics.trackingEnabled = i.call.surroundings.statics.trackingEnabled ∧
      (AdjustDone m ↔ AdjustDone (measured (i.call.meet l.node))) ∧
      FitsInt64 (-(met i l).clockError / 1000000000000) ∧
      (step i l).node = servoStep m
        (hwOffset l.node.port.servo.clockPeriodPs (met i l).clockError) tics ∧
      ∀ orders, (step i l).node.netif.commands = m.netif.commands ++ orders →
        (step i l).plant = orders.foldl Plant.obey (met i l) := by
  obtain ⟨dms, dsm, hexchange, hfits, hdelay⟩ := hexact.exchange hupdates
  have hrun : (step i l).node = servoStep (measured (i.call.meet l.node)) (i.call.hw l.node)
      (updateTics (i.call.meet l.node)) := by
    -- The other two outcomes of a call execute no update.
    obtain ⟨-, heq⟩ | ⟨hno, -⟩ | ⟨hno, -⟩ := i.call.run_cases l.node
    · exact heq
    · exact absurd hupdates hno
    · exact absurd hupdates hno
  have hphAdjust : (i.call.meet l.node).statics.phAdjust = 0 := hexact.phAdjust
  have hoffset : i.call.hw l.node =
      hwOffset l.node.port.servo.clockPeriodPs (met i l).clockError := by
    rw [ServoInput.hw, updateHw, servoOffsetHw, hphAdjust, ServoInput.meet_servo,
      hexchange.servoOffset_eq hfits]
    rfl
  refine ⟨measured (i.call.meet l.node), updateTics (i.call.meet l.node), ?_, ?_, Iff.rfl,
    hfits.clockError, ?_, fun orders horders => ?_⟩
  · rw [measured_servo, hphAdjust, ServoInput.meet_servo, hexchange.servoDelay_eq hfits, hdelay]
  · exact measured_trackingEnabled _
  · rw [hrun, hoffset]
  -- The calls before the step of the servo poll the hardware and order nothing.
  · obtain ⟨polled, hpolled, hidle⟩ := commands_measured (i.call.meet l.node)
    have hnode : (step i l).node.netif.commands = l.node.netif.commands ++ (polled ++ orders) := by
      rw [horders, hpolled, ServoInput.meet_commands, List.append_assoc]
    change (met i l).obeyAdded _ (step i l).node.netif.commands = _
    rw [hnode, Plant.obeyAdded_append, List.foldl_append, hidle]

/-- A call without an update leaves the control of the servo and the clock alone. -/
theorem Loop.step_of_not_updates {i : LoopInput} {l : Loop} (hexact : Exact i l)
    (hupdates : ¬i.call.Updates l.node) :
    SameControl l.node (step i l).node ∧ (step i l).plant = met i l := by
  have hsame : SameControl l.node (i.call.run l.node) := by
    obtain ⟨hyes, -⟩ | ⟨-, hsame⟩ | ⟨-, hinit, -⟩ := i.call.run_cases l.node
    · exact absurd hyes hupdates
    · exact hsame
    · exact absurd hinit (by simp [hexact.notInit])
  refine ⟨hsame, ?_⟩
  change (met i l).obeyAdded _ (i.call.run l.node).netif.commands = _
  rw [hsame.commands, Plant.obeyAdded_self]

/-- Only a new start changes the clock period of the servo. -/
theorem clockPeriodPs_run {i : ServoInput} {n : Node} (hinit : i.call.isInit = false) :
    (i.run n).port.servo.clockPeriodPs = n.port.servo.clockPeriodPs := by
  obtain ⟨m, c⟩ := i
  cases c with
  | init => cases hinit
  | gotSync t1 t2 => rfl
  | gotDelay cf => rfl
  | update =>
    by_cases hrun : UpdateRuns (ServoInput.meet ⟨m, .update⟩ n)
    · have heq : ServoInput.run ⟨m, .update⟩ n = servoStep _ _ _ := wrServoUpdate_of_runs hrun
      rw [heq, clockPeriodPs_servoStep, measured_servo]
      rfl
    · have heq : ServoInput.run ⟨m, .update⟩ n = _ := wrServoUpdate_of_not_runs hrun
      rw [heq]
      rfl

/-! ### Approaching the lock -/

/-- The servo has set the phase: the clock is right, and held at the setpoint the servo believes in.
-/
structure OnTime (s : WrServoState) (p : Plant) : Prop where
  error : p.clockError = 0
  setpoint : p.setpoint = s.curSetpoint
  fits : FitsInt32 s.curSetpoint
  delay : s.deltaMsPrev = p.delay

/-- The clock is off by less than a tick. -/
structure BelowTick (s : WrServoState) (p : Plant) : Prop where
  low : -(1000 * ticks s.clockPeriodPs) ≤ -p.clockError
  high : -p.clockError < 1000 * ticks s.clockPeriodPs
  setpoint : p.setpoint = 0

/-- The clock is not off by whole seconds. -/
structure BelowSecond (s : WrServoState) (p : Plant) : Prop where
  seconds : (hwOffset s.clockPeriodPs p.clockError).sec = 0
  setpoint : p.setpoint = 0

/-- The stages of a servo that was started, with the updates that are left until it tracks. -/
inductive Stage (s : WrServoState) (p : Plant) : ℕ → Prop
  | syncTai : s.state = .syncTai → p.setpoint = 0 → Stage s p 8
  | secondsGiven : s.state = .waitSyncIdle → s.nextState = .syncNsec → BelowSecond s p → Stage s p 7
  | syncNsec : s.state = .syncNsec → BelowSecond s p → Stage s p 6
  | ticksGiven : s.state = .waitSyncIdle → s.nextState = .syncNsec → BelowTick s p → Stage s p 5
  | noTicks : s.state = .syncNsec → BelowTick s p → Stage s p 4
  | syncPhase : s.state = .syncPhase → BelowTick s p → Stage s p 3
  | phaseGiven : s.state = .waitSyncIdle → s.nextState = .waitOffsetStable → OnTime s p →
      Stage s p 2
  | waitOffsetStable : s.state = .waitOffsetStable → OnTime s p → Stage s p 1
  | locked : Tracks s → OnTime s p → Stage s p 0

section Update

variable {s : WrServoState} {p : Plant} {left : ℕ}

/-- A stage does not depend on what a call without an update changes. -/
theorem Stage.congr (h : Stage s p left) {s' : WrServoState} (hstate : s'.state = s.state)
    (hnext : s'.nextState = s.nextState) (hsetpoint : s'.curSetpoint = s.curSetpoint)
    (hdelay : s'.deltaMsPrev = s.deltaMsPrev) (hperiod : s'.clockPeriodPs = s.clockPeriodPs) :
    Stage s' p left := by
  have hsecond (hb : BelowSecond s p) : BelowSecond s' p := ⟨hperiod ▸ hb.seconds, hb.setpoint⟩
  have htick (hb : BelowTick s p) : BelowTick s' p :=
    ⟨hperiod ▸ hb.low, hperiod ▸ hb.high, hb.setpoint⟩
  have honTime (ho : OnTime s p) : OnTime s' p :=
    ⟨ho.error, ho.setpoint.trans hsetpoint.symm, hsetpoint ▸ ho.fits, hdelay.trans ho.delay⟩
  cases h with
  | syncTai hs hp => exact .syncTai (hstate.trans hs) hp
  | secondsGiven hs hn hb => exact .secondsGiven (hstate.trans hs) (hnext.trans hn) (hsecond hb)
  | syncNsec hs hb => exact .syncNsec (hstate.trans hs) (hsecond hb)
  | ticksGiven hs hn hb => exact .ticksGiven (hstate.trans hs) (hnext.trans hn) (htick hb)
  | noTicks hs hb => exact .noTicks (hstate.trans hs) (htick hb)
  | syncPhase hs hb => exact .syncPhase (hstate.trans hs) (htick hb)
  | phaseGiven hs hn ho => exact .phaseGiven (hstate.trans hs) (hnext.trans hn) (honTime ho)
  | waitOffsetStable hs ho => exact .waitOffsetStable (hstate.trans hs) (honTime ho)
  | locked ht ho =>
    refine .locked ?_ (honTime ho)
    rw [Tracks, hstate, hnext]
    exact ht

/-- The clock is right, so that the offset is none. -/
theorem OnTime.hwOffset_eq (h : OnTime s p) (hperiod : TicksDivideSecond s.clockPeriodPs) :
    Stable (hwOffset s.clockPeriodPs p.clockError) := by
  have hq := hperiod.ticks_bounds.1
  have hlow : -(1000 * ticks s.clockPeriodPs) ≤ -p.clockError := by
    rw [h.error]
    omega
  have hhigh : -p.clockError < 1000 * ticks s.clockPeriodPs := by
    rw [h.error]
    omega
  have hfits : FitsInt64 (-p.clockError / 1000000000000) := by
    rw [h.error]
    decide
  obtain ⟨hsec, hnsec⟩ := hwOffset_of_belowTick hperiod hlow hhigh
  have hparts := (hwOffset_parts hperiod hfits).1
  have hphase : (hwOffset s.clockPeriodPs p.clockError).picos = 0 := by
    rw [WrTimestamp.picos, hparts, h.error, neg_zero]
  refine ⟨hsec, hnsec, ?_⟩
  rw [tsToPicos_eq, hphase]
  decide

/-- What an update makes of a stage, when its orders are carried out: it is not left behind, and
some other one is reached unless the servo waits. -/
def Advances (s : WrServoState) (p : Plant) (left : ℕ) (m m' : Node) : Prop :=
  ∃ orders left', m'.netif.commands = m.netif.commands ++ orders ∧ m'.port.servo.missedIters = 0 ∧
    Stage m'.port.servo (orders.foldl Plant.obey p) left' ∧ left' ≤ left ∧
    ((s.state = .waitSyncIdle → AdjustDone m) → left' ≤ left - 1)

variable {m : Node} {hw : WrTimestamp} {tics : UInt64}

/-- A servo that waits goes on with its next stage once the hardware has carried out the adjustment.
-/
theorem Stage.update_waitSyncIdle {next : ℕ} (h : Stage s p left)
    (hm : m.port.servo = { s with mu := m.port.servo.mu, deltaMs := p.delay })
    (hmissed : s.missedIters = 0) (hstate : s.state = .waitSyncIdle)
    (hnext : Stage { s with state := s.nextState } p next) (hle : next ≤ left - 1) :
    Advances s p left m (servoStep m hw tics) := by
  have hstate' : m.port.servo.state = .waitSyncIdle := (congrArg (·.state) hm).trans hstate
  have hservo := servo_servoStep_waitSyncIdle hw tics hstate'
  have hcommands : (servoStep m hw tics).netif.commands = m.netif.commands ++ [] := by
    rw [commands_servoStep_waitSyncIdle hw tics hstate', List.append_nil]
  by_cases hdone : AdjustDone m
  · rw [if_pos hdone, hm] at hservo
    refine ⟨[], next, hcommands, by rw [hservo]; exact hmissed, ?_, by omega, fun _ => hle⟩
    rw [hservo]
    exact hnext.congr rfl rfl rfl rfl rfl
  · rw [if_neg hdone, hm] at hservo
    refine ⟨[], left, hcommands, by rw [hservo]; exact hmissed, ?_, le_rfl,
      fun himp => absurd (himp hstate) hdone⟩
    rw [hservo]
    exact h.congr rfl rfl rfl rfl rfl

section Executed

variable (hm : m.port.servo = { s with mu := m.port.servo.mu, deltaMs := p.delay })
  (hmissed : s.missedIters = 0) (hperiod : TicksDivideSecond s.clockPeriodPs)
include hm hmissed hperiod

/-- The whole seconds go first, and with them a phase that may be left from before. -/
theorem Stage.update_syncTai (hs : s.state = .syncTai) (hp : p.setpoint = 0)
    (hfits : FitsInt64 (-p.clockError / 1000000000000)) :
    Advances s p 8 m (servoStep m (hwOffset s.clockPeriodPs p.clockError) tics) := by
  have hstate : m.port.servo.state = .syncTai := (congrArg (·.state) hm).trans hs
  obtain ⟨hparts, -, hsecond⟩ := hwOffset_parts hperiod hfits
  have hservo := servo_servoStep_syncTai (hwOffset s.clockPeriodPs p.clockError) tics hstate
  have hcommands := commands_servoStep_syncTai (hwOffset s.clockPeriodPs p.clockError) tics hstate
  by_cases hsec : (hwOffset s.clockPeriodPs p.clockError).sec = 0
  · rw [if_neg (not_not.mpr hsec), hm] at hservo
    rw [if_neg (not_not.mpr hsec)] at hcommands
    refine ⟨_, 6, hcommands, by rw [hservo]; exact hmissed, ?_, by omega, fun _ => by omega⟩
    rw [hservo]
    exact .syncNsec rfl ⟨hsec, hp⟩
  · rw [if_pos hsec, hm] at hservo
    rw [if_pos hsec] at hcommands
    obtain ⟨hlow, hhigh⟩ := hsecond hsec
    refine ⟨_, 7, hcommands, by rw [hservo]; exact hmissed, ?_, by omega, fun _ => by omega⟩
    rw [hservo]
    refine .secondsGiven rfl rfl ⟨hwOffset_of_belowSecond hperiod ?_ ?_, rfl⟩
    all_goals
      simp only [List.foldl_cons, List.foldl_nil, Plant.obey, hp]
      omega

/-- Then the whole ticks go. -/
theorem Stage.update_syncNsec (hs : s.state = .syncNsec) (hb : BelowSecond s p)
    (hfits : FitsInt64 (-p.clockError / 1000000000000)) :
    Advances s p 6 m (servoStep m (hwOffset s.clockPeriodPs p.clockError) tics) := by
  have hstate : m.port.servo.state = .syncNsec := (congrArg (·.state) hm).trans hs
  obtain ⟨hparts, htick, -⟩ := hwOffset_parts hperiod hfits
  have hservo := servo_servoStep_syncNsec (hwOffset s.clockPeriodPs p.clockError) tics hstate
  have hcommands := commands_servoStep_syncNsec (hwOffset s.clockPeriodPs p.clockError) tics hstate
  obtain ⟨hlow, hhigh⟩ := htick hb.seconds
  rw [hb.seconds] at hparts
  -- Without whole ticks to give the servo orders nothing and goes on to `SYNC_PHASE`.
  by_cases hnsec : (hwOffset s.clockPeriodPs p.clockError).nsec = 0
  · rw [if_neg (not_not.mpr hnsec), hm] at hservo
    rw [if_neg (not_not.mpr hnsec)] at hcommands
    refine ⟨_, 3, hcommands, by rw [hservo]; exact hmissed, ?_, by omega, fun _ => by omega⟩
    rw [hservo]
    refine .syncPhase rfl ⟨?_, ?_, hb.setpoint⟩
    all_goals
      dsimp only [List.foldl_nil]
      omega
  · rw [if_pos hnsec, hm] at hservo
    rw [if_pos hnsec] at hcommands
    refine ⟨_, 5, hcommands, by rw [hservo]; exact hmissed, ?_, by omega, fun _ => by omega⟩
    rw [hservo]
    refine .ticksGiven rfl rfl ⟨?_, ?_, hb.setpoint⟩
    all_goals
      simp only [List.foldl_cons, List.foldl_nil, Plant.obey]
      omega

/-- The second time there are none. -/
theorem Stage.update_noTicks (hs : s.state = .syncNsec) (hb : BelowTick s p) :
    Advances s p 4 m (servoStep m (hwOffset s.clockPeriodPs p.clockError) tics) := by
  have hstate : m.port.servo.state = .syncNsec := (congrArg (·.state) hm).trans hs
  have hservo := servo_servoStep_syncNsec (hwOffset s.clockPeriodPs p.clockError) tics hstate
  have hcommands := commands_servoStep_syncNsec (hwOffset s.clockPeriodPs p.clockError) tics hstate
  have hnsec := (hwOffset_of_belowTick hperiod hb.low hb.high).2
  rw [if_neg (not_not.mpr hnsec), hm] at hservo
  rw [if_neg (not_not.mpr hnsec)] at hcommands
  refine ⟨_, 3, hcommands, by rw [hservo]; exact hmissed, ?_, by omega, fun _ => by omega⟩
  rw [hservo]
  exact .syncPhase rfl ⟨hb.low, hb.high, hb.setpoint⟩

/-- What is left is the phase, to which the setpoint is moved from zero. -/
theorem Stage.update_syncPhase (hs : s.state = .syncPhase) (hb : BelowTick s p) :
    Advances s p 3 m (servoStep m (hwOffset s.clockPeriodPs p.clockError) tics) := by
  have hstate : m.port.servo.state = .syncPhase := (congrArg (·.state) hm).trans hs
  have hservo := servo_servoStep_syncPhase (hwOffset s.clockPeriodPs p.clockError) tics hstate
  have hcommands := commands_servoStep_syncPhase (hwOffset s.clockPeriodPs p.clockError) tics hstate
  obtain ⟨hlow, hhigh, hsetpoint⟩ := hb
  obtain ⟨hsec, hnsec⟩ := hwOffset_of_belowTick hperiod hlow hhigh
  obtain ⟨hq, hq'⟩ := hperiod.ticks_bounds
  have hfits : FitsInt64 (-p.clockError / 1000000000000) := by
    constructor <;> omega
  have hparts := (hwOffset_parts hperiod hfits).1
  rw [hsec, hnsec] at hparts
  have hphase : i32 ((hwOffset s.clockPeriodPs p.clockError).phase +
      (hwOffset s.clockPeriodPs p.clockError).nsec * 1000) = -p.clockError := by
    rw [hnsec, i32_eq_self (by omega) (by omega)]
    omega
  rw [hphase, hm] at hservo
  rw [hphase] at hcommands
  refine ⟨_, 2, hcommands, by rw [hservo]; exact hmissed, ?_, by omega, fun _ => by omega⟩
  rw [hservo]
  refine .phaseGiven rfl rfl ⟨?_, rfl, ?_, rfl⟩
  · simp only [List.foldl_cons, List.foldl_nil, Plant.obey, hsetpoint]
    omega
  · constructor <;> dsimp only <;> omega

/-- An offset of none is stable, and no iteration was missed. -/
theorem Stage.update_waitOffsetStable (hs : s.state = .waitOffsetStable) (ho : OnTime s p) :
    Advances s p 1 m (servoStep m (hwOffset s.clockPeriodPs p.clockError) tics) := by
  have hstate : m.port.servo.state = .waitOffsetStable := (congrArg (·.state) hm).trans hs
  have hservo :=
    servo_servoStep_waitOffsetStable (hwOffset s.clockPeriodPs p.clockError) tics hstate
  obtain ⟨orders, hcommands, hidle⟩ :=
    commands_servoStep_waitOffsetStable (hwOffset s.clockPeriodPs p.clockError) tics hstate
  have hstable := ho.hwOffset_eq hperiod
  have hmissed' : missedAfter (hwOffset s.clockPeriodPs p.clockError) m.port.servo = 0 := by
    rw [missedAfter, if_pos (.inr hstable)]
    exact (congrArg (·.missedIters) hm).trans hmissed
  rw [hmissed', if_neg (by simp [hstable.not_jumped]), if_pos hstable, hm] at hservo
  refine ⟨orders, 0, hcommands, by rw [hservo], ?_, by omega, fun _ => by omega⟩
  rw [hservo, hidle]
  exact .locked (.inl rfl) ⟨ho.error, ho.setpoint, ho.fits, ho.delay⟩

/-- As long as the delay stays, tracking asks for the setpoint that the hardware has. -/
theorem Stage.update_trackPhase (hs : s.state = .trackPhase) (ho : OnTime s p) :
    Advances s p 0 m (servoStep m (hwOffset s.clockPeriodPs p.clockError) tics) := by
  have hstate : m.port.servo.state = .trackPhase := (congrArg (·.state) hm).trans hs
  have hservo := servo_servoStep_trackPhase (hwOffset s.clockPeriodPs p.clockError) tics hstate
  have hcommands :=
    commands_servoStep_trackPhase (hwOffset s.clockPeriodPs p.clockError) tics hstate
  have hjumped : ¬Jumped (hwOffset s.clockPeriodPs p.clockError) :=
    (ho.hwOffset_eq hperiod).not_jumped
  have hsetpoint : i32 (m.port.servo.curSetpoint +
      (m.port.servo.deltaMs - m.port.servo.deltaMsPrev)) = s.curSetpoint := by
    rw [hm]
    dsimp only
    rw [ho.delay, sub_self, add_zero, i32_eq_self ho.fits.1 ho.fits.2]
  rw [hsetpoint] at hservo hcommands
  split_ifs at hservo hcommands with htracking
  · rw [hm] at hservo
    refine ⟨_, 0, hcommands, by rw [hservo]; exact hmissed, ?_, le_rfl, fun _ => le_rfl⟩
    rw [hservo]
    refine .locked (.inr ⟨rfl, rfl⟩) ⟨?_, rfl, ho.fits, rfl⟩
    simp only [List.foldl_cons, List.foldl_nil, Plant.obey, ho.setpoint, ho.error]
    omega
  · rw [hm] at hservo
    refine ⟨_, 0, hcommands, by rw [hservo]; exact hmissed, ?_, le_rfl, fun _ => le_rfl⟩
    rw [hservo]
    exact .locked (.inl hs) ⟨ho.error, ho.setpoint, ho.fits, ho.delay⟩

/-- An executed update, as long as the delay is the one the servo has measured before. -/
theorem Stage.update (h : Stage s p left) (hfits : FitsInt64 (-p.clockError / 1000000000000)) :
    Advances s p left m (servoStep m (hwOffset s.clockPeriodPs p.clockError) tics) := by
  -- One case per stage; in the waiting ones only the poll of the adjustment counts.
  cases h with
  | syncTai hs hp => exact Stage.update_syncTai hm hmissed hperiod hs hp hfits
  | secondsGiven hs hn hb =>
    exact Stage.update_waitSyncIdle (.secondsGiven hs hn hb) hm hmissed hs
      (.syncNsec hn ⟨hb.seconds, hb.setpoint⟩) (by omega)
  | syncNsec hs hb => exact Stage.update_syncNsec hm hmissed hperiod hs hb hfits
  | ticksGiven hs hn hb =>
    exact Stage.update_waitSyncIdle (.ticksGiven hs hn hb) hm hmissed hs
      (.noTicks hn ⟨hb.low, hb.high, hb.setpoint⟩) (by omega)
  | noTicks hs hb => exact Stage.update_noTicks hm hmissed hperiod hs hb
  | syncPhase hs hb => exact Stage.update_syncPhase hm hmissed hperiod hs hb
  | phaseGiven hs hn ho =>
    exact Stage.update_waitSyncIdle (.phaseGiven hs hn ho) hm hmissed hs
      (.waitOffsetStable hn ⟨ho.error, ho.setpoint, ho.fits, ho.delay⟩) (by omega)
  | waitOffsetStable hs ho => exact Stage.update_waitOffsetStable hm hmissed hperiod hs ho
  | locked ht ho =>
    rcases ht with hs | ⟨hs, hn⟩
    · exact Stage.update_trackPhase hm hmissed hperiod hs ho
    · exact Stage.update_waitSyncIdle (.locked (.inr ⟨hs, hn⟩) ho) hm hmissed hs
        (.locked (.inl hn) ⟨ho.error, ho.setpoint, ho.fits, ho.delay⟩) (by omega)

end Executed

end Update

/-- A loop that has so many updates left until it tracks. -/
structure Approach (l : Loop) (left : ℕ) : Prop where
  missed : l.node.port.servo.missedIters = 0
  period : TicksDivideSecond l.node.port.servo.clockPeriodPs
  stage : Stage l.node.port.servo l.plant left

/-- A call on a fibre that stays as it is: every update that makes progress leaves one less. -/
theorem Approach.step {i : LoopInput} {l : Loop} {left : ℕ} (h : Approach l left)
    (hexact : Loop.Exact i l) (hstretch : i.stretch = 0) :
    ∃ left', Approach (Loop.step i l) left' ∧
      left' ≤ left - if Loop.Progresses i l then 1 else 0 := by
  have hmet : Loop.met i l = l.plant := by
    simp [Loop.met, Plant.stretch, hstretch]
  have hperiod : (Loop.step i l).node.port.servo.clockPeriodPs = l.node.port.servo.clockPeriodPs :=
    clockPeriodPs_run hexact.notInit
  by_cases hupdates : i.call.Updates l.node
  · obtain ⟨m, tics, hm, -, hdone, hfits, hnode, hplant⟩ := Loop.step_updates hexact hupdates
    rw [hmet] at hm hfits hnode hplant
    obtain ⟨orders, left', hcommands, hmissed, hstage, hle, hprogress⟩ : Advances
        l.node.port.servo l.plant left m (servoStep m (hwOffset l.node.port.servo.clockPeriodPs
          l.plant.clockError) tics) :=
      Stage.update hm h.missed h.period h.stage hfits
    rw [← hnode] at hcommands hmissed hstage
    refine ⟨left', ⟨hmissed, by rw [hperiod]; exact h.period, ?_⟩, ?_⟩
    · rw [hplant orders hcommands]
      exact hstage
    · split_ifs with hprogresses
      · exact hprogress fun hs => hdone.mpr (hprogresses.2 hs)
      · exact hle
  · obtain ⟨hsame, hplant⟩ := Loop.step_of_not_updates hexact hupdates
    -- A call that does not update changes neither the stage nor the hardware.
    have hidle : ¬Loop.Progresses i l := fun hprogresses => hupdates hprogresses.1
    refine ⟨left, ⟨hsame.missedIters.trans h.missed, by rw [hperiod]; exact h.period, ?_⟩, ?_⟩
    · rw [hplant, hmet]
      exact h.stage.congr hsame.state hsame.nextState hsame.curSetpoint hsame.deltaMsPrev hperiod
    · rw [if_neg hidle]
      exact le_rfl

/-- In a run the updates that make progress use up those that are left. -/
theorem Approach.run {l : Loop} {left : ℕ} (h : Approach l left) {inputs : List LoopInput}
    (hruns : EveryStep Loop.step (fun i l => Loop.Exact i l ∧ i.stretch = 0) l inputs) :
    ∃ left', Approach (runInputs Loop.step l inputs) left' ∧ left' ≤ left - l.progress inputs := by
  induction inputs generalizing l left with
  | nil => exact ⟨left, h, le_rfl⟩
  | cons i is ih =>
    obtain ⟨⟨hexact, hstretch⟩, hrest⟩ := hruns
    obtain ⟨next, hnext, hle⟩ := h.step hexact hstretch
    obtain ⟨left', hleft', hle'⟩ := ih hnext hrest
    refine ⟨left', hleft', hle'.trans ?_⟩
    rw [Loop.progress]
    omega

/-- Once the servo is started, with no phase set before, and the fibre stays as it is: after eight
updates that found no adjustment in progress it tracks the phase, the hardware holds its setpoint,
and the clock of the slave is that of the master. -/
theorem locks {n : Node} {data : CalibrationData} (hdata : n.answer .readCalibrationData = data)
    (hok : data.ok = true) (hperiod : TicksDivideSecond data.clockPeriod) {p : Plant}
    (hp : p.setpoint = 0) {inputs : List LoopInput}
    (hruns : EveryStep Loop.step (fun i l => Loop.Exact i l ∧ i.stretch = 0) ⟨wrServoInit n, p⟩
      inputs)
    (hprogress : 8 ≤ Loop.progress ⟨wrServoInit n, p⟩ inputs) :
    (runInputs Loop.step ⟨wrServoInit n, p⟩ inputs).Locked ∧
      (runInputs Loop.step ⟨wrServoInit n, p⟩ inputs).plant.clockError = 0 := by
  have hservo : (wrServoInit n).port.servo.state = .syncTai ∧
      (wrServoInit n).port.servo.missedIters = 0 ∧
      (wrServoInit n).port.servo.clockPeriodPs = data.clockPeriod := by
    subst hdata
    simp only [wrServoInit]
    rw [if_pos hok]
    exact ⟨rfl, rfl, rfl⟩
  obtain ⟨hstate, hmissed, hclock⟩ := hservo
  have hstart : Approach ⟨wrServoInit n, p⟩ 8 :=
    ⟨hmissed, by rw [hclock]; exact hperiod, .syncTai hstate hp⟩
  obtain ⟨left, hend, hle⟩ := hstart.run hruns
  obtain rfl : left = 0 := by omega
  cases hend.stage with
  | locked htracks ho =>
    exact ⟨⟨htracks, ho.setpoint, by rw [ho.error, ho.delay, sub_self]⟩, ho.error⟩

section Slave

instance (ts : WrTimestamp) : Decidable ts.Normalised :=
  decidable_of_iff (0 ≤ ts.nsec ∧ ts.nsec < 1000000000 ∧ 0 ≤ ts.phase ∧ ts.phase < 1000)
    ⟨fun ⟨hn, hn', hp, hp'⟩ => ⟨hn, hn', hp, hp'⟩, fun ⟨hn, hn', hp, hp'⟩ => ⟨hn, hn', hp, hp'⟩⟩

/-- An exchange over a fibre that takes as long in both directions, without asymmetry. -/
structure SymmetricExchange (s : WrServoState) (theta dms : ℤ) : Prop where
  normalised : s.t1.Normalised ∧ s.t2.Normalised ∧ s.t3.Normalised ∧ s.t4.Normalised
  t2_eq : s.t2.picos = s.t1.picos + s.deltaTxM + dms + s.deltaRxS + theta
  t4_eq : s.t4.picos = s.t3.picos - theta + s.deltaTxS + dms + s.deltaRxM
  fixed : 0 ≤ s.deltaTxM ∧ 0 ≤ s.deltaRxM ∧ 0 ≤ s.deltaTxS ∧ 0 ≤ s.deltaRxS ∧
    s.fixedDelays < 2 ^ 31 ∧ s.fiberFixAlpha = 0
  small : 0 ≤ dms ∧ dms < 2 ^ 61 ∧ FitsInt64 (-theta / 1000000000000)

instance (s : WrServoState) (theta dms : ℤ) : Decidable (SymmetricExchange s theta dms) :=
  decidable_of_iff
    ((s.t1.Normalised ∧ s.t2.Normalised ∧ s.t3.Normalised ∧ s.t4.Normalised) ∧
      s.t2.picos = s.t1.picos + s.deltaTxM + dms + s.deltaRxS + theta ∧
      s.t4.picos = s.t3.picos - theta + s.deltaTxS + dms + s.deltaRxM ∧
      (0 ≤ s.deltaTxM ∧ 0 ≤ s.deltaRxM ∧ 0 ≤ s.deltaTxS ∧ 0 ≤ s.deltaRxS ∧
        s.fixedDelays < 2 ^ 31 ∧ s.fiberFixAlpha = 0) ∧
      (0 ≤ dms ∧ dms < 2 ^ 61 ∧ FitsInt64 (-theta / 1000000000000)))
    ⟨fun ⟨hn, h2, h4, hf, hs⟩ => ⟨hn, h2, h4, hf, hs⟩,
      fun ⟨hn, h2, h4, hf, hs⟩ => ⟨hn, h2, h4, hf, hs⟩⟩

/-- A call of the servo over such a fibre. -/
def Symmetric (i : LoopInput) (l : Loop) : Prop :=
  i.call.call.isInit = false ∧ i.call.surroundings.statics.phAdjust = 0 ∧
    (i.call.Updates l.node → SymmetricExchange l.node.port.servo (Loop.met i l).clockError
      ((Loop.met i l).delay - l.node.port.servo.deltaTxM - l.node.port.servo.deltaRxS))

instance (i : LoopInput) (l : Loop) : Decidable (Symmetric i l) := by
  unfold Symmetric
  infer_instance

/-- The timestamps of such exchanges are exact. -/
theorem Symmetric.exact {i : LoopInput} {l : Loop} (h : Symmetric i l) : Loop.Exact i l := by
  obtain ⟨hinit, hphAdjust, hexchange⟩ := h
  refine ⟨hinit, hphAdjust, fun hupdates => ?_⟩
  obtain ⟨⟨h1, h2, h3, h4⟩, ht2, ht4, ⟨hTxM, hRxM, hTxS, hRxS, hsum, halpha⟩, hlow, hhigh, hfits⟩ :=
    hexchange hupdates
  generalize hdms : (Loop.met i l).delay - l.node.port.servo.deltaTxM -
    l.node.port.servo.deltaRxS = dms at *
  have hfixed : 0 ≤ l.node.port.servo.fixedDelays := by
    unfold WrServoState.fixedDelays
    omega
  refine ⟨dms, dms, ⟨h1, h2, h3, h4, ht2, ht4, hTxM, hRxM, hTxS, hRxS, hsum, hlow, hlow, ?_⟩,
    ⟨?_, ?_, hfits⟩, by omega⟩
  · rw [halpha, zero_mul, Int.zero_ediv]
    omega
  · constructor <;> omega
  · rw [halpha, zero_mul]
    decide

/-- A clock three seconds, forty nanoseconds and half a nanosecond behind, five nanoseconds away. -/
def latePlant : Plant := ⟨-3000000040500, 5000, 0⟩

/-- Eight exchanges with this clock while the servo sets it right. -/
def lateExchanges : List LoopInput :=
  let late := exchange ⟨2, 464, 500, 1⟩ ⟨9, 544, 0, 1⟩ 32768
  let ticksLate := exchange ⟨5, 464, 500, 1⟩ ⟨6, 544, 0, 1⟩ 32768
  let phaseLate := exchange ⟨5, 504, 500, 1⟩ ⟨6, 504, 0, 1⟩ 32768
  let onTime := exchange ⟨5, 505, 0, 1⟩ ⟨6, 504, 0, 1⟩ 0
  (late ++ ticksLate ++ ticksLate ++ phaseLate ++ phaseLate ++ phaseLate ++ onTime ++ onTime).map
    fun call => ⟨0, call⟩

set_option maxRecDepth 100000 in
theorem locks_lateExchanges :
    (runInputs Loop.step ⟨wrServoInit readySlave, latePlant⟩ lateExchanges).Locked ∧
      (runInputs Loop.step ⟨wrServoInit readySlave, latePlant⟩
        lateExchanges).plant.clockError = 0 :=
  have hsymmetric : EveryStep Loop.step (fun i l => Symmetric i l ∧ i.stretch = 0)
      ⟨wrServoInit readySlave, latePlant⟩ lateExchanges := by
    decide +kernel
  have hdata : readySlave.answer .readCalibrationData = ⟨true, 1000, 2000, 0, 8000⟩ := rfl
  locks hdata rfl ⟨by decide, by decide, by decide⟩ rfl
    (hsymmetric.of_invariant (I := fun _ => True) trivial fun _ _ _ h =>
      ⟨⟨h.1.exact, h.2⟩, trivial⟩)
    (by decide +kernel)

end Slave

/-! ### Tracking -/

/-- Tracking is on, and the setpoint that the delay asks for is a number of type `int`. -/
structure Loop.Tracked (i : LoopInput) (l : Loop) : Prop where
  enabled : i.call.surroundings.statics.trackingEnabled = true
  fits : FitsInt32 (l.plant.setpoint + ((met i l).delay - l.node.port.servo.deltaMsPrev))

/-- What a call makes of the setpoint and the clock. An update in `TRACK_PHASE` moves the setpoint
by what the delay has changed since the one before (`deltaMsPrev`), and the clock agrees with the
master's; every other call leaves the setpoint and the delay that was remembered. -/
structure Loop.Follows (i : LoopInput) (l : Loop) : Prop where
  setpoint : i.call.Updates l.node → l.node.port.servo.state = .trackPhase →
    (Loop.step i l).plant.setpoint =
      l.plant.setpoint + ((met i l).delay - l.node.port.servo.deltaMsPrev)
  remembers : i.call.Updates l.node → l.node.port.servo.state = .trackPhase →
    (Loop.step i l).node.port.servo.deltaMsPrev = (met i l).delay
  error : i.call.Updates l.node → l.node.port.servo.state = .trackPhase →
    (Loop.step i l).plant.clockError = 0
  waits : ¬(i.call.Updates l.node ∧ l.node.port.servo.state = .trackPhase) →
    (Loop.step i l).plant.setpoint = l.plant.setpoint ∧
      (Loop.step i l).node.port.servo.deltaMsPrev = l.node.port.servo.deltaMsPrev

section Locked

variable {i : LoopInput} {l : Loop}

/-- The clock error of a servo that tracks is what the delay has changed. -/
theorem Loop.Locked.met_clockError (h : l.Locked) (i : LoopInput) :
    (met i l).clockError = l.node.port.servo.deltaMsPrev - (met i l).delay := by
  dsimp only [met, Plant.stretch]
  have herror := h.error
  omega

/-- An update in `TRACK_PHASE` moves the setpoint by the change of the delay. -/
theorem Loop.Locked.step_trackPhase (h : l.Locked) (hexact : Exact i l) (htracked : Tracked i l)
    (hupdates : i.call.Updates l.node) (hs : l.node.port.servo.state = .trackPhase) :
    (Loop.step i l).Locked ∧ Follows i l := by
  have hmet := h.met_clockError i
  obtain ⟨-, hsetpoint, -⟩ := h
  obtain ⟨m, tics, hm, henabled, -, -, hnode, hplant⟩ := step_updates hexact hupdates
  generalize hwOffset l.node.port.servo.clockPeriodPs (met i l).clockError = hw at hnode
  have hstate : m.port.servo.state = .trackPhase := (congrArg (·.state) hm).trans hs
  have hservo := servo_servoStep_trackPhase hw tics hstate
  have hcommands := commands_servoStep_trackPhase hw tics hstate
  -- The new setpoint is an `int`, so that the sum of the source does not wrap.
  have hnext : i32 (m.port.servo.curSetpoint +
      (m.port.servo.deltaMs - m.port.servo.deltaMsPrev)) =
      l.plant.setpoint + ((met i l).delay - l.node.port.servo.deltaMsPrev) := by
    rw [hm, hsetpoint]
    dsimp only
    exact i32_eq_self (hsetpoint ▸ htracked.fits.1) (hsetpoint ▸ htracked.fits.2)
  have hon : m.statics.trackingEnabled = true := henabled.trans htracked.enabled
  rw [if_pos hon, hnext, ← hnode] at hservo hcommands
  -- It takes back what the change of the fibre has added to the error.
  have hclock : (Loop.step i l).plant.clockError = 0 := by
    rw [hplant _ hcommands]
    simp only [List.foldl_cons, List.foldl_nil, Plant.obey, hmet]
    dsimp only [met, Plant.stretch]
    omega
  have hmoved : (Loop.step i l).plant.setpoint =
      l.plant.setpoint + ((met i l).delay - l.node.port.servo.deltaMsPrev) := by
    rw [hplant _ hcommands]
    rfl
  have hremembers : (Loop.step i l).node.port.servo.deltaMsPrev = (met i l).delay := by
    rw [hservo, hm]
  refine ⟨⟨?_, ?_, ?_⟩, fun _ _ => hmoved, fun _ _ => hremembers, fun _ _ => hclock,
    fun hno => absurd ⟨hupdates, hs⟩ hno⟩
  · rw [hservo]
    exact .inr ⟨rfl, rfl⟩
  · rw [hmoved, hservo]
  · rw [hclock, hremembers, hplant _ hcommands]
    simp only [List.foldl_cons, List.foldl_nil, Plant.obey, sub_self]

/-- An update that waits for the hardware leaves the setpoint and the delay that was remembered. -/
theorem Loop.Locked.step_waitSyncIdle (h : l.Locked) (hexact : Exact i l)
    (hupdates : i.call.Updates l.node) (hs : l.node.port.servo.state = .waitSyncIdle)
    (hn : l.node.port.servo.nextState = .trackPhase) :
    (Loop.step i l).Locked ∧ Follows i l := by
  have hmet := h.met_clockError i
  obtain ⟨-, hsetpoint, -⟩ := h
  obtain ⟨m, tics, hm, -, -, -, hnode, hplant⟩ := step_updates hexact hupdates
  generalize hwOffset l.node.port.servo.clockPeriodPs (met i l).clockError = hw at hnode
  have hstate : m.port.servo.state = .waitSyncIdle := (congrArg (·.state) hm).trans hs
  have hservo := servo_servoStep_waitSyncIdle hw tics hstate
  have hcommands : (servoStep m hw tics).netif.commands = m.netif.commands ++ [] := by
    rw [commands_servoStep_waitSyncIdle hw tics hstate, List.append_nil]
  rw [← hnode] at hservo hcommands
  have hclock : (Loop.step i l).plant = met i l := hplant _ hcommands
  have hremembers :
      (Loop.step i l).node.port.servo.deltaMsPrev = l.node.port.servo.deltaMsPrev := by
    rw [hservo, hm]
    split_ifs <;> rfl
  have hnot : l.node.port.servo.state ≠ .trackPhase := by simp [hs]
  refine ⟨⟨?_, ?_, ?_⟩, fun _ htrack => absurd htrack hnot, fun _ htrack => absurd htrack hnot,
    fun _ htrack => absurd htrack hnot, fun _ => ⟨by rw [hclock]; rfl, hremembers⟩⟩
  · rw [hservo, hm]
    split_ifs
    · exact .inl hn
    · exact .inr ⟨hs, hn⟩
  · rw [hclock, hservo, hm]
    split_ifs <;> exact hsetpoint
  · rw [hclock, hremembers]
    exact hmet

/-- A call that is no update only lets the fibre change. -/
theorem Loop.Locked.step_of_not_updates (h : l.Locked) (hexact : Exact i l)
    (hupdates : ¬i.call.Updates l.node) : (Loop.step i l).Locked ∧ Follows i l := by
  have hmet := h.met_clockError i
  obtain ⟨htracks, hsetpoint, -⟩ := h
  obtain ⟨hsame, hplant⟩ := Loop.step_of_not_updates hexact hupdates
  refine ⟨⟨?_, ?_, ?_⟩, fun hyes => absurd hyes hupdates, fun hyes => absurd hyes hupdates,
    fun hyes => absurd hyes hupdates, fun _ => ⟨by rw [hplant]; rfl, hsame.deltaMsPrev⟩⟩
  · rw [Tracks, hsame.state, hsame.nextState]
    exact htracks
  · rw [hplant, hsame.curSetpoint]
    exact hsetpoint
  · rw [hplant, hsame.deltaMsPrev]
    exact hmet

/-- A servo that tracks goes on tracking, and every call `Follows` the delay. -/
theorem Loop.Locked.step (h : l.Locked) (hexact : Exact i l) (htracked : Tracked i l) :
    (Loop.step i l).Locked ∧ Follows i l := by
  by_cases hupdates : i.call.Updates l.node
  · rcases h.1 with hs | ⟨hs, hn⟩
    · exact h.step_trackPhase hexact htracked hupdates hs
    · exact h.step_waitSyncIdle hexact hupdates hs hn
  · exact h.step_of_not_updates hexact hupdates

end Locked

/-- A servo that tracks goes on tracking, however the fibre grows or shrinks and whatever offset is
measured: each update in `TRACK_PHASE` moves the setpoint by the change of the delay and makes the
clock of the slave that of the master again (`Loop.Follows`). -/
theorem tracking_cancels {l : Loop} (h : l.Locked) {inputs : List LoopInput}
    (hruns : EveryStep Loop.step (fun i l => Loop.Exact i l ∧ Loop.Tracked i l) l inputs) :
    (runInputs Loop.step l inputs).Locked ∧ EveryStep Loop.step Loop.Follows l inputs := by
  refine ⟨hruns.runInputs_of_invariant h fun i l hl hi => (hl.step hi.1 hi.2).1, ?_⟩
  refine hruns.of_invariant h fun i l hl hi => ?_
  obtain ⟨hlocked, hfollows⟩ := hl.step hi.1 hi.2
  exact ⟨hfollows, hlocked⟩

instance (i : LoopInput) (l : Loop) : Decidable (Loop.Tracked i l) :=
  decidable_of_iff (i.call.surroundings.statics.trackingEnabled = true ∧
      FitsInt32 (l.plant.setpoint + ((Loop.met i l).delay - l.node.port.servo.deltaMsPrev)))
    ⟨fun ⟨henabled, hfits⟩ => ⟨henabled, hfits⟩, fun ⟨henabled, hfits⟩ => ⟨henabled, hfits⟩⟩

/-- The loop after the exchanges with a late clock. -/
def lockedLoop : Loop := runInputs Loop.step ⟨wrServoInit readySlave, latePlant⟩ lateExchanges

/-- An exchange before which the fibre has grown by 300 picoseconds. -/
def growingExchange : List LoopInput :=
  ((exchange ⟨5, 505, 0, 1⟩ ⟨6, 504, 0, 1⟩ 39322).map (LoopInput.mk 0)).modifyHead
    fun i => { i with stretch := 300 }

set_option maxRecDepth 100000 in
theorem tracking_cancels_growingExchange :
    (runInputs Loop.step lockedLoop growingExchange).plant.setpoint =
        lockedLoop.plant.setpoint + 300 ∧
      (runInputs Loop.step lockedLoop growingExchange).Locked ∧
      EveryStep Loop.step Loop.Follows lockedLoop growingExchange :=
  have hsymmetric : EveryStep Loop.step (fun i l => Symmetric i l ∧ Loop.Tracked i l)
      lockedLoop growingExchange := by
    decide +kernel
  ⟨by decide +kernel,
    tracking_cancels ⟨.inl (by decide +kernel), by decide +kernel, by decide +kernel⟩
      (hsymmetric.of_invariant (I := fun _ => True) trivial fun _ _ _ h =>
        ⟨⟨h.1.exact, h.2⟩, trivial⟩)⟩

end WhiteRabbitPtp
