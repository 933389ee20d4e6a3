import WhiteRabbitPtp.Correctness.ServoStep

/-!
# The offset the servo measures

An executed `wr_servo_update` turns the four timestamps of a two-way exchange into the offset of the
slave's clock, first as a timestamp and then split into whole ticks for the hardware.

## Main definitions

* `TwoWayExchange`: four timestamps taken over a fibre with known delays and a known clock error.
* `WholeTicks`: an offset given to the hardware as whole ticks.

## Main results

* `wrServoUpdate_measures`: the update measures the clock error exactly.
* `wholeTicks_iff`: when the offset given to the hardware is made of whole ticks.
-/

namespace WhiteRabbitPtp

/-- The state machine of the servo leaves the measurement alone. -/
lemma servoStep_measurement (n : Node) (hw : WrTimestamp) (tics : UInt64) :
    (servoStep n hw tics).port.servo.mu = n.port.servo.mu ∧
      (servoStep n hw tics).port.servo.deltaMs = n.port.servo.deltaMs := by
  cases h : n.port.servo.state with
  | waitSyncIdle =>
    rw [servo_servoStep_waitSyncIdle hw tics h]; split_ifs <;> exact ⟨rfl, rfl⟩
  | syncTai => rw [servo_servoStep_syncTai hw tics h]; split_ifs <;> exact ⟨rfl, rfl⟩
  | syncNsec => rw [servo_servoStep_syncNsec hw tics h]; split_ifs <;> exact ⟨rfl, rfl⟩
  | syncPhase => rw [servo_servoStep_syncPhase hw tics h]; exact ⟨rfl, rfl⟩
  | waitOffsetStable => rw [servo_servoStep_waitOffsetStable hw tics h]; exact ⟨rfl, rfl⟩
  | trackPhase => rw [servo_servoStep_trackPhase hw tics h]; split_ifs <;> exact ⟨rfl, rfl⟩
  | unset => rw [servo_servoStep_unset hw tics h]; exact ⟨rfl, rfl⟩

/-! ### An exchange over a fibre -/

/-- Four timestamps of an exchange in which the slave's clock is `theta` picoseconds ahead and the
fibre takes `dms` picoseconds to the slave and `dsm` back, under the asymmetry the servo assumes. -/
structure TwoWayExchange (s : WrServoState) (theta dms dsm : ℤ) : Prop where
  t1_normalised : s.t1.Normalised
  t2_normalised : s.t2.Normalised
  t3_normalised : s.t3.Normalised
  t4_normalised : s.t4.Normalised
  t2_eq : s.t2.picos = s.t1.picos + s.deltaTxM + dms + s.deltaRxS + theta
  t4_eq : s.t4.picos = s.t3.picos - theta + s.deltaTxS + dsm + s.deltaRxM
  deltaTxM_nonneg : 0 ≤ s.deltaTxM
  deltaRxM_nonneg : 0 ≤ s.deltaRxM
  deltaTxS_nonneg : 0 ≤ s.deltaTxS
  deltaRxS_nonneg : 0 ≤ s.deltaRxS
  fixedDelays_lt : s.fixedDelays < 2 ^ 31
  dms_nonneg : 0 ≤ dms
  dsm_nonneg : 0 ≤ dsm
  asymmetry : dms = (dms + dsm) / 2 + s.fiberFixAlpha * (dms + dsm) / 2 ^ 40

/-- The picosecond values of the exchange that the servo computes fit; of the clock error only the
seconds have to. -/
structure ExchangeFits (s : WrServoState) (theta dms dsm : ℤ) : Prop where
  roundTrip : FitsInt64 (dms + dsm + s.fixedDelays)
  product : FitsInt64 (s.fiberFixAlpha * (dms + dsm))
  clockError : FitsInt64 (-theta / 1000000000000)

namespace TwoWayExchange

variable {s : WrServoState} {theta dms dsm : ℤ}

/-- The clock error and the time between the two halves cancel in the round trip. -/
lemma servoMu_eq (h : TwoWayExchange s theta dms dsm) :
    servoMu s = normalTs (dms + dsm + s.fixedDelays) := by
  have h₁ := tsSub_eq_normalTs h.t4_normalised h.t1_normalised
  have h₂ := tsSub_eq_normalTs h.t3_normalised h.t2_normalised
  obtain ⟨k₁, hk₁⟩ := exists_normalTs_picos (s.t4.picos - s.t1.picos)
  obtain ⟨k₂, hk₂⟩ := exists_normalTs_picos (s.t3.picos - s.t2.picos)
  have hx : s.t4.picos - s.t1.picos + 2 ^ 64 * 1000000000000 * k₁ -
      (s.t3.picos - s.t2.picos + 2 ^ 64 * 1000000000000 * k₂) =
        dms + dsm + s.fixedDelays + 2 ^ 64 * 1000000000000 * (k₁ - k₂) := by
    have hD : s.fixedDelays = s.deltaTxM + s.deltaTxS + s.deltaRxM + s.deltaRxS := rfl
    linarith [h.t2_eq, h.t4_eq]
  rw [servoMu, h₁, h₂, tsSub_eq_normalTs (normalTs_normalised _) (normalTs_normalised _), hk₁,
    hk₂, hx, normalTs_add_mul]

lemma servoMu_picos (h : TwoWayExchange s theta dms dsm) (hf : ExchangeFits s theta dms dsm) :
    (servoMu s).picos = dms + dsm + s.fixedDelays := by
  obtain ⟨hlo, hhi⟩ := hf.roundTrip
  rw [h.servoMu_eq, normalTs_picos (by omega) (by omega)]

/-- The fixed delays of the exchange fit their 32 bits. -/
lemma deltasFit (h : TwoWayExchange s theta dms dsm) : s.DeltasFit := by
  have hD : s.fixedDelays = s.deltaTxM + s.deltaTxS + s.deltaRxM + s.deltaRxS := rfl
  obtain ⟨-, -, -, -, -, -, h₁, h₂, h₃, h₄, hsum, -, -, -⟩ := h
  constructor <;> simp only [FitsInt32] <;> omega

/-- The delay is the one the timestamps were taken with. -/
lemma servoDelay_eq (h : TwoWayExchange s theta dms dsm) (hf : ExchangeFits s theta dms dsm) :
    servoDelay s 0 = s.deltaTxM + dms + s.deltaRxS := by
  obtain ⟨hlo, hhi⟩ := hf.roundTrip
  have hmu : tsToPicos (servoMu s) = dms + dsm + s.fixedDelays := by
    rw [h.servoMu_eq, tsToPicos_normalTs hlo hhi]
  have hrest : tsToPicos (servoMu s) - s.fixedDelays = dms + dsm := by rw [hmu]; ring
  -- The asymmetry correction is a 40-bit fraction of the round trip, computed in 64 bits.
  have hprod : FitsInt64 ((tsToPicos (servoMu s) - s.fixedDelays) * s.fiberFixAlpha) := by
    rw [hrest, mul_comm]
    exact hf.product
  -- Without the fixed delays the round trip is not negative, so its half is exact.
  have hshort : s.fixedDelays ≤ tsToPicos (servoMu s) := by
    linarith [h.dms_nonneg, h.dsm_nonneg]
  have hfit : ({ s with mu := servoMu s } : WrServoState).DeltasFit :=
    have hd := h.deltasFit
    ⟨hd.txM, hd.rxM, hd.txS, hd.rxS, hd.sum⟩
  have hdelay : i64 (delayMsFix { s with mu := servoMu s } 0) =
      asymmetryDelay { s with mu := servoMu s } 0 :=
    delayMsFix_of_le hfit (by decide) hprod hshort
  rw [servoDelay, hdelay]
  change (tsToPicos (servoMu s) - s.fixedDelays) * s.fiberFixAlpha / 2 ^ 40 +
    (tsToPicos (servoMu s) - s.fixedDelays) / 2 + s.deltaTxM + s.deltaRxS + 0 = _
  rw [hrest, mul_comm (dms + dsm)]
  linarith [h.asymmetry]

/-- The offset is the negated clock error. -/
lemma servoOffset_eq (h : TwoWayExchange s theta dms dsm) (hf : ExchangeFits s theta dms dsm) :
    servoOffset s 0 = normalTs (-theta) := by
  have hD : s.fixedDelays = s.deltaTxM + s.deltaTxS + s.deltaRxM + s.deltaRxS := rfl
  have hdelay := h.servoDelay_eq hf
  have hnonneg : 0 ≤ servoDelay s 0 := by
    linarith [h.deltaTxM_nonneg, h.deltaRxS_nonneg, h.dms_nonneg]
  have hlt : servoDelay s 0 < 2 ^ 63 := by
    linarith [hf.roundTrip.2, h.deltaTxS_nonneg, h.deltaRxM_nonneg, h.dsm_nonneg]
  -- The difference of the timestamps may wrap around; the offset fits and absorbs it.
  obtain ⟨k, hk⟩ := exists_normalTs_picos (s.t1.picos - s.t2.picos)
  have hx : s.t1.picos - s.t2.picos + 2 ^ 64 * 1000000000000 * k + servoDelay s 0 =
      -theta + 2 ^ 64 * 1000000000000 * k := by
    linarith [h.t2_eq]
  rw [servoOffset, tsSub_eq_normalTs h.t1_normalised h.t2_normalised,
    picosToTs_of_nonneg hnonneg hlt,
    tsAdd_eq_normalTs (normalTs_normalised _) (normalTs_normalised _), hk,
    normalTs_picos (x := servoDelay s 0) (by omega) (by omega), hx, normalTs_add_mul]

end TwoWayExchange

/-- An executed update measures exactly: the round trip, the delay to the slave and, as a timestamp
and in ticks of the hardware, the clock error. -/
theorem wrServoUpdate_measures {n : Node} {theta dms dsm : ℤ} (hrun : UpdateRuns n)
    (h : TwoWayExchange n.port.servo theta dms dsm) (hf : ExchangeFits n.port.servo theta dms dsm)
    (hph : n.statics.phAdjust = 0) (hq : qThreshold n.port.servo.clockPeriodPs ≠ 0) :
    (wrServoUpdate n).port.servo.mu.picos = dms + dsm + n.port.servo.fixedDelays ∧
      (wrServoUpdate n).port.servo.deltaMs =
        n.port.servo.deltaTxM + dms + n.port.servo.deltaRxS ∧
      (servoOffset n.port.servo n.statics.phAdjust).picos = -theta ∧
      (updateHw n).picos = -theta ∧
      wrServoUpdate n = servoStep (measured n) (updateHw n) (updateTics n) := by
  have hoffset : (servoOffset n.port.servo n.statics.phAdjust).picos = -theta := by
    rw [hph, h.servoOffset_eq hf, normalTs_picos hf.clockError.1 hf.clockError.2]
  have hnormal : (servoOffset n.port.servo n.statics.phAdjust).Normalised := by
    rw [hph, h.servoOffset_eq hf]
    exact normalTs_normalised _
  obtain ⟨hmu, hdelay⟩ := servoStep_measurement (measured n) (updateHw n) (updateTics n)
  refine ⟨?_, ?_, hoffset, ?_, wrServoUpdate_of_runs hrun⟩
  · rw [wrServoUpdate_of_runs hrun, hmu, measured_servo]
    exact h.servoMu_picos hf
  · rw [wrServoUpdate_of_runs hrun, hdelay, measured_servo, hph]
    exact h.servoDelay_eq hf
  · rw [updateHw, servoOffsetHw, tsHardwarize_picos hnormal hq, hoffset]

/-- A slave three seconds behind its master on a fibre of ten kilometres. -/
def exchangeNode : Node :=
  let n := Daemon.singleNode ![2, 0, 0, 0, 0, 1] .wrSlave
  let instant (x : ℤ) : WrTimestamp := { normalTs x with correct := 1 }
  { n with
    statics.gotSync := true
    port.servo := { n.port.servo with
      deltaTxM := 1000
      deltaRxM := 2000
      deltaTxS := 3000
      deltaRxS := 4000
      fiberFixAlpha := 73622176
      clockPeriodPs := 8000
      t1 := instant 10000000005007
      t2 := instant (10000000005007 + 1000 + 50006695 + 4000 - 3000000123456)
      t3 := instant 7500000000999
      t4 := instant (7500000000999 + 3000000123456 + 3000 + 49993305 + 2000) } }

theorem exchangeNode_measures :
    (wrServoUpdate exchangeNode).port.servo.mu.picos = 50006695 + 49993305 + 10000 ∧
      (wrServoUpdate exchangeNode).port.servo.deltaMs = 1000 + 50006695 + 4000 ∧
      (servoOffset exchangeNode.port.servo 0).picos = 3000000123456 ∧
      (updateHw exchangeNode).picos = 3000000123456 := by
  have hnormal : ∀ x, WrTimestamp.Normalised { normalTs x with correct := 1 } := fun x =>
    have h := normalTs_normalised x
    ⟨h.nsec_nonneg, h.nsec_lt, h.phase_nonneg, h.phase_lt⟩
  have hexchange : TwoWayExchange exchangeNode.port.servo (-3000000123456) 50006695 49993305 :=
    ⟨hnormal _, hnormal _, hnormal _, hnormal _, by decide, by decide, by decide, by decide,
      by decide, by decide, by decide, by decide, by decide, by decide⟩
  have hfits : ExchangeFits exchangeNode.port.servo (-3000000123456) 50006695 49993305 :=
    ⟨by decide, by decide, by decide⟩
  obtain ⟨hmu, hdelay, hoffset, hhw, -⟩ :=
    wrServoUpdate_measures (by decide) hexchange hfits rfl (by decide)
  exact ⟨hmu, hdelay, hoffset, hhw⟩

/-! ### Whole ticks -/

/-- The ticks of the clock in nanoseconds, rounded up. -/
def ticks (clockPeriodPs : ℤ) : ℤ := (clockPeriodPs + 999) / 1000

/-- The offset `h` asks the hardware for whole ticks only, and for none at all when the offset `o`
it was made from is below one tick. -/
structure WholeTicks (q : ℤ) (o h : WrTimestamp) : Prop where
  dvd_nsec : q ∣ h.nsec
  phase_le : |h.phase| ≤ 1000 * q
  zero_of_lt : |tsToPicos o| < 1000 * q → h.sec = 0 ∧ h.nsec = 0

/-- A clock period whose ticks divide a second. -/
structure TicksDivideSecond (clockPeriodPs : ℤ) : Prop where
  pos : 0 < clockPeriodPs
  fits : FitsInt32 clockPeriodPs
  dvd_second : ticks clockPeriodPs ∣ 1000000000

lemma TicksDivideSecond.ticks_bounds {clockPeriodPs : ℤ} (h : TicksDivideSecond clockPeriodPs) :
    0 < ticks clockPeriodPs ∧ ticks clockPeriodPs ≤ 2147482 := by
  obtain ⟨hpos, hfits, hdvd⟩ := h
  simp only [FitsInt32] at hfits
  have hne : ticks clockPeriodPs ≠ 2147483 := fun he => absurd (he ▸ hdvd) (by decide)
  have hne' : ticks clockPeriodPs ≠ 2147484 := fun he => absurd (he ▸ hdvd) (by decide)
  simp only [ticks] at *
  omega

/-- For such a period the code computes the ticks without wrapping. -/
lemma TicksDivideSecond.qThreshold_eq {clockPeriodPs : ℤ} (h : TicksDivideSecond clockPeriodPs) :
    qThreshold clockPeriodPs = ticks clockPeriodPs := by
  have hbounds := h.ticks_bounds
  have hpos := h.pos
  simp only [ticks] at hbounds
  rw [qThreshold, i32_eq_self (by omega) (by omega), Int.tdiv_eq_ediv_of_nonneg (by omega), ticks]

section Hardwarize

variable {o : WrTimestamp} {q : ℤ}

/-- The corrections of an offset whose nanoseconds are not negative. -/
lemma corrections_of_nonneg (hq : 0 < q) (hq' : q ≤ 2147482) (hn : 0 ≤ o.nsec)
    (hn' : o.nsec < 1000000000) (hp : -1000 < o.phase) (hp' : o.phase < 1000) :
    moveTick q (returnSecond (borrowSecond (moveExtra q o))) =
      if o.sec = -1 ∧ 0 < o.nsec - o.nsec % q then
        if -q ≤ o.nsec - o.nsec % q - 1000000000 then
          { o with
            sec := 0
            nsec := o.nsec - o.nsec % q - 1000000000 + q
            phase := o.phase + o.nsec % q * 1000 - q * 1000 }
        else
          { o with
            sec := 0
            nsec := o.nsec - o.nsec % q - 1000000000
            phase := o.phase + o.nsec % q * 1000 }
      else { o with nsec := o.nsec - o.nsec % q, phase := o.phase + o.nsec % q * 1000 } := by
  have hmod := Int.emod_nonneg o.nsec hq.ne'
  have hmod' := Int.emod_lt_of_pos o.nsec hq
  have hle : o.nsec % q ≤ o.nsec := by
    obtain h | h := lt_or_ge o.nsec q
    · exact (Int.emod_eq_of_lt hn h).le
    · omega
  -- The remainder below a tick moves into the phase.
  have hextra : moveExtra q o =
      { o with nsec := o.nsec - o.nsec % q, phase := o.phase + o.nsec % q * 1000 } := by
    unfold moveExtra
    rw [Int.tmod_eq_emod_of_nonneg hn]
    split_ifs with hpos hzero
    · rw [i32_eq_self (by omega) (by omega), i32_eq_self (by omega) (by omega)]
    · rw [not_not] at hzero
      simp [hzero]
    · have hzero : o.nsec % q = 0 := by rw [show o.nsec = 0 by omega, Int.zero_emod]
      simp [hzero]
  rw [hextra, borrowSecond_of_nonneg (by dsimp only; omega)]
  generalize o.nsec % q = e at *
  unfold returnSecond
  dsimp only
  -- The second is returned only to a negative offset of less than a second.
  split_ifs with hsec htick
  · unfold moveTick
    dsimp only
    rw [i32_eq_self (by omega) (by omega), if_pos (by omega), i32_eq_self (by omega) (by omega),
      i32_eq_self (by omega) (by omega), hsec.1]
    rfl
  · unfold moveTick
    dsimp only
    rw [i32_eq_self (by omega) (by omega), if_neg (by omega), hsec.1]
    rfl
  · unfold moveTick
    exact if_neg (by dsimp only; omega)

/-- The corrections of an offset whose nanoseconds are negative: no extra nanoseconds are moved. -/
lemma corrections_of_neg (hq : 0 < q) (hq' : q ≤ 2147482) (hs : FitsInt64 (o.sec - 1))
    (hn : o.nsec < 0) (hn' : -1000000000 < o.nsec) (hp : -1000 < o.phase) (hp' : o.phase < 1000) :
    moveTick q (returnSecond (borrowSecond (moveExtra q o))) =
      if o.sec = 0 then
        if -q ≤ o.nsec then
          { o with sec := 0, nsec := o.nsec + q, phase := o.phase - q * 1000 }
        else { o with sec := 0 }
      else { o with sec := o.sec - 1, nsec := o.nsec + 1000000000 } := by
  -- Nothing is moved from negative nanoseconds; a second is borrowed instead.
  have hextra : moveExtra q o = o := if_neg (by omega)
  have hborrow : borrowSecond o =
      { o with nsec := o.nsec + 1000000000, sec := o.sec - 1 } := by
    rw [borrowSecond, if_pos hn, i32_eq_self (by omega) (by omega), i64_eq_self hs.1 hs.2]
  rw [hextra, hborrow]
  unfold returnSecond
  dsimp only
  split_ifs with hsec hsec' htick htick' hsec''
  all_goals first | omega | skip
  · unfold moveTick
    dsimp only
    rw [i32_eq_self (by omega) (by omega), if_pos (by omega), i32_eq_self (by omega) (by omega),
      i32_eq_self (by omega) (by omega), hsec']
    simp
  · unfold moveTick
    dsimp only
    rw [i32_eq_self (by omega) (by omega), if_neg (by omega), hsec']
    simp
  · unfold moveTick
    exact if_neg (by dsimp only; omega)

/-- Two multiples of the ticks less than one tick apart are equal. -/
lemma eq_of_dvd_of_lt {x y : ℤ} (hx : q ∣ x) (hy : q ∣ y) (h : x - y < q) (h' : -q < x - y) :
    x = y := by
  have hzero := Int.eq_zero_of_abs_lt_dvd (Int.dvd_sub hx hy) (abs_lt.mpr ⟨h', h⟩)
  omega

/-- Of the whole ticks in a second there are none, one or more, and one or more are left to its end.
-/
lemma ticks_inside_second {m : ℤ} (hdvd : q ∣ 1000000000) (hm : q ∣ m) (h : -q < m)
    (h' : m < 1000000000) :
    (m = 0 ∨ m = q ∨ 2 * q ≤ m) ∧ (m = 1000000000 - q ∨ m ≤ 1000000000 - 2 * q) := by
  have hend : q ∣ 1000000000 - q := Int.dvd_sub hdvd (dvd_refl q)
  constructor
  · by_cases hlt : m < q
    · exact .inl (eq_of_dvd_of_lt hm (dvd_zero q) (by omega) (by omega))
    by_cases hlt' : m < 2 * q
    · exact .inr (.inl (eq_of_dvd_of_lt hm (dvd_refl q) (by omega) (by omega)))
    · exact .inr (.inr (by omega))
  · by_cases hlt : 1000000000 - 2 * q < m
    · exact .inl (eq_of_dvd_of_lt hm hend (by omega) (by omega))
    · exact .inr (by omega)

/-- An offset whose nanoseconds are not negative is made of whole ticks unless a negative phase puts
it on the other side of a whole tick. -/
lemma wholeTicks_of_nonneg_iff {h : WrTimestamp} (hq : 0 < q) (hq' : q ≤ 2147482)
    (hdvd : q ∣ 1000000000) (hs : -2 ^ 62 < o.sec ∧ o.sec < 2 ^ 62) (hn : 0 ≤ o.nsec)
    (hn' : o.nsec < 1000000000) (hp : -1000 < o.phase) (hp' : o.phase < 1000)
    (hh : h = moveTick q (returnSecond (borrowSecond (moveExtra q o)))) :
    WholeTicks q o h ↔
      ¬(o.phase < 0 ∧ (o.sec * 1000000000 + o.nsec = q ∨ o.sec * 1000000000 + o.nsec = -q)) ∧
        (FitsInt64 o.picos ∨ 1000 * q ≤ |tsToPicos o|) := by
  have hmod := Int.emod_nonneg o.nsec hq.ne'
  have hmod' := Int.emod_lt_of_pos o.nsec hq
  have hdvd_m : q ∣ o.nsec - o.nsec % q := Int.dvd_self_sub_emod
  have hfit : FitsInt64 o.picos → tsToPicos o = o.picos := fun hf => i64_eq_self hf.1 hf.2
  rw [corrections_of_nonneg hq hq' hn hn' hp hp'] at hh
  generalize o.nsec % q = e at *
  obtain ⟨m, hm⟩ : ∃ m, m = o.nsec - e := ⟨_, rfl⟩
  rw [← hm] at hh hdvd_m
  have hends := ticks_inside_second hdvd hdvd_m (by omega) (by omega)
  -- The corrections leave whole ticks of nanoseconds; the phase and the second may be wrong.
  have hnsec : q ∣ h.nsec := by
    rw [hh]
    split_ifs
    · exact Int.dvd_add (Int.dvd_sub hdvd_m hdvd) (dvd_refl q)
    · exact Int.dvd_sub hdvd_m hdvd
    · exact hdvd_m
  suffices hrest : |h.phase| ≤ 1000 * q ∧
      (|tsToPicos o| < 1000 * q → h.sec = 0 ∧ h.nsec = 0) ↔
        ¬(o.phase < 0 ∧ (o.sec * 1000000000 + o.nsec = q ∨ o.sec * 1000000000 + o.nsec = -q)) ∧
          (FitsInt64 o.picos ∨ 1000 * q ≤ |tsToPicos o|) from
    ⟨fun hticks => hrest.mp ⟨hticks.phase_le, hticks.zero_of_lt⟩,
      fun hright => ⟨hnsec, (hrest.mpr hright).1, (hrest.mpr hright).2⟩⟩
  simp only [FitsInt64, WrTimestamp.picos, abs_le, abs_lt, le_abs] at hfit ⊢
  split_ifs at hh with hsec htick <;> subst hh <;> dsimp only
  · omega
  · omega
  · omega

/-- An offset whose nanoseconds are negative is made of whole ticks only when they already are whole
ticks, and its phase is not on the other side of one. -/
lemma wholeTicks_of_neg_iff {h : WrTimestamp} (hq : 0 < q) (hq' : q ≤ 2147482)
    (hdvd : q ∣ 1000000000) (hs : -2 ^ 62 < o.sec ∧ o.sec < 2 ^ 62) (hn : o.nsec < 0)
    (hn' : -1000000000 < o.nsec) (hp : -1000 < o.phase) (hp' : o.phase < 1000)
    (hh : h = moveTick q (returnSecond (borrowSecond (moveExtra q o)))) :
    WholeTicks q o h ↔ q ∣ o.nsec ∧
      ¬(o.phase < 0 ∧ (o.sec * 1000000000 + o.nsec = q ∨ o.sec * 1000000000 + o.nsec = -q)) ∧
        (FitsInt64 o.picos ∨ 1000 * q ≤ |tsToPicos o|) := by
  have hfit : FitsInt64 o.picos → tsToPicos o = o.picos := fun hf => i64_eq_self hf.1 hf.2
  have hsec : FitsInt64 (o.sec - 1) := ⟨by omega, by omega⟩
  rw [corrections_of_neg hq hq' hsec hn hn' hp hp'] at hh
  -- the corrections move the nanoseconds by whole ticks
  have hnsec : q ∣ h.nsec ↔ q ∣ o.nsec := by
    rw [hh]
    split_ifs
    · exact Int.dvd_add_left (dvd_refl q)
    · rfl
    · exact Int.dvd_add_left hdvd
  suffices hrest : q ∣ o.nsec → (|h.phase| ≤ 1000 * q ∧
      (|tsToPicos o| < 1000 * q → h.sec = 0 ∧ h.nsec = 0) ↔
        ¬(o.phase < 0 ∧ (o.sec * 1000000000 + o.nsec = q ∨ o.sec * 1000000000 + o.nsec = -q)) ∧
          (FitsInt64 o.picos ∨ 1000 * q ≤ |tsToPicos o|)) by
    constructor
    · rintro ⟨hd, hphase, hzero⟩
      exact ⟨hnsec.mp hd, (hrest (hnsec.mp hd)).mp ⟨hphase, hzero⟩⟩
    · rintro ⟨hd, hright⟩
      obtain ⟨hphase, hzero⟩ := (hrest hd).mpr hright
      exact ⟨hnsec.mpr hd, hphase, hzero⟩
  intro hd
  have hends := ticks_inside_second (m := o.nsec + 1000000000) hdvd (Int.dvd_add hd hdvd) (by omega)
    (by omega)
  simp only [FitsInt64, WrTimestamp.picos, abs_le, abs_lt, le_abs] at hfit ⊢
  split_ifs at hh with hzero htick <;> subst hh <;> dsimp only
  · omega
  · omega
  · omega

end Hardwarize

/-! ### The offset of two timestamps and a delay -/

/-- The phase of a difference of `v` picoseconds and a delay `d`, before any carry. -/
def phaseSum (v d : ℤ) : ℤ := v % 1000 + d.tmod 1000

/-- Their nanoseconds below a second, before any carry. -/
def nanosSum (v d : ℤ) : ℤ := v / 1000 % 1000000000 + (d.tdiv 1000).tmod 1000000000

/-- All their whole nanoseconds. -/
def wholeNanos (v d : ℤ) : ℤ := v / 1000 + d.tdiv 1000

/-- When a difference of `v` picoseconds and a delay `d` give whole ticks of `q` nanoseconds. A
delay below zero has to leave the nanoseconds at or above zero, or at whole ticks, and must not
leave a negative phase next to a first tick; and the sum may not wrap to less than a tick. -/
def WholeTicksWhen (q v d : ℤ) : Prop :=
  (0 ≤ d ∨ ((0 ≤ nanosSum v d ∨ q ∣ nanosSum v d) ∧
    ¬(phaseSum v d < 0 ∧ (wholeNanos v d = q ∨ wholeNanos v d = -q)))) ∧
  (FitsInt64 (v + d) ∨ 1000 * q ≤ |i64 (v + d)|)

lemma tmod_range_of_nonpos {d k : ℤ} (hd : d ≤ 0) (hk : 0 < k) :
    -k < d.tmod k ∧ d.tmod k ≤ 0 := by
  have hneg : d.tmod k = -(-d % k) := by
    rw [← Int.tmod_eq_emod_of_nonneg (by omega), Int.neg_tmod, neg_neg]
  have hnonneg := Int.emod_nonneg (-d) hk.ne'
  have hlt := Int.emod_lt_of_pos (-d) hk
  omega

lemma phaseSum_range (v : ℤ) {d : ℤ} (hd : d < 0) :
    -1000 < phaseSum v d ∧ phaseSum v d < 1000 := by
  have hmod := tmod_range_of_nonpos hd.le (k := 1000) (by decide)
  simp only [phaseSum]
  omega

lemma nanosSum_range (v : ℤ) {d : ℤ} (hd : d < 0) :
    -1000000000 < nanosSum v d ∧ nanosSum v d < 1000000000 := by
  have hdiv : d.tdiv 1000 ≤ 0 := by
    rw [← neg_neg d, Int.neg_tdiv, Int.tdiv_eq_ediv_of_nonneg (by omega)]
    omega
  have hmod := tmod_range_of_nonpos hdiv (k := 1000000000) (by decide)
  simp only [nanosSum]
  omega

/-- The sum of a difference and a negative delay, whose fields carry no sign of their own. -/
lemma tsAdd_picosToTs_of_neg {v d : ℤ} (hv : -2 ^ 65 < v ∧ v < 2 ^ 65) (hd : d < 0)
    (hd' : -2 ^ 63 ≤ d) :
    ∃ sec, tsAdd (normalTs v) (picosToTs d) = ⟨sec, nanosSum v d, phaseSum v d, 0⟩ ∧
      sec * 1000000000 + nanosSum v d = wholeNanos v d ∧ -2 ^ 62 < sec ∧ sec < 2 ^ 62 := by
  obtain ⟨e, rfl⟩ : ∃ e, d = -e := ⟨-d, (neg_neg d).symm⟩
  have hphase : (-e).tmod 1000 = -(e % 1000) := by
    rw [Int.neg_tmod, Int.tmod_eq_emod_of_nonneg (by omega)]
  have hdiv : (-e).tdiv 1000 = -(e / 1000) := by
    rw [Int.neg_tdiv, Int.tdiv_eq_ediv_of_nonneg (by omega)]
  have hnanos : (-(e / 1000)).tmod 1000000000 = -(e / 1000 % 1000000000) := by
    rw [Int.neg_tmod, Int.tmod_eq_emod_of_nonneg (by omega)]
  have hdiv' : (-e - -(e % 1000)).tdiv 1000 = -(e / 1000) := by
    rw [show -e - -(e % 1000) = -(e - e % 1000) by ring, Int.neg_tdiv,
      Int.tdiv_eq_ediv_of_nonneg (by omega)]
    omega
  have hsec : (-(e / 1000) - -(e / 1000 % 1000000000)).tdiv 1000000000 = -(e / 1000000000000) := by
    rw [show -(e / 1000) - -(e / 1000 % 1000000000) = -(e / 1000 - e / 1000 % 1000000000) by ring,
      Int.neg_tdiv, Int.tdiv_eq_ediv_of_nonneg (by omega)]
    omega
  -- neither sum reaches its step
  have hcarry : carryOver 1000 (v % 1000 + -(e % 1000)) 0 = (0, v % 1000 + -(e % 1000)) :=
    carryOver_of_lt 0 (by omega)
  have hcarry' : carryOver 1000000000
      (v / 1000 % 1000000000 + -(e / 1000 % 1000000000)) 0 =
        (0, v / 1000 % 1000000000 + -(e / 1000 % 1000000000)) :=
    carryOver_of_lt 0 (by omega)
  refine ⟨v / 1000000000000 - e / 1000000000000, ?_, ?_, by omega, by omega⟩
  · simp only [picosToTs, nanosSum, phaseSum, hphase, hdiv, hdiv', hnanos, hsec, tsAdd, normalTs]
    rw [i32_eq_self (x := -(e % 1000)) (by omega) (by omega),
      i32_eq_self (x := -(e / 1000 % 1000000000)) (by omega) (by omega),
      i32_eq_self (x := v % 1000 + -(e % 1000)) (by omega) (by omega), hcarry]
    dsimp only
    rw [zero_add, i32_eq_self (by omega) (by omega), hcarry',
      i64_eq_self (x := v / 1000000000000) (by omega) (by omega)]
    dsimp only
    rw [i64_eq_self (by omega) (by omega), zero_add, sub_eq_add_neg]
  · simp only [nanosSum, wholeNanos, hdiv, hnanos]
    omega

/-- Where the offset given to the hardware is made of whole ticks. -/
theorem wholeTicks_iff {a b : WrTimestamp} {d clockPeriodPs : ℤ} (ha : a.Normalised)
    (hb : b.Normalised) (hasec : |a.sec| < 9000000) (hbsec : |b.sec| < 9000000)
    (hd : FitsInt64 d) (hperiod : TicksDivideSecond clockPeriodPs) :
    WholeTicks (ticks clockPeriodPs) (tsAdd (tsSub a b) (picosToTs d))
        (tsHardwarize (tsAdd (tsSub a b) (picosToTs d)) clockPeriodPs) ↔
      WholeTicksWhen (ticks clockPeriodPs) (a.picos - b.picos) d := by
  have hv : -2 ^ 65 < a.picos - b.picos ∧ a.picos - b.picos < 2 ^ 65 := by
    rw [abs_lt] at hasec hbsec
    obtain ⟨ha₁, ha₂, ha₃, ha₄⟩ := ha
    obtain ⟨hb₁, hb₂, hb₃, hb₄⟩ := hb
    simp only [WrTimestamp.picos]
    omega
  rw [tsSub_eq_normalTs ha hb]
  generalize a.picos - b.picos = v at *
  obtain ⟨hq, hq'⟩ := hperiod.ticks_bounds
  have hh := tsHardwarize_eq (tsAdd (normalTs v) (picosToTs d)) clockPeriodPs
  rw [hperiod.qThreshold_eq] at hh
  have hdvd := hperiod.dvd_second
  generalize ticks clockPeriodPs = q at *
  -- A negative delay is converted by truncation, so its nanoseconds may be negative.
  obtain hneg | hnonneg := lt_or_ge d 0
  · obtain ⟨sec, ho, hwhole, hsec, hsec'⟩ := tsAdd_picosToTs_of_neg hv hneg hd.1
    rw [ho] at hh ⊢
    have hphase := phaseSum_range v hneg
    have hnanos := nanosSum_range v hneg
    have hpicos : (⟨sec, nanosSum v d, phaseSum v d, 0⟩ : WrTimestamp).picos = v + d := by
      have hdm := Int.mul_tdiv_add_tmod d 1000
      simp only [WrTimestamp.picos, phaseSum, wholeNanos] at hwhole ⊢
      omega
    obtain hn | hn := lt_or_ge (nanosSum v d) 0
    · rw [wholeTicks_of_neg_iff hq hq' hdvd ⟨hsec, hsec'⟩ hn hnanos.1 hphase.1
        hphase.2 hh]
      dsimp only
      rw [hwhole, tsToPicos_eq, hpicos]
      simp only [WholeTicksWhen, hneg.not_ge, hn.not_ge, false_or, and_assoc]
    · rw [wholeTicks_of_nonneg_iff hq hq' hdvd ⟨hsec, hsec'⟩ hn hnanos.2 hphase.1
        hphase.2 hh]
      dsimp only
      rw [hwhole, tsToPicos_eq, hpicos]
      simp only [WholeTicksWhen, hneg.not_ge, hn, false_or, true_or, true_and]
  · rw [picosToTs_of_nonneg hnonneg hd.2,
      tsAdd_eq_normalTs (normalTs_normalised v) (normalTs_normalised d)] at hh ⊢
    have hd₂ := hd.2
    rw [normalTs_picos (by omega) (by omega), normalTs_picos (by omega) (by omega)] at hh ⊢
    have hnormal := normalTs_normalised (v + d)
    have hpicos : (normalTs (v + d)).picos = v + d := normalTs_picos (by omega) (by omega)
    have hsec : (normalTs (v + d)).sec = (v + d) / 1000000000000 :=
      i64_eq_self (by omega) (by omega)
    rw [wholeTicks_of_nonneg_iff hq hq' hdvd (by rw [hsec]; omega)
      hnormal.nsec_nonneg hnormal.nsec_lt (by linarith [hnormal.phase_nonneg]) hnormal.phase_lt hh,
      tsToPicos_eq, hpicos]
    simp only [WholeTicksWhen, hnonneg, true_or, true_and, hnormal.phase_nonneg.not_gt, false_and,
      not_false_eq_true]

/-- A delay of one nanosecond below zero between equal timestamps does not give whole ticks. -/
theorem wholeTicks_fails_short :
    ¬WholeTicks (ticks 8000) (tsAdd (tsSub ⟨0, 0, 0, 0⟩ ⟨0, 0, 0, 0⟩) (picosToTs (-1000)))
      (tsHardwarize (tsAdd (tsSub ⟨0, 0, 0, 0⟩ ⟨0, 0, 0, 0⟩) (picosToTs (-1000))) 8000) := by
  have hzero : WrTimestamp.Normalised ⟨0, 0, 0, 0⟩ := by constructor <;> decide
  rw [wholeTicks_iff hzero hzero (by decide) (by decide) (by decide)
    ⟨by decide, by decide, by decide⟩]
  simp only [WholeTicksWhen, nanosSum, WrTimestamp.picos]
  decide

/-- Not every offset given to the hardware is made of whole ticks. -/
theorem not_forall_wholeTicks :
    ¬∀ (a b : WrTimestamp) (d clockPeriodPs : ℤ), a.Normalised → b.Normalised →
      |a.sec| < 9000000 → |b.sec| < 9000000 → FitsInt64 d → TicksDivideSecond clockPeriodPs →
      WholeTicks (ticks clockPeriodPs) (tsAdd (tsSub a b) (picosToTs d))
        (tsHardwarize (tsAdd (tsSub a b) (picosToTs d)) clockPeriodPs) := by
  intro h
  have hzero : WrTimestamp.Normalised ⟨0, 0, 0, 0⟩ := by constructor <;> decide
  have hdvd := (h _ _ (-1000) 8000 hzero hzero (by decide) (by decide) (by decide)
    ⟨by decide, by decide, by decide⟩).dvd_nsec
  revert hdvd
  decide +kernel

end WhiteRabbitPtp
