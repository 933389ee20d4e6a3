import WhiteRabbitPtp.Model.MainLoop
import Mathlib.Tactic.Ring
import Mathlib.Tactic.Linarith

/-!
# Timestamp arithmetic of the servo

The servo keeps its instants in three fields and moves carries between them by hand. Here a
timestamp stands for a number of picoseconds, and the operations are described by what they do to
that number.

## Main definitions

* `WrTimestamp.picos`: the picoseconds a timestamp stands for, without wrapping.
* `WrTimestamp.Normalised`: nanoseconds below a second, phase below a nanosecond, no sign.
* `normalTs`: the normalised timestamp of a number of picoseconds.
* `asymmetryDelay`: the delay from master to slave by the asymmetry formula.

## Main results

* `tsSub_eq_normalTs`, `tsAdd_eq_normalTs`: on normalised timestamps both operations are exact.
* `tsHardwarize_picos`: splitting off whole ticks keeps the value.
* `delayMsFix_eq_iff`: when the delay is the asymmetry formula.
-/

namespace WhiteRabbitPtp

/-! ### Wrapping -/

lemma i32_eq_self {x : ℤ} (h : -2 ^ 31 ≤ x) (h' : x < 2 ^ 31) : i32 x = x :=
  Int.bmod_eq_of_le (by omega) (by omega)

lemma i64_eq_self {x : ℤ} (h : -2 ^ 63 ≤ x) (h' : x < 2 ^ 63) : i64 x = x :=
  Int.bmod_eq_of_le (by omega) (by omega)

lemma i64_range (x : ℤ) : -2 ^ 63 ≤ i64 x ∧ i64 x < 2 ^ 63 := by
  simp only [i64, Int.bmod_def]
  omega

/-- Wrapping to 64 bits takes away a multiple of `2 ^ 64`. -/
lemma i64_add_mul (x k : ℤ) : i64 (x + 2 ^ 64 * k) = i64 x := by
  simp only [i64, Int.bmod_def]
  omega

lemma exists_i64_eq (x : ℤ) : ∃ k, i64 x = x + 2 ^ 64 * k := by
  refine ⟨-((x + 2 ^ 63) / 2 ^ 64), ?_⟩
  simp only [i64, Int.bmod_def]
  omega

/-! ### The carry loops -/

lemma carryOver_of_lt {step lo : ℤ} (hi : ℤ) (h : lo < step) : carryOver step lo hi = (hi, lo) := by
  rw [carryOver, dif_neg (by omega)]

/-- On a non-negative number the carry loop is division with remainder. -/
lemma carryOver_of_nonneg {step lo : ℤ} (hi : ℤ) (hs : 0 < step) (h : 0 ≤ lo) :
    carryOver step lo hi = (hi + lo / step, lo % step) := by
  fun_induction carryOver step lo hi with
  | case1 lo hi hstep ih =>
    rw [ih (by omega)]
    have hdiv : (lo - step) / step = lo / step - 1 := by
      rw [Int.sub_ediv_of_dvd _ (dvd_refl step), Int.ediv_self hs.ne']
    rw [hdiv, Int.sub_emod_right]
    ring_nf
  | case2 lo hi hstep =>
    have hlt : lo < step := by omega
    rw [Int.ediv_eq_zero_of_lt h hlt, Int.emod_eq_of_lt h hlt, add_zero]

/-- Below the step the borrow loop is division with remainder, rounded down. -/
lemma borrow_of_lt {step lo : ℤ} (hi : ℤ) (hs : 0 < step) (h : lo < step) :
    borrow step lo hi = (hi + lo / step, lo % step) := by
  fun_induction borrow step lo hi with
  | case1 lo hi hneg ih =>
    rw [ih (by omega)]
    have hdiv : (lo + step) / step = lo / step + 1 := by
      rw [Int.add_ediv_of_dvd_right (dvd_refl step), Int.ediv_self hs.ne']
    rw [hdiv, Int.add_emod_right]
    ring_nf
  | case2 lo hi hnonneg =>
    have hge : 0 ≤ lo := by omega
    rw [Int.ediv_eq_zero_of_lt hge h, Int.emod_eq_of_lt hge h, add_zero]

/-! ### The value of a timestamp -/

namespace WrTimestamp

/-- The picoseconds a timestamp stands for. -/
def picos (ts : WrTimestamp) : ℤ := ts.sec * 1000000000000 + ts.nsec * 1000 + ts.phase

/-- Nanoseconds below a second and phase below a nanosecond, neither negative. -/
structure Normalised (ts : WrTimestamp) : Prop where
  nsec_nonneg : 0 ≤ ts.nsec
  nsec_lt : ts.nsec < 1000000000
  phase_nonneg : 0 ≤ ts.phase
  phase_lt : ts.phase < 1000

end WrTimestamp

lemma tsToPicos_eq (ts : WrTimestamp) : tsToPicos ts = i64 ts.picos := rfl

/-- The normalised timestamp of a number of picoseconds, its seconds wrapped to 64 bits. -/
def normalTs (x : ℤ) : WrTimestamp where
  sec := i64 (x / 1000000000000)
  nsec := x / 1000 % 1000000000
  phase := x % 1000
  correct := 0

lemma normalTs_normalised (x : ℤ) : (normalTs x).Normalised := by
  constructor <;> simp only [normalTs] <;> omega

/-- A number of picoseconds whose seconds fit is the value of its normalised timestamp. -/
lemma normalTs_picos {x : ℤ} (h : -2 ^ 63 ≤ x / 1000000000000) (h' : x / 1000000000000 < 2 ^ 63) :
    (normalTs x).picos = x := by
  simp only [WrTimestamp.picos, normalTs, i64_eq_self h h']
  omega

lemma tsToPicos_normalTs {x : ℤ} (h : -2 ^ 63 ≤ x) (h' : x < 2 ^ 63) :
    tsToPicos (normalTs x) = x := by
  rw [tsToPicos_eq, normalTs_picos (by omega) (by omega), i64_eq_self h h']

/-- The value of a normalised timestamp is known up to the wrapping of its seconds. -/
lemma exists_normalTs_picos (x : ℤ) :
    ∃ k, (normalTs x).picos = x + 2 ^ 64 * 1000000000000 * k := by
  obtain ⟨k, hk⟩ := exists_i64_eq (x / 1000000000000)
  refine ⟨k, ?_⟩
  simp only [WrTimestamp.picos, normalTs, hk]
  omega

lemma normalTs_add_mul (x k : ℤ) : normalTs (x + 2 ^ 64 * 1000000000000 * k) = normalTs x := by
  have hsec : (x + 2 ^ 64 * 1000000000000 * k) / 1000000000000
      = x / 1000000000000 + 2 ^ 64 * k := by omega
  have hnsec : (x + 2 ^ 64 * 1000000000000 * k) / 1000 % 1000000000
      = x / 1000 % 1000000000 := by omega
  have hphase : (x + 2 ^ 64 * 1000000000000 * k) % 1000 = x % 1000 := by omega
  simp only [normalTs, hsec, hnsec, hphase, i64_add_mul]

/-! ### Sums and differences -/

/-- The difference of normalised timestamps is exact. -/
theorem tsSub_eq_normalTs {a b : WrTimestamp} (ha : a.Normalised) (hb : b.Normalised) :
    tsSub a b = normalTs (a.picos - b.picos) := by
  obtain ⟨ha₁, ha₂, ha₃, ha₄⟩ := ha
  obtain ⟨hb₁, hb₂, hb₃, hb₄⟩ := hb
  have hphase : i32 (a.phase - b.phase) = a.phase - b.phase := i32_eq_self (by omega) (by omega)
  simp only [tsSub, hphase, borrow_of_lt 0 (by decide : (0 : ℤ) < 1000)
    (show a.phase - b.phase < 1000 by omega)]
  generalize hc : 0 + (a.phase - b.phase) / 1000 = c
  have hnsec : i32 (c + (a.nsec - b.nsec)) = c + (a.nsec - b.nsec) :=
    i32_eq_self (by omega) (by omega)
  rw [hnsec, borrow_of_lt 0 (by decide) (show c + (a.nsec - b.nsec) < 1000000000 by omega)]
  -- both sides have the same value, so the same fields
  simp only [normalTs, WrTimestamp.picos, WrTimestamp.mk.injEq, and_true]
  refine ⟨congrArg i64 ?_, ?_, ?_⟩ <;> omega

/-- The sum of normalised timestamps is exact. -/
theorem tsAdd_eq_normalTs {a b : WrTimestamp} (ha : a.Normalised) (hb : b.Normalised) :
    tsAdd a b = normalTs (a.picos + b.picos) := by
  obtain ⟨ha₁, ha₂, ha₃, ha₄⟩ := ha
  obtain ⟨hb₁, hb₂, hb₃, hb₄⟩ := hb
  have hphase : i32 (a.phase + b.phase) = a.phase + b.phase := i32_eq_self (by omega) (by omega)
  simp only [tsAdd, hphase, carryOver_of_nonneg 0 (by decide : (0 : ℤ) < 1000)
    (show 0 ≤ a.phase + b.phase by omega)]
  generalize hc : 0 + (a.phase + b.phase) / 1000 = c
  have hnsec : i32 (c + (a.nsec + b.nsec)) = c + (a.nsec + b.nsec) :=
    i32_eq_self (by omega) (by omega)
  rw [hnsec, carryOver_of_nonneg 0 (by decide) (show 0 ≤ c + (a.nsec + b.nsec) by omega)]
  simp only [normalTs, WrTimestamp.picos, WrTimestamp.mk.injEq, and_true]
  refine ⟨congrArg i64 ?_, ?_, ?_⟩ <;> omega

/-- A non-negative number of picoseconds becomes its normalised timestamp. -/
lemma picosToTs_of_nonneg {d : ℤ} (h : 0 ≤ d) (h' : d < 2 ^ 63) : picosToTs d = normalTs d := by
  have hphase : d.tmod 1000 = d % 1000 := Int.tmod_eq_emod_of_nonneg h
  have hns : (d - d % 1000).tdiv 1000 = d / 1000 := by
    rw [Int.tdiv_eq_ediv_of_nonneg (by omega)]; omega
  have hnsec : (d / 1000).tmod 1000000000 = d / 1000 % 1000000000 :=
    Int.tmod_eq_emod_of_nonneg (by omega)
  have hsec : (d / 1000 - d / 1000 % 1000000000).tdiv 1000000000 = d / 1000000000000 := by
    rw [Int.tdiv_eq_ediv_of_nonneg (by omega)]; omega
  simp only [picosToTs, normalTs, hphase, hns, hnsec, hsec, WrTimestamp.mk.injEq, and_true]
  refine ⟨(i64_eq_self ?_ ?_).symm, i32_eq_self ?_ ?_, i32_eq_self ?_ ?_⟩ <;> omega

/-! ### The four corrections of `ts_hardwarize` -/

/-- The ticks of the clock in whole nanoseconds, as `ts_hardwarize` computes them. -/
def qThreshold (clockPeriodPs : ℤ) : ℤ := (i32 (clockPeriodPs + 999)).tdiv 1000

/-- Put the nanoseconds beyond whole ticks into the phase. -/
def moveExtra (q : ℤ) (ts : WrTimestamp) : WrTimestamp :=
  if 0 < ts.nsec then
    if ts.nsec.tmod q ≠ 0 then
      { ts with
        nsec := i32 (ts.nsec - ts.nsec.tmod q)
        phase := i32 (ts.phase + ts.nsec.tmod q * 1000) }
    else ts
  else ts

/-- Borrow a second for negative nanoseconds. -/
def borrowSecond (ts : WrTimestamp) : WrTimestamp :=
  if ts.nsec < 0 then { ts with nsec := i32 (ts.nsec + 1000000000), sec := i64 (ts.sec - 1) }
  else ts

/-- Turn a second of debt back into negative nanoseconds. -/
def returnSecond (ts : WrTimestamp) : WrTimestamp :=
  if ts.sec = -1 ∧ 0 < ts.nsec then
    { ts with sec := ts.sec + 1, nsec := i32 (ts.nsec - 1000000000) }
  else ts

/-- Put a last negative tick into the phase. -/
def moveTick (q : ℤ) (ts : WrTimestamp) : WrTimestamp :=
  if ts.nsec < 0 ∧ -q ≤ ts.nsec ∧ ts.sec = 0 then
    { ts with nsec := i32 (ts.nsec + q), phase := i32 (ts.phase - q * 1000) }
  else ts

lemma tsHardwarize_eq (ts : WrTimestamp) (clockPeriodPs : ℤ) :
    tsHardwarize ts clockPeriodPs =
      moveTick (qThreshold clockPeriodPs) (returnSecond (borrowSecond
        (moveExtra (qThreshold clockPeriodPs) ts))) :=
  rfl

lemma qThreshold_bounds (clockPeriodPs : ℤ) :
    -2147483 ≤ qThreshold clockPeriodPs ∧ qThreshold clockPeriodPs ≤ 2147483 := by
  unfold qThreshold
  have hle : -2 ^ 31 ≤ i32 (clockPeriodPs + 999) ∧ i32 (clockPeriodPs + 999) < 2 ^ 31 := by
    simp only [i32, Int.bmod_def]
    omega
  obtain h | h := Int.le_total 0 (i32 (clockPeriodPs + 999))
  · rw [Int.tdiv_eq_ediv_of_nonneg h]
    omega
  · have hneg := Int.neg_tdiv (i32 (clockPeriodPs + 999)) 1000
    rw [Int.tdiv_eq_ediv_of_nonneg (a := -i32 (clockPeriodPs + 999)) (by omega)] at hneg
    omega

section Corrections

variable {q : ℤ} {ts : WrTimestamp}

/-- The remainder `ts_hardwarize` takes, for nanoseconds above zero. -/
lemma tmod_bounds (hq : q ≠ 0) (hb : -2147483 ≤ q ∧ q ≤ 2147483) (hn : 0 ≤ ts.nsec) :
    0 ≤ ts.nsec.tmod q ∧ ts.nsec.tmod q ≤ ts.nsec ∧ ts.nsec.tmod q < 2147483 := by
  have hnonneg := Int.tmod_nonneg q hn
  have habs := Int.natAbs_tmod ts.nsec q
  have hle := Nat.mod_le ts.nsec.natAbs q.natAbs
  have hlt := Nat.mod_lt ts.nsec.natAbs (Int.natAbs_pos.mpr hq)
  omega

/-- Moving the extra nanoseconds keeps the value. -/
lemma moveExtra_picos (hq : q ≠ 0) (hb : -2147483 ≤ q ∧ q ≤ 2147483)
    (hn : ts.nsec < 1000000000) (hp : -1000 < ts.phase) (hp' : ts.phase < 1000) :
    (moveExtra q ts).picos = ts.picos := by
  unfold moveExtra
  split_ifs with hpos hextra
  · obtain ⟨hnonneg, hle, hlt⟩ := tmod_bounds hq hb hpos.le
    generalize ts.nsec.tmod q = e at *
    simp only [WrTimestamp.picos]
    rw [i32_eq_self (by omega) (by omega), i32_eq_self (by omega) (by omega)]
    ring
  · rfl
  · rfl

/-- After the extra nanoseconds have moved, the phase is below a tick and the nanoseconds have not
grown. -/
lemma moveExtra_range (hq : q ≠ 0) (hb : -2147483 ≤ q ∧ q ≤ 2147483) (hn : 0 ≤ ts.nsec)
    (hn' : ts.nsec < 1000000000) (hp : 0 ≤ ts.phase) (hp' : ts.phase < 1000) :
    (moveExtra q ts).sec = ts.sec ∧ 0 ≤ (moveExtra q ts).nsec ∧
      (moveExtra q ts).nsec < 1000000000 ∧ 0 ≤ (moveExtra q ts).phase ∧
      (moveExtra q ts).phase < 2147483000 := by
  unfold moveExtra
  split_ifs with hpos hextra
  · obtain ⟨hnonneg, hle, hlt⟩ := tmod_bounds hq hb hpos.le
    generalize ts.nsec.tmod q = e at *
    refine ⟨rfl, ?_⟩
    dsimp only
    rw [i32_eq_self (by omega) (by omega), i32_eq_self (by omega) (by omega)]
    omega
  · exact ⟨rfl, hn, hn', hp, by omega⟩
  · exact ⟨rfl, hn, hn', hp, by omega⟩

lemma borrowSecond_of_nonneg (hn : 0 ≤ ts.nsec) : borrowSecond ts = ts :=
  if_neg hn.not_gt

lemma returnSecond_picos (hn : 0 ≤ ts.nsec) (hn' : ts.nsec < 1000000000) :
    (returnSecond ts).picos = ts.picos := by
  unfold returnSecond
  split_ifs with h
  · simp only [WrTimestamp.picos]
    rw [i32_eq_self (by omega) (by omega)]
    ring
  · rfl

lemma moveTick_picos (hb : -2147483 ≤ q ∧ q ≤ 2147483) (hn : -1000000000 ≤ ts.nsec)
    (hp : 0 ≤ ts.phase) (hp' : ts.phase < 2147483000) : (moveTick q ts).picos = ts.picos := by
  unfold moveTick
  split_ifs with h
  · simp only [WrTimestamp.picos]
    rw [i32_eq_self (by omega) (by omega), i32_eq_self (by omega) (by omega)]
    ring
  · rfl

end Corrections

/-- `ts_hardwarize` keeps the value of a normalised timestamp. -/
theorem tsHardwarize_picos {ts : WrTimestamp} {clockPeriodPs : ℤ} (h : ts.Normalised)
    (hq : qThreshold clockPeriodPs ≠ 0) : (tsHardwarize ts clockPeriodPs).picos = ts.picos := by
  obtain ⟨hn, hn', hp, hp'⟩ := h
  have hb := qThreshold_bounds clockPeriodPs
  generalize hQ : qThreshold clockPeriodPs = q at hq hb
  obtain ⟨-, hnsec, hnsec', hphase, hphase'⟩ := moveExtra_range hq hb hn hn' hp hp'
  rw [tsHardwarize_eq, hQ, borrowSecond_of_nonneg hnsec]
  have hret : -1000000000 ≤ (returnSecond (moveExtra q ts)).nsec ∧
      (returnSecond (moveExtra q ts)).phase = (moveExtra q ts).phase := by
    unfold returnSecond
    split_ifs with hsec
    · exact ⟨by simp only []; rw [i32_eq_self (by omega) (by omega)]; omega, rfl⟩
    · exact ⟨by omega, rfl⟩
  rw [moveTick_picos hb hret.1 (by omega) (by omega), returnSecond_picos hnsec hnsec',
    moveExtra_picos hq hb hn' (by omega) hp']

/-! ### The delay -/

/-- `big_delta_fix`: the four fixed delays together. -/
def bigDeltaFix (s : WrServoState) : ℤ :=
  i32 (i32 (i32 (s.deltaTxM + s.deltaTxS) + s.deltaRxM) + s.deltaRxS)

/-- The sum of the four fixed delays. -/
def WrServoState.fixedDelays (s : WrServoState) : ℤ :=
  s.deltaTxM + s.deltaTxS + s.deltaRxM + s.deltaRxS

/-- The delay from master to slave by the asymmetry model. -/
def asymmetryDelay (s : WrServoState) (phAdjust : ℤ) : ℤ :=
  (tsToPicos s.mu - s.fixedDelays) * s.fiberFixAlpha / 2 ^ 40 +
    (tsToPicos s.mu - s.fixedDelays) / 2 + s.deltaTxM + s.deltaRxS + phAdjust

/-- A number that an `int32_t` holds. -/
def FitsInt32 (x : ℤ) : Prop := -2 ^ 31 ≤ x ∧ x < 2 ^ 31

instance (x : ℤ) : Decidable (FitsInt32 x) := by
  unfold FitsInt32
  infer_instance

/-- A number that an `int64_t` holds. -/
def FitsInt64 (x : ℤ) : Prop := -2 ^ 63 ≤ x ∧ x < 2 ^ 63

instance (x : ℤ) : Decidable (FitsInt64 x) := by
  unfold FitsInt64
  infer_instance

/-- The fixed delays of the servo state and their sum fit their 32 bits. -/
structure WrServoState.DeltasFit (s : WrServoState) : Prop where
  txM : FitsInt32 s.deltaTxM
  rxM : FitsInt32 s.deltaRxM
  txS : FitsInt32 s.deltaTxS
  rxS : FitsInt32 s.deltaRxS
  sum : FitsInt32 s.fixedDelays

/-- The four additions are exact when their outcome is, whatever happens in between. -/
lemma bigDeltaFix_eq {s : WrServoState} (h : FitsInt32 s.fixedDelays) :
    bigDeltaFix s = s.fixedDelays := by
  simp only [FitsInt32, WrServoState.fixedDelays, bigDeltaFix, i32, Int.bmod_def] at *
  omega

/-- A product that fits its 64 bits is exact, even when a factor of it wrapped. -/
lemma i64_i64_mul {x a : ℤ} (h : FitsInt64 (x * a)) : i64 (i64 x * a) = x * a := by
  obtain ⟨k, hk⟩ := exists_i64_eq x
  have hmul : (x + 2 ^ 64 * k) * a = x * a + 2 ^ 64 * (k * a) := by ring
  rw [hk, hmul, i64_add_mul, i64_eq_self h.1 h.2]

/-- Where the fixed delays and the product fit, only the halving looks at an unsigned number. -/
lemma delayMsFix_eq {s : WrServoState} {phAdjust : ℤ} (hsum : FitsInt32 s.fixedDelays)
    (hprod : FitsInt64 ((tsToPicos s.mu - s.fixedDelays) * s.fiberFixAlpha)) :
    delayMsFix s phAdjust = ((tsToPicos s.mu - s.fixedDelays) * s.fiberFixAlpha / 2 ^ 40 +
      (tsToPicos s.mu - s.fixedDelays) % 2 ^ 64 / 2 + s.deltaTxM + s.deltaRxS + phAdjust) %
        2 ^ 64 := by
  have hbig : i32 (i32 (i32 (s.deltaTxM + s.deltaTxS) + s.deltaRxM) + s.deltaRxS) =
      s.fixedDelays := bigDeltaFix_eq hsum
  simp only [delayMsFix, hbig, i64_i64_mul hprod]

/-- A round trip no shorter than the fixed delays is halved exactly. -/
lemma delayMsFix_of_le {s : WrServoState} {phAdjust : ℤ} (hd : s.DeltasFit)
    (hph : FitsInt32 phAdjust)
    (hprod : FitsInt64 ((tsToPicos s.mu - s.fixedDelays) * s.fiberFixAlpha))
    (hle : s.fixedDelays ≤ tsToPicos s.mu) :
    i64 (delayMsFix s phAdjust) = asymmetryDelay s phAdjust := by
  have hmu := i64_range s.mu.picos
  rw [← tsToPicos_eq] at hmu
  rw [delayMsFix_eq hd.sum hprod, asymmetryDelay]
  obtain ⟨htxM, -, -, hrxS, hsum⟩ := hd
  generalize tsToPicos s.mu = mu at *
  generalize s.fixedDelays = d at *
  rw [Int.emod_eq_of_lt (show 0 ≤ mu - d by omega) (by simp only [FitsInt32] at hsum; omega)]
  generalize (mu - d) * s.fiberFixAlpha = prod at *
  simp only [FitsInt32, FitsInt64, i64, Int.bmod_def] at *
  omega

/-- The delay is the one of the asymmetry model exactly when the round trip is no shorter than the
fixed delays: below, halving the unsigned difference adds half of the number range. -/
theorem delayMsFix_eq_iff (s : WrServoState) (phAdjust : ℤ) (hd : s.DeltasFit)
    (hph : FitsInt32 phAdjust)
    (hprod : FitsInt64 ((tsToPicos s.mu - s.fixedDelays) * s.fiberFixAlpha)) :
    i64 (delayMsFix s phAdjust) = asymmetryDelay s phAdjust ↔
      s.fixedDelays ≤ tsToPicos s.mu := by
  refine ⟨fun hdelay => ?_, delayMsFix_of_le hd hph hprod⟩
  have hmu := i64_range s.mu.picos
  rw [← tsToPicos_eq] at hmu
  rw [delayMsFix_eq hd.sum hprod, asymmetryDelay] at hdelay
  obtain ⟨htxM, -, -, hrxS, hsum⟩ := hd
  generalize tsToPicos s.mu = mu at *
  generalize s.fixedDelays = d at *
  generalize (mu - d) * s.fiberFixAlpha = prod at *
  -- A negative difference would be off by half of the range of an unsigned number.
  by_contra hshort
  simp only [FitsInt32, FitsInt64, i64, Int.bmod_def] at *
  omega

/-- The servo of a slave on a fibre whose round trip was measured one picosecond below the four
fixed delays of 100 ns each. -/
def shortFibre : WrServoState :=
  { (Daemon.singleNode ![2, 0, 0, 0, 0, 1] .wrSlave).port.servo with
    mu := ⟨0, 399, 999, 0⟩
    deltaTxM := 100000
    deltaRxM := 100000
    deltaTxS := 100000
    deltaRxS := 100000
    fiberFixAlpha := 73622176 }

lemma shortFibre_deltasFit : shortFibre.DeltasFit := by
  constructor <;> decide

/-- On the short fibre the delay is not the one of the model. -/
theorem delayMsFix_shortFibre :
    ¬shortFibre.fixedDelays ≤ tsToPicos shortFibre.mu ∧
      i64 (delayMsFix shortFibre 0) ≠ asymmetryDelay shortFibre 0 :=
  have h : ¬shortFibre.fixedDelays ≤ tsToPicos shortFibre.mu := by decide
  ⟨h, mt (delayMsFix_eq_iff shortFibre 0 shortFibre_deltasFit (by decide) (by decide)).mp h⟩

/-- Not every measured round trip gives the delay of the model. -/
theorem not_forall_delayMsFix_eq :
    ¬∀ (s : WrServoState) (phAdjust : ℤ), s.DeltasFit → FitsInt32 s.fiberFixAlpha →
      FitsInt32 phAdjust → FitsInt64 ((tsToPicos s.mu - s.fixedDelays) * s.fiberFixAlpha) →
      i64 (delayMsFix s phAdjust) = asymmetryDelay s phAdjust := by
  intro h
  have hdelay := h shortFibre 0 shortFibre_deltasFit (by decide) (by decide) (by decide)
  revert hdelay
  decide

end WhiteRabbitPtp
