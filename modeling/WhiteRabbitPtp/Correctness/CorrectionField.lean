import WhiteRabbitPtp.Correctness.TimeArithmetic
import WhiteRabbitPtp.Correctness.Frames
import WhiteRabbitPtp.Correctness.WireFormat

/-!
# The correction field

A correction field counts nanoseconds in units of `2 ^ -16` as a signed number of 64 bits. The
program divides it by hand, on its two halves, and a master uses it to tell its slave the phase of a
received request. Each computation is written a second time with a check at every operation, to tell
what overflows from what wraps.

## Main definitions

* `integer64ToInternalTimeChecked`: the conversion with every operation checked.
* `Converted`: what the conversion of a number is to be.
* `PhaseCarried`: what a frame and the servo make of a phase.

## Main results

* `converted_iff`: the conversion is right for every number but the least one.
* `receivePhase_survives`: a phase is at most one picosecond off when it reaches the servo of the
  slave.
-/

namespace WhiteRabbitPtp

open Octets CheckedInt

/-! ### The checked conversion -/

/-- `Integer64.magnitudeToTime` with every operation checked. -/
def Integer64.magnitudeToTimeChecked (bigint : Integer64) (internal : TimeInternal) :
    Option TimeInternal := do
  let lsb : UInt32 := bigint.lsb >>> 16 ||| bigint.msb.toUInt32 <<< 16
  let msb : ℤ := bigint.msb.toInt / 2 ^ 16
  let s_msb ← checked 32 (4 * msb)
  let ns_msb ← checked 64 (msb * 294967296)
  let entire ← checked 32 (ns_msb.tdiv nsPerSec)
  let s_msb ← checked 32 (s_msb + entire)
  let ns_msb ← checked 32 (ns_msb.tmod nsPerSec)
  let nanoseconds ← checked 32 ((lsb.toNat : ℤ) % nsPerSec + ns_msb)
  let seconds ← checked 32 ((lsb.toNat : ℤ) / nsPerSec + s_msb)
  normalizeTimeChecked { internal with seconds, nanoseconds }

/-- The two's complement of a number with a checked carry into its upper half. -/
def Integer64.negatedChecked (bigint : Integer64) : Option Integer64 :=
  if ~~~bigint.lsb = 0xFFFFFFFF then do
    let msb ← checked 32 ((~~~bigint.msb).toInt + 1)
    return { lsb := 0, msb := Int32.ofInt msb }
  else some { lsb := ~~~bigint.lsb + 1, msb := ~~~bigint.msb }

/-- `integer64ToInternalTime` with every operation checked. -/
def integer64ToInternalTimeChecked (bigint : Integer64) (internal : TimeInternal) :
    Option TimeInternal :=
  if 0 ≤ bigint.msb.toInt then bigint.magnitudeToTimeChecked internal
  else do
    let negated ← bigint.negatedChecked
    let t ← negated.magnitudeToTimeChecked internal
    let nanoseconds ← checked 32 (-t.nanoseconds)
    let seconds ← checked 32 (-t.seconds)
    return { t with nanoseconds, seconds }

/-! ### The value of a correction field -/

section Value

variable (bigint : Integer64)

lemma Integer64.value_range : -2 ^ 63 ≤ bigint.value ∧ bigint.value < 2 ^ 63 := by
  have hlsb := bigint.lsb.toNat_lt
  have hle := bigint.msb.le_toInt
  have hlt := bigint.msb.toInt_lt
  unfold Integer64.value
  omega

/-- The low word without the fraction, behind the low half of the high word. -/
lemma Integer64.toNat_shiftedLsb (h : 0 ≤ bigint.msb.toInt) :
    ((bigint.lsb >>> 16 ||| bigint.msb.toUInt32 <<< 16).toNat : ℤ) =
      bigint.value / 2 ^ 16 % 2 ^ 32 := by
  have hmsb : 0 ≤ bigint.msb := Int32.le_iff_toInt_le.mpr h
  have hvalue : bigint.value = bigint.msb.toUInt32.toNat * 2 ^ 32 + bigint.lsb.toNat := by
    rw [Integer64.value, Int32.toInt_eq_toNatClampNeg hmsb, Int32.toNat_toUInt32_of_le hmsb]
  have hlsb := bigint.lsb.toNat_lt
  have hor : (bigint.lsb >>> 16 ||| bigint.msb.toUInt32 <<< 16).toNat =
      (bigint.msb.toUInt32.toNat % 2 ^ 16) <<< 16 ||| bigint.lsb.toNat / 2 ^ 16 := by
    rw [UInt32.toNat_or, UInt32.toNat_shiftRight, UInt32.toNat_shiftLeft, Nat.or_comm]
    simp only [Nat.shiftRight_eq_div_pow, Nat.shiftLeft_eq]
    congr 1
    simp
    omega
  rw [hor, ← Nat.shiftLeft_add_eq_or_of_lt (by omega), Nat.shiftLeft_eq, hvalue]
  omega

lemma Integer64.shiftedMsb : bigint.msb.toInt / 2 ^ 16 = bigint.value / 2 ^ 16 / 2 ^ 32 := by
  have hlsb := bigint.lsb.toNat_lt
  unfold Integer64.value
  omega

end Value

/-! ### The checked conversion and the wrapping one -/

section Wrapping

variable {bigint : Integer64} {internal t : TimeInternal}

lemma magnitudeToTime_of_checked (h : bigint.magnitudeToTimeChecked internal = some t) :
    bigint.magnitudeToTime internal = t := by
  unfold Integer64.magnitudeToTimeChecked at h
  simp only [Option.bind_eq_bind, checked_bind_eq_some_iff] at h
  obtain ⟨-, -, hentire, hs_msb, hns_msb, hnanoseconds, hseconds, h⟩ := h
  rw [← normalizeTime_of_checked h, Integer64.magnitudeToTime, i32_of_fits hentire,
    i32_of_fits hs_msb, i32_of_fits hns_msb, i32_of_fits hnanoseconds, i32_of_fits hseconds]

lemma negated_of_checked {negated : Integer64} (h : bigint.negatedChecked = some negated) :
    (if ~~~bigint.lsb = 0xFFFFFFFF then { lsb := 0, msb := ~~~bigint.msb + 1 }
      else { lsb := ~~~bigint.lsb + 1, msb := ~~~bigint.msb }) = negated := by
  unfold Integer64.negatedChecked at h
  split_ifs at h ⊢ with hlsb
  · simp only [Option.bind_eq_bind, checked_bind_eq_some_iff] at h
    rw [← Option.some.inj h.2, Int32.ofInt_add, Int32.ofInt_toInt]
    rfl
  · exact Option.some.inj h

/-- A conversion in which nothing overflows has the result of the checked one. -/
theorem integer64ToInternalTime_of_checked
    (h : integer64ToInternalTimeChecked bigint internal = some t) :
    integer64ToInternalTime bigint internal = t := by
  unfold integer64ToInternalTimeChecked at h
  unfold integer64ToInternalTime
  by_cases hmsb : 0 ≤ bigint.msb.toInt
  · rw [if_pos hmsb] at h ⊢
    exact magnitudeToTime_of_checked h
  · rw [if_neg hmsb] at h ⊢
    obtain ⟨negated, hnegated, h⟩ := Option.bind_eq_some_iff.mp h
    obtain ⟨magnitude, hmagnitude, h⟩ := Option.bind_eq_some_iff.mp h
    simp only [Option.bind_eq_bind, checked_bind_eq_some_iff] at h
    obtain ⟨hnanoseconds, hseconds, h⟩ := h
    dsimp only
    rw [negated_of_checked hnegated, magnitudeToTime_of_checked hmagnitude,
      i32_of_fits hnanoseconds, i32_of_fits hseconds]
    exact Option.some.inj h

end Wrapping

/-! ### The conversion of every number but one -/

section Conversion

variable {bigint : Integer64} (internal : TimeInternal)

/-- Less than two seconds of nanoseconds are brought below one. -/
lemma normalizeTimeChecked_eq {r : TimeInternal} (hseconds : 0 ≤ r.seconds)
    (hlt : r.seconds < 2 ^ 30) (hnanoseconds : 0 ≤ r.nanoseconds)
    (hlt' : r.nanoseconds < 2 * nsPerSec) :
    normalizeTimeChecked r = some { r with
      seconds := r.seconds + r.nanoseconds / nsPerSec
      nanoseconds := r.nanoseconds % nsPerSec } := by
  simp only [nsPerSec] at hlt'
  have hdiv : r.nanoseconds.tdiv 1000000000 = r.nanoseconds / 1000000000 :=
    Int.tdiv_eq_ediv_of_nonneg hnanoseconds
  have hrest : r.nanoseconds - r.nanoseconds / 1000000000 * 1000000000 =
      r.nanoseconds % 1000000000 := by omega
  unfold normalizeTimeChecked
  simp only [Option.bind_eq_bind, nsPerSec, hdiv, checked_bind_eq_some_iff, Fits, hrest]
  refine ⟨by omega, by omega, by omega, ?_⟩
  rw [if_neg (by omega), if_neg (by omega)]
  rfl

/-- A number that is not negative is divided exactly. -/
lemma magnitudeToTimeChecked_eq (h : 0 ≤ bigint.msb.toInt) :
    bigint.magnitudeToTimeChecked internal = some { internal with
      seconds := bigint.value / 2 ^ 16 / nsPerSec
      nanoseconds := bigint.value / 2 ^ 16 % nsPerSec } := by
  have hrange := bigint.value_range
  have hnonneg : 0 ≤ bigint.value := by
    unfold Integer64.value
    omega
  have hns : 0 ≤ bigint.value / 2 ^ 16 / 2 ^ 32 * 294967296 := by omega
  have hlt : bigint.value / 2 ^ 16 < 2 ^ 47 := by omega
  unfold Integer64.magnitudeToTimeChecked
  simp only [Option.bind_eq_bind, checked_bind_eq_some_iff, bigint.toNat_shiftedLsb h,
    bigint.shiftedMsb, Fits, nsPerSec, Int.tdiv_eq_ediv_of_nonneg hns,
    Int.tmod_eq_emod_of_nonneg hns]
  generalize bigint.value / 2 ^ 16 = ns at *
  refine ⟨by omega, by omega, by omega, by omega, by omega, by omega, by omega, ?_⟩
  rw [normalizeTimeChecked_eq]
  -- `2 ^ 32` nanoseconds are four seconds and `294967296` nanoseconds.
  · simp only [nsPerSec, Option.some.injEq, TimeInternal.mk.injEq, and_self, and_true]
    omega
  all_goals
    simp only [nsPerSec]
    omega

/-- What the conversion of a number is to be: no operation overflows, and the two fields are its
whole nanoseconds, rounded toward zero and split into seconds without a change of sign. -/
structure Converted (bigint : Integer64) (internal : TimeInternal) : Prop where
  noOverflow : integer64ToInternalTimeChecked bigint internal =
    some (integer64ToInternalTime bigint internal)
  exact : (integer64ToInternalTime bigint internal).seconds * nsPerSec +
    (integer64ToInternalTime bigint internal).nanoseconds = bigint.value.tdiv (2 ^ 16)
  belowSecond : |(integer64ToInternalTime bigint internal).nanoseconds| < nsPerSec
  nonneg : 0 ≤ bigint.value → 0 ≤ (integer64ToInternalTime bigint internal).seconds ∧
    0 ≤ (integer64ToInternalTime bigint internal).nanoseconds
  nonpos : bigint.value ≤ 0 → (integer64ToInternalTime bigint internal).seconds ≤ 0 ∧
    (integer64ToInternalTime bigint internal).nanoseconds ≤ 0

lemma toInt_not_msb : (~~~bigint.msb).toInt = -bigint.msb.toInt - 1 := by
  have hle := bigint.msb.le_toInt
  have hlt := bigint.msb.toInt_lt
  rw [Int32.toInt_not]
  exact bmod_of_fits (w := 32) (by decide) ⟨by omega, by omega⟩

lemma toNat_not_lsb : (~~~bigint.lsb).toNat = 2 ^ 32 - 1 - bigint.lsb.toNat := by
  simp [UInt32.toNat_not]

/-- The carry into the upper half overflows at the least number only. -/
lemma negatedChecked_eq (hmsb : ¬0 ≤ bigint.msb.toInt) (hne : bigint.value ≠ -2 ^ 63) :
    ∃ negated, bigint.negatedChecked = some negated ∧ negated.value = -bigint.value ∧
      0 ≤ negated.msb.toInt := by
  have hle := bigint.msb.le_toInt
  have hlsb := bigint.lsb.toNat_lt
  unfold Integer64.value at hne ⊢
  unfold Integer64.negatedChecked
  -- The negated lower half carries exactly when it is 0.
  by_cases hzero : ~~~bigint.lsb = 0xFFFFFFFF
  · have hlow : bigint.lsb.toNat = 0 := by
      have h := congrArg UInt32.toNat hzero
      rw [toNat_not_lsb] at h
      simp at h
      omega
    have hfits : Fits 32 ((~~~bigint.msb).toInt + 1) := by
      rw [toInt_not_msb, Fits]
      omega
    have hofInt : (Int32.ofInt ((~~~bigint.msb).toInt + 1)).toInt = -bigint.msb.toInt := by
      rw [Int32.toInt_ofInt, toInt_not_msb]
      exact (bmod_of_fits (w := 32) (by decide) ⟨by omega, by omega⟩).trans (by omega)
    rw [if_pos hzero, checked_of_fits hfits]
    refine ⟨_, rfl, ?_, ?_⟩
    · rw [hofInt]
      simp
      omega
    · rw [hofInt]
      omega
  · rw [if_neg hzero]
    refine ⟨_, rfl, ?_, ?_⟩
    · have hlow : bigint.lsb.toNat ≠ 0 := by
        intro h
        exact hzero (UInt32.toNat_inj.mp (by rw [toNat_not_lsb, h]; rfl))
      have hcarry : (~~~bigint.lsb + 1).toNat = 2 ^ 32 - bigint.lsb.toNat := by
        rw [UInt32.toNat_add, toNat_not_lsb]
        simp
        omega
      rw [toInt_not_msb, hcarry]
      omega
    · rw [toInt_not_msb]
      omega

/-- The least number has no two's complement. -/
lemma negatedChecked_least (h : bigint.value = -2 ^ 63) : bigint.negatedChecked = none := by
  have hle := bigint.msb.le_toInt
  have hlt := bigint.lsb.toNat_lt
  unfold Integer64.value at h
  have hlsb : bigint.lsb = 0 := UInt32.toNat_inj.mp (by simp; omega)
  have hoverflow : ¬Fits 32 ((~~~bigint.msb).toInt + 1) := by
    rw [toInt_not_msb, Fits]
    omega
  rw [Integer64.negatedChecked, hlsb, if_pos (by decide), checked_of_not_fits hoverflow]
  rfl

/-- Every number but the least one is divided exactly, and then nothing overflows. -/
lemma integer64ToInternalTimeChecked_eq (hne : bigint.value ≠ -2 ^ 63) :
    integer64ToInternalTimeChecked bigint internal = some { internal with
      seconds := (bigint.value.tdiv (2 ^ 16)).tdiv nsPerSec
      nanoseconds := (bigint.value.tdiv (2 ^ 16)).tmod nsPerSec } := by
  have hlsb := bigint.lsb.toNat_lt
  unfold integer64ToInternalTimeChecked
  by_cases hmsb : 0 ≤ bigint.msb.toInt
  · have hnonneg : 0 ≤ bigint.value := by
      unfold Integer64.value
      omega
    have hns : 0 ≤ bigint.value / 2 ^ 16 := by omega
    rw [if_pos hmsb, magnitudeToTimeChecked_eq internal hmsb,
      Int.tdiv_eq_ediv_of_nonneg hnonneg, Int.tdiv_eq_ediv_of_nonneg hns,
      Int.tmod_eq_emod_of_nonneg hns]
  · obtain ⟨negated, hnegated, hvalue, hmsb'⟩ := negatedChecked_eq hmsb hne
    have hrange := bigint.value_range
    have hneg : 0 ≤ -bigint.value := by
      unfold Integer64.value
      omega
    have hns : 0 ≤ -bigint.value / 2 ^ 16 := by omega
    rw [if_neg hmsb, hnegated]
    -- The magnitude is divided as a number that is not negative, and the signs are put back.
    have htdiv : bigint.value.tdiv (2 ^ 16) = -(-bigint.value / 2 ^ 16) := by
      rw [← Int.tdiv_eq_ediv_of_nonneg hneg, Int.neg_tdiv, neg_neg]
    rw [htdiv, Int.neg_tdiv, Int.neg_tmod, Int.tdiv_eq_ediv_of_nonneg hns,
      Int.tmod_eq_emod_of_nonneg hns]
    simp only [Option.bind_eq_bind, Option.bind_some, magnitudeToTimeChecked_eq internal hmsb',
      hvalue, checked_bind_eq_some_iff, Fits, nsPerSec]
    exact ⟨by omega, by omega, rfl⟩

/-- The conversion is right exactly for the numbers whose two's complement can be taken. -/
theorem converted_iff (bigint : Integer64) (internal : TimeInternal) :
    Converted bigint internal ↔ bigint.value ≠ -2 ^ 63 := by
  constructor
  · intro h hleast
    have hnone : integer64ToInternalTimeChecked bigint internal = none := by
      have hmsb : ¬0 ≤ bigint.msb.toInt := by
        have hlsb := bigint.lsb.toNat_lt
        unfold Integer64.value at hleast
        omega
      rw [integer64ToInternalTimeChecked, if_neg hmsb, negatedChecked_least hleast]
      rfl
    exact absurd (h.noOverflow.symm.trans hnone) (by simp)
  · intro hne
    have hchecked := integer64ToInternalTimeChecked_eq internal hne
    have heq := integer64ToInternalTime_of_checked hchecked
    generalize hns : bigint.value.tdiv (2 ^ 16) = ns at hchecked heq
    refine ⟨hchecked.trans (congrArg some heq.symm), ?_, ?_, fun hsign => ?_, fun hsign => ?_⟩
    · rw [heq, hns]
      exact Int.tdiv_mul_add_tmod ns nsPerSec
    · rw [heq]
      exact abs_lt.mpr ⟨Int.lt_tmod_of_pos ns (by decide), Int.tmod_lt_of_pos ns (by decide)⟩
    · have hns' : 0 ≤ ns := by
        rw [← hns]
        exact Int.tdiv_nonneg hsign (by decide)
      rw [heq]
      exact ⟨Int.tdiv_nonneg hns' (by decide), Int.tmod_nonneg _ hns'⟩
    · -- Below zero the signs are those of the magnitude, turned round.
      have hns' : 0 ≤ -ns := by
        rw [← hns, ← Int.neg_tdiv]
        exact Int.tdiv_nonneg (by omega) (by decide)
      have hseconds : 0 ≤ (-ns).tdiv nsPerSec := Int.tdiv_nonneg hns' (by decide)
      have hnanoseconds : 0 ≤ (-ns).tmod nsPerSec := Int.tmod_nonneg _ hns'
      rw [Int.neg_tdiv] at hseconds
      rw [Int.neg_tmod] at hnanoseconds
      rw [heq]
      exact ⟨neg_nonneg.mp hseconds, neg_nonneg.mp hnanoseconds⟩

/-- The least number, in its two halves. -/
def leastCorrection : Integer64 := ⟨0, -0x80000000⟩

/-- The conversion of the least number is not right: it comes out positive. -/
theorem not_converted_leastCorrection :
    ¬Converted leastCorrection ⟨0, 0, 0, 0⟩ ∧
      0 < (integer64ToInternalTime leastCorrection ⟨0, 0, 0, 0⟩).seconds := by
  refine ⟨fun h => ?_, by decide⟩
  have hexact := h.exact
  revert hexact
  decide

end Conversion

/-! ### The phase of a received request -/

/-- `phaseToCfUnits` with every operation checked. -/
def phaseToCfUnitsChecked (phase : ℤ) : Option ℤ := do
  let units ← checked 64 (phase * 65536)
  checked 32 (units.tdiv 1000)

/-- The phase that the servo takes from a correction, with every operation checked. -/
def phaseOfCorrectionChecked (cf : ℤ) : Option ℤ := do
  let picos ← checked 64 (cf * 1000)
  checked 32 (picos.tdiv 65536)

/-- What the servo of a slave has for the phase of its request when it is given the correction in a
buffer. -/
def phaseGot (slave : Node) (buf : Buffer) : ℤ :=
  let header := msgUnpackHeader buf
  (wrServoGotDelay slave (i32 header.correctionfield.lsb.toNat)).port.servo.t4.phase

/-- A phase is carried by the correction field in a buffer: no operation overflows on either side,
the field is the phase in its units, rounded down, and what the servo has is at most one picosecond
less. -/
structure PhaseCarried (phase : ℤ) (buf : Buffer) (phase' : ℤ) : Prop where
  encoded : phaseToCfUnitsChecked phase = some (phaseToCfUnits phase)
  onWire : buf.beInt 8 8 = phase * 65536 / 1000
  passed : i32 (msgUnpackHeader buf).correctionfield.lsb.toNat = phaseToCfUnits phase
  decoded : phaseOfCorrectionChecked (phaseToCfUnits phase) = some phase'
  ge : phase - 1 ≤ phase'
  le : phase' ≤ phase
  exact_iff : phase' = phase ↔ 125 ∣ phase

section Phase

/-- A phase below `32768000` picoseconds in units of the correction field. -/
lemma phaseToCfUnits_eq {phase : ℤ} (h : 0 ≤ phase) (hlt : phase < 32768000) :
    phaseToCfUnitsChecked phase = some (phase * 65536 / 1000) ∧
      phaseToCfUnits phase = phase * 65536 / 1000 := by
  have hunits : Fits 64 (phase * 65536) := ⟨by omega, by omega⟩
  have hdiv : (phase * 65536).tdiv 1000 = phase * 65536 / 1000 :=
    Int.tdiv_eq_ediv_of_nonneg (by omega)
  have hresult : Fits 32 (phase * 65536 / 1000) := ⟨by omega, by omega⟩
  constructor
  · rw [phaseToCfUnitsChecked, checked_of_fits hunits]
    exact (congrArg (checked 32) hdiv).trans (checked_of_fits hresult)
  · rw [phaseToCfUnits, i64, bmod_of_fits (by decide) hunits, hdiv, i32_of_fits hresult]

/-- The two conversions of a phase, one after the other: what is lost by the first one costs one
picosecond. -/
theorem phaseCarried {phase : ℤ} (h : 0 ≤ phase) (hlt : phase < 32768000) {buf : Buffer}
    (hcf : getCorrection buf = { msb := 0, lsb := UInt32.ofInt (phaseToCfUnits phase) })
    (slave : Node) : PhaseCarried phase buf (phaseGot slave buf) := by
  obtain ⟨hchecked, hunits⟩ := phaseToCfUnits_eq h hlt
  have hlsb : ((buf.getBe32 12).toNat : ℤ) = phase * 65536 / 1000 := by
    rw [show buf.getBe32 12 = _ from congrArg Integer64.lsb hcf, hunits, toNat_uInt32_ofInt]
    omega
  have hmsb : (buf.getBe32 8).toInt32 = 0 := congrArg Integer64.msb hcf
  have hpassed : i32 (msgUnpackHeader buf).correctionfield.lsb.toNat = phase * 65536 / 1000 := by
    rw [show (msgUnpackHeader buf).correctionfield.lsb = buf.getBe32 12 from rfl, hlsb]
    exact i32_of_fits ⟨by omega, by omega⟩
  generalize hcf' : phase * 65536 / 1000 = cf at *
  have hpicos : Fits 64 (cf * 1000) := ⟨by omega, by omega⟩
  have hdiv : (cf * 1000).tdiv 65536 = cf * 1000 / 65536 := Int.tdiv_eq_ediv_of_nonneg (by omega)
  have hresult : Fits 32 (cf * 1000 / 65536) := ⟨by omega, by omega⟩
  have hgot : phaseGot slave buf = cf * 1000 / 65536 := by
    rw [phaseGot, hpassed]
    exact (congrArg i32 hdiv).trans (i32_of_fits hresult)
  rw [hgot]
  exact {
    encoded := by rw [hchecked, hunits]
    onWire := by
      rw [Buffer.beInt_eight, hmsb, hlsb, hcf']
      simp
    passed := hpassed.trans hunits.symm
    decoded := by
      rw [hunits, phaseOfCorrectionChecked, checked_of_fits hpicos]
      exact (congrArg (checked 32) hdiv).trans (checked_of_fits hresult)
    ge := by omega
    le := by omega
    -- Nothing is lost when `65536 * phase` is a multiple of `1000 = 8 * 125`.
    exact_iff := by omega }

end Phase

section Answer

lemma getCorrection_load_octets {b b' : Buffer} {n : ℕ} (h : 16 ≤ n) :
    getCorrection (b'.load (b.octets n)) = getCorrection b := by
  rw [getCorrection, getCorrection, Buffer.getBe32_load_octets _ _ _ _ (by omega),
    Buffer.getBe32_load_octets _ _ _ _ (by omega)]

variable {rtOpts : RunTimeOpts} {n : Node}

lemma issueMsg_sent (buf : Buffer) (length : ℕ) (record : SendResult → PtpPortDS → PtpPortDS)
    (sent : PtpPortDS → PtpPortDS) :
    (issueMsg rtOpts buf length record sent n).netif.sent =
      n.netif.sent ++ [buf.octets length] := by
  unfold issueMsg toFaulty
  dsimp only
  split_ifs <;> first | rfl | exact leaveState_sent _ _

/-- The frame in which a master answers a request carries the phase at which it received it. -/
theorem receivePhase_survives {length : ℕ} (hmode : rtOpts.E2E_mode = true)
    (hlength : DELAY_REQ_LENGTH ≤ length) (hmaster : n.port.portState = .master)
    (h : 0 ≤ n.port.currentRxTs.phase) (hlt : n.port.currentRxTs.phase < 32768000) :
    ∃ frame, (handleDelayReq length rtOpts n).netif.sent = n.netif.sent ++ [frame] ∧
      ∀ (buf : Buffer) (slave : Node),
        PhaseCarried n.port.currentRxTs.phase (buf.load frame)
          (phaseGot slave (buf.load frame)) := by
  rw [handleDelayReq, hmode, if_neg (by decide), if_neg (not_lt.mpr hlength), hmaster]
  dsimp only
  set header : MsgHeader := { msgUnpackHeader n.port.msgIbuf with
    correctionfield :=
      { msb := 0, lsb := UInt32.ofInt (phaseToCfUnits n.port.currentRxTs.phase) } } with hheader
  refine ⟨_, issueMsg_sent _ _ _ _, fun buf slave => phaseCarried h hlt ?_ slave⟩
  -- The packer writes the correction of the header it is given into the frame.
  have hpacks := PtpMessage.pack_packs default { n.port with delayReqHeader := header }
    n.port.msgObuf (.delayResp header)
  rw [getCorrection_load_octets (by decide)]
  exact hpacks.correctionfield

/-- A master that received a request 4001 picoseconds into a nanosecond count. -/
def phasedMaster : Node :=
  let n := Daemon.singleNode ![2, 0, 0, 0, 0, 1] .wrMaster
  { n with port := { n.port with
      portState := .master
      currentRxTs := { sec := 5, nsec := 16, phase := 4001, correct := 1 } } }

/-- The phase of that request reaches the slave. -/
theorem phasedMaster_survives :
    ∃ frame, (handleDelayReq DELAY_REQ_LENGTH (defaultRtOpts 1) phasedMaster).netif.sent =
        phasedMaster.netif.sent ++ [frame] ∧
      ∀ (buf : Buffer) (slave : Node),
        PhaseCarried phasedMaster.port.currentRxTs.phase (buf.load frame)
          (phaseGot slave (buf.load frame)) :=
  receivePhase_survives rfl le_rfl rfl (by decide) (by decide)

end Answer

end WhiteRabbitPtp
