import WhiteRabbitPtp.Model.Netif
import WhiteRabbitPtp.Correctness.WireFormat
import Mathlib.Data.Int.ModEq
import Mathlib.Tactic.Ring

/-!
# Linearised receive timestamps

The rising edge counter of the timestamping unit is unreliable near the phase at which it changes.
There the daemon takes the falling edge counter, corrects it by at most one tick, and measures the
phase from the transition.

## Main definitions

* `inWindow`, `beforeTransition`: where a phase lies relative to the transition.
* `tickCorrection`: the nanoseconds the linearisation adds.
* `CarriesInstant`: a timestamp that stands for an instant, and a response that carries it.

## Main results

* `linearize_exact`: the linearised timestamp has no jump.
* `recvTimestamp_carriesInstant_iff`: when the timestamp of a received frame is what a peer reads.
-/

namespace WhiteRabbitPtp

open Octets Wire

/-! ### Circular ranges -/

/-- The phase of a received frame, counted from the other end of the clock period. -/
def rxPhase (clockPeriod dmtdPhase : ℤ) : ℤ := clockPeriod - 1 - dmtdPhase

/-- The lower end of the window around the transition. -/
def tripLo (clockPeriod transitionPoint : ℤ) : ℤ :=
  if transitionPoint - clockPeriod.tdiv 4 < 0 then
    transitionPoint - clockPeriod.tdiv 4 + clockPeriod
  else transitionPoint - clockPeriod.tdiv 4

/-- The upper end of the window around the transition. -/
def tripHi (clockPeriod transitionPoint : ℤ) : ℤ :=
  if clockPeriod ≤ transitionPoint + clockPeriod.tdiv 4 then
    transitionPoint + clockPeriod.tdiv 4 - clockPeriod
  else transitionPoint + clockPeriod.tdiv 4

/-- The phase is within a quarter of a period of the transition. -/
def inWindow (clockPeriod transitionPoint phase : ℤ) : Bool :=
  insideRange (tripLo clockPeriod transitionPoint) (tripHi clockPeriod transitionPoint) phase

/-- The phase is in the part of the window before the transition. -/
def beforeTransition (clockPeriod transitionPoint phase : ℤ) : Bool :=
  insideRange (tripLo clockPeriod transitionPoint) transitionPoint phase

/-- The nanoseconds the linearisation adds. -/
def tickCorrection (clockPeriod transitionPoint phase : ℤ) (cntrAhead : Bool) : ℤ :=
  if inWindow clockPeriod transitionPoint phase then
    (if beforeTransition clockPeriod transitionPoint phase then clockPeriod.tdiv 1000 else 0) -
      (if cntrAhead then clockPeriod.tdiv 1000 else 0)
  else 0

/-- The linearisation adds the correction to the nanoseconds and leaves the seconds alone. -/
lemma linearizeRxTimestamp_eq (ts : WrTimestamp) (dmtdPhase : ℤ) (cntrAhead : Bool)
    (transitionPoint clockPeriod : ℤ) :
    linearizeRxTimestamp ts dmtdPhase cntrAhead transitionPoint clockPeriod =
      { ts with
        nsec := ts.nsec +
          tickCorrection clockPeriod transitionPoint (rxPhase clockPeriod dmtdPhase) cntrAhead
        phase :=
          if rxPhase clockPeriod dmtdPhase ≤ transitionPoint then
            transitionPoint - rxPhase clockPeriod dmtdPhase
          else transitionPoint - rxPhase clockPeriod dmtdPhase + clockPeriod } := by
  have hphase : ∀ p : ℤ, clockPeriod - 1 - (if p - transitionPoint - 1 < 0 then
      p - transitionPoint - 1 + clockPeriod else p - transitionPoint - 1) =
        if p ≤ transitionPoint then transitionPoint - p else transitionPoint - p + clockPeriod := by
    intro p
    split_ifs <;> omega
  simp only [linearizeRxTimestamp, tickCorrection, inWindow, beforeTransition, tripLo, tripHi,
    rxPhase, hphase]
  split_ifs <;> simp only [WrTimestamp.mk.injEq, true_and, and_true] <;> omega

/-! ### The linearised timestamp -/

/-- A phase in the window is at most a quarter of a period before the transition, and then one tick
is added, or at most a quarter of a period behind it. -/
lemma window_of_distance {clockPeriod transitionPoint p s : ℤ} (hP : 4 ≤ clockPeriod)
    (ht : 0 ≤ transitionPoint ∧ transitionPoint < clockPeriod) (hp : 0 ≤ p ∧ p < clockPeriod)
    (hs : s = transitionPoint - p ∨ s = transitionPoint - p + clockPeriod ∨
      s = transitionPoint - p - clockPeriod)
    (hlo : -(clockPeriod / 4) ≤ s) (hhi : s ≤ clockPeriod / 4) :
    inWindow clockPeriod transitionPoint p = true ∧
      beforeTransition clockPeriod transitionPoint p = decide (0 ≤ s) := by
  have hquarter : clockPeriod.tdiv 4 = clockPeriod / 4 := Int.tdiv_eq_ediv_of_nonneg (by omega)
  simp only [inWindow, beforeTransition, tripLo, tripHi, insideRange, hquarter]
  generalize hq : clockPeriod / 4 = q at *
  have hq₁ : 1 ≤ q := by omega
  have hq₂ : 4 * q ≤ clockPeriod := by omega
  -- From here on the quarter period is a variable with its two bounds.
  clear hq hquarter
  constructor
  · split_ifs <;> simp only [decide_eq_true_eq] <;> omega
  · rw [Bool.eq_iff_iff]
    split_ifs <;> simp only [decide_eq_true_eq] <;> omega

lemma emod_of_lt_abs {x P : ℤ} (h : -P ≤ x) (h' : x < P) :
    x % P = if 0 ≤ x then x else x + P := by
  split_ifs with hx
  · exact Int.emod_eq_of_lt hx h'
  · rw [← Int.add_emod_right, Int.emod_eq_of_lt (by omega) (by omega)]

/-- The linearised phase is the circular distance to the transition, and within a quarter of a
period of the transition the whole timestamp is the falling edge count, one period and that
distance: it has no jump where the counters change nor where the phase wraps. -/
theorem linearize_exact (ts : WrTimestamp) (dmtdPhase : ℤ) (cntrAhead : Bool)
    (transitionPoint clockPeriod : ℤ) (hP : 4 ≤ clockPeriod) (hdvd : 1000 ∣ clockPeriod)
    (ht : 0 ≤ transitionPoint ∧ transitionPoint < clockPeriod)
    (hd : 0 ≤ dmtdPhase ∧ dmtdPhase < clockPeriod) :
    let ts' := linearizeRxTimestamp ts dmtdPhase cntrAhead transitionPoint clockPeriod
    ts'.phase = (transitionPoint - rxPhase clockPeriod dmtdPhase) % clockPeriod ∧
      0 ≤ ts'.phase ∧ ts'.phase < clockPeriod ∧
      ∀ s, s ≡ transitionPoint - rxPhase clockPeriod dmtdPhase [ZMOD clockPeriod] →
        -(clockPeriod / 4) ≤ s → s ≤ clockPeriod / 4 →
          1000 * ts'.nsec + ts'.phase =
            1000 * (ts.nsec - if cntrAhead then clockPeriod / 1000 else 0) + clockPeriod + s := by
  intro ts'
  have hts' : ts' = _ := linearizeRxTimestamp_eq ts dmtdPhase cntrAhead transitionPoint clockPeriod
  have hp : 0 ≤ rxPhase clockPeriod dmtdPhase ∧ rxPhase clockPeriod dmtdPhase < clockPeriod := by
    simp only [rxPhase]
    omega
  generalize rxPhase clockPeriod dmtdPhase = p at *
  have hmod := emod_of_lt_abs (x := transitionPoint - p) (P := clockPeriod) (by omega) (by omega)
  -- The phase is the distance from the transition point, modulo the period.
  have hphase : ts'.phase = (transitionPoint - p) % clockPeriod := by
    rw [hts', hmod]
    dsimp only
    split_ifs <;> omega
  have hrange : 0 ≤ ts'.phase ∧ ts'.phase < clockPeriod := by
    rw [hphase, hmod]
    split_ifs <;> omega
  refine ⟨hphase, hrange.1, hrange.2, fun s hs hlo hhi => ?_⟩
  have hsmod := emod_of_lt_abs (x := s) (P := clockPeriod) (by omega) (by omega)
  rw [Int.ModEq, hsmod, hmod] at hs
  obtain ⟨hwindow, hbefore⟩ := window_of_distance hP ht hp (s := s)
    (by split_ifs at hs <;> omega) hlo hhi
  have htick : clockPeriod.tdiv 1000 = clockPeriod / 1000 :=
    Int.tdiv_eq_ediv_of_nonneg (by omega)
  -- A tick is added where the counter was read before the transition.
  have hnsec : ts'.nsec = ts.nsec + ((if 0 ≤ s then clockPeriod / 1000 else 0) -
      if cntrAhead then clockPeriod / 1000 else 0) := by
    rw [hts']
    simp only [tickCorrection, hwindow, hbefore, decide_eq_true_eq, if_true, htick]
  have hperiod : 1000 * (clockPeriod / 1000) = clockPeriod := Int.mul_ediv_cancel' hdvd
  rw [hnsec, hphase, hmod]
  split_ifs at hs ⊢ <;> omega

/-- At the transition of the counter. -/
theorem linearize_exact_transition :
    1000 * (linearizeRxTimestamp ⟨7, 96, 0, 0⟩ 3999 false 4000 8000).nsec +
        (linearizeRxTimestamp ⟨7, 96, 0, 0⟩ 3999 false 4000 8000).phase =
      1000 * 96 + 8000 + 0 :=
  (linearize_exact ⟨7, 96, 0, 0⟩ 3999 false 4000 8000 (by decide) (by decide) (by decide)
    (by decide)).2.2.2 0 (by decide) (by decide) (by decide)

/-! ### Canonical timestamps -/

/-- A timestamp stands for an instant with its nanoseconds below a second, and a response built from
it carries that instant to any decoder that reads the nanoseconds as an unsigned number. -/
structure CarriesInstant (instant : ℤ) (ts : WrTimestamp) : Prop where
  nsec_nonneg : 0 ≤ ts.nsec
  nsec_lt : ts.nsec < nsPerSec
  value_eq : ts.sec * nsPerSec + ts.nsec = instant
  delayResp : ∀ (buf : Buffer) (header : MsgHeader) (port : PtpPortDS), port.currentRxTs = ts →
    ((readTime (msgPackDelayResp buf header port) 34).seconds * nsPerSec +
      (readTime (msgPackDelayResp buf header port) 34).nanoseconds : ℤ) = instant

/-- The correction of a timestamp stays within its second. -/
def StaysInSecond (nsec clockPeriod transitionPoint phase : ℤ) (cntrAhead : Bool) : Prop :=
  inWindow clockPeriod transitionPoint phase = true →
    (cntrAhead = true → beforeTransition clockPeriod transitionPoint phase = false →
      clockPeriod.tdiv 1000 ≤ nsec) ∧
    (cntrAhead = false → beforeTransition clockPeriod transitionPoint phase = true →
      nsec + clockPeriod.tdiv 1000 < nsPerSec)

lemma staysInSecond_iff {nsec clockPeriod transitionPoint phase : ℤ} {cntrAhead : Bool}
    (hP : 0 ≤ clockPeriod) (hn : 0 ≤ nsec) (hn' : nsec < nsPerSec) :
    StaysInSecond nsec clockPeriod transitionPoint phase cntrAhead ↔
      0 ≤ nsec + tickCorrection clockPeriod transitionPoint phase cntrAhead ∧
        nsec + tickCorrection clockPeriod transitionPoint phase cntrAhead < nsPerSec := by
  have htick : 0 ≤ clockPeriod.tdiv 1000 := by
    rw [Int.tdiv_eq_ediv_of_nonneg hP]
    omega
  simp only [StaysInSecond, tickCorrection]
  cases inWindow clockPeriod transitionPoint phase <;>
    cases beforeTransition clockPeriod transitionPoint phase <;> cases cntrAhead <;>
    simp <;> omega

/-- Where the seconds fit into a message, a canonical timestamp is what a peer reads. -/
lemma carriesInstant_iff_canonical {instant : ℤ} {ts : WrTimestamp} (hs : 0 ≤ ts.sec)
    (hs' : ts.sec < 2 ^ 48) :
    CarriesInstant instant ts ↔
      0 ≤ ts.nsec ∧ ts.nsec < nsPerSec ∧ ts.sec * nsPerSec + ts.nsec = instant := by
  constructor
  · rintro ⟨hnonneg, hlt, hvalue, -⟩
    exact ⟨hnonneg, hlt, hvalue⟩
  · rintro ⟨hnonneg, hlt, hvalue⟩
    refine ⟨hnonneg, hlt, hvalue, fun buf header port hport => ?_⟩
    have hread : readTime (msgPackDelayResp buf header port) 34 = port.currentRxTs.value :=
      readTime_response _ _ _
    rw [hread, hport]
    -- seconds and nanoseconds both fit their fields
    simp only [WrTimestamp.value, nsPerSec] at hlt hvalue ⊢
    omega

/-- The rising edge counter was ahead: bit 31 of the seconds the hardware reports. -/
def cntrAhead (tvSec : ℤ) : Bool := tvSec / 2 ^ 31 % 2 = 1

/-- The instant a received frame is timestamped with: the hardware's, corrected by a tick. -/
def rxInstant (tvSec tvNsec dmtdPhase phaseTransition clockPeriod : ℤ) : ℤ :=
  tvSec % 2 ^ 31 * nsPerSec + tvNsec +
    tickCorrection clockPeriod phaseTransition (rxPhase clockPeriod dmtdPhase) (cntrAhead tvSec)

/-- The timestamp of a received frame is canonical, and what a peer reads, exactly when its
correction by a tick stays within its second: nothing is ever carried into the seconds. -/
theorem recvTimestamp_carriesInstant_iff (former : WrTimestamp)
    (tvSec tvNsec dmtdPhase phaseTransition clockPeriod : ℤ) (hP : 0 ≤ clockPeriod)
    (hn : 0 ≤ tvNsec) (hn' : tvNsec < nsPerSec) :
    CarriesInstant (rxInstant tvSec tvNsec dmtdPhase phaseTransition clockPeriod)
        (recvTimestamp former tvSec tvNsec true dmtdPhase phaseTransition clockPeriod) ↔
      StaysInSecond tvNsec clockPeriod phaseTransition (rxPhase clockPeriod dmtdPhase)
        (cntrAhead tvSec) := by
  -- The socket layer marks the timestamp as correct once it is linearized.
  have hts : recvTimestamp former tvSec tvNsec true dmtdPhase phaseTransition clockPeriod =
      { linearizeRxTimestamp { former with correct := 0, nsec := tvNsec, sec := tvSec % 2 ^ 31 }
          dmtdPhase (cntrAhead tvSec) phaseTransition clockPeriod with correct := 1 } := rfl
  rw [linearizeRxTimestamp_eq] at hts
  have hsec : (recvTimestamp former tvSec tvNsec true dmtdPhase phaseTransition clockPeriod).sec =
      tvSec % 2 ^ 31 := by rw [hts]
  rw [staysInSecond_iff hP hn hn', carriesInstant_iff_canonical (by rw [hsec]; omega)
    (by rw [hsec]; omega), hts]
  simp only [rxInstant, add_assoc, and_true]

/-- A frame received one tick behind the first edge of a second. -/
theorem recvTimestamp_fails_early :
    ¬CarriesInstant (rxInstant (2 ^ 31 + 100) 0 3000 4000 8000)
      (recvTimestamp ⟨0, 0, 0, 0⟩ (2 ^ 31 + 100) 0 true 3000 4000 8000) := by
  rw [recvTimestamp_carriesInstant_iff _ _ _ _ _ _ (by decide) (by decide) (by decide)]
  intro h
  exact absurd ((h (by decide)).1 (by decide) (by decide)) (by decide)

/-- Not every timestamp of a received frame is canonical. -/
theorem not_forall_carriesInstant :
    ¬∀ (former : WrTimestamp) (tvSec tvNsec dmtdPhase phaseTransition clockPeriod : ℤ),
      0 ≤ clockPeriod → 0 ≤ tvNsec → tvNsec < nsPerSec →
      CarriesInstant (rxInstant tvSec tvNsec dmtdPhase phaseTransition clockPeriod)
        (recvTimestamp former tvSec tvNsec true dmtdPhase phaseTransition clockPeriod) := by
  intro h
  have hnsec := (h ⟨0, 0, 0, 0⟩ (2 ^ 31 + 100) 0 3000 4000 8000 (by decide) (by decide)
    (by decide)).nsec_nonneg
  revert hnsec
  decide

end WhiteRabbitPtp
