import WhiteRabbitPtp.Lib.CheckedInt
import WhiteRabbitPtp.Lib.WhileLoop
import WhiteRabbitPtp.Correctness.ServoArith
import WhiteRabbitPtp.Correctness.CorrectionField

/-!
# Totals of servo timestamps

The servo adds, subtracts and splits timestamps whose fields need not be normalised: they may have
any sign, and a linearised receive timestamp has a phase of several nanoseconds. Each operation
moves carries between the fields by hand. Here each is written a second time with a check at every
operation, and where nothing overflows the picoseconds that a timestamp stands for are kept.

## Main definitions

* `tsAddChecked`, `tsSubChecked`, `tsHardwarizeChecked`: the operations with every result checked.
* `picosChecked`: the same for the picoseconds of a timestamp.
* `carryBody`, `borrowBody`: the bodies of the loops on machine words.

## Main results

* `servoArithmetic_exact`: the operations are exact, and their loops are left.
-/

namespace WhiteRabbitPtp

open CheckedInt WhileLoop

/-! ### The loops -/

/-- `lo -= step; hi++`, where `hi` is a word of `w` bits. -/
def carryBody (w : ℕ) (step : ℤ) (s : ℤ × ℤ) : ℤ × ℤ := (i32 (s.1 - step), (s.2 + 1).bmod (2 ^ w))

/-- `lo += step; hi--`, where `hi` is a word of `w` bits. -/
def borrowBody (w : ℕ) (step : ℤ) (s : ℤ × ℤ) : ℤ × ℤ := (i32 (s.1 + step), (s.2 - 1).bmod (2 ^ w))

/-- `carryOver` with every operation checked. -/
def carryOverChecked (w : ℕ) (step lo hi : ℤ) : Option (ℤ × ℤ) :=
  if _h : 0 < step ∧ step ≤ lo then
    (checked 32 (lo - step)).bind fun _ => (checked w (hi + 1)).bind fun hi =>
      carryOverChecked w step (lo - step) hi
  else some (hi, lo)
termination_by lo.toNat
decreasing_by omega

/-- `borrow` with every operation checked. -/
def borrowChecked (w : ℕ) (step lo hi : ℤ) : Option (ℤ × ℤ) :=
  if _h : 0 < step ∧ lo < 0 then
    (checked 32 (lo + step)).bind fun _ => (checked w (hi - 1)).bind fun hi =>
      borrowChecked w step (lo + step) hi
  else some (hi, lo)
termination_by (-lo).toNat
decreasing_by omega

section Loops

variable {w : ℕ} {step lo hi : ℤ} {r : ℤ × ℤ}

/-- The carry loop on words is left, wherever it is entered. -/
theorem carryBody_runs (hstep : 0 < step) (hlo : Fits 32 lo) (hi : ℤ) :
    ∃ s', Runs (fun s : ℤ × ℤ => step ≤ s.1) (carryBody w step) (lo, hi) s' := by
  refine exists_runs (I := fun s : ℤ × ℤ => Fits 32 s.1) (fun s => s.1.toNat)
    (fun s hs htest => ?_) hlo
  -- What is at least `step` stays in range when `step` is taken away.
  have hfits : Fits 32 (s.1 - step) := ⟨by omega, by have := hs.2; omega⟩
  have hnext : (carryBody w step s).1 = s.1 - step := i32_of_fits hfits
  rw [hnext]
  exact ⟨hfits, by omega⟩

/-- The borrow loop on words is left, wherever it is entered. -/
theorem borrowBody_runs (hstep : 0 < step) (hfit : Fits 32 step) (hlo : Fits 32 lo) (hi : ℤ) :
    ∃ s', Runs (fun s : ℤ × ℤ => s.1 < 0) (borrowBody w step) (lo, hi) s' := by
  refine exists_runs (I := fun s : ℤ × ℤ => Fits 32 s.1) (fun s => (-s.1).toNat)
    (fun s hs htest => ?_) hlo
  have hfits : Fits 32 (s.1 + step) := ⟨by have := hs.1; omega, by have := hfit.2; omega⟩
  have hnext : (borrowBody w step s).1 = s.1 + step := i32_of_fits hfits
  rw [hnext]
  exact ⟨hfits, by omega⟩

/-- Where nothing overflows the loop on words does what `carryOver` says. -/
theorem carryOver_of_checked (hw : 0 < w) (hstep : 0 < step)
    (h : carryOverChecked w step lo hi = some r) : carryOver step lo hi = r ∧
      Runs (fun s : ℤ × ℤ => step ≤ s.1) (carryBody w step) (lo, hi) (r.2, r.1) := by
  fun_induction carryOver step lo hi with
  | case1 lo hi hcarry ih =>
    rw [carryOverChecked, dif_pos hcarry, checked_bind_eq_some_iff, checked_bind_eq_some_iff] at h
    obtain ⟨hlo, hhi, h⟩ := h
    obtain ⟨heq, hruns⟩ := ih h
    refine ⟨heq, .again hcarry.2 ?_⟩
    have hbody : carryBody w step (lo, hi) = (lo - step, hi + 1) := by
      rw [carryBody, i32_of_fits hlo, bmod_of_fits hw hhi]
    rwa [hbody]
  | case2 lo hi hdone =>
    rw [carryOverChecked, dif_neg hdone] at h
    cases h
    exact ⟨rfl, .done fun htest => hdone ⟨hstep, htest⟩⟩

/-- Where nothing overflows the loop on words does what `borrow` says. -/
theorem borrow_of_checked (hw : 0 < w) (hstep : 0 < step)
    (h : borrowChecked w step lo hi = some r) : borrow step lo hi = r ∧
      Runs (fun s : ℤ × ℤ => s.1 < 0) (borrowBody w step) (lo, hi) (r.2, r.1) := by
  fun_induction borrow step lo hi with
  | case1 lo hi hborrow ih =>
    rw [borrowChecked, dif_pos hborrow, checked_bind_eq_some_iff, checked_bind_eq_some_iff] at h
    obtain ⟨hlo, hhi, h⟩ := h
    obtain ⟨heq, hruns⟩ := ih h
    refine ⟨heq, .again hborrow.2 ?_⟩
    have hbody : borrowBody w step (lo, hi) = (lo + step, hi - 1) := by
      rw [borrowBody, i32_of_fits hlo, bmod_of_fits hw hhi]
    rwa [hbody]
  | case2 lo hi hdone =>
    rw [borrowChecked, dif_neg hdone] at h
    cases h
    exact ⟨rfl, .done fun htest => hdone ⟨hstep, htest⟩⟩

/-- A carry moves whole steps. -/
theorem carryOver_total (step lo hi : ℤ) :
    (carryOver step lo hi).1 * step + (carryOver step lo hi).2 = hi * step + lo := by
  fun_induction carryOver step lo hi with
  | case1 lo hi hcarry ih =>
    rw [ih]
    ring
  | case2 => rfl

/-- A borrow moves whole steps. -/
theorem borrow_total (step lo hi : ℤ) :
    (borrow step lo hi).1 * step + (borrow step lo hi).2 = hi * step + lo := by
  fun_induction borrow step lo hi with
  | case1 lo hi hborrow ih =>
    rw [ih]
    ring
  | case2 => rfl

end Loops

/-! ### The checked operations -/

/-- `tsToPicos` with every operation checked. -/
def picosChecked (ts : WrTimestamp) : Option ℤ := do
  let seconds ← checked 64 (ts.sec * 1000000000000)
  let nanoseconds ← checked 64 (ts.nsec * 1000)
  let picos ← checked 64 (seconds + nanoseconds)
  checked 64 (picos + ts.phase)

/-- `tsAdd` with every operation checked. -/
def tsAddChecked (a b : WrTimestamp) : Option WrTimestamp := do
  let phase ← checked 32 (a.phase + b.phase)
  let (nsec, phase) ← carryOverChecked 32 1000 phase 0
  let sum ← checked 32 (a.nsec + b.nsec)
  let nsec ← checked 32 (nsec + sum)
  let (sec, nsec) ← carryOverChecked 64 1000000000 nsec 0
  let sum ← checked 64 (a.sec + b.sec)
  let sec ← checked 64 (sec + sum)
  return { sec, nsec, phase, correct := 0 }

/-- `tsSub` with every operation checked. -/
def tsSubChecked (a b : WrTimestamp) : Option WrTimestamp := do
  let phase ← checked 32 (a.phase - b.phase)
  let (nsec, phase) ← borrowChecked 32 1000 phase 0
  let difference ← checked 32 (a.nsec - b.nsec)
  let nsec ← checked 32 (nsec + difference)
  let (sec, nsec) ← borrowChecked 64 1000000000 nsec 0
  let difference ← checked 64 (a.sec - b.sec)
  let sec ← checked 64 (sec + difference)
  return { sec, nsec, phase, correct := 0 }

/-- `moveExtra` with every operation checked. -/
def moveExtraChecked (q : ℤ) (ts : WrTimestamp) : Option WrTimestamp :=
  if 0 < ts.nsec then
    if ts.nsec.tmod q ≠ 0 then do
      let nsec ← checked 32 (ts.nsec - ts.nsec.tmod q)
      let extra ← checked 32 (ts.nsec.tmod q * 1000)
      let phase ← checked 32 (ts.phase + extra)
      return { ts with nsec, phase }
    else some ts
  else some ts

/-- `borrowSecond` with every operation checked. -/
def borrowSecondChecked (ts : WrTimestamp) : Option WrTimestamp :=
  if ts.nsec < 0 then do
    let nsec ← checked 32 (ts.nsec + 1000000000)
    let sec ← checked 64 (ts.sec - 1)
    return { ts with nsec, sec }
  else some ts

/-- `returnSecond` with every operation checked. -/
def returnSecondChecked (ts : WrTimestamp) : Option WrTimestamp :=
  if ts.sec = -1 ∧ 0 < ts.nsec then do
    let sec ← checked 64 (ts.sec + 1)
    let nsec ← checked 32 (ts.nsec - 1000000000)
    return { ts with sec, nsec }
  else some ts

/-- `moveTick` with every operation checked. -/
def moveTickChecked (q : ℤ) (ts : WrTimestamp) : Option WrTimestamp :=
  if ts.nsec < 0 ∧ -q ≤ ts.nsec ∧ ts.sec = 0 then do
    let nsec ← checked 32 (ts.nsec + q)
    let tick ← checked 32 (q * 1000)
    let phase ← checked 32 (ts.phase - tick)
    return { ts with nsec, phase }
  else some ts

/-- `tsHardwarize` with every operation checked. -/
def tsHardwarizeChecked (ts : WrTimestamp) (clockPeriodPs : ℤ) : Option WrTimestamp := do
  let sum ← checked 32 (clockPeriodPs + 999)
  let ts ← moveExtraChecked (sum.tdiv 1000) ts
  let ts ← borrowSecondChecked ts
  let ts ← returnSecondChecked ts
  moveTickChecked (sum.tdiv 1000) ts

/-! ### What the checked operations compute -/

section Checked

variable {a b c ts ts' : WrTimestamp} {x q clockPeriodPs : ℤ}

lemma i64_of_fits {x : ℤ} (h : Fits 64 x) : i64 x = x := bmod_of_fits (by decide) h

/-- The picoseconds of a timestamp, where they fit. -/
theorem tsToPicos_of_checked (h : picosChecked ts = some x) : tsToPicos ts = x ∧ ts.picos = x := by
  unfold picosChecked at h
  simp only [Option.bind_eq_bind, checked_bind_eq_some_iff] at h
  obtain ⟨-, -, -, h⟩ := h
  unfold checked at h
  split at h
  next hfits =>
    cases h
    exact ⟨i64_of_fits hfits, rfl⟩
  next => cases h

/-- A sum in which nothing overflows has the total of its terms. -/
theorem tsAdd_of_checked (h : tsAddChecked a b = some c) :
    tsAdd a b = c ∧ c.picos = a.picos + b.picos := by
  unfold tsAddChecked at h
  rw [Option.bind_eq_bind, checked_bind_eq_some_iff] at h
  obtain ⟨hphase, h⟩ := h
  obtain ⟨r, hcarry, h⟩ := Option.bind_eq_some_iff.mp h
  simp only [Option.bind_eq_bind, checked_bind_eq_some_iff] at h
  obtain ⟨-, hnsec, h⟩ := h
  obtain ⟨r', hcarry', h⟩ := Option.bind_eq_some_iff.mp h
  simp only [checked_bind_eq_some_iff] at h
  obtain ⟨-, hsec, h⟩ := h
  obtain ⟨hr, -⟩ := carryOver_of_checked (by decide) (by decide) hcarry
  obtain ⟨hr', -⟩ := carryOver_of_checked (by decide) (by decide) hcarry'
  have htotal := carryOver_total 1000 (a.phase + b.phase) 0
  have htotal' := carryOver_total 1000000000 (r.1 + (a.nsec + b.nsec)) 0
  cases Option.some.inj h
  unfold tsAdd
  rw [i32_of_fits hphase, hr]
  dsimp only
  rw [i32_of_fits hnsec, hr', i64_of_fits hsec]
  rw [hr] at htotal
  rw [hr'] at htotal'
  refine ⟨rfl, ?_⟩
  simp only [WrTimestamp.picos]
  omega

/-- A difference in which nothing overflows has the difference of the totals. -/
theorem tsSub_of_checked (h : tsSubChecked a b = some c) :
    tsSub a b = c ∧ c.picos = a.picos - b.picos := by
  unfold tsSubChecked at h
  rw [Option.bind_eq_bind, checked_bind_eq_some_iff] at h
  obtain ⟨hphase, h⟩ := h
  obtain ⟨r, hborrow, h⟩ := Option.bind_eq_some_iff.mp h
  simp only [Option.bind_eq_bind, checked_bind_eq_some_iff] at h
  obtain ⟨-, hnsec, h⟩ := h
  obtain ⟨r', hborrow', h⟩ := Option.bind_eq_some_iff.mp h
  simp only [checked_bind_eq_some_iff] at h
  obtain ⟨-, hsec, h⟩ := h
  obtain ⟨hr, -⟩ := borrow_of_checked (by decide) (by decide) hborrow
  obtain ⟨hr', -⟩ := borrow_of_checked (by decide) (by decide) hborrow'
  have htotal := borrow_total 1000 (a.phase - b.phase) 0
  have htotal' := borrow_total 1000000000 (r.1 + (a.nsec - b.nsec)) 0
  cases Option.some.inj h
  unfold tsSub
  rw [i32_of_fits hphase, hr]
  dsimp only
  rw [i32_of_fits hnsec, hr', i64_of_fits hsec]
  rw [hr] at htotal
  rw [hr'] at htotal'
  refine ⟨rfl, ?_⟩
  simp only [WrTimestamp.picos]
  omega

/-- What is taken from the nanoseconds goes to the phase. -/
theorem moveExtra_of_checked (h : moveExtraChecked q ts = some ts') :
    moveExtra q ts = ts' ∧ ts'.picos = ts.picos := by
  unfold moveExtraChecked at h
  unfold moveExtra
  split_ifs at h ⊢
  · simp only [Option.bind_eq_bind, checked_bind_eq_some_iff] at h
    obtain ⟨hnsec, -, hphase, h⟩ := h
    cases Option.some.inj h
    rw [i32_of_fits hnsec, i32_of_fits hphase]
    refine ⟨rfl, ?_⟩
    simp only [WrTimestamp.picos]
    ring
  all_goals exact ⟨Option.some.inj h, by rw [Option.some.inj h]⟩

/-- A second is a thousand million nanoseconds. -/
theorem borrowSecond_of_checked (h : borrowSecondChecked ts = some ts') :
    borrowSecond ts = ts' ∧ ts'.picos = ts.picos := by
  unfold borrowSecondChecked at h
  unfold borrowSecond
  split_ifs at h ⊢
  · simp only [Option.bind_eq_bind, checked_bind_eq_some_iff] at h
    obtain ⟨hnsec, hsec, h⟩ := h
    cases Option.some.inj h
    rw [i32_of_fits hnsec, i64_of_fits hsec]
    refine ⟨rfl, ?_⟩
    simp only [WrTimestamp.picos]
    ring
  · exact ⟨Option.some.inj h, by rw [Option.some.inj h]⟩

theorem returnSecond_of_checked (h : returnSecondChecked ts = some ts') :
    returnSecond ts = ts' ∧ ts'.picos = ts.picos := by
  unfold returnSecondChecked at h
  unfold returnSecond
  split_ifs at h ⊢
  · simp only [Option.bind_eq_bind, checked_bind_eq_some_iff] at h
    obtain ⟨-, hnsec, h⟩ := h
    cases Option.some.inj h
    rw [i32_of_fits hnsec]
    refine ⟨rfl, ?_⟩
    simp only [WrTimestamp.picos]
    ring
  · exact ⟨Option.some.inj h, by rw [Option.some.inj h]⟩

theorem moveTick_of_checked (h : moveTickChecked q ts = some ts') :
    moveTick q ts = ts' ∧ ts'.picos = ts.picos := by
  unfold moveTickChecked at h
  unfold moveTick
  split_ifs at h ⊢
  · simp only [Option.bind_eq_bind, checked_bind_eq_some_iff] at h
    obtain ⟨hnsec, -, hphase, h⟩ := h
    cases Option.some.inj h
    rw [i32_of_fits hnsec, i32_of_fits hphase]
    refine ⟨rfl, ?_⟩
    simp only [WrTimestamp.picos]
    ring
  · exact ⟨Option.some.inj h, by rw [Option.some.inj h]⟩

/-- A timestamp that is split into ticks keeps its total. -/
theorem tsHardwarize_of_checked (h : tsHardwarizeChecked ts clockPeriodPs = some c) :
    tsHardwarize ts clockPeriodPs = c ∧ c.picos = ts.picos := by
  unfold tsHardwarizeChecked at h
  rw [Option.bind_eq_bind, checked_bind_eq_some_iff] at h
  obtain ⟨hsum, h⟩ := h
  obtain ⟨ts₁, hextra, h⟩ := Option.bind_eq_some_iff.mp h
  obtain ⟨ts₂, hborrow, h⟩ := Option.bind_eq_some_iff.mp h
  obtain ⟨ts₃, hreturn, htick⟩ := Option.bind_eq_some_iff.mp h
  obtain ⟨hextra, htotal₁⟩ := moveExtra_of_checked hextra
  obtain ⟨hborrow, htotal₂⟩ := borrowSecond_of_checked hborrow
  obtain ⟨hreturn, htotal₃⟩ := returnSecond_of_checked hreturn
  obtain ⟨htick, htotal⟩ := moveTick_of_checked htick
  rw [tsHardwarize_eq, qThreshold, i32_of_fits hsum, hextra, hborrow, hreturn]
  exact ⟨htick, by rw [htotal, htotal₃, htotal₂, htotal₁]⟩

end Checked

/-! ### Numbers of picoseconds -/

/-- Truncated division by a positive number leaves a remainder below it, and its rest is exact. -/
lemma tmod_facts (p : ℤ) {k : ℤ} (hk : 0 < k) :
    -k < p.tmod k ∧ p.tmod k < k ∧ (p - p.tmod k).tdiv k * k + p.tmod k = p := by
  have habs := Int.natAbs_tmod p k
  have hlt := Nat.mod_lt p.natAbs (Int.natAbs_pos.mpr hk.ne')
  have hdiv : p.tmod k + k * p.tdiv k = p := Int.tmod_add_mul_tdiv p k
  have hrest : p - p.tmod k = k * p.tdiv k := by omega
  refine ⟨by omega, by omega, ?_⟩
  rw [hrest, Int.mul_tdiv_cancel_left _ hk.ne', mul_comm, add_comm]
  exact hdiv

/-- A number of picoseconds is the one its timestamp stands for. -/
theorem tsToPicos_picosToTs {p : ℤ} (h : Fits 64 p) : tsToPicos (picosToTs p) = p := by
  obtain ⟨hphase, hphase', hp⟩ := tmod_facts p (by decide : (0 : ℤ) < 1000)
  obtain ⟨hnsec, hnsec', hm⟩ := tmod_facts ((p - p.tmod 1000).tdiv 1000)
    (by decide : (0 : ℤ) < 1000000000)
  have htotal : (picosToTs p).picos = p := by
    simp only [WrTimestamp.picos, picosToTs]
    rw [i32_eq_self (by omega) (by omega), i32_eq_self (by omega) (by omega)]
    omega
  rw [tsToPicos_eq, htotal, i64_of_fits h]

/-! ### Servo arithmetic -/

/-- Where no value and no intermediate result overflows, the operations on timestamps are exact, for
fields of any sign and size; and their loops are left from every state. -/
theorem servoArithmetic_exact :
    (∀ p, Fits 64 p → tsToPicos (picosToTs p) = p) ∧
    (∀ a b c x y z, tsAddChecked a b = some c → picosChecked a = some x → picosChecked b = some y →
      picosChecked c = some z → tsToPicos (tsAdd a b) = tsToPicos a + tsToPicos b) ∧
    (∀ a b c x y z, tsSubChecked a b = some c → picosChecked a = some x → picosChecked b = some y →
      picosChecked c = some z → tsToPicos (tsSub a b) = tsToPicos a - tsToPicos b) ∧
    (∀ a c x z clockPeriodPs, 0 < clockPeriodPs → tsHardwarizeChecked a clockPeriodPs = some c →
      picosChecked a = some x → picosChecked c = some z →
      tsToPicos (tsHardwarize a clockPeriodPs) = tsToPicos a) ∧
    ∀ w step lo hi, 0 < step → Fits 32 step → Fits 32 lo →
      (∃ s', Runs (fun s : ℤ × ℤ => step ≤ s.1) (carryBody w step) (lo, hi) s') ∧
        ∃ s', Runs (fun s : ℤ × ℤ => s.1 < 0) (borrowBody w step) (lo, hi) s' := by
  refine ⟨fun p h => tsToPicos_picosToTs h, ?_, ?_, ?_, fun w step lo hi hstep hfits hlo =>
    ⟨carryBody_runs hstep hlo hi, borrowBody_runs hstep hfits hlo hi⟩⟩
  -- A checked result equals the plain one, and its total is the exact one.
  · intro a b c x y z hadd hx hy hz
    obtain ⟨hc, htotal⟩ := tsAdd_of_checked hadd
    obtain ⟨hx, hx'⟩ := tsToPicos_of_checked hx
    obtain ⟨hy, hy'⟩ := tsToPicos_of_checked hy
    obtain ⟨hz, hz'⟩ := tsToPicos_of_checked hz
    rw [hc, hx, hy, hz, ← hx', ← hy', ← hz', htotal]
  · intro a b c x y z hsub hx hy hz
    obtain ⟨hc, htotal⟩ := tsSub_of_checked hsub
    obtain ⟨hx, hx'⟩ := tsToPicos_of_checked hx
    obtain ⟨hy, hy'⟩ := tsToPicos_of_checked hy
    obtain ⟨hz, hz'⟩ := tsToPicos_of_checked hz
    rw [hc, hx, hy, hz, ← hx', ← hy', ← hz', htotal]
  · intro a c x z clockPeriodPs _ hhardwarize hx hz
    obtain ⟨hc, htotal⟩ := tsHardwarize_of_checked hhardwarize
    obtain ⟨hx, hx'⟩ := tsToPicos_of_checked hx
    obtain ⟨hz, hz'⟩ := tsToPicos_of_checked hz
    rw [hc, hx, hz, ← hx', ← hz', htotal]

/-- Negative numbers, negative fields and a linearised phase of several nanoseconds are among them.
-/
theorem servoArithmetic_exact_signs :
    tsToPicos (picosToTs (-1000000000001)) = -1000000000001 ∧
    tsToPicos (tsAdd ⟨3, -999999999, -2500, 1⟩ ⟨-5, 999999999, 7993, 1⟩) =
      tsToPicos ⟨3, -999999999, -2500, 1⟩ + tsToPicos ⟨-5, 999999999, 7993, 1⟩ ∧
    tsToPicos (tsSub ⟨3, -999999999, -2500, 1⟩ ⟨-5, 999999999, 7993, 1⟩) =
      tsToPicos ⟨3, -999999999, -2500, 1⟩ - tsToPicos ⟨-5, 999999999, 7993, 1⟩ ∧
    tsToPicos (tsHardwarize ⟨-1, 999999997, -7993, 1⟩ 8000) = tsToPicos ⟨-1, 999999997, -7993, 1⟩ ∧
    (∃ s', Runs (fun s : ℤ × ℤ => 1000 ≤ s.1) (carryBody 32 1000) (5493, 0) s') ∧
      ∃ s', Runs (fun s : ℤ × ℤ => s.1 < 0) (borrowBody 32 1000) (-10493, 0) s' := by
  have hadd : tsAddChecked ⟨3, -999999999, -2500, 1⟩ ⟨-5, 999999999, 7993, 1⟩ =
      some ⟨-2, 5, 493, 0⟩ := by
    decide +kernel
  have hsub : tsSubChecked ⟨3, -999999999, -2500, 1⟩ ⟨-5, 999999999, 7993, 1⟩ =
      some ⟨5, 999999991, 507, 0⟩ := by
    decide +kernel
  obtain ⟨hconvert, hadds, hsubs, hhardwarizes, hloops⟩ := servoArithmetic_exact
  exact ⟨hconvert _ (by decide), hadds _ _ _ _ _ _ hadd rfl rfl rfl,
    hsubs _ _ _ _ _ _ hsub rfl rfl rfl, hhardwarizes _ _ _ _ _ (by decide) rfl rfl rfl,
    (hloops 32 1000 5493 0 (by decide) (by decide) (by decide)).1,
    (hloops 32 1000 (-10493) 0 (by decide) (by decide) (by decide)).2⟩

end WhiteRabbitPtp
