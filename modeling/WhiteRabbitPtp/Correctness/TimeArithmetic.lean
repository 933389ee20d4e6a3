import WhiteRabbitPtp.Lib.SignedPair
import WhiteRabbitPtp.Model.CheckedArith

/-!
# Sums and differences of times

A `TimeInternal` is worth a number of nanoseconds. The program adds and subtracts the two fields one
by one and then normalizes the result, which makes it the one canonical time of the exact sum or
difference, wherever the result is stored.

## Main definitions

* `TimeInternal.total`: the nanoseconds a time is worth.
* `TimeInternal.Canonical`: less than a second of nanoseconds, and no fields of opposite signs.
* `StaysClear`: the seconds of a sum or difference fit their word.
* `TimeInternal.Represents`: a time is the canonical one of its worth.

## Main results

* `combineTimesAt_isSome_iff`: canonical times are combined without overflow exactly when the
  seconds of the result stay clear.
* `timeArithmetic_exact`: sums and differences are exact and canonical, and a difference undoes a
  sum.
-/

namespace WhiteRabbitPtp

open CheckedInt SignedPair

/-- The nanoseconds that a time is worth. -/
def TimeInternal.total (t : TimeInternal) : ℤ := worth nsPerSec t.seconds t.nanoseconds

/-- The nanoseconds are below a second, and the fields do not have opposite signs. -/
abbrev TimeInternal.Canonical (t : TimeInternal) : Prop :=
  SignedPair.Canonical nsPerSec t.seconds t.nanoseconds

/-- The fields of a time are the one canonical pair of a number of nanoseconds. -/
structure TimeInternal.Represents (t : TimeInternal) (total : ℤ) : Prop where
  canonical : t.Canonical
  total_eq : t.total = total
  unique : ∀ t' : TimeInternal, t'.Canonical → t'.total = total →
    t'.seconds = t.seconds ∧ t'.nanoseconds = t.nanoseconds

/-- The seconds of a sum or difference fit their word, and they still do with the whole seconds of
the nanoseconds. -/
def StaysClear (op : ℤ → ℤ → ℤ) (x y : TimeInternal) : Prop :=
  Fits 32 (op x.seconds y.seconds) ∧
    Fits 32 (op x.seconds y.seconds + (op x.nanoseconds y.nanoseconds).tdiv nsPerSec)

/-! ### What does not overflow -/

section Wrapping

variable {r t : TimeInternal}

lemma i32_of_fits {x : ℤ} (h : Fits 32 x) : i32 x = x := bmod_of_fits (by decide) h

/-- Where nothing overflows the program computes what the checked computation does. -/
lemma normalizeTime_of_checked (h : normalizeTimeChecked r = some t) : normalizeTime r = t := by
  unfold normalizeTimeChecked at h
  simp only [Option.bind_eq_bind, checked_bind_eq_some_iff] at h
  obtain ⟨hseconds, -, hnanoseconds, h⟩ := h
  unfold normalizeTime
  rw [i32_of_fits hseconds, i32_of_fits hnanoseconds]
  dsimp only
  split_ifs at h ⊢ with hpos hneg
  · simp only [checked_bind_eq_some_iff] at h
    exact Option.some.inj h.2.2
  · simp only [checked_bind_eq_some_iff] at h
    exact Option.some.inj h.2.2
  · exact Option.some.inj h

/-- A time is normalized without overflow when its seconds have room for the carry. -/
lemma normalizeTimeChecked_eq_canonicalize (hnanoseconds : Fits 32 r.nanoseconds)
    (hseconds : Fits 32 (r.seconds + r.nanoseconds.tdiv nsPerSec)) :
    normalizeTimeChecked r = some { r with
      seconds := (canonicalize nsPerSec r.seconds r.nanoseconds).1
      nanoseconds := (canonicalize nsPerSec r.seconds r.nanoseconds).2 } := by
  have hwhole := fits_tdiv_mul (by decide : 0 < nsPerSec) hnanoseconds
  have hrest : |r.nanoseconds.tmod nsPerSec| < nsPerSec := abs_tmod_lt (by decide)
  have hsettled := fits_settle hseconds hrest (by decide)
  have hmod : r.nanoseconds - r.nanoseconds.tdiv nsPerSec * nsPerSec =
      r.nanoseconds.tmod nsPerSec := by
    have := Int.tdiv_mul_add_tmod r.nanoseconds nsPerSec
    omega
  have hfits : Fits 32 (r.nanoseconds.tmod nsPerSec) := fits_of_abs_lt hrest (by decide)
  unfold normalizeTimeChecked canonicalize
  simp only [Option.bind_eq_bind, checked_of_fits hseconds, checked_of_fits hwhole,
    Option.bind_some, hmod, checked_of_fits hfits]
  -- The two branches that settle the signs are those of `settle`.
  unfold settle at hsettled ⊢
  split_ifs at hsettled ⊢ with hpos hneg
  · rw [checked_of_fits hsettled.1, Option.bind_some, checked_of_fits hsettled.2]
    rfl
  · rw [checked_of_fits hsettled.1, Option.bind_some, checked_of_fits hsettled.2]
    rfl
  · rfl

end Wrapping

/-! ### Any two pointers -/

section Memory

variable {op : ℤ → ℤ → ℤ} {r x y : ℕ} {mem : TimeMemory}

/-- Whether or not the result is an operand, storing its seconds leaves the nanoseconds of both. -/
lemma nanoseconds_update (mem : TimeMemory) (r p : ℕ) (seconds : ℤ) :
    (Function.update mem r { mem r with seconds } p).nanoseconds = (mem p).nanoseconds := by
  by_cases h : p = r
  · rw [h, Function.update_self]
  · rw [Function.update_of_ne h]

/-- The two stores and the normalization are one store of the normalized time. -/
lemma combineTimesAt_eq (hseconds : Fits 32 (op (mem x).seconds (mem y).seconds)) :
    combineTimesAt op r x y mem =
      (checked 32 (op (mem x).nanoseconds (mem y).nanoseconds)).bind fun nanoseconds =>
        (normalizeTimeChecked { mem r with
          seconds := op (mem x).seconds (mem y).seconds
          nanoseconds }).bind fun t => some (Function.update mem r t) := by
  unfold combineTimesAt normalizeTimeAt
  simp only [Option.bind_eq_bind, checked_of_fits hseconds, Option.bind_some, nanoseconds_update,
    Function.update_self, Function.update_idem]
  rfl

/-- Canonical times leave room for two seconds of nanoseconds. -/
lemma fits_of_abs_lt_two {n : ℤ} (h : |n| < 2 * nsPerSec) : Fits 32 n :=
  fits_of_abs_lt h (by decide)

/-- Times whose nanoseconds are below a second are combined exactly as long as the seconds stay
clear, and what is stored is what the wrapping computation gives. -/
lemma combineTimesAt_represents
    (hnanoseconds : |op (mem x).nanoseconds (mem y).nanoseconds| < 2 * nsPerSec)
    (h : StaysClear op (mem x) (mem y)) :
    let t := normalizeTime { mem r with
      seconds := i32 (op (mem x).seconds (mem y).seconds)
      nanoseconds := i32 (op (mem x).nanoseconds (mem y).nanoseconds) }
    combineTimesAt op r x y mem = some (Function.update mem r t) ∧
      t.Represents (worth nsPerSec (op (mem x).seconds (mem y).seconds)
        (op (mem x).nanoseconds (mem y).nanoseconds)) := by
  have hfits := fits_of_abs_lt_two hnanoseconds
  have hchecked : normalizeTimeChecked { mem r with
      seconds := op (mem x).seconds (mem y).seconds
      nanoseconds := op (mem x).nanoseconds (mem y).nanoseconds } = some _ :=
    normalizeTimeChecked_eq_canonicalize hfits h.2
  dsimp only
  rw [i32_of_fits h.1, i32_of_fits hfits, normalizeTime_of_checked hchecked]
  refine ⟨?_, ?_⟩
  · rw [combineTimesAt_eq h.1, checked_of_fits hfits, Option.bind_some, hchecked, Option.bind_some]
  · have hcanonical := canonicalize_canonical (op (mem x).seconds (mem y).seconds)
      (op (mem x).nanoseconds (mem y).nanoseconds) (by decide : 0 < nsPerSec)
    refine ⟨hcanonical, canonicalize_worth, fun t' ht' htotal => ?_⟩
    exact ht'.unique hcanonical (htotal.trans canonicalize_worth.symm)

/-- Canonical times are combined without overflow only when the seconds stay clear. -/
theorem combineTimesAt_isSome_iff
    (hnanoseconds : |op (mem x).nanoseconds (mem y).nanoseconds| < 2 * nsPerSec) :
    (combineTimesAt op r x y mem).isSome ↔ StaysClear op (mem x) (mem y) := by
  refine ⟨fun h => ?_, fun h => ?_⟩
  · obtain ⟨mem', h⟩ := Option.isSome_iff_exists.mp h
    have hseconds : Fits 32 (op (mem x).seconds (mem y).seconds) := by
      unfold combineTimesAt at h
      simp only [Option.bind_eq_bind, checked_bind_eq_some_iff] at h
      exact h.1
    rw [combineTimesAt_eq hseconds, checked_of_fits (fits_of_abs_lt_two hnanoseconds),
      Option.bind_some] at h
    obtain ⟨t, h, -⟩ := Option.bind_eq_some_iff.mp h
    -- The first thing that normalizing checks is the carry.
    unfold normalizeTimeChecked at h
    simp only [Option.bind_eq_bind, checked_bind_eq_some_iff] at h
    exact ⟨hseconds, h.1⟩
  · rw [(combineTimesAt_represents hnanoseconds h).1]
    rfl

/-- Seconds that are not at a limit of their word stay clear of it. -/
theorem staysClear_of_lt
    (hnanoseconds : |op (mem x).nanoseconds (mem y).nanoseconds| < 2 * nsPerSec)
    (hlt : -2 ^ 31 < op (mem x).seconds (mem y).seconds)
    (hgt : op (mem x).seconds (mem y).seconds < 2 ^ 31 - 1) : StaysClear op (mem x) (mem y) := by
  obtain ⟨hlow, hhigh⟩ := abs_le.mp (abs_tdiv_le_one hnanoseconds)
  exact ⟨⟨by omega, by omega⟩, by omega, by omega⟩

end Memory

/-! ### Sums and differences -/

section Times

variable {r x y : ℕ} {mem : TimeMemory}

lemma abs_add_nanoseconds_lt (hx : (mem x).Canonical) (hy : (mem y).Canonical) :
    |(mem x).nanoseconds + (mem y).nanoseconds| < 2 * nsPerSec := by
  have habs := abs_add_le (mem x).nanoseconds (mem y).nanoseconds
  have hsmall := hx.small
  have hsmall' := hy.small
  omega

lemma abs_sub_nanoseconds_lt (hx : (mem x).Canonical) (hy : (mem y).Canonical) :
    |(mem x).nanoseconds - (mem y).nanoseconds| < 2 * nsPerSec := by
  have habs := abs_sub (mem x).nanoseconds (mem y).nanoseconds
  have hsmall := hx.small
  have hsmall' := hy.small
  omega

/-- What `addTime` stores for canonical times whose sum stays clear. -/
theorem addTimeAt_represents (hx : (mem x).Canonical) (hy : (mem y).Canonical)
    (h : StaysClear (· + ·) (mem x) (mem y)) :
    addTimeAt r x y mem = some (Function.update mem r (addTime (mem r) (mem x) (mem y))) ∧
      (addTime (mem r) (mem x) (mem y)).Represents ((mem x).total + (mem y).total) := by
  rw [TimeInternal.total, TimeInternal.total, ← worth_add]
  exact combineTimesAt_represents (abs_add_nanoseconds_lt hx hy) h

/-- What `subTime` stores for canonical times whose difference stays clear. -/
theorem subTimeAt_represents (hx : (mem x).Canonical) (hy : (mem y).Canonical)
    (h : StaysClear (· - ·) (mem x) (mem y)) :
    subTimeAt r x y mem = some (Function.update mem r (subTime (mem r) (mem x) (mem y))) ∧
      (subTime (mem r) (mem x) (mem y)).Represents ((mem x).total - (mem y).total) := by
  rw [TimeInternal.total, TimeInternal.total, ← worth_sub]
  exact combineTimesAt_represents (abs_sub_nanoseconds_lt hx hy) h

end Times

/-- Sums and differences of canonical times whose seconds stay clear are stored without overflow,
wherever the result goes, and nothing else is. What is stored is the one canonical time of the exact
sum or difference. A difference undoes a sum that did not replace its second operand. -/
theorem timeArithmetic_exact (mem : TimeMemory) (r x y : ℕ) (hx : (mem x).Canonical)
    (hy : (mem y).Canonical) :
    (StaysClear (· + ·) (mem x) (mem y) →
      addTimeAt r x y mem = some (Function.update mem r (addTime (mem r) (mem x) (mem y))) ∧
        (addTime (mem r) (mem x) (mem y)).Represents ((mem x).total + (mem y).total)) ∧
    (StaysClear (· - ·) (mem x) (mem y) →
      subTimeAt r x y mem = some (Function.update mem r (subTime (mem r) (mem x) (mem y))) ∧
        (subTime (mem r) (mem x) (mem y)).Represents ((mem x).total - (mem y).total)) ∧
    ∀ (r' : ℕ) (mem' : TimeMemory), r ≠ y → addTimeAt r x y mem = some mem' →
      StaysClear (· - ·) (mem' r) (mem' y) →
      ∃ mem'', subTimeAt r' r y mem' = some mem'' ∧
        (mem'' r').seconds = (mem x).seconds ∧ (mem'' r').nanoseconds = (mem x).nanoseconds := by
  refine ⟨addTimeAt_represents hx hy, subTimeAt_represents hx hy, fun r' mem' hr hadd hclear => ?_⟩
  have hsum : StaysClear (· + ·) (mem x) (mem y) :=
    (combineTimesAt_isSome_iff (abs_add_nanoseconds_lt hx hy)).mp
      (Option.isSome_iff_exists.mpr ⟨mem', hadd⟩)
  obtain ⟨hmem', hrep⟩ := addTimeAt_represents (r := r) hx hy hsum
  obtain rfl := Option.some.inj (hadd.symm.trans hmem')
  have hz : (Function.update mem r (addTime (mem r) (mem x) (mem y)) r).Canonical := by
    rw [Function.update_self]
    exact hrep.canonical
  -- The sum is not stored over the second operand, which is subtracted again.
  have hy' : (Function.update mem r (addTime (mem r) (mem x) (mem y)) y).Canonical := by
    rw [Function.update_of_ne hr.symm]
    exact hy
  obtain ⟨hmem'', hrep'⟩ := subTimeAt_represents (r := r') hz hy' hclear
  have hundone : (mem x).total =
      (Function.update mem r (addTime (mem r) (mem x) (mem y)) r).total -
        (Function.update mem r (addTime (mem r) (mem x) (mem y)) y).total := by
    rw [Function.update_self, Function.update_of_ne hr.symm, hrep.total_eq, add_sub_cancel_right]
  obtain ⟨hseconds, hnanoseconds⟩ := hrep'.unique _ hx hundone
  refine ⟨_, hmem'', ?_, ?_⟩
  · rw [Function.update_self, hseconds]
  · rw [Function.update_self, hnanoseconds]

/-- Minus seven tenths of a second, and two and a half seconds. -/
def sampleTimes : TimeMemory := fun p =>
  if p = 0 then ⟨0, -700000000, 0, 1⟩ else ⟨2, 500000000, 0, 1⟩

/-- A sum in place of its first operand, and the difference that restores it. -/
theorem timeArithmetic_exact_inPlace :
    ∃ mem, addTimeAt 0 0 1 sampleTimes = some mem ∧ mem 0 = ⟨1, 800000000, 0, 1⟩ ∧
      ∃ mem', subTimeAt 0 0 1 mem = some mem' ∧
        (mem' 0).seconds = 0 ∧ (mem' 0).nanoseconds = -700000000 := by
  obtain ⟨hadd, -, hback⟩ := timeArithmetic_exact sampleTimes 0 0 1 (by decide) (by decide)
  obtain ⟨hmem, -⟩ := hadd (staysClear_of_lt (by decide) (by decide) (by decide))
  have hsum : addTime (sampleTimes 0) (sampleTimes 0) (sampleTimes 1) = ⟨1, 800000000, 0, 1⟩ := by
    decide
  rw [hsum] at hmem
  exact ⟨_, hmem, rfl, hback 0 _ (by decide) hmem
    (staysClear_of_lt (by decide) (by decide) (by decide))⟩

end WhiteRabbitPtp
