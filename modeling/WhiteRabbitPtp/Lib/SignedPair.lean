import WhiteRabbitPtp.Lib.CheckedInt
import Mathlib.Tactic.Linarith
import Mathlib.Tactic.Ring
import Mathlib.Algebra.Order.Group.Unbundled.Int

/-!
# Signed numbers in two parts

A signed number can be kept as a high and a low part, worth `hi * base + lo`. Many pairs are worth
the same; the canonical one has a low part below the base and no parts of opposite signs. A division
that truncates toward zero brings the low part below the base, and moving one base between the parts
then gives them one sign.

## Main definitions

* `worth`: the number a pair is worth.
* `Canonical`: one pair for each number.
* `settle`: give both parts one sign.
* `canonicalize`: carry into the high part, then settle.

## Main results

* `Canonical.unique`: canonical pairs of the same worth are the same.
* `canonicalize_canonical`, `canonicalize_worth`: every pair has a canonical one of its worth.
* `fits_settle`: settling the signs does not leave the range of a word.
-/

namespace SignedPair

open CheckedInt

/-- The number that a pair of a high and a low part is worth. -/
def worth (base hi lo : ℤ) : ℤ := hi * base + lo

/-- The low part is below the base and the parts do not have opposite signs. -/
structure Canonical (base hi lo : ℤ) : Prop where
  small : |lo| < base
  nonneg : 0 < hi → 0 ≤ lo
  nonpos : hi < 0 → lo ≤ 0

instance (base hi lo : ℤ) : Decidable (Canonical base hi lo) :=
  decidable_of_iff (|lo| < base ∧ (0 < hi → 0 ≤ lo) ∧ (hi < 0 → lo ≤ 0))
    ⟨fun ⟨h, h', h''⟩ => ⟨h, h', h''⟩, fun ⟨h, h', h''⟩ => ⟨h, h', h''⟩⟩

/-- Give both parts one sign by moving one base between them. -/
def settle (base hi lo : ℤ) : ℤ × ℤ :=
  if 0 < hi ∧ lo < 0 then (hi - 1, lo + base)
  else if hi < 0 ∧ 0 < lo then (hi + 1, lo - base)
  else (hi, lo)

/-- Carry the whole bases of the low part into the high one, and settle the signs. -/
def canonicalize (base hi lo : ℤ) : ℤ × ℤ := settle base (hi + lo.tdiv base) (lo.tmod base)

section

variable {base hi lo hi' lo' : ℤ}

/-- The worth of parts that are added one by one. -/
theorem worth_add :
    worth base (hi + hi') (lo + lo') = worth base hi lo + worth base hi' lo' := by
  unfold worth
  ring

/-- The worth of parts that are subtracted one by one. -/
theorem worth_sub :
    worth base (hi - hi') (lo - lo') = worth base hi lo - worth base hi' lo' := by
  unfold worth
  ring

/-! ### Uniqueness -/

theorem Canonical.base_pos (h : Canonical base hi lo) : 0 < base :=
  (abs_nonneg lo).trans_lt h.small

/-- The parts of a canonical pair are the quotient and the remainder of its worth. -/
theorem Canonical.tdiv_tmod (h : Canonical base hi lo) :
    (worth base hi lo).tdiv base = hi ∧ (worth base hi lo).tmod base = lo := by
  have hbase := h.base_pos
  obtain ⟨hlt, hgt⟩ := abs_lt.mp h.small
  have hworth : lo + base * hi = worth base hi lo := by
    rw [worth, Int.mul_comm, Int.add_comm]
  -- A pair with a negative part is worth at most `0`, any other one at least `0`.
  by_cases hneg : hi < 0 ∨ lo < 0
  · have hhi : hi ≤ 0 := by
      by_contra hpos
      have := h.nonneg (by omega)
      omega
    have hlo : lo ≤ 0 := by
      by_contra hpos
      exact absurd (h.nonpos (by omega)) (by omega)
    have hprod : base * hi ≤ 0 := Int.mul_nonpos_of_nonneg_of_nonpos hbase.le hhi
    exact (Int.tdiv_tmod_unique' (by omega) hbase.ne').mpr ⟨hworth, by omega, hlo⟩
  · have hprod : 0 ≤ base * hi := Int.mul_nonneg hbase.le (by omega)
    exact (Int.tdiv_tmod_unique (by omega) hbase.ne').mpr ⟨hworth, by omega, by omega⟩

/-- A number has one canonical pair. -/
theorem Canonical.unique (h : Canonical base hi lo) (h' : Canonical base hi' lo')
    (hworth : worth base hi lo = worth base hi' lo') : hi = hi' ∧ lo = lo' := by
  obtain ⟨hdiv, hmod⟩ := h.tdiv_tmod
  obtain ⟨hdiv', hmod'⟩ := h'.tdiv_tmod
  rw [hworth] at hdiv hmod
  exact ⟨hdiv.symm.trans hdiv', hmod.symm.trans hmod'⟩

/-! ### Normalizing -/

theorem settle_worth :
    worth base (settle base hi lo).1 (settle base hi lo).2 = worth base hi lo := by
  unfold settle worth
  split_ifs <;> dsimp only <;> linarith

/-- A pair whose low part is below the base is canonical once its signs are settled. -/
theorem settle_canonical (h : |lo| < base) :
    Canonical base (settle base hi lo).1 (settle base hi lo).2 := by
  obtain ⟨hlt, hgt⟩ := abs_lt.mp h
  unfold settle
  split_ifs with hpos hneg
  · exact ⟨abs_lt.mpr ⟨by omega, by omega⟩, fun _ => by omega, fun _ => by omega⟩
  · exact ⟨abs_lt.mpr ⟨by omega, by omega⟩, fun _ => by omega, fun _ => by omega⟩
  · exact ⟨h, fun _ => by omega, fun _ => by omega⟩

theorem abs_tmod_lt (h : 0 < base) : |lo.tmod base| < base :=
  abs_lt.mpr ⟨Int.lt_tmod_of_pos lo h, Int.tmod_lt_of_pos lo h⟩

theorem canonicalize_canonical (hi lo : ℤ) (h : 0 < base) :
    Canonical base (canonicalize base hi lo).1 (canonicalize base hi lo).2 :=
  settle_canonical (abs_tmod_lt h)

theorem canonicalize_worth :
    worth base (canonicalize base hi lo).1 (canonicalize base hi lo).2 = worth base hi lo := by
  have hdiv := Int.mul_tdiv_add_tmod lo base
  rw [canonicalize, settle_worth]
  unfold worth
  linarith

/-- Two low parts carry at most once. -/
theorem abs_tdiv_le_one (h : |lo| < 2 * base) : |lo.tdiv base| ≤ 1 := by
  rw [Int.abs_eq_natAbs] at h ⊢
  have hquot : lo.natAbs / base.natAbs < 2 := Nat.div_lt_of_lt_mul (by omega)
  have hnat : (lo.tdiv base).natAbs = lo.natAbs / base.natAbs := Int.natAbs_tdiv lo base
  omega

/-- The whole bases of a number that fits a word fit it too. -/
theorem fits_tdiv_mul {w : ℕ} (h : 0 < base) (hlo : Fits w lo) : Fits w (lo.tdiv base * base) := by
  obtain ⟨hle, hlt⟩ := hlo
  have hdiv := Int.tdiv_mul_add_tmod lo base
  obtain hsign | hsign := Int.le_total 0 lo
  · have hrest := Int.tmod_nonneg base hsign
    have hwhole := Int.mul_nonneg (Int.tdiv_nonneg hsign h.le) h.le
    exact ⟨by omega, by omega⟩
  · have hrest := Int.tmod_nonneg base (Int.neg_nonneg_of_nonpos hsign)
    have hquot := Int.tdiv_nonneg (Int.neg_nonneg_of_nonpos hsign) h.le
    rw [Int.neg_tmod] at hrest
    rw [Int.neg_tdiv] at hquot
    have hwhole := Int.mul_nonpos_of_nonpos_of_nonneg (Int.neg_nonneg.mp hquot) h.le
    exact ⟨by omega, by omega⟩

/-- What is below a base that fits a word fits it too. -/
theorem fits_of_abs_lt {w : ℕ} (h : |lo| < base) (hbase : base ≤ 2 ^ (w - 1)) : Fits w lo := by
  obtain ⟨hlt, hgt⟩ := abs_lt.mp h
  exact ⟨by omega, by omega⟩

/-- Settling the signs does not leave the range of a word. -/
theorem fits_settle {w : ℕ} (hhi : Fits w hi) (hlo : |lo| < base) (hbase : base ≤ 2 ^ (w - 1)) :
    Fits w (settle base hi lo).1 ∧ Fits w (settle base hi lo).2 := by
  obtain ⟨hlt, hgt⟩ := abs_lt.mp hlo
  obtain ⟨hle, hlt'⟩ := hhi
  unfold settle Fits
  split_ifs <;> dsimp only <;> omega

end

end SignedPair
