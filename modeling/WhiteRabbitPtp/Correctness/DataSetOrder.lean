import WhiteRabbitPtp.Model.MainLoop

/-!
# The order of data sets

For different grandmasters the standard compares data sets lexicographically: priorities and quality
of the clocks in a fixed order, and last their identities. The daemon compares each of them by its
octet at the lowest address, which for the one attribute of 16 bits is the low octet.

## Main definitions

* `MsgAnnounce.grandmasterKey`: the attributes of the grandmaster in the order of the standard.
* `Compares`: a comparison result that is a lexicographic order.
* `VarianceMisread`: two variances that their low octets put in another order.

## Main result

* `bmcDataSetComparison_compares_iff`: the comparison is the order of the standard exactly when the
  variances are not what decides or are not misread.
-/

namespace WhiteRabbitPtp

open Octets

/-! ### Comparison results and lexicographic order -/

/-- The octets of an octet string as numbers. -/
def octetNumbers {n : ℕ} (a : OctetString n) : List ℕ := (List.ofFn a).map UInt8.toNat

/-- The result of a comparison is the lexicographic order of two keys that differ. -/
structure Compares (result : ℤ) (keyA keyB : List ℕ) : Prop where
  aBetter : result = A_better_then_B ↔ keyA < keyB
  bBetter : result = B_better_then_A ↔ keyB < keyA
  decided : result ≠ 0

section Compares

variable {x y : ℕ} {keyA keyB : List ℕ} {result : ℤ}

lemma betterByAttribute_eq_iff (comp : ℤ) :
    (betterByAttribute comp = A_better_then_B ↔ comp < 0) ∧
      (betterByAttribute comp = B_better_then_A ↔ 0 < comp) ∧
        (betterByAttribute comp = 0 ↔ comp = 0) := by
  unfold betterByAttribute
  split_ifs with hneg hpos
  · exact ⟨iff_of_true rfl hneg, iff_of_false (by decide) (by omega),
      iff_of_false (by decide) (by omega)⟩
  · exact ⟨iff_of_false (by decide) hneg, iff_of_true rfl hpos, iff_of_false (by decide) (by omega)⟩
  · exact ⟨iff_of_false (by decide) hneg, iff_of_false (by decide) hpos, iff_of_true rfl (by omega)⟩

/-- The first attribute that differs decides. -/
lemma compares_of_ne (h : x ≠ y) :
    Compares (betterByAttribute ((x : ℤ) - y)) (x :: keyA) (y :: keyB) := by
  obtain ⟨hA, hB, hzero⟩ := betterByAttribute_eq_iff ((x : ℤ) - y)
  refine ⟨?_, ?_, ?_⟩
  · rw [hA, List.cons_lt_cons_iff]
    omega
  · rw [hB, List.cons_lt_cons_iff]
    omega
  · rw [Ne, hzero]
    omega

/-- A comparison that puts the first attributes the other way round, or finds no difference, is not
the lexicographic order. -/
lemma compares_cons_of_ne_iff (h : x ≠ y) (comp : ℤ) :
    Compares (betterByAttribute comp) (x :: keyA) (y :: keyB) ↔
      (x < y → comp < 0) ∧ (y < x → 0 < comp) := by
  obtain ⟨hA, hB, hzero⟩ := betterByAttribute_eq_iff comp
  constructor
  · rintro ⟨hbetter, hworse, -⟩
    rw [hA, List.cons_lt_cons_iff] at hbetter
    rw [hB, List.cons_lt_cons_iff] at hworse
    exact ⟨fun hlt => hbetter.mpr (.inl hlt), fun hlt => hworse.mpr (.inl hlt)⟩
  · rintro ⟨hlt, hgt⟩
    refine ⟨?_, ?_, ?_⟩
    · rw [hA, List.cons_lt_cons_iff]
      omega
    · rw [hB, List.cons_lt_cons_iff]
      omega
    · rw [Ne, hzero]
      omega

/-- An attribute that is equal is passed over. -/
lemma compares_cons_self : Compares result (x :: keyA) (x :: keyB) ↔ Compares result keyA keyB := by
  constructor
  · rintro ⟨hA, hB, hne⟩
    rw [List.cons_lt_cons_self] at hA hB
    exact ⟨hA, hB, hne⟩
  · rintro ⟨hA, hB, hne⟩
    refine ⟨?_, ?_, hne⟩ <;> rwa [List.cons_lt_cons_self]

end Compares

/-- `memcmp` compares octet strings lexicographically. -/
lemma compares_memcmp {n : ℕ} {a b : OctetString n} (h : a ≠ b) :
    Compares (betterByAttribute (memcmp a b)) (octetNumbers a) (octetNumbers b) := by
  -- By induction on the length: the first octets that differ decide.
  induction n with
  | zero => exact absurd (funext fun i => i.elim0) h
  | succ n ih =>
    simp only [octetNumbers, List.ofFn_succ, List.map_cons, memcmp]
    by_cases h₀ : a 0 = b 0
    · have htail : Fin.tail a ≠ Fin.tail b := by
        intro ht
        exact h (by rw [← Fin.cons_self_tail a, ← Fin.cons_self_tail b, h₀, ht])
      rw [if_pos h₀, h₀, compares_cons_self]
      exact ih htail
    · rw [if_neg h₀]
      exact compares_of_ne fun he => h₀ (UInt8.toNat_inj.mp he)

/-! ### The data set comparison -/

/-- The attributes of the grandmaster in the order in which the standard compares them. -/
def MsgAnnounce.grandmasterKey (announce : MsgAnnounce) : List ℕ :=
  announce.grandmasterPriority1.toNat :: announce.grandmasterClockQuality.clockClass.toNat ::
    announce.grandmasterClockQuality.clockAccuracy.toNat ::
      announce.grandmasterClockQuality.offsetScaledLogVariance.toNat ::
        announce.grandmasterPriority2.toNat :: octetNumbers announce.grandmasterIdentity

/-- The variances decide, and their low octets are equal or in the other order. -/
def VarianceMisread (announceA announceB : MsgAnnounce) : Prop :=
  let varianceA := announceA.grandmasterClockQuality.offsetScaledLogVariance
  let varianceB := announceB.grandmasterClockQuality.offsetScaledLogVariance
  announceA.grandmasterPriority1 = announceB.grandmasterPriority1 ∧
    announceA.grandmasterClockQuality.clockClass = announceB.grandmasterClockQuality.clockClass ∧
      announceA.grandmasterClockQuality.clockAccuracy =
        announceB.grandmasterClockQuality.clockAccuracy ∧
        (varianceA < varianceB ∧ varianceB.toUInt8 ≤ varianceA.toUInt8 ∨
          varianceB < varianceA ∧ varianceA.toUInt8 ≤ varianceB.toUInt8)

section Comparison

variable {announceA announceB : MsgAnnounce}

/-- The comparison of two grandmasters is the order of the standard unless the variances are
misread. -/
lemma compareGrandmasters_compares_iff
    (h : announceA.grandmasterIdentity ≠ announceB.grandmasterIdentity) :
    Compares (compareGrandmasters announceA announceB) announceA.grandmasterKey
        announceB.grandmasterKey ↔
      ¬VarianceMisread announceA announceB := by
  simp only [compareGrandmasters, MsgAnnounce.grandmasterKey, VarianceMisread, memcmp_octet]
  -- One key after the other: where the values differ they are compared as they should be,
  -- except for the variance.
  by_cases hpriority1 : announceA.grandmasterPriority1 = announceB.grandmasterPriority1
  swap
  · rw [if_neg hpriority1]
    exact iff_of_true (compares_of_ne (mt UInt8.toNat_inj.mp hpriority1))
      fun hmisread => hpriority1 hmisread.1
  rw [if_pos hpriority1, hpriority1, compares_cons_self]
  by_cases hclass : announceA.grandmasterClockQuality.clockClass =
      announceB.grandmasterClockQuality.clockClass
  swap
  · rw [if_neg hclass]
    exact iff_of_true (compares_of_ne (mt UInt8.toNat_inj.mp hclass))
      fun hmisread => hclass hmisread.2.1
  rw [if_pos hclass, hclass, compares_cons_self]
  by_cases haccuracy : announceA.grandmasterClockQuality.clockAccuracy =
      announceB.grandmasterClockQuality.clockAccuracy
  swap
  · rw [if_neg haccuracy]
    exact iff_of_true (compares_of_ne (mt UInt8.toNat_inj.mp haccuracy))
      fun hmisread => haccuracy hmisread.2.2.1
  rw [if_pos haccuracy, haccuracy, compares_cons_self]
  generalize announceA.grandmasterClockQuality.offsetScaledLogVariance = varianceA
  generalize announceB.grandmasterClockQuality.offsetScaledLogVariance = varianceB
  by_cases hvariance : varianceA = varianceB
  · -- equal variances are passed over, and what follows is read as it is
    rw [if_pos hvariance, hvariance, compares_cons_self]
    refine iff_of_true ?_ fun hmisread => ?_
    · by_cases hpriority2 : announceA.grandmasterPriority2 = announceB.grandmasterPriority2
      · rw [if_pos hpriority2, hpriority2, compares_cons_self]
        exact compares_memcmp h
      · rw [if_neg hpriority2]
        exact compares_of_ne (mt UInt8.toNat_inj.mp hpriority2)
    · obtain ⟨-, -, -, ⟨hlt, -⟩ | ⟨hlt, -⟩⟩ := hmisread
      · exact absurd hlt (UInt16.lt_irrefl _)
      · exact absurd hlt (UInt16.lt_irrefl _)
  · rw [if_neg hvariance, compares_cons_of_ne_iff (mt UInt16.toNat_inj.mp hvariance)]
    simp only [true_and, UInt16.lt_iff_toNat_lt, UInt8.le_iff_toNat_le]
    omega

variable {headerA headerB : MsgHeader} {receptionPortNumberA receptionPortNumberB : UInt16}

/-- For different grandmasters, heard on a port each, the data set comparison is the order of the
standard exactly when the variances are not misread. -/
theorem bmcDataSetComparison_compares_iff (port : PtpPortDS)
    (hA : receptionPortNumberA ≠ 0) (hB : receptionPortNumberB ≠ 0)
    (h : announceA.grandmasterIdentity ≠ announceB.grandmasterIdentity) :
    Compares (bmcDataSetComparison headerA announceA receptionPortNumberA headerB announceB
        receptionPortNumberB port) announceA.grandmasterKey announceB.grandmasterKey ↔
      ¬VarianceMisread announceA announceB := by
  have hdiffer : memcmp announceA.grandmasterIdentity announceB.grandmasterIdentity ≠ 0 :=
    mt memcmp_eq_zero_iff.mp h
  have heq : bmcDataSetComparison headerA announceA receptionPortNumberA headerB announceB
      receptionPortNumberB port = compareGrandmasters announceA announceB := by
    simp only [bmcDataSetComparison, hA, hB, hdiffer, false_and, if_false]
  rw [heq]
  exact compareGrandmasters_compares_iff h

end Comparison

/-- The data set a clock announces that differs from others in its identity and its variance. -/
def announceOf (grandmasterIdentity : ClockIdentity) (offsetScaledLogVariance : UInt16) :
    MsgAnnounce where
  originTimestamp := ⟨⟨0, 0⟩, 0⟩
  currentUtcOffset := 34
  grandmasterPriority1 := 128
  grandmasterClockQuality := ⟨6, 0x21, offsetScaledLogVariance⟩
  grandmasterPriority2 := 128
  grandmasterIdentity := grandmasterIdentity
  stepsRemoved := 0
  timeSource := 0x20
  wrFlags := 0

/-- The data set of a clock whose variance is one more than the other's. -/
def worseAnnounce : MsgAnnounce := announceOf ![2, 0, 0, 0xFF, 0xFE, 0, 0, 1] 0x0100

/-- The data set of the other clock. -/
def betterAnnounce : MsgAnnounce := announceOf ![2, 0, 0, 0xFF, 0xFE, 0, 0, 2] 0x00FF

/-- The port that compares them. -/
def comparingPort : PtpPortDS := (Daemon.singleNode ![2, 0, 0, 0, 0, 3] .wrMAndS).port

/-- The worse of the two data sets is taken for the better one. -/
theorem compares_fails_worseAnnounce :
    ¬Compares (bmcDataSetComparison comparingPort.msgTmpHeader worseAnnounce 1
        comparingPort.msgTmpHeader betterAnnounce 1 comparingPort) worseAnnounce.grandmasterKey
        betterAnnounce.grandmasterKey := by
  rw [bmcDataSetComparison_compares_iff comparingPort (by decide) (by decide) (by decide), not_not]
  exact ⟨rfl, rfl, rfl, .inr ⟨by decide, by decide⟩⟩

/-- The comparison is not always the order of the standard. -/
theorem not_forall_compares :
    ¬∀ (headerA headerB : MsgHeader) (announceA announceB : MsgAnnounce)
      (receptionPortNumberA receptionPortNumberB : UInt16) (port : PtpPortDS),
      receptionPortNumberA ≠ 0 → receptionPortNumberB ≠ 0 →
      announceA.grandmasterIdentity ≠ announceB.grandmasterIdentity →
      Compares (bmcDataSetComparison headerA announceA receptionPortNumberA headerB announceB
        receptionPortNumberB port) announceA.grandmasterKey announceB.grandmasterKey := by
  intro h
  have hbetter := (h comparingPort.msgTmpHeader comparingPort.msgTmpHeader worseAnnounce
    betterAnnounce 1 1 comparingPort (by decide) (by decide) (by decide)).aBetter
  revert hbetter
  decide +kernel

end WhiteRabbitPtp
