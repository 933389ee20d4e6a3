import WhiteRabbitPtp.Correctness.GlobalUpdate

/-!
# Selecting the best record of a table

The comparison of two data sets only changes its sign when its arguments are swapped. The search of
a port compares each record with the best one so far, so that what it ends at depends on the order
of the records. In a table of records that agree on their grandmasters it ends at a record that no
other one beats, and in any other order of the table at one that compares equal to it.

## Main results

* `bmcDataSetComparison_mirrored`: the results for swapped data sets are mirrored.
* `ErBest_undominated`: no live record beats the one a port remembers.
* `ErBest_reordered`: the order of a table decides among equal records only.
-/

namespace WhiteRabbitPtp

open Octets LinearSearch

/-! ### Swapped data sets -/

section Swap

variable (headerA : MsgHeader) (announceA : MsgAnnounce) (receptionPortNumberA : UInt16)
  (headerB : MsgHeader) (announceB : MsgAnnounce) (receptionPortNumberB : UInt16)

/-- The paths to one grandmaster are compared alike from both sides. -/
lemma comparePaths_swap (receiver : ClockIdentity) :
    comparePaths headerB announceB receptionPortNumberB headerA announceA receptionPortNumberA
        receiver =
      -comparePaths headerA announceA receptionPortNumberA headerB announceB receptionPortNumberB
        receiver := by
  simp only [comparePaths, A_better_then_B, A_better_by_topology_then_B, B_better_then_A,
    B_better_by_topology_then_A, A_equals_B, UInt16.lt_iff_toNat_lt,
    memcmp_swap headerA.sourcePortIdentity.clockIdentity headerB.sourcePortIdentity.clockIdentity]
  generalize announceA.stepsRemoved.toNat = stepsA
  generalize announceB.stepsRemoved.toNat = stepsB
  generalize memcmp headerA.sourcePortIdentity.clockIdentity
    headerB.sourcePortIdentity.clockIdentity = senders
  generalize memcmp headerA.sourcePortIdentity.clockIdentity receiver = senderA
  generalize memcmp headerB.sourcePortIdentity.clockIdentity receiver = senderB
  -- The tests of the receiver are each other's mirror image; so are those of the steps.
  rcases lt_trichotomy stepsA stepsB with hsteps | rfl | hsteps
  · rw [if_neg (by omega : ¬stepsB + 1 < stepsA), if_neg (by omega : ¬stepsB < stepsA)]
    split_ifs <;> omega
  · simp only [lt_irrefl, if_false]
    split_ifs <;> omega
  · rw [if_neg (by omega : ¬stepsA + 1 < stepsB), if_neg (by omega : ¬stepsA < stepsB)]
    split_ifs <;> omega

/-- The comparison of two data sets from the other side. -/
lemma bmcDataSetComparison_swap (port : PtpPortDS) :
    bmcDataSetComparison headerB announceB receptionPortNumberB headerA announceA
        receptionPortNumberA port =
      -bmcDataSetComparison headerA announceA receptionPortNumberA headerB announceB
        receptionPortNumberB port := by
  have hidentity : memcmp announceB.grandmasterIdentity announceA.grandmasterIdentity = 0 ↔
      memcmp announceA.grandmasterIdentity announceB.grandmasterIdentity = 0 := by
    rw [memcmp_swap, neg_eq_zero]
  unfold bmcDataSetComparison
  simp only [hidentity]
  by_cases hA : receptionPortNumberA = 0 <;> by_cases hB : receptionPortNumberB = 0
  · simp [hA, hB]
  · simp [hA, hB]
  · simp [hA, hB]
  · -- Two records that are not empty: the grandmasters are the same or not, from either side.
    simp only [hA, hB, false_and, if_false]
    rw [comparePaths_swap headerA announceA receptionPortNumberA headerB announceB
      receptionPortNumberB, compareGrandmasters_swap announceA announceB]
    split_ifs <;> rfl

/-- The results for swapped data sets are each other's negation: better, better by topology and
equal are mirrored. -/
theorem bmcDataSetComparison_mirrored (port : PtpPortDS) :
    let ab := bmcDataSetComparison headerA announceA receptionPortNumberA headerB announceB
      receptionPortNumberB port
    let ba := bmcDataSetComparison headerB announceB receptionPortNumberB headerA announceA
      receptionPortNumberA port
    ab = -ba ∧ (ab = A_better_then_B ↔ ba = B_better_then_A) ∧
      (ab = A_better_by_topology_then_B ↔ ba = B_better_by_topology_then_A) ∧
        (ab = A_equals_B ↔ ba = A_equals_B) := by
  intro ab ba
  have hswap : ba = -ab := bmcDataSetComparison_swap headerA announceA receptionPortNumberA headerB
    announceB receptionPortNumberB port
  unfold A_better_then_B A_better_by_topology_then_B B_better_then_A B_better_by_topology_then_A
    A_equals_B
  omega

end Swap

/-! ### The record a port remembers -/

section Best

variable {port : PtpPortDS}

/-- No live record of a table that agrees on its grandmasters beats the one the search of the port
ends at. -/
theorem ErBest_undominated (hne : port.fm.numberForeignRecords ≠ 0) (h : Consistent port) :
    let best := (ErBest port.fm.foreign port).fm.foreignRecordBest
    best < port.fm.numberForeignRecords ∧
      ∀ i < port.fm.numberForeignRecords,
        0 ≤ bmcDataSetComparison (port.fm.foreign i).header (port.fm.foreign i).announce
          (port.fm.foreign i).receptionPortNumber (port.fm.foreign best).header
          (port.fm.foreign best).announce (port.fm.foreign best).receptionPortNumber port := by
  obtain ⟨hlt, hbest⟩ := rightBest_ErBest h hne
  exact ⟨hlt, fun i hi => not_lt.mp (hbest i hi)⟩

/-- The search in the table of the two masters ends at one that neither of them beats. -/
theorem twoPorts_undominated :
    let best := (ErBest (twoPorts 1).fm.foreign (twoPorts 1)).fm.foreignRecordBest
    best < (twoPorts 1).fm.numberForeignRecords ∧
      ∀ i < (twoPorts 1).fm.numberForeignRecords,
        0 ≤ bmcDataSetComparison ((twoPorts 1).fm.foreign i).header
          ((twoPorts 1).fm.foreign i).announce ((twoPorts 1).fm.foreign i).receptionPortNumber
          ((twoPorts 1).fm.foreign best).header ((twoPorts 1).fm.foreign best).announce
          ((twoPorts 1).fm.foreign best).receptionPortNumber (twoPorts 1) :=
  ErBest_undominated (by decide) (twoPorts_consistent 1)

/-- A port whose live records are in another order. -/
def PtpPortDS.reordered (port : PtpPortDS) (order : ℕ → ℕ) : PtpPortDS :=
  { port with fm.foreign := fun i => port.fm.foreign (order i) }

lemma ErBest_erbest (foreign : ℕ → ForeignMasterRecord) (port : PtpPortDS) :
    (ErBest foreign port).erbest =
      port.fm.foreign (ErBest foreign port).fm.foreignRecordBest := by
  unfold ErBest
  split_ifs <;> rfl

variable {order order' : ℕ → ℕ}

lemma Consistent.reordered (h : Consistent port)
    (horder : ∀ i < port.fm.numberForeignRecords, order i < port.fm.numberForeignRecords) :
    Consistent (port.reordered order) where
  sent i hi := h.sent _ (horder i hi)
  same i hi j hj := h.same _ (horder i hi) _ (horder j hj)

/-- The searches in two orders of one table end at records that compare equal. -/
theorem ErBest_reordered (hne : port.fm.numberForeignRecords ≠ 0) (h : Consistent port)
    (horder : ∀ i < port.fm.numberForeignRecords, order i < port.fm.numberForeignRecords)
    (horder' : ∀ i < port.fm.numberForeignRecords, order' i < port.fm.numberForeignRecords)
    (hinverse : ∀ i < port.fm.numberForeignRecords, order (order' i) = i) :
    compareRecords (ErBest port.fm.foreign port).erbest
      (ErBest (port.reordered order).fm.foreign (port.reordered order)).erbest port = 0 := by
  obtain ⟨hlt, hbest⟩ := rightBest_ErBest h hne
  obtain ⟨hlt', hbest'⟩ := rightBest_ErBest (h.reordered horder) hne
  rw [ErBest_erbest, ErBest_erbest]
  generalize (ErBest port.fm.foreign port).fm.foreignRecordBest = best at hlt hbest ⊢
  generalize (ErBest (port.reordered order).fm.foreign
    (port.reordered order)).fm.foreignRecordBest = best' at hlt' hbest' ⊢
  -- Each of the two is a live record of the other order, too.
  have hle : 0 ≤ compareRecords (port.fm.foreign (order best')) (port.fm.foreign best) port :=
    not_lt.mp (hbest _ (horder best' hlt'))
  have hge : 0 ≤ compareRecords (port.fm.foreign (order (order' best)))
      (port.fm.foreign (order best')) port := not_lt.mp (hbest' _ (horder' best hlt))
  rw [hinverse best hlt] at hge
  rw [compareRecords, bmcDataSetComparison_swap] at hle
  exact le_antisymm (neg_nonneg.mp hle) hge

end Best

end WhiteRabbitPtp
