import WhiteRabbitPtp.Correctness.Agreement
import WhiteRabbitPtp.Correctness.LiveMaster

/-!
# The best foreign masters of all ports

The update of the best foreign masters searches the table of every marked port. The search is right
where the records of a table agree on their grandmasters, because the comparison is then a strict
order. But every round of the loop works with the data set of the first port: it is the first port
that remembers the result, and whose number of records bounds the search.

## Main definitions

* `Consistent`: records of one grandmaster agree on its attributes, and none is of the clock itself.
* `RightBest`: a record of a port that no other one beats.
* `BestsUpdated`: what the update of all ports is for.
* `LastMarked`: the port whose round is the last one.

## Main results

* `compareRecords_trans`: the comparison orders the records of a consistent table.
* `globalBestForeignMastersUpdate_iff`: for which tables the update of all ports is right.
* `forall_bestsUpdated_iff`: for which marks it is right whatever the tables hold.
-/

namespace WhiteRabbitPtp

open Octets LinearSearch

/-! ### The comparison as an order -/

section Order

variable {announceA announceB announceC : MsgAnnounce}

/-- Two records of one grandmaster agree on its attributes. -/
def SameAttributes (announceA announceB : MsgAnnounce) : Prop :=
  announceA.grandmasterIdentity = announceB.grandmasterIdentity →
    announceA.grandmasterPriority1 = announceB.grandmasterPriority1 ∧
      announceA.grandmasterClockQuality = announceB.grandmasterClockQuality ∧
        announceA.grandmasterPriority2 = announceB.grandmasterPriority2

lemma betterByAttribute_neg_iff {comp : ℤ} : betterByAttribute comp < 0 ↔ comp < 0 := by
  unfold betterByAttribute
  split_ifs with hneg hpos
  · exact iff_of_true (by decide) hneg
  · exact iff_of_false (by decide) hneg
  · exact iff_of_false (by decide) hneg

lemma betterByAttribute_octet_neg_iff {x y : UInt8} :
    betterByAttribute (memcmp (octet x) (octet y)) < 0 ↔ x < y := by
  rw [betterByAttribute_neg_iff, memcmp_octet, UInt8.lt_iff_toNat_lt]
  omega

/-- The comparison of two grandmasters, level by level. -/
lemma compareGrandmasters_neg_iff :
    compareGrandmasters announceA announceB < 0 ↔
      announceA.grandmasterPriority1 < announceB.grandmasterPriority1 ∨
      announceA.grandmasterPriority1 = announceB.grandmasterPriority1 ∧
      (announceA.grandmasterClockQuality.clockClass < announceB.grandmasterClockQuality.clockClass ∨
      announceA.grandmasterClockQuality.clockClass = announceB.grandmasterClockQuality.clockClass ∧
      (announceA.grandmasterClockQuality.clockAccuracy <
        announceB.grandmasterClockQuality.clockAccuracy ∨
      announceA.grandmasterClockQuality.clockAccuracy =
        announceB.grandmasterClockQuality.clockAccuracy ∧
      (announceA.grandmasterClockQuality.offsetScaledLogVariance.toUInt8 <
        announceB.grandmasterClockQuality.offsetScaledLogVariance.toUInt8 ∨
      announceA.grandmasterClockQuality.offsetScaledLogVariance =
        announceB.grandmasterClockQuality.offsetScaledLogVariance ∧
      (announceA.grandmasterPriority2 < announceB.grandmasterPriority2 ∨
      announceA.grandmasterPriority2 = announceB.grandmasterPriority2 ∧
        memcmp announceA.grandmasterIdentity announceB.grandmasterIdentity < 0)))) := by
  unfold compareGrandmasters
  dsimp only
  split_ifs with hpriority1 hclass haccuracy hvariance hpriority2
  · rw [betterByAttribute_neg_iff]
    simp [*]
  all_goals
    rw [betterByAttribute_octet_neg_iff]
    simp [*]

/-- Better grandmasters are better than what these are better than. -/
theorem compareGrandmasters_trans (hab : compareGrandmasters announceA announceB < 0)
    (hbc : compareGrandmasters announceB announceC < 0) :
    compareGrandmasters announceA announceC < 0 := by
  have htrans := @UInt8.lt_trans
  have hmemcmp := @memcmp_trans _ announceA.grandmasterIdentity announceB.grandmasterIdentity
    announceC.grandmasterIdentity
  rw [compareGrandmasters_neg_iff] at hab hbc ⊢
  generalize announceA.grandmasterClockQuality = qualityA at *
  generalize announceB.grandmasterClockQuality = qualityB at *
  generalize announceC.grandmasterClockQuality = qualityC at *
  grind

variable {headerA headerB : MsgHeader} {receptionPortNumberA receptionPortNumberB : UInt16}

/-- Among the paths of two records that others sent the shorter one is better; of equally long ones
the sender decides, and then the port. -/
lemma comparePaths_neg_iff {receiver : ClockIdentity}
    (hA : headerA.sourcePortIdentity.clockIdentity ≠ receiver)
    (hB : headerB.sourcePortIdentity.clockIdentity ≠ receiver) :
    comparePaths headerA announceA receptionPortNumberA headerB announceB receptionPortNumberB
        receiver < 0 ↔
      announceA.stepsRemoved < announceB.stepsRemoved ∨
      announceA.stepsRemoved = announceB.stepsRemoved ∧
      (memcmp headerA.sourcePortIdentity.clockIdentity
        headerB.sourcePortIdentity.clockIdentity < 0 ∨
      headerA.sourcePortIdentity.clockIdentity = headerB.sourcePortIdentity.clockIdentity ∧
        receptionPortNumberA < receptionPortNumberB) := by
  have hA := mt memcmp_eq_zero_iff.mp hA
  have hB := mt memcmp_eq_zero_iff.mp hB
  rw [UInt16.lt_iff_toNat_lt, ← UInt16.toNat_inj, ← memcmp_eq_zero_iff (n := 8)]
  unfold comparePaths A_better_then_B A_better_by_topology_then_B B_better_then_A
    B_better_by_topology_then_A A_equals_B
  dsimp only
  generalize memcmp headerA.sourcePortIdentity.clockIdentity
    headerB.sourcePortIdentity.clockIdentity = sender
  split_ifs <;> simp_all <;> omega

end Order

/-! ### Records of one table -/

section Records

variable {a b c : ForeignMasterRecord} {port : PtpPortDS}

/-- A record that the clock itself did not send. -/
def SentByOther (port : PtpPortDS) (a : ForeignMasterRecord) : Prop :=
  a.header.sourcePortIdentity.clockIdentity ≠ port.portIdentity.clockIdentity

/-- Whether the path of a record is better than that of another one. -/
def PathBetter (a b : ForeignMasterRecord) : Prop :=
  a.announce.stepsRemoved < b.announce.stepsRemoved ∨
    a.announce.stepsRemoved = b.announce.stepsRemoved ∧
      (memcmp a.header.sourcePortIdentity.clockIdentity
          b.header.sourcePortIdentity.clockIdentity < 0 ∨
        a.header.sourcePortIdentity.clockIdentity = b.header.sourcePortIdentity.clockIdentity ∧
          a.receptionPortNumber < b.receptionPortNumber)

lemma pathBetter_trans (hab : PathBetter a b) (hbc : PathBetter b c) : PathBetter a c := by
  have htrans := @UInt16.lt_trans
  have hmemcmp := @memcmp_trans _ a.header.sourcePortIdentity.clockIdentity
    b.header.sourcePortIdentity.clockIdentity c.header.sourcePortIdentity.clockIdentity
  unfold PathBetter at *
  grind

lemma pathBetter_irrefl : ¬PathBetter a a := by
  have hirrefl := @UInt16.lt_irrefl
  simp [PathBetter, hirrefl]

/-- A record beats an empty one, a record of a worse grandmaster, and one of the same grandmaster
with a worse path. -/
lemma compareRecords_neg_iff (ha : SentByOther port a) (hb : SentByOther port b) :
    compareRecords a b port < 0 ↔ a.receptionPortNumber ≠ 0 ∧ (b.receptionPortNumber = 0 ∨
      (a.announce.grandmasterIdentity = b.announce.grandmasterIdentity ∧ PathBetter a b ∨
        a.announce.grandmasterIdentity ≠ b.announce.grandmasterIdentity ∧
          compareGrandmasters a.announce b.announce < 0)) := by
  unfold compareRecords bmcDataSetComparison
  simp only [memcmp_eq_zero_iff]
  split_ifs with hboth hB hA hidentity
  · simp [hboth]
  · simp_all
  · simp_all
  · rw [comparePaths_neg_iff ha hb]
    simp_all [PathBetter]
  · simp_all

/-- The comparison with a grandmaster only depends on the attributes. -/
lemma compareGrandmasters_congr {announceA announceB : MsgAnnounce}
    (h : SameAttributes announceA announceB)
    (hidentity : announceA.grandmasterIdentity = announceB.grandmasterIdentity)
    (announceC : MsgAnnounce) :
    compareGrandmasters announceA announceC = compareGrandmasters announceB announceC := by
  obtain ⟨hpriority1, hquality, hpriority2⟩ := h hidentity
  simp only [compareGrandmasters, hpriority1, hquality, hpriority2, hidentity]

/-- The comparison orders the records that agree on their grandmasters. -/
theorem compareRecords_trans (ha : SentByOther port a) (hb : SentByOther port b)
    (hc : SentByOther port c) (hsab : SameAttributes a.announce b.announce)
    (hsbc : SameAttributes b.announce c.announce) (hsac : SameAttributes a.announce c.announce)
    (hab : compareRecords a b port < 0) (hbc : compareRecords b c port < 0) :
    compareRecords a c port < 0 := by
  rw [compareRecords_neg_iff ha hb] at hab
  rw [compareRecords_neg_iff hb hc] at hbc
  rw [compareRecords_neg_iff ha hc]
  obtain ⟨hA, hab⟩ := hab
  obtain ⟨hB, hbc⟩ := hbc
  have hab := hab.resolve_left hB
  refine ⟨hA, hbc.imp_right fun hbc => ?_⟩
  rcases hab with ⟨hidentity, hpath⟩ | ⟨hdiffer, hbetter⟩ <;>
    rcases hbc with ⟨hidentity', hpath'⟩ | ⟨hdiffer', hbetter'⟩
  · exact .inl ⟨hidentity.trans hidentity', pathBetter_trans hpath hpath'⟩
  · exact .inr ⟨hidentity ▸ hdiffer', by rwa [compareGrandmasters_congr hsab hidentity]⟩
  · refine .inr ⟨hidentity' ▸ hdiffer, ?_⟩
    rw [compareGrandmasters_swap, neg_lt_zero] at hbetter ⊢
    rwa [← compareGrandmasters_congr hsbc hidentity']
  · by_cases hsame : a.announce.grandmasterIdentity = c.announce.grandmasterIdentity
    · -- The one cannot be better and worse than the other.
      rw [compareGrandmasters_congr hsac hsame, compareGrandmasters_swap] at hbetter
      omega
    · exact .inr ⟨hsame, compareGrandmasters_trans hbetter hbetter'⟩

end Records

/-! ### All ports -/

/-- The live records of a port agree on their grandmasters, and none is of the clock itself. -/
structure Consistent (port : PtpPortDS) : Prop where
  sent : ∀ j < port.fm.numberForeignRecords, SentByOther port (port.fm.foreign j)
  same : ∀ j < port.fm.numberForeignRecords, ∀ k < port.fm.numberForeignRecords,
    SameAttributes (port.fm.foreign j).announce (port.fm.foreign k).announce

/-- The index of a live record of the port that no other live record beats; with an empty table any
index. -/
def RightBest (port : PtpPortDS) (k : ℕ) : Prop :=
  port.fm.numberForeignRecords ≠ 0 →
    k < port.fm.numberForeignRecords ∧
      ∀ j < port.fm.numberForeignRecords, ¬recordBeats port.fm.foreign port j k

/-- The marked ports remember a best record, the other ones what they did, and nothing else
changes. -/
structure BestsUpdated (numberPorts : ℕ) (ports ports' : ℕ → PtpPortDS) : Prop where
  marked : ∀ i < numberPorts, (ports i).fm.recordUpdate = true →
    RightBest (ports i) (ports' i).fm.foreignRecordBest
  unmarked : ∀ i < numberPorts, (ports i).fm.recordUpdate = false →
    (ports' i).fm.foreignRecordBest = (ports i).fm.foreignRecordBest
  kept : ∀ i,
    ports' i = { ports i with fm.foreignRecordBest := (ports' i).fm.foreignRecordBest }

/-- The marked port behind which no port is marked. -/
structure LastMarked (numberPorts : ℕ) (ports : ℕ → PtpPortDS) (j : ℕ) : Prop where
  lt : j < numberPorts
  marked : (ports j).fm.recordUpdate = true
  last : ∀ i, j < i → i < numberPorts → (ports i).fm.recordUpdate = false

/-- The index at which a search in the table of one port ends that goes by the data set of another
one: the first index, replaced by every one below the number of records of the other port that beats
it. -/
def SearchEnds (foreign : ℕ → ForeignMasterRecord) (port : PtpPortDS) (k : ℕ) : Prop :=
  port.fm.numberForeignRecords = 0 ∧ k = 0 ∨
    port.fm.numberForeignRecords ≠ 0 ∧
      Champion (recordBeats foreign port) 0 port.fm.numberForeignRecords k

section Update

variable {foreign : ℕ → ForeignMasterRecord} {port : PtpPortDS} {ports : ℕ → PtpPortDS}
  {numberPorts j k : ℕ}

/-- A search ends at the index that is described without it. -/
lemma ErBest_iff : (ErBest foreign port).fm.foreignRecordBest = k ↔ SearchEnds foreign port k := by
  unfold ErBest SearchEnds
  split_ifs with hempty
  · simp [hempty, eq_comm]
  · rw [champion_iff (Nat.pos_of_ne_zero hempty)]
    simp [hempty]

/-- The search in a consistent table is right. -/
theorem rightBest_ErBest (h : Consistent port) :
    RightBest port (ErBest port.fm.foreign port).fm.foreignRecordBest := by
  intro hne
  have hpos := Nat.pos_of_ne_zero hne
  rw [ErBest, if_neg hne]
  refine ⟨(bestFrom_mem _ hpos).2, fun i hi => bestFrom_undominated hpos ?_ ?_ i (by omega) hi⟩
  · intro i _ hi hbeats
    unfold recordBeats at hbeats
    rw [compareRecords_neg_iff (h.sent i hi) (h.sent i hi)] at hbeats
    simpa [pathBetter_irrefl, hbeats.1] using hbeats.2
  · intro i j k hi hj hk _ _ _
    exact compareRecords_trans (h.sent i hi) (h.sent j hj) (h.sent k hk) (h.same i hi j hj)
      (h.same j hj k hk) (h.same i hi k hk)

/-- What a search remembered before does not matter. -/
lemma ErBest_forget (best : ℕ) :
    (ErBest foreign { port with fm.foreignRecordBest := best }).fm.foreignRecordBest =
      (ErBest foreign port).fm.foreignRecordBest := by
  unfold ErBest
  dsimp only
  split <;> rfl

/-- The last round of the loop determines the result. -/
theorem updateErBests_lastMarked (h : LastMarked numberPorts ports j) :
    (updateErBests ports numberPorts 0).fm.foreignRecordBest =
      (ErBest (ports j).fm.foreign (ports 0)).fm.foreignRecordBest := by
  obtain ⟨hlt, hmarked, hlast⟩ := h
  induction numberPorts, hlt using Nat.le_induction with
  | base =>
    rw [updateErBests_succ, updateErBest, updateErBests_eq, if_pos hmarked, Function.update_self,
      updateErBests_eq ports j 0, ErBest_forget]
  | succ n hn ih =>
    rw [updateErBests_succ, updateErBest, updateErBests_eq ports n n,
      if_neg (by simp [hlast n hn (by omega)])]
    exact ih fun i hji hin => hlast i hji (by omega)

/-- A port is the last marked one, or none is marked. -/
lemma lastMarked_or (numberPorts : ℕ) (ports : ℕ → PtpPortDS) :
    (∃ j, LastMarked numberPorts ports j) ∨
      ∀ i < numberPorts, (ports i).fm.recordUpdate = false := by
  induction numberPorts with
  | zero => exact .inr fun i hi => absurd hi (Nat.not_lt_zero i)
  | succ n ih =>
    by_cases hn : (ports n).fm.recordUpdate = true
    · exact .inl ⟨n, by omega, hn, fun i hi hi' => by omega⟩
    · rcases ih with ⟨j, hlt, hmarked, hlast⟩ | hnone
      · refine .inl ⟨j, by omega, hmarked, fun i hji hin => ?_⟩
        rcases Nat.lt_succ_iff_lt_or_eq.mp hin with hi | rfl
        · exact hlast i hji hi
        · simpa using hn
      · refine .inr fun i hin => ?_
        rcases Nat.lt_succ_iff_lt_or_eq.mp hin with hi | rfl
        · exact hnone i hi
        · simpa using hn

/-- The update of all ports does what it is for exactly when every marked port but the first one
remembers a best record already, and the last search, when it is in the table of another port, ends
at an index that is right for the first port. -/
theorem globalBestForeignMastersUpdate_iff (ports : ℕ → PtpPortDS) (clk : PtpClockDS)
    (h : ∀ i < clk.numberPorts, Consistent (ports i)) :
    BestsUpdated clk.numberPorts ports (globalBestForeignMastersUpdate ports clk).1 ↔
      (∀ i ≠ 0, i < clk.numberPorts → (ports i).fm.recordUpdate = true →
        RightBest (ports i) (ports i).fm.foreignRecordBest) ∧
      ∀ j ≠ 0, LastMarked clk.numberPorts ports j →
        ∀ k, SearchEnds (ports j).fm.foreign (ports 0) k →
          ((ports 0).fm.recordUpdate = true → RightBest (ports 0) k) ∧
            ((ports 0).fm.recordUpdate = false → k = (ports 0).fm.foreignRecordBest) := by
  show BestsUpdated clk.numberPorts ports (updateErBests ports clk.numberPorts) ↔ _
  generalize clk.numberPorts = numberPorts at h ⊢
  constructor
  · rintro ⟨hmarked, hunmarked, -⟩
    refine ⟨fun i hi hlt hmark => ?_, fun j hj hlast k hk => ?_⟩
    · have hright := hmarked i hlt hmark
      rwa [updateErBests_of_ne _ _ hi] at hright
    · rw [← ErBest_iff, ← updateErBests_lastMarked hlast] at hk
      have hlt := hlast.lt
      rw [← hk]
      exact ⟨hmarked 0 (by omega), hunmarked 0 (by omega)⟩
  · rintro ⟨hothers, hfirst⟩
    -- The other ports are never written; the first one gets the result of the last round.
    have hzero : 0 < numberPorts →
        ((ports 0).fm.recordUpdate = true →
          RightBest (ports 0) (updateErBests ports numberPorts 0).fm.foreignRecordBest) ∧
        ((ports 0).fm.recordUpdate = false →
          (updateErBests ports numberPorts 0).fm.foreignRecordBest =
            (ports 0).fm.foreignRecordBest) := by
      intro hports
      rcases lastMarked_or numberPorts ports with ⟨j, hlast⟩ | hnone
      · by_cases hj : j = 0
        · subst hj
          refine ⟨fun _ => ?_, fun hunmarked => ?_⟩
          · rw [updateErBests_lastMarked hlast]
            exact rightBest_ErBest (h 0 hports)
          · exact absurd (hlast.marked.symm.trans hunmarked) (by decide)
        · exact hfirst j hj hlast _ (ErBest_iff.mp (updateErBests_lastMarked hlast).symm)
      · rw [updateErBests_of_not ports hnone]
        refine ⟨fun hmarked => ?_, fun _ => rfl⟩
        exact absurd ((hnone 0 hports).symm.trans hmarked) (by decide)
    refine ⟨fun i hi hmark => ?_, fun i hi hmark => ?_, updateErBests_eq ports numberPorts⟩
    · by_cases hne : i = 0
      · subst hne
        exact (hzero hi).1 hmark
      · rw [updateErBests_of_ne _ _ hne]
        exact hothers i hne hi hmark
    · by_cases hne : i = 0
      · subst hne
        exact (hzero hi).2 hmark
      · rw [updateErBests_of_ne _ _ hne]

end Update

/-! ### A port that is passed over -/

/-- The records of two masters, of which the second one is better. -/
def twoRecords (j : ℕ) : ForeignMasterRecord :=
  let identity : PortIdentity := ⟨![2, 0, 0, 0xFF, 0xFE, 0, 0, if j = 1 then 1 else 2], 1⟩
  { foreignMasterPortIdentity := identity
    foreignMasterAnnounceMessages := 2
    receptionPortNumber := 2
    announce := announceOf identity.clockIdentity 0x0100
    header := { comparingPort.msgTmpHeader with sourcePortIdentity := identity } }

/-- Ports of which the marked ones have heard the two masters. -/
def markedPorts (marks : ℕ → Bool) (i : ℕ) : PtpPortDS :=
  let port := initialPort .wrModeAuto ![2, 0, 0, 0, 0, 3] i
  { port with fm := { port.fm with
      foreign := twoRecords
      numberForeignRecords := if marks i then 2 else 0
      recordUpdate := marks i } }

section MarkedPorts

variable (marks : ℕ → Bool)

lemma markedPorts_sent (i j : ℕ) : SentByOther (markedPorts marks i) (twoRecords j) := by
  intro h
  have hfirst := congrFun h 0
  simp [twoRecords, markedPorts, initialPort] at hfirst

lemma markedPorts_consistent (i : ℕ) : Consistent (markedPorts marks i) where
  sent j _ := markedPorts_sent marks i j
  same j _ k _ := by
    simp [markedPorts, SameAttributes, twoRecords, announceOf]

/-- The second record of a port beats the first one, which a marked port remembers. -/
lemma not_rightBest_markedPorts {i : ℕ} (hmark : marks i = true) :
    ¬RightBest (markedPorts marks i) (markedPorts marks i).fm.foreignRecordBest := by
  intro hright
  have htwo : (markedPorts marks i).fm.numberForeignRecords = 2 := if_pos hmark
  obtain ⟨-, hunbeaten⟩ := hright (by rw [htwo]; decide)
  refine hunbeaten 1 (by rw [htwo]; decide) ?_
  show compareRecords (twoRecords 1) (twoRecords 0) (markedPorts marks i) < 0
  rw [compareRecords_neg_iff (markedPorts_sent marks i 1) (markedPorts_sent marks i 0)]
  exact ⟨by decide, .inr (.inr ⟨by decide, by decide⟩)⟩

end MarkedPorts

/-- The update of all ports does what it is for whatever the tables hold (`BestsUpdated` for all
`Consistent` ports with these marks) exactly when no port but the first one is marked. -/
theorem forall_bestsUpdated_iff (clk : PtpClockDS) (marks : ℕ → Bool) :
    (∀ ports : ℕ → PtpPortDS, (∀ i < clk.numberPorts, (ports i).fm.recordUpdate = marks i) →
        (∀ i < clk.numberPorts, Consistent (ports i)) →
        BestsUpdated clk.numberPorts ports (globalBestForeignMastersUpdate ports clk).1) ↔
      ∀ i ≠ 0, i < clk.numberPorts → marks i = false := by
  constructor
  · intro hall i hne hlt
    by_contra hmark
    have hmark : marks i = true := by simpa using hmark
    have hconsistent (j : ℕ) (_ : j < clk.numberPorts) : Consistent (markedPorts marks j) :=
      markedPorts_consistent marks j
    have hupdated := hall (markedPorts marks) (fun _ _ => rfl) hconsistent
    obtain ⟨hothers, -⟩ := (globalBestForeignMastersUpdate_iff _ clk hconsistent).mp hupdated
    exact not_rightBest_markedPorts marks hmark (hothers i hne hlt hmark)
  · intro hmarks ports hports hconsistent
    refine (globalBestForeignMastersUpdate_iff ports clk hconsistent).mpr
      ⟨fun i hne hlt hmark => ?_, fun j hne hlast => ?_⟩
    · exact absurd (((hports i hlt).symm.trans hmark).symm.trans (hmarks i hne hlt)) (by decide)
    · have hmark := (hports j hlast.lt).symm.trans hlast.marked
      exact absurd (hmark.symm.trans (hmarks j hne hlast.lt)) (by decide)

/-- Two ports of which the second one has heard the two masters. -/
def twoPorts : ℕ → PtpPortDS := markedPorts fun i => i = 1

lemma twoPorts_consistent (i : ℕ) : Consistent (twoPorts i) := markedPorts_consistent _ i

/-- The data set of a clock with two ports. -/
def twoPortClk : PtpClockDS := initDataClock (defaultRtOpts 2) false 0 default

/-- The update of all ports does not always do what it is for. -/
theorem not_forall_bestsUpdated :
    ¬∀ (ports : ℕ → PtpPortDS) (clk : PtpClockDS),
      (∀ i < clk.numberPorts, Consistent (ports i)) →
      BestsUpdated clk.numberPorts ports (globalBestForeignMastersUpdate ports clk).1 := by
  intro h
  have hright := (h twoPorts twoPortClk fun i _ => twoPorts_consistent i).marked 1 (by decide) rfl
  -- The second port still remembers its first record.
  have hkept : ((globalBestForeignMastersUpdate twoPorts twoPortClk).1 1).fm.foreignRecordBest =
      (twoPorts 1).fm.foreignRecordBest := by
    decide +kernel
  rw [hkept] at hright
  exact not_rightBest_markedPorts _ rfl hright

end WhiteRabbitPtp
