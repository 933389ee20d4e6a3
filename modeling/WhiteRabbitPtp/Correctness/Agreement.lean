import WhiteRabbitPtp.Correctness.DataSetOrder
import WhiteRabbitPtp.Correctness.Steps

/-!
# Two clocks decide who is master

Two clocks with one port each hear nothing but each other. Each compares its own data set with the
other's, so that the two comparisons differ in their sign only and one of the clocks is to be master
of the other, unless the comparison finds no difference. It finds none when the variances decide and
have the same low octet: then both clocks are to be passive.

## Main definitions

* `Daemon.bestFound`: a clock with one port after `ErBest` and `EBest`.
* `HearsOnly`: the table of a clock's port holds exactly the data set of another clock.
* `Agree`: one clock is to be master and the other one its slave or passive.
* `VarianceUnseen`: the variances decide, and their low octets are equal.

## Main result

* `recommended_agree_iff`: two clocks that hear nothing but each other agree exactly when their
  variances are not what decides or differ in their low octets.
-/

namespace WhiteRabbitPtp

open Octets LinearSearch

/-! ### The comparison from both sides -/

lemma betterByAttribute_neg (comp : ℤ) : betterByAttribute (-comp) = -betterByAttribute comp := by
  unfold betterByAttribute
  split_ifs <;> first | rfl | omega

section Comparison

variable (announceA announceB : MsgAnnounce)

/-- Each of two clocks finds the other one worse or better by as much as it is found itself. -/
theorem compareGrandmasters_swap :
    compareGrandmasters announceB announceA = -compareGrandmasters announceA announceB := by
  simp only [compareGrandmasters, eq_comm (a := announceB.grandmasterPriority1),
    eq_comm (a := announceB.grandmasterClockQuality.clockClass),
    eq_comm (a := announceB.grandmasterClockQuality.clockAccuracy),
    eq_comm (a := announceB.grandmasterClockQuality.offsetScaledLogVariance),
    eq_comm (a := announceB.grandmasterPriority2)]
  split_ifs <;> rw [memcmp_swap, betterByAttribute_neg]

/-- The attributes before the variance are equal, and the variances differ in their high octets
only. -/
def VarianceUnseen : Prop :=
  let varianceA := announceA.grandmasterClockQuality.offsetScaledLogVariance
  let varianceB := announceB.grandmasterClockQuality.offsetScaledLogVariance
  announceA.grandmasterPriority1 = announceB.grandmasterPriority1 ∧
    announceA.grandmasterClockQuality.clockClass = announceB.grandmasterClockQuality.clockClass ∧
      announceA.grandmasterClockQuality.clockAccuracy =
        announceB.grandmasterClockQuality.clockAccuracy ∧
        varianceA ≠ varianceB ∧ varianceA.toUInt8 = varianceB.toUInt8

variable {announceA announceB}

lemma betterByAttribute_memcmp_eq_zero_iff {n : ℕ} {a b : OctetString n} :
    betterByAttribute (memcmp a b) = 0 ↔ a = b := by
  rw [(betterByAttribute_eq_iff _).2.2, memcmp_eq_zero_iff]

lemma octet_inj {x y : UInt8} : octet x = octet y ↔ x = y :=
  ⟨fun h => congrFun h 0, congrArg octet⟩

/-- Different grandmasters are told apart unless their variances differ unseen. -/
theorem compareGrandmasters_eq_zero_iff
    (h : announceA.grandmasterIdentity ≠ announceB.grandmasterIdentity) :
    compareGrandmasters announceA announceB = 0 ↔ VarianceUnseen announceA announceB := by
  simp only [compareGrandmasters, VarianceUnseen]
  split_ifs with hpriority1 hclass haccuracy hvariance hpriority2 <;>
    rw [betterByAttribute_memcmp_eq_zero_iff] <;> simp_all [octet_inj]

end Comparison

/-! ### One clock -/

namespace Daemon

/-- A clock with one port after `ErBest` and `EBest`. -/
def bestFound (d : Daemon) : Daemon :=
  let ports := Function.update d.ports 0 (ErBest (d.ports 0).fm.foreign (d.ports 0))
  { d with ports, clk := EBest ports d.clk }

/-- The state that the best master clock algorithm recommends for the first port. -/
def recommended (d : Daemon) (o : Oracle) : PtpState := (bmc d.bestForeign (d.node 0 o)).1

/-- The clock's own data set in the form of an Announce message. -/
def ownAnnounce (d : Daemon) : MsgAnnounce :=
  copyD0Announce (d.ports 0).msgTmpAnnounce d.clk (d.ports 0)

end Daemon

/-- A clock with one port whose role is not configured. -/
structure SinglePort (d : Daemon) : Prop where
  numberPorts : d.clk.numberPorts = 1
  portNumber : (d.ports 0).portIdentity.portNumber = 1
  notSOnly : (d.ports 0).wr.wrConfig ≠ .wrSOnly
  notMOnly : (d.ports 0).wr.wrConfig ≠ .wrMOnly

/-- The table of a clock's port holds exactly the data set of another clock, as its `copyD0` builds
it, received on that port. -/
structure HearsOnly (other d : Daemon) : Prop where
  numberForeignRecords : (d.ports 0).fm.numberForeignRecords = 1
  header : ∀ o, ((d.ports 0).fm.foreign 0).header = (copyD0 (other.node 0 o)).port.msgTmpHeader
  announce : ∀ o,
    ((d.ports 0).fm.foreign 0).announce = (copyD0 (other.node 0 o)).port.msgTmpAnnounce
  receptionPortNumber :
    ((d.ports 0).fm.foreign 0).receptionPortNumber = (d.ports 0).portIdentity.portNumber

/-- The recommendation for a clock of a class that compares its own data set with another one. -/
def recommendedBy (comp : ℤ) (clockClass : UInt8) : PtpState :=
  if comp < 0 then .master else if 0 < comp ∧ ¬clockClass < 128 then .slave else .passive

section OneClock

variable {other d : Daemon}

/-- Where the best record of the port is the best one of the clock too, one comparison decides. -/
theorem bmcStateDecision_sameRecord {record : ForeignMasterRecord} {n : Node}
    (hSOnly : n.port.wr.wrConfig ≠ .wrSOnly) (hMOnly : n.port.wr.wrConfig ≠ .wrMOnly)
    (hheard : ¬(n.port.fm.numberForeignRecords = 0 ∧ n.port.portState = .listening))
    (hport : record.receptionPortNumber = n.port.portIdentity.portNumber) :
    (bmcStateDecision record record n).1 =
      recommendedBy (bmcDataSetComparison (copyD0 n).port.msgTmpHeader
        (copyD0 n).port.msgTmpAnnounce n.port.portIdentity.portNumber record.header record.announce
        record.receptionPortNumber (copyD0 n).port) n.clk.clockQuality.clockClass := by
  have hkept := copyD0_decided n
  rw [bmcStateDecision, if_neg hSOnly, if_neg hMOnly, if_neg hheard]
  dsimp only
  rw [hkept.clockQuality, hkept.portIdentity, if_pos hport]
  -- Both comparisons are of the same record, so one number decides.
  generalize bmcDataSetComparison _ _ _ _ _ _ _ = comp
  unfold recommendedBy
  split_ifs <;> simp_all

/-- With one port that has one record the searches find that record. -/
theorem bestFound_eq (hd : SinglePort d) (hears : HearsOnly other d) :
    d.bestFound = { d with
      ports := Function.update d.ports 0 { d.ports 0 with fm.foreignRecordBest := 0 }
      clk := { d.clk with Ebest := 0, bestForeign := (0, 0) } } := by
  -- The search ends where it starts: there is one record on one port.
  have herbest : ErBest (d.ports 0).fm.foreign (d.ports 0) =
      { d.ports 0 with fm.foreignRecordBest := 0 } := by
    have hone := hears.numberForeignRecords
    rw [ErBest, if_neg (by omega), bestFrom_of_le _ (by omega)]
  have hebest : ebestIndex
      (Function.update d.ports 0 { d.ports 0 with fm.foreignRecordBest := 0 }) 1 = 0 := by
    have hfirst : firstIndex (fun i => 0 < ((Function.update d.ports 0
        { d.ports 0 with fm.foreignRecordBest := 0 }) i).fm.numberForeignRecords) 1 < 1 := by
      rw [firstIndex_lt_iff]
      exact ⟨0, one_pos, by simp [hears.numberForeignRecords]⟩
    rw [ebestIndex, Nat.lt_one_iff.mp hfirst, bestFrom_of_le _ le_rfl]
  simp only [Daemon.bestFound, herbest, EBest, hd.numberPorts, hebest, Function.update_self]
  rfl

/-- The recommendation follows from the comparison of the two data sets. -/
theorem recommended_bestFound (hd : SinglePort d) (hears : HearsOnly other d) (o : Oracle)
    (hne : (d.ports 0).clockIdentity ≠ (other.ports 0).clockIdentity) :
    d.bestFound.recommended o =
      recommendedBy (compareGrandmasters d.ownAnnounce other.ownAnnounce)
        d.clk.clockQuality.clockClass := by
  have hport : ¬(d.ports 0).portIdentity.portNumber = 0 := by
    rw [hd.portNumber]
    decide
  -- Different grandmasters are compared by their attributes alone.
  have hcomp : ∀ header port, bmcDataSetComparison header d.ownAnnounce
      (d.ports 0).portIdentity.portNumber ((d.ports 0).fm.foreign 0).header
      ((d.ports 0).fm.foreign 0).announce ((d.ports 0).fm.foreign 0).receptionPortNumber port =
        compareGrandmasters d.ownAnnounce other.ownAnnounce := by
    intro header port
    have hdiffer : ¬memcmp d.ownAnnounce.grandmasterIdentity
        other.ownAnnounce.grandmasterIdentity = 0 := mt memcmp_eq_zero_iff.mp hne
    rw [hears.announce o, hears.receptionPortNumber, bmcDataSetComparison, if_neg (by tauto),
      if_neg hport, if_neg hport]
    exact if_neg hdiffer
  have hone := hears.numberForeignRecords
  have hnode : d.bestFound.node 0 o = { d.node 0 o with
      port := { d.ports 0 with fm.foreignRecordBest := 0 }
      clk := { d.clk with Ebest := 0, bestForeign := (0, 0) } } := by
    simp [bestFound_eq hd hears, Daemon.node]
  have hbest : d.bestFound.bestForeign = (d.ports 0).fm.foreign 0 := by
    simp [bestFound_eq hd hears, Daemon.bestForeign]
  rw [Daemon.recommended, hbest, hnode, bmc, if_neg (by simp)]
  refine (bmcStateDecision_sameRecord hd.notSOnly hd.notMOnly
    (fun h => absurd (hone.symm.trans h.1) one_ne_zero) hears.receptionPortNumber).trans ?_
  exact congrArg (recommendedBy · _) (hcomp _ _)

end OneClock

/-! ### Two clocks -/

/-- One clock is to be master, and the other one its slave or passive. -/
def Agree (state state' : PtpState) : Prop :=
  state = .master ∧ (state' = .slave ∨ state' = .passive) ∨
    state' = .master ∧ (state = .slave ∨ state = .passive)

instance (state state' : PtpState) : Decidable (Agree state state') := by
  unfold Agree
  infer_instance

/-- Recommendations that follow from opposite comparisons agree when these find a difference. -/
lemma recommendedBy_agree_iff (comp : ℤ) (clockClass clockClass' : UInt8) :
    Agree (recommendedBy comp clockClass) (recommendedBy (-comp) clockClass') ↔ comp ≠ 0 := by
  unfold recommendedBy
  rcases lt_trichotomy comp 0 with hneg | rfl | hpos
  · rw [if_pos hneg, if_neg (by omega)]
    refine iff_of_true (.inl ⟨rfl, ?_⟩) hneg.ne
    split_ifs <;> simp
  · simp [Agree]
  · rw [if_neg (by omega), if_pos (by omega : -comp < 0)]
    refine iff_of_true (.inr ⟨rfl, ?_⟩) hpos.ne'
    split_ifs <;> simp

/-- Two clocks that hear nothing but each other agree on which of them is master, unless the
variances decide and differ in their high octets only. -/
theorem recommended_agree_iff {a b : Daemon} (o o' : Oracle) (ha : SinglePort a) (hb : SinglePort b)
    (hab : HearsOnly b a) (hba : HearsOnly a b)
    (hne : (a.ports 0).clockIdentity ≠ (b.ports 0).clockIdentity) :
    Agree (a.bestFound.recommended o) (b.bestFound.recommended o') ↔
      ¬VarianceUnseen a.ownAnnounce b.ownAnnounce := by
  rw [recommended_bestFound ha hab o hne, recommended_bestFound hb hba o' hne.symm,
    compareGrandmasters_swap a.ownAnnounce b.ownAnnounce, recommendedBy_agree_iff, Ne,
    compareGrandmasters_eq_zero_iff hne]

/-! ### Two clocks that do not agree -/

namespace Daemon

/-- A clock with one port after its first iteration, with the given variance. -/
def singleOf (mac : MacAddr) (offsetScaledLogVariance : UInt16) : Daemon :=
  let d := step (defaultRtOpts 1) (Oracle.ready true .wrMAndS .nothing 64 0) (single mac)
  { d with clk.clockQuality.offsetScaledLogVariance := offsetScaledLogVariance }

/-- A clock that has received the data set of another one. -/
def havingHeard (other d : Daemon) : Daemon :=
  let own := other.ports 0
  let record : ForeignMasterRecord :=
    { foreignMasterPortIdentity := (copyD0Header own.msgTmpHeader own).sourcePortIdentity
      foreignMasterAnnounceMessages := 0
      receptionPortNumber := (d.ports 0).portIdentity.portNumber
      announce := other.ownAnnounce
      header := copyD0Header own.msgTmpHeader own }
  { d with ports := Function.update d.ports 0 { d.ports 0 with
      fm := { (d.ports 0).fm with foreign := fun _ => record, numberForeignRecords := 1 } } }

end Daemon

section Hearing

variable (a b : Daemon)

lemma havingHeard_hearsOnly : HearsOnly (b.havingHeard a) (a.havingHeard b) := by
  constructor <;>
    simp [Daemon.havingHeard, Daemon.node, copyD0, copyD0Announce, copyD0Header, Daemon.ownAnnounce]

lemma havingHeard_singlePort (hb : SinglePort b) : SinglePort (a.havingHeard b) := by
  obtain ⟨hports, hnumber, hSOnly, hMOnly⟩ := hb
  constructor <;> simpa [Daemon.havingHeard]

end Hearing

/-- A clock of the default options, up to its variance. -/
def oneClock : Daemon := .singleOf ![2, 0, 0, 0, 0, 1] 0x0100

/-- A clock of the default options whose variance has the same low octet. -/
def otherClock : Daemon := .singleOf ![2, 0, 0, 0, 0, 2] 0x0200

/-- An environment in which the link is down; a decision asks it nothing. -/
def noLink : Oracle := .ready false .wrMAndS .nothing 64 0

lemma oneClock_singlePort : SinglePort oneClock := by
  constructor <;> decide +kernel

lemma otherClock_singlePort : SinglePort otherClock := by
  constructor <;> decide +kernel

lemma clocks_ne :
    ((otherClock.havingHeard oneClock).ports 0).clockIdentity ≠
      ((oneClock.havingHeard otherClock).ports 0).clockIdentity := by
  decide +kernel

/-- A clock of the default options whose variance has another low octet. -/
def thirdClock : Daemon := .singleOf ![2, 0, 0, 0, 0, 3] 0x0201

lemma thirdClock_singlePort : SinglePort thirdClock := by
  constructor <;> decide +kernel

/-- The first and the third clock agree: the comparison tells their variances apart. -/
theorem clocks_agree :
    Agree ((thirdClock.havingHeard oneClock).bestFound.recommended noLink)
      ((oneClock.havingHeard thirdClock).bestFound.recommended noLink) :=
  (recommended_agree_iff noLink noLink (havingHeard_singlePort _ _ oneClock_singlePort)
    (havingHeard_singlePort _ _ thirdClock_singlePort) (havingHeard_hearsOnly _ _)
    (havingHeard_hearsOnly _ _) (by decide +kernel)).mpr (by unfold VarianceUnseen; decide +kernel)

/-- Two clocks that hear nothing but each other do not always agree on which of them is master. -/
theorem not_forall_agree :
    ¬∀ (a b : Daemon) (o o' : Oracle), SinglePort a → SinglePort b → HearsOnly b a →
      HearsOnly a b → (a.ports 0).clockIdentity ≠ (b.ports 0).clockIdentity →
      Agree (a.bestFound.recommended o) (b.bestFound.recommended o') := by
  intro h
  have hagree := h _ _ noLink noLink (havingHeard_singlePort _ _ oneClock_singlePort)
    (havingHeard_singlePort _ _ otherClock_singlePort) (havingHeard_hearsOnly _ _)
    (havingHeard_hearsOnly _ _) clocks_ne
  -- Both are to be passive.
  revert hagree
  decide +kernel

end WhiteRabbitPtp
