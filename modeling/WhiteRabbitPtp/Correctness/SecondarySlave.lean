import WhiteRabbitPtp.Correctness.DataSetOrder
import WhiteRabbitPtp.Correctness.ForeignTable
import WhiteRabbitPtp.Correctness.WireFormat

/-!
# The master of a secondary slave

The modified best master clock algorithm makes a port a secondary slave when the best master of the
clock, heard on another port, is better by topology only than the best master of this port. `s2` is
given the record of the latter, but of that it takes the port identity only: header and Announce
data are decoded from the input buffer, where any other frame may be by now.

## Main definitions

* `RemembersErbest`: a secondary slave remembers the best master of its port.
* `CarriesRecord`: the frame in a buffer is the Announce message of a record.

## Main result

* `remembersErbest_iff`: a secondary slave remembers its master when the frame received last is the
  Announce message of this master.
-/

namespace WhiteRabbitPtp

open Octets Buffer

/-! ### Data with the same values -/

section Values

lemma Integer64.value_inj {x y : Integer64} : x.value = y.value ↔ x = y := by
  refine ⟨fun h => ?_, congrArg _⟩
  have hx := x.lsb.toNat_lt
  have hy := y.lsb.toNat_lt
  unfold Integer64.value at h
  have hlsb : x.lsb = y.lsb := UInt32.toNat_inj.mp (by omega)
  have hmsb : x.msb = y.msb := Int32.toInt_inj.mp (by omega)
  cases x
  cases y
  simp_all

lemma Timestamp.value_inj {x y : Timestamp} : x.value = y.value ↔ x = y := by
  refine ⟨fun h => ?_, congrArg _⟩
  have hx := x.secondsField.lsb.toNat_lt
  have hy := y.secondsField.lsb.toNat_lt
  simp only [Timestamp.value, Wire.Time.mk.injEq] at h
  obtain ⟨hseconds, hnanoseconds⟩ := h
  have hlsb : x.secondsField.lsb = y.secondsField.lsb := UInt32.toNat_inj.mp (by omega)
  have hmsb : x.secondsField.msb = y.secondsField.msb := UInt16.toNat_inj.mp (by omega)
  have hns : x.nanosecondsField = y.nanosecondsField := UInt32.toNat_inj.mp hnanoseconds
  rcases x with ⟨⟨_, _⟩, _⟩
  rcases y with ⟨⟨_, _⟩, _⟩
  simp_all

lemma PortIdentity.value_inj {x y : PortIdentity} : x.value = y.value ↔ x = y := by
  simp [PortIdentity.value, PortIdentity.ext_iff, UInt16.toNat_inj]

lemma MsgHeader.value_inj {x y : MsgHeader} : x.value = y.value ↔ x = y := by
  cases x
  cases y
  simp [MsgHeader.value, UInt8.toNat_inj, UInt16.toNat_inj, Int8.toInt_inj, Integer64.value_inj,
    PortIdentity.value_inj]

/-- Announce data are the same when their values and their flags are. -/
lemma MsgAnnounce.value_inj {x y : MsgAnnounce} :
    x.value = y.value ∧ x.wrFlags = y.wrFlags ↔ x = y := by
  obtain ⟨_, _, _, ⟨_, _, _⟩, _, _, _, _, _⟩ := x
  obtain ⟨_, _, _, ⟨_, _, _⟩, _, _, _, _, _⟩ := y
  simp [MsgAnnounce.value, UInt8.toNat_inj, UInt16.toNat_inj, Int16.toInt_inj,
    Timestamp.value_inj, and_assoc]

end Values

/-! ### The remembered master -/

/-- The port remembers the best record of its own: its header, its Announce data and the identity of
its sender, as received on this port. -/
structure RemembersErbest (erbest : ForeignMasterRecord) (port : PtpPortDS) : Prop where
  header : port.secondaryForeignMaster.header = erbest.header
  announce : port.secondaryForeignMaster.announce = erbest.announce
  identity : port.secondaryForeignMaster.foreignMasterPortIdentity =
    erbest.header.sourcePortIdentity
  receptionPortNumber : port.secondaryForeignMaster.receptionPortNumber =
    port.portIdentity.portNumber

/-- The frame in a buffer, read as an Announce message, is the one a record was stored from. The low
octet of `stepsRemoved` comes first, as this program writes it, and a message without suffix leaves
the flags as they were. -/
structure CarriesRecord (buf : Buffer) (formerFlags : UInt8) (record : ForeignMasterRecord) :
    Prop where
  header : Wire.readHeader buf = record.header.value
  announce : { Wire.readAnnounce buf with stepsRemoved := (word16 (buf 62) (buf 61)).toNat } =
    record.announce.value
  wrFlags : (if HasWrSuffix buf then buf 77 else formerFlags) = record.announce.wrFlags

section SecondarySlave

variable {erbest bestForeign : ForeignMasterRecord} {n : Node}

/-- A buffer is decoded to a record exactly when it carries the record. -/
lemma carriesRecord_iff (buf : Buffer) (former : MsgAnnounce) (record : ForeignMasterRecord) :
    CarriesRecord buf former.wrFlags record ↔
      msgUnpackHeader buf = record.header ∧ msgUnpackAnnounce buf former = record.announce := by
  have hflags : (msgUnpackAnnounce buf former).wrFlags =
      if HasWrSuffix buf then buf 77 else former.wrFlags := by
    rw [msgUnpackAnnounce_eq]
    exact if_congr Iff.rfl (word16_octets_eq (buf 76) (buf 77)).2 rfl
  rw [← MsgHeader.value_inj, ← MsgAnnounce.value_inj, Wire.value_msgUnpackHeader,
    Wire.value_msgUnpackAnnounce, hflags]
  exact ⟨fun h => ⟨h.header, h.announce, h.wrFlags⟩, fun h => ⟨h.1, h.2.1, h.2.2⟩⟩

/-- Only `s2` makes a slave a secondary one. -/
lemma bmcStateDecision_secondary (hstate : (bmcStateDecision erbest bestForeign n).1 = .slave)
    (hrole : (bmcStateDecision erbest bestForeign n).2.port.wr.wrSlaveRole = .secondarySlave) :
    (bmcStateDecision erbest bestForeign n).2 = s2 erbest.header (copyD0 n) := by
  generalize hr : bmcStateDecision erbest bestForeign n = r at hstate hrole ⊢
  unfold bmcStateDecision at hr
  dsimp only at hr
  generalize copyD0 n = m at hr ⊢
  -- Every other branch recommends another state or makes the port a primary slave.
  split_ifs at hr <;> subst hr <;> first | rfl | cases hrole | cases hstate

/-- A port that is made a secondary slave remembers the best master it hears exactly when the frame
it received last is the Announce message of this master. -/
theorem remembersErbest_iff (hstate : (bmcStateDecision erbest bestForeign n).1 = .slave)
    (hrole : (bmcStateDecision erbest bestForeign n).2.port.wr.wrSlaveRole = .secondarySlave) :
    RemembersErbest erbest (bmcStateDecision erbest bestForeign n).2.port ↔
      CarriesRecord n.port.msgIbuf n.port.secondaryForeignMaster.announce.wrFlags erbest := by
  rw [bmcStateDecision_secondary hstate hrole, carriesRecord_iff]
  constructor
  · intro h
    exact ⟨h.header, h.announce⟩
  · intro h
    exact ⟨h.1, h.2, rfl, rfl⟩

/-- A record of one grandmaster, heard from the given sender on the given port. -/
def pathRecord (sender : UInt8) (receptionPortNumber : UInt16) : ForeignMasterRecord :=
  let identity : PortIdentity := ⟨![2, 0, 0, 0xFF, 0xFE, 0, 0, sender], 1⟩
  { foreignMasterPortIdentity := identity
    foreignMasterAnnounceMessages := 2
    receptionPortNumber
    announce := announceOf ![2, 0, 0, 0xFF, 0xFE, 0, 0, 9] 0x0100
    header := { comparingPort.msgTmpHeader with sourcePortIdentity := identity } }

/-- The best master of the first port: the one of the second port is better by topology. -/
def secondBest : ForeignMasterRecord := pathRecord 8 1

/-- The best master of the clock. -/
def firstBest : ForeignMasterRecord := pathRecord 7 2

/-- The first port at a decision, when the frame it received last is of a third clock. -/
def decidingNode : Node :=
  { emptyingNode with
    port := { comparingPort with
      portState := .uncalibrated
      msgIbuf := announcedPort.msgIbuf }
    clk := { initDataClock (defaultRtOpts 2) false 0 default with priority1 := 128 } }

lemma decidingNode_secondary :
    (bmcStateDecision secondBest firstBest decidingNode).1 = .slave ∧
      (bmcStateDecision secondBest firstBest decidingNode).2.port.wr.wrSlaveRole =
        .secondarySlave := by
  decide +kernel

/-- The record of that frame. -/
def lastHeard : ForeignMasterRecord :=
  let header := msgUnpackHeader announcedPort.msgIbuf
  { foreignMasterPortIdentity := header.sourcePortIdentity
    foreignMasterAnnounceMessages := 0
    receptionPortNumber := 1
    announce := msgUnpackAnnounce announcedPort.msgIbuf
      decidingNode.port.secondaryForeignMaster.announce
    header }

/-- The same grandmaster on a shorter path. -/
def shorterPath : ForeignMasterRecord :=
  { lastHeard with
    foreignMasterPortIdentity := ⟨![2, 0, 0, 0xFF, 0xFE, 0, 0, 1], 1⟩
    receptionPortNumber := 2
    header := { lastHeard.header with sourcePortIdentity := ⟨![2, 0, 0, 0xFF, 0xFE, 0, 0, 1], 1⟩ } }

/-- When the best master it hears is the one it heard last, the port remembers this master. -/
theorem decidingNode_remembers :
    RemembersErbest lastHeard (bmcStateDecision lastHeard shorterPath decidingNode).2.port := by
  have hsecondary : (bmcStateDecision lastHeard shorterPath decidingNode).1 = .slave ∧
      (bmcStateDecision lastHeard shorterPath decidingNode).2.port.wr.wrSlaveRole =
        .secondarySlave := by
    decide +kernel
  exact (remembersErbest_iff hsecondary.1 hsecondary.2).mpr
    ((carriesRecord_iff _ _ _).mpr ⟨rfl, rfl⟩)

/-- The port is made a secondary slave and remembers another master. -/
theorem not_remembersErbest_decidingNode :
    (bmcStateDecision secondBest firstBest decidingNode).1 = .slave ∧
      (bmcStateDecision secondBest firstBest decidingNode).2.port.wr.wrSlaveRole =
        .secondarySlave ∧
      ¬RemembersErbest secondBest
        (bmcStateDecision secondBest firstBest decidingNode).2.port := by
  refine ⟨decidingNode_secondary.1, decidingNode_secondary.2, fun h => ?_⟩
  have hidentity := congrArg MsgHeader.sourcePortIdentity h.header
  revert hidentity
  decide +kernel

end SecondarySlave

end WhiteRabbitPtp
