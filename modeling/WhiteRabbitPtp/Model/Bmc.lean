import WhiteRabbitPtp.Lib.LinearSearch
import WhiteRabbitPtp.Model.Environment
import WhiteRabbitPtp.Model.Msg

/-!
# The best master clock algorithm

The modified best master clock algorithm of `bmc.c`: the comparison of two data sets, the state
decision of a port with the actions it takes on the data sets, and the searches for the best
foreign master of a port (`ErBest`) and of the clock (`EBest`).

## Main definitions

* `bmcDataSetComparison`: the data set comparison.
* `m1`, `m3`, `p1`, `s1`, `s2`: the actions of a state decision.
* `bmcStateDecision`, `bmc`: the state decision, with the recommended state.
* `ErBest`, `EBest`: the searches for the best foreign master.
-/

namespace WhiteRabbitPtp

open Octets LinearSearch

/-! ### Data set comparison -/

/-- Results of a comparison. -/
abbrev A_better_by_topology_then_B : ℤ := -2
@[inherit_doc A_better_by_topology_then_B]
abbrev A_better_then_B : ℤ := -1
@[inherit_doc A_better_by_topology_then_B]
abbrev B_better_then_A : ℤ := 1
@[inherit_doc A_better_by_topology_then_B]
abbrev B_better_by_topology_then_A : ℤ := 2
@[inherit_doc A_better_by_topology_then_B]
abbrev A_equals_B : ℤ := 0
@[inherit_doc A_better_by_topology_then_B]
abbrev DSC_error : ℤ := 0

/-- The result that follows from a `memcmp` of one attribute of the two grandmasters. -/
def betterByAttribute (comp : ℤ) : ℤ :=
  if comp < 0 then A_better_then_B else if 0 < comp then B_better_then_A else DSC_error

/-- First part of the comparison, for different grandmasters. Every attribute but the identity is
compared by its octet at the lowest address. -/
def compareGrandmasters (announceA announceB : MsgAnnounce) : ℤ :=
  let qualityA := announceA.grandmasterClockQuality
  let qualityB := announceB.grandmasterClockQuality
  if announceA.grandmasterPriority1 = announceB.grandmasterPriority1 then
    if qualityA.clockClass = qualityB.clockClass then
      if qualityA.clockAccuracy = qualityB.clockAccuracy then
        if qualityA.offsetScaledLogVariance = qualityB.offsetScaledLogVariance then
          if announceA.grandmasterPriority2 = announceB.grandmasterPriority2 then
            betterByAttribute
              (memcmp announceA.grandmasterIdentity announceB.grandmasterIdentity)
          else
            betterByAttribute (memcmp (octet announceA.grandmasterPriority2)
              (octet announceB.grandmasterPriority2))
        else
          -- The octet at the lowest address of a 16-bit word is the low one on the host.
          betterByAttribute (memcmp (octet qualityA.offsetScaledLogVariance.toUInt8)
            (octet qualityB.offsetScaledLogVariance.toUInt8))
      else
        betterByAttribute (memcmp (octet qualityA.clockAccuracy) (octet qualityB.clockAccuracy))
    else
      betterByAttribute (memcmp (octet qualityA.clockClass) (octet qualityB.clockClass))
  else
    betterByAttribute (memcmp (octet announceA.grandmasterPriority1)
      (octet announceB.grandmasterPriority1))

/-- Second part of the comparison, for one grandmaster: the paths to it are compared. -/
def comparePaths (headerA : MsgHeader) (announceA : MsgAnnounce) (receptionPortNumberA : UInt16)
    (headerB : MsgHeader) (announceB : MsgAnnounce) (receptionPortNumberB : UInt16)
    (receiver : ClockIdentity) : ℤ :=
  let stepsA := announceA.stepsRemoved.toNat
  let stepsB := announceB.stepsRemoved.toNat
  let senderA := headerA.sourcePortIdentity.clockIdentity
  let senderB := headerB.sourcePortIdentity.clockIdentity
  if stepsB + 1 < stepsA then B_better_then_A
  else if stepsA + 1 < stepsB then A_better_then_B
  else if stepsB < stepsA then
    -- Identities of the receiver and of the sender of A.
    if memcmp senderA receiver = 0 then A_equals_B
    else if 0 < memcmp senderA receiver then B_better_then_A
    else B_better_by_topology_then_A
  else if stepsA < stepsB then
    -- Identities of the receiver and of the sender of B.
    if memcmp senderB receiver = 0 then A_equals_B
    else if 0 < memcmp senderB receiver then A_better_then_B
    else A_better_by_topology_then_B
  else if memcmp senderA senderB = 0 then
    if receptionPortNumberA < receptionPortNumberB then A_better_by_topology_then_B
    else if receptionPortNumberB < receptionPortNumberA then B_better_by_topology_then_A
    else A_equals_B
  else if memcmp senderA senderB < 0 then A_better_by_topology_then_B
  else B_better_by_topology_then_A

/-- Data set comparison between two foreign masters. A reception port number of `0` marks an empty
record. -/
def bmcDataSetComparison (headerA : MsgHeader) (announceA : MsgAnnounce)
    (receptionPortNumberA : UInt16) (headerB : MsgHeader) (announceB : MsgAnnounce)
    (receptionPortNumberB : UInt16) (port : PtpPortDS) : ℤ :=
  if receptionPortNumberA = 0 ∧ receptionPortNumberB = 0 then DSC_error
  else if receptionPortNumberB = 0 then A_better_then_B
  else if receptionPortNumberA = 0 then B_better_then_A
  else if memcmp announceA.grandmasterIdentity announceB.grandmasterIdentity = 0 then
    comparePaths headerA announceA receptionPortNumberA headerB announceB receptionPortNumberB
      port.portIdentity.clockIdentity
  else compareGrandmasters announceA announceB

/-- Data set comparison between two records. -/
def compareRecords (a b : ForeignMasterRecord) (port : PtpPortDS) : ℤ :=
  bmcDataSetComparison a.header a.announce a.receptionPortNumber b.header b.announce
    b.receptionPortNumber port

/-! ### Actions of a state decision -/

/-- Local clock is becoming master. The part of the source that would copy the clock's own
attributes into its parent data set is switched off there. -/
def m1 (n : Node) : Node :=
  { n with
    port.wr := { n.port.wr with
      parentWrConfig := n.port.wr.wrConfig
      parentIsWRnode := n.port.wr.wrConfig ≠ .nonWr
      parentWrModeON := n.port.wr.wrModeON
      parentCalibrated := n.port.wr.calibrated
      wrSlaveRole := .nonSlave }
    clk := { n.clk with
      timeSource := 0xA0
      primarySlavePortNumber := 0 } }

/-- Local clock is master on this port but has a parent on another one. -/
def m3 (n : Node) : Node := { n with port.wr.wrSlaveRole := .nonSlave }

/-- The port is becoming passive. -/
def p1 (n : Node) : Node := { n with port.wr.wrSlaveRole := .nonSlave }

/-- Local clock is synchronized to the sender of the given Announce message. -/
def s1 (header : MsgHeader) (announce : MsgAnnounce) (n : Node) : Node :=
  { n with
    clk := { n.clk with
      stepsRemoved := announce.stepsRemoved + 1
      parentPortIdentity := header.sourcePortIdentity
      grandmasterIdentity := announce.grandmasterIdentity
      grandmasterClockQuality := announce.grandmasterClockQuality
      grandmasterPriority1 := announce.grandmasterPriority1
      grandmasterPriority2 := announce.grandmasterPriority2
      primarySlavePortNumber := n.port.portIdentity.portNumber
      currentUtcOffset := announce.currentUtcOffset
      -- The flags of the second octet are tested bit by bit.
      currentUtcOffsetValid := header.flagField 1 &&& 0x04 = 0x04
      leap59 := header.flagField 1 &&& 0x02 = 0x02
      leap61 := header.flagField 1 &&& 0x01 = 0x01
      timeTraceable := header.flagField 1 &&& 0x10 = 0x10
      frequencyTraceable := header.flagField 1 &&& 0x20 = 0x20
      ptpTimescale := header.flagField 1 &&& 0x08 = 0x08
      timeSource := announce.timeSource }
    port.wr := { n.port.wr with
      parentIsWRnode := WrConfig.ofFlags announce.wrFlags ≠ .nonWr
      parentWrModeON := announce.wrFlags &&& WR_IS_WR_MODE = WR_IS_WR_MODE
      parentCalibrated := announce.wrFlags &&& WR_IS_CALIBRATED = WR_IS_CALIBRATED
      parentWrConfig := WrConfig.ofFlags announce.wrFlags
      wrSlaveRole := .primarySlave } }

/-- The port is becoming a secondary slave. Header and Announce data are taken from the input
buffer, whatever it holds. -/
def s2 (header : MsgHeader) (n : Node) : Node :=
  { n with
    port.wr.wrSlaveRole := .secondarySlave
    port.secondaryForeignMaster := { n.port.secondaryForeignMaster with
      foreignMasterPortIdentity := header.sourcePortIdentity
      foreignMasterAnnounceMessages := 0
      header := msgUnpackHeader n.port.msgIbuf
      announce := msgUnpackAnnounce n.port.msgIbuf n.port.secondaryForeignMaster.announce
      receptionPortNumber := n.port.portIdentity.portNumber } }

/-- The clock's own data set in the form of an Announce message. -/
def copyD0Announce (announce : MsgAnnounce) (clk : PtpClockDS) (port : PtpPortDS) : MsgAnnounce :=
  let wr_flags := (announce.wrFlags ||| port.wr.wrConfig.toFlags) &&& 3
  let wr_flags := wr_flags ||| port.wr.calibrated.toUInt8 <<< 2
  let wr_flags := wr_flags ||| port.wr.wrModeON.toUInt8 <<< 3
  { announce with
    grandmasterPriority1 := clk.priority1
    grandmasterIdentity := port.clockIdentity
    grandmasterClockQuality := clk.clockQuality
    grandmasterPriority2 := clk.priority2
    stepsRemoved := 0
    wrFlags := wr_flags }

/-- The clock's own identity in the form of a message header. -/
def copyD0Header (header : MsgHeader) (port : PtpPortDS) : MsgHeader :=
  { header with sourcePortIdentity.clockIdentity := port.clockIdentity }

/-- Copy the local data set into the temporary header and Announce message of the port. -/
def copyD0 (n : Node) : Node :=
  { n with
    port.msgTmpHeader := copyD0Header n.port.msgTmpHeader n.port
    port.msgTmpAnnounce := copyD0Announce n.port.msgTmpAnnounce n.clk n.port }

/-! ### State decision -/

/-- State decision algorithm for the best record `Erbest` of the port and the clock's best record
`bestForeign`; returns the recommended state. -/
def bmcStateDecision (erbest bestForeign : ForeignMasterRecord) (n : Node) : PtpState × Node :=
  if n.port.wr.wrConfig = .wrSOnly then (.slave, s1 erbest.header erbest.announce n)
  else if n.port.wr.wrConfig = .wrMOnly then (.master, m1 n)
  else if n.port.fm.numberForeignRecords = 0 ∧ n.port.portState = .listening then (.listening, n)
  else
    let n := copyD0 n
    -- A clock of these classes does not become a slave here.
    if n.clk.clockQuality.clockClass < 128 then
      let comp := bmcDataSetComparison n.port.msgTmpHeader n.port.msgTmpAnnounce
        n.port.portIdentity.portNumber erbest.header erbest.announce erbest.receptionPortNumber
        n.port
      if comp < 0 then (.master, m1 n)
      else if 0 < comp then (.passive, p1 n)
      else (.passive, n)
    else
      let comp := bmcDataSetComparison n.port.msgTmpHeader n.port.msgTmpAnnounce
        n.port.portIdentity.portNumber bestForeign.header bestForeign.announce
        bestForeign.receptionPortNumber n.port
      if comp < 0 then (.master, m1 n)
      else if 0 < comp then
        -- The best master is heard on this port.
        if bestForeign.receptionPortNumber = n.port.portIdentity.portNumber then
          (.slave, s1 erbest.header erbest.announce n)
        else
          let comp := compareRecords bestForeign erbest n.port
          if comp = A_better_by_topology_then_B then (.slave, s2 erbest.header n)
          else (.master, m3 n)
      else (.passive, n)

/-- The best master clock algorithm on one port; returns the recommended state. -/
def bmc (bestForeign : ForeignMasterRecord) (n : Node) : PtpState × Node :=
  if n.clk.Ebest < 0 ∧ n.port.portState = .master then (.master, m1 n)
  else bmcStateDecision (n.port.fm.foreign n.port.fm.foreignRecordBest) bestForeign n

/-! ### Best foreign masters -/

/-- Whether record `i` of a table beats record `b` for the given port. -/
def recordBeats (foreignMaster : ℕ → ForeignMasterRecord) (port : PtpPortDS) (i b : ℕ) : Prop :=
  compareRecords (foreignMaster i) (foreignMaster b) port < 0

instance (foreignMaster : ℕ → ForeignMasterRecord) (port : PtpPortDS) :
    DecidableRel (recordBeats foreignMaster port) := fun _ _ => by
  unfold recordBeats
  infer_instance

/-- Remember the best of the records of a table in the data set of the port. A table has at most
`maxForeignRecords` of them, fewer than `2 ^ 15`, so the 16-bit index of the search does not wrap.
-/
def ErBest (foreignMaster : ℕ → ForeignMasterRecord) (port : PtpPortDS) : PtpPortDS :=
  if port.fm.numberForeignRecords = 0 then { port with fm.foreignRecordBest := 0 }
  else
    let best := bestFrom (recordBeats foreignMaster port) 0 port.fm.numberForeignRecords
    { port with fm.foreignRecordBest := best }

/-- The best record of a port. -/
def PtpPortDS.erbest (port : PtpPortDS) : ForeignMasterRecord :=
  port.fm.foreign port.fm.foreignRecordBest

/-- Whether port `i` has a foreign master and its best record beats that of port `b`. -/
def portBeats (ports : ℕ → PtpPortDS) (i b : ℕ) : Prop :=
  (ports i).fm.numberForeignRecords ≠ 0 ∧
    compareRecords (ports i).erbest (ports b).erbest (ports 0) < 0

instance (ports : ℕ → PtpPortDS) : DecidableRel (portBeats ports) := fun _ _ => by
  unfold portBeats
  infer_instance

/-- The index `EBest` ends at: the search starts at the first port with a foreign master, or at
`numberPorts` when there is none. -/
def ebestIndex (ports : ℕ → PtpPortDS) (numberPorts : ℕ) : ℕ :=
  bestFrom (portBeats ports)
    (firstIndex (fun i => 0 < (ports i).fm.numberForeignRecords) numberPorts) numberPorts

/-- Remember the port with the best foreign master, and that record, in the clock's data set. -/
def EBest (ports : ℕ → PtpPortDS) (clk : PtpClockDS) : PtpClockDS :=
  let ebest := ebestIndex ports clk.numberPorts
  { clk with
    Ebest := ebest
    bestForeign := (ebest, (ports ebest).fm.foreignRecordBest) }

end WhiteRabbitPtp
