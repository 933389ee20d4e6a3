import WhiteRabbitPtp.Correctness.Steps

/-!
# What a clock announces

An Announce message carries the grandmaster of the clock's parent data set, but the quality of the
clock itself. So a boundary clock forwards the data set of its parent only when its own quality is
the grandmaster's; and a clock that becomes the grandmaster itself announces its former parent's
grandmaster, since the parent data set is not written then.

## Main definitions

* `heard`: the Announce message of a port after it was sent and decoded.
* `Forwards`: an Announce message with the data set of a received one, one step further.
* `AnnouncesItself`: an Announce message with the clock's own data set.
* `BecomesGrandmaster`: the steps in which a clock becomes the grandmaster.

## Main results

* `heard_carries`: what an Announce message carries.
* `forwards_iff`: when a boundary clock forwards the data set of its parent.
* `announcesItself_iff`: when a grandmaster announces itself.
-/

namespace WhiteRabbitPtp

open Octets Buffer

/-! ### Sending and receiving an Announce message -/

/-- The Announce message that a port sends next, decoded from an input buffer over a former Announce
message. -/
def heard (msgIbuf : Buffer) (former : MsgAnnounce) (n : Node) : MsgAnnounce :=
  msgUnpackAnnounce (msgIbuf.load (announceFrame n)) former

/-- What an Announce message carries of the clock's data set. -/
structure Carries (announce : MsgAnnounce) (clk : PtpClockDS) : Prop where
  grandmasterPriority1 : announce.grandmasterPriority1 = clk.grandmasterPriority1
  grandmasterClockQuality : announce.grandmasterClockQuality = clk.clockQuality
  grandmasterPriority2 : announce.grandmasterPriority2 = clk.grandmasterPriority2
  grandmasterIdentity : announce.grandmasterIdentity = clk.grandmasterIdentity
  stepsRemoved : announce.stepsRemoved = clk.stepsRemoved
  timeSource : announce.timeSource = clk.timeSource

section Pack

variable (buf : Buffer) (clk : PtpClockDS) (port : PtpPortDS)

/-- The octets of a packed Announce message that carry the clock's data set. -/
theorem msgPackAnnounce_octets :
    msgPackAnnounce buf clk port 47 = clk.grandmasterPriority1 ∧
      msgPackAnnounce buf clk port 48 = clk.clockQuality.clockClass ∧
      msgPackAnnounce buf clk port 49 = clk.clockQuality.clockAccuracy ∧
      (msgPackAnnounce buf clk port).getBe16 50 = clk.clockQuality.offsetScaledLogVariance ∧
      msgPackAnnounce buf clk port 52 = clk.grandmasterPriority2 ∧
      msgPackAnnounce buf clk port 61 = clk.stepsRemoved.toUInt8 ∧
      msgPackAnnounce buf clk port 62 = (clk.stepsRemoved >>> 8).toUInt8 ∧
      msgPackAnnounce buf clk port 63 = clk.timeSource := by
  unfold msgPackAnnounce putWrTlv
  dsimp only [getBe16]
  split <;>
    simp (disch := decide) only [set_self, set_of_ne, putBe16_fst, putBe16_snd, putBe16_of_ne,
      copy_of_not_mem, word16_octets, and_self]

/-- The grandmaster's identity in a packed Announce message. -/
theorem msgPackAnnounce_identity :
    (msgPackAnnounce buf clk port).read 53 8 = clk.grandmasterIdentity := by
  funext k
  have hk := k.isLt
  unfold msgPackAnnounce putWrTlv
  dsimp only [Buffer.read]
  -- All later fields lie behind the identity.
  split <;> simp (disch := omega) only [set_of_ne, putBe16_of_ne, copy_apply]

end Pack

/-- What was announced is what is heard, whatever the input buffer held before. -/
theorem heard_carries (msgIbuf : Buffer) (former : MsgAnnounce) (n : Node) :
    Carries (heard msgIbuf former n) n.clk := by
  have hlength : 64 ≤
      if n.port.wr.wrConfig.hasAnnounceSuffix then WR_ANNOUNCE_LENGTH else ANNOUNCE_LENGTH := by
    split <;> decide
  obtain ⟨hp1, hclass, haccuracy, hvariance, hp2, hlow, hhigh, hsource⟩ :=
    msgPackAnnounce_octets n.port.msgObuf n.clk n.port
  have hidentity := msgPackAnnounce_identity n.port.msgObuf n.clk n.port
  unfold heard msgUnpackAnnounce announceFrame
  generalize (if n.port.wr.wrConfig.hasAnnounceSuffix then WR_ANNOUNCE_LENGTH
    else ANNOUNCE_LENGTH) = length at hlength
  have hoctet : ∀ i < 64,
      msgIbuf.load ((msgPackAnnounce n.port.msgObuf n.clk n.port).octets length) i =
        msgPackAnnounce n.port.msgObuf n.clk n.port i := fun i hi =>
    load_octets_apply _ _ _ _ (by omega)
  rw [getBe16_load_octets _ _ _ _ (by omega : 50 + 2 ≤ length),
    read_load_octets _ _ _ _ (by omega : 53 + 8 ≤ length), hoctet 47 (by decide),
    hoctet 48 (by decide), hoctet 49 (by decide), hoctet 52 (by decide), hoctet 61 (by decide),
    hoctet 62 (by decide), hoctet 63 (by decide), hp1, hclass, haccuracy, hvariance, hp2, hlow,
    hhigh, hsource, hidentity, octets_word16]
  -- The suffix of the message only concerns the flags.
  dsimp only
  split_ifs <;> constructor <;> rfl

/-! ### Boundary clocks -/

/-- An Announce message with the grandmaster of a received one, one step further. -/
structure Forwards (received forwarded : MsgAnnounce) : Prop where
  grandmasterIdentity : forwarded.grandmasterIdentity = received.grandmasterIdentity
  grandmasterPriority1 : forwarded.grandmasterPriority1 = received.grandmasterPriority1
  grandmasterClockQuality : forwarded.grandmasterClockQuality = received.grandmasterClockQuality
  grandmasterPriority2 : forwarded.grandmasterPriority2 = received.grandmasterPriority2
  stepsRemoved : forwarded.stepsRemoved.toNat = received.stepsRemoved.toNat + 1

/-- The next step of a 16-bit counter is one larger unless it wraps. -/
theorem stepsRemoved_succ_iff (steps : UInt16) :
    (steps + 1).toNat = steps.toNat + 1 ↔ steps ≠ 65535 := by
  have hlt := steps.toNat_lt
  rw [UInt16.toNat_add, Ne, ← UInt16.toNat_inj]
  simp only [UInt16.reduceToNat]
  omega

/-- A boundary clock forwards the data set that it installed from a received Announce message, on
any port, exactly when the quality of the clock is the received one and the number of steps does not
wrap. -/
theorem forwards_iff (header : MsgHeader) (received : MsgAnnounce) (n : Node) (port : PtpPortDS)
    (msgIbuf : Buffer) (former : MsgAnnounce) :
    Forwards received (heard msgIbuf former { s1 header received n with port }) ↔
      n.clk.clockQuality = received.grandmasterClockQuality ∧ received.stepsRemoved ≠ 65535 := by
  have hcarries := heard_carries msgIbuf former { s1 header received n with port }
  have hsteps := stepsRemoved_succ_iff received.stepsRemoved
  generalize heard msgIbuf former { s1 header received n with port } = forwarded at hcarries
  constructor
  · intro h
    refine ⟨?_, hsteps.mp ?_⟩
    · rw [← h.grandmasterClockQuality, hcarries.grandmasterClockQuality]
      rfl
    · rw [← h.stepsRemoved, hcarries.stepsRemoved]
      rfl
  · rintro ⟨hquality, hwrap⟩
    exact ⟨hcarries.grandmasterIdentity, hcarries.grandmasterPriority1,
      hcarries.grandmasterClockQuality.trans hquality, hcarries.grandmasterPriority2,
      by rw [hcarries.stepsRemoved]; exact hsteps.mpr hwrap⟩

/-- The Announce message of a primary reference clock. -/
def referenceAnnounce : MsgAnnounce :=
  { (Daemon.singleNode ![2, 0, 0, 0, 0, 2] .wrMaster).port.msgTmpAnnounce with
    grandmasterPriority1 := 64
    grandmasterClockQuality :=
      { clockClass := 6, clockAccuracy := 0x21, offsetScaledLogVariance := 0x4E5D }
    grandmasterPriority2 := 128
    grandmasterIdentity := ![2, 0, 0, 0xFF, 0xFE, 0, 0, 2] }

/-- A boundary clock of the default quality does not forward that message. -/
theorem forwards_fails :
    ¬∀ (header : MsgHeader) (received : MsgAnnounce) (n : Node) (port : PtpPortDS)
      (msgIbuf : Buffer) (former : MsgAnnounce),
      Forwards received (heard msgIbuf former { s1 header received n with port }) := by
  intro h
  let n := Daemon.singleNode ![2, 0, 0, 0, 0, 1] .wrMAndS
  have hforwards := h n.port.msgTmpHeader referenceAnnounce n n.port n.port.msgIbuf
    n.port.msgTmpAnnounce
  have hquality := hforwards.grandmasterClockQuality
  rw [(heard_carries _ _ _).grandmasterClockQuality] at hquality
  exact absurd hquality (by decide +kernel)

/-! ### Grandmasters -/

/-- An Announce message with the clock's own data set, as `copyD0` builds it. -/
structure AnnouncesItself (n : Node) (announce : MsgAnnounce) : Prop where
  grandmasterPriority1 : announce.grandmasterPriority1 =
    (copyD0 n).port.msgTmpAnnounce.grandmasterPriority1
  grandmasterClockQuality : announce.grandmasterClockQuality =
    (copyD0 n).port.msgTmpAnnounce.grandmasterClockQuality
  grandmasterPriority2 : announce.grandmasterPriority2 =
    (copyD0 n).port.msgTmpAnnounce.grandmasterPriority2
  grandmasterIdentity : announce.grandmasterIdentity =
    (copyD0 n).port.msgTmpAnnounce.grandmasterIdentity
  stepsRemoved : announce.stepsRemoved = 0

/-- The parent data set of the clock already names the clock itself. -/
structure OwnParent (n : Node) : Prop where
  grandmasterPriority1 : n.clk.grandmasterPriority1 = n.clk.priority1
  grandmasterPriority2 : n.clk.grandmasterPriority2 = n.clk.priority2
  grandmasterIdentity : n.clk.grandmasterIdentity = n.port.clockIdentity
  stepsRemoved : n.clk.stepsRemoved = 0

/-- The clock becomes the grandmaster by a step of its only port, which has no live foreign master
left: by a state decision, or because no Announce message was received for too long. -/
inductive BecomesGrandmaster (rtOpts : RunTimeOpts) (n : Node) : Node → Prop
  | decision {bestForeign : ForeignMasterRecord} : n.clk.numberPorts = 1 →
      n.port.fm.numberForeignRecords = 0 →
      n.port.portState.decides = true → n.clk.globalStateDecisionEvent = true →
      n.port.wr.wrPortState = .idle → (bmc bestForeign (deciding n)).1 = .master →
      BecomesGrandmaster rtOpts n (stateDecision rtOpts bestForeign n)
  | timeOut : n.clk.numberPorts = 1 → n.port.wr.wrConfig ≠ .wrSOnly →
      n.clk.clockQuality.clockClass ≠ 255 →
      BecomesGrandmaster rtOpts n (announceReceiptTimeoutExpires rtOpts n)

/-- What becoming the grandmaster leaves alone: what the clock announces, and its own data. -/
structure ParentKept (n n' : Node) : Prop where
  grandmasterPriority1 : n'.clk.grandmasterPriority1 = n.clk.grandmasterPriority1
  grandmasterPriority2 : n'.clk.grandmasterPriority2 = n.clk.grandmasterPriority2
  grandmasterIdentity : n'.clk.grandmasterIdentity = n.clk.grandmasterIdentity
  stepsRemoved : n'.clk.stepsRemoved = n.clk.stepsRemoved
  priority1 : n'.clk.priority1 = n.clk.priority1
  priority2 : n'.clk.priority2 = n.clk.priority2
  clockIdentity : n'.port.clockIdentity = n.port.clockIdentity

section Grandmaster

variable {rtOpts : RunTimeOpts} {n n' n'' : Node}

theorem ParentKept.trans (h : ParentKept n n') (h' : ParentKept n' n'') : ParentKept n n'' where
  grandmasterPriority1 := h'.grandmasterPriority1.trans h.grandmasterPriority1
  grandmasterPriority2 := h'.grandmasterPriority2.trans h.grandmasterPriority2
  grandmasterIdentity := h'.grandmasterIdentity.trans h.grandmasterIdentity
  stepsRemoved := h'.stepsRemoved.trans h.stepsRemoved
  priority1 := h'.priority1.trans h.priority1
  priority2 := h'.priority2.trans h.priority2
  clockIdentity := h'.clockIdentity.trans h.clockIdentity

theorem Frame.parentKept (h : Frame n n') : ParentKept n n' := by
  constructor <;> first | rw [h.clk] | exact h.clockIdentity

/-- A decision for `PTP_MASTER` does not write the parent data set. -/
theorem bmc_master_parentKept {bestForeign : ForeignMasterRecord}
    (h : (bmc bestForeign n).1 = .master) : ParentKept n (bmc bestForeign n).2 := by
  have hcopy : ParentKept n (copyD0 n) := by constructor <;> rfl
  have hupdate {m : Node} {r : PtpState × Node} (hr : BmcUpdate m r) (hmaster : r.1 = .master) :
      ParentKept m r.2 := by
    cases hr with
    | m1 | m3 => constructor <;> rfl
    | p1 | s1 | s2 | passive | listening => cases hmaster
  exact (bmc_update n bestForeign).elim (hupdate · h) fun hr => hcopy.trans (hupdate hr h)

/-- Becoming the grandmaster does not write the parent data set. -/
theorem BecomesGrandmaster.parentKept (h : BecomesGrandmaster rtOpts n n') : ParentKept n n' := by
  have hm1 : ∀ m : Node, ParentKept m (m1 m) := fun m => by constructor <;> rfl
  cases h with
  | decision _ _ hdecides hevent hidle hmaster =>
    rw [stateDecision_of rtOpts n _ ⟨hdecides, hevent, hidle⟩, hmaster]
    have hdeciding : ParentKept n (deciding n) := by constructor <;> rfl
    exact (hdeciding.trans (bmc_master_parentKept hmaster)).trans
      (followRecommendation_frame rtOpts _ _).parentKept
  | timeOut _ honly hclass =>
    have hforget : ParentKept n (forgetMasters n) := by constructor <;> rfl
    rw [announceReceiptTimeoutExpires_eq, if_pos ⟨honly, hclass⟩]
    exact (hforget.trans (hm1 _)).trans (toState_frame rtOpts _ _).parentKept

/-- A clock that becomes the grandmaster announces itself exactly when its parent data set already
named the clock itself. -/
theorem announcesItself_iff (h : BecomesGrandmaster rtOpts n n') (msgIbuf : Buffer)
    (former : MsgAnnounce) :
    AnnouncesItself n' (heard msgIbuf former n') ↔ OwnParent n := by
  have hcarries := heard_carries msgIbuf former n'
  have hkept := h.parentKept
  generalize heard msgIbuf former n' = announce at hcarries
  -- `copyD0` copies the clock's own data set, which is kept on becoming grandmaster.
  have hD0 : (copyD0 n').port.msgTmpAnnounce.grandmasterPriority1 = n.clk.priority1 ∧
      (copyD0 n').port.msgTmpAnnounce.grandmasterPriority2 = n.clk.priority2 ∧
      (copyD0 n').port.msgTmpAnnounce.grandmasterIdentity = n.port.clockIdentity :=
    ⟨hkept.priority1, hkept.priority2, hkept.clockIdentity⟩
  obtain ⟨hp1, hp2, hid⟩ := hD0
  constructor
  · intro hitself
    constructor
    · rw [← hkept.grandmasterPriority1, ← hcarries.grandmasterPriority1,
        hitself.grandmasterPriority1, hp1]
    · rw [← hkept.grandmasterPriority2, ← hcarries.grandmasterPriority2,
        hitself.grandmasterPriority2, hp2]
    · rw [← hkept.grandmasterIdentity, ← hcarries.grandmasterIdentity,
        hitself.grandmasterIdentity, hid]
    · rw [← hkept.stepsRemoved, ← hcarries.stepsRemoved, hitself.stepsRemoved]
  · intro hown
    constructor
    · rw [hcarries.grandmasterPriority1, hkept.grandmasterPriority1, hown.grandmasterPriority1,
        hp1]
    · exact hcarries.grandmasterClockQuality
    · rw [hcarries.grandmasterPriority2, hkept.grandmasterPriority2, hown.grandmasterPriority2,
        hp2]
    · rw [hcarries.grandmasterIdentity, hkept.grandmasterIdentity, hown.grandmasterIdentity, hid]
    · rw [hcarries.stepsRemoved, hkept.stepsRemoved, hown.stepsRemoved]

end Grandmaster

/-- A port of a single-port clock that was just initialized, and that may become a slave or a
master. -/
def freshNode : Node := Daemon.singleNode ![2, 0, 0, 0, 0, 1] .wrMAndS

theorem freshNode_becomesGrandmaster :
    BecomesGrandmaster (defaultRtOpts 1) freshNode
      (announceReceiptTimeoutExpires (defaultRtOpts 1) freshNode) :=
  .timeOut (by decide +kernel) (by decide +kernel) (by decide +kernel)

/-- The same port in a clock whose parent data set names the clock itself. -/
def settledNode : Node :=
  { freshNode with
    clk := { freshNode.clk with
      grandmasterPriority1 := freshNode.clk.priority1
      grandmasterPriority2 := freshNode.clk.priority2
      grandmasterIdentity := freshNode.port.clockIdentity
      stepsRemoved := 0 } }

/-- The settled clock announces itself when it becomes the grandmaster. -/
theorem announcesItself_settledNode :
    AnnouncesItself (announceReceiptTimeoutExpires (defaultRtOpts 1) settledNode)
      (heard freshNode.port.msgIbuf freshNode.port.msgTmpAnnounce
        (announceReceiptTimeoutExpires (defaultRtOpts 1) settledNode)) :=
  (announcesItself_iff
    (.timeOut (by decide +kernel) (by decide +kernel) (by decide +kernel)) _ _).mpr
    ⟨rfl, rfl, rfl, rfl⟩

/-- A clock that becomes the grandmaster for the first time announces no clock at all. -/
theorem announcesItself_fails :
    ¬∀ (rtOpts : RunTimeOpts) (n n' : Node), BecomesGrandmaster rtOpts n n' →
      ∀ (msgIbuf : Buffer) (former : MsgAnnounce),
        AnnouncesItself n' (heard msgIbuf former n') := by
  intro h
  have hitself := h _ _ _ freshNode_becomesGrandmaster freshNode.port.msgIbuf
    freshNode.port.msgTmpAnnounce
  have hp1 := hitself.grandmasterPriority1
  rw [(heard_carries _ _ _).grandmasterPriority1] at hp1
  exact absurd hp1 (by decide +kernel)

end WhiteRabbitPtp
