import WhiteRabbitPtp.Correctness.DataSetOrder
import WhiteRabbitPtp.Correctness.ForeignTable
import WhiteRabbitPtp.Correctness.Packing

/-!
# The record an Announce message is stored in

`addForeign` stores an Announce message in the one record of its sender and leaves the other records
alone, as long as the table is filled in ring order. What it stores is the message as far as the
message has a White Rabbit suffix: without one the flags of the former Announce message in this
record remain, also when it was another master's.

## Main definitions

* `InRingOrder`: a table that is filled in ring order, with a record for each of its senders.
* `UpdatesOne`: what storing an Announce message is to do with the table.
* `DependsOnMessageOnly`: a stored Announce message does not depend on what was there before.

## Main results

* `addForeign_updatesOne`: the message is stored as it is to be, and the table stays in order.
* `dependsOnMessageOnly_iff`: the Announce messages that are stored as they are.
-/

namespace WhiteRabbitPtp

open Octets

/-! ### One record for each sender -/

/-- A table that is filled in ring order and has at most one record for a sender. -/
structure InRingOrder (fm : ForeignMasterDS) : Prop where
  max_pos : 1 ≤ fm.maxForeignRecords
  number_le : fm.numberForeignRecords ≤ fm.maxForeignRecords
  best_lt : fm.foreignRecordBest < max 1 fm.numberForeignRecords
  distinct : ∀ i < fm.numberForeignRecords, ∀ j < fm.numberForeignRecords,
    (fm.foreign i).foreignMasterPortIdentity = (fm.foreign j).foreignMasterPortIdentity → i = j
  i_eq : fm.numberForeignRecords < fm.maxForeignRecords →
    fm.foreignRecordI = fm.numberForeignRecords
  i_lt : fm.foreignRecordI < fm.maxForeignRecords

/-- Record `i` is the live record of a sender. -/
def IsRecordOf (fm : ForeignMasterDS) (sender : PortIdentity) (i : ℕ) : Prop :=
  i < fm.numberForeignRecords ∧ (fm.foreign i).foreignMasterPortIdentity = sender

/-- Storing the Announce message of a sender updates exactly one record: its own one, or a new one,
or the one at the cursor of a full table. -/
structure UpdatesOne (sender : PortIdentity) (buf : Buffer) (fm fm' : ForeignMasterDS) : Prop where
  unique : ∃! i, IsRecordOf fm' sender i
  decodes : ∀ i, IsRecordOf fm' sender i → Decodes buf (fm.foreign i) (fm'.foreign i)
  known : ∀ i, IsRecordOf fm sender i →
    fm' = { fm with foreign := Function.update fm.foreign i (fm'.foreign i) }
  added : (∀ i, ¬IsRecordOf fm sender i) → fm.numberForeignRecords < fm.maxForeignRecords →
    fm'.numberForeignRecords = fm.numberForeignRecords + 1 ∧
      ∀ i < fm.numberForeignRecords, fm'.foreign i = fm.foreign i
  replaced : (∀ i, ¬IsRecordOf fm sender i) → fm.numberForeignRecords = fm.maxForeignRecords →
    fm'.numberForeignRecords = fm.numberForeignRecords ∧
      IsRecordOf fm' sender fm.foreignRecordI ∧
        ∀ i ≠ fm.foreignRecordI, fm'.foreign i = fm.foreign i
  inRingOrder : InRingOrder fm'

section AddForeign

variable {fm : ForeignMasterDS} {sender : PortIdentity} {buf : Buffer}
  {record : ForeignMasterRecord}

/-- The search finds the record of a sender, and finds none when there is none. -/
lemma findForeign_cases (h : InRingOrder fm) (sender : PortIdentity) :
    (∃ k, findForeign fm sender fm.numberForeignRecords fm.foreignRecordBest = some k ∧
        IsRecordOf fm sender k) ∨
      findForeign fm sender fm.numberForeignRecords fm.foreignRecordBest = none ∧
        ∀ i, ¬IsRecordOf fm sender i := by
  have hbest := h.best_lt
  cases hfind : findForeign fm sender fm.numberForeignRecords fm.foreignRecordBest with
  | some k =>
    have hpos : 0 < fm.numberForeignRecords := by
      by_contra hzero
      rw [show fm.numberForeignRecords = 0 by omega] at hfind
      cases hfind
    obtain ⟨hlt, hidentity⟩ := findForeign_some (by omega) hfind
    exact .inl ⟨k, rfl, hlt, hidentity.symm⟩
  | none =>
    refine .inr ⟨rfl, fun i hi => ?_⟩
    have hlt := hi.1
    exact findForeign_none (by omega) hfind i hlt hi.2.symm

/-- The record of a known sender is overwritten in its place. -/
lemma updatesOne_known {k : ℕ} (h : InRingOrder fm) (hk : IsRecordOf fm sender k)
    (hidentity : record.foreignMasterPortIdentity = (fm.foreign k).foreignMasterPortIdentity)
    (hdecodes : Decodes buf (fm.foreign k) record) :
    UpdatesOne sender buf fm { fm with foreign := Function.update fm.foreign k record } := by
  have hidentities : ∀ i, (Function.update fm.foreign k record i).foreignMasterPortIdentity =
      (fm.foreign i).foreignMasterPortIdentity := by
    intro i
    by_cases hik : i = k
    · rw [hik, Function.update_self, hidentity]
    · rw [Function.update_of_ne hik]
  have honly : ∀ i, IsRecordOf fm sender i → i = k := fun i hi =>
    h.distinct i hi.1 k hk.1 (hi.2.trans hk.2.symm)
  have hrecord :
      ∀ i, IsRecordOf { fm with foreign := Function.update fm.foreign k record } sender i →
      i = k := fun i hi => honly i ⟨hi.1, (hidentities i).symm.trans hi.2⟩
  refine ⟨⟨k, ⟨hk.1, (hidentities k).trans hk.2⟩, hrecord⟩, fun i hi => ?_, fun i hi => ?_,
    fun hnone => absurd hk (hnone k), fun hnone => absurd hk (hnone k), ?_⟩
  · dsimp only
    rwa [hrecord i hi, Function.update_self]
  · dsimp only
    rw [honly i hi, Function.update_self]
  · refine { h with distinct := fun i hi j hj hij => ?_ }
    rw [hidentities, hidentities] at hij
    exact h.distinct i hi j hj hij

/-- A new sender gets the record at the cursor, which is the one behind the last live record of a
table that is not full. -/
lemma updatesOne_new (h : InRingOrder fm) (hnone : ∀ i, ¬IsRecordOf fm sender i)
    (hidentity : record.foreignMasterPortIdentity = sender)
    (hdecodes : Decodes buf (fm.foreign fm.foreignRecordI) record) :
    UpdatesOne sender buf fm { fm with
      foreign := Function.update fm.foreign fm.foreignRecordI record
      numberForeignRecords :=
        if fm.numberForeignRecords < fm.maxForeignRecords then fm.numberForeignRecords + 1
        else fm.numberForeignRecords
      foreignRecordI := (fm.foreignRecordI + 1) % fm.maxForeignRecords } := by
  obtain ⟨hmax, hnumber, hbest, hdistinct, hi_eq, hi_lt⟩ := h
  generalize hcursor : fm.foreignRecordI = c at *
  set fm' : ForeignMasterDS := { fm with
    foreign := Function.update fm.foreign c record
    numberForeignRecords :=
      if fm.numberForeignRecords < fm.maxForeignRecords then fm.numberForeignRecords + 1
      else fm.numberForeignRecords
    foreignRecordI := (c + 1) % fm.maxForeignRecords } with hfm'
  have hself : fm'.foreign c = record := Function.update_self _ _ _
  have hother : ∀ i ≠ c, fm'.foreign i = fm.foreign i := fun i hi => Function.update_of_ne hi _ _
  -- Live are the new record and those that were live before.
  have hlive : ∀ i, i < fm'.numberForeignRecords ↔ i = c ∨ i < fm.numberForeignRecords := by
    intro i
    rw [hfm']
    dsimp only
    split_ifs with hfull
    · have := hi_eq hfull
      omega
    · omega
  have hrecord : ∀ i, IsRecordOf fm' sender i → i = c := by
    intro i hi
    by_contra hne
    rw [IsRecordOf, hlive, hother i hne] at hi
    exact hnone i ⟨hi.1.resolve_left hne, hi.2⟩
  have hown : IsRecordOf fm' sender c := ⟨(hlive c).mpr (.inl rfl), by rw [hself, hidentity]⟩
  refine ⟨⟨c, hown, hrecord⟩, fun i hi => ?_, fun i hi => absurd hi (hnone i), fun _ hlt => ?_,
    fun _ hfull => ?_, ?_⟩
  · rwa [hrecord i hi, hself]
  · exact ⟨if_pos hlt, fun i hi => hother i (by have := hi_eq hlt; omega)⟩
  · rw [hcursor]
    exact ⟨if_neg (by omega), hown, hother⟩
  · have hnew : ∀ i < fm.numberForeignRecords,
        record.foreignMasterPortIdentity ≠ (fm.foreign i).foreignMasterPortIdentity :=
      fun i hi hsender => hnone i ⟨hi, hsender.symm.trans hidentity⟩
    refine ⟨hmax, ?_, ?_, distinct_update hdistinct hnew fun i => (hlive i).mp, fun hlt => ?_,
      Nat.mod_lt _ (by omega)⟩
    · rw [hfm']
      dsimp only
      split_ifs <;> omega
    · rw [hfm']
      dsimp only
      split_ifs <;> omega
    · rw [hfm'] at hlt ⊢
      dsimp only at hlt ⊢
      split_ifs at hlt ⊢ with hfree
      · rw [hi_eq hfree, Nat.mod_eq_of_lt hlt]
      · omega

/-- An Announce message is stored in exactly one record, and the table stays in order. -/
theorem addForeign_updatesOne (header : MsgHeader) (port : PtpPortDS) (h : InRingOrder port.fm) :
    UpdatesOne header.sourcePortIdentity port.msgIbuf port.fm (addForeign header port).fm := by
  rcases findForeign_cases h header.sourcePortIdentity with ⟨k, hfind, hk⟩ | ⟨hfind, hnone⟩
  · obtain ⟨record, hidentity, hdecodes, heq⟩ := addForeign_known port.fm header port hfind
    rw [heq]
    exact updatesOne_known h hk hidentity hdecodes
  · obtain ⟨record, hidentity, hdecodes, heq⟩ := addForeign_new port.fm header port hfind
    rw [heq]
    exact updatesOne_new h hnone hidentity hdecodes

/-- A port that has heard as many other masters as its table holds, at the arrival of an Announce
message of a new one. -/
def fullPort : PtpPortDS :=
  let port := (List.range announcedPort.fm.maxForeignRecords).foldl (fun port i =>
    let header := msgUnpackHeader announcedPort.msgIbuf
    addForeign { header with sourcePortIdentity.portNumber := .ofNat (i + 2) } port) announcedPort
  { port with fm.foreignRecordBest := 3 }

lemma fullPort_inRingOrder : InRingOrder fullPort.fm := by
  constructor <;> decide +kernel

/-- The message is stored in one record, that of another sender. -/
theorem fullPort_updatesOne :
    fullPort.fm.numberForeignRecords = fullPort.fm.maxForeignRecords ∧
      (∀ i < fullPort.fm.numberForeignRecords, (fullPort.fm.foreign i).foreignMasterPortIdentity ≠
        (msgUnpackHeader fullPort.msgIbuf).sourcePortIdentity) ∧
      UpdatesOne (msgUnpackHeader fullPort.msgIbuf).sourcePortIdentity fullPort.msgIbuf fullPort.fm
        (addForeign (msgUnpackHeader fullPort.msgIbuf) fullPort).fm :=
  ⟨by decide +kernel, by decide +kernel, addForeign_updatesOne _ _ fullPort_inRingOrder⟩

end AddForeign

/-! ### What is left of the former message -/

/-- What `s1` makes of the flags of an Announce message. -/
def parentData (n : Node) : Bool × WrConfig × Bool × Bool :=
  (n.port.wr.parentIsWRnode, n.port.wr.parentWrConfig, n.port.wr.parentWrModeON,
    n.port.wr.parentCalibrated)

/-- The Announce message that `addForeign` has stored. -/
def storedAnnounce (header : MsgHeader) (port : PtpPortDS) : MsgAnnounce :=
  ((addForeign header port).fm.foreign (writtenRecord header port.fm)).announce

/-- The Announce message that `handleAnnounce` has stored in the best record. -/
def bestAnnounce (header : MsgHeader) (length : ℕ) (rtOpts : RunTimeOpts) (n : Node) :
    MsgAnnounce :=
  ((handleAnnounce header length false rtOpts n).port.fm.foreign
    n.port.fm.foreignRecordBest).announce

/-- A slave to which a complete Announce message of its parent is given. -/
structure HearsParent (header : MsgHeader) (length : ℕ) (n : Node) : Prop where
  length : ANNOUNCE_LENGTH ≤ length
  slave : n.port.portState = .slave ∨ n.port.portState = .uncalibrated
  parent : msgIsFromCurrentParent header n.clk = true

/-- What is made of an Announce message depends on the message only, not on what was in the memory
it is stored in: the decoded record, and the data of the parent when it is decided on the stored
record, by whichever function it was stored. -/
structure DependsOnMessageOnly (buf : Buffer) : Prop where
  decoded : ∀ former former', msgUnpackAnnounce buf former = msgUnpackAnnounce buf former'
  added : ∀ header header' port port' n n', port.msgIbuf = buf → port'.msgIbuf = buf →
    parentData (s1 header (storedAnnounce header port) n) =
      parentData (s1 header' (storedAnnounce header' port') n')
  ofParent : ∀ header header' length length' rtOpts m m' n n', HearsParent header length m →
    HearsParent header' length' m' → m.port.msgIbuf = buf → m'.port.msgIbuf = buf →
      parentData (s1 header (bestAnnounce header length rtOpts m) n) =
        parentData (s1 header' (bestAnnounce header' length' rtOpts m') n')

section MessageOnly

variable {buf : Buffer}

/-- The data of the parent is that of the flags in its Announce message. -/
lemma parentData_s1 (header header' : MsgHeader) (announce : MsgAnnounce) (n n' : Node) :
    parentData (s1 header announce n) = parentData (s1 header' announce n') := rfl

/-- The message in the buffer is stored over the former one. -/
lemma storedAnnounce_eq (header : MsgHeader) (port : PtpPortDS) :
    storedAnnounce header port =
      msgUnpackAnnounce port.msgIbuf (port.fm.foreign (writtenRecord header port.fm)).announce := by
  unfold storedAnnounce writtenRecord
  cases hfind : findForeign port.fm header.sourcePortIdentity port.fm.numberForeignRecords
    port.fm.foreignRecordBest with
  | some k =>
    obtain ⟨record, -, hdecodes, heq⟩ := addForeign_known port.fm header port hfind
    rw [heq]
    exact (congrArg _ (Function.update_self _ _ _)).trans hdecodes.announce
  | none =>
    obtain ⟨record, -, hdecodes, heq⟩ := addForeign_new port.fm header port hfind
    rw [heq]
    exact (congrArg _ (Function.update_self _ _ _)).trans hdecodes.announce

/-- The message of the parent is stored over the one in the best record. -/
lemma bestAnnounce_eq {header : MsgHeader} {length : ℕ} (rtOpts : RunTimeOpts) {n : Node}
    (h : HearsParent header length n) :
    bestAnnounce header length rtOpts n =
      msgUnpackAnnounce n.port.msgIbuf
        (n.port.fm.foreign n.port.fm.foreignRecordBest).announce := by
  have hself : ∀ record : ForeignMasterRecord, (Function.update n.port.fm.foreign
      n.port.fm.foreignRecordBest record n.port.fm.foreignRecordBest) = record :=
    fun record => Function.update_self _ _ _
  unfold bestAnnounce handleAnnounce
  rw [if_neg (not_lt.mpr h.length)]
  rcases h.slave with hstate | hstate
  all_goals
    simp only [hstate, Bool.false_eq_true, if_false, h.parent, if_true]
    exact congrArg ForeignMasterRecord.announce (hself _)

/-- Without a suffix the flags of the former message remain. -/
lemma not_dependsOnMessageOnly (h : ¬HasWrSuffix buf) : ¬DependsOnMessageOnly buf := by
  intro hdepends
  have hdecoded := hdepends.decoded { announceOf default 0 with wrFlags := 0 }
    { announceOf default 0 with wrFlags := 1 }
  rw [msgUnpackAnnounce_eq, msgUnpackAnnounce_eq, if_neg h, if_neg h] at hdecoded
  have hflags : (0 : UInt8) = 1 := congrArg MsgAnnounce.wrFlags hdecoded
  exact absurd hflags (by decide)

/-- The Announce messages of which nothing else is kept are those with a White Rabbit suffix. -/
theorem dependsOnMessageOnly_iff (buf : Buffer) : DependsOnMessageOnly buf ↔ HasWrSuffix buf := by
  constructor
  · intro h
    by_contra hnot
    exact not_dependsOnMessageOnly hnot h
  · intro h
    have hdecoded : ∀ former former',
        msgUnpackAnnounce buf former = msgUnpackAnnounce buf former' := by
      intro former former'
      rw [msgUnpackAnnounce_eq, msgUnpackAnnounce_eq, if_pos h, if_pos h]
    refine ⟨hdecoded, ?_, ?_⟩
    · intro header header' port port' n n' hport hport'
      rw [storedAnnounce_eq, storedAnnounce_eq, hport, hport', hdecoded]
      exact parentData_s1 _ _ _ _ _
    · intro header header' length length' rtOpts m m' n n' hm hm' hbuf hbuf'
      rw [bestAnnounce_eq rtOpts hm, bestAnnounce_eq rtOpts hm', hbuf, hbuf', hdecoded]
      exact parentData_s1 _ _ _ _ _

/-- An Announce message of a clock that is not one of White Rabbit. -/
def plainAnnounce : Buffer :=
  announcedPort.msgIbuf.load (announceFrame (Daemon.singleNode ![2, 0, 0, 0, 0, 3] .nonWr))

/-- A port whose only record is of a White Rabbit master, at the arrival of that message. -/
def recyclingPort : PtpPortDS :=
  let port := addForeign (msgUnpackHeader announcedPort.msgIbuf)
    { announcedPort with fm.maxForeignRecords := 1 }
  { port with msgIbuf := plainAnnounce }

/-- What is made of that message is not its own: the record is taken from a White Rabbit master, and
its new owner passes for one. -/
theorem not_dependsOnMessageOnly_plainAnnounce :
    ¬DependsOnMessageOnly plainAnnounce ∧
      (parentData (s1 (msgUnpackHeader plainAnnounce)
        (storedAnnounce (msgUnpackHeader plainAnnounce) recyclingPort) emptyingNode)).1 = true :=
  ⟨not_dependsOnMessageOnly (by decide +kernel), by decide +kernel⟩

end MessageOnly

end WhiteRabbitPtp
