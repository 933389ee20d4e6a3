import WhiteRabbitPtp.Correctness.Decision
import Mathlib.Data.Finset.Insert

/-!
# The foreign-master table over whole runs

The table is a ring of records with three cursors: the number of live records, the record that the
next new sender gets, and the best record. Five operations write them, and two of them empty the
table without resetting all cursors: the announce receipt time-out and `initDataPort`.

A run of the operations keeps the table well formed exactly as long as the table is emptied in this
way only while the first record is the best one, and a record is added to an empty table only at its
beginning.

## Main definitions

* `TableOp`, `TableOp.apply`: the operations on the table.
* `TableState`: the table together with the records written since it was emptied.
* `WellFormed`: what shall hold of the table.
* `TableOp.Safe`: the operations that keep it.

## Main results

* `wellFormed_step_iff`: one operation.
* `wellFormed_run_iff`: a run of operations.
* `wellFormed_fails`: a run that breaks the table.
-/

namespace WhiteRabbitPtp

open Octets InputSystem LinearSearch

/-! ### Operations -/

/-- The operations on the foreign-master table of a port, with everything else they depend on. -/
inductive TableOp
  | addForeign (header : MsgHeader) (port : PtpPortDS)
  | erBest (port : PtpPortDS)
  | clearForeignMasters (port : PtpPortDS)
  | announceReceiptTimeoutExpires (n : Node)
  | initDataPort (n : Node)

/-- The table after an operation. -/
def TableOp.apply (rtOpts : RunTimeOpts) (fm : ForeignMasterDS) : TableOp → ForeignMasterDS
  | addForeign header port => (WhiteRabbitPtp.addForeign header { port with fm }).fm
  | erBest port => (ErBest fm.foreign { port with fm }).fm
  | clearForeignMasters port => (WhiteRabbitPtp.clearForeignMasters { port with fm }).fm
  | announceReceiptTimeoutExpires n =>
    (WhiteRabbitPtp.announceReceiptTimeoutExpires rtOpts { n with port.fm := fm }).port.fm
  | initDataPort n => (WhiteRabbitPtp.initDataPort rtOpts { n with port.fm := fm }).port.fm

/-- The record that `addForeign` writes: the one of the sender, or the next one of the ring. -/
def writtenRecord (header : MsgHeader) (fm : ForeignMasterDS) : ℕ :=
  (findForeign fm header.sourcePortIdentity fm.numberForeignRecords fm.foreignRecordBest).getD
    fm.foreignRecordI

/-- The table, and the records that were written since it was emptied the last time. -/
structure TableState where
  fm : ForeignMasterDS
  written : Finset ℕ

/-- One operation on the table and its history. -/
def TableState.step (rtOpts : RunTimeOpts) (op : TableOp) (s : TableState) : TableState :=
  { fm := op.apply rtOpts s.fm
    written :=
      match op with
      | .addForeign header _ => insert (writtenRecord header s.fm) s.written
      | .erBest _ => s.written
      | .clearForeignMasters _ | .announceReceiptTimeoutExpires _ | .initDataPort _ => ∅ }

/-- The zero-initialised table, for its size and the content of its records. -/
def TableState.initial (maxForeignRecords : ℕ) (foreign : ℕ → ForeignMasterRecord) : TableState :=
  { fm :=
      { foreign
        numberForeignRecords := 0
        maxForeignRecords
        foreignRecordI := 0
        foreignRecordBest := 0
        recordUpdate := false }
    written := ∅ }

/-! ### The invariant -/

/-- What shall hold of the foreign-master table. -/
structure WellFormed (s : TableState) : Prop where
  number_le : s.fm.numberForeignRecords ≤ s.fm.maxForeignRecords
  i_lt : s.fm.foreignRecordI < s.fm.maxForeignRecords
  best : s.fm.foreignRecordBest = 0 ∨ s.fm.foreignRecordBest < s.fm.numberForeignRecords
  distinct : ∀ i < s.fm.numberForeignRecords, ∀ j < s.fm.numberForeignRecords,
    (s.fm.foreign i).foreignMasterPortIdentity = (s.fm.foreign j).foreignMasterPortIdentity → i = j
  written : ∀ i < s.fm.numberForeignRecords, i ∈ s.written

/-- What holds besides: a table that is neither empty nor full is filled in order, and nothing was
written into an empty one. -/
structure Filled (s : TableState) : Prop where
  i_eq : 0 < s.fm.numberForeignRecords → s.fm.numberForeignRecords < s.fm.maxForeignRecords →
    s.fm.foreignRecordI = s.fm.numberForeignRecords
  written_empty : s.fm.numberForeignRecords = 0 → s.written = ∅

/-- The operations that keep a table well formed: a time-out and `initDataPort` while the first
record is the best one, and a new record in an empty table at its beginning. -/
def TableOp.Safe (fm : ForeignMasterDS) : TableOp → Prop
  | addForeign _ _ => fm.numberForeignRecords = 0 → fm.foreignRecordI = 0
  | announceReceiptTimeoutExpires _ | initDataPort _ => fm.foreignRecordBest = 0
  | erBest _ | clearForeignMasters _ => True

instance (fm : ForeignMasterDS) : DecidablePred (TableOp.Safe fm) := fun op => by
  cases op <;> unfold TableOp.Safe <;> infer_instance

/-! ### The search for a sender -/

section Find

variable {fm : ForeignMasterDS} {identity : PortIdentity}

/-- The search visits the live records in ring order. -/
theorem findForeign_eq_none {rounds j : ℕ} (hj : j < fm.numberForeignRecords) :
    findForeign fm identity rounds j = none ↔
      ∀ r < rounds, identity ≠
        (fm.foreign ((j + r) % fm.numberForeignRecords)).foreignMasterPortIdentity := by
  -- The search goes round the table, so the index of the first record is general.
  induction rounds generalizing j with
  | zero => simp [findForeign]
  | succ rounds ih =>
    have hpos : 0 < fm.numberForeignRecords := by omega
    have hnext := ih (Nat.mod_lt (j + 1) hpos)
    -- Starting one record further on shifts all rounds by one.
    have hshift : ∀ r, ((j + 1) % fm.numberForeignRecords + r) % fm.numberForeignRecords =
        (j + (r + 1)) % fm.numberForeignRecords := by
      intro r
      rw [Nat.mod_add_mod, Nat.add_assoc, Nat.add_comm 1 r]
    simp only [hshift] at hnext
    unfold findForeign
    constructor
    · intro h r hr
      by_cases hid : identity = (fm.foreign j).foreignMasterPortIdentity
      · rw [if_pos hid] at h
        cases h
      · rw [if_neg hid] at h
        cases r with
        | zero => rwa [Nat.add_zero, Nat.mod_eq_of_lt hj]
        | succ r => exact hnext.mp h r (by omega)
    · intro h
      have hid := h 0 (by omega)
      rw [Nat.add_zero, Nat.mod_eq_of_lt hj] at hid
      rw [if_neg hid]
      exact hnext.mpr fun r hr => h (r + 1) (by omega)

/-- The search starts at a live record and goes once around the ring. -/
theorem findForeign_none {j : ℕ} (hj : j < fm.numberForeignRecords)
    (h : findForeign fm identity fm.numberForeignRecords j = none) :
    ∀ i < fm.numberForeignRecords, identity ≠ (fm.foreign i).foreignMasterPortIdentity := by
  intro i hi
  rw [findForeign_eq_none hj] at h
  by_cases hle : j ≤ i
  · have hround := h (i - j) (by omega)
    rwa [show j + (i - j) = i by omega, Nat.mod_eq_of_lt hi] at hround
  · have hround := h (i + fm.numberForeignRecords - j) (by omega)
    rwa [show j + (i + fm.numberForeignRecords - j) = i + fm.numberForeignRecords by omega,
      Nat.add_mod_right, Nat.mod_eq_of_lt hi] at hround

/-- A record that is found is live and belongs to the sender. -/
theorem findForeign_some {rounds j k : ℕ} (hj : j < fm.numberForeignRecords)
    (h : findForeign fm identity rounds j = some k) :
    k < fm.numberForeignRecords ∧ identity = (fm.foreign k).foreignMasterPortIdentity := by
  induction rounds generalizing j with
  | zero => cases h
  | succ rounds ih =>
    unfold findForeign at h
    split at h
    next hid =>
      obtain rfl : j = k := by simpa using h
      exact ⟨hj, hid⟩
    next => exact ih (Nat.mod_lt _ (by omega)) h

end Find

/-! ### The effect of the operations -/

section Effect

variable (rtOpts : RunTimeOpts) (fm : ForeignMasterDS)

/-- A record with the header and the Announce message in a buffer; `former` is what was in its place
before. -/
structure Decodes (buf : Buffer) (former record : ForeignMasterRecord) : Prop where
  header : record.header = msgUnpackHeader buf
  announce : record.announce = msgUnpackAnnounce buf former.announce

/-- An Announce message of a known sender overwrites its record. -/
theorem addForeign_known (header : MsgHeader) (port : PtpPortDS) {k : ℕ}
    (h : findForeign fm header.sourcePortIdentity fm.numberForeignRecords fm.foreignRecordBest =
      some k) :
    ∃ record : ForeignMasterRecord,
      record.foreignMasterPortIdentity = (fm.foreign k).foreignMasterPortIdentity ∧
        Decodes port.msgIbuf (fm.foreign k) record ∧
        (addForeign header { port with fm }).fm =
          { fm with foreign := Function.update fm.foreign k record } := by
  unfold addForeign
  dsimp only
  rw [h]
  refine ⟨_, ?_, ?_, rfl⟩
  · rfl
  · exact ⟨rfl, rfl⟩

/-- An Announce message of a new sender gets the next record of the ring. -/
theorem addForeign_new (header : MsgHeader) (port : PtpPortDS)
    (h : findForeign fm header.sourcePortIdentity fm.numberForeignRecords fm.foreignRecordBest =
      none) :
    ∃ record : ForeignMasterRecord,
      record.foreignMasterPortIdentity = header.sourcePortIdentity ∧
        Decodes port.msgIbuf (fm.foreign fm.foreignRecordI) record ∧
        (addForeign header { port with fm }).fm =
          { fm with
            foreign := Function.update fm.foreign fm.foreignRecordI record
            numberForeignRecords :=
              if fm.numberForeignRecords < fm.maxForeignRecords then fm.numberForeignRecords + 1
              else fm.numberForeignRecords
            foreignRecordI := (fm.foreignRecordI + 1) % fm.maxForeignRecords } := by
  unfold addForeign
  dsimp only
  rw [h]
  refine ⟨_, ?_, ?_, rfl⟩
  · rfl
  · exact ⟨rfl, rfl⟩

/-- A time-out empties the table and resets the cursor for new senders. -/
theorem announceReceiptTimeoutExpires_fm (n : Node) :
    (announceReceiptTimeoutExpires rtOpts n).port.fm =
      { n.port.fm with numberForeignRecords := 0, foreignRecordI := 0 } := by
  unfold announceReceiptTimeoutExpires
  dsimp only
  split
  · rw [toState_fm, (m1_decided _).fm]
  split
  · rw [toState_fm]
  · rfl

/-- The search for the best record ends at a live one. -/
theorem ErBest_best (port : PtpPortDS) :
    (ErBest fm.foreign { port with fm }).fm = { fm with
        foreignRecordBest := (ErBest fm.foreign { port with fm }).fm.foreignRecordBest } ∧
      ((ErBest fm.foreign { port with fm }).fm.foreignRecordBest = 0 ∨
        (ErBest fm.foreign { port with fm }).fm.foreignRecordBest < fm.numberForeignRecords) := by
  unfold ErBest
  dsimp only
  split
  · exact ⟨rfl, .inl rfl⟩
  next h => exact ⟨rfl, .inr (bestFrom_mem _ (Nat.pos_of_ne_zero h)).2⟩

end Effect

/-! ### One operation -/

section Step

variable {rtOpts : RunTimeOpts} {s : TableState}

/-- A message of a known sender leaves the identities of the records as they are. -/
theorem WellFormed.addForeign_of_known (hs : WellFormed s) (hf : Filled s) (header : MsgHeader)
    (port : PtpPortDS) {k : ℕ} (hfind : findForeign s.fm header.sourcePortIdentity
      s.fm.numberForeignRecords s.fm.foreignRecordBest = some k) :
    WellFormed (s.step rtOpts (.addForeign header port)) ∧
      Filled (s.step rtOpts (.addForeign header port)) := by
  obtain ⟨hnumber, hi, hbest, hdistinct, hwritten⟩ := hs
  obtain ⟨hi_eq, -⟩ := hf
  unfold TableState.step TableOp.apply
  dsimp only
  -- The search of an empty table finds nothing.
  have hpos : 0 < s.fm.numberForeignRecords := by
    by_contra hzero
    rw [show s.fm.numberForeignRecords = 0 by omega] at hfind
    cases hfind
  obtain ⟨record, hrecord, -, heq⟩ := addForeign_known s.fm header port hfind
  have hidentity : ∀ i, (Function.update s.fm.foreign k record i).foreignMasterPortIdentity =
      (s.fm.foreign i).foreignMasterPortIdentity := by
    intro i
    by_cases hik : i = k
    · subst hik
      rw [Function.update_self, hrecord]
    · rw [Function.update_of_ne hik]
  rw [heq]
  refine ⟨⟨hnumber, hi, hbest, ?_, ?_⟩, ⟨hi_eq, ?_⟩⟩
  · intro i hin j hjn
    rw [hidentity, hidentity]
    exact hdistinct i hin j hjn
  · exact fun i hin => Finset.mem_insert_of_mem (hwritten i hin)
  · exact fun hzero => absurd hzero (by simpa using hpos.ne')

/-- Writing a new sender over one record keeps the senders apart, when every record that is live
afterwards is this one or was live before. -/
lemma distinct_update {foreign : ℕ → ForeignMasterRecord} {record : ForeignMasterRecord}
    {live live' c : ℕ}
    (hdistinct : ∀ i < live, ∀ j < live,
      (foreign i).foreignMasterPortIdentity = (foreign j).foreignMasterPortIdentity → i = j)
    (hnew : ∀ i < live,
      record.foreignMasterPortIdentity ≠ (foreign i).foreignMasterPortIdentity)
    (hold : ∀ i < live', i = c ∨ i < live) : ∀ i < live', ∀ j < live',
      (Function.update foreign c record i).foreignMasterPortIdentity =
        (Function.update foreign c record j).foreignMasterPortIdentity → i = j := by
  intro i hi j hj hij
  by_cases hic : i = c <;> by_cases hjc : j = c
  · rw [hic, hjc]
  · rw [hic, Function.update_self, Function.update_of_ne hjc] at hij
    exact absurd hij (hnew j ((hold j hj).resolve_left hjc))
  · rw [hjc, Function.update_self, Function.update_of_ne hic] at hij
    exact absurd hij.symm (hnew i ((hold i hi).resolve_left hic))
  · rw [Function.update_of_ne hic, Function.update_of_ne hjc] at hij
    exact hdistinct i ((hold i hi).resolve_left hic) j ((hold j hj).resolve_left hjc) hij

/-- As long as a table is not full, a new record is the one after the last live one. -/
lemma Filled.next (hf : Filled s)
    (hsafe : s.fm.numberForeignRecords = 0 → s.fm.foreignRecordI = 0)
    (hlt : s.fm.numberForeignRecords < s.fm.maxForeignRecords) :
    s.fm.foreignRecordI = s.fm.numberForeignRecords := by
  rcases Nat.eq_zero_or_pos s.fm.numberForeignRecords with hzero | hpos
  · rw [hsafe hzero, hzero]
  · exact hf.i_eq hpos hlt

/-- A message of a new sender is written behind the live records, or over one of a full table. -/
theorem WellFormed.addForeign_of_new (hs : WellFormed s) (hf : Filled s)
    (hsafe : s.fm.numberForeignRecords = 0 → s.fm.foreignRecordI = 0) (header : MsgHeader)
    (port : PtpPortDS) (hfind : findForeign s.fm header.sourcePortIdentity
      s.fm.numberForeignRecords s.fm.foreignRecordBest = none) :
    WellFormed (s.step rtOpts (.addForeign header port)) ∧
      Filled (s.step rtOpts (.addForeign header port)) := by
  have hnext := hf.next hsafe
  obtain ⟨hnumber, hi, hbest, hdistinct, hwritten⟩ := hs
  unfold TableState.step TableOp.apply
  dsimp only
  obtain ⟨record, hrecord, -, heq⟩ := addForeign_new s.fm header port hfind
  have hnew : ∀ i < s.fm.numberForeignRecords,
      record.foreignMasterPortIdentity ≠ (s.fm.foreign i).foreignMasterPortIdentity :=
    fun i hin => hrecord ▸ findForeign_none (by omega) hfind i hin
  have hindex : writtenRecord header s.fm = s.fm.foreignRecordI := by
    unfold writtenRecord
    rw [hfind]
    rfl
  -- Every live record is the new one or was live before.
  have hold : ∀ i < (if s.fm.numberForeignRecords < s.fm.maxForeignRecords then
      s.fm.numberForeignRecords + 1 else s.fm.numberForeignRecords),
      i = s.fm.foreignRecordI ∨ i < s.fm.numberForeignRecords := by
    intro i hin
    split at hin
    next hlt =>
      rw [hnext hlt]
      omega
    next => exact .inr hin
  rw [heq, hindex]
  constructor
  · refine ⟨?_, Nat.mod_lt _ (by omega), ?_, distinct_update hdistinct hnew hold, ?_⟩
    · dsimp only
      split <;> omega
    · dsimp only
      split <;> omega
    · intro i hin
      rcases hold i hin with rfl | hlt
      · exact Finset.mem_insert_self _ _
      · exact Finset.mem_insert_of_mem (hwritten i hlt)
  · constructor
    · intro _ hlt
      dsimp only at hlt ⊢
      split at hlt
      next hlt' =>
        rw [if_pos hlt', hnext hlt', Nat.mod_eq_of_lt hlt]
      next hge => exact absurd hlt hge
    · intro hzero
      dsimp only at hzero
      split at hzero
      · omega
      · omega

/-- Adding a foreign master to a table that is not empty, or at the beginning of an empty one. -/
theorem WellFormed.addForeign (hs : WellFormed s) (hf : Filled s)
    (hsafe : s.fm.numberForeignRecords = 0 → s.fm.foreignRecordI = 0) (header : MsgHeader)
    (port : PtpPortDS) :
    WellFormed (s.step rtOpts (.addForeign header port)) ∧
      Filled (s.step rtOpts (.addForeign header port)) := by
  cases hfind : findForeign s.fm header.sourcePortIdentity s.fm.numberForeignRecords
    s.fm.foreignRecordBest with
  | some k => exact hs.addForeign_of_known hf header port hfind
  | none => exact hs.addForeign_of_new hf hsafe header port hfind

/-- A record that is added to an empty table elsewhere than at its beginning makes a record live
that was not written. -/
theorem addForeign_unsafe (hf : Filled s) (hzero : s.fm.numberForeignRecords = 0)
    (hi : s.fm.foreignRecordI ≠ 0) (hmax : 0 < s.fm.maxForeignRecords) (header : MsgHeader)
    (port : PtpPortDS) : ¬WellFormed (s.step rtOpts (.addForeign header port)) := by
  intro hs
  have hfind : findForeign s.fm header.sourcePortIdentity s.fm.numberForeignRecords
      s.fm.foreignRecordBest = none := by
    rw [hzero]
    rfl
  obtain ⟨record, -, -, heq⟩ := addForeign_new s.fm header port hfind
  -- The table now has one live record, the first one, but the cursor was elsewhere.
  have hlive : 0 < (s.step rtOpts (.addForeign header port)).fm.numberForeignRecords := by
    unfold TableState.step TableOp.apply
    dsimp only
    rw [heq]
    dsimp only
    rw [if_pos (by omega)]
    omega
  have hmem := hs.written 0 hlive
  unfold TableState.step writtenRecord at hmem
  dsimp only at hmem
  rw [hfind, hf.written_empty hzero, Option.getD_none, Finset.mem_insert] at hmem
  rcases hmem with hmem | hmem
  · exact hi hmem.symm
  · simp at hmem

/-- One operation keeps a well-formed table well formed exactly when it is safe. -/
theorem wellFormed_step_iff (hs : WellFormed s) (hf : Filled s)
    (hmax : 0 < rtOpts.maxForeignRecords)
    (hsize : s.fm.maxForeignRecords = rtOpts.maxForeignRecords)
    (op : TableOp) : WellFormed (s.step rtOpts op) ↔ op.Safe s.fm := by
  cases op with
  | addForeign header port =>
    refine ⟨fun h hzero => ?_, fun hsafe => (hs.addForeign hf hsafe header port).1⟩
    by_contra hi
    exact addForeign_unsafe hf hzero hi (by omega) header port h
  | erBest port =>
    refine iff_of_true ?_ trivial
    obtain ⟨heq, hbest⟩ := ErBest_best s.fm port
    unfold TableState.step TableOp.apply
    dsimp only
    rw [heq]
    exact ⟨hs.number_le, hs.i_lt, hbest, hs.distinct, hs.written⟩
  | clearForeignMasters port =>
    refine iff_of_true ?_ trivial
    exact ⟨Nat.zero_le _, Nat.zero_lt_of_lt hs.i_lt, .inl rfl,
      fun i hi => absurd hi (Nat.not_lt_zero i),
      fun i hi => absurd hi (Nat.not_lt_zero i)⟩
  | announceReceiptTimeoutExpires n =>
    unfold TableState.step TableOp.apply
    dsimp only
    rw [announceReceiptTimeoutExpires_fm]
    refine ⟨fun h => ?_, fun hsafe => ?_⟩
    · -- An empty table has no live record, so its best one must be the first.
      rcases h.best with hbest | hbest
      · exact hbest
      · exact absurd hbest (Nat.not_lt_zero _)
    · exact ⟨Nat.zero_le _, Nat.zero_lt_of_lt hs.i_lt, .inl hsafe,
        fun i hi => absurd hi (Nat.not_lt_zero i), fun i hi => absurd hi (Nat.not_lt_zero i)⟩
  | initDataPort n =>
    unfold TableState.step TableOp.apply
    dsimp only
    rw [initDataPort_fm]
    refine ⟨fun h => ?_, fun hsafe => ?_⟩
    · rcases h.best with hbest | hbest
      · exact hbest
      · exact absurd hbest (Nat.not_lt_zero _)
    · exact ⟨Nat.zero_le _, hsize ▸ hs.i_lt, .inl hsafe, fun i hi => absurd hi (Nat.not_lt_zero i),
        fun i hi => absurd hi (Nat.not_lt_zero i)⟩

/-- A safe operation keeps what holds besides. -/
theorem Filled.step (hs : WellFormed s) (hf : Filled s)
    {op : TableOp} (hsafe : op.Safe s.fm) : Filled (s.step rtOpts op) := by
  cases op with
  | addForeign header port => exact (hs.addForeign hf hsafe header port).2
  | erBest port =>
    obtain ⟨heq, -⟩ := ErBest_best s.fm port
    unfold TableState.step TableOp.apply
    dsimp only
    rw [heq]
    exact ⟨hf.i_eq, hf.written_empty⟩
  | clearForeignMasters port => exact ⟨fun h => absurd h (lt_irrefl 0), fun _ => rfl⟩
  | announceReceiptTimeoutExpires n =>
    unfold TableState.step TableOp.apply
    dsimp only
    rw [announceReceiptTimeoutExpires_fm]
    exact ⟨fun h => absurd h (lt_irrefl 0), fun _ => rfl⟩
  | initDataPort n =>
    unfold TableState.step TableOp.apply
    dsimp only
    rw [initDataPort_fm]
    exact ⟨fun h => absurd h (lt_irrefl 0), fun _ => rfl⟩

/-- No operation changes the size of the table. -/
theorem TableState.step_max (hsize : s.fm.maxForeignRecords = rtOpts.maxForeignRecords)
    (op : TableOp) : (s.step rtOpts op).fm.maxForeignRecords = rtOpts.maxForeignRecords := by
  rw [← hsize]
  unfold TableState.step TableOp.apply
  cases op with
  | addForeign header port => exact (addForeign_fm header _).2.1
  | erBest port =>
    dsimp only
    rw [(ErBest_best s.fm port).1]
  | clearForeignMasters port => rfl
  | announceReceiptTimeoutExpires n =>
    dsimp only
    rw [announceReceiptTimeoutExpires_fm]
  | initDataPort n => exact hsize.symm

end Step

/-! ### Runs -/

/-- The zero-initialised table is well formed. -/
theorem wellFormed_initial {maxForeignRecords : ℕ} (hmax : 0 < maxForeignRecords)
    (foreign : ℕ → ForeignMasterRecord) :
    WellFormed (.initial maxForeignRecords foreign) ∧
      Filled (.initial maxForeignRecords foreign) :=
  ⟨⟨Nat.zero_le _, hmax, .inl rfl, fun i hi => absurd hi (Nat.not_lt_zero i),
    fun i hi => absurd hi (Nat.not_lt_zero i)⟩, ⟨fun h => absurd h (lt_irrefl 0), fun _ => rfl⟩⟩

/-- The states of a run from a well-formed table are well formed exactly as long as its operations
are safe. -/
theorem wellFormed_runInputs_iff {rtOpts : RunTimeOpts} (hmax : 0 < rtOpts.maxForeignRecords)
    {s : TableState} (hs : WellFormed s) (hf : Filled s)
    (hsize : s.fm.maxForeignRecords = rtOpts.maxForeignRecords) (ops : List TableOp) :
    (∀ k, WellFormed (runInputs (TableState.step rtOpts) s (ops.take k))) ↔
      ∀ k : Fin ops.length,
        (ops.get k).Safe (runInputs (TableState.step rtOpts) s (ops.take k)).fm := by
  -- The first operation is safe exactly when the state after it is well formed.
  induction ops generalizing s with
  | nil => exact ⟨fun _ k => k.elim0, fun _ k => by rwa [List.take_nil]⟩
  | cons op ops ih =>
    have hstep := wellFormed_step_iff hs hf hmax hsize op
    constructor
    · intro h
      have hsafe : op.Safe s.fm := hstep.mp (h 1)
      have hrest := (ih (hstep.mpr hsafe) (hf.step hs hsafe)
        (TableState.step_max hsize op)).mp fun k => h (k + 1)
      intro k
      cases k using Fin.cases with
      | zero => exact hsafe
      | succ k => exact hrest k
    · intro h
      have hsafe : op.Safe s.fm := h ⟨0, by simp⟩
      have hrest := (ih (hstep.mpr hsafe) (hf.step hs hsafe)
        (TableState.step_max hsize op)).mpr fun k => h k.succ
      intro k
      cases k with
      | zero => exact hs
      | succ k => exact hrest k

/-- A run from the zero-initialised table keeps it well formed exactly as long as its operations are
safe. -/
theorem wellFormed_run_iff (rtOpts : RunTimeOpts) (hmax : 1 ≤ rtOpts.maxForeignRecords)
    (foreign : ℕ → ForeignMasterRecord) (ops : List TableOp) :
    (∀ k, WellFormed (runInputs (TableState.step rtOpts)
      (.initial rtOpts.maxForeignRecords foreign) (ops.take k))) ↔
      ∀ k : Fin ops.length, (ops.get k).Safe (runInputs (TableState.step rtOpts)
        (.initial rtOpts.maxForeignRecords foreign) (ops.take k)).fm :=
  wellFormed_runInputs_iff hmax (wellFormed_initial hmax foreign).1
    (wellFormed_initial hmax foreign).2 rfl ops

/-! ### A table that is emptied and filled again -/

/-- A port with an Announce message of another clock in its input buffer. -/
def announcedPort : PtpPortDS :=
  let port := (Daemon.singleNode ![2, 0, 0, 0, 0, 1] .wrMaster).port
  let frame := announceFrame (Daemon.singleNode ![2, 0, 0, 0, 0, 2] .wrMaster)
  { port with msgIbuf := port.msgIbuf.load frame }

/-- The reception of this message. -/
def announced : TableOp := .addForeign (msgUnpackHeader announcedPort.msgIbuf) announcedPort

/-- What a time-out and the initialization of the port work on. -/
def emptyingNode : Node := Daemon.singleNode ![2, 0, 0, 0, 0, 1] .wrMaster

/-- A time-out while the first record is the best one keeps the table well formed. -/
theorem wellFormed_run_iff_timeOut :
    WellFormed (runInputs (TableState.step (defaultRtOpts 1))
      (.initial 5 announcedPort.fm.foreign)
      [announced, .erBest announcedPort, .announceReceiptTimeoutExpires emptyingNode,
        announced]) :=
  (wellFormed_run_iff (defaultRtOpts 1) (by decide) announcedPort.fm.foreign
    [announced, .erBest announcedPort, .announceReceiptTimeoutExpires emptyingNode,
      announced]).mpr (by decide +kernel) 4

/-- A sender is heard again after `initDataPort`: its record is the second one of the ring, but the
first one counts as live. -/
def refill : List TableOp := [announced, .initDataPort emptyingNode, announced]

theorem refill_written :
    let s :=
      runInputs (TableState.step (defaultRtOpts 1)) (.initial 5 announcedPort.fm.foreign) refill
    s.fm.numberForeignRecords = 1 ∧ 0 ∉ s.written := by
  decide +kernel

/-- Not every run keeps the table well formed. -/
theorem wellFormed_fails :
    ¬∀ rtOpts : RunTimeOpts, 1 ≤ rtOpts.maxForeignRecords →
      ∀ (foreign : ℕ → ForeignMasterRecord) (ops : List TableOp),
        WellFormed (runInputs (TableState.step rtOpts)
          (.initial rtOpts.maxForeignRecords foreign) ops) := by
  intro h
  obtain ⟨hnumber, hwritten⟩ := refill_written
  exact hwritten ((h (defaultRtOpts 1) (by decide) _ refill).written 0 (by
    rw [show (defaultRtOpts 1).maxForeignRecords = 5 from rfl, hnumber]
    exact Nat.one_pos))

end WhiteRabbitPtp
