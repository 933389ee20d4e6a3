import WhiteRabbitPtp.Lib.GuardedRun
import WhiteRabbitPtp.Lib.RingBuffer
import WhiteRabbitPtp.Model.RxQueue
import Mathlib.Data.Fin.VecNotation
import Mathlib.Tactic.FinCases

/-!
# Receive queues

A queue of the freestanding build holds its frames one behind the other in a ring buffer, each as
its length, its header, its timestamp and its payload. Beside the sockets runs a list for each of
them, with the frames that were put into its queue and not handed over yet.

A frame is handed over without the rest of its payload when the caller asks for less. The rest stays
in the queue, where the next call takes it for the beginning of a frame.

## Main definitions

* `Queued`: a queue holds a list of frames.
* `RxState`: the sockets, with the frames that were queued for each.
* `RxState.AsksForAll`: no caller asks for less than the payload it gets.

## Main results

* `recvfrom_queued_iff`: the other frames stay in the queue exactly when the whole payload is asked
  for.
* `queued_of_guardedRun`: in every run in which this is so, every queue hands over its frames in
  order.
* `not_forall_queued`: a frame that is cut short garbles the next one.
-/

namespace WhiteRabbitPtp

open Octets RingBuffer

/-! ### Words and headers -/

@[simp]
theorem length_wordOctets (x : UInt16) : (wordOctets x).length = 2 := rfl

@[simp]
theorem octetsWord_wordOctets (x : UInt16) : octetsWord (wordOctets x) = x := word16_octets x

@[simp]
theorem EthHdr.length_octets (hdr : EthHdr) : hdr.octets.length = ethHdrSize := by
  simp [EthHdr.octets, ethHdrSize]

@[simp]
theorem EthHdr.ofOctets_octets (hdr : EthHdr) : EthHdr.ofOctets hdr.octets = hdr := by
  obtain ⟨dstmac, srcmac, ethtype⟩ := hdr
  unfold EthHdr.ofOctets EthHdr.octets
  congr 1
  · funext k
    fin_cases k <;> rfl
  · funext k
    fin_cases k <;> rfl
  · exact octetsWord_wordOctets ethtype

@[simp]
theorem octetString_ofFn {n : ℕ} (xs : OctetString n) : octetString n (List.ofFn xs) = xs := by
  funext k
  simp [octetString]

section Queue

variable {cfg : NetConfig}

/-! ### Copying -/

/-- Counting up at the end of the buffer starts at its first cell again. -/
theorem next_toNat {pos : UInt16} (h : pos.toNat < cfg.skbufSize) :
    (if (pos + 1).toNat = cfg.skbufSize then 0 else pos + 1).toNat =
      (pos.toNat + 1) % cfg.skbufSize := by
  have hsize := cfg.skbufSize_le
  have hnext : (pos + 1).toNat = pos.toNat + 1 := by
    rw [UInt16.toNat_add]
    exact Nat.mod_eq_of_lt (by simpa using by omega)
  split
  next hend =>
    rw [← hnext, hend, Nat.mod_self]
    rfl
  next hend => rw [hnext, Nat.mod_eq_of_lt (by omega)]

/-- A position in a queue fits its word. -/
theorem toNat_ofNat_mod (cfg : NetConfig) (pos : ℕ) :
    (UInt16.ofNat (pos % cfg.skbufSize)).toNat = pos % cfg.skbufSize := by
  have hsize := cfg.skbufSize_le
  have hlt := Nat.mod_lt pos (Nat.zero_lt_of_lt cfg.lt_skbufSize)
  rw [UInt16.toNat_ofNat']
  exact Nat.mod_eq_of_lt (by omega)

/-- A position stands for itself. -/
theorem ofNat_mod_self {pos : UInt16} (h : pos.toNat < cfg.skbufSize) :
    UInt16.ofNat (pos.toNat % cfg.skbufSize) = pos := by
  rw [Nat.mod_eq_of_lt h, UInt16.ofNat_toNat]

theorem wrapCopyIn_eq {q : Sockq} (h : q.tail.toNat < cfg.skbufSize) (len : ℕ) :
    wrapCopyIn cfg q len = (view cfg.skbufSize q.buf q.tail.toNat len,
      { q with tail := UInt16.ofNat ((q.tail.toNat + len) % cfg.skbufSize) }) := by
  induction len generalizing q with
  | zero =>
    rw [Nat.add_zero, ofNat_mod_self h]
    rfl
  | succ len ih =>
    have hnext := next_toNat h
    have hlt := Nat.mod_lt (q.tail.toNat + 1) (Nat.zero_lt_of_lt cfg.lt_skbufSize)
    unfold wrapCopyIn
    dsimp only
    rw [ih (by rw [hnext]; exact hlt)]
    dsimp only
    rw [hnext, view_mod, view_succ, Nat.mod_eq_of_lt h, Nat.mod_add_mod, Nat.add_assoc,
      Nat.add_comm 1 len]

theorem wrapCopyOut_eq {q : Sockq} (h : q.head.toNat < cfg.skbufSize) (xs : List UInt8) :
    wrapCopyOut cfg q xs = { q with
      buf := write cfg.skbufSize q.buf q.head.toNat xs
      head := UInt16.ofNat ((q.head.toNat + xs.length) % cfg.skbufSize) } := by
  induction xs generalizing q with
  | nil =>
    rw [List.length_nil, Nat.add_zero, ofNat_mod_self h]
    rfl
  | cons x xs ih =>
    have hnext := next_toNat h
    have hlt := Nat.mod_lt (q.head.toNat + 1) (Nat.zero_lt_of_lt cfg.lt_skbufSize)
    unfold wrapCopyOut
    dsimp only
    rw [ih (by rw [hnext]; exact hlt)]
    dsimp only
    rw [hnext, write_mod, write, Nat.mod_eq_of_lt h, Nat.mod_add_mod, List.length_cons,
      Nat.add_assoc, Nat.add_comm 1 xs.length]

theorem fetch_eq {q : Sockq} (h : q.tail.toNat < cfg.skbufSize) (len : ℕ) :
    fetch cfg len q = (view cfg.skbufSize q.buf q.tail.toNat len, { q with
      tail := UInt16.ofNat ((q.tail.toNat + len) % cfg.skbufSize)
      avail := q.avail + UInt16.ofNat len }) := by
  unfold fetch
  rw [wrapCopyIn_eq h]

/-- Fetching octets stays inside of the buffer. -/
theorem fetch_tail_lt {q : Sockq} (h : q.tail.toNat < cfg.skbufSize) (len : ℕ) :
    (fetch cfg len q).2.tail.toNat < cfg.skbufSize := by
  rw [fetch_eq h, toNat_ofNat_mod]
  exact Nat.mod_lt _ (Nat.zero_lt_of_lt cfg.lt_skbufSize)

/-- Fetching octets one part after the other. -/
theorem fetch_add {q : Sockq} (h : q.tail.toNat < cfg.skbufSize) (m n : ℕ) :
    (fetch cfg n (fetch cfg m q).2).2 = (fetch cfg (m + n) q).2 := by
  rw [fetch_eq (fetch_tail_lt h m), fetch_eq h, fetch_eq h]
  dsimp only
  rw [toNat_ofNat_mod, Nat.mod_add_mod, Nat.add_assoc, UInt16.ofNat_add, UInt16.add_assoc]

/-- What lies at the tail is fetched, and leaves at the tail what lies behind it. -/
theorem fetch_holds {q : Sockq} (h : q.tail.toNat < cfg.skbufSize) {xs ys : List UInt8}
    (hq : Holds cfg.skbufSize q.buf q.tail.toNat (xs ++ ys)) {len : ℕ} (hlen : len = xs.length) :
    (fetch cfg len q).1 = xs ∧ Holds cfg.skbufSize (fetch cfg len q).2.buf
      (fetch cfg len q).2.tail.toNat ys := by
  obtain ⟨hxs, hys⟩ := Holds.append_iff.mp hq
  subst hlen
  rw [fetch_eq h]
  refine ⟨hxs, ?_⟩
  dsimp only
  rw [toNat_ofNat_mod]
  unfold Holds
  rw [view_mod]
  exact hys

/-- Depositing octets one part after the other. -/
theorem deposit_append {q : Sockq} (h : q.head.toNat < cfg.skbufSize) (xs ys : List UInt8) :
    deposit cfg ys (deposit cfg xs q) = deposit cfg (xs ++ ys) q := by
  have hxs := toNat_ofNat_mod cfg (q.head.toNat + xs.length)
  have hlt := Nat.mod_lt (q.head.toNat + xs.length) (Nat.zero_lt_of_lt cfg.lt_skbufSize)
  unfold deposit
  dsimp only
  rw [wrapCopyOut_eq h, wrapCopyOut_eq h, wrapCopyOut_eq (by dsimp only; rw [hxs]; exact hlt)]
  dsimp only
  have hsub (a b c : UInt16) : a - b - c = a - (b + c) := by grind
  rw [hxs, write_mod, write_append, Nat.mod_add_mod, List.length_append, Nat.add_assoc,
    UInt16.ofNat_add, hsub]

/-! ### The queue -/

/-- A frame as it lies in a queue. -/
def RxFrame.octets (frame : RxFrame cfg) : List UInt8 :=
  wordOctets (UInt16.ofNat frame.payload.length) ++
    (frame.hdr.octets ++ (List.ofFn frame.hwts ++ frame.payload))

theorem RxFrame.length_octets (frame : RxFrame cfg) : frame.octets.length = frame.required := by
  simp only [RxFrame.octets, RxFrame.required, List.length_append, length_wordOctets,
    EthHdr.length_octets, List.length_ofFn]
  omega

/-- The length of a payload fits its word. -/
theorem RxFrame.size_toNat (frame : RxFrame cfg) :
    (UInt16.ofNat frame.payload.length).toNat = frame.payload.length := by
  have hfits := frame.fits
  have hsize := cfg.skbufSize_le
  rw [UInt16.toNat_ofNat']
  exact Nat.mod_eq_of_lt (by omega)

/-- A queue holds a list of frames, from its tail to its head, and counts them and what is left. -/
structure Queued (q : Sockq) (frames : List (RxFrame cfg)) : Prop where
  n : q.n.toNat = frames.length
  avail : q.avail.toNat + (frames.flatMap RxFrame.octets).length = cfg.skbufSize
  tail : q.tail.toNat < cfg.skbufSize
  head : q.head.toNat =
    (q.tail.toNat + (frames.flatMap RxFrame.octets).length) % cfg.skbufSize
  holds : Holds cfg.skbufSize q.buf q.tail.toNat (frames.flatMap RxFrame.octets)

section Queued

variable {q : Sockq} {frame : RxFrame cfg} {frames : List (RxFrame cfg)}

theorem Queued.head_lt (h : Queued q frames) : q.head.toNat < cfg.skbufSize := by
  rw [h.head]
  exact Nat.mod_lt _ (Nat.zero_lt_of_lt cfg.lt_skbufSize)

/-- There are fewer frames than octets. -/
theorem length_le_octets (frames : List (RxFrame cfg)) :
    frames.length ≤ (frames.flatMap RxFrame.octets).length := by
  induction frames with
  | nil => exact Nat.le_refl 0
  | cons frame frames ih =>
    have hlength := frame.length_octets
    unfold RxFrame.required at hlength
    rw [List.length_cons, List.flatMap_cons, List.length_append]
    omega

/-- A frame is put into a queue in one piece. -/
theorem enqueue_eq (h : Queued q frames) (frame : RxFrame cfg) :
    enqueue frame q = { deposit cfg frame.octets q with n := q.n + 1 } := by
  have hhead (xs : List UInt8) : (deposit cfg xs q).head.toNat < cfg.skbufSize := by
    unfold deposit
    rw [wrapCopyOut_eq h.head_lt]
    dsimp only
    rw [toNat_ofNat_mod]
    exact Nat.mod_lt _ (Nat.zero_lt_of_lt cfg.lt_skbufSize)
  have hn (xs : List UInt8) : (deposit cfg xs q).n = q.n := by
    unfold deposit
    rw [wrapCopyOut_eq h.head_lt]
  unfold enqueue
  dsimp only
  rw [frame.size_toNat, List.take_length, deposit_append h.head_lt, deposit_append h.head_lt,
    deposit_append h.head_lt, hn]
  simp only [RxFrame.octets, List.append_assoc]

/-- A frame that fits is put behind the others. -/
theorem Queued.enqueue (h : Queued q frames) (hfits : frame.required ≤ q.avail.toNat) :
    Queued (enqueue frame q) (frames ++ [frame]) := by
  have hlength := frame.length_octets
  have havail := h.avail
  have hsize := cfg.skbufSize_le
  have hcount := length_le_octets frames
  have hpos : 0 < frame.octets.length := by
    rw [hlength, RxFrame.required]
    omega
  -- The ring keeps the octets of all frames, one behind the other.
  have hoctets : (frames ++ [frame]).flatMap RxFrame.octets =
      frames.flatMap RxFrame.octets ++ frame.octets := by simp
  have hword : (UInt16.ofNat frame.octets.length).toNat = frame.octets.length := by
    rw [UInt16.toNat_ofNat']
    exact Nat.mod_eq_of_lt (by omega)
  rw [enqueue_eq h frame]
  unfold deposit
  rw [wrapCopyOut_eq h.head_lt]
  constructor
  case n =>
    rw [UInt16.toNat_add, h.n, List.length_append, List.length_singleton]
    exact Nat.mod_eq_of_lt (by simpa using by omega)
  case avail =>
    have hle : UInt16.ofNat frame.octets.length ≤ q.avail := by
      rw [UInt16.le_iff_toNat_le, hword]
      omega
    rw [UInt16.toNat_sub_of_le _ _ hle, hword, hoctets, List.length_append]
    omega
  case tail => exact h.tail
  case head =>
    dsimp only
    rw [toNat_ofNat_mod, h.head, Nat.mod_add_mod, hoctets, List.length_append, Nat.add_assoc]
  case holds =>
    dsimp only
    rw [h.head, write_mod, hoctets]
    exact h.holds.write (by omega)

/-- The parts of the oldest frame are fetched as they were deposited. -/
theorem fetch_frame (h : q.tail.toNat < cfg.skbufSize) {rest : List UInt8}
    (hq : Holds cfg.skbufSize q.buf q.tail.toNat (frame.octets ++ rest)) (dataLength : ℕ) :
    let size := fetch cfg 2 q
    let hdr := fetch cfg ethHdrSize size.2
    let hwts := fetch cfg cfg.hwTimestampSize hdr.2
    let len := min frame.payload.length dataLength
    let data := fetch cfg len hwts.2
    size.1 = wordOctets (UInt16.ofNat frame.payload.length) ∧ hdr.1 = frame.hdr.octets ∧
      hwts.1 = List.ofFn frame.hwts ∧ data.1 = frame.payload.take dataLength ∧
      data.2 = (fetch cfg (2 + (ethHdrSize + (cfg.hwTimestampSize + len))) q).2 := by
  have hparts : Holds cfg.skbufSize q.buf q.tail.toNat
      (wordOctets (UInt16.ofNat frame.payload.length) ++ (frame.hdr.octets ++
        (List.ofFn frame.hwts ++
          (frame.payload.take dataLength ++ (frame.payload.drop dataLength ++ rest))))) := by
    rw [← List.append_assoc (frame.payload.take dataLength), List.take_append_drop]
    simpa only [RxFrame.octets, List.append_assoc] using hq
  -- Each part is fetched from where the part before it ends.
  obtain ⟨hsize, h₁⟩ := fetch_holds h hparts (length_wordOctets _).symm
  have ht₁ := fetch_tail_lt h 2
  obtain ⟨hhdr, h₂⟩ := fetch_holds ht₁ h₁ frame.hdr.length_octets.symm
  have ht₂ := fetch_tail_lt ht₁ ethHdrSize
  obtain ⟨hhwts, h₃⟩ := fetch_holds ht₂ h₂ (List.length_ofFn).symm
  have ht₃ := fetch_tail_lt ht₂ cfg.hwTimestampSize
  have hlen : min frame.payload.length dataLength = (frame.payload.take dataLength).length := by
    rw [List.length_take, Nat.min_comm]
  obtain ⟨hdata, -⟩ := fetch_holds ht₃ h₃ hlen
  refine ⟨hsize, hhdr, hhwts, hdata, ?_⟩
  rw [fetch_add ht₂, fetch_add ht₁, fetch_add h]

/-- What is handed over of a frame. -/
def RxFrame.received (frame : RxFrame cfg) (s : MySocket) (dataLength : ℕ) (rawPhase : ℤ) :
    Received where
  ethertype := frame.hdr.ethtype
  mac := frame.hdr.srcmac
  macDest := frame.hdr.dstmac
  rxTimestamp := rxTimestamp cfg s (cfg.readHwTimestamp frame.hwts) rawPhase
  data := frame.payload.take dataLength

/-- The oldest frame is handed over, and what was not asked for of its payload stays at the tail. -/
theorem recvfrom_eq {s : MySocket} (h : Queued s.queue (frame :: frames)) (dataLength : ℕ)
    (rawPhase : ℤ) :
    ptpdNetifRecvfrom cfg dataLength rawPhase s =
      (some (frame.received s dataLength rawPhase), { s with
        queue := (fetch cfg (2 + (ethHdrSize + (cfg.hwTimestampSize +
          min frame.payload.length dataLength))) { s.queue with n := s.queue.n - 1 }).2 }) := by
  have hn : s.queue.n ≠ 0 := fun hzero => by
    have hcount := h.n
    rw [hzero] at hcount
    simp at hcount
  obtain ⟨hsize, hhdr, hhwts, hdata, hqueue⟩ :=
    fetch_frame (q := { s.queue with n := s.queue.n - 1 }) h.tail h.holds dataLength
  unfold ptpdNetifRecvfrom
  rw [if_neg hn]
  dsimp only at hsize hhdr hhwts hdata hqueue ⊢
  rw [hsize, octetsWord_wordOctets, frame.size_toNat, hhdr, hhwts, hdata, hqueue,
    EthHdr.ofOctets_octets, octetString_ofFn]
  rfl

/-- The queue that is left when the whole payload was asked for. -/
theorem Queued.fetch (h : Queued q (frame :: frames)) :
    Queued (fetch cfg frame.required { q with n := q.n - 1 }).2 frames := by
  have hlength := frame.length_octets
  have havail := h.avail
  have hsize := cfg.skbufSize_le
  rw [List.flatMap_cons, List.length_append] at havail
  -- A 16-bit word holds the size that is asked for, since the buffer is no longer.
  have hword : (UInt16.ofNat frame.required).toNat = frame.required := by
    rw [UInt16.toNat_ofNat']
    exact Nat.mod_eq_of_lt (by omega)
  have hhead := h.head
  have hholds := (Holds.append_iff.mp h.holds).2
  rw [fetch_eq (q := { q with n := q.n - 1 }) h.tail]
  constructor
  case n =>
    have hcount := h.n
    rw [List.length_cons] at hcount
    have hle : (1 : UInt16) ≤ q.n := by
      rw [UInt16.le_iff_toNat_le, hcount]
      simp
    rw [UInt16.toNat_sub_of_le _ _ hle, hcount]
    rfl
  case avail =>
    dsimp only
    rw [UInt16.toNat_add, hword, Nat.mod_eq_of_lt (by omega)]
    omega
  case tail =>
    rw [toNat_ofNat_mod]
    exact Nat.mod_lt _ (Nat.zero_lt_of_lt cfg.lt_skbufSize)
  case head =>
    dsimp only
    rw [toNat_ofNat_mod, Nat.mod_add_mod, hhead, List.flatMap_cons, List.length_append, hlength,
      Nat.add_assoc]
  case holds =>
    dsimp only
    rw [toNat_ofNat_mod]
    unfold Holds
    rw [view_mod, ← hlength]
    exact hholds

/-- A queue without frames hands over nothing. -/
theorem recvfrom_nil {s : MySocket} (h : Queued s.queue ([] : List (RxFrame cfg))) (dataLength : ℕ)
    (rawPhase : ℤ) : ptpdNetifRecvfrom cfg dataLength rawPhase s = (none, s) := by
  have hn : s.queue.n = 0 := UInt16.toNat_inj.mp h.n
  unfold ptpdNetifRecvfrom
  rw [if_pos hn]

/-- The oldest frame is handed over. -/
theorem recvfrom_fst {s : MySocket} (h : Queued s.queue frames) (dataLength : ℕ) (rawPhase : ℤ) :
    (ptpdNetifRecvfrom cfg dataLength rawPhase s).1 =
      frames.head?.map fun frame => frame.received s dataLength rawPhase := by
  cases frames with
  | nil => rw [recvfrom_nil h, List.head?_nil, Option.map_none]
  | cons frame frames => rw [recvfrom_eq h, List.head?_cons, Option.map_some]

/-- The other frames stay in the queue exactly when the whole payload was asked for. -/
theorem recvfrom_queued_iff {s : MySocket} (h : Queued s.queue (frame :: frames)) {dataLength : ℕ}
    {rawPhase : ℤ} : Queued (ptpdNetifRecvfrom cfg dataLength rawPhase s).2.queue frames ↔
      frame.payload.length ≤ dataLength := by
  rw [recvfrom_eq h]
  dsimp only
  constructor
  · intro hleft
    -- The octets that were not fetched are missing in what is left.
    have hlength := frame.length_octets
    have hafter := hleft.avail
    have hbefore := h.avail
    have hsize := cfg.skbufSize_le
    rw [List.flatMap_cons, List.length_append] at hbefore
    rw [fetch_eq (q := { s.queue with n := s.queue.n - 1 }) h.tail] at hafter
    dsimp only at hafter
    unfold RxFrame.required at hlength
    rw [UInt16.toNat_add, UInt16.toNat_ofNat', Nat.mod_eq_of_lt (by omega),
      Nat.mod_eq_of_lt (by omega)] at hafter
    omega
  · intro hle
    have htotal : 2 + (ethHdrSize + (cfg.hwTimestampSize + min frame.payload.length dataLength)) =
        frame.required := by
      rw [Nat.min_eq_left hle, RxFrame.required]
      omega
    rw [htotal]
    exact h.fetch

end Queued

/-! ### The sockets -/

/-- The sockets, with the frames that were queued for each and not handed over. -/
structure RxState (cfg : NetConfig) where
  socks : ℕ → MySocket
  fifo : ℕ → List (RxFrame cfg)

/-- The calls. -/
inductive RxCall (cfg : NetConfig)
  | create (bindAddr : BindAddr) (phaseTransition : ℤ)
  | close (i : ℕ)
  | update (frame : RxFrame cfg)
  | recvfrom (i dataLength : ℕ) (rawPhase : ℤ)

namespace RxState

def Initial (st : RxState cfg) : Prop := st.socks = ptpdNetifInit ∧ st.fifo = fun _ => []

/-- The queues as they are meant: a new socket has no frames, a frame is put behind those of the
first socket it matches when there is room for it, and the oldest frame is taken. -/
def nextFifo (call : RxCall cfg) (st : RxState cfg) : ℕ → List (RxFrame cfg) :=
  match call with
  | .create _ _ =>
    let i := LinearSearch.firstIndex (fun i => !(st.socks i).inUse) cfg.maxSockets
    if i < cfg.maxSockets then Function.update st.fifo i [] else st.fifo
  | .close _ => st.fifo
  | .update frame =>
    let i := LinearSearch.firstIndex (fun i => (st.socks i).matches frame) cfg.maxSockets
    if frame.payload ≠ [] ∧ i < cfg.maxSockets ∧
        ((st.fifo i).flatMap RxFrame.octets).length + frame.required ≤ cfg.skbufSize then
      Function.update st.fifo i (st.fifo i ++ [frame])
    else st.fifo
  | .recvfrom i _ _ => Function.update st.fifo i (st.fifo i).tail

def step (call : RxCall cfg) (st : RxState cfg) : RxState cfg where
  socks :=
    match call with
    | .create bindAddr phaseTransition =>
      ptpdNetifCreateSocket cfg bindAddr phaseTransition st.socks
    | .close i => ptpdNetifCloseSocket i st.socks
    | .update frame => updateRxQueues frame st.socks
    | .recvfrom i dataLength rawPhase =>
      Function.update st.socks i (ptpdNetifRecvfrom cfg dataLength rawPhase (st.socks i)).2
  fifo := nextFifo call st

/-- No caller asks for less than the payload of the frame it gets. -/
def AsksForAll (call : RxCall cfg) (st : RxState cfg) : Prop :=
  match call with
  | .recvfrom i dataLength _ => (st.socks i).inUse = true →
    ∀ frame ∈ (st.fifo i).head?, frame.payload.length ≤ dataLength
  | _ => True

instance (call : RxCall cfg) : DecidablePred (AsksForAll call) := fun st => by
  unfold AsksForAll
  split <;> infer_instance

/-- The sockets that are in use hold the frames that were queued for them. -/
def Queues (st : RxState cfg) : Prop :=
  ∀ i, (st.socks i).inUse = true → Queued (st.socks i).queue (st.fifo i)

section Steps

variable {st : RxState cfg}

/-- A call that changes one socket keeps the queues when it does so for that socket. -/
theorem Queues.update (h : Queues st) {i : ℕ} {s : MySocket} {frames : List (RxFrame cfg)}
    (hs : s.inUse = true → Queued s.queue frames) :
    Queues ⟨Function.update st.socks i s, Function.update st.fifo i frames⟩ := by
  intro j hj
  dsimp only at hj ⊢
  by_cases hij : j = i
  · subst hij
    rw [Function.update_self] at hj ⊢
    rw [Function.update_self]
    exact hs hj
  · rw [Function.update_of_ne hij] at hj ⊢
    rw [Function.update_of_ne hij]
    exact h j hj

/-- A new socket has an empty queue. -/
theorem create_queues (h : Queues st) (bindAddr : BindAddr) (phaseTransition : ℤ) :
    Queues (step (.create bindAddr phaseTransition) st) := by
  have hempty (q : Sockq) : Queued
      { q with head := 0, tail := 0, avail := UInt16.ofNat cfg.skbufSize, n := 0 }
      ([] : List (RxFrame cfg)) := by
    have hsize := cfg.skbufSize_le
    refine ⟨rfl, ?_, Nat.zero_lt_of_lt cfg.lt_skbufSize, (Nat.zero_mod _).symm, .nil _ _⟩
    rw [UInt16.toNat_ofNat']
    exact Nat.mod_eq_of_lt (by omega)
  unfold step nextFifo ptpdNetifCreateSocket
  dsimp only
  have hle := LinearSearch.firstIndex_le (fun i => !(st.socks i).inUse) cfg.maxSockets
  generalize LinearSearch.firstIndex (fun i => !(st.socks i).inUse) cfg.maxSockets = i at hle ⊢
  rcases hle.eq_or_lt with hfull | hfree
  · rw [if_pos hfull, if_neg hfull.not_lt]
    exact h
  · rw [if_neg hfree.ne, if_pos hfree]
    exact Queues.update h fun _ => hempty _

theorem close_queues (h : Queues st) (i : ℕ) : Queues (step (.close i) st) := by
  have hclosed : Queues ⟨Function.update st.socks i { st.socks i with inUse := false },
      Function.update st.fifo i (st.fifo i)⟩ := Queues.update h fun hused => by cases hused
  rwa [Function.update_eq_self] at hclosed

/-- A frame is put into a queue, or no queue changes. -/
theorem update_queues (h : Queues st) (frame : RxFrame cfg) : Queues (step (.update frame) st) := by
  unfold step nextFifo updateRxQueues
  dsimp only
  by_cases hempty : frame.payload = []
  · rw [if_pos (by rw [hempty]; rfl), if_neg fun h => h.1 hempty]
    exact h
  rw [if_neg (mt List.length_eq_zero_iff.mp hempty)]
  have hle := LinearSearch.firstIndex_le (fun i => (st.socks i).matches frame) cfg.maxSockets
  have hspec := LinearSearch.firstIndex_spec
    (p := fun i => (st.socks i).matches frame) (n := cfg.maxSockets)
  generalize LinearSearch.firstIndex (fun i => (st.socks i).matches frame) cfg.maxSockets = i
    at hle hspec ⊢
  rcases hle.eq_or_lt with hnone | hfound
  · rw [if_pos hnone, if_neg fun h => hnone.not_lt h.2.1]
    exact h
  have hmatches : (st.socks i).matches frame = true := hspec hfound
  have hqueued : Queued (st.socks i).queue (st.fifo i) := h i (of_decide_eq_true hmatches).1
  have havail := hqueued.avail
  rw [if_neg hfound.ne]
  by_cases hfull : (st.socks i).queue.avail.toNat < frame.required
  · rw [if_pos hfull, if_neg fun h => by omega]
    exact h
  · rw [if_neg hfull, if_pos ⟨hempty, hfound, by omega⟩]
    exact Queues.update h fun _ => hqueued.enqueue (Nat.le_of_not_lt hfull)

/-- A frame that is taken as a whole leaves the others. -/
theorem recvfrom_queues (h : Queues st) {i dataLength : ℕ} (rawPhase : ℤ)
    (hasks : AsksForAll (.recvfrom i dataLength rawPhase) st) :
    Queues (step (.recvfrom i dataLength rawPhase) st) := by
  refine Queues.update h fun hused => ?_
  have hinUse : (ptpdNetifRecvfrom cfg dataLength rawPhase (st.socks i)).2.inUse =
      (st.socks i).inUse := by
    unfold ptpdNetifRecvfrom
    split <;> rfl
  have hqueued : Queued (st.socks i).queue (st.fifo i) := h i (hinUse ▸ hused)
  have hasks' := hasks (hinUse ▸ hused)
  cases hfifo : st.fifo i with
  | nil =>
    rw [hfifo] at hqueued
    rw [recvfrom_nil hqueued]
    exact hqueued
  | cons frame frames =>
    rw [hfifo] at hqueued hasks'
    exact (recvfrom_queued_iff hqueued).mpr (hasks' frame rfl)

/-- Every call that asks for all keeps the queues. -/
theorem Queues.step (h : Queues st) {call : RxCall cfg} (hasks : AsksForAll call st) :
    Queues (step call st) := by
  cases call with
  | create bindAddr phaseTransition => exact create_queues h bindAddr phaseTransition
  | close i => exact close_queues h i
  | update frame => exact update_queues h frame
  | recvfrom i dataLength rawPhase => exact recvfrom_queues h rawPhase hasks

end Steps

end RxState

/-- In every run in which no caller asks for less than the payload it gets, the queue of every
socket in use holds the frames that were queued and not handed over, in their order; the oldest of
them is what `ptpd_netif_recvfrom` hands over, and a frame for which there is no room changes
nothing. -/
theorem queued_of_guardedRun {st : RxState cfg}
    (h : InputSystem.GuardedRun RxState.Initial RxState.step RxState.AsksForAll st) (i : ℕ)
    (hused : (st.socks i).inUse = true) :
    Queued (st.socks i).queue (st.fifo i) ∧
      (∀ dataLength rawPhase, (ptpdNetifRecvfrom cfg dataLength rawPhase (st.socks i)).1 =
        (st.fifo i).head?.map fun frame => frame.received (st.socks i) dataLength rawPhase) ∧
      ∀ frame : RxFrame cfg,
        cfg.skbufSize < ((st.fifo i).flatMap RxFrame.octets).length + frame.required →
        updateRxQueues frame st.socks i = st.socks i := by
  have hqueues : RxState.Queues st := by
    refine h.invariant (fun st hstart i hinUse => ?_) fun _ _ hst hasks => hst.step hasks
    rw [hstart.1] at hinUse
    cases hinUse
  have hqueued := hqueues i hused
  refine ⟨hqueued, recvfrom_fst hqueued, fun frame hfull => ?_⟩
  have havail := hqueued.avail
  unfold updateRxQueues
  split
  · rfl
  dsimp only
  split
  · rfl
  split
  · rfl
  next hroom =>
    -- The frame goes into another queue.
    refine Function.update_of_ne ?_ _ _
    rintro heq
    rw [← heq] at hroom
    omega

end Queue

/-! ### Two frames -/

/-- A small build, in which a timestamp is four words. -/
def smallConfig : NetConfig where
  skbufSize := 128
  maxSockets := 2
  clockPeriod := 8000
  hwTimestampSize := 16
  readHwTimestamp ts :=
    let words := Buffer.load (fun _ => 0) (List.ofFn ts)
    { valid := (words.getBe32 0).toNat
      ahead := words.getBe32 4 ≠ 0
      sec := (words.getBe32 8).toNat
      nsec := (words.getBe32 12).toNat }
  skbufSize_le := by decide
  lt_skbufSize := by decide

/-- A PTP frame for the multicast address. -/
def smallFrame (payload : List UInt8) (fits : payload.length ≤ 96) : RxFrame smallConfig where
  hdr :=
    { dstmac := ![0x01, 0x1b, 0x19, 0, 0, 0]
      srcmac := ![2, 0, 0, 0, 0, 1]
      ethtype := 0x88f7 }
  hwts := ![0, 0, 0, 1, 0, 0, 0, 0, 0, 0, 0, 7, 0, 0, 0, 8]
  payload
  fits

def firstFrame : RxFrame smallConfig := smallFrame (List.replicate 20 0xaa) (by decide)

def secondFrame : RxFrame smallConfig := smallFrame (List.replicate 30 0xbb) (by decide)

/-- A socket for such frames gets two of them; the first one is taken, with a number of octets. -/
def twoFrames (dataLength : ℕ) : List (RxCall smallConfig) :=
  [.create ⟨![0x01, 0x1b, 0x19, 0, 0, 0], 0x88f7⟩ 0, .update firstFrame, .update secondFrame,
    .recvfrom 0 dataLength 0]

def smallState (calls : List (RxCall smallConfig)) : RxState smallConfig :=
  InputSystem.runInputs RxState.step ⟨ptpdNetifInit, fun _ => []⟩ calls

set_option maxRecDepth 100000 in
/-- The second frame is handed over after the first one, while a third one goes round the end of the
queue. -/
theorem queued_of_guardedRun_smallState :
    let s := (smallState (twoFrames 1518 ++ [.update firstFrame])).socks 0
    Queued s.queue [secondFrame, firstFrame] ∧
      (ptpdNetifRecvfrom smallConfig 1518 0 s).1 = some (secondFrame.received s 1518 0) := by
  have hrun : InputSystem.GuardedRun RxState.Initial RxState.step RxState.AsksForAll
      (smallState (twoFrames 1518 ++ [.update firstFrame])) :=
    .runInputs (.start ⟨rfl, rfl⟩) _ (by decide +kernel)
  obtain ⟨hqueued, hrecv, -⟩ := queued_of_guardedRun hrun 0 (by decide +kernel)
  have hfifo : (smallState (twoFrames 1518 ++ [.update firstFrame])).fifo 0 =
      [secondFrame, firstFrame] := by decide +kernel
  rw [hfifo] at hqueued hrecv
  exact ⟨hqueued, hrecv 1518 0⟩

set_option maxRecDepth 100000 in
/-- When two octets of the first frame are asked for, the rest of its payload is taken for the
header of the second one. -/
theorem smallState_garbled :
    let s := (smallState (twoFrames 2)).socks 0
    s.inUse = true ∧ (smallState (twoFrames 2)).fifo 0 = [secondFrame] ∧
      (ptpdNetifRecvfrom smallConfig 1518 0 s).1.map Received.mac = some fun _ => 0xaa := by
  decide +kernel

/-- Not every frame is handed over as it was queued. -/
theorem not_forall_queued : ¬∀ (cfg : NetConfig) (st : RxState cfg) (i : ℕ),
    InputSystem.Reachable RxState.Initial RxState.step st → (st.socks i).inUse = true →
    ∀ dataLength rawPhase, (ptpdNetifRecvfrom cfg dataLength rawPhase (st.socks i)).1 =
      (st.fifo i).head?.map fun frame => frame.received (st.socks i) dataLength rawPhase := by
  intro h
  obtain ⟨hused, hfifo, hmac⟩ := smallState_garbled
  have hrecv := h smallConfig (smallState (twoFrames 2)) 0
    (.runInputs (.start ⟨rfl, rfl⟩) _) hused 1518 0
  rw [hrecv, hfifo] at hmac
  -- The source of the second frame is another one.
  have hsource := congrFun (Option.some.inj hmac) 0
  exact absurd hsource (by decide)

end WhiteRabbitPtp
