import WhiteRabbitPtp.Correctness.Minipc
import WhiteRabbitPtp.Correctness.MinipcCall
import WhiteRabbitPtp.Model.MinipcSocket

/-!
# Calls and their executions

A client and a server at the two ends of a connection. The client sends a request and waits for a
reply; the server takes what it finds, calls a function and sends its reply. Neither packet says
which call it belongs to, and a stream does not keep packets apart: what holds them together is that
a client that waits sends nothing. As long as it waits for every reply, each of its calls is
executed once, in the order of the calls and with the values that were passed, and ends with what
the client makes of the reply to its own execution. A reply that is shorter than the declared size,
as that of a string may be, is refused after the execution.

## Main definitions

* `Connection`: a client and a server with the functions that it exports.
* `Rpc`, `RpcInput`, `Connection.step`: the two streams and both ends, with what was executed so
  far.
* `MpcRepPacket.delivered`: what the client makes of a reply.
* `Connection.Legal`: the values that are passed and returned fit, and the client waits.
* `Connection.Executes`: an execution is the one of a call.
* `Connection.Accounted`, `Connection.Exact`: calls, executions and results correspond one to one.
* `Connection.Phase`: what is on its way.

## Main results

* `MpcReqPacket.received_octets`, `minipcReturn_octets`: packets are received as they were sent.
* `minipc_executesOnce`: in every run of legal steps the correspondence is `Connection.Exact`.
-/

namespace WhiteRabbitPtp

open Octets

/-! ### Packets -/

theorem MpcReqPacket.length_octets (request : MpcReqPacket) (narg : ℕ) :
    (request.octets (minipcMaxName + 4 * narg)).length = minipcMaxName + 4 * narg := by
  simp [MpcReqPacket.octets]

/-- A server receives the name and the words that were sent, into whatever memory. -/
theorem MpcReqPacket.received_octets (request : MpcReqPacket) (packet : Buffer) (narg : ℕ) :
    (received packet (request.octets (minipcMaxName + 4 * narg))).name = request.name ∧
      ∀ k < 4 * narg,
        (received packet (request.octets (minipcMaxName + 4 * narg))).args k = request.args k := by
  have hat := Buffer.hasAt_copyList packet 0 (request.octets (minipcMaxName + 4 * narg))
  obtain ⟨hname, hargs⟩ := Buffer.hasAt_append.mp hat
  rw [List.length_ofFn, Nat.add_sub_cancel_left] at hargs
  refine ⟨hname.read, fun k hk => ?_⟩
  have hk' := hargs.octets_apply hk
  rwa [Nat.zero_add] at hk'

namespace MpcRepPacket

/-- What the caller of a function with some type gets for a reply: the number of an error, or the
value unless its type is another one, or its size less than declared or than that of a number. -/
def delivered (retval : UInt32) (packet : Buffer) : MpcRepPacket → CallResult
  | .error errno => .remote (UInt32.ofInt errno)
  | .value type val =>
    if minipcGetAsize type < 4 ∨ type >>> 16 ≠ retval >>> 16 ∨
        minipcGetAsize type < minipcGetAsize retval then .failed EPROTO
    else .returned ((packet.copyList 0 val).octets (minipcGetAsize type))

/-- A reply that the packet has room for, and whose value is not taken for an error. -/
def Sendable : MpcRepPacket → Prop
  | .error _ => True
  | .value type _ => minipcGetAtype type ≠ some .error ∧ minipcGetAsize type ≤ minipcMaxReply

variable (host : Host) (packet : Buffer)

theorem length_octets_error (errno : ℤ) : ((error errno).octets host packet).length = 8 := by
  rw [octets, List.length_append, List.length_ofFn, List.length_ofFn]

theorem length_octets_value (type : UInt32) (val : List UInt8) :
    ((value type val).octets host packet).length = 4 + minipcGetAsize type := by
  rw [octets, List.length_append, List.length_ofFn, Buffer.length_octets]

theorem length_octets_le {r : MpcRepPacket} (h : r.Sendable) :
    (r.octets host packet).length ≤ repPacketSize := by
  cases r with
  | error errno =>
    rw [length_octets_error]
    decide
  | value type val =>
    rw [length_octets_value]
    exact Nat.add_le_add_left h.2 4

theorem octets_ne_nil (r : MpcRepPacket) : r.octets host packet ≠ [] := by
  apply List.ne_nil_of_length_pos
  cases r with
  | error errno => simp [length_octets_error]
  | value type val => simp [length_octets_value]

end MpcRepPacket

/-- A caller receives what was sent for a reply, into whatever memory. -/
theorem minipcReturn_octets (host : Host) (retval : UInt32) (packet out : Buffer) {r : MpcRepPacket}
    (h : r.Sendable) :
    minipcReturn host retval packet (some (r.octets host out)) = r.delivered retval out := by
  have hat := Buffer.hasAt_copyList packet 0 (r.octets host out)
  have hlength := MpcRepPacket.length_octets_le host out h
  unfold repPacketSize minipcMaxReply at hlength
  unfold minipcReturn
  dsimp only [Option.getD_some, Option.elim_some]
  -- No reply is so long that its length were taken for a negative number.
  rw [Int.emod_eq_of_lt (by omega) (by omega)]
  generalize packet.copyList 0 (r.octets host out) = received at hat ⊢
  cases r with
  | error errno =>
    obtain ⟨htype, hval⟩ := Buffer.hasAt_append.mp hat
    rw [List.length_ofFn] at hval
    have herror := minipcGetAtype_encode .error 4 (by decide)
    rw [htype.get_put, hval.get_put]
    simp [MpcRepPacket.length_octets_error, MpcRepPacket.delivered, herror]
  | value type val =>
    obtain ⟨htype, hval⟩ := Buffer.hasAt_append.mp hat
    rw [List.length_ofFn] at hval
    have hread : List.ofFn (received.read 4 (minipcGetAsize type)) =
        (out.copyList 0 val).octets (minipcGetAsize type) := by
      have hlist := hval.ofFn_read
      rwa [Buffer.length_octets] at hlist
    rw [htype.get_put, MpcRepPacket.length_octets_value, hread, MpcRepPacket.delivered]
    by_cases hshort : minipcGetAsize type < 4
    · rw [if_pos (by omega), if_pos (.inl hshort)]
    · rw [if_neg (by omega), if_neg h.1]
      by_cases htype' : type >>> 16 ≠ retval >>> 16
      · rw [if_pos htype', if_pos (.inr (.inl htype'))]
      · rw [if_neg htype']
        by_cases hsize : minipcGetAsize type < minipcGetAsize retval
        · rw [if_pos (by omega), if_pos (.inr (.inr hsize))]
        · rw [if_neg (by omega), if_neg (by tauto)]

/-! ### Replies -/

/-- A length is aligned to words. -/
theorem toNat_align (x : UInt32) : (x &&& (~~~3 : UInt32)).toNat = 4 * (x.toNat / 4) := by
  have hmask : ∀ i < 32, (~~~3 : UInt32).toBitVec.getLsbD i = decide (2 ≤ i) := by decide
  have hshift : x &&& (~~~3 : UInt32) = x >>> 2 <<< 2 := by
    apply UInt32.toBitVec_inj.mp
    apply BitVec.eq_of_getLsbD_eq
    intro i hi
    have hbit : (x >>> 2 <<< 2).toBitVec.getLsbD i = (decide (2 ≤ i) && x.toBitVec.getLsbD i) := by
      simp
      grind
    rw [UInt32.toBitVec_and, BitVec.getLsbD_and, hmask i hi, hbit, Bool.and_comm]
  have hx := x.toNat_lt
  rw [hshift, UInt32.toNat_shiftLeft, UInt32.toNat_shiftRight]
  simp only [UInt32.reduceToNat, Nat.reduceMod, Nat.shiftRight_eq_div_pow, Nat.shiftLeft_eq,
    Nat.reducePow]
  omega

/-- What a function may write: no more than there is room for, and a string with its end. -/
def Writable (retval : UInt32) (val : List UInt8) : Prop :=
  val.length ≤ minipcMaxReply ∧ (minipcGetAtype retval = some .string → 0 ∈ val)

/-- A type of values that there is room for. -/
def Returnable (retval : UInt32) : Prop :=
  minipcGetAtype retval ≠ some .error ∧ minipcGetAsize retval ≤ minipcMaxReply

theorem length_takeWhile_lt {val : List UInt8} (h : 0 ∈ val) :
    (val.takeWhile (· ≠ 0)).length < val.length := by
  obtain ⟨before, after, rfl⟩ := List.append_of_mem h
  rw [List.takeWhile_append]
  split_ifs with hlength
  · simp
  · exact (List.takeWhile_prefix _).length_le.trans_lt (by simp)

/-- The reply to a call has room in the packet. -/
theorem sendable_reply {pd : MinipcPd} (hretval : Returnable pd.retval)
    (hval : ∀ args val, pd.f args = .done val → Writable pd.retval val) (args : Buffer) :
    (Minipc.reply pd args).Sendable := by
  unfold Minipc.reply
  cases hf : pd.f args with
  | failed errno => trivial
  | done val =>
    obtain ⟨hlength, hzero⟩ := hval args val hf
    dsimp only
    split_ifs with hstring
    · -- A string with its end is not longer than the memory, and neither is its aligned length.
      have hshort := length_takeWhile_lt (hzero hstring)
      unfold minipcMaxReply at hlength
      generalize (val.takeWhile (· ≠ 0)).length = slen at hshort ⊢
      have hsize : (UInt32.ofNat (slen + 1) + 3).toNat = slen + 4 := by
        rw [UInt32.toNat_add, UInt32.toNat_ofNat']
        simp only [UInt32.reduceToNat]
        omega
      have halign : ((UInt32.ofNat (slen + 1) + 3) &&& (~~~3 : UInt32)).toNat ≤ minipcMaxReply := by
        rw [toNat_align, hsize]
        unfold minipcMaxReply
        omega
      have hlt := halign.trans_lt (by decide : minipcMaxReply < 2 ^ 16)
      constructor
      · rw [minipcGetAtype_encode .string _ hlt]
        decide
      · rwa [minipcGetAsize_encode .string _ hlt]
    · exact hretval

/-! ### A client and a server -/

/-- A client, a server and the functions that it exports, each of which returns values that there is
room for. -/
structure Connection where
  host : Host
  client : MpcLink
  magic : client.magic = mpcMagic
  memory : Minipc
  ch : ℕ
  server : MpcLink
  cell : memory.links.cell ch = some server
  pds : ℕ → MinipcPd
  exports : List ℕ
  functions : memory.Functions server exports
  returnable : ∀ i ∈ exports, Returnable (pds i).retval

/-- A call, with the values that are passed. -/
structure RpcCall where
  pd : MinipcPd
  vals : List ArgValue

/-- What a server has executed: the request that it found, what its functions did at that time, and
the reply with the memory that it was written to. -/
structure Execution where
  request : MpcReqPacket
  fs : ℕ → Buffer → MinipcResult
  out : Buffer
  reply : MpcRepPacket

/-- The octets that are on their way in both directions, the call that waits for its reply, what was
executed, and the calls that have ended, with their results. -/
structure Rpc where
  requests : List UInt8
  replies : List UInt8
  waiting : Option RpcCall
  executions : List Execution
  finished : List (RpcCall × CallResult)

/-- What happens next, with the memory that packets are received into. -/
inductive RpcInput
  | call (call : RpcCall) (packet : Buffer)
  | serve (packet out : Buffer) (fs : ℕ → Buffer → MinipcResult)
  | poll (found : PollResult) (packet : Buffer)

def Rpc.initial : Rpc := ⟨[], [], none, [], []⟩

namespace Connection

variable (c : Connection)

/-- The descriptors when the functions do something. -/
def descriptors (fs : ℕ → Buffer → MinipcResult) (i : ℕ) : MinipcPd := { c.pds i with f := fs i }

/-- One end of the connection does something. A client that waits does not call, a server waits for
a request, and `poll` finds no reply where there is none. -/
def step (i : RpcInput) (s : Rpc) : Rpc :=
  match i, s.waiting with
  | .call call packet, none =>
    match minipcCall c.host c.client call.pd (call.vals.map ArgValue.passed) packet with
    | .sent request size =>
      { s with requests := s.requests ++ request.octets size, waiting := some call }
    | .refused errno => { s with finished := s.finished ++ [(call, .failed errno)] }
    | .undefined => s
  | .call _ _, some _ => s
  | .serve packet out fs, _ =>
    if s.requests = [] then s
    else
      let request := MpcReqPacket.received packet (s.requests.take reqPacketSize)
      match c.memory.mpcHandleClient (c.descriptors fs) c.ch request with
      | none => s
      | some reply => { s with
          requests := s.requests.drop reqPacketSize
          replies := s.replies ++ reply.octets c.host out
          executions := s.executions ++ [⟨request, fs, out, reply⟩] }
  | .poll .ready packet, some call =>
    if s.replies = [] then s
    else { s with
      replies := s.replies.drop repPacketSize
      waiting := none
      finished := s.finished ++ [(call, minipcWait c.host call.pd.retval packet .ready
        (some (s.replies.take repPacketSize)))] }
  | .poll found packet, some call => { s with
      waiting := none
      finished := s.finished ++ [(call, minipcWait c.host call.pd.retval packet found none)] }
  | .poll _ _, none => s

/-- A caller passes values of the types that it says, with strings whose lengths are numbers of type
`int`, and waits for the reply. Functions write what there is room for. -/
def Legal : RpcInput → Prop
  | .call call _ =>
    List.Forall₂ HasType call.pd.args call.vals ∧ LengthsFit 0 call.pd.args call.vals
  | .serve _ _ fs => ∀ i ∈ c.exports, ∀ args val, fs i args = .done val →
      Writable (c.pds i).retval val
  | .poll found _ => found = .ready

/-! ### Calls and executions -/

/-- An execution is the one of a call: a server finds the values that were passed in its request,
and its reply is what the first function of the name of the call returned, if there is one. -/
structure Executes (e : Execution) (call : RpcCall) : Prop where
  name : e.request.name = call.pd.name
  args : ∃ narg, walkArgs c.host e.request.args (4 * narg) 0 call.pd.args = some (call.vals, narg)
  reply : e.reply =
    match c.exports.find? fun i => sameName call.pd.name (c.pds i).name with
    | none => .error EOPNOTSUPP
    | some i => Minipc.reply (c.descriptors e.fs i) e.request.args

/-- The calls that have ended were executed one after the other, and each has what `delivered` makes
of the reply to its own execution: the value, the error number of the server, or `EPROTO` when the
reply has another type or is too short. A call that does not fit was refused and not executed. -/
inductive Accounted : List Execution → List (RpcCall × CallResult) → Prop
  | nil : Accounted [] []
  | executed {es : List Execution} {ends : List (RpcCall × CallResult)} {e : Execution}
      {call : RpcCall} : Accounted es ends → c.Executes e call →
      Accounted (es ++ [e]) (ends ++ [(call, e.reply.delivered call.pd.retval e.out)])
  | refused {es : List Execution} {ends : List (RpcCall × CallResult)} {call : RpcCall} :
      Accounted es ends → DoesNotFit 0 call.pd.args call.vals →
      Accounted es (ends ++ [(call, .failed EPROTO)])

/-- Calls, executions and results correspond one to one. A call that waits may have been executed
already, and its request or its reply is on its way. -/
def Exact (s : Rpc) : Prop :=
  match s.waiting with
  | none => c.Accounted s.executions s.finished
  | some call => (c.Accounted s.executions s.finished ∧ s.requests ≠ []) ∨
      ∃ es e, s.executions = es ++ [e] ∧ c.Accounted es s.finished ∧ c.Executes e call ∧
        s.replies ≠ []

/-- A request with the values of a call in its words, whatever memory they are received into. -/
structure Requests (call : RpcCall) (request : MpcReqPacket) (narg : ℕ) : Prop where
  lt : narg < minipcMaxArguments
  name : request.name = call.pd.name
  walk : ∀ received : Buffer, (∀ k < 4 * narg, received k = request.args k) →
    walkArgs c.host received (4 * narg) 0 call.pd.args = some (call.vals, narg)

/-- What is on its way. -/
inductive Phase : Rpc → Prop
  | idle {es : List Execution} {ends : List (RpcCall × CallResult)} :
      c.Accounted es ends → Phase ⟨[], [], none, es, ends⟩
  | requested {es : List Execution} {ends : List (RpcCall × CallResult)} {call : RpcCall}
      {request : MpcReqPacket} {narg : ℕ} : c.Accounted es ends → c.Requests call request narg →
      Phase ⟨request.octets (minipcMaxName + 4 * narg), [], some call, es, ends⟩
  | replied {es : List Execution} {ends : List (RpcCall × CallResult)} {call : RpcCall}
      {e : Execution} : c.Accounted es ends → c.Executes e call → e.reply.Sendable →
      Phase ⟨[], e.reply.octets c.host e.out, some call, es ++ [e], ends⟩

variable {c} {s : Rpc} {call : RpcCall} {packet out : Buffer} {fs : ℕ → Buffer → MinipcResult}

/-- What a server answers has room in the packet. -/
theorem sendable (hlegal : c.Legal (.serve packet out fs)) (name : OctetString minipcMaxName)
    (args : Buffer) : MpcRepPacket.Sendable
      (match c.exports.find? fun i => sameName name (c.pds i).name with
      | none => .error EOPNOTSUPP
      | some i => Minipc.reply (c.descriptors fs i) args) := by
  cases hfind : c.exports.find? fun i => sameName name (c.pds i).name with
  | none => trivial
  | some i =>
    have hi := List.mem_of_find?_eq_some hfind
    have hreturnable : Returnable (c.descriptors fs i).retval := c.returnable i hi
    exact sendable_reply hreturnable (hlegal i hi) args

/-- A caller that may call sends a request, or is refused. -/
theorem Phase.step_call (h : c.Phase s) (hlegal : c.Legal (.call call packet)) :
    c.Phase (c.step (.call call packet) s) := by
  cases h with
  | idle hes =>
    have hmeets : (marshalArgs c.host call.pd.args (call.vals.map ArgValue.passed) packet 0).Meets
        c.host packet 0 call.pd.args call.vals :=
      marshalArgs_meets c.host hlegal.1 (by decide) hlegal.2
    unfold step
    dsimp only
    rw [minipcCall_eq c.host c.magic]
    generalize marshalArgs c.host call.pd.args _ packet 0 = result at hmeets ⊢
    cases result with
    | done args narg =>
      obtain ⟨-, hlast, -, hwalk⟩ := hmeets
      exact .requested hes ⟨hlast, rfl, hwalk⟩
    | refused errno =>
      obtain ⟨rfl, hfit⟩ := hmeets
      exact .idle (hes.refused hfit)
    | undefined => exact hmeets.elim
  | requested hes hrequest => exact .requested hes hrequest
  | replied hes hexec hsend => exact .replied hes hexec hsend

/-- A server executes the request that it finds, which is a whole one. -/
theorem Phase.step_serve (h : c.Phase s) (hlegal : c.Legal (.serve packet out fs)) :
    c.Phase (c.step (.serve packet out fs) s) := by
  cases h with
  | idle hes => exact .idle hes
  | @requested es ends call request narg hes hrequest =>
    -- A request has at least its name and fits the packet, so that it is taken whole.
    have hlt := hrequest.lt
    have hlength := request.length_octets narg
    have hne : request.octets (minipcMaxName + 4 * narg) ≠ [] := by
      apply List.ne_nil_of_length_pos
      rw [hlength]
      unfold minipcMaxName
      omega
    have hle : (request.octets (minipcMaxName + 4 * narg)).length ≤ reqPacketSize := by
      rw [hlength]
      unfold reqPacketSize
      omega
    obtain ⟨hname, hargs⟩ := request.received_octets packet narg
    have hserve := Minipc.mpcHandleClient_eq (c.descriptors fs) c.cell c.functions
      (MpcReqPacket.received packet (request.octets (minipcMaxName + 4 * narg)))
    rw [hname, hrequest.name] at hserve
    have hsend := c.sendable hlegal call.pd.name
      (MpcReqPacket.received packet (request.octets (minipcMaxName + 4 * narg))).args
    unfold step
    dsimp only
    rw [if_neg hne, List.take_of_length_le hle, List.drop_of_length_le hle, hserve]
    exact .replied (e := ⟨_, fs, out, _⟩) hes
      ⟨hname.trans hrequest.name, ⟨narg, hrequest.walk _ hargs⟩, rfl⟩ hsend
  | replied hes hexec hsend => exact .replied hes hexec hsend

/-- A client that waits receives the reply to its own call. -/
theorem Phase.step_poll (h : c.Phase s) : c.Phase (c.step (.poll .ready packet) s) := by
  cases h with
  | idle hes => exact .idle hes
  | requested hes hrequest => exact .requested hes hrequest
  | @replied es ends call e hes hexec hsend =>
    have hle := MpcRepPacket.length_octets_le c.host e.out hsend
    unfold step
    dsimp only
    rw [if_neg (MpcRepPacket.octets_ne_nil c.host e.out e.reply), List.take_of_length_le hle,
      List.drop_of_length_le hle, minipcWait, minipcReturn_octets _ _ _ _ hsend]
    exact .idle (hes.executed hexec)

theorem Phase.step {i : RpcInput} (h : c.Phase s) (hlegal : c.Legal i) : c.Phase (c.step i s) := by
  cases i with
  | call call packet => exact h.step_call hlegal
  | serve packet out fs => exact h.step_serve hlegal
  | poll found packet =>
    cases hlegal
    exact h.step_poll

theorem Phase.exact (h : c.Phase s) : c.Exact s := by
  cases h with
  | idle hes => exact hes
  | @requested es ends call request narg hes hrequest =>
    refine .inl ⟨hes, ?_⟩
    apply List.ne_nil_of_length_pos
    dsimp only
    rw [request.length_octets]
    unfold minipcMaxName
    omega
  | @replied es ends call e hes hexec hsend =>
    exact .inr ⟨es, e, rfl, hes, hexec, MpcRepPacket.octets_ne_nil c.host e.out e.reply⟩

end Connection

/-- In every run of `Connection.Legal` steps, in which the client waits for each reply, every call
is executed exactly once and in the order of the calls, by the first function of its name and with
the values that were passed, and ends with what `MpcRepPacket.delivered` makes of the reply to its
own execution; a call that does not fit is not executed. While a call waits, its request or its
reply is on its way. -/
theorem minipc_executesOnce (c : Connection) (inputs : List RpcInput)
    (hlegal : InputSystem.EveryStep c.step (fun i _ => c.Legal i) .initial inputs) :
    c.Exact (InputSystem.runInputs c.step .initial inputs) := by
  have hphase : c.Phase (InputSystem.runInputs c.step .initial inputs) :=
    hlegal.runInputs_of_invariant (I := c.Phase) (.idle .nil) fun _ _ hs hi => hs.step hi
  exact hphase.exact

/-! ### Two calls -/

/-- The memory of a server that exports two functions. -/
def smallServer : Minipc where
  base := some 0
  links := LinkedList.Heap.empty.set 0 { smallLink with flist := some 1 }
  flists := (LinkedList.Heap.empty.set 0 ⟨0, none⟩).set 1 ⟨1, some 0⟩
  errno := 0

theorem functions_smallServer :
    smallServer.Functions { smallLink with flist := some 1 } [1, 0] := by
  have hfst : smallServer.flists.cell 1 = some ⟨1, some 0⟩ := rfl
  have hsnd : smallServer.flists.cell 0 = some ⟨0, none⟩ := rfl
  exact .cons hfst (.cons hsnd .nil)

def smallConnection : Connection where
  host := smallHost
  client := smallLink
  magic := rfl
  memory := smallServer
  ch := 0
  server := { smallLink with flist := some 1 }
  cell := rfl
  pds i := smallPd (.ofNat i)
  exports := [1, 0]
  functions := functions_smallServer
  returnable i _ := by
    have hsize := minipcGetAsize_encode .int 4 (by decide)
    have htype := minipcGetAtype_encode .int 4 (by decide)
    exact ⟨by rw [smallPd, htype]; decide, by rw [smallPd, hsize]; decide⟩

/-- A call of the first function with a number, and one of a function that is not exported. -/
def smallRpc : List RpcInput :=
  [.call ⟨{ smallPd 1 with args := [minipcArgEncode .int 4] }, [.int 7]⟩ fun _ => 0,
    .poll .ready fun _ => 0,
    .serve (fun _ => 3) (fun _ => 0) (fun _ args => .done [0, 0, 0, args 3]),
    .poll .ready fun _ => 5,
    .call ⟨smallPd 97, []⟩ fun _ => 0,
    .serve (fun _ => 3) (fun _ => 0) (fun _ args => .done [0, 0, 0, args 3]),
    .poll .ready fun _ => 5]

theorem minipc_executesOnce_smallRpc :
    smallConnection.Exact (InputSystem.runInputs smallConnection.step .initial smallRpc) ∧
      ((InputSystem.runInputs smallConnection.step .initial smallRpc).finished.map Prod.snd =
        [.returned [0, 0, 0, 7], .remote 95]) := by
  have hint (args : Buffer) (val : List UInt8)
      (h : MinipcResult.done [0, 0, 0, args 3] = .done val) :
      Writable (minipcArgEncode .int 4) val := by
    cases h
    refine ⟨by norm_num [minipcMaxReply], fun hstring => ?_⟩
    rw [minipcGetAtype_encode .int 4 (by decide)] at hstring
    cases hstring
  refine ⟨minipc_executesOnce smallConnection smallRpc ?_, by decide +kernel⟩
  exact ⟨⟨.cons (.int 7) .nil, fun _ => ⟨trivial, fun _ => trivial⟩⟩, rfl, fun _ _ => hint, rfl,
    ⟨.nil, trivial⟩, fun _ _ => hint, rfl, trivial⟩

end WhiteRabbitPtp
