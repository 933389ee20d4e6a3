import WhiteRabbitPtp.Lib.LinearSearch
import WhiteRabbitPtp.Model.MinipcCall
import Mathlib.Data.Finset.Basic

/-!
# Calls over sockets

How the requests and replies of `libminipc` travel over its sockets, and how a server keeps the
descriptors of its clients. The sockets are streams: what was sent and not yet received is one list
of octets, from which `recv` takes as many as it finds, up to the size of a packet. A packet is
received into memory that holds something else already. Messages that are logged are left out.
-/

namespace WhiteRabbitPtp

open Octets

def EINTR : ℤ := 4

def ETIMEDOUT : ℤ := 110

/-- `MINIPC_MAX_REPLY` -/
def minipcMaxReply : ℕ := 1024

/-- `MINIPC_MAX_CLIENTS` -/
def minipcMaxClients : ℕ := 64

/-- The first argument of `select` in `minipc_server_action`, a hard constant. -/
def selectNfds : ℤ := 64

/-- `FD_SETSIZE` -/
def fdSetSize : ℤ := 1024

/-- `sizeof(struct mpc_req_packet)` -/
def reqPacketSize : ℕ := minipcMaxName + 4 * minipcMaxArguments

/-- `sizeof(struct mpc_rep_packet)` -/
def repPacketSize : ℕ := 4 + minipcMaxReply

/-! ### Packets -/

/-- The first `size` octets of a request. -/
def MpcReqPacket.octets (request : MpcReqPacket) (size : ℕ) : List UInt8 :=
  List.ofFn request.name ++ request.args.octets (size - minipcMaxName)

/-- The packet of a server that has received some octets of a request. -/
def MpcReqPacket.received (packet : Buffer) (octets : List UInt8) : MpcReqPacket :=
  let packet := packet.copyList 0 octets
  ⟨packet.read 0 minipcMaxName, fun k => packet (minipcMaxName + k)⟩

/-- What a server sends for a reply: its type and as many octets of the value as the type says. The
value was written to memory that held something else. -/
def MpcRepPacket.octets (host : Host) (packet : Buffer) : MpcRepPacket → List UInt8
  | .error errno =>
    List.ofFn (host.int.put (minipcArgEncode .error 4)) ++
      List.ofFn (host.int.put (UInt32.ofInt errno))
  | .value type val =>
    List.ofFn (host.int.put type) ++ (packet.copyList 0 val).octets (minipcGetAsize type)

/-! ### The client -/

/-- How `minipc_call` ends: with a value that was stored, with an error number of the server that
was stored, or with an error number alone. -/
inductive CallResult
  | returned (ret : List UInt8)
  | remote (remoteerr : UInt32)
  | failed (errno : ℤ)
  deriving DecidableEq

/-- What `poll` finds out. -/
inductive PollResult
  | failed (errno : ℤ)
  | timedOut
  | ready

/-- The end of `minipc_call`, with what `recv` received if it did not fail. -/
def minipcReturn (host : Host) (retval : UInt32) (packet : Buffer)
    (received : Option (List UInt8)) : CallResult :=
  let packet := packet.copyList 0 (received.getD [])
  let retsize : ℤ := received.elim (-1) fun octets => octets.length
  let type := host.int.get (packet.read 0 4)
  -- The comparison is one of unsigned numbers, so that a failed `recv` passes it.
  if retsize % 2 ^ 64 < 4 + 4 then .failed EPROTO
  else if minipcGetAtype type = some .error then .remote (host.int.get (packet.read 4 4))
  else if type >>> 16 ≠ retval >>> 16 then .failed EPROTO
  else if retsize < minipcGetAsize retval + 4 then .failed EPROTO
  else .returned (List.ofFn (packet.read 4 (minipcGetAsize type)))

/-- The part of `minipc_call` that waits for the reply. -/
def minipcWait (host : Host) (retval : UInt32) (packet : Buffer) (poll : PollResult)
    (received : Option (List UInt8)) : CallResult :=
  match poll with
  | .failed errno => .failed errno
  | .timedOut => .failed ETIMEDOUT
  | .ready => minipcReturn host retval packet received

/-! ### The server -/

/-- The descriptors of a server: `ch.fd`, the ones of its clients, of which a negative one is none,
and the set `fdset` whose copy is given to `select`. -/
structure MpcServer where
  ch : ℤ
  fd : ℕ → ℤ
  fdset : Finset ℤ

/-- What `recv` does for a request. -/
inductive RecvResult
  | received (octets : List UInt8)
  /-- Nothing was received: the client has closed the connection, or there was an error. -/
  | failed (errno : ℤ)

/-- What happens to the descriptors of clients. -/
inductive FdEvent
  | accepted (fd : ℤ)
  | closed (fd : ℤ)
  deriving DecidableEq

/-- What the operating system does for a server while it serves a client: what `recv` receives, and
whether the reply could be sent. -/
structure ClientAnswers where
  recv : RecvResult
  sent : Bool

/-- Whether `mpc_handle_client` closes the connection. -/
def ClientAnswers.closes (a : ClientAnswers) : Bool :=
  match a.recv with
  | .failed errno => errno ≠ EINTR
  | .received _ => !a.sent

namespace MpcServer

/-- `mpc_handle_client` for the descriptors. -/
def mpcHandleClient (s : MpcServer) (pos : ℕ) (a : ClientAnswers) : MpcServer × List FdEvent :=
  if a.closes then
    ({ s with fd := Function.update s.fd pos (-1), fdset := s.fdset.erase (s.fd pos) },
      [.closed (s.fd pos)])
  else (s, [])

/-- `mpc_handle_connection`, with what `accept` returns. -/
def mpcHandleConnection (s : MpcServer) (newfd : ℤ) : MpcServer × List FdEvent :=
  if newfd < 0 then (s, [])
  else
    let i := LinearSearch.firstIndex (fun i => s.fd i < 0) minipcMaxClients
    if i = minipcMaxClients then (s, [.accepted newfd, .closed newfd])
    else
      ({ s with fd := Function.update s.fd i newfd, fdset := insert newfd s.fdset },
        [.accepted newfd])

/-- The loop of `minipc_server_action` over the clients, from some place on. -/
def serveClients (ready : Finset ℤ) (answers : ℕ → ClientAnswers) :
    ℕ → ℕ → MpcServer → MpcServer × List FdEvent
  | 0, _, s => (s, [])
  | rounds + 1, i, s =>
    if s.fd i < 0 ∨ s.fd i ∉ ready then serveClients ready answers rounds (i + 1) s
    else
      let handled := s.mpcHandleClient i (answers i)
      let rest := serveClients ready answers rounds (i + 1) handled.1
      (rest.1, handled.2 ++ rest.2)

/-- What `select` finds out. -/
inductive SelectResult
  | failed (errno : ℤ)
  /-- No descriptor is ready when the time is over. -/
  | timedOut
  /-- Some of the descriptors that it looks at are ready. -/
  | ready (fds : Finset ℤ)

/-- The copy of `fdset` after `select` has found that some descriptors are ready. It looks at the
descriptors below its first argument only and leaves the others as they are. -/
def selectedSet (s : MpcServer) (ready : Finset ℤ) : Finset ℤ :=
  s.fdset.filter fun fd => fd ∈ ready ∨ selectNfds ≤ fd

/-- `minipc_server_action`: its value, the descriptors of the server, and what happened to them. -/
def minipcServerAction (s : MpcServer) (select : SelectResult) (answers : ℕ → ClientAnswers)
    (newfd : ℤ) : ℤ × MpcServer × List FdEvent :=
  match select with
  | .timedOut => (0, s, [])
  | .failed errno => (if errno = EINTR then 0 else -1, s, [])
  | .ready fds =>
    let set := s.selectedSet fds
    let served := serveClients set answers minipcMaxClients 0 s
    if s.ch ∈ set then
      let connected := served.1.mpcHandleConnection newfd
      (0, connected.1, served.2 ++ connected.2)
    else (0, served.1, served.2)

/-- The descriptors of a server that `__minipc_link_create` has created. -/
def create (ch : ℤ) : MpcServer := ⟨ch, fun _ => -1, {ch}⟩
end MpcServer

end WhiteRabbitPtp
