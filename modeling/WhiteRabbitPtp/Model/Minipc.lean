import WhiteRabbitPtp.Lib.LinkedList
import WhiteRabbitPtp.Lib.Octets

/-!
# Channels and exported functions

The lists of `libminipc`: `__mpc_base` leads to the links of all open channels, and each link to the
functions that are exported on it. Both are kept in allocated memory and edited through pointers.

A channel is the address of its link, and a descriptor the address it was exported with; what the
descriptors say is constant. The channels are sockets: the memory-based ones are left out, as are
the names of the sockets and the messages that are logged. A call has no result when the source
reads memory that is not in use, writes to a log file that is none, or does not return.
-/

namespace WhiteRabbitPtp

open LinkedList Octets

/-! ### Constants -/

/-- `MINIPC_MAX_NAME` -/
def minipcMaxName : ℕ := 20

/-- `MPC_MAGIC` -/
def mpcMagic : UInt32 := 0xc0ffee99

/-- `MPC_FLAG_SERVER` and `MPC_FLAG_CLIENT` -/
def mpcFlagServer : UInt32 := 0x00010000

def mpcFlagClient : UInt32 := 0x00020000

/-- `MPC_USER_FLAGS` -/
def mpcUserFlags (x : UInt32) : UInt32 := x &&& 0xffff

def ENOENT : ℤ := 2

def ENOMEM : ℤ := 12

def EINVAL : ℤ := 22

def EPROTO : ℤ := 71

def EOPNOTSUPP : ℤ := 95

/-- `enum minipc_at` -/
inductive MinipcAt
  | error
  | none
  | int
  | int64
  | double
  | string
  | struct
  deriving DecidableEq

/-- The number of a type. -/
def MinipcAt.code : MinipcAt → UInt32
  | .error => 0xffff
  | .none => 0
  | .int => 1
  | .int64 => 2
  | .double => 3
  | .string => 4
  | .struct => 5

/-- `__MINIPC_ARG_ENCODE` -/
def minipcArgEncode (atype : MinipcAt) (asize : UInt32) : UInt32 := atype.code <<< 16 ||| asize

/-- `MINIPC_GET_ATYPE`, unless it is the number of no type. -/
def minipcGetAtype (word : UInt32) : Option MinipcAt :=
  match (word >>> 16).toNat with
  | 0 => some .none
  | 1 => some .int
  | 2 => some .int64
  | 3 => some .double
  | 4 => some .string
  | 5 => some .struct
  | 0xffff => some .error
  | _ => Option.none

/-- `MINIPC_GET_ASIZE` -/
def minipcGetAsize (word : UInt32) : ℕ := (word &&& 0xffff).toNat

/-! ### Data -/

/-- What a function that is called returns: a negative number, with `errno`, or what it wrote to its
`retval`. -/
inductive MinipcResult
  | failed (errno : ℤ)
  | done (val : List UInt8)

/-- `struct minipc_pd` -/
structure MinipcPd where
  f : Buffer → MinipcResult
  name : OctetString minipcMaxName
  retval : UInt32
  /-- The words before the terminating zero. -/
  args : List UInt32

/-- `struct mpc_flist` -/
structure MpcFlist where
  pd : ℕ
  next : Option ℕ

/-- `struct mpc_link` -/
structure MpcLink where
  /-- `ch.fd` -/
  fd : ℤ
  magic : UInt32
  flags : UInt32
  nextl : Option ℕ
  flist : Option ℕ
  /-- There is a log file. -/
  logf : Bool

/-- The memory, with `__mpc_base` and `errno`. -/
structure Minipc where
  base : Option ℕ
  links : Heap MpcLink
  flists : Heap MpcFlist
  errno : ℤ

/-- `struct mpc_req_packet` -/
structure MpcReqPacket where
  name : OctetString minipcMaxName
  args : Buffer

/-- `struct mpc_rep_packet`. The type of an error is `MINIPC_ARG_ENCODE(MINIPC_ATYPE_ERROR, int)`.
-/
inductive MpcRepPacket
  | error (errno : ℤ)
  | value (type : UInt32) (val : List UInt8)
  deriving DecidableEq

/-- A pointer that is compared with those to the exported functions: one of them, or the one that
`container_of` makes of the address of a parameter. -/
inductive FlistPtr
  | entry (a : ℕ)
  | parameter
  deriving DecidableEq

/-- The octets of a string. -/
def cString {n : ℕ} (xs : OctetString n) : List UInt8 := (List.ofFn xs).takeWhile (· ≠ 0)

/-- `strcmp` finds no difference. -/
def sameName (xs ys : OctetString minipcMaxName) : Bool := cString xs == cString ys

namespace Minipc

/-- Nothing is allocated. -/
def initial : Minipc := ⟨none, .empty, .empty, 0⟩

/-! ### Exported functions -/

/-- Write through a pointer to the pointer to a function, which lies in a link or in the entry
before. -/
def setNextp (m : Minipc) (ch : ℕ) (slot next : Option ℕ) : Option Minipc :=
  match slot with
  | none => (m.links.cell ch).map fun link =>
    { m with links := m.links.set ch { link with flist := next } }
  | some b => (m.flists.cell b).map fun before =>
    { m with flists := m.flists.set b { before with next } }

/-- `mpc_free_flist`: the entry that is looked for is taken out of the list and released. The
message about it is printed whether or not there is a log file. -/
def mpcFreeFlist (m : Minipc) (ch : ℕ) (flist : FlistPtr) : Option Minipc := do
  let link ← m.links.cell ch
  let (slot, nextp) ← m.flists.search MpcFlist.next (fun a => some (.entry a == flist)) link.flist
  match nextp with
  | none => return m
  | some a =>
    let entry ← m.flists.cell a
    let unlinked ← m.setNextp ch slot entry.next
    if link.logf then return { unlinked with flists := unlinked.flists.free a } else none

/-- `minipc_export`, with the memory that `calloc` finds. -/
def minipcExport (m : Minipc) (alloc : Option ℕ) (ch pd : ℕ) : Option (ℤ × Minipc) := do
  let link ← m.links.cell ch
  if link.magic ≠ mpcMagic then return (-1, { m with errno := EINVAL })
  match alloc with
  | none => return (-1, { m with errno := ENOMEM })
  | some flist =>
    return (0, { m with
      flists := m.flists.set flist { pd, next := link.flist }
      links := m.links.set ch { link with flist := some flist } })

/-- `minipc_unexport`. The entry that it found is not the one it has taken out of the list:
`container_of` is applied to the address of `pd`. -/
def minipcUnexport (m : Minipc) (ch pd : ℕ) : Option (ℤ × Minipc) := do
  let link ← m.links.cell ch
  if link.magic ≠ mpcMagic then return (-1, { m with errno := EINVAL })
  let (_, flist) ← m.flists.search MpcFlist.next
    (fun a => (m.flists.cell a).map fun entry => entry.pd == pd) link.flist
  match flist with
  | none => return (-1, { m with errno := EINVAL })
  | some _ => return (0, ← m.mpcFreeFlist ch .parameter)

/-! ### Channels -/

/-- `__minipc_link_create` for a socket, with the memory that `calloc` finds, the descriptor from
`socket` and whether `bind` and `listen`, or `connect`, succeed. -/
def minipcLinkCreate (m : Minipc) (alloc : Option ℕ) (socket : ℤ) (ready : Bool) (flags : UInt32) :
    Option ℕ × Minipc :=
  match alloc with
  | none => (none, { m with errno := ENOMEM })
  | some a =>
    let link : MpcLink :=
      { fd := 0, magic := mpcMagic, flags, nextl := none, flist := none, logf := false }
    let links := m.links.set a link
    if socket < 0 ∨ ready = false then (none, { m with links := links.free a })
    else
      (some a, { m with
        links := links.set a { link with fd := socket, nextl := m.base }
        base := some a })

/-- `minipc_server_create` -/
def minipcServerCreate (m : Minipc) (alloc : Option ℕ) (socket : ℤ) (ready : Bool) (f : UInt32) :
    Option ℕ × Minipc :=
  m.minipcLinkCreate alloc socket ready (mpcUserFlags f ||| mpcFlagServer)

/-- `minipc_client_create` -/
def minipcClientCreate (m : Minipc) (alloc : Option ℕ) (socket : ℤ) (ready : Bool) (f : UInt32) :
    Option ℕ × Minipc :=
  m.minipcLinkCreate alloc socket ready (mpcUserFlags f ||| mpcFlagClient)

/-- `minipc_set_logfile` -/
def minipcSetLogfile (m : Minipc) (ch : ℕ) (logf : Bool) : Option (ℤ × Minipc) := do
  let link ← m.links.cell ch
  if link.magic ≠ mpcMagic then return (-1, { m with errno := EINVAL })
  return (0, { m with links := m.links.set ch { link with logf } })

/-- The loop of `minipc_close` that releases the functions. Each turn releases one, so that there
are no more of them than there is memory. -/
def freeFunctions (ch : ℕ) : ℕ → Minipc → Option Minipc
  | 0, _ => none
  | fuel + 1, m => do
    let link ← m.links.cell ch
    match link.flist with
    | none => return m
    | some a => freeFunctions ch fuel (← m.mpcFreeFlist ch (.entry a))

/-- `minipc_close`. The link that is found is the one whose `nextl` is set, not the one before it.
-/
def minipcClose (m : Minipc) (ch : ℕ) : Option (ℤ × Minipc) := do
  let link ← m.links.cell ch
  if link.magic ≠ mpcMagic then return (-1, { m with errno := EINVAL })
  let (_, nextp) ← m.links.search MpcLink.nextl (fun a => some (a == ch)) m.base
  match nextp with
  | none => return (-1, { m with errno := ENOENT })
  | some a =>
    let found ← m.links.cell a
    let linked := { m with links := m.links.set a { found with nextl := link.nextl } }
    let released ← freeFunctions ch (m.flists.bound + 1) linked
    return (0, { released with links := released.links.free ch })

/-! ### Requests -/

/-- The reply to a call of a function. The length of a string is that of its octets, aligned. -/
def reply (pd : MinipcPd) (args : Buffer) : MpcRepPacket :=
  match pd.f args with
  | .failed errno => .error errno
  | .done val =>
    if minipcGetAtype pd.retval = some .string then
      let size := UInt32.ofNat ((val.takeWhile (· ≠ 0)).length + 1)
      .value (minipcArgEncode .string ((size + 3) &&& ~~~3)) val
    else .value pd.retval val

/-- `mpc_handle_client` for a request that was received: the first function with the name is called.
-/
def mpcHandleClient (pds : ℕ → MinipcPd) (m : Minipc) (ch : ℕ) (request : MpcReqPacket) :
    Option MpcRepPacket := do
  let link ← m.links.cell ch
  let (_, flist) ← m.flists.search MpcFlist.next
    (fun a => (m.flists.cell a).map fun entry => sameName request.name (pds entry.pd).name)
    link.flist
  match flist with
  | none => return .error EOPNOTSUPP
  | some a =>
    let entry ← m.flists.cell a
    return reply (pds entry.pd) request.args

end Minipc

end WhiteRabbitPtp
