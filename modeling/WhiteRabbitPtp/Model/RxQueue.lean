import WhiteRabbitPtp.Lib.LinearSearch
import WhiteRabbitPtp.Lib.Octets
import WhiteRabbitPtp.Model.Netif

/-!
# The receive queues of the freestanding build

The sockets of `libposix/net.c`. Frames are taken from the one network interface by
`update_rx_queues` and put into the queue of the first socket they match; `ptpd_netif_recvfrom`
takes them from there. The words of a queue are 16 bits wide.

The driver of the interface (`minic_rx_frame`, with `struct hw_timestamp`) is not part of the
source: its timestamps are octet strings of some size whose fields the configuration tells how to
read. Transmission and the state of the port are left out; multi-octet words are kept in memory most
significant octet first, as on the processor of this build, whose `ntohs` does nothing.
-/

namespace WhiteRabbitPtp

open Octets

/-! ### Data -/

/-- The fields of `struct hw_timestamp`. -/
structure HwTimestamp where
  sec : ℤ
  nsec : ℤ
  ahead : Bool
  valid : ℤ

/-- What the build is configured with. -/
structure NetConfig where
  /-- `NET_SKBUF_SIZE` -/
  skbufSize : ℕ
  /-- `NET_MAX_SOCKETS` -/
  maxSockets : ℕ
  /-- `REF_CLOCK_PERIOD_PS` -/
  clockPeriod : ℤ
  /-- `sizeof(struct hw_timestamp)` -/
  hwTimestampSize : ℕ
  readHwTimestamp : OctetString hwTimestampSize → HwTimestamp
  /-- Positions in a queue fit their words. -/
  skbufSize_le : skbufSize ≤ 65535
  /-- The buffer of `update_rx_queues` for a payload is not empty. -/
  lt_skbufSize : 32 < skbufSize

/-- `struct ethhdr` -/
structure EthHdr where
  dstmac : MacAddr
  srcmac : MacAddr
  ethtype : UInt16
  deriving DecidableEq

/-- The addresses of `wr_sockaddr_t` that a socket is bound to. -/
structure BindAddr where
  mac : MacAddr
  ethertype : UInt16

/-- `struct sockq` -/
structure Sockq where
  buf : ℕ → UInt8
  head : UInt16
  tail : UInt16
  avail : UInt16
  n : UInt16

/-- `struct my_socket` -/
structure MySocket where
  inUse : Bool
  bindAddr : BindAddr
  phaseTransition : ℤ
  queue : Sockq

/-- What `minic_rx_frame` writes: the payload fits the buffer it is given, and its length is what
the driver returns. -/
structure RxFrame (cfg : NetConfig) where
  hdr : EthHdr
  hwts : OctetString cfg.hwTimestampSize
  payload : List UInt8
  fits : payload.length ≤ cfg.skbufSize - 32
  deriving DecidableEq

/-- What `ptpd_netif_recvfrom` hands over. It returns the length of the data. -/
structure Received where
  ethertype : UInt16
  mac : MacAddr
  macDest : MacAddr
  rxTimestamp : WrTimestamp
  data : List UInt8

/-! ### Memory -/

/-- The octets of a word, and the word of octets. -/
def wordOctets (x : UInt16) : List UInt8 := [(x >>> 8).toUInt8, x.toUInt8]

def octetsWord (xs : List UInt8) : UInt16 := word16 (xs.getD 0 0) (xs.getD 1 0)

/-- The octets of a header in memory, and the header of octets. -/
def EthHdr.octets (hdr : EthHdr) : List UInt8 :=
  List.ofFn hdr.dstmac ++ (List.ofFn hdr.srcmac ++ wordOctets hdr.ethtype)

def EthHdr.ofOctets (xs : List UInt8) : EthHdr where
  dstmac k := xs.getD k 0
  srcmac k := xs.getD (6 + k) 0
  ethtype := octetsWord (xs.drop 12)

/-- `sizeof(struct ethhdr)` -/
def ethHdrSize : ℕ := 14

/-- The octets of a timestamp are the timestamp. -/
def octetString (n : ℕ) (xs : List UInt8) : OctetString n := fun k => xs.getD k 0

section Queue

variable (cfg : NetConfig)

/-! ### Copying -/

/-- The loop of `wrap_copy_in`, which reads at the tail. -/
def wrapCopyIn (q : Sockq) : ℕ → List UInt8 × Sockq
  | 0 => ([], q)
  | i + 1 =>
    let x := q.buf q.tail.toNat
    let tail := q.tail + 1
    let rest := wrapCopyIn { q with tail := if tail.toNat = cfg.skbufSize then 0 else tail } i
    (x :: rest.1, rest.2)

/-- The loop of `wrap_copy_out`, which writes at the head. -/
def wrapCopyOut (q : Sockq) : List UInt8 → Sockq
  | [] => q
  | x :: xs =>
    let head := q.head + 1
    wrapCopyOut { q with
      buf := Function.update q.buf q.head.toNat x
      head := if head.toNat = cfg.skbufSize then 0 else head } xs

/-- `q->avail += wrap_copy_in(...)` -/
def fetch (len : ℕ) (q : Sockq) : List UInt8 × Sockq :=
  let copied := wrapCopyIn cfg q len
  (copied.1, { copied.2 with avail := copied.2.avail + UInt16.ofNat len })

/-- `q->avail -= wrap_copy_out(...)` -/
def deposit (src : List UInt8) (q : Sockq) : Sockq :=
  let copied := wrapCopyOut cfg q src
  { copied with avail := copied.avail - UInt16.ofNat src.length }

/-! ### Sockets -/

/-- `ptpd_netif_init` -/
def ptpdNetifInit : ℕ → MySocket := fun _ =>
  { inUse := false
    bindAddr := ⟨fun _ => 0, 0⟩
    phaseTransition := 0
    queue := { buf := fun _ => 0, head := 0, tail := 0, avail := 0, n := 0 } }

/-- `ptpd_netif_create_socket` for a raw socket, when the state of its port is known: the first
socket that is not in use is taken, and its queue is empty. -/
def ptpdNetifCreateSocket (bindAddr : BindAddr) (phaseTransition : ℤ) (socks : ℕ → MySocket) :
    ℕ → MySocket :=
  let i := LinearSearch.firstIndex (fun i => !(socks i).inUse) cfg.maxSockets
  -- No sockets left.
  if i = cfg.maxSockets then socks
  else
    Function.update socks i
      { inUse := true
        bindAddr
        phaseTransition
        queue := { (socks i).queue with
          head := 0, tail := 0, avail := UInt16.ofNat cfg.skbufSize, n := 0 } }

/-- `ptpd_netif_close_socket` -/
def ptpdNetifCloseSocket (i : ℕ) (socks : ℕ → MySocket) : ℕ → MySocket :=
  Function.update socks i { socks i with inUse := false }

/-- The timestamp of a received frame, for the phase that the tracker reads. -/
def rxTimestamp (s : MySocket) (hwts : HwTimestamp) (rawPhase : ℤ) : WrTimestamp :=
  linearizeRxTimestamp { sec := hwts.sec, nsec := hwts.nsec, phase := 0, correct := hwts.valid }
    rawPhase hwts.ahead s.phaseTransition cfg.clockPeriod

/-- `ptpd_netif_recvfrom`. Without a frame in the queue it returns `0` and writes nothing. -/
def ptpdNetifRecvfrom (dataLength : ℕ) (rawPhase : ℤ) (s : MySocket) :
    Option Received × MySocket :=
  if s.queue.n = 0 then (none, s)
  else
    -- The frame is counted out first, and its parts are fetched in the order they were stored in.
    let q := { s.queue with n := s.queue.n - 1 }
    let size := fetch cfg 2 q
    let hdr := fetch cfg ethHdrSize size.2
    let hwts := fetch cfg cfg.hwTimestampSize hdr.2
    let data := fetch cfg (min (octetsWord size.1).toNat dataLength) hwts.2
    let ethhdr := EthHdr.ofOctets hdr.1
    let timestamp := cfg.readHwTimestamp (octetString cfg.hwTimestampSize hwts.1)
    (some
      { ethertype := ethhdr.ethtype
        mac := ethhdr.srcmac
        macDest := ethhdr.dstmac
        rxTimestamp := rxTimestamp cfg s timestamp rawPhase
        data := data.1 },
      { s with queue := data.2 })

variable {cfg}

/-- The socket is bound to the destination and the type of a frame. -/
def MySocket.matches (s : MySocket) (frame : RxFrame cfg) : Bool :=
  s.inUse ∧ frame.hdr.dstmac = s.bindAddr.mac ∧ frame.hdr.ethtype = s.bindAddr.ethertype

/-- What `update_rx_queues` needs of a queue for a frame. -/
def RxFrame.required (frame : RxFrame cfg) : ℕ :=
  ethHdrSize + frame.payload.length + cfg.hwTimestampSize + 2

/-- Put a frame into a queue. -/
def enqueue (frame : RxFrame cfg) (q : Sockq) : Sockq :=
  let size := UInt16.ofNat frame.payload.length
  let q := deposit cfg (wordOctets size) q
  let q := deposit cfg frame.hdr.octets q
  let q := deposit cfg (List.ofFn frame.hwts) q
  let q := deposit cfg (frame.payload.take size.toNat) q
  { q with n := q.n + 1 }

/-- `update_rx_queues`, for what the driver has received. -/
def updateRxQueues (frame : RxFrame cfg) (socks : ℕ → MySocket) : ℕ → MySocket :=
  -- No data received.
  if frame.payload.length = 0 then socks
  else
    let i := LinearSearch.firstIndex (fun i => (socks i).matches frame) cfg.maxSockets
    -- No socket for the frame, or its queue is full.
    if i = cfg.maxSockets then socks
    else if (socks i).queue.avail.toNat < frame.required then socks
    else Function.update socks i { socks i with queue := enqueue frame (socks i).queue }

end Queue

end WhiteRabbitPtp
