import WhiteRabbitPtp.Model.Environment
import WhiteRabbitPtp.Model.Netif

/-!
# The sockets of the host

The part of `libptpnetif/ptpd_netif.c` that knows the phase of the received clock. A socket asks the
hardware abstraction layer for the phase when it receives a frame with a time stamp, but not more
often than its timer allows; between two answers it works with the last one.

The time of day and the answers of the hardware abstraction layer are given with each call. The
variable for an answer is not initialized, so that it may hold anything when there is none.
-/

namespace WhiteRabbitPtp

/-! ### Timers of the socket -/

/-- `timeout_t`, in microseconds. -/
structure Timeout where
  startTics : UInt64
  timeout : UInt64
  deriving DecidableEq

namespace Timeout

/-- `tmo_init` at a reading of `get_tics`. -/
def init (tics : UInt64) (milliseconds : UInt32) : Timeout :=
  { startTics := tics, timeout := milliseconds.toUInt64 * 1000 }

/-- `tmo_restart` at a reading of `get_tics`. -/
def restart (tics : UInt64) (tmo : Timeout) : Timeout := { tmo with startTics := tics }

/-- `tmo_expired` at a reading of `get_tics`. -/
def expired (tics : UInt64) (tmo : Timeout) : Bool := tmo.timeout < tics - tmo.startTics

end Timeout

/-! ### The socket -/

/-- `DMTD_UPDATE_INTERVAL`, in milliseconds. -/
def DMTD_UPDATE_INTERVAL : UInt32 := 500

/-- `hexp_port_state_t`: what a socket reads of it. -/
structure HexpPortState where
  phaseVal : UInt32
  phaseValValid : ℤ
  clockPeriod : UInt32
  t2PhaseTransition : UInt32
  deriving DecidableEq

/-- `struct my_socket`: the parameters for the linearisation of receive timestamps. -/
structure Linux.MySocket where
  clockPeriod : UInt32
  phaseTransition : UInt32
  dmtdPhase : UInt32
  dmtdPhaseValid : ℤ
  dmtdUpdateTmo : Timeout
  deriving DecidableEq

/-- The parameters that `ptpd_netif_create_socket` stores. -/
def Linux.ptpdNetifCreateSocket (pstate : HexpPortState) (tics : UInt64) : Linux.MySocket :=
  { clockPeriod := pstate.clockPeriod
    phaseTransition := pstate.t2PhaseTransition
    dmtdPhase := pstate.phaseVal
    dmtdPhaseValid := 0
    dmtdUpdateTmo := .init tics DMTD_UPDATE_INTERVAL }

/-- The time stamp of the hardware, `hwtimeraw`. -/
structure Timespec where
  tvSec : ℤ
  tvNsec : ℤ
  deriving DecidableEq

/-- What `recvmsg` reports: an error, no frame, or a frame. Not every frame has a time stamp. -/
inductive Recvmsg
  | failed
  | nothing
  | frame (macDest : MacAddr) (data : List UInt8) (hwtimeraw : Option Timespec)

/-- One call of `ptpd_netif_recvfrom`: what the timestamp that it shall write to holds before, what
is received, the time of day when the timer is polled and when it is restarted, and the variable for
the answer of the hardware abstraction layer after it was asked. -/
structure RecvCall where
  rxTimestamp : WrTimestamp
  recvmsg : Recvmsg
  polled : UInt64
  pstate : HexpPortState
  restarted : UInt64

/-- `update_dmtd`. -/
def updateDmtd (c : RecvCall) (s : Linux.MySocket) : Linux.MySocket :=
  if s.dmtdUpdateTmo.expired c.polled then
    { s with
      dmtdPhase := c.pstate.phaseVal
      dmtdPhaseValid := c.pstate.phaseValValid
      dmtdUpdateTmo := s.dmtdUpdateTmo.restart c.restarted }
  else s

/-- `ptpd_netif_recvfrom`. -/
def Linux.ptpdNetifRecvfrom (c : RecvCall) (s : Linux.MySocket) : Reception × Linux.MySocket :=
  match c.recvmsg with
  | .failed => (.failed, s)
  | .nothing => (.nothing, s)
  | .frame macDest data none => (.frame macDest data { c.rxTimestamp with correct := 0 }, s)
  | .frame macDest data (some hwtimeraw) =>
    let s := updateDmtd c s
    (.frame macDest data (recvTimestamp c.rxTimestamp hwtimeraw.tvSec hwtimeraw.tvNsec
      (s.dmtdPhaseValid ≠ 0) s.dmtdPhase.toInt32.toInt s.phaseTransition.toInt32.toInt
      s.clockPeriod.toInt32.toInt), s)

end WhiteRabbitPtp
