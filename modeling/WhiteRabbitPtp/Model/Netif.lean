import WhiteRabbitPtp.Model.DataTypes

/-!
# Receive timestamps and the millisecond counter

The part of `libptpnetif/ptpd_netif.c` that makes a hardware timestamp of a received frame into the
one the daemon works with. `libposix/net.c` has the same linearisation. The `int` computations are
integers: one that does not fit has no defined result in C. Raw values kept for debugging are left
out. The counter that timers read is the time of day in milliseconds.
-/

namespace WhiteRabbitPtp

/-- Whether `x` lies in the circular range from `min` to `max`. -/
def insideRange (min max x : ℤ) : Bool :=
  if min < max then min ≤ x ∧ x ≤ max else x ≤ max ∨ min ≤ x

/-- `ptpd_netif_linearize_rx_timestamp`. -/
def linearizeRxTimestamp (ts : WrTimestamp) (dmtdPhase : ℤ) (cntrAhead : Bool)
    (transitionPoint clockPeriod : ℤ) : WrTimestamp :=
  let phase := clockPeriod - 1 - dmtdPhase
  let tripLo := transitionPoint - clockPeriod.tdiv 4
  let tripLo := if tripLo < 0 then tripLo + clockPeriod else tripLo
  let tripHi := transitionPoint + clockPeriod.tdiv 4
  let tripHi := if clockPeriod ≤ tripHi then tripHi - clockPeriod else tripHi
  let ts :=
    if insideRange tripLo tripHi phase then
      let ts := { ts with nsec := ts.nsec - if cntrAhead then clockPeriod.tdiv 1000 else 0 }
      if insideRange tripLo transitionPoint phase then
        { ts with nsec := ts.nsec + clockPeriod.tdiv 1000 }
      else ts
    else ts
  let phase := phase - transitionPoint - 1
  let phase := if phase < 0 then phase + clockPeriod else phase
  { ts with phase := clockPeriod - 1 - phase }

/-- What `ptpd_netif_recvfrom` makes of the timestamp of a received frame, whose seconds have the
counter's lead in bit 31. Without a valid phase the timestamp is not linearised. -/
def recvTimestamp (former : WrTimestamp) (tvSec tvNsec : ℤ) (dmtdPhaseValid : Bool)
    (dmtdPhase phaseTransition clockPeriod : ℤ) : WrTimestamp :=
  let cntrAhead : Bool := tvSec / 2 ^ 31 % 2 = 1
  let ts := { former with correct := 0, nsec := tvNsec, sec := tvSec % 2 ^ 31 }
  if dmtdPhaseValid then
    { linearizeRxTimestamp ts dmtdPhase cntrAhead phaseTransition clockPeriod with correct := 1 }
  else ts

/-- `get_tics` at a time of day: microseconds since the epoch. -/
def getTics (tvSec tvUsec : ℤ) : UInt64 := UInt64.ofInt tvSec * 1000000 + UInt64.ofInt tvUsec

/-- `ptpd_netif_get_msec_tics` of the host at a time of day. -/
def getMsecTics (tvSec tvUsec : ℤ) : UInt64 := getTics tvSec tvUsec / 1000

end WhiteRabbitPtp
