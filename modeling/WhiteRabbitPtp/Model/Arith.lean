import WhiteRabbitPtp.Model.DataTypes

/-!
# Time arithmetic

The functions of `arith.c` on `TimeInternal`. Integer division and remainder truncate toward zero
as in C, and every stored result is wrapped to the width of its variable.
-/

namespace WhiteRabbitPtp

/-- Nanoseconds in a second. -/
abbrev nsPerSec : ℤ := 1000000000

/-- Bring the nanoseconds below one second and give both fields one sign. -/
def normalizeTime (r : TimeInternal) : TimeInternal :=
  let r := { r with
    seconds := i32 (r.seconds + r.nanoseconds.tdiv nsPerSec)
    nanoseconds := i32 (r.nanoseconds - r.nanoseconds.tdiv nsPerSec * nsPerSec) }
  if 0 < r.seconds ∧ r.nanoseconds < 0 then
    { r with seconds := r.seconds - 1, nanoseconds := r.nanoseconds + nsPerSec }
  else if r.seconds < 0 ∧ 0 < r.nanoseconds then
    { r with seconds := r.seconds + 1, nanoseconds := r.nanoseconds - nsPerSec }
  else r

/-- `addTime` into `r`: the fields `phase` and `correct` of `r` are kept. -/
def addTime (r x y : TimeInternal) : TimeInternal :=
  normalizeTime { r with
    seconds := i32 (x.seconds + y.seconds)
    nanoseconds := i32 (x.nanoseconds + y.nanoseconds) }

/-- `subTime` into `r`: the fields `phase` and `correct` of `r` are kept. -/
def subTime (r x y : TimeInternal) : TimeInternal :=
  normalizeTime { r with
    seconds := i32 (x.seconds - y.seconds)
    nanoseconds := i32 (x.nanoseconds - y.nanoseconds) }

/-- `fromInternalTime` into `external`, which is left alone when a field is negative. -/
def fromInternalTime (internal : TimeInternal) (external : Timestamp) : Timestamp :=
  if internal.seconds < 0 ∨ internal.nanoseconds < 0 then external
  else
    { secondsField := { lsb := UInt32.ofInt internal.seconds, msb := 0 }
      nanosecondsField := UInt32.ofInt internal.nanoseconds }

/-- `toInternalTime` into `internal`, which is left alone when the seconds do not fit. -/
def toInternalTime (internal : TimeInternal) (external : Timestamp) : TimeInternal :=
  if external.secondsField.lsb < 0x7FFFFFFF then
    { internal with
      seconds := external.secondsField.lsb.toNat
      nanoseconds := i32 external.nanosecondsField.toNat }
  else internal

/-- Seconds and nanoseconds of a non-negative `Integer64` without its fractional nanoseconds. -/
def Integer64.magnitudeToTime (bigint : Integer64) (internal : TimeInternal) : TimeInternal :=
  let lsb : UInt32 := bigint.lsb >>> 16 ||| bigint.msb.toUInt32 <<< 16
  let msb : ℤ := bigint.msb.toInt / 2 ^ 16
  let ns_msb : ℤ := msb * 294967296
  let s_msb : ℤ := i32 (4 * msb + i32 (ns_msb.tdiv nsPerSec))
  normalizeTime { internal with
    nanoseconds := i32 ((lsb.toNat : ℤ) % nsPerSec + i32 (ns_msb.tmod nsPerSec))
    seconds := i32 ((lsb.toNat : ℤ) / nsPerSec + s_msb) }

/-- `integer64_to_internalTime` into `internal`: a negative number is converted through its two's
complement. -/
def integer64ToInternalTime (bigint : Integer64) (internal : TimeInternal) : TimeInternal :=
  if 0 ≤ bigint.msb.toInt then bigint.magnitudeToTime internal
  else
    let negated : Integer64 :=
      if ~~~bigint.lsb = 0xFFFFFFFF then { lsb := 0, msb := ~~~bigint.msb + 1 }
      else { lsb := ~~~bigint.lsb + 1, msb := ~~~bigint.msb }
    let t := negated.magnitudeToTime internal
    { t with nanoseconds := i32 (-t.nanoseconds), seconds := i32 (-t.seconds) }

end WhiteRabbitPtp
