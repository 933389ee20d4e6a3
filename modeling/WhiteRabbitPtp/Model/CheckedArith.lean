import Mathlib.Logic.Function.Basic
import WhiteRabbitPtp.Lib.CheckedInt
import WhiteRabbitPtp.Model.Arith

/-!
# Time arithmetic through pointers

The functions of `arith.c` work on the objects that their arguments point to, and their callers let
the result be one of the operands. Here every store is made in a memory, in the order of the source,
and every operation on an `int` is checked: what overflows has no result.
-/

namespace WhiteRabbitPtp

open CheckedInt

/-- `normalizeTime` with every operation checked. -/
def normalizeTimeChecked (r : TimeInternal) : Option TimeInternal := do
  let seconds ← checked 32 (r.seconds + r.nanoseconds.tdiv nsPerSec)
  let whole ← checked 32 (r.nanoseconds.tdiv nsPerSec * nsPerSec)
  let nanoseconds ← checked 32 (r.nanoseconds - whole)
  if 0 < seconds ∧ nanoseconds < 0 then
    let seconds ← checked 32 (seconds - 1)
    let nanoseconds ← checked 32 (nanoseconds + nsPerSec)
    return { r with seconds, nanoseconds }
  else if seconds < 0 ∧ 0 < nanoseconds then
    let seconds ← checked 32 (seconds + 1)
    let nanoseconds ← checked 32 (nanoseconds - nsPerSec)
    return { r with seconds, nanoseconds }
  else return { r with seconds, nanoseconds }

/-- The times that pointers point to. -/
abbrev TimeMemory := ℕ → TimeInternal

/-- `normalizeTime`: it reads and writes nothing but the time `r` points to. -/
def normalizeTimeAt (r : ℕ) (mem : TimeMemory) : Option TimeMemory := do
  let t ← normalizeTimeChecked (mem r)
  return Function.update mem r t

/-- The body that `addTime` and `subTime` share. The seconds are stored before the nanoseconds are
read. -/
def combineTimesAt (op : ℤ → ℤ → ℤ) (r x y : ℕ) (mem : TimeMemory) : Option TimeMemory := do
  let seconds ← checked 32 (op (mem x).seconds (mem y).seconds)
  let mem := Function.update mem r { mem r with seconds }
  let nanoseconds ← checked 32 (op (mem x).nanoseconds (mem y).nanoseconds)
  let mem := Function.update mem r { mem r with nanoseconds }
  normalizeTimeAt r mem

/-- `addTime` through its pointers. -/
def addTimeAt : ℕ → ℕ → ℕ → TimeMemory → Option TimeMemory := combineTimesAt (· + ·)

/-- `subTime` through its pointers. -/
def subTimeAt : ℕ → ℕ → ℕ → TimeMemory → Option TimeMemory := combineTimesAt (· - ·)

end WhiteRabbitPtp
