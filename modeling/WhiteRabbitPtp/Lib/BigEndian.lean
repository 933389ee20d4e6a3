import WhiteRabbitPtp.Lib.Octets
import Mathlib.Algebra.Group.Int.Defs
import Mathlib.Algebra.Group.Nat.Defs

/-!
# Big-endian numbers of any width

The value of `n` octets of a buffer, most significant first: a plain reading of a network byte
order, to compare the words of a program with.

## Main definitions

* `Buffer.beNat`, `Buffer.beInt`: the number in `n` octets, unsigned and in two's complement.

## Main results

* `beNat_add`: a wide number is put together from two narrower ones.
* `beNat_two`, `beNat_four`: the words of `getBe16` and `getBe32`.
* `beInt_eight`: a signed number in two halves.
-/

namespace Octets.Buffer

/-- The number in `n` octets, most significant first. -/
def beNat (b : Buffer) (off : ℕ) : ℕ → ℕ
  | 0 => 0
  | n + 1 => beNat b off n * 256 + (b (off + n)).toNat

/-- The number in `n` octets in two's complement, most significant octet first. -/
def beInt (b : Buffer) (off n : ℕ) : ℤ := (b.beNat off n : ℤ).bmod (256 ^ n)

section Values

variable (b : Buffer) (off m n : ℕ)

/-- The number in `m + n` octets is put together from the first `m` and the last `n`. -/
theorem beNat_add : b.beNat off (m + n) = b.beNat off m * 256 ^ n + b.beNat (off + m) n := by
  induction n with
  | zero => simp [beNat]
  | succ n ih =>
    rw [← Nat.add_assoc, beNat, ih, beNat, Nat.pow_succ, Nat.add_assoc off m n]
    calc (b.beNat off m * 256 ^ n + b.beNat (off + m) n) * 256 + (b (off + (m + n))).toNat
        = b.beNat off m * 256 ^ n * 256 + b.beNat (off + m) n * 256 +
          (b (off + (m + n))).toNat := by
          rw [Nat.add_mul]
      _ = b.beNat off m * (256 ^ n * 256) +
          (b.beNat (off + m) n * 256 + (b (off + (m + n))).toNat) := by
          rw [Nat.mul_assoc, Nat.add_assoc]

@[simp]
theorem beNat_one : b.beNat off 1 = (b off).toNat := by
  simp [beNat]

@[simp]
theorem beNat_two : b.beNat off 2 = (b.getBe16 off).toNat := by
  simp [beNat, getBe16, toNat_word16]

@[simp]
theorem beNat_four : b.beNat off 4 = (b.getBe32 off).toNat := by
  simp [beNat, getBe32, toNat_word32]

@[simp]
theorem beInt_one : b.beInt off 1 = (b off).toInt8.toInt := by
  rw [beInt, beNat_one, ← Int8.toInt_toBitVec, BitVec.toInt_eq_toNat_bmod]
  rfl

@[simp]
theorem beInt_two : b.beInt off 2 = (b.getBe16 off).toInt16.toInt := by
  rw [beInt, beNat_two, ← Int16.toInt_toBitVec, BitVec.toInt_eq_toNat_bmod]
  rfl

/-- A signed number of eight octets has a signed high half and an unsigned low half. -/
theorem beInt_eight : b.beInt off 8 =
    (b.getBe32 off).toInt32.toInt * 2 ^ 32 + (b.getBe32 (off + 4)).toNat := by
  have hhigh : (b.getBe32 off).toInt32.toInt = ((b.getBe32 off).toNat : ℤ).bmod (2 ^ 32) := by
    rw [← Int32.toInt_toBitVec, BitVec.toInt_eq_toNat_bmod]
    rfl
  have hlt := (b.getBe32 (off + 4)).toNat_lt
  have hlt' := (b.getBe32 off).toNat_lt
  rw [beInt, beNat_add b off 4 4, beNat_four, beNat_four, hhigh]
  generalize (b.getBe32 off).toNat = hi at hlt' ⊢
  generalize (b.getBe32 (off + 4)).toNat = lo at hlt ⊢
  rw [Int.bmod_def, Int.bmod_def]
  split <;> split <;> omega

end Values

end Octets.Buffer
