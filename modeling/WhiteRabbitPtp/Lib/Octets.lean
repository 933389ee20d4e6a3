import Mathlib.Logic.Function.Basic
import Mathlib.Data.Fin.Tuple.Basic
import Mathlib.Order.Basic

/-!
# Octet buffers and octet strings

A message buffer is a total function from offsets to octets. Writing a field changes the octets
of that field only, reading one combines its octets, most significant first.

Octet strings of a fixed length are compared as `memcmp` does: by the first octet in which they
differ, octets being unsigned.

## Main definitions

* `Buffer`, `Buffer.set`, `Buffer.fill`, `Buffer.copy`, `Buffer.load`: buffers and writes to them.
* `Buffer.putBe16`, `Buffer.putBe32`, `Buffer.getBe16`, `Buffer.getBe32`: big-endian words.
* `memcmp`: three-way comparison of two octet strings of one length.

## Main results

* `getBe16_putBe16`, `getBe32_putBe32`: a word is read back as it was written.
* `memcmp_swap`, `memcmp_eq_zero_iff`, `memcmp_trans`: `memcmp` is a total order on octet strings.
-/

namespace Octets

/-- A message buffer: the octet at each offset. -/
abbrev Buffer := ℕ → UInt8

/-- A fixed-length octet string. -/
abbrev OctetString (n : ℕ) := Fin n → UInt8

/-! ### Big-endian words -/

/-- The 16-bit word with the given octets, most significant first. -/
def word16 (hi lo : UInt8) : UInt16 := hi.toUInt16 <<< 8 ||| lo.toUInt16

/-- The 32-bit word with the given octets, most significant first. -/
def word32 (b₃ b₂ b₁ b₀ : UInt8) : UInt32 :=
  b₃.toUInt32 <<< 24 ||| b₂.toUInt32 <<< 16 ||| b₁.toUInt32 <<< 8 ||| b₀.toUInt32

/-- A 16-bit word is the word of its own octets. -/
@[simp]
theorem word16_octets (x : UInt16) : word16 (x >>> 8).toUInt8 x.toUInt8 = x := by
  apply UInt16.toBitVec_inj.mp
  apply BitVec.eq_of_getLsbD_eq
  intro i hi
  simp [word16, -UInt16.toUInt16_toUInt8]
  grind

/-- The octets of a 16-bit word may be combined in the other order, too. -/
theorem octets_word16 (x : UInt16) :
    x.toUInt8.toUInt16 ||| (x >>> 8).toUInt8.toUInt16 <<< 8 = x := by
  rw [UInt16.or_comm]
  exact word16_octets x

/-- A 32-bit word is the word of its own octets. -/
@[simp]
theorem word32_octets (x : UInt32) :
    word32 (x >>> 24).toUInt8 (x >>> 16).toUInt8 (x >>> 8).toUInt8 x.toUInt8 = x := by
  apply UInt32.toBitVec_inj.mp
  apply BitVec.eq_of_getLsbD_eq
  intro i hi
  simp [word32, -UInt32.toUInt32_toUInt8]
  grind

/-- The value of a 16-bit word. -/
theorem toNat_word16 (hi lo : UInt8) : (word16 hi lo).toNat = hi.toNat * 256 + lo.toNat := by
  have hhi := hi.toNat_lt
  have hlo := lo.toNat_lt
  have hor := Nat.shiftLeft_add_eq_or_of_lt hlo hi.toNat
  calc (word16 hi lo).toNat
      = hi.toNat <<< 8 % 2 ^ 16 ||| lo.toNat := by
        simp [word16]
    _ = hi.toNat <<< 8 + lo.toNat := by
        rw [Nat.mod_eq_of_lt (by rw [Nat.shiftLeft_eq]; omega), ← hor]
    _ = hi.toNat * 256 + lo.toNat := by rw [Nat.shiftLeft_eq]

/-- The value of a 32-bit word. -/
theorem toNat_word32 (b₃ b₂ b₁ b₀ : UInt8) :
    (word32 b₃ b₂ b₁ b₀).toNat =
      ((b₃.toNat * 256 + b₂.toNat) * 256 + b₁.toNat) * 256 + b₀.toNat := by
  have h₃ := b₃.toNat_lt
  have h₂ := b₂.toNat_lt
  have h₁ := b₁.toNat_lt
  have h₀ := b₀.toNat_lt
  -- The octets do not overlap, so the disjunctions are sums.
  have hlow := Nat.shiftLeft_add_eq_or_of_lt h₀ b₁.toNat
  have hmid := Nat.shiftLeft_add_eq_or_of_lt (i := 16) (b := b₁.toNat <<< 8 + b₀.toNat)
    (by rw [Nat.shiftLeft_eq]; omega) b₂.toNat
  have hhigh := Nat.shiftLeft_add_eq_or_of_lt (i := 24)
    (b := b₂.toNat <<< 16 + (b₁.toNat <<< 8 + b₀.toNat)) (by simp only [Nat.shiftLeft_eq]; omega)
    b₃.toNat
  have hmod : ∀ n, n < 2 ^ 32 → n % 2 ^ 32 = n := fun n hn => Nat.mod_eq_of_lt hn
  calc (word32 b₃ b₂ b₁ b₀).toNat
      = b₃.toNat <<< 24 % 2 ^ 32 ||| b₂.toNat <<< 16 % 2 ^ 32 ||| b₁.toNat <<< 8 % 2 ^ 32 |||
          b₀.toNat := by
        simp [word32]
    _ = b₃.toNat <<< 24 + (b₂.toNat <<< 16 + (b₁.toNat <<< 8 + b₀.toNat)) := by
        rw [hmod _ (by rw [Nat.shiftLeft_eq]; omega), hmod _ (by rw [Nat.shiftLeft_eq]; omega),
          hmod _ (by rw [Nat.shiftLeft_eq]; omega), Nat.or_assoc, Nat.or_assoc, ← hlow, ← hmid,
          ← hhigh]
    _ = ((b₃.toNat * 256 + b₂.toNat) * 256 + b₁.toNat) * 256 + b₀.toNat := by
        simp only [Nat.shiftLeft_eq]
        omega

/-- Words with equal values have equal octets. -/
theorem word16_inj {hi lo hi' lo' : UInt8} :
    word16 hi lo = word16 hi' lo' ↔ hi = hi' ∧ lo = lo' := by
  have hlo := lo.toNat_lt
  have hlo' := lo'.toNat_lt
  simp only [← UInt16.toNat_inj, ← UInt8.toNat_inj, toNat_word16]
  omega

@[inherit_doc word16_inj]
theorem word32_inj {a b c d a' b' c' d' : UInt8} :
    word32 a b c d = word32 a' b' c' d' ↔ a = a' ∧ b = b' ∧ c = c' ∧ d = d' := by
  have hb := b.toNat_lt
  have hc := c.toNat_lt
  have hd := d.toNat_lt
  have hb' := b'.toNat_lt
  have hc' := c'.toNat_lt
  have hd' := d'.toNat_lt
  simp only [← UInt32.toNat_inj, ← UInt8.toNat_inj, toNat_word32]
  omega

/-- The octets of a word are those it was made of. -/
theorem word16_octets_eq (hi lo : UInt8) :
    (word16 hi lo >>> 8).toUInt8 = hi ∧ (word16 hi lo).toUInt8 = lo :=
  word16_inj.mp (word16_octets _)

/-! ### Buffers -/

namespace Buffer

/-- Write one octet. -/
def set (b : Buffer) (off : ℕ) (x : UInt8) : Buffer :=
  fun i => if i = off then x else b i

/-- Write `n` copies of an octet (`memset`). -/
def fill (b : Buffer) (off n : ℕ) (x : UInt8) : Buffer :=
  fun i => if off ≤ i ∧ i < off + n then x else b i

/-- Write an octet string (`memcpy` into the buffer). -/
def copy {n : ℕ} (b : Buffer) (off : ℕ) (xs : OctetString n) : Buffer :=
  fun i => if h : off ≤ i ∧ i < off + n then xs ⟨i - off, by omega⟩ else b i

/-- Overwrite the buffer from its start by the octets of a frame. -/
def load (b : Buffer) (frame : List UInt8) : Buffer :=
  fun i => frame.getD i (b i)

/-- Read an octet string (`memcpy` out of the buffer). -/
def read (b : Buffer) (off n : ℕ) : OctetString n :=
  fun k => b (off + k)

/-- The first `n` octets of the buffer, as handed to the network. -/
def octets (b : Buffer) (n : ℕ) : List UInt8 :=
  (List.range n).map b

/-- Write a 16-bit word, most significant octet first. -/
def putBe16 (b : Buffer) (off : ℕ) (x : UInt16) : Buffer :=
  (b.set off (x >>> 8).toUInt8).set (off + 1) x.toUInt8

/-- Write a 32-bit word, most significant octet first. -/
def putBe32 (b : Buffer) (off : ℕ) (x : UInt32) : Buffer :=
  (((b.set off (x >>> 24).toUInt8).set (off + 1) (x >>> 16).toUInt8).set (off + 2)
    (x >>> 8).toUInt8).set (off + 3) x.toUInt8

/-- Read a 16-bit word, most significant octet first. -/
def getBe16 (b : Buffer) (off : ℕ) : UInt16 :=
  word16 (b off) (b (off + 1))

/-- Read a 32-bit word, most significant octet first. -/
def getBe32 (b : Buffer) (off : ℕ) : UInt32 :=
  word32 (b off) (b (off + 1)) (b (off + 2)) (b (off + 3))

section Lemmas

variable (b b' : Buffer) (off i n : ℕ)

/-- A 16-bit word is read back as it was written. -/
@[simp]
theorem getBe16_putBe16 (x : UInt16) : (b.putBe16 off x).getBe16 off = x := by
  simp [getBe16, putBe16, set]

/-- A 32-bit word is read back as it was written. -/
@[simp]
theorem getBe32_putBe32 (x : UInt32) : (b.putBe32 off x).getBe32 off = x := by
  simp [getBe32, putBe32, set]

/-- An octet string is read back as it was written. -/
@[simp]
theorem read_copy (xs : OctetString n) : (b.copy off xs).read off n = xs := by
  funext k
  simp [read, copy]

/-- An octet string is read back octet by octet. -/
theorem copy_apply (xs : OctetString n) (k : Fin n) : b.copy off xs (off + k) = xs k := by
  simp [copy]

/-- An octet is read back as it was written. -/
@[simp]
theorem set_self (x : UInt8) : b.set off x off = x := if_pos rfl

/-- The first octet of a 16-bit word. -/
theorem putBe16_fst (x : UInt16) : b.putBe16 off x off = (x >>> 8).toUInt8 := by
  simp [putBe16, set]

/-- The second octet of a 16-bit word. -/
theorem putBe16_snd (x : UInt16) : b.putBe16 off x (off + 1) = x.toUInt8 := by
  simp [putBe16, set]

/-- Writing an octet leaves the other ones alone. -/
@[simp]
theorem set_of_ne {x : UInt8} (h : i ≠ off) : b.set off x i = b i := if_neg h

/-- Writing a 16-bit word leaves the octets outside of it alone. -/
@[simp]
theorem putBe16_of_ne {x : UInt16} (h : i ≠ off) (h' : i ≠ off + 1) :
    b.putBe16 off x i = b i := by
  rw [putBe16, set_of_ne _ _ _ h', set_of_ne _ _ _ h]

/-- Writing a 32-bit word leaves the octets outside of it alone. -/
@[simp]
theorem putBe32_of_ne {x : UInt32} (h : i < off ∨ off + 4 ≤ i) : b.putBe32 off x i = b i := by
  rw [putBe32, set_of_ne _ _ _ (by omega), set_of_ne _ _ _ (by omega),
    set_of_ne _ _ _ (by omega), set_of_ne _ _ _ (by omega)]

/-- Filling a range leaves the octets outside of it alone. -/
@[simp]
theorem fill_of_not_mem {x : UInt8} (h : ¬(off ≤ i ∧ i < off + n)) : b.fill off n x i = b i :=
  if_neg h

/-- Writing an octet string leaves the octets outside of it alone. -/
@[simp]
theorem copy_of_not_mem {xs : OctetString n} (h : ¬(off ≤ i ∧ i < off + n)) :
    b.copy off xs i = b i :=
  dif_neg h

/-- An octet below the length of a loaded frame is the frame's. -/
theorem load_apply_of_lt {frame : List UInt8} (h : i < frame.length) :
    b.load frame i = frame[i] := by
  simp [load, h]

/-- The frame taken from a buffer, loaded into another one, gives the buffer's octets back. -/
@[simp]
theorem load_octets_apply (h : i < n) : b'.load (b.octets n) i = b i := by
  simp [load, octets, h]

/-- A frame has as many octets as were taken. -/
@[simp]
theorem length_octets : (b.octets n).length = n := by
  simp [octets]

/-- Reading inside a loaded frame gives what was in the buffer it was taken from. -/
theorem read_load_octets {m : ℕ} (h : off + m ≤ n) :
    (b'.load (b.octets n)).read off m = b.read off m := by
  funext k
  exact load_octets_apply _ _ _ _ (by omega)

/-- A 16-bit word inside a loaded frame is the one in the buffer it was taken from. -/
theorem getBe16_load_octets (h : off + 2 ≤ n) :
    (b'.load (b.octets n)).getBe16 off = b.getBe16 off := by
  simp only [getBe16]
  rw [load_octets_apply _ _ _ _ (by omega), load_octets_apply _ _ _ _ (by omega)]

/-- A 32-bit word inside a loaded frame is the one in the buffer it was taken from. -/
theorem getBe32_load_octets (h : off + 4 ≤ n) :
    (b'.load (b.octets n)).getBe32 off = b.getBe32 off := by
  simp only [getBe32]
  rw [load_octets_apply _ _ _ _ (by omega), load_octets_apply _ _ _ _ (by omega),
    load_octets_apply _ _ _ _ (by omega), load_octets_apply _ _ _ _ (by omega)]

end Lemmas

/-! ### Reading past a write -/

section ReadPast

variable {b b' : Buffer} {off off' n m : ℕ}

/-- A 16-bit word depends on its two octets. -/
theorem getBe16_congr (h : ∀ i, off ≤ i → i < off + 2 → b i = b' i) :
    b.getBe16 off = b'.getBe16 off := by
  rw [getBe16, getBe16, h off (by omega) (by omega), h (off + 1) (by omega) (by omega)]

/-- A 32-bit word depends on its four octets. -/
theorem getBe32_congr (h : ∀ i, off ≤ i → i < off + 4 → b i = b' i) :
    b.getBe32 off = b'.getBe32 off := by
  rw [getBe32, getBe32, h off (by omega) (by omega), h (off + 1) (by omega) (by omega),
    h (off + 2) (by omega) (by omega), h (off + 3) (by omega) (by omega)]

/-- An octet string depends on its octets. -/
theorem read_congr (h : ∀ i, off ≤ i → i < off + n → b i = b' i) :
    b.read off n = b'.read off n := by
  funext k
  exact h _ (by omega) (by omega)

/-! A reader skips a write to other octets. -/

@[simp]
theorem getBe16_set {x : UInt8} (h : off' < off ∨ off + 2 ≤ off') :
    (b.set off' x).getBe16 off = b.getBe16 off :=
  getBe16_congr fun _ _ _ => set_of_ne _ _ _ (by omega)

@[simp]
theorem getBe16_putBe16_of_disjoint {x : UInt16} (h : off' + 2 ≤ off ∨ off + 2 ≤ off') :
    (b.putBe16 off' x).getBe16 off = b.getBe16 off :=
  getBe16_congr fun _ _ _ => putBe16_of_ne _ _ _ (by omega) (by omega)

@[simp]
theorem getBe16_putBe32 {x : UInt32} (h : off' + 4 ≤ off ∨ off + 2 ≤ off') :
    (b.putBe32 off' x).getBe16 off = b.getBe16 off :=
  getBe16_congr fun _ _ _ => putBe32_of_ne _ _ _ (by omega)

@[simp]
theorem getBe16_fill {x : UInt8} (h : off' + m ≤ off ∨ off + 2 ≤ off') :
    (b.fill off' m x).getBe16 off = b.getBe16 off :=
  getBe16_congr fun _ _ _ => fill_of_not_mem _ _ _ _ (by omega)

@[simp]
theorem getBe16_copy {xs : OctetString m} (h : off' + m ≤ off ∨ off + 2 ≤ off') :
    (b.copy off' xs).getBe16 off = b.getBe16 off :=
  getBe16_congr fun _ _ _ => copy_of_not_mem _ _ _ _ (by omega)

@[simp]
theorem getBe32_set {x : UInt8} (h : off' < off ∨ off + 4 ≤ off') :
    (b.set off' x).getBe32 off = b.getBe32 off :=
  getBe32_congr fun _ _ _ => set_of_ne _ _ _ (by omega)

@[simp]
theorem getBe32_putBe16 {x : UInt16} (h : off' + 2 ≤ off ∨ off + 4 ≤ off') :
    (b.putBe16 off' x).getBe32 off = b.getBe32 off :=
  getBe32_congr fun _ _ _ => putBe16_of_ne _ _ _ (by omega) (by omega)

@[simp]
theorem getBe32_putBe32_of_disjoint {x : UInt32} (h : off' + 4 ≤ off ∨ off + 4 ≤ off') :
    (b.putBe32 off' x).getBe32 off = b.getBe32 off :=
  getBe32_congr fun _ _ _ => putBe32_of_ne _ _ _ (by omega)

@[simp]
theorem getBe32_fill {x : UInt8} (h : off' + m ≤ off ∨ off + 4 ≤ off') :
    (b.fill off' m x).getBe32 off = b.getBe32 off :=
  getBe32_congr fun _ _ _ => fill_of_not_mem _ _ _ _ (by omega)

@[simp]
theorem getBe32_copy {xs : OctetString m} (h : off' + m ≤ off ∨ off + 4 ≤ off') :
    (b.copy off' xs).getBe32 off = b.getBe32 off :=
  getBe32_congr fun _ _ _ => copy_of_not_mem _ _ _ _ (by omega)

@[simp]
theorem read_set {x : UInt8} (h : off' < off ∨ off + n ≤ off') :
    (b.set off' x).read off n = b.read off n :=
  read_congr fun _ _ _ => set_of_ne _ _ _ (by omega)

@[simp]
theorem read_putBe16 {x : UInt16} (h : off' + 2 ≤ off ∨ off + n ≤ off') :
    (b.putBe16 off' x).read off n = b.read off n :=
  read_congr fun _ _ _ => putBe16_of_ne _ _ _ (by omega) (by omega)

@[simp]
theorem read_putBe32 {x : UInt32} (h : off' + 4 ≤ off ∨ off + n ≤ off') :
    (b.putBe32 off' x).read off n = b.read off n :=
  read_congr fun _ _ _ => putBe32_of_ne _ _ _ (by omega)

@[simp]
theorem read_fill {x : UInt8} (h : off' + m ≤ off ∨ off + n ≤ off') :
    (b.fill off' m x).read off n = b.read off n :=
  read_congr fun _ _ _ => fill_of_not_mem _ _ _ _ (by omega)

@[simp]
theorem read_copy_of_disjoint {xs : OctetString m} (h : off' + m ≤ off ∨ off + n ≤ off') :
    (b.copy off' xs).read off n = b.read off n :=
  read_congr fun _ _ _ => copy_of_not_mem _ _ _ _ (by omega)

/-- Words inside a filled range. -/
@[simp]
theorem getBe32_fill_zero (h : off' ≤ off) (h' : off + 4 ≤ off' + m) :
    (b.fill off' m 0).getBe32 off = 0 := by
  have hzero : ∀ i, off ≤ i → i < off + 4 → b.fill off' m 0 i = 0 := fun i hi hi' =>
    if_pos ⟨by omega, by omega⟩
  rw [getBe32, hzero _ (by omega) (by omega), hzero _ (by omega) (by omega),
    hzero _ (by omega) (by omega), hzero _ (by omega) (by omega)]
  rfl

@[simp, inherit_doc getBe32_fill_zero]
theorem getBe16_fill_zero (h : off' ≤ off) (h' : off + 2 ≤ off' + m) :
    (b.fill off' m 0).getBe16 off = 0 := by
  have hzero : ∀ i, off ≤ i → i < off + 2 → b.fill off' m 0 i = 0 := fun i hi hi' =>
    if_pos ⟨by omega, by omega⟩
  rw [getBe16, hzero _ (by omega) (by omega), hzero _ (by omega) (by omega)]
  rfl

/-! Two buffers agree in an octet after the same write when they did before it, unless the octet is
written. -/

theorem set_agree {x : UInt8} {i : ℕ} (h : i ≠ off → b i = b' i) :
    b.set off x i = b'.set off x i := by
  by_cases hi : i = off
  · simp [Buffer.set, hi]
  · simpa [hi] using h hi

theorem putBe16_agree {x : UInt16} {i : ℕ} (h : ¬(off ≤ i ∧ i < off + 2) → b i = b' i) :
    b.putBe16 off x i = b'.putBe16 off x i :=
  set_agree fun _ => set_agree fun _ => h (by omega)

theorem putBe32_agree {x : UInt32} {i : ℕ} (h : ¬(off ≤ i ∧ i < off + 4) → b i = b' i) :
    b.putBe32 off x i = b'.putBe32 off x i :=
  set_agree fun _ => set_agree fun _ => set_agree fun _ => set_agree fun _ => h (by omega)

theorem fill_agree {x : UInt8} {i : ℕ} (h : ¬(off ≤ i ∧ i < off + m) → b i = b' i) :
    b.fill off m x i = b'.fill off m x i := by
  by_cases hi : off ≤ i ∧ i < off + m
  · simp [Buffer.fill, hi]
  · rw [fill_of_not_mem _ _ _ _ hi, fill_of_not_mem _ _ _ _ hi, h hi]

theorem copy_agree {xs : OctetString m} {i : ℕ} (h : ¬(off ≤ i ∧ i < off + m) → b i = b' i) :
    b.copy off xs i = b'.copy off xs i := by
  by_cases hi : off ≤ i ∧ i < off + m
  · simp [Buffer.copy, hi]
  · rw [copy_of_not_mem _ _ _ _ hi, copy_of_not_mem _ _ _ _ hi, h hi]

/-- Equal words are equal octets. -/
theorem getBe16_eq_iff : b.getBe16 off = b'.getBe16 off' ↔
    b off = b' off' ∧ b (off + 1) = b' (off' + 1) :=
  word16_inj

@[inherit_doc getBe16_eq_iff]
theorem getBe32_eq_iff : b.getBe32 off = b'.getBe32 off' ↔
    b off = b' off' ∧ b (off + 1) = b' (off' + 1) ∧ b (off + 2) = b' (off' + 2) ∧
      b (off + 3) = b' (off' + 3) :=
  word32_inj

end ReadPast

end Buffer

/-! ### Comparing octet strings -/

/-- The difference of the first two octets that differ, and `0` for equal strings (`memcmp`). -/
def memcmp : {n : ℕ} → OctetString n → OctetString n → ℤ
  | 0, _, _ => 0
  | _ + 1, a, b =>
    if a 0 = b 0 then memcmp (Fin.tail a) (Fin.tail b) else (a 0).toNat - (b 0).toNat

/-- The octet string of one octet. -/
def octet (x : UInt8) : OctetString 1 := fun _ => x

section Memcmp

variable {n : ℕ} {a b c : OctetString n}

/-- Comparing one octet with another one is comparing their values. -/
@[simp]
theorem memcmp_octet (x y : UInt8) : memcmp (octet x) (octet y) = (x.toNat : ℤ) - y.toNat := by
  by_cases h : x = y
  · simp [memcmp, octet, h]
  · simp [memcmp, octet, h]

/-- Equal octet strings compare as `0`. -/
@[simp]
theorem memcmp_self (a : OctetString n) : memcmp a a = 0 := by
  induction n with
  | zero => rfl
  | succ n ih => simp [memcmp, ih]

/-- Swapping the arguments changes the sign. -/
theorem memcmp_swap (a b : OctetString n) : memcmp b a = -memcmp a b := by
  induction n with
  | zero => rfl
  | succ n ih =>
    by_cases h : a 0 = b 0
    · simp [memcmp, h, ih (Fin.tail a)]
    · simp only [memcmp, if_neg h, if_neg (Ne.symm h)]
      omega

/-- Two octet strings compare as `0` exactly when they are equal. -/
@[simp]
theorem memcmp_eq_zero_iff : memcmp a b = 0 ↔ a = b := by
  refine ⟨fun h => ?_, fun h => by simp [h]⟩
  induction n with
  | zero => exact funext fun i => i.elim0
  | succ n ih =>
    by_cases h₀ : a 0 = b 0
    · have htail : Fin.tail a = Fin.tail b := ih (by simpa [memcmp, h₀] using h)
      rw [← Fin.cons_self_tail a, ← Fin.cons_self_tail b, h₀, htail]
    · have hne : (a 0).toNat ≠ (b 0).toNat := fun he => h₀ (UInt8.toNat_inj.mp he)
      simp only [memcmp, if_neg h₀] at h
      omega

/-- The order given by `memcmp` is transitive. -/
theorem memcmp_trans (hab : memcmp a b < 0) (hbc : memcmp b c < 0) : memcmp a c < 0 := by
  induction n with
  | zero => simp [memcmp] at hab
  | succ n ih =>
    have hinj : ∀ x y : UInt8, x ≠ y → x.toNat ≠ y.toNat := fun x y h he =>
      h (UInt8.toNat_inj.mp he)
    -- The first octet decides unless it is the same in all three strings.
    by_cases h₁ : a 0 = b 0 <;> by_cases h₂ : b 0 = c 0 <;> by_cases h₃ : a 0 = c 0 <;>
      simp only [memcmp, h₁, h₂, h₃, if_true, if_false] at hab hbc ⊢ <;> grind

end Memcmp

end Octets
