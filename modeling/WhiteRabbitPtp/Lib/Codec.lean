import WhiteRabbitPtp.Lib.Octets
import Mathlib.Data.Fin.VecNotation
import Mathlib.Data.List.OfFn

/-!
# Values in a buffer

Numbers, lists of octets and strings that end in a zero, written to a place in a buffer and read
there again. What is written elsewhere does not matter.

## Main definitions

* `Codec`: the values that octet strings of one length stand for.
* `Buffer.copyList`: write a list of octets.
* `Buffer.HasAt`: a buffer has a list of octets at an offset.
* `Buffer.stringAt`: read a string.

## Main results

* `Buffer.hasAt_copyList`: a buffer has what was written to it.
* `Buffer.HasAt.get_put`, `Buffer.HasAt.stringAt`: a number and a string are read as they were
  written.
-/

namespace Octets

/-- Values that are kept as octet strings of one length. -/
structure Codec (α : Type*) (n : ℕ) where
  put : α → OctetString n
  get : OctetString n → α
  get_put : ∀ x, get (put x) = x

namespace Codec

/-- A number that is kept as two halves, the first one first. -/
def pair {α β : Type*} {n : ℕ} (c : Codec α n) (join : α → α → β) (fst snd : β → α)
    (hjoin : ∀ x, join (fst x) (snd x) = x) : Codec β (n + n) where
  put x := Fin.append (c.put (fst x)) (c.put (snd x))
  get xs := join (c.get fun k => xs (Fin.castAdd n k)) (c.get fun k => xs (Fin.natAdd n k))
  get_put x := by
    have hfst := funext (Fin.append_left (c.put (fst x)) (c.put (snd x)))
    have hsnd := funext (Fin.append_right (c.put (fst x)) (c.put (snd x)))
    rw [hfst, hsnd, c.get_put, c.get_put, hjoin]

/-- Words of 32 bits, the most significant octet first. -/
def bigEndian32 : Codec UInt32 4 where
  put x := ![(x >>> 24).toUInt8, (x >>> 16).toUInt8, (x >>> 8).toUInt8, x.toUInt8]
  get xs := word32 (xs 0) (xs 1) (xs 2) (xs 3)
  get_put := word32_octets

/-- The word with the given halves. -/
def word64 (hi lo : UInt32) : UInt64 := hi.toUInt64 <<< 32 ||| lo.toUInt64

theorem word64_words (x : UInt64) : word64 (x >>> 32).toUInt32 x.toUInt32 = x := by
  apply UInt64.toBitVec_inj.mp
  apply BitVec.eq_of_getLsbD_eq
  intro i hi
  simp [word64, -UInt64.toUInt64_toUInt32]
  grind

/-- Words of 64 bits, the most significant octet first. -/
def bigEndian64 : Codec UInt64 8 :=
  bigEndian32.pair word64 (fun x => (x >>> 32).toUInt32) UInt64.toUInt32 word64_words

end Codec

namespace Buffer

/-- Write a list of octets. -/
def copyList (b : Buffer) (off : ℕ) (xs : List UInt8) : Buffer := b.copy off xs.get

/-- The octets from an offset on are those of a list. -/
def HasAt (b : Buffer) (off : ℕ) (xs : List UInt8) : Prop :=
  ∀ k : Fin xs.length, b (off + k) = xs.get k

/-- The octets before the first zero, when there is one among the `n` octets from an offset on. -/
def stringAt (b : Buffer) (off : ℕ) : ℕ → Option (List UInt8)
  | 0 => none
  | n + 1 => if b off = 0 then some [] else (b.stringAt (off + 1) n).map (b off :: ·)

variable {b b' : Buffer} {off n : ℕ} {xs ys : List UInt8}

theorem hasAt_copyList (b : Buffer) (off : ℕ) (xs : List UInt8) :
    (b.copyList off xs).HasAt off xs :=
  copy_apply _ _ _ xs.get

theorem copyList_of_not_mem {k : ℕ} (h : ¬(off ≤ k ∧ k < off + xs.length)) :
    b.copyList off xs k = b k :=
  dif_neg h

theorem hasAt_cons {x : UInt8} : b.HasAt off (x :: xs) ↔ b off = x ∧ b.HasAt (off + 1) xs := by
  constructor
  · intro h
    refine ⟨h ⟨0, by simp⟩, fun k => ?_⟩
    have hk := h k.succ
    rwa [Fin.val_succ, ← Nat.add_assoc, Nat.add_right_comm] at hk
  · rintro ⟨hx, hxs⟩ ⟨k, hk⟩
    cases k with
    | zero => exact hx
    | succ k =>
      have hk' := hxs ⟨k, Nat.lt_of_succ_lt_succ hk⟩
      rwa [Nat.add_right_comm] at hk'

theorem hasAt_append : b.HasAt off (xs ++ ys) ↔ b.HasAt off xs ∧ b.HasAt (off + xs.length) ys := by
  induction xs generalizing off with
  | nil =>
    rw [List.nil_append, List.length_nil, Nat.add_zero]
    exact (and_iff_right fun k => k.elim0).symm
  | cons x xs ih =>
    have hoff : off + 1 + xs.length = off + (x :: xs).length := by
      rw [List.length_cons]
      omega
    rw [List.cons_append, hasAt_cons, hasAt_cons, ih, hoff, and_assoc]

namespace HasAt

/-- A buffer has a list by its own octets. -/
theorem congr (h : b.HasAt off xs) (hb : ∀ k, off ≤ k → k < off + xs.length → b' k = b k) :
    b'.HasAt off xs := fun k => by
  rw [hb _ (Nat.le_add_right _ _) (by omega), h k]

/-- The octets of a list are read. -/
theorem ofFn_read (h : b.HasAt off xs) : List.ofFn (b.read off xs.length) = xs := by
  have hread : b.read off xs.length = xs.get := funext h
  rw [hread, List.ofFn_get]

/-- The octets that were taken from a buffer are those of the buffer. -/
theorem octets_apply (h : b.HasAt off (b'.octets n)) {k : ℕ} (hk : k < n) : b (off + k) = b' k := by
  have hk' := h ⟨k, by rwa [length_octets]⟩
  simpa [octets] using hk'

theorem read (ys : OctetString n) (h : b.HasAt off (List.ofFn ys)) : b.read off n = ys := by
  funext k
  have hk := h (k.cast (List.length_ofFn (f := ys)).symm)
  simpa [Buffer.read] using hk

/-- A number is read as it was written. -/
theorem get_put {α : Type*} (c : Codec α n) {x : α} (h : b.HasAt off (List.ofFn (c.put x))) :
    c.get (b.read off n) = x := by
  rw [h.read, c.get_put]

/-- A string is read as it was written. -/
theorem stringAt (h : b.HasAt off (xs ++ [0])) (hxs : 0 ∉ xs) (hn : xs.length < n) :
    b.stringAt off n = some xs := by
  induction xs generalizing off n with
  | nil =>
    obtain ⟨n, rfl⟩ := Nat.exists_eq_succ_of_ne_zero (Nat.ne_zero_of_lt hn)
    exact if_pos (hasAt_cons.mp h).1
  | cons x xs ih =>
    obtain ⟨n, rfl⟩ := Nat.exists_eq_succ_of_ne_zero (Nat.ne_zero_of_lt hn)
    obtain ⟨hx, hrest⟩ := hasAt_cons.mp h
    obtain ⟨hne, hmem⟩ := not_or.mp (mt List.mem_cons.mpr hxs)
    rw [Buffer.stringAt, hx, if_neg (Ne.symm hne), ih hrest hmem (Nat.lt_of_succ_lt_succ hn),
      Option.map_some]

end HasAt

end Buffer

end Octets
