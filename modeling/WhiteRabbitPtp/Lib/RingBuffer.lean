import Mathlib.Data.List.Basic
import Mathlib.Data.List.Range
import Mathlib.Data.Nat.ModEq

/-!
# Ring buffers

A buffer of `N` cells that is used in circles: positions count up and stand for the cell of their
remainder. What lies between two positions is a list, and lists that are written one after the other
are found there as long as together they do not exceed the buffer.

## Main definitions

* `view`: the cells from a position on.
* `write`: the cells after a list was written to a position.
* `Holds`: the list that the cells from a position on hold.

## Main results

* `Holds.write`: what is written behind a list leaves the list there and continues it.
-/

namespace RingBuffer

variable {α : Type*} (N : ℕ)

/-- The `n` cells from a position on. -/
def view (cells : ℕ → α) (pos n : ℕ) : List α :=
  (List.range n).map fun k => cells ((pos + k) % N)

/-- Write a list to the cells from a position on. -/
def write (cells : ℕ → α) (pos : ℕ) : List α → ℕ → α
  | [] => cells
  | x :: xs => write (Function.update cells (pos % N) x) (pos + 1) xs

/-- The cells from a position on hold a list. -/
def Holds (cells : ℕ → α) (pos : ℕ) (xs : List α) : Prop := view N cells pos xs.length = xs

section View

variable {N} (cells : ℕ → α) (pos m n : ℕ)

@[simp]
theorem length_view : (view N cells pos n).length = n := by simp [view]

@[simp]
theorem view_zero : view N cells pos 0 = [] := rfl

theorem view_succ : view N cells pos (n + 1) = cells (pos % N) :: view N cells (pos + 1) n := by
  unfold view
  rw [List.range_succ_eq_map, List.map_cons, List.map_map, Nat.add_zero]
  refine congrArg _ (List.map_congr_left fun k _ => ?_)
  rw [Function.comp_apply, Nat.succ_eq_one_add, Nat.add_assoc]

/-- A position counts up to its remainder only. -/
@[simp]
theorem view_mod : view N cells (pos % N) n = view N cells pos n := by
  unfold view
  simp only [Nat.mod_add_mod]

/-- The cells are read in two stretches. -/
theorem view_add : view N cells pos (m + n) = view N cells pos m ++ view N cells (pos + m) n := by
  induction m generalizing pos with
  | zero => simp
  | succ m ih =>
    rw [Nat.succ_add, view_succ, view_succ, ih, List.cons_append, Nat.add_assoc, Nat.add_comm 1 m]

variable {pos n} in
/-- A view depends on its own cells. -/
theorem view_congr {cells' : ℕ → α}
    (h : ∀ k < n, cells ((pos + k) % N) = cells' ((pos + k) % N)) :
    view N cells pos n = view N cells' pos n :=
  List.map_congr_left fun k hk => h k (List.mem_range.mp hk)

end View

section Write

variable {N} (cells : ℕ → α) (pos : ℕ) (xs : List α)

@[simp]
theorem write_nil : write N cells pos [] = cells := rfl

@[simp]
theorem write_mod : write N cells (pos % N) xs = write N cells pos xs := by
  induction xs generalizing cells pos with
  | nil => rfl
  | cons x xs ih =>
    unfold write
    rw [Nat.mod_mod, ← ih, Nat.mod_add_mod, ih]

/-- Two lists that are written one behind the other. -/
theorem write_append (ys : List α) : write N cells pos (xs ++ ys) =
    write N (write N cells pos xs) (pos + xs.length) ys := by
  induction xs generalizing cells pos with
  | nil => rfl
  | cons x xs ih =>
    rw [List.cons_append, write, ih, write, List.length_cons, Nat.add_assoc, Nat.add_comm 1]

/-- Cells that the list does not reach are left alone. -/
theorem write_of_ne {i : ℕ} (h : ∀ k < xs.length, i ≠ (pos + k) % N) :
    write N cells pos xs i = cells i := by
  induction xs generalizing cells pos with
  | nil => rfl
  | cons x xs ih =>
    have hrest : ∀ k < xs.length, i ≠ (pos + 1 + k) % N := fun k hk => by
      rw [Nat.add_assoc, Nat.add_comm 1 k]
      exact h (k + 1) (by simpa using hk)
    rw [write, ih _ _ hrest]
    exact Function.update_of_ne (h 0 (by simp)) _ _

/-- Two positions less than a round apart stand for different cells. -/
theorem mod_ne_mod {j k : ℕ} (h : j < k) (hk : k < N) : (pos + j) % N ≠ (pos + k) % N := by
  intro heq
  have hmod : j ≡ k [MOD N] := Nat.ModEq.add_left_cancel' pos heq
  exact absurd (hmod.eq_of_lt_of_lt (h.trans hk) hk) h.ne

/-- A list that fits is read back. -/
theorem view_write (h : xs.length ≤ N) : view N (write N cells pos xs) pos xs.length = xs := by
  induction xs generalizing cells pos with
  | nil => rfl
  | cons x xs ih =>
    have hfirst : write N (Function.update cells (pos % N) x) (pos + 1) xs (pos % N) = x := by
      rw [write_of_ne, Function.update_self]
      -- The rest of the list comes round to this cell after a whole round at the earliest.
      intro k hk
      have hlt : k + 1 < N := lt_of_lt_of_le (Nat.succ_lt_succ hk) h
      have hne := mod_ne_mod pos (Nat.zero_lt_succ k) hlt
      rwa [Nat.add_zero, Nat.succ_eq_one_add, ← Nat.add_assoc] at hne
    rw [List.length_cons, view_succ, write, hfirst,
      ih (Function.update cells (pos % N) x) (pos + 1) (Nat.le_of_succ_le h)]

variable {xs} in
/-- What lies in front of the list is left alone. -/
theorem view_write_of_le {n : ℕ} (h : n + xs.length ≤ N) :
    view N (write N cells (pos + n) xs) pos n = view N cells pos n := by
  refine view_congr _ fun j hj => write_of_ne _ _ _ fun k hk => ?_
  rw [Nat.add_assoc]
  exact mod_ne_mod pos (by omega) (by omega)

end Write

namespace Holds

variable {N} {cells : ℕ → α} {pos : ℕ} {xs ys : List α}

theorem nil (cells : ℕ → α) (pos : ℕ) : Holds N cells pos [] := rfl

theorem append_iff :
    Holds N cells pos (xs ++ ys) ↔ Holds N cells pos xs ∧ Holds N cells (pos + xs.length) ys := by
  unfold Holds
  rw [List.length_append, view_add]
  refine ⟨fun h => List.append_inj h (by simp), fun ⟨hxs, hys⟩ => by rw [hxs, hys]⟩

/-- A list is continued by what is written behind it. -/
theorem write (h : Holds N cells pos xs) (hfits : xs.length + ys.length ≤ N) :
    Holds N (write N cells (pos + xs.length) ys) pos (xs ++ ys) := by
  refine append_iff.mpr ⟨?_, view_write cells (pos + xs.length) ys (by omega)⟩
  unfold Holds
  rw [view_write_of_le cells pos hfits]
  exact h

end Holds

end RingBuffer
