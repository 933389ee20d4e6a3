import Mathlib.Data.List.Range
import Mathlib.Order.Basic

/-!
# One-pass searches

Two loops over an index range: the first index with a property, and the one-pass search for a best
index, which replaces its candidate by every later index that beats it.

The second loop is correct as soon as `beats` is a strict partial order on the indices it visits;
indices may be incomparable.

## Main definitions

* `firstIndex`: the first index with a property, or the end of the range.
* `bestFrom`: the one-pass search starting from a candidate.
* `Champion`: the outcome of the one-pass search, described without running it.

## Main results

* `bestFrom_undominated`: no visited index beats the result.
* `champion_iff`: `Champion` holds of the result of the search and of nothing else.
-/

namespace LinearSearch

/-! ### The first index with a property -/

/-- The first index below `n` with the property, and `n` when there is none. -/
def firstIndex (p : ℕ → Bool) (n : ℕ) : ℕ :=
  ((List.range n).find? p).getD n

section FirstIndex

variable {p : ℕ → Bool} {n : ℕ}

/-- The search ends inside the range or at its end. -/
theorem firstIndex_le (p : ℕ → Bool) (n : ℕ) : firstIndex p n ≤ n := by
  unfold firstIndex
  cases h : (List.range n).find? p with
  | none => simp
  | some i => simpa using (List.mem_range.mp (List.mem_of_find?_eq_some h)).le

/-- An index found inside the range has the property. -/
theorem firstIndex_spec (h : firstIndex p n < n) : p (firstIndex p n) = true := by
  unfold firstIndex at h ⊢
  cases hf : (List.range n).find? p with
  | none => simp [hf] at h
  | some i => simpa [hf] using List.find?_some hf

/-- The search reaches the end exactly when no index has the property. -/
theorem firstIndex_eq_iff : firstIndex p n = n ↔ ∀ i < n, p i = false := by
  constructor
  · intro h
    unfold firstIndex at h
    cases hf : (List.range n).find? p with
    | none => simpa using hf
    | some i =>
      have hi : i < n := List.mem_range.mp (List.mem_of_find?_eq_some hf)
      simp only [hf, Option.getD_some] at h
      omega
  · intro h
    have hf : (List.range n).find? p = none := by simpa using h
    simp [firstIndex, hf]

/-- Some index has the property exactly when the search ends inside the range. -/
theorem firstIndex_lt_iff : firstIndex p n < n ↔ ∃ i < n, p i = true := by
  rw [lt_iff_le_and_ne, Ne, firstIndex_eq_iff]
  simp [firstIndex_le]

end FirstIndex

/-! ### The outcome of a one-pass search -/

/-- The indices that are the candidate at some time: the start, and the first index after a
candidate that beats it. -/
inductive Candidate (beats : ℕ → ℕ → Prop) (start : ℕ) : ℕ → Prop
  | start : Candidate beats start start
  | next {c k : ℕ} : Candidate beats start c → c < k → (∀ i, c < i → i < k → ¬beats i c) →
      beats k c → Candidate beats start k

/-- A candidate that no later index of the range beats. -/
structure Champion (beats : ℕ → ℕ → Prop) (start n k : ℕ) : Prop where
  candidate : Candidate beats start k
  lt : k < n
  unbeaten : ∀ i, k < i → i < n → ¬beats i k

/-- Candidates do not lie before the start. -/
theorem Candidate.start_le {beats : ℕ → ℕ → Prop} {start k : ℕ}
    (h : Candidate beats start k) : start ≤ k := by
  induction h with
  | start => exact le_rfl
  | next _ hlt _ _ ih => omega

/-! ### The one-pass search -/

section Best

variable (beats : ℕ → ℕ → Prop) [DecidableRel beats]

/-- `for (i = start + 1, best = start; i < n; i++) if (i beats best) best = i;` -/
def bestFrom (start n : ℕ) : ℕ :=
  (List.range' (start + 1) (n - (start + 1))).foldl (fun b i => if beats i b then i else b) start

/-- A search over no index keeps its candidate. -/
theorem bestFrom_of_le {start n : ℕ} (h : n ≤ start + 1) : bestFrom beats start n = start := by
  simp [bestFrom, Nat.sub_eq_zero_of_le h]

/-- The last round of the search. -/
theorem bestFrom_succ {start n : ℕ} (h : start < n) :
    bestFrom beats start (n + 1) =
      if beats n (bestFrom beats start n) then n else bestFrom beats start n := by
  have hlen : n + 1 - (start + 1) = n - (start + 1) + 1 := by omega
  have hlast : start + 1 + (n - (start + 1)) = n := by omega
  rw [bestFrom, hlen, List.range'_1_concat, List.foldl_concat, hlast]
  rfl

/-- The result lies in the range that was searched. -/
theorem bestFrom_mem {start n : ℕ} (h : start < n) :
    start ≤ bestFrom beats start n ∧ bestFrom beats start n < n := by
  induction n, h using Nat.le_induction with
  | base => simp [bestFrom_of_le]
  | succ n hn ih =>
    rw [bestFrom_succ beats (by omega)]
    split <;> omega

variable {beats}

/-- The result has every property of the start that an index needs to beat another one. -/
theorem bestFrom_induction {P : ℕ → Prop} {start n : ℕ} (hstart : P start)
    (hbeats : ∀ i b, beats i b → P i) : P (bestFrom beats start n) := by
  by_cases hle : n ≤ start + 1
  · rwa [bestFrom_of_le beats hle]
  · have hn : start + 1 ≤ n := by omega
    induction n, hn using Nat.le_induction with
    | base => rwa [bestFrom_of_le beats le_rfl]
    | succ n hn ih =>
      rw [bestFrom_succ beats (by omega)]
      split
      next hlast => exact hbeats _ _ hlast
      next =>
        by_cases hle' : n ≤ start + 1
        · rwa [bestFrom_of_le beats hle']
        · exact ih hle'

/-- No index that was visited beats the result, when `beats` is a strict partial order on the
indices that may be visited. -/
theorem bestFrom_undominated {start n : ℕ} (h : start < n)
    (hirrefl : ∀ i, start ≤ i → i < n → ¬beats i i)
    (htrans : ∀ i j k, i < n → j < n → k < n → start ≤ i → start ≤ j → start ≤ k →
      beats i j → beats j k → beats i k) :
    ∀ i, start ≤ i → i < n → ¬beats i (bestFrom beats start n) := by
  induction n, h using Nat.le_induction with
  | base =>
    intro i hi hi'
    obtain rfl : i = start := by omega
    simpa [bestFrom_of_le] using hirrefl i hi hi'
  | succ n hn ih =>
    have hb := bestFrom_mem beats (show start < n by omega)
    have ih' := ih (fun i hi hi' => hirrefl i hi (by omega))
      (fun i j k hi hj hk => htrans i j k (by omega) (by omega) (by omega))
    intro i hi hi'
    rw [bestFrom_succ beats (by omega)]
    by_cases hlast : beats n (bestFrom beats start n)
    · rw [if_pos hlast]
      intro hin
      -- A visited index that beats the new candidate would have beaten the old one.
      rcases Nat.lt_succ_iff_lt_or_eq.mp hi' with hlt | rfl
      · exact ih' i hi hlt
          (htrans i n _ hi' (by omega) (by omega) hi (by omega) hb.1 hin hlast)
      · exact hirrefl i hi hi' hin
    · rw [if_neg hlast]
      rcases Nat.lt_succ_iff_lt_or_eq.mp hi' with hlt | rfl
      · exact ih' i hi hlt
      · exact hlast

/-- The search ends at a champion. -/
theorem champion_bestFrom {start n : ℕ} (h : start < n) :
    Champion beats start n (bestFrom beats start n) := by
  induction n, h using Nat.le_induction with
  | base =>
    rw [bestFrom_of_le beats le_rfl]
    exact ⟨.start, by omega, fun i hi hi' => by omega⟩
  | succ n hn ih =>
    rw [bestFrom_succ beats (by omega)]
    split
    · next hb =>
      exact ⟨.next ih.candidate ih.lt (fun i hi hi' => ih.unbeaten i hi hi') hb, by omega,
        fun i hi hi' => by omega⟩
    · next hb =>
      refine ⟨ih.candidate, by have := ih.lt; omega, fun i hi hi' => ?_⟩
      rcases Nat.lt_succ_iff_lt_or_eq.mp hi' with hlt | rfl
      · exact ih.unbeaten i hi hlt
      · exact hb

/-- The champion of a range is the index the search ends at. -/
theorem champion_iff {start n k : ℕ} (h : start < n) :
    Champion beats start n k ↔ bestFrom beats start n = k := by
  refine ⟨fun hk => ?_, fun hk => hk ▸ champion_bestFrom h⟩
  induction n, h using Nat.le_induction generalizing k with
  | base =>
    have := hk.candidate.start_le
    have := hk.lt
    rw [bestFrom_of_le beats le_rfl]
    omega
  | succ n hn ih =>
    rw [bestFrom_succ beats (by omega)]
    rcases Nat.lt_succ_iff_lt_or_eq.mp hk.lt with hlt | rfl
    · -- A champion that is not the last index was the champion before the last round.
      rw [ih ⟨hk.candidate, hlt, fun i hi hi' => hk.unbeaten i hi (by omega)⟩]
      exact if_neg (hk.unbeaten n hlt (by omega))
    · cases hk.candidate with
      | start => omega
      | next hc hlt hfirst hbeats =>
        rw [ih ⟨hc, hlt, fun i hi hi' => hfirst i hi hi'⟩]
        exact if_pos hbeats

end Best

end LinearSearch
