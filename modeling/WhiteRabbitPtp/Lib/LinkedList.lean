import Mathlib.Data.List.Nodup
import Mathlib.Data.List.Perm.Subperm
import Mathlib.Data.List.TakeWhile

/-!
# Linked lists on a heap

The cells of a heap are allocated or not; what is read of a cell that is not allocated, or was
released, is undefined. A list is linked through one of the fields of its cells. A walk along it
keeps a pointer to the pointer it follows, so that an entry can be taken out.

## Main definitions

* `Heap`: finitely many allocated cells, with `Heap.set` and `Heap.free`.
* `Chain`: the values that the cells of a list stand for.
* `walk`, `Heap.search`: the loop that walks along a list up to an entry.

## Main results

* `Chain.mono`: a list does not depend on what its cells hold beside the link.
* `Chain.search_eq`: a search ends at the first entry it looks for.
* `Chain.search_of_not`, `Chain.search_of_mem`: whether it finds one.
* `Chain.not_chain_of_freed`: a list with a released cell is none.
-/

namespace LinkedList

variable {α β : Type*}

/-- Memory for cells of one type. Addresses from some bound on are not in use. -/
structure Heap (α : Type*) where
  cell : ℕ → Option α
  bound : ℕ
  cell_of_le : ∀ a, bound ≤ a → cell a = none

namespace Heap

/-- Memory without cells. -/
def empty : Heap α := ⟨fun _ => none, 0, fun _ _ => rfl⟩

/-- Allocate a cell, or write to one. -/
def set (h : Heap α) (a : ℕ) (x : α) : Heap α where
  cell := Function.update h.cell a (some x)
  bound := max h.bound (a + 1)
  cell_of_le b hb := by
    rw [Function.update_of_ne (by omega)]
    exact h.cell_of_le b (by omega)

/-- Release a cell. -/
def free (h : Heap α) (a : ℕ) : Heap α where
  cell := Function.update h.cell a none
  bound := h.bound
  cell_of_le b hb := by
    rcases eq_or_ne b a with rfl | hne
    · exact Function.update_self _ _ _
    · rw [Function.update_of_ne hne]
      exact h.cell_of_le b hb

variable (h : Heap α) {a b : ℕ}

@[simp]
theorem cell_empty : (empty : Heap α).cell a = none := rfl

@[simp]
theorem cell_set_self (x : α) : (h.set a x).cell a = some x := Function.update_self _ _ _

theorem cell_set_of_ne (hne : b ≠ a) (x : α) : (h.set a x).cell b = h.cell b :=
  Function.update_of_ne hne _ _

@[simp]
theorem cell_free_self : (h.free a).cell a = none := Function.update_self _ _ _

theorem cell_free_of_ne (hne : b ≠ a) : (h.free a).cell b = h.cell b :=
  Function.update_of_ne hne _ _

variable {h} {x y : α}

/-- A cell that is in use is not the one that gets allocated. -/
theorem ne_of_free (hfree : h.cell a = none) (hb : h.cell b = some y) : b ≠ a := by
  rintro rfl
  rw [hfree] at hb
  cases hb

theorem cell_set_of_some (hfree : h.cell a = none) (x : α) (hb : h.cell b = some y) :
    (h.set a x).cell b = some y := by
  rw [cell_set_of_ne h (ne_of_free hfree hb), hb]

/-- Writing to a cell changes all cells as it changes this one, if at all. -/
theorem exists_cell_set {R : α → α → Prop} (hrefl : ∀ z, R z z) (ha : h.cell a = some x) (x' : α)
    (hx : R x x') (hb : h.cell b = some y) : ∃ y', (h.set a x').cell b = some y' ∧ R y y' := by
  rcases eq_or_ne b a with rfl | hne
  · rw [ha] at hb
    cases hb
    exact ⟨x', cell_set_self _ _, hx⟩
  · exact ⟨y, (cell_set_of_ne h hne x').trans hb, hrefl y⟩

theorem lt_bound (ha : h.cell a = some x) : a < h.bound := by
  by_contra hle
  rw [h.cell_of_le a (Nat.le_of_not_lt hle)] at ha
  cases ha

end Heap

/-! ### Lists -/

/-- The list that a pointer leads to, linked through `next`. An entry is what `view` makes of the
address and the cell. -/
inductive Chain (h : Heap α) (next : α → Option ℕ) (view : ℕ → α → β) : Option ℕ → List β → Prop
  | nil : Chain h next view none []
  | cons {a : ℕ} {x : α} {ys : List β} : h.cell a = some x → Chain h next view (next x) ys →
      Chain h next view (some a) (view a x :: ys)

namespace Chain

variable {h h' : Heap α} {next : α → Option ℕ} {view : ℕ → α → β} {head : Option ℕ}
  {ys ys' : List β} {as : List ℕ}

theorem unique (hys : Chain h next view head ys) (hys' : Chain h next view head ys') :
    ys = ys' := by
  induction hys generalizing ys' with
  | nil =>
    cases hys'
    rfl
  | cons ha _ ih =>
    cases hys' with
    | cons ha' htail' =>
      cases ha.symm.trans ha'
      rw [ih htail']

/-- The cells may change as long as their links and what they stand for do not. -/
theorem mono (hys : Chain h next view head ys)
    (hcell : ∀ a x, h.cell a = some x →
      ∃ y, h'.cell a = some y ∧ next y = next x ∧ view a y = view a x) :
    Chain h' next view head ys := by
  induction hys with
  | nil => exact .nil
  | cons ha _ ih =>
    obtain ⟨y, hy, hnext, hview⟩ := hcell _ _ ha
    rw [← hview]
    exact .cons hy (hnext ▸ ih)

/-- Allocating a cell leaves the lists. -/
theorem set_of_free (hys : Chain h next view head ys) {a : ℕ} (hfree : h.cell a = none) (x : α) :
    Chain (h.set a x) next view head ys :=
  hys.mono fun _ y hb => ⟨y, Heap.cell_set_of_some hfree x hb, rfl, rfl⟩

/-- The entries have addresses. -/
theorem addresses (hys : Chain h next view head ys) :
    ∃ as, Chain h next (fun a _ => a) head as ∧ as.length = ys.length := by
  induction hys with
  | nil => exact ⟨[], .nil, rfl⟩
  | @cons a _ _ ha _ ih =>
    obtain ⟨as, has, hlength⟩ := ih
    exact ⟨a :: as, .cons ha has, by simp [hlength]⟩

section Addresses

theorem exists_cell (has : Chain h next (fun a _ => a) head as) {a : ℕ} (ha : a ∈ as) :
    ∃ x, h.cell a = some x := by
  induction has with
  | nil => cases ha
  | cons hcell _ ih =>
    rcases List.mem_cons.mp ha with rfl | htail
    · exact ⟨_, hcell⟩
    · exact ih htail

/-- Each cell of a list begins one. -/
theorem suffix (has : Chain h next (fun a _ => a) head as) {a : ℕ} (ha : a ∈ as) :
    ∃ bs, Chain h next (fun a _ => a) (some a) bs ∧ bs.length ≤ as.length := by
  induction has with
  | nil => cases ha
  | cons hcell htail ih =>
    rcases List.mem_cons.mp ha with rfl | hmem
    · exact ⟨_, .cons hcell htail, Nat.le_refl _⟩
    · obtain ⟨bs, hbs, hlength⟩ := ih hmem
      exact ⟨bs, hbs, Nat.le_succ_of_le hlength⟩

/-- No cell is in a list twice, or the list would not end. -/
theorem nodup (has : Chain h next (fun a _ => a) head as) : as.Nodup := by
  induction has with
  | nil => exact List.nodup_nil
  | cons hcell htail ih =>
    refine List.nodup_cons.mpr ⟨fun hmem => ?_, ih⟩
    -- The cell would begin a list that is shorter than its own.
    obtain ⟨bs, hbs, hlength⟩ := htail.suffix hmem
    rw [← (Chain.cons hcell htail).unique hbs, List.length_cons] at hlength
    omega

/-- A list does not lead to a cell that was released. -/
theorem not_chain_of_freed (has : Chain h next (fun a _ => a) head as) {a : ℕ} (ha : a ∈ as)
    (hfreed : h'.cell a = none) (hcell : ∀ b, b ≠ a → h'.cell b = h.cell b) :
    ¬Chain h' next view head ys := by
  induction has generalizing ys with
  | nil => cases ha
  | @cons b x _ hb _ ih =>
    intro hys
    cases hys with
    | cons hb' htail' =>
      have hne : b ≠ a := by
        rintro rfl
        simp [hfreed] at hb'
      rw [hcell b hne, hb] at hb'
      cases hb'
      -- Up to the cell that was released, both lists have the same links.
      exact ih ((List.mem_cons.mp ha).resolve_left hne.symm) htail'

end Addresses

/-- A list has no more entries than there is memory. -/
theorem length_le (hys : Chain h next view head ys) : ys.length ≤ h.bound := by
  -- The addresses are different ones below the bound.
  obtain ⟨as, has, hlength⟩ := hys.addresses
  rw [← hlength, ← List.length_range (n := h.bound)]
  refine (has.nodup.subperm fun a ha => ?_).length_le
  obtain ⟨x, hx⟩ := has.exists_cell ha
  exact List.mem_range.mpr (Heap.lt_bound hx)

end Chain

/-! ### Walking along a list -/

/-- Follow the pointers until `stop` says so or the list ends. The result is where the last pointer
was read, in the cell at an address or at the beginning, and the pointer. There is none when a cell
is read that is not in use or when the list does not end. -/
def walk (h : Heap α) (next : α → Option ℕ) (stop : ℕ → Option Bool) :
    ℕ → Option ℕ → Option ℕ → Option (Option ℕ × Option ℕ)
  | 0, _, _ => none
  | _ + 1, slot, none => some (slot, none)
  | fuel + 1, slot, some a => (stop a).bind fun stopped =>
    if stopped then some (slot, some a)
    else (h.cell a).bind fun x => walk h next stop fuel (some a) (next x)

/-- Walk from the beginning of a list. A list that ends is not longer than the memory. -/
def Heap.search (h : Heap α) (next : α → Option ℕ) (stop : ℕ → Option Bool) (head : Option ℕ) :
    Option (Option ℕ × Option ℕ) :=
  walk h next stop (h.bound + 1) none head

section Search

variable {h : Heap α} {next : α → Option ℕ} {view : ℕ → α → β} {head : Option ℕ} {ys : List β}
  (stop : ℕ → Option Bool) (found : β → Bool)

/-- A walk ends at the first entry it looks for, or with the list. -/
theorem Chain.walk_eq (hys : Chain h next view head ys)
    (hstop : ∀ a x, h.cell a = some x → stop a = some (found (view a x))) {fuel : ℕ}
    (hfuel : ys.length < fuel) (slot : Option ℕ) :
    ∃ slot' head', walk h next stop fuel slot head = some (slot', head') ∧
      Chain h next view head' (ys.dropWhile fun y => !found y) := by
  -- By induction on the list: each turn needs one more entry and one unit of fuel.
  induction hys generalizing fuel slot with
  | nil =>
    obtain ⟨fuel, rfl⟩ := Nat.exists_eq_succ_of_ne_zero (Nat.ne_zero_of_lt hfuel)
    exact ⟨slot, none, rfl, .nil⟩
  | @cons a x ys ha htail ih =>
    obtain ⟨fuel, rfl⟩ := Nat.exists_eq_succ_of_ne_zero (Nat.ne_zero_of_lt hfuel)
    rw [walk, hstop a x ha]
    cases hfound : found (view a x) with
    | true =>
      rw [List.dropWhile_cons_of_neg (by simp [hfound])]
      exact ⟨slot, some a, rfl, .cons ha htail⟩
    | false =>
      rw [List.dropWhile_cons_of_pos (by simp [hfound])]
      obtain ⟨slot', head', hwalk, hrest⟩ :=
        ih (Nat.lt_of_succ_lt_succ hfuel) (some a)
      exact ⟨slot', head', by simpa [ha] using hwalk, hrest⟩

theorem Chain.search_eq (hys : Chain h next view head ys)
    (hstop : ∀ a x, h.cell a = some x → stop a = some (found (view a x))) :
    ∃ slot head', h.search next stop head = some (slot, head') ∧
      Chain h next view head' (ys.dropWhile fun y => !found y) :=
  hys.walk_eq stop found hstop (Nat.lt_succ_of_le hys.length_le) none

/-- A search for what is not in a list comes to its end. -/
theorem Chain.search_of_not (hys : Chain h next view head ys)
    (hstop : ∀ a x, h.cell a = some x → stop a = some (found (view a x)))
    (hnot : ∀ y ∈ ys, found y = false) : ∃ slot, h.search next stop head = some (slot, none) := by
  obtain ⟨slot, head', hsearch, hrest⟩ := hys.search_eq stop found hstop
  rw [List.dropWhile_eq_nil_iff.mpr fun y hy => by simp [hnot y hy]] at hrest
  cases hrest
  exact ⟨slot, hsearch⟩

/-- A search for what is in a list ends there. -/
theorem Chain.search_of_mem (hys : Chain h next view head ys)
    (hstop : ∀ a x, h.cell a = some x → stop a = some (found (view a x))) {y : β} (hy : y ∈ ys)
    (hfound : found y = true) : ∃ slot a x, h.search next stop head = some (slot, some a) ∧
      h.cell a = some x ∧ found (view a x) = true := by
  obtain ⟨slot, head', hsearch, hrest⟩ := hys.search_eq stop found hstop
  have hfirst := List.head?_dropWhile_not (fun y => !found y) ys
  cases hrest' : ys.dropWhile fun y => !found y with
  | nil => simpa [hfound] using List.dropWhile_eq_nil_iff.mp hrest' y hy
  | cons z zs =>
    rw [hrest'] at hrest hfirst
    cases hrest with
    | @cons a x _ ha _ => exact ⟨slot, a, x, hsearch, ha, by simpa using hfirst⟩

end Search

end LinkedList
