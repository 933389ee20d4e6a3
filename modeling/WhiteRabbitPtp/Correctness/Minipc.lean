import WhiteRabbitPtp.Lib.GuardedRun
import WhiteRabbitPtp.Model.Minipc
import Mathlib.Data.List.Perm.Basic
import Mathlib.Data.List.TakeWhile

/-!
# Channels and exported functions

Beside the memory runs a registry: the channels that were created and not closed, and for each of
them the descriptors that were exported on it and not unexported. The lists of the source hold what
the registry says until something is removed from them. A channel that is closed stays in its list,
where its released link is reached, and a function that is unexported stays in its.

## Main definitions

* `Registry`, `Registry.step`: the memory and the registry, and what a call does with them.
* `Registered`: the lists hold what the registry says.
* `RemovesNothing`: a call that has nothing to remove.

## Main results

* `mpcHandleClient_eq`: a request is answered by the first function of its name.
* `registered_iff_removesNothing`: the lists hold what was registered exactly as long as no call has
  something to remove.
* `not_forall_registered`: a function that was unexported is still called.
-/

namespace WhiteRabbitPtp

open LinkedList

/-! ### The functions -/

namespace Minipc

variable {m : Minipc} {ch pd : ℕ} {link : MpcLink}

/-- The functions of a link. -/
abbrev Functions (m : Minipc) (link : MpcLink) (pds : List ℕ) : Prop :=
  Chain m.flists MpcFlist.next (fun _ entry => entry.pd) link.flist pds

/-- The links that are reached. -/
abbrev Links (m : Minipc) (chs : List ℕ) : Prop :=
  Chain m.links MpcLink.nextl (fun a _ => a) m.base chs

/-- A request is answered by the first function of its name, or refused. -/
theorem mpcHandleClient_eq (descriptors : ℕ → MinipcPd) (hlink : m.links.cell ch = some link)
    {pds : List ℕ} (hpds : m.Functions link pds) (request : MpcReqPacket) :
    m.mpcHandleClient descriptors ch request =
      some (match pds.find? fun pd => sameName request.name (descriptors pd).name with
        | none => .error EOPNOTSUPP
        | some pd => reply (descriptors pd) request.args) := by
  obtain ⟨slot, head, hsearch, hrest⟩ := hpds.search_eq
    (fun a => (m.flists.cell a).map fun entry =>
      sameName request.name (descriptors entry.pd).name)
    (fun pd => sameName request.name (descriptors pd).name)
    (fun a entry hentry => by rw [hentry, Option.map_some])
  unfold mpcHandleClient
  rw [List.find?_eq_head?_dropWhile_not]
  simp only [hlink, hsearch, Option.bind_eq_bind, Option.bind_some]
  generalize pds.dropWhile (fun pd => !sameName request.name (descriptors pd).name) = rest
    at hrest ⊢
  cases hrest with
  | nil => rfl
  | cons hentry _ =>
    dsimp only
    rw [hentry]
    rfl

theorem minipcSetLogfile_eq (hlink : m.links.cell ch = some link) (hmagic : link.magic = mpcMagic)
    (logf : Bool) : m.minipcSetLogfile ch logf =
      some (0, { m with links := m.links.set ch { link with logf } }) := by
  simp [minipcSetLogfile, hlink, hmagic]

theorem minipcExport_eq (hlink : m.links.cell ch = some link) (hmagic : link.magic = mpcMagic)
    (alloc : Option ℕ) : m.minipcExport alloc ch pd = some (match alloc with
      | none => (-1, { m with errno := ENOMEM })
      | some flist => (0, { m with
          flists := m.flists.set flist { pd, next := link.flist }
          links := m.links.set ch { link with flist := some flist } })) := by
  cases alloc <;> simp [minipcExport, hlink, hmagic]

/-- A descriptor that is not exported is not found. -/
theorem minipcUnexport_of_notMem (hlink : m.links.cell ch = some link)
    (hmagic : link.magic = mpcMagic) {pds : List ℕ} (hpds : m.Functions link pds) (hpd : pd ∉ pds) :
    m.minipcUnexport ch pd = some (-1, { m with errno := EINVAL }) := by
  obtain ⟨slot, hsearch⟩ := hpds.search_of_not
    (fun a => (m.flists.cell a).map fun entry => entry.pd == pd) (· == pd)
    (fun a entry hentry => by rw [hentry, Option.map_some])
    (fun y hy => beq_eq_false_iff_ne.mpr fun heq => hpd (heq ▸ hy))
  simp [minipcUnexport, hlink, hmagic, hsearch]

/-- No entry of a list is at the address of a parameter. -/
theorem mpcFreeFlist_parameter (hlink : m.links.cell ch = some link) {pds : List ℕ}
    (hpds : m.Functions link pds) : m.mpcFreeFlist ch .parameter = some m := by
  obtain ⟨slot, hsearch⟩ := hpds.search_of_not
    (fun a => some (FlistPtr.entry a == .parameter)) (fun _ => false)
    (fun _ _ _ => rfl) (fun _ _ => rfl)
  simp [mpcFreeFlist, hlink, hsearch]

/-- A descriptor that is exported is found, and stays. -/
theorem minipcUnexport_of_mem (hlink : m.links.cell ch = some link)
    (hmagic : link.magic = mpcMagic) {pds : List ℕ} (hpds : m.Functions link pds) (hpd : pd ∈ pds) :
    m.minipcUnexport ch pd = some (0, m) := by
  obtain ⟨slot, a, entry, hsearch, -, -⟩ := hpds.search_of_mem
    (fun a => (m.flists.cell a).map fun entry => entry.pd == pd) (· == pd)
    (fun a entry hentry => by rw [hentry, Option.map_some]) hpd (beq_self_eq_true pd)
  simp [minipcUnexport, hlink, hmagic, hsearch, mpcFreeFlist_parameter hlink hpds]

/-- Writing to the list of a link touches no other link. -/
theorem setNextp_frame {slot next : Option ℕ} {m' : Minipc}
    (h : m.setNextp ch slot next = some m') :
    m'.base = m.base ∧ ∀ b, b ≠ ch → m'.links.cell b = m.links.cell b := by
  unfold setNextp at h
  cases slot with
  | none =>
    obtain ⟨link, -, rfl⟩ := Option.map_eq_some_iff.mp h
    exact ⟨rfl, fun b hb => m.links.cell_set_of_ne hb _⟩
  | some b =>
    obtain ⟨before, -, rfl⟩ := Option.map_eq_some_iff.mp h
    exact ⟨rfl, fun _ _ => rfl⟩

theorem mpcFreeFlist_frame {flist : FlistPtr} {m' : Minipc}
    (h : m.mpcFreeFlist ch flist = some m') :
    m'.base = m.base ∧ ∀ b, b ≠ ch → m'.links.cell b = m.links.cell b := by
  simp only [mpcFreeFlist, Option.bind_eq_bind, Option.bind_eq_some_iff] at h
  obtain ⟨link, -, ⟨slot, nextp⟩, -, h⟩ := h
  cases nextp with
  | none =>
    cases h
    exact ⟨rfl, fun _ _ => rfl⟩
  | some a =>
    obtain ⟨entry, -, h⟩ := Option.bind_eq_some_iff.mp h
    obtain ⟨unlinked, hunlinked, h⟩ := Option.bind_eq_some_iff.mp h
    split at h
    · cases h
      obtain ⟨hbase, hcell⟩ := setNextp_frame hunlinked
      exact ⟨hbase, hcell⟩
    · cases h

theorem freeFunctions_frame {fuel : ℕ} {m' : Minipc} (h : freeFunctions ch fuel m = some m') :
    m'.base = m.base ∧ ∀ b, b ≠ ch → m'.links.cell b = m.links.cell b := by
  induction fuel generalizing m with
  | zero => cases h
  | succ fuel ih =>
    simp only [freeFunctions, Option.bind_eq_bind, Option.bind_eq_some_iff] at h
    obtain ⟨link, -, h⟩ := h
    split at h
    · cases h
      exact ⟨rfl, fun _ _ => rfl⟩
    · simp only [Option.bind_eq_some_iff] at h
      obtain ⟨freed, hfreed, h⟩ := h
      obtain ⟨hbase, hcell⟩ := ih h
      obtain ⟨hbase', hcell'⟩ := mpcFreeFlist_frame hfreed
      exact ⟨hbase.trans hbase', fun b hb => (hcell b hb).trans (hcell' b hb)⟩

/-- Closing a channel releases its link, and the list stays as it is. -/
theorem minipcClose_frame {chs : List ℕ} (hchs : m.Links chs) (hch : ch ∈ chs)
    (hlink : m.links.cell ch = some link) (hmagic : link.magic = mpcMagic) {ret : ℤ × Minipc}
    (h : m.minipcClose ch = some ret) :
    ret.2.base = m.base ∧ ret.2.links.cell ch = none ∧
      ∀ b, b ≠ ch → ret.2.links.cell b = m.links.cell b := by
  obtain ⟨slot, a, found, hsearch, hfound, ha⟩ := hchs.search_of_mem
    (fun a => some (a == ch)) (· == ch) (fun _ _ _ => rfl) hch
    (beq_self_eq_true ch)
  rw [beq_iff_eq.mp ha] at hsearch
  simp only [minipcClose, hlink, hmagic, hsearch, Option.bind_eq_bind, Option.bind_some, ne_eq,
    not_true_eq_false, if_false, Option.bind_eq_some_iff] at h
  obtain ⟨released, hreleased, h⟩ := h
  cases h
  obtain ⟨hbase, hcell⟩ := freeFunctions_frame hreleased
  refine ⟨hbase, Heap.cell_free_self _, fun b hb => ?_⟩
  dsimp only
  rw [Heap.cell_free_of_ne _ hb, hcell b hb]
  exact m.links.cell_set_of_ne hb _

end Minipc

/-! ### The registry -/

/-- The calls, with what the system gives them. -/
inductive MinipcCall
  | serverCreate (alloc : Option ℕ) (socket : ℤ) (ready : Bool) (f : UInt32)
  | clientCreate (alloc : Option ℕ) (socket : ℤ) (ready : Bool) (f : UInt32)
  | setLogfile (ch : ℕ) (logf : Bool)
  | exportPd (alloc : Option ℕ) (ch pd : ℕ)
  | unexportPd (ch pd : ℕ)
  | close (ch : ℕ)

/-- What is registered: the open channels, the newest first, and the descriptors that are exported
on each of them. -/
structure Registry where
  opens : List ℕ
  exports : ℕ → List ℕ

/-- The channel that is created when the system gives all that is needed. -/
def created (alloc : Option ℕ) (socket : ℤ) (ready : Bool) : Option ℕ :=
  if socket < 0 ∨ ready = false then none else alloc

namespace Registry

variable (reg : Registry)

/-- A channel is created, or none. -/
def create (ch : Option ℕ) : Registry :=
  match ch with
  | none => reg
  | some ch => ⟨ch :: reg.opens, Function.update reg.exports ch []⟩

/-- What a call registers. -/
def register (c : MinipcCall) : Registry :=
  match c with
  | .serverCreate alloc socket ready _ | .clientCreate alloc socket ready _ =>
    reg.create (created alloc socket ready)
  | .setLogfile _ _ => reg
  | .exportPd alloc ch pd =>
    match alloc with
    | none => reg
    | some _ => { reg with exports := Function.update reg.exports ch (pd :: reg.exports ch) }
  | .unexportPd ch pd =>
    { reg with exports := Function.update reg.exports ch ((reg.exports ch).erase pd) }
  | .close ch => ⟨reg.opens.erase ch, Function.update reg.exports ch []⟩

/-- The lists hold what is registered: the links that are reached are those of the open channels,
and the functions of each are those that are exported on it, as often. A request for any other is
refused. -/
structure Holds (descriptors : ℕ → MinipcPd) (m : Minipc) : Prop where
  channels : ∃ chs, m.Links chs ∧ chs.Perm reg.opens
  functions : ∀ ch ∈ reg.opens, ∃ link pds, m.links.cell ch = some link ∧ m.Functions link pds ∧
    pds.Perm (reg.exports ch)
  refused : ∀ ch ∈ reg.opens, ∀ request : MpcReqPacket,
    (∀ pd ∈ reg.exports ch, sameName request.name (descriptors pd).name = false) →
    m.mpcHandleClient descriptors ch request = some (.error EOPNOTSUPP)

/-- The lists are those of the registry, the newest entries first. -/
structure Lists (m : Minipc) : Prop where
  channels : m.Links reg.opens
  functions : ∀ ch ∈ reg.opens, ∃ link, m.links.cell ch = some link ∧ link.magic = mpcMagic ∧
    m.Functions link (reg.exports ch)

namespace Lists

variable {reg} {m : Minipc} {ch : ℕ}

theorem holds (h : reg.Lists m) (descriptors : ℕ → MinipcPd) : reg.Holds descriptors m where
  channels := ⟨reg.opens, h.channels, .refl _⟩
  functions ch hch := by
    obtain ⟨link, hlink, -, hpds⟩ := h.functions ch hch
    exact ⟨link, reg.exports ch, hlink, hpds, .refl _⟩
  refused ch hch request hnone := by
    obtain ⟨link, hlink, -, hpds⟩ := h.functions ch hch
    rw [Minipc.mpcHandleClient_eq descriptors hlink hpds,
      List.find?_eq_none.mpr fun pd hpd => by simp [hnone pd hpd]]

/-- The error number is in no list. -/
theorem setErrno (h : reg.Lists m) (errno : ℤ) : reg.Lists { m with errno } :=
  ⟨h.channels, h.functions⟩

/-- The links and functions may change as long as the lists do not. -/
theorem mono (h : reg.Lists m) {m' : Minipc} (hbase : m'.base = m.base)
    (hlinks : ∀ a link, m.links.cell a = some link → ∃ link', m'.links.cell a = some link' ∧
      link'.nextl = link.nextl ∧ link'.magic = link.magic ∧ link'.flist = link.flist)
    (hflists : ∀ a entry, m.flists.cell a = some entry → m'.flists.cell a = some entry) :
    reg.Lists m' where
  channels := by
    unfold Minipc.Links
    rw [hbase]
    refine h.channels.mono fun a link ha => ?_
    obtain ⟨link', hlink', hnextl, -, -⟩ := hlinks a link ha
    exact ⟨link', hlink', hnextl, rfl⟩
  functions ch hch := by
    obtain ⟨link, hlink, hmagic, hpds⟩ := h.functions ch hch
    obtain ⟨link', hlink', -, hmagic', hflist⟩ := hlinks ch link hlink
    refine ⟨link', hlink', hmagic'.trans hmagic, ?_⟩
    unfold Minipc.Functions
    rw [hflist]
    exact hpds.mono fun a entry ha => ⟨entry, hflists a entry ha, rfl, rfl⟩

/-- A channel that is created is the first one. -/
theorem linkCreate (h : reg.Lists m) {alloc : Option ℕ} (socket : ℤ) (ready : Bool) (flags : UInt32)
    (hfree : ∀ a ∈ alloc, m.links.cell a = none) :
    (reg.create (created alloc socket ready)).Lists
      (m.minipcLinkCreate alloc socket ready flags).2 := by
  unfold Minipc.minipcLinkCreate created
  cases alloc with
  | none =>
    rw [ite_self]
    exact h.setErrno ENOMEM
  | some a =>
    have ha := hfree a rfl
    dsimp only
    split
    · -- The link is released again.
      refine h.mono rfl (fun b link hb => ⟨link, ?_, rfl, rfl, rfl⟩) fun _ _ hb => hb
      have hne := Heap.ne_of_free ha hb
      rw [Heap.cell_free_of_ne _ hne, Heap.cell_set_of_ne _ hne, hb]
    · -- The new link leads to those before, which stay as they are.
      have hlinks (b : ℕ) (link : MpcLink) (hb : m.links.cell b = some link) (x y : MpcLink) :
          ((m.links.set a x).set a y).cell b = some link := by
        have hne := Heap.ne_of_free ha hb
        rw [Heap.cell_set_of_ne _ hne, Heap.cell_set_of_ne _ hne, hb]
      have hold (x y : MpcLink) : reg.Lists { m with links := (m.links.set a x).set a y } :=
        h.mono rfl (fun b link hb => ⟨link, hlinks b link hb x y, rfl, rfl, rfl⟩) fun _ _ hb => hb
      constructor
      case channels => exact .cons (Heap.cell_set_self _ _) (hold _ _).channels
      case functions =>
        intro ch hch
        dsimp only [create]
        rcases List.mem_cons.mp hch with rfl | hmem
        · rw [Function.update_self]
          exact ⟨_, Heap.cell_set_self _ _, rfl, .nil⟩
        · obtain ⟨link, hlink⟩ := h.channels.exists_cell hmem
          rw [Function.update_of_ne (Heap.ne_of_free ha hlink)]
          exact (hold _ _).functions ch hmem

theorem setLogfile (h : reg.Lists m) (hch : ch ∈ reg.opens) (logf : Bool) :
    ∃ ret, m.minipcSetLogfile ch logf = some ret ∧ reg.Lists ret.2 := by
  obtain ⟨link, hlink, hmagic, -⟩ := h.functions ch hch
  refine ⟨_, Minipc.minipcSetLogfile_eq hlink hmagic logf, ?_⟩
  refine h.mono rfl (fun a x ha => ?_) fun _ _ hb => hb
  exact Heap.exists_cell_set
    (R := fun l l' => l'.nextl = l.nextl ∧ l'.magic = l.magic ∧ l'.flist = l.flist)
    (fun _ => ⟨rfl, rfl, rfl⟩) hlink { link with logf } ⟨rfl, rfl, rfl⟩ ha

/-- A function that is exported is the first one of its channel. -/
theorem exportPd (h : reg.Lists m) (hch : ch ∈ reg.opens) {alloc : Option ℕ}
    (hfree : ∀ a ∈ alloc, m.flists.cell a = none) (pd : ℕ) :
    ∃ ret, m.minipcExport alloc ch pd = some ret ∧
      (reg.register (.exportPd alloc ch pd)).Lists ret.2 := by
  obtain ⟨link, hlink, hmagic, hpds⟩ := h.functions ch hch
  refine ⟨_, Minipc.minipcExport_eq hlink hmagic alloc, ?_⟩
  -- Without memory nothing is exported; otherwise the new cell is put before the others.
  cases alloc with
  | none => exact h.setErrno ENOMEM
  | some a =>
    have ha := hfree a rfl
    constructor
    case channels =>
      refine h.channels.mono fun b x hb => ?_
      obtain ⟨y, hy, hnextl⟩ := Heap.exists_cell_set (R := fun l l' => l'.nextl = l.nextl)
        (fun _ => rfl) hlink { link with flist := some a } rfl hb
      exact ⟨y, hy, hnextl, rfl⟩
    case functions =>
      intro b hb
      dsimp only [register]
      rcases eq_or_ne b ch with rfl | hne
      · rw [Function.update_self]
        exact ⟨_, Heap.cell_set_self _ _, hmagic, .cons (Heap.cell_set_self _ _)
          (hpds.set_of_free ha _)⟩
      · obtain ⟨link', hlink', hmagic', hpds'⟩ := h.functions b hb
        rw [Function.update_of_ne hne]
        exact ⟨link', (m.links.cell_set_of_ne hne _).trans hlink', hmagic', hpds'.set_of_free ha _⟩

end Lists

end Registry

/-! ### Runs -/

/-- The memory, unless it was misused, and the registry. -/
structure Process where
  memory : Option Minipc
  registry : Registry

namespace Process

def initial : Process := ⟨some .initial, [], fun _ => []⟩

/-- What a call does with the memory. -/
def call (c : MinipcCall) (m : Minipc) : Option Minipc :=
  match c with
  | .serverCreate alloc socket ready f => some (m.minipcServerCreate alloc socket ready f).2
  | .clientCreate alloc socket ready f => some (m.minipcClientCreate alloc socket ready f).2
  | .setLogfile ch logf => (m.minipcSetLogfile ch logf).map Prod.snd
  | .exportPd alloc ch pd => (m.minipcExport alloc ch pd).map Prod.snd
  | .unexportPd ch pd => (m.minipcUnexport ch pd).map Prod.snd
  | .close ch => (m.minipcClose ch).map Prod.snd

def step (c : MinipcCall) (p : Process) : Process :=
  ⟨p.memory.bind (call c), p.registry.register c⟩

/-- Callers name open channels only, and the memory that is allocated is not in use. -/
def Legal (c : MinipcCall) (p : Process) : Prop :=
  match c with
  | .serverCreate alloc _ _ _ | .clientCreate alloc _ _ _ =>
    ∀ a ∈ alloc, ∀ m ∈ p.memory, m.links.cell a = none
  | .exportPd alloc ch _ =>
    ch ∈ p.registry.opens ∧ ∀ a ∈ alloc, ∀ m ∈ p.memory, m.flists.cell a = none
  | .setLogfile ch _ | .unexportPd ch _ | .close ch => ch ∈ p.registry.opens

instance (c : MinipcCall) : DecidablePred (Legal c) := fun p => by
  unfold Legal
  split <;> infer_instance

/-- No channel is closed, and no descriptor is unexported that is exported. -/
def RemovesNothing (c : MinipcCall) (p : Process) : Prop :=
  match c with
  | .unexportPd ch pd => pd ∉ p.registry.exports ch
  | .close _ => False
  | _ => True

instance (c : MinipcCall) : DecidablePred (RemovesNothing c) := fun p => by
  unfold RemovesNothing
  split <;> infer_instance

/-- The memory was not misused and holds what is registered. -/
def Registered (descriptors : ℕ → MinipcPd) (p : Process) : Prop :=
  ∃ m, p.memory = some m ∧ p.registry.Holds descriptors m

/-- The memory was not misused, and its lists are those of the registry. -/
def Lists (p : Process) : Prop := ∃ m, p.memory = some m ∧ p.registry.Lists m

variable {p : Process} {c : MinipcCall} {descriptors : ℕ → MinipcPd}

theorem Lists.registered (h : Lists p) (descriptors : ℕ → MinipcPd) : Registered descriptors p := by
  obtain ⟨m, hm, hlists⟩ := h
  exact ⟨m, hm, hlists.holds descriptors⟩

theorem lists_initial : Lists initial :=
  ⟨.initial, rfl, .nil, fun _ hch => by cases hch⟩

/-- A call that has nothing to remove keeps the lists. -/
theorem Lists.step (h : Lists p) (hlegal : Legal c p) (hnothing : RemovesNothing c p) :
    Lists (step c p) := by
  obtain ⟨m, hm, hlists⟩ := h
  unfold Lists Process.step
  dsimp only
  rw [hm, Option.bind_some]
  cases c with
  | serverCreate alloc socket ready f =>
    exact ⟨_, rfl, hlists.linkCreate socket ready _ fun a ha => hlegal a ha m hm⟩
  | clientCreate alloc socket ready f =>
    exact ⟨_, rfl, hlists.linkCreate socket ready _ fun a ha => hlegal a ha m hm⟩
  | setLogfile ch logf =>
    obtain ⟨ret, hret, hnext⟩ := hlists.setLogfile hlegal logf
    exact ⟨ret.2, by rw [call, hret, Option.map_some], hnext⟩
  | exportPd alloc ch pd =>
    obtain ⟨ret, hret, hnext⟩ := hlists.exportPd hlegal.1 (fun a ha => hlegal.2 a ha m hm) pd
    exact ⟨ret.2, by rw [call, hret, Option.map_some], hnext⟩
  | unexportPd ch pd =>
    -- The function is not in the list, so that the walk reaches its end.
    obtain ⟨link, hlink, hmagic, hpds⟩ := hlists.functions ch hlegal
    refine ⟨{ m with errno := EINVAL }, ?_, ?_⟩
    · rw [call, Minipc.minipcUnexport_of_notMem hlink hmagic hpds hnothing, Option.map_some]
    · unfold Registry.register
      dsimp only
      rw [List.erase_of_not_mem hnothing, Function.update_eq_self]
      exact hlists.setErrno EINVAL
  | close ch => cases hnothing

/-- A function that is to be unexported stays. -/
theorem not_registered_unexportPd {ch pd : ℕ} (h : Lists p) (hch : ch ∈ p.registry.opens)
    (hpd : pd ∈ p.registry.exports ch) : ¬Registered descriptors (step (.unexportPd ch pd) p) := by
  obtain ⟨m, hm, hlists⟩ := h
  obtain ⟨link, hlink, hmagic, hpds⟩ := hlists.functions ch hch
  rintro ⟨m', hm', hholds⟩
  have hsame : m' = m := by
    simpa [Process.step, hm, call, Minipc.minipcUnexport_of_mem hlink hmagic hpds hpd]
      using hm'.symm
  subst hsame
  obtain ⟨link', pds, hlink', hpds', hperm⟩ := hholds.functions ch hch
  rw [hlink] at hlink'
  cases hlink'
  -- The list has as many entries as before, and the registry one less.
  rw [hpds'.unique hpds] at hperm
  have hlength := hperm.length_eq
  dsimp only [Process.step, Registry.register] at hlength
  rw [Function.update_self, List.length_erase_of_mem hpd] at hlength
  have hpos := List.length_pos_of_mem hpd
  omega

/-- A channel that is closed is still reached, where its link was released. -/
theorem not_registered_close {ch : ℕ} (h : Lists p) (hch : ch ∈ p.registry.opens) :
    ¬Registered descriptors (step (.close ch) p) := by
  obtain ⟨m, hm, hlists⟩ := h
  obtain ⟨link, hlink, hmagic, -⟩ := hlists.functions ch hch
  rintro ⟨m', hm', hholds⟩
  obtain ⟨ret, hret, rfl⟩ : ∃ ret, m.minipcClose ch = some ret ∧ ret.2 = m' := by
    simpa only [Process.step, hm, call, Option.bind_some, Option.map_eq_some_iff] using hm'
  obtain ⟨hbase, hfreed, hcell⟩ := Minipc.minipcClose_frame hlists.channels hch hlink hmagic hret
  obtain ⟨chs, hchs, -⟩ := hholds.channels
  unfold Minipc.Links at hchs
  rw [hbase] at hchs
  exact hlists.channels.not_chain_of_freed hch hfreed hcell hchs

/-- A call that has something to remove does not remove it. -/
theorem registered_step_iff (h : Lists p) (hlegal : Legal c p) :
    Registered descriptors (step c p) ↔ RemovesNothing c p := by
  refine ⟨fun hreg => ?_, fun hnothing => (h.step hlegal hnothing).registered descriptors⟩
  by_contra hremoves
  cases c with
  | unexportPd ch pd =>
    exact not_registered_unexportPd h hlegal (not_not.mp hremoves) hreg
  | close ch => exact not_registered_close h hlegal hreg
  | _ => exact hremoves trivial

end Process

/-- In every run in which callers name open channels only, after each call the functions of every
open channel are the descriptors that were exported on it and not unexported, each as often, any
other name is answered with `EOPNOTSUPP`, and the links that are reached are those of the channels
that were created and not closed, exactly as long as no channel is closed and no descriptor is
unexported that is exported. -/
theorem registered_iff_removesNothing (descriptors : ℕ → MinipcPd) (calls : List MinipcCall)
    (hlegal : InputSystem.EveryStep Process.step Process.Legal Process.initial calls) :
    InputSystem.EveryStep Process.step
        (fun c p => Process.Registered descriptors (Process.step c p)) Process.initial calls ↔
      InputSystem.EveryStep Process.step Process.RemovesNothing Process.initial calls :=
  hlegal.iff_of_invariant Process.lists_initial fun _ _ hlists hlegal =>
    ⟨Process.registered_step_iff hlists hlegal, hlists.step hlegal⟩

/-! ### A function that stays -/

/-- A descriptor of a function that returns one octet. -/
def smallPd (name : UInt8) : MinipcPd where
  f _ := .done [1]
  name k := if k.val = 0 then name else 0
  retval := minipcArgEncode .int 4
  args := []

/-- A server, a client and two functions, one of which is unexported on the channel of the other. -/
def smallCalls : List MinipcCall :=
  [.serverCreate (some 0) 3 true 0, .exportPd (some 0) 0 97, .clientCreate (some 1) 4 true 0,
    .setLogfile 0 true, .exportPd (some 1) 0 97, .exportPd (some 2) 1 98, .unexportPd 0 98]

theorem registered_iff_removesNothing_smallCalls :
    InputSystem.EveryStep Process.step
      (fun c p => Process.Registered (fun pd => smallPd (.ofNat pd)) (Process.step c p))
      Process.initial smallCalls :=
  (registered_iff_removesNothing _ smallCalls (by decide)).mpr (by decide)

/-- A function is exported and unexported. -/
def unexportCalls : List MinipcCall :=
  [.serverCreate (some 0) 3 true 0, .exportPd (some 0) 0 97, .unexportPd 0 97]

/-- The function that was unexported is still called. -/
theorem not_forall_registered : ¬∀ (descriptors : ℕ → MinipcPd) (calls : List MinipcCall),
    InputSystem.EveryStep Process.step Process.Legal Process.initial calls →
    Process.Registered descriptors (InputSystem.runInputs Process.step Process.initial calls) := by
  intro h
  obtain ⟨m, hm, hholds⟩ := h (fun pd => smallPd (.ofNat pd)) unexportCalls (by decide)
  have hreply := hholds.refused 0 (by decide) ⟨(smallPd 97).name, fun _ => 0⟩ (by decide)
  have hcalled : ((InputSystem.runInputs Process.step Process.initial unexportCalls).memory.bind
      fun m => m.mpcHandleClient (fun pd => smallPd (.ofNat pd)) 0
        ⟨(smallPd 97).name, fun _ => 0⟩) =
        some (.value (minipcArgEncode .int 4) [1]) := by decide
  rw [hm, Option.bind_some, hreply] at hcalled
  cases hcalled

end WhiteRabbitPtp
