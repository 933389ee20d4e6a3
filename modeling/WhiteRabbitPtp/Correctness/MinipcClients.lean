import WhiteRabbitPtp.Lib.GuardedRun
import WhiteRabbitPtp.Model.MinipcSocket
import Mathlib.Data.Finset.Card
import Mathlib.Data.Finset.Image

/-!
# The clients of a server

A server keeps the descriptors of its clients at 64 places and in the set that it gives to `select`.
Beside it runs what the operating system knows: the descriptors that were accepted and not closed.
The places and the set say the same as the system, whatever the clients do, as long as `accept`
returns no descriptor that is in use. A client whose descriptor is too large for `select` to look at
is served whenever any other one is.

## Main definitions

* `FdEvent.apply`: the descriptors that are open.
* `Clients`, `Clients.step`: a server and its open descriptors.
* `Clients.Table`: every open descriptor is at one place.
* `Clients.Justified`: what may be closed.

## Main results

* `Clients.Table.serve`, `Clients.Table.connect`: the two parts of an action keep the table.
* `minipc_accountsClients`: so does a run, which closes nothing else.
-/

namespace WhiteRabbitPtp

open InputSystem

/-- What an event does to the descriptors that are open. -/
def FdEvent.apply (e : FdEvent) (opened : Finset ℤ) : Finset ℤ :=
  match e with
  | .accepted fd => insert fd opened
  | .closed fd => opened.erase fd

/-- A descriptor that is accepted is not in use, and a set of descriptors has room for it. -/
def FdEvent.Fresh (ch : ℤ) (e : FdEvent) (opened : Finset ℤ) : Prop :=
  match e with
  | .accepted fd => fd ≠ ch ∧ fd ∉ opened ∧ fd < fdSetSize
  | .closed _ => True

/-- A descriptor that is closed is open. -/
def FdEvent.Owned (e : FdEvent) (opened : Finset ℤ) : Prop :=
  match e with
  | .accepted _ => True
  | .closed fd => fd ∈ opened

instance (ch : ℤ) : ∀ (e : FdEvent) (opened : Finset ℤ), Decidable (e.Fresh ch opened)
  | .accepted fd, opened => inferInstanceAs (Decidable (fd ≠ ch ∧ fd ∉ opened ∧ fd < fdSetSize))
  | .closed _, _ => inferInstanceAs (Decidable True)

/-- What the operating system does during an action. -/
structure ServerInput where
  select : MpcServer.SelectResult
  answers : ℕ → ClientAnswers
  newfd : ℤ

/-- A server, and the descriptors that were accepted and not closed. -/
structure Clients where
  server : MpcServer
  opened : Finset ℤ

namespace Clients

def initial (ch : ℤ) : Clients := ⟨.create ch, ∅⟩

/-- What happens to descriptors in an action. -/
def events (i : ServerInput) (s : Clients) : List FdEvent :=
  (s.server.minipcServerAction i.select i.answers i.newfd).2.2

def step (i : ServerInput) (s : Clients) : Clients :=
  ⟨(s.server.minipcServerAction i.select i.answers i.newfd).2.1,
    runInputs FdEvent.apply s.opened (s.events i)⟩

/-- No descriptor is accepted that is in use or too large. -/
def Fresh (ch : ℤ) : Finset ℤ → List FdEvent → Prop := EveryStep FdEvent.apply (FdEvent.Fresh ch)

/-- Each descriptor that is closed is open. -/
def Owned : Finset ℤ → List FdEvent → Prop := EveryStep FdEvent.apply FdEvent.Owned

instance (ch : ℤ) (opened : Finset ℤ) (es : List FdEvent) : Decidable (Fresh ch opened es) :=
  decidableEveryStep opened es

/-- The places and the set of a server agree with the descriptors that are open. -/
structure Table (ch : ℤ) (s : Clients) : Prop where
  ch_eq : s.server.ch = ch
  fdset_eq : s.server.fdset = insert ch s.opened
  ch_notMem : ch ∉ s.opened
  place : ∀ fd ∈ s.opened, 0 ≤ fd ∧ ∃ i < minipcMaxClients, s.server.fd i = fd
  opened : ∀ i < minipcMaxClients, 0 ≤ s.server.fd i → s.server.fd i ∈ s.opened
  inj : ∀ i < minipcMaxClients, ∀ j < minipcMaxClients, 0 ≤ s.server.fd i →
    s.server.fd i = s.server.fd j → i = j

/-- A descriptor may be closed when its client failed and was ready, or is one that `select` does
not look at, and when it is that of a new client and all places are taken. -/
def Justified (i : ServerInput) (s : Clients) (fd : ℤ) : Prop :=
  (∃ ready, i.select = .ready ready ∧ (fd ∈ ready ∨ selectNfds ≤ fd) ∧
      ∃ k < minipcMaxClients, s.server.fd k = fd ∧ (i.answers k).closes = true) ∨
    fd = i.newfd ∧ ∀ k < minipcMaxClients, 0 ≤ (s.step i).server.fd k

variable {ch : ℤ} {s : Clients} {i : ServerInput}

theorem table_initial (ch : ℤ) : (initial ch).Table ch where
  ch_eq := rfl
  fdset_eq := rfl
  ch_notMem := Finset.notMem_empty ch
  place fd hfd := absurd hfd (Finset.notMem_empty fd)
  opened i _ hi := absurd hi (by simp [initial, MpcServer.create])
  inj i _ j _ hi := absurd hi (by simp [initial, MpcServer.create])

namespace Table

/-- A client that is closed leaves its place and the set. -/
theorem close (h : s.Table ch) {pos : ℕ} (hpos : pos < minipcMaxClients)
    (hfd : 0 ≤ s.server.fd pos) :
    (⟨{ s.server with
        fd := Function.update s.server.fd pos (-1)
        fdset := s.server.fdset.erase (s.server.fd pos) },
      s.opened.erase (s.server.fd pos)⟩ : Clients).Table ch where
  ch_eq := h.ch_eq
  fdset_eq := by
    have hne : s.server.fd pos ≠ ch := fun heq => h.ch_notMem (heq ▸ h.opened pos hpos hfd)
    rw [h.fdset_eq, Finset.erase_insert_of_ne hne.symm]
  ch_notMem hmem := h.ch_notMem (Finset.mem_of_mem_erase hmem)
  place fd hmem := by
    obtain ⟨hne, hfd'⟩ := Finset.mem_erase.mp hmem
    obtain ⟨hle, i, hi, rfl⟩ := h.place fd hfd'
    refine ⟨hle, i, hi, Function.update_of_ne ?_ _ _⟩
    rintro rfl
    exact hne rfl
  opened i hi hle := by
    dsimp only at hle ⊢
    rcases eq_or_ne i pos with rfl | hne
    · rw [Function.update_self] at hle
      omega
    · rw [Function.update_of_ne hne] at hle ⊢
      refine Finset.mem_erase.mpr ⟨fun heq => hne (h.inj i hi pos hpos hle heq), h.opened i hi hle⟩
  inj i hi j hj hle heq := by
    dsimp only at hle heq
    -- The place that is left holds a negative number.
    rcases eq_or_ne i pos with rfl | hne
    · rw [Function.update_self] at hle
      omega
    · rw [Function.update_of_ne hne] at hle heq
      rcases eq_or_ne j pos with rfl | hne'
      · rw [Function.update_self] at heq
        omega
      · rw [Function.update_of_ne hne'] at heq
        exact h.inj i hi j hj hle heq

/-- A client that is accepted gets a place. -/
theorem accept (h : s.Table ch) {pos : ℕ} (hpos : pos < minipcMaxClients)
    (hfree : s.server.fd pos < 0) {fd : ℤ} (hfd : 0 ≤ fd) (hne : fd ≠ ch) (hnew : fd ∉ s.opened) :
    (⟨{ s.server with
        fd := Function.update s.server.fd pos fd
        fdset := insert fd s.server.fdset },
      insert fd s.opened⟩ : Clients).Table ch where
  ch_eq := h.ch_eq
  fdset_eq := by rw [h.fdset_eq, Finset.insert_comm]
  ch_notMem hmem := (Finset.mem_insert.mp hmem).elim (fun heq => hne heq.symm) h.ch_notMem
  place fd' hmem := by
    rcases Finset.mem_insert.mp hmem with rfl | hmem
    · exact ⟨hfd, pos, hpos, Function.update_self _ _ _⟩
    · obtain ⟨hle, i, hi, rfl⟩ := h.place fd' hmem
      refine ⟨hle, i, hi, Function.update_of_ne ?_ _ _⟩
      rintro rfl
      omega
  opened i hi hle := by
    dsimp only at hle ⊢
    rcases eq_or_ne i pos with rfl | hne
    · rw [Function.update_self]
      exact Finset.mem_insert_self _ _
    · rw [Function.update_of_ne hne] at hle ⊢
      exact Finset.mem_insert_of_mem (h.opened i hi hle)
  inj i hi j hj hle heq := by
    -- The new descriptor is at no other place, since it was not open before.
    dsimp only at hle heq
    rcases eq_or_ne i pos with rfl | hi'
    · rcases eq_or_ne j i with rfl | hj'
      · rfl
      · rw [Function.update_self] at hle heq
        rw [Function.update_of_ne hj'] at heq
        exact absurd (heq ▸ h.opened j hj (heq ▸ hle)) hnew
    · rw [Function.update_of_ne hi'] at hle heq
      rcases eq_or_ne j pos with rfl | hj'
      · rw [Function.update_self] at heq
        exact absurd (heq ▸ h.opened i hi hle) hnew
      · rw [Function.update_of_ne hj'] at heq
        exact h.inj i hi j hj hle heq

/-- The loop over the clients closes the ones that were ready and failed. -/
theorem serve (ready : Finset ℤ) (answers : ℕ → ClientAnswers) (rounds i : ℕ)
    (hrounds : i + rounds ≤ minipcMaxClients) {s : Clients} (h : s.Table ch) :
    Table ch ⟨(MpcServer.serveClients ready answers rounds i s.server).1,
        runInputs FdEvent.apply s.opened
          (MpcServer.serveClients ready answers rounds i s.server).2⟩ ∧
      Owned s.opened (MpcServer.serveClients ready answers rounds i s.server).2 ∧
      ∀ e ∈ (MpcServer.serveClients ready answers rounds i s.server).2, ∃ fd, e = .closed fd ∧
        fd ∈ ready ∧ ∃ k, i ≤ k ∧ k < minipcMaxClients ∧ s.server.fd k = fd ∧
          (answers k).closes = true := by
  -- By induction on the places that are left.
  induction rounds generalizing i s with
  | zero => exact ⟨h, trivial, fun e he => absurd he List.not_mem_nil⟩
  | succ rounds ih =>
    have hi : i < minipcMaxClients := by omega
    have hrounds' : i + 1 + rounds ≤ minipcMaxClients := by omega
    have hlater {s' : Clients} {es : List FdEvent}
        (hfd : ∀ k, i < k → s'.server.fd k = s.server.fd k)
        (hes : ∀ e ∈ es, ∃ fd, e = .closed fd ∧ fd ∈ ready ∧ ∃ k, i + 1 ≤ k ∧ k < minipcMaxClients ∧
          s'.server.fd k = fd ∧ (answers k).closes = true) :
        ∀ e ∈ es, ∃ fd, e = .closed fd ∧ fd ∈ ready ∧ ∃ k, i ≤ k ∧ k < minipcMaxClients ∧
          s.server.fd k = fd ∧ (answers k).closes = true := by
      intro e he
      obtain ⟨fd, heq, hready, k, hik, hk, hfdk, hcloses⟩ := hes e he
      exact ⟨fd, heq, hready, k, by omega, hk, hfd k hik ▸ hfdk, hcloses⟩
    unfold MpcServer.serveClients
    split_ifs with hskip
    · obtain ⟨htable, howned, hes⟩ := ih (i + 1) hrounds' h
      exact ⟨htable, howned, hlater (fun _ _ => rfl) hes⟩
    · obtain ⟨hle, hready⟩ := not_or.mp hskip
      dsimp only
      unfold MpcServer.mpcHandleClient
      split_ifs with hcloses
      · have hopen := h.opened i hi (not_lt.mp hle)
        obtain ⟨htable, howned, hes⟩ := ih (i + 1) hrounds' (h.close hi (not_lt.mp hle))
        refine ⟨htable, ⟨hopen, howned⟩, fun e he => ?_⟩
        rcases List.mem_cons.mp he with rfl | he
        · exact ⟨_, rfl, not_not.mp hready, i, le_rfl, hi, rfl, hcloses⟩
        · exact hlater (fun k hk => Function.update_of_ne hk.ne' _ _) hes e he
      · obtain ⟨htable, howned, hes⟩ := ih (i + 1) hrounds' h
        exact ⟨htable, howned, hlater (fun _ _ => rfl) hes⟩

/-- A client that connects gets a place, or is closed when there is none. -/
theorem connect (h : s.Table ch) {newfd : ℤ}
    (hfresh : Fresh ch s.opened (s.server.mpcHandleConnection newfd).2) :
    Table ch ⟨(s.server.mpcHandleConnection newfd).1,
        runInputs FdEvent.apply s.opened (s.server.mpcHandleConnection newfd).2⟩ ∧
      Owned s.opened (s.server.mpcHandleConnection newfd).2 ∧
      ∀ fd, .closed fd ∈ (s.server.mpcHandleConnection newfd).2 →
        fd = newfd ∧ ∀ k < minipcMaxClients, 0 ≤ (s.server.mpcHandleConnection newfd).1.fd k := by
  unfold MpcServer.mpcHandleConnection at hfresh ⊢
  dsimp only at hfresh ⊢
  split_ifs with hneg hfull
  · exact ⟨h, trivial, fun fd he => absurd he List.not_mem_nil⟩
  · rw [if_neg hneg, if_pos hfull] at hfresh
    obtain ⟨-, hnew, -⟩ := hfresh.1
    refine ⟨?_, ⟨trivial, Finset.mem_insert_self _ _, trivial⟩, fun fd he => ?_⟩
    · -- The client was accepted only to be closed.
      have hsame : (⟨s.server, (insert newfd s.opened).erase newfd⟩ : Clients).Table ch := by
        rwa [Finset.erase_insert hnew]
      exact hsame
    · refine ⟨by simpa using he, fun k hk => ?_⟩
      simpa using LinearSearch.firstIndex_eq_iff.mp hfull k hk
  · rw [if_neg hneg, if_neg hfull] at hfresh
    obtain ⟨hne, hnew, -⟩ := hfresh.1
    have hlt := lt_of_le_of_ne (LinearSearch.firstIndex_le _ _) hfull
    have hfree := of_decide_eq_true (LinearSearch.firstIndex_spec hlt)
    refine ⟨h.accept hlt hfree (not_lt.mp hneg) hne hnew, ⟨trivial, trivial⟩,
      fun fd he => ?_⟩
    simp at he

/-- An action keeps the table and closes what it may close. -/
theorem step (h : s.Table ch) (hfresh : Fresh ch s.opened (s.events i)) :
    (s.step i).Table ch ∧ Owned s.opened (s.events i) ∧
      ∀ fd, .closed fd ∈ s.events i → s.Justified i fd := by
  unfold Justified
  unfold Clients.step
  unfold events at hfresh ⊢
  cases hselect : i.select with
  | timedOut => exact ⟨h, trivial, fun fd he => absurd he List.not_mem_nil⟩
  | failed errno => exact ⟨h, trivial, fun fd he => absurd he List.not_mem_nil⟩
  | ready fds =>
    -- `select` marks what is ready below its bound, and leaves what lies behind in the set.
    have hset (fd : ℤ) (hmem : fd ∈ s.server.selectedSet fds) : fd ∈ fds ∨ selectNfds ≤ fd :=
      (Finset.mem_filter.mp hmem).2
    generalize hselected : s.server.selectedSet fds = set at hset
    obtain ⟨htable, howned, hes⟩ := h.serve set i.answers minipcMaxClients 0 (by omega)
    have hserved (fd : ℤ)
        (he : .closed fd ∈ (MpcServer.serveClients set i.answers minipcMaxClients 0 s.server).2) :
        ∃ ready, MpcServer.SelectResult.ready fds = .ready ready ∧
          (fd ∈ ready ∨ selectNfds ≤ fd) ∧
          ∃ k < minipcMaxClients, s.server.fd k = fd ∧ (i.answers k).closes = true := by
      obtain ⟨fd', heq, hready, k, -, hk, hfd, hcloses⟩ := hes _ he
      cases heq
      exact ⟨fds, rfl, hset _ hready, k, hk, hfd, hcloses⟩
    rw [hselect] at hfresh
    unfold MpcServer.minipcServerAction at hfresh ⊢
    simp only [hselected] at hfresh ⊢
    -- The channel comes last: a new client is accepted after all others were served.
    split_ifs with hch
    · rw [if_pos hch] at hfresh
      obtain ⟨htable', howned', hes'⟩ := htable.connect (EveryStep.append.mp hfresh).2
      refine ⟨?_, EveryStep.append.mpr ⟨howned, howned'⟩, fun fd he => ?_⟩
      · rw [run_append]
        exact htable'
      · exact (List.mem_append.mp he).imp (hserved fd) (hes' fd)
    · exact ⟨htable, howned, fun fd he => .inl (hserved fd he)⟩

end Table

end Clients

/-- In every run of a server in which `accept` returns no descriptor that is in use or too large,
each descriptor that was accepted and not closed is at exactly one of the places for clients, and
the set that `select` is given holds these descriptors and the one of the channel (`Clients.Table`).
Nothing is closed that is not open (`Clients.Owned`), and nothing that is not `Clients.Justified`.
-/
theorem minipc_accountsClients (ch : ℤ) (inputs : List ServerInput)
    (hfresh : EveryStep Clients.step (fun i s => Clients.Fresh ch s.opened (s.events i))
      (.initial ch) inputs) :
    (runInputs Clients.step (.initial ch) inputs).Table ch ∧
      EveryStep Clients.step (fun i s => Clients.Owned s.opened (s.events i) ∧
        ∀ fd, .closed fd ∈ s.events i → s.Justified i fd) (.initial ch) inputs := by
  constructor
  · exact hfresh.runInputs_of_invariant (I := Clients.Table ch) (Clients.table_initial ch)
      fun _ _ h hi => (h.step hi).1
  · exact hfresh.of_invariant (I := Clients.Table ch) (Clients.table_initial ch)
      fun _ _ h hi => ⟨(h.step hi).2, (h.step hi).1⟩

/-! ### Some clients -/

/-- A client sends a request, or closes its end. -/
def smallAnswers (closing : Bool) : ClientAnswers where
  recv := if closing then .failed 0 else .received [0]
  sent := true

/-- Two clients connect; the first one closes its end while a third one connects, whose descriptor
is the one that was closed. One more gets a descriptor that `select` does not look at: it is found
to have closed its end when the next one connects. -/
def smallInputs : List ServerInput :=
  [⟨.ready {3}, fun _ => smallAnswers false, 4⟩, ⟨.timedOut, fun _ => smallAnswers false, -1⟩,
    ⟨.ready {3, 4}, fun _ => smallAnswers false, 5⟩,
    ⟨.ready {3, 4, 5}, fun k => smallAnswers (k == 0), 4⟩,
    ⟨.ready {3}, fun _ => smallAnswers false, 70⟩,
    ⟨.ready {3}, fun k => smallAnswers (k == 2), 71⟩]

/-- Three clients are left. -/
theorem minipc_accountsClients_smallInputs :
    (runInputs Clients.step (.initial 3) smallInputs).opened = {4, 5, 71} ∧
      (runInputs Clients.step (.initial 3) smallInputs).Table 3 ∧
      EveryStep Clients.step (fun i s => Clients.Owned s.opened (s.events i) ∧
        ∀ fd, .closed fd ∈ s.events i → s.Justified i fd) (.initial 3) smallInputs :=
  ⟨by decide +kernel, minipc_accountsClients 3 smallInputs (by decide +kernel)⟩

end WhiteRabbitPtp
