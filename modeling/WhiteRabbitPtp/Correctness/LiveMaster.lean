import WhiteRabbitPtp.Correctness.Steps

/-!
# Live foreign masters and the best one of the clock

A record of a foreign-master table is live when its index is below the number of records. In every
reachable state the best record of a port is live when a state decision uses it, if the table is not
empty. The clock's best master `Ebest` is only searched for when some port got an Announce message,
and tables are emptied without such a search; so it designates a live record exactly when no such
step comes in between.

## Main definitions

* `TablesLive`: what holds of the tables in every reachable state.
* `EbestTracks`: what holds of `Ebest` besides, in runs in which the shared step is guarded.
* `EbestLive`: `Ebest` designates a live record.
* `DeadSlave`: the decisions for `PTP_SLAVE` that follow a record that is not live.

## Main results

* `tablesLive_of_reachable`, `ebestTracks_of_guardedRun`: the invariants.
* `ebestLive_iff`: when `Ebest` designates a live record after the shared step.
* `bmc_slave_live_iff`: when a decision for `PTP_SLAVE` follows a live record.
-/

namespace WhiteRabbitPtp

open InputSystem LinearSearch

/-! ### The tables of one port -/

/-- What the steps of a port keep of the clock's data set. -/
structure EbestKept (clk clk' : PtpClockDS) : Prop where
  ebest : clk'.Ebest = clk.Ebest
  bestForeign : clk'.bestForeign = clk.bestForeign
  numberPorts : clk'.numberPorts = clk.numberPorts
  event : clk'.globalStateDecisionEvent = clk.globalStateDecisionEvent

/-- What following the link state does to a table: it is kept or emptied. -/
structure TableLinked (fm fm' : ForeignMasterDS) : Prop where
  best : fm'.foreignRecordBest = fm.foreignRecordBest ∨ fm'.foreignRecordBest = 0
  number : fm'.numberForeignRecords = 0 ∨ fm'.numberForeignRecords = fm.numberForeignRecords ∧
    fm'.foreignRecordBest = fm.foreignRecordBest
  update : fm'.recordUpdate = fm.recordUpdate

/-- What the actions of a port do to a table: it is kept, emptied, or marked as updated. -/
structure TableActed (fm fm' : ForeignMasterDS) : Prop where
  best : fm'.foreignRecordBest = fm.foreignRecordBest
  number : fm'.numberForeignRecords = fm.numberForeignRecords ∨ fm'.numberForeignRecords = 0 ∨
    fm'.recordUpdate = true
  update : fm.recordUpdate = true → fm'.recordUpdate = true

section Port

variable {rtOpts : RunTimeOpts} {n n' : Node}

/-- A data set that is left alone keeps `Ebest`. -/
@[refl]
theorem EbestKept.refl (clk : PtpClockDS) : EbestKept clk clk := ⟨rfl, rfl, rfl, rfl⟩

/-- Two changes that keep `Ebest` keep it together. -/
theorem EbestKept.trans {clk clk' clk'' : PtpClockDS} (h : EbestKept clk clk')
    (h' : EbestKept clk' clk'') : EbestKept clk clk'' :=
  ⟨h'.ebest.trans h.ebest, h'.bestForeign.trans h.bestForeign,
    h'.numberPorts.trans h.numberPorts, h'.event.trans h.event⟩

/-- The code of a decision keeps `Ebest`. -/
theorem Decided.ebestKept (h : Decided n n') : EbestKept n.clk n'.clk :=
  ⟨h.ebest, h.bestForeign, h.numberPorts, h.globalStateDecisionEvent⟩

/-- What is inside the frame keeps `Ebest`. -/
theorem Frame.ebestKept (h : Frame n n') : EbestKept n.clk n'.clk := by rw [h.clk]

/-- Following the link keeps the table or empties it, and keeps `Ebest`. -/
theorem linked_table (rtOpts : RunTimeOpts) (n : Node) :
    TableLinked n.port.fm (linked rtOpts n).port.fm ∧
      EbestKept n.clk (linked rtOpts n).clk := by
  rcases linked_cases rtOpts n with h | h
  · exact ⟨⟨h.best, .inl h.number, h.recordUpdate⟩,
      h.ebest, h.bestForeign, h.numberPorts, h.globalStateDecisionEvent⟩
  · obtain ⟨port, hport, heq⟩ := h.port
    refine ⟨?_, by rw [h.clk]⟩
    rw [heq]
    rcases hport with rfl | rfl
    · exact ⟨.inl rfl, .inr ⟨rfl, rfl⟩, rfl⟩
    · exact ⟨.inr rfl, .inl rfl, rfl⟩

/-- A state decision at most takes the mark back, and only on an event. -/
theorem stateDecision_table (rtOpts : RunTimeOpts) (bestForeign : ForeignMasterRecord) (n : Node) :
    ((stateDecision rtOpts bestForeign n).port.fm = n.port.fm ∨
      n.clk.globalStateDecisionEvent = true ∧
        (stateDecision rtOpts bestForeign n).port.fm = { n.port.fm with recordUpdate := false }) ∧
      EbestKept n.clk (stateDecision rtOpts bestForeign n).clk := by
  by_cases h : n.port.portState.decides = true ∧ n.clk.globalStateDecisionEvent = true ∧
      n.port.wr.wrPortState = .idle
  · rw [stateDecision_of rtOpts n bestForeign h]
    have hdecided := bmc_decided (deciding n) bestForeign
    refine ⟨.inr ⟨h.2.1, ?_⟩, ?_⟩
    · rw [followRecommendation_fm, hdecided.fm]
      rfl
    · exact hdecided.ebestKept.trans (followRecommendation_frame rtOpts _ _).ebestKept
  · rw [stateDecision_of_not rtOpts n bestForeign h]
    exact ⟨.inl rfl, .refl _⟩

/-- A table that is left alone has been acted on as `TableActed` says. -/
@[refl]
theorem TableActed.refl (fm : ForeignMasterDS) : TableActed fm fm := ⟨rfl, .inl rfl, id⟩

/-- A table that was emptied and filled again is marked. -/
theorem TableActed.trans {fm fm' fm'' : ForeignMasterDS} (h : TableActed fm fm')
    (h' : TableActed fm' fm'') : TableActed fm fm'' where
  best := h'.best.trans h.best
  number := by
    rcases h'.number with hsame | hempty | hmarked
    · rcases h.number with hsame' | hempty' | hmarked'
      · exact .inl (hsame.trans hsame')
      · exact .inr (.inl (hsame.trans hempty'))
      · exact .inr (.inr (h'.update hmarked'))
    · exact .inr (.inl hempty)
    · exact .inr (.inr hmarked)
  update hu := h'.update (h.update hu)

/-- A table that grows is marked. -/
theorem FmFrame.acted {fm fm' : ForeignMasterDS} (h : FmFrame fm fm') : TableActed fm fm' where
  best := h.best
  number := by
    rcases h.number_le.lt_or_eq with hlt | heq
    · exact .inr (.inr (h.grown hlt))
    · exact .inl heq.symm
  update := h.update

/-- Every action of a port keeps its table, empties it or marks it, and keeps `Ebest`. -/
theorem Action.table (h : Action rtOpts n n') :
    TableActed n.port.fm n'.port.fm ∧ EbestKept n.clk n'.clk := by
  have hframe : ∀ {m}, Frame n m → TableActed n.port.fm m.port.fm ∧ EbestKept n.clk m.clk :=
    fun h => ⟨h.fm.acted, h.ebestKept⟩
  cases h with
  | frame h => exact hframe h.toFrame
  | handle => exact hframe (handle_frame rtOpts n)
  | forgetMasters => exact ⟨⟨rfl, .inr (.inl rfl), id⟩, .refl _⟩
  | m1 =>
    have hm1 := m1_decided n
    exact ⟨by rw [hm1.fm], hm1.ebestKept⟩
  | toState => exact hframe (toState_frame rtOpts n _)
  | wrState => exact hframe (doWRState_frame rtOpts n)
  | clearRegister => exact ⟨.refl _, .refl _⟩

/-- The actions of a whole step keep the table, empty it or mark it, and keep `Ebest`. -/
theorem doStateActions_table (rtOpts : RunTimeOpts) (n : Node) :
    TableActed n.port.fm (doStateActions rtOpts n).port.fm ∧
      EbestKept n.clk (doStateActions rtOpts n).clk :=
  doStateActions_induction
    (P := fun m => TableActed n.port.fm m.port.fm ∧ EbestKept n.clk m.clk)
    ⟨.refl _, .refl _⟩ fun _ _ h haction =>
      ⟨h.1.trans haction.table.1, h.2.trans haction.table.2⟩

end Port

/-! ### The shared step -/

section Shared

variable (ports : ℕ → PtpPortDS)

/-- `anyRecordUpdate` looks for a port whose `recordUpdate` is set. -/
theorem anyRecordUpdate_iff (numberPorts : ℕ) :
    anyRecordUpdate ports numberPorts = true ↔
      ∃ i < numberPorts, (ports i).fm.recordUpdate = true := by
  unfold anyRecordUpdate
  simp

/-- `anyRecordUpdate` fails when `recordUpdate` is set at no port. -/
theorem anyRecordUpdate_eq_false_iff (numberPorts : ℕ) :
    anyRecordUpdate ports numberPorts = false ↔
      ∀ i < numberPorts, (ports i).fm.recordUpdate = false := by
  rw [Bool.eq_false_iff, ne_eq, anyRecordUpdate_iff]
  simp

/-- The searches empty no table and fill none. -/
@[simp]
theorem updateErBests_numberForeignRecords (k i : ℕ) :
    (updateErBests ports k i).fm.numberForeignRecords = (ports i).fm.numberForeignRecords := by
  rw [updateErBests_eq]

/-- The searches take no mark back. -/
@[simp]
theorem updateErBests_recordUpdate (k i : ℕ) :
    (updateErBests ports k i).fm.recordUpdate = (ports i).fm.recordUpdate := by
  rw [updateErBests_eq]

/-- Without a mark nothing is searched. -/
theorem updateErBests_of_not {k : ℕ} (h : ∀ i < k, (ports i).fm.recordUpdate = false) :
    updateErBests ports k = ports := by
  induction k with
  | zero => rfl
  | succ k ih =>
    rw [updateErBests_succ, ih fun i hi => h i (by omega)]
    unfold updateErBest
    rw [if_neg (by simp [h k (by omega)])]

/-- After a search the best record of the first port is live. -/
theorem updateErBests_best {k : ℕ} (h : ∃ i < k, (ports i).fm.recordUpdate = true)
    (hlive : 0 < (ports 0).fm.numberForeignRecords) :
    (updateErBests ports k 0).fm.foreignRecordBest < (ports 0).fm.numberForeignRecords := by
  induction k with
  | zero =>
    obtain ⟨i, hi, -⟩ := h
    omega
  | succ k ih =>
    have hnumber := updateErBests_numberForeignRecords ports k 0
    have hmark := updateErBests_recordUpdate ports k k
    rw [updateErBests_succ]
    unfold updateErBest
    by_cases hk : (ports k).fm.recordUpdate = true
    · -- The search of a marked port writes the best record of the first one.
      rw [if_pos (hmark.trans hk), Function.update_self]
      unfold ErBest
      rw [if_neg (by omega), ← hnumber]
      exact (bestFrom_mem _ (by omega)).2
    · -- A port without a mark writes nothing, so the marked one came before it.
      rw [if_neg (by rwa [hmark])]
      obtain ⟨i, hi, hmarked⟩ := h
      refine ih ⟨i, ?_, hmarked⟩
      have hne : i ≠ k := by
        rintro rfl
        exact hk hmarked
      omega

/-- What the shared step writes into the clock's data set. -/
theorem sharedPortsLoop_clk (tics : UInt64) (extsrcLocked : Bool) (clk : PtpClockDS) :
    let updated := updateErBests ports clk.numberPorts
    let ebest := ebestIndex updated clk.numberPorts
    let clk' := (sharedPortsLoop tics extsrcLocked ports clk).2
    clk'.numberPorts = clk.numberPorts ∧
      clk'.globalStateDecisionEvent = anyRecordUpdate ports clk.numberPorts ∧
      (anyRecordUpdate ports clk.numberPorts = true →
        clk'.Ebest = ebest ∧ clk'.bestForeign = (ebest, (updated ebest).fm.foreignRecordBest)) ∧
      (anyRecordUpdate ports clk.numberPorts = false →
        clk'.Ebest = clk.Ebest ∧ clk'.bestForeign = clk.bestForeign) := by
  obtain ⟨number, clockClass, timer, hclk⟩ := sharedPortsLoop_snd ports tics extsrcLocked clk
  dsimp only at hclk ⊢
  rw [hclk]
  cases anyRecordUpdate ports clk.numberPorts
  · exact ⟨rfl, rfl, fun h => absurd h (by decide), fun _ => ⟨rfl, rfl⟩⟩
  · exact ⟨rfl, rfl, fun _ => ⟨rfl, rfl⟩, fun h => absurd h (by decide)⟩

/-- With a live record anywhere the search for the best master of the clock ends at a port with live
records; without one it ends behind the last port. -/
theorem ebestIndex_spec (numberPorts : ℕ) :
    (∃ i < numberPorts, 0 < (ports i).fm.numberForeignRecords) ∧
        ebestIndex ports numberPorts < numberPorts ∧
        0 < (ports (ebestIndex ports numberPorts)).fm.numberForeignRecords ∨
      (∀ i < numberPorts, (ports i).fm.numberForeignRecords = 0) ∧
        ebestIndex ports numberPorts = numberPorts := by
  unfold ebestIndex
  set first := firstIndex (fun i => 0 < (ports i).fm.numberForeignRecords) numberPorts with hfirst
  by_cases h : first < numberPorts
  · left
    have hstart : 0 < (ports first).fm.numberForeignRecords := by
      simpa using firstIndex_spec h
    -- A later port only takes over when it has live records itself.
    refine ⟨⟨first, h, hstart⟩, (bestFrom_mem _ h).2, ?_⟩
    exact bestFrom_induction (P := fun i => 0 < (ports i).fm.numberForeignRecords) hstart
      fun i b hb => Nat.pos_of_ne_zero hb.1
  · right
    have hend : first = numberPorts := le_antisymm (firstIndex_le _ _) (not_lt.mp h)
    refine ⟨fun i hi => ?_, by rw [bestFrom_of_le _ (by omega), hend]⟩
    simpa using firstIndex_eq_iff.mp hend i hi

end Shared

/-! ### The tables in reachable states -/

/-- Whether port `i` has yet to act in the current iteration. -/
def Phase.Before (i : ℕ) : Phase → Prop
  | link j | decide j | act j => j ≤ i
  | shared => False

/-- What holds of the foreign-master tables in every reachable state. -/
structure TablesLive (d : Daemon) : Prop where
  /-- There is a port. -/
  ports : 0 < d.clk.numberPorts
  /-- Only the first port ever gets a best record. -/
  best : ∀ i ≠ 0, (d.ports i).fm.foreignRecordBest = 0
  /-- The best record of a table that is not empty is live, unless the table is marked. -/
  live : ∀ i, 0 < (d.ports i).fm.numberForeignRecords →
    (d.ports i).fm.foreignRecordBest < (d.ports i).fm.numberForeignRecords ∨
      (d.ports i).fm.recordUpdate = true
  /-- Before a port acts its best record is live. -/
  before : ∀ i, d.phase.Before i → 0 < (d.ports i).fm.numberForeignRecords →
    (d.ports i).fm.foreignRecordBest < (d.ports i).fm.numberForeignRecords
  /-- Before the first search every table that is not empty is marked, and none is used. -/
  unsearched : d.clk.Ebest < 0 → ∀ i, 0 < (d.ports i).fm.numberForeignRecords →
    (d.ports i).fm.recordUpdate = true ∧
      (d.clk.globalStateDecisionEvent = true → ¬d.phase.Before i)

namespace TablesLive

variable {rtOpts : RunTimeOpts} {d : Daemon}

/-- Initially every table is empty. -/
theorem initial (h : Daemon.Initial rtOpts d) : TablesLive d := by
  obtain ⟨hports, macs, extsrcLocked, tics, clk, rfl⟩ := h
  have hempty : ∀ i, ¬0 < ((Daemon.initial rtOpts macs extsrcLocked tics clk).ports
      i).fm.numberForeignRecords := fun i => lt_irrefl 0
  have hnumber : (initDataClock rtOpts extsrcLocked tics clk).numberPorts = rtOpts.portNumber := by
    unfold initDataClock
    dsimp only
    split_ifs <;> rfl
  exact ⟨hnumber ▸ hports, fun _ _ => rfl, fun i h => absurd h (hempty i),
    fun i _ h => absurd h (hempty i), fun _ i h => absurd h (hempty i)⟩

/-- The phase after the last one of a port comes before the other phases of later ports only. -/
theorem before_nextPort {i j : ℕ} (h : (Daemon.nextPort rtOpts i).Before j) : i < j := by
  rcases Daemon.nextPort_cases rtOpts i with hnext | hnext
  · rw [hnext] at h
    exact h
  · rw [hnext] at h
    cases h

/-- A step of one port keeps the invariant when it does so for the table of that port. -/
theorem store (hd : TablesLive d) {i : ℕ} {n : Node} {phase : Phase} (hclk : EbestKept d.clk n.clk)
    (hbest : i ≠ 0 → n.port.fm.foreignRecordBest = 0)
    (hlive : 0 < n.port.fm.numberForeignRecords →
      n.port.fm.foreignRecordBest < n.port.fm.numberForeignRecords ∨
        n.port.fm.recordUpdate = true)
    (hbefore : phase.Before i → 0 < n.port.fm.numberForeignRecords →
      n.port.fm.foreignRecordBest < n.port.fm.numberForeignRecords)
    (hunsearched : d.clk.Ebest < 0 → 0 < n.port.fm.numberForeignRecords →
      n.port.fm.recordUpdate = true ∧
        (d.clk.globalStateDecisionEvent = true → ¬phase.Before i))
    (hphase : ∀ j ≠ i, phase.Before j → d.phase.Before j) :
    TablesLive (d.store i n phase) := by
  -- What is asked of port `i` is asked of the node; the other ports are as they were.
  constructor
  · rw [Daemon.store_clk, hclk.numberPorts]
    exact hd.ports
  · intro j hj
    by_cases hji : j = i
    · subst hji
      rw [Daemon.store_ports_self]
      exact hbest hj
    · rw [Daemon.store_ports_of_ne _ _ hji]
      exact hd.best j hj
  · intro j
    by_cases hji : j = i
    · subst hji
      rwa [Daemon.store_ports_self]
    · rw [Daemon.store_ports_of_ne _ _ hji]
      exact hd.live j
  · intro j
    by_cases hji : j = i
    · subst hji
      rwa [Daemon.store_ports_self]
    · rw [Daemon.store_ports_of_ne _ _ hji]
      exact fun h => hd.before j (hphase j hji h)
  · rw [Daemon.store_clk, hclk.ebest, hclk.event]
    intro hneg j
    by_cases hji : j = i
    · subst hji
      rw [Daemon.store_ports_self]
      exact hunsearched hneg
    · rw [Daemon.store_ports_of_ne _ _ hji]
      intro hpos
      obtain ⟨hmark, hused⟩ := hd.unsearched hneg j hpos
      exact ⟨hmark, fun hevent h => hused hevent (hphase j hji h)⟩

/-- A step that follows the link keeps the tables live: it keeps its table or empties it. -/
theorem link (o : Oracle) (hd : TablesLive d) {i : ℕ} (hphase : d.phase = .link i) :
    TablesLive (Daemon.step rtOpts o d) := by
  obtain ⟨phase, heq, hnext⟩ := Daemon.step_link rtOpts o hphase
  obtain ⟨htable, hclk⟩ := linked_table rtOpts (d.node i o)
  rw [heq]
  generalize linked rtOpts (d.node i o) = n at htable hclk hnext ⊢
  have hbefore : d.phase.Before i := by rw [hphase]; exact le_rfl
  -- A table that is not empty afterwards was not changed.
  have hkept : 0 < n.port.fm.numberForeignRecords →
      n.port.fm.numberForeignRecords = (d.ports i).fm.numberForeignRecords ∧
        n.port.fm.foreignRecordBest = (d.ports i).fm.foreignRecordBest := by
    intro hpos
    rcases htable.number with hzero | hsame
    · omega
    · exact hsame
  have hlive : 0 < n.port.fm.numberForeignRecords →
      n.port.fm.foreignRecordBest < n.port.fm.numberForeignRecords := by
    intro hpos
    obtain ⟨hnumber, hbest⟩ := hkept hpos
    rw [hnumber, hbest]
    exact hd.before i hbefore (hnumber ▸ hpos)
  refine hd.store hclk ?_ (fun hpos => .inl (hlive hpos)) (fun _ => hlive) ?_ ?_
  · intro hi
    rcases htable.best with hbest | hbest
    · rw [hbest]
      exact hd.best i hi
    · exact hbest
  · intro hneg hpos
    obtain ⟨hmark, hused⟩ := hd.unsearched hneg i ((hkept hpos).1 ▸ hpos)
    rw [htable.update]
    exact ⟨hmark, fun hevent => absurd hbefore (hused hevent)⟩
  · intro j hj h
    rw [hphase]
    rcases hnext with ⟨rfl, -⟩ | rfl
    · exact h
    · exact (before_nextPort h).le

/-- A decision keeps the tables live: it takes a mark back only after the shared step has searched.
-/
theorem decide (o : Oracle) (hd : TablesLive d) {i : ℕ} (hphase : d.phase = .decide i) :
    TablesLive (Daemon.step rtOpts o d) := by
  rw [Daemon.step_decide rtOpts o hphase]
  obtain ⟨htable, hclk⟩ := stateDecision_table rtOpts d.bestForeign (d.node i o)
  generalize stateDecision rtOpts d.bestForeign (d.node i o) = n at htable hclk ⊢
  have hbefore : d.phase.Before i := by rw [hphase]; exact le_rfl
  -- A decision may take back the mark, but it leaves the records alone.
  have hkept : n.port.fm.numberForeignRecords = (d.ports i).fm.numberForeignRecords ∧
      n.port.fm.foreignRecordBest = (d.ports i).fm.foreignRecordBest := by
    rcases htable with h | ⟨-, h⟩ <;> rw [h] <;> exact ⟨rfl, rfl⟩
  have hlive : 0 < n.port.fm.numberForeignRecords →
      n.port.fm.foreignRecordBest < n.port.fm.numberForeignRecords := by
    rw [hkept.1, hkept.2]
    exact hd.before i hbefore
  refine hd.store hclk ?_ (fun hpos => .inl (hlive hpos)) (fun _ => hlive) ?_ ?_
  · rw [hkept.2]
    exact hd.best i
  · intro hneg hpos
    obtain ⟨hmark, hused⟩ := hd.unsearched hneg i (hkept.1 ▸ hpos)
    rcases htable with h | ⟨hevent, -⟩
    · rw [h]
      exact ⟨hmark, fun hevent => absurd hbefore (hused hevent)⟩
    · -- Before the first search a table is not used when there is an event.
      exact absurd hbefore (hused hevent)
  · intro j hj h
    rw [hphase]
    exact h

/-- The actions of a port keep the tables live: a table that grows is marked. -/
theorem act (o : Oracle) (hd : TablesLive d) {i : ℕ} (hphase : d.phase = .act i) :
    TablesLive (Daemon.step rtOpts o d) := by
  rw [Daemon.step_act rtOpts o hphase]
  obtain ⟨htable, hclk⟩ := doStateActions_table rtOpts (d.node i o)
  generalize doStateActions rtOpts (d.node i o) = n at htable hclk ⊢
  refine hd.store hclk ?_ ?_ (fun h => absurd (before_nextPort h) (lt_irrefl i)) ?_ ?_
  · rw [htable.best]
    exact hd.best i
  · -- A table that grew is marked, and one that did not grow is as live as before.
    intro hpos
    rcases htable.number with hsame | hzero | hmark
    · rw [htable.best, hsame]
      rcases hd.live i (hsame ▸ hpos) with hlt | hmark
      · exact .inl hlt
      · exact .inr (htable.update hmark)
    · omega
    · exact .inr hmark
  · intro hneg hpos
    refine ⟨?_, fun _ h => absurd (before_nextPort h) (lt_irrefl i)⟩
    rcases htable.number with hsame | hzero | hmark
    · exact htable.update (hd.unsearched hneg i (hsame ▸ hpos)).1
    · omega
    · exact hmark
  · intro j hj h
    rw [hphase]
    exact (before_nextPort h).le

/-- The search ends at live records; without a search they were live already. -/
theorem searched (hd : TablesLive d) {i : ℕ} (hpos : 0 < (d.ports i).fm.numberForeignRecords) :
    (updateErBests d.ports d.clk.numberPorts i).fm.foreignRecordBest <
      (d.ports i).fm.numberForeignRecords := by
  by_cases hi : i = 0
  · subst hi
    cases hany : anyRecordUpdate d.ports d.clk.numberPorts with
    | true => exact updateErBests_best d.ports ((anyRecordUpdate_iff _ _).mp hany) hpos
    | false =>
      have hnone := (anyRecordUpdate_eq_false_iff _ _).mp hany
      rw [updateErBests_of_not d.ports hnone]
      rcases hd.live 0 hpos with hlt | hmarked
      · exact hlt
      · exact absurd hmarked (by simp [hnone 0 hd.ports])
  · rw [updateErBests_of_ne d.ports _ hi, hd.best i hi]
    exact hpos

/-- The shared step keeps the tables live: what it finds in the marked tables is live. -/
theorem shared (o : Oracle) (hd : TablesLive d) (hphase : d.phase = .shared) :
    TablesLive (Daemon.step rtOpts o d) := by
  obtain ⟨tics, extsrcLocked, heq⟩ := Daemon.step_shared rtOpts o hphase
  obtain ⟨hnumber, hevent, hsearched, hnot⟩ :=
    sharedPortsLoop_clk d.ports tics extsrcLocked d.clk
  have hports := sharedPortsLoop_fst d.ports tics extsrcLocked d.clk
  rw [heq]
  generalize sharedPortsLoop tics extsrcLocked d.ports d.clk = shared at *
  rw [hports]
  have hrecords := updateErBests_numberForeignRecords d.ports d.clk.numberPorts
  refine ⟨hnumber ▸ hd.ports, ?_, ?_, ?_, ?_⟩
  · intro i hi
    show (updateErBests d.ports d.clk.numberPorts i).fm.foreignRecordBest = 0
    rw [updateErBests_of_ne d.ports _ hi]
    exact hd.best i hi
  · intro i hpos
    exact .inl (hrecords i ▸ hd.searched (hrecords i ▸ hpos))
  · intro i _ hpos
    exact hrecords i ▸ hd.searched (hrecords i ▸ hpos)
  · intro hneg i hpos
    replace hneg : shared.2.Ebest < 0 := hneg
    -- A search leaves `Ebest` at an index, which is not negative.
    cases hany : anyRecordUpdate d.ports d.clk.numberPorts with
    | true =>
      rw [(hsearched hany).1] at hneg
      omega
    | false =>
      rw [(hnot hany).1] at hneg
      have hmarked := (hd.unsearched hneg i (hrecords i ▸ hpos)).1
      refine ⟨(updateErBests_recordUpdate _ _ _).trans hmarked, fun h => ?_⟩
      rw [show shared.2.globalStateDecisionEvent = false from hevent.trans hany] at h
      cases h

/-- Every step of the daemon keeps the invariant. -/
theorem step (o : Oracle) (hd : TablesLive d) : TablesLive (Daemon.step rtOpts o d) := by
  cases hphase : d.phase with
  | link i => exact hd.link o hphase
  | decide i => exact hd.decide o hphase
  | act i => exact hd.act o hphase
  | shared => exact hd.shared o hphase

end TablesLive

/-- `TablesLive` holds of every reachable state. -/
theorem tablesLive_of_reachable {rtOpts : RunTimeOpts} {d : Daemon}
    (h : Daemon.Reachable rtOpts d) : TablesLive d :=
  h.invariant (fun _ => TablesLive.initial) fun o _ hd _ => hd.step o

/-! ### The best master of the clock -/

/-- The search stays in the range of the ports exactly when one of them has a live record. -/
theorem ebestIndex_lt_iff (ports : ℕ → PtpPortDS) (numberPorts : ℕ) :
    ebestIndex (updateErBests ports numberPorts) numberPorts < numberPorts ↔
      ∃ i < numberPorts, 0 < (ports i).fm.numberForeignRecords := by
  have hfm := updateErBests_numberForeignRecords ports numberPorts
  rcases ebestIndex_spec (updateErBests ports numberPorts) numberPorts with
    ⟨⟨i, hi, hpos⟩, hlt, -⟩ | ⟨hnone, hend⟩
  · exact iff_of_true hlt ⟨i, hi, hfm i ▸ hpos⟩
  · refine iff_of_false (by omega) ?_
    rintro ⟨i, hi, hpos⟩
    have hzero := hnone i hi
    rw [hfm] at hzero
    omega

/-- It then ends at a port with a live record. -/
theorem ebestIndex_live (ports : ℕ → PtpPortDS) {numberPorts : ℕ}
    (h : ebestIndex (updateErBests ports numberPorts) numberPorts < numberPorts) :
    0 < (ports (ebestIndex (updateErBests ports numberPorts)
      numberPorts)).fm.numberForeignRecords := by
  rcases ebestIndex_spec (updateErBests ports numberPorts) numberPorts with
    ⟨-, -, hpos⟩ | ⟨-, hend⟩
  · rwa [updateErBests_numberForeignRecords] at hpos
  · omega

/-- `Ebest` is negative and there is no live record, or it designates a live record. -/
def EbestLive (d : Daemon) : Prop :=
  (d.clk.Ebest < 0 ∧ ∀ i < d.clk.numberPorts, (d.ports i).fm.numberForeignRecords = 0) ∨
    ∃ e < d.clk.numberPorts, d.clk.Ebest = e ∧ 0 < (d.ports e).fm.numberForeignRecords ∧
      (d.ports e).fm.foreignRecordBest < (d.ports e).fm.numberForeignRecords ∧
      d.clk.bestForeign = (e, (d.ports e).fm.foreignRecordBest)

/-- The shared step finds a live record when it searches, and leaves `Ebest` at a port with a live
record when it does not. -/
def TablesKept (d : Daemon) : Prop :=
  if ∃ i < d.clk.numberPorts, (d.ports i).fm.recordUpdate = true then
    ∃ i < d.clk.numberPorts, 0 < (d.ports i).fm.numberForeignRecords
  else d.clk.Ebest < 0 ∨ 0 < (d.ports d.clk.Ebest.toNat).fm.numberForeignRecords

instance : DecidablePred TablesKept := fun d => by
  unfold TablesKept
  infer_instance

/-- The guard of the shared step. -/
def SharedKept (_ : Oracle) (d : Daemon) : Prop := d.phase = .shared → TablesKept d

instance (o : Oracle) : DecidablePred (SharedKept o) := fun d => by
  unfold SharedKept
  infer_instance

/-- What holds of `Ebest` between searches: its record is the one that was found, unless the table
was emptied or is marked. -/
structure EbestTracks (d : Daemon) : Prop where
  lt : ∀ e : ℕ, d.clk.Ebest = e → e < d.clk.numberPorts
  found : ∀ e : ℕ, d.clk.Ebest = e → 0 < (d.ports e).fm.numberForeignRecords →
    d.clk.bestForeign = (e, (d.ports e).fm.foreignRecordBest) ∨ (d.ports e).fm.recordUpdate = true
  before : ∀ e : ℕ, d.clk.Ebest = e → d.phase.Before e →
    0 < (d.ports e).fm.numberForeignRecords →
      d.clk.bestForeign = (e, (d.ports e).fm.foreignRecordBest)

namespace EbestTracks

variable {rtOpts : RunTimeOpts} {d : Daemon}

/-- Initially `Ebest` designates no port. -/
theorem initial (h : Daemon.Initial rtOpts d) : EbestTracks d := by
  obtain ⟨-, macs, extsrcLocked, tics, clk, rfl⟩ := h
  have hebest : (initDataClock rtOpts extsrcLocked tics clk).Ebest = -1 := by
    unfold initDataClock
    dsimp only
    split_ifs <;> rfl
  have hnone : ∀ e : ℕ, ¬(Daemon.initial rtOpts macs extsrcLocked tics clk).clk.Ebest = e := by
    intro e h
    rw [show (Daemon.initial rtOpts macs extsrcLocked tics clk).clk.Ebest = -1 from hebest] at h
    omega
  exact ⟨fun e h => absurd h (hnone e), fun e h => absurd h (hnone e),
    fun e h => absurd h (hnone e)⟩

/-- A step of one port keeps the invariant when it does so for the table of that port. -/
theorem store (hd : EbestTracks d) {i : ℕ} {n : Node} {phase : Phase} (hclk : EbestKept d.clk n.clk)
    (hfound : d.clk.Ebest = i → 0 < n.port.fm.numberForeignRecords →
      d.clk.bestForeign = (i, n.port.fm.foreignRecordBest) ∨ n.port.fm.recordUpdate = true)
    (hbefore : d.clk.Ebest = i → phase.Before i → 0 < n.port.fm.numberForeignRecords →
      d.clk.bestForeign = (i, n.port.fm.foreignRecordBest))
    (hphase : ∀ j ≠ i, phase.Before j → d.phase.Before j) : EbestTracks (d.store i n phase) := by
  constructor
  · rw [Daemon.store_clk, hclk.ebest, hclk.numberPorts]
    exact hd.lt
  · rw [Daemon.store_clk, hclk.ebest, hclk.bestForeign]
    intro e he
    by_cases hei : e = i
    · subst hei
      rw [Daemon.store_ports_self]
      exact hfound he
    · rw [Daemon.store_ports_of_ne _ _ hei]
      exact hd.found e he
  · rw [Daemon.store_clk, hclk.ebest, hclk.bestForeign]
    intro e he
    by_cases hei : e = i
    · subst hei
      rw [Daemon.store_ports_self]
      exact hbefore he
    · rw [Daemon.store_ports_of_ne _ _ hei]
      exact fun h => hd.before e he (hphase e hei h)

/-- A step that follows the link keeps the record of `Ebest`, or empties its table. -/
theorem link (o : Oracle) (hd : EbestTracks d) {i : ℕ} (hphase : d.phase = .link i) :
    EbestTracks (Daemon.step rtOpts o d) := by
  obtain ⟨phase, heq, hnext⟩ := Daemon.step_link rtOpts o hphase
  obtain ⟨htable, hclk⟩ := linked_table rtOpts (d.node i o)
  rw [heq]
  generalize linked rtOpts (d.node i o) = n at htable hclk hnext ⊢
  -- A table that is not empty was not changed, so it is the one that was found.
  have hfound : d.clk.Ebest = i → 0 < n.port.fm.numberForeignRecords →
      d.clk.bestForeign = (i, n.port.fm.foreignRecordBest) := by
    intro he hpos
    rcases htable.number with hzero | ⟨hnumber, hbest⟩
    · omega
    · rw [hbest]
      exact hd.before i he (by rw [hphase]; exact le_rfl) (hnumber ▸ hpos)
  refine hd.store hclk (fun he hpos => .inl (hfound he hpos)) (fun he _ => hfound he) ?_
  intro j hj h
  rw [hphase]
  rcases hnext with ⟨rfl, -⟩ | rfl
  · exact h
  · exact (TablesLive.before_nextPort h).le

/-- A decision keeps the record of `Ebest`, whose table the shared step has searched. -/
theorem decide (o : Oracle) (hd : EbestTracks d) {i : ℕ} (hphase : d.phase = .decide i) :
    EbestTracks (Daemon.step rtOpts o d) := by
  rw [Daemon.step_decide rtOpts o hphase]
  obtain ⟨htable, hclk⟩ := stateDecision_table rtOpts d.bestForeign (d.node i o)
  generalize stateDecision rtOpts d.bestForeign (d.node i o) = n at htable hclk ⊢
  have hfound : d.clk.Ebest = i → 0 < n.port.fm.numberForeignRecords →
      d.clk.bestForeign = (i, n.port.fm.foreignRecordBest) := by
    have hbefore := hd.before i
    intro he
    rcases htable with h | ⟨-, h⟩ <;> rw [h] <;>
      exact hbefore he (by rw [hphase]; exact le_rfl)
  refine hd.store hclk (fun he hpos => .inl (hfound he hpos)) (fun he _ => hfound he) ?_
  intro j hj h
  rw [hphase]
  exact h

/-- The actions of a port keep the record of `Ebest`, or mark its table. -/
theorem act (o : Oracle) (hd : EbestTracks d) {i : ℕ} (hphase : d.phase = .act i) :
    EbestTracks (Daemon.step rtOpts o d) := by
  rw [Daemon.step_act rtOpts o hphase]
  obtain ⟨htable, hclk⟩ := doStateActions_table rtOpts (d.node i o)
  generalize doStateActions rtOpts (d.node i o) = n at htable hclk ⊢
  refine hd.store hclk ?_ (fun _ h => absurd (TablesLive.before_nextPort h) (lt_irrefl i)) ?_
  · intro he hpos
    rcases htable.number with hsame | hzero | hmark
    · rw [htable.best]
      exact .inl (hd.before i he (by rw [hphase]; exact le_rfl) (hsame ▸ hpos))
    · omega
    · exact .inr hmark
  · intro j hj h
    rw [hphase]
    exact (TablesLive.before_nextPort h).le

/-- A search finds a port with a live record; without one nothing that was found is given up. -/
theorem shared (o : Oracle) (hd : EbestTracks d) (hguard : SharedKept o d)
    (hphase : d.phase = .shared) : EbestTracks (Daemon.step rtOpts o d) := by
  obtain ⟨tics, extsrcLocked, heq⟩ := Daemon.step_shared rtOpts o hphase
  obtain ⟨hnumber, -, hsearched, hnot⟩ := sharedPortsLoop_clk d.ports tics extsrcLocked d.clk
  have hports := sharedPortsLoop_fst d.ports tics extsrcLocked d.clk
  have hkept := hguard hphase
  unfold TablesKept at hkept
  rw [heq]
  generalize sharedPortsLoop tics extsrcLocked d.ports d.clk = shared at *
  rw [hports]
  cases hany : anyRecordUpdate d.ports d.clk.numberPorts with
  | true =>
    obtain ⟨hebest, hbest⟩ := hsearched hany
    rw [if_pos ((anyRecordUpdate_iff _ _).mp hany)] at hkept
    -- The guard provides a live record, so the search does not run past the last port.
    have hlt := (ebestIndex_lt_iff d.ports d.clk.numberPorts).mpr hkept
    have hfound : ∀ e : ℕ, shared.2.Ebest = e →
        shared.2.bestForeign =
          (e, (updateErBests d.ports d.clk.numberPorts e).fm.foreignRecordBest) ∧
        e < d.clk.numberPorts := by
      intro e he
      rw [hebest] at he
      obtain rfl : _ = e := by exact_mod_cast he
      exact ⟨hbest, hlt⟩
    exact ⟨fun e he => hnumber ▸ (hfound e he).2, fun e he _ => .inl (hfound e he).1,
      fun e he _ _ => (hfound e he).1⟩
  -- Without a mark anywhere the record that was found stays where it is.
  | false =>
    obtain ⟨hebest, hbest⟩ := hnot hany
    have hnone := (anyRecordUpdate_eq_false_iff _ _).mp hany
    rw [updateErBests_of_not d.ports hnone]
    have hfound : ∀ e : ℕ, shared.2.Ebest = e → 0 < (d.ports e).fm.numberForeignRecords →
        shared.2.bestForeign = (e, (d.ports e).fm.foreignRecordBest) := by
      intro e he hpos
      rw [hebest] at he
      rw [hbest]
      rcases hd.found e he hpos with h | hmark
      · exact h
      · exact absurd hmark (by simp [hnone e (hd.lt e he)])
    exact ⟨fun e he => hnumber ▸ hd.lt e (hebest ▸ he), fun e he hpos => .inl (hfound e he hpos),
      fun e he _ => hfound e he⟩

/-- Every step of the daemon keeps the invariant when the shared step is guarded. -/
theorem step (o : Oracle) (hd : EbestTracks d) (hguard : SharedKept o d) :
    EbestTracks (Daemon.step rtOpts o d) := by
  cases hphase : d.phase with
  | link i => exact hd.link o hphase
  | decide i => exact hd.decide o hphase
  | act i => exact hd.act o hphase
  | shared => exact hd.shared o hguard hphase

end EbestTracks

/-- `EbestTracks` holds in every run whose shared steps are guarded. -/
theorem ebestTracks_of_guardedRun {rtOpts : RunTimeOpts} {d : Daemon}
    (h : GuardedRun (Daemon.Initial rtOpts) (Daemon.step rtOpts) SharedKept d) : EbestTracks d :=
  h.invariant (fun _ => EbestTracks.initial) fun o _ hd hguard => hd.step o hguard

section Shared

variable {rtOpts : RunTimeOpts} {d : Daemon} {o : Oracle}

/-- What the shared step writes, in the state that it leads to. -/
theorem step_shared_tables (rtOpts : RunTimeOpts) (o : Oracle) (hphase : d.phase = .shared) :
    let d' := Daemon.step rtOpts o d
    let updated := updateErBests d.ports d.clk.numberPorts
    let ebest := ebestIndex updated d.clk.numberPorts
    d'.ports = updated ∧ d'.phase = .link 0 ∧ d'.clk.numberPorts = d.clk.numberPorts ∧
      (anyRecordUpdate d.ports d.clk.numberPorts = true → d'.clk.Ebest = ebest) ∧
      (anyRecordUpdate d.ports d.clk.numberPorts = false → d'.clk.Ebest = d.clk.Ebest) := by
  obtain ⟨tics, extsrcLocked, heq⟩ := Daemon.step_shared rtOpts o hphase
  obtain ⟨hnumber, -, hsearched, hnot⟩ := sharedPortsLoop_clk d.ports tics extsrcLocked d.clk
  rw [heq]
  exact ⟨sharedPortsLoop_fst d.ports tics extsrcLocked d.clk, rfl, hnumber,
    fun hany => (hsearched hany).1, fun hany => (hnot hany).1⟩

/-- When `Ebest` is left at a live record, by a search that stayed in the range of the ports, the
tables were kept. -/
theorem tablesKept_of_ebestLive (hphase : d.phase = .shared)
    (hebest : EbestLive (Daemon.step rtOpts o d))
    (hindex : anyRecordUpdate d.ports d.clk.numberPorts = true →
      ebestIndex (updateErBests d.ports d.clk.numberPorts) d.clk.numberPorts <
        d.clk.numberPorts) : TablesKept d := by
  obtain ⟨hports, -, -, -, hnot⟩ := step_shared_tables rtOpts o hphase
  have hany := anyRecordUpdate_iff d.ports d.clk.numberPorts
  unfold TablesKept
  split
  next hmark => exact (ebestIndex_lt_iff _ _).mp (hindex (hany.mpr hmark))
  next hmark =>
    -- Without a search `Ebest` is what it was.
    have hsame := hnot (by simpa using mt hany.mp hmark)
    rcases hebest with ⟨hneg, -⟩ | ⟨e, -, he, hpos, -⟩
    · exact .inl (hsame ▸ hneg)
    · have he' : d.clk.Ebest = e := hsame ▸ he
      rw [hports, updateErBests_numberForeignRecords] at hpos
      refine .inr ?_
      rwa [he', Int.toNat_natCast]

/-- When the tables are kept, `Ebest` is left at a live record, or there is none. -/
theorem ebestLive_of_tablesKept
    (h : GuardedRun (Daemon.Initial rtOpts) (Daemon.step rtOpts) SharedKept d)
    (hphase : d.phase = .shared) (hkept : TablesKept d) :
    EbestLive (Daemon.step rtOpts o d) := by
  have hlive := tablesLive_of_reachable h.reachable
  have hlive' : TablesLive (Daemon.step rtOpts o d) := hlive.step o
  have htracks : EbestTracks (Daemon.step rtOpts o d) :=
    (ebestTracks_of_guardedRun h).step o fun _ => hkept
  obtain ⟨hports, hnext, hnumber, hsearched, hnot⟩ := step_shared_tables rtOpts o hphase
  have hany := anyRecordUpdate_iff d.ports d.clk.numberPorts
  have hfm (i : ℕ) : ((Daemon.step rtOpts o d).ports i).fm.numberForeignRecords =
      (d.ports i).fm.numberForeignRecords := by
    rw [hports, updateErBests_numberForeignRecords]
  generalize Daemon.step rtOpts o d = d' at *
  -- What `Ebest` designates is live, once it is known to be at a port with live records.
  have hright (e : ℕ) (he : d'.clk.Ebest = e) (hpos : 0 < (d.ports e).fm.numberForeignRecords) :
      EbestLive d' := by
    have hpos' := (hfm e).symm ▸ hpos
    have hbefore : d'.phase.Before e := hnext ▸ Nat.zero_le e
    exact .inr ⟨e, htracks.lt e he, he, hpos', hlive'.before e hbefore hpos',
      htracks.before e he hbefore hpos'⟩
  unfold TablesKept at hkept
  split at hkept
  next hmark =>
    have hlt := (ebestIndex_lt_iff _ _).mpr hkept
    exact hright _ (hsearched (hany.mpr hmark)) (ebestIndex_live _ hlt)
  next hmark =>
    have hsame := hnot (by simpa using mt hany.mp hmark)
    by_cases hneg : d.clk.Ebest < 0
    · refine .inl ⟨hsame.symm ▸ hneg, fun i hi => ?_⟩
      rw [hfm]
      by_contra hpos
      exact hmark ⟨i, hnumber ▸ hi, (hlive.unsearched hneg i (by omega)).1⟩
    · refine hright d.clk.Ebest.toNat (hsame.trans ?_) (hkept.resolve_left hneg)
      omega

end Shared

/-- In a run in which the tables were kept so far, the shared step leaves `Ebest` at a live record
exactly when they are kept this time; and then the search does not leave the range of the ports. -/
theorem ebestLive_iff (rtOpts : RunTimeOpts) {d : Daemon}
    (h : GuardedRun (Daemon.Initial rtOpts) (Daemon.step rtOpts) SharedKept d)
    (hphase : d.phase = .shared) (o : Oracle) :
    EbestLive (Daemon.step rtOpts o d) ∧
        (anyRecordUpdate d.ports d.clk.numberPorts = true →
          ebestIndex (updateErBests d.ports d.clk.numberPorts) d.clk.numberPorts <
            d.clk.numberPorts) ↔
      TablesKept d := by
  constructor
  · exact fun ⟨hebest, hindex⟩ => tablesKept_of_ebestLive hphase hebest hindex
  · refine fun hkept => ⟨ebestLive_of_tablesKept h hphase hkept, fun hany => ?_⟩
    unfold TablesKept at hkept
    rw [if_pos ((anyRecordUpdate_iff _ _).mp hany)] at hkept
    exact (ebestIndex_lt_iff _ _).mpr hkept

/-! ### The master a slave follows -/

/-- The comparison of the clock's own data set with a record. -/
def compareD0 (record : ForeignMasterRecord) (n : Node) : ℤ :=
  bmcDataSetComparison (copyD0 n).port.msgTmpHeader (copyD0 n).port.msgTmpAnnounce
    n.port.portIdentity.portNumber record.header record.announce record.receptionPortNumber n.port

/-- The decisions for `PTP_SLAVE` of a port without live records: those of a slave-only port, and
those of a port whose clock has a better master, when that master was heard on the port itself or by
a better path than the best record of the port. -/
def DeadSlave (bestForeign : ForeignMasterRecord) (n : Node) : Prop :=
  n.port.fm.numberForeignRecords = 0 ∧ ¬(n.clk.Ebest < 0 ∧ n.port.portState = .master) ∧
    (n.port.wr.wrConfig = .wrSOnly ∨
      n.port.wr.wrConfig ≠ .wrMOnly ∧ n.port.portState ≠ .listening ∧
        ¬n.clk.clockQuality.clockClass < 128 ∧ 0 < compareD0 bestForeign n ∧
        (bestForeign.receptionPortNumber = n.port.portIdentity.portNumber ∨
          compareRecords bestForeign n.port.erbest n.port = A_better_by_topology_then_B))

instance (bestForeign : ForeignMasterRecord) : DecidablePred (DeadSlave bestForeign) := fun n => by
  unfold DeadSlave
  infer_instance

/-- Without live records the algorithm recommends `PTP_SLAVE` in these decisions only. -/
theorem bmc_eq_slave_of_empty {bestForeign : ForeignMasterRecord} {n : Node}
    (h : n.port.fm.numberForeignRecords = 0) :
    (bmc bestForeign n).1 = .slave ↔ DeadSlave bestForeign n := by
  unfold DeadSlave
  rw [and_iff_right h]
  unfold bmc
  split
  next hmaster => simp [hmaster]
  next hmaster =>
    rw [and_iff_right hmaster]
    unfold bmcStateDecision
    split
    next honly => simp [honly]
    next honly =>
      rw [or_iff_right honly]
      split
      next hm => simp [hm]
      next hm =>
        rw [and_iff_right hm]
        split
        next hlistening => simp [hlistening.2]
        next hlistening =>
          have hstate : n.port.portState ≠ .listening := fun hs => hlistening ⟨h, hs⟩
          rw [and_iff_right hstate]
          have hD0 : bmcDataSetComparison (copyD0 n).port.msgTmpHeader
              (copyD0 n).port.msgTmpAnnounce (copyD0 n).port.portIdentity.portNumber
              bestForeign.header bestForeign.announce bestForeign.receptionPortNumber
              (copyD0 n).port = compareD0 bestForeign n := rfl
          have hclass : (copyD0 n).clk.clockQuality.clockClass =
              n.clk.clockQuality.clockClass := rfl
          have hnumber : (copyD0 n).port.portIdentity.portNumber =
              n.port.portIdentity.portNumber := rfl
          have hrecords : compareRecords bestForeign
              (n.port.fm.foreign n.port.fm.foreignRecordBest) (copyD0 n).port =
                compareRecords bestForeign n.port.erbest n.port := rfl
          dsimp only
          rw [hD0, hclass, hnumber, hrecords]
          split
          next hlow =>
            -- A clock of a low class never becomes a slave.
            split_ifs <;> simp [hlow]
          next hlow =>
            rw [and_iff_right hlow]
            split
            next hworse => simp [hworse.le.not_gt]
            next =>
              split
              next hbetter =>
                rw [and_iff_right hbetter]
                split
                next hport => simp [hport]
                next hport =>
                  rw [or_iff_right hport]
                  split
                  next htopology => simp [htopology]
                  next htopology => simp [htopology]
              next hbetter => simp [hbetter]

section Run

/-- A slave-only port is initialized and receives an Announce message, at a reading of the
millisecond counter. -/
def announceAt (tics : UInt64) : List Oracle :=
  let idle := Oracle.ready true .wrSlave .nothing 64 0
  let frame := announceFrame (Daemon.singleNode ![2, 0, 0, 0, 0, 2] .wrMaster)
  let hearing := Oracle.ready true .wrSlave
    (.frame ![0x01, 0x1b, 0x19, 0, 0, 0] frame ⟨0, 0, 0, 1⟩) 64 tics
  [idle, idle, hearing]

/-- The state of its clock before the shared step. -/
def announcedAt (tics : UInt64) : Daemon :=
  runInputs (Daemon.step (defaultRtOpts 1)) (Daemon.single ![2, 0, 0, 0, 0, 1]) (announceAt tics)

/-- The state of its clock when it decides in the next iteration. -/
def decidingAt (tics : UInt64) : Daemon :=
  let idle := Oracle.ready true .wrSlave .nothing 64 0
  runInputs (Daemon.step (defaultRtOpts 1)) (announcedAt tics) [idle, idle]

/-- The state before the shared step is reachable. -/
theorem announcedAt_reachable (tics : UInt64) :
    Daemon.Reachable (defaultRtOpts 1) (announcedAt tics) :=
  Daemon.single_reachable _ _

/-- The state of the decision is reachable. -/
theorem decidingAt_reachable (tics : UInt64) :
    Daemon.Reachable (defaultRtOpts 1) (decidingAt tics) :=
  Reachable.runInputs (announcedAt_reachable tics) _

set_option maxRecDepth 100000 in
/-- A message in time leads to a live record. -/
theorem ebestLive_iff_inTime :
    EbestLive (Daemon.step (defaultRtOpts 1) (Oracle.ready true .wrSlave .nothing 64 0)
      (announcedAt 0)) :=
  ((ebestLive_iff (defaultRtOpts 1)
    (.runInputs (.start (Daemon.single_initial _)) (announceAt 0) (by decide +kernel))
    (by decide +kernel) _).mpr (by decide +kernel)).1

set_option maxRecDepth 100000 in
/-- A message that arrives together with the time-out is forgotten, but searched for. -/
theorem announcedAt_late :
    (announcedAt 20000).phase = .shared ∧
      (Daemon.step (defaultRtOpts 1) (Oracle.ready true .wrSlave .nothing 64 0)
        (announcedAt 20000)).clk.Ebest = 1 ∧
      (Daemon.step (defaultRtOpts 1) (Oracle.ready true .wrSlave .nothing 64 0)
        (announcedAt 20000)).clk.numberPorts = 1 := by
  decide +kernel

/-- `Ebest` does not always designate a live record. -/
theorem ebestLive_fails :
    ¬∀ (rtOpts : RunTimeOpts) (d : Daemon), Daemon.Reachable rtOpts d → d.phase = .shared →
      ∀ o, EbestLive (Daemon.step rtOpts o d) := by
  intro h
  obtain ⟨hphase, hebest, hports⟩ := announcedAt_late
  rcases h _ _ (announcedAt_reachable 20000) hphase _ with ⟨hneg, -⟩ | ⟨e, he, heq, -⟩
  · rw [hebest] at hneg
    omega
  · rw [hebest] at heq
    rw [hports] at he
    omega

set_option maxRecDepth 100000 in
/-- After a message that arrives together with the time-out the clock decides for a slave with an
empty table. -/
theorem decidingAt_late :
    (decidingAt 20000).phase = .decide 0 ∧
      (bmc (decidingAt 20000).bestForeign (deciding ((decidingAt 20000).node 0
        (Oracle.ready true .wrSlave .nothing 64 0)))).1 = .slave ∧
      ((decidingAt 20000).ports 0).fm.numberForeignRecords = 0 := by
  decide +kernel

end Run

end WhiteRabbitPtp
