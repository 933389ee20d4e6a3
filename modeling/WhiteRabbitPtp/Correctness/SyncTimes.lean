import WhiteRabbitPtp.Correctness.Conduct

/-!
# The times that a master tells

A master sends a Sync and reads the time at which it left from the hardware. It tells it in a
FollowUp, which it packs with the number and the time that are stored in the port by then. Both are
those of the Sync that it has handed over just before, even when that one has failed and the port
with it.

## Main definitions

* `Tells`: a FollowUp has the time and the number of a Sync.
* `FollowsUp`: the FollowUps among some frames are those of the Syncs among them.

## Main result

* `followsUp_run`: in every run right after each Sync whose time is known comes its FollowUp, and
  there are no other FollowUps.
-/

namespace WhiteRabbitPtp

open Octets Buffer InputSystem

/-! ### FollowUps among frames -/

/-- A Sync whose time is known. -/
def AwaitsFollowUp (sending : List UInt8 × SendResult) : Prop :=
  sending.1 ≠ [] ∧ frameType sending.1 = SYNC ∧ sending.2.txTs.correct ≠ 0

/-- A FollowUp tells the time at which a Sync has left, under its number. When `ptpd_netif_sendto`
has returned `0` for the Sync, the number was not used up, and the FollowUp bears the one before. -/
structure Tells (sync : List UInt8 × SendResult) (followUp : List UInt8) : Prop where
  time : msgUnpackFollowUp (frameBuffer followUp) = sync.2.txTs.carried
  sequenceId : frameSequenceId followUp =
    if sync.2.ret = 0 then frameSequenceId sync.1 - 1 else frameSequenceId sync.1

/-- Right after each Sync whose time is known comes the FollowUp that tells it, and there are no
other FollowUps. -/
structure FollowsUp (sendings : List (List UInt8 × SendResult)) : Prop where
  head : ∀ first ∈ sendings.head?, frameType first.1 ≠ FOLLOW_UP
  last : ∀ last ∈ sendings.getLast?, ¬AwaitsFollowUp last
  chain : sendings.IsChain fun sync next =>
    (AwaitsFollowUp sync ↔ frameType next.1 = FOLLOW_UP) ∧ (AwaitsFollowUp sync → Tells sync next.1)

section Sendings

variable {results : ℕ → SendResult} {used : ℕ}

namespace FollowsUp

theorem nil : FollowsUp [] := ⟨by simp, by simp, .nil⟩

/-- Frames among which there are neither such Syncs nor FollowUps. -/
theorem of_forall_not {frames : List (List UInt8)}
    (h : ∀ frame ∈ frames, ∀ r, ¬AwaitsFollowUp (frame, r) ∧ frameType frame ≠ FOLLOW_UP) :
    FollowsUp (outcomes results used frames) := by
  have hnot {sending : List UInt8 × SendResult} (hmem : sending ∈ outcomes results used frames) :
      ¬AwaitsFollowUp sending ∧ frameType sending.1 ≠ FOLLOW_UP := by
    obtain ⟨indexed, hindexed, rfl⟩ := List.mem_map.mp hmem
    exact h _ (List.fst_mem_of_mem_zipIdx hindexed) _
  refine ⟨fun _ hfirst => (hnot (List.mem_of_mem_head? hfirst)).2,
    fun _ hlast => (hnot (List.mem_of_mem_getLast? hlast)).1, List.Pairwise.isChain ?_⟩
  exact List.pairwise_of_forall_mem_list fun _ hsync _ hnext =>
    ⟨iff_of_false (hnot hsync).1 (hnot hnext).2, fun hawaits => absurd hawaits (hnot hsync).1⟩

theorem single {frame : List UInt8} (hsync : ¬AwaitsFollowUp (frame, results used))
    (hfollowUp : frameType frame ≠ FOLLOW_UP) : FollowsUp (outcomes results used [frame]) := by
  refine ⟨fun first hfirst => ?_, fun last hlast => ?_, .singleton _⟩
  · obtain rfl : (frame, results used) = first := Option.some.inj hfirst
    exact hfollowUp
  · obtain rfl : (frame, results used) = last := Option.some.inj hlast
    exact hsync

/-- A Sync and its FollowUp. -/
theorem pair {sync followUp : List UInt8} (hsync : AwaitsFollowUp (sync, results used))
    (hfollowUp : frameType followUp = FOLLOW_UP) (h : Tells (sync, results used) followUp) :
    FollowsUp (outcomes results used [sync, followUp]) := by
  refine ⟨fun first hfirst => ?_, fun last hlast hawaits => ?_,
    List.isChain_pair.mpr ⟨iff_of_true hsync hfollowUp, fun _ => h⟩⟩
  · obtain rfl : (sync, results used) = first := Option.some.inj hfirst
    rw [hsync.2.1]
    decide
  · obtain rfl : (followUp, results (used + 1)) = last := Option.some.inj hlast
    rw [AwaitsFollowUp, hfollowUp] at hawaits
    exact absurd hawaits.2.1 (by decide)

/-- What ends with no such Sync goes together with what starts with no FollowUp. -/
theorem append {sendings sendings' : List (List UInt8 × SendResult)} (h : FollowsUp sendings)
    (h' : FollowsUp sendings') : FollowsUp (sendings ++ sendings') := by
  refine ⟨fun first hfirst => ?_, fun last hlast => ?_, h.chain.append h'.chain
    fun sync hsync next hnext => ⟨iff_of_false (h.last sync hsync) (h'.head next hnext),
      fun hawaits => absurd hawaits (h.last sync hsync)⟩⟩
  · rw [List.head?_append] at hfirst
    rcases Option.or_eq_some_iff.mp hfirst with hfirst | ⟨-, hfirst⟩
    · exact h.head first hfirst
    · exact h'.head first hfirst
  · rw [List.getLast?_append] at hlast
    rcases Option.or_eq_some_iff.mp hlast with hlast | ⟨-, hlast⟩
    · exact h'.last last hlast
    · exact h.last last hlast

end FollowsUp

end Sendings

/-! ### What a node hands over -/

/-- A node tells right times until it becomes another one. -/
structure TellsTimes (n n' : Node) : Prop where
  answers : n'.netif.oracle.answers = n.netif.oracle.answers
  sent : ∃ frames, n.HandsOver n' frames ∧
    FollowsUp (outcomes (n.netif.oracle.answers .sendto) (n.netif.oracle.used .sendto) frames)

section Handing

variable {rtOpts : RunTimeOpts} {n n' n'' : Node}

@[trans]
theorem TellsTimes.trans (h : TellsTimes n n') (h' : TellsTimes n' n'') : TellsTimes n n'' := by
  obtain ⟨hanswers, frames, ⟨hsent, hused⟩, htells⟩ := h
  obtain ⟨hanswers', frames', ⟨hsent', hused'⟩, htells'⟩ := h'
  refine ⟨hanswers'.trans hanswers, frames ++ frames', ⟨?_, ?_⟩, ?_⟩
  · rw [hsent', hsent, List.append_assoc]
  · rw [hused', hused, List.length_append, Nat.add_assoc]
  · rw [hanswers, hused] at htells'
    rw [outcomes_append]
    exact htells.append htells'

/-- The type of a frame that a receiver reads. -/
theorem Bears.frameType_mem {kinds : List UInt8} {identity : PortIdentity} {frame : List UInt8}
    (h : Bears kinds identity frame) (hcons : frame ≠ []) : frameType frame ∈ kinds := by
  unfold Bears at h
  rw [if_neg hcons] at h
  have htype : (msgUnpackHeader (frameBuffer frame)).messageType = frameType frame := by
    cases frame with
    | nil => exact absurd rfl hcons
    | cons octet rest => rfl
  exact htype ▸ h.1

/-- A node that sends messages of other types tells no time. -/
theorem Transmits.tellsTimes {kinds : List UInt8} (h : Transmits n n')
    (hsent : SendsOnly kinds n n') (hkinds : SYNC ∉ kinds ∧ FOLLOW_UP ∉ kinds) :
    TellsTimes n n' := by
  obtain ⟨hanswers, frames, ⟨hframes, hused⟩, -⟩ := h
  obtain ⟨frames', hframes', hbears⟩ := hsent
  obtain rfl := List.append_cancel_left (hframes.symm.trans hframes')
  refine ⟨hanswers, frames, ⟨hframes, hused⟩, .of_forall_not fun frame hframe _ =>
    ⟨fun ⟨hcons, htype, _⟩ => ?_, fun htype => ?_⟩⟩
  · exact hkinds.1 (htype ▸ (hbears frame hframe).frameType_mem hcons)
  · by_cases hnil : frame = []
    · subst hnil
      revert htype
      decide
    · exact hkinds.2 (htype ▸ (hbears frame hframe).frameType_mem hnil)

/-- A node that hands nothing over. -/
theorem Transmits.tellsTimes_of_eq (h : Transmits n n') (hsent : n'.netif.sent = n.netif.sent) :
    TellsTimes n n' :=
  h.tellsTimes (.of_eq hsent : SendsOnly [] n n') (by simp)

/-! ### A Sync and its FollowUp -/

theorem toFaulty_netif (rtOpts : RunTimeOpts) (n : Node) : (toFaulty rtOpts n).netif = n.netif := by
  have hleave : (leaveState rtOpts n).netif = n.netif := by
    unfold leaveState
    split
    case h_2 => cases rtOpts.E2E_mode <;> rfl
    all_goals rfl
  unfold toFaulty
  split
  · rfl
  · exact hleave

/-- What of a port goes into a FollowUp. -/
theorem toFaulty_sync (rtOpts : RunTimeOpts) (n : Node) :
    (toFaulty rtOpts n).port.synchTxTs = n.port.synchTxTs ∧
      (toFaulty rtOpts n).port.sentSyncSequenceId = n.port.sentSyncSequenceId := by
  have htime : (leaveState rtOpts n).port.synchTxTs = n.port.synchTxTs := by rw [leaveState_port]
  have hnumber : (leaveState rtOpts n).port.sentSyncSequenceId = n.port.sentSyncSequenceId := by
    rw [leaveState_port]
  unfold toFaulty
  split
  · exact ⟨rfl, rfl⟩
  · exact ⟨htime, hnumber⟩

/-- Issuing a message hands over one frame. -/
theorem issueMsg_handsOver {buf : Buffer} {length : ℕ}
    {record : SendResult → PtpPortDS → PtpPortDS} {sent : PtpPortDS → PtpPortDS} :
    (issueMsg rtOpts buf length record sent n).netif.oracle.answers = n.netif.oracle.answers ∧
      n.HandsOver (issueMsg rtOpts buf length record sent n) [buf.octets length] := by
  have hnetif : (issueMsg rtOpts buf length record sent n).netif =
      (({ n with port.msgObuf := buf } : Node).sendto length).netif := by
    unfold issueMsg
    dsimp only
    split
    · exact toFaulty_netif _ _
    · rfl
  unfold Node.HandsOver
  rw [hnetif]
  exact ⟨rfl, rfl, rfl⟩

/-- A Sync leaves its time behind, and uses up its number when it was sent. -/
theorem issueSync_sync (rtOpts : RunTimeOpts) (n : Node) :
    let r : SendResult := n.answer .sendto
    (issueSync rtOpts n).port.synchTxTs = r.txTs ∧
      (issueSync rtOpts n).port.sentSyncSequenceId =
        if r.ret = 0 then n.port.sentSyncSequenceId else n.port.sentSyncSequenceId + 1 := by
  intro r
  have hr : ({ n with port.msgObuf := msgPackSync n.port.msgObuf .zero n.port } : Node).answer
      .sendto = r := rfl
  unfold issueSync issueMsg
  dsimp only
  rw [hr]
  split
  · exact ⟨(toFaulty_sync _ _).1, (toFaulty_sync _ _).2⟩
  · exact ⟨rfl, rfl⟩

/-- A FollowUp carries the time that the port has noted. -/
theorem followUp_time (buf : Buffer) (port : PtpPortDS) :
    msgUnpackFollowUp (frameBuffer ((msgPackFollowUp buf port).octets FOLLOW_UP_LENGTH)) =
      port.synchTxTs.carried := by
  have hread : getTimestamp (frameBuffer ((msgPackFollowUp buf port).octets FOLLOW_UP_LENGTH)) 34 =
      getTimestamp (msgPackFollowUp buf port) 34 := by
    refine getTimestamp_congr fun i _ hi => ?_
    exact load_octets_apply _ _ _ _ (by unfold FOLLOW_UP_LENGTH; omega)
  exact hread.trans (getTimestamp_putWrTimestamp _ _ _)

/-- The frame of the Sync that a node sends. -/
def syncFrame (n : Node) : List UInt8 :=
  (msgPackSync n.port.msgObuf .zero n.port).octets SYNC_LENGTH

/-- The frame of the FollowUp that a node sends. -/
def followUpFrame (n : Node) : List UInt8 :=
  (msgPackFollowUp n.port.msgObuf n.port).octets FOLLOW_UP_LENGTH

theorem syncFrame_ne_nil (n : Node) : syncFrame n ≠ [] :=
  List.ne_nil_of_length_pos (by rw [syncFrame, Buffer.length_octets]; decide)

theorem syncFrame_reads (n : Node) : frameType (syncFrame n) = SYNC ∧
    frameSequenceId (syncFrame n) = n.port.sentSyncSequenceId :=
  (PtpMessage.sync .zero).frame_reads n.clk n.port n.port.msgObuf

theorem followUpFrame_reads (n : Node) : frameType (followUpFrame n) = FOLLOW_UP ∧
    frameSequenceId (followUpFrame n) = n.port.sentSyncSequenceId - 1 :=
  PtpMessage.followUp.frame_reads n.clk n.port n.port.msgObuf

theorem issueSync_handsOver (rtOpts : RunTimeOpts) (n : Node) :
    (issueSync rtOpts n).netif.oracle.answers = n.netif.oracle.answers ∧
      n.HandsOver (issueSync rtOpts n) [syncFrame n] := issueMsg_handsOver

theorem issueFollowup_handsOver (rtOpts : RunTimeOpts) (n : Node) :
    (issueFollowup rtOpts n).netif.oracle.answers = n.netif.oracle.answers ∧
      n.HandsOver (issueFollowup rtOpts n) [followUpFrame n] := issueMsg_handsOver

/-- A Sync whose time is unknown is followed by nothing. -/
theorem issueSync_tellsTimes (rtOpts : RunTimeOpts) (n : Node)
    (hcorrect : (issueSync rtOpts n).port.synchTxTs.correct = 0) :
    TellsTimes n (issueSync rtOpts n) := by
  obtain ⟨hanswers, hsync⟩ := issueSync_handsOver rtOpts n
  refine ⟨hanswers, [syncFrame n], hsync, .single (fun hawaits => hawaits.2.2 ?_) ?_⟩
  · rw [(issueSync_sync rtOpts n).1] at hcorrect
    exact hcorrect
  · rw [(syncFrame_reads n).1]
    decide

/-- The FollowUp that is issued after a Sync tells its time. -/
theorem issueFollowup_tellsTimes (rtOpts : RunTimeOpts) (n : Node)
    (hcorrect : (issueSync rtOpts n).port.synchTxTs.correct ≠ 0) :
    TellsTimes n (issueFollowup rtOpts (issueSync rtOpts n)) := by
  obtain ⟨htime, hnumber⟩ := issueSync_sync rtOpts n
  obtain ⟨hanswers, hsent, hused⟩ := issueSync_handsOver rtOpts n
  generalize issueSync rtOpts n = m at *
  obtain ⟨hanswers', hsent', hused'⟩ := issueFollowup_handsOver rtOpts m
  generalize issueFollowup rtOpts m = m' at *
  obtain ⟨htype, hid⟩ := syncFrame_reads n
  obtain ⟨htype', hid'⟩ := followUpFrame_reads m
  refine ⟨hanswers'.trans hanswers, [syncFrame n, followUpFrame m], ⟨?_, ?_⟩,
    .pair ⟨syncFrame_ne_nil n, htype, ?_⟩ htype' ⟨?_, ?_⟩⟩
  · rw [hsent', hsent, List.append_assoc]
    rfl
  · rw [hused', hused]
    rfl
  · rw [htime] at hcorrect
    exact hcorrect
  · rw [followUpFrame, followUp_time, htime]
    rfl
  · -- The number was moved on by a Sync that was sent, and is taken back for the FollowUp.
    rw [hid', hnumber, hid]
    change (if (n.answer .sendto : SendResult).ret = 0 then _ else _) - 1 =
      if (n.answer .sendto : SendResult).ret = 0 then _ else _
    split
    · rfl
    · exact UInt16.add_sub_cancel _ _

/-! ### The actions of a state -/

theorem timerPolled_tellsTimes (n : Node) (t : PtpTimer) : TellsTimes n (n.timerPolled t) :=
  have hpolled : Transmits n (n.timerPolled t) := .of_eq rfl rfl rfl rfl rfl rfl
  hpolled.tellsTimes_of_eq rfl

theorem onTimer_tellsTimes (t : PtpTimer) {action : Node → Node} (hn : Headed n.port)
    (haction : ∀ m, Headed m.port → TellsTimes m (action m)) :
    TellsTimes n (onTimer t action n) := by
  unfold onTimer
  split
  · exact (timerPolled_tellsTimes n t).trans (haction _ ⟨hn.version, hn.source⟩)
  · exact timerPolled_tellsTimes n t

/-- Issuing a message of another type. -/
theorem Issue.run_tellsTimes (rtOpts : RunTimeOpts) (message : Issue)
    (hmessage : SYNC ≠ message.type ∧ FOLLOW_UP ≠ message.type) (hn : Headed n.port) :
    TellsTimes n (message.run rtOpts n) :=
  have hissue := message.run_handles rtOpts n (List.mem_singleton_self _)
  (message.run_transmits rtOpts n).tellsTimes (hissue.sent hn) (by simpa using hmessage)

/-- A master sends its FollowUps by the timer of its Syncs. -/
theorem masterTimers_tellsTimes (hn : Headed n.port) : TellsTimes n (masterTimers rtOpts n) := by
  have hsyncs (m : Node) : TellsTimes m (if (issueSync rtOpts m).port.synchTxTs.correct ≠ 0 then
      issueFollowup rtOpts (issueSync rtOpts m) else issueSync rtOpts m) := by
    split
    next hcorrect => exact issueFollowup_tellsTimes rtOpts m hcorrect
    next hcorrect => exact issueSync_tellsTimes rtOpts m (not_not.mp hcorrect)
  have hannounces (m : Node) (hm : Headed m.port) : TellsTimes m (issueAnnounce rtOpts m) :=
    Issue.run_tellsTimes rtOpts .announce (by decide) hm
  have hrequests (m : Node) (hm : Headed m.port) : TellsTimes m (issuePDelayReq rtOpts m) :=
    Issue.run_tellsTimes rtOpts .pdelayReq (by decide) hm
  have hsync := onTimer_tellsTimes .sync hn fun m _ => hsyncs m
  have hheaded := (onTimer_handles (t := .sync) (issueSyncs_handles rtOpts) n).headed hn
  have hannounce := onTimer_tellsTimes .announceInterval hheaded hannounces
  have hheaded' := (onTimer_handles (t := .announceInterval)
    (fun m => Issue.run_handles rtOpts m .announce (List.mem_singleton_self _)) _).headed hheaded
  unfold masterTimers
  dsimp only
  split
  · exact (hsync.trans hannounce).trans (onTimer_tellsTimes .pdelayReq hheaded' hrequests)
  · exact hsync.trans hannounce

/-- A master answers others with neither of the two. -/
theorem PtpState.notMem_answers (e2e : Bool) :
    SYNC ∉ PtpState.answers e2e .master ∧ FOLLOW_UP ∉ PtpState.answers e2e .master := by
  cases e2e <;> decide

/-- A master whose White Rabbit state machine is idle. -/
theorem doMasterActions_tellsTimes (hstate : n.port.portState = .master) (hn : Headed n.port)
    (htimed : Timed rtOpts n.port) : TellsTimes n (doMasterActions rtOpts n) := by
  have hhandle := handle_answers rtOpts (n := n) fun h => by rw [hstate] at h; cases h
  rw [hstate] at hhandle
  have hanswers := (handle_transmits rtOpts n).tellsTimes (hhandle.sent hn)
    (PtpState.notMem_answers _)
  obtain ⟨hkinds, hrequest⟩ := PtpState.timed_subset_sends rtOpts.E2E_mode
  have hmaster := (hhandle.mono (PtpState.answers_subset_sends _ .master)).trans
    (masterTimers_handles rtOpts (handle rtOpts n) hkinds hrequest)
  have htimers : TellsTimes n (masterTimers rtOpts (handle rtOpts n)) :=
    hanswers.trans (masterTimers_tellsTimes (hhandle.headed hn))
  rw [doMasterActions_eq]
  dsimp only
  split
  · refine htimers.trans ?_
    have hsends (m : Node) : Sends rtOpts [] m (toState .listening rtOpts m) :=
      toState_sends_of_ne (by decide) (by decide)
    exact (toState_transmits rtOpts _ .listening).tellsTimes
      ((hsends _).sent (hmaster.headed hn) (hmaster.timed htimed)) (by simp)
  · exact htimers

/-- The actions of a port tell right times. -/
theorem doStateActions_tellsTimes (hn : Headed n.port) (htimed : Timed rtOpts n.port) :
    TellsTimes n (doStateActions rtOpts n) := by
  by_cases hstate : n.port.portState = .master
  · have hnot : n.port.portState = .uncalibrated → n.port.wr.wrMode ≠ .nonWr :=
      fun h => by rw [hstate] at h; cases h
    have hcleared (m : Node) : Transmits m { m with port.wr.msgTmpWrMessageID := NULL_WR_TLV } :=
      .of_eq rfl rfl rfl rfl rfl rfl
    unfold doStateActions
    rw [hstate]
    dsimp only
    split
    · refine .trans ?_ ((hcleared _).tellsTimes_of_eq rfl)
      -- The link set-up sends Signaling messages and answers.
      have hsends : Sends rtOpts (PtpState.answers rtOpts.E2E_mode .master) n _ :=
        doWRState_sends List.mem_cons_self (by rw [hstate]; exact List.Subset.refl _) hnot
      exact (doWRState_transmits rtOpts n).tellsTimes (hsends.sent hn htimed)
        (PtpState.notMem_answers _)
    · exact doMasterActions_tellsTimes hstate hn htimed
  · refine (doStateActions_transmits rtOpts n).tellsTimes
      ((doStateActions_sends rtOpts n).sent hn htimed) ?_
    cases hother : n.port.portState <;> cases rtOpts.E2E_mode <;> first | decide | contradiction

end Handing

/-! ### Runs -/

namespace Daemon

variable {rtOpts : RunTimeOpts} {d : Daemon}

/-- A step of one port hands over what that port sends. -/
theorem store_followsUp (o : Oracle) {i j : ℕ} {n : Node} (h : TellsTimes (d.node j o) n)
    (phase : Phase) : ∃ frames, (d.store j n phase).sent i = d.sent i ++ frames ∧
      FollowsUp (outcomes (o.answers .sendto) (o.used .sendto) frames) := by
  by_cases hij : i = j
  · subst hij
    obtain ⟨-, frames, ⟨hsent, -⟩, hfollows⟩ := h
    refine ⟨frames, ?_, hfollows⟩
    rw [store_sent_self]
    exact hsent
  · exact ⟨[], by simp [store, hij], .nil⟩

/-- In every step from a reachable state a port tells right times. -/
theorem step_followsUp (h : Reachable rtOpts d) (o : Oracle) (i : ℕ) :
    ∃ frames, (step rtOpts o d).sent i = d.sent i ++ frames ∧
      FollowsUp (outcomes (o.answers .sendto) (o.used .sendto) frames) := by
  have hprepared := Reachable.prepared h
  cases hphase : d.phase with
  | link j =>
    obtain ⟨phase, heq, -⟩ := step_link rtOpts o hphase
    have hsent : (linked rtOpts (d.node j o)).netif.sent = (d.node j o).netif.sent :=
      (linked_cases rtOpts (d.node j o)).elim Reinitialized.sent LinkKept.sent
    rw [heq]
    exact store_followsUp o ((linked_transmits rtOpts _).tellsTimes_of_eq hsent) _
  | decide j =>
    obtain ⟨htimed, hheaded⟩ := h.conduct j (hprepared.deciding j (.inl hphase))
    have hsends : Sends rtOpts [SIGNALING] (d.node j o) _ :=
      stateDecision_sends rtOpts d.bestForeign fun _ => List.mem_singleton_self _
    rw [step_decide rtOpts o hphase]
    exact store_followsUp o ((stateDecision_transmits rtOpts _ _).tellsTimes
      (hsends.sent hheaded htimed) (by decide)) _
  | act j =>
    obtain ⟨htimed, hheaded⟩ := h.conduct j (hprepared.deciding j (.inr hphase))
    rw [step_act rtOpts o hphase]
    exact store_followsUp o (doStateActions_tellsTimes (n := d.node j o) hheaded htimed) _
  | shared =>
    obtain ⟨tics, extsrcLocked, heq⟩ := step_shared rtOpts o hphase
    rw [heq]
    exact ⟨[], by simp, .nil⟩

end Daemon

/-- In every run from a reachable state, right after each Sync whose time is known a port hands over
the FollowUp that tells this time, and it hands over no other FollowUps. -/
theorem followsUp_run {rtOpts : RunTimeOpts} {d : Daemon} (h : Daemon.Reachable rtOpts d) (i : ℕ)
    (os : List Oracle) : FollowsUp (Daemon.sendings rtOpts i d os) := by
  induction os generalizing d with
  | nil => exact .nil
  | cons o os ih =>
    obtain ⟨frames, hsent, hfollows⟩ := Daemon.step_followsUp h o i
    have hframes : ((Daemon.step rtOpts o d).sent i).drop (d.sent i).length = frames := by
      rw [hsent, List.drop_left]
    rw [Daemon.sendings, hframes]
    exact hfollows.append (ih (h.step o trivial))

/-- The environments of a master for two iterations: the interval of its Syncs has elapsed before
the second one. -/
def syncRun : List Oracle :=
  List.replicate 4 (Oracle.ready true .wrMaster .nothing 64 0) ++
    List.replicate 3 (Oracle.ready true .wrMaster .nothing 64 1000)

set_option maxRecDepth 100000 in
/-- A Sync and its FollowUp are what this master sends. -/
theorem followsUp_run_syncRun :
    (Daemon.sendings (defaultRtOpts 1) 0 (.single ![2, 0, 0, 0, 0, 1]) syncRun).map
        (fun sending => frameType sending.1) = [SYNC, FOLLOW_UP] ∧
      FollowsUp (Daemon.sendings (defaultRtOpts 1) 0 (.single ![2, 0, 0, 0, 0, 1]) syncRun) :=
  ⟨by decide +kernel, followsUp_run (.start (Daemon.single_initial _)) 0 syncRun⟩

end WhiteRabbitPtp
