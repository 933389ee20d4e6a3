import WhiteRabbitPtp.Correctness.ForeignRecords
import WhiteRabbitPtp.Correctness.Triggers

/-!
# The senders of the foreign-master records

A record of the foreign-master table has the identity of its master and the header of the last
Announce message stored in it. Of all that a port does only an Announce message of a new sender
changes whose records are in the table. An Announce message of the parent is stored in the best
record without a look at its identity, so it keeps the senders only while that is the parent's.

## Main definitions

* `SameSenders`: the records are of the same senders, and so are the headers in them.
* `OwnHeaders`: each record has a header of its own master.
* `AtParent`: the best record is live and that of the parent.
* `NewSender`: the frame that is received next is an Announce message that gets a new record.

## Main results

* `handle_senders`: what handling a frame does to the senders.
* `doStateActions_of_uncalibrated`, `doStateActions_of_slave`, `doStateActions_of_other`: what the
  actions of a port do to them.
-/

namespace WhiteRabbitPtp

open Octets

/-! ### The relations -/

/-- The records of two tables are of the same senders. -/
structure SameSenders (fm fm' : ForeignMasterDS) : Prop where
  best : fm'.foreignRecordBest = fm.foreignRecordBest
  number : fm'.numberForeignRecords = fm.numberForeignRecords
  identity : ∀ k, (fm'.foreign k).foreignMasterPortIdentity =
    (fm.foreign k).foreignMasterPortIdentity
  source : ∀ k, (fm'.foreign k).header.sourcePortIdentity =
    (fm.foreign k).header.sourcePortIdentity

/-- Each record has a header that its own master sent. -/
def OwnHeaders (fm : ForeignMasterDS) : Prop :=
  ∀ k, (fm.foreign k).foreignMasterPortIdentity = (fm.foreign k).header.sourcePortIdentity

/-- The best record is live and that of the parent. -/
def AtParent (fm : ForeignMasterDS) (parent : PortIdentity) : Prop :=
  IsRecordOf fm parent fm.foreignRecordBest

/-- The record at the cursor was given to a new sender, and the table is marked. -/
structure Replaced (fm fm' : ForeignMasterDS) : Prop where
  best : fm'.foreignRecordBest = fm.foreignRecordBest
  number_le : fm.numberForeignRecords ≤ fm'.numberForeignRecords
  kept : ∀ k ≠ fm.foreignRecordI, fm'.foreign k = fm.foreign k
  own : (fm'.foreign fm.foreignRecordI).foreignMasterPortIdentity =
    (fm'.foreign fm.foreignRecordI).header.sourcePortIdentity
  marked : fm'.recordUpdate = true

section Relations

variable {fm fm' fm'' : ForeignMasterDS} {parent : PortIdentity}

namespace SameSenders

@[refl]
theorem refl (fm : ForeignMasterDS) : SameSenders fm fm := ⟨rfl, rfl, fun _ => rfl, fun _ => rfl⟩

theorem of_eq (h : fm' = fm) : SameSenders fm fm' := by rw [h]

@[trans]
theorem trans (h : SameSenders fm fm') (h' : SameSenders fm' fm'') : SameSenders fm fm'' where
  best := h'.best.trans h.best
  number := h'.number.trans h.number
  identity k := (h'.identity k).trans (h.identity k)
  source k := (h'.source k).trans (h.source k)

theorem ownHeaders (h : SameSenders fm fm') (hfm : OwnHeaders fm) : OwnHeaders fm' := by
  intro k
  rw [h.identity, h.source]
  exact hfm k

theorem atParent (h : SameSenders fm fm') (hfm : AtParent fm parent) : AtParent fm' parent := by
  refine ⟨?_, ?_⟩
  · rw [h.best, h.number]
    exact hfm.1
  · rw [h.best, h.identity]
    exact hfm.2

/-- A record is overwritten by one with the same senders. -/
theorem update {k : ℕ} {record : ForeignMasterRecord}
    (hidentity : record.foreignMasterPortIdentity = (fm.foreign k).foreignMasterPortIdentity)
    (hsource : record.header.sourcePortIdentity = (fm.foreign k).header.sourcePortIdentity) :
    SameSenders fm { fm with foreign := Function.update fm.foreign k record } := by
  refine ⟨rfl, rfl, fun j => ?_, fun j => ?_⟩ <;> dsimp only <;> by_cases hj : j = k
  · rw [hj, Function.update_self, hidentity]
  · rw [Function.update_of_ne hj]
  · rw [hj, Function.update_self, hsource]
  · rw [Function.update_of_ne hj]

end SameSenders

theorem Replaced.ownHeaders (h : Replaced fm fm') (hfm : OwnHeaders fm) : OwnHeaders fm' := by
  intro k
  by_cases hk : k = fm.foreignRecordI
  · rw [hk]
    exact h.own
  · rw [h.kept k hk]
    exact hfm k

/-- The parent's record stays when it is not the one at the cursor. -/
theorem Replaced.atParent (h : Replaced fm fm') (hi : fm.foreignRecordI ≠ fm.foreignRecordBest)
    (hfm : AtParent fm parent) : AtParent fm' parent := by
  -- The number of records may grow, never shrink.
  refine ⟨?_, ?_⟩
  · rw [h.best]
    exact lt_of_lt_of_le hfm.1 h.number_le
  · rw [h.best, h.kept _ hi.symm]
    exact hfm.2

/-- The search for the parent's record starts there. -/
theorem AtParent.findForeign (h : AtParent fm parent) :
    findForeign fm parent fm.numberForeignRecords fm.foreignRecordBest =
      some fm.foreignRecordBest := by
  obtain ⟨hlt, hidentity⟩ := h
  obtain ⟨rounds, hrounds⟩ := Nat.exists_eq_add_of_lt hlt
  rw [hrounds, WhiteRabbitPtp.findForeign, if_pos hidentity.symm]

end Relations

/-! ### The effects of the handlers -/

/-- Sending a message touches what `record` and `sent` touch. -/
theorem issueMsg_fm {rtOpts : RunTimeOpts} {n : Node} {buf : Buffer} {length : ℕ}
    {record : SendResult → PtpPortDS → PtpPortDS} {sent : PtpPortDS → PtpPortDS}
    (hrecord : ∀ r port, (record r port).fm = port.fm)
    (hsent : ∀ port, (sent port).fm = port.fm) :
    (issueMsg rtOpts buf length record sent n).port.fm = n.port.fm := by
  unfold issueMsg
  dsimp only
  split
  · rw [toFaulty_fm]
    exact hrecord _ _
  · exact (hsent _).trans (hrecord _ _)

section Effects

variable {rtOpts : RunTimeOpts} {p : Footprint} {n n' : Node}

theorem Effect.fm (h : Effect rtOpts p n n') : n'.port.fm = n.port.fm := by
  cases h with
  | stores h => exact h.fm
  | toFaulty => exact toFaulty_fm _ _
  | restartAnnounceReceipt | timerPolled => rfl
  | issue message => cases message <;> exact issueMsg_fm (fun _ _ => rfl) fun _ => rfl

/-- The handlers of all messages but the Announce leave the foreign masters alone. -/
theorem Handled.fm (h : Handled rtOpts p n n') : n'.port.fm = n.port.fm :=
  h.of_effect (R := fun n n' => n'.port.fm = n.port.fm) (fun _ => rfl)
    (fun hfm hfm' => hfm'.trans hfm) Effect.fm

end Effects

/-! ### The White Rabbit state machine -/

section WrStates

variable {rtOpts : RunTimeOpts} {n k : Node}

/-- The senders of the records of a node are those of another one. -/
abbrev Node.SameSenders (n n' : Node) : Prop := WhiteRabbitPtp.SameSenders n.port.fm n'.port.fm

theorem initWrData_fm (mode : InitMode) (n : Node) : (initWrData mode n).port.fm = n.port.fm := by
  cases mode <;> rfl

/-- Marking the parent's record leaves its sender as it was. -/
theorem WrEffect.senders {n n' : Node} (h : WrEffect rtOpts n n') : n.SameSenders n' := by
  cases h with
  | stores h =>
    obtain ⟨flags, hfm⟩ := h.fm
    unfold Node.SameSenders
    rw [hfm]
    exact .update rfl rfl
  | issue id => exact .of_eq (issueWRSignalingMsg_fm _ _ id)

theorem toWRState_senders (rtOpts : RunTimeOpts) (n : Node) (s : WrState) :
    n.SameSenders (toWRState s rtOpts n) :=
  (toWRState_entered rtOpts n s).of_effect (R := Node.SameSenders) (fun _ => .refl _) .trans
    WrEffect.senders

theorem doWrLinkOn_senders (n : Node) : n.SameSenders (doWrLinkOn rtOpts n) := by
  refine (toWRState_senders rtOpts n .idle).trans ?_
  unfold doWrLinkOn
  dsimp only
  split
  · exact .of_eq (toState_fm _ _ _)
  · exact .of_eq (toState_fm _ _ _)
  · rfl

/-- A silent move concerns the White Rabbit state machine only. -/
theorem SilentMove.senders (h : SilentMove n n') : n.SameSenders n' := by
  cases h <;> exact .of_eq rfl

theorem WrEnd.senders (h : WrEnd rtOpts n n') : n.SameSenders n' := by
  cases h with
  | stay => rfl
  | enter => exact toWRState_senders _ _ _
  | lock => exact toWRState_senders rtOpts n .sLock
  | calibrated =>
    exact .trans (.of_eq (issueWRSignalingMsg_fm rtOpts n CALIBRATED))
      (toWRState_senders rtOpts (issueWRSignalingMsg CALIBRATED rtOpts n) .calibrated)
  | linkOn => exact doWrLinkOn_senders n

theorem SilentRun.senders (h : SilentRun rtOpts n n') : n.SameSenders n' :=
  h.induction (P := n.SameSenders) (fun _ _ hm hmove => hm.trans hmove.senders)
    (fun _ _ hm hend => hm.trans hend.senders) (.refl _)

/-- The actions of a White Rabbit state that receives no frame keep the senders. -/
theorem wrStateActions_of_silent (h : wrHearing n = none) :
    n.SameSenders (wrStateActions rtOpts n) := by
  have hrun : SilentRun rtOpts n (wrStateActions rtOpts n) := wrStateActions_silentRun h
  exact hrun.senders

/-- The actions of a White Rabbit state that receives a frame keep the senders once it is handled.
-/
theorem wrStateActions_of_hearing (h : wrHearing n = some k) :
    (handle rtOpts k).SameSenders (wrStateActions rtOpts n) := by
  have hrun : SilentRun rtOpts (handle rtOpts k) (wrStateActions rtOpts n) :=
    wrStateActions_hearingRun h
  exact hrun.senders

/-- Giving the link set-up up keeps the senders, and so does repeating a main state. -/
theorem wrTimerExpired_senders (n : Node) (s : WrState) (wrMode : WrMode) :
    n.SameSenders (wrTimerExpired s rtOpts wrMode n) := by
  have hpolled : n.SameSenders (wrTimerPolled s n) := .of_eq rfl
  have habandon (m : Node) : m.SameSenders (abandon rtOpts wrMode m) := by
    have hoff : m.SameSenders { m with port.wr.wrModeON := false } := .of_eq rfl
    unfold abandon
    refine (hoff.trans (toWRState_senders rtOpts _ .idle)).trans (.of_eq ?_)
    rw [initWrData_fm, toState_fm]
  -- The time-out is ignored, repeats the main state, or gives the set-up up.
  rcases wrTimerExpired_cases rtOpts n s wrMode with ⟨-, h⟩ | ⟨-, h | h | h⟩ <;> rw [h]
  · exact hpolled
  · exact hpolled.trans (toWRState_senders _ _ _)
  · exact hpolled.trans (habandon _)

/-- A call of the White Rabbit state machine keeps the senders, but for a frame that is handled in
it. -/
theorem doWRState_senders (rtOpts : RunTimeOpts) (n : Node) :
    wrHearing n = none ∧ n.SameSenders (doWRState rtOpts n) ∨
      ∃ k, wrHearing n = some k ∧ (handle rtOpts k).SameSenders (doWRState rtOpts n) := by
  cases h : wrHearing n with
  | none => exact .inl ⟨rfl, (wrStateActions_of_silent h).trans (wrTimerExpired_senders _ _ _)⟩
  | some k =>
    exact .inr ⟨k, rfl, (wrStateActions_of_hearing h).trans (wrTimerExpired_senders _ _ _)⟩

end WrStates

/-! ### Handling a frame -/

/-- The frame that is received next is an Announce message of another port that is long enough. -/
def HearsAnnounce (n : Node) : Prop :=
  ANNOUNCE_LENGTH ≤ (netRecvMsg n).1 ∧
    (received n).port.msgTmpHeader.versionPTP = n.port.versionNumber ∧
    (received n).port.msgTmpHeader.domainNumber = n.clk.domainNumber ∧
    (received n).port.msgTmpHeader.messageType = ANNOUNCE ∧
    n.port.portIdentity ≠ (received n).port.msgTmpHeader.sourcePortIdentity

instance : DecidablePred HearsAnnounce := fun n => by
  unfold HearsAnnounce
  infer_instance

/-- The frame that is received next is an Announce message of a sender without a record. -/
def NewSender (n : Node) : Prop :=
  HearsAnnounce n ∧
    findForeign n.port.fm (received n).port.msgTmpHeader.sourcePortIdentity
      n.port.fm.numberForeignRecords n.port.fm.foreignRecordBest = none

instance : DecidablePred NewSender := fun n => by
  unfold NewSender
  infer_instance

/-- The message that is dispatched is an Announce message of another port, whose sender has no
record. -/
structure AnnouncesNew (length : ℕ) (n : Node) : Prop where
  length_le : ANNOUNCE_LENGTH ≤ length
  version : n.port.msgTmpHeader.versionPTP = n.port.versionNumber
  domain : n.port.msgTmpHeader.domainNumber = n.clk.domainNumber
  type : n.port.msgTmpHeader.messageType = ANNOUNCE
  other : n.port.portIdentity ≠ n.port.msgTmpHeader.sourcePortIdentity
  unknown : findForeign n.port.fm n.port.msgTmpHeader.sourcePortIdentity
    n.port.fm.numberForeignRecords n.port.fm.foreignRecordBest = none

/-- A port in this state follows the parent, or is about to. -/
def PtpState.follows : PtpState → Bool
  | slave | uncalibrated => true
  | _ => false

section Handling

variable {rtOpts : RunTimeOpts} {n : Node} {header : MsgHeader}

/-- A record that is found belongs to the sender, be it live or not. -/
theorem findForeign_identity {fm : ForeignMasterDS} {identity : PortIdentity} {rounds j k : ℕ}
    (h : findForeign fm identity rounds j = some k) :
    (fm.foreign k).foreignMasterPortIdentity = identity := by
  -- Each round looks at one record and either stops there or goes on.
  induction rounds generalizing j with
  | zero => cases h
  | succ rounds ih =>
    rw [findForeign] at h
    split at h
    next hid =>
      cases h
      exact hid.symm
    next => exact ih h

/-- Storing an Announce message with the header that is in the input buffer. -/
theorem addForeign_senders {port : PtpPortDS} (hown : OwnHeaders port.fm)
    (hheader : header = msgUnpackHeader port.msgIbuf) :
    SameSenders port.fm { (addForeign header port).fm with recordUpdate := true } ∨
      findForeign port.fm header.sourcePortIdentity port.fm.numberForeignRecords
          port.fm.foreignRecordBest = none ∧
        Replaced port.fm { (addForeign header port).fm with recordUpdate := true } := by
  cases hfind : findForeign port.fm header.sourcePortIdentity port.fm.numberForeignRecords
      port.fm.foreignRecordBest with
  | some k =>
    obtain ⟨record, hidentity, hdecodes, heq⟩ := addForeign_known port.fm header port hfind
    left
    rw [show (addForeign header port).fm = _ from heq]
    have hsame : SameSenders port.fm { port.fm with
        foreign := Function.update port.fm.foreign k record } := by
      refine .update hidentity ?_
      -- The new header is the sender's, and so was the old one.
      rw [hdecodes.header, ← hown k, findForeign_identity hfind, hheader]
    exact ⟨hsame.best, hsame.number, hsame.identity, hsame.source⟩
  | none =>
    obtain ⟨record, hidentity, hdecodes, heq⟩ := addForeign_new port.fm header port hfind
    right
    refine ⟨rfl, ?_⟩
    rw [show (addForeign header port).fm = _ from heq]
    refine ⟨rfl, ?_, fun k hk => Function.update_of_ne hk _ _, ?_, rfl⟩
    · dsimp only
      split <;> omega
    · dsimp only
      rw [Function.update_self, hidentity, hdecodes.header, hheader]

/-- What an Announce message does to the senders: it keeps them or gives a new sender a record. The
parent's message is stored in the best record, which is to be the parent's. -/
theorem handleAnnounce_senders (length : ℕ) (isFromSelf : Bool) (hown : OwnHeaders n.port.fm)
    (hat : n.port.portState.follows = true → AtParent n.port.fm n.clk.parentPortIdentity)
    (hheader : header = msgUnpackHeader n.port.msgIbuf) :
    n.SameSenders (handleAnnounce header length isFromSelf rtOpts n) ∨
      ((ANNOUNCE_LENGTH ≤ length ∧ isFromSelf = false) ∧
        findForeign n.port.fm header.sourcePortIdentity n.port.fm.numberForeignRecords
          n.port.fm.foreignRecordBest = none) ∧
        Replaced n.port.fm (handleAnnounce header length isFromSelf rtOpts n).port.fm := by
  have hadd := addForeign_senders hown hheader
  by_cases hlength : length < ANNOUNCE_LENGTH
  · rw [handleAnnounce, if_pos hlength]
    exact .inl (.of_eq (toFaulty_fm _ _))
  -- All states but two look the sender up.
  have hslow (hself : isFromSelf = false) {n' : Node}
      (hn' : n'.port.fm = { (addForeign header n.port).fm with recordUpdate := true }) :
      n.SameSenders n' ∨ ((ANNOUNCE_LENGTH ≤ length ∧ isFromSelf = false) ∧
        findForeign n.port.fm header.sourcePortIdentity n.port.fm.numberForeignRecords
          n.port.fm.foreignRecordBest = none) ∧ Replaced n.port.fm n'.port.fm := by
    rw [Node.SameSenders, hn']
    exact hadd.imp_right fun h => ⟨⟨⟨not_lt.mp hlength, hself⟩, h.1⟩, h.2⟩
  -- The fast path stores the parent's header in the best record, which is the parent's.
  have hfast (hfollows : n.port.portState.follows = true)
      (hparent : msgIsFromCurrentParent header n.clk = true) {record : ForeignMasterRecord}
      (hidentity : record.foreignMasterPortIdentity =
        (n.port.fm.foreign n.port.fm.foreignRecordBest).foreignMasterPortIdentity)
      (hrecord : record.header = msgUnpackHeader n.port.msgIbuf) :
      SameSenders n.port.fm { n.port.fm with
        foreign := Function.update n.port.fm.foreign n.port.fm.foreignRecordBest record
        recordUpdate := true } := by
    have hsame : SameSenders n.port.fm { n.port.fm with
        foreign := Function.update n.port.fm.foreign n.port.fm.foreignRecordBest record } := by
      refine .update hidentity ?_
      have hsender : n.clk.parentPortIdentity = header.sourcePortIdentity := by
        simpa [msgIsFromCurrentParent] using hparent
      rw [hrecord, ← hheader, ← hsender, ← hown, (hat hfollows).2]
    exact ⟨hsame.best, hsame.number, hsame.identity, hsame.source⟩
  rw [handleAnnounce, if_neg hlength]
  cases hself : isFromSelf
  case true => cases n.port.portState <;> exact .inl (.refl _)
  rw [hself] at hslow
  cases hstate : n.port.portState <;> rw [hstate] at hfast <;> dsimp only
  case initializing | faulty | disabled => exact .inl (.refl _)
  case uncalibrated | slave =>
    rw [if_neg (by decide)]
    split
    next hparent => exact .inl (hfast rfl hparent rfl rfl)
    next =>
      refine hslow rfl ?_
      rw [addForeign_recordUpdate]
      rfl
  all_goals
    rw [if_neg (by decide)]
    exact hslow rfl rfl

/-- Only an Announce message touches the foreign masters, apart from a link set-up that starts. -/
theorem dispatchMsg_of_other {length : ℕ} (h : n.port.msgTmpHeader.messageType ≠ ANNOUNCE) :
    n.SameSenders (dispatchMsg length rtOpts n) := by
  have hdispatched := dispatchMsg_dispatched rtOpts n length
  generalize dispatchMsg length rtOpts n = n' at hdispatched ⊢
  cases hdispatched with
  | announce htype => exact absurd htype h
  | handled h => exact .of_eq h.fm
  | signaling =>
    have hsignaled : n.SameSenders (signaled n) := .of_eq rfl
    rcases handleSignaling_cases rtOpts n with heq | ⟨-, heq⟩ <;> rw [heq]
    · exact hsignaled
    · exact hsignaled.trans (toWRState_senders rtOpts (asWrMaster (signaled n)) .mLock)

/-- What a message that is dispatched does to the senders. -/
theorem dispatchMsg_senders {length : ℕ} (hown : OwnHeaders n.port.fm)
    (hat : n.port.portState.follows = true → AtParent n.port.fm n.clk.parentPortIdentity)
    (hheader : n.port.msgTmpHeader = msgUnpackHeader n.port.msgIbuf) :
    n.SameSenders (dispatchMsg length rtOpts n) ∨
      AnnouncesNew length n ∧ Replaced n.port.fm (dispatchMsg length rtOpts n).port.fm := by
  by_cases htype : n.port.msgTmpHeader.messageType = ANNOUNCE
  · let Outcome (n' : Node) : Prop :=
      n.SameSenders n' ∨ AnnouncesNew length n ∧ Replaced n.port.fm n'.port.fm
    show Outcome (dispatchMsg length rtOpts n)
    refine iteInduction (fun _ => .inl (.refl _)) fun hversion => ?_
    refine iteInduction (fun _ => .inl (.refl _)) fun hdomain => ?_
    refine iteInduction (fun _ => ?_) fun hother => absurd htype hother
    refine (handleAnnounce_senders length _ hown hat hheader).imp_right ?_
    rintro ⟨⟨⟨hlength, hself⟩, hnone⟩, hreplaced⟩
    refine ⟨?_, hreplaced⟩
    exact ⟨hlength, not_not.mp hversion, not_not.mp hdomain, htype, by simpa using hself, hnone⟩
  · exact .inl (dispatchMsg_of_other htype)

/-- What handling a frame does to the senders. -/
theorem handle_senders (hown : OwnHeaders n.port.fm)
    (hat : n.port.portState.follows = true → AtParent n.port.fm n.clk.parentPortIdentity) :
    n.SameSenders (handle rtOpts n) ∨
      NewSender n ∧ Replaced n.port.fm (handle rtOpts n).port.fm := by
  let Outcome (n' : Node) : Prop :=
    n.SameSenders n' ∨ NewSender n ∧ Replaced n.port.fm n'.port.fm
  have hrecv : (netRecvMsg n).2.port.fm = n.port.fm := received_fm n
  refine handle_induction (Q := Outcome) rtOpts n (.inl (.of_eq hrecv)) (.inl (.of_eq ?_))
    fun hlength => ?_
  · rw [toFaulty_fm, hrecv]
  have hframe : Frame n (received n) := (received_wrFrame (P := NotSignaling) n).toFrame
  have hfm := received_fm n
  have hdispatched : (received n).SameSenders
      (dispatchMsg (netRecvMsg n).1.toNat rtOpts (received n)) ∨
        AnnouncesNew (netRecvMsg n).1.toNat (received n) ∧ Replaced (received n).port.fm _ :=
    dispatchMsg_senders (by rwa [hfm]) (by rwa [received_portState, hfm, hframe.clk]) rfl
  rw [Node.SameSenders, hfm] at hdispatched
  refine hdispatched.imp_right ?_
  rintro ⟨hannounces, hreplaced⟩
  refine ⟨⟨⟨?_, ?_, ?_, hannounces.type, ?_⟩, ?_⟩, hreplaced⟩
  · have := hannounces.length_le
    omega
  · rw [hannounces.version, hframe.versionNumber]
  · rw [hannounces.domain, hframe.clk]
  · rw [← hframe.portIdentity]
    exact hannounces.other
  · rw [← hfm]
    exact hannounces.unknown

end Handling

/-! ### The states the actions of a port lead to -/

section States

variable {rtOpts : RunTimeOpts} {n n' : Node}

/-- A port in a frame stays in its state or becomes faulty. -/
theorem WrFrame.follows {P : List UInt8 → Prop} (h : WrFrame P n n')
    (hfollows : n'.port.portState.follows = true) : n'.port.portState = n.port.portState := by
  rcases h.portState with hstate | ⟨-, hfaulty⟩
  · exact hstate
  · rw [hfaulty] at hfollows
    cases hfollows

/-- Handling a frame leaves a port in its state or faulty. -/
theorem handle_portState (rtOpts : RunTimeOpts) (n : Node) :
    (handle rtOpts n).port.portState = n.port.portState ∨
      (handle rtOpts n).port.portState = .faulty := by
  rcases handle_cases rtOpts n with hframe | ⟨-, heq⟩
  · exact hframe.portState.imp_right And.right
  have hsame : (signaled (received n)).port.portState = n.port.portState := received_portState n
  rw [heq]
  rcases handleSignaling_cases rtOpts (received n) with hsig | ⟨-, hsig⟩ <;> rw [hsig]
  · exact .inl hsame
  generalize hm : asWrMaster (signaled (received n)) = m
  have hstate : m.port.portState = n.port.portState := by rw [← hm, ← hsame]; rfl
  -- Starting the link set-up sends a message, which may fail.
  by_cases hidle : m.port.wr.wrPortState = .idle
  · obtain ⟨m', id, -, rfl, -, hstate', -⟩ := toWRState_start rtOpts m hidle (.inr rfl)
    rw [hstate', ← hstate]
    exact (issueWRSignalingMsg_wrFrame rtOpts (initWrData .reInit m) id).portState.imp_right
      And.right
  · exact .inl
      ((toWRState_wr rtOpts m hidle (show WrState.mLock.mainState = .mLock from rfl)).2.trans
      hstate)

theorem handle_follows (h : n.port.portState.follows = false) :
    (handle rtOpts n).port.portState.follows = false := by
  rcases handle_portState rtOpts n with hstate | hstate <;> rw [hstate]
  · exact h
  · rfl

/-- A transition ends in the state it is asked for, or is refused. -/
theorem toState_follows {s : PtpState} (hs : s.follows = false) (hne : s ≠ .preMaster)
    (h : n.port.portState.follows = false) :
    (toState s rtOpts n).port.portState.follows = false := by
  by_cases hidle : n.port.wr.wrPortState = .idle
  · rw [toState, if_neg (not_not.mpr hidle), enterState_portState _ _ (by rintro rfl; cases hs) hne]
    exact hs
  · rwa [toState_running rtOpts n hidle]

/-- A port that hears no master becomes a master or goes on listening. -/
theorem announceReceiptTimeoutExpires_follows (hidle : n.port.wr.wrPortState = .idle) :
    (announceReceiptTimeoutExpires rtOpts n).port.portState.follows = false := by
  have hforget : (forgetMasters n).port.wr.wrPortState = .idle := hidle
  rw [announceReceiptTimeoutExpires_eq]
  split
  · have hm1 : (m1 (forgetMasters n)).port.wr.wrPortState = .idle := by
      rw [(m1_decided (forgetMasters n)).wr]
      exact hforget
    rw [toState, if_neg (not_not.mpr hm1), enterState_portState _ _ (by decide) (by decide)]
    rfl
  split
  · rw [toState, if_neg (not_not.mpr hforget), enterState_portState _ _ (by decide) (by decide)]
    rfl
  next hlistening =>
    rw [show (forgetMasters n).port.portState = .listening from not_not.mp hlistening]
    rfl

/-- A port whose link set-up is run by a master neither follows the parent nor starts to. -/
theorem WrMove.follows (h : WrMove rtOpts n n')
    (hn : Driven n ∧ n.port.portState.follows = false) :
    Driven n' ∧ n'.port.portState.follows = false := by
  refine ⟨h.driven hn.1, ?_⟩
  cases h with
  | handle => exact handle_follows hn.2
  | called | advance | respond | deltaTx | deltaRx => exact hn.2

/-- The mode of a port that runs the link set-up but does not follow the parent. -/
theorem Driven.master (h : Driven n) (hn : n.port.portState.follows = false) :
    n.port.portState = .master ∧ n.port.wr.wrMode = .wrMaster := by
  rcases h.2 h.1 with ⟨hstate, -⟩ | hmaster
  · rw [hstate] at hn
    cases hn
  · exact hmaster

theorem WrEnd.follows (h : WrEnd rtOpts n n') (hn : Driven n ∧ n.port.portState.follows = false) :
    Interlock n'.port ∧ n'.port.portState.follows = false := by
  refine ⟨h.interlock hn.1, ?_⟩
  obtain ⟨hstate, hmode⟩ := hn.1.master hn.2
  -- Entering a main state of a running machine changes no PTP state.
  have henter {m : Node} (hm : Driven m ∧ m.port.portState.follows = false) {s : WrState}
      (hmain : s.mainState = s) : (toWRState s rtOpts m).port.portState.follows = false := by
    rw [(toWRState_wr rtOpts m hm.1.1 hmain).2]
    exact hm.2
  cases h with
  | stay => exact hn.2
  | enter h => exact henter hn h.mainState
  | lock => exact henter hn (s := .sLock) rfl
  | calibrated =>
    obtain ⟨hwr, hsame⟩ := issueWRSignalingMsg_running rtOpts n hn.1.1 CALIBRATED
    have hissued : Driven (issueWRSignalingMsg CALIBRATED rtOpts n) :=
      hn.1.of_wr (by rw [hwr]; exact hn.1.1) (by rw [hwr]) hsame
    exact henter ⟨hissued, by rw [hsame]; exact hn.2⟩ (s := .calibrated) rfl
  | linkOn =>
    obtain ⟨⟨t, -, hmoved⟩, hsame⟩ := toWRState_wr rtOpts n hn.1.1
      (show WrState.idle.mainState = .idle from rfl)
    have hstill : (toWRState .idle rtOpts n).port.wr.wrMode = .wrMaster := by
      rw [hmoved]
      exact hmode
    unfold doWrLinkOn
    dsimp only
    rw [hstill]
    exact toState_follows rfl (by decide) (by rw [hsame]; exact hn.2)

/-- Giving up the link set-up of a master. -/
theorem abandon_follows (hrun : n.port.wr.wrPortState ≠ .idle)
    (hn : n.port.portState.follows = false) :
    (abandon rtOpts .wrMaster n).port.portState.follows = false := by
  have hleft :
      (toWRState .idle rtOpts { n with port.wr.wrModeON := false }).port.portState.follows =
      false := by
    rw [(toWRState_wr rtOpts { n with port.wr.wrModeON := false } hrun
      (show WrState.idle.mainState = .idle from rfl)).2]
    exact hn
  have hfallback : (fallbackState rtOpts .wrMaster).follows = false ∧
      fallbackState rtOpts .wrMaster ≠ .preMaster := by
    unfold fallbackState
    split <;> decide
  have hinit (m : Node) : (initWrData .init m).port.portState = m.port.portState := rfl
  unfold abandon
  rw [hinit]
  exact toState_follows hfallback.1 hfallback.2 hleft

theorem wrTimerExpired_follows (h : Interlock n.port) (hn : n.port.portState.follows = false) :
    (wrTimerExpired n.port.wr.wrPortState.mainState rtOpts n.port.wr.wrMode
      n).port.portState.follows = false := by
  rcases wrTimerExpired_cases rtOpts n n.port.wr.wrPortState.mainState n.port.wr.wrMode with
    ⟨-, heq⟩ | ⟨hmain, heq⟩
  · rwa [heq]
  have hdriven : Driven n := ⟨mainState_ne_idle hmain, h⟩
  have hmode := (hdriven.master hn).2
  have hpolled : (wrTimerPolled n.port.wr.wrPortState.mainState n).port.wr.wrPortState ≠ .idle :=
    hdriven.1
  rcases heq with heq | heq | heq <;> rw [heq]
  · exact hn
  · rw [(toWRState_wr rtOpts _ hpolled (mainState_mainState _)).2]
    exact hn
  · rw [hmode]
    exact abandon_follows hpolled hn

theorem doWRState_follows (h : Driven n) (hn : n.port.portState.follows = false) :
    (doWRState rtOpts n).port.portState.follows = false := by
  have hactions : Interlock (wrStateActions rtOpts n).port ∧
      (wrStateActions rtOpts n).port.portState.follows = false :=
    wrStateActions_induction
      (P := fun m => Driven m ∧ m.port.portState.follows = false)
      (Q := fun m => Interlock m.port ∧ m.port.portState.follows = false)
      (fun _ _ hm hmove => hmove.follows hm) (fun _ _ hm hend => hend.follows hm) ⟨h, hn⟩
  exact wrTimerExpired_follows hactions.1 hactions.2

end States

/-! ### The actions of a port -/

section Actions

variable {rtOpts : RunTimeOpts} {n : Node}

/-- The actions of a port do not write the parent's identity. -/
theorem doStateActions_parent (rtOpts : RunTimeOpts) (n : Node) :
    (doStateActions rtOpts n).clk.parentPortIdentity = n.clk.parentPortIdentity := by
  refine doStateActions_induction
    (P := fun m => m.clk.parentPortIdentity = n.clk.parentPortIdentity) rfl fun m m' hm h => ?_
  refine .trans ?_ hm
  cases h with
  | frame h => rw [h.clk]
  | handle => rw [(handle_frame rtOpts m).clk]
  | toState => rw [(toState_frame rtOpts m _).clk]
  | wrState => rw [(doWRState_frame rtOpts m).clk]
  | forgetMasters | m1 | clearRegister => rfl

/-- The records are kept or forgotten then, and a port that goes on to follow the parent has kept
them. -/
theorem slaveTimers_senders (rtOpts : RunTimeOpts) (hidle : n.port.wr.wrPortState = .idle) :
    (OwnHeaders n.port.fm → OwnHeaders (slaveTimers rtOpts n).port.fm) ∧
      ((slaveTimers rtOpts n).port.portState.follows = true →
        (slaveTimers rtOpts n).port.portState = n.port.portState ∧
          (slaveTimers rtOpts n).port.fm = n.port.fm) := by
  -- A port that loses its master forgets the records and leaves the state.
  have htimeout : (OwnHeaders n.port.fm → OwnHeaders
        (onTimer .announceReceipt (announceReceiptTimeoutExpires rtOpts) n).port.fm) ∧
      ((onTimer .announceReceipt (announceReceiptTimeoutExpires rtOpts)
          n).port.portState.follows = true →
        (onTimer .announceReceipt (announceReceiptTimeoutExpires rtOpts) n).port.portState =
            n.port.portState ∧
          (onTimer .announceReceipt (announceReceiptTimeoutExpires rtOpts) n).port.fm =
            n.port.fm) := by
    unfold onTimer
    split
    · refine ⟨fun hown => ?_, fun hfollows => ?_⟩
      · rw [announceReceiptTimeoutExpires_fm]
        exact hown
      · have hpolled : (n.timerPolled .announceReceipt).port.wr.wrPortState = .idle := hidle
        rw [announceReceiptTimeoutExpires_follows hpolled] at hfollows
        cases hfollows
    · exact ⟨id, fun _ => ⟨rfl, rfl⟩⟩
  rw [slaveTimers_eq]
  generalize onTimer .announceReceipt (announceReceiptTimeoutExpires rtOpts) n = m at htimeout ⊢
  -- The request that may be sent then touches neither.
  have hrequest := requestTimer_handled rtOpts m (p := .any) rfl
  refine ⟨fun hown => ?_, fun hfollows => ?_⟩
  · rw [hrequest.fm]
    exact htimeout.1 hown
  · have hstate := hrequest.wrFrame.follows hfollows
    obtain ⟨hsame, hkept⟩ := htimeout.2 (hstate ▸ hfollows)
    exact ⟨hstate.trans hsame, hrequest.fm.trans hkept⟩

/-- A candidate for a slave keeps the parent's record unless it gives it to a new sender. -/
theorem doStateActions_of_uncalibrated (hstate : n.port.portState = .uncalibrated)
    (hown : OwnHeaders n.port.fm) (hat : AtParent n.port.fm n.clk.parentPortIdentity)
    (hkept : ∀ k, hearing n = some k → NewSender k →
      n.port.fm.foreignRecordI ≠ n.port.fm.foreignRecordBest) :
    OwnHeaders (doStateActions rtOpts n).port.fm ∧
      AtParent (doStateActions rtOpts n).port.fm n.clk.parentPortIdentity := by
  have hsame {n' : Node} (h : n.SameSenders n') :
      OwnHeaders n'.port.fm ∧ AtParent n'.port.fm n.clk.parentPortIdentity :=
    ⟨h.ownHeaders hown, h.atParent hat⟩
  by_cases hmode : n.port.wr.wrMode = .wrSlave
  · have hruns : RunsWr n := .inl ⟨hstate, hmode⟩
    rw [doStateActions_of_runsWr hruns]
    rcases doWRState_senders rtOpts n with ⟨-, h⟩ | ⟨k, hk, h⟩
    · exact hsame h
    -- The frame is handled with the table and the parent that the port began with.
    have hfm : k.port.fm = n.port.fm ∧ k.clk = n.clk := by
      rcases wrHearing_cases hk with ⟨-, rfl⟩ | ⟨-, c, rfl⟩ <;> exact ⟨rfl, rfl⟩
    obtain ⟨hfm, hclk⟩ := hfm
    have hhandled : k.SameSenders (handle rtOpts k) ∨
        NewSender k ∧ Replaced k.port.fm (handle rtOpts k).port.fm :=
      handle_senders (by rwa [hfm]) fun _ => by rwa [hfm, hclk]
    rw [Node.SameSenders, hfm] at hhandled
    rcases hhandled with hh | ⟨hnew, hh⟩
    · exact hsame (hh.trans h)
    · have hi := hkept k ((hearing_of_runsWr hruns).trans hk) hnew
      exact ⟨h.ownHeaders (hh.ownHeaders hown), h.atParent (hh.atParent hi hat)⟩
  · have heq : (doStateActions rtOpts n).port.fm = n.port.fm := by
      unfold doStateActions
      rw [hstate]
      dsimp only
      rw [if_neg hmode]
      exact toState_fm rtOpts n .slave
    exact hsame (.of_eq heq)

/-- A slave keeps the parent's record, or its table is marked. -/
theorem doStateActions_of_slave (hstate : n.port.portState = .slave)
    (hidle : n.port.wr.wrPortState = .idle) (hown : OwnHeaders n.port.fm)
    (hat : AtParent n.port.fm n.clk.parentPortIdentity) :
    OwnHeaders (doStateActions rtOpts n).port.fm ∧
      ((doStateActions rtOpts n).port.portState.follows = true →
        (doStateActions rtOpts n).port.portState = .slave ∧
          (AtParent (doStateActions rtOpts n).port.fm n.clk.parentPortIdentity ∨
            (doStateActions rtOpts n).port.fm.recordUpdate = true)) := by
  have heq : doStateActions rtOpts n = slaveTimers rtOpts (handle rtOpts n) := by
    unfold doStateActions
    rw [hstate]
    rfl
  -- A new sender may take the parent's record, but then the table is marked.
  have hhandled : OwnHeaders (handle rtOpts n).port.fm ∧
      (AtParent (handle rtOpts n).port.fm n.clk.parentPortIdentity ∨
        (handle rtOpts n).port.fm.recordUpdate = true) := by
    have hsenders : n.SameSenders (handle rtOpts n) ∨
        NewSender n ∧ Replaced n.port.fm (handle rtOpts n).port.fm :=
      handle_senders hown fun _ => hat
    rcases hsenders with h | ⟨-, h⟩
    · exact ⟨h.ownHeaders hown, .inl (h.atParent hat)⟩
    · exact ⟨h.ownHeaders hown, .inr h.marked⟩
  have hstill : (handle rtOpts n).port.wr.wrPortState = .idle :=
    handle_idle hidle (by rw [hstate]; decide)
  obtain ⟨hkept, hfollows⟩ := slaveTimers_senders rtOpts hstill
  rw [heq]
  refine ⟨hkept hhandled.1, fun h => ?_⟩
  obtain ⟨hsame, hfm⟩ := hfollows h
  rw [hfm]
  refine ⟨?_, hhandled.2⟩
  rw [hsame] at h ⊢
  rcases handle_portState rtOpts n with hs | hs
  · exact hs.trans hstate
  · rw [hs] at h
    cases h

/-- Besides handling a frame a master leaves the table alone, and it does not start to follow. -/
theorem doMasterActions_senders (rtOpts : RunTimeOpts) (hother : n.port.portState.follows = false) :
    (doMasterActions rtOpts n).port.fm = (handle rtOpts n).port.fm ∧
      (doMasterActions rtOpts n).port.portState.follows = false := by
  have htimers := masterTimers_wrFrame rtOpts (handle rtOpts n)
  have hfm := (masterTimers_handled rtOpts (handle rtOpts n) (p := .any) rfl).fm
  have hmaster : (masterTimers rtOpts (handle rtOpts n)).port.portState.follows = false := by
    by_contra h
    rw [Bool.not_eq_false] at h
    rw [htimers.follows h, handle_follows hother] at h
    cases h
  rw [doMasterActions_eq]
  dsimp only
  split
  · rw [toState_fm]
    exact ⟨hfm, toState_follows rfl (by decide) hmaster⟩
  · exact ⟨hfm, hmaster⟩

/-- Any other port keeps the headers with their senders, and does not start to follow the parent. -/
theorem doStateActions_of_other (hother : n.port.portState.follows = false)
    (hcleared : Cleared n.port) (hown : OwnHeaders n.port.fm) :
    OwnHeaders (doStateActions rtOpts n).port.fm ∧
      (doStateActions rtOpts n).port.portState.follows = false := by
  -- Such a port has no parent, so it always looks the sender up.
  have hhandle {k : Node} (hfm : k.port.fm = n.port.fm)
      (hstate : k.port.portState = n.port.portState) : OwnHeaders (handle rtOpts k).port.fm := by
    have hsenders : k.SameSenders (handle rtOpts k) ∨
        NewSender k ∧ Replaced k.port.fm (handle rtOpts k).port.fm :=
      handle_senders (by rwa [hfm]) fun h => absurd (hstate ▸ h) (by rw [hother]; decide)
    rw [Node.SameSenders, hfm] at hsenders
    rcases hsenders with h | ⟨-, h⟩
    · exact h.ownHeaders hown
    · exact h.ownHeaders hown
  have hlisten (hidle : n.port.wr.wrPortState = .idle) (hmaster : n.port.portState ≠ .master) :
      OwnHeaders (slaveTimers rtOpts (handle rtOpts n)).port.fm ∧
        (slaveTimers rtOpts (handle rtOpts n)).port.portState.follows = false := by
    obtain ⟨hkept, hfollows⟩ := slaveTimers_senders rtOpts (handle_idle hidle hmaster)
    refine ⟨hkept (hhandle rfl rfl), ?_⟩
    by_contra h
    rw [Bool.not_eq_false] at h
    rw [(hfollows h).1, handle_follows hother] at h
    cases h
  -- Only a master runs the link set-up here.
  have hidle (hmaster : n.port.portState ≠ .master) (hfaulty : n.port.portState ≠ .faulty) :
      n.port.wr.wrPortState = .idle :=
    (hcleared.driven.resolve_right hfaulty).idle (by rintro h; rw [h] at hother; cases hother)
      hmaster
  unfold doStateActions
  cases hstate : n.port.portState <;> simp only [hstate] at hidle hlisten <;> dsimp only
  case faulty =>
    rw [toState_fm]
    exact ⟨hown, toState_follows rfl (by decide) hother⟩
  case uncalibrated | slave =>
    rw [hstate] at hother
    cases hother
  case listening =>
    split
    · rw [toState_fm]
      exact ⟨hown, toState_follows rfl (by decide) (by rw [(m1_decided n).portState]; exact hother)⟩
    · exact hlisten (hidle (by decide) (by decide)) (by decide)
  case passive => exact hlisten (hidle (by decide) (by decide)) (by decide)
  case master =>
    split
    next hrun =>
      have hinterlock : Interlock n.port := hcleared.driven.resolve_right (by rw [hstate]; decide)
      refine ⟨?_, doWRState_follows ⟨hrun.2, hinterlock⟩ hother⟩
      rcases doWRState_senders rtOpts n with ⟨-, h⟩ | ⟨k, hk, h⟩
      · exact h.ownHeaders hown
      · refine h.ownHeaders ?_
        rcases wrHearing_cases hk with ⟨-, rfl⟩ | ⟨-, c, rfl⟩
        · exact hhandle rfl rfl
        · exact hhandle rfl rfl
    next =>
      obtain ⟨hfm, hfollows⟩ := doMasterActions_senders rtOpts hother
      exact ⟨hfm ▸ hhandle rfl rfl, hfollows⟩
  case disabled => exact ⟨hhandle rfl rfl, handle_follows hother⟩
  case initializing | preMaster => exact ⟨hown, hother⟩

end Actions

end WhiteRabbitPtp
