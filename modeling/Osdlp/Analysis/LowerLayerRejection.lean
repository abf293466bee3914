import Osdlp.Analysis.TransmitAtomic
import Osdlp.Interface.FopMoves
import Osdlp.Interface.HarnessSearch
import Osdlp.Interface.HandlerRules

/-!
# Rejections by the lower layer

A type-A frame that the transmission queue refuses ends the service at once, inside the search that
has offered it.  Two things come afterwards.  Some handlers write the state behind the search
(`writesBehind`), and the service goes on with empty queues.  And where a waiting frame was accepted
before, its acceptance is what the handler returns.  The service ends cleanly exactly where neither
happens (`endsService_iff`).
-/

set_option autoImplicit false

namespace Osdlp.Analysis

open Osdlp.Model Osdlp.Interface Osdlp.Library

/-- The events in which frames are sent. -/
inductive SendingEvent
  | clcw (ocf : List UInt8)
  | timerExpired
  | request (hdr : TcPrimaryHdr) (frameData : TcFdf)

/-- The handler of an event.  The frame of a request is set up before. -/
def SendingEvent.call (h : CopHooks HarnessWorld) (depth : ℕ) :
    SendingEvent → FopM HarnessWorld (Option Notification)
  | .clcw ocf => some <$> osdlpHandleClcw h ocf
  | .timerExpired => osdlpHandleTimerExpired h depth
  | .request hdr frameData => do
    modify fun s => { s with tf := { s.tf with primaryHdr := hdr, frameData := frameData } }
    some <$> osdlpReqTransferFdu h

/-- A request is for a type-A frame, whose length fits into sixteen bits. -/
def SendingEvent.RequestsAd (overheadLen : ℕ) : SendingEvent → Prop
  | .clcw _ | .timerExpired => True
  | .request hdr frameData => hdr.bypass = .typeA ∧ overheadLen + frameData.dataLen ≤ 65536

/-- The queues are consistent: the items have numbers of their own and the type of their frames, and
the waiting frames can be packed. -/
structure Consistent (s : Harness) : Prop where
  nodup : (s.world.queues.sentQueue.map QueueItem.seqNum).Nodup
  types : ∀ item ∈ s.world.queues.sentQueue, frameType item.fdu = item.type
  packs : Packs s

/-- The service has ended, and the handler returns without saying that a frame is accepted. -/
structure EndsService (r : Option Notification × Harness) : Prop where
  returns : r.1.isSome ∧ r.2.world.overrun = false
  state : r.2.tf.copCfg.state = .init
  sentQueue : r.2.world.queues.sentQueue = []
  waitQueue : r.2.world.queues.waitQueue = []
  result : r.1 ≠ some .acceptTx

/-- The handler of a control word writes the state behind the search.
SOURCE: osdlp_cop.c:950-1014, 1182-1261, 1311-1364 -/
def writesBehind (kind : ClcwKind) (state : FopState) : Bool :=
  match kind, state with
  | .e6, .rtWait | .e8, .active | .e8, .rtWait | .e10, .active | .e10, .rtWait => true
  | _, _ => false

/-- The frames that are marked for retransmission when the handler of a control word searches. -/
def resentBy (kind : ClcwKind) (clcw : ClcwFrame) (s : Harness) : ℕ :=
  let unacked := dropAcked clcw.reportValue (s.tf.copCfg.slideWnd.toNat + 1)
    s.world.queues.sentQueue
  match kind with
  | .e2 | .e6 => unacked.countP isAdRt
  | .e8 => unacked.countP fun item => item.type = .typeA
  | .e10 => s.world.queues.sentQueue.countP fun item => item.type = .typeA
  | _ => 0

/-- The handler of the event writes the state behind the search. -/
def SendingEvent.writesState (fop : FopConfig) : SendingEvent → Bool
  | .clcw ocf => writesBehind (clcwKind fop (osdlpClcwUnpack ocf)) fop.state
  | .timerExpired | .request _ _ => false

/-- The frames that are marked for retransmission when the handler of the event searches. -/
def SendingEvent.resent (s : Harness) : SendingEvent → ℕ
  | .clcw ocf => resentBy (clcwKind s.tf.copCfg (osdlpClcwUnpack ocf)) (osdlpClcwUnpack ocf) s
  | .timerExpired => s.world.queues.sentQueue.countP fun item => item.type = .typeA
  | .request _ _ => s.world.queues.sentQueue.countP isAdRt

variable {keep : List Bool} {answers : List Bool} {enqueue : List UInt8 → FopM HarnessWorld Int}
  {s t : Harness} {depth k : ℕ}

/-! ## Up to the search -/

/-- The marked items are among those of the sent queue. -/
theorem Consistent.retransmittable (hs : Consistent s) : Retransmittable (sender s) := by
  refine ⟨hs.nodup, ?_⟩
  intro item hmem
  obtain ⟨hin, hmarked⟩ := List.mem_filter.mp hmem
  simp only [isAdRt, Bool.and_eq_true, decide_eq_true_eq] at hmarked
  rw [hs.types item hin]
  exact hmarked.2

/-- From `s` the handler has come to a search in `t`, where `k` frames are marked. -/
structure ComesTo (s t : Harness) (k : ℕ) : Prop where
  serves : Serves t
  consistent : Consistent t
  offered : t.world.offered = s.world.offered
  overrun : t.world.overrun = s.world.overrun
  marked : t.world.queues.sentQueue.countP isAdRt = k
  sentQueue : t.world.queues.sentQueue.length ≤ s.world.queues.sentQueue.length
  waitQueue : t.world.queues.waitQueue.length ≤ s.world.queues.waitQueue.length + 1

/-- The removal leaves the framing and the waiting frames. -/
theorem acked_tf (nr : UInt8) (left : ℕ) (s : Fop) :
    (acked nr left s).tf.mission = s.tf.mission ∧
      (acked nr left s).world.waitQueue = s.world.waitQueue := by
  unfold acked
  split_ifs
  · exact ⟨rfl, rfl⟩
  · exact ⟨rfl, rfl⟩

/-- The sender without the frames that a control word acknowledges. -/
def withoutReported (clcw : ClcwFrame) (s : Harness) : Harness :=
  withSender s (acked clcw.reportValue (s.tf.copCfg.slideWnd.toNat + 1) (sender s))

/-- What is left of a consistent queue is consistent. -/
theorem Consistent.withoutReported (hs : Consistent s) (clcw : ClcwFrame) :
    Consistent (withoutReported clcw s) := by
  have hsub := dropAcked_sublist clcw.reportValue (s.tf.copCfg.slideWnd.toNat + 1)
    s.world.queues.sentQueue
  have hqueue : (Analysis.withoutReported clcw s).world.queues.sentQueue = _ :=
    acked_sentQueue clcw.reportValue (s.tf.copCfg.slideWnd.toNat + 1) (sender s)
  obtain ⟨hmission, hwait⟩ := acked_tf clcw.reportValue (s.tf.copCfg.slideWnd.toNat + 1) (sender s)
  refine ⟨?_, ?_, ⟨?_, ?_⟩⟩
  · rw [hqueue]
    exact hs.nodup.sublist (hsub.map _)
  · rw [hqueue]
    exact fun item hmem => hs.types item (hsub.subset hmem)
  · show (acked _ _ (sender s)).tf.mission.fixedOverheadLen =
      (acked _ _ (sender s)).tf.mission.overhead
    rw [hmission]
    exact hs.packs.overhead
  · show ∀ w ∈ (acked _ _ (sender s)).world.waitQueue,
      (acked _ _ (sender s)).tf.mission.fixedOverheadLen + w.frameData.dataLen ≤ 65536
    rw [hmission, hwait]
    exact hs.packs.waiting

/-- The sender in which the retransmission of type-A frames has been initiated. -/
def adRetransmitting (keep : List Bool) (s : Harness) : Harness :=
  withSender s (retransmitting keep (sender s))

theorem adRetransmitting_sentQueue (keep : List Bool) (s : Harness) :
    (adRetransmitting keep s).world.queues.sentQueue =
      s.world.queues.sentQueue.map (markRt .typeA) := rfl

/-- Marks change neither numbers nor types. -/
theorem Consistent.adRetransmitting (hs : Consistent s) (keep : List Bool) :
    Consistent (adRetransmitting keep s) := by
  refine ⟨?_, ?_, ⟨hs.packs.overhead, hs.packs.waiting⟩⟩
  · rw [adRetransmitting_sentQueue, List.map_map]
    have hsame : QueueItem.seqNum ∘ markRt .typeA = QueueItem.seqNum :=
      funext fun item => markRt_seqNum .typeA item
    rw [hsame]
    exact hs.nodup
  · intro item hmem
    rw [adRetransmitting_sentQueue] at hmem
    obtain ⟨item', hin, rfl⟩ := List.mem_map.mp hmem
    rw [markRt_fdu, markRt_type]
    exact hs.types item' hin

/-- As many items are marked as there are type-A frames. -/
theorem countP_adRetransmitting (keep : List Bool) (s : Harness) :
    (adRetransmitting keep s).world.queues.sentQueue.countP isAdRt =
      s.world.queues.sentQueue.countP fun item => item.type = .typeA := by
  rw [adRetransmitting_sentQueue, List.countP_map]
  refine List.countP_congr fun item _ => ?_
  simp [isAdRt_markRt]

theorem adRetransmissionThen_harness (next : FopM HarnessWorld Notification) (s : Harness) :
    adRetransmissionThen (harnessOver keep enqueue) next s = next (adRetransmitting keep s) := rfl

/-! ## What a handler comes to -/

/-- No type-A frame is refused in the program. -/
abbrev RefusesNone {α : Type} (m : FopM HarnessWorld α) : Prop := Keeps (fun s => ¬ RefusedAd s) m

/-- The handler refuses no type-A frame; or it is a search in a state where `k` frames are marked,
behind which it writes the state if `writes` says so. -/
inductive Handles (h : CopHooks HarnessWorld) (writes : Bool) (k : ℕ) (s : Harness) :
    Notification × Harness → Prop
  | quiet {r : Notification × Harness} (hquiet : ¬ RefusedAd s → ¬ RefusedAd r.2) :
      Handles h writes k s r
  | searches {t : Harness} {after : Option FopState} (hcomes : ComesTo s t k)
      (hafter : after.isSome = writes) (hinit : after ≠ some .init) :
      Handles h writes k s (lookThenReport h after t)

/-- A program that offers nothing handles its event whatever the queue would answer. -/
theorem RefusesNone.handles {m : FopM HarnessWorld Notification} (hm : RefusesNone m)
    {h : CopHooks HarnessWorld} (writes : Bool) (k : ℕ) (s : Harness) : Handles h writes k s
    (m s) :=
  .quiet (hm s)

theorem getFop_refusesNone : RefusesNone (getFop : FopM HarnessWorld FopConfig) := fun _ hs => hs

theorem answer_refusesNone (notif : Notification) :
    RefusesNone (answer notif : FopM HarnessWorld Notification) := fun _ hs => hs

/-- An alert clears queues and offers nothing. -/
theorem alertTo_refusesNone (keep : List Bool) (enqueue : List UInt8 → FopM HarnessWorld Int)
    (notif : Notification) : RefusesNone (alertTo (harnessOver keep enqueue) notif) := by
  intro s hs
  rw [alertTo_harness]
  exact hs

/-- What handlers without acknowledgement are put together from offers nothing. -/
theorem restClosed_refusesNone (keep : List Bool) (enqueue : List UInt8 → FopM HarnessWorld Int) :
    RestClosed (harnessOver keep enqueue) RefusesNone where
  row _ hrows := Keeps.bind getFop_refusesNone hrows
  ignore := Keeps.pure _
  na := Keeps.pure _
  enter _ _ hnext _ hs := hnext _ hs
  alert notif _ := alertTo_refusesNone keep enqueue notif

/-- E1 takes a command off the sent queue and offers nothing. -/
theorem fopE1_refusesNone (keep : List Bool) (enqueue : List UInt8 → FopM HarnessWorld Int) :
    RefusesNone (fopE1 (harnessOver keep enqueue)) := by
  have hrelease : RefusesNone (osdlpReleaseCopyOfBc (harnessOver keep enqueue)) := by
    refine Keeps.bind (fun _ hs => hs) fun head => ?_
    cases head with
    | none => exact Keeps.pure _
    | some item => exact Keeps.ite (fun _ hs => hs) (Keeps.pure _)
  exact (restClosed_refusesNone keep enqueue).fopE1 (fun notif _ => answer_refusesNone notif)
    (fun _ hnext s hs => hnext _ hs) (alertTo_refusesNone keep enqueue .alertSynch)
    fun _ hnext => Keeps.bind hrelease hnext

/-- A removal offers nothing. -/
theorem removeAckedThen_refusesNone (clcw : ClcwFrame) {next : FopM HarnessWorld Notification}
    (hnext : RefusesNone next) :
    RefusesNone (removeAckedThen (harnessOver keep enqueue) clcw next) := by
  intro s hs
  rw [removeAckedThen_harness]
  exact hnext _ hs

/-- E9 and E101, which acknowledge and do not search.
SOURCE: osdlp_cop.c:1067-1129, 1263-1309 -/
theorem fopE9_refusesNone (clcw : ClcwFrame) :
    RefusesNone (fopE9 (harnessOver keep enqueue) clcw) := by
  apply Keeps.bind getFop_refusesNone
  intro fop
  have hset : RefusesNone (do setState .rtWait; return .ignore : FopM HarnessWorld Notification) :=
    fun _ hs => hs
  cases fop.state with
  | active | rtNoWait | rtWait => exact removeAckedThen_refusesNone clcw hset
  | initNoBc | initBc | init => exact Keeps.pure _

/-- E101 removes frames and ends the service without offering any. -/
theorem fopE101_refusesNone (clcw : ClcwFrame) :
    RefusesNone (fopE101 (harnessOver keep enqueue) clcw) := by
  have hremove : RefusesNone
      (osdlpRemoveAckedFrames (harnessOver keep enqueue) clcw.reportValue) := by
    intro s hs
    rw [osdlpRemoveAckedFrames_harness]
    exact hs
  apply Keeps.bind getFop_refusesNone
  intro fop
  cases fop.state with
  | active | rtNoWait =>
    exact removeAckedThen_refusesNone clcw (alertTo_refusesNone keep enqueue _)
  | rtWait => exact Keeps.bind hremove fun _ => alertTo_refusesNone keep enqueue _
  | initNoBc | initBc | init => exact Keeps.pure _

theorem withoutReported_state (clcw : ClcwFrame) (s : Harness) :
    (withoutReported clcw s).tf.copCfg.state = s.tf.copCfg.state :=
  acked_state clcw.reportValue (s.tf.copCfg.slideWnd.toNat + 1) (sender s)

/-- The items that the removal leaves. -/
theorem withoutReported_sentQueue (clcw : ClcwFrame) (s : Harness) :
    (withoutReported clcw s).world.queues.sentQueue =
      dropAcked clcw.reportValue (s.tf.copCfg.slideWnd.toNat + 1) s.world.queues.sentQueue :=
  acked_sentQueue clcw.reportValue (s.tf.copCfg.slideWnd.toNat + 1) (sender s)

/-- A handler comes to its search with the marks that the removal has left. -/
theorem comesTo_withoutReported (hs : Consistent s) (hserves : Serves s) (clcw : ClcwFrame) :
    ComesTo s (withoutReported clcw s)
      ((dropAcked clcw.reportValue (s.tf.copCfg.slideWnd.toNat + 1)
        s.world.queues.sentQueue).countP isAdRt) where
  serves := by
    unfold Serves
    rw [withoutReported_state]
    exact hserves
  consistent := hs.withoutReported clcw
  offered := rfl
  overrun := rfl
  marked := by rw [withoutReported_sentQueue]
  sentQueue := by
    rw [withoutReported_sentQueue]
    exact length_dropAcked_le _ _ _
  waitQueue := by
    have hwait := (acked_tf clcw.reportValue (s.tf.copCfg.slideWnd.toNat + 1) (sender s)).2
    have hsame : (withoutReported clcw s).world.queues.waitQueue = s.world.queues.waitQueue := hwait
    rw [hsame]
    exact Nat.le_succ _

/-- A handler that initiates a retransmission comes to its search with all type-A frames marked. -/
theorem ComesTo.adRetransmitting (h : ComesTo s t k) (keep : List Bool) :
    ComesTo s (adRetransmitting keep t)
      (t.world.queues.sentQueue.countP fun item => item.type = .typeA) where
  serves := h.serves
  consistent := h.consistent.adRetransmitting keep
  offered := h.offered
  overrun := h.overrun
  marked := countP_adRetransmitting keep t
  sentQueue := by
    rw [adRetransmitting_sentQueue, List.length_map]
    exact h.sentQueue
  waitQueue := h.waitQueue

theorem comesTo_refl (hs : Consistent s) (hserves : Serves s) :
    ComesTo s s (s.world.queues.sentQueue.countP isAdRt) :=
  ⟨hserves, hs, rfl, rfl, rfl, Nat.le_refl _, Nat.le_succ _⟩

/-- The timer and the state are of no account. -/
theorem ComesTo.of_queues {u : Harness} (h : ComesTo s t k) (hserves : Serves u)
    (hmission : u.tf.mission = t.tf.mission)
    (hsent : u.world.queues.sentQueue = t.world.queues.sentQueue)
    (hwait : u.world.queues.waitQueue = t.world.queues.waitQueue)
    (hoffered : u.world.offered = t.world.offered) (hover : u.world.overrun = t.world.overrun) :
    ComesTo s u k where
  serves := hserves
  consistent := by
    refine ⟨?_, ?_, ⟨?_, ?_⟩⟩
    · rw [hsent]
      exact h.consistent.nodup
    · rw [hsent]
      exact h.consistent.types
    · rw [hmission]
      exact h.consistent.packs.overhead
    · rw [hmission, hwait]
      exact h.consistent.packs.waiting
  offered := hoffered.trans h.offered
  overrun := hover.trans h.overrun
  marked := by rw [hsent, h.marked]
  sentQueue := by
    rw [hsent]
    exact h.sentQueue
  waitQueue := by
    rw [hwait]
    exact h.waitQueue

/-- The hooks of the harness remove and mark what they are asked to, and the handler goes on. -/
theorem removeAckedThen_handles {writes : Bool} {clcw : ClcwFrame}
    {next : FopM HarnessWorld Notification}
    (hnext : Handles (harnessOver keep enqueue) writes k s (next (withoutReported clcw s))) :
    Handles (harnessOver keep enqueue) writes k s
      (removeAckedThen (harnessOver keep enqueue) clcw next s) := by
  rw [removeAckedThen_harness]
  exact hnext

/-- SOURCE: osdlp_cop.c:715-780 -/
theorem fopE2_handles (hs : Consistent s) (clcw : ClcwFrame) :
    Handles (harnessOver keep enqueue) (writesBehind .e2 s.tf.copCfg.state)
      (resentBy .e2 clcw s) s (fopE2 (harnessOver keep enqueue) clcw s) := by
  have hfop : getFop s = (s.tf.copCfg, s) := rfl
  have hsearch : Serves s → Handles (harnessOver keep enqueue) false (resentBy .e2 clcw s) s
      (removeAckedThen (harnessOver keep enqueue) clcw (do
        let _ ← (harnessOver keep enqueue).timerCancel
        lookThenReport (harnessOver keep enqueue) none) s) := by
    intro hserves
    have hcomes := comesTo_withoutReported hs hserves clcw
    have htimer := hcomes.of_queues (u := withSender (withoutReported clcw s) (onWorld
      (sender (withoutReported clcw s)) fun w => { w with timerRunning := false })) hcomes.serves
      rfl rfl rfl rfl rfl
    apply removeAckedThen_handles
    show Handles _ _ _ _ (lookThenReport (harnessOver keep enqueue) none _)
    exact .searches htimer rfl (by decide)
  unfold fopE2
  rw [bind_apply, hfop]
  cases hst : s.tf.copCfg.state with
  | active => exact hsearch (.inl hst)
  | rtNoWait => exact hsearch (.inr (.inl hst))
  | rtWait => exact hsearch (.inr (.inr hst))
  | initNoBc | initBc | init => exact .quiet id

/-- SOURCE: osdlp_cop.c:950-1014 -/
theorem fopE6_handles (hs : Consistent s) (clcw : ClcwFrame) :
    Handles (harnessOver keep enqueue) (writesBehind .e6 s.tf.copCfg.state)
      (resentBy .e6 clcw s) s (fopE6 (harnessOver keep enqueue) clcw s) := by
  have hfop : getFop s = (s.tf.copCfg, s) := rfl
  have hcomes := fun hserves : Serves s => comesTo_withoutReported hs hserves clcw
  unfold fopE6
  rw [bind_apply, hfop]
  cases hst : s.tf.copCfg.state with
  | active =>
    apply removeAckedThen_handles
    exact .searches (hcomes (.inl hst)) rfl (by decide)
  | rtNoWait =>
    have hactive := (hcomes (.inr (.inl hst))).of_queues
      (u := (withoutReported clcw s).setFop
        { (withoutReported clcw s).tf.copCfg with state := .active }) (.inl rfl) rfl rfl rfl rfl rfl
    apply removeAckedThen_handles
    show Handles _ _ _ _ (lookThenReport (harnessOver keep enqueue) none _)
    exact .searches hactive rfl (by decide)
  | rtWait =>
    apply removeAckedThen_handles
    exact .searches (hcomes (.inr (.inr hst))) rfl (by decide)
  | initNoBc | initBc | init => exact .quiet id

/-- SOURCE: osdlp_cop.c:1182-1261 -/
theorem fopE8_handles (hs : Consistent s) (clcw : ClcwFrame) :
    Handles (harnessOver keep enqueue) (writesBehind .e8 s.tf.copCfg.state)
      (resentBy .e8 clcw s) s (fopE8 (harnessOver keep enqueue) clcw s) := by
  have hfop : getFop s = (s.tf.copCfg, s) := rfl
  have hsearch : ∀ after : Option FopState, after ≠ some .init → Serves s →
      Handles (harnessOver keep enqueue) after.isSome (resentBy .e8 clcw s) s
        (removeAckedThen (harnessOver keep enqueue) clcw (adRetransmissionThen
          (harnessOver keep enqueue) (lookThenReport (harnessOver keep enqueue) after)) s) := by
    intro after hinit hserves
    have hcomes := (comesTo_withoutReported hs hserves clcw).adRetransmitting keep
    rw [withoutReported_sentQueue] at hcomes
    apply removeAckedThen_handles
    rw [adRetransmissionThen_harness]
    exact .searches hcomes rfl hinit
  unfold fopE8
  rw [bind_apply, hfop]
  cases hst : s.tf.copCfg.state with
  | active => exact hsearch (some .rtNoWait) (by decide) (.inl hst)
  | rtNoWait => exact hsearch none (by decide) (.inr (.inl hst))
  | rtWait => exact hsearch (some .rtNoWait) (by decide) (.inr (.inr hst))
  | initNoBc | initBc | init => exact .quiet id

/-- SOURCE: osdlp_cop.c:1311-1364 -/
theorem fopE10_handles (hs : Consistent s) (clcw : ClcwFrame) :
    Handles (harnessOver keep enqueue) (writesBehind .e10 s.tf.copCfg.state)
      (resentBy .e10 clcw s) s (fopE10 (harnessOver keep enqueue) s) := by
  have hfop : getFop s = (s.tf.copCfg, s) := rfl
  have hsearch : Serves s → Handles (harnessOver keep enqueue) true (resentBy .e10 clcw s) s
      (adRetransmissionThen (harnessOver keep enqueue)
        (lookThenReport (harnessOver keep enqueue) (some .rtNoWait)) s) := by
    intro hserves
    rw [adRetransmissionThen_harness]
    exact .searches ((comesTo_refl hs hserves).adRetransmitting keep) rfl (by decide)
  unfold fopE10
  rw [bind_apply, hfop]
  cases hst : s.tf.copCfg.state with
  | active => exact hsearch (.inl hst)
  | rtWait => exact hsearch (.inr (.inr hst))
  | rtNoWait | initNoBc | initBc | init => exact .quiet id

/-- Every control word.
SOURCE: osdlp_cop.c:1975-2092 -/
theorem clcwEvent_handles (hs : Consistent s) (fop : FopConfig) (clcw : ClcwFrame) :
    Handles (harnessOver keep enqueue) (writesBehind (clcwKind fop clcw) s.tf.copCfg.state)
      (resentBy (clcwKind fop clcw) clcw s) s (clcwEvent (harnessOver keep enqueue) fop clcw s) := by
  have hplain := (restClosed_refusesNone keep enqueue).plainEvent
    (alertTo_refusesNone keep enqueue _)
  simp only [List.forall_mem_cons] at hplain
  obtain ⟨h3, h4, h5, h7, h11, h12, h13, h14, h102, h103, -⟩ := hplain
  have h1 := fopE1_refusesNone keep enqueue
  have h9 := @fopE9_refusesNone keep enqueue clcw
  have h101 := @fopE101_refusesNone keep enqueue clcw
  exact clcwEvent_induct (harnessOver keep enqueue) fop clcw (P := fun kind m =>
    Handles (harnessOver keep enqueue) (writesBehind kind s.tf.copCfg.state)
      (resentBy kind clcw s) s (m s)) (h1.handles _ _ s) (fopE2_handles hs clcw) (h3.handles _ _ s)
    (h4.handles _ _ s) (h5.handles _ _ s) (fopE6_handles hs clcw) (h7.handles _ _ s)
    (fopE8_handles hs clcw) (h9.handles _ _ s) (fopE10_handles hs clcw) (h11.handles _ _ s)
    (h12.handles _ _ s) (h13.handles _ _ s) (h14.handles _ _ s) (h101.handles _ _ s)
    (h102.handles _ _ s) (h103.handles _ _ s) ((answer_refusesNone _).handles _ _ s)

/-! ## The timer and requests -/

/-- The items have the type of their frames, whatever their flags. -/
theorem types_congr {items items' : List QueueItem}
    (hsame : items'.map itemCopy = items.map itemCopy)
    (htypes : ∀ item ∈ items, frameType item.fdu = item.type) :
    ∀ item ∈ items', frameType item.fdu = item.type := by
  intro item hmem
  have hcopy : itemCopy item ∈ items.map itemCopy := by
    rw [← hsame]
    exact List.mem_map_of_mem hmem
  obtain ⟨item', hin, heq⟩ := List.mem_map.mp hcopy
  obtain ⟨hfdu, -, htype⟩ := by simpa [itemCopy] using heq
  rw [← hfdu, ← htype]
  exact htypes item' hin

/-- What the search for a directive keeps: no type-A frame is refused. -/
theorem directiveInv_types : DirectiveInv
    (fun s => ¬ RefusedAd s ∧ ∀ item ∈ s.world.queues.sentQueue, frameType item.fdu = item.type)
    fun fdu => frameType fdu = .typeB where
  typeb _ htype := htype
  head s item items hs hq htype := by
    rw [hs.2 item (by rw [hq]; exact List.mem_cons_self)]
    exact htype
  noted _ _ hs := hs
  alerted _ _ hs := ⟨hs.1, fun _ hmem => absurd hmem List.not_mem_nil⟩
  flagDown _ item hs := ⟨hs.1, types_congr (map_itemCopy_resetRt item.seqNum _) hs.2⟩
  overrun _ hs := hs
  offered s fdu taken htype hs := by
    refine ⟨?_, hs.2⟩
    rw [refusedAd_offerTo_iff, htype]
    simpa using hs.1

/-- In INIT_BC no type-A frame is sent. -/
theorem bcRetransmission_refusesNone (keep : List Bool) (takes : HarnessWorld → Bool)
    (depth fuel : ℕ) (hs : Consistent s) (hnone : ¬ RefusedAd s) :
    ¬ RefusedAd (bcRetransmission (harnessHooks keep takes depth) fuel s).2 := by
  have hinv := directiveInv_types
  have hlook := @DirectiveInv.lookForDirective keep _ _ _ hinv
    (hinv.txQueueEnqueue keep takes depth) fuel (bcRetransmitting keep s)
    ⟨hnone, types_congr (map_itemCopy_markRt .typeB _) hs.types⟩
  rw [harnessHooks_over, bcRetransmission_harness]
  dsimp only
  cases (osdlpLookForDirective (harnessOver keep (harnessHooks keep takes depth).txQueueEnqueue) fuel
    (bcRetransmitting keep s)).1 with
  | none => exact hlook.1
  | some notif => exact (hinv.report notif hlook).1

/-- The handler of the event refuses no type-A frame; or it is a search in a state in which the
number of marked frames is known. -/
def Comes (h : CopHooks HarnessWorld) (writes : Bool) (k : ℕ) (s : Harness)
    (r : Option Notification × Harness) : Prop :=
  (¬ RefusedAd s → ¬ RefusedAd r.2) ∨
    ∃ (t : Harness) (after : Option FopState), ComesTo s t k ∧ after.isSome = writes ∧
      after ≠ some .init ∧ r = (some (lookThenReport h after t).1, (lookThenReport h after t).2)

/-- What a handler returns is the result of the event. -/
theorem Handles.comes {h : CopHooks HarnessWorld} {writes : Bool} {r : Notification × Harness}
    (hr : Handles h writes k s r) : Comes h writes k s (some r.1, r.2) := by
  cases hr with
  | quiet hquiet => exact .inl hquiet
  | @searches t after hcomes hafter hinit => exact .inr ⟨t, after, hcomes, hafter, hinit, rfl⟩

/-- Every frame is marked, and the search goes over all of them. -/
theorem adRetransmission_comes (hs : Consistent s) (hserves : Serves s) :
    Comes (harnessOver keep enqueue) false
      (s.world.queues.sentQueue.countP fun item => item.type = .typeA) s
      ((some <$> adRetransmissionThen (harnessOver keep enqueue)
        (lookThenReport (harnessOver keep enqueue) none)) s) := by
  rw [map_apply, adRetransmissionThen_harness]
  exact .inr ⟨_, none, (comesTo_refl hs hserves).adRetransmitting keep, rfl, nofun, rfl⟩

/-- Below the limit the expiration retransmits, where the service is being performed without a wait.
SOURCE: osdlp_cop.c:1581-1708 -/
theorem belowLimit_comes (fuel : ℕ) (hs : Consistent s)
    (hbc : ¬ RefusedAd s → ¬ RefusedAd (bcRetransmission (harnessOver keep enqueue) fuel s).2) :
    ∀ m ∈ [fopE16 (harnessOver keep enqueue) fuel, fopE104 (harnessOver keep enqueue) fuel],
      Comes (harnessOver keep enqueue) false
        (s.world.queues.sentQueue.countP fun item => item.type = .typeA) s (m s) := by
  have hfop : getFop s = (s.tf.copCfg, s) := rfl
  intro m hm
  simp only [List.mem_cons, List.not_mem_nil, or_false] at hm
  rcases hm with rfl | rfl
  · unfold fopE16
    rw [bind_apply, hfop]
    cases hst : s.tf.copCfg.state with
    | active => exact adRetransmission_comes hs (.inl hst)
    | rtNoWait => exact adRetransmission_comes hs (.inr (.inl hst))
    | initBc => exact .inl hbc
    | rtWait | initNoBc | init => exact .inl id
  · unfold fopE104
    rw [bind_apply, hfop]
    cases hst : s.tf.copCfg.state with
    | active => exact adRetransmission_comes hs (.inl hst)
    | rtNoWait => exact adRetransmission_comes hs (.inr (.inl hst))
    | initBc => exact .inl hbc
    | rtWait | initNoBc | init => exact .inl id

/-- SOURCE: osdlp_cop.c:1710-1816 -/
theorem limitReached_refusesNone (keep : List Bool) (enqueue : List UInt8 → FopM HarnessWorld Int) :
    RefusesNone (fopE17 (harnessOver keep enqueue)) ∧
      RefusesNone (fopE18 (harnessOver keep enqueue)) := by
  have halert := alertTo_refusesNone keep enqueue
  constructor
  · apply Keeps.bind getFop_refusesNone
    intro fop
    cases fop.state with
    | active | rtNoWait | rtWait | initNoBc | initBc => exact halert _
    | init => exact Keeps.pure _
  · apply Keeps.bind getFop_refusesNone
    intro fop
    cases fop.state with
    | active | rtNoWait | rtWait | initNoBc => exact fun _ hs => hs
    | initBc => exact halert _
    | init => exact Keeps.pure _

/-- SOURCE: osdlp_cop.c:2094-2125 -/
theorem osdlpHandleTimerExpired_comes (fuel : ℕ) (hs : Consistent s)
    (hbc : ¬ RefusedAd s → ¬ RefusedAd (bcRetransmission (harnessOver keep enqueue) fuel s).2) :
    Comes (harnessOver keep enqueue) false
      (s.world.queues.sentQueue.countP fun item => item.type = .typeA) s
      (osdlpHandleTimerExpired (harnessOver keep enqueue) fuel s) := by
  have hfop : getFop s = (s.tf.copCfg, s) := rfl
  obtain ⟨h17, h18⟩ := limitReached_refusesNone keep enqueue
  unfold osdlpHandleTimerExpired
  rw [bind_apply, hfop]
  dsimp only
  split_ifs
  · exact belowLimit_comes fuel hs hbc _ (by simp)
  · exact belowLimit_comes fuel hs hbc _ (by simp)
  · exact .inl id
  · exact .inl (h17 s)
  · exact .inl (h18 s)
  · exact .inl id

/-- The sender with the frame of a request. -/
def requesting (hdr : TcPrimaryHdr) (frameData : TcFdf) (s : Harness) : Harness :=
  { s with tf := { s.tf with primaryHdr := hdr, frameData := frameData } }

/-- The frame is on the wait queue. -/
def requestWaiting (s : Harness) : Harness :=
  withSender s (onWorld (sender s) fun w =>
    { w with
      waitQueue := w.waitQueue ++ [s.tf]
      accepted := w.accepted ++ [s.tf.frameData.payload] })

/-- A request comes to the search with its frame on the wait queue. -/
theorem comesTo_requestWaiting {hdr : TcPrimaryHdr} {frameData : TcFdf} (hs : Consistent s)
    (hserves : Serves s)
    (hfits : s.tf.mission.fixedOverheadLen + frameData.dataLen ≤ 65536) :
    ComesTo s (requestWaiting (requesting hdr frameData s))
      (s.world.queues.sentQueue.countP isAdRt) where
  serves := hserves
  consistent := by
    refine ⟨hs.nodup, hs.types, ⟨hs.packs.overhead, ?_⟩⟩
    intro w hmem
    rcases List.mem_append.mp hmem with hwait | hnew
    · exact hs.packs.waiting w hwait
    · rw [List.mem_singleton.mp hnew]
      exact hfits
  offered := rfl
  overrun := rfl
  marked := rfl
  sentQueue := Nat.le_refl _
  waitQueue := by
    have hlen : (requestWaiting (requesting hdr frameData s)).world.queues.waitQueue.length =
        s.world.queues.waitQueue.length + 1 := List.length_append
    exact hlen.le

/-- A request is handled by a search where it can be put onto the wait queue.
SOURCE: osdlp_cop.c:1818-1908, 2127-2150 -/
theorem osdlpReqTransferFdu_comes {hdr : TcPrimaryHdr} {frameData : TcFdf} (depth : ℕ)
    (hs : Consistent s) (hbypass : hdr.bypass = .typeA)
    (hfits : s.tf.mission.fixedOverheadLen + frameData.dataLen ≤ 65536) :
    Comes (harnessOver keep enqueue) false (s.world.queues.sentQueue.countP isAdRt) s
      ((SendingEvent.request hdr frameData).call (harnessOver keep enqueue) depth s) := by
  have hcall : (SendingEvent.request hdr frameData).call (harnessOver keep enqueue) depth s =
      (some <$> osdlpReqTransferFdu (harnessOver keep enqueue)) (requesting hdr frameData s) := rfl
  have hget : (get : FopM HarnessWorld Harness) (requesting hdr frameData s) =
      (requesting hdr frameData s, requesting hdr frameData s) := rfl
  have htype : (requesting hdr frameData s).tf.primaryHdr.bypass = .typeA := hbypass
  have hempty : (harnessOver keep enqueue).waitQueueEmpty (requesting hdr frameData s) =
      (s.world.queues.waitQueue.isEmpty, requesting hdr frameData s) := rfl
  have hfop : getFop (requesting hdr frameData s) = (s.tf.copCfg, requesting hdr frameData s) := rfl
  rw [hcall, map_apply]
  unfold osdlpReqTransferFdu
  rw [bind_apply, hget]
  dsimp only
  rw [htype]
  dsimp only
  rw [bind_apply, hempty]
  by_cases hwait : s.world.queues.waitQueue.isEmpty
  · rw [if_pos hwait]
    unfold fopE19
    rw [bind_apply, hfop]
    cases hst : s.tf.copCfg.state with
    | active => exact .inr ⟨_, none, comesTo_requestWaiting hs (.inl hst) hfits, rfl, nofun, rfl⟩
    | rtNoWait =>
      exact .inr ⟨_, none, comesTo_requestWaiting hs (.inr (.inl hst)) hfits, rfl, nofun, rfl⟩
    | rtWait | initNoBc | initBc | init => exact .inl id
  · rw [if_neg hwait]
    exact .inl id

/-- Every event. -/
theorem call_comes (keep : List Bool) (takes : HarnessWorld → Bool) (depth : ℕ)
    (event : SendingEvent) (hs : Consistent s)
    (hevent : event.RequestsAd s.tf.mission.fixedOverheadLen) :
    Comes (harnessHooks keep takes depth) (event.writesState s.tf.copCfg) (event.resent s) s
      (event.call (harnessHooks keep takes depth) depth s) := by
  have hbc := bcRetransmission_refusesNone keep takes depth depth hs
  rw [harnessHooks_over] at hbc ⊢
  cases event with
  | clcw ocf =>
    let stored : Harness := (storeClcw ocf s).2
    have hstored : Consistent stored :=
      ⟨hs.nodup, hs.types, ⟨hs.packs.overhead, hs.packs.waiting⟩⟩
    have hhandles := @clcwEvent_handles keep (harnessHooks keep takes depth).txQueueEnqueue stored
      hstored s.tf.copCfg (osdlpClcwUnpack ocf)
    rcases hhandles.comes with hquiet | ⟨t, after, hcomes, hafter, hinit, hcall⟩
    · exact .inl hquiet
    · refine .inr ⟨t, after, ?_, hafter, hinit, hcall⟩
      exact ⟨hcomes.serves, hcomes.consistent, hcomes.offered, hcomes.overrun, hcomes.marked,
        hcomes.sentQueue, hcomes.waitQueue⟩
  | timerExpired => exact osdlpHandleTimerExpired_comes depth hs hbc
  | request hdr frameData => exact osdlpReqTransferFdu_comes depth hs hevent.1 hevent.2

/-! ## The end of the service -/

/-- The number of frames that are taken before the first one is refused. -/
theorem length_takeWhile_of_refused {answers : List Bool} {n : ℕ}
    (htaken : ∀ i < n, answers.getD i true = true) (hrefused : answers.getD n true = false) :
    (answers.takeWhile id).length = n := by
  induction answers generalizing n with
  | nil => simp at hrefused
  | cons answer answers ih =>
    cases n with
    | zero =>
      have hanswer : answer = false := hrefused
      rw [hanswer]
      rfl
    | succ n =>
      have hanswer : answer = true := htaken 0 (Nat.succ_pos n)
      rw [hanswer, List.takeWhile_cons_of_pos rfl, List.length_cons,
        ih (fun i hi => htaken (i + 1) (Nat.succ_lt_succ hi)) hrefused]

/-- What is reported does not depend on the state. -/
theorem report_setState (notif : Notification) (state : FopState) (s : Harness) :
    (report notif (s.setFop { s.tf.copCfg with state := state })).1 = (report notif s).1 := by
  unfold report
  split_ifs <;> rfl

/-- Behind a search the state is written, or not; the report stays. -/
theorem lookThenReport_apply (h : CopHooks HarnessWorld) (after : Option FopState) (s : Harness) :
    (lookThenReport h after s).1 = reported (osdlpLookForFdu h s) ∧
      (lookThenReport h after s).2.world = (osdlpLookForFdu h s).2.world ∧
      (lookThenReport h after s).2.tf.copCfg.state =
        after.getD (osdlpLookForFdu h s).2.tf.copCfg.state := by
  unfold lookThenReport
  rw [bind_apply]
  cases after with
  | none =>
    show (report _ _).1 = _ ∧ (report _ _).2.world = _ ∧ (report _ _).2.tf.copCfg.state = _
    rw [report_noted]
    exact ⟨rfl, rfl, rfl⟩
  | some state =>
    let u := (osdlpLookForFdu h s).2.setFop
      { (osdlpLookForFdu h s).2.tf.copCfg with state := state }
    have hreport := report_noted (osdlpLookForFdu h s).1 u
    show (report _ u).1 = _ ∧ (report _ u).2.world = _ ∧ (report _ u).2.tf.copCfg.state = _
    refine ⟨report_setState _ _ _, ?_, ?_⟩
    · rw [hreport]
      rfl
    · rw [hreport]
      rfl

theorem refusedAd_congr (h : s.world.offered = t.world.offered) : RefusedAd s ↔ RefusedAd t := by
  unfold RefusedAd
  rw [h]

/-- **A rejection by the lower layer ends the service cleanly** if and only if the handler does not
write the state behind the search, and no waiting frame has been accepted before: at most the frames
marked for retransmission are taken before one is refused. -/
theorem endsService_iff (keep answers : List Bool) {depth : ℕ} (event : SendingEvent) {s : Harness}
    (hs : Consistent s) (hevent : event.RequestsAd s.tf.mission.fixedOverheadLen)
    (hfresh : s.world.offered = []) (hreturned : s.world.overrun = false)
    (hdepth : s.world.queues.sentQueue.length + s.world.queues.waitQueue.length + 2 ≤ depth)
    (hrefused : RefusedAd (event.call (harnessHooks keep (takesBy answers) depth) depth s).2) :
    EndsService (event.call (harnessHooks keep (takesBy answers) depth) depth s) ↔
      event.writesState s.tf.copCfg = false ∧
        (answers.takeWhile id).length ≤ event.resent s := by
  have hnone : ¬ RefusedAd s := by
    rintro ⟨frame, hmem, -⟩
    rw [hfresh] at hmem
    cases hmem
  -- an event that comes to no search offers nothing, so it is not refused
  rcases call_comes keep (takesBy answers) depth event hs hevent with
    hquiet | ⟨t, after, hcomes, hafter, hinit, hcall⟩
  · exact absurd hrefused (hquiet hnone)
  obtain ⟨hresult, hworld, hstate⟩ := lookThenReport_apply
    (harnessHooks keep (takesBy answers) depth) after t
  have hmarked := hcomes.marked
  rw [List.countP_eq_length_filter] at hmarked
  have hlen : (t.world.queues.sentQueue.filter isAdRt).length ≤ t.world.queues.sentQueue.length :=
    List.length_filter_le _ _
  have hsent := hcomes.sentQueue
  have hwait := hcomes.waitQueue
  rcases osdlpLookForFdu_ends keep answers depth hcomes.consistent.packs hcomes.serves
    hcomes.consistent.retransmittable (by omega) with hgoes | ⟨n, hended, hreported⟩
  · -- no frame was refused, against `hrefused`
    have hrefused' : RefusedAd (osdlpLookForFdu (harnessHooks keep (takesBy answers) depth) t).2 := by
      rw [hcall, refusedAd_congr (congrArg HarnessWorld.offered hworld)] at hrefused
      exact hrefused
    have hstart := hgoes.refused hrefused'
    rw [refusedAd_congr hcomes.offered] at hstart
    exact absurd hstart hnone
  · -- the search ended at the answer behind the `n` frames that were taken
    have hn : (answers.takeWhile id).length = n := by
      have htaken := hended.taken
      have hend := hended.refused
      rw [hcomes.offered, hfresh] at htaken hend
      simp only [List.length_nil, Nat.zero_add] at htaken hend
      exact length_takeWhile_of_refused htaken hend
    rw [hended.state] at hstate
    rw [hmarked] at hreported
    rw [hn, hcall]
    have hover : (osdlpLookForFdu (harnessHooks keep (takesBy answers) depth) t).2.world.overrun =
        false := hended.overrun.trans (hcomes.overrun.trans hreturned)
    constructor
    · intro hends
      have hinState := hends.state
      rw [hstate] at hinState
      constructor
      · rw [← hafter]
        cases after with
        | none => rfl
        | some state => exact absurd (congrArg some hinState) hinit
      · -- a refusal behind the marked frames is not reported
        by_contra hlong
        rw [if_neg hlong] at hreported
        exact hends.result (congrArg some (hresult.trans hreported))
    · rintro ⟨hwrites, hle⟩
      rw [if_pos hle] at hreported
      have hafter' : after = none := Option.isNone_iff_eq_none.mp (by
        rw [← Option.not_isSome, hafter, hwrites]
        rfl)
      subst hafter'
      refine ⟨⟨rfl, ?_⟩, hstate, ?_, ?_, ?_⟩
      · rw [hworld]
        exact hover
      · rw [hworld]
        exact hended.sentQueue
      · rw [hworld]
        exact hended.waitQueue
      · rw [hresult, hreported]
        simp

instance (s : Harness) : Decidable (RefusedAd s) :=
  inferInstanceAs (Decidable (∃ frame ∈ _, _ = false ∧ _ = TcBypass.typeA))

/-- A sender in the harness, before its queue has been offered anything. -/
def inHarness (s : Fop) : Harness :=
  { tf := s.tf, world := { queues := s.world, offered := [], overrun := false } }

/-- One frame is outstanding. -/
def oneSent : Fop := run senderStep activeFop [.op [] (.request dataHdr (octetFdf 7))]

/-- One frame is outstanding, and two frames wait for which there is room. -/
def twoWaiting : Fop :=
  (onWorld oneSent fun w => { w with waitQueue := [oneSent.tf, oneSent.tf] }).setFop
    { oneSent.tf.copCfg with slideWnd := 3 }

/-- The timer expires, and the frame that goes out again is refused. -/
theorem endsService_iff_timer :
    let r := SendingEvent.timerExpired.call (harnessHooks [] (takesBy [false]) 3) 3
      (inHarness oneSent)
    EndsService r ↔ SendingEvent.timerExpired.writesState (inHarness oneSent).tf.copCfg = false ∧
      ([false].takeWhile id).length ≤ SendingEvent.timerExpired.resent (inHarness oneSent) :=
  endsService_iff [] [false] .timerExpired ⟨by decide, by decide, ⟨by decide, by decide⟩⟩ trivial rfl
    rfl (by decide) (by decide)

/-- After a control word that asks for a retransmission the frame is refused, and the state is not
INIT but RT_NO_WAIT.  After an expiration of the timer the frame and the first waiting frame are taken
and the second one is refused, and the handler says that a frame has been accepted. -/
theorem not_endsService_retransmission :
    let refused := (SendingEvent.clcw [0, 0, 8, 0]).call (harnessHooks [] (takesBy [false]) 3) 3
      (inHarness oneSent)
    let accepted := SendingEvent.timerExpired.call
      (harnessHooks [] (takesBy [true, true, false]) 5) 5 (inHarness twoWaiting)
    RefusedAd refused.2 ∧ refused.2.tf.copCfg.state = .rtNoWait ∧ ¬ EndsService refused ∧
      RefusedAd accepted.2 ∧ accepted.1 = some .acceptTx ∧ ¬ EndsService accepted := by
  intro refused accepted
  have hstate : refused.2.tf.copCfg.state = .rtNoWait := by decide
  have hresult : accepted.1 = some .acceptTx := by decide
  refine ⟨by decide, hstate, fun hends => ?_, by decide, hresult, fun hends => hends.result hresult⟩
  have hinit := hends.state
  rw [hstate] at hinit
  cases hinit

end Osdlp.Analysis
