import Osdlp.Interface.Reentrant

/-!
# A queue that may refuse

`osdlp_tc_tx_queue_enqueue` of the test harness responds to every frame, to one that is refused as
well, before it returns.  Which frames the queue takes is the argument `takes` of `harnessHooks`.
The other hooks are the queues of `fifoHooks`.  `offered` is history: the frames that the queue has
been offered, and whether it has taken them.  The recursion through the responses is followed to a
depth, and `overrun` says that it has gone deeper.
-/

set_option autoImplicit false

namespace Osdlp.Interface

open Osdlp.Model Osdlp.Library

/-- The user's state. -/
structure HarnessWorld where
  queues : FifoWorld
  offered : List (List UInt8 × Bool)
  overrun : Bool
  deriving DecidableEq, Repr

/-- A sender in the test harness. -/
abbrev Harness := FopSt HarnessWorld

/-- The sender with its queues alone. -/
def sender (s : Harness) : Fop := { tf := s.tf, world := s.world.queues }

/-- The harness with another sender. -/
def withSender (s : Harness) (t : Fop) : Harness :=
  { tf := t.tf, world := { s.world with queues := t.world } }

variable {α β : Type}

/-- A program of the sender, run in the harness. -/
def onSender (m : FopM FifoWorld α) : FopM HarnessWorld α := fun s =>
  ((m (sender s)).1, withSender s (m (sender s)).2)

theorem onSender_bind (m : FopM FifoWorld α) (k : α → FopM FifoWorld β) :
    onSender (m >>= k) = onSender m >>= fun a => onSender (k a) := rfl

theorem onSender_ite (c : Prop) [Decidable c] (m n : FopM FifoWorld α) :
    onSender (if c then m else n) = if c then onSender m else onSender n :=
  apply_ite onSender c m n

@[simp] theorem sender_withSender (s : Harness) (t : Fop) : sender (withSender s t) = t := rfl

@[simp] theorem withSender_withSender (s : Harness) (t u : Fop) :
    withSender (withSender s t) u = withSender s u := rfl

@[simp] theorem withSender_sender (s : Harness) : withSender s (sender s) = s := rfl

@[simp] theorem withSender_tf (s : Harness) (t : Fop) : (withSender s t).tf = t.tf := rfl

@[simp] theorem withSender_queues (s : Harness) (t : Fop) :
    (withSender s t).world.queues = t.world := rfl

@[simp] theorem withSender_offered (s : Harness) (t : Fop) :
    (withSender s t).world.offered = s.world.offered := rfl

@[simp] theorem withSender_overrun (s : Harness) (t : Fop) :
    (withSender s t).world.overrun = s.world.overrun := rfl

/-- The hooks over a transmission queue.  The flag of an item is only taken down if the item is
there.  SOURCE: test.c:57-357 -/
def harnessOver (keep : List Bool) (txQueueEnqueue : List UInt8 → FopM HarnessWorld Int) :
    CopHooks HarnessWorld where
  timerStart := onSender (fifoHooks keep).timerStart
  timerCancel := onSender (fifoHooks keep).timerCancel
  cancelLowerOps := onSender (fifoHooks keep).cancelLowerOps
  markAdAsRt := onSender (fifoHooks keep).markAdAsRt
  markBcAsRt := onSender (fifoHooks keep).markBcAsRt
  getFirstAdRtFrame := onSender (fifoHooks keep).getFirstAdRtFrame
  resetRtFrame item := do
    let s ← get
    if s.world.queues.sentQueue.any fun item' => item'.seqNum = item.seqNum then
      onSender ((fifoHooks keep).resetRtFrame item)
    else
      return -1
  waitQueueEnqueue := onSender (fifoHooks keep).waitQueueEnqueue
  waitQueueDequeue := onSender (fifoHooks keep).waitQueueDequeue
  waitQueueEmpty := onSender (fifoHooks keep).waitQueueEmpty
  waitQueueClear := onSender (fifoHooks keep).waitQueueClear
  sentQueueEnqueue item := onSender ((fifoHooks keep).sentQueueEnqueue item)
  sentQueueDequeue := onSender (fifoHooks keep).sentQueueDequeue
  sentQueueEmpty := onSender (fifoHooks keep).sentQueueEmpty
  sentQueueClear := onSender (fifoHooks keep).sentQueueClear
  sentQueueHead := onSender (fifoHooks keep).sentQueueHead
  txQueueEnqueue := txQueueEnqueue

/-- The recursion is deeper than it is followed. -/
def markOverrun : FopM HarnessWorld Unit :=
  modify fun s => { s with world := { s.world with overrun := true } }

/-- A frame has been offered to the queue. -/
def offerTo (fdu : List UInt8) (taken : Bool) (s : Harness) : Harness :=
  { s with world :=
    { s.world with
      queues :=
        { s.world.queues with
          txQueue := if taken then s.world.queues.txQueue ++ [fdu] else s.world.queues.txQueue }
      offered := s.world.offered ++ [(fdu, taken)] } }

/-- The response to a frame that has been offered.
SOURCE: test.c:192-220 -/
def respondTo (h : CopHooks HarnessWorld) (fuel : ℕ) (fdu : List UInt8) (taken : Bool) :
    FopM HarnessWorld Unit := do
  match frameType fdu, TcCtrl.ofOctet ((fdu.getD 0 0 >>> 4) &&& 0x01) with
  | .typeB, .command =>
    if taken then
      let result ← osdlpBcAccept h fuel
      if result.isNone then
        markOverrun
    else
      let _ ← osdlpBcReject h
  | .typeB, .data =>
    if taken then
      let _ ← osdlpBdAccept
    else
      let _ ← osdlpBdReject h
  | .typeA, _ =>
    if taken then
      let _ ← osdlpAdAccept h
    else
      let _ ← osdlpAdReject h

/-- The hooks of the test harness, to a depth. -/
def harnessHooks (keep : List Bool) (takes : HarnessWorld → Bool) : ℕ → CopHooks HarnessWorld
  | 0 =>
    harnessOver keep fun _ => do
      markOverrun
      return 0
  | depth + 1 =>
    harnessOver keep fun fdu => do
      let s ← get
      modify (offerTo fdu (takes s.world))
      respondTo (harnessHooks keep takes depth) depth fdu (takes s.world)
      return if takes s.world then 0 else -1

variable {keep : List Bool} {takes : HarnessWorld → Bool}
  {enqueue : List UInt8 → FopM HarnessWorld Int} {depth : ℕ} {s t : Harness}

/-- Only the transmission queue is different from depth to depth. -/
theorem harnessHooks_over (keep : List Bool) (takes : HarnessWorld → Bool) (depth : ℕ) :
    harnessHooks keep takes depth =
      harnessOver keep (harnessHooks keep takes depth).txQueueEnqueue := by
  cases depth <;> rfl

/-! ## What does not offer a frame -/

/-- The alert of the lower layer. -/
theorem alertTo_harness (notif : Notification) (s : Harness) :
    alertTo (harnessOver keep enqueue) notif s =
      (notif, withSender s (alerted notif (sender s))) := rfl

/-- A rejection by the lower layer ends in the same state from every one. -/
theorem rejectAlert_harness (s : Harness) :
    rejectAlert (harnessOver keep enqueue) s =
      (.alertLlif, withSender s (alerted .alertLlif (sender s))) := by
  unfold rejectAlert
  rw [bind_apply]
  have hfop : getFop s = (s.tf.copCfg, s) := rfl
  rw [hfop]
  cases hst : s.tf.copCfg.state with
  | active | rtNoWait | rtWait | initNoBc | initBc => exact alertTo_harness .alertLlif s
  | init =>
    exact congrArg (fun r => (r.1, withSender s r.2))
      (alertInInit_apply keep .alertLlif (sender s) hst)

/-- Removing acknowledged frames is a matter of the sender alone.
SOURCE: osdlp_cop.c:615-642 -/
theorem removeAckedLoop_harness (nr : UInt8) (counter rounds : ℕ) :
    removeAckedLoop (harnessOver keep enqueue) nr counter rounds =
      onSender (removeAckedLoop (fifoHooks keep) nr counter rounds) := by
  induction rounds generalizing counter with
  | zero => rfl
  | succ rounds ih =>
    rw [removeAckedLoop, removeAckedLoop, onSender_bind]
    refine congrArg (onSender (fifoHooks keep).sentQueueHead >>= ·) (funext fun head => ?_)
    cases head with
    | none => rfl
    | some item =>
      dsimp only
      rw [onSender_ite, onSender_bind, ih]
      refine congrArg (ite _ _) (congrArg (onSender (fifoHooks keep).sentQueueDequeue >>= ·)
        (funext fun ret => ?_))
      rw [onSender_ite, onSender_bind]
      refine congrArg (ite _ _) (congrArg (modifyFop _ >>= ·) (funext fun _ => ?_))
      rw [onSender_bind]
      refine congrArg (getFop >>= ·) (funext fun fop => ?_)
      rw [onSender_ite]
      rfl

/-- The loop only uses hooks that act on the sender. -/
theorem osdlpRemoveAckedFrames_harness (nr : UInt8) :
    osdlpRemoveAckedFrames (harnessOver keep enqueue) nr =
      onSender (osdlpRemoveAckedFrames (fifoHooks keep) nr) :=
  removeAckedLoop_harness nr 0 256

/-- So a removal in the harness is one of the sender. -/
theorem removeAckedThen_harness (clcw : ClcwFrame) (next : FopM HarnessWorld Notification)
    (s : Harness) :
    removeAckedThen (harnessOver keep enqueue) clcw next s =
      next (withSender s
        (acked clcw.reportValue (s.tf.copCfg.slideWnd.toNat + 1) (sender s))) := by
  obtain ⟨code, hremove⟩ := osdlpRemoveAckedFrames_apply keep clcw.reportValue (sender s)
  have hcode : ¬ (code : Int) < 0 := by omega
  unfold removeAckedThen
  rw [bind_apply, osdlpRemoveAckedFrames_harness]
  unfold onSender
  rw [hremove]
  simp only [hcode, if_false]
  rfl

/-! ## The transmission queue -/

/-- A frame that the queue takes is responded to.
SOURCE: test.c:192-220 -/
theorem enqueue_taken (depth : ℕ) (fdu : List UInt8) (s : Harness) (htakes : takes s.world = true) :
    (harnessHooks keep takes (depth + 1)).txQueueEnqueue fdu s =
      (0, (respondTo (harnessHooks keep takes depth) depth fdu true (offerTo fdu true s)).2) := by
  have henqueue : (harnessHooks keep takes (depth + 1)).txQueueEnqueue fdu s =
      (if takes s.world then 0 else -1,
        (respondTo (harnessHooks keep takes depth) depth fdu (takes s.world)
          (offerTo fdu (takes s.world) s)).2) := rfl
  rw [henqueue, htakes]
  rfl

/-- A frame that it refuses ends the service, whatever its type.
SOURCE: test.c:192-220 -/
theorem enqueue_refused (depth : ℕ) (fdu : List UInt8) (s : Harness)
    (htakes : takes s.world = false) :
    (harnessHooks keep takes (depth + 1)).txQueueEnqueue fdu s =
      (-1, withSender (offerTo fdu false s)
        (alerted .alertLlif (sender (offerTo fdu false s)))) := by
  have henqueue : (harnessHooks keep takes (depth + 1)).txQueueEnqueue fdu s =
      (if takes s.world then 0 else -1,
        (respondTo (harnessHooks keep takes depth) depth fdu (takes s.world)
          (offerTo fdu (takes s.world) s)).2) := rfl
  have hreject : (rejectAlert (harnessHooks keep takes depth) (offerTo fdu false s)).2 =
      withSender (offerTo fdu false s) (alerted .alertLlif (sender (offerTo fdu false s))) := by
    rw [harnessHooks_over, rejectAlert_harness]
  rw [henqueue, htakes, ← hreject]
  refine Prod.ext rfl ?_
  unfold respondTo osdlpBcReject osdlpBdReject osdlpAdReject
  cases frameType fdu with
  | typeA => rfl
  | typeB =>
    cases TcCtrl.ofOctet ((fdu.getD 0 0 >>> 4) &&& 0x01) with
    | command | data => rfl

/-! ## The search -/

/-- The sender with the flag of an item down. -/
def flagDown (item : QueueItem) (s : Fop) : Fop :=
  onWorld s fun w => { w with sentQueue := resetRt item.seqNum w.sentQueue }

/-- The first waiting frame has been packed and is in the sent queue. -/
def drawnOff (s : Fop) : Fop :=
  onWorld (transmitted s) fun w => { w with txQueue := s.world.txQueue }

/-- SOURCE: osdlp_cop.c:398-412 -/
theorem lookForRetransmission_harness (s : Harness) :
    lookForRetransmission (harnessOver keep enqueue) s =
      match s.world.queues.sentQueue.find? isAdRt with
      | none => (none, s)
      | some item =>
        let sent := enqueue item.fdu (withSender s (flagDown item (sender s)))
        if sent.1 < 0 then (some .undefError, (answer .undefError sent.2).2) else (none, sent.2) := by
  have hempty : (harnessOver keep enqueue).sentQueueEmpty s =
      (s.world.queues.sentQueue.isEmpty, s) := rfl
  have hfind : (harnessOver keep enqueue).getFirstAdRtFrame s =
      (s.world.queues.sentQueue.find? isAdRt, s) := rfl
  unfold lookForRetransmission
  rw [bind_apply, hempty]
  cases hq : s.world.queues.sentQueue with
  | nil => rfl
  | cons head items =>
    simp only [List.isEmpty_cons, Bool.false_eq_true, if_false]
    rw [bind_apply, hfind, hq]
    cases hfirst : (head :: items).find? isAdRt with
    | none => rfl
    | some item =>
      have hany : (s.world.queues.sentQueue.any fun item' => item'.seqNum = item.seqNum) = true := by
        rw [List.any_eq_true, hq]
        exact ⟨item, List.mem_of_find?_eq_some hfirst, decide_eq_true rfl⟩
      have hreset : (harnessOver keep enqueue).resetRtFrame item s =
          (0, withSender s (flagDown item (sender s))) := by
        show (if _ then _ else _ : FopM HarnessWorld Int) s = _
        rw [if_pos hany]
        rfl
      dsimp only
      rw [bind_apply, hreset]
      simp only [Int.lt_irrefl, if_false]
      rw [bind_apply, ite_apply_state]
      rfl

/-- SOURCE: osdlp_cop.c:482-514 -/
theorem osdlpTransmitTypeAd_harness (s : Harness) :
    osdlpTransmitTypeAd (harnessOver keep enqueue) s =
      let sent := enqueue (packedWaiting (sender s)).1 (withSender s (drawnOff (sender s)))
      (if sent.1 < 0 then -1 else 0, sent.2) := by
  obtain ⟨crc, hpack⟩ := osdlpTcPack_snd s.tf
    (s.world.queues.waitQueue.headD default).frameData.data
    (s.world.queues.waitQueue.headD default).frameData.dataLen
  have hdequeue : (harnessOver keep enqueue).waitQueueDequeue s =
      (s.world.queues.waitQueue.headD default,
        withSender s (onWorld (sender s) fun w => { w with waitQueue := w.waitQueue.tail })) := rfl
  have hempty : ∀ t : Harness, (harnessOver keep enqueue).sentQueueEmpty t =
      (t.world.queues.sentQueue.isEmpty, t) := fun _ => rfl
  have hend : ∀ (fdu : List UInt8) (t : Harness),
      (enqueue fdu >>= fun ret => if ret < 0 then pure (-1) else pure 0) t =
        ((if (enqueue fdu t).1 < 0 then -1 else 0 : Int), (enqueue fdu t).2) := by
    intro fdu t
    rw [bind_apply]
    split_ifs <;> rfl
  unfold drawnOff transmitted newItem packedWaiting sender
  simp only [hpack]
  unfold osdlpTransmitTypeAd packFrame
  simp only [bind_apply, get_apply, hdequeue, withSender_tf, onWorld_tf, sender, hpack, set_apply,
    pure_apply, hempty, withSender_queues, onWorld_world]
  cases hq : s.world.queues.sentQueue.isEmpty with
  | true => exact hend _ _
  | false => exact hend _ _

/-- SOURCE: osdlp_cop.c:415-449 -/
theorem lookForWaiting_harness (s : Harness) :
    lookForWaiting (harnessOver keep enqueue) s =
      if s.world.queues.waitQueue.isEmpty then (.ignore, s)
      else if fopRoom s.tf.copCfg then
        let sent := enqueue (packedWaiting (sender s)).1 (withSender s (drawnOff (sender s)))
        if sent.1 < 0 then answer .undefError sent.2 else answer .acceptTx sent.2
      else answer .delayResp s := by
  have hempty : (harnessOver keep enqueue).waitQueueEmpty s =
      (s.world.queues.waitQueue.isEmpty, s) := rfl
  have hfop : getFop s = (s.tf.copCfg, s) := rfl
  unfold lookForWaiting
  simp only [bind_apply, hempty, hfop, ite_apply_state, pure_apply, osdlpTransmitTypeAd_harness]
  split_ifs <;> first | rfl | omega

/-! ## The search for a directive -/

/-- The octets of a type-B command frame. -/
def IsBcFrame (fdu : List UInt8) : Prop :=
  frameType fdu = .typeB ∧ TcCtrl.ofOctet ((fdu.getD 0 0 >>> 4) &&& 0x01) = .command

instance (fdu : List UInt8) : Decidable (IsBcFrame fdu) := inferInstanceAs (Decidable (_ ∧ _))

/-- A notification written to the signal field. -/
def noted (notif : Notification) (s : Harness) : Harness :=
  s.setFop { s.tf.copCfg with signal := notif }

/-- What is reported is in the signal field. -/
theorem report_noted (notif : Notification) (s : Harness) :
    report notif s = ((report notif s).1, noted (report notif s).1 s) := by
  unfold report
  split_ifs
  · rfl
  · rfl

/-- A report writes the signal at most. -/
theorem report_state (notif : Notification) (s : Harness) :
    (report notif s).2.tf.copCfg.state = s.tf.copCfg.state := by
  rw [report_noted]
  rfl

/-- SOURCE: osdlp_cop.c:452-480 -/
theorem osdlpLookForDirective_harness (fuel : ℕ) (s : Harness) :
    osdlpLookForDirective (harnessOver keep enqueue) (fuel + 1) s =
      match s.world.queues.sentQueue with
      | [] => (some .undefError, (answer .undefError s).2)
      | item :: _ =>
        if item.rtFlag ∧ item.type = .typeB then
          let sent := enqueue item.fdu s
          if sent.1 < 0 then
            (some .alertLlif, withSender sent.2 (alerted .alertLlif (sender sent.2)))
          else
            let reset := (harnessOver keep enqueue).resetRtFrame { item with rtFlag := false } sent.2
            if reset.1 < 0 then (some .undefError, reset.2)
            else bcAcceptWith (osdlpLookForDirective (harnessOver keep enqueue) fuel) reset.2
        else (some .acceptDir, s) := by
  have hhead : (harnessOver keep enqueue).sentQueueHead s =
      (s.world.queues.sentQueue.head?, s) := rfl
  rw [osdlpLookForDirective, bind_apply, hhead]
  cases hq : s.world.queues.sentQueue with
  | nil => rfl
  | cons item items =>
    simp only [List.head?_cons, ite_apply_state]
    refine if_congr Iff.rfl ?_ rfl
    rw [bind_apply, ite_apply_state]
    refine if_congr Iff.rfl ?_ ?_
    · rw [map_apply, osdlpBcReject, rejectAlert_harness]
      rfl
    · rw [bind_apply, ite_apply_state]
      rfl

/-- Taking a flag down leaves the variables, and the frames in the sent queue. -/
theorem resetRtFrame_harness (item : QueueItem) (s : Harness) :
    ((harnessOver keep enqueue).resetRtFrame item s).2 = s ∨
      ((harnessOver keep enqueue).resetRtFrame item s).2 =
        withSender s (flagDown item (sender s)) := by
  have hreset : (harnessOver keep enqueue).resetRtFrame item s =
      (if s.world.queues.sentQueue.any fun item' => item'.seqNum = item.seqNum then
        onSender ((fifoHooks keep).resetRtFrame item)
      else
        return -1 : FopM HarnessWorld Int) s := rfl
  rw [hreset]
  split_ifs
  · exact .inr rfl
  · exact .inl rfl

/-- Taking a flag down leaves the octets of all items. -/
theorem resetRt_fdu (seqNum : UInt8) (items : List QueueItem) :
    (resetRt seqNum items).map QueueItem.fdu = items.map QueueItem.fdu := by
  induction items with
  | nil => rfl
  | cons item items ih =>
    unfold resetRt
    split_ifs
    · rfl
    · rw [List.map_cons, ih, List.map_cons]

/-- What a search for a directive has found is reported. -/
theorem reported_apply (look : FopM HarnessWorld (Option Notification)) (s : Harness) :
    (do
      let result ← look
      match result with
      | none => return none
      | some notif => some <$> report notif : FopM HarnessWorld (Option Notification)) s =
      ((look s).1.map fun notif => (report notif (look s).2).1,
        (look s).1.elim (look s).2 fun notif => (report notif (look s).2).2) := by
  rw [bind_apply]
  cases (look s).1 with
  | none => rfl
  | some notif => rfl

/-- SOURCE: osdlp_cop.c:2866-2894 -/
theorem bcAcceptWith_initBc (look : FopM HarnessWorld (Option Notification))
    (hst : s.tf.copCfg.state = .initBc) :
    bcAcceptWith look s =
      ((look s).1.map fun notif => (report notif (look s).2).1,
        (look s).1.elim (look s).2 fun notif => (report notif (look s).2).2) := by
  unfold bcAcceptWith
  rw [bind_apply]
  have hfop : getFop s = (s.tf.copCfg, s) := rfl
  rw [hfop, hst]
  exact reported_apply look s

/-- An acceptance outside INIT_BC does nothing. -/
theorem bcAcceptWith_other (look : FopM HarnessWorld (Option Notification))
    (hst : s.tf.copCfg.state ≠ .initBc) : bcAcceptWith look s = (some .ignore, s) := by
  unfold bcAcceptWith
  rw [bind_apply]
  have hfop : getFop s = (s.tf.copCfg, s) := rfl
  rw [hfop]
  cases hcases : s.tf.copCfg.state with
  | active | rtNoWait | rtWait | initNoBc | init => rfl
  | initBc => exact absurd hcases hst

/-- The sender in which the retransmission of a command has been initiated. -/
def bcRetransmitting (keep : List Bool) (s : Harness) : Harness :=
  withSender s <| (onWorld (sender s) fun w =>
    { w with
      txQueue := survivors keep w.txQueue
      timerRunning := true
      sentQueue := w.sentQueue.map (markRt .typeB) }).setFop (nextTxCnt s.tf.copCfg)

/-- SOURCE: osdlp_cop.c:578-593 -/
theorem osdlpInitiateBcRetransmission_harness (s : Harness) :
    osdlpInitiateBcRetransmission (harnessOver keep enqueue) s = (0, bcRetransmitting keep s) := rfl

/-- Marking the command and searching for it. -/
theorem bcRetransmission_harness (fuel : ℕ) (s : Harness) :
    bcRetransmission (harnessOver keep enqueue) fuel s =
      let looked := osdlpLookForDirective (harnessOver keep enqueue) fuel (bcRetransmitting keep s)
      (looked.1.map fun notif => (report notif looked.2).1,
        looked.1.elim looked.2 fun notif => (report notif looked.2).2) := by
  unfold bcRetransmission
  rw [bind_apply, osdlpInitiateBcRetransmission_harness]
  exact reported_apply _ _

/-- The response to a command that has been taken is a search for a directive.
SOURCE: test.c:192-220 -/
theorem respondTo_bcFrame {fdu : List UInt8} (hframe : IsBcFrame fdu) (h : CopHooks HarnessWorld)
    (fuel : ℕ) (s : Harness) :
    (respondTo h fuel fdu true s).2 =
      if (osdlpBcAccept h fuel s).1.isNone then (markOverrun (osdlpBcAccept h fuel s).2).2
      else (osdlpBcAccept h fuel s).2 := by
  unfold respondTo
  rw [hframe.1, hframe.2]
  simp only [if_true, bind_apply, ite_apply_state]
  split_ifs
  · rfl
  · rfl

/-- What the search for a directive keeps, and the frames that it sends. -/
structure DirectiveInv (I : Harness → Prop) (Sends : List UInt8 → Prop) : Prop where
  typeb : ∀ fdu, Sends fdu → frameType fdu = .typeB
  head : ∀ (s : Harness) (item : QueueItem) (items : List QueueItem), I s →
    s.world.queues.sentQueue = item :: items → item.type = .typeB → Sends item.fdu
  noted : ∀ (s : Harness) (notif : Notification), I s → I (noted notif s)
  alerted : ∀ (s : Harness) (notif : Notification), I s →
    I (withSender s (alerted notif (sender s)))
  flagDown : ∀ (s : Harness) (item : QueueItem), I s → I (withSender s (flagDown item (sender s)))
  overrun : ∀ s : Harness, I s → I (markOverrun s).2
  offered : ∀ (s : Harness) (fdu : List UInt8) (taken : Bool), Sends fdu → I s →
    I (offerTo fdu taken s)

variable {I : Harness → Prop} {Sends : List UInt8 → Prop}

/-- A report keeps what a written signal keeps. -/
theorem DirectiveInv.report (hinv : DirectiveInv I Sends) (notif : Notification) (hs : I s) :
    I (report notif s).2 := by
  rw [report_noted]
  exact hinv.noted s _ hs

/-- Taking a flag down keeps it whether the item is there or not. -/
theorem DirectiveInv.resetRtFrame (hinv : DirectiveInv I Sends) (item : QueueItem) (hs : I s) :
    I ((harnessOver keep enqueue).resetRtFrame item s).2 := by
  have hreset := @resetRtFrame_harness keep enqueue item s
  rcases hreset with hreset | hreset
  · rw [hreset]
    exact hs
  · rw [hreset]
    exact hinv.flagDown s item hs

/-- An acceptance keeps what its search keeps. -/
theorem DirectiveInv.bcAcceptWith (hinv : DirectiveInv I Sends)
    {look : FopM HarnessWorld (Option Notification)} (hlook : Keeps I look) :
    Keeps I (bcAcceptWith look) := by
  intro s hs
  by_cases hst : s.tf.copCfg.state = .initBc
  · have hlooked := hlook s hs
    rw [bcAcceptWith_initBc look hst]
    cases (look s).1 with
    | none => exact hlooked
    | some notif => exact hinv.report notif hlooked
  · rw [bcAcceptWith_other look hst]
    exact hs

/-- The search keeps what the queue keeps. -/
theorem DirectiveInv.lookForDirective (hinv : DirectiveInv I Sends)
    (henqueue : ∀ fdu, Sends fdu → Keeps I (enqueue fdu)) (fuel : ℕ) :
    Keeps I (osdlpLookForDirective (harnessOver keep enqueue) fuel) := by
  induction fuel with
  | zero => exact fun _ hs => hs
  | succ fuel ih =>
    intro s hs
    rw [osdlpLookForDirective_harness]
    cases hq : s.world.queues.sentQueue with
    | nil => exact hinv.noted s _ hs
    | cons item items =>
      dsimp only
      split_ifs with hmarked
      all_goals have hsent := fun hcond : item.rtFlag ∧ item.type = .typeB =>
        henqueue item.fdu (hinv.head s item items hs hq hcond.2) s hs
      · exact hinv.alerted _ _ (hsent hmarked)
      · exact hinv.resetRtFrame _ (hsent hmarked)
      · exact hinv.bcAcceptWith ih _ (hinv.resetRtFrame _ (hsent hmarked))
      · exact hs

/-- The queue keeps what the search keeps.  By induction on the depth. -/
theorem DirectiveInv.txQueueEnqueue (hinv : DirectiveInv I Sends) (keep : List Bool)
    (takes : HarnessWorld → Bool) (depth : ℕ) :
    ∀ fdu, Sends fdu → Keeps I ((harnessHooks keep takes depth).txQueueEnqueue fdu) := by
  induction depth with
  | zero => exact fun fdu _ s hs => hinv.overrun s hs
  | succ depth ih =>
    intro fdu hsends s hs
    cases htakes : takes s.world with
    | false =>
      rw [enqueue_refused depth fdu s htakes]
      exact hinv.alerted _ _ (hinv.offered s fdu false hsends hs)
    | true =>
      have hoffered := hinv.offered s fdu true hsends hs
      rw [enqueue_taken depth fdu s htakes]
      cases hctrl : TcCtrl.ofOctet ((fdu.getD 0 0 >>> 4) &&& 0x01) with
      | command =>
        have hlook := @DirectiveInv.lookForDirective keep _ _ _ hinv ih depth
        rw [← harnessHooks_over] at hlook
        have haccept := hinv.bcAcceptWith hlook _ hoffered
        rw [respondTo_bcFrame ⟨hinv.typeb fdu hsends, hctrl⟩]
        split_ifs
        · exact hinv.overrun _ haccept
        · exact haccept
      | data =>
        unfold respondTo
        rw [hinv.typeb fdu hsends, hctrl]
        exact hinv.noted _ _ hoffered

end Osdlp.Interface
