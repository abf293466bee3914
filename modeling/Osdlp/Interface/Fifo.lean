import Osdlp.Model.Fop

/-!
# Hooks that are queues

The user's side as its documentation describes it: the wait, sent and transmission queues
are lists that copy what they are given, no hook fails, and none calls back into the FOP.
`osdlp_cancel_lower_ops` may drop any frames that have not left yet; `keep` says which
ones stay.  `accepted` is history: the payloads that went onto the wait queue.

Under these hooks the operations of `Osdlp.Model.FopOps` compute, and each of the lemmas
below says what.
-/

set_option autoImplicit false

namespace Osdlp.Interface

open Osdlp.Model Osdlp.Library

/-- The elements that a mask keeps; elements beyond the mask stay. -/
def survivors {α : Type} : List Bool → List α → List α
  | true :: keep, x :: xs => x :: survivors keep xs
  | false :: keep, _ :: xs => survivors keep xs
  | _, xs => xs

/-- A mask leaves out frames and does not reorder them. -/
theorem survivors_sublist {α : Type} (keep : List Bool) (xs : List α) :
    (survivors keep xs).Sublist xs := by
  induction xs generalizing keep with
  | nil => cases keep with
    | nil => simp [survivors]
    | cons b keep => cases b <;> simp [survivors]
  | cons x xs ih =>
    cases keep with
    | nil => simp [survivors]
    | cons b keep =>
      cases b with
      | true => exact (ih keep).cons_cons x
      | false => exact (ih keep).cons x

/-- What a mask keeps of two lists that correspond, corresponds. -/
theorem forall₂_survivors {α β : Type} {R : α → β → Prop} {xs : List α} {ys : List β}
    (h : List.Forall₂ R xs ys) (keep : List Bool) :
    List.Forall₂ R (survivors keep xs) (survivors keep ys) := by
  induction h generalizing keep with
  | nil => cases keep with
    | nil => exact .nil
    | cons b keep => cases b <;> exact .nil
  | cons hxy h ih =>
    cases keep with
    | nil => exact .cons hxy h
    | cons b keep =>
      cases b with
      | true => exact .cons hxy (ih keep)
      | false => exact ih keep

/-- Every sublist is what some mask keeps. -/
theorem exists_survivors {α : Type} {ys xs : List α} (h : ys.Sublist xs) :
    ∃ keep, survivors keep xs = ys := by
  induction h with
  | slnil => exact ⟨[], rfl⟩
  | cons x _ ih =>
    obtain ⟨keep, hkeep⟩ := ih
    exact ⟨false :: keep, hkeep⟩
  | cons_cons x _ ih =>
    obtain ⟨keep, hkeep⟩ := ih
    exact ⟨true :: keep, congrArg (x :: ·) hkeep⟩

/-- The user's state. -/
structure FifoWorld where
  waitQueue : List FopFrame
  sentQueue : List QueueItem
  txQueue : List (List UInt8)
  timerRunning : Bool
  accepted : List (List UInt8)
  deriving DecidableEq, Repr

/-- A sender with its queues. -/
abbrev Fop := FopSt FifoWorld

/-- The sender with another user's state. -/
def onWorld (s : Fop) (f : FifoWorld → FifoWorld) : Fop := { s with world := f s.world }

@[simp] theorem onWorld_tf (s : Fop) (f : FifoWorld → FifoWorld) : (onWorld s f).tf = s.tf := rfl

@[simp] theorem onWorld_world (s : Fop) (f : FifoWorld → FifoWorld) :
    (onWorld s f).world = f s.world := rfl

/-- A hook that changes the user's state and succeeds. -/
def act (f : FifoWorld → FifoWorld) : FopM FifoWorld Int := do
  modify fun s => onWorld s f
  return 0

/-- A hook that looks at the user's state. -/
def ask {α : Type} (f : FifoWorld → α) : FopM FifoWorld α := do
  return f (← get).world

/-- An item marked for retransmission, if it is of the given type. -/
def markRt (type : TcBypass) (item : QueueItem) : QueueItem :=
  if item.type = type then { item with rtFlag := true } else item

@[simp] theorem markRt_seqNum (type : TcBypass) (item : QueueItem) :
    (markRt type item).seqNum = item.seqNum := by
  unfold markRt
  split_ifs <;> rfl

@[simp] theorem markRt_fdu (type : TcBypass) (item : QueueItem) :
    (markRt type item).fdu = item.fdu := by
  unfold markRt
  split_ifs <;> rfl

@[simp] theorem markRt_type (type : TcBypass) (item : QueueItem) :
    (markRt type item).type = item.type := by
  unfold markRt
  split_ifs <;> rfl

/-- The queue with the flag of the first item of that number down. -/
def resetRt (seqNum : UInt8) : List QueueItem → List QueueItem
  | [] => []
  | item :: items =>
    if item.seqNum = seqNum then { item with rtFlag := false } :: items
    else item :: resetRt seqNum items

/-- An item marked for retransmission. -/
def isAdRt (item : QueueItem) : Bool := item.rtFlag && item.type = .typeA

/-- Marking type-A items leaves exactly these to be retransmitted. -/
theorem isAdRt_markRt (item : QueueItem) : isAdRt (markRt .typeA item) = (item.type = .typeA) := by
  unfold markRt isAdRt
  split_ifs with htype
  · simp [htype]
  · simp [htype]

/-- The hooks.  `keep` says which frames survive `osdlp_cancel_lower_ops`. -/
def fifoHooks (keep : List Bool) : CopHooks FifoWorld where
  timerStart := act fun w => { w with timerRunning := true }
  timerCancel := act fun w => { w with timerRunning := false }
  cancelLowerOps := act fun w => { w with txQueue := survivors keep w.txQueue }
  markAdAsRt := act fun w => { w with sentQueue := w.sentQueue.map (markRt .typeA) }
  markBcAsRt := act fun w => { w with sentQueue := w.sentQueue.map (markRt .typeB) }
  getFirstAdRtFrame := ask fun w => w.sentQueue.find? isAdRt
  resetRtFrame item := act fun w => { w with sentQueue := resetRt item.seqNum w.sentQueue }
  waitQueueEnqueue := do
    let s ← get
    act fun w =>
      { w with waitQueue := w.waitQueue ++ [s.tf], accepted := w.accepted ++ [s.tf.frameData.payload] }
  waitQueueDequeue := do
    let head ← ask fun w => w.waitQueue.headD default
    let _ ← act fun w => { w with waitQueue := w.waitQueue.tail }
    return head
  waitQueueEmpty := ask fun w => w.waitQueue.isEmpty
  waitQueueClear := act fun w => { w with waitQueue := [] }
  sentQueueEnqueue item := act fun w => { w with sentQueue := w.sentQueue ++ [item] }
  sentQueueDequeue := act fun w => { w with sentQueue := w.sentQueue.tail }
  sentQueueEmpty := ask fun w => w.sentQueue.isEmpty
  sentQueueClear := act fun w => { w with sentQueue := [] }
  sentQueueHead := ask fun w => w.sentQueue.head?
  txQueueEnqueue fdu := act fun w => { w with txQueue := w.txQueue ++ [fdu] }

variable (keep : List Bool)

/-! ## What the operations compute -/

theorem sentQueueHead_apply (s : Fop) :
    (fifoHooks keep).sentQueueHead s = (s.world.sentQueue.head?, s) := (rfl)

theorem sentQueueDequeue_apply (s : Fop) :
    (fifoHooks keep).sentQueueDequeue s =
      (0, onWorld s fun w => { w with sentQueue := w.sentQueue.tail }) := (rfl)

theorem sentQueueEmpty_apply (s : Fop) :
    (fifoHooks keep).sentQueueEmpty s = (s.world.sentQueue.isEmpty, s) := (rfl)

theorem waitQueueEmpty_apply (s : Fop) :
    (fifoHooks keep).waitQueueEmpty s = (s.world.waitQueue.isEmpty, s) := (rfl)

theorem waitQueueDequeue_apply (s : Fop) :
    (fifoHooks keep).waitQueueDequeue s =
      (s.world.waitQueue.headD default,
        onWorld s fun w => { w with waitQueue := w.waitQueue.tail }) := (rfl)

theorem getFirstAdRtFrame_apply (s : Fop) :
    (fifoHooks keep).getFirstAdRtFrame s = (s.world.sentQueue.find? isAdRt, s) := (rfl)

/-- The state after an alert. -/
def alerted (notif : Notification) (s : Fop) : Fop :=
  (onWorld s fun w => { w with timerRunning := false, waitQueue := [], sentQueue := [] }).setFop
    { s.tf.copCfg with state := .init, signal := notif }

theorem alertTo_apply (notif : Notification) (s : Fop) :
    alertTo (fifoHooks keep) notif s = (notif, alerted notif s) := rfl

/-- In INIT the state is INIT afterwards as well. -/
theorem alertInInit_apply (notif : Notification) (s : Fop) (hs : s.tf.copCfg.state = .init) :
    alertInInit (fifoHooks keep) notif s = (notif, alerted notif s) := by
  unfold alerted
  rw [← hs]
  rfl

theorem osdlpInitializeCop_apply (s : Fop) :
    osdlpInitializeCop (fifoHooks keep) s =
      (0, (onWorld s fun w => { w with waitQueue := [], sentQueue := [] }).setFop
        { s.tf.copCfg with txCnt := 1, ss := 0 }) := rfl

/-- The state after a retransmission has been initiated. -/
def retransmitting (s : Fop) : Fop :=
  (onWorld s fun w =>
    { w with
      txQueue := survivors keep w.txQueue
      timerRunning := true
      sentQueue := w.sentQueue.map (markRt .typeA) }).setFop (nextTxCnt s.tf.copCfg)

/-- What the loop of `osdlp_remove_acked_frames` leaves of the sent queue. -/
def dropAcked (nr : UInt8) : ℕ → List QueueItem → List QueueItem
  | _, [] => []
  | 0, items => items
  | left + 1, item :: items =>
    if item.seqNum = nr then item :: items else dropAcked nr left items

/-- The state in which `items` are left of the sent queue after a removal. -/
def removed (nr : UInt8) (items : List QueueItem) (s : Fop) : Fop :=
  (onWorld s fun w => { w with sentQueue := items }).setFop
    { s.tf.copCfg with nnr := nr, txCnt := 1 }

@[simp] theorem removed_sentQueue (nr : UInt8) (items : List QueueItem) (s : Fop) :
    (removed nr items s).world.sentQueue = items := rfl

@[simp] theorem removed_removed (nr : UInt8) (items items' : List QueueItem) (s : Fop) :
    removed nr items' (removed nr items s) = removed nr items' s := rfl

/-- The state after acknowledged frames have been removed: as before if the first frame is
not acknowledged. -/
def acked (nr : UInt8) (left : ℕ) (s : Fop) : Fop :=
  if dropAcked nr left s.world.sentQueue = s.world.sentQueue then s
  else removed nr (dropAcked nr left s.world.sentQueue) s

/-- The removal takes items off the front. -/
theorem dropAcked_sublist (nr : UInt8) (left : ℕ) (items : List QueueItem) :
    (dropAcked nr left items).Sublist items := by
  induction items generalizing left with
  | nil => cases left <;> exact List.Sublist.refl []
  | cons item items ih =>
    cases left with
    | zero => exact List.Sublist.refl _
    | succ left =>
      unfold dropAcked
      split_ifs
      · exact List.Sublist.refl _
      · exact (ih left).cons item

theorem length_dropAcked_le (nr : UInt8) (left : ℕ) (items : List QueueItem) :
    (dropAcked nr left items).length ≤ items.length :=
  (dropAcked_sublist nr left items).length_le

/-- The items that the loop leaves. -/
theorem acked_sentQueue (nr : UInt8) (left : ℕ) (s : Fop) :
    (acked nr left s).world.sentQueue = dropAcked nr left s.world.sentQueue := by
  unfold acked
  split_ifs with hsame
  · exact hsame.symm
  · rfl

theorem acked_zero (nr : UInt8) (s : Fop) : acked nr 0 s = s := by
  unfold acked
  rw [if_pos (by cases s.world.sentQueue <;> rfl)]

/-- Another frame may be removed once an acknowledged one is gone. -/
theorem acked_removed {nr : UInt8} {s : Fop} {item : QueueItem} {items : List QueueItem}
    (hq : s.world.sentQueue = item :: items) (hnr : item.seqNum ≠ nr) (left : ℕ) :
    acked nr left (removed nr items s) = acked nr (left + 1) s := by
  have hdrop : dropAcked nr (left + 1) (item :: items) = dropAcked nr left items := by
    rw [dropAcked, if_neg hnr]
  have hne : dropAcked nr left items ≠ item :: items := by
    intro heq
    have hlen := length_dropAcked_le nr left items
    rw [heq, List.length_cons] at hlen
    omega
  unfold acked
  rw [removed_sentQueue, removed_removed, hq, hdrop, if_neg hne]
  split_ifs with heq
  · rw [heq]
  · rfl

/-- A round that removes a frame goes on while the window allows for another. -/
theorem removeAckedLoop_round {nr : UInt8} {s : Fop} {item : QueueItem} {items : List QueueItem}
    (hq : s.world.sentQueue = item :: items) (hnr : item.seqNum ≠ nr) (counter rounds : ℕ) :
    removeAckedLoop (fifoHooks keep) nr counter (rounds + 1) s =
      if counter + 1 > s.tf.copCfg.slideWnd.toNat then (1, removed nr items s)
      else removeAckedLoop (fifoHooks keep) nr (counter + 1) rounds (removed nr items s) := by
  have hstep : removed nr items s =
      (onWorld s fun w => { w with sentQueue := w.sentQueue.tail }).setFop
        { s.tf.copCfg with nnr := nr, txCnt := 1 } := by
    unfold removed onWorld
    simp only [hq, List.tail_cons]
  rw [removeAckedLoop, bind_apply, sentQueueHead_apply, hstep]
  simp only [hq, List.head?_cons, hnr, if_false, bind_apply, sentQueueDequeue_apply]
  rw [ite_apply_state, if_neg (Int.lt_irrefl 0)]
  simp only [bind_apply]
  exact ite_apply_state _ _ _ _

/-- The loop removes as many frames as the window still allows: these hooks leave `slide_wnd` as it
is, so that it may be read once.  By induction on the rounds that are left. -/
theorem removeAckedLoop_apply (nr : UInt8) {rounds counter : ℕ} (s : Fop)
    (hrounds : 256 ≤ counter + rounds) (hcounter : counter ≤ s.tf.copCfg.slideWnd.toNat) :
    ∃ code : ℕ, removeAckedLoop (fifoHooks keep) nr counter rounds s =
      ((code : Int), acked nr (s.tf.copCfg.slideWnd.toNat + 1 - counter) s) := by
  induction rounds generalizing counter s with
  | zero =>
    have hwnd := s.tf.copCfg.slideWnd.toNat_lt
    omega
  | succ rounds ih =>
    have hleft : s.tf.copCfg.slideWnd.toNat + 1 - counter =
        s.tf.copCfg.slideWnd.toNat - counter + 1 := by omega
    rw [hleft]
    cases hq : s.world.sentQueue with
    | nil =>
      rw [removeAckedLoop, bind_apply, sentQueueHead_apply]
      exact ⟨0, by simp [acked, hq, dropAcked, pure_apply]⟩
    | cons item items =>
      by_cases hnr : item.seqNum = nr
      · rw [removeAckedLoop, bind_apply, sentQueueHead_apply]
        exact ⟨0, by simp [acked, hq, dropAcked, hnr, pure_apply]⟩
      · rw [removeAckedLoop_round keep hq hnr, ← acked_removed hq hnr]
        split_ifs with hlast
        · have hzero : s.tf.copCfg.slideWnd.toNat - counter = 0 := by omega
          rw [hzero, acked_zero]
          exact ⟨1, rfl⟩
        · have hnext : s.tf.copCfg.slideWnd.toNat - counter =
              s.tf.copCfg.slideWnd.toNat + 1 - (counter + 1) := by omega
          rw [hnext]
          exact ih (removed nr items s) (by omega) (Nat.le_of_not_gt hlast)

/-- The limit is read again after every removal, and over queues it is the one of the start. -/
theorem osdlpRemoveAckedFrames_apply (nr : UInt8) (s : Fop) :
    ∃ code : ℕ, osdlpRemoveAckedFrames (fifoHooks keep) nr s =
      ((code : Int), acked nr (s.tf.copCfg.slideWnd.toNat + 1) s) :=
  removeAckedLoop_apply keep nr s (Nat.le_refl 256) (Nat.zero_le _)

/-- What follows the removal finds the acknowledged frames gone. -/
theorem removeAckedThen_acked (clcw : ClcwFrame) (next : FopM FifoWorld Notification) (s : Fop) :
    removeAckedThen (fifoHooks keep) clcw next s =
      next (acked clcw.reportValue (s.tf.copCfg.slideWnd.toNat + 1) s) := by
  obtain ⟨code, hremove⟩ := osdlpRemoveAckedFrames_apply keep clcw.reportValue s
  have hcode : ¬ (code : Int) < 0 := by omega
  unfold removeAckedThen
  rw [bind_apply, hremove]
  simp only [hcode, if_false]

/-- What `osdlp_release_copy_of_bc` leaves of the sent queue: a command at its head is gone. -/
def withoutCommand : List QueueItem → List QueueItem
  | [] => []
  | item :: items => if item.type = .typeB then items else item :: items

theorem withoutCommand_cons (item : QueueItem) (items : List QueueItem) :
    withoutCommand (item :: items) = if item.type = .typeB then items else item :: items := rfl

/-- At most one item is taken off. -/
theorem withoutCommand_sublist (items : List QueueItem) :
    (withoutCommand items).Sublist items := by
  cases items with
  | nil => exact List.Sublist.refl []
  | cons item items =>
    rw [withoutCommand_cons]
    split_ifs
    · exact List.sublist_cons_self item items
    · exact List.Sublist.refl _

/-- A queue that holds a command and nothing else is empty behind the release. -/
theorem withoutCommand_singleton {items : List QueueItem} {item : QueueItem} (hq : items = [item])
    (htype : item.type = .typeB) : withoutCommand items = [] := by
  rw [hq, withoutCommand_cons, if_pos htype]

/-- The state after the copy of a BC frame has been released. -/
def released (s : Fop) : Fop :=
  onWorld s fun w => { w with sentQueue := withoutCommand w.sentQueue }

/-- The sender, once it is known what is left. -/
theorem released_eq {s : Fop} {items : List QueueItem}
    (h : withoutCommand s.world.sentQueue = items) :
    released s = onWorld s fun w => { w with sentQueue := items } := by
  subst h
  rfl

/-- An empty queue is an error, which leaves it as it is. -/
theorem osdlpReleaseCopyOfBc_apply (s : Fop) :
    ∃ ret : Int, osdlpReleaseCopyOfBc (fifoHooks keep) s = (ret, released s) := by
  have hkept : ∀ items, s.world.sentQueue = items →
      (onWorld s fun w => { w with sentQueue := items }) = s := by
    rintro _ rfl
    rfl
  unfold osdlpReleaseCopyOfBc
  rw [bind_apply, sentQueueHead_apply]
  cases hq : s.world.sentQueue with
  | nil =>
    have hnone : released s = s := (released_eq (congrArg withoutCommand hq)).trans (hkept [] hq)
    exact ⟨-1, by rw [hnone]; rfl⟩
  | cons item items =>
    have hleft := (congrArg withoutCommand hq).trans (withoutCommand_cons item items)
    simp only [List.head?_cons, ite_apply_state]
    split_ifs with htype
    · rw [if_pos htype] at hleft
      refine ⟨0, ?_⟩
      rw [released_eq hleft, bind_apply, sentQueueDequeue_apply]
      simp only [hq, List.tail_cons, onWorld]
      rfl
    · rw [if_neg htype] at hleft
      refine ⟨0, ?_⟩
      rw [released_eq hleft, hkept _ hq]
      rfl

/-- The first waiting frame, packed. -/
def packedWaiting (s : Fop) : List UInt8 × FopFrame :=
  let waitItem := s.world.waitQueue.headD default
  osdlpTcPack s.tf waitItem.frameData.data waitItem.frameData.dataLen

/-- The item that keeps its copy. -/
def newItem (s : Fop) : QueueItem :=
  { fdu := (packedWaiting s).1, rtFlag := false, seqNum := s.tf.copCfg.vs, type := .typeA }

/-- The state after the first waiting frame has been transmitted. -/
def transmitted (s : Fop) : Fop :=
  let fop := s.tf.copCfg
  { tf :=
      { (packedWaiting s).2 with
        copCfg :=
          { fop with
            vs := UInt8.ofNat ((fop.vs.toNat + 1) % 256)
            txCnt := if s.world.sentQueue.isEmpty then 1 else fop.txCnt } }
    world :=
      { s.world with
        waitQueue := s.world.waitQueue.tail
        sentQueue := s.world.sentQueue ++ [newItem s]
        txQueue := s.world.txQueue ++ [(packedWaiting s).1]
        timerRunning := true } }

/-- The frame that waited goes onto both queues. -/
theorem osdlpTransmitTypeAd_apply (s : Fop) :
    osdlpTransmitTypeAd (fifoHooks keep) s = (0, transmitted s) := by
  obtain ⟨crc, hpack⟩ := osdlpTcPack_snd s.tf (s.world.waitQueue.headD default).frameData.data
    (s.world.waitQueue.headD default).frameData.dataLen
  unfold transmitted newItem packedWaiting
  simp only [hpack]
  unfold osdlpTransmitTypeAd packFrame
  simp only [bind_apply, get_apply, waitQueueDequeue_apply, hpack, set_apply, pure_apply,
    sentQueueEmpty_apply, onWorld_world, onWorld_tf]
  cases hempty : s.world.sentQueue.isEmpty with
  | true => rfl
  | false => rfl

/-- The state in which the first waiting frame has been taken off its queue and packed. -/
def drawn (s : Fop) : Fop :=
  let fop := s.tf.copCfg
  { tf :=
      { (packedWaiting s).2 with
        copCfg := { fop with txCnt := if s.world.sentQueue.isEmpty then 1 else fop.txCnt } }
    world := { s.world with waitQueue := s.world.waitQueue.tail, timerRunning := true } }

/-- What is left of `osdlp_transmit_type_ad` then: the two queues and the counter. -/
def handOver (sentEnqueue : QueueItem → FopM FifoWorld Int)
    (txEnqueue : List UInt8 → FopM FifoWorld Int) (item : QueueItem) : FopM FifoWorld Int := do
  let ret ← sentEnqueue item
  modifyFop fun fop => { fop with vs := UInt8.ofNat ((fop.vs.toNat + 1) % 256) }
  if ret < 0 then
    return -1
  let ret ← txEnqueue item.fdu
  if ret < 0 then
    return -1
  return 0

/-- Up to the sent queue nothing depends on what the hooks answer. -/
theorem osdlpTransmitTypeAd_drawn (sentEnqueue : QueueItem → FopM FifoWorld Int)
    (txEnqueue : List UInt8 → FopM FifoWorld Int) (s : Fop) :
    osdlpTransmitTypeAd
        { fifoHooks keep with sentQueueEnqueue := sentEnqueue, txQueueEnqueue := txEnqueue } s =
      handOver sentEnqueue txEnqueue (newItem s) (drawn s) := by
  obtain ⟨crc, hpack⟩ := osdlpTcPack_snd s.tf (s.world.waitQueue.headD default).frameData.data
    (s.world.waitQueue.headD default).frameData.dataLen
  unfold drawn newItem packedWaiting
  simp only [hpack]
  unfold osdlpTransmitTypeAd packFrame
  simp only [bind_apply, get_apply, waitQueueDequeue_apply, hpack, set_apply, pure_apply,
    sentQueueEmpty_apply, onWorld_world, onWorld_tf]
  cases hempty : s.world.sentQueue.isEmpty with
  | true => rfl
  | false => rfl

/-- A type-B command frame goes onto both queues, and the count starts again. -/
theorem osdlpTransmitTypeBc_apply (s : Fop) :
    ∃ (tf : FopFrame) (item : QueueItem), tf.copCfg = { s.tf.copCfg with txCnt := 1 } ∧
      tf.mission = s.tf.mission ∧ item.type = .typeB ∧
      osdlpTransmitTypeBc (fifoHooks keep) s = (0,
        { tf := tf
          world :=
            { s.world with
              sentQueue := s.world.sentQueue ++ [item]
              txQueue := s.world.txQueue ++ [item.fdu]
              timerRunning := true } }) := by
  obtain ⟨crc, hpack⟩ := osdlpTcPack_snd s.tf s.tf.frameData.data s.tf.frameData.dataLen
  unfold osdlpTransmitTypeBc packFrame
  simp only [bind_apply, get_apply, set_apply, pure_apply]
  rw [hpack]
  refine ⟨_, _, ?_, ?_, ?_, rfl⟩
  · rfl
  · rfl
  · rfl

/-- A type-B data frame goes onto the transmission queue. -/
theorem osdlpTransmitTypeBd_apply (s : Fop) :
    ∃ (tf : FopFrame) (fdu : List UInt8), tf.copCfg = s.tf.copCfg ∧
      tf.mission = s.tf.mission ∧
      osdlpTransmitTypeBd (fifoHooks keep) s = (0,
        { tf := tf, world := { s.world with txQueue := s.world.txQueue ++ [fdu] } }) := by
  obtain ⟨crc, hpack⟩ := osdlpTcPack_snd s.tf s.tf.frameData.data s.tf.frameData.dataLen
  unfold osdlpTransmitTypeBd packFrame
  simp only [bind_apply, get_apply, set_apply, pure_apply]
  rw [hpack]
  refine ⟨_, _, ?_, ?_, rfl⟩
  · rfl
  · rfl

/-- The state after the first frame marked for retransmission, if there is one, has gone
out again. -/
def resent (s : Fop) : Fop :=
  match s.world.sentQueue.find? isAdRt with
  | none => s
  | some item =>
    onWorld s fun w =>
      { w with sentQueue := resetRt item.seqNum w.sentQueue, txQueue := w.txQueue ++ [item.fdu] }

theorem resent_tf (s : Fop) : (resent s).tf = s.tf := by
  unfold resent
  split <;> rfl

theorem resent_waitQueue (s : Fop) : (resent s).world.waitQueue = s.world.waitQueue := by
  unfold resent
  split <;> rfl

/-- Over queues the first half of the search never ends early. -/
theorem lookForRetransmission_apply (s : Fop) :
    lookForRetransmission (fifoHooks keep) s = (none, resent s) := by
  unfold resent
  unfold lookForRetransmission
  simp only [bind_apply, sentQueueEmpty_apply, getFirstAdRtFrame_apply, ite_apply_state, pure_apply]
  cases hq : s.world.sentQueue with
  | nil => rfl
  | cons item items =>
    simp only [List.isEmpty_cons, Bool.false_eq_true, if_false]
    cases hf : (item :: items).find? isAdRt with
    | none => rfl
    | some first => rfl

/-- A notification written to the signal field. -/
def signalled (notif : Notification) (s : Fop) : Fop :=
  s.setFop { s.tf.copCfg with signal := notif }

/-- The second half sends the waiting frame, delays it, or finds none. -/
theorem lookForWaiting_apply (s : Fop) :
    lookForWaiting (fifoHooks keep) s =
      if s.world.waitQueue.isEmpty then (.ignore, s)
      else if fopRoom s.tf.copCfg then (.acceptTx, signalled .acceptTx (transmitted s))
      else (.delayResp, signalled .delayResp s) := by
  unfold lookForWaiting
  simp only [bind_apply, waitQueueEmpty_apply, ite_apply_state, pure_apply,
    osdlpTransmitTypeAd_apply]
  rfl

/-- The search for a frame to transmit. -/
theorem osdlpLookForFdu_apply (s : Fop) :
    osdlpLookForFdu (fifoHooks keep) s =
      if s.world.waitQueue.isEmpty then (.ignore, resent s)
      else if fopRoom s.tf.copCfg then (.acceptTx, signalled .acceptTx (transmitted (resent s)))
      else (.delayResp, signalled .delayResp (resent s)) := by
  unfold osdlpLookForFdu
  rw [bind_apply, lookForRetransmission_apply]
  show lookForWaiting (fifoHooks keep) (resent s) = _
  rw [lookForWaiting_apply, resent_waitQueue, resent_tf]

end Osdlp.Interface
