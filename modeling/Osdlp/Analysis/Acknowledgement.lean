import Osdlp.Analysis.WindowLimit

/-!
# The removal of acknowledged frames

`osdlp_remove_acked_frames` stops at the frame that the receiver expects, at the end of the queue, or
when it has removed `slide_wnd + 1` frames.  The last exit presumes that no more than a window is
outstanding, but `osdlp_set_sliding_window` may have narrowed the window since the frames were sent.
The removal is exact as far as the counter reaches (`removesAcked_iff`), and so is the sent queue in
step with NN(R) and V(S) afterwards (`mirrors_removeAckedFrames_iff`).
-/

set_option autoImplicit false

namespace Osdlp.Analysis

open Osdlp.Model Osdlp.Interface Osdlp.Library

variable {W : Type}

/-- The hooks of the sent queue succeed: the first one reads the queue that `items` finds in the
user's state, and the second one takes off its head.  The frame structure is not theirs. -/
structure ServesSentQueue (h : CopHooks W) (items : W → List QueueItem) : Prop where
  head : ∀ s, (h.sentQueueHead s).1 = (items s.world).head?
  head_tf : ∀ s, (h.sentQueueHead s).2.tf = s.tf
  head_items : ∀ s, items (h.sentQueueHead s).2.world = items s.world
  dequeue : ∀ s, items s.world ≠ [] → 0 ≤ (h.sentQueueDequeue s).1
  dequeue_tf : ∀ s, (h.sentQueueDequeue s).2.tf = s.tf
  dequeue_items : ∀ s, items (h.sentQueueDequeue s).2.world = (items s.world).tail

/-- The queues of the sender do. -/
theorem servesSentQueue_fifo (keep : List Bool) :
    ServesSentQueue (fifoHooks keep) FifoWorld.sentQueue where
  head _ := rfl
  head_tf _ := rfl
  head_items _ := rfl
  dequeue _ _ := Int.le_refl 0
  dequeue_tf _ := rfl
  dequeue_items _ := rfl

/-- Exactly the frames before the report value are removed from the sent queue. -/
structure RemovesAcked (items : W → List QueueItem) (nr : UInt8) (s : FopSt W)
    (r : Int × FopSt W) : Prop where
  items : items r.2.world = (items s.world).drop (seqDist s.tf.copCfg.nnr nr)
  nnr : r.2.tf.copCfg.nnr = if 0 < seqDist s.tf.copCfg.nnr nr then nr else s.tf.copCfg.nnr
  txCnt : 0 < seqDist s.tf.copCfg.nnr nr → r.2.tf.copCfg.txCnt = 1
  returns : 0 ≤ r.1

variable {h : CopHooks W} {items : W → List QueueItem}

/-! ## The loop -/

/-- A round that finds a frame before the report value removes it and goes on while the window, which
a queue does not change, allows for another. -/
theorem removeAckedLoop_removes (hq : ServesSentQueue h items) {nr : UInt8} {s : FopSt W}
    {item : QueueItem} {rest : List QueueItem} (hcons : items s.world = item :: rest)
    (hnr : item.seqNum ≠ nr) (counter rounds : ℕ) :
    ∃ s' : FopSt W, s'.tf.copCfg = { s.tf.copCfg with nnr := nr, txCnt := 1 } ∧
      items s'.world = rest ∧
      removeAckedLoop h nr counter (rounds + 1) s =
        if counter + 1 > s.tf.copCfg.slideWnd.toNat then (1, s')
        else removeAckedLoop h nr (counter + 1) rounds s' := by
  have hhead := hq.head s
  have htf := hq.head_tf s
  have hitems := hq.head_items s
  rw [removeAckedLoop, bind_apply]
  -- the state behind the look at the head
  generalize h.sentQueueHead s = first at hhead htf hitems ⊢
  obtain ⟨head, s₁⟩ := first
  dsimp only at hhead htf hitems ⊢
  rw [hcons] at hhead hitems
  subst hhead
  have hret := hq.dequeue s₁ (by rw [hitems]; exact List.cons_ne_nil _ _)
  have htf₂ := (hq.dequeue_tf s₁).trans htf
  have hitems₂ := hq.dequeue_items s₁
  rw [hitems, List.tail_cons] at hitems₂
  simp only [List.head?_cons, hnr, if_false, bind_apply]
  -- the state behind the removal
  generalize h.sentQueueDequeue s₁ = second at hret htf₂ hitems₂ ⊢
  obtain ⟨ret, s₂⟩ := second
  dsimp only at hret htf₂ hitems₂ ⊢
  refine ⟨s₂.setFop { s₂.tf.copCfg with nnr := nr, txCnt := 1 }, ?_, hitems₂, ?_⟩
  · rw [FopSt.setFop_copCfg, htf₂]
  · rw [ite_apply_state, if_neg (Int.not_lt.mpr hret), ← htf₂]
    simp only [bind_apply]
    exact ite_apply_state _ _ _ _

/-- A round that finds nothing to remove is the last one. -/
theorem removeAckedLoop_stays (hq : ServesSentQueue h items) (nr : UInt8) (s : FopSt W)
    (hhead : ∀ item ∈ (items s.world).head?, item.seqNum = nr) (counter rounds : ℕ) :
    let r := removeAckedLoop h nr counter (rounds + 1) s
    items r.2.world = items s.world ∧ r.1 = 0 ∧ r.2.tf.copCfg = s.tf.copCfg := by
  have hfirst := hq.head s
  have htf := hq.head_tf s
  have hitems := hq.head_items s
  rw [removeAckedLoop, bind_apply]
  generalize h.sentQueueHead s = first at hfirst htf hitems ⊢
  obtain ⟨head, s₁⟩ := first
  dsimp only at hfirst htf hitems ⊢
  subst hfirst
  cases hcases : (items s.world).head? with
  | none => exact ⟨hitems, rfl, congrArg _ htf⟩
  | some item =>
    simp only [hhead item hcases, if_true]
    exact ⟨hitems, rfl, congrArg _ htf⟩

/-- What the loop leaves, whatever the numbers of the items.  By induction on the rounds; the window
allows for `left` removals after the next one. -/
theorem removeAckedLoop_leaves (hq : ServesSentQueue h items) (nr : UInt8) (counter rounds : ℕ)
    {left : ℕ} (s : FopSt W) (hrounds : 256 ≤ counter + rounds)
    (hleft : counter + left = s.tf.copCfg.slideWnd.toNat) :
    let r := removeAckedLoop h nr counter rounds s
    items r.2.world = dropAcked nr (left + 1) (items s.world) ∧ 0 ≤ r.1 ∧
      r.2.tf.copCfg = if dropAcked nr (left + 1) (items s.world) = items s.world then s.tf.copCfg
        else { s.tf.copCfg with nnr := nr, txCnt := 1 } := by
  induction rounds generalizing counter left s with
  | zero =>
    have hwnd := s.tf.copCfg.slideWnd.toNat_lt
    omega
  | succ rounds ih =>
    cases hcons : items s.world with
    | nil =>
      obtain ⟨hitems, hcode, hcop⟩ :=
        removeAckedLoop_stays hq nr s (by simp [hcons]) counter rounds
      exact ⟨hitems.trans hcons, hcode.ge, hcop⟩
    | cons item rest =>
      by_cases hnr : item.seqNum = nr
      · obtain ⟨hitems, hcode, hcop⟩ :=
          removeAckedLoop_stays hq nr s (by simp [hcons, hnr]) counter rounds
        have hdrop : dropAcked nr (left + 1) (item :: rest) = item :: rest := by
          rw [dropAcked, if_pos hnr]
        rw [hdrop, if_pos rfl]
        exact ⟨hitems.trans hcons, hcode.ge, hcop⟩
      · obtain ⟨s', hcop, hitems, hround⟩ := removeAckedLoop_removes hq hcons hnr counter rounds
        have hdrop : dropAcked nr (left + 1) (item :: rest) = dropAcked nr left rest := by
          rw [dropAcked, if_neg hnr]
        have hne : dropAcked nr left rest ≠ item :: rest := by
          intro heq
          have hlen := length_dropAcked_le nr left rest
          rw [heq, List.length_cons] at hlen
          omega
        rw [hdrop, if_neg hne, hround]
        cases left with
        | zero =>
          rw [if_pos (by omega)]
          have hnone : dropAcked nr 0 rest = rest := by cases rest <;> rfl
          exact ⟨hitems.trans hnone.symm, Int.one_nonneg, hcop⟩
        | succ left =>
          rw [if_neg (by omega)]
          have hwnd : s'.tf.copCfg.slideWnd = s.tf.copCfg.slideWnd := by rw [hcop]
          have hrounds' : 256 ≤ counter + 1 + rounds := by omega
          have hleft' : counter + 1 + left = s'.tf.copCfg.slideWnd.toNat := by
            rw [hwnd]
            omega
          obtain ⟨hdropped, hcode, hcop'⟩ := ih (counter + 1) s' hrounds' hleft'
          rw [hitems] at hdropped hcop'
          refine ⟨hdropped, hcode, hcop'.trans ?_⟩
          rw [hcop]
          split_ifs <;> rfl

/-- In a queue that is numbered from NN(R) on, the loop removes what lies before the report value, as
far as the counter reaches. -/
theorem osdlpRemoveAckedFrames_numbered (hq : ServesSentQueue h items) {s : FopSt W} {nr : UInt8}
    (hnum : (items s.world).map QueueItem.seqNum =
      consecutive s.tf.copCfg.nnr (items s.world).length)
    (hd : seqDist s.tf.copCfg.nnr nr ≤ (items s.world).length) :
    let d := seqDist s.tf.copCfg.nnr nr
    let r := osdlpRemoveAckedFrames h nr s
    items r.2.world = (items s.world).drop (min d (s.tf.copCfg.slideWnd.toNat + 1)) ∧ 0 ≤ r.1 ∧
      r.2.tf.copCfg =
        if d = 0 then s.tf.copCfg else { s.tf.copCfg with nnr := nr, txCnt := 1 } := by
  intro d r
  obtain ⟨hleft, hcode, hcop⟩ :=
    removeAckedLoop_leaves hq nr 0 256 s (by decide) (Nat.zero_add _)
  rw [dropAcked_numbered hnum hd] at hleft hcop
  have hsame : (items s.world).drop (min d (s.tf.copCfg.slideWnd.toNat + 1)) = items s.world ↔
      d = 0 := by
    constructor
    · intro heq
      have hlen := congrArg List.length heq
      rw [List.length_drop] at hlen
      omega
    · intro hzero
      rw [hzero, Nat.zero_min, List.drop_zero]
  refine ⟨hleft, hcode, hcop.trans ?_⟩
  simp only [hsame, d]

/-! ## Exactly the acknowledged frames -/

/-- **The removal of acknowledged frames** is exact if and only if the window, which may have been
narrowed since they were sent, allows for all but one of them.
SOURCE: osdlp_cop.c:615-642, 2594-2634 -/
theorem removesAcked_iff (hq : ServesSentQueue h items) {s : FopSt W} {nr : UInt8}
    (hnum : (items s.world).map QueueItem.seqNum =
      consecutive s.tf.copCfg.nnr (items s.world).length)
    (hd : seqDist s.tf.copCfg.nnr nr ≤ (items s.world).length) :
    RemovesAcked items nr s (osdlpRemoveAckedFrames h nr s) ↔
      seqDist s.tf.copCfg.nnr nr ≤ s.tf.copCfg.slideWnd.toNat + 1 := by
  obtain ⟨hleft, hcode, hcop⟩ := osdlpRemoveAckedFrames_numbered hq hnum hd
  constructor
  · intro hremoves
    have hlen := congrArg List.length (hleft.symm.trans hremoves.items)
    rw [List.length_drop, List.length_drop] at hlen
    omega
  · intro hwnd
    rw [Nat.min_eq_left hwnd] at hleft
    refine ⟨hleft, ?_, ?_, hcode⟩
    · rw [hcop]
      split_ifs with hzero hpos hpos
      · exact absurd hzero hpos.ne'
      · rfl
      · rfl
      · exact absurd (Nat.pos_of_ne_zero hzero) hpos
    · intro hpos
      rw [hcop, if_neg hpos.ne']

/-- A sender that has sent the frames 254, 255 and 0, and whose window is then narrowed. -/
def narrowedFop : Fop :=
  run senderStep freshFop (pastZero ++ [oneOctet, .setSlidingWindow 1])

/-- A window that has been narrowed with frames outstanding. -/
theorem removesAcked_iff_wrapped :
    RemovesAcked FifoWorld.sentQueue 0 narrowedFop
        (osdlpRemoveAckedFrames (fifoHooks []) 0 narrowedFop) ↔
      seqDist narrowedFop.tf.copCfg.nnr 0 ≤ narrowedFop.tf.copCfg.slideWnd.toNat + 1 :=
  removesAcked_iff (servesSentQueue_fifo []) (by rfl) (by decide)

/-- All three frames are acknowledged, and the last one stays in the queue. -/
theorem not_removesAcked_narrowed :
    let s := narrowedFop
    let r := osdlpRemoveAckedFrames (fifoHooks []) 1 s
    s.world.sentQueue.length = 3 ∧
      s.world.sentQueue.map QueueItem.seqNum =
        consecutive s.tf.copCfg.nnr s.world.sentQueue.length ∧
      seqDist s.tf.copCfg.nnr 1 = 3 ∧ r.1 = 1 ∧ r.2.tf.copCfg.nnr = 1 ∧
      r.2.world.sentQueue.map QueueItem.seqNum = [0] ∧
      ¬ RemovesAcked FifoWorld.sentQueue 1 s r := by
  intro s r
  have hqueue : r.2.world.sentQueue.map QueueItem.seqNum = [0] := by decide
  refine ⟨by decide, by decide, by decide, by decide, by decide, hqueue, fun hremoves => ?_⟩
  have hempty : r.2.world.sentQueue = [] := hremoves.items
  rw [hempty] at hqueue
  cases hqueue

/-! ## The queue and the counters -/

/-- The sent queue stays in step with NN(R) and V(S) exactly if nothing acknowledged is left. -/
theorem mirrors_removeAckedFrames_iff (keep : List Bool) {s : Fop} (hmirrors : Mirrors s)
    {nr : UInt8} (hrange : InRange s.tf.copCfg nr) :
    Mirrors (osdlpRemoveAckedFrames (fifoHooks keep) nr s).2 ↔
      seqDist s.tf.copCfg.nnr nr ≤ s.tf.copCfg.slideWnd.toNat + 1 := by
  obtain ⟨code, hremove⟩ := osdlpRemoveAckedFrames_apply keep nr s
  rw [hremove]
  refine ⟨fun hkept => ?_, fun hwnd => (hmirrors.acked_of_le hrange hwnd).2.2⟩
  by_contra hwnd
  have hlen := hmirrors.length
  have hd : seqDist s.tf.copCfg.nnr nr ≤ s.world.sentQueue.length := by
    rw [hlen]
    exact hrange
  have hdrop := @dropAcked_numbered _ _ _ (s.tf.copCfg.slideWnd.toNat + 1) hmirrors.seqNums hd
  rw [Nat.min_eq_right (by omega)] at hdrop
  have hne : dropAcked nr (s.tf.copCfg.slideWnd.toNat + 1) s.world.sentQueue ≠
      s.world.sentQueue := by
    intro heq
    have hsame := congrArg List.length (hdrop.symm.trans heq)
    rw [List.length_drop] at hsame
    omega
  -- NN(R) has become N(R), and more is left than lies between N(R) and V(S)
  unfold acked at hkept
  rw [if_neg hne] at hkept
  have hleft : (dropAcked nr (s.tf.copCfg.slideWnd.toNat + 1) s.world.sentQueue).length =
      seqDist nr s.tf.copCfg.vs := hkept.length
  rw [hdrop, List.length_drop, seqDist_sub hrange] at hleft
  omega

end Osdlp.Analysis
