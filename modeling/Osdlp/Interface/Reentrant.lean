import Osdlp.Interface.SentQueue

/-!
# A queue that calls back

`osdlp_tc_tx_queue_enqueue` of the test harness puts the frame onto the queue and calls the
response of the lower layer before it returns, and the response looks for another frame.  The
hooks are built over the depth of that recursion; at the bottom are any hooks, which are not
reached where the depth suffices.  A search for a frame in ACTIVE or RT_NO_WAIT then sends all
frames marked for retransmission, and waiting ones behind them (`osdlpLookForFdu_reentrant`).
-/

set_option autoImplicit false

namespace Osdlp.Interface

open Osdlp.Model Osdlp.Library

/-- The type that a frame has by its first octet. -/
def frameType (fdu : List UInt8) : TcBypass := .ofOctet ((fdu.getD 0 0 >>> 5) &&& 0x01)

/-- The response to a frame that has been accepted.
SOURCE: test.c:192-220 -/
def respond (h : CopHooks FifoWorld) (fuel : ℕ) (fdu : List UInt8) : FopM FifoWorld Unit := do
  match frameType fdu, TcCtrl.ofOctet ((fdu.getD 0 0 >>> 4) &&& 0x01) with
  | .typeB, .command =>
    let _ ← osdlpBcAccept h fuel
  | .typeB, .data =>
    let _ ← osdlpBdAccept
  | .typeA, _ =>
    let _ ← osdlpAdAccept h

/-- Hooks whose transmission queue accepts every frame and responds to it, to a depth. -/
def reentrantHooks (keep : List Bool) (deepest : CopHooks FifoWorld) : ℕ → CopHooks FifoWorld
  | 0 => deepest
  | depth + 1 =>
    { fifoHooks keep with
      txQueueEnqueue := fun fdu => do
        let ret ← (fifoHooks keep).txQueueEnqueue fdu
        respond (reentrantHooks keep deepest depth) depth fdu
        return ret }

/-- The state after the response. -/
def responded (keep : List Bool) (deepest : CopHooks FifoWorld) (depth : ℕ) (fdu : List UInt8)
    (s : Fop) : Fop := (respond (reentrantHooks keep deepest depth) depth fdu s).2

variable {keep : List Bool} {deepest : CopHooks FifoWorld} {depth : ℕ} {s t : Fop}

/-! ## Below the response -/

/-- Outside INIT_BC only the acceptance of a type-A frame looks for another frame.
SOURCE: osdlp_cop.c:2759-2793, 2866-2894, 2967-2994 -/
theorem responded_typeb (keep : List Bool) (deepest : CopHooks FifoWorld) (depth : ℕ)
    {fdu : List UInt8} (hs : s.tf.copCfg.state ≠ .initBc)
    (htype : frameType fdu = .typeB) :
    responded keep deepest depth fdu s = s ∨
      responded keep deepest depth fdu s = signalled .acceptTx s := by
  unfold responded respond
  rw [htype]
  cases TcCtrl.ofOctet ((fdu.getD 0 0 >>> 4) &&& 0x01) with
  | command =>
    refine .inl ?_
    unfold osdlpBcAccept bcAcceptWith
    simp only [bind_apply, getFop_apply]
    cases hst : s.tf.copCfg.state with
    | initBc => exact absurd hst hs
    | active | rtNoWait | rtWait | initNoBc | init => rfl
  | data => exact .inr rfl

/-- In RT_WAIT the response does not look for another frame.
SOURCE: osdlp_cop.c:2759-2793 -/
theorem responded_rtWait (keep : List Bool) (deepest : CopHooks FifoWorld) (depth : ℕ)
    (fdu : List UInt8) (hs : s.tf.copCfg.state = .rtWait) :
    responded keep deepest depth fdu s = s ∨
      responded keep deepest depth fdu s = signalled .acceptTx s := by
  cases htype : frameType fdu with
  | typeB => exact responded_typeb keep deepest depth (by rw [hs]; decide) htype
  | typeA =>
    refine .inl ?_
    unfold responded respond osdlpAdAccept
    rw [htype]
    simp only [bind_apply, getFop_apply, hs]
    rfl

/-- Elsewhere it does, where a type-A frame has been accepted. -/
theorem responded_typea (keep : List Bool) (deepest : CopHooks FifoWorld) (depth : ℕ)
    {fdu : List UInt8}
    (hs : s.tf.copCfg.state = .active ∨ s.tf.copCfg.state = .rtNoWait)
    (htype : frameType fdu = .typeA) :
    ∃ notif, responded keep deepest depth fdu s =
      signalled notif (osdlpLookForFdu (reentrantHooks keep deepest depth) s).2 := by
  have haccept : osdlpAdAccept (reentrantHooks keep deepest depth) s =
      lookThenReport (reentrantHooks keep deepest depth) none s := by
    unfold osdlpAdAccept
    simp only [bind_apply, getFop_apply]
    rcases hs with hs | hs <;> rw [hs]
  have hreport : ∀ (notif : Notification) (s' : Fop),
      ∃ notif', (report notif s').2 = signalled notif' s' := by
    intro notif s'
    by_cases hignore : notif = .ignore
    · rw [hignore]
      exact ⟨s'.tf.copCfg.signal, rfl⟩
    · unfold report
      rw [if_pos hignore]
      exact ⟨notif, rfl⟩
  obtain ⟨notif, hnotif⟩ := hreport (osdlpLookForFdu (reentrantHooks keep deepest depth) s).1
    (osdlpLookForFdu (reentrantHooks keep deepest depth) s).2
  refine ⟨notif, ?_⟩
  rw [← hnotif]
  unfold responded respond
  rw [htype]
  exact congrArg Prod.snd haccept

/-! ## Waiting frames that go out -/

/-- The frame holds the octets that waited. -/
def PackedFrom (w : FopFrame) (fdu : List UInt8) : Prop :=
  ∃ tf : FopFrame, fdu = (osdlpTcPack tf w.frameData.data w.frameData.dataLen).1

/-- From `t` to `t'`, the frames `news` have gone out from the wait queue, and nothing else has
happened. -/
structure SentOn (t t' : Fop) (news : List (List UInt8)) : Prop where
  txQueue : t'.world.txQueue = t.world.txQueue ++ news
  waitQueue : ∃ taken, t.world.waitQueue = taken ++ t'.world.waitQueue ∧
    List.Forall₂ PackedFrom taken news
  sentQueue : ∃ items, t'.world.sentQueue = t.world.sentQueue ++ items ∧
    ∀ item ∈ items, item.rtFlag = false
  vs : t'.tf.copCfg.vs = t.tf.copCfg.vs + UInt8.ofNat news.length
  nnr : t'.tf.copCfg.nnr = t.tf.copCfg.nnr
  slideWnd : t'.tf.copCfg.slideWnd = t.tf.copCfg.slideWnd
  state : t'.tf.copCfg.state = t.tf.copCfg.state

theorem SentOn.refl (t : Fop) : SentOn t t [] :=
  ⟨(List.append_nil _).symm, ⟨[], rfl, .nil⟩, ⟨[], (List.append_nil _).symm, by simp⟩, by simp, rfl,
    rfl, rfl⟩

theorem SentOn.trans {u : Fop} {news news' : List (List UInt8)} (h : SentOn t s news)
    (h' : SentOn s u news') : SentOn t u (news ++ news') := by
  obtain ⟨taken, htaken, hfrom⟩ := h.waitQueue
  obtain ⟨taken', htaken', hfrom'⟩ := h'.waitQueue
  obtain ⟨items, hitems, hlow⟩ := h.sentQueue
  obtain ⟨items', hitems', hlow'⟩ := h'.sentQueue
  refine ⟨?_, ⟨taken ++ taken', ?_, List.rel_append hfrom hfrom'⟩, ⟨items ++ items', ?_, ?_⟩, ?_,
    h'.nnr.trans h.nnr, h'.slideWnd.trans h.slideWnd, h'.state.trans h.state⟩
  · rw [h'.txQueue, h.txQueue, List.append_assoc]
  · rw [htaken, htaken', List.append_assoc]
  · rw [hitems', hitems, List.append_assoc]
  · intro item hmem
    exact (List.mem_append.mp hmem).elim (hlow item) (hlow' item)
  · rw [h'.vs, h.vs, List.length_append, UInt8.ofNat_add, UInt8.add_assoc]

theorem SentOn.signalled {news : List (List UInt8)} (h : SentOn t s news) (notif : Notification) :
    SentOn t (signalled notif s) news :=
  ⟨h.txQueue, h.waitQueue, h.sentQueue, h.vs, h.nnr, h.slideWnd, h.state⟩

/-- The first waiting frame goes out. -/
theorem transmitted_sentOn (hwait : s.world.waitQueue ≠ []) :
    SentOn s (transmitted s) [(packedWaiting s).1] := by
  obtain ⟨w, waiting, hw⟩ := List.exists_cons_of_ne_nil hwait
  refine ⟨rfl, ⟨[w], ?_, .cons ⟨s.tf, ?_⟩ .nil⟩, ⟨[newItem s], rfl, ?_⟩, transmitted_vs s, rfl, rfl,
    rfl⟩
  · show s.world.waitQueue = [w] ++ s.world.waitQueue.tail
    rw [hw]
    rfl
  · unfold packedWaiting
    rw [hw]
    rfl
  · intro item hmem
    rw [List.mem_singleton.mp hmem]
    rfl

/-! ## How many -/

/-- A frame waits, and there is room for it. -/
def CanSend (t : Fop) : Prop := t.world.waitQueue ≠ [] ∧ fopRoom t.tf.copCfg = true

/-- Two frames wait, and there is room for both. -/
def CanSendTwo (t : Fop) : Prop :=
  2 ≤ t.world.waitQueue.length ∧ fopRoom t.tf.copCfg = true ∧
    fopRoom { t.tf.copCfg with vs := t.tf.copCfg.vs + 1 } = true

/-- The first of two frames can be sent. -/
theorem CanSendTwo.canSend (h : CanSendTwo t) : CanSend t := by
  refine ⟨fun hnil => ?_, h.2.1⟩
  have hlen := h.1
  rw [hnil] at hlen
  exact absurd hlen (by decide)

/-- The test for room looks at three of the variables. -/
theorem fopRoom_congr {fop fop' : FopConfig} (hvs : fop'.vs = fop.vs) (hnnr : fop'.nnr = fop.nnr)
    (hwnd : fop'.slideWnd = fop.slideWnd) : fopRoom fop' = fopRoom fop := by
  unfold fopRoom conditionFopInwindow
  rw [hvs, hnnr, hwnd]

/-- If none has gone out, it can be sent as before. -/
theorem SentOn.canSend_nil_iff (h : SentOn t s []) : CanSend s ↔ CanSend t := by
  obtain ⟨taken, htaken, hfrom⟩ := h.waitQueue
  have hvs : s.tf.copCfg.vs = t.tf.copCfg.vs := h.vs.trans (UInt8.add_zero _)
  unfold CanSend
  rw [fopRoom_congr hvs h.nnr h.slideWnd, htaken, List.forall₂_nil_right_iff.mp hfrom,
    List.nil_append]

/-- After one frame, another one can go out exactly if two could before. -/
theorem SentOn.canSend_singleton_iff {fdu : List UInt8} (h : SentOn t s [fdu]) (hcan : CanSend t) :
    CanSend s ↔ CanSendTwo t := by
  obtain ⟨taken, htaken, hfrom⟩ := h.waitQueue
  have hlen : t.world.waitQueue.length = s.world.waitQueue.length + 1 := by
    rw [htaken, List.length_append, hfrom.length_eq, List.length_singleton, Nat.add_comm]
  have hroom : fopRoom s.tf.copCfg = fopRoom { t.tf.copCfg with vs := t.tf.copCfg.vs + 1 } :=
    fopRoom_congr h.vs h.nnr h.slideWnd
  unfold CanSend CanSendTwo
  rw [hroom, hlen, ← List.length_pos_iff_ne_nil]
  constructor
  · rintro ⟨hpos, hroom⟩
    exact ⟨by omega, hcan.2, hroom⟩
  · rintro ⟨htwo, -, hroom⟩
    exact ⟨by omega, hroom⟩

/-- Waiting frames go out: none only where none can, and more than one where two can and either
something else does before (`outer`), or the first is a type-A frame. -/
def Fills (outer : Prop) (t t' : Fop) : Prop :=
  ∃ news, SentOn t t' news ∧ (news = [] ↔ ¬ CanSend t) ∧
    (2 ≤ news.length ↔ CanSendTwo t ∧ (outer ∨ frameType (packedWaiting t).1 = .typeA))

theorem Fills.signalled {outer : Prop} (h : Fills outer t s) (notif : Notification) :
    Fills outer t (signalled notif s) := by
  obtain ⟨news, hsent, hnil, htwo⟩ := h
  exact ⟨news, hsent.signalled notif, hnil, htwo⟩

/-- Two searches in a row find two frames if there are two. -/
theorem Fills.trans {outer outer' : Prop} {u : Fop} (h : Fills outer t s) (h' : Fills outer' s u) :
    Fills True t u := by
  obtain ⟨news, hsent, hnil, htwo⟩ := h
  obtain ⟨news', hsent', hnil', -⟩ := h'
  refine ⟨news ++ news', hsent.trans hsent', ?_, ?_⟩
  · rw [List.append_eq_nil_iff, ← hnil]
    refine ⟨And.left, fun hnews => ⟨hnews, ?_⟩⟩
    subst hnews
    rw [hnil', hsent.canSend_nil_iff]
    exact hnil.mp rfl
  · rw [List.length_append, true_or, and_true]
    match news, hsent, hnil, htwo with
    | [], hsent, hnil, htwo =>
      have hnone := hnil.mp rfl
      rw [hnil'.mpr (by rwa [hsent.canSend_nil_iff])]
      exact ⟨fun h => absurd h (by decide), fun h => absurd h.canSend hnone⟩
    | [fdu], hsent, hnil, htwo =>
      have hcan : CanSend t := by
        by_contra hnot
        exact absurd (hnil.mpr hnot) (List.cons_ne_nil _ _)
      rw [← hsent.canSend_singleton_iff hcan, ← not_iff_not, ← hnil', ← List.length_eq_zero_iff,
        List.length_singleton]
      omega
    | fdu :: fdu' :: news, hsent, hnil, htwo =>
      have hlen : 2 ≤ (fdu :: fdu' :: news).length := by simp
      exact ⟨fun _ => (htwo.mp hlen).1, fun _ => by omega⟩

/-! ## The search -/

/-- The response comes after the frame is on both queues. -/
theorem osdlpTransmitTypeAd_reentrant (s : Fop) :
    osdlpTransmitTypeAd (reentrantHooks keep deepest (depth + 1)) s =
      (0, responded keep deepest depth (packedWaiting s).1 (transmitted s)) := by
  have htransmit := osdlpTransmitTypeAd_drawn keep (fifoHooks keep).sentQueueEnqueue
    (reentrantHooks keep deepest (depth + 1)).txQueueEnqueue s
  rw [show reentrantHooks keep deepest (depth + 1) =
    { fifoHooks keep with
      sentQueueEnqueue := (fifoHooks keep).sentQueueEnqueue
      txQueueEnqueue := (reentrantHooks keep deepest (depth + 1)).txQueueEnqueue } from rfl,
    htransmit]
  rfl

/-- SOURCE: osdlp_cop.c:415-449 -/
theorem lookForWaiting_reentrant (s : Fop) :
    lookForWaiting (reentrantHooks keep deepest (depth + 1)) s =
      if s.world.waitQueue.isEmpty then (.ignore, s)
      else if fopRoom s.tf.copCfg then
        (.acceptTx, signalled .acceptTx
          (responded keep deepest depth (packedWaiting s).1 (transmitted s)))
      else (.delayResp, signalled .delayResp s) := by
  have hempty : (reentrantHooks keep deepest (depth + 1)).waitQueueEmpty s =
      (s.world.waitQueue.isEmpty, s) := rfl
  unfold lookForWaiting
  simp only [bind_apply, hempty, ite_apply_state, pure_apply, osdlpTransmitTypeAd_reentrant]
  rfl

/-- The state after the first half of the search. -/
def resentThen (keep : List Bool) (deepest : CopHooks FifoWorld) (depth : ℕ) (s : Fop) : Fop :=
  match s.world.sentQueue.find? isAdRt with
  | none => s
  | some item => responded keep deepest depth item.fdu (resent s)

/-- SOURCE: osdlp_cop.c:398-412 -/
theorem lookForRetransmission_reentrant (s : Fop) :
    lookForRetransmission (reentrantHooks keep deepest (depth + 1)) s =
      (none, resentThen keep deepest depth s) := by
  have hempty : (reentrantHooks keep deepest (depth + 1)).sentQueueEmpty s =
      (s.world.sentQueue.isEmpty, s) := rfl
  have hfirst : (reentrantHooks keep deepest (depth + 1)).getFirstAdRtFrame s =
      (s.world.sentQueue.find? isAdRt, s) := rfl
  unfold resentThen resent lookForRetransmission
  simp only [bind_apply, hempty, hfirst, ite_apply_state, pure_apply]
  cases hq : s.world.sentQueue with
  | nil => rfl
  | cons item items =>
    simp only [List.isEmpty_cons, Bool.false_eq_true, if_false]
    cases hf : (item :: items).find? isAdRt with
    | none => rfl
    | some first => rfl

/-- The response to a marked frame comes between the halves of the search. -/
theorem osdlpLookForFdu_reentrant (s : Fop) :
    osdlpLookForFdu (reentrantHooks keep deepest (depth + 1)) s =
      lookForWaiting (reentrantHooks keep deepest (depth + 1)) (resentThen keep deepest depth s) := by
  unfold osdlpLookForFdu
  rw [bind_apply, lookForRetransmission_reentrant]

/-! ## In ACTIVE and RT_NO_WAIT -/

/-- The states in which an acceptance looks for another frame. -/
def Looks (s : Fop) : Prop := s.tf.copCfg.state = .active ∨ s.tf.copCfg.state = .rtNoWait

theorem Looks.not_initBc (h : Looks s) : s.tf.copCfg.state ≠ .initBc := by
  rcases h with h | h <;> rw [h] <;> decide

/-- Nothing is marked for retransmission. -/
def NoneMarked (s : Fop) : Prop := s.world.sentQueue.find? isAdRt = none

/-- Frames go out unmarked. -/
theorem SentOn.noneMarked {news : List (List UInt8)} (h : SentOn t s news) (hnone : NoneMarked t) :
    NoneMarked s := by
  obtain ⟨items, hitems, hlow⟩ := h.sentQueue
  unfold NoneMarked at hnone ⊢
  rw [hitems, List.find?_append, hnone, Option.none_or, List.find?_eq_none]
  intro item hmem hmarked
  rw [isAdRt, hlow item hmem, Bool.false_and] at hmarked
  exact Bool.false_ne_true hmarked

theorem NoneMarked.resentThen (hnone : NoneMarked s) : resentThen keep deepest depth s = s := by
  unfold Interface.resentThen
  rw [hnone]

/-- Where nothing is marked, a search sends waiting frames until none can go out. -/
theorem osdlpLookForFdu_noneMarked (keep : List Bool) (deepest : CopHooks FifoWorld)
    (hlooks : Looks s) (hnone : NoneMarked s)
    (hdepth : s.world.waitQueue.length < depth) :
    Fills False s (osdlpLookForFdu (reentrantHooks keep deepest depth) s).2 := by
  induction depth generalizing s with
  | zero => exact absurd hdepth (Nat.not_lt_zero _)
  | succ depth ih =>
    have hsame : ∀ notif, ¬ CanSend s → Fills False s (signalled notif s) := fun notif hnot =>
      ⟨[], (SentOn.refl s).signalled notif, by simp [hnot], by
        simpa using fun h : CanSendTwo s => absurd h.canSend hnot⟩
    rw [osdlpLookForFdu_reentrant, hnone.resentThen, lookForWaiting_reentrant]
    by_cases hwait : s.world.waitQueue.isEmpty
    · rw [if_pos hwait]
      exact hsame s.tf.copCfg.signal fun hcan => hcan.1 (List.isEmpty_iff.mp hwait)
    · rw [if_neg hwait]
      have hwait' : s.world.waitQueue ≠ [] := fun h => hwait (List.isEmpty_iff.mpr h)
      by_cases hroom : fopRoom s.tf.copCfg
      · rw [if_pos hroom]
        have hfirst := transmitted_sentOn hwait'
        have hcan : CanSend s := ⟨hwait', hroom⟩
        have hlooks' : Looks (transmitted s) := hlooks
        refine Fills.signalled ?_ .acceptTx
        cases htype : frameType (packedWaiting s).1 with
        | typeB =>
          have hone : Fills False s (transmitted s) := by
            refine ⟨_, hfirst, by simp [hcan], ?_⟩
            simp [htype]
          rcases responded_typeb keep deepest depth
            hlooks'.not_initBc htype with hresp | hresp
          · rw [hresp]
            exact hone
          · rw [hresp]
            exact hone.signalled _
        | typeA =>
          have hlen : (transmitted s).world.waitQueue.length < depth := by
            show s.world.waitQueue.tail.length < depth
            rw [List.length_tail]
            have := List.length_pos_iff_ne_nil.mpr hwait'
            omega
          obtain ⟨news, hsent, hnil, -⟩ := ih hlooks' (hfirst.noneMarked hnone) hlen
          obtain ⟨notif, hresp⟩ := responded_typea keep deepest depth hlooks' htype
          rw [hresp]
          refine Fills.signalled ⟨_, hfirst.trans hsent, by simp [hcan], ?_⟩ notif
          rw [← hfirst.canSend_singleton_iff hcan, ← not_iff_not, false_or, htype]
          simp only [and_true, ← hnil, List.length_append, List.length_singleton,
            ← List.length_eq_zero_iff]
          omega
      · rw [if_neg hroom]
        exact hsame .delayResp fun hcan => hroom hcan.2

/-! ## What is marked -/

/-- The item with its flag down, if it is to be retransmitted. -/
def lowered (item : QueueItem) : QueueItem :=
  if isAdRt item then { item with rtFlag := false } else item

/-- Behind the retransmission nothing is marked any longer. -/
theorem not_isAdRt_lowered (item : QueueItem) : isAdRt (lowered item) = false := by
  unfold lowered
  cases hmarked : isAdRt item with
  | false => exact hmarked
  | true => rfl

/-- The state in which everything that was marked has gone out again. -/
def relaunched (s : Fop) : Fop :=
  onWorld s fun w =>
    { w with
      txQueue := w.txQueue ++ (w.sentQueue.filter isAdRt).map QueueItem.fdu
      sentQueue := w.sentQueue.map lowered }

theorem canSendTwo_relaunched (s : Fop) : CanSendTwo (relaunched s) ↔ CanSendTwo s := Iff.rfl

theorem packedWaiting_relaunched (s : Fop) : packedWaiting (relaunched s) = packedWaiting s := (rfl)

/-- Taking the flag of the first marked item down leaves the others. -/
theorem resetRt_first {items : List QueueItem} {first : QueueItem}
    (hnodup : (items.map QueueItem.seqNum).Nodup) (hfirst : items.find? isAdRt = some first) :
    items.filter isAdRt = first :: (resetRt first.seqNum items).filter isAdRt ∧
      (resetRt first.seqNum items).map lowered = items.map lowered ∧
      (resetRt first.seqNum items).map QueueItem.seqNum = items.map QueueItem.seqNum := by
  induction items with
  | nil => exact absurd hfirst (by simp)
  | cons item items ih =>
    rw [List.map_cons, List.nodup_cons] at hnodup
    cases hmarked : isAdRt item with
    | true =>
      rw [List.find?_cons_of_pos hmarked, Option.some.injEq] at hfirst
      subst hfirst
      have hlow : isAdRt { item with rtFlag := false } = false := rfl
      unfold resetRt
      rw [if_pos rfl, List.filter_cons_of_pos hmarked, List.filter_cons_of_neg (by rw [hlow]; simp)]
      refine ⟨rfl, ?_, rfl⟩
      rw [List.map_cons, List.map_cons]
      congr 1
      unfold lowered
      rw [if_pos hmarked, hlow]
      rfl
    | false =>
      have hnot : ¬ isAdRt item = true := by rw [hmarked]; exact Bool.false_ne_true
      rw [List.find?_cons_of_neg hnot] at hfirst
      obtain ⟨hfilter, hmap, hseq⟩ := ih hnodup.2 hfirst
      have hne : item.seqNum ≠ first.seqNum := by
        intro heq
        rw [heq] at hnodup
        exact hnodup.1 (List.mem_map_of_mem (List.mem_of_find?_eq_some hfirst))
      unfold resetRt
      rw [if_neg hne, List.filter_cons_of_neg hnot, List.filter_cons_of_neg hnot, List.map_cons,
        List.map_cons, List.map_cons, List.map_cons, hmap, hseq]
      exact ⟨hfilter, rfl, rfl⟩

/-- The items have numbers of their own, and those to be retransmitted are type-A frames. -/
structure Retransmittable (s : Fop) : Prop where
  nodup : (s.world.sentQueue.map QueueItem.seqNum).Nodup
  typea : ∀ item ∈ s.world.sentQueue.filter isAdRt, frameType item.fdu = .typeA

/-- One marked frame less, and the same frames go out in the end. -/
theorem Retransmittable.resent (h : Retransmittable s) {first : QueueItem}
    (hfirst : s.world.sentQueue.find? isAdRt = some first) :
    Retransmittable (resent s) ∧ relaunched (Interface.resent s) = relaunched s ∧
      s.world.sentQueue.filter isAdRt =
        first :: (Interface.resent s).world.sentQueue.filter isAdRt := by
  obtain ⟨hfilter, hmap, hseq⟩ := resetRt_first h.nodup hfirst
  have hresent : Interface.resent s = onWorld s fun w =>
      { w with sentQueue := resetRt first.seqNum w.sentQueue, txQueue := w.txQueue ++ [first.fdu] } := by
    unfold Interface.resent
    rw [hfirst]
  rw [hresent]
  refine ⟨⟨?_, fun item hmem => h.typea item ?_⟩, ?_, hfilter⟩
  · show ((resetRt first.seqNum s.world.sentQueue).map QueueItem.seqNum).Nodup
    rw [hseq]
    exact h.nodup
  · rw [hfilter]
    exact List.mem_cons_of_mem _ hmem
  · unfold relaunched onWorld
    dsimp only
    rw [hmap, hfilter, List.map_cons, List.append_assoc]
    rfl

theorem NoneMarked.filter (hnone : NoneMarked s) : s.world.sentQueue.filter isAdRt = [] :=
  List.filter_eq_nil_iff.mpr (List.find?_eq_none.mp hnone)

/-- With nothing marked, everything has gone out already. -/
theorem NoneMarked.relaunched (hnone : NoneMarked s) : relaunched s = s := by
  have hmap : s.world.sentQueue.map lowered = s.world.sentQueue := by
    refine (List.map_congr_left fun item hmem => ?_).trans (List.map_id _)
    exact if_neg (List.find?_eq_none.mp hnone item hmem)
  unfold Interface.relaunched onWorld
  dsimp only
  rw [hnone.filter, hmap, List.map_nil, List.append_nil]

/-- Nothing stays marked. -/
theorem noneMarked_relaunched (s : Fop) : NoneMarked (relaunched s) := by
  unfold NoneMarked
  rw [List.find?_eq_none]
  intro item hmem
  obtain ⟨item', -, rfl⟩ := List.mem_map.mp hmem
  rw [not_isAdRt_lowered]
  exact Bool.false_ne_true

/-- **A search sends everything that is marked, and waiting frames behind it.** -/
theorem osdlpLookForFdu_fills (keep : List Bool) (deepest : CopHooks FifoWorld) (hlooks : Looks s)
    (hretransmittable : Retransmittable s)
    (hdepth : (s.world.sentQueue.filter isAdRt).length + s.world.waitQueue.length < depth) :
    Fills (s.world.sentQueue.filter isAdRt ≠ []) (relaunched s)
      (osdlpLookForFdu (reentrantHooks keep deepest depth) s).2 := by
  induction depth generalizing s with
  | zero => exact absurd hdepth (Nat.not_lt_zero _)
  | succ depth ih =>
    cases hfirst : s.world.sentQueue.find? isAdRt with
    | none =>
      have hnone : NoneMarked s := hfirst
      have houter : (s.world.sentQueue.filter isAdRt ≠ []) = False :=
        eq_false (not_not.mpr hnone.filter)
      rw [houter, hnone.relaunched]
      exact osdlpLookForFdu_noneMarked keep deepest hlooks hnone (by omega)
    | some first =>
      obtain ⟨hresent, hrelaunched, hfilter⟩ := hretransmittable.resent hfirst
      have houter : (s.world.sentQueue.filter isAdRt ≠ []) = True := by
        rw [hfilter]
        exact eq_true (List.cons_ne_nil _ _)
      have hlooks' : Looks (resent s) := by
        unfold Looks
        rw [resent_tf]
        exact hlooks
      rw [hfilter, List.length_cons] at hdepth
      -- the response to the first frame sends the others
      obtain ⟨notif, hresp⟩ := responded_typea keep deepest depth
        hlooks' (hretransmittable.typea first (by rw [hfilter]; exact List.mem_cons_self))
      have hthen : resentThen keep deepest depth s =
          signalled notif (osdlpLookForFdu (reentrantHooks keep deepest depth) (resent s)).2 := by
        unfold resentThen
        rw [hfirst]
        exact hresp
      have hinner : Fills ((resent s).world.sentQueue.filter isAdRt ≠ []) (relaunched s)
          (resentThen keep deepest depth s) := by
        rw [hthen, ← hrelaunched]
        exact (ih hlooks' hresent (by rw [resent_waitQueue]; omega)).signalled notif
      have ⟨news, hsent, _⟩ := hinner
      have hnone := hsent.noneMarked (noneMarked_relaunched s)
      have hlooks'' : Looks (resentThen keep deepest depth s) := by
        unfold Looks
        rw [hsent.state]
        exact hlooks
      have hlen : (resentThen keep deepest depth s).world.waitQueue.length < depth + 1 := by
        obtain ⟨taken, htaken, -⟩ := hsent.waitQueue
        have hwait := congrArg List.length htaken
        rw [List.length_append] at hwait
        have : (relaunched s).world.waitQueue = s.world.waitQueue := rfl
        rw [this] at hwait
        omega
      have houterLook := osdlpLookForFdu_noneMarked keep deepest hlooks''
        hnone hlen
      rw [osdlpLookForFdu_reentrant, hnone.resentThen] at houterLook
      rw [houter, osdlpLookForFdu_reentrant]
      exact hinner.trans houterLook

/-! ## In RT_WAIT -/

/-- In RT_WAIT a search sends the first frame that is marked and at most one waiting frame.
SOURCE: osdlp_cop.c:395-450, 2759-2793 -/
theorem osdlpLookForFdu_rtWait (keep : List Bool) (deepest : CopHooks FifoWorld) (depth : ℕ)
    (hs : s.tf.copCfg.state = .rtWait) :
    ∃ news, SentOn (resent s) (osdlpLookForFdu (reentrantHooks keep deepest (depth + 1)) s).2 news ∧
      news.length ≤ 1 := by
  have hquiet : ∀ {news : List (List UInt8)} {t u : Fop} (fdu : List UInt8),
      u.tf.copCfg.state = .rtWait → SentOn t u news →
        SentOn t (responded keep deepest depth fdu u) news := by
    intro news t u fdu hu hsent
    rcases responded_rtWait keep deepest depth fdu hu with
      hresp | hresp
    · rw [hresp]
      exact hsent
    · rw [hresp]
      exact hsent.signalled _
  have hresent : (resent s).tf.copCfg.state = .rtWait := by rw [resent_tf]; exact hs
  have hthen : SentOn (resent s) (resentThen keep deepest depth s) [] := by
    unfold resentThen
    cases hfirst : s.world.sentQueue.find? isAdRt with
    | none =>
      have hsame : resent s = s := by
        unfold resent
        rw [hfirst]
      rw [hsame]
      exact .refl s
    | some first => exact hquiet first.fdu hresent (.refl _)
  have hstate := hthen.state.trans hresent
  rw [osdlpLookForFdu_reentrant, lookForWaiting_reentrant]
  split_ifs with hwait hroom
  · exact ⟨[], hthen, by simp⟩
  · have hnext := transmitted_sentOn fun h => hwait (List.isEmpty_iff.mpr h)
    exact ⟨_, (hthen.trans (hquiet _ (hnext.state.trans hstate) hnext)).signalled _,
      Nat.le_refl 1⟩
  · exact ⟨[], hthen.signalled _, by simp⟩

end Osdlp.Interface
