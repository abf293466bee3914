import Osdlp.Analysis.TransmitAtomic
import Osdlp.Interface.Reentrant

/-!
# Go-back-N by recursion

A retransmission marks the sent queue and looks for one frame; the others go out because the
transmission queue answers each frame with `osdlp_ad_accept`, which looks for the next one.  In
RT_WAIT it does not, and E8 and E10 leave RT_WAIT only after they have looked: one frame goes out,
and the others stay marked.  In ACTIVE and RT_NO_WAIT everything goes out, and behind it as many
waiting frames as there is room for (`goesBackN_iff`).
-/

set_option autoImplicit false

namespace Osdlp.Analysis

open Osdlp.Model Osdlp.Interface Osdlp.Library

/-! ## The property and the condition -/

/-- What a report with the number `nr` leaves in the sent queue. -/
def unacked (nr : UInt8) (s : Fop) : List QueueItem :=
  s.world.sentQueue.dropWhile fun item => item.seqNum ≠ nr

/-- The control word initiates a retransmission of type-A frames. -/
def Initiates (clcw : ClcwFrame) (fop : FopConfig) : Prop :=
  clcwKind fop clcw = .e8 ∨ clcwKind fop clcw = .e10 ∧ fop.state ≠ .rtNoWait

/-- From `s` to `s'`, the frames that are left have gone out once and in order, and behind them at
most one waiting frame; nothing stays marked. -/
structure GoesBackN (keep : List Bool) (nr : UInt8) (s s' : Fop) : Prop where
  sent : ∃ news, s'.world.txQueue =
      survivors keep s.world.txQueue ++ (unacked nr s).map QueueItem.fdu ++ news ∧
    (news = [] ∨ ∃ w fdu, news = [fdu] ∧ s.world.waitQueue = w :: s'.world.waitQueue ∧
      Interface.PackedFrom w fdu)
  lowered : ∀ item ∈ s'.world.sentQueue, item.rtFlag = false

/-- After the acknowledgement the window has room for two more frames. -/
def RoomForTwo (nr : UInt8) (s : Fop) : Prop :=
  let nnr := if s.world.sentQueue = [] then s.tf.copCfg.nnr else nr
  fopRoom { s.tf.copCfg with nnr := nnr } = true ∧
    fopRoom { s.tf.copCfg with nnr := nnr, vs := s.tf.copCfg.vs + 1 } = true

/-- In RT_WAIT, at most one frame is left.  Elsewhere there are not two waiting frames with room
for both, of which the second would go out behind a retransmission, or behind the first if that is
a type-A frame. -/
def OneAtATime (nr : UInt8) (s : Fop) : Prop :=
  if s.tf.copCfg.state = .rtWait then (unacked nr s).length ≤ 1
  else ¬ (2 ≤ s.world.waitQueue.length ∧ RoomForTwo nr s ∧
    (unacked nr s ≠ [] ∨ frameType (packedWaiting s).1 = .typeA))

variable {keep : List Bool} {deepest : CopHooks FifoWorld} {depth : ℕ} {s : Fop} {nr : UInt8}
  {clcw : ClcwFrame}

/-! ## The state that is searched -/

/-- The state after the acknowledgement and the initiation. -/
def initiated (keep : List Bool) (clcw : ClcwFrame) (s : Fop) : Fop :=
  retransmitting keep
    (acked clcw.reportValue (s.tf.copCfg.slideWnd.toNat + 1) (withClcw clcw s))

/-- With rounds enough the loop stops at N(R) or with the queue empty. -/
theorem dropAcked_eq_dropWhile (nr : UInt8) {left : ℕ} {items : List QueueItem}
    (hlen : items.length < left) :
    dropAcked nr left items = items.dropWhile fun item => item.seqNum ≠ nr := by
  induction items generalizing left with
  | nil => cases left <;> rfl
  | cons item items ih =>
    obtain ⟨left, rfl⟩ := Nat.exists_eq_succ_of_ne_zero (Nat.ne_of_gt (Nat.zero_lt_of_lt hlen))
    rw [List.length_cons] at hlen
    unfold dropAcked
    by_cases hnr : item.seqNum = nr
    · rw [if_pos hnr, List.dropWhile_cons_of_neg (by simpa using hnr)]
    · rw [if_neg hnr, List.dropWhile_cons_of_pos (by simpa using hnr), ih (by omega)]

/-- NN(R) moves if anything is removed, and the sent queue is in step. -/
theorem acked_nnr (h : Mirrors s) (left : ℕ) :
    (acked nr (left + 1) s).tf.copCfg.nnr =
      if s.world.sentQueue = [] then s.tf.copCfg.nnr else nr := by
  unfold acked
  cases hq : s.world.sentQueue with
  | nil => rfl
  | cons item items =>
    have hhead := h.head hq
    rw [if_neg (List.cons_ne_nil item items), dropAcked]
    by_cases hnr : item.seqNum = nr
    · rw [if_pos hnr, if_pos rfl, ← hhead, hnr]
    · have hshort : dropAcked nr left items ≠ item :: items := by
        intro heq
        have hlen := length_dropAcked_le nr left items
        rw [heq, List.length_cons] at hlen
        omega
      rw [if_neg hnr, if_neg hshort]
      rfl

/-- The control word and the counters other than V(S) do not go into a frame. -/
theorem packedWaiting_initiated (keep : List Bool) (clcw : ClcwFrame) (s : Fop) :
    (packedWaiting (initiated keep clcw s)).1 = (packedWaiting s).1 := by
  have hpack : ∀ t : Fop, (packedWaiting t).1 = if t.tf.mission.crcFlag then _ else _ := fun t =>
    apply_ite Prod.fst _ _ _
  rw [hpack, hpack]
  by_cases hsame : dropAcked clcw.reportValue (s.tf.copCfg.slideWnd.toNat + 1) s.world.sentQueue =
      s.world.sentQueue
  · have hinitiated : initiated keep clcw s = retransmitting keep (withClcw clcw s) :=
      congrArg (retransmitting keep) (if_pos hsame)
    rw [hinitiated]
    rfl
  · have hinitiated : initiated keep clcw s =
        retransmitting keep (removed clcw.reportValue _ (withClcw clcw s)) :=
      congrArg (retransmitting keep) (if_neg hsame)
    rw [hinitiated]
    rfl

/-- A retransmission leaves the waiting frames. -/
theorem initiated_waitQueue (keep : List Bool) (clcw : ClcwFrame) (s : Fop) :
    (initiated keep clcw s).world.waitQueue = s.world.waitQueue := by
  unfold initiated acked
  split_ifs <;> rfl

/-- A retransmission leaves the state. -/
theorem initiated_state (keep : List Bool) (clcw : ClcwFrame) (s : Fop) :
    (initiated keep clcw s).tf.copCfg.state = s.tf.copCfg.state := by
  unfold initiated acked
  split_ifs <;> rfl

/-- What is left is marked. -/
theorem initiated_sentQueue (keep : List Bool) (clcw : ClcwFrame) {s : Fop}
    (hwnd : s.world.sentQueue.length ≤ s.tf.copCfg.slideWnd.toNat) :
    (initiated keep clcw s).world.sentQueue = (unacked clcw.reportValue s).map (markRt .typeA) := by
  show (acked clcw.reportValue _ (withClcw clcw s)).world.sentQueue.map _ = _
  rw [acked_sentQueue, unacked, ← dropAcked_eq_dropWhile clcw.reportValue (Nat.lt_succ_of_le hwnd)]
  rfl

/-- Exactly what is not acknowledged is marked. -/
theorem filter_initiated (keep : List Bool) (clcw : ClcwFrame) (hmirrors : Mirrors s)
    (hwnd : s.world.sentQueue.length ≤ s.tf.copCfg.slideWnd.toNat) :
    (initiated keep clcw s).world.sentQueue.filter isAdRt =
      (unacked clcw.reportValue s).map (markRt .typeA) := by
  rw [initiated_sentQueue keep clcw hwnd, List.filter_eq_self]
  intro item hmem
  obtain ⟨item', hmem', rfl⟩ := List.mem_map.mp hmem
  have htype := hmirrors.typea ((List.dropWhile_sublist _).subset hmem')
  unfold markRt isAdRt
  rw [if_pos htype]
  exact decide_eq_true htype

/-- The frames that are left are on the transmission queue behind what has stayed there. -/
theorem relaunched_initiated (keep : List Bool) (clcw : ClcwFrame) (hmirrors : Mirrors s)
    (hwnd : s.world.sentQueue.length ≤ s.tf.copCfg.slideWnd.toNat) :
    (relaunched (initiated keep clcw s)).world.txQueue =
        survivors keep s.world.txQueue ++ (unacked clcw.reportValue s).map QueueItem.fdu ∧
      ∀ item ∈ (relaunched (initiated keep clcw s)).world.sentQueue, item.rtFlag = false := by
  have htx : (initiated keep clcw s).world.txQueue = survivors keep s.world.txQueue := by
    unfold initiated acked
    split_ifs <;> rfl
  have hfdu : ((unacked clcw.reportValue s).map (markRt .typeA)).map QueueItem.fdu =
      (unacked clcw.reportValue s).map QueueItem.fdu := by
    rw [List.map_map]
    exact List.map_congr_left fun item _ => congrArg Prod.fst (itemCopy_markRt .typeA item)
  have hfilter := filter_initiated keep clcw hmirrors hwnd
  refine ⟨?_, fun item hmem => ?_⟩
  · show (initiated keep clcw s).world.txQueue ++
      ((initiated keep clcw s).world.sentQueue.filter isAdRt).map QueueItem.fdu = _
    rw [htx, hfilter, hfdu]
  · obtain ⟨item', hmem', rfl⟩ := List.mem_map.mp hmem
    rw [initiated_sentQueue keep clcw hwnd, ← hfilter] at hmem'
    unfold lowered
    rw [if_pos (List.mem_filter.mp hmem').2]

/-- Two waiting frames find room if the window has room for them behind N(R). -/
theorem canSendTwo_initiated (hmirrors : Mirrors s) :
    CanSendTwo (initiated keep clcw s) ↔
      2 ≤ s.world.waitQueue.length ∧ RoomForTwo clcw.reportValue s := by
  have hnnr : (initiated keep clcw s).tf.copCfg.nnr =
      if s.world.sentQueue = [] then s.tf.copCfg.nnr else clcw.reportValue :=
    acked_nnr (s := withClcw clcw s) hmirrors _
  have hfop : (initiated keep clcw s).tf.copCfg.vs = s.tf.copCfg.vs ∧
      (initiated keep clcw s).tf.copCfg.slideWnd = s.tf.copCfg.slideWnd := by
    unfold initiated acked
    split_ifs <;> exact ⟨rfl, rfl⟩
  have hroom : ∀ vs, fopRoom { (initiated keep clcw s).tf.copCfg with vs := vs } =
      fopRoom { s.tf.copCfg with
        vs := vs
        nnr := if s.world.sentQueue = [] then s.tf.copCfg.nnr else clcw.reportValue } :=
    fun vs => fopRoom_congr rfl hnnr hfop.2
  have hfirst := hroom s.tf.copCfg.vs
  have hsecond := hroom (s.tf.copCfg.vs + 1)
  rw [← hfop.1] at hfirst hsecond
  unfold CanSendTwo RoomForTwo
  dsimp only at hfirst hsecond ⊢
  rw [initiated_waitQueue, hfirst, hsecond, hfop.1]

/-- A queue in step with the counters has items with numbers of their own. -/
theorem retransmittable_initiated (keep : List Bool) (clcw : ClcwFrame) (hmirrors : Mirrors s)
    (hwnd : s.world.sentQueue.length ≤ s.tf.copCfg.slideWnd.toNat)
    (hframes : ∀ item ∈ s.world.sentQueue, frameType item.fdu = .typeA) :
    Retransmittable (initiated keep clcw s) := by
  have hsub : (unacked clcw.reportValue s).Sublist s.world.sentQueue := List.dropWhile_sublist _
  have hseq : (initiated keep clcw s).world.sentQueue.map QueueItem.seqNum =
      (unacked clcw.reportValue s).map QueueItem.seqNum := by
    rw [initiated_sentQueue keep clcw hwnd, List.map_map]
    exact List.map_congr_left fun item _ => markRt_seqNum .typeA item
  refine ⟨?_, fun item hmem => ?_⟩
  · rw [hseq]
    exact hmirrors.nodup.sublist (hsub.map _)
  · have hmem' := (List.mem_filter.mp hmem).1
    rw [initiated_sentQueue keep clcw hwnd] at hmem'
    obtain ⟨item', hin, rfl⟩ := List.mem_map.mp hmem'
    rw [markRt_fdu]
    exact hframes item' (hsub.subset hin)

/-! ## The handlers -/

/-- The removal sends nothing, so nothing is called back. -/
theorem osdlpRemoveAckedFrames_reentrant (nr : UInt8) :
    osdlpRemoveAckedFrames (reentrantHooks keep deepest (depth + 1)) nr =
      osdlpRemoveAckedFrames (fifoHooks keep) nr := by
  have hloop : ∀ rounds counter,
      removeAckedLoop (reentrantHooks keep deepest (depth + 1)) nr counter rounds =
        removeAckedLoop (fifoHooks keep) nr counter rounds := by
    intro rounds
    induction rounds with
    | zero => exact fun _ => rfl
    | succ rounds ih =>
      intro counter
      unfold removeAckedLoop
      rw [ih]
      rfl
  exact hloop 256 0

/-- Behind the removal a handler goes on as it does over queues. -/
theorem removeAckedThen_reentrant (clcw : ClcwFrame) (next : FopM FifoWorld Notification)
    (s : Fop) :
    removeAckedThen (reentrantHooks keep deepest (depth + 1)) clcw next s =
      next (acked clcw.reportValue (s.tf.copCfg.slideWnd.toNat + 1) s) := by
  rw [← removeAckedThen_acked keep clcw next s]
  unfold removeAckedThen
  rw [osdlpRemoveAckedFrames_reentrant]

theorem adRetransmissionThen_reentrant (next : FopM FifoWorld Notification) (s : Fop) :
    adRetransmissionThen (reentrantHooks keep deepest (depth + 1)) next s =
      next (retransmitting keep s) := rfl

/-- Neither the state nor the report touches the queues. -/
theorem lookThenReport_world (h : CopHooks FifoWorld) (state : Option FopState) (s : Fop) :
    (lookThenReport h state s).2.world = (osdlpLookForFdu h s).2.world := by
  have hreport : ∀ (notif : Notification) (s : Fop), (report notif s).2.world = s.world := by
    intro notif s
    unfold report
    rw [ite_apply_state]
    split <;> rfl
  unfold lookThenReport
  rw [bind_apply]
  cases state with
  | none => exact hreport _ _
  | some state => exact hreport _ _

/-- The queues after a control word that initiates a retransmission are those that the search
leaves.
SOURCE: osdlp_cop.c:1182-1261, 1311-1364 -/
theorem initiates_world (hmirrors : Mirrors s) (had : isAd s.tf.copCfg.state) {ocf : List UInt8}
    (hinitiates : Initiates (osdlpClcwUnpack ocf) s.tf.copCfg) :
    (osdlpHandleClcw (reentrantHooks keep deepest (depth + 1)) ocf s).2.world =
      (osdlpLookForFdu (reentrantHooks keep deepest (depth + 1))
        (initiated keep (osdlpClcwUnpack ocf) s)).2.world := by
  rw [osdlpHandleClcw_handler]
  have hguard := clcwKind_guard s.tf.copCfg (osdlpClcwUnpack ocf)
  rcases hinitiates with hkind | ⟨hkind, hnot⟩
  · rw [hkind]
    simp only [ClcwKind.handler, fopE8, bind_apply, getFop_apply]
    have hstate : (withClcw (osdlpClcwUnpack ocf) s).tf.copCfg.state = s.tf.copCfg.state := rfl
    rw [hstate]
    cases hs : s.tf.copCfg.state with
    | active | rtNoWait | rtWait =>
      dsimp only
      rw [removeAckedThen_reentrant, adRetransmissionThen_reentrant, lookThenReport_world]
      rfl
    | initNoBc | initBc | init =>
      rw [hs] at had
      exact absurd had (by decide)
  · rw [hkind] at hguard ⊢
    have hnr : (osdlpClcwUnpack ocf).reportValue = s.tf.copCfg.nnr := hguard.2.1
    have hacked : acked (osdlpClcwUnpack ocf).reportValue (s.tf.copCfg.slideWnd.toNat + 1)
        (withClcw (osdlpClcwUnpack ocf) s) = withClcw (osdlpClcwUnpack ocf) s := by
      unfold acked
      refine if_pos ?_
      show dropAcked _ _ s.world.sentQueue = s.world.sentQueue
      cases hq : s.world.sentQueue with
      | nil => rfl
      | cons item items => rw [dropAcked, if_pos ((hmirrors.head hq).trans hnr.symm)]
    simp only [ClcwKind.handler, fopE10, bind_apply, getFop_apply]
    have hstate : (withClcw (osdlpClcwUnpack ocf) s).tf.copCfg.state = s.tf.copCfg.state := rfl
    rw [hstate]
    unfold initiated
    rw [hacked]
    cases hs : s.tf.copCfg.state with
    | active | rtWait =>
      dsimp only
      rw [adRetransmissionThen_reentrant, lookThenReport_world]
    | rtNoWait => exact absurd hs hnot
    | initNoBc | initBc | init =>
      rw [hs] at had
      exact absurd had (by decide)

/-! ## Completeness -/

/-- Where everything that is left has gone out, the number of new frames decides. -/
theorem goesBackN_iff_of_sentOn {t t' s' : Fop} {news : List (List UInt8)}
    (hsent : SentOn t t' news)
    (hwait : t.world.waitQueue = s.world.waitQueue)
    (htx : t.world.txQueue =
      survivors keep s.world.txQueue ++ (unacked nr s).map QueueItem.fdu)
    (hlow : ∀ item ∈ t.world.sentQueue, item.rtFlag = false) (hworld : s'.world = t'.world) :
    GoesBackN keep nr s s' ↔ news.length ≤ 1 := by
  constructor
  · intro h
    obtain ⟨news', hnews', hone⟩ := h.sent
    rw [hworld, hsent.txQueue, htx, List.append_cancel_left_eq] at hnews'
    rcases hone with rfl | ⟨_, _, rfl, -⟩
    · rw [hnews']
      exact Nat.zero_le 1
    · rw [hnews']
      exact Nat.le_refl 1
  · intro hlen
    obtain ⟨taken, htaken, hfrom⟩ := hsent.waitQueue
    obtain ⟨items, hitems, hnew⟩ := hsent.sentQueue
    refine ⟨⟨news, by rw [hworld, hsent.txQueue, htx], ?_⟩, ?_⟩
    · cases news with
      | nil => exact .inl rfl
      | cons fdu news =>
        obtain rfl : news = [] := by simpa using hlen
        obtain ⟨w, taken', hpacked, hrest, rfl⟩ := List.forall₂_cons_right_iff.mp hfrom
        rw [List.forall₂_nil_right_iff.mp hrest] at htaken
        refine .inr ⟨w, fdu, rfl, ?_, hpacked⟩
        rw [hworld, ← hwait, htaken]
        rfl
    · rw [hworld, hitems]
      intro item hmem
      exact (List.mem_append.mp hmem).elim (hlow item) (hnew item)

/-- In ACTIVE and RT_NO_WAIT everything that is left goes out, and one waiting frame at most unless
there is room for two. -/
theorem goesBackN_looks_iff (hlooks : Looks s) (hmirrors : Mirrors s)
    (hwnd : s.world.sentQueue.length ≤ s.tf.copCfg.slideWnd.toNat)
    (hframes : ∀ item ∈ s.world.sentQueue, frameType item.fdu = .typeA)
    (hdepth : s.world.sentQueue.length + s.world.waitQueue.length < depth) {s' : Fop}
    (hworld : s'.world = (osdlpLookForFdu (reentrantHooks keep deepest depth)
      (initiated keep clcw s)).2.world) :
    GoesBackN keep clcw.reportValue s s' ↔
      ¬ (2 ≤ s.world.waitQueue.length ∧ RoomForTwo clcw.reportValue s ∧
        (unacked clcw.reportValue s ≠ [] ∨ frameType (packedWaiting s).1 = .typeA)) := by
  obtain ⟨htx, hlow⟩ := relaunched_initiated keep clcw hmirrors hwnd
  have hlooks' : Looks (initiated keep clcw s) := by
    unfold Looks
    rw [initiated_state]
    exact hlooks
  have hlen : ((initiated keep clcw s).world.sentQueue.filter isAdRt).length ≤
      s.world.sentQueue.length := by
    refine (List.length_filter_le _ _).trans ?_
    rw [initiated_sentQueue keep clcw hwnd, List.length_map]
    exact (List.dropWhile_sublist _).length_le
  obtain ⟨news, hsent, -, htwo⟩ := osdlpLookForFdu_fills keep deepest hlooks'
    (retransmittable_initiated keep clcw hmirrors hwnd hframes)
    (by rw [initiated_waitQueue]; exact Nat.lt_of_le_of_lt (Nat.add_le_add_right hlen _) hdepth)
  rw [canSendTwo_relaunched, packedWaiting_relaunched, canSendTwo_initiated hmirrors,
    packedWaiting_initiated,
    filter_initiated keep clcw hmirrors hwnd, ne_eq, List.map_eq_nil_iff, and_assoc] at htwo
  rw [← htwo, not_le, Nat.lt_succ_iff]
  exact goesBackN_iff_of_sentOn hsent (initiated_waitQueue keep clcw s) htx hlow hworld

/-- In RT_WAIT one frame goes out, whatever is left. -/
theorem goesBackN_rtWait_iff (hs : s.tf.copCfg.state = .rtWait) (hmirrors : Mirrors s)
    (hwnd : s.world.sentQueue.length ≤ s.tf.copCfg.slideWnd.toNat)
    (hframes : ∀ item ∈ s.world.sentQueue, frameType item.fdu = .typeA) {s' : Fop}
    (hworld : s'.world = (osdlpLookForFdu (reentrantHooks keep deepest (depth + 1))
      (initiated keep clcw s)).2.world) :
    GoesBackN keep clcw.reportValue s s' ↔ (unacked clcw.reportValue s).length ≤ 1 := by
  obtain ⟨htx, hlow⟩ := relaunched_initiated keep clcw hmirrors hwnd
  obtain ⟨news, hsent, hone⟩ := osdlpLookForFdu_rtWait keep deepest depth
    ((initiated_state keep clcw s).trans hs)
  have hfilter := filter_initiated keep clcw hmirrors hwnd
  have hretransmittable := retransmittable_initiated keep clcw hmirrors hwnd hframes
  have hlen := congrArg List.length hfilter
  rw [List.length_map] at hlen
  rw [← hlen]
  -- one call sends the first marked frame and lowers its flag
  have hnone : NoneMarked (resent (initiated keep clcw s)) ↔
      ((initiated keep clcw s).world.sentQueue.filter isAdRt).length ≤ 1 := by
    cases hfirst : (initiated keep clcw s).world.sentQueue.find? isAdRt with
    | none =>
      have hsame : resent (initiated keep clcw s) = initiated keep clcw s := by
        unfold resent
        rw [hfirst]
      rw [hsame]
      have hnone : NoneMarked (initiated keep clcw s) := hfirst
      rw [hnone.filter]
      exact ⟨fun _ => Nat.zero_le 1, fun _ => hnone⟩
    | some first =>
      obtain ⟨-, -, hcons⟩ := hretransmittable.resent hfirst
      rw [hcons, List.length_cons]
      unfold NoneMarked
      rw [List.find?_eq_none, ← List.filter_eq_nil_iff, ← List.length_eq_zero_iff]
      omega
  rw [← hnone]
  constructor
  · intro h
    -- a frame that is still marked after the call keeps its flag
    by_contra hmarked
    obtain ⟨items, hitems, -⟩ := hsent.sentQueue
    unfold NoneMarked at hmarked
    rw [List.find?_eq_none] at hmarked
    push Not at hmarked
    obtain ⟨item, hmem, hflag⟩ := hmarked
    have hraised := h.lowered item (by
      rw [hworld, hitems]
      exact List.mem_append_left items hmem)
    rw [isAdRt, hraised, Bool.false_and] at hflag
    exact Bool.false_ne_true hflag
  · intro hnone
    have hsame : resent (initiated keep clcw s) = relaunched (initiated keep clcw s) := by
      cases hfirst : (initiated keep clcw s).world.sentQueue.find? isAdRt with
      | none =>
        have hnone' : NoneMarked (initiated keep clcw s) := hfirst
        rw [hnone'.relaunched]
        unfold resent
        rw [hfirst]
      | some first =>
        rw [← (hretransmittable.resent hfirst).2.1, hnone.relaunched]
    rw [hsame] at hsent
    exact (goesBackN_iff_of_sentOn hsent (initiated_waitQueue keep clcw s) htx hlow hworld).mpr hone

/-- **A retransmission is complete exactly if its frames do not go out from RT_WAIT with more than
one left, and new frames one at a time.**  The depth of the hooks is any that suffices.
SOURCE: osdlp_cop.c:395-450, 1182-1261, 1311-1364, 2759-2793 -/
theorem goesBackN_iff (hmirrors : Mirrors s) (had : isAd s.tf.copCfg.state)
    (hwnd : s.world.sentQueue.length ≤ s.tf.copCfg.slideWnd.toNat)
    (hframes : ∀ item ∈ s.world.sentQueue, frameType item.fdu = .typeA) {ocf : List UInt8}
    (hinitiates : Initiates (osdlpClcwUnpack ocf) s.tf.copCfg)
    (hdepth : s.world.sentQueue.length + s.world.waitQueue.length < depth) :
    GoesBackN keep (osdlpClcwUnpack ocf).reportValue s
        (osdlpHandleClcw (reentrantHooks keep deepest depth) ocf s).2 ↔
      OneAtATime (osdlpClcwUnpack ocf).reportValue s := by
  obtain ⟨depth, rfl⟩ := Nat.exists_eq_succ_of_ne_zero (Nat.ne_of_gt (Nat.zero_lt_of_lt hdepth))
  unfold OneAtATime
  by_cases hs : s.tf.copCfg.state = .rtWait
  · rw [if_pos hs]
    exact goesBackN_rtWait_iff hs hmirrors hwnd hframes (initiates_world hmirrors had hinitiates)
  · rw [if_neg hs]
    have hlooks : Looks s := by
      unfold Looks
      cases hst : s.tf.copCfg.state with
      | active => exact .inl rfl
      | rtNoWait => exact .inr rfl
      | rtWait => exact absurd hst hs
      | initNoBc | initBc | init =>
        rw [hst] at had
        exact absurd had (by decide)
    exact goesBackN_looks_iff hlooks hmirrors hwnd hframes hdepth
      (initiates_world hmirrors had hinitiates)

/-! ## Two frames and a third one -/

/-- Two frames are outstanding in a window for two, and a third one waits. -/
def thirdWaiting : Fop :=
  run senderStep activeFop
    [.op [] (.request dataHdr (octetFdf 7)), .op [] (.request dataHdr (octetFdf 8)),
      .op [] (.request dataHdr (octetFdf 9))]

/-- The condition, where a retransmission from the second frame on is asked for. -/
theorem goesBackN_iff_third_waiting :
    GoesBackN [] 1 thirdWaiting
        (osdlpHandleClcw (reentrantHooks [] (fifoHooks []) 4) [0, 0, 8, 1] thirdWaiting).2 ↔
      OneAtATime 1 thirdWaiting :=
  @goesBackN_iff [] (fifoHooks []) 4 thirdWaiting (show _ = _ by decide) rfl (by decide)
    (by decide) [0, 0, 8, 1] (.inl (by decide)) (by decide)

/-- Two frames are outstanding, and the other end has asked to wait. -/
def askedToWait : Fop :=
  run senderStep activeFop
    [.op [] (.request dataHdr (octetFdf 7)), .op [] (.request dataHdr (octetFdf 8)),
      .op [] (.clcw [0, 0, 0x18, 0])]

/-- When the wait is over, the first frame goes out again and the second one does not, although it
is marked, and nothing is left to send it. -/
theorem not_goesBackN_asked_to_wait :
    let s' := (osdlpHandleClcw (reentrantHooks [] (fifoHooks []) 3) [0, 0, 8, 0] askedToWait).2
    askedToWait.tf.copCfg.state = .rtWait ∧ Mirrors askedToWait ∧
      Initiates (osdlpClcwUnpack [0, 0, 8, 0]) askedToWait.tf.copCfg ∧
      ¬ GoesBackN [] 0 askedToWait s' ∧
      s'.world.txQueue = askedToWait.world.txQueue ++ [(askedToWait.world.sentQueue.headD default).fdu] ∧
      s'.world.sentQueue.map QueueItem.rtFlag = [false, true] ∧
      s'.tf.copCfg.state = .rtNoWait := by
  intro s'
  have hflags : s'.world.sentQueue.map QueueItem.rtFlag = [false, true] := by decide
  refine ⟨rfl, (show _ = _ by decide), .inr ⟨by decide, by decide⟩, fun h => ?_, by decide, hflags,
    by decide⟩
  have hraised : true ∈ s'.world.sentQueue.map QueueItem.rtFlag := by
    rw [hflags]
    decide
  obtain ⟨item, hmem, hflag⟩ := List.mem_map.mp hraised
  exact absurd (h.lowered item hmem) (by rw [hflag]; decide)

end Osdlp.Analysis
