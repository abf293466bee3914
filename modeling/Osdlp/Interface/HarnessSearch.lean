import Osdlp.Interface.Harness
import Osdlp.Interface.TcCodec

/-!
# Searches over a queue that may refuse

What `osdlp_look_for_fdu` comes to in the test harness, for every pattern of answers of the
transmission queue.  Either no type-A frame is refused, and the FOP goes on (`GoesOn`); or one is
refused behind `n` frames that are taken, and the service has ended (`ServiceEnded`).  What is
reported then depends on whether one of the `n` frames came from the wait queue
(`osdlpLookForFdu_outcome`).
-/

set_option autoImplicit false

namespace Osdlp.Interface

open Osdlp.Model Osdlp.Library

/-- The queue answers one frame after the other, and takes what comes behind the list. -/
def takesBy (answers : List Bool) (w : HarnessWorld) : Bool :=
  answers.getD w.offered.length true

/-- A type-A frame has been refused. -/
def RefusedAd (s : Harness) : Prop :=
  ∃ frame ∈ s.world.offered, frame.2 = false ∧ frameType frame.1 = .typeA

variable {keep : List Bool} {answers : List Bool} {depth k n : ℕ} {s t u : Harness}
  {fdu : List UInt8}

/-! ## The type of a packed frame -/

/-- A packed frame has the type of the header, if its length fits into sixteen bits.
SOURCE: osdlp_tc.c:123-183 -/
theorem frameType_pack {tf : FopFrame} (hover : tf.mission.fixedOverheadLen = tf.mission.overhead)
    (data : List UInt8) {length : ℕ} (hlen : tf.mission.fixedOverheadLen + length ≤ 65536) :
    frameType (osdlpTcPack tf data length).1 = tf.primaryHdr.bypass := by
  have hge := overhead_ge hover
  have hpacket : u16 (tf.mission.fixedOverheadLen + length - 1) =
      tf.mission.fixedOverheadLen + length - 1 := by
    unfold u16
    omega
  have hheader : frameType (tcHeaderOctets tf (tf.mission.fixedOverheadLen + length - 1) ++
      data.take length) = tf.primaryHdr.bypass :=
    congrArg TcPrimaryHdr.bypass (tcUnpackHdr_header tf _ _)
  unfold osdlpTcPack
  rw [hpacket]
  cases tf.mission.crcFlag with
  | false => exact hheader
  | true =>
    rw [← hheader]
    unfold frameType
    simp only [if_true]
    rw [getD_memWrite, if_neg (by omega)]

/-- The waiting frames can be packed. -/
structure Packs (s : Harness) : Prop where
  overhead : s.tf.mission.fixedOverheadLen = s.tf.mission.overhead
  waiting : ∀ w ∈ s.world.queues.waitQueue,
    s.tf.mission.fixedOverheadLen + w.frameData.dataLen ≤ 65536

/-- A waiting frame is packed with the type in the header at hand. -/
theorem Packs.frameType (h : Packs s) (hwait : s.world.queues.waitQueue ≠ []) :
    frameType (packedWaiting (sender s)).1 = s.tf.primaryHdr.bypass := by
  obtain ⟨w, waiting, hw⟩ := List.exists_cons_of_ne_nil hwait
  have hhead : s.world.queues.waitQueue.headD default = w := by rw [hw]; rfl
  unfold packedWaiting sender
  dsimp only
  rw [hhead]
  exact frameType_pack h.overhead _ (h.waiting w (by rw [hw]; exact List.mem_cons_self))

/-! ## Going on, and the end -/

/-- From `s` to `t` no type-A frame has been refused. -/
structure GoesOn (s t : Harness) : Prop where
  overrun : t.world.overrun = s.world.overrun
  refused : RefusedAd t → RefusedAd s
  initBc : s.tf.copCfg.state ≠ .initBc → t.tf.copCfg.state ≠ .initBc
  primaryHdr : t.tf.primaryHdr = s.tf.primaryHdr
  packs : Packs s → Packs t

theorem GoesOn.refl (s : Harness) : GoesOn s s := ⟨rfl, id, id, rfl, id⟩

theorem GoesOn.trans (h : GoesOn s t) (h' : GoesOn t u) : GoesOn s u where
  overrun := h'.overrun.trans h.overrun
  refused := h.refused ∘ h'.refused
  initBc := h'.initBc ∘ h.initBc
  primaryHdr := h'.primaryHdr.trans h.primaryHdr
  packs := h'.packs ∘ h.packs

theorem goesOn_noted (notif : Notification) (s : Harness) : GoesOn s (noted notif s) :=
  ⟨rfl, id, id, rfl, fun h => ⟨h.overhead, h.waiting⟩⟩

theorem goesOn_flagDown (item : QueueItem) (s : Harness) :
    GoesOn s (withSender s (flagDown item (sender s))) :=
  ⟨rfl, id, id, rfl, fun h => ⟨h.overhead, h.waiting⟩⟩

/-- A frame that leaves the wait queue is no refusal. -/
theorem goesOn_drawnOff (s : Harness) : GoesOn s (withSender s (drawnOff (sender s))) := by
  obtain ⟨crc, hpack⟩ := osdlpTcPack_snd s.tf
    (s.world.queues.waitQueue.headD default).frameData.data
    (s.world.queues.waitQueue.headD default).frameData.dataLen
  have htf : (drawnOff (sender s)).tf.primaryHdr = s.tf.primaryHdr ∧
      (drawnOff (sender s)).tf.mission = s.tf.mission := by
    unfold drawnOff transmitted packedWaiting sender
    dsimp only [onWorld_tf]
    rw [hpack]
    exact ⟨rfl, rfl⟩
  refine ⟨rfl, id, id, htf.1, fun h => ⟨?_, ?_⟩⟩
  · rw [withSender_tf, htf.2]
    exact h.overhead
  · intro w hmem
    rw [withSender_tf, htf.2]
    exact h.waiting w (List.mem_of_mem_tail hmem)

/-- Among the offers, the new one may be the refusal. -/
theorem refusedAd_offerTo_iff (fdu : List UInt8) (taken : Bool) (s : Harness) :
    RefusedAd (offerTo fdu taken s) ↔ RefusedAd s ∨ taken = false ∧ frameType fdu = .typeA := by
  unfold RefusedAd offerTo
  simp [or_and_right, exists_or]

theorem goesOn_offerTo (fdu : List UInt8) (s : Harness) : GoesOn s (offerTo fdu true s) := by
  refine ⟨rfl, fun h => ?_, id, rfl, fun h => ⟨h.overhead, h.waiting⟩⟩
  simpa [refusedAd_offerTo_iff] using h

/-- A type-A frame has been refused behind `n` frames that have been taken, and the service has
ended. -/
structure ServiceEnded (answers : List Bool) (s t : Harness) (n : ℕ) : Prop where
  overrun : t.world.overrun = s.world.overrun
  state : t.tf.copCfg.state = .init
  sentQueue : t.world.queues.sentQueue = []
  waitQueue : t.world.queues.waitQueue = []
  taken : ∀ i < n, answers.getD (s.world.offered.length + i) true = true
  refused : answers.getD (s.world.offered.length + n) true = false

theorem ServiceEnded.noted (h : ServiceEnded answers s t n) (notif : Notification) :
    ServiceEnded answers s (noted notif t) n :=
  ⟨h.overrun, h.state, h.sentQueue, h.waitQueue, h.taken, h.refused⟩

/-- Only what the queue had been offered before counts of the start. -/
theorem ServiceEnded.of_start (h : ServiceEnded answers t u n)
    (hoffered : s.world.offered = t.world.offered) (hover : s.world.overrun = t.world.overrun)
    : ServiceEnded answers s u n := by
  refine ⟨h.overrun.trans hover.symm, h.state, h.sentQueue, h.waitQueue, ?_, ?_⟩
  · rw [hoffered]
    exact h.taken
  · rw [hoffered]
    exact h.refused

/-- One more frame has been taken before. -/
theorem ServiceEnded.behind (htakes : takesBy answers s.world = true)
    (h : ServiceEnded answers (offerTo fdu true s) t n) : ServiceEnded answers s t (n + 1) := by
  have hlen : (offerTo fdu true s).world.offered.length = s.world.offered.length + 1 :=
    List.length_append
  refine ⟨h.overrun, h.state, h.sentQueue, h.waitQueue, ?_, ?_⟩
  · intro i hi
    cases i with
    | zero => exact htakes
    | succ i =>
      have htaken := h.taken i (by omega)
      rwa [hlen, Nat.add_right_comm, Nat.add_assoc] at htaken
  · have hrefused := h.refused
    rwa [hlen, Nat.add_right_comm, Nat.add_assoc] at hrefused

/-! ## One frame -/

/-- The state after a refusal. -/
def refusedFrame (fdu : List UInt8) (s : Harness) : Harness :=
  withSender (offerTo fdu false s) (alerted .alertLlif (sender (offerTo fdu false s)))

theorem refusedFrame_state (fdu : List UInt8) (s : Harness) :
    (refusedFrame fdu s).tf.copCfg.state = .init := rfl

/-- The refusal of a type-B frame is not one of a type-A frame. -/
theorem goesOn_refusedFrame (htype : frameType fdu = .typeB) (s : Harness) :
    GoesOn s (refusedFrame fdu s) where
  overrun := rfl
  refused h := by
    have hoffered : RefusedAd (offerTo fdu false s) := h
    simpa [refusedAd_offerTo_iff, htype] using hoffered
  initBc _ := by
    rw [refusedFrame_state]
    decide
  primaryHdr := rfl
  packs h := ⟨h.overhead, fun _ hmem => absurd hmem List.not_mem_nil⟩

/-- A type-A frame that is refused ends the service. -/
theorem ended_refusedFrame (fdu : List UInt8) (hrefused : takesBy answers s.world = false) :
    ServiceEnded answers s (refusedFrame fdu s) 0 :=
  ⟨rfl, refusedFrame_state fdu s, rfl, rfl, fun _ hi => absurd hi (Nat.not_lt_zero _), hrefused⟩

/-- A frame of type B that is offered does not end the service through a type-A frame.
SOURCE: test.c:192-220 -/
theorem enqueue_typeb (keep answers : List Bool) (depth : ℕ) (htype : frameType fdu = .typeB)
    (hst : s.tf.copCfg.state ≠ .initBc) :
    GoesOn s ((harnessHooks keep (takesBy answers) (depth + 1)).txQueueEnqueue fdu s).2 := by
  cases htakes : takesBy answers s.world with
  | false =>
    rw [enqueue_refused depth fdu s htakes]
    exact goesOn_refusedFrame htype s
  | true =>
    rw [enqueue_taken depth fdu s htakes]
    cases hctrl : TcCtrl.ofOctet ((fdu.getD 0 0 >>> 4) &&& 0x01) with
    | command =>
      have haccept : osdlpBcAccept (harnessHooks keep (takesBy answers) depth) depth
          (offerTo fdu true s) = (some .ignore, offerTo fdu true s) := bcAcceptWith_other _ hst
      rw [respondTo_bcFrame ⟨htype, hctrl⟩, haccept]
      exact goesOn_offerTo fdu s
    | data =>
      unfold respondTo
      rw [htype, hctrl]
      exact (goesOn_offerTo fdu s).trans (goesOn_noted .acceptTx _)

/-- A type-A frame that is taken is accepted.
SOURCE: test.c:192-220 -/
theorem enqueue_typea_taken (keep : List Bool) (depth : ℕ) (htype : frameType fdu = .typeA)
    (htakes : takesBy answers s.world = true) :
    (harnessHooks keep (takesBy answers) (depth + 1)).txQueueEnqueue fdu s =
      (0, (osdlpAdAccept (harnessHooks keep (takesBy answers) depth) (offerTo fdu true s)).2) := by
  rw [enqueue_taken depth fdu s htakes]
  unfold respondTo
  rw [htype]
  rfl

/-- What is reported of a search. -/
def reported (r : Notification × Harness) : Notification := (report r.1 r.2).1

/-- A search and its report, where the state stays. -/
theorem lookThenReport_none (h : CopHooks HarnessWorld) (s : Harness) :
    lookThenReport h none s =
      (reported (osdlpLookForFdu h s), noted (reported (osdlpLookForFdu h s))
        (osdlpLookForFdu h s).2) := by
  unfold lookThenReport
  rw [bind_apply]
  exact report_noted _ _

/-- SOURCE: osdlp_cop.c:2759-2793 -/
theorem osdlpAdAccept_looks (h : CopHooks HarnessWorld) (hlooks : Looks (sender s)) :
    osdlpAdAccept h s = lookThenReport h none s := by
  have hfop : getFop s = (s.tf.copCfg, s) := rfl
  unfold osdlpAdAccept
  rw [bind_apply, hfop]
  rcases hlooks with hst | hst
  · have hst' : s.tf.copCfg.state = .active := hst
    rw [hst']
  · have hst' : s.tf.copCfg.state = .rtNoWait := hst
    rw [hst']

/-- An acceptance does not search while the receiver has asked to wait. -/
theorem osdlpAdAccept_rtWait (h : CopHooks HarnessWorld) (hst : s.tf.copCfg.state = .rtWait) :
    osdlpAdAccept h s = (.ignore, s) := by
  have hfop : getFop s = (s.tf.copCfg, s) := rfl
  unfold osdlpAdAccept
  rw [bind_apply, hfop, hst]
  rfl

/-! ## One search -/

/-- The state in which the first waiting frame has been taken. -/
def sentOff (s : Harness) : Harness :=
  offerTo (packedWaiting (sender s)).1 true (withSender s (drawnOff (sender s)))

/-- What the second half of a search comes to: a type-A frame is sent if one can be. -/
inductive WaitingOutcome (answers : List Bool) (accept : FopM HarnessWorld Notification)
    (s : Harness) : Notification × Harness → Prop
  | none {r : Notification × Harness} (hgoes : GoesOn s r.2)
      (hnone : s.tf.primaryHdr.bypass = .typeA → ¬ CanSend (sender r.2)) :
      WaitingOutcome answers accept s r
  | refused {r : Notification × Harness} (hbypass : s.tf.primaryHdr.bypass = .typeA)
      (hcan : CanSend (sender s)) (hended : ServiceEnded answers s r.2 0)
      (hreported : reported r = .undefError) : WaitingOutcome answers accept s r
  | taken (hbypass : s.tf.primaryHdr.bypass = .typeA) (hcan : CanSend (sender s))
      (htakes : takesBy answers s.world = true) :
      WaitingOutcome answers accept s (.acceptTx, noted .acceptTx (accept (sentOff s)).2)

/-- SOURCE: osdlp_cop.c:415-449 -/
theorem lookForWaiting_outcome (keep answers : List Bool) (depth : ℕ) (hpacks : Packs s)
    (hst : s.tf.copCfg.state ≠ .initBc) :
    WaitingOutcome answers (osdlpAdAccept (harnessHooks keep (takesBy answers) depth)) s
      (lookForWaiting (harnessHooks keep (takesBy answers) (depth + 1)) s) := by
  rw [harnessHooks_over keep _ (depth + 1), lookForWaiting_harness]
  dsimp only
  by_cases hwait : s.world.queues.waitQueue.isEmpty
  · rw [if_pos hwait]
    exact .none (.refl s) fun _ hcan => hcan.1 (List.isEmpty_iff.mp hwait)
  have hwait' : s.world.queues.waitQueue ≠ [] := fun h => hwait (List.isEmpty_iff.mpr h)
  rw [if_neg hwait]
  by_cases hroom : fopRoom s.tf.copCfg
  · have hcan : CanSend (sender s) := ⟨hwait', hroom⟩
    have hdrawn := goesOn_drawnOff s
    have htype := hpacks.frameType hwait'
    rw [if_pos hroom]
    cases hbypass : s.tf.primaryHdr.bypass with
    | typeB =>
      rw [hbypass] at htype
      have hsent := hdrawn.trans (enqueue_typeb keep answers depth htype (hdrawn.initBc hst))
      split_ifs
      · exact .none (hsent.trans (goesOn_noted _ _)) (by rw [hbypass]; nofun)
      · exact .none (hsent.trans (goesOn_noted _ _)) (by rw [hbypass]; nofun)
    | typeA =>
      rw [hbypass] at htype
      cases htakes : takesBy answers (withSender s (drawnOff (sender s))).world with
      | false =>
        rw [enqueue_refused depth _ _ htakes, if_pos (by decide : (-1 : Int) < 0)]
        have hended := ended_refusedFrame (packedWaiting (sender s)).1 htakes
        exact .refused hbypass hcan ((hended.noted _).of_start rfl rfl) rfl
      | true =>
        rw [enqueue_typea_taken keep depth htype htakes, if_neg (Int.lt_irrefl 0)]
        exact .taken hbypass hcan htakes
  · rw [if_neg hroom]
    exact .none (goesOn_noted _ _) fun _ hcan => hroom hcan.2

/-- What a search comes to where `k` frames are marked.  Behind it no type-A frame can be sent, or the
service has ended; the frame behind `k` others comes from the wait queue, and the report of its
acceptance covers the refusal of the next one. -/
def SearchOutcome (answers : List Bool) (k : ℕ) (s : Harness) (r : Notification × Harness) : Prop :=
  GoesOn s r.2 ∧ (s.tf.primaryHdr.bypass = .typeA → ¬ CanSend (sender r.2)) ∨
    ∃ n, ServiceEnded answers s r.2 n ∧ reported r = if n ≤ k then .undefError else .acceptTx

/-- Where nothing is marked, the search is for a waiting frame. -/
theorem osdlpLookForFdu_harness_noneMarked (keep answers : List Bool) (depth : ℕ)
    (hnone : NoneMarked (sender s)) :
    osdlpLookForFdu (harnessHooks keep (takesBy answers) (depth + 1)) s =
      lookForWaiting (harnessHooks keep (takesBy answers) (depth + 1)) s := by
  have hfind : s.world.queues.sentQueue.find? isAdRt = none := hnone
  unfold osdlpLookForFdu
  rw [harnessHooks_over keep _ (depth + 1), bind_apply, lookForRetransmission_harness, hfind]

/-- The frame that is handed over is not marked. -/
theorem noneMarked_sentOff (hwait : s.world.queues.waitQueue ≠ []) (hnone : NoneMarked (sender s)) :
    NoneMarked (sender (sentOff s)) := by
  have hsent : SentOn (sender s) (transmitted (sender s)) _ := transmitted_sentOn hwait
  exact hsent.noneMarked hnone

theorem goesOn_sentOff (s : Harness) : GoesOn s (sentOff s) := by
  unfold sentOff
  exact (goesOn_drawnOff s).trans (goesOn_offerTo _ _)

/-- It comes in front of those taken before the refusal. -/
theorem ServiceEnded.behind_sentOff (htakes : takesBy answers s.world = true)
    (h : ServiceEnded answers (sentOff s) t n) : ServiceEnded answers s t (n + 1) := by
  unfold sentOff at h
  have htakes' : takesBy answers (withSender s (drawnOff (sender s))).world = true := htakes
  exact (h.behind htakes').of_start rfl rfl

/-- The acceptance of a waiting frame is reported, whatever the search behind it has come to. -/
theorem SearchOutcome.accepted {r : Notification × Harness}
    (h : SearchOutcome answers 0 (sentOff s) r) (htakes : takesBy answers s.world = true) :
    SearchOutcome answers 0 s (.acceptTx, noted .acceptTx (noted (reported r) r.2)) := by
  have hgoes := goesOn_sentOff s
  rcases h with ⟨hnext, hstop⟩ | ⟨n, hended, -⟩
  · refine .inl ⟨(hgoes.trans hnext).trans ((goesOn_noted _ _).trans (goesOn_noted _ _)), ?_⟩
    intro hbypass
    apply hstop
    rw [hgoes.primaryHdr]
    exact hbypass
  · refine .inr ⟨n + 1, ((hended.noted _).noted _).behind_sentOff htakes, ?_⟩
    rw [if_neg (Nat.not_succ_le_zero n)]
    rfl

/-- Waiting frames go out until none can, or until one is refused.  By induction on the depth. -/
theorem osdlpLookForFdu_outcome_noneMarked (keep answers : List Bool) (depth : ℕ) (hpacks : Packs s)
    (hlooks : Looks (sender s)) (hnone : NoneMarked (sender s))
    (hdepth : s.world.queues.waitQueue.length < depth) :
    SearchOutcome answers 0 s
      (osdlpLookForFdu (harnessHooks keep (takesBy answers) depth) s) := by
  induction depth generalizing s with
  | zero => exact absurd hdepth (Nat.not_lt_zero _)
  | succ depth ih =>
    rw [osdlpLookForFdu_harness_noneMarked keep answers depth hnone]
    have houtcome := lookForWaiting_outcome keep answers depth hpacks hlooks.not_initBc
    generalize lookForWaiting (harnessHooks keep (takesBy answers) (depth + 1)) s = r at houtcome ⊢
    cases houtcome with
    | none hgoes hstop => exact .inl ⟨hgoes, hstop⟩
    | refused hbypass hcan hended hreported =>
      refine .inr ⟨0, hended, ?_⟩
      rw [hreported, if_pos (Nat.le_refl 0)]
    | taken hbypass hcan htakes =>
      have hlooks' : Looks (sender (sentOff s)) := hlooks
      have hlen : (sentOff s).world.queues.waitQueue.length < depth := by
        show s.world.queues.waitQueue.tail.length < depth
        have hpos := List.length_pos_iff_ne_nil.mpr hcan.1
        have hwait : (sender s).world.waitQueue = s.world.queues.waitQueue := rfl
        rw [hwait] at hpos
        rw [List.length_tail]
        omega
      have hnext := ih ((goesOn_sentOff s).packs hpacks) hlooks'
        (noneMarked_sentOff hcan.1 hnone) hlen
      rw [osdlpAdAccept_looks _ hlooks', lookThenReport_none]
      exact hnext.accepted htakes

/-! ## Frames that are marked -/

/-- The state in which a marked frame has been taken again. -/
def sentAgain (item : QueueItem) (s : Harness) : Harness :=
  offerTo item.fdu true (withSender s (flagDown item (sender s)))

variable {first : QueueItem}

theorem goesOn_sentAgain (item : QueueItem) (s : Harness) : GoesOn s (sentAgain item s) := by
  unfold sentAgain
  exact (goesOn_flagDown item s).trans (goesOn_offerTo _ _)

/-- For the sender that is the first half of a search. -/
theorem sender_sentAgain (hfirst : s.world.queues.sentQueue.find? isAdRt = some first) :
    sender (sentAgain first s) = resent (sender s) := by
  have hfirst' : (sender s).world.sentQueue.find? isAdRt = some first := hfirst
  unfold resent
  rw [hfirst']
  rfl

/-- SOURCE: osdlp_cop.c:398-412 -/
theorem osdlpLookForFdu_harness_refused (keep : List Bool) (depth : ℕ)
    (hfirst : s.world.queues.sentQueue.find? isAdRt = some first)
    (hrefused : takesBy answers s.world = false) :
    osdlpLookForFdu (harnessHooks keep (takesBy answers) (depth + 1)) s =
      (.undefError, noted .undefError
        (refusedFrame first.fdu (withSender s (flagDown first (sender s))))) := by
  have hrefused' : takesBy answers (withSender s (flagDown first (sender s))).world = false :=
    hrefused
  unfold osdlpLookForFdu
  rw [harnessHooks_over keep _ (depth + 1), bind_apply, lookForRetransmission_harness, hfirst]
  dsimp only
  rw [enqueue_refused depth _ _ hrefused', if_pos (by decide : (-1 : Int) < 0)]
  rfl

/-- SOURCE: osdlp_cop.c:398-412 -/
theorem osdlpLookForFdu_harness_taken (keep : List Bool) (depth : ℕ)
    (hfirst : s.world.queues.sentQueue.find? isAdRt = some first)
    (htype : frameType first.fdu = .typeA) (htakes : takesBy answers s.world = true) :
    osdlpLookForFdu (harnessHooks keep (takesBy answers) (depth + 1)) s =
      lookForWaiting (harnessHooks keep (takesBy answers) (depth + 1))
        (osdlpAdAccept (harnessHooks keep (takesBy answers) depth) (sentAgain first s)).2 := by
  have htakes' : takesBy answers (withSender s (flagDown first (sender s))).world = true := htakes
  unfold osdlpLookForFdu
  rw [harnessHooks_over keep _ (depth + 1), bind_apply, lookForRetransmission_harness, hfirst]
  dsimp only
  rw [enqueue_typea_taken keep depth htype htakes', if_neg (Int.lt_irrefl 0)]
  rfl

/-- A marked frame that is refused. -/
theorem searchOutcome_refused (k : ℕ) (item : QueueItem)
    (hrefused : takesBy answers s.world = false) :
    SearchOutcome answers k s (.undefError, noted .undefError
      (refusedFrame item.fdu (withSender s (flagDown item (sender s))))) := by
  have hrefused' : takesBy answers (withSender s (flagDown item (sender s))).world = false :=
    hrefused
  have hended := (ended_refusedFrame item.fdu hrefused').noted .undefError
  refine .inr ⟨0, hended.of_start rfl rfl, ?_⟩
  rw [if_pos (Nat.zero_le k)]
  rfl

/-- It comes in front of those taken before the refusal, too. -/
theorem ServiceEnded.behind_sentAgain (htakes : takesBy answers s.world = true)
    (h : ServiceEnded answers (sentAgain first s) t n) : ServiceEnded answers s t (n + 1) := by
  unfold sentAgain at h
  have htakes' : takesBy answers (withSender s (flagDown first (sender s))).world = true := htakes
  exact (h.behind htakes').of_start rfl rfl

/-- Behind a marked frame that is taken the search in its acceptance has left nothing that can be
sent, or has ended the service. -/
theorem SearchOutcome.again {r : Notification × Harness}
    (h : SearchOutcome answers k (sentAgain first s) r) (htakes : takesBy answers s.world = true)
    (hpacks : Packs s) (hst : s.tf.copCfg.state ≠ .initBc) (keep : List Bool) (depth : ℕ) :
    SearchOutcome answers (k + 1) s
      (lookForWaiting (harnessHooks keep (takesBy answers) (depth + 1))
        (noted (reported r) r.2)) := by
  rcases h with ⟨hnext, hstop⟩ | ⟨n, hended, hreported⟩
  · have hgoes : GoesOn s (noted (reported r) r.2) :=
      (goesOn_sentAgain first s).trans (hnext.trans (goesOn_noted _ _))
    have hstop' : s.tf.primaryHdr.bypass = .typeA → ¬ CanSend (sender (noted (reported r) r.2)) :=
      hstop
    have houtcome := lookForWaiting_outcome keep answers depth (hgoes.packs hpacks)
      (hgoes.initBc hst)
    rw [← hgoes.primaryHdr] at hstop'
    generalize lookForWaiting (harnessHooks keep (takesBy answers) (depth + 1))
      (noted (reported r) r.2) = r' at houtcome ⊢
    cases houtcome with
    | none hlast hnone =>
      refine .inl ⟨hgoes.trans hlast, ?_⟩
      rw [← hgoes.primaryHdr]
      exact hnone
    | refused hbypass hcan _ _ => exact absurd hcan (hstop' hbypass)
    | taken hbypass hcan _ => exact absurd hcan (hstop' hbypass)
  · have hwait : (noted (reported r) r.2).world.queues.waitQueue.isEmpty = true :=
      List.isEmpty_iff.mpr hended.waitQueue
    rw [harnessHooks_over keep _ (depth + 1), lookForWaiting_harness, if_pos hwait]
    refine .inr ⟨n + 1, (hended.noted _).behind_sentAgain htakes, ?_⟩
    simp only [Nat.add_le_add_iff_right]
    rw [← hreported]
    rfl

/-- **What a search comes to** in ACTIVE and RT_NO_WAIT.  By induction on the depth: the search in
the acceptance of a marked frame finds one frame less marked. -/
theorem osdlpLookForFdu_outcome (keep answers : List Bool) (depth : ℕ) (hpacks : Packs s)
    (hlooks : Looks (sender s)) (hretransmittable : Retransmittable (sender s))
    (hdepth : (s.world.queues.sentQueue.filter isAdRt).length + s.world.queues.waitQueue.length <
      depth) :
    SearchOutcome answers (s.world.queues.sentQueue.filter isAdRt).length s
      (osdlpLookForFdu (harnessHooks keep (takesBy answers) depth) s) := by
  induction depth generalizing s with
  | zero => exact absurd hdepth (Nat.not_lt_zero _)
  | succ depth ih =>
    cases hfirst : s.world.queues.sentQueue.find? isAdRt with
    | none =>
      have hnone : NoneMarked (sender s) := hfirst
      have hfilter : s.world.queues.sentQueue.filter isAdRt = [] := hnone.filter
      rw [hfilter] at hdepth ⊢
      exact osdlpLookForFdu_outcome_noneMarked keep answers (depth + 1) hpacks hlooks hnone
        (by simpa using hdepth)
    | some first =>
      obtain ⟨hresent, -, hfilter⟩ := hretransmittable.resent hfirst
      rw [← sender_sentAgain hfirst] at hresent hfilter
      have htype := hretransmittable.typea first (by rw [hfilter]; exact List.mem_cons_self)
      cases htakes : takesBy answers s.world with
      | false =>
        rw [osdlpLookForFdu_harness_refused keep depth hfirst htakes]
        exact searchOutcome_refused _ first htakes
      | true =>
        have hlooks' : Looks (sender (sentAgain first s)) := hlooks
        have hmarked : (s.world.queues.sentQueue.filter isAdRt).length =
            ((sentAgain first s).world.queues.sentQueue.filter isAdRt).length + 1 :=
          congrArg List.length hfilter
        have hwait : (sentAgain first s).world.queues.waitQueue = s.world.queues.waitQueue := rfl
        have hnext := ih ((goesOn_sentAgain first s).packs hpacks) hlooks' hresent
          (by rw [hwait]; omega)
        rw [osdlpLookForFdu_harness_taken keep depth hfirst htype htakes,
          osdlpAdAccept_looks _ hlooks', lookThenReport_none, hmarked]
        exact hnext.again htakes hpacks hlooks.not_initBc keep depth

/-! ## In RT_WAIT -/

/-- In RT_WAIT one waiting frame is sent.
SOURCE: osdlp_cop.c:415-449, 2759-2793 -/
theorem lookForWaiting_rtWait (keep answers : List Bool) (depth : ℕ) (hpacks : Packs s)
    (hst : s.tf.copCfg.state = .rtWait) :
    let r := lookForWaiting (harnessHooks keep (takesBy answers) (depth + 1)) s
    GoesOn s r.2 ∨ ServiceEnded answers s r.2 0 ∧ reported r = .undefError := by
  have houtcome := lookForWaiting_outcome keep answers depth hpacks (by rw [hst]; decide)
  dsimp only
  generalize lookForWaiting (harnessHooks keep (takesBy answers) (depth + 1)) s = r at houtcome ⊢
  cases houtcome with
  | none hgoes _ => exact .inl hgoes
  | refused _ _ hended hreported => exact .inr ⟨hended, hreported⟩
  | taken _ _ _ =>
    have hst' : (sentOff s).tf.copCfg.state = .rtWait := hst
    rw [osdlpAdAccept_rtWait _ hst']
    exact .inl ((goesOn_sentOff s).trans (goesOn_noted _ _))

/-- **In RT_WAIT a search ends at the latest with the second frame**, the first of which is marked.
SOURCE: osdlp_cop.c:395-450 -/
theorem osdlpLookForFdu_rtWait_outcome (keep answers : List Bool) (depth : ℕ) (hpacks : Packs s)
    (hst : s.tf.copCfg.state = .rtWait) (hretransmittable : Retransmittable (sender s)) :
    let r := osdlpLookForFdu (harnessHooks keep (takesBy answers) (depth + 1)) s
    GoesOn s r.2 ∨ ∃ n, ServiceEnded answers s r.2 n ∧
      n ≤ (s.world.queues.sentQueue.filter isAdRt).length ∧ reported r = .undefError := by
  cases hfirst : s.world.queues.sentQueue.find? isAdRt with
  | none =>
    rw [osdlpLookForFdu_harness_noneMarked keep answers depth hfirst]
    rcases lookForWaiting_rtWait keep answers depth hpacks hst with hgoes | ⟨hended, hreported⟩
    · exact .inl hgoes
    · exact .inr ⟨0, hended, Nat.zero_le _, hreported⟩
  | some first =>
    obtain ⟨hresent, -, hfilter⟩ := hretransmittable.resent hfirst
    have htype := hretransmittable.typea first (by rw [hfilter]; exact List.mem_cons_self)
    have hmarked : 1 ≤ (s.world.queues.sentQueue.filter isAdRt).length := by
      have hlen := congrArg List.length hfilter
      rw [List.length_cons] at hlen
      exact hlen ▸ Nat.succ_le_succ (Nat.zero_le _)
    cases htakes : takesBy answers s.world with
    | false =>
      rw [osdlpLookForFdu_harness_refused keep depth hfirst htakes]
      have hended := (@ended_refusedFrame answers (withSender s (flagDown first (sender s)))
        first.fdu htakes).noted .undefError
      exact .inr ⟨0, hended.of_start rfl rfl, Nat.zero_le _, rfl⟩
    | true =>
      have hst' : (sentAgain first s).tf.copCfg.state = .rtWait := hst
      have hgoes := goesOn_sentAgain first s
      rw [osdlpLookForFdu_harness_taken keep depth hfirst htype htakes,
        osdlpAdAccept_rtWait _ hst']
      rcases lookForWaiting_rtWait keep answers depth (hgoes.packs hpacks) hst' with
        hlast | ⟨hended, hreported⟩
      · exact .inl (hgoes.trans hlast)
      · exact .inr ⟨1, hended.behind_sentAgain htakes, hmarked, hreported⟩

/-- The states in which the service is being performed. -/
def Serves (s : Harness) : Prop :=
  s.tf.copCfg.state = .active ∨ s.tf.copCfg.state = .rtNoWait ∨ s.tf.copCfg.state = .rtWait

/-- **A search goes on, or ends the service**, in every state that searches. -/
theorem osdlpLookForFdu_ends (keep answers : List Bool) (depth : ℕ) (hpacks : Packs s)
    (hserves : Serves s) (hretransmittable : Retransmittable (sender s))
    (hdepth : (s.world.queues.sentQueue.filter isAdRt).length + s.world.queues.waitQueue.length <
      depth) :
    let r := osdlpLookForFdu (harnessHooks keep (takesBy answers) depth) s
    GoesOn s r.2 ∨ ∃ n, ServiceEnded answers s r.2 n ∧
      reported r =
        if n ≤ (s.world.queues.sentQueue.filter isAdRt).length then .undefError else .acceptTx := by
  have hlooking : Looks (sender s) → _ := fun hlooks =>
    osdlpLookForFdu_outcome keep answers depth hpacks hlooks hretransmittable hdepth
  rcases hserves with hst | hst | hst
  · exact (hlooking (.inl hst)).imp_left And.left
  · exact (hlooking (.inr hst)).imp_left And.left
  · obtain ⟨depth, rfl⟩ : ∃ d, depth = d + 1 := ⟨depth - 1, by omega⟩
    rcases osdlpLookForFdu_rtWait_outcome keep answers depth hpacks hst hretransmittable with
      hgoes | ⟨n, hended, hle, hreported⟩
    · exact .inl hgoes
    · exact .inr ⟨n, hended, by rw [hreported, if_pos hle]⟩

end Osdlp.Interface
