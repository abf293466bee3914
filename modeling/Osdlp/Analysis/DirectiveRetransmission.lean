import Osdlp.Interface.Harness

/-!
# Retransmission of a control command

`osdlp_look_for_directive` takes the flag of the command down only when the queue has responded, and
the response finds the flag up and looks for a directive again.  One expiration of the timer
therefore offers the command until the transmission queue is full, and the refusal ends the service;
a queue that is never full is offered it without end (`osdlpLookForDirective_breaks`).  The command
goes out once in no case: the property holds exactly where the queue is full from the start
(`retransmitsOnce_iff`).
-/

set_option autoImplicit false

namespace Osdlp.Analysis

open Osdlp.Model Osdlp.Interface Osdlp.Library

/-- The queue takes frames as long as there is room, if its capacity is bounded. -/
def hasRoom (capacity : Option ℕ) (w : HarnessWorld) : Bool :=
  capacity.elim true fun n => decide (w.queues.txQueue.length < n)

/-- The service is being started with the command in `item`. -/
structure AwaitsBc (item : QueueItem) (s : Harness) : Prop where
  state : s.tf.copCfg.state = .initBc
  sentQueue : s.world.queues.sentQueue = [item]
  type : item.type = .typeB
  frame : IsBcFrame item.fdu

/-- One expiration of the timer retransmits the command exactly once: it returns, and where the
queue takes the first frame there is one copy more in it, the state stays INIT_BC, the flag of the
item is down and there is no alert. -/
def RetransmitsOnce (capacity : Option ℕ) (keep : List Bool) (item : QueueItem) (s : Harness) :
    Prop :=
  ∃ depth,
    let r := osdlpHandleTimerExpired (harnessHooks keep (hasRoom capacity) depth) depth s
    r.1.isSome ∧ r.2.world.overrun = false ∧
      (hasRoom capacity (bcRetransmitting keep s).world = true →
        r.2.world.queues.txQueue = survivors keep s.world.queues.txQueue ++ [item.fdu] ∧
        r.2.tf.copCfg.state = .initBc ∧
        r.2.world.queues.sentQueue = [{ item with rtFlag := false }] ∧
        r.1.any Notification.isAlert = false)

variable {keep : List Bool} {takes : HarnessWorld → Bool}
  {enqueue : List UInt8 → FopM HarnessWorld Int} {item : QueueItem} {s : Harness} {depth : ℕ}

/-! ## Beyond the depth -/

/-- The sent queue holds commands; and the recursion is deeper than it is followed, where `spent`
says so. -/
def HoldsBc (spent : Prop) (s : Harness) : Prop :=
  (spent → s.world.overrun = true) ∧
    ∀ fdu ∈ s.world.queues.sentQueue.map QueueItem.fdu, IsBcFrame fdu

variable {spent : Prop}

theorem AwaitsBc.holdsBc (hawaits : AwaitsBc item s) : HoldsBc False s := by
  refine ⟨False.elim, ?_⟩
  simpa [hawaits.sentQueue] using hawaits.frame

/-- Only commands lie in the sent queue, so the search sends no other frame. -/
theorem directiveInv_holdsBc (spent : Prop) : DirectiveInv (HoldsBc spent) IsBcFrame where
  typeb _ hframe := hframe.1
  head s item items hbc hq _ := hbc.2 item.fdu (by rw [hq]; exact List.mem_cons_self)
  noted _ _ hbc := hbc
  alerted _ _ hbc := ⟨hbc.1, fun _ hmem => absurd hmem List.not_mem_nil⟩
  flagDown s item hbc := by
    refine ⟨hbc.1, ?_⟩
    show ∀ fdu ∈ (resetRt item.seqNum s.world.queues.sentQueue).map QueueItem.fdu, IsBcFrame fdu
    rw [resetRt_fdu]
    exact hbc.2
  overrun _ hbc := ⟨fun _ => rfl, hbc.2⟩
  offered _ _ _ _ hbc := hbc

/-! ## The command goes out again and again -/

/-- The search does not return, or goes deeper than it is followed, or the service has ended. -/
def Breaks (r : Option Notification × Harness) : Prop :=
  r.1 = none ∨ HoldsBc True r.2 ∨ r.2.tf.copCfg.state = .init

/-- Taking a flag down does not mend it. -/
theorem resetRtFrame_breaks (hs : HoldsBc True s ∨ s.tf.copCfg.state = .init) (item : QueueItem) :
    HoldsBc True ((harnessOver keep enqueue).resetRtFrame item s).2 ∨
      ((harnessOver keep enqueue).resetRtFrame item s).2.tf.copCfg.state = .init := by
  rcases hs with hspent | hst
  · exact .inl ((directiveInv_holdsBc True).resetRtFrame item hspent)
  · have hreset := @resetRtFrame_harness keep enqueue item s
    right
    rcases hreset with hreset | hreset
    · rw [hreset]
      exact hst
    · rw [hreset]
      exact hst

/-- Nor does the acceptance that follows. -/
theorem bcAcceptWith_breaks {look : FopM HarnessWorld (Option Notification)}
    (hlook : Keeps (HoldsBc True) look) (hs : HoldsBc True s ∨ s.tf.copCfg.state = .init) :
    Breaks (bcAcceptWith look s) := by
  rcases hs with hspent | hst
  · exact .inr (.inl ((directiveInv_holdsBc True).bcAcceptWith hlook s hspent))
  · rw [bcAcceptWith_other look (by rw [hst]; decide)]
    exact .inr (.inr hst)

/-- A search breaks where the queue breaks. -/
theorem osdlpLookForDirective_breaks_of_enqueue (keep : List Bool) (takes : HarnessWorld → Bool)
    (depth fuel : ℕ) (hawaits : AwaitsBc item s) (hflag : item.rtFlag = true)
    (hsent : let sent := ((harnessHooks keep takes depth).txQueueEnqueue item.fdu s).2
      HoldsBc True sent ∨ sent.tf.copCfg.state = .init) :
    Breaks (osdlpLookForDirective (harnessHooks keep takes depth) fuel s) := by
  have hinv := directiveInv_holdsBc True
  rw [harnessHooks_over]
  cases fuel with
  | zero => exact .inl rfl
  | succ fuel =>
    rw [osdlpLookForDirective_harness, hawaits.sentQueue]
    dsimp only
    rw [if_pos ⟨hflag, hawaits.type⟩]
    split_ifs
    · exact .inr (.inr rfl)
    · exact .inr (resetRtFrame_breaks hsent _)
    · exact bcAcceptWith_breaks
        (hinv.lookForDirective (hinv.txQueueEnqueue keep takes depth) fuel)
        (resetRtFrame_breaks hsent _)

/-- The queue breaks.  By induction on the depth: the response to a frame that it takes finds the
flag still up. -/
theorem enqueue_breaks (keep : List Bool) (takes : HarnessWorld → Bool) (depth : ℕ)
    (hawaits : AwaitsBc item s) (hflag : item.rtFlag = true) :
    let sent := ((harnessHooks keep takes depth).txQueueEnqueue item.fdu s).2
    HoldsBc True sent ∨ sent.tf.copCfg.state = .init := by
  induction depth generalizing s with
  | zero => exact .inl ⟨fun _ => rfl, hawaits.holdsBc.2⟩
  | succ depth ih =>
    cases htakes : takes s.world with
    | false =>
      rw [enqueue_refused depth item.fdu s htakes]
      exact .inr rfl
    | true =>
      have hoffered : AwaitsBc item (offerTo item.fdu true s) :=
        ⟨hawaits.state, hawaits.sentQueue, hawaits.type, hawaits.frame⟩
      have hbreaks := osdlpLookForDirective_breaks_of_enqueue keep takes depth depth hoffered hflag
        (ih hoffered)
      have hinv := directiveInv_holdsBc False
      have hholds := @DirectiveInv.lookForDirective keep _ _ _ hinv
        (hinv.txQueueEnqueue keep takes depth) depth _ hoffered.holdsBc
      have haccept : osdlpBcAccept (harnessHooks keep takes depth) depth
          (offerTo item.fdu true s) = _ := bcAcceptWith_initBc _ hoffered.state
      rw [← harnessHooks_over] at hholds
      rw [enqueue_taken depth item.fdu s htakes, respondTo_bcFrame hawaits.frame, haccept]
      cases hlook : (osdlpLookForDirective (harnessHooks keep takes depth) depth
        (offerTo item.fdu true s)).1 with
      | none => exact .inl ⟨fun _ => rfl, hholds.2⟩
      | some notif =>
        rcases hbreaks with hnone | hspent | hst
        · rw [hlook] at hnone
          cases hnone
        · exact .inl ((directiveInv_holdsBc True).report notif hspent)
        · exact .inr ((report_state notif _).trans hst)

/-- **A command that is marked goes out until the queue is full.** -/
theorem osdlpLookForDirective_breaks (keep : List Bool) (takes : HarnessWorld → Bool)
    (depth fuel : ℕ) (hawaits : AwaitsBc item s) (hflag : item.rtFlag = true) :
    Breaks (osdlpLookForDirective (harnessHooks keep takes depth) fuel s) :=
  osdlpLookForDirective_breaks_of_enqueue keep takes depth fuel hawaits hflag
    (enqueue_breaks keep takes depth hawaits hflag)

/-! ## One expiration of the timer -/

/-- Below the limit an expiration in INIT_BC is a retransmission, whatever the type of the timeout.
SOURCE: osdlp_cop.c:1581-1708, 2094-2125 -/
theorem osdlpHandleTimerExpired_initBc {h : CopHooks HarnessWorld} (fuel : ℕ)
    (hst : s.tf.copCfg.state = .initBc) (hlim : s.tf.copCfg.txCnt < s.tf.copCfg.txLim)
    (htt : s.tf.copCfg.tt = 0 ∨ s.tf.copCfg.tt = 1) :
    osdlpHandleTimerExpired h fuel s = bcRetransmission h fuel s := by
  have hfop : getFop s = (s.tf.copCfg, s) := rfl
  unfold osdlpHandleTimerExpired
  rw [bind_apply, hfop]
  dsimp only
  rw [if_pos hlim]
  rcases htt with htt | htt
  · rw [if_pos htt]
    unfold fopE16
    rw [bind_apply, hfop, hst]
  · rw [if_neg (by rw [htt]; decide), if_pos htt]
    unfold fopE104
    rw [bind_apply, hfop, hst]

/-- The marked command is still the only one. -/
theorem AwaitsBc.retransmitting (hawaits : AwaitsBc item s) (keep : List Bool) :
    AwaitsBc { item with rtFlag := true } (bcRetransmitting keep s) := by
  refine ⟨hawaits.state, ?_, hawaits.type, hawaits.frame⟩
  show s.world.queues.sentQueue.map (markRt .typeB) = _
  rw [hawaits.sentQueue, List.map_singleton]
  unfold markRt
  rw [if_pos hawaits.type]

/-- Where it has none, the search ends with the alert.
SOURCE: osdlp_cop.c:452-480, 2896-2965 -/
theorem osdlpLookForDirective_refused (keep : List Bool) (hawaits : AwaitsBc item s)
    (hflag : item.rtFlag = true) (hrefused : takes s.world = false) (depth fuel : ℕ) :
    let looked := osdlpLookForDirective (harnessHooks keep takes (depth + 1)) (fuel + 1) s
    looked.1 = some .alertLlif ∧ looked.2.world.overrun = s.world.overrun := by
  rw [harnessHooks_over, osdlpLookForDirective_harness, hawaits.sentQueue]
  dsimp only
  rw [if_pos ⟨hflag, hawaits.type⟩, enqueue_refused depth item.fdu s hrefused]
  exact ⟨rfl, rfl⟩

/-- Where the queue has room for the first frame, the command does not go out once. -/
theorem not_retransmitsOnce_of_room {capacity : Option ℕ} (hawaits : AwaitsBc item s)
    (hlim : s.tf.copCfg.txCnt < s.tf.copCfg.txLim)
    (htt : s.tf.copCfg.tt = 0 ∨ s.tf.copCfg.tt = 1)
    (hroom : hasRoom capacity (bcRetransmitting keep s).world = true) :
    ¬ RetransmitsOnce capacity keep item s := by
  rintro ⟨depth, hsome, hreturned, honce⟩
  obtain ⟨-, hstays, -, -⟩ := honce hroom
  have hbreaks := osdlpLookForDirective_breaks keep (hasRoom capacity) depth depth
    (hawaits.retransmitting keep) rfl
  rw [osdlpHandleTimerExpired_initBc depth hawaits.state hlim htt, harnessHooks_over,
    bcRetransmission_harness, ← harnessHooks_over] at hsome hreturned hstays
  cases hlook : (osdlpLookForDirective (harnessHooks keep (hasRoom capacity) depth) depth
    (bcRetransmitting keep s)).1 with
  | none => simp [hlook] at hsome
  | some notif =>
    simp only [hlook, Option.elim_some] at hreturned hstays
    rw [report_state] at hstays
    rcases hbreaks with hnone | hspent | hst
    · rw [hlook] at hnone
      cases hnone
    · have hover := ((directiveInv_holdsBc True).report notif hspent).1 trivial
      rw [hreturned] at hover
      cases hover
    · rw [hst] at hstays
      cases hstays

/-- **One expiration of the timer retransmits a control command exactly once** if and only if the
transmission queue is full when the command is offered, so that it does not go out at all. -/
theorem retransmitsOnce_iff (capacity : Option ℕ) (keep : List Bool) {item : QueueItem}
    {s : Harness} (hawaits : AwaitsBc item s) (hlim : s.tf.copCfg.txCnt < s.tf.copCfg.txLim)
    (htt : s.tf.copCfg.tt = 0 ∨ s.tf.copCfg.tt = 1) (hreturned : s.world.overrun = false) :
    RetransmitsOnce capacity keep item s ↔
      ∃ n, capacity = some n ∧ n ≤ (survivors keep s.world.queues.txQueue).length := by
  have hfull : hasRoom capacity (bcRetransmitting keep s).world = false ↔
      ∃ n, capacity = some n ∧ n ≤ (survivors keep s.world.queues.txQueue).length := by
    cases capacity with
    | none => simp [hasRoom]
    | some n =>
      simp only [hasRoom, bcRetransmitting, sender, Option.elim_some, Option.some.injEq,
        exists_eq_left']
      exact decide_eq_false_iff_not.trans Nat.not_lt
  rw [← hfull]
  constructor
  · intro honce
    by_contra hroom
    exact not_retransmitsOnce_of_room hawaits hlim htt (Bool.not_eq_false _ ▸ hroom) honce
  · intro hnoRoom
    refine ⟨1, ?_⟩
    obtain ⟨hresult, hover⟩ :=
      osdlpLookForDirective_refused keep (hawaits.retransmitting keep) rfl hnoRoom 0 0
    rw [osdlpHandleTimerExpired_initBc 1 hawaits.state hlim htt, harnessHooks_over,
      bcRetransmission_harness, ← harnessHooks_over]
    dsimp only
    rw [hresult, hnoRoom]
    exact ⟨rfl, hover.trans hreturned, fun htaken => absurd htaken Bool.false_ne_true⟩

/-- The command UNLOCK in the sent queue. -/
def unlockItem : QueueItem :=
  { fdu := [0x30, 0, 0, 5, 0, 0], rtFlag := false, seqNum := 0, type := .typeB }

/-- The sender has been asked to start the service with it. -/
def unlocking (txQueue : List (List UInt8)) : Harness :=
  { tf := { (default : FopFrame) with copCfg :=
      { osdlpPrepareFop default 10 .initBc 100 0 3 with txCnt := 1 } }
    world :=
      { queues :=
          { waitQueue := [], sentQueue := [unlockItem], txQueue := txQueue, timerRunning := true
            accepted := [] }
        offered := []
        overrun := false } }

theorem unlocking_awaitsBc (txQueue : List (List UInt8)) :
    AwaitsBc unlockItem (unlocking txQueue) :=
  ⟨rfl, rfl, rfl, by decide⟩

/-- A queue with one place, which another frame keeps. -/
theorem retransmitsOnce_iff_full :
    RetransmitsOnce (some 1) [true] unlockItem (unlocking [[0]]) ↔
      ∃ n, some 1 = some n ∧ n ≤ (survivors [true] [[(0 : UInt8)]]).length :=
  retransmitsOnce_iff (some 1) [true] (unlocking_awaitsBc _) (by decide) (by decide) rfl

/-- There is room for two frames.  Two copies of the command go out, and the service has ended. -/
theorem not_retransmitsOnce_unlocking :
    let r := osdlpHandleTimerExpired (harnessHooks [] (hasRoom (some 2)) 4) 4 (unlocking [])
    ¬ RetransmitsOnce (some 2) [] unlockItem (unlocking []) ∧
      r.2.world.overrun = false ∧ r.2.tf.copCfg.state = .init ∧
      r.2.world.queues.txQueue = [unlockItem.fdu, unlockItem.fdu] := by
  refine ⟨not_retransmitsOnce_of_room (unlocking_awaitsBc _) (by decide) (by decide) rfl, ?_⟩
  decide

end Osdlp.Analysis
