import Osdlp.Interface.SentQueue
import Osdlp.Library.Run

/-!
# Runs of the sender

The operations of FOP-1 as the user calls them, one after another, over hooks that are
queues.  Each comes with the mask of the frames that `osdlp_cancel_lower_ops` spares, in
case it is called.  The depth 2 of the search for a directive is enough for these hooks
(`osdlpHandleTimerExpired_fuel`, `osdlpBcAccept_fuel`).
-/

set_option autoImplicit false

namespace Osdlp.Interface

open Osdlp.Model Osdlp.Library

/-- The operations of the sender. -/
inductive FopOp
  | request (hdr : TcPrimaryHdr) (frameData : TcFdf)
  | clcw (ocf : List UInt8)
  | timerExpired
  | adAccept
  | adReject
  | bcAccept
  | bcReject
  | bdAccept
  | bdReject
  | initiateNoClcw
  | initiateWithClcw
  | initiateWithUnlock
  | initiateWithSetvr (newVr : UInt8)
  | terminateAd
  | resumeAd
  | setNewVs (newVs : UInt8)
  | setTimer (newT1 : UInt16)
  | setTxLimit (newLim : UInt8)
  | setTt (newTt : UInt8)

/-- The sender with a frame set up for transmission. -/
def prepared (hdr : TcPrimaryHdr) (frameData : TcFdf) (s : Fop) : Fop :=
  { s with tf := { s.tf with primaryHdr := hdr, frameData := frameData } }

/-- One operation. -/
def fopStep (s : Fop) : List Bool × FopOp → Fop
  | (keep, .request hdr frameData) =>
    (osdlpReqTransferFdu (fifoHooks keep) (prepared hdr frameData s)).2
  | (keep, .clcw ocf) => (osdlpHandleClcw (fifoHooks keep) ocf s).2
  | (keep, .timerExpired) => (osdlpHandleTimerExpired (fifoHooks keep) 2 s).2
  | (keep, .adAccept) => (osdlpAdAccept (fifoHooks keep) s).2
  | (keep, .adReject) => (osdlpAdReject (fifoHooks keep) s).2
  | (keep, .bcAccept) => (osdlpBcAccept (fifoHooks keep) 2 s).2
  | (keep, .bcReject) => (osdlpBcReject (fifoHooks keep) s).2
  | (_, .bdAccept) => ((osdlpBdAccept : FopM FifoWorld Notification) s).2
  | (keep, .bdReject) => (osdlpBdReject (fifoHooks keep) s).2
  | (keep, .initiateNoClcw) => (osdlpInitiateNoClcw (fifoHooks keep) s).2
  | (keep, .initiateWithClcw) => (osdlpInitiateWithClcw (fifoHooks keep) s).2
  | (keep, .initiateWithUnlock) => (osdlpInitiateWithUnlock (fifoHooks keep) s).2
  | (keep, .initiateWithSetvr newVr) => (osdlpInitiateWithSetvr (fifoHooks keep) newVr s).2
  | (keep, .terminateAd) => (osdlpTerminateAd (fifoHooks keep) s).2
  | (keep, .resumeAd) => (osdlpResumeAd (fifoHooks keep) s).2
  | (_, .setNewVs newVs) => ((osdlpSetNewVs newVs : FopM FifoWorld Notification) s).2
  | (_, .setTimer newT1) => ((osdlpSetTimer newT1 : FopM FifoWorld Notification) s).2
  | (_, .setTxLimit newLim) => ((osdlpSetTxLimit newLim : FopM FifoWorld Notification) s).2
  | (_, .setTt newTt) => ((osdlpSetTt newTt : FopM FifoWorld Notification) s).2

/-- What the user does: an operation, the set-up of a frame that is not sent (yet), or the
directive that sets the window width. -/
inductive SenderEvent
  | op (keep : List Bool) (op : FopOp)
  | prepare (hdr : TcPrimaryHdr) (frameData : TcFdf)
  | setSlidingWindow (newWnd : UInt8)

/-- One event of the user. -/
def senderStep (s : Fop) : SenderEvent → Fop
  | .op keep op => fopStep s (keep, op)
  | .prepare hdr frameData => prepared hdr frameData s
  | .setSlidingWindow newWnd => ((osdlpSetSlidingWindow newWnd : FopM FifoWorld Notification) s).2

/-- A control word reports a value between NN(R) and V(S). -/
def reportsInRange (s : Fop) : List Bool × FopOp → Prop
  | (_, .clcw ocf) => InRange s.tf.copCfg (osdlpClcwUnpack ocf).reportValue
  | _ => True

/-! ## The search for a directive ends -/

variable (keep : List Bool)

/-- Looking for a directive reaches depth 2 at most: the command that went out is no longer
marked. -/
theorem osdlpLookForDirective_fuel (n : ℕ) (s : Fop) :
    osdlpLookForDirective (fifoHooks keep) (n + 2) s =
        osdlpLookForDirective (fifoHooks keep) 2 s ∧
      (osdlpLookForDirective (fifoHooks keep) 2 s).1.isSome := by
  cases hq : s.world.sentQueue with
  | nil =>
    have hlook : ∀ k, osdlpLookForDirective (fifoHooks keep) (k + 1) s =
        (some <$> answer .undefError : FopM FifoWorld _) s := by
      intro k
      rw [osdlpLookForDirective, bind_apply, sentQueueHead_apply, hq]
      rfl
    rw [hlook (n + 1), hlook 1]
    exact ⟨rfl, rfl⟩
  | cons item items =>
    have hlook : ∀ k, osdlpLookForDirective (fifoHooks keep) (k + 1) s =
        if item.rtFlag ∧ item.type = .typeB then
          bcAcceptWith (osdlpLookForDirective (fifoHooks keep) k) (onWorld s fun w =>
            { w with
              sentQueue := resetRt item.seqNum w.sentQueue
              txQueue := w.txQueue ++ [item.fdu] })
        else (some .acceptDir, s) := by
      intro k
      rw [osdlpLookForDirective, bind_apply, sentQueueHead_apply, hq]
      simp only [List.head?_cons, ite_apply_state]
      split_ifs <;> rfl
    rw [hlook (n + 1), hlook 1]
    split_ifs with hrt
    · -- after the first round the head is the same item with its flag down
      have hsecond : ∀ k, osdlpLookForDirective (fifoHooks keep) (k + 1) (onWorld s fun w =>
          { w with
            sentQueue := resetRt item.seqNum w.sentQueue
            txQueue := w.txQueue ++ [item.fdu] }) =
          (some .acceptDir, onWorld s fun w =>
            { w with
              sentQueue := resetRt item.seqNum w.sentQueue
              txQueue := w.txQueue ++ [item.fdu] }) := by
        intro k
        rw [osdlpLookForDirective, bind_apply, sentQueueHead_apply]
        simp only [onWorld_world, hq, resetRt, if_true, List.head?_cons, Bool.false_eq_true,
          false_and, if_false]
        rfl
      unfold bcAcceptWith
      simp only [bind_apply, getFop_apply, onWorld_tf]
      cases s.tf.copCfg.state with
      | initBc =>
        simp only [bind_apply, hsecond n, hsecond 0]
        exact ⟨trivial, rfl⟩
      | active | rtNoWait | rtWait | initNoBc | init => exact ⟨rfl, rfl⟩
    · exact ⟨rfl, rfl⟩

/-- Any depth from 2 on gives the same answer to an acceptance, and there is one. -/
theorem osdlpBcAccept_fuel (n : ℕ) (s : Fop) :
    osdlpBcAccept (fifoHooks keep) (n + 2) s = osdlpBcAccept (fifoHooks keep) 2 s ∧
      (osdlpBcAccept (fifoHooks keep) 2 s).1.isSome := by
  obtain ⟨heq, hsome⟩ := osdlpLookForDirective_fuel keep n s
  unfold osdlpBcAccept bcAcceptWith
  simp only [bind_apply, getFop_apply]
  cases s.tf.copCfg.state with
  | initBc =>
    simp only [bind_apply, heq]
    refine ⟨trivial, ?_⟩
    cases hr : (osdlpLookForDirective (fifoHooks keep) 2 s).1 with
    | none => rw [hr] at hsome; exact absurd hsome (by simp)
    | some notif => rfl
  | active | rtNoWait | rtWait | initNoBc | init => exact ⟨rfl, rfl⟩

/-- Any depth from 2 on gives the same answer to an expiration, and there is one. -/
theorem osdlpHandleTimerExpired_fuel (n : ℕ) (s : Fop) :
    osdlpHandleTimerExpired (fifoHooks keep) (n + 2) s =
        osdlpHandleTimerExpired (fifoHooks keep) 2 s ∧
      (osdlpHandleTimerExpired (fifoHooks keep) 2 s).1.isSome := by
  have hbc : bcRetransmission (fifoHooks keep) (n + 2) s =
        bcRetransmission (fifoHooks keep) 2 s ∧
      (bcRetransmission (fifoHooks keep) 2 s).1.isSome := by
    let s' : Fop := (osdlpInitiateBcRetransmission (fifoHooks keep) s).2
    obtain ⟨heq, hsome⟩ := osdlpLookForDirective_fuel keep n s'
    have hret : ¬ (osdlpInitiateBcRetransmission (fifoHooks keep) s).1 < 0 := Int.lt_irrefl 0
    unfold bcRetransmission
    simp only [bind_apply, ite_apply_state, if_neg hret]
    rw [heq]
    refine ⟨rfl, ?_⟩
    cases hr : (osdlpLookForDirective (fifoHooks keep) 2 s').1 with
    | none => rw [hr] at hsome; exact absurd hsome (by simp)
    | some notif => rfl
  have h16 : fopE16 (fifoHooks keep) (n + 2) s = fopE16 (fifoHooks keep) 2 s ∧
      (fopE16 (fifoHooks keep) 2 s).1.isSome := by
    unfold fopE16
    simp only [bind_apply, getFop_apply]
    cases s.tf.copCfg.state with
    | initBc => exact hbc
    | active | rtNoWait | rtWait | initNoBc | init => exact ⟨rfl, rfl⟩
  have h104 : fopE104 (fifoHooks keep) (n + 2) s = fopE104 (fifoHooks keep) 2 s ∧
      (fopE104 (fifoHooks keep) 2 s).1.isSome := by
    unfold fopE104
    simp only [bind_apply, getFop_apply]
    cases s.tf.copCfg.state with
    | initBc => exact hbc
    | active | rtNoWait | rtWait | initNoBc | init => exact ⟨rfl, rfl⟩
  unfold osdlpHandleTimerExpired
  simp only [bind_apply, getFop_apply, ite_apply_state]
  split_ifs
  · exact h16
  · exact h104
  all_goals exact ⟨rfl, rfl⟩

end Osdlp.Interface
