import Osdlp.Analysis.TcSegmentation
import Osdlp.Interface.TcRequests
import Osdlp.Library.Run

/-!
# What `osdlp_tc_transmit` sends

The progress of an SDU survives everything but a call of `osdlp_tc_transmit`: a directive or an
alert that gives the SDU up leaves `seg_status` as it is, and the next call goes on behind the
octets of the old SDU, in whatever buffer it is passed.  What remains is a 16-bit number, so that
an SDU of 65536 octets is none.  In a run whose calls are for short SDUs, and for the SDU in
progress where there is one, every call sends slices of its buffer and answers `TC_TX_OK` with all
of it requested (`sendsSlices_run`).
-/

set_option autoImplicit false

namespace Osdlp.Analysis

open Osdlp.Model Osdlp.Interface Osdlp.Library

variable {W : Type}

/-- What the user calls. -/
inductive TcCall
  | op (op : FopOp)
  | prepare (hdr : TcPrimaryHdr) (frameData : TcFdf)
  | setSlidingWindow (newWnd : UInt8)
  | transmit (sdu : Sdu)

/-- The state after a call.  Each comes with the hooks that answer it. -/
def tcStep (s : FopSt (Recording W)) : TcUser W × TcCall → FopSt (Recording W)
  | (user, .op op) => (recorded (copProgram user.hooks user.depth op) s).2
  | (_, .prepare hdr frameData) =>
    { s with tf := { s.tf with primaryHdr := hdr, frameData := frameData } }
  | (_, .setSlidingWindow newWnd) => (recorded (osdlpSetSlidingWindow newWnd) s).2
  | (user, .transmit sdu) => (recordedTransmit user sdu s).2

/-- A call of `osdlp_tc_transmit` with octets sends slices of its buffer. -/
def CallSends (s : FopSt (Recording W)) : TcUser W × TcCall → Prop
  | (user, .transmit sdu) =>
    1 ≤ sdu.size → SendsSlices sdu s (recordedTransmit user sdu s).1 (recordedTransmit user sdu s).2
  | _ => True

/-- A call of `osdlp_tc_transmit` is for fewer than 65536 octets, and where an SDU is in progress,
for the one that the last request was for. -/
def CallInOrder (s : FopSt (Recording W)) : TcUser W × TcCall → Prop
  | (_, .transmit sdu) =>
    sdu.size < 65536 ∧
      (s.tf.segStatus.flag = .inProgress →
        s.world.requests.getLast?.map SegmentRequest.sdu = some sdu)
  | _ => True

instance (s : FopSt (Recording W)) : ∀ e, Decidable (CallInOrder s e)
  | (_, .op _) => isTrue trivial
  | (_, .prepare _ _) => isTrue trivial
  | (_, .setSlidingWindow _) => isTrue trivial
  | (_, .transmit _) => inferInstanceAs (Decidable (_ ∧ _))

/-- Between two calls. -/
structure AtRest (s : FopSt (Recording W)) : Prop where
  maxDataLen : 1 ≤ s.tf.mission.maxDataLen
  resumable : Resumable s

/-- The SDU in progress is the one of the last request. -/
theorem inProgress_of_last {s : FopSt (Recording W)} {sdu : Sdu} (h : Resumable s)
    (hflag : s.tf.segStatus.flag = .inProgress)
    (hlast : s.world.requests.getLast?.map SegmentRequest.sdu = some sdu) : InProgress sdu s := by
  obtain ⟨sdu', hprogress⟩ := h hflag
  obtain ⟨r, hr, -⟩ := hprogress.covers.last
  have hsame := hprogress.covers.same r (List.mem_of_getLast? hr)
  rw [sinceFirst_getLast?] at hr
  rw [hr] at hlast
  have hsdu : r.sdu = sdu := Option.some.inj hlast
  rw [← hsdu, hsame]
  exact hprogress

/-- A program that stands aside leaves the sender at rest. -/
theorem AtRest.recorded {α : Type} {s : FopSt (Recording W)} (h : AtRest s) {m : FopM W α}
    (hm : Aside m) : AtRest (recorded m s).2 := by
  have hsame := hm (unrecorded s)
  refine ⟨hsame.maxDataLen ▸ h.maxDataLen, h.resumable.congr hsame.segStatus rfl⟩

/-- One call. -/
theorem tcStep_atRest {s : FopSt (Recording W)} (h : AtRest s) (e : TcUser W × TcCall)
    (he : CallInOrder s e) : CallSends s e ∧ AtRest (tcStep s e) := by
  obtain ⟨user, call⟩ := e
  cases call with
  | op op => exact ⟨trivial, h.recorded (user.aside.copProgram user.depth op)⟩
  | prepare hdr frameData => exact ⟨trivial, h.maxDataLen, h.resumable.congr rfl rfl⟩
  | setSlidingWindow newWnd =>
    exact ⟨trivial, h.recorded ((aside_modifyFop _).bind fun _ => aside_answer _)⟩
  | transmit sdu =>
    obtain ⟨hshort, hlast⟩ := he
    have hin : s.tf.segStatus.flag = .inProgress → InProgress sdu s :=
      fun hflag => inProgress_of_last h.resumable hflag (hlast hflag)
    by_cases hsome : 1 ≤ sdu.size
    · have hsent := recordedTransmit_transmits user hsome hshort h.maxDataLen hin
      refine ⟨fun _ => hsent.toSendsSlices, ?_, hsent.resumable⟩
      show 1 ≤ (recordedTransmit user sdu s).2.tf.mission.maxDataLen
      rw [hsent.maxDataLen]
      exact h.maxDataLen
    · -- without octets the loop is left at once
      have hzero : sdu.size = 0 := by omega
      have hnone : remainingOctets s.tf.segStatus sdu.size = 0 := by
        unfold remainingOctets
        cases hflag : s.tf.segStatus.flag with
        | ended =>
          rw [hzero]
          rfl
        | inProgress =>
          have hmore := (hin hflag).more
          omega
      have hstep : tcStep s (user, .transmit sdu) = (answer .acceptTx s).2 := by
        show (recordedTransmit user sdu s).2 = _
        unfold recordedTransmit osdlpTcTransmit
        rw [bind_apply, get_apply]
        dsimp only
        rw [hnone]
        rfl
      rw [hstep]
      exact ⟨fun h => absurd h hsome, h.maxDataLen, h.resumable.congr rfl rfl⟩

/-- **What is sent.**  SOURCE: osdlp_tc.c:342-426, osdlp_cop.c:338-374 -/
theorem sendsSlices_run {s : FopSt (Recording W)} (hpos : 1 ≤ s.tf.mission.maxDataLen)
    (hended : s.tf.segStatus.flag = .ended) {calls : List (TcUser W × TcCall)}
    (h : Guarded tcStep CallInOrder s calls) : Guarded tcStep CallSends s calls :=
  Guarded.imp (I := AtRest) (fun _ e hs he => tcStep_atRest hs e he) ⟨hpos, .of_ended hended⟩ h

/-- A user whose hooks are queues, the transmission queue with so much room. -/
def queueUser (keep : List Bool) (capacity : ℕ) : TcUser FifoWorld where
  hooks := fifoHooks keep
  depth := 2
  txQueueFull := do return capacity ≤ (← get).world.txQueue.length
  aside := fifoHooks_aside keep
  full_tf := fun _ => rfl

/-- A sender of frames with two octets of data, and no room in its window. -/
def shortFrameStart : FopSt (Recording FifoWorld) :=
  { tf := shortFrameSender
    world :=
      { user :=
          { waitQueue := [], sentQueue := [], txQueue := [], timerRunning := false, accepted := [] }
        requests := [] } }

/-- Five octets, and five others. -/
def firstSdu : Sdu := { buffer := [1, 2, 3, 4, 5], length := 5, held := by decide }

def secondSdu : Sdu := { buffer := [6, 7, 8, 9, 10], length := 5, held := by decide }

/-- The first SDU is delayed behind two octets, and the window opened before the user goes on. -/
def resumedCalls : List (TcUser FifoWorld × TcCall) :=
  [.transmit firstSdu, .setSlidingWindow 10, .op .adAccept, .transmit firstSdu].map
    fun call => (queueUser [] 8, call)

theorem sendsSlices_run_resumed : Guarded tcStep CallSends shortFrameStart resumedCalls :=
  sendsSlices_run (by decide) (by decide) (by decide +kernel)

/-- The first SDU is delayed and given up, and the user sends another. -/
def abandonedCalls : List (TcUser FifoWorld × TcCall) :=
  [.transmit firstSdu, .op .terminateAd, .op .initiateNoClcw, .setSlidingWindow 10,
    .transmit secondSdu].map fun call => (queueUser [] 8, call)

/-- The second SDU is reported as sent, and its first two octets never are. -/
theorem not_sendsSlices_abandoned :
    1 ≤ shortFrameStart.tf.mission.maxDataLen ∧ shortFrameStart.tf.segStatus.flag = .ended ∧
      ¬ Guarded tcStep CallSends shortFrameStart abandonedCalls := by
  refine ⟨by decide, by decide, ?_⟩
  rintro ⟨-, -, -, -, hsecond, -⟩
  have hsame := ((hsecond (by decide)).whole (by decide +kernel)).same
  revert hsame
  decide +kernel

end Osdlp.Analysis
