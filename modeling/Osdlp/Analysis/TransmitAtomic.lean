import Osdlp.Interface.Cop1
import Osdlp.Interface.FopRelease
import Osdlp.Interface.TcCodec

/-!
# A transmission that fails half-way

`osdlp_transmit_type_ad` takes the first frame off the wait queue, packs it, and puts it on the
sent queue and on the transmission queue, either of which may refuse it.  It counts V(S) up
before it looks whether the sent queue has refused, and undoes nothing.  So the function is all
or nothing exactly if neither queue refuses and the frame structure still holds the type and the
segment header of the frame that waited (`allOrNothing_iff`).
-/

set_option autoImplicit false

namespace Osdlp.Analysis

open Osdlp.Model Osdlp.Interface Osdlp.Library

/-! ## Queues that may be full -/

/-- A hook that answers `code`, and changes the user's state unless that is a failure. -/
def answering (code : Int) (f : FifoWorld → FifoWorld) : FopM FifoWorld Int := do
  if 0 ≤ code then
    modify fun s => onWorld s f
  return code

/-- The hooks under which the sent queue and the transmission queue answer as they are told. -/
def fullHooks (keep : List Bool) (sentCode txCode : Int) : CopHooks FifoWorld :=
  { fifoHooks keep with
    sentQueueEnqueue := fun item =>
      answering sentCode fun w => { w with sentQueue := w.sentQueue ++ [item] }
    txQueueEnqueue := fun fdu =>
      answering txCode fun w => { w with txQueue := w.txQueue ++ [fdu] } }

variable (keep : List Bool) {sentCode txCode : Int} {s : Fop} {w : FopFrame}
  {waiting : List FopFrame}

/-- A hook that answers with a code acts if the code is no error. -/
theorem answering_apply (code : Int) (f : FifoWorld → FifoWorld) (s : Fop) :
    answering code f s = (code, if 0 ≤ code then onWorld s f else s) := by
  unfold answering
  rw [ite_apply_state]
  split <;> rfl

/-- The state after the attempt.  The transmission queue is only tried where the sent queue has
accepted. -/
def attempted (sentCode txCode : Int) (s : Fop) : Fop :=
  { tf := (transmitted s).tf
    world :=
      { (drawn s).world with
        sentQueue := if 0 ≤ sentCode then s.world.sentQueue ++ [newItem s] else s.world.sentQueue
        txQueue :=
          if 0 ≤ sentCode ∧ 0 ≤ txCode then s.world.txQueue ++ [(newItem s).fdu]
          else s.world.txQueue } }

/-- V(S) goes up whatever the queues answer. -/
theorem osdlpTransmitTypeAd_attempted (sentCode txCode : Int) (s : Fop) :
    osdlpTransmitTypeAd (fullHooks keep sentCode txCode) s =
      (if 0 ≤ sentCode ∧ 0 ≤ txCode then 0 else -1, attempted sentCode txCode s) := by
  unfold fullHooks attempted
  rw [osdlpTransmitTypeAd_drawn]
  unfold handOver
  simp only [bind_apply, answering_apply, ite_apply_state, pure_apply]
  by_cases hsent : 0 ≤ sentCode
  · simp only [hsent, not_lt.mpr hsent, if_true, if_false, true_and]
    by_cases htx : 0 ≤ txCode
    · simp only [htx, not_lt.mpr htx, if_true, if_false]
      rfl
    · simp only [htx, not_le.mp htx, if_true, if_false]
      rfl
  · simp only [hsent, not_le.mp hsent, if_true, if_false, false_and]
    rfl

/-! ## All or nothing -/

/-- The waiting frame has left the wait queue and is, numbered with V(S), at the end of both
queues. -/
structure SentOut (s : Fop) (w : FopFrame) (s' : Fop) : Prop where
  vs : s'.tf.copCfg.vs.toNat = (s.tf.copCfg.vs.toNat + 1) % 256
  waitQueue : s.world.waitQueue = w :: s'.world.waitQueue
  queues : ∃ item, item.type = .typeA ∧ item.seqNum = s.tf.copCfg.vs ∧
    UnpacksTo s.tf.mission item.fdu s.tf.copCfg.vs w.frameData ∧
    s'.world.sentQueue = s.world.sentQueue ++ [item] ∧
    s'.world.txQueue = s.world.txQueue ++ [item.fdu]

/-- V(S), the wait queue and the sent queue are as before. -/
structure Untouched (s s' : Fop) : Prop where
  vs : s'.tf.copCfg.vs = s.tf.copCfg.vs
  waitQueue : s'.world.waitQueue = s.world.waitQueue
  sentQueue : s'.world.sentQueue = s.world.sentQueue

/-- A transmission of the waiting frame `w` from state `s` either succeeds or leaves no trace. -/
def AllOrNothing (s : Fop) (w : FopFrame) (outcome : Int × Fop) : Prop :=
  (outcome.1 = 0 → SentOut s w outcome.2) ∧ (outcome.1 = -1 → Untouched s outcome.2)

/-- The waiting frame is gone after every attempt. -/
theorem not_untouched_attempted (hw : s.world.waitQueue = w :: waiting) :
    ¬ Untouched s (attempted sentCode txCode s) := by
  intro h
  have hsame : s.world.waitQueue.tail = s.world.waitQueue := h.waitQueue
  have hlen := congrArg List.length hsame
  rw [hw, List.tail_cons, List.length_cons] at hlen
  omega

/-- Where both queues accept, the frame is the one that waited exactly if the frame structure
still agrees with it. -/
theorem sentOut_attempted_iff (hover : s.tf.mission.fixedOverheadLen = s.tf.mission.overhead)
    (hw : s.world.waitQueue = w :: waiting)
    (hfits : Fits s.tf.mission.fixedOverheadLen w.frameData) (hsent : 0 ≤ sentCode)
    (htx : 0 ≤ txCode) :
    SentOut s w (attempted sentCode txCode s) ↔
      s.tf.primaryHdr.bypass = .typeA ∧
        (s.tf.mission.segHdrFlag = true → s.tf.frameData.segHdr = w.frameData.segHdr) := by
  have hfdu : (newItem s).fdu = (osdlpTcPack s.tf w.frameData.data w.frameData.dataLen).1 := by
    show (packedWaiting s).1 = _
    unfold packedWaiting
    rw [hw]
    rfl
  have hsentQueue : (attempted sentCode txCode s).world.sentQueue =
      s.world.sentQueue ++ [newItem s] := if_pos hsent
  have htxQueue : (attempted sentCode txCode s).world.txQueue =
      s.world.txQueue ++ [(newItem s).fdu] := if_pos ⟨hsent, htx⟩
  rw [← unpacksTo_pack_iff hover hfits.1 hfits.2, ← hfdu]
  constructor
  · intro h
    obtain ⟨item, -, -, hunpacks, hqueue, -⟩ := h.queues
    rw [hsentQueue] at hqueue
    rw [(List.cons.inj (List.append_cancel_left hqueue)).1]
    exact hunpacks
  · intro hunpacks
    refine ⟨?_, ?_, newItem s, rfl, rfl, hunpacks, hsentQueue, htxQueue⟩
    · show (UInt8.ofNat ((s.tf.copCfg.vs.toNat + 1) % 256)).toNat = _
      rw [UInt8.toNat_ofNat', Nat.mod_mod]
    · show s.world.waitQueue = w :: s.world.waitQueue.tail
      rw [hw, List.tail_cons]

/-- **A transmission is all or nothing exactly if neither queue refuses the frame and the frame
structure still agrees with it.**
SOURCE: osdlp_cop.c:482-514 -/
theorem allOrNothing_iff (hover : s.tf.mission.fixedOverheadLen = s.tf.mission.overhead)
    (hw : s.world.waitQueue = w :: waiting)
    (hfits : Fits s.tf.mission.fixedOverheadLen w.frameData) :
    AllOrNothing s w (osdlpTransmitTypeAd (fullHooks keep sentCode txCode) s) ↔
      (0 ≤ sentCode ∧ 0 ≤ txCode) ∧ s.tf.primaryHdr.bypass = .typeA ∧
        (s.tf.mission.segHdrFlag = true → s.tf.frameData.segHdr = w.frameData.segHdr) := by
  rw [osdlpTransmitTypeAd_attempted]
  unfold AllOrNothing
  by_cases haccepted : 0 ≤ sentCode ∧ 0 ≤ txCode
  · rw [← sentOut_attempted_iff hover hw hfits haccepted.1 haccepted.2]
    simp [haccepted]
  · simp [haccepted, not_untouched_attempted hw]

/-! ## A sent queue for one frame -/

/-- A sender in ACTIVE with no segment header, no checksum and a window of two frames. -/
def activeFop : Fop :=
  { tf :=
      { (default : FopFrame) with
        mission := { (default : TcMissionParams) with fixedOverheadLen := 5 }
        copCfg := osdlpPrepareFop default 2 .active 100 0 3 }
    world :=
      { waitQueue := [], sentQueue := [], txQueue := [], timerRunning := false, accepted := [] } }

/-- The header of a type-A data frame. -/
def dataHdr : TcPrimaryHdr := { (default : TcPrimaryHdr) with bypass := .typeA }

/-- One octet of data. -/
def octetFdf (octet : UInt8) : TcFdf :=
  { (default : TcFdf) with data := [octet], dataLen := 1 }

/-- The first frame has been sent, and the second one waits to follow it. -/
def secondWaiting : Fop :=
  enqueued (prepared dataHdr (octetFdf 8)
    (run senderStep activeFop [.op [] (.request dataHdr (octetFdf 7))]))

/-- The frame that waits. -/
def secondWaitingFrame : FopFrame := secondWaiting.world.waitQueue.headD default

/-- The second frame where there is room for it. -/
theorem allOrNothing_iff_second :
    AllOrNothing secondWaiting secondWaitingFrame
        (osdlpTransmitTypeAd (fullHooks [] 0 0) secondWaiting) ↔
      ((0 : Int) ≤ 0 ∧ (0 : Int) ≤ 0) ∧ secondWaiting.tf.primaryHdr.bypass = .typeA ∧
        (secondWaiting.tf.mission.segHdrFlag = true →
          secondWaiting.tf.frameData.segHdr = secondWaitingFrame.frameData.segHdr) :=
  @allOrNothing_iff [] _ _ _ _ [] rfl rfl ⟨Nat.le_refl 1, by decide⟩

/-- A sent queue that only holds one frame refuses the second: the frame is on neither queue any
more, and its number has been used up. -/
theorem not_allOrNothing_sent_queue_full :
    let outcome := osdlpTransmitTypeAd (fullHooks [] (-1) 0) secondWaiting
    ¬ AllOrNothing secondWaiting secondWaitingFrame outcome ∧
      outcome.1 = -1 ∧ secondWaiting.tf.copCfg.vs = 1 ∧ outcome.2.tf.copCfg.vs = 2 ∧
      outcome.2.world.waitQueue = [] ∧ outcome.2.world.sentQueue = secondWaiting.world.sentQueue := by
  intro outcome
  refine ⟨fun h => ?_, rfl, rfl, rfl, rfl, rfl⟩
  exact absurd (h.2 rfl).vs (by decide)

end Osdlp.Analysis
