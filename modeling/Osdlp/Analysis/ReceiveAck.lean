import Osdlp.Interface.FarmStep
import Osdlp.Model.TcReceive

/-!
# Acknowledged and received

A type-A frame is acknowledged by V(R) moving on, and `osdlp_tc_receive` owes it that its
data reach the receive queue or the open reassembly buffer (`KeepsWhatItAcknowledges`).

FARM-1 moves V(R) before the data are looked at, and every error exit behind it leaves
V(R) where FARM-1 put it.  `keeps_iff` says that these exits, `Refused`, are all there is.
-/

set_option autoImplicit false

namespace Osdlp.Analysis

open Osdlp.Model Osdlp.Interface Osdlp.Library

/-- Where the data of a frame belong in the reassembly buffer: behind those of the segments before
it, or at the start if it begins an SDU. -/
def appendOffset (tf : FarmFrame) : ℕ :=
  if tf.mission.segHdrFlag then
    match tf.frameData.segHdr.seqFlag with
    | .unseg | .firstSeg => 0
    | .contSeg | .lastSeg => tf.mission.util.bufferedLength
  else 0

/-- The data of a frame, behind those of the segments before it, have been handed to the receive
queue, which took them, or they lie in the open reassembly buffer. -/
def Taken (hooks : RxHooks) (tf : FarmFrame) (r : TcReceived) : Prop :=
  let off := appendOffset tf
  let buffer := copiedTo tf off
  (r.offer = some { now := false, sdu := buffer.take (off + tf.frameData.dataLen) } ∧
      0 ≤ hooks.enqueue) ∨
    r.tf.mission.util =
      { buffer := buffer
        bufferedLength := u16 (off + tf.frameData.dataLen)
        loopState := .loopOpen }

/-- An error leaves V(R) alone, Set V(R) commands apart, and V(R) counts only frames whose
data have been taken. -/
structure KeepsWhatItAcknowledges (hooks : RxHooks) (tf : FarmFrame) (rxBuffer : List UInt8)
    (length : ℕ) : Prop where
  kept : (osdlpTcReceive hooks tf rxBuffer length).code < 0 →
    (osdlpTcReceive hooks tf rxBuffer length).tf.copCfg.vr = tf.copCfg.vr ∨
      SetsVr (osdlpTcUnpack tf rxBuffer)
  taken : (osdlpTcReceive hooks tf rxBuffer length).tf.copCfg.vr = tf.copCfg.vr + 1 →
    SetsVr (osdlpTcUnpack tf rxBuffer) ∨
      Taken hooks (osdlpTcUnpack tf rxBuffer) (osdlpTcReceive hooks tf rxBuffer length)

/-- The frame gets as far as FARM-1. -/
structure Admitted (hooks : RxHooks) (tf : FarmFrame) (rxBuffer : List UInt8) (length : ℕ) :
    Prop where
  delimited : rxFrameLen rxBuffer + 1 ≤ length ∧ 5 ≤ length
  configured : 0 ≤ hooks.config
  valid : 0 ≤ osdlpFrameValidationCheck (osdlpTcUnpack tf rxBuffer) rxBuffer

/-- The data of a frame find no room, no queue or no open loop. -/
def Refused (hooks : RxHooks) (tf : FarmFrame) : Prop :=
  let dataLen := tf.frameData.dataLen
  let util := tf.mission.util
  if tf.mission.segHdrFlag then
    match tf.frameData.segHdr.seqFlag with
    | .unseg => dataLen > tf.mission.maxDataLen ∨ hooks.enqueue < 0
    | .firstSeg => util.loopState ≠ .loopClosed ∨ dataLen > tf.mission.maxDataLen
    | .lastSeg =>
      util.loopState ≠ .loopOpen ∨ dataLen + util.bufferedLength > tf.mission.maxSduLen ∨
        hooks.enqueue < 0
    | .contSeg =>
      util.loopState ≠ .loopOpen ∨ dataLen + util.bufferedLength > tf.mission.maxSduLen
  else dataLen > tf.mission.maxSduLen ∨ hooks.enqueue < 0

variable {hooks : RxHooks} {tf : FarmFrame}

/-! ## After FARM-1 -/

theorem copErr_code_neg (tf : FarmFrame) : (rxError .copErr tf).code < 0 := by
  show -TcRxResult.copErr.code < 0
  decide

/-- The receive queue decides about an SDU that ends with the data field. -/
theorem rxOffer_enq (hooks : RxHooks) {tf : FarmFrame} (tf' : FarmFrame) {off : ℕ}
    (hoff : appendOffset tf = off) :
    let r := rxOffer hooks .enq ((copiedTo tf off).take (off + tf.frameData.dataLen)) tf'
    (hooks.enqueue < 0 ∧ r.code < 0) ∨ (¬ hooks.enqueue < 0 ∧ 0 ≤ r.code ∧ Taken hooks tf r) := by
  intro r
  subst hoff
  by_cases h : hooks.enqueue < 0
  · have hcode : r.code = -TcRxResult.queueErr.code := if_pos h
    exact .inl ⟨h, by rw [hcode]; decide⟩
  · have hcode : r.code = TcRxResult.ok.code := if_neg h
    exact .inr ⟨h, by rw [hcode]; decide, .inl ⟨rfl, not_lt.mp h⟩⟩

/-- So it does about an SDU that is in one frame. -/
theorem rxOffer_whole (hooks : RxHooks) {tf : FarmFrame} (tf' : FarmFrame)
    (hoff : appendOffset tf = 0) :
    let r := rxOffer hooks .enq ((copiedTo tf 0).take tf.frameData.dataLen) tf'
    (hooks.enqueue < 0 ∧ r.code < 0) ∨ (¬ hooks.enqueue < 0 ∧ 0 ≤ r.code ∧ Taken hooks tf r) := by
  have hoffer := rxOffer_enq hooks tf' hoff
  rw [Nat.zero_add] at hoffer
  exact hoffer

/-- Data copied into an open loop have been taken. -/
theorem taken_appended (hooks : RxHooks) {tf : FarmFrame} {off : ℕ} (hoff : appendOffset tf = off) :
    Taken hooks tf (rxDone (setUtil tf
      { buffer := copiedTo tf off
        bufferedLength := u16 (off + tf.frameData.dataLen)
        loopState := .loopOpen })) := by
  subst hoff
  exact .inr rfl

/-- The data that FARM-1 has accepted are refused with an error, or taken without one. -/
theorem receiveData_enq (hooks : RxHooks) (tf : FarmFrame)
    (hlen : tf.frameData.dataLen < 65536) :
    (Refused hooks tf ∧ (receiveData hooks .enq tf).code < 0) ∨
      (¬ Refused hooks tf ∧ 0 ≤ (receiveData hooks .enq tf).code ∧
        Taken hooks tf (receiveData hooks .enq tf)) := by
  have hzero : ∀ {p : Prop} {r : TcReceived}, ¬ p →
      (hooks.enqueue < 0 ∧ r.code < 0) ∨
        (¬ hooks.enqueue < 0 ∧ 0 ≤ r.code ∧ Taken hooks tf r) →
      ((p ∨ hooks.enqueue < 0) ∧ r.code < 0) ∨
        (¬ (p ∨ hooks.enqueue < 0) ∧ 0 ≤ r.code ∧ Taken hooks tf r) := by
    intro p r hp hr
    simpa only [hp, false_or] using hr
  have hok : (0 : Int) ≤ TcRxResult.ok.code := by decide
  unfold receiveData Refused
  cases hseg : tf.mission.segHdrFlag with
  | false =>
    have hoff : appendOffset tf = 0 := by simp [appendOffset, hseg]
    simp only [Bool.false_eq_true, if_false]
    unfold receiveWhole
    split_ifs with hbig
    · exact .inl ⟨.inl hbig, copErr_code_neg _⟩
    · exact hzero hbig (rxOffer_whole hooks _ hoff)
  | true =>
    simp only [if_true]
    cases hflag : tf.frameData.segHdr.seqFlag with
    | unseg =>
      have hoff : appendOffset tf = 0 := by simp [appendOffset, hflag]
      dsimp only
      unfold receiveUnseg
      split_ifs with hbig
      · exact .inl ⟨.inl hbig, copErr_code_neg _⟩
      · exact hzero hbig (rxOffer_whole hooks _ hoff)
    | firstSeg =>
      have hoff : appendOffset tf = 0 := by simp [appendOffset, hflag]
      dsimp only
      unfold receiveFirstSeg
      split_ifs with hloop hbig
      · exact .inl ⟨.inl hloop, copErr_code_neg _⟩
      · exact .inl ⟨.inr hbig, copErr_code_neg _⟩
      · refine .inr ⟨not_or.mpr ⟨hloop, hbig⟩, hok, ?_⟩
        have happ := taken_appended hooks hoff
        rw [Nat.cast_zero, zero_add, u16_of_lt hlen] at happ
        exact happ
    | lastSeg =>
      have hoff : appendOffset tf = tf.mission.util.bufferedLength := by
        simp [appendOffset, hseg, hflag]
      dsimp only
      unfold receiveLastSeg receiveInLoop
      split_ifs with hloop hbig
      · exact .inl ⟨.inl hloop, copErr_code_neg _⟩
      · exact .inl ⟨.inr (.inl hbig), copErr_code_neg _⟩
      · -- the last segment is offered from the copy, after the loop has been closed
        have hoffer := rxOffer_enq hooks (setUtil tf
          { tf.mission.util with
            buffer := copiedTo tf tf.mission.util.bufferedLength
            loopState := .loopClosed }) hoff
        rw [← or_assoc]
        exact hzero (not_or.mpr ⟨hloop, hbig⟩) hoffer
    | contSeg =>
      have hoff : appendOffset tf = tf.mission.util.bufferedLength := by
        simp [appendOffset, hseg, hflag]
      dsimp only
      unfold receiveContSeg receiveInLoop
      split_ifs with hloop hbig
      · exact .inl ⟨.inl hloop, copErr_code_neg _⟩
      · exact .inl ⟨.inr hbig, copErr_code_neg _⟩
      · refine .inr ⟨not_or.mpr ⟨hloop, hbig⟩, hok, ?_⟩
        have happ := taken_appended hooks hoff
        -- the loop was open, and it stays so
        have hopen : tf.mission.util.loopState = .loopOpen := not_not.mp hloop
        rw [← hopen] at happ
        exact happ

/-- Nothing that follows FARM-1 touches its variables. -/
theorem receiveFarmed_copCfg (farmRet : FarmResult) (tf : FarmFrame) :
    (receiveFarmed hooks farmRet tf).tf.copCfg = tf.copCfg := by
  have hdata : ∀ farmRet, (receiveData hooks farmRet tf).tf.copCfg = tf.copCfg := by
    intro farmRet
    unfold receiveData receiveUnseg receiveFirstSeg receiveLastSeg receiveContSeg receiveInLoop
      receiveWhole
    cases tf.frameData.segHdr.seqFlag <;> dsimp only <;> split_ifs <;> rfl
  unfold receiveFarmed
  cases farmRet with
  | enq => exact hdata .enq
  | priorityEnq => exact hdata .priorityEnq
  | ok | discard | error => rfl

/-- The data length of an unpacked frame is a sixteen-bit number. -/
theorem osdlpTcUnpack_dataLen_lt (tf : FarmFrame) (rxBuffer : List UInt8) :
    (osdlpTcUnpack tf rxBuffer).frameData.dataLen < 65536 := u16_lt _

/-! ## The whole call -/

/-- A frame that is admitted goes through the FARM. -/
theorem osdlpTcReceive_admitted {rxBuffer : List UInt8} {length : ℕ}
    (h : Admitted hooks tf rxBuffer length) :
    osdlpTcReceive hooks tf rxBuffer length =
      receiveFarmed hooks (osdlpFarm1 hooks.rxFull (osdlpTcUnpack tf rxBuffer)).1
        (osdlpFarm1 hooks.rxFull (osdlpTcUnpack tf rxBuffer)).2 := by
  have hlen := h.delimited
  have hdelim : ¬ (rxFrameLen rxBuffer + 1 > length ∨ length < 5) := by omega
  unfold osdlpTcReceive
  rw [if_neg hdelim, if_neg (not_lt.mpr h.configured)]
  exact if_neg (not_lt.mpr h.valid)

/-- Any other frame leaves the FARM as it is. -/
theorem osdlpTcReceive_not_admitted {rxBuffer : List UInt8} {length : ℕ}
    (h : ¬ Admitted hooks tf rxBuffer length) :
    (osdlpTcReceive hooks tf rxBuffer length).tf.copCfg = tf.copCfg := by
  unfold osdlpTcReceive
  dsimp only
  split_ifs with hlen hconfig hvalid
  · rfl
  · rfl
  · rfl
  · exact absurd ⟨by omega, not_lt.mp hconfig, not_lt.mp hvalid⟩ h

/-- No acknowledged telecommand is lost exactly when none that V(R) counts is refused.
SOURCE: osdlp_tc.c:185-339, osdlp_cop.c:62-79 -/
theorem keeps_iff (hooks : RxHooks) (tf : FarmFrame) (rxBuffer : List UInt8) (length : ℕ) :
    KeepsWhatItAcknowledges hooks tf rxBuffer length ↔
      ¬ (Admitted hooks tf rxBuffer length ∧ Accepts hooks.rxFull (osdlpTcUnpack tf rxBuffer) ∧
        Refused hooks (osdlpTcUnpack tf rxBuffer)) := by
  by_cases hadm : Admitted hooks tf rxBuffer length
  · have hcall := osdlpTcReceive_admitted hadm
    have hcfg : (osdlpTcReceive hooks tf rxBuffer length).tf.copCfg =
        (osdlpFarm1 hooks.rxFull (osdlpTcUnpack tf rxBuffer)).2.copCfg := by
      rw [hcall, receiveFarmed_copCfg]
    have hvr0 : (osdlpTcUnpack tf rxBuffer).copCfg.vr = tf.copCfg.vr := rfl
    rcases osdlpFarm1_vr hooks.rxFull (osdlpTcUnpack tf rxBuffer) with
      ⟨hacc, henq, hvr⟩ | ⟨hno, hne, hvr⟩
    · obtain ⟨farm, hfarm⟩ := osdlpFarm1_frame hooks.rxFull (osdlpTcUnpack tf rxBuffer)
      have hnoset : ¬ SetsVr (osdlpTcUnpack tf rxBuffer) := fun hset => by
        simpa [hacc.bypass] using hset.1
      have hdata : osdlpTcReceive hooks tf rxBuffer length =
          receiveData hooks .enq (setFarm (osdlpTcUnpack tf rxBuffer) farm) := by
        rw [hcall, henq, hfarm]
        rfl
      have hrefused : Refused hooks (setFarm (osdlpTcUnpack tf rxBuffer) farm) ↔
          Refused hooks (osdlpTcUnpack tf rxBuffer) := Iff.rfl
      have hoffered := receiveData_enq hooks
        (setFarm (osdlpTcUnpack tf rxBuffer) farm) (osdlpTcUnpack_dataLen_lt tf rxBuffer)
      rw [← hdata, hrefused] at hoffered
      rcases hoffered with ⟨href, hcode⟩ | ⟨href, hcode, htaken⟩
      · refine iff_of_false (fun hk => ?_) (not_not.mpr ⟨hadm, hacc, href⟩)
        have hsame := (hk.kept hcode).resolve_right hnoset
        rw [hcfg, hvr, hvr0] at hsame
        exact succ_ne _ hsame
      · refine iff_of_true ⟨fun hneg => ?_, fun _ => .inr htaken⟩ fun h => href h.2.2
        omega
    · refine iff_of_true ⟨fun hneg => ?_, fun hmoved => ?_⟩ fun h => hno h.2.1
      · rcases hvr with hvr | ⟨hset, -⟩
        · exact .inl (by rw [hcfg, hvr, hvr0])
        · exact .inr hset
      · rcases hvr with hvr | ⟨hset, -⟩
        · rw [hcfg, hvr, hvr0] at hmoved
          exact absurd hmoved.symm (succ_ne _)
        · exact .inl hset
  · have hcfg := osdlpTcReceive_not_admitted hadm
    refine iff_of_true ⟨fun _ => .inl (by rw [hcfg]), fun hmoved => ?_⟩ fun h => hadm h.1
    rw [hcfg] at hmoved
    exact absurd hmoved.symm (succ_ne _)

/-- A receiver that `osdlp_tc_init` and `osdlp_prepare_farm` have set up, with segmentation
and without checksum. -/
def freshReceiver : FarmFrame :=
  { (default : FarmFrame) with
    mission :=
      { (default : TcMissionParams) with
        util := { buffer := [], bufferedLength := 0, loopState := .loopClosed }
        segHdrFlag := true
        maxSduLen := 100
        maxDataLen := 58
        maxFrameLen := 64
        fixedOverheadLen := 6 }
    copCfg := osdlpPrepareFarm default .stateOpen 10 }

/-- A type-A frame with N(S) = 0 and the last segment of an SDU, of two octets. -/
def lastSegment : List UInt8 := [0, 0, 0, 7, 0, 0x80, 1, 2]

/-- The first frame is the last segment of an SDU whose beginning was never sent: it is
acknowledged and dropped. -/
theorem not_keeps_last_segment :
    let hooks : RxHooks := { config := 0, rxFull := false, enqueue := 0, enqueueNow := 0 }
    let r := osdlpTcReceive hooks freshReceiver lastSegment 8
    r.code = -TcRxResult.copErr.code ∧ freshReceiver.copCfg.vr = 0 ∧ r.tf.copCfg.vr = 1 ∧
      r.offer = none ∧ ¬ KeepsWhatItAcknowledges hooks freshReceiver lastSegment 8 := by
  intro hooks r
  refine ⟨rfl, rfl, rfl, rfl, fun hk => ?_⟩
  rcases hk.kept (by decide) with hvr | hset
  · exact absurd hvr (by decide)
  · exact absurd hset.1 (by decide)

end Osdlp.Analysis
