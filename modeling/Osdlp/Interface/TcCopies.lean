import Osdlp.Library.Traced
import Osdlp.Model.TcReceive

/-!
# What a reception copies

The reassembly of `osdlp_tc_receive` once more, with every copy into the utility buffer logged by
the indices it writes: the functions below are those of the model and compute the same
(`value_tcReceiveCopies`).
-/

set_option autoImplicit false

namespace Osdlp.Interface

open Osdlp.Model Osdlp.Library

/-- A computation that copies into the utility buffer. -/
abbrev TcCopies := Traced Span

/-- The data field is copied to an offset of the utility buffer. -/
def copyToUtil (tf : FarmFrame) (off : ℕ) : TcCopies (List UInt8) :=
  ⟨copiedTo tf off, [⟨off, tf.frameData.dataLen⟩]⟩

/-- SOURCE: osdlp_tc.c:217-239 -/
def receiveUnsegCopies (hooks : RxHooks) (farmRet : FarmResult) (tf : FarmFrame) :
    TcCopies TcReceived :=
  if tf.frameData.dataLen > tf.mission.maxDataLen then return rxError .copErr tf
  else do
    let buffer ← copyToUtil tf 0
    return rxOffer hooks farmRet (buffer.take tf.frameData.dataLen)
      (setUtil tf { buffer := buffer, bufferedLength := 0, loopState := .loopClosed })

/-- SOURCE: osdlp_tc.c:240-254 -/
def receiveFirstSegCopies (tf : FarmFrame) : TcCopies TcReceived :=
  if tf.mission.util.loopState ≠ .loopClosed then
    return rxError .copErr
      (setUtil tf { tf.mission.util with bufferedLength := 0, loopState := .loopClosed })
  else if tf.frameData.dataLen > tf.mission.maxDataLen then
    return rxError .copErr
      (setUtil tf { tf.mission.util with bufferedLength := tf.frameData.dataLen })
  else do
    let buffer ← copyToUtil tf 0
    return rxDone (setUtil tf
      { buffer := buffer, bufferedLength := tf.frameData.dataLen, loopState := .loopOpen })

/-- SOURCE: osdlp_tc.c:256-266, 286-296 -/
def receiveInLoopCopies (next : TcCopies TcReceived) (tf : FarmFrame) : TcCopies TcReceived :=
  if tf.mission.util.loopState ≠ .loopOpen then
    return rxError .copErr (setUtil tf { tf.mission.util with bufferedLength := 0 })
  else if tf.frameData.dataLen + tf.mission.util.bufferedLength > tf.mission.maxSduLen then
    return rxError .copErr
      (setUtil tf { tf.mission.util with bufferedLength := 0, loopState := .loopClosed })
  else next

/-- SOURCE: osdlp_tc.c:255-284 -/
def receiveLastSegCopies (hooks : RxHooks) (farmRet : FarmResult) (tf : FarmFrame) :
    TcCopies TcReceived :=
  let util := tf.mission.util
  receiveInLoopCopies (do
    let buffer ← copyToUtil tf util.bufferedLength
    return rxOffer hooks farmRet (buffer.take (util.bufferedLength + tf.frameData.dataLen))
      (setUtil tf { util with buffer := buffer, loopState := .loopClosed })) tf

/-- SOURCE: osdlp_tc.c:285-302 -/
def receiveContSegCopies (tf : FarmFrame) : TcCopies TcReceived :=
  let util := tf.mission.util
  receiveInLoopCopies (do
    let buffer ← copyToUtil tf util.bufferedLength
    return rxDone (setUtil tf
      { util with
        buffer := buffer
        bufferedLength := u16 (util.bufferedLength + tf.frameData.dataLen) })) tf

/-- SOURCE: osdlp_tc.c:304-329 -/
def receiveWholeCopies (hooks : RxHooks) (farmRet : FarmResult) (tf : FarmFrame) :
    TcCopies TcReceived :=
  if tf.frameData.dataLen > tf.mission.maxSduLen then
    return rxError .copErr
      (setUtil tf { tf.mission.util with bufferedLength := 0, loopState := .loopClosed })
  else do
    let buffer ← copyToUtil tf 0
    return rxOffer hooks farmRet (buffer.take tf.frameData.dataLen)
      (setUtil tf { buffer := buffer, bufferedLength := 0, loopState := .loopClosed })

/-- SOURCE: osdlp_tc.c:215-329 -/
def receiveDataCopies (hooks : RxHooks) (farmRet : FarmResult) (tf : FarmFrame) :
    TcCopies TcReceived :=
  if tf.mission.segHdrFlag then
    match tf.frameData.segHdr.seqFlag with
    | .unseg => receiveUnsegCopies hooks farmRet tf
    | .firstSeg => receiveFirstSegCopies tf
    | .lastSeg => receiveLastSegCopies hooks farmRet tf
    | .contSeg => receiveContSegCopies tf
  else receiveWholeCopies hooks farmRet tf

/-- SOURCE: osdlp_tc.c:209-338 -/
def receiveFarmedCopies (hooks : RxHooks) (farmRet : FarmResult) (tf : FarmFrame) :
    TcCopies TcReceived :=
  match farmRet with
  | .enq | .priorityEnq => receiveDataCopies hooks farmRet tf
  | .error =>
    return rxError .copErr
      (setUtil tf { tf.mission.util with bufferedLength := 0, loopState := .loopClosed })
  | .ok => return rxDone tf
  | .discard => return rxError .copErr tf

/-- SOURCE: osdlp_tc.c:185-339 -/
def tcReceiveCopies (hooks : RxHooks) (tf : FarmFrame) (rxBuffer : List UInt8) (length : ℕ) :
    TcCopies TcReceived :=
  if rxFrameLen rxBuffer + 1 > length ∨ length < 5 then return rxError .frameLenErr tf
  else if hooks.config < 0 then return rxError .configErr tf
  else
    let tf := osdlpTcUnpack tf rxBuffer
    if osdlpFrameValidationCheck tf rxBuffer < 0 then return rxError .frameValErr tf
    else
      let farm := osdlpFarm1 hooks.rxFull tf
      receiveFarmedCopies hooks farm.1 farm.2

/-! ## The same values -/

/-- The log changes nothing of the reassembly. -/
theorem value_receiveDataCopies (hooks : RxHooks) (farmRet : FarmResult) (tf : FarmFrame) :
    (receiveDataCopies hooks farmRet tf).value = receiveData hooks farmRet tf := by
  unfold receiveDataCopies receiveData
  split_ifs
  · cases tf.frameData.segHdr.seqFlag with
    | unseg =>
      unfold receiveUnsegCopies receiveUnseg
      rw [Traced.value_ite]
      rfl
    | firstSeg =>
      unfold receiveFirstSegCopies receiveFirstSeg
      rw [Traced.value_ite, Traced.value_ite]
      rfl
    | lastSeg =>
      unfold receiveLastSegCopies receiveLastSeg receiveInLoopCopies receiveInLoop
      rw [Traced.value_ite, Traced.value_ite]
      rfl
    | contSeg =>
      unfold receiveContSegCopies receiveContSeg receiveInLoopCopies receiveInLoop
      rw [Traced.value_ite, Traced.value_ite]
      rfl
  · unfold receiveWholeCopies receiveWhole
    rw [Traced.value_ite]
    rfl

/-- The log changes nothing of what follows the FARM. -/
theorem value_receiveFarmedCopies (hooks : RxHooks) (farmRet : FarmResult) (tf : FarmFrame) :
    (receiveFarmedCopies hooks farmRet tf).value = receiveFarmed hooks farmRet tf := by
  cases farmRet with
  | enq => exact value_receiveDataCopies hooks .enq tf
  | priorityEnq => exact value_receiveDataCopies hooks .priorityEnq tf
  | ok => rfl
  | discard => rfl
  | error => rfl

/-- The logged function computes what the modelled one does. -/
theorem value_tcReceiveCopies (hooks : RxHooks) (tf : FarmFrame) (rxBuffer : List UInt8)
    (length : ℕ) :
    (tcReceiveCopies hooks tf rxBuffer length).value =
      osdlpTcReceive hooks tf rxBuffer length := by
  unfold tcReceiveCopies osdlpTcReceive
  simp only [Traced.value_ite, Traced.value_pure, value_receiveFarmedCopies]

end Osdlp.Interface
