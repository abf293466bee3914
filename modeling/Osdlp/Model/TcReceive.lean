import Osdlp.Model.Farm
import Osdlp.Model.TcFrame

/-!
# Reception of a telecommand frame

`osdlp_tc_receive` (osdlp_tc.c:185-339): delimiting, validation, FARM-1, and the reassembly
of segmented data in the utility buffer.  `RxHooks` holds what the hooks answer during one
call; the queue is called once at most, and `offer` is what it is called with.
-/

set_option autoImplicit false

namespace Osdlp.Model

open Osdlp.Library

/-- The answers of `osdlp_tc_get_rx_config`, `osdlp_tc_rx_queue_full`,
`osdlp_tc_rx_queue_enqueue` and `osdlp_tc_rx_queue_enqueue_now`. -/
structure RxHooks where
  config : Int
  rxFull : Bool
  enqueue : Int
  enqueueNow : Int
  deriving DecidableEq, Repr

/-- What a call hands to the receive queue. -/
structure Offer where
  now : Bool
  sdu : List UInt8
  deriving DecidableEq, Repr

/-- What a call returns, and what it does. -/
structure TcReceived where
  code : Int
  tf : FarmFrame
  offer : Option Offer
  deriving DecidableEq, Repr

/-- Replaces the utility buffer. -/
def setUtil (tf : FarmFrame) (util : TcUtilBuf) : FarmFrame :=
  { tf with mission := { tf.mission with util := util } }

@[simp] theorem setUtil_copCfg (tf : FarmFrame) (util : TcUtilBuf) :
    (setUtil tf util).copCfg = tf.copCfg := rfl

@[simp] theorem setUtil_util (tf : FarmFrame) (util : TcUtilBuf) :
    (setUtil tf util).mission.util = util := rfl

/-- The utility buffer with the data field copied to an offset. -/
def copiedTo (tf : FarmFrame) (off : ℕ) : List UInt8 :=
  memWrite tf.mission.util.buffer off tf.frameData.payload

/-- A call that ends with an error. -/
def rxError (err : TcRxResult) (tf : FarmFrame) : TcReceived :=
  { code := -err.code, tf := tf, offer := none }

/-- A call that ends well without an SDU. -/
def rxDone (tf : FarmFrame) : TcReceived := { code := TcRxResult.ok.code, tf := tf, offer := none }

/-- The call ends with the answer of the receive queue to an SDU.
SOURCE: osdlp_tc.c:226-239, 272-284, 314-329 -/
def rxOffer (hooks : RxHooks) (farmRet : FarmResult) (sdu : List UInt8) (tf : FarmFrame) :
    TcReceived :=
  let ret := if farmRet = .enq then hooks.enqueue else hooks.enqueueNow
  { code := if ret < 0 then -TcRxResult.queueErr.code else TcRxResult.ok.code
    tf := tf
    offer := some { now := farmRet ≠ .enq, sdu := sdu } }

/-- SOURCE: osdlp_tc.c:217-239 -/
def receiveUnseg (hooks : RxHooks) (farmRet : FarmResult) (tf : FarmFrame) : TcReceived :=
  if tf.frameData.dataLen > tf.mission.maxDataLen then rxError .copErr tf
  else
    let buffer := copiedTo tf 0
    rxOffer hooks farmRet (buffer.take tf.frameData.dataLen)
      (setUtil tf { buffer := buffer, bufferedLength := 0, loopState := .loopClosed })

/-- SOURCE: osdlp_tc.c:240-254 -/
def receiveFirstSeg (tf : FarmFrame) : TcReceived :=
  if tf.mission.util.loopState ≠ .loopClosed then
    rxError .copErr
      (setUtil tf { tf.mission.util with bufferedLength := 0, loopState := .loopClosed })
  else if tf.frameData.dataLen > tf.mission.maxDataLen then
    rxError .copErr (setUtil tf { tf.mission.util with bufferedLength := tf.frameData.dataLen })
  else
    rxDone (setUtil tf
      { buffer := copiedTo tf 0
        bufferedLength := tf.frameData.dataLen
        loopState := .loopOpen })

/-- The check that LAST and CONT segments share; `next` gets the frame if it passes.
SOURCE: osdlp_tc.c:256-266, 286-296 -/
def receiveInLoop (next : TcReceived) (tf : FarmFrame) : TcReceived :=
  if tf.mission.util.loopState ≠ .loopOpen then
    rxError .copErr (setUtil tf { tf.mission.util with bufferedLength := 0 })
  else if tf.frameData.dataLen + tf.mission.util.bufferedLength > tf.mission.maxSduLen then
    rxError .copErr
      (setUtil tf { tf.mission.util with bufferedLength := 0, loopState := .loopClosed })
  else next

/-- SOURCE: osdlp_tc.c:255-284 -/
def receiveLastSeg (hooks : RxHooks) (farmRet : FarmResult) (tf : FarmFrame) : TcReceived :=
  let util := tf.mission.util
  let buffer := copiedTo tf util.bufferedLength
  receiveInLoop (rxOffer hooks farmRet (buffer.take (util.bufferedLength + tf.frameData.dataLen))
    (setUtil tf { util with buffer := buffer, loopState := .loopClosed })) tf

/-- SOURCE: osdlp_tc.c:285-302 -/
def receiveContSeg (tf : FarmFrame) : TcReceived :=
  let util := tf.mission.util
  receiveInLoop (rxDone (setUtil tf
    { util with
      buffer := copiedTo tf util.bufferedLength
      bufferedLength := u16 (util.bufferedLength + tf.frameData.dataLen) })) tf

/-- SOURCE: osdlp_tc.c:304-329 -/
def receiveWhole (hooks : RxHooks) (farmRet : FarmResult) (tf : FarmFrame) : TcReceived :=
  if tf.frameData.dataLen > tf.mission.maxSduLen then
    rxError .copErr
      (setUtil tf { tf.mission.util with bufferedLength := 0, loopState := .loopClosed })
  else
    let buffer := copiedTo tf 0
    rxOffer hooks farmRet (buffer.take tf.frameData.dataLen)
      (setUtil tf { buffer := buffer, bufferedLength := 0, loopState := .loopClosed })

/-- What becomes of the data of a frame that FARM-1 has accepted.
SOURCE: osdlp_tc.c:215-329 -/
def receiveData (hooks : RxHooks) (farmRet : FarmResult) (tf : FarmFrame) : TcReceived :=
  if tf.mission.segHdrFlag then
    match tf.frameData.segHdr.seqFlag with
    | .unseg => receiveUnseg hooks farmRet tf
    | .firstSeg => receiveFirstSeg tf
    | .lastSeg => receiveLastSeg hooks farmRet tf
    | .contSeg => receiveContSeg tf
  else receiveWhole hooks farmRet tf

/-- What becomes of a frame after FARM-1.
SOURCE: osdlp_tc.c:209-338 -/
def receiveFarmed (hooks : RxHooks) (farmRet : FarmResult) (tf : FarmFrame) : TcReceived :=
  match farmRet with
  | .enq | .priorityEnq => receiveData hooks farmRet tf
  | .error =>
    rxError .copErr
      (setUtil tf { tf.mission.util with bufferedLength := 0, loopState := .loopClosed })
  | .ok => rxDone tf
  | .discard => rxError .copErr tf

/-- The length field of a frame.
SOURCE: osdlp_tc.c:190-191 -/
def rxFrameLen (rxBuffer : List UInt8) : ℕ :=
  (rxBuffer.getD 2 0 &&& 0x03).toNat * 256 + (rxBuffer.getD 3 0).toNat

/-- The length field as `osdlp_tc_receive` reads it is the one that `osdlp_tc_unpack` reads. -/
theorem rxFrameLen_eq (rxBuffer : List UInt8) :
    rxFrameLen rxBuffer = (tcUnpackHdr rxBuffer).frameLen.toNat := by
  have hhigh : (rxBuffer.getD 2 0 &&& 0x03).toNat < 4 := by
    rw [UInt8.toNat_and]
    exact Nat.lt_of_le_of_lt Nat.and_le_right (by decide)
  have hlow := (rxBuffer.getD 3 0).toNat_lt
  unfold rxFrameLen tcUnpackHdr
  rw [BitVec.toNat_ofNat]
  omega

/-- SOURCE: osdlp_tc.c:185-339.  `tf` is what `osdlp_tc_get_rx_config` points to. -/
def osdlpTcReceive (hooks : RxHooks) (tf : FarmFrame) (rxBuffer : List UInt8) (length : ℕ) :
    TcReceived :=
  if rxFrameLen rxBuffer + 1 > length ∨ length < 5 then rxError .frameLenErr tf
  else if hooks.config < 0 then rxError .configErr tf
  else
    let tf := osdlpTcUnpack tf rxBuffer
    if osdlpFrameValidationCheck tf rxBuffer < 0 then rxError .frameValErr tf
    else
      let farm := osdlpFarm1 hooks.rxFull tf
      receiveFarmed hooks farm.1 farm.2

end Osdlp.Model
