import Osdlp.Model.Fop

/-!
# Transmission of a telecommand SDU

`osdlp_tc_transmit` (osdlp_tc.c:342-426) cuts an SDU into segments and hands each to
`osdlp_req_transfer_fdu`.  What is left of the SDU after an interruption is kept in
`seg_status`.  The loop takes the number of its rounds and yields `none` where it is used up;
a round sends at least one octet where `max_data_len` is not zero, by which the source divides.
-/

set_option autoImplicit false

namespace Osdlp.Model

open Osdlp.Library

/-- `tc_tx_result_t` -/
inductive TcTxResult
  | ok
  | queueFullErr
  | delay
  | copErr
  deriving DecidableEq, Repr, Inhabited

/-- The numeric value of `tc_tx_result_t`. -/
def TcTxResult.code : TcTxResult → Int
  | .ok => 0
  | .queueFullErr => 1
  | .delay => 2
  | .copErr => 3

variable {W : Type}

/-- The octets of the next segment.
SOURCE: osdlp_tc.c:353-357 -/
def bytesAvail (m : TcMissionParams) (remaining : ℕ) : ℕ :=
  if remaining / m.maxDataLen > 0 then m.maxDataLen else remaining

/-- The sequence flag of the next segment.
SOURCE: osdlp_tc.c:360-372 -/
def nextSeqFlag (m : TcMissionParams) (flag : SegStatus) (remaining : ℕ) : TcSeqFlag :=
  match flag with
  | .inProgress => if remaining > m.maxDataLen then .contSeg else .lastSeg
  | .ended => if remaining ≤ bytesAvail m remaining then .unseg else .firstSeg

/-- The offset of the next segment in the buffer, a difference of 32-bit numbers.
SOURCE: osdlp_tc.c:377 -/
def segmentOffset (length remaining : ℕ) : ℕ := (((length : ℤ) - remaining) % 2 ^ 32).toNat

/-- The difference does not wrap where no more is left than there was. -/
theorem segmentOffset_of_le {length remaining : ℕ} (hle : remaining ≤ length)
    (hlen : length < 2 ^ 32) : segmentOffset length remaining = length - remaining := by
  unfold segmentOffset
  omega

/-- The frame structure with the next segment of the SDU.
SOURCE: osdlp_tc.c:353-377 -/
def nextSegment (tf : FopFrame) (buffer : List UInt8) (length remaining : ℕ) : FopFrame :=
  let avail := bytesAvail tf.mission remaining
  { tf with
    primaryHdr :=
      { tf.primaryHdr with
        frameLen := BitVec.ofNat 10 (u16 (tf.mission.fixedOverheadLen + avail - 1)) }
    frameData :=
      { segHdr :=
          { tf.frameData.segHdr with
            seqFlag := nextSeqFlag tf.mission tf.segStatus.flag remaining }
        data := buffer.drop (segmentOffset length remaining)
        dataLen := avail } }

/-- `seg_status` when `remaining` octets are left.
SOURCE: osdlp_tc.c:394-400, 404-410 -/
def segProgress (length remaining : ℕ) : SegmentStatus :=
  if remaining = 0 then { flag := .ended, octetsTxed := 0 }
  else { flag := .inProgress, octetsTxed := u16 (length - remaining) }

/-- Writes `seg_status`. -/
def setSegStatus (status : SegmentStatus) : FopM W Unit :=
  modify fun s => { s with tf := { s.tf with segStatus := status } }

/-- A call that gives the SDU up.
SOURCE: osdlp_tc.c:388-392, 412-421 -/
def giveUpSdu (notif : Notification) : FopM W Int := do
  setSegStatus { flag := .ended, octetsTxed := 0 }
  let _ ← answer notif
  return -TcTxResult.copErr.code

/-- The loop of `osdlp_tc_transmit`.  `full` is `osdlp_tc_tx_queue_full`, and `req` is
`osdlp_req_transfer_fdu`.
SOURCE: osdlp_tc.c:352-425 -/
def tcTransmitLoop (full : FopM W Bool) (req : FopM W Notification) (buffer : List UInt8)
    (length : ℕ) : ℕ → ℕ → FopM W (Option Int)
  | 0, _ => return none
  | rounds + 1, remaining =>
    if remaining = 0 then do
      let _ ← answer .acceptTx
      return some TcTxResult.ok.code
    else do
      let s ← get
      set { s with tf := nextSegment s.tf buffer length remaining }
      let isFull ← full
      if isFull then
        let _ ← answer .rejectTx
        return some (-TcTxResult.copErr.code)
      else
        let notif ← req
        let left := remaining - bytesAvail s.tf.mission remaining
        match notif with
        | .rejectTx => some <$> giveUpSdu .rejectTx
        | .delayResp =>
          setSegStatus (segProgress length left)
          return some (-TcTxResult.delay.code)
        | .acceptTx | .ignore =>
          setSegStatus (segProgress length left)
          tcTransmitLoop full req buffer length rounds left
        | _ => some <$> giveUpSdu .undefError

/-- The octets of the SDU that have not been handed over.
SOURCE: osdlp_tc.c:346-351 -/
def remainingOctets (status : SegmentStatus) (length : ℕ) : ℕ :=
  match status.flag with
  | .inProgress => u16 (length - status.octetsTxed)
  | .ended => u16 length

/-- SOURCE: osdlp_tc.c:342-426 -/
def osdlpTcTransmit (full : FopM W Bool) (req : FopM W Notification) (rounds : ℕ)
    (buffer : List UInt8) (length : ℕ) : FopM W (Option Int) := do
  let s ← get
  tcTransmitLoop full req buffer length rounds (remainingOctets s.tf.segStatus length)

/-! ## The user's requests -/

/-- The frame structure set up for data.
SOURCE: osdlp_tc.c:428-448 -/
def prepareDataFrame (bypass : TcBypass) (buffer : List UInt8) (len : ℕ) (mapid : UInt8)
    (tf : FopFrame) : FopFrame :=
  { tf with
    primaryHdr := { tf.primaryHdr with bypass := bypass, ctrlCmd := .data }
    frameData :=
      { segHdr := { tf.frameData.segHdr with mapId := BitVec.ofNat 6 mapid.toNat }
        data := buffer
        dataLen := len } }

/-- SOURCE: osdlp_tc.c:428-437 -/
def osdlpPrepareTypeaDataFrame (buffer : List UInt8) (len : ℕ) (mapid : UInt8) :
    FopFrame → FopFrame :=
  prepareDataFrame .typeA buffer len mapid

/-- SOURCE: osdlp_tc.c:439-448 -/
def osdlpPrepareTypebDataFrame (buffer : List UInt8) (len : ℕ) (mapid : UInt8) :
    FopFrame → FopFrame :=
  prepareDataFrame .typeB buffer len mapid

end Osdlp.Model
