import Osdlp.Model.TmTransmit

/-!
# Reception of telemetry

`osdlp_tm_receive` (osdlp_tm.c:416-772).  `delivered` is what has been handed to
`osdlp_tm_rx_queue_enqueue` and taken, each time the whole utility buffer: the hook is given
no length.  `answers` says what its coming calls return, which then accept for ever.
-/

set_option autoImplicit false

namespace Osdlp.Model

open Osdlp.Library

/-- A telemetry receiver with its receive queue. -/
structure TmReceiver where
  tf : TmTransferFrame
  delivered : List (List UInt8)
  answers : List Int
  deriving DecidableEq, Repr

/-- Replaces the utility buffer. -/
def TmReceiver.setUtil (r : TmReceiver) (util : TmUtilBuf) : TmReceiver :=
  { r with tf := { r.tf with mission := { r.tf.mission with util := util } } }

@[simp] theorem TmReceiver.setUtil_util (r : TmReceiver) (util : TmUtilBuf) :
    (r.setUtil util).tf.mission.util = util := rfl

/-- `osdlp_tm_rx_queue_enqueue` on the utility buffer -/
def osdlpTmRxQueueEnqueue (r : TmReceiver) : Int × TmReceiver :=
  let accepted := { r with delivered := r.delivered ++ [r.tf.mission.util.buffer] }
  match r.answers with
  | [] => (0, accepted)
  | ret :: rest =>
    if ret < 0 then (ret, { r with answers := rest }) else (ret, { accepted with answers := rest })

/-- The utility buffer is closed, offered to the receive queue, and the answer returned.
SOURCE: osdlp_tm.c:434-443, 470-478 -/
def deliverUtil (r : TmReceiver) (util : TmUtilBuf) : TmRxResult × TmReceiver :=
  let sent := osdlpTmRxQueueEnqueue
    (r.setUtil { util with loopState := .loopClosed, bufferedLength := 0 })
  if sent.1 < 0 then (.denied, sent.2) else (.ok, sent.2)

/-- The loop is closed after an error. -/
def closeLoop (r : TmReceiver) : TmReceiver :=
  r.setUtil { r.tf.mission.util with loopState := .loopClosed, bufferedLength := 0 }

/-! ## Stuffing off -/

/-- SOURCE: osdlp_tm.c:416-445 -/
def handleNsPtrZero (getPacketLen : GetPacketLen) (r : TmReceiver) : TmRxResult × TmReceiver :=
  let m := r.tf.mission
  match getPacketLen r.tf.data m.maxDataLen with
  | none => (.error, r)
  | some length =>
    let util := { m.util with expectedPktLen := length.toNat }
    if length.toNat > m.maxDataLen then
      (.pending, r.setUtil
        { util with
          buffer := memWrite util.buffer 0 (r.tf.data.take m.maxDataLen)
          loopState := .loopOpen
          bufferedLength := m.maxDataLen })
    else
      deliverUtil r { util with buffer := memWrite util.buffer 0 (r.tf.data.take length.toNat) }

/-- The octets of the data field that continue a packet.
SOURCE: osdlp_tm.c:454-460 -/
def usableLen (tf : TmTransferFrame) : ℕ :=
  if tf.primaryHdr.firstHdrPtr = tmFirstHdrPtrNoPktStart then tf.mission.maxDataLen
  else tf.primaryHdr.firstHdrPtr.toNat

/-- A packet is continued, and delivered if it is complete.
SOURCE: osdlp_tm.c:461-484, 601-627 -/
def continuePacket (r : TmReceiver) (usableLen : ℕ) : TmRxResult × TmReceiver :=
  let util := r.tf.mission.util
  if util.bufferedLength + usableLen > r.tf.mission.maxSduLen then (.error, closeLoop r)
  else
    let buffer := memWrite util.buffer util.bufferedLength (r.tf.data.take usableLen)
    if util.bufferedLength + usableLen = util.expectedPktLen then
      deliverUtil r { util with buffer := buffer }
    else
      (.pending, r.setUtil
        { util with
          buffer := buffer
          bufferedLength := u16 (util.bufferedLength + usableLen) })

/-- SOURCE: osdlp_tm.c:447-485 -/
def handleNsPtrPositive (r : TmReceiver) : TmRxResult × TmReceiver :=
  if r.tf.mission.util.loopState = .loopClosed then (.error, r)
  else continuePacket r (usableLen r.tf)

/-- SOURCE: osdlp_tm.c:487-502 -/
def handleRxNoStuffing (getPacketLen : GetPacketLen) (r : TmReceiver) : TmRxResult × TmReceiver :=
  if r.tf.primaryHdr.firstHdrPtr = 0 then handleNsPtrZero getPacketLen r
  else handleNsPtrPositive r

/-! ## Stuffing on -/

/-- The packets of a data field from an offset on; `fuel` bounds their number.
SOURCE: osdlp_tm.c:511-555, 682-726 -/
def explorePackets (getPacketLen : GetPacketLen) :
    ℕ → ℕ → TmReceiver → Option (TmRxResult × TmReceiver)
  | 0, _, _ => none
  | fuel + 1, bytesExplored, r =>
    let m := r.tf.mission
    let data := r.tf.data.drop bytesExplored
    let rest := u16 (m.maxDataLen - bytesExplored : ℤ)
    let tail := memWrite m.util.buffer 0 (data.take rest)
    if r.tf.data.getD bytesExplored 0 = tmIdlePacket then
      some (.ok, r.setUtil
        { m.util with loopState := .loopClosed, bufferedLength := 0, expectedPktLen := 0 })
    else
      match getPacketLen data rest with
      | none =>
        some (.pending, r.setUtil
          { buffer := tail, loopState := .loopOpen, bufferedLength := rest, expectedPktLen := 0 })
      | some length =>
        if length.toNat + bytesExplored > m.maxDataLen then
          some (.pending, r.setUtil
            { buffer := tail
              loopState := .loopOpen
              bufferedLength := rest
              expectedPktLen := length.toNat })
        else
          let sent := osdlpTmRxQueueEnqueue (r.setUtil
            { buffer := memWrite m.util.buffer 0 (data.take length.toNat)
              loopState := .loopClosed
              bufferedLength := 0
              expectedPktLen := 0 })
          if sent.1 < 0 then some (.denied, sent.2)
          else if u16 (bytesExplored + length.toNat) = m.maxDataLen then some (.ok, sent.2)
          else explorePackets getPacketLen fuel (u16 (bytesExplored + length.toNat)) sent.2

/-- SOURCE: osdlp_tm.c:504-556 -/
def handleSPtrZero (getPacketLen : GetPacketLen) (fuel : ℕ) (r : TmReceiver) :
    Option (TmRxResult × TmReceiver) :=
  explorePackets getPacketLen fuel 0 r

/-- SOURCE: osdlp_tm.c:558-628 -/
def handleSPtrNopkt (getPacketLen : GetPacketLen) (r : TmReceiver) : TmRxResult × TmReceiver :=
  let m := r.tf.mission
  let util := m.util
  if util.loopState = .loopClosed then (.error, r)
  else if util.expectedPktLen = 0 then
    if util.bufferedLength + m.maxDataLen < m.maxSduLen then
      let buffer := memWrite util.buffer util.bufferedLength (r.tf.data.take m.maxDataLen)
      match getPacketLen buffer (u16 (m.maxDataLen + util.bufferedLength)) with
      | some length =>
        if m.maxDataLen + util.bufferedLength = length.toNat then
          deliverUtil r { util with buffer := buffer }
        else
          -- the length is known now, but `expected_pkt_len` is not set
          (.pending, r.setUtil
            { util with
              buffer := buffer
              bufferedLength := u16 (util.bufferedLength + m.maxDataLen) })
      | none => continuePacket (r.setUtil { util with buffer := buffer }) m.maxDataLen
    else (.error, closeLoop r)
  else continuePacket r m.maxDataLen

/-- The end of the packet that a frame begins with, for `handle_s_ptr_positive`; a refusal by
the receive queue ends the call.
SOURCE: osdlp_tm.c:637-680 -/
def finishPacket (getPacketLen : GetPacketLen) (r : TmReceiver) : Option TmRxResult × TmReceiver :=
  let m := r.tf.mission
  let util := m.util
  let ptr := r.tf.primaryHdr.firstHdrPtr.toNat
  let buffer := memWrite util.buffer util.bufferedLength (r.tf.data.take ptr)
  if util.loopState = .loopClosed then (none, r)
  else if util.expectedPktLen = 0 then
    if util.bufferedLength + ptr < m.maxSduLen then
      match getPacketLen buffer (u16 (ptr + util.bufferedLength)) with
      | some length =>
        if ptr + util.bufferedLength = length.toNat then
          let sent := deliverUtil r { util with buffer := buffer }
          (if sent.1 = .denied then some .denied else none, sent.2)
        else
          (none, r.setUtil
            { buffer := buffer, loopState := .loopClosed, bufferedLength := 0, expectedPktLen := 0 })
      | none => (none, r.setUtil { util with buffer := buffer })
    else (none, r)
  else if ptr + util.bufferedLength = util.expectedPktLen then
    let sent := deliverUtil r { util with buffer := buffer }
    (if sent.1 = .denied then some .denied else none, sent.2)
  else (none, r)

/-- SOURCE: osdlp_tm.c:630-727 -/
def handleSPtrPositive (getPacketLen : GetPacketLen) (fuel : ℕ) (r : TmReceiver) :
    Option (TmRxResult × TmReceiver) :=
  match finishPacket getPacketLen r with
  | (some result, r) => some (result, r)
  | (none, r) => explorePackets getPacketLen fuel r.tf.primaryHdr.firstHdrPtr.toNat r

/-- SOURCE: osdlp_tm.c:729-746 -/
def handleRxStuffing (getPacketLen : GetPacketLen) (fuel : ℕ) (r : TmReceiver) :
    Option (TmRxResult × TmReceiver) :=
  if r.tf.primaryHdr.firstHdrPtr = 0 then handleSPtrZero getPacketLen fuel r
  else if r.tf.primaryHdr.firstHdrPtr = tmFirstHdrPtrNoPktStart then
    some (handleSPtrNopkt getPacketLen r)
  else handleSPtrPositive getPacketLen fuel r

/-- `rxConfig` is what `osdlp_tm_get_rx_config` returns, and `r` what it points to.
SOURCE: osdlp_tm.c:748-772 -/
def osdlpTmReceive (getPacketLen : GetPacketLen) (fuel : ℕ) (rxConfig : Int) (r : TmReceiver)
    (dataIn : List UInt8) : Option (Int × TmReceiver) :=
  if rxConfig < 0 then some (rxConfig, r)
  else
    let r := { r with tf := osdlpTmUnpack r.tf dataIn }
    if osdlpCalcCrc dataIn (r.tf.mission.frameLen - 2) ≠ r.tf.crc then
      some (-TmRxResult.wrongCrc.code, r)
    else if r.tf.primaryHdr.firstHdrPtr = tmFirstHdrPtrOid then some (TmRxResult.oid.code, r)
    else
      let handled :=
        match r.tf.mission.stuffState with
        | .stuffingOff => some (handleRxNoStuffing getPacketLen r)
        | .stuffingOn => handleRxStuffing getPacketLen fuel r
      handled.map fun result => (-result.1.code, result.2)

end Osdlp.Model
