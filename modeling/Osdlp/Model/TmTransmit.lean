import Osdlp.Model.Tm

/-!
# Transmission of telemetry

`osdlp_tm_transmit` (osdlp_tm.c:226-414) and `osdlp_tm_transmit_idle_fdu`.  The transmission
queue is a list whose items are the first `frame_len` octets of what is enqueued; the last
item is rewritten in place when a packet is stuffed into it.  `answers` says what the coming
calls of `osdlp_tm_tx_queue_enqueue` return, which then accept for ever.
-/

set_option autoImplicit false

namespace Osdlp.Model

open Osdlp.Library

/-- `osdlp_tm_get_packet_len`: the length of the packet that a buffer starts with, if it can
be told from that many octets. -/
abbrev GetPacketLen := List UInt8 → ℕ → Option UInt16

/-- A telemetry sender with its transmission queue. -/
structure TmSender where
  tf : TmTransferFrame
  queue : List (List UInt8)
  answers : List Int
  deriving DecidableEq, Repr

/-- `osdlp_tm_tx_queue_enqueue` -/
def osdlpTmTxQueueEnqueue (s : TmSender) (pkt : List UInt8) : Int × TmSender :=
  let accepted := { s with queue := s.queue ++ [region pkt 0 s.tf.mission.frameLen] }
  match s.answers with
  | [] => (0, accepted)
  | ret :: rest =>
    if ret < 0 then (ret, { s with answers := rest }) else (ret, { accepted with answers := rest })

/-- The loop of `eval_residue_len`, from the offset `residueLen` on; `fuel` bounds its rounds.
SOURCE: osdlp_tm.c:245-263 -/
def evalResidueLoop (getPacketLen : GetPacketLen) (m : TmMissionParams) (lastPkt : List UInt8) :
    ℕ → ℕ → Option ℕ
  | 0, _ => none
  | fuel + 1, residueLen =>
    if residueLen ≤ m.maxDataLen then
      match getPacketLen (lastPkt.drop (m.headerLen + residueLen)) m.maxDataLen with
      | none => some 0
      | some pktLen =>
        let next := u16 (residueLen + pktLen.toNat)
        -- the header length belongs to frame coordinates, the residue to the data field
        if pktLen.toNat + m.headerLen + residueLen ≥ m.maxDataLen then some next
        else if lastPkt.getD (m.headerLen + next) 0 = tmIdlePacket then some next
        else evalResidueLoop getPacketLen m lastPkt fuel next
    else some residueLen

/-- SOURCE: osdlp_tm.c:226-271 -/
def evalResidueLen (getPacketLen : GetPacketLen) (fuel : ℕ) (m : TmMissionParams)
    (lastPkt : List UInt8) : Option ℕ :=
  let firstHdrPtr := tmFirstHdrPtr lastPkt
  if firstHdrPtr ≠ tmFirstHdrPtrNoPktStart ∧ firstHdrPtr ≠ tmFirstHdrPtrOid then
    if lastPkt.getD (m.headerLen + firstHdrPtr.toNat) 0 = tmIdlePacket then some firstHdrPtr.toNat
    else evalResidueLoop getPacketLen m lastPkt fuel firstHdrPtr.toNat
  else if firstHdrPtr = tmFirstHdrPtrOid then some 0
  else some m.maxDataLen

/-- SOURCE: osdlp_tm.c:189-201 -/
def packCrc (m : TmMissionParams) (pkt : List UInt8) : List UInt8 :=
  if m.crcPresent then (tmWriteCrc m.frameLen pkt).1 else pkt

/-- The rewritten last frame, and what remains of the packet.
SOURCE: osdlp_tm.c:273-304 -/
def handlePktStuffing (m : TmMissionParams) (numPackets : ℕ) (lastPkt dataIn : List UInt8)
    (length residueLen : ℕ) : List UInt8 × ℕ :=
  if numPackets = 1 then
    let leftoverSpace := u16 (m.maxDataLen - length - residueLen : ℤ)
    let pkt := memWrite lastPkt (m.headerLen + residueLen) (dataIn.take length)
    let pkt :=
      if leftoverSpace > 0 then
        memWrite pkt (m.headerLen + residueLen + length)
          (List.replicate leftoverSpace tmIdlePacket)
      else pkt
    (packCrc m pkt, 0)
  else
    let chunkSize := u16 (m.maxDataLen - residueLen : ℤ)
    let pkt := memWrite lastPkt (m.headerLen + residueLen) (dataIn.take chunkSize)
    (packCrc m pkt, u16 (length - chunkSize : ℤ))

/-- The frames that so many octets need, which is one at least.
SOURCE: osdlp_tm.c:336-341, 343-348, 355-360 -/
def numPacketsFor (m : TmMissionParams) (len : ℕ) : ℕ :=
  if len / m.maxDataLen = 0 ∨ len % m.maxDataLen ≠ 0 then len / m.maxDataLen + 1
  else len / m.maxDataLen

/-- The first header pointer of the next frame.
SOURCE: osdlp_tm.c:371-380 -/
def nextFirstHdrPtr (m : TmMissionParams) (length remainingLen : ℕ) : BitVec 11 :=
  if length = remainingLen then 0
  else if remainingLen ≥ m.maxDataLen then tmFirstHdrPtrNoPktStart
  else BitVec.ofNat 11 remainingLen

/-- The utility state after a packet has been handed over, or an abort.
SOURCE: osdlp_tm.c:203-208, 411-412 -/
def osdlpAbortSegmentation (tf : TmTransferFrame) : TmTransferFrame :=
  { tf with mission := { tf.mission with util := { tf.mission.util with
    loopState := .loopClosed, bufferedLength := 0 } } }

/-- Writes the state of stuffing. -/
def setStuffing (state : TmStuffState) (tf : TmTransferFrame) : TmTransferFrame :=
  { tf with mission := { tf.mission with stuffState := state } }

/-- SOURCE: osdlp_tm.c:210-214 -/
def osdlpDisablePacketStuffing : TmTransferFrame → TmTransferFrame := setStuffing .stuffingOff

/-- SOURCE: osdlp_tm.c:216-220 -/
def osdlpEnablePacketStuffing : TmTransferFrame → TmTransferFrame := setStuffing .stuffingOn

/-- The counters and the first header pointer of the next frame.
SOURCE: osdlp_tm.c:371-397 -/
def nextTmFrame (tf : TmTransferFrame) (length remainingLen : ℕ) : TmTransferFrame :=
  let hdr := tf.primaryHdr
  { tf with
    primaryHdr :=
      { hdr with
        firstHdrPtr := nextFirstHdrPtr tf.mission length remainingLen
        mcFrameCnt := if hdr.mcFrameCnt < 255 then hdr.mcFrameCnt + 1 else 0
        vcFrameCnt := if hdr.vcFrameCnt < 255 then hdr.vcFrameCnt + 1 else 0 } }

/-- The frame is packed into the utility buffer.
SOURCE: osdlp_tm.c:399-400, 779-780 -/
def packIntoUtil (tf : TmTransferFrame) (data : List UInt8) (bytesAvail : ℕ) : TmTransferFrame :=
  let packed := osdlpTmPack tf tf.mission.util.buffer data bytesAvail
  { packed.2 with mission := { packed.2.mission with util := { packed.2.mission.util with
    buffer := packed.1 } } }

/-- The rest of the packet goes into new frames.
SOURCE: osdlp_tm.c:367-413 -/
def transmitLoop (dataIn : List UInt8) (length : ℕ) : ℕ → ℕ → TmSender → Int × TmSender
  | 0, _, s => (0, { s with tf := osdlpAbortSegmentation s.tf })
  | numPackets + 1, remainingLen, s =>
    let bytesAvail := min s.tf.mission.maxDataLen remainingLen
    let tf := packIntoUtil (nextTmFrame s.tf length remainingLen)
      (dataIn.drop (length - remainingLen)) bytesAvail
    let sent := osdlpTmTxQueueEnqueue { s with tf := tf } tf.mission.util.buffer
    if sent.1 < 0 then
      (sent.1, { sent.2 with tf := { tf with mission := { tf.mission with util :=
        { tf.mission.util with
          loopState := .loopOpen
          bufferedLength := u16 (length - remainingLen : ℤ) } } } })
    else transmitLoop dataIn length numPackets (remainingLen - bytesAvail) sent.2

/-- The last frame of the queue is given room for the packet: what remains, how many frames
that takes, and the queue.  `queueBack` is what `osdlp_tm_tx_queue_back` returns.
SOURCE: osdlp_tm.c:329-353 -/
def stuffLastFrame (getPacketLen : GetPacketLen) (fuel : ℕ) (queueBack : Int) (s : TmSender)
    (dataIn : List UInt8) (length remainingLen : ℕ) : Option (ℕ × ℕ × TmSender) := do
  let m := s.tf.mission
  let lastPkt := s.queue.getLastD []
  let residueLen ←
    if queueBack < 0 then some m.maxDataLen else evalResidueLen getPacketLen fuel m lastPkt
  if residueLen ≥ m.maxDataLen then
    return (numPacketsFor m remainingLen, remainingLen, s)
  else
    let numPackets := numPacketsFor m (remainingLen + residueLen)
    let stuffed := handlePktStuffing m numPackets lastPkt dataIn length residueLen
    return (numPackets - 1, stuffed.2, { s with queue := s.queue.dropLast ++ [stuffed.1] })

/-- SOURCE: osdlp_tm.c:306-414 -/
def osdlpTmTransmit (getPacketLen : GetPacketLen) (fuel : ℕ) (queueBack : Int) (s : TmSender)
    (dataIn : List UInt8) (length : ℕ) : Option (Int × TmSender) := do
  let m := s.tf.mission
  let remainingLen :=
    if m.util.loopState = .loopOpen then u16 (length - m.util.bufferedLength : ℤ) else length
  if s.queue ≠ [] ∧ m.stuffState = .stuffingOn ∧ m.util.loopState = .loopClosed then
    let (numPackets, remainingLen, s) ←
      stuffLastFrame getPacketLen fuel queueBack s dataIn length remainingLen
    return transmitLoop dataIn length numPackets remainingLen s
  else return transmitLoop dataIn length (numPacketsFor m remainingLen) remainingLen s

/-- SOURCE: osdlp_tm.c:774-787 -/
def osdlpTmTransmitIdleFdu (s : TmSender) : Int × TmSender :=
  let hdr := { s.tf.primaryHdr with firstHdrPtr := tmFirstHdrPtrOid }
  let tf := packIntoUtil { s.tf with primaryHdr := hdr } [] 0
  let sent := osdlpTmTxQueueEnqueue { s with tf := tf } tf.mission.util.buffer
  if sent.1 < 0 then sent else (0, sent.2)

end Osdlp.Model
