import Osdlp.Library.Octets
import Osdlp.Model.Clcw
import Osdlp.Model.Crc

/-!
# The telemetry transfer frame

The structures of osdlp_tm.h, and `osdlp_tm_init`, `osdlp_tm_pack` and `osdlp_tm_unpack`
(osdlp_tm.c:24-201).  The master channel count, which the channels share through a
pointer, is the value that it points to.
-/

set_option autoImplicit false

namespace Osdlp.Model

open Osdlp.Library

/-- `TM_PRIMARY_HDR_LEN` -/
def tmPrimaryHdrLen : ℕ := 6

/-- `TM_OCF_LENGTH` -/
def tmOcfLength : ℕ := 4

/-- `TM_CRC_LENGTH` -/
def tmCrcLength : ℕ := 2

/-- `TM_FIRST_HDR_PTR_NO_PKT_START` -/
def tmFirstHdrPtrNoPktStart : BitVec 11 := 0x07FF

/-- `TM_FIRST_HDR_PTR_OID` -/
def tmFirstHdrPtrOid : BitVec 11 := 0x07FE

/-- `TM_IDLE_PACKET` -/
def tmIdlePacket : UInt8 := 0xE0

/-- `tm_loop_state_t` -/
inductive TmLoopState
  | loopOpen
  | loopClosed
  deriving DecidableEq, Repr, Inhabited

/-- `tm_stuff_state_t` -/
inductive TmStuffState
  | stuffingOn
  | stuffingOff
  deriving DecidableEq, Repr, Inhabited

/-- `tm_rx_result_t` -/
inductive TmRxResult
  | ok
  | pending
  | error
  | oid
  | denied
  | wrongCrc
  deriving DecidableEq, Repr, Inhabited

/-- The numeric value of `tm_rx_result_t`. -/
def TmRxResult.code : TmRxResult → Int
  | .ok => 0
  | .pending => 1
  | .error => 2
  | .oid => 3
  | .denied => 4
  | .wrongCrc => 5

/-- SOURCE: osdlp_tm.h:74-100, the data field status included. -/
structure TmPrimaryHdr where
  versionNum : BitVec 2
  spacecraftId : BitVec 10
  vcid : BitVec 3
  ocf : Bool
  mcFrameCnt : UInt8
  vcFrameCnt : UInt8
  secHdr : Bool
  sync : Bool
  pktOrder : Bool
  segLenId : BitVec 2
  firstHdrPtr : BitVec 11
  deriving DecidableEq, Repr, Inhabited

/-- SOURCE: osdlp_tm.h:105-116 -/
structure TmSecHdr where
  versionNum : BitVec 2
  length : BitVec 6
  dataField : List UInt8
  deriving DecidableEq, Repr, Inhabited

/-- SOURCE: osdlp_tm.h:122-127 -/
structure TmUtilBuf where
  buffer : List UInt8
  bufferedLength : ℕ
  loopState : TmLoopState
  expectedPktLen : ℕ
  deriving DecidableEq, Repr, Inhabited

/-- SOURCE: osdlp_tm.h:129-143 -/
structure TmMissionParams where
  util : TmUtilBuf
  frameLen : ℕ
  headerLen : ℕ
  maxDataLen : ℕ
  maxSduLen : ℕ
  crcPresent : Bool
  vcid : UInt8
  stuffState : TmStuffState
  deriving DecidableEq, Repr, Inhabited

/-- SOURCE: osdlp_tm.h:145-152.  `data` is what lies from the data pointer on. -/
structure TmTransferFrame where
  primaryHdr : TmPrimaryHdr
  secondaryHdr : TmSecHdr
  ocf : List UInt8
  crc : UInt16
  data : List UInt8
  mission : TmMissionParams
  deriving DecidableEq, Repr, Inhabited

/-- The arguments of `osdlp_tm_init`. -/
structure TmInitArgs where
  spacecraftId : UInt16
  mcCount : UInt8
  vcid : UInt8
  ocfFlag : Bool
  secHdrFlag : Bool
  syncFlag : Bool
  secHdrLen : UInt8
  secHdr : List UInt8
  crcFlag : Bool
  frameSize : UInt16
  maxSduLen : UInt16
  stuffing : TmStuffState
  utilBuffer : List UInt8
  deriving DecidableEq, Repr, Inhabited

/-- The octets of the headers, which `osdlp_tm_init` adds up in sixteen bits.
SOURCE: osdlp_tm.c:71-82 -/
def TmInitArgs.occupiedHeader (a : TmInitArgs) : ℕ :=
  if a.secHdrFlag then tmPrimaryHdrLen + a.secHdrLen.toNat % 64 + 1 else tmPrimaryHdrLen

/-- The octets of a frame that are not data.
SOURCE: osdlp_tm.c:83-88 -/
def TmInitArgs.occupied (a : TmInitArgs) : ℕ :=
  a.occupiedHeader + (if a.ocfFlag then tmOcfLength else 0) + (if a.crcFlag then tmCrcLength else 0)

/-- The mission parameters of `osdlp_tm_init`.
SOURCE: osdlp_tm.c:58-69, 90-91 -/
def TmInitArgs.mission (a : TmInitArgs) : TmMissionParams :=
  { util :=
      { buffer := a.utilBuffer
        bufferedLength := 0
        loopState := .loopClosed
        expectedPktLen := 0 }
    frameLen := a.frameSize.toNat
    headerLen := a.occupiedHeader
    maxDataLen := u16 (a.frameSize.toNat - a.occupied : ℤ)
    maxSduLen := a.maxSduLen.toNat
    crcPresent := a.crcFlag
    vcid := a.vcid
    stuffState := a.stuffing }

/-- SOURCE: osdlp_tm.c:24-94 -/
def osdlpTmInit (tf : TmTransferFrame) (a : TmInitArgs) : Option TmTransferFrame :=
  if a.frameSize.toNat ≤ tmPrimaryHdrLen then none
  else
    some
      { tf with
        primaryHdr :=
          { tf.primaryHdr with
            versionNum := 0
            spacecraftId := BitVec.ofNat 10 a.spacecraftId.toNat
            vcid := BitVec.ofNat 3 a.vcid.toNat
            ocf := a.ocfFlag
            mcFrameCnt := a.mcCount
            vcFrameCnt := 0
            secHdr := a.secHdrFlag
            sync := a.syncFlag
            pktOrder := false
            segLenId := 3 }
        secondaryHdr :=
          if a.secHdrFlag then
            { versionNum := 0
              length := BitVec.ofNat 6 a.secHdrLen.toNat
              dataField := memWrite tf.secondaryHdr.dataField 0 (a.secHdr.take a.secHdrLen.toNat) }
          else tf.secondaryHdr
        mission := a.mission }

/-- The primary header as `osdlp_tm_pack` writes it.
SOURCE: osdlp_tm.c:100-114 -/
def tmHdrOctets (hdr : TmPrimaryHdr) : List UInt8 :=
  [(UInt8.ofNat hdr.versionNum.toNat <<< 6) ||| (UInt8.ofNat (hdr.spacecraftId.toNat / 16) &&& 0x3f),
   ((UInt8.ofNat hdr.spacecraftId.toNat &&& 0x0f) <<< 4) ||| (UInt8.ofNat hdr.vcid.toNat <<< 1) |||
      bit hdr.ocf,
   hdr.mcFrameCnt,
   hdr.vcFrameCnt,
   (bit hdr.secHdr <<< 7) ||| (bit hdr.sync <<< 6) ||| (bit hdr.pktOrder <<< 5) |||
      (UInt8.ofNat hdr.segLenId.toNat <<< 3) ||| (UInt8.ofNat (hdr.firstHdrPtr.toNat / 256) &&& 0x07),
   UInt8.ofNat hdr.firstHdrPtr.toNat]

/-- The secondary header as `osdlp_tm_pack` writes it.
SOURCE: osdlp_tm.c:117-121 -/
def tmSecHdrOctets (sec : TmSecHdr) : List UInt8 :=
  ((UInt8.ofNat sec.versionNum.toNat <<< 6) ||| UInt8.ofNat sec.length.toNat) ::
    sec.dataField.take sec.length.toNat

/-- The frame with its checksum, and the checksum.
SOURCE: osdlp_tm.c:141-150, 189-201 -/
def tmWriteCrc (frameLen : ℕ) (pkt : List UInt8) : List UInt8 × UInt16 :=
  let cleared := memWrite pkt (frameLen - 2) [0, 0]
  let crc := osdlpCalcCrc cleared (frameLen - 2)
  (memWrite cleared (frameLen - 2) [UInt8.ofNat (crc.toNat / 256), UInt8.ofNat crc.toNat], crc)

/-- The octets in front of the data field, over what is in the buffer.
SOURCE: osdlp_tm.c:100-122 -/
def tmPackHeaders (tf : TmTransferFrame) (pktOut : List UInt8) : List UInt8 :=
  let pkt := memWrite pktOut 0 (tmHdrOctets tf.primaryHdr)
  if tf.primaryHdr.secHdr then memWrite pkt tmPrimaryHdrLen (tmSecHdrOctets tf.secondaryHdr) else pkt

/-- The frame before the checksum is written.
SOURCE: osdlp_tm.c:100-139 -/
def tmPackBody (tf : TmTransferFrame) (pktOut dataIn : List UInt8) (length : ℕ) : List UInt8 :=
  let m := tf.mission
  let pkt := tmPackHeaders tf pktOut
  let pkt := if length ≠ 0 then memWrite pkt m.headerLen (dataIn.take length) else pkt
  let pkt :=
    if tf.primaryHdr.ocf then memWrite pkt (m.headerLen + m.maxDataLen) (tf.ocf.take 4) else pkt
  if length < m.maxDataLen then
    memWrite pkt (m.headerLen + length) (List.replicate (m.maxDataLen - length) tmIdlePacket)
  else pkt

/-- The buffer after packing, and the frame structure with its `crc` field.
SOURCE: osdlp_tm.c:96-153 -/
def osdlpTmPack (tf : TmTransferFrame) (pktOut dataIn : List UInt8) (length : ℕ) :
    List UInt8 × TmTransferFrame :=
  let pkt := tmPackBody tf pktOut dataIn length
  if tf.mission.crcPresent then
    let written := tmWriteCrc tf.mission.frameLen pkt
    (written.1, { tf with crc := written.2 })
  else (pkt, tf)

/-- The first header pointer of a frame.
SOURCE: osdlp_tm.c:169, 234 -/
def tmFirstHdrPtr (pkt : List UInt8) : BitVec 11 :=
  BitVec.ofNat 11 ((pkt.getD 4 0 &&& 0x07).toNat * 256 + (pkt.getD 5 0).toNat)

/-- The checksum in the last two octets of a frame.
SOURCE: osdlp_tm.c:184-185 -/
def tmTrailerCrc (frameLen : ℕ) (pkt : List UInt8) : UInt16 :=
  (pkt.getD (frameLen - 2) 0).toUInt16 <<< 8 ||| (pkt.getD (frameLen - 1) 0).toUInt16

/-- The version number is the truth value of its bits: the source writes `&&` for `&`.
SOURCE: osdlp_tm.c:158-169 -/
def tmUnpackHdr (pktIn : List UInt8) : TmPrimaryHdr :=
  let p0 := pktIn.getD 0 0
  let p1 := pktIn.getD 1 0
  let p4 := pktIn.getD 4 0
  { versionNum := if p0 >>> 6 = 0 then 0 else 1
    spacecraftId := BitVec.ofNat 10 ((p0 &&& 0x3f).toNat * 16 + ((p1 >>> 4) &&& 0x0f).toNat)
    vcid := BitVec.ofNat 3 ((p1 >>> 1) &&& 0x07).toNat
    ocf := p1 &&& 0x01 != 0
    mcFrameCnt := pktIn.getD 2 0
    vcFrameCnt := pktIn.getD 3 0
    secHdr := (p4 >>> 7) &&& 0x01 != 0
    sync := (p4 >>> 6) &&& 0x01 != 0
    pktOrder := (p4 >>> 5) &&& 0x01 != 0
    segLenId := BitVec.ofNat 2 ((p4 >>> 3) &&& 0x03).toNat
    firstHdrPtr := tmFirstHdrPtr pktIn }

/-- SOURCE: osdlp_tm.c:155-187 -/
def osdlpTmUnpack (tf : TmTransferFrame) (pktIn : List UInt8) : TmTransferFrame :=
  let hdr := tmUnpackHdr pktIn
  let m := tf.mission
  { tf with
    primaryHdr := hdr
    secondaryHdr :=
      if hdr.secHdr then
        { tf.secondaryHdr with
          versionNum := BitVec.ofNat 2 ((pktIn.getD 6 0 >>> 6) &&& 0x03).toNat
          length := BitVec.ofNat 6 (pktIn.getD 6 0 &&& 0x3f).toNat }
      else tf.secondaryHdr
    data := pktIn.drop m.headerLen
    ocf := if hdr.ocf then memWrite tf.ocf 0 (region pktIn (m.headerLen + m.maxDataLen) 4) else tf.ocf
    crc := if m.crcPresent then tmTrailerCrc m.frameLen pktIn else tf.crc }

end Osdlp.Model
