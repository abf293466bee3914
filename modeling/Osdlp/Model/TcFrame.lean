import Osdlp.Library.Octets
import Osdlp.Model.Crc
import Osdlp.Model.TcTypes

/-!
# The telecommand transfer frame

`osdlp_tc_init`, `osdlp_tc_pack`, `osdlp_tc_unpack` and `osdlp_frame_validation_check`
(osdlp_tc.c:24-183).  Only the sending end packs, so packing takes the FOP view of the frame.
-/

set_option autoImplicit false

namespace Osdlp.Model

open Osdlp.Library

/-- The sending end of the link. -/
abbrev FopFrame := TcTransferFrame FopConfig

/-! ## Initialisation -/

/-- The arguments of `osdlp_tc_init` that the modelled functions read, the COP configuration
apart. -/
structure TcInitArgs where
  scid : UInt16
  maxSduLen : UInt16
  maxFrameLen : UInt16
  vcid : UInt8
  mapid : UInt8
  crcFlag : Bool
  segHdrFlag : Bool
  bypass : TcBypass
  ctrlCmd : TcCtrl
  utilBuffer : List UInt8
  deriving DecidableEq, Repr, Inhabited

/-- The octets of a frame that are not data, as `osdlp_tc_init` adds them up.
SOURCE: osdlp_tc.c:65, 70-75 -/
def TcInitArgs.fixedOverheadLen (a : TcInitArgs) : ℕ :=
  5 + (if a.segHdrFlag then 1 else 0) + (if a.crcFlag then 2 else 0)

/-- The mission parameters of `osdlp_tc_init`.  `m` is what the local variable holds before: the
buffered length, the third octet of the Set V(R) command and the CLCW are not set.
SOURCE: osdlp_tc.c:41, 53-78 -/
def TcInitArgs.mission (a : TcInitArgs) (m : TcMissionParams) : TcMissionParams :=
  { util :=
      { buffer := a.utilBuffer
        bufferedLength := m.util.bufferedLength
        loopState := .loopClosed }
    crcFlag := a.crcFlag
    segHdrFlag := a.segHdrFlag
    maxSduLen := a.maxSduLen.toNat
    maxDataLen := u16 (a.maxFrameLen.toNat - a.fixedOverheadLen : ℤ)
    maxFrameLen := a.maxFrameLen.toNat
    fixedOverheadLen := a.fixedOverheadLen
    spacecraftId := a.scid
    vcid := a.vcid
    versionNum := 0
    unlockCmd := 0
    setVrCmd := memWrite m.setVrCmd 0 [setvrByte1, setvrByte2]
    clcw := m.clcw }

/-- SOURCE: osdlp_tc.c:24-85 -/
def osdlpTcInit {Cop : Type} (m : TcMissionParams) (tf : TcTransferFrame Cop) (a : TcInitArgs)
    (cop : Cop) : Option (TcTransferFrame Cop) :=
  if a.maxFrameLen.toNat ≤ 5 then none
  else
    some
      { tf with
        primaryHdr :=
          { versionNum := 0
            bypass := a.bypass
            ctrlCmd := a.ctrlCmd
            rsvdSpare := 0
            spacecraftId := BitVec.ofNat 10 a.scid.toNat
            vcid := BitVec.ofNat 6 a.vcid.toNat
            frameLen := 0
            frameSeqNum := 0 }
        mission := a.mission m
        frameData :=
          { tf.frameData with
            segHdr := { tf.frameData.segHdr with mapId := BitVec.ofNat 6 a.mapid.toNat } }
        copCfg := cop
        segStatus := { flag := .ended, octetsTxed := 0 } }

/-! ## Packing and unpacking -/

/-- The one-bit field of `tc_bypass_t`. -/
def TcBypass.toOctet : TcBypass → UInt8
  | .typeA => 0
  | .typeB => 1

/-- `tc_bypass_t` from its one-bit field. -/
def TcBypass.ofOctet (x : UInt8) : TcBypass := if x = 0 then .typeA else .typeB

/-- The one-bit field of `tc_ctrl_t`. -/
def TcCtrl.toOctet : TcCtrl → UInt8
  | .data => 0
  | .command => 1

/-- `tc_ctrl_t` from its one-bit field. -/
def TcCtrl.ofOctet (x : UInt8) : TcCtrl := if x = 0 then .data else .command

/-- The two-bit field of `tc_seq_flag_t`. -/
def TcSeqFlag.toOctet : TcSeqFlag → UInt8
  | .contSeg => 0
  | .firstSeg => 1
  | .lastSeg => 2
  | .unseg => 3

/-- `tc_seq_flag_t` from its two-bit field. -/
def TcSeqFlag.ofOctet (x : UInt8) : TcSeqFlag :=
  if x = 0 then .contSeg else if x = 1 then .firstSeg else if x = 2 then .lastSeg else .unseg

/-- The octets that `osdlp_tc_pack` writes before the data.
SOURCE: osdlp_tc.c:130-150 -/
def tcHeaderOctets (tf : FopFrame) (packetLen : ℕ) : List UInt8 :=
  let hdr := tf.primaryHdr
  [(UInt8.ofNat hdr.versionNum.toNat <<< 6) ||| (hdr.bypass.toOctet <<< 5) |||
      (hdr.ctrlCmd.toOctet <<< 4) ||| (UInt8.ofNat hdr.rsvdSpare.toNat <<< 2) |||
      (UInt8.ofNat (hdr.spacecraftId.toNat / 256) &&& 0x03),
   UInt8.ofNat hdr.spacecraftId.toNat,
   (UInt8.ofNat hdr.vcid.toNat <<< 2) ||| (UInt8.ofNat (packetLen / 256) &&& 0x03),
   UInt8.ofNat packetLen,
   match hdr.bypass with
   | .typeA => tf.copCfg.vs
   | .typeB => 0] ++
  if tf.mission.segHdrFlag then
    [(tf.frameData.segHdr.seqFlag.toOctet <<< 6) ||| UInt8.ofNat tf.frameData.segHdr.mapId.toNat]
  else []

/-- The sequence number that is packed.
SOURCE: osdlp_tc.c:141-145 -/
def packedSeqNum (tf : FopFrame) : UInt8 :=
  match tf.primaryHdr.bypass with
  | .typeA => tf.copCfg.vs
  | .typeB => 0

/-- The octets written to `pkt_out`, and the frame structure with its `crc` field.
SOURCE: osdlp_tc.c:124-159 -/
def osdlpTcPack (tf : FopFrame) (dataIn : List UInt8) (length : ℕ) : List UInt8 × FopFrame :=
  let packetLen := u16 (tf.mission.fixedOverheadLen + length - 1)
  let body := tcHeaderOctets tf packetLen ++ dataIn.take length
  if tf.mission.crcFlag then
    let crc := osdlpCalcCrc body (packetLen - 1)
    (memWrite body (packetLen - 1) [UInt8.ofNat (crc.toNat / 256), UInt8.ofNat crc.toNat],
      { tf with crc := crc })
  else (body, tf)

/-- Packing writes the `crc` field of the frame structure and nothing else. -/
theorem osdlpTcPack_snd (tf : FopFrame) (dataIn : List UInt8) (length : ℕ) :
    ∃ crc, (osdlpTcPack tf dataIn length).2 = { tf with crc := crc } := by
  unfold osdlpTcPack
  cases tf.mission.crcFlag with
  | false => exact ⟨tf.crc, rfl⟩
  | true => exact ⟨_, rfl⟩

/-- The primary header in the first five octets.
SOURCE: osdlp_tc.c:90-99 -/
def tcUnpackHdr (pktIn : List UInt8) : TcPrimaryHdr :=
  let p0 := pktIn.getD 0 0
  let p2 := pktIn.getD 2 0
  { versionNum := BitVec.ofNat 2 (p0 >>> 6).toNat
    bypass := .ofOctet ((p0 >>> 5) &&& 0x01)
    ctrlCmd := .ofOctet ((p0 >>> 4) &&& 0x01)
    rsvdSpare := BitVec.ofNat 2 ((p0 >>> 2) &&& 0x03).toNat
    spacecraftId := BitVec.ofNat 10 ((p0 &&& 0x03).toNat * 256 + (pktIn.getD 1 0).toNat)
    vcid := BitVec.ofNat 6 (p2 >>> 2).toNat
    frameLen := BitVec.ofNat 10 ((p2 &&& 0x03).toNat * 256 + (pktIn.getD 3 0).toNat)
    frameSeqNum := pktIn.getD 4 0 }

/-- The last two octets of a frame of the given length, as a checksum. -/
def trailerCrc (buf : List UInt8) (frameLen : ℕ) : UInt16 :=
  (octetAt buf (frameLen - 1)).toUInt16 <<< 8 ||| (octetAt buf frameLen).toUInt16

/-- SOURCE: osdlp_tc.c:86-121 -/
def osdlpTcUnpack {Cop : Type} (tf : TcTransferFrame Cop) (pktIn : List UInt8) :
    TcTransferFrame Cop :=
  let hdr := tcUnpackHdr pktIn
  { tf with
    primaryHdr := hdr
    frameData :=
      { segHdr :=
          if tf.mission.segHdrFlag then
            { seqFlag := .ofOctet (pktIn.getD 5 0 >>> 6)
              mapId := BitVec.ofNat 6 (pktIn.getD 5 0 &&& 0x3f).toNat }
          else tf.frameData.segHdr
        data := if tf.mission.segHdrFlag then pktIn.drop 6 else pktIn.drop 5
        dataLen := u16 (hdr.frameLen.toNat + 1 - tf.mission.fixedOverheadLen) }
    crc := if tf.mission.crcFlag then trailerCrc pktIn hdr.frameLen.toNat else tf.crc }

/-- SOURCE: osdlp_tc.c:161-183 -/
def osdlpFrameValidationCheck {Cop : Type} (tf : TcTransferFrame Cop) (rxBuffer : List UInt8) :
    Int :=
  let frameLen := tf.primaryHdr.frameLen.toNat
  if tf.mission.versionNum.toNat ≠ tf.primaryHdr.versionNum.toNat then -1
  else if tf.mission.spacecraftId.toNat ≠ tf.primaryHdr.spacecraftId.toNat then -1
  else if tf.mission.crcFlag ∧
      osdlpCalcCrc rxBuffer ((frameLen + 2 ^ 32 - 1) % 2 ^ 32) ≠ trailerCrc rxBuffer frameLen then
    -1
  else 0

/-- The octets of a frame that are not data, by the mission parameters. -/
def TcMissionParams.overhead (m : TcMissionParams) : ℕ :=
  5 + (if m.segHdrFlag then 1 else 0) + (if m.crcFlag then 2 else 0)

end Osdlp.Model
