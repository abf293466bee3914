import Osdlp.Library.Octets

/-!
# Space packets

`osdlp_spp_pack` and `osdlp_spp_unpack`.  A pointer argument that may be NULL is an option; the
pointer that unpacking hands out is an index into `in_buf`.
-/

set_option autoImplicit false

namespace Osdlp.Model

open Osdlp.Library

/-- SOURCE: osdlp_spp.h:39-47 -/
structure SppPrimHdr where
  version : BitVec 3
  isTc : BitVec 1
  hasSecHdr : BitVec 1
  apid : BitVec 11
  seqFlag : BitVec 2
  seqCount : BitVec 14
  packetDataLen : UInt16
deriving DecidableEq

/-- `sizeof(struct spp_prim_hdr)`. -/
def sppPrimHdrSize : ℕ := 6

/-- SOURCE: osdlp_spp.c:42-50 -/
def sppHeaderOctets (hdr : SppPrimHdr) : List UInt8 :=
  [((UInt8.ofNat hdr.version.toNat &&& 0x07) <<< 5) |||
      ((UInt8.ofNat hdr.isTc.toNat &&& 0x01) <<< 4) |||
      ((UInt8.ofNat hdr.hasSecHdr.toNat &&& 0x01) <<< 3) |||
      (UInt8.ofNat (hdr.apid.toNat / 256) &&& 0x07),
   UInt8.ofNat hdr.apid.toNat &&& 0xff,
   ((UInt8.ofNat hdr.seqFlag.toNat &&& 0x03) <<< 6) |||
      (UInt8.ofNat (hdr.seqCount.toNat / 256) &&& 0x3f),
   UInt8.ofNat hdr.seqCount.toNat &&& 0xff,
   UInt8.ofNat (hdr.packetDataLen.toNat / 256) &&& 0xff,
   UInt8.ofNat hdr.packetDataLen.toNat &&& 0xff]

/-- The return value, and `out_buf` afterwards.  The header is written before the length of the
data is checked.
SOURCE: osdlp_spp.c:24-63 -/
def osdlpSppPack (primHdr : Option SppPrimHdr) (inPackData outBuf : Option (List UInt8))
    (bufSize : ℕ) : Int × Option (List UInt8) :=
  match primHdr, outBuf with
  | some hdr, some out =>
    if bufSize < sppPrimHdrSize then (-1, some out)
    else
      let packed := memWrite out 0 (sppHeaderOctets hdr)
      match inPackData with
      | none => (sppPrimHdrSize, some packed)
      | some data =>
        let outLen := sppPrimHdrSize + (hdr.packetDataLen.toNat + 1)
        if bufSize < outLen then (-1, some packed)
        else
          (outLen,
            some (memWrite packed sppPrimHdrSize (data.take (hdr.packetDataLen.toNat + 1))))
  | _, _ => (-1, outBuf)

/-- SOURCE: osdlp_spp.c:78-85 -/
def sppUnpackHdr (inBuf : List UInt8) : SppPrimHdr :=
  let p0 := inBuf.getD 0 0
  let p2 := inBuf.getD 2 0
  { version := BitVec.ofNat 3 ((p0 >>> 5) &&& 0x07).toNat
    isTc := BitVec.ofNat 1 ((p0 >>> 4) &&& 0x01).toNat
    hasSecHdr := BitVec.ofNat 1 ((p0 >>> 3) &&& 0x01).toNat
    apid := BitVec.ofNat 11 ((p0 &&& 0x07).toNat * 256 + (inBuf.getD 1 0).toNat)
    seqFlag := BitVec.ofNat 2 ((p2 >>> 6) &&& 0x03).toNat
    seqCount := BitVec.ofNat 14 ((p2 &&& 0x3f).toNat * 256 + (inBuf.getD 3 0).toNat)
    packetDataLen := (inBuf.getD 4 0).toUInt16 <<< 8 ||| (inBuf.getD 5 0).toUInt16 }

/-- What `osdlp_spp_unpack` returns and leaves behind its pointers. -/
structure SppUnpacked where
  ret : Int
  primHdr : Option SppPrimHdr
  outPackData : Option (Option ℕ)

/-- `*out_pack_data` is NULL or an index into `in_buf`.  The header is stored before the length of
the data is checked.
SOURCE: osdlp_spp.c:65-98 -/
def osdlpSppUnpack (primHdr : Option SppPrimHdr) (inBuf : Option (List UInt8)) (inLen : ℕ)
    (outPackData : Option (Option ℕ)) : SppUnpacked :=
  match primHdr, inBuf with
  | some _, some buf =>
    if inLen < sppPrimHdrSize then { ret := -1, primHdr, outPackData }
    else
      let hdr := sppUnpackHdr buf
      match outPackData with
      | none => { ret := sppPrimHdrSize, primHdr := some hdr, outPackData }
      | some _ =>
        let parsedLen := sppPrimHdrSize + (hdr.packetDataLen.toNat + 1)
        if inLen < parsedLen then { ret := -1, primHdr := some hdr, outPackData }
        else
          { ret := parsedLen, primHdr := some hdr, outPackData := some (some sppPrimHdrSize) }
  | _, _ => { ret := -1, primHdr, outPackData }

end Osdlp.Model
