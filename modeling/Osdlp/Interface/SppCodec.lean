import Osdlp.Library.PrefixCode
import Osdlp.Model.Spp

/-!
# Space packets as a code

The six octets of a primary header hold its seven fields and nothing else (`sppHeaderCode`), and a
space packet is a header with as many octets of data as the header announces (`sppCode`).
`osdlp_spp_pack` writes the word of a packet (`osdlpSppPack_packet`), and `osdlp_spp_unpack`
decodes (`osdlpSppUnpack_packet`, `osdlpSppUnpack_short`).
-/

set_option autoImplicit false

namespace Osdlp.Interface

open Osdlp.Model Osdlp.Library

/-! ## The header -/

/-- The first octet and its four fields; of the identifier it holds the three high bits. -/
theorem sppHeader_octet0 : ∀ (v : BitVec 3) (t s : BitVec 1) (h : BitVec 3),
    let p := ((UInt8.ofNat v.toNat &&& 0x07) <<< 5) ||| ((UInt8.ofNat t.toNat &&& 0x01) <<< 4) |||
      ((UInt8.ofNat s.toNat &&& 0x01) <<< 3) ||| UInt8.ofNat h.toNat
    BitVec.ofNat 3 ((p >>> 5) &&& 0x07).toNat = v ∧ BitVec.ofNat 1 ((p >>> 4) &&& 0x01).toNat = t ∧
      BitVec.ofNat 1 ((p >>> 3) &&& 0x01).toNat = s ∧ (p &&& 0x07).toNat = h.toNat := by
  decide +kernel

/-- The flags and the first bits of the count do not overlap. -/
theorem sppHeader_octet2 : ∀ (f : BitVec 2) (h : BitVec 6),
    let p := ((UInt8.ofNat f.toNat &&& 0x03) <<< 6) ||| UInt8.ofNat h.toNat
    BitVec.ofNat 2 ((p >>> 6) &&& 0x03).toNat = f ∧ (p &&& 0x3f).toNat = h.toNat := by
  decide +kernel

/-- The fields of an octet make it up. -/
theorem sppOctet0_fields : ∀ x : BitVec 8,
    let p := UInt8.ofBitVec x
    ((UInt8.ofNat (BitVec.ofNat 3 ((p >>> 5) &&& 0x07).toNat).toNat &&& 0x07) <<< 5) |||
      ((UInt8.ofNat (BitVec.ofNat 1 ((p >>> 4) &&& 0x01).toNat).toNat &&& 0x01) <<< 4) |||
      ((UInt8.ofNat (BitVec.ofNat 1 ((p >>> 3) &&& 0x01).toNat).toNat &&& 0x01) <<< 3) |||
      (p &&& 0x07) = p := by
  decide +kernel

/-- The third octet is given back by its fields. -/
theorem sppOctet2_fields : ∀ x : BitVec 8,
    let p := UInt8.ofBitVec x
    ((UInt8.ofNat (BitVec.ofNat 2 ((p >>> 6) &&& 0x03).toNat).toNat &&& 0x03) <<< 6) |||
      (p &&& 0x3f) = p := by
  decide +kernel

/-- A number of `8 + k` bits from its high bits and its low octet. -/
theorem ofNat_high_low {k : ℕ} (x : BitVec (8 + k)) :
    BitVec.ofNat (8 + k) ((BitVec.ofNat k (x.toNat / 256)).toNat * 256 +
      (UInt8.ofNat x.toNat).toNat) = x := by
  have hlt := x.isLt
  have hpow : 2 ^ (8 + k) = 2 ^ k * 256 := by
    rw [Nat.pow_add, Nat.mul_comm]
  have hhigh : x.toNat / 256 < 2 ^ k := Nat.div_lt_of_lt_mul (by rw [Nat.mul_comm]; omega)
  apply BitVec.eq_of_toNat_eq
  rw [BitVec.toNat_ofNat, BitVec.toNat_ofNat, UInt8.toNat_ofNat', Nat.mod_eq_of_lt hhigh,
    show x.toNat / 256 * 256 + x.toNat % 2 ^ 8 = x.toNat by omega, Nat.mod_eq_of_lt hlt]

/-- The high bits and the low octet of a number that was put together from them. -/
theorem high_low_ofNat {k : ℕ} {h l : UInt8} (hh : h.toNat < 2 ^ k) :
    UInt8.ofNat ((BitVec.ofNat (8 + k) (h.toNat * 256 + l.toNat)).toNat / 256) = h ∧
      UInt8.ofNat (BitVec.ofNat (8 + k) (h.toNat * 256 + l.toNat)).toNat = l := by
  have hl := l.toNat_lt
  have hpow : 2 ^ (8 + k) = 2 ^ k * 256 := by
    rw [Nat.pow_add, Nat.mul_comm]
  have hjoin : (BitVec.ofNat (8 + k) (h.toNat * 256 + l.toNat)).toNat =
      h.toNat * 256 + l.toNat := by
    rw [BitVec.toNat_ofNat]
    exact Nat.mod_eq_of_lt (by omega)
  have hhlt := h.toNat_lt
  rw [hjoin]
  refine ⟨UInt8.toNat_inj.mp ?_, UInt8.toNat_inj.mp ?_⟩
  · rw [UInt8.toNat_ofNat']
    omega
  · rw [UInt8.toNat_ofNat']
    omega

theorem and_ff (x : UInt8) : x &&& 0xff = x := by
  apply UInt8.toBitVec_inj.mp
  exact BitVec.and_allOnes

@[simp] theorem length_sppHeaderOctets (hdr : SppPrimHdr) :
    (sppHeaderOctets hdr).length = sppPrimHdrSize := rfl

/-- Unpacking a header gives the fields that were packed, whatever lies behind it. -/
theorem sppUnpackHdr_header (hdr : SppPrimHdr) (rest : List UInt8) :
    sppUnpackHdr (sppHeaderOctets hdr ++ rest) = hdr := by
  obtain ⟨hv, ht, hs, ha⟩ := sppHeader_octet0 hdr.version hdr.isTc hdr.hasSecHdr
    (BitVec.ofNat 3 (hdr.apid.toNat / 256))
  obtain ⟨hf, hc⟩ := sppHeader_octet2 hdr.seqFlag (BitVec.ofNat 6 (hdr.seqCount.toNat / 256))
  have hapid : BitVec.ofNat 11 ((BitVec.ofNat 3 (hdr.apid.toNat / 256)).toNat * 256 +
      (UInt8.ofNat hdr.apid.toNat).toNat) = hdr.apid := ofNat_high_low (k := 3) hdr.apid
  have hcount : BitVec.ofNat 14 ((BitVec.ofNat 6 (hdr.seqCount.toNat / 256)).toNat * 256 +
      (UInt8.ofNat hdr.seqCount.toNat).toNat) = hdr.seqCount := ofNat_high_low (k := 6) hdr.seqCount
  unfold sppUnpackHdr sppHeaderOctets
  simp only [List.cons_append, List.getD_cons_zero, List.getD_cons_succ, and_ff,
    ofNat_and_mask 3 0x07 (by decide) rfl (hdr.apid.toNat / 256),
    ofNat_and_mask 6 0x3f (by decide) rfl, hv, ht, hs, ha, hf, hc, hapid, hcount, join_octets]

/-- Packing the fields of six octets gives these octets. -/
theorem sppHeaderOctets_unpackHdr {buf : List UInt8} (h : buf.length = sppPrimHdrSize) :
    sppHeaderOctets (sppUnpackHdr buf) = buf := by
  obtain ⟨p0, p1, p2, p3, p4, p5, rfl⟩ : ∃ p0 p1 p2 p3 p4 p5, buf = [p0, p1, p2, p3, p4, p5] := by
    match buf, h with
    | [p0, p1, p2, p3, p4, p5], _ => exact ⟨p0, p1, p2, p3, p4, p5, rfl⟩
  have hand07 : (p0 &&& 0x07).toNat < 2 ^ 3 := by
    rw [UInt8.toNat_and]
    exact Nat.and_lt_two_pow _ (by decide)
  have hand3f : (p2 &&& 0x3f).toNat < 2 ^ 6 := by
    rw [UInt8.toNat_and]
    exact Nat.and_lt_two_pow _ (by decide)
  obtain ⟨hahigh, halow⟩ := high_low_ofNat (l := p1) hand07
  obtain ⟨hchigh, hclow⟩ := high_low_ofNat (l := p3) hand3f
  obtain ⟨hlhigh, hllow⟩ := octets_join p4 p5
  have hidem07 : p0 &&& 0x07 &&& 0x07 = p0 &&& 0x07 := by
    rw [UInt8.and_assoc, UInt8.and_self]
  have hidem3f : p2 &&& 0x3f &&& 0x3f = p2 &&& 0x3f := by
    rw [UInt8.and_assoc, UInt8.and_self]
  unfold sppHeaderOctets sppUnpackHdr
  simp only [List.getD_cons_zero, List.getD_cons_succ, and_ff, hlhigh, hllow, hahigh, halow, hchigh,
    hclow, hidem07, hidem3f]
  exact congrArg₂ (fun x y => [x, p1, y, p3, p4, p5]) (sppOctet0_fields p0.toBitVec)
    (sppOctet2_fields p2.toBitVec)

/-- Primary headers as a code. -/
def sppHeaderCode : PrefixCode SppPrimHdr :=
  .fixed sppPrimHdrSize sppHeaderOctets sppUnpackHdr length_sppHeaderOctets
    (fun hdr => by simpa using sppUnpackHdr_header hdr []) fun _ => sppHeaderOctets_unpackHdr

/-! ## Packets -/

/-- The octets of data that a header announces. -/
def announced (hdr : SppPrimHdr) : ℕ := hdr.packetDataLen.toNat + 1

/-- A header with the data that it announces. -/
abbrev SpacePacket := WithBody announced

/-- Space packets as a code. -/
def sppCode : PrefixCode SpacePacket := sppHeaderCode.counted announced

/-- The octets of a packet. -/
def packetOctets (p : SpacePacket) : List UInt8 := sppHeaderOctets p.head ++ p.body

theorem encode_sppCode (p : SpacePacket) : sppCode.encode p = packetOctets p := rfl

/-- The length of a packet is the one that its header announces. -/
theorem length_packetOctets (p : SpacePacket) :
    (packetOctets p).length = sppPrimHdrSize + announced p.head := by
  unfold packetOctets
  rw [List.length_append, length_sppHeaderOctets, p.length_body]

/-- The code of the library reads what the source reads. -/
theorem decode_sppHeaderCode {buf : List UInt8} (h : sppPrimHdrSize ≤ buf.length) :
    sppHeaderCode.decode buf = some (sppUnpackHdr buf, buf.drop sppPrimHdrSize) := by
  have htake : sppUnpackHdr (buf.take sppPrimHdrSize) = sppUnpackHdr buf := by
    have hread := sppUnpackHdr_header (sppUnpackHdr (buf.take sppPrimHdrSize))
      (buf.drop sppPrimHdrSize)
    rw [sppHeaderOctets_unpackHdr (List.length_take_of_le h), List.take_append_drop] at hread
    exact hread.symm
  show (if _ then _ else none) = _
  rw [if_pos h, htake]

/-- A copy behind the header that was just written. -/
theorem memWrite_behind (hdr : SppPrimHdr) (out data : List UInt8) :
    memWrite (memWrite out 0 (sppHeaderOctets hdr)) sppPrimHdrSize data =
      sppHeaderOctets hdr ++ data ++ out.drop (sppPrimHdrSize + data.length) := by
  have hsize := length_sppHeaderOctets hdr
  rw [memWrite_zero, hsize]
  unfold memWrite
  rw [List.take_left' hsize, List.length_append, hsize, Nat.sub_eq_zero_of_le (by omega),
    List.replicate_zero, List.append_nil, List.drop_append, List.drop_of_length_le (by omega), hsize,
    List.nil_append, Nat.add_sub_cancel_left, List.drop_drop]

/-- Packing a header alone.
SOURCE: osdlp_spp.c:24-63 -/
theorem osdlpSppPack_header (hdr : SppPrimHdr) (out : List UInt8) {bufSize : ℕ}
    (h : sppPrimHdrSize ≤ bufSize) :
    osdlpSppPack (some hdr) none (some out) bufSize =
      ((sppPrimHdrSize : ℤ), some (sppHeaderOctets hdr ++ out.drop sppPrimHdrSize)) := by
  unfold osdlpSppPack
  dsimp only
  rw [if_neg (by omega), memWrite_zero, length_sppHeaderOctets]

/-- Packing a packet into a buffer that it fits writes its octets and nothing else.
SOURCE: osdlp_spp.c:24-63 -/
theorem osdlpSppPack_packet (p : SpacePacket) (out : List UInt8) {bufSize : ℕ}
    (h : (packetOctets p).length ≤ bufSize) :
    osdlpSppPack (some p.head) (some p.body) (some out) bufSize =
      (((packetOctets p).length : ℤ),
        some (packetOctets p ++ out.drop (packetOctets p).length)) := by
  have hlen := length_packetOctets p
  have hdata : p.head.packetDataLen.toNat + 1 = p.body.length := p.length_body.symm
  have htotal : sppPrimHdrSize + p.body.length = (packetOctets p).length := by
    rw [hlen, p.length_body]
  unfold osdlpSppPack
  dsimp only
  rw [if_neg (by omega), hdata, List.take_length, htotal, if_neg (by omega), memWrite_behind, htotal]
  rfl

/-- Packing into a buffer that is too small fails.
SOURCE: osdlp_spp.c:24-63 -/
theorem osdlpSppPack_small (hdr : SppPrimHdr) (inPackData : Option (List UInt8)) (out : List UInt8)
    {bufSize : ℕ} (h : bufSize < sppPrimHdrSize + inPackData.elim 0 fun _ => announced hdr) :
    (osdlpSppPack (some hdr) inPackData (some out) bufSize).1 = -1 := by
  unfold osdlpSppPack
  dsimp only
  rcases Nat.lt_or_ge bufSize sppPrimHdrSize with hshort | hlong
  · rw [if_pos hshort]
  · rw [if_neg (by omega)]
    cases inPackData with
    | none =>
      simp only [Option.elim_none] at h
      omega
    | some data => exact congrArg Prod.fst (if_pos h)

/-- The header is unpacked without the data, and with them even if they are not all there.
SOURCE: osdlp_spp.c:65-98 -/
theorem osdlpSppUnpack_header (hdr₀ : SppPrimHdr) (buf : List UInt8) {inLen : ℕ}
    (h : sppPrimHdrSize ≤ inLen) :
    osdlpSppUnpack (some hdr₀) (some buf) inLen none =
        { ret := sppPrimHdrSize, primHdr := some (sppUnpackHdr buf), outPackData := none } ∧
      ∀ ptr, (osdlpSppUnpack (some hdr₀) (some buf) inLen (some ptr)).primHdr =
        some (sppUnpackHdr buf) := by
  unfold osdlpSppUnpack
  dsimp only
  rw [if_neg (by omega)]
  refine ⟨rfl, fun ptr => ?_⟩
  rw [if_neg (by omega)]
  split_ifs <;> rfl

/-- A buffer too short for a header is refused.
SOURCE: osdlp_spp.c:65-98 -/
theorem osdlpSppUnpack_short (hdr₀ : SppPrimHdr) (buf : List UInt8) {inLen : ℕ}
    (outPackData : Option (Option ℕ)) (h : inLen < sppPrimHdrSize) :
    (osdlpSppUnpack (some hdr₀) (some buf) inLen outPackData).ret = -1 := by
  unfold osdlpSppUnpack
  dsimp only
  rw [if_pos h]

/-- A buffer that starts with a packet is unpacked to it.
SOURCE: osdlp_spp.c:65-98 -/
theorem osdlpSppUnpack_packet {buf : List UInt8} {p : SpacePacket} {rest : List UInt8}
    (h : sppCode.decode buf = some (p, rest)) (hdr₀ : SppPrimHdr) (ptr : Option ℕ) :
    osdlpSppUnpack (some hdr₀) (some buf) buf.length (some ptr) =
      { ret := (packetOctets p).length
        primHdr := some p.head
        outPackData := some (some sppPrimHdrSize) } := by
  have hbuf : buf = packetOctets p ++ rest := sppCode.encode_decode h
  have hhead : sppUnpackHdr buf = p.head := by
    rw [hbuf, packetOctets, List.append_assoc]
    exact sppUnpackHdr_header _ _
  have hlen : buf.length = (packetOctets p).length + rest.length := by
    rw [hbuf, List.length_append]
  have hpacket := length_packetOctets p
  unfold announced at hpacket
  unfold osdlpSppUnpack
  dsimp only
  rw [hhead, ← hpacket, if_neg (by omega), if_neg (by omega)]

/-- A buffer that does not start with a packet is refused.
SOURCE: osdlp_spp.c:65-98 -/
theorem osdlpSppUnpack_refused {buf : List UInt8} (h : sppCode.decode buf = none)
    (hdr₀ : SppPrimHdr) (ptr : Option ℕ) :
    (osdlpSppUnpack (some hdr₀) (some buf) buf.length (some ptr)).ret = -1 := by
  rcases Nat.lt_or_ge buf.length sppPrimHdrSize with hshort | hlong
  · exact osdlpSppUnpack_short hdr₀ buf _ hshort
  · have hnone : ¬ announced (sppUnpackHdr buf) ≤ (buf.drop sppPrimHdrSize).length := by
      rw [← sppHeaderCode.isSome_decode_counted announced (decode_sppHeaderCode hlong)]
      show ¬ (sppCode.decode buf).isSome
      simp [h]
    rw [List.length_drop] at hnone
    unfold announced at hnone
    unfold osdlpSppUnpack
    dsimp only
    rw [if_neg (by omega), if_pos (by omega)]

end Osdlp.Interface
