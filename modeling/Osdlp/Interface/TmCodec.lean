import Osdlp.Interface.TmFrame

/-!
# What a peer reads from a telemetry frame

The frame that `osdlp_tm_pack` writes, field by field: the primary header as
`osdlp_tm_unpack` reads it (`tmUnpackHdr_hdrOctets`), and where the secondary header, the
data field, the OCF and the checksum lie (`osdlpTmPack_hdr` to `osdlpTmPack_crc`).
-/

set_option autoImplicit false

namespace Osdlp.Interface

open Osdlp.Model Osdlp.Library

/-! ## The primary header -/

/-- The version and the first bits of the spacecraft do not overlap. -/
theorem tmHeader_octet0 : ∀ (v : BitVec 2) (hi : BitVec 6),
    let p := (UInt8.ofNat v.toNat <<< 6) ||| UInt8.ofNat hi.toNat
    (p >>> 6 = 0 ↔ v = 0) ∧ (p &&& 0x3f).toNat = hi.toNat := by
  decide +kernel

/-- The other bits of the spacecraft, the virtual channel and the flag do not overlap. -/
theorem tmHeader_octet1 : ∀ (lo : BitVec 4) (vcid : BitVec 3) (ocf : Bool),
    let p := (UInt8.ofNat lo.toNat <<< 4) ||| (UInt8.ofNat vcid.toNat <<< 1) ||| bit ocf
    ((p >>> 4) &&& 0x0f).toNat = lo.toNat ∧ BitVec.ofNat 3 ((p >>> 1) &&& 0x07).toNat = vcid ∧
      (p &&& 0x01 != 0) = ocf := by
  decide +kernel

/-- The flags, the segment length and the first bits of the pointer do not overlap. -/
theorem tmHeader_octet4 : ∀ (sec sync order : Bool) (seg : BitVec 2) (hi : BitVec 3),
    let p := (bit sec <<< 7) ||| (bit sync <<< 6) ||| (bit order <<< 5) |||
      (UInt8.ofNat seg.toNat <<< 3) ||| UInt8.ofNat hi.toNat
    ((p >>> 7) &&& 0x01 != 0) = sec ∧ ((p >>> 6) &&& 0x01 != 0) = sync ∧
      ((p >>> 5) &&& 0x01 != 0) = order ∧ BitVec.ofNat 2 ((p >>> 3) &&& 0x03).toNat = seg := by
  decide +kernel

/-- The version and the length of the secondary header do not overlap. -/
theorem tmSecHdr_octet : ∀ (v : BitVec 2) (length : BitVec 6),
    let p := (UInt8.ofNat v.toNat <<< 6) ||| UInt8.ofNat length.toNat
    BitVec.ofNat 6 (p &&& 0x3f).toNat = length ∧ BitVec.ofNat 2 ((p >>> 6) &&& 0x03).toNat = v := by
  decide +kernel

/-- What comes back of a version number. -/
def readVersion (v : BitVec 2) : BitVec 2 := if v = 0 then 0 else 1

/-- The version number comes back exactly if it is 0 or 1. -/
theorem readVersion_eq_self (v : BitVec 2) : readVersion v = v ↔ v.toNat < 2 := by
  revert v
  decide

/-- Reading the header that was written gives its fields back, the version number apart.
SOURCE: osdlp_tm.c:100-114, 158-169 -/
theorem tmUnpackHdr_hdrOctets (hdr : TmPrimaryHdr) :
    tmUnpackHdr (tmHdrOctets hdr) = { hdr with versionNum := readVersion hdr.versionNum } := by
  obtain ⟨hv, hhi⟩ := tmHeader_octet0 hdr.versionNum (BitVec.ofNat 6 (hdr.spacecraftId.toNat / 16))
  obtain ⟨hlo, hvcid, hocf⟩ :=
    tmHeader_octet1 (BitVec.ofNat 4 hdr.spacecraftId.toNat) hdr.vcid hdr.ocf
  obtain ⟨hsec, hsync, horder, hseg⟩ := tmHeader_octet4 hdr.secHdr hdr.sync hdr.pktOrder hdr.segLenId
    (BitVec.ofNat 3 (hdr.firstHdrPtr.toNat / 256))
  have hptr := tmFirstHdrPtr_hdrOctets hdr
  have hscid : BitVec.ofNat 10 ((BitVec.ofNat 6 (hdr.spacecraftId.toNat / 16)).toNat * 16 +
      (BitVec.ofNat 4 hdr.spacecraftId.toNat).toNat) = hdr.spacecraftId := by
    have hlt := hdr.spacecraftId.isLt
    apply BitVec.eq_of_toNat_eq
    rw [BitVec.toNat_ofNat, BitVec.toNat_ofNat, BitVec.toNat_ofNat]
    omega
  unfold tmUnpackHdr
  rw [hptr]
  unfold tmHdrOctets readVersion
  simp only [List.getD_cons_zero, List.getD_cons_succ,
    ofNat_and_mask 6 0x3f (by decide) rfl, ofNat_and_mask 4 0x0f (by decide) rfl,
    ofNat_and_mask 3 0x07 (by decide) rfl, hv, hhi, hlo, hvcid, hocf, hsec, hsync,
    horder, hseg, hscid]

/-! ## The regions of a packed frame -/

variable {tf : TmTransferFrame}

/-- A packed frame is its body with the checksum, if there is one. -/
theorem osdlpTmPack_octets (tf : TmTransferFrame) (pktOut dataIn : List UInt8) (length : ℕ) :
    (osdlpTmPack tf pktOut dataIn length).1 =
      packCrc tf.mission (tmPackBody tf pktOut dataIn length) := by
  unfold osdlpTmPack packCrc
  split <;> rfl

/-- The checksum lies behind all other fields. -/
theorem region_packCrc (h : TmShape tf) (body : List UInt8) {off k : ℕ}
    (hin : off + k ≤ tf.mission.headerLen + tf.mission.maxDataLen +
      (if tf.primaryHdr.ocf then 4 else 0)) :
    region (packCrc tf.mission body) off k = region body off k := by
  have hframe := h.frame
  unfold packCrc
  split_ifs with hcrc
  · rw [if_pos hcrc] at hframe
    exact region_tmWriteCrc body (by omega)
  · rfl

/-- SOURCE: osdlp_tm.c:100-114 -/
theorem region_tmPackBody_hdr (h : TmShape tf) (pktOut dataIn : List UInt8) (length : ℕ) :
    region (tmPackBody tf pktOut dataIn length) 0 6 = tmHdrOctets tf.primaryHdr := by
  have hge := h.headerLen_ge
  unfold tmPackBody tmPackHeaders
  dsimp only
  rw [region_ite_memWrite_of_disjoint fun _ => .inl (by omega),
    region_ite_memWrite_of_disjoint fun _ => .inl (by omega),
    region_ite_memWrite_of_disjoint fun _ => .inl (by omega),
    region_ite_memWrite_of_disjoint fun _ => .inl (by decide)]
  exact region_memWrite_self _ _ rfl

/-- SOURCE: osdlp_tm.c:116-121 -/
theorem region_tmPackBody_secHdr (h : TmShape tf) (hsec : tf.primaryHdr.secHdr = true)
    (pktOut dataIn : List UInt8) (length : ℕ) :
    region (tmPackBody tf pktOut dataIn length) 6 1 =
      [(UInt8.ofNat tf.secondaryHdr.versionNum.toNat <<< 6) |||
        UInt8.ofNat tf.secondaryHdr.length.toNat] := by
  have hheader := h.header
  rw [if_pos hsec] at hheader
  unfold tmPackBody tmPackHeaders
  dsimp only
  rw [region_ite_memWrite_of_disjoint fun _ => .inl (by omega),
    region_ite_memWrite_of_disjoint fun _ => .inl (by omega),
    region_ite_memWrite_of_disjoint fun _ => .inl (by omega), if_pos hsec]
  have hwhole := region_memWrite_self (memWrite pktOut 0 (tmHdrOctets tf.primaryHdr))
    tmPrimaryHdrLen (show (tmSecHdrOctets tf.secondaryHdr).length = _ from rfl)
  unfold tmSecHdrOctets at hwhole ⊢
  rw [List.length_cons, Nat.add_comm, region_add] at hwhole
  have hfirst := congrArg (List.take 1) hwhole
  rw [List.take_left' (length_region _ _ _)] at hfirst
  exact hfirst

/-- SOURCE: osdlp_tm.c:127-131 -/
theorem region_tmPackBody_ocf (hocf : tf.primaryHdr.ocf = true) (hfour : tf.ocf.length = 4)
    (pktOut dataIn : List UInt8) (length : ℕ) :
    region (tmPackBody tf pktOut dataIn length) (tf.mission.headerLen + tf.mission.maxDataLen) 4 =
      tf.ocf := by
  unfold tmPackBody
  dsimp only
  rw [region_ite_memWrite_of_disjoint fun _ => .inr (by rw [List.length_replicate]; omega),
    if_pos hocf, List.take_of_length_le hfour.le]
  exact region_memWrite_self _ _ hfour

/-- The data field is written to its end. -/
theorem length_tmPackBody (pktOut : List UInt8) {dataIn : List UInt8} {length : ℕ}
    (hmax : length ≤ tf.mission.maxDataLen) (hdata : length ≤ dataIn.length)
    (hpos : 0 < tf.mission.maxDataLen) :
    tf.mission.headerLen + tf.mission.maxDataLen ≤
      (tmPackBody tf pktOut dataIn length).length := by
  unfold tmPackBody
  dsimp only
  by_cases hless : length < tf.mission.maxDataLen
  · rw [if_pos hless, length_memWrite, List.length_replicate]
    omega
  · rw [if_neg hless, if_pos (show length ≠ 0 by omega)]
    split_ifs <;> simp only [length_memWrite, List.length_take] <;> omega

/-- The checksum that is read is the one that was written.
SOURCE: osdlp_tm.c:141-150, 184-185 -/
theorem tmTrailerCrc_tmWriteCrc {n : ℕ} (hn : 2 ≤ n) (pkt : List UInt8) :
    tmTrailerCrc n (tmWriteCrc n pkt).1 = (tmWriteCrc n pkt).2 := by
  unfold tmTrailerCrc tmWriteCrc
  dsimp only
  rw [getD_memWrite, if_pos (by simp), Nat.sub_self, getD_memWrite, if_pos (by simp; omega),
    show n - 1 - (n - 2) = 1 by omega]
  exact join_octets _

end Osdlp.Interface
