import Osdlp.Model.TcFrame

/-!
# What a peer reads from a telecommand frame

The octets that `osdlp_tc_pack` writes (`osdlpTcPack_octets`), and what `osdlp_tc_unpack` and
`osdlp_frame_validation_check` make of them, whatever lies behind the frame in the receive
buffer (`osdlpTcUnpack_pack`).
-/

set_option autoImplicit false

namespace Osdlp.Interface

open Osdlp.Model Osdlp.Library

/-! ## The header -/

/-- The fields in the first octet do not overlap. -/
theorem tcHeader_octet0 : ∀ (v : BitVec 2) (b : TcBypass) (c : TcCtrl) (r h : BitVec 2),
    let p := (UInt8.ofNat v.toNat <<< 6) ||| (b.toOctet <<< 5) ||| (c.toOctet <<< 4) |||
      (UInt8.ofNat r.toNat <<< 2) ||| UInt8.ofNat h.toNat
    BitVec.ofNat 2 (p >>> 6).toNat = v ∧ TcBypass.ofOctet ((p >>> 5) &&& 0x01) = b ∧
      TcCtrl.ofOctet ((p >>> 4) &&& 0x01) = c ∧
      BitVec.ofNat 2 ((p >>> 2) &&& 0x03).toNat = r ∧ (p &&& 0x03).toNat = h.toNat := by
  intro v b c r h
  cases b <;> cases c <;> revert v r h <;> decide +kernel

/-- The virtual channel and the length do not overlap. -/
theorem tcHeader_octet2 : ∀ (v : BitVec 6) (h : BitVec 2),
    let p := (UInt8.ofNat v.toNat <<< 2) ||| UInt8.ofNat h.toNat
    BitVec.ofNat 6 (p >>> 2).toNat = v ∧ (p &&& 0x03).toNat = h.toNat := by
  decide +kernel

/-- The two high bits of a ten-bit number, as the header stores them. -/
theorem tcHeader_high (n : ℕ) :
    UInt8.ofNat (n / 256) &&& 0x03 = UInt8.ofNat (BitVec.ofNat 2 (n / 256)).toNat :=
  ofNat_and_mask 2 0x03 (by decide) rfl (n / 256)

/-- High bits and low octet make up the ten-bit number. -/
theorem tcHeader_join (n : ℕ) :
    BitVec.ofNat 10 ((BitVec.ofNat 2 (n / 256)).toNat * 256 + (UInt8.ofNat n).toNat) =
      BitVec.ofNat 10 n := by
  apply BitVec.eq_of_toNat_eq
  rw [BitVec.toNat_ofNat, BitVec.toNat_ofNat, BitVec.toNat_ofNat, UInt8.toNat_ofNat']
  omega

/-- Unpacking a header that `osdlp_tc_pack` wrote gives its fields back, with the length
and the number that were packed. -/
theorem tcUnpackHdr_header (tf : FopFrame) (packetLen : ℕ) (rest : List UInt8) :
    tcUnpackHdr (tcHeaderOctets tf packetLen ++ rest) =
      { tf.primaryHdr with
        frameLen := BitVec.ofNat 10 packetLen
        frameSeqNum := packedSeqNum tf } := by
  obtain ⟨hv, hb, hc, hr, hs⟩ := tcHeader_octet0 tf.primaryHdr.versionNum tf.primaryHdr.bypass
    tf.primaryHdr.ctrlCmd tf.primaryHdr.rsvdSpare
    (BitVec.ofNat 2 (tf.primaryHdr.spacecraftId.toNat / 256))
  obtain ⟨hvc, hl⟩ := tcHeader_octet2 tf.primaryHdr.vcid (BitVec.ofNat 2 (packetLen / 256))
  have hscid := tcHeader_join tf.primaryHdr.spacecraftId.toNat
  rw [BitVec.ofNat_toNat, BitVec.setWidth_eq] at hscid
  unfold tcUnpackHdr tcHeaderOctets packedSeqNum
  simp only [List.cons_append, List.getD_cons_zero, List.getD_cons_succ, tcHeader_high, hv, hb, hc,
    hr, hs, hvc, hl, tcHeader_join, hscid]

/-- The header has six octets with a segment header, and else five. -/
theorem length_tcHeaderOctets (tf : FopFrame) (packetLen : ℕ) :
    (tcHeaderOctets tf packetLen).length = 5 + (if tf.mission.segHdrFlag then 1 else 0) := by
  unfold tcHeaderOctets
  cases tf.mission.segHdrFlag <;> rfl

/-- The segmentation header comes back.
SOURCE: osdlp_tc.c:108-110, 146-147 -/
theorem tcSegHdr_octet : ∀ (flag : TcSeqFlag) (mapId : BitVec 6),
    let p := (flag.toOctet <<< 6) ||| UInt8.ofNat mapId.toNat
    TcSeqFlag.ofOctet (p >>> 6) = flag ∧ BitVec.ofNat 6 (p &&& 0x3f).toNat = mapId := by
  intro flag mapId
  cases flag <;> revert mapId <;> decide +kernel

/-! ## The octets of a frame -/

/-- What is packed in front of the checksum. -/
def tcBody (tf : FopFrame) (data : List UInt8) : List UInt8 :=
  tcHeaderOctets tf (tf.mission.fixedOverheadLen + data.length - 1) ++ data

/-- The checksum, if there is one. -/
def tcTrailer (tf : FopFrame) (data : List UInt8) : List UInt8 :=
  let crc := osdlpCalcCrc (tcBody tf data) (tcBody tf data).length
  if tf.mission.crcFlag then [UInt8.ofNat (crc.toNat / 256), UInt8.ofNat crc.toNat] else []

/-- Packing copies the data that belong to the frame. -/
theorem osdlpTcPack_payload (tf : FopFrame) {d : TcFdf} (h : d.dataLen ≤ d.data.length) :
    osdlpTcPack tf d.data d.dataLen = osdlpTcPack tf d.payload d.payload.length := by
  have hlen : d.payload.length = d.dataLen := List.length_take_of_le h
  have htake : d.payload.take d.dataLen = d.data.take d.dataLen := by
    unfold TcFdf.payload
    rw [List.take_take, Nat.min_self]
  unfold osdlpTcPack
  rw [hlen, htake]

section Packed

variable {tf : FopFrame} {data : List UInt8}

/-- There is a primary header at least. -/
theorem overhead_ge (hover : tf.mission.fixedOverheadLen = tf.mission.overhead) :
    5 ≤ tf.mission.fixedOverheadLen := by
  rw [hover]
  unfold TcMissionParams.overhead
  omega

/-- Header, data and checksum make up the frame. -/
theorem length_tcBody (data : List UInt8)
    (hover : tf.mission.fixedOverheadLen = tf.mission.overhead) :
    (tcBody tf data).length + (if tf.mission.crcFlag then 2 else 0) =
      tf.mission.fixedOverheadLen + data.length := by
  unfold tcBody
  rw [List.length_append, length_tcHeaderOctets, hover]
  unfold TcMissionParams.overhead
  omega

/-- A packed frame is its header, its data and its checksum.
SOURCE: osdlp_tc.c:123-160 -/
theorem osdlpTcPack_octets (hover : tf.mission.fixedOverheadLen = tf.mission.overhead)
    (hlen : tf.mission.fixedOverheadLen + data.length ≤ 1024) :
    (osdlpTcPack tf data data.length).1 = tcBody tf data ++ tcTrailer tf data ∧
      (tf.mission.crcFlag = true → (osdlpTcPack tf data data.length).2.crc =
        osdlpCalcCrc (tcBody tf data) (tcBody tf data).length) := by
  have hpos := overhead_ge hover
  have hpl : u16 (tf.mission.fixedOverheadLen + data.length - 1) =
      tf.mission.fixedOverheadLen + data.length - 1 := by
    unfold u16
    omega
  have hbody := length_tcBody data hover
  unfold osdlpTcPack tcTrailer
  rw [hpl, List.take_length]
  cases hcrc : tf.mission.crcFlag with
  | false =>
    refine ⟨?_, fun h => absurd h (by decide)⟩
    simp [tcBody]
  | true =>
    rw [hcrc, if_pos rfl] at hbody
    have hend : tf.mission.fixedOverheadLen + data.length - 1 - 1 = (tcBody tf data).length := by
      omega
    simp only [if_true]
    rw [hend]
    exact ⟨memWrite_length _ _, fun _ => rfl⟩

/-- A packed frame has the length that its field says. -/
theorem length_osdlpTcPack (hover : tf.mission.fixedOverheadLen = tf.mission.overhead)
    (hlen : tf.mission.fixedOverheadLen + data.length ≤ 1024) :
    (osdlpTcPack tf data data.length).1.length = tf.mission.fixedOverheadLen + data.length := by
  have hbody := length_tcBody data hover
  rw [(osdlpTcPack_octets hover hlen).1, List.length_append, ← hbody]
  unfold tcTrailer
  split_ifs <;> rfl

/-! ## The frame that a peer unpacks -/

variable {Cop : Type} {rx : TcTransferFrame Cop}

/-- A peer with the same framing recovers the header, the segment header and the data,
whatever lies behind the frame.
SOURCE: osdlp_tc.c:87-121 -/
theorem osdlpTcUnpack_pack (hover : tf.mission.fixedOverheadLen = tf.mission.overhead)
    (hlen : tf.mission.fixedOverheadLen + data.length ≤ 1024)
    (hseg : rx.mission.segHdrFlag = tf.mission.segHdrFlag)
    (hfix : rx.mission.fixedOverheadLen = tf.mission.fixedOverheadLen) (rest : List UInt8) :
    let peer := osdlpTcUnpack rx ((osdlpTcPack tf data data.length).1 ++ rest)
    peer.primaryHdr =
        { tf.primaryHdr with
          frameLen := BitVec.ofNat 10 (tf.mission.fixedOverheadLen + data.length - 1)
          frameSeqNum := packedSeqNum tf } ∧
      (tf.mission.segHdrFlag = true → peer.frameData.segHdr = tf.frameData.segHdr) ∧
      peer.frameData.dataLen = data.length ∧ peer.frameData.payload = data := by
  have hpos := overhead_ge hover
  have hpacked : (osdlpTcPack tf data data.length).1 ++ rest =
      tcHeaderOctets tf (tf.mission.fixedOverheadLen + data.length - 1) ++
        (data ++ (tcTrailer tf data ++ rest)) := by
    rw [(osdlpTcPack_octets hover hlen).1]
    unfold tcBody
    simp only [List.append_assoc]
  have hhdr := tcUnpackHdr_header tf (tf.mission.fixedOverheadLen + data.length - 1)
    (data ++ (tcTrailer tf data ++ rest))
  have hheader := length_tcHeaderOctets tf (tf.mission.fixedOverheadLen + data.length - 1)
  rw [hpacked]
  intro peer
  have hdata : peer.frameData.data = data ++ (tcTrailer tf data ++ rest) := by
    show (if rx.mission.segHdrFlag = true then _ else _) = _
    rw [hseg]
    split_ifs with hflag
    · rw [if_pos hflag] at hheader
      exact List.drop_left' hheader
    · rw [if_neg hflag] at hheader
      exact List.drop_left' hheader
  have hdataLen : peer.frameData.dataLen = data.length := by
    show u16 ((tcUnpackHdr _).frameLen.toNat + 1 - rx.mission.fixedOverheadLen) = _
    rw [hhdr, hfix]
    simp only [BitVec.toNat_ofNat]
    unfold u16
    omega
  refine ⟨hhdr, fun hflag => ?_, hdataLen, ?_⟩
  · obtain ⟨hseqFlag, hmapId⟩ := tcSegHdr_octet tf.frameData.segHdr.seqFlag tf.frameData.segHdr.mapId
    show (if rx.mission.segHdrFlag = true then _ else _) = _
    rw [hseg, if_pos hflag]
    unfold tcHeaderOctets
    simp only [hflag, if_true, List.cons_append, List.nil_append, List.getD_cons_zero,
      List.getD_cons_succ, hseqFlag, hmapId]
  · unfold TcFdf.payload
    rw [hdata, hdataLen, List.take_left]

/-- The checksum that is read is the one that was packed, and the one that is computed.
SOURCE: osdlp_tc.c:117-120, 154-159, 171-180 -/
theorem trailerCrc_pack (hover : tf.mission.fixedOverheadLen = tf.mission.overhead)
    (hlen : tf.mission.fixedOverheadLen + data.length ≤ 1024) (hcrc : tf.mission.crcFlag = true)
    (rest : List UInt8) :
    let frame := (osdlpTcPack tf data data.length).1 ++ rest
    let frameLen := tf.mission.fixedOverheadLen + data.length - 1
    trailerCrc frame frameLen = (osdlpTcPack tf data data.length).2.crc ∧
      osdlpCalcCrc frame (frameLen - 1) = (osdlpTcPack tf data data.length).2.crc := by
  have hbody := length_tcBody data hover
  have hpos := overhead_ge hover
  rw [if_pos hcrc] at hbody
  obtain ⟨hoctets, hpacked⟩ := osdlpTcPack_octets hover hlen
  intro frame frameLen
  have hframe : frame = tcBody tf data ++ (tcTrailer tf data ++ rest) := by
    show _ ++ rest = _
    rw [hoctets, List.append_assoc]
  have hend : frameLen - 1 = (tcBody tf data).length := by omega
  rw [hpacked hcrc]
  constructor
  · have hhi : octetAt frame ((frameLen : ℤ) - 1) = (tcTrailer tf data).getD 0 0 := by
      unfold octetAt
      rw [if_pos (by omega), show ((frameLen : ℤ) - 1).toNat = (tcBody tf data).length by omega,
        hframe, List.getD_append_right _ _ _ _ (Nat.le_refl _), Nat.sub_self]
      unfold tcTrailer
      rw [if_pos hcrc]
      rfl
    have hlo : octetAt frame (frameLen : ℤ) = (tcTrailer tf data).getD 1 0 := by
      unfold octetAt
      rw [if_pos (by omega), show (frameLen : ℤ).toNat = (tcBody tf data).length + 1 by omega,
        hframe, List.getD_append_right _ _ _ _ (by omega), Nat.add_sub_cancel_left]
      unfold tcTrailer
      rw [if_pos hcrc]
      rfl
    unfold trailerCrc
    rw [hhi, hlo]
    unfold tcTrailer
    rw [if_pos hcrc]
    exact join_octets _
  · unfold osdlpCalcCrc
    rw [hend, hframe, List.take_left, List.take_length]

/-- The frame passes the validation of a peer for which it is meant.
SOURCE: osdlp_tc.c:162-182 -/
theorem osdlpFrameValidationCheck_pack
    (hover : tf.mission.fixedOverheadLen = tf.mission.overhead)
    (hlen : tf.mission.fixedOverheadLen + data.length ≤ 1024)
    (hseg : rx.mission.segHdrFlag = tf.mission.segHdrFlag)
    (hfix : rx.mission.fixedOverheadLen = tf.mission.fixedOverheadLen)
    (hcrcFlag : rx.mission.crcFlag = tf.mission.crcFlag)
    (hversion : rx.mission.versionNum.toNat = tf.primaryHdr.versionNum.toNat)
    (hscid : rx.mission.spacecraftId.toNat = tf.primaryHdr.spacecraftId.toNat)
    (rest : List UInt8) :
    let frame := (osdlpTcPack tf data data.length).1 ++ rest
    osdlpFrameValidationCheck (osdlpTcUnpack rx frame) frame = 0 := by
  have hpos := overhead_ge hover
  obtain ⟨hhdr, -, -, -⟩ := osdlpTcUnpack_pack hover hlen hseg hfix rest
  intro frame
  have hframeLen : (osdlpTcUnpack rx frame).primaryHdr.frameLen.toNat =
      tf.mission.fixedOverheadLen + data.length - 1 := by
    rw [hhdr, BitVec.toNat_ofNat]
    omega
  unfold osdlpFrameValidationCheck
  dsimp only
  rw [hframeLen, if_neg, if_neg, if_neg]
  · rintro ⟨hflag, hne⟩
    obtain ⟨hread, hcomputed⟩ := trailerCrc_pack hover hlen (hcrcFlag.symm.trans hflag) rest
    apply hne
    rw [show (tf.mission.fixedOverheadLen + data.length - 1 + 2 ^ 32 - 1) % 2 ^ 32 =
      tf.mission.fixedOverheadLen + data.length - 1 - 1 by omega]
    exact hcomputed.trans hread.symm
  · rw [not_not, hhdr]
    exact hscid
  · rw [not_not, hhdr]
    exact hversion

/-! ## A numbered frame -/

/-- Whoever unpacks the octets with the framing of `m` gets a type-A frame of that number with the
given data and, if there is one, the given segment header. -/
def UnpacksTo (m : TcMissionParams) (octets : List UInt8) (num : UInt8) (d : TcFdf) : Prop :=
  ∀ rx : TcTransferFrame FarmConfig, rx.mission.segHdrFlag = m.segHdrFlag →
    rx.mission.fixedOverheadLen = m.fixedOverheadLen →
    let peer := osdlpTcUnpack rx octets
    peer.primaryHdr.bypass = .typeA ∧ peer.primaryHdr.frameSeqNum = num ∧
      peer.frameData.payload = d.payload ∧
      (m.segHdrFlag = true → peer.frameData.segHdr = d.segHdr)

/-- Packing takes the type and the segment header from the frame structure, so it makes the
numbered frame of `d` exactly if the structure holds those of `d`.
SOURCE: osdlp_tc.c:124-159 -/
theorem unpacksTo_pack_iff {d : TcFdf} (hover : tf.mission.fixedOverheadLen = tf.mission.overhead)
    (hdata : d.dataLen ≤ d.data.length)
    (hlen : tf.mission.fixedOverheadLen + d.dataLen ≤ 1024) :
    UnpacksTo tf.mission (osdlpTcPack tf d.data d.dataLen).1 tf.copCfg.vs d ↔
      tf.primaryHdr.bypass = .typeA ∧
        (tf.mission.segHdrFlag = true → tf.frameData.segHdr = d.segHdr) := by
  have hpayload : d.payload.length = d.dataLen := List.length_take_of_le hdata
  have hunpack := fun (rx : TcTransferFrame FarmConfig)
      (hseg : rx.mission.segHdrFlag = tf.mission.segHdrFlag)
      (hfix : rx.mission.fixedOverheadLen = tf.mission.fixedOverheadLen) =>
    osdlpTcUnpack_pack hover
      (show tf.mission.fixedOverheadLen + d.payload.length ≤ 1024 by omega) hseg hfix []
  rw [osdlpTcPack_payload tf hdata]
  constructor
  · intro h
    let rx : TcTransferFrame FarmConfig :=
      { (default : TcTransferFrame FarmConfig) with mission := tf.mission }
    obtain ⟨hhdr, hsegHdr, -, -⟩ := hunpack rx rfl rfl
    obtain ⟨hbypass, -, -, hsegHdr'⟩ := h rx rfl rfl
    rw [List.append_nil] at hhdr hsegHdr
    rw [hhdr] at hbypass
    exact ⟨hbypass, fun hflag => (hsegHdr hflag).symm.trans (hsegHdr' hflag)⟩
  · rintro ⟨htype, hagrees⟩ rx hseg hfix
    obtain ⟨hhdr, hsegHdr, -, hdata⟩ := hunpack rx hseg hfix
    rw [List.append_nil] at hhdr hsegHdr hdata
    refine ⟨?_, ?_, hdata, fun hflag => (hsegHdr hflag).trans (hagrees hflag)⟩
    · rw [hhdr]
      exact htype
    · rw [hhdr]
      show packedSeqNum tf = _
      unfold packedSeqNum
      rw [htype]

end Packed

end Osdlp.Interface
