import Osdlp.Interface.TmCodec

/-!
# The round trip of a telemetry frame

A peer recovers every field of a packed frame but the version number, of which
`osdlp_tm_unpack` keeps only whether it is zero (`recovers_iff`).
-/

set_option autoImplicit false

namespace Osdlp.Analysis

open Osdlp.Model Osdlp.Interface Osdlp.Library

/-- The peer has what was packed: the header fields, the data field with idle octets behind the
data, and the OCF and the checksum where there are any. -/
structure Recovers (tx : TmTransferFrame) (crc : UInt16) (data : List UInt8)
    (peer : TmTransferFrame) : Prop where
  hdr : peer.primaryHdr = tx.primaryHdr
  secHdr : tx.primaryHdr.secHdr = true →
    peer.secondaryHdr.versionNum = tx.secondaryHdr.versionNum ∧
      peer.secondaryHdr.length = tx.secondaryHdr.length
  ocf : tx.primaryHdr.ocf = true → peer.ocf = tx.ocf
  crc : tx.mission.crcPresent = true → peer.crc = crc
  data : peer.data.take tx.mission.maxDataLen =
    data ++ List.replicate (tx.mission.maxDataLen - data.length) tmIdlePacket

/-- The header is read from its six octets. -/
theorem tmUnpackHdr_congr {pkt pkt' : List UInt8} (h : region pkt 0 6 = region pkt' 0 6) :
    tmUnpackHdr pkt = tmUnpackHdr pkt' := by
  have hoctet : ∀ i < 6, pkt.getD i 0 = pkt'.getD i 0 := by
    intro i hi
    have hread := congrArg (fun l => l.getD i 0) h
    simp only [getD_region _ _ _ _ hi, Nat.zero_add] at hread
    exact hread
  unfold tmUnpackHdr tmFirstHdrPtr
  rw [hoctet 0 (by decide), hoctet 1 (by decide), hoctet 2 (by decide), hoctet 3 (by decide),
    hoctet 4 (by decide), hoctet 5 (by decide)]

variable {tx rx : TmTransferFrame} {data : List UInt8}

/-- What a peer with the same mission parameters reads.
SOURCE: osdlp_tm.c:96-187 -/
theorem osdlpTmUnpack_pack (hshape : TmShape tx) (htxOcf : tx.ocf.length = 4)
    (hrxOcf : rx.ocf.length = 4)
    (hmission : rx.mission = { tx.mission with util := rx.mission.util })
    (pktOut : List UInt8) (hdata : data.length ≤ tx.mission.maxDataLen) :
    let packed := osdlpTmPack tx pktOut data data.length
    let peer := osdlpTmUnpack rx packed.1
    peer.primaryHdr = { tx.primaryHdr with versionNum := readVersion tx.primaryHdr.versionNum } ∧
      (tx.primaryHdr.secHdr = true → peer.secondaryHdr.versionNum = tx.secondaryHdr.versionNum ∧
        peer.secondaryHdr.length = tx.secondaryHdr.length) ∧
      (tx.primaryHdr.ocf = true → peer.ocf = tx.ocf) ∧
      (tx.mission.crcPresent = true → peer.crc = packed.2.crc) ∧
      peer.data.take tx.mission.maxDataLen =
        data ++ List.replicate (tx.mission.maxDataLen - data.length) tmIdlePacket := by
  intro packed peer
  have hge := hshape.headerLen_ge
  have hframe := hshape.frame
  have hpacked : packed.1 = packCrc tx.mission (tmPackBody tx pktOut data data.length) :=
    osdlpTmPack_octets tx pktOut data data.length
  -- the checksum lies behind every region that the peer reads
  have hhdr : tmUnpackHdr packed.1 =
      { tx.primaryHdr with versionNum := readVersion tx.primaryHdr.versionNum } := by
    rw [← tmUnpackHdr_hdrOctets, hpacked]
    refine tmUnpackHdr_congr ?_
    rw [region_packCrc hshape _ (by omega), region_tmPackBody_hdr hshape]
    exact (region_self (tmHdrOctets tx.primaryHdr)).symm
  have hfields : rx.mission.headerLen = tx.mission.headerLen ∧
      rx.mission.maxDataLen = tx.mission.maxDataLen ∧ rx.mission.frameLen = tx.mission.frameLen ∧
      rx.mission.crcPresent = tx.mission.crcPresent := by
    rw [hmission]
    exact ⟨rfl, rfl, rfl, rfl⟩
  obtain ⟨hheaderLen, hmaxDataLen, hframeLen, hcrcPresent⟩ := hfields
  refine ⟨hhdr, fun hsec => ?_, fun hocf => ?_, fun hcrc => ?_, ?_⟩
  · have hread : packed.1.getD 6 0 = (UInt8.ofNat tx.secondaryHdr.versionNum.toNat <<< 6) |||
        UInt8.ofNat tx.secondaryHdr.length.toNat := by
      have hregion := region_packCrc hshape (tmPackBody tx pktOut data data.length)
        (show 6 + 1 ≤ _ by have hheader := hshape.header; rw [if_pos hsec] at hheader; omega)
      rw [← hpacked, region_tmPackBody_secHdr hshape hsec] at hregion
      have hfirst := congrArg (fun l => l.getD 0 0) hregion
      exact (getD_region packed.1 6 1 0 (by decide)).symm.trans hfirst
    obtain ⟨hlength, hversion⟩ := tmSecHdr_octet tx.secondaryHdr.versionNum tx.secondaryHdr.length
    have hsec' : (tmUnpackHdr packed.1).secHdr = true := by
      rw [hhdr]
      exact hsec
    show (if (tmUnpackHdr packed.1).secHdr = true then _ else _ : TmSecHdr).versionNum = _ ∧
      (if (tmUnpackHdr packed.1).secHdr = true then _ else _ : TmSecHdr).length = _
    rw [if_pos hsec', hread]
    exact ⟨hversion, hlength⟩
  · have hregion := region_packCrc hshape (tmPackBody tx pktOut data data.length)
      (show tx.mission.headerLen + tx.mission.maxDataLen + 4 ≤ _ by rw [if_pos hocf])
    rw [← hpacked, region_tmPackBody_ocf hocf htxOcf] at hregion
    have hocf' : (tmUnpackHdr packed.1).ocf = true := by
      rw [hhdr]
      exact hocf
    show (if (tmUnpackHdr packed.1).ocf = true then memWrite rx.ocf 0
      (region packed.1 (rx.mission.headerLen + rx.mission.maxDataLen) 4) else rx.ocf) = _
    rw [if_pos hocf', hheaderLen, hmaxDataLen, hregion]
    unfold memWrite
    rw [htxOcf, List.drop_eq_nil_of_le (by omega)]
    simp
  · -- the trailer is read from the frame, not computed again
    show (if rx.mission.crcPresent = true then tmTrailerCrc rx.mission.frameLen packed.1
      else rx.crc) = _
    rw [hcrcPresent, if_pos hcrc, hframeLen]
    show tmTrailerCrc tx.mission.frameLen (osdlpTmPack tx pktOut data data.length).1 =
      (osdlpTmPack tx pktOut data data.length).2.crc
    unfold osdlpTmPack
    rw [if_pos hcrc] at hframe ⊢
    exact tmTrailerCrc_tmWriteCrc (by omega) _
  · show (packed.1.drop rx.mission.headerLen).take tx.mission.maxDataLen = _
    rcases Nat.eq_zero_or_pos tx.mission.maxDataLen with hzero | hpos
    · rw [hzero] at hdata ⊢
      rw [List.length_eq_zero_iff.mp (Nat.le_zero.mp hdata)]
      simp
    · have hbody := @length_tmPackBody tx pktOut data _ hdata (Nat.le_refl _) hpos
      have hlen : tx.mission.headerLen + tx.mission.maxDataLen ≤ packed.1.length := by
        rw [hpacked]
        unfold packCrc
        split_ifs
        · rw [length_tmWriteCrc]
          omega
        · exact hbody
      rw [hheaderLen, drop_take_eq_region hlen, hpacked, region_packCrc hshape _ (by omega),
        region_tmPackBody tx pktOut hdata (Nat.le_refl _), List.take_length]

/-- **The round trip of a telemetry frame.** -/
theorem recovers_iff (hshape : TmShape tx) (htxOcf : tx.ocf.length = 4)
    (hrxOcf : rx.ocf.length = 4)
    (hmission : rx.mission = { tx.mission with util := rx.mission.util })
    (pktOut : List UInt8) (hdata : data.length ≤ tx.mission.maxDataLen) :
    Recovers tx (osdlpTmPack tx pktOut data data.length).2.crc data
        (osdlpTmUnpack rx (osdlpTmPack tx pktOut data data.length).1) ↔
      tx.primaryHdr.versionNum.toNat < 2 := by
  obtain ⟨hhdr, hsec, hocf, hcrc, hfield⟩ :=
    osdlpTmUnpack_pack hshape htxOcf hrxOcf hmission pktOut hdata
  rw [← readVersion_eq_self]
  constructor
  · intro hrecovers
    have hversion := congrArg TmPrimaryHdr.versionNum (hhdr.symm.trans hrecovers.hdr)
    exact hversion
  · intro hversion
    refine ⟨?_, hsec, hocf, hcrc, hfield⟩
    rw [hhdr, hversion]

/-- A frame with all its regions, and room for four octets. -/
def roundTripFrame (versionNum : BitVec 2) : TmTransferFrame :=
  { primaryHdr :=
      { versionNum := versionNum, spacecraftId := 0x2a5, vcid := 3, ocf := true, mcFrameCnt := 9
        vcFrameCnt := 7, secHdr := true, sync := false, pktOrder := false, segLenId := 3
        firstHdrPtr := 0 }
    secondaryHdr := { versionNum := 0, length := 2, dataField := [0xa, 0xb] }
    ocf := [1, 2, 3, 4]
    crc := 0
    data := []
    mission :=
      { util := default, frameLen := 19, headerLen := 9, maxDataLen := 4, maxSduLen := 64
        crcPresent := true, vcid := 3, stuffState := .stuffingOff } }

/-- Version 1 comes back. -/
theorem recovers_iff_version1 :
    Recovers (roundTripFrame 1) (osdlpTmPack (roundTripFrame 1) [] [8, 9] 2).2.crc [8, 9]
      (osdlpTmUnpack (roundTripFrame 0) (osdlpTmPack (roundTripFrame 1) [] [8, 9] 2).1) := by
  have hshape : TmShape (roundTripFrame 1) := ⟨by decide, by decide⟩
  have hdata : ([8, 9] : List UInt8).length ≤ (roundTripFrame 1).mission.maxDataLen := by decide
  apply (recovers_iff hshape rfl rfl rfl [] hdata).mpr
  decide

/-- Version 2 comes back as 1. -/
theorem not_recovers_version2 :
    ¬ Recovers (roundTripFrame 2) (osdlpTmPack (roundTripFrame 2) [] [8, 9] 2).2.crc [8, 9]
      (osdlpTmUnpack (roundTripFrame 0) (osdlpTmPack (roundTripFrame 2) [] [8, 9] 2).1) := by
  intro hrecovers
  have hhdr := congrArg TmPrimaryHdr.versionNum hrecovers.hdr
  revert hhdr
  decide +kernel

end Osdlp.Analysis
