import Osdlp.Interface.CrcRegister
import Osdlp.Interface.TmFrame
import Osdlp.Model.TmReceive

/-!
# Bursts of errors in telemetry

Errors that all lie within sixteen consecutive bits of a telemetry frame, wherever they lie in it,
are noticed: the checksum over the received octets is not the one that was received, and
`osdlp_tm_receive` drops the frame without a trace (`burst_detected`).
-/

set_option autoImplicit false

namespace Osdlp.Analysis

open Osdlp.Model Osdlp.Interface Osdlp.Library

/-- The frame with errors. -/
def corrupted (frame errors : List UInt8) : List UInt8 := List.zipWith (· ^^^ ·) frame errors

/-- There are errors, and they lie within sixteen consecutive bits. -/
structure IsBurst (errors : List UInt8) : Prop where
  nonzero : true ∈ bits errors
  confined : ConfinedTo 16 (bits errors)

/-- The checksum of a frame that passes the check does not survive a burst. -/
theorem crc_corrupted_ne {frame errors : List UInt8} {n : ℕ} (hn : 2 ≤ n)
    (hframe : frame.length = n)
    (hcrc : osdlpCalcCrc frame (n - 2) = tmTrailerCrc n frame) (herrors : errors.length = n)
    (hburst : IsBurst errors) :
    osdlpCalcCrc (corrupted frame errors) (n - 2) ≠ tmTrailerCrc n (corrupted frame errors) := by
  have hlen : (corrupted frame errors).length = n := by
    simp [corrupted, hframe, herrors]
  have hbits : bits (corrupted frame errors) = List.zipWith Bool.xor (bits frame) (bits errors) :=
    bits_xor (hframe.trans herrors.symm)
  have hfed : feed crcGenerator 0xffff#16 (bits (corrupted frame errors)) =
      feed crcGenerator 0#16 (bits errors) := by
    have hclear := (crcMatches_iff_clear hn hframe).mp hcrc
    have hlinear := feed_xor crcGenerator
      (show (bits frame).length = (bits errors).length by
        rw [length_bits, length_bits, hframe, herrors]) 0xffff#16 0#16
    rw [hclear, BitVec.zero_xor, BitVec.xor_zero, ← hbits] at hlinear
    exact hlinear
  rw [ne_eq, crcMatches_iff_clear hn hlen, hfed]
  exact feed_ne_zero_of_burst (by decide) hburst.nonzero hburst.confined

/-- A frame whose checksum does not match is dropped.
SOURCE: osdlp_tm.c:748-759 -/
theorem osdlpTmReceive_wrongCrc (getPacketLen : GetPacketLen) (fuel : ℕ) {rxConfig : Int}
    (hconfig : 0 ≤ rxConfig) {r : TmReceiver} (hpresent : r.tf.mission.crcPresent = true)
    {dataIn : List UInt8}
    (hcrc : osdlpCalcCrc dataIn (r.tf.mission.frameLen - 2) ≠
      tmTrailerCrc r.tf.mission.frameLen dataIn) :
    osdlpTmReceive getPacketLen fuel rxConfig r dataIn =
      some (-TmRxResult.wrongCrc.code, { r with tf := osdlpTmUnpack r.tf dataIn }) := by
  have hread : osdlpCalcCrc dataIn ((osdlpTmUnpack r.tf dataIn).mission.frameLen - 2) ≠
      (osdlpTmUnpack r.tf dataIn).crc := by
    rw [show (osdlpTmUnpack r.tf dataIn).crc = tmTrailerCrc r.tf.mission.frameLen dataIn from
      if_pos hpresent]
    exact hcrc
  unfold osdlpTmReceive
  rw [if_neg (by omega)]
  exact if_pos hread

/-- **Every burst of at most sixteen bits is noticed.**  The frame may be any that `osdlp_tm_pack`
writes with a checksum, and the receiver may be in any state.
SOURCE: osdlp_crc.c:23-66, osdlp_tm.c:96-153, 748-772 -/
theorem burst_detected {tx : TmTransferFrame} (hpresent : tx.mission.crcPresent = true)
    (hframeLen : 2 ≤ tx.mission.frameLen) (pktOut dataIn : List UInt8) (length : ℕ)
    {errors : List UInt8} (herrors : errors.length = tx.mission.frameLen)
    (hburst : IsBurst errors) :
    let frame := region (osdlpTmPack tx pktOut dataIn length).1 0 tx.mission.frameLen
    let received := corrupted frame errors
    osdlpCalcCrc received (tx.mission.frameLen - 2) ≠ tmTrailerCrc tx.mission.frameLen received ∧
      ∀ (getPacketLen : GetPacketLen) (fuel : ℕ) (rxConfig : Int) (r : TmReceiver), 0 ≤ rxConfig →
        r.tf.mission.crcPresent = true → r.tf.mission.frameLen = tx.mission.frameLen →
        ∃ r', osdlpTmReceive getPacketLen fuel rxConfig r received =
            some (-TmRxResult.wrongCrc.code, r') ∧
          r'.tf.mission = r.tf.mission ∧ r'.delivered = r.delivered ∧ r'.answers = r.answers := by
  intro frame received
  have hmatches : osdlpCalcCrc frame (tx.mission.frameLen - 2) =
      tmTrailerCrc tx.mission.frameLen frame := by
    have hframe : frame = region
        (tmWriteCrc tx.mission.frameLen (tmPackBody tx pktOut dataIn length)).1 0
        tx.mission.frameLen := by
      show region (osdlpTmPack tx pktOut dataIn length).1 0 _ = _
      unfold osdlpTmPack
      rw [if_pos hpresent]
    rw [hframe]
    exact tmWriteCrc_sound hframeLen _
  have hne := crc_corrupted_ne hframeLen (length_region _ _ _) hmatches herrors hburst
  refine ⟨hne, fun getPacketLen fuel rxConfig r hconfig hrx hsame => ?_⟩
  refine ⟨_, osdlpTmReceive_wrongCrc getPacketLen fuel hconfig hrx ?_, rfl, rfl, rfl⟩
  rw [hsame]
  exact hne

/-! ## Sixteen bits across the checksum -/

/-- Sixteen wrong bits at the end of a frame of nineteen octets, the last one apart. -/
def sixteenErrors : List UInt8 := List.replicate 16 0 ++ [0x01, 0xff, 0xfe]

/-- Sixteen wrong bits in a row. -/
theorem isBurst_sixteenErrors : IsBurst sixteenErrors := by
  refine ⟨by decide +kernel, 135, fun j hj => ?_⟩
  have hin : ∀ j < 152, (bits sixteenErrors).getD j false = true → 135 ≤ j ∧ j < 135 + 16 := by
    decide +kernel
  rcases Nat.lt_or_ge j 152 with hlt | hge
  · exact hin j hlt hj
  · rw [List.getD_eq_default _ _ (by rw [length_bits]; exact hge)] at hj
    exact absurd hj (by decide)

/-- A frame with four octets of data and a checksum. -/
def smallFrame : TmTransferFrame :=
  { (default : TmTransferFrame) with
    mission :=
      { (default : TmMissionParams) with
        frameLen := 19, headerLen := 9, maxDataLen := 8, crcPresent := true } }

/-- The burst reaches from the data field over the whole checksum but its last bit. -/
theorem burst_detected_sixteen :
    let frame := region (osdlpTmPack smallFrame [] [7, 8] 2).1 0 19
    osdlpCalcCrc (corrupted frame sixteenErrors) 17 ≠
        tmTrailerCrc 19 (corrupted frame sixteenErrors) ∧
      (osdlpTmReceive (fun _ _ => none) 1 0 { tf := smallFrame, delivered := [], answers := [] }
        (corrupted frame sixteenErrors)).map Prod.fst = some (-5) := by
  obtain ⟨hne, hreceive⟩ := @burst_detected smallFrame rfl (by decide) [] [7, 8] 2 sixteenErrors
    rfl isBurst_sixteenErrors
  obtain ⟨r', hdropped, -⟩ := hreceive (fun _ _ => none) 1 0
    { tf := smallFrame, delivered := [], answers := [] } (Int.le_refl 0) rfl rfl
  refine ⟨hne, ?_⟩
  exact congrArg (Option.map Prod.fst) hdropped

end Osdlp.Analysis
