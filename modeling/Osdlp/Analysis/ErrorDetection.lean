import Osdlp.Library.ErrorDetection
import Osdlp.Analysis.TmBurst
import Osdlp.Interface.TcCodec
import Osdlp.Model.TcReceive

/-!
# Errors in frames of either direction

The generator has an even number of terms, and its register does not come back within the 16384
bits of the longest frame.  So the checksum notices, besides bursts, every odd number of wrong bits
and every three of them, wherever they lie in a telemetry frame (`few_errors_detected`).  In a
telecommand frame the checksum is looked for where the length field says.  Errors that leave this
field alone are noticed in the same way, and touch neither FARM-1 nor the reassembly
(`tc_errors_detected`).
-/

set_option autoImplicit false

namespace Osdlp.Analysis

open Osdlp.Model Osdlp.Interface Osdlp.Library

/-! ## What the checksum is good for -/

/-- The number of wrong bits. -/
def wrongBits (errors : List UInt8) : ℕ := (bits errors).count true

/-- The errors are a burst, or odd in number, or at most three. -/
def Noticeable (errors : List UInt8) : Prop :=
  IsBurst errors ∨ Odd (wrongBits errors) ∨ (true ∈ bits errors ∧ wrongBits errors ≤ 3)

theorem parity_crcGenerator : parity crcGenerator = 1 := by decide

/-- The register does not come back within 2048 octets. -/
theorem crcGenerator_comesBack : comesBack crcGenerator crcGenerator 16383 crcGenerator = false := by
  decide +kernel

/-- Such errors leave a trace in the register.
SOURCE: osdlp_crc.c:23-66 -/
theorem feed_ne_zero_of_noticeable {errors : List UInt8} (hlen : errors.length ≤ 2048)
    (h : Noticeable errors) : feed crcGenerator 0#16 (bits errors) ≠ 0#16 := by
  have hconstant : crcGenerator.getLsbD 0 = true := by decide
  rcases h with hburst | hodd | ⟨hone, hfew⟩
  · exact feed_ne_zero_of_burst hconstant hburst.nonzero hburst.confined
  · exact feed_ne_zero_of_odd parity_crcGenerator hodd
  · refine feed_ne_zero_of_few hconstant parity_crcGenerator hone hfew fun k hpos hk => ?_
    rw [length_bits] at hk
    exact iterate_ne_of_comesBack crcGenerator_comesBack hpos (by omega)

/-- What a frame that clears the register leaves there with errors in it is what the errors leave
alone. -/
theorem feed_corrupted {frame errors : List UInt8} (hlen : frame.length = errors.length)
    (hclear : feed crcGenerator 0xffff#16 (bits frame) = 0#16) :
    feed crcGenerator 0xffff#16 (bits (corrupted frame errors)) =
      feed crcGenerator 0#16 (bits errors) := by
  have hlinear := feed_xor crcGenerator
    (show (bits frame).length = (bits errors).length by rw [length_bits, length_bits, hlen])
    0xffff#16 0#16
  rw [hclear, BitVec.zero_xor, BitVec.xor_zero] at hlinear
  unfold corrupted
  rw [bits_xor hlen]
  exact hlinear

/-- The checksum of a frame that passes the check does not survive such errors. -/
theorem crc_corrupted_ne_of_noticeable {frame errors : List UInt8} {n : ℕ} (hn : 2 ≤ n)
    (hlong : n ≤ 2048) (hframe : frame.length = n)
    (hcrc : osdlpCalcCrc frame (n - 2) = tmTrailerCrc n frame) (herrors : errors.length = n)
    (h : Noticeable errors) :
    osdlpCalcCrc (corrupted frame errors) (n - 2) ≠ tmTrailerCrc n (corrupted frame errors) := by
  have hlen : (corrupted frame errors).length = n := by
    simp [corrupted, hframe, herrors]
  have hclear := (crcMatches_iff_clear hn hframe).mp hcrc
  rw [ne_eq, crcMatches_iff_clear hn hlen, feed_corrupted (hframe.trans herrors.symm) hclear]
  exact feed_ne_zero_of_noticeable (by omega) h

/-! ## Telemetry -/

/-- **At most three wrong bits, and every odd number of them, are noticed in telemetry.**  The frame
may be any that `osdlp_tm_pack` writes with a checksum, and the receiver may be in any state; it
keeps what it has.
SOURCE: osdlp_crc.c:23-66, osdlp_tm.c:96-153, 748-772 -/
theorem few_errors_detected {tx : TmTransferFrame} (hpresent : tx.mission.crcPresent = true)
    (hframeLen : 2 ≤ tx.mission.frameLen) (hlong : tx.mission.frameLen ≤ 2048)
    (pktOut dataIn : List UInt8) (length : ℕ) {errors : List UInt8}
    (herrors : errors.length = tx.mission.frameLen) (hnoticeable : Noticeable errors) :
    let received := corrupted (region (osdlpTmPack tx pktOut dataIn length).1 0 tx.mission.frameLen)
      errors
    ∀ (getPacketLen : GetPacketLen) (fuel : ℕ) (rxConfig : Int) (r : TmReceiver), 0 ≤ rxConfig →
      r.tf.mission.crcPresent = true → r.tf.mission.frameLen = tx.mission.frameLen →
      osdlpTmReceive getPacketLen fuel rxConfig r received =
        some (-TmRxResult.wrongCrc.code, { r with tf := osdlpTmUnpack r.tf received }) := by
  intro received getPacketLen fuel rxConfig r hconfig hrx hsame
  have hmatches : osdlpCalcCrc (region (osdlpTmPack tx pktOut dataIn length).1 0
        tx.mission.frameLen) (tx.mission.frameLen - 2) =
      tmTrailerCrc tx.mission.frameLen (region (osdlpTmPack tx pktOut dataIn length).1 0
        tx.mission.frameLen) := by
    unfold osdlpTmPack
    rw [if_pos hpresent]
    exact tmWriteCrc_sound hframeLen _
  have hne := crc_corrupted_ne_of_noticeable hframeLen hlong (length_region _ _ _) hmatches herrors
    hnoticeable
  refine osdlpTmReceive_wrongCrc getPacketLen fuel hconfig hrx ?_
  rw [hsame]
  exact hne

/-- Three wrong bits of the small frame, far from each other. -/
def threeErrors : List UInt8 := [0x80] ++ List.replicate 9 0 ++ [0x01] ++ List.replicate 7 0 ++
    [0x01]

/-- Three wrong bits in a frame. -/
theorem few_errors_detected_three :
    (osdlpTmReceive (fun _ _ => none) 1 0 { tf := smallFrame, delivered := [], answers := [] }
      (corrupted (region (osdlpTmPack smallFrame [] [7, 8] 2).1 0 19) threeErrors)).map Prod.fst =
        some (-5) := by
  have hnoticeable : Noticeable threeErrors := .inr (.inr ⟨by decide +kernel, by decide +kernel⟩)
  have hdropped := @few_errors_detected smallFrame rfl (by decide) (by decide) [] [7, 8] 2
    threeErrors rfl hnoticeable (fun _ _ => none) 1 0
    { tf := smallFrame, delivered := [], answers := [] } (Int.le_refl 0) rfl rfl
  exact congrArg (Option.map Prod.fst) hdropped

/-! ## Telecommand -/

/-- The errors leave the ten bits of the length field alone. -/
def SparesLength (errors : List UInt8) : Prop :=
  errors.getD 2 0 &&& 0x03 = 0 ∧ errors.getD 3 0 = 0

theorem and_xor_of_and_eq_zero {x e m : UInt8} (h : e &&& m = 0) : (x ^^^ e) &&& m = x &&& m := by
  refine UInt8.toBitVec_inj.mp (BitVec.eq_of_getLsbD_eq fun i _ => ?_)
  have hbit : (e &&& m).toBitVec.getLsbD i = false := by
    rw [h]
    simp
  simp only [UInt8.toBitVec_and, UInt8.toBitVec_xor, BitVec.getLsbD_and, BitVec.getLsbD_xor]
    at hbit ⊢
  rw [Bool.and_xor_distrib_right, hbit, Bool.xor_false]

/-- The length field says what it has said. -/
theorem rxFrameLen_corrupted {frame errors : List UInt8} (hlen : frame.length = errors.length)
    (hlong : 4 ≤ frame.length) (hspares : SparesLength errors) (rest : List UInt8) :
    rxFrameLen (corrupted frame errors ++ rest) = rxFrameLen frame := by
  have hread : ∀ i, i < frame.length → (corrupted frame errors ++ rest).getD i 0 =
      frame.getD i 0 ^^^ errors.getD i 0 := by
    intro i hi
    have hin : i < (corrupted frame errors).length := by
      simp only [corrupted, List.length_zipWith]
      omega
    rw [List.getD_append _ _ _ _ hin, List.getD_eq_getElem _ _ hin, List.getD_eq_getElem _ _ hi,
      List.getD_eq_getElem _ _ (by omega)]
    simp [corrupted]
  unfold rxFrameLen
  rw [hread 2 (by omega), hread 3 (by omega), hspares.2, and_xor_of_and_eq_zero hspares.1,
    UInt8.xor_zero]

/-- The last two octets of a frame, by its length or by its length field. -/
theorem trailerCrc_eq {n : ℕ} (hn : 2 ≤ n) (buf : List UInt8) :
    trailerCrc buf (n - 1) = tmTrailerCrc n buf := by
  unfold trailerCrc tmTrailerCrc octetAt
  rw [if_pos (by omega), if_pos (by omega)]
  congr 4
  omega

/-- A frame with an intact length field and a wrong checksum is not valid, whoever it is for.
SOURCE: osdlp_tc.c:162-182 -/
theorem osdlpFrameValidationCheck_wrongCrc {rx : FarmFrame} {buf : List UInt8} {n : ℕ} (hn : 2 ≤ n)
    (hflag : rx.mission.crcFlag = true) (hlen : rxFrameLen buf = n - 1)
    (hcrc : osdlpCalcCrc buf (n - 2) ≠ tmTrailerCrc n buf) :
    osdlpFrameValidationCheck (osdlpTcUnpack rx buf) buf = -1 := by
  have hframeLen : (osdlpTcUnpack rx buf).primaryHdr.frameLen.toNat = n - 1 :=
    (rxFrameLen_eq buf).symm.trans hlen
  have hsmall : n - 1 < 2 ^ 10 := by
    rw [← hframeLen]
    exact (osdlpTcUnpack rx buf).primaryHdr.frameLen.isLt
  unfold osdlpFrameValidationCheck
  dsimp only
  rw [hframeLen, trailerCrc_eq hn, show (n - 1 + 2 ^ 32 - 1) % 2 ^ 32 = n - 2 by omega]
  split_ifs with hversion hscid hvalid
  · rfl
  · rfl
  · rfl
  · exact absurd ⟨hflag, hcrc⟩ hvalid

section Corrupted

variable {tx : FopFrame} {rx : FarmFrame} {data errors : List UInt8}
  (hover : tx.mission.fixedOverheadLen = tx.mission.overhead)
  (hlen : tx.mission.fixedOverheadLen + data.length ≤ 1024)
  (herrors : errors.length = (osdlpTcPack tx data data.length).1.length)
  (hspares : SparesLength errors)

include hover hlen herrors hspares

/-- The length field of a packed frame with errors elsewhere.
SOURCE: osdlp_tc.c:126-134, 190-191 -/
theorem rxFrameLen_corrupted_pack (rest : List UInt8) :
    rxFrameLen (corrupted (osdlpTcPack tx data data.length).1 errors ++ rest) =
      tx.mission.fixedOverheadLen + data.length - 1 := by
  let peer : FarmFrame := { (default : FarmFrame) with mission := tx.mission }
  have hpos := overhead_ge hover
  have hframe := length_osdlpTcPack hover hlen
  obtain ⟨hhdr, -, -, -⟩ := @osdlpTcUnpack_pack tx data _ peer hover hlen rfl rfl []
  rw [List.append_nil] at hhdr
  have hread : (tcUnpackHdr (osdlpTcPack tx data data.length).1).frameLen =
      BitVec.ofNat 10 (tx.mission.fixedOverheadLen + data.length - 1) :=
    congrArg TcPrimaryHdr.frameLen hhdr
  rw [rxFrameLen_corrupted herrors.symm (by omega) hspares, rxFrameLen_eq, hread,
    BitVec.toNat_ofNat]
  omega

/-- A packed frame with such errors is not valid.
SOURCE: osdlp_crc.c:23-66, osdlp_tc.c:86-182 -/
theorem osdlpFrameValidationCheck_corrupted (hcrc : tx.mission.crcFlag = true)
    (hnoticeable : Noticeable errors) (hflag : rx.mission.crcFlag = true) (rest : List UInt8) :
    let received := corrupted (osdlpTcPack tx data data.length).1 errors ++ rest
    osdlpFrameValidationCheck (osdlpTcUnpack rx received) received = -1 := by
  intro received
  have hpos := overhead_ge hover
  have hframe := length_osdlpTcPack hover hlen
  have hn : (corrupted (osdlpTcPack tx data data.length).1 errors).length =
      tx.mission.fixedOverheadLen + data.length := by
    simp [corrupted, herrors, hframe]
  have hmatches : osdlpCalcCrc received (tx.mission.fixedOverheadLen + data.length - 2) ≠
      tmTrailerCrc (tx.mission.fixedOverheadLen + data.length) received := by
    obtain ⟨htrailer, hcomputed⟩ := trailerCrc_pack hover hlen hcrc []
    rw [List.append_nil, trailerCrc_eq (by omega)] at htrailer
    rw [List.append_nil] at hcomputed
    have hne := crc_corrupted_ne_of_noticeable (show 2 ≤ _ by omega) (by omega) hframe
      (hcomputed.trans htrailer.symm) (herrors.trans hframe) hnoticeable
    unfold osdlpCalcCrc tmTrailerCrc at hne ⊢
    rwa [List.take_append_of_le_length (by omega), List.getD_append _ _ _ _ (by omega),
      List.getD_append _ _ _ _ (by omega)]
  exact osdlpFrameValidationCheck_wrongCrc (by omega) hflag
    (rxFrameLen_corrupted_pack hover hlen herrors hspares rest) hmatches

end Corrupted

/-- **Wrong bits in a telecommand frame are noticed**, bursts, at most three of them and odd numbers
of them, if they leave the length field alone.  The frame is dropped as invalid, nothing is
offered to the receive queue, and FARM-1 and the reassembly are as before.
SOURCE: osdlp_crc.c:23-66, osdlp_tc.c:86-200 -/
theorem tc_errors_detected {tx : FopFrame} (hcrc : tx.mission.crcFlag = true)
    (hover : tx.mission.fixedOverheadLen = tx.mission.overhead) {data : List UInt8}
    (hlen : tx.mission.fixedOverheadLen + data.length ≤ 1024) {errors : List UInt8}
    (herrors : errors.length = (osdlpTcPack tx data data.length).1.length)
    (hnoticeable : Noticeable errors) (hspares : SparesLength errors) {rx : FarmFrame}
    (hflag : rx.mission.crcFlag = true) {hooks : RxHooks} (hconfig : 0 ≤ hooks.config)
    (rest : List UInt8) :
    let received := corrupted (osdlpTcPack tx data data.length).1 errors ++ rest
    osdlpTcReceive hooks rx received received.length =
      { code := -TcRxResult.frameValErr.code, tf := osdlpTcUnpack rx received, offer := none } := by
  intro received
  have hpos := overhead_ge hover
  have hreceived : tx.mission.fixedOverheadLen + data.length ≤ received.length := by
    have hframe := length_osdlpTcPack hover hlen
    simp only [received, corrupted, List.length_append, List.length_zipWith, herrors, hframe]
    omega
  have hfield := rxFrameLen_corrupted_pack hover hlen herrors hspares rest
  have hinvalid : osdlpFrameValidationCheck (osdlpTcUnpack rx received) received = -1 :=
    osdlpFrameValidationCheck_corrupted hover hlen herrors hspares hcrc hnoticeable hflag rest
  unfold osdlpTcReceive
  rw [hfield, if_neg (by omega), if_neg (by omega)]
  exact if_pos (by rw [hinvalid]; decide)

/-- A sender of frames without a segment header and with a checksum. -/
def checkedFrame : FopFrame :=
  { (default : FopFrame) with
    mission := { (default : TcMissionParams) with fixedOverheadLen := 7, crcFlag := true } }

/-- Three wrong bits, one of them next to the length field. -/
theorem tc_errors_detected_three :
    let received := corrupted (osdlpTcPack checkedFrame [7, 8] 2).1 [0, 0, 0x04, 0, 0, 0x40, 0, 0, 1]
    (osdlpTcReceive { config := 0, rxFull := false, enqueue := 0, enqueueNow := 0 }
      { (default : FarmFrame) with mission := checkedFrame.mission } received received.length).code =
        -3 := by
  have hnoticeable : Noticeable [0, 0, 0x04, 0, 0, 0x40, 0, 0, 1] :=
    .inr (.inr ⟨by decide +kernel, by decide +kernel⟩)
  have hlength : (osdlpTcPack checkedFrame [7, 8] 2).1.length = 9 :=
    @length_osdlpTcPack checkedFrame [7, 8] rfl (by decide)
  have hdropped := @tc_errors_detected checkedFrame rfl rfl [7, 8] (by decide)
    [0, 0, 0x04, 0, 0, 0x40, 0, 0, 1] hlength.symm hnoticeable ⟨by decide, by decide⟩
    { (default : FarmFrame) with mission := checkedFrame.mission } rfl
    { config := 0, rxFull := false, enqueue := 0, enqueueNow := 0 } (Int.le_refl 0) []
  rw [List.append_nil] at hdropped
  exact congrArg TcReceived.code hdropped

end Osdlp.Analysis
