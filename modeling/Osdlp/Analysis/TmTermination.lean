import Osdlp.Interface.TmCalls
import Osdlp.Analysis.TmRoundTrip
import Osdlp.Library.Stalling

/-!
# Packets of no length

The loops of `handle_s_ptr_zero`, `handle_s_ptr_positive` and `eval_residue_len` advance by the
length that `osdlp_tm_get_packet_len` tells.  A length field of zero keeps them where they are, and
nothing else does (`processing_ends_iff`).
-/

set_option autoImplicit false

namespace Osdlp.Analysis

open Osdlp.Model Osdlp.Interface Osdlp.Library

/-- In a data field of `n` octets, a packet with the length field `len` begins at `p`, and it ends
before the field does. -/
def PacketAt (getPacketLen : GetPacketLen) (data : List UInt8) (n p len : ℕ) : Prop :=
  data.getD p 0 ≠ tmIdlePacket ∧
    (∃ length, getPacketLen (data.drop p) (n - p) = some length ∧ length.toNat = len) ∧ p + len < n

/-- In the last frame of the queue, a packet with the length field `len` begins at the offset `p` of
the data field, and another one behind it, where `eval_residue_len` goes on. -/
def ResidueAt (getPacketLen : GetPacketLen) (m : TmMissionParams) (lastPkt : List UInt8)
    (p len : ℕ) : Prop :=
  (∃ length, getPacketLen (lastPkt.drop (m.headerLen + p)) m.maxDataLen = some length ∧
      length.toNat = len) ∧
    len + m.headerLen + p < m.maxDataLen ∧ lastPkt.getD (m.headerLen + (p + len)) 0 ≠ tmIdlePacket

/-- Following the lengths in the data field of the frame, the receiver comes to a packet of no
length. -/
def RxStalls (getPacketLen : GetPacketLen) (rxConfig : Int) (r : TmReceiver) (frame : List UInt8) :
    Prop :=
  0 ≤ rxConfig ∧ Heard r frame ∧ r.tf.mission.stuffState = .stuffingOn ∧
    tmFirstHdrPtr frame ≠ tmFirstHdrPtrOid ∧ tmFirstHdrPtr frame ≠ tmFirstHdrPtrNoPktStart ∧
    Stalls (PacketAt getPacketLen (frame.drop r.tf.mission.headerLen) r.tf.mission.maxDataLen)
      (tmFirstHdrPtr frame).toNat

/-- Following the lengths in the last frame of the queue, the sender comes to a packet of no
length. -/
def TxStalls (getPacketLen : GetPacketLen) (queueBack : Int) (s : TmSender) : Prop :=
  let m := s.tf.mission
  let lastPkt := s.queue.getLastD []
  (s.queue ≠ [] ∧ m.stuffState = .stuffingOn ∧ m.util.loopState = .loopClosed) ∧ 0 ≤ queueBack ∧
    tmFirstHdrPtr lastPkt ≠ tmFirstHdrPtrOid ∧ tmFirstHdrPtr lastPkt ≠ tmFirstHdrPtrNoPktStart ∧
    lastPkt.getD (m.headerLen + (tmFirstHdrPtr lastPkt).toNat) 0 ≠ tmIdlePacket ∧
    Stalls (ResidueAt getPacketLen m lastPkt) (tmFirstHdrPtr lastPkt).toNat

variable {getPacketLen : GetPacketLen} {r : TmReceiver} {m : TmMissionParams}

/-! ## Reception -/

/-- What the loop keeps: only the utility buffer and the queue change. -/
def Explores (data : List UInt8) (n : ℕ) (r : TmReceiver) : Prop :=
  r.tf.data = data ∧ r.tf.mission.maxDataLen = n ∧ Accepting r.answers

/-- A round that goes on stands behind the packet that it has handed over.
SOURCE: osdlp_tm.c:511-555, 682-726 -/
theorem explorePackets_next {data : List UInt8} {n p len : ℕ} (hsmall : n < 65536)
    (hr : Explores data n r) (hat : PacketAt getPacketLen data n p len) :
    ∃ r', Explores data n r' ∧ ∀ fuel, explorePackets getPacketLen (fuel + 1) p r =
      explorePackets getPacketLen fuel (p + len) r' := by
  obtain ⟨rfl, rfl, haccepting⟩ := hr
  obtain ⟨hidle, ⟨length, hfound, rfl⟩, hlt⟩ := hat
  have hrest : u16 (r.tf.mission.maxDataLen - p : ℤ) = r.tf.mission.maxDataLen - p := by
    rw [← Nat.cast_sub (by omega)]
    exact u16_of_lt (by omega)
  have hnext : u16 (p + length.toNat) = p + length.toNat := by
    rw [← Nat.cast_add]
    exact u16_of_lt (by omega)
  let util : TmUtilBuf :=
    { buffer := memWrite r.tf.mission.util.buffer 0 ((r.tf.data.drop p).take length.toNat)
      loopState := .loopClosed
      bufferedLength := 0
      expectedPktLen := 0 }
  obtain ⟨hdel, htf, hret⟩ := osdlpTmRxQueueEnqueue_delivers (r.setUtil util)
  refine ⟨(osdlpTmRxQueueEnqueue (r.setUtil util)).2, ⟨?_, ?_, (hdel.accepting haccepting).1⟩, ?_⟩
  · rw [htf]
    rfl
  · rw [htf]
    rfl
  · intro fuel
    have haccepted := hret haccepting
    conv_lhs => unfold explorePackets
    dsimp only
    rw [if_neg hidle, hrest, hfound]
    dsimp only
    rw [if_neg (by omega), if_neg (not_lt.mpr haccepted), hnext, if_neg (by omega)]

/-- A round that finds no packet, or none that ends before the data field, is the last one.
SOURCE: osdlp_tm.c:511-555, 682-726 -/
theorem explorePackets_last {data : List UInt8} {n p : ℕ} (hsmall : n < 65536)
    (hr : Explores data n r) (hlast : ¬ ∃ len, PacketAt getPacketLen data n p len) (fuel : ℕ) :
    (explorePackets getPacketLen (fuel + 1) p r).isSome := by
  obtain ⟨rfl, rfl, -⟩ := hr
  unfold explorePackets
  dsimp only
  by_cases hidle : r.tf.data.getD p 0 = tmIdlePacket
  · rw [if_pos hidle]
    rfl
  · rw [if_neg hidle]
    cases hfound : getPacketLen (r.tf.data.drop p) (u16 (r.tf.mission.maxDataLen - p : ℤ)) with
    | none => rfl
    | some length =>
      dsimp only
      by_cases hover : length.toNat + p > r.tf.mission.maxDataLen
      · rw [if_pos hover]
        rfl
      · rw [if_neg hover]
        split_ifs with hdenied hend
        · rfl
        · rfl
        · refine absurd ⟨length.toNat, hidle, ⟨length, ?_, rfl⟩, ?_⟩ hlast
          · rw [← Nat.cast_sub (by omega), u16_of_lt (by omega)] at hfound
            exact hfound
          · rw [← Nat.cast_add, u16_of_lt (by omega)] at hend
            omega

/-- SOURCE: osdlp_tm.c:511-555, 682-726 -/
theorem explorePackets_ends_iff {data : List UInt8} {n p : ℕ} (hsmall : n < 65536)
    (hr : Explores data n r) :
    (∃ fuel, (explorePackets getPacketLen fuel p r).isSome) ↔
      ¬ Stalls (PacketAt getPacketLen data n) p :=
  ends_iff_not_stalls (I := Explores data n) (explorePackets getPacketLen)
    (fun _ _ hat => hat.2.2.le) (fun _ _ => rfl)
    (fun _ _ hr hlast fuel => explorePackets_last hsmall hr hlast fuel)
    (fun _ _ _ hr hat => explorePackets_next hsmall hr hat) hr

/-- A packet that ends with the first header pointer is finished before, which a queue that takes
it does not stop.
SOURCE: osdlp_tm.c:630-727 -/
theorem handleSPtrPositive_ends_iff (hsmall : r.tf.mission.maxDataLen < 65536)
    (haccepting : Accepting r.answers) :
    (∃ fuel, (handleSPtrPositive getPacketLen fuel r).isSome) ↔
      ¬ Stalls (PacketAt getPacketLen r.tf.data r.tf.mission.maxDataLen)
        r.tf.primaryHdr.firstHdrPtr.toNat := by
  have hkept := finishPacket_reutilized getPacketLen
    (Nat.le_refl r.tf.mission.util.expectedPktLen)
  have hgoesOn : ¬ (finishPacket getPacketLen r).1.isSome := by
    rw [finishPacket_isSome_iff]
    rintro ⟨-, ⟨ret, rest, hanswers, hret⟩, -⟩
    rw [hanswers] at haccepting
    exact absurd hret (not_lt.mpr (haccepting ret List.mem_cons_self))
  unfold handleSPtrPositive
  rcases hfinished : finishPacket getPacketLen r with ⟨_ | result, r'⟩
  · rw [hfinished] at hkept
    dsimp only
    rw [explorePackets_ends_iff hsmall ⟨hkept.data, hkept.maxDataLen, hkept.accepting haccepting⟩,
      hkept.primaryHdr]
  · rw [hfinished] at hgoesOn
    exact absurd rfl hgoesOn

/-- SOURCE: osdlp_tm.c:729-746 -/
theorem handleRxStuffing_ends_iff (hsmall : r.tf.mission.maxDataLen < 65536)
    (haccepting : Accepting r.answers) :
    (∃ fuel, (handleRxStuffing getPacketLen fuel r).isSome) ↔
      (r.tf.primaryHdr.firstHdrPtr ≠ tmFirstHdrPtrNoPktStart →
        ¬ Stalls (PacketAt getPacketLen r.tf.data r.tf.mission.maxDataLen)
          r.tf.primaryHdr.firstHdrPtr.toNat) := by
  unfold handleRxStuffing handleSPtrZero
  by_cases hzero : r.tf.primaryHdr.firstHdrPtr = 0
  · have hne : r.tf.primaryHdr.firstHdrPtr ≠ tmFirstHdrPtrNoPktStart := by
      rw [hzero]
      decide
    have htoNat : r.tf.primaryHdr.firstHdrPtr.toNat = 0 := by rw [hzero]; rfl
    simp only [if_pos hzero, htoNat]
    rw [explorePackets_ends_iff hsmall ⟨rfl, rfl, haccepting⟩]
    exact ⟨fun h _ => h, fun h => h hne⟩
  · by_cases hnone : r.tf.primaryHdr.firstHdrPtr = tmFirstHdrPtrNoPktStart
    · simp only [if_neg hzero, if_pos hnone]
      exact ⟨fun _ hne => absurd hnone hne, fun _ => ⟨0, rfl⟩⟩
    · simp only [if_neg hzero, if_neg hnone]
      rw [handleSPtrPositive_ends_iff hsmall haccepting]
      exact ⟨fun h _ => h, fun h => h hnone⟩

/-- SOURCE: osdlp_tm.c:748-772 -/
theorem osdlpTmReceive_ends_iff (hsmall : r.tf.mission.maxDataLen < 65536)
    (haccepting : Accepting r.answers) (rxConfig : Int) (frame : List UInt8) :
    (∃ fuel, (osdlpTmReceive getPacketLen fuel rxConfig r frame).isSome) ↔
      ¬ RxStalls getPacketLen rxConfig r frame := by
  unfold osdlpTmReceive RxStalls Heard
  by_cases hconfig : rxConfig < 0
  · simp only [if_pos hconfig]
    exact ⟨fun _ h => absurd h.1 (not_le.mpr hconfig), fun _ => ⟨0, rfl⟩⟩
  · simp only [if_neg hconfig]
    by_cases hcrc : osdlpCalcCrc frame ((osdlpTmUnpack r.tf frame).mission.frameLen - 2) =
        (osdlpTmUnpack r.tf frame).crc
    · have hptr : (osdlpTmUnpack r.tf frame).primaryHdr.firstHdrPtr = tmFirstHdrPtr frame := rfl
      simp only [if_neg (not_not.mpr hcrc), hptr]
      by_cases hoid : tmFirstHdrPtr frame = tmFirstHdrPtrOid
      · simp only [if_pos hoid]
        exact ⟨fun _ h => absurd hoid h.2.2.2.1, fun _ => ⟨0, rfl⟩⟩
      · have hstate : (osdlpTmUnpack r.tf frame).mission.stuffState = r.tf.mission.stuffState := rfl
        simp only [if_neg hoid, hstate]
        cases hstuff : r.tf.mission.stuffState with
        | stuffingOff => exact ⟨fun _ h => absurd h.2.2.1 (by decide), fun _ => ⟨0, rfl⟩⟩
        | stuffingOn =>
          have hhandled := @handleRxStuffing_ends_iff getPacketLen
            { r with tf := osdlpTmUnpack r.tf frame } hsmall haccepting
          simp only [Option.isSome_map]
          rw [hhandled]
          constructor
          · rintro h ⟨-, -, -, -, hne, hstalls⟩
            exact h hne hstalls
          · intro h hne hstalls
            exact h ⟨not_lt.mp hconfig, hcrc, trivial, hoid, hne, hstalls⟩
    · simp only [if_pos hcrc]
      exact ⟨fun _ h => absurd h.2.1 hcrc, fun _ => ⟨0, rfl⟩⟩

/-! ## Transmission -/

/-- SOURCE: osdlp_tm.c:245-263 -/
theorem evalResidueLoop_ends_iff {lastPkt : List UInt8} {p : ℕ} (hsmall : m.maxDataLen < 65536) :
    (∃ fuel, (evalResidueLoop getPacketLen m lastPkt fuel p).isSome) ↔
      ¬ Stalls (ResidueAt getPacketLen m lastPkt) p := by
  refine ends_iff_not_stalls (n := m.maxDataLen) (I := fun _ => True) (s := ())
    (fun fuel p _ => evalResidueLoop getPacketLen m lastPkt fuel p)
    (fun p len hat => ?_) (fun _ _ => rfl) (fun p _ _ hlast fuel => ?_) (fun p _ len _ hat => ?_)
    trivial
  · have hlt := hat.2.1
    omega
  · show (evalResidueLoop getPacketLen m lastPkt (fuel + 1) p).isSome
    unfold evalResidueLoop
    by_cases hin : p ≤ m.maxDataLen
    · rw [if_pos hin]
      cases hfound : getPacketLen (lastPkt.drop (m.headerLen + p)) m.maxDataLen with
      | none => rfl
      | some length =>
        dsimp only
        by_cases hover : length.toNat + m.headerLen + p ≥ m.maxDataLen
        · rw [if_pos hover]
          rfl
        · have hnext : u16 (p + length.toNat) = p + length.toNat := by
            rw [← Nat.cast_add]
            exact u16_of_lt (by omega)
          rw [if_neg hover, hnext]
          by_cases hidle : lastPkt.getD (m.headerLen + (p + length.toNat)) 0 = tmIdlePacket
          · rw [if_pos hidle]
            rfl
          · exact absurd ⟨length.toNat, ⟨length, hfound, rfl⟩, by omega, hidle⟩ hlast
    · rw [if_neg hin]
      rfl
  · obtain ⟨⟨length, hfound, rfl⟩, hlt, hidle⟩ := hat
    have hnext : u16 (p + length.toNat) = p + length.toNat := by
      rw [← Nat.cast_add]
      exact u16_of_lt (by omega)
    refine ⟨(), trivial, fun fuel => ?_⟩
    conv_lhs => unfold evalResidueLoop
    rw [if_pos (by omega), hfound]
    dsimp only
    rw [if_neg (by omega), hnext, if_neg hidle]

/-- Only the search for the room in the last frame can fail to end.
SOURCE: osdlp_tm.c:306-414 -/
theorem osdlpTmTransmit_isSome_iff {s : TmSender} (fuel : ℕ) (queueBack : Int)
    (dataIn : List UInt8) (length : ℕ) :
    (osdlpTmTransmit getPacketLen fuel queueBack s dataIn length).isSome ↔
      ((s.queue ≠ [] ∧ s.tf.mission.stuffState = .stuffingOn ∧
          s.tf.mission.util.loopState = .loopClosed) → 0 ≤ queueBack →
        (evalResidueLen getPacketLen fuel s.tf.mission (s.queue.getLastD [])).isSome) := by
  unfold osdlpTmTransmit stuffLastFrame
  dsimp only
  by_cases hstuffs : s.queue ≠ [] ∧ s.tf.mission.stuffState = .stuffingOn ∧
      s.tf.mission.util.loopState = .loopClosed
  · rw [if_pos hstuffs]
    by_cases hback : queueBack < 0
    · rw [if_pos hback]
      simp only [Option.bind_eq_bind, Option.bind_some, Option.pure_def]
      rw [if_pos (Nat.le_refl _)]
      exact ⟨fun _ _ h => absurd hback (not_lt.mpr h), fun _ => rfl⟩
    · rw [if_neg hback]
      cases evalResidueLen getPacketLen fuel s.tf.mission (s.queue.getLastD []) with
      | none => exact ⟨fun h => absurd h Bool.false_ne_true, fun h => h hstuffs (not_lt.mp hback)⟩
      | some residueLen =>
        refine ⟨fun _ _ _ => rfl, fun _ => ?_⟩
        simp only [Option.bind_eq_bind, Option.bind_some, Option.pure_def]
        by_cases hfull : residueLen ≥ s.tf.mission.maxDataLen
        · rw [if_pos hfull]
          rfl
        · rw [if_neg hfull]
          rfl
  · rw [if_neg hstuffs]
    exact ⟨fun _ h => absurd h hstuffs, fun _ => rfl⟩

/-- SOURCE: osdlp_tm.c:226-271 -/
theorem evalResidueLen_ends_iff {lastPkt : List UInt8} (hsmall : m.maxDataLen < 65536) :
    (∃ fuel, (evalResidueLen getPacketLen fuel m lastPkt).isSome) ↔
      (tmFirstHdrPtr lastPkt ≠ tmFirstHdrPtrOid →
        tmFirstHdrPtr lastPkt ≠ tmFirstHdrPtrNoPktStart →
        lastPkt.getD (m.headerLen + (tmFirstHdrPtr lastPkt).toNat) 0 ≠ tmIdlePacket →
        ¬ Stalls (ResidueAt getPacketLen m lastPkt) (tmFirstHdrPtr lastPkt).toNat) := by
  unfold evalResidueLen
  dsimp only
  by_cases hptr : tmFirstHdrPtr lastPkt ≠ tmFirstHdrPtrNoPktStart ∧
      tmFirstHdrPtr lastPkt ≠ tmFirstHdrPtrOid
  · simp only [if_pos hptr]
    by_cases hidle : lastPkt.getD (m.headerLen + (tmFirstHdrPtr lastPkt).toNat) 0 = tmIdlePacket
    · simp only [if_pos hidle]
      exact ⟨fun _ _ _ h => absurd hidle h, fun _ => ⟨0, rfl⟩⟩
    · simp only [if_neg hidle]
      rw [evalResidueLoop_ends_iff hsmall]
      exact ⟨fun h _ _ _ => h, fun h => h hptr.2 hptr.1 hidle⟩
  · simp only [if_neg hptr]
    refine ⟨fun _ hoid hnone => absurd ⟨hnone, hoid⟩ hptr, fun _ => ⟨0, ?_⟩⟩
    split <;> rfl

/-- SOURCE: osdlp_tm.c:306-414 -/
theorem osdlpTmTransmit_ends_iff {s : TmSender} (hsmall : s.tf.mission.maxDataLen < 65536)
    (queueBack : Int) (dataIn : List UInt8) (length : ℕ) :
    (∃ fuel, (osdlpTmTransmit getPacketLen fuel queueBack s dataIn length).isSome) ↔
      ¬ TxStalls getPacketLen queueBack s := by
  have hresidue := @evalResidueLen_ends_iff getPacketLen _ (s.queue.getLastD []) hsmall
  simp only [osdlpTmTransmit_isSome_iff]
  unfold TxStalls
  constructor
  · rintro ⟨fuel, hends⟩ ⟨hstuffs, hback, hoid, hnone, hidle, hstalls⟩
    exact hresidue.mp ⟨fuel, hends hstuffs hback⟩ hoid hnone hidle hstalls
  · intro h
    by_cases hgoes : (s.queue ≠ [] ∧ s.tf.mission.stuffState = .stuffingOn ∧
        s.tf.mission.util.loopState = .loopClosed) ∧ 0 ≤ queueBack
    · obtain ⟨fuel, hends⟩ := hresidue.mpr fun hoid hnone hidle hstalls =>
        h ⟨hgoes.1, hgoes.2, hoid, hnone, hidle, hstalls⟩
      exact ⟨fuel, fun _ _ => hends⟩
    · exact ⟨0, fun hstuffs hback => absurd ⟨hstuffs, hback⟩ hgoes⟩

/-! ## Both directions of a channel -/

/-- A reception and a transmission end exactly if they do not come to a packet of no length.
SOURCE: osdlp_tm.c:226-271, 306-414, 504-556, 630-772 -/
theorem processing_ends_iff (getPacketLen : GetPacketLen) :
    (∀ r rxConfig frame, r.tf.mission.maxDataLen < 65536 → Accepting r.answers →
      ((∃ fuel, (osdlpTmReceive getPacketLen fuel rxConfig r frame).isSome) ↔
        ¬ RxStalls getPacketLen rxConfig r frame)) ∧
    ∀ s queueBack dataIn length, s.tf.mission.maxDataLen < 65536 →
      ((∃ fuel, (osdlpTmTransmit getPacketLen fuel queueBack s dataIn length).isSome) ↔
        ¬ TxStalls getPacketLen queueBack s) :=
  ⟨fun _ rxConfig frame hsmall haccepting =>
      osdlpTmReceive_ends_iff hsmall haccepting rxConfig frame,
    fun _ queueBack dataIn length hsmall => osdlpTmTransmit_ends_iff hsmall queueBack dataIn length⟩

/-! ## A field of zeros -/

/-- The hook of the tests.
SOURCE: test_tm.c:84-97 -/
def osdlpTmGetPacketLen (tmMaxSduLen : ℕ) : GetPacketLen := fun pkt memLen =>
  if memLen ≥ 5 then
    let length := (pkt.getD 3 0).toUInt16 <<< 8 ||| (pkt.getD 4 0).toUInt16
    if length.toNat ≤ tmMaxSduLen then some length else none
  else none

/-- Frames of twenty octets with stuffing. -/
def twentyOctets : TmInitArgs :=
  { smallFrames with frameSize := 20, stuffing := .stuffingOn, maxSduLen := 64 }

/-- A frame with its checksum whose data are zeros, the length field of the first packet apart. -/
def zerosBehind (length : UInt8) : List UInt8 :=
  let body := [0, 0, 1, 1, 0x18, 0, 0, 0, 0, 0, length, 0, 0, 0, 0, 0, 0, 0]
  let crc := osdlpCalcCrc body 18
  body ++ [UInt8.ofNat (crc.toNat / 256), UInt8.ofNat crc.toNat]

/-- The condition, where a packet of no length is behind one of five octets. -/
theorem processing_ends_iff_five :
    ∃ tf, osdlpTmInit default twentyOctets = some tf ∧
      ((∃ fuel, (osdlpTmReceive (osdlpTmGetPacketLen 64) fuel 0
          { tf := tf, delivered := [], answers := [] } (zerosBehind 5)).isSome) ↔
        ¬ RxStalls (osdlpTmGetPacketLen 64) 0 { tf := tf, delivered := [], answers := [] }
          (zerosBehind 5)) ∧
      ((∃ fuel, (osdlpTmTransmit (osdlpTmGetPacketLen 64) fuel 0
          { tf := tf, queue := [zerosBehind 5], answers := [] } [1] 1).isSome) ↔
        ¬ TxStalls (osdlpTmGetPacketLen 64) 0
          { tf := tf, queue := [zerosBehind 5], answers := [] }) :=
  ⟨_, rfl, (processing_ends_iff _).1 _ 0 _ (by decide) (by simp [Accepting]),
    (processing_ends_iff _).2 _ 0 _ 1 (by decide)⟩

/-- With the hook of the tests, neither the reception of a data field of zeros ends, nor a
transmission behind it. -/
theorem not_ends_zeros :
    ∃ tf, osdlpTmInit default twentyOctets = some tf ∧
      Sound twentyOctets.mission (zerosBehind 0) ∧
      (¬ ∃ fuel, (osdlpTmReceive (osdlpTmGetPacketLen 64) fuel 0
        { tf := tf, delivered := [], answers := [] } (zerosBehind 0)).isSome) ∧
      ¬ ∃ fuel, (osdlpTmTransmit (osdlpTmGetPacketLen 64) fuel 0
        { tf := tf, queue := [zerosBehind 0], answers := [] } [1] 1).isSome := by
  refine ⟨_, rfl, by decide +kernel, ?_, ?_⟩
  · rw [osdlpTmReceive_ends_iff (by decide) (by simp [Accepting]), not_not]
    refine ⟨by decide, by decide +kernel, rfl, by decide, by decide, .here ⟨by decide, ?_, by decide⟩⟩
    exact ⟨0, by decide +kernel, rfl⟩
  · rw [osdlpTmTransmit_ends_iff (by decide), not_not]
    refine ⟨by decide, by decide, by decide, by decide, by decide, .here ⟨?_, by decide, by decide⟩⟩
    exact ⟨0, by decide +kernel, rfl⟩

end Osdlp.Analysis
