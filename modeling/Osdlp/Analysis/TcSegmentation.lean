import Osdlp.Analysis.FarmFlags
import Osdlp.Analysis.ReceiveAck
import Osdlp.Analysis.TcFrameRoundTrip
import Osdlp.Interface.TcSegments
import Osdlp.Library.Run

/-!
# Segmentation and reassembly

However the transmission of an SDU is interrupted, the segments that the FOP is handed are the
slices of the SDU in order, and a receiver whose FARM accepts them hands over the SDU once
(`reassembled_transmitted`).
-/

set_option autoImplicit false

namespace Osdlp.Analysis

open Osdlp.Model Osdlp.Interface Osdlp.Library

/-! ## The segments of an SDU -/

/-- The segments are slices of the SDU, which they cover once and in order; all but the last are
full, and the flags say where each stands. -/
structure Segmentation (n : ℕ) (sdu : List UInt8) (segments : List (TcSeqFlag × List UInt8)) :
    Prop where
  covers : (segments.map Prod.snd).flatten = sdu
  full : ∀ segment ∈ segments.dropLast, segment.2.length = n
  last : ∀ segment ∈ segments.getLast?, 1 ≤ segment.2.length ∧ segment.2.length ≤ n
  flags : segments.map Prod.fst =
    if segments.length = 1 then [.unseg]
    else .firstSeg :: (List.replicate (segments.length - 2) .contSeg ++ [.lastSeg])

/-- The segments that `osdlp_tc_transmit` cuts an SDU into. -/
theorem segmentation_segmentAt {n : ℕ} {sdu : List UInt8} {c : ℕ} (hpos : 0 < c)
    (hmore : n * (c - 1) < sdu.length) (hcovered : sdu.length ≤ n * c) :
    Segmentation n sdu ((List.range c).map (segmentAt n sdu)) := by
  obtain ⟨k, rfl⟩ : ∃ k, c = k + 1 := Nat.exists_eq_succ_of_ne_zero (Nat.ne_of_gt hpos)
  rw [Nat.add_sub_cancel] at hmore
  have hfull : ∀ i < k, n * (i + 1) ≤ n * k := fun i hi => Nat.mul_le_mul_left n hi
  have hlast : (List.range (k + 1)).map (segmentAt n sdu) =
      (List.range k).map (segmentAt n sdu) ++ [segmentAt n sdu k] := by
    rw [List.range_succ, List.map_append, List.map_singleton]
  constructor
  · have hblocks : ((List.range (k + 1)).map (segmentAt n sdu)).map Prod.snd =
        blocks n sdu (k + 1) := by
      rw [List.map_map]
      rfl
    rw [hblocks, flatten_blocks, List.take_of_length_le hcovered]
  · intro segment hsegment
    rw [hlast, List.dropLast_concat] at hsegment
    obtain ⟨i, hi, rfl⟩ := List.mem_map.mp hsegment
    have hle := hfull i (List.mem_range.mp hi)
    exact length_block_of_le (by omega)
  · intro segment hsegment
    rw [hlast, List.getLast?_concat] at hsegment
    obtain rfl : segmentAt n sdu k = segment := Option.some.inj hsegment
    show 1 ≤ (block n sdu k).length ∧ (block n sdu k).length ≤ n
    rw [length_block]
    rw [Nat.mul_succ] at hcovered
    omega
  · rw [List.length_map, List.length_range, List.map_map]
    show (List.range (k + 1)).map (segmentFlag n sdu.length) = _
    -- one segment is whole; of more, the first and the last carry flags of their own
    rcases Nat.eq_zero_or_pos k with rfl | hk
    · rw [if_pos rfl]
      have hshort : sdu.length ≤ n := by omega
      simp [segmentFlag, hshort]
    · obtain ⟨k, rfl⟩ : ∃ m, k = m + 1 := Nat.exists_eq_succ_of_ne_zero (Nat.ne_of_gt hk)
      have hlong : ¬ sdu.length ≤ n := by
        have hone := hfull 0 hk
        omega
      have hconts : (List.range k).map (segmentFlag n sdu.length ∘ Nat.succ) =
          List.replicate k .contSeg := by
        rw [List.eq_replicate_iff]
        refine ⟨by simp, ?_⟩
        intro flag hflag
        obtain ⟨i, hi, rfl⟩ := List.mem_map.mp hflag
        have hle := hfull (i + 1) (Nat.succ_lt_succ (List.mem_range.mp hi))
        show segmentFlag n sdu.length (i + 1) = .contSeg
        unfold segmentFlag
        rw [if_neg hlong, if_neg (Nat.succ_ne_zero i), if_pos (by omega)]
      have hend : segmentFlag n sdu.length (k + 1) = .lastSeg := by
        unfold segmentFlag
        rw [if_neg hlong, if_neg (Nat.succ_ne_zero k), if_neg (by omega)]
      have hfirst : segmentFlag n sdu.length 0 = .firstSeg := by
        unfold segmentFlag
        rw [if_neg hlong, if_pos rfl]
      rw [if_neg (by omega), List.range_succ_eq_map, List.map_cons, hfirst, List.map_map,
        List.range_succ, List.map_append, List.map_singleton, hconts]
      show _ :: (_ ++ [segmentFlag n sdu.length (k + 1)]) = _
      rw [hend]
      rfl

/-! ## Reassembly -/

/-- The frame structure of a sender that segments: a segment header, room for data, frames that
the length field can hold, a header that the peer takes for valid, and no SDU under way. -/
structure Segmenting (tf : FopFrame) : Prop where
  segHdr : tf.mission.segHdrFlag = true
  overhead : tf.mission.fixedOverheadLen = tf.mission.overhead
  frameLen : tf.mission.fixedOverheadLen + tf.mission.maxDataLen = tf.mission.maxFrameLen
  room : 1 ≤ tf.mission.maxDataLen
  short : tf.mission.maxFrameLen ≤ min 1024 tf.mission.maxSduLen
  sduLen : tf.mission.maxSduLen < 65536
  versionNum : tf.mission.versionNum.toNat = tf.primaryHdr.versionNum.toNat
  spacecraftId : tf.mission.spacecraftId.toNat = tf.primaryHdr.spacecraftId.toNat
  ended : tf.segStatus.flag = .ended

/-- `osdlp_tc_init` makes such a sender, where a frame has room for data. -/
theorem osdlpTcInit_segmenting {m : TcMissionParams} {tf tx : FopFrame} {a : TcInitArgs}
    {cop : FopConfig} (hinit : osdlpTcInit m tf a cop = some tx) (hscid : a.scid.toNat < 1024)
    (hseg : a.segHdrFlag = true) (hroom : a.fixedOverheadLen < a.maxFrameLen.toNat)
    (hshort : a.maxFrameLen.toNat ≤ min 1024 a.maxSduLen.toNat) : Segmenting tx := by
  unfold osdlpTcInit at hinit
  split_ifs at hinit
  obtain rfl := Option.some.inj hinit
  have hlt := a.maxFrameLen.toNat_lt
  have hdata : (a.mission m).maxDataLen = a.maxFrameLen.toNat - a.fixedOverheadLen := by
    show u16 ((a.maxFrameLen.toNat : ℤ) - a.fixedOverheadLen) = _
    unfold u16
    omega
  refine ⟨hseg, rfl, ?_, ?_, hshort, a.maxSduLen.toNat_lt, rfl, ?_, rfl⟩
  · show a.fixedOverheadLen + (a.mission m).maxDataLen = a.maxFrameLen.toNat
    omega
  · show 1 ≤ (a.mission m).maxDataLen
    omega
  · show a.scid.toNat = (BitVec.ofNat 10 a.scid.toNat).toNat
    rw [BitVec.toNat_ofNat]
    omega

/-- What the receiver is given: the answers of the hooks, and the octets of a frame. -/
abbrev RxInput := RxHooks × List UInt8

/-- `osdlp_tc_receive` -/
def receiveInput (rx : FarmFrame) (input : RxInput) : TcReceived :=
  osdlpTcReceive input.1 rx input.2 input.2.length

def receiveStep (rx : FarmFrame) (input : RxInput) : FarmFrame := (receiveInput rx input).tf

/-- What the receiver hands to its queue. -/
def offersOf : FarmFrame → List RxInput → List Offer
  | _, [] => []
  | rx, input :: inputs => (receiveInput rx input).offer.toList ++ offersOf (receiveStep rx input) inputs

/-- FARM-1 is reached, if the frame is valid, and accepts it. -/
def FarmAccepts (rx : FarmFrame) (input : RxInput) : Prop :=
  0 ≤ input.1.config ∧
    ((osdlpFarm1 input.1.rxFull (osdlpTcUnpack rx input.2)).1 = .enq ∨
      (osdlpFarm1 input.1.rxFull (osdlpTcUnpack rx input.2)).1 = .priorityEnq)

instance (rx : FarmFrame) (input : RxInput) : Decidable (FarmAccepts rx input) :=
  inferInstanceAs (Decidable (_ ∧ _))

/-- The octets of the frame, packed whatever the FOP variables are by then. -/
def PacksInto (tf : FopFrame) (input : RxInput) : Prop :=
  ∃ fop, input.2 =
    (osdlpTcPack { tf with copCfg := fop } tf.frameData.data tf.frameData.dataLen).1

/-- The receiver has put together the first `j` segments. -/
structure Assembling (tf₀ : FopFrame) (sdu : List UInt8) (j : ℕ) (rx : FarmFrame) : Prop where
  mission : SameMission tf₀.mission rx.mission
  loop : rx.mission.util.loopState = if j = 0 then .loopClosed else .loopOpen
  bufferedLength : j ≠ 0 → rx.mission.util.bufferedLength = tf₀.mission.maxDataLen * j
  buffer : j ≠ 0 → rx.mission.util.buffer.take (tf₀.mission.maxDataLen * j) =
    sdu.take (tf₀.mission.maxDataLen * j)

variable {tf₀ tf : FopFrame} {rx : FarmFrame} {sdu : List UInt8} {j : ℕ} {input : RxInput}

/-- A segment gets through FARM-1 as it was handed over.
SOURCE: osdlp_tc.c:185-212 -/
theorem receiveInput_accepted (hcfg : Segmenting tf₀)
    (hmission : SameMission tf₀.mission rx.mission)
    (hframed : FramedBy tf₀ tf)
    (hsegment : sentSegment tf = segmentAt tf₀.mission.maxDataLen sdu j)
    (hpacks : PacksInto tf input) (haccepts : FarmAccepts rx input) :
    ∃ farmRet peer, (farmRet = .enq ∨ farmRet = .priorityEnq) ∧
      receiveInput rx input = receiveData input.1 farmRet peer ∧ peer.mission = rx.mission ∧
      peer.frameData.segHdr.seqFlag = segmentFlag tf₀.mission.maxDataLen sdu.length j ∧
      peer.frameData.dataLen = (block tf₀.mission.maxDataLen sdu j).length ∧
      peer.frameData.payload = block tf₀.mission.maxDataLen sdu j := by
  obtain ⟨fop, hframe⟩ := hpacks
  obtain ⟨hconfig, hfarm⟩ := haccepts
  -- the FOP variables at the packing are unknown; only the sequence number depends on them
  let tx : FopFrame := { tf with copCfg := fop }
  have htx : tx.mission = tf₀.mission := hframed.mission
  have hflag := congrArg Prod.fst hsegment
  have hpayload : tf.frameData.payload = block tf₀.mission.maxDataLen sdu j :=
    congrArg Prod.snd hsegment
  have hfields : rx.mission.segHdrFlag = tx.mission.segHdrFlag ∧
      rx.mission.fixedOverheadLen = tx.mission.fixedOverheadLen ∧
      rx.mission.crcFlag = tx.mission.crcFlag ∧ rx.mission.versionNum = tf₀.mission.versionNum ∧
      rx.mission.spacecraftId = tf₀.mission.spacecraftId := by
    rw [hmission, htx]
    exact ⟨rfl, rfl, rfl, rfl, rfl⟩
  obtain ⟨hsegHdr, hfix, hcrcFlag, hversion, hscid⟩ := hfields
  have hover : tx.mission.fixedOverheadLen = tx.mission.overhead := by
    rw [htx]
    exact hcfg.overhead
  have hlen : tx.mission.fixedOverheadLen + tf.frameData.payload.length ≤ 1024 := by
    have hshort := hcfg.short
    have hframeLen := hcfg.frameLen
    rw [htx, hpayload, length_block]
    omega
  obtain ⟨frameLen, hheader⟩ := hframed.header
  rw [osdlpTcPack_payload tx hframed.whole] at hframe
  obtain ⟨hhdr, hpeerSegHdr, hdataLen, hpeerPayload⟩ := osdlpTcUnpack_pack hover hlen hsegHdr hfix []
  have hvalid := osdlpFrameValidationCheck_pack hover hlen hsegHdr hfix hcrcFlag
    (by rw [hversion, hcfg.versionNum]; exact congrArg (fun h => h.versionNum.toNat) hheader.symm)
    (by rw [hscid, hcfg.spacecraftId]; exact congrArg (fun h => h.spacecraftId.toNat) hheader.symm)
    []
  have hwritten := length_osdlpTcPack hover hlen
  have hpos := overhead_ge hover
  dsimp only at hhdr hvalid
  rw [List.append_nil, ← hframe] at hhdr hpeerSegHdr hdataLen hpeerPayload hvalid
  -- the frame has the length that it states, and it passes the validation
  have hadmitted : Admitted input.1 rx input.2 input.2.length := by
    refine ⟨?_, hconfig, Int.le_of_eq hvalid.symm⟩
    have hrxLen : rxFrameLen input.2 =
        tx.mission.fixedOverheadLen + tf.frameData.payload.length - 1 := by
      rw [rxFrameLen_eq]
      show (osdlpTcUnpack rx input.2).primaryHdr.frameLen.toNat = _
      rw [hhdr, BitVec.toNat_ofNat]
      omega
    rw [hrxLen, hframe, hwritten]
    omega
  obtain ⟨farm, hset⟩ := osdlpFarm1_frame input.1.rxFull (osdlpTcUnpack rx input.2)
  refine ⟨_, setFarm (osdlpTcUnpack rx input.2) farm, hfarm, ?_, rfl, ?_, ?_, ?_⟩
  · unfold receiveInput
    rw [osdlpTcReceive_admitted hadmitted, hset]
    unfold receiveFarmed
    rcases hfarm with henq | hpriority
    · rw [henq]
    · rw [hpriority]
  · have hpeer := hpeerSegHdr (by rw [htx]; exact hcfg.segHdr)
    exact (congrArg TcSegHdr.seqFlag hpeer).trans hflag
  · rw [← hpayload]
    exact hdataLen
  · rw [← hpayload]
    exact hpeerPayload

/-- The utility buffer is not a parameter. -/
theorem SameMission.setUtil {m : TcMissionParams} (h : SameMission m rx.mission)
    (util : TcUtilBuf) : SameMission m (setUtil rx util).mission := by
  let withUtil : TcMissionParams → TcMissionParams := fun params => { params with util := util }
  exact congrArg withUtil h

/-- One segment more: the receiver has it, or hands over the SDU.
SOURCE: osdlp_tc.c:211-303 -/
theorem receiveInput_segment (hcfg : Segmenting tf₀) (h : Assembling tf₀ sdu j rx)
    (hmore : tf₀.mission.maxDataLen * j < sdu.length) (hmax : sdu.length ≤ tf₀.mission.maxSduLen)
    (hframed : FramedBy tf₀ tf)
    (hsegment : sentSegment tf = segmentAt tf₀.mission.maxDataLen sdu j)
    (hpacks : PacksInto tf input) (haccepts : FarmAccepts rx input) :
    if tf₀.mission.maxDataLen * (j + 1) < sdu.length then
      (receiveInput rx input).offer = none ∧ Assembling tf₀ sdu (j + 1) (receiveInput rx input).tf
    else (receiveInput rx input).offer.map Offer.sdu = some sdu := by
  obtain ⟨farmRet, peer, hfarm, hreceive, hpeer, hflag, hdataLen, hpayload⟩ :=
    receiveInput_accepted hcfg h.mission hframed hsegment hpacks haccepts
  have hfields : rx.mission.segHdrFlag = tf₀.mission.segHdrFlag ∧
      rx.mission.maxDataLen = tf₀.mission.maxDataLen ∧
      rx.mission.maxSduLen = tf₀.mission.maxSduLen := by
    rw [h.mission]
    exact ⟨rfl, rfl, rfl⟩
  obtain ⟨hsegHdr, hmaxDataLen, hmaxSduLen⟩ := hfields
  have hsduLen := hcfg.sduLen
  have hblock := length_block tf₀.mission.maxDataLen sdu j
  have hsucc : tf₀.mission.maxDataLen * (j + 1) =
      tf₀.mission.maxDataLen * j + tf₀.mission.maxDataLen := Nat.mul_succ _ _
  have hbuffer : peer.mission.util.buffer.take (tf₀.mission.maxDataLen * j) =
      sdu.take (tf₀.mission.maxDataLen * j) := by
    rcases Nat.eq_zero_or_pos j with rfl | hj
    · simp
    · rw [hpeer]
      exact h.buffer (Nat.ne_of_gt hj)
  -- the utility buffer with the segment holds what the SDU starts with
  have hcopied : (copiedTo peer (tf₀.mission.maxDataLen * j)).take
      (tf₀.mission.maxDataLen * j + peer.frameData.dataLen) =
        sdu.take (tf₀.mission.maxDataLen * j + peer.frameData.dataLen) := by
    have hslice : peer.frameData.payload =
        (sdu.drop (tf₀.mission.maxDataLen * j)).take peer.frameData.dataLen := by
      rw [hpayload, hdataLen]
      unfold block
      rw [List.take_eq_take_iff, List.length_take]
      omega
    unfold copiedTo
    rw [hslice]
    exact take_memWrite_append (by omega) hbuffer
  have hkept : SameMission tf₀.mission peer.mission := by
    rw [hpeer]
    exact h.mission
  rw [hreceive]
  unfold receiveData
  rw [hpeer, hsegHdr, if_pos hcfg.segHdr, hflag]
  unfold segmentFlag
  by_cases hshort : sdu.length ≤ tf₀.mission.maxDataLen
  · -- the one segment
    obtain rfl : j = 0 := by
      rcases Nat.eq_zero_or_pos j with hzero | hj
      · exact hzero
      · have hstep := Nat.le_mul_of_pos_right tf₀.mission.maxDataLen hj
        omega
    rw [if_neg (by omega), if_pos hshort]
    show (receiveUnseg input.1 farmRet peer).offer.map Offer.sdu = some sdu
    unfold receiveUnseg
    rw [if_neg (by rw [hpeer, hmaxDataLen]; omega)]
    show some ((copiedTo peer 0).take peer.frameData.dataLen) = some sdu
    rw [Nat.mul_zero, Nat.zero_add] at hcopied
    rw [hcopied, List.take_of_length_le (by omega)]
  rw [if_neg hshort]
  by_cases hj : j = 0
  · -- the first of several
    subst hj
    rw [if_pos rfl, if_pos (by omega)]
    show (receiveFirstSeg peer).offer = none ∧ Assembling tf₀ sdu 1 (receiveFirstSeg peer).tf
    unfold receiveFirstSeg
    rw [if_neg (by rw [hpeer, h.loop]; decide), if_neg (by rw [hpeer, hmaxDataLen]; omega)]
    rw [Nat.mul_zero, Nat.zero_add] at hcopied
    have hone : peer.frameData.dataLen = tf₀.mission.maxDataLen * 1 := by omega
    refine ⟨rfl, ?_, rfl, fun _ => hone, fun _ => ?_⟩
    · exact hkept.setUtil _
    · show (copiedTo peer 0).take _ = _
      rw [← hone]
      exact hcopied
  have hloop : peer.mission.util.loopState = .loopOpen := by
    rw [hpeer, h.loop, if_neg hj]
  have hbuffered : peer.mission.util.bufferedLength = tf₀.mission.maxDataLen * j := by
    rw [hpeer]
    exact h.bufferedLength hj
  have hroom : ¬ peer.frameData.dataLen + peer.mission.util.bufferedLength >
      peer.mission.maxSduLen := by
    rw [hbuffered, hpeer, hmaxSduLen]
    omega
  rw [if_neg hj]
  by_cases hcont : tf₀.mission.maxDataLen * (j + 1) < sdu.length
  · -- one in the middle
    rw [if_pos hcont, if_pos hcont]
    show (receiveContSeg peer).offer = none ∧ Assembling tf₀ sdu (j + 1) (receiveContSeg peer).tf
    unfold receiveContSeg receiveInLoop
    rw [if_neg (not_not.mpr hloop), if_neg hroom]
    have hnext : peer.mission.util.bufferedLength + peer.frameData.dataLen =
        tf₀.mission.maxDataLen * (j + 1) := by omega
    refine ⟨rfl, ?_, ?_, fun _ => ?_, fun _ => ?_⟩
    · exact hkept.setUtil _
    · rw [if_neg (Nat.succ_ne_zero j)]
      exact hloop
    · show u16 ((peer.mission.util.bufferedLength : ℤ) + peer.frameData.dataLen) = _
      rw [← Nat.cast_add, hnext]
      exact u16_of_lt (by omega)
    · show (copiedTo peer peer.mission.util.bufferedLength).take _ = _
      rw [← hnext, hbuffered]
      exact hcopied
  · -- the last
    rw [if_neg hcont, if_neg hcont]
    show (receiveLastSeg input.1 farmRet peer).offer.map Offer.sdu = some sdu
    unfold receiveLastSeg receiveInLoop
    rw [if_neg (not_not.mpr hloop), if_neg hroom]
    show some ((copiedTo peer peer.mission.util.bufferedLength).take
      (peer.mission.util.bufferedLength + peer.frameData.dataLen)) = some sdu
    rw [hbuffered, hcopied, List.take_of_length_le (by omega)]

/-- The frames from the `j`-th segment on lead to the one offer.
SOURCE: osdlp_tc.c:185-339 -/
theorem offersOf_segments (hcfg : Segmenting tf₀) (hmax : sdu.length ≤ tf₀.mission.maxSduLen)
    {c : ℕ} (hlast : tf₀.mission.maxDataLen * (c - 1) < sdu.length)
    (hcovered : sdu.length ≤ tf₀.mission.maxDataLen * c) {frames : List FopFrame}
    {inputs : List RxInput} (hpacks : List.Forall₂ PacksInto frames inputs)
    (hframed : ∀ tf ∈ frames, FramedBy tf₀ tf) (hj : j < c)
    (hsegments : frames.map sentSegment =
      (List.range' j (c - j)).map (segmentAt tf₀.mission.maxDataLen sdu))
    (h : Assembling tf₀ sdu j rx) (haccepts : Guarded receiveStep FarmAccepts rx inputs) :
    (offersOf rx inputs).map Offer.sdu = [sdu] := by
  induction hpacks generalizing j rx with
  | nil =>
    have hlen := congrArg List.length hsegments
    simp at hlen
    omega
  | @cons tf input frames inputs hpack hpacks ih =>
    rw [show c - j = c - (j + 1) + 1 by omega, List.range'_succ, List.map_cons, List.map_cons,
      List.cons.injEq] at hsegments
    obtain ⟨hsegment, hsegments⟩ := hsegments
    have hle : tf₀.mission.maxDataLen * j ≤ tf₀.mission.maxDataLen * (c - 1) :=
      Nat.mul_le_mul_left _ (by omega)
    have hstep := receiveInput_segment hcfg h (by omega) hmax (hframed tf List.mem_cons_self)
      hsegment hpack haccepts.1
    rw [offersOf, List.map_append]
    by_cases hmore : j + 1 < c
    · have hnext : tf₀.mission.maxDataLen * (j + 1) ≤ tf₀.mission.maxDataLen * (c - 1) :=
        Nat.mul_le_mul_left _ (by omega)
      rw [if_pos (by omega)] at hstep
      obtain ⟨hnone, hassembling⟩ := hstep
      rw [hnone]
      exact ih (fun tf htf => hframed tf (List.mem_cons_of_mem _ htf)) hmore hsegments hassembling
        haccepts.2
    · have hend : c = j + 1 := by omega
      rw [hend] at hcovered
      rw [if_neg (by omega)] at hstep
      have hnil : frames = [] := by
        rw [hend, Nat.sub_self] at hsegments
        exact List.map_eq_nil_iff.mp hsegments
      subst hnil
      obtain ⟨offer, hoffer, hsdu⟩ := Option.map_eq_some_iff.mp hstep
      rw [List.forall₂_nil_left_iff.mp hpacks, hoffer, ← hsdu]
      rfl

/-! ## The round trip -/

/-- **Segmentation and reassembly.**  The FOP and the transmission queue answer as the script
says, and the caller calls again after each interruption: the SDU is sent, and the frames that
carry it, whenever they are packed, make the receiver hand it over once.
SOURCE: osdlp_tc.c:185-426 -/
theorem reassembled_transmitted (hcfg : Segmenting tf₀)
    (hmission : SameMission tf₀.mission rx.mission)
    (hclosed : rx.mission.util.loopState = .loopClosed) (hsome : 1 ≤ sdu.length)
    (hmax : sdu.length ≤ tf₀.mission.maxSduLen) (answers : List SegmentAnswer) {calls rounds : ℕ}
    (hcalls : answers.length < calls) (hrounds : sdu.length < rounds) :
    let sent := sendSdu rounds sdu calls { tf := tf₀, world := { answers := answers, handed := [] } }
    sent.1.isSome ∧
      Segmentation tf₀.mission.maxDataLen sdu (sent.2.world.handed.map sentSegment) ∧
      ∀ inputs, List.Forall₂ PacksInto sent.2.world.handed inputs →
        Guarded receiveStep FarmAccepts rx inputs → (offersOf rx inputs).map Offer.sdu = [sdu] := by
  have hsduLen := hcfg.sduLen
  let start : FopSt SegmentWorld := { tf := tf₀, world := { answers := answers, handed := [] } }
  have hstart : Sending tf₀ sdu 0 start := by
    refine ⟨⟨rfl, ⟨tf₀.primaryHdr.frameLen, rfl⟩, ?_, rfl⟩, by omega, ?_, fun h => absurd rfl h⟩
    · intro tf htf
      exact absurd htf (by simp [start])
    · exact hcfg.ended
  obtain ⟨hdone, c, hsent⟩ := sendSdu_sends hcfg.room (by omega) hstart hrounds hcalls
  refine ⟨hdone, ?_, fun inputs hpacks haccepts => ?_⟩
  · rw [hsent.segments]
    exact segmentation_segmentAt hsent.positive hsent.lastMore hsent.covered
  · refine offersOf_segments hcfg hmax hsent.lastMore hsent.covered hpacks hsent.framed
      hsent.positive ?_ ⟨hmission, hclosed, fun h => absurd rfl h, fun h => absurd rfl h⟩ haccepts
    rw [hsent.segments, Nat.sub_zero, List.range_eq_range']

/-- A sender of frames with two octets of data. -/
def shortFrameArgs : TcInitArgs :=
  { scid := 0x2a5, maxSduLen := 8, maxFrameLen := 8, vcid := 9, mapid := 5, crcFlag := false
    segHdrFlag := true, bypass := .typeA, ctrlCmd := .data, utilBuffer := [] }

def shortFrameSender : FopFrame :=
  (osdlpTcInit default default shortFrameArgs default).getD default

/-- The transmission queue is full twice, and the first segment is delayed. -/
def interruptions : List SegmentAnswer :=
  [.full, .taken true { (default : FopConfig) with vs := 1 }, .full,
    .taken false { (default : FopConfig) with vs := 2 }]

/-- The frames of the SDU, with the FOP variables as they are when the FOP is handed the frame. -/
def interruptedInputs : List RxInput :=
  let sent := sendSdu 6 [1, 2, 3, 4, 5] 5
    { tf := shortFrameSender, world := { answers := interruptions, handed := [] } }
  sent.2.world.handed.map fun tf =>
    ({ config := 0, rxFull := false, enqueue := 0, enqueueNow := 0 },
      (osdlpTcPack tf tf.frameData.data tf.frameData.dataLen).1)

/-- The receiver of those frames. -/
def shortFrameReceiver : FarmFrame := { openFarm with mission := shortFrameSender.mission }

/-- Five octets in three frames, after three interruptions. -/
theorem reassembled_transmitted_three_frames :
    interruptedInputs.length = 3 ∧
      (offersOf shortFrameReceiver interruptedInputs).map Offer.sdu = [[1, 2, 3, 4, 5]] := by
  have hcfg : Segmenting shortFrameSender :=
    osdlpTcInit_segmenting (a := shortFrameArgs) (m := default) rfl (by decide) rfl (by decide)
      (by decide)
  have hmission : SameMission shortFrameSender.mission shortFrameReceiver.mission := rfl
  have hsent := reassembled_transmitted hcfg hmission rfl
    (show 1 ≤ [(1 : UInt8), 2, 3, 4, 5].length by decide) (by decide) interruptions
    (show 4 < 5 by decide) (show 5 < 6 by decide)
  refine ⟨by decide +kernel, hsent.2.2 interruptedInputs ?_ (by decide +kernel)⟩
  unfold interruptedInputs
  rw [List.forall₂_map_right_iff]
  exact List.forall₂_same.mpr fun tf _ => ⟨tf.copCfg, rfl⟩

end Osdlp.Analysis
