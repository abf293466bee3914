import Osdlp.Interface.TmSending

/-!
# A transmission that is resumed

A frame structure plans the frames of what remains of a packet (`plannedFrames`), their counters
and their checksums apart.  The loop of `osdlp_tm_transmit` queues the planned frames, or it
queues some of them and leaves the rest of the plan to the next call (`transmitLoop_resumes`).
-/

set_option autoImplicit false

namespace Osdlp.Interface

open Osdlp.Model Osdlp.Library

/-- The octets of a frame that hold its counters and its checksum. -/
def TmNumbers (m : TmMissionParams) (i : ℕ) : Prop :=
  i = 2 ∨ i = 3 ∨ (m.crcPresent = true ∧ m.frameLen - 2 ≤ i ∧ i < m.frameLen - 2 + 2)

/-- A frame with its counters and its checksum made zero. -/
def unnumbered (m : TmMissionParams) (frame : List UInt8) : List UInt8 :=
  if m.crcPresent then memWrite (memWrite frame 2 [0, 0]) (m.frameLen - 2) [0, 0]
  else memWrite frame 2 [0, 0]

/-- The octets that packing writes for every data, the checksum apart. -/
def TmWrites (tf : TmTransferFrame) (i : ℕ) : Prop :=
  let m := tf.mission
  i < 6 ∨
    (tf.primaryHdr.secHdr = true ∧ tmPrimaryHdrLen ≤ i ∧
      i < tmPrimaryHdrLen + (tmSecHdrOctets tf.secondaryHdr).length) ∨
    (m.headerLen ≤ i ∧ i < m.headerLen + m.maxDataLen) ∨
    (tf.primaryHdr.ocf = true ∧ m.headerLen + m.maxDataLen ≤ i ∧
      i < m.headerLen + m.maxDataLen + (tf.ocf.take 4).length)

/-- What transmission makes of the structure `base`: the rest of its fields stays, and so do the
octets of the utility buffer that no frame writes. -/
structure Continues (base tf : TmTransferFrame) : Prop where
  fields : ∃ ptr mc vc crc util, tf =
    { base with
      primaryHdr :=
        { base.primaryHdr with firstHdrPtr := ptr, mcFrameCnt := mc, vcFrameCnt := vc }
      crc := crc
      mission := { base.mission with util := util } }
  stale : ∀ i, ¬ TmWrites base i → ¬ TmNumbers base.mission i →
    tf.mission.util.buffer.getD i 0 = base.mission.util.buffer.getD i 0

/-- The frames that the structure makes of the last octets of a packet. -/
def plannedFrames (base : TmTransferFrame) (packet : List UInt8) : ℕ → ℕ → List (List UInt8)
  | 0, _ => []
  | numPackets + 1, remainingLen =>
    let bytesAvail := min base.mission.maxDataLen remainingLen
    unnumbered base.mission (queuedFrame (packIntoUtil (nextTmFrame base packet.length remainingLen)
      (packet.drop (packet.length - remainingLen)) bytesAvail)) ::
        plannedFrames base packet numPackets (remainingLen - bytesAvail)

/-- The frames that are left to the next call. -/
def leftFrames (base : TmTransferFrame) (packet : List UInt8) (util : TmUtilBuf) :
    List (List UInt8) :=
  let remainingLen := packet.length - util.bufferedLength
  plannedFrames base packet (numPacketsFor base.mission remainingLen) remainingLen

variable {m : TmMissionParams} {base tf : TmTransferFrame} {s : TmSender} {packet : List UInt8}

/-! ## Octets that count -/

/-- Frames that agree off their counters and their checksums. -/
theorem unnumbered_congr {buf buf' : List UInt8} (n : ℕ)
    (hsame : ∀ i, ¬ TmNumbers m i → buf.getD i 0 = buf'.getD i 0) :
    unnumbered m (region buf 0 n) = unnumbered m (region buf' 0 n) := by
  unfold unnumbered
  apply eq_of_getD
  · split_ifs <;> simp only [length_memWrite, length_region]
  · intro i
    apply getD_ite_memWrite_congr
    intro hcrc
    rw [getD_memWrite, getD_memWrite]
    split_ifs with hcounter
    · rfl
    by_cases hi : i < n
    · rw [getD_region _ _ _ _ hi, getD_region _ _ _ _ hi, Nat.zero_add]
      apply hsame
      rintro (rfl | rfl | hchecksum)
      · exact hcounter ⟨by omega, by simp⟩
      · exact hcounter ⟨by omega, by simp⟩
      · exact hcrc hchecksum
    · rw [List.getD_eq_default _ _ (by simpa using hi), List.getD_eq_default _ _ (by simpa using hi)]

/-- The first header pointer and the data field are neither counter nor checksum. -/
theorem tmCell_unnumbered (hshape : TmShape tf) (frame : List UInt8) :
    tmCell tf.mission (unnumbered tf.mission frame) = tmCell tf.mission frame := by
  have hge := hshape.headerLen_ge
  have hframe := hshape.frame
  have hkept : ∀ {off n : ℕ}, 4 ≤ off → off + n ≤ tf.mission.headerLen + tf.mission.maxDataLen →
      region (unnumbered tf.mission frame) off n = region frame off n := by
    intro off n hoff hin
    unfold unnumbered
    split_ifs with hcrc
    · rw [if_pos hcrc] at hframe
      rw [region_memWrite_of_disjoint (.inl (by omega)),
        region_memWrite_of_disjoint (.inr hoff)]
    · exact region_memWrite_of_disjoint (.inr hoff)
  unfold tmCell
  rw [tmFirstHdrPtr_congr (hkept (Nat.le_refl 4) (by omega)), hkept (by omega) (Nat.le_refl _)]

/-! ## Packing -/

theorem Continues.refl (base : TmTransferFrame) : Continues base base :=
  ⟨⟨_, _, _, _, _, rfl⟩, fun _ _ _ => rfl⟩

/-- Only the utility buffer is the transmission's own. -/
theorem Continues.mission (h : Continues base tf) :
    tf.mission = { base.mission with util := tf.mission.util } := by
  obtain ⟨ptr, mc, vc, crc, util, rfl⟩ := h.fields
  rfl

/-- The state of segmentation is of no concern. -/
theorem Continues.setUtil (h : Continues base tf) {util : TmUtilBuf}
    (hbuffer : util.buffer = tf.mission.util.buffer) :
    Continues base { tf with mission := { tf.mission with util := util } } := by
  refine ⟨?_, ?_⟩
  · obtain ⟨ptr, mc, vc, crc, util', rfl⟩ := h.fields
    exact ⟨ptr, mc, vc, crc, util, rfl⟩
  · intro i hwrites hnumbers
    show util.buffer.getD i 0 = _
    rw [hbuffer]
    exact h.stale i hwrites hnumbers

/-- The counters of a header are two of its octets. -/
theorem getD_tmHdrOctets_counters (hdr : TmPrimaryHdr) (mc vc : UInt8) {buf buf' : List UInt8}
    {i : ℕ} (hmc : i ≠ 2) (hvc : i ≠ 3) (hbuf : 6 ≤ i → buf.getD i 0 = buf'.getD i 0) :
    (memWrite buf 0 (tmHdrOctets { hdr with mcFrameCnt := mc, vcFrameCnt := vc })).getD i 0 =
      (memWrite buf' 0 (tmHdrOctets hdr)).getD i 0 := by
  rw [getD_memWrite, getD_memWrite]
  match i with
  | 0 | 1 | 4 | 5 => rfl
  | 2 => exact absurd rfl hmc
  | 3 => exact absurd rfl hvc
  | n + 6 =>
    rw [if_neg, if_neg]
    · exact hbuf (by omega)
    · simp [tmHdrOctets]
    · simp [tmHdrOctets]

/-- The frames that are packed agree off their counters.
SOURCE: osdlp_tm.c:96-139 -/
theorem Continues.body (h : Continues base tf) (length remainingLen : ℕ) {data : List UInt8}
    {k i : ℕ} (hmax : k ≤ base.mission.maxDataLen) (hdata : k ≤ data.length)
    (hi : ¬ TmNumbers base.mission i) :
    (tmPackBody (nextTmFrame tf length remainingLen) tf.mission.util.buffer data k).getD i 0 =
      (tmPackBody (nextTmFrame base length remainingLen) base.mission.util.buffer data k).getD i 0 := by
  have hstale := h.stale
  obtain ⟨ptr, mc, vc, crc, util, rfl⟩ := h.fields
  have htaken : (data.take k).length = k := List.length_take_of_le hdata
  unfold tmPackBody tmPackHeaders
  apply getD_ite_memWrite_congr
  intro hidle
  apply getD_ite_memWrite_congr
  intro hocf
  apply getD_ite_memWrite_congr
  intro hcopied
  apply getD_ite_memWrite_congr
  intro hsec
  apply getD_tmHdrOctets_counters (nextTmFrame base length remainingLen).primaryHdr
  · exact fun h2 => hi (.inl h2)
  · exact fun h3 => hi (.inr (.inl h3))
  · intro hbehind
    apply hstale i ?_ hi
    rintro (hhdr | hsecHdr | hfield | hcontrol)
    · exact absurd hhdr (not_lt.mpr hbehind)
    · exact hsec hsecHdr
    · -- the data field is filled with data and idle octets
      rw [htaken] at hcopied
      rw [List.length_replicate] at hidle
      simp only [nextTmFrame] at hcopied hidle
      omega
    · exact hocf hcontrol

/-- Packing leaves alone what it does not write.
SOURCE: osdlp_tm.c:96-139 -/
theorem getD_tmPackBody_stale (tf : TmTransferFrame) (buf data : List UInt8) {k i : ℕ}
    (hmax : k ≤ tf.mission.maxDataLen) (hwrites : ¬ TmWrites tf i) :
    (tmPackBody tf buf data k).getD i 0 = buf.getD i 0 := by
  simp only [TmWrites, not_or] at hwrites
  obtain ⟨hhdr, hsec, hfield, hocf⟩ := hwrites
  have htaken : (data.take k).length ≤ k := List.length_take_le _ _
  have hcopy : ∀ {c : Prop} [Decidable c] {buf src : List UInt8} {off : ℕ},
      ¬ (c ∧ off ≤ i ∧ i < off + src.length) →
        (if c then memWrite buf off src else buf).getD i 0 = buf.getD i 0 := by
    intro c _ buf src off hout
    split_ifs with hc
    · rw [getD_memWrite, if_neg fun hin => hout ⟨hc, hin⟩]
    · rfl
  unfold tmPackBody tmPackHeaders
  dsimp only
  rw [hcopy, hcopy hocf, hcopy, hcopy hsec, getD_memWrite, if_neg]
  · exact fun hin => hhdr (by simpa [tmHdrOctets] using hin)
  · omega
  · rw [List.length_replicate]
    omega

/-- The utility buffer after packing, its checksum apart. -/
theorem getD_packIntoUtil_buffer (tf : TmTransferFrame) (data : List UInt8) (k : ℕ) {i : ℕ}
    (hi : ¬ TmNumbers tf.mission i) :
    (packIntoUtil tf data k).mission.util.buffer.getD i 0 =
      (tmPackBody tf tf.mission.util.buffer data k).getD i 0 := by
  obtain ⟨crc, hpacked⟩ := packIntoUtil_eq tf data k
  rw [hpacked]
  apply getD_packCrc
  intro hcrc
  by_contra hin
  exact hi (.inr (.inr ⟨hcrc, by omega, by omega⟩))

/-- The next frame in the utility buffer.
SOURCE: osdlp_tm.c:371-400 -/
theorem Continues.buffer (h : Continues base tf) (length remainingLen : ℕ) {data : List UInt8}
    {k i : ℕ} (hmax : k ≤ base.mission.maxDataLen) (hdata : k ≤ data.length)
    (hi : ¬ TmNumbers base.mission i) :
    (packIntoUtil (nextTmFrame tf length remainingLen) data k).mission.util.buffer.getD i 0 =
      (tmPackBody (nextTmFrame base length remainingLen) base.mission.util.buffer data k).getD i 0 := by
  have hnumbers : ¬ TmNumbers (nextTmFrame tf length remainingLen).mission i := by
    show ¬ TmNumbers tf.mission i
    rw [h.mission]
    exact hi
  rw [getD_packIntoUtil_buffer _ _ _ hnumbers]
  exact h.body length remainingLen hmax hdata hi

/-- The next frame is packed. -/
theorem Continues.packed (h : Continues base tf) (length remainingLen : ℕ) {data : List UInt8}
    {k : ℕ} (hmax : k ≤ base.mission.maxDataLen) (hdata : k ≤ data.length) :
    Continues base (packIntoUtil (nextTmFrame tf length remainingLen) data k) := by
  constructor
  · obtain ⟨crc, hpacked⟩ := packIntoUtil_eq (nextTmFrame tf length remainingLen) data k
    obtain ⟨ptr, mc, vc, _, util, rfl⟩ := h.fields
    exact ⟨_, _, _, _, _, hpacked⟩
  · intro i hwrites hnumbers
    rw [h.buffer length remainingLen hmax hdata hnumbers]
    exact getD_tmPackBody_stale _ _ _ hmax hwrites

/-- The frame of a continued structure is the planned one, counters and checksum apart. -/
theorem Continues.planned (h : Continues base tf) (length remainingLen : ℕ) {data : List UInt8}
    {k : ℕ} (hmax : k ≤ base.mission.maxDataLen) (hdata : k ≤ data.length) :
    unnumbered base.mission (queuedFrame (packIntoUtil (nextTmFrame tf length remainingLen) data k)) =
      unnumbered base.mission
        (queuedFrame (packIntoUtil (nextTmFrame base length remainingLen) data k)) := by
  have hrefl := Continues.refl base
  have hlen := congrArg TmMissionParams.frameLen (h.packed length remainingLen hmax hdata).mission
  have hlenBase :=
    congrArg TmMissionParams.frameLen (hrefl.packed length remainingLen hmax hdata).mission
  unfold queuedFrame
  rw [hlen, hlenBase]
  apply unnumbered_congr
  intro i hi
  rw [h.buffer length remainingLen hmax hdata hi, hrefl.buffer length remainingLen hmax hdata hi]

/-! ## The loop -/

/-- The next frame is queued, or the queue refuses it. -/
theorem osdlpTmTxQueueEnqueue_cases (s : TmSender) (pkt : List UInt8) :
    (∃ answers, answers <:+ s.answers ∧ 0 ≤ (osdlpTmTxQueueEnqueue s pkt).1 ∧
      (osdlpTmTxQueueEnqueue s pkt).2 =
        { s with queue := s.queue ++ [region pkt 0 s.tf.mission.frameLen], answers := answers }) ∨
    ∃ ret answers, ret < 0 ∧ s.answers = ret :: answers ∧
      osdlpTmTxQueueEnqueue s pkt = (ret, { s with answers := answers }) := by
  unfold osdlpTmTxQueueEnqueue
  cases hanswers : s.answers with
  | nil =>
    exact .inl ⟨[], List.suffix_refl [], Int.le_refl 0, rfl⟩
  | cons ret answers =>
    dsimp only
    split_ifs with hret
    · exact .inr ⟨ret, answers, hret, rfl, rfl⟩
    · exact .inl ⟨answers, List.suffix_cons _ _, not_lt.mp hret, rfl⟩

/-- What remains behind a full frame takes one frame less. -/
theorem numPacketsFor_rest (hpos : 0 < m.maxDataLen) {remainingLen numPackets : ℕ}
    (h : numPackets + 1 = numPacketsFor m remainingLen) :
    numPackets = 0 ∨
      numPackets = numPacketsFor m (remainingLen - min m.maxDataLen remainingLen) := by
  obtain ⟨-, hmany, hfew⟩ := numPacketsFor_bounds hpos remainingLen
  rw [← h, Nat.succ_mul] at hmany hfew
  by_cases hfull : m.maxDataLen < remainingLen
  · right
    have hfew := hfew (by omega)
    rw [Nat.min_eq_left hfull.le]
    exact numPacketsFor_unique hpos (by omega) (by omega) (by omega)
  · left
    rcases Nat.eq_zero_or_pos remainingLen with hzero | hsome
    · rw [hzero, numPacketsFor, Nat.zero_div, Nat.zero_mod, if_pos (.inl rfl)] at h
      omega
    · have hone := numPacketsFor_unique hpos hsome (show remainingLen ≤ 1 * m.maxDataLen by omega)
        (by omega)
      omega

/-- How the loop leaves the sender `s`: with the whole plan in the queue, or refused a frame and
with the rest of the plan left.  -/
structure Progresses (base : TmTransferFrame) (packet : List UInt8) (plan : List (List UInt8))
    (s : TmSender) (out : Int × TmSender) : Prop where
  continues : Continues base out.2.tf
  answers : out.2.answers <:+ s.answers
  frames : ∃ frames rest, out.2.queue = s.queue ++ frames ∧
    frames.map (unnumbered base.mission) ++ rest = plan ∧
    let util := out.2.tf.mission.util
    ((out.1 = 0 ∧ rest = [] ∧ util.loopState = .loopClosed ∧ util.bufferedLength = 0) ∨
      (out.1 < 0 ∧ rest = leftFrames base packet util ∧ util.loopState = .loopOpen ∧
        util.bufferedLength ≤ packet.length ∧ ¬ Accepting s.answers ∧
        out.2.answers.length < s.answers.length))

/-- SOURCE: osdlp_tm.c:367-413 -/
theorem transmitLoop_resumes (hpos : 0 < base.mission.maxDataLen) (hlen : packet.length < 65536)
    {numPackets remainingLen : ℕ} (hcont : Continues base s.tf)
    (hrem : remainingLen ≤ packet.length)
    (hnum : numPackets = 0 ∨ numPackets = numPacketsFor base.mission remainingLen) :
    Progresses base packet (plannedFrames base packet numPackets remainingLen) s
      (transmitLoop packet packet.length numPackets remainingLen s) := by
  -- on the frames that are left, for every state that continues the segmentation
  induction numPackets generalizing s remainingLen with
  | zero =>
    refine ⟨hcont.setUtil rfl, List.suffix_refl _, [], [], ?_, rfl, .inl ⟨rfl, rfl, rfl, rfl⟩⟩
    exact (List.append_nil _).symm
  | succ numPackets ih =>
    have hnum : numPackets + 1 = numPacketsFor base.mission remainingLen :=
      hnum.resolve_left (Nat.succ_ne_zero _)
    have hmax := Nat.min_le_left base.mission.maxDataLen remainingLen
    have hdata : min base.mission.maxDataLen remainingLen ≤
        (packet.drop (packet.length - remainingLen)).length := by
      rw [List.length_drop]
      omega
    have hpacked := hcont.packed packet.length remainingLen hmax hdata
    have hplanned := hcont.planned packet.length remainingLen hmax hdata
    have hmaxDataLen : s.tf.mission.maxDataLen = base.mission.maxDataLen := by
      rw [hcont.mission]
    unfold transmitLoop plannedFrames
    dsimp only
    rw [hmaxDataLen]
    generalize packIntoUtil (nextTmFrame s.tf packet.length remainingLen)
      (packet.drop (packet.length - remainingLen)) (min base.mission.maxDataLen remainingLen) =
        packed at hpacked hplanned ⊢
    rcases osdlpTmTxQueueEnqueue_cases { s with tf := packed } packed.mission.util.buffer with
      ⟨answers, hanswers, hret, hsent⟩ | ⟨ret, answers, hret, hanswers, hsent⟩
    · -- the queue takes the frame, and the loop goes on
      rw [if_neg (not_lt.mpr hret), hsent]
      have hrest := numPacketsFor_rest hpos hnum
      obtain ⟨hcont', hanswers', frames, rest, hqueue, hplan, hend⟩ :=
        @ih { s with tf := packed, queue := s.queue ++ [queuedFrame packed], answers := answers }
          (remainingLen - min base.mission.maxDataLen remainingLen) hpacked (by omega) hrest
      refine ⟨hcont', hanswers'.trans hanswers, queuedFrame packed :: frames, rest, ?_, ?_, ?_⟩
      · exact hqueue.trans (List.append_cons _ _ _).symm
      · rw [List.map_cons, List.cons_append, hplanned, hplan]
      · refine hend.imp id ?_
        rintro ⟨hneg, hleft, hopen, hbuffered, hrefused, hfewer⟩
        refine ⟨hneg, hleft, hopen, hbuffered, ?_, ?_⟩
        · exact fun hacc => hrefused fun a ha => hacc a (hanswers.subset ha)
        · exact Nat.lt_of_lt_of_le hfewer hanswers.length_le
    · -- the queue refuses it, and the position in front of it is kept for the next call
      rw [hsent, if_pos hret]
      have hbuffered : u16 (packet.length - remainingLen : ℤ) = packet.length - remainingLen := by
        rw [← Nat.cast_sub hrem]
        exact u16_of_lt (by omega)
      refine ⟨hpacked.setUtil rfl, ?_, [], _, (List.append_nil _).symm, rfl, .inr ?_⟩
      · exact hanswers ▸ List.suffix_cons _ _
      refine ⟨hret, ?_, rfl, ?_, ?_, ?_⟩
      · unfold leftFrames
        dsimp only
        rw [hbuffered, Nat.sub_sub_self hrem, ← hnum]
        rfl
      · dsimp only
        rw [hbuffered]
        exact Nat.sub_le _ _
      · exact fun hacc => not_le.mpr hret (hacc ret (hanswers ▸ List.mem_cons_self))
      · show answers.length < s.answers.length
        rw [show s.answers = ret :: answers from hanswers]
        exact Nat.lt_succ_self _

/-! ## The call -/

/-- The walk over the last frame ends, where no packet has no length.
SOURCE: osdlp_tm.c:226-271 -/
theorem evalResidueLoop_isSome {getPacketLen : GetPacketLen}
    (hhook : ∀ pkt n, getPacketLen pkt n ≠ some 0) (hsmall : m.maxDataLen < 65536)
    (lastPkt : List UInt8) {fuel residueLen : ℕ} (hfuel : m.maxDataLen - residueLen < fuel) :
    (evalResidueLoop getPacketLen m lastPkt fuel residueLen).isSome := by
  induction fuel generalizing residueLen with
  | zero => exact absurd hfuel (Nat.not_lt_zero _)
  | succ fuel ih =>
    unfold evalResidueLoop
    split_ifs with hin
    · cases hlength : getPacketLen (lastPkt.drop (m.headerLen + residueLen)) m.maxDataLen with
      | none => rfl
      | some pktLen =>
        have hsome : pktLen.toNat ≠ 0 := fun hzero =>
          hhook _ _ (hlength.trans (congrArg some (UInt16.toNat_inj.mp hzero)))
        dsimp only
        split_ifs with hover hidle
        · rfl
        · rfl
        · have hnext : u16 (residueLen + pktLen.toNat) = residueLen + pktLen.toNat := by
            rw [← Nat.cast_add]
            exact u16_of_lt (by omega)
          rw [hnext]
          exact ih (by omega)
    · rfl

/-- Every round goes on by a packet that is not empty, so the search ends. -/
theorem evalResidueLen_isSome {getPacketLen : GetPacketLen}
    (hhook : ∀ pkt n, getPacketLen pkt n ≠ some 0) (hsmall : m.maxDataLen < 65536)
    (lastPkt : List UInt8) {fuel : ℕ} (hfuel : m.maxDataLen < fuel) :
    (evalResidueLen getPacketLen fuel m lastPkt).isSome := by
  unfold evalResidueLen
  dsimp only
  split_ifs
  · rfl
  · exact evalResidueLoop_isSome hhook hsmall lastPkt (by omega)
  · rfl
  · rfl

/-- Behind the octets that are stuffed, the packet takes one frame less.
SOURCE: osdlp_tm.c:273-304, 343-352 -/
theorem handlePktStuffing_rest (hpos : 0 < m.maxDataLen) (hsmall : m.maxDataLen < 65536)
    (lastPkt dataIn : List UInt8) {length residueLen : ℕ} (hlen : 0 < length)
    (hlength : length < 65536) (hspace : residueLen < m.maxDataLen) :
    let numPackets := numPacketsFor m (length + residueLen)
    let remainingLen := (handlePktStuffing m numPackets lastPkt dataIn length residueLen).2
    remainingLen ≤ length ∧
      (numPackets - 1 = 0 ∨ numPackets - 1 = numPacketsFor m remainingLen) := by
  intro numPackets remainingLen
  obtain ⟨hsome, hmany, hfew⟩ := numPacketsFor_bounds hpos (length + residueLen)
  have hfew := hfew (by omega)
  by_cases hone : numPackets = 1
  · have hnone : remainingLen = 0 := by
      show (handlePktStuffing m numPackets lastPkt dataIn length residueLen).2 = 0
      rw [handlePktStuffing, if_pos hone]
    omega
  · have hover : m.maxDataLen < length + residueLen := by
      by_contra hin
      exact hone ((numPacketsFor_eq_one hpos (by omega)).mpr (by omega))
    have hrest : remainingLen = length + residueLen - m.maxDataLen := by
      show (handlePktStuffing m numPackets lastPkt dataIn length residueLen).2 = _
      rw [handlePktStuffing, if_neg hone]
      dsimp only
      rw [← Nat.cast_sub hspace.le, u16_of_lt (by omega), ← Nat.cast_sub (by omega),
        u16_of_lt (by omega)]
      omega
    refine ⟨by omega, .inr ?_⟩
    obtain ⟨n, hn⟩ := Nat.exists_eq_add_one_of_ne_zero (Nat.ne_of_gt hsome)
    rw [hn, Nat.succ_mul] at hmany hfew
    rw [hrest]
    show numPacketsFor m (length + residueLen) - 1 = _
    rw [hn, Nat.add_sub_cancel]
    exact numPacketsFor_unique hpos (by omega) (by omega) (by omega)

/-- A call that goes on with a packet.
SOURCE: osdlp_tm.c:320-325, 354-361 -/
theorem osdlpTmTransmit_goesOn (getPacketLen : GetPacketLen) (fuel : ℕ) (queueBack : Int)
    (hlength : packet.length < 65536) (hopen : s.tf.mission.util.loopState = .loopOpen)
    (hbuffered : s.tf.mission.util.bufferedLength ≤ packet.length) :
    osdlpTmTransmit getPacketLen fuel queueBack s packet packet.length =
      let remainingLen := packet.length - s.tf.mission.util.bufferedLength
      some (transmitLoop packet packet.length (numPacketsFor s.tf.mission remainingLen)
        remainingLen s) := by
  have hclosed : ¬ (s.queue ≠ [] ∧ s.tf.mission.stuffState = .stuffingOn ∧
      s.tf.mission.util.loopState = .loopClosed) := by
    rw [hopen]
    simp
  unfold osdlpTmTransmit
  dsimp only
  rw [if_neg hclosed, if_pos hopen, ← Nat.cast_sub hbuffered, u16_of_lt (by omega)]
  rfl

/-- The last frame stays as it is, or it takes octets behind those that count.
SOURCE: osdlp_tm.c:329-353 -/
theorem stuffLastFrame_cases {getPacketLen : GetPacketLen} {fuel : ℕ} {queueBack : Int}
    (hends : (evalResidueLen getPacketLen fuel s.tf.mission (s.queue.getLastD [])).isSome)
    (length remainingLen : ℕ) :
    let m := s.tf.mission
    (∀ answers, stuffLastFrame getPacketLen fuel queueBack { s with answers := answers } packet length
        remainingLen =
      some (numPacketsFor m remainingLen, remainingLen, { s with answers := answers })) ∨
    ∃ residueLen stuffed, residueLen < m.maxDataLen ∧
      handlePktStuffing m (numPacketsFor m (remainingLen + residueLen)) (s.queue.getLastD []) packet
        length residueLen = stuffed ∧
      ∀ answers, stuffLastFrame getPacketLen fuel queueBack { s with answers := answers } packet
          length remainingLen =
        some (numPacketsFor m (remainingLen + residueLen) - 1, stuffed.2,
          { s with queue := s.queue.dropLast ++ [stuffed.1], answers := answers }) := by
  intro m
  obtain ⟨residueLen, hresidue⟩ := Option.isSome_iff_exists.mp hends
  unfold stuffLastFrame
  dsimp only
  by_cases hback : queueBack < 0
  · left
    intro answers
    rw [if_pos hback]
    simp only [Option.bind_eq_bind, Option.bind_some, ge_iff_le, le_refl, if_true]
    rfl
  · simp only [if_neg hback, hresidue, Option.bind_eq_bind, Option.bind_some]
    by_cases hfull : residueLen ≥ s.tf.mission.maxDataLen
    · left
      intro answers
      rw [if_pos hfull]
      rfl
    · refine .inr ⟨residueLen, _, not_le.mp hfull, rfl, ?_⟩
      intro answers
      rw [if_neg hfull]
      rfl

/-- What a call finds: the queue, with what is stuffed into its last frame, the number of frames to
make, and the octets of the packet that are left for them. -/
inductive TransmitStart (s : TmSender) (packet : List UInt8) : List (List UInt8) → ℕ → ℕ → Prop
  /-- The packet is under way: the frames of what is left of it. -/
  | goesOn (hopen : s.tf.mission.util.loopState = .loopOpen) (remainingLen : ℕ)
      (hleft : remainingLen = packet.length - s.tf.mission.util.bufferedLength) :
      TransmitStart s packet s.queue (numPacketsFor s.tf.mission remainingLen) remainingLen
  /-- The packet begins in a frame of its own. -/
  | whole (hclosed : s.tf.mission.util.loopState ≠ .loopOpen) :
      TransmitStart s packet s.queue (numPacketsFor s.tf.mission packet.length) packet.length
  /-- The packet begins in the last frame of the queue, behind its `residueLen` octets. -/
  | stuffed (hclosed : s.tf.mission.util.loopState ≠ .loopOpen)
      (hon : s.tf.mission.stuffState = .stuffingOn) (hqueue : s.queue ≠ []) (residueLen : ℕ)
      (hspace : residueLen < s.tf.mission.maxDataLen) (numPackets : ℕ)
      (hnum : numPackets = numPacketsFor s.tf.mission (packet.length + residueLen))
      (result : List UInt8 × ℕ)
      (hresult : handlePktStuffing s.tf.mission numPackets (s.queue.getLastD []) packet
        packet.length residueLen = result) :
      TransmitStart s packet (s.queue.dropLast ++ [result.1]) (numPackets - 1) result.2

/-- Only the last frame of the queue is rewritten. -/
theorem TransmitStart.queue {queue : List (List UInt8)} {numPackets remainingLen : ℕ}
    (h : TransmitStart s packet queue numPackets remainingLen) :
    queue.length = s.queue.length ∧ queue.dropLast = s.queue.dropLast := by
  cases h with
  | goesOn | whole => exact ⟨rfl, rfl⟩
  | stuffed _ _ hqueue =>
    refine ⟨?_, List.dropLast_concat⟩
    rw [List.length_append, List.length_dropLast, List.length_singleton]
    exact Nat.sub_add_cancel (List.length_pos_iff.mpr hqueue)

/-- The octets that are left take the number of frames, if there are any to make. -/
theorem TransmitStart.plan {queue : List (List UInt8)} {numPackets remainingLen : ℕ}
    (h : TransmitStart s packet queue numPackets remainingLen) (hpos : 0 < s.tf.mission.maxDataLen)
    (hsmall : s.tf.mission.maxDataLen < 65536) (hlen : 0 < packet.length)
    (hlength : packet.length < 65536) :
    remainingLen ≤ packet.length ∧
      (numPackets = 0 ∨ numPackets = numPacketsFor s.tf.mission remainingLen) := by
  cases h with
  | goesOn _ _ hleft => exact ⟨hleft.trans_le (Nat.sub_le _ _), .inr rfl⟩
  | whole => exact ⟨Nat.le_refl _, .inr rfl⟩
  | stuffed _ _ _ residueLen hspace _ hnum _ hresult =>
    subst hnum hresult
    exact handlePktStuffing_rest hpos hsmall (s.queue.getLastD []) packet hlen hlength hspace

/-- A call stuffs what finds room in the last frame, if it begins with the packet, and enters the
loop with the frames that the rest takes.  The answers of the queue are of no concern before.
SOURCE: osdlp_tm.c:306-365 -/
theorem osdlpTmTransmit_starts {getPacketLen : GetPacketLen}
    (hhook : ∀ pkt n, getPacketLen pkt n ≠ some 0) {fuel : ℕ}
    (hfuel : s.tf.mission.maxDataLen < fuel) (hsmall : s.tf.mission.maxDataLen < 65536)
    (hlength : packet.length < 65536) (hbuffered : s.tf.mission.util.loopState = .loopOpen →
      s.tf.mission.util.bufferedLength ≤ packet.length) (queueBack : Int) :
    ∃ queue numPackets remainingLen, TransmitStart s packet queue numPackets remainingLen ∧
      ∀ answers, osdlpTmTransmit getPacketLen fuel queueBack { s with answers := answers } packet
          packet.length =
        some (transmitLoop packet packet.length numPackets remainingLen
          { s with queue := queue, answers := answers }) := by
  by_cases hopen : s.tf.mission.util.loopState = .loopOpen
  · refine ⟨s.queue, _, _, .goesOn hopen _ rfl, ?_⟩
    intro answers
    exact @osdlpTmTransmit_goesOn { s with answers := answers } packet getPacketLen fuel queueBack
      hlength hopen (hbuffered hopen)
  by_cases hstuffs : s.queue ≠ [] ∧ s.tf.mission.stuffState = .stuffingOn ∧
      s.tf.mission.util.loopState = .loopClosed
  · have hends := evalResidueLen_isSome hhook hsmall (s.queue.getLastD []) hfuel
    rcases @stuffLastFrame_cases s packet _ _ queueBack hends packet.length packet.length with
      hstays | ⟨residueLen, stuffed, hspace, hstuffed, htakes⟩
    · refine ⟨s.queue, _, _, .whole hopen, ?_⟩
      intro answers
      unfold osdlpTmTransmit
      dsimp only
      rw [if_pos hstuffs, if_neg hopen, hstays]
      rfl
    · refine ⟨_, _, _, .stuffed hopen hstuffs.2.1 hstuffs.1 residueLen hspace _ rfl stuffed hstuffed,
        ?_⟩
      intro answers
      unfold osdlpTmTransmit
      dsimp only
      rw [if_pos hstuffs, if_neg hopen, htakes]
      rfl
  · refine ⟨s.queue, _, _, .whole hopen, ?_⟩
    intro answers
    unfold osdlpTmTransmit
    dsimp only
    rw [if_neg hstuffs, if_neg hopen]
    rfl

end Osdlp.Interface
