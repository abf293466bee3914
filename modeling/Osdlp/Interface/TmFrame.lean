import Osdlp.Model.TmReceive

/-!
# What a telemetry frame carries

A frame carries a first header pointer and a data field, its `TmCell`.  The frame that
`osdlp_tm_pack` makes is `Sound` and carries what it was given (`packed_sound`,
`packed_cell`).  `TmShape` says that headers, data field, OCF and checksum fill the frame,
as `osdlp_tm_init` arranges it.
-/

set_option autoImplicit false

namespace Osdlp.Interface

open Osdlp.Model Osdlp.Library

/-- The first header pointer and the data field of a frame. -/
structure TmCell where
  ptr : BitVec 11
  field : List UInt8
  deriving DecidableEq, Repr

/-- What a frame carries. -/
def tmCell (m : TmMissionParams) (frame : List UInt8) : TmCell :=
  { ptr := tmFirstHdrPtr frame, field := region frame m.headerLen m.maxDataLen }

/-- The frame has its length, and its checksum is right where there is one. -/
structure Sound (m : TmMissionParams) (frame : List UInt8) : Prop where
  length : frame.length = m.frameLen
  crc : m.crcPresent = true →
    osdlpCalcCrc frame (m.frameLen - 2) = tmTrailerCrc m.frameLen frame

instance (m : TmMissionParams) (frame : List UInt8) : Decidable (Sound m frame) :=
  decidable_of_iff (frame.length = m.frameLen ∧ (m.crcPresent = true →
      osdlpCalcCrc frame (m.frameLen - 2) = tmTrailerCrc m.frameLen frame))
    ⟨fun h => ⟨h.1, h.2⟩, fun h => ⟨h.length, h.crc⟩⟩

/-- Headers, data field, OCF and checksum fill the frame. -/
structure TmShape (tf : TmTransferFrame) : Prop where
  header : tf.mission.headerLen =
    if tf.primaryHdr.secHdr then 7 + tf.secondaryHdr.length.toNat else 6
  frame : tf.mission.frameLen = tf.mission.headerLen + tf.mission.maxDataLen +
    (if tf.primaryHdr.ocf then 4 else 0) + (if tf.mission.crcPresent then 2 else 0)

variable {m : TmMissionParams} {tf : TmTransferFrame}

theorem TmShape.headerLen_ge (h : TmShape tf) : 6 ≤ tf.mission.headerLen := by
  rw [h.header]
  split <;> omega

/-- The data field ends inside the frame. -/
theorem TmShape.frameLen_ge (h : TmShape tf) :
    tf.mission.headerLen + tf.mission.maxDataLen ≤ tf.mission.frameLen := by
  have hframe := h.frame
  omega

/-- The data field is what the headers, the OCF and the checksum leave. -/
theorem TmInitArgs.mission_maxDataLen {a : TmInitArgs} (hroom : a.occupied ≤ a.frameSize.toNat) :
    a.mission.maxDataLen = a.frameSize.toNat - a.occupied := by
  have hsize := a.frameSize.toNat_lt
  show u16 (a.frameSize.toNat - a.occupied : ℤ) = a.frameSize.toNat - a.occupied
  rw [← Nat.cast_sub hroom]
  exact u16_of_lt (by omega)

/-- The mission is that of the arguments. -/
theorem osdlpTmInit_mission {tf₀ : TmTransferFrame} {a : TmInitArgs}
    (h : osdlpTmInit tf₀ a = some tf) : tf.mission = a.mission := by
  unfold osdlpTmInit at h
  split_ifs at h
  all_goals exact congrArg TmTransferFrame.mission (Option.some.inj h).symm

/-- `osdlp_tm_init` makes the shape, where the frame has room for what is not data. -/
theorem osdlpTmInit_shape {tf₀ : TmTransferFrame} {a : TmInitArgs}
    (hroom : a.occupied ≤ a.frameSize.toNat) (h : osdlpTmInit tf₀ a = some tf) : TmShape tf := by
  unfold osdlpTmInit at h
  by_cases hsmall : a.frameSize.toNat ≤ tmPrimaryHdrLen
  · rw [if_pos hsmall] at h
    cases h
  rw [if_neg hsmall] at h
  obtain rfl := Option.some.inj h
  have hmax := TmInitArgs.mission_maxDataLen hroom
  constructor
  · show a.occupiedHeader = _
    simp only [TmInitArgs.occupiedHeader, tmPrimaryHdrLen]
    split
    · rw [BitVec.toNat_ofNat]
      omega
    · rfl
  · show a.frameSize.toNat = a.occupiedHeader + a.mission.maxDataLen +
      (if a.ocfFlag then 4 else 0) + (if a.crcFlag then 2 else 0)
    rw [hmax]
    simp only [TmInitArgs.occupied, tmOcfLength, tmCrcLength] at hroom ⊢
    omega

/-! ## The checksum -/

theorem length_tmWriteCrc (n : ℕ) (pkt : List UInt8) :
    (tmWriteCrc n pkt).1.length = max pkt.length (n - 2 + 2) := by
  simp [tmWriteCrc, length_memWrite]

/-- The checksum leaves alone what lies before it. -/
theorem region_tmWriteCrc {n off k : ℕ} (pkt : List UInt8) (h : off + k ≤ n - 2) :
    region (tmWriteCrc n pkt).1 off k = region pkt off k := by
  unfold tmWriteCrc
  rw [region_memWrite_of_disjoint (.inl h), region_memWrite_of_disjoint (.inl h)]

/-- The checksum that is written is the one that is calculated. -/
theorem tmWriteCrc_sound {n : ℕ} (hn : 2 ≤ n) (pkt : List UInt8) :
    osdlpCalcCrc (region (tmWriteCrc n pkt).1 0 n) (n - 2) =
      tmTrailerCrc n (region (tmWriteCrc n pkt).1 0 n) := by
  have hbody : osdlpCalcCrc (region (tmWriteCrc n pkt).1 0 n) (n - 2) = (tmWriteCrc n pkt).2 := by
    have hwritten : (region (tmWriteCrc n pkt).1 0 n).take (n - 2) =
        (memWrite pkt (n - 2) [0, 0]).take (n - 2) := by
      rw [take_eq_region (by simp), take_eq_region (by rw [length_memWrite]; omega),
        region_region _ (by omega), region_tmWriteCrc _ (by omega),
        region_memWrite_of_disjoint (.inl (by omega))]
    unfold osdlpCalcCrc
    rw [hwritten]
    rfl
  have htrailer : tmTrailerCrc n (region (tmWriteCrc n pkt).1 0 n) = (tmWriteCrc n pkt).2 := by
    unfold tmTrailerCrc
    rw [getD_region _ _ _ _ (by omega), getD_region _ _ _ _ (by omega)]
    have hhi : (tmWriteCrc n pkt).1.getD (0 + (n - 2)) 0 =
        UInt8.ofNat ((tmWriteCrc n pkt).2.toNat / 256) := by
      unfold tmWriteCrc
      rw [getD_memWrite, if_pos (by simp), Nat.zero_add, Nat.sub_self]
      rfl
    have hlo : (tmWriteCrc n pkt).1.getD (0 + (n - 1)) 0 =
        UInt8.ofNat (tmWriteCrc n pkt).2.toNat := by
      unfold tmWriteCrc
      rw [getD_memWrite, if_pos (by simp; omega), Nat.zero_add, show n - 1 - (n - 2) = 1 by omega]
      rfl
    rw [hhi, hlo, join_octets]
  rw [hbody, htrailer]

/-- What is not checksum stays. -/
theorem getD_packCrc (pkt : List UInt8) {i : ℕ}
    (hi : m.crcPresent = true → i < m.frameLen - 2 ∨ m.frameLen - 2 + 2 ≤ i) :
    (packCrc m pkt).getD i 0 = pkt.getD i 0 := by
  unfold packCrc tmWriteCrc
  split_ifs with hcrc
  · have hout := hi hcrc
    rw [getD_memWrite, if_neg, getD_memWrite, if_neg]
    · simp only [List.length_cons, List.length_nil]
      omega
    · simp only [List.length_cons, List.length_nil]
      omega
  · rfl

/-! ## Packing -/

/-- The low bits of the octet that holds the data field status. -/
theorem status_octet (sec sync order : Bool) (seg : Fin 4) (hi : Fin 8) :
    (((bit sec <<< 7) ||| (bit sync <<< 6) ||| (bit order <<< 5) |||
      (UInt8.ofNat seg <<< 3) ||| (UInt8.ofNat hi &&& 0x07)) &&& 0x07).toNat = hi := by
  revert sec sync order seg hi
  decide +kernel

/-- The header that is written holds the first header pointer. -/
theorem tmFirstHdrPtr_hdrOctets (hdr : TmPrimaryHdr) :
    tmFirstHdrPtr (tmHdrOctets hdr) = hdr.firstHdrPtr := by
  have hptr := hdr.firstHdrPtr.isLt
  have hstatus := status_octet hdr.secHdr hdr.sync hdr.pktOrder ⟨hdr.segLenId.toNat, hdr.segLenId.isLt⟩
    ⟨hdr.firstHdrPtr.toNat / 256, by omega⟩
  have hlow : (UInt8.ofNat hdr.firstHdrPtr.toNat).toNat = hdr.firstHdrPtr.toNat % 256 :=
    UInt8.toNat_ofNat'
  refine BitVec.eq_of_toNat_eq ?_
  show (BitVec.ofNat 11 (_ * 256 + _)).toNat = _
  dsimp only at hstatus
  rw [BitVec.toNat_ofNat]
  show (UInt8.toNat (_ &&& 0x07) * 256 + (UInt8.ofNat hdr.firstHdrPtr.toNat).toNat) % 2 ^ 11 = _
  rw [hlow]
  show ((((bit hdr.secHdr <<< 7) ||| (bit hdr.sync <<< 6) ||| (bit hdr.pktOrder <<< 5) |||
      (UInt8.ofNat hdr.segLenId.toNat <<< 3) |||
      (UInt8.ofNat (hdr.firstHdrPtr.toNat / 256) &&& 0x07)) &&& 0x07).toNat * 256 + _) % 2 ^ 11 = _
  rw [hstatus]
  omega

/-- The first header pointer is read from two octets. -/
theorem tmFirstHdrPtr_congr {pkt pkt' : List UInt8} (h : region pkt 4 2 = region pkt' 4 2) :
    tmFirstHdrPtr pkt = tmFirstHdrPtr pkt' := by
  have h4 : pkt.getD 4 0 = pkt'.getD 4 0 := by
    rw [← getD_region pkt 4 2 0 (by omega), h, getD_region _ _ _ _ (by omega)]
  have h5 : pkt.getD 5 0 = pkt'.getD 5 0 := by
    rw [← getD_region pkt 4 2 1 (by omega), h, getD_region _ _ _ _ (by omega)]
  unfold tmFirstHdrPtr
  rw [h4, h5]

/-- The secondary header lies behind the first header pointer. -/
theorem region_tmPackHeaders (tf : TmTransferFrame) (pktOut : List UInt8) :
    region (tmPackHeaders tf pktOut) 4 2 = region (tmHdrOctets tf.primaryHdr) 4 2 := by
  unfold tmPackHeaders
  dsimp only
  rw [region_ite_memWrite_of_disjoint fun _ => .inl (by decide)]
  refine region_congr fun i hi => ?_
  rw [getD_memWrite, if_pos (by simp [tmHdrOctets]; omega), Nat.sub_zero]

/-- What is written behind the headers leaves the first header pointer alone. -/
theorem tmFirstHdrPtr_tmPackBody (h : TmShape tf) (pktOut dataIn : List UInt8) (length : ℕ) :
    tmFirstHdrPtr (tmPackBody tf pktOut dataIn length) = tf.primaryHdr.firstHdrPtr := by
  have hge := h.headerLen_ge
  rw [← tmFirstHdrPtr_hdrOctets]
  refine tmFirstHdrPtr_congr ?_
  rw [← region_tmPackHeaders tf pktOut]
  unfold tmPackBody
  dsimp only
  rw [region_ite_memWrite_of_disjoint fun _ => .inl (by omega),
    region_ite_memWrite_of_disjoint fun _ => .inl (by omega),
    region_ite_memWrite_of_disjoint fun _ => .inl (by omega)]

/-- The data field holds the data, and idle octets behind them. -/
theorem region_tmPackBody (tf : TmTransferFrame) (pktOut : List UInt8) {dataIn : List UInt8}
    {length : ℕ} (hmax : length ≤ tf.mission.maxDataLen) (hdata : length ≤ dataIn.length) :
    region (tmPackBody tf pktOut dataIn length) tf.mission.headerLen tf.mission.maxDataLen =
      dataIn.take length ++ List.replicate (tf.mission.maxDataLen - length) tmIdlePacket := by
  have htaken : (dataIn.take length).length = length := List.length_take_of_le hdata
  have hcopied : region (tmPackBody tf pktOut dataIn length) tf.mission.headerLen length =
      dataIn.take length := by
    unfold tmPackBody
    dsimp only
    rw [region_ite_memWrite_of_disjoint fun _ => .inl (by omega),
      region_ite_memWrite_of_disjoint fun _ => .inl (by omega)]
    split_ifs with hzero
    · exact region_memWrite_self _ _ htaken
    · rw [not_not.mp hzero, region_zero, List.take_zero]
  have hidle : region (tmPackBody tf pktOut dataIn length) (tf.mission.headerLen + length)
      (tf.mission.maxDataLen - length) =
        List.replicate (tf.mission.maxDataLen - length) tmIdlePacket := by
    by_cases hroom : length < tf.mission.maxDataLen
    · unfold tmPackBody
      dsimp only
      rw [if_pos hroom, region_memWrite_self _ _ List.length_replicate]
    · rw [Nat.sub_eq_zero_of_le (not_lt.mp hroom), region_zero, List.replicate_zero]
  calc region (tmPackBody tf pktOut dataIn length) tf.mission.headerLen tf.mission.maxDataLen
      = region (tmPackBody tf pktOut dataIn length) tf.mission.headerLen
          (length + (tf.mission.maxDataLen - length)) := by rw [Nat.add_sub_cancel' hmax]
    _ = _ := by rw [region_add, hcopied, hidle]

/-! ## The frame that is queued -/

/-- The checksum does not touch what the frame carries. -/
theorem tmCell_packCrc (h : TmShape tf) (body : List UInt8) :
    tmCell tf.mission (region (packCrc tf.mission body) 0 tf.mission.frameLen) =
      tmCell tf.mission body := by
  have hge := h.headerLen_ge
  have hframe := h.frame
  have hkept : ∀ {off k : ℕ}, off + k ≤ tf.mission.headerLen + tf.mission.maxDataLen →
      region (region (packCrc tf.mission body) 0 tf.mission.frameLen) off k = region body off k := by
    intro off k hin
    rw [region_region _ (by omega), Nat.zero_add]
    unfold packCrc
    split_ifs with hcrc
    · rw [if_pos hcrc] at hframe
      exact region_tmWriteCrc body (by omega)
    · rfl
  unfold tmCell
  rw [tmFirstHdrPtr_congr (hkept (by omega)), hkept (Nat.le_refl _)]

/-- A packed frame passes the check of its checksum. -/
theorem sound_packCrc (h : TmShape tf) (body : List UInt8) :
    Sound tf.mission (region (packCrc tf.mission body) 0 tf.mission.frameLen) := by
  have hge := h.headerLen_ge
  have hframe := h.frame
  refine ⟨length_region _ _ _, fun hcrc => ?_⟩
  unfold packCrc
  rw [if_pos hcrc]
  exact tmWriteCrc_sound (by omega) body

/-- The frame that is put into the queue. -/
def queuedFrame (tf : TmTransferFrame) : List UInt8 :=
  region tf.mission.util.buffer 0 tf.mission.frameLen

/-- Packing changes the utility buffer and the `crc` field. -/
theorem packIntoUtil_eq (tf : TmTransferFrame) (data : List UInt8) (length : ℕ) :
    ∃ crc, packIntoUtil tf data length =
      { tf with
        crc := crc
        mission := { tf.mission with util := { tf.mission.util with
          buffer := packCrc tf.mission (tmPackBody tf tf.mission.util.buffer data length) } } } := by
  unfold packIntoUtil osdlpTmPack packCrc
  split <;> exact ⟨_, rfl⟩

/-- The frame that is queued is sound, and carries the pointer and the data it was made of. -/
theorem queuedFrame_packIntoUtil (h : TmShape tf) {data : List UInt8} {length : ℕ}
    (hmax : length ≤ tf.mission.maxDataLen) (hdata : length ≤ data.length) :
    Sound tf.mission (queuedFrame (packIntoUtil tf data length)) ∧
      tmCell tf.mission (queuedFrame (packIntoUtil tf data length)) =
        { ptr := tf.primaryHdr.firstHdrPtr
          field := data.take length ++
            List.replicate (tf.mission.maxDataLen - length) tmIdlePacket } := by
  obtain ⟨crc, hpacked⟩ := packIntoUtil_eq tf data length
  unfold queuedFrame
  rw [hpacked]
  refine ⟨sound_packCrc h _, (tmCell_packCrc h _).trans ?_⟩
  unfold tmCell
  rw [tmFirstHdrPtr_tmPackBody h, region_tmPackBody tf _ hmax hdata]

/-! ## Packets in a data field -/

/-- From an offset on, a data field holds these packets, and idle octets behind them. -/
def Reads (m : TmMissionParams) (data : List UInt8) (offset : ℕ) (packets : List (List UInt8)) :
    Prop :=
  ∀ j, offset + j ≤ m.maxDataLen → (data.drop offset).take j =
    (packets.flatten ++ List.replicate m.maxDataLen tmIdlePacket).take j

variable {data packet : List UInt8} {packets : List (List UInt8)}

/-- Behind a packet lie the next ones. -/
theorem Reads.skip {offset : ℕ} (hreads : Reads m data offset (packet :: packets)) :
    Reads m data (offset + packet.length) packets := by
  intro j hj
  have hall := congrArg (List.drop packet.length) (hreads (packet.length + j) (by omega))
  rw [List.drop_take, List.drop_take, Nat.add_sub_cancel_left, List.drop_drop, List.flatten_cons,
    List.append_assoc, List.drop_left] at hall
  exact hall

/-- The octets of a packet lie at its offset. -/
theorem Reads.take {offset j : ℕ} (hreads : Reads m data offset (packet :: packets))
    (hj : offset + j ≤ m.maxDataLen) (hlen : j ≤ packet.length) :
    (data.drop offset).take j = packet.take j := by
  rw [hreads j hj, List.flatten_cons, List.append_assoc, List.take_append_of_le_length hlen]

/-- What lies at the offset starts like the packet. -/
theorem Reads.prefix_drop {offset : ℕ} (hreads : Reads m data offset (packet :: packets)) :
    packet.take (m.maxDataLen - offset) <+: data.drop offset := by
  rcases Nat.lt_or_ge m.maxDataLen offset with hout | hin
  · rw [Nat.sub_eq_zero_of_le hout.le]
    exact List.nil_prefix
  · rw [List.take_eq_take_min, ← hreads.take (by omega) (Nat.min_le_right _ _)]
    exact List.take_prefix _ _

/-- The octet at an offset. -/
theorem getD_of_take_one {buf : List UInt8} {i : ℕ} {octet : UInt8}
    (h : (buf.drop i).take 1 = [octet]) : buf.getD i 0 = octet := by
  rw [List.getD_eq_getElem?_getD, ← List.head?_drop]
  cases hdrop : buf.drop i with
  | nil => simp [hdrop] at h
  | cons x rest =>
    rw [hdrop] at h
    simpa using h

end Osdlp.Interface
