import Osdlp.Interface.TmReceiving

/-!
# The space that is left in a queued frame

A queued frame that is not full is given the first octets of the next packet.
`eval_residue_len` walks over the packets that start in the frame and finds the end of
one of these packets (`evalResidueLen_walked`), the last one if they are `Spaced`
(`evalResidueLen_eq`); `handle_pkt_stuffing` puts the octets there (`handlePktStuffing_filled`).
-/

set_option autoImplicit false

namespace Osdlp.Interface

open Osdlp.Model Osdlp.Library

/-- The data field holds these octets, and idle octets behind them. -/
structure Filled (m : TmMissionParams) (frame x : List UInt8) : Prop where
  length : x.length ≤ m.maxDataLen
  field : region frame m.headerLen m.maxDataLen =
    x ++ List.replicate (m.maxDataLen - x.length) tmIdlePacket

/-- The data field holds the end of a packet, which may fill it, and the packets that start
behind it. -/
structure TailFrame (m : TmMissionParams) (frame x : List UInt8) (starts : List (List UInt8)) :
    Prop where
  whole : frame.length = m.frameLen
  filled : Filled m frame x
  ptr : (tmFirstHdrPtr frame = tmFirstHdrPtrNoPktStart ∧ x.length = m.maxDataLen) ∨
    ∃ before, before.length < m.maxDataLen ∧
      tmFirstHdrPtr frame = BitVec.ofNat 11 before.length ∧ x = before ++ starts.flatten

/-- No packet but the last one ends within `headerLen` octets of the end of the data field. -/
def Spaced (headerLen maxDataLen : ℕ) : ℕ → List (List UInt8) → Prop
  | offset, packet :: next :: rest =>
    offset + packet.length + headerLen < maxDataLen ∧
      Spaced headerLen maxDataLen (offset + packet.length) (next :: rest)
  | _, _ => True

instance Spaced.decidable (headerLen maxDataLen : ℕ) :
    ∀ offset packets, Decidable (Spaced headerLen maxDataLen offset packets)
  | _, [] => isTrue trivial
  | _, [_] => isTrue trivial
  | offset, packet :: next :: rest =>
    @instDecidableAnd _ _ _
      (Spaced.decidable headerLen maxDataLen (offset + packet.length) (next :: rest))

/-- A packet that can be stuffed and told. -/
structure Fit (getPacketLen : GetPacketLen) (h : ℕ) (packet : List UInt8) : Prop where
  tells : TellsLength getPacketLen h [packet]
  header : h ≤ packet.length
  length : packet.length < 65536
  notIdle : packet.head? ≠ some tmIdlePacket

/-- A packet that holds its length in its first octet. -/
theorem lengthOctet_fit {packet : List UInt8} (hlen : packet.length < 256)
    (hoctet : packet[0]? = some (UInt8.ofNat packet.length))
    (hnotIdle : packet.head? ≠ some tmIdlePacket) :
    Fit (lengthOctet 0) 1 packet := by
  refine ⟨lengthOctet_tells ?_, ?_, by omega, hnotIdle⟩
  · intro p hmem
    rw [List.mem_singleton.mp hmem]
    exact ⟨hlen, hoctet⟩
  · exact (List.getElem?_eq_some_iff.mp hoctet).1

variable {m : TmMissionParams} {frame x : List UInt8} {starts packets : List (List UInt8)}
  {getPacketLen : GetPacketLen} {h : ℕ}

/-- The packets that start in a frame are read behind what comes before them. -/
theorem Filled.reads (hfits : m.headerLen + m.maxDataLen ≤ m.frameLen)
    (hwhole : frame.length = m.frameLen) {before : List UInt8}
    (hfilled : Filled m frame (before ++ packets.flatten)) :
    Reads m (frame.drop m.headerLen) before.length packets := by
  intro j hj
  have hlen := hfilled.length
  rw [List.length_append] at hlen
  have hfield : (frame.drop m.headerLen).take m.maxDataLen = _ :=
    (drop_take_eq_region (by omega)).trans hfilled.field
  have hcut : (((frame.drop m.headerLen).take m.maxDataLen).drop before.length).take j = _ :=
    congrArg (fun l => (l.drop before.length).take j) hfield
  rw [List.drop_take, List.take_take, Nat.min_eq_left (by omega), List.append_assoc,
    List.drop_left] at hcut
  have hidle : List.replicate m.maxDataLen tmIdlePacket =
      List.replicate (m.maxDataLen - (before ++ packets.flatten).length) tmIdlePacket ++
        List.replicate (before ++ packets.flatten).length tmIdlePacket := by
    rw [List.replicate_append_replicate, Nat.sub_add_cancel hfilled.length]
  rw [hcut, hidle, ← List.append_assoc]
  refine (List.take_append_of_le_length ?_).symm
  rw [List.length_append, List.length_replicate, List.length_append]
  omega

/-! ## Finding the end -/

/-- The octet at an offset of the data field. -/
theorem getD_field {off i : ℕ} {octet : UInt8}
    (hread : ((frame.drop off).drop i).take 1 = [octet]) :
    frame.getD (off + i) 0 = octet := by
  rw [List.drop_drop] at hread
  exact getD_of_take_one hread

/-- Behind the last packet the data field is idle. -/
theorem Reads.idle {data : List UInt8} {offset : ℕ} (hreads : Reads m data offset [])
    (hoffset : offset < m.maxDataLen) : (data.drop offset).take 1 = [tmIdlePacket] := by
  obtain ⟨k, hk⟩ := Nat.exists_eq_add_one_of_ne_zero (Nat.ne_of_gt (Nat.zero_lt_of_lt hoffset))
  rw [hreads 1 (by omega), hk]
  rfl

/-- A packet that starts in the data field does not look idle. -/
theorem Reads.busy {data packet : List UInt8} {offset : ℕ}
    (hreads : Reads m data offset (packet :: packets)) (hoffset : offset < m.maxDataLen)
    (hpos : 0 < packet.length) (hnotIdle : packet.head? ≠ some tmIdlePacket) :
    ∃ octet, (data.drop offset).take 1 = [octet] ∧ octet ≠ tmIdlePacket := by
  cases packet with
  | nil => exact absurd hpos (Nat.lt_irrefl 0)
  | cons octet tail =>
    exact ⟨octet, hreads.take (by omega) (by simp), fun he => hnotIdle (congrArg some he)⟩

/-- The walk ends behind one of the packets: the last one, or one that ends within a header
length of the end of the data field.
SOURCE: osdlp_tm.c:245-263 -/
theorem evalResidueLoop_walked (hpos : 0 < h) (hmaxLt : m.maxDataLen < 65536) {offset fuel : ℕ}
    (hne : packets ≠ []) (hfit : ∀ p ∈ packets, Fit getPacketLen h p)
    (hreads : Reads m (frame.drop m.headerLen) offset packets)
    (hin : offset + packets.flatten.length ≤ m.maxDataLen) (hfuel : m.maxDataLen ≤ offset + fuel) :
    ∃ walked left, packets = walked ++ left ∧ walked ≠ [] ∧
      evalResidueLoop getPacketLen m frame fuel offset = some (offset + walked.flatten.length) ∧
      (left ≠ [] → m.maxDataLen ≤ offset + walked.flatten.length + m.headerLen) := by
  induction packets generalizing offset fuel with
  | nil => exact absurd rfl hne
  | cons packet packets ih =>
    obtain ⟨htells, hheader, hlen, -⟩ := hfit packet List.mem_cons_self
    rw [List.flatten_cons, List.length_append] at hin
    obtain ⟨fuel, rfl⟩ : ∃ k, fuel = k + 1 := ⟨fuel - 1, by omega⟩
    have hprefix : packet.take m.maxDataLen <+: frame.drop (m.headerLen + offset) := by
      rw [← List.drop_drop, List.take_of_length_le (by omega),
        ← List.take_length (l := packet), ← hreads.take (by omega) (Nat.le_refl _)]
      exact List.take_prefix _ _
    have hnat : (UInt16.ofNat packet.length).toNat = packet.length :=
      (UInt16.toNat_ofNat').trans (Nat.mod_eq_of_lt hlen)
    have hnext : u16 ((offset : ℤ) + (packet.length : ℤ)) = offset + packet.length := by
      rw [← Nat.cast_add]
      exact u16_of_lt (by omega)
    have hone : offset + packet.length = offset + [packet].flatten.length := by simp
    unfold evalResidueLoop
    rw [if_pos (by omega), htells packet List.mem_cons_self _ _ (by omega) hprefix]
    dsimp only
    rw [hnat, hnext]
    by_cases hexit : packet.length + m.headerLen + offset ≥ m.maxDataLen
    · rw [if_pos hexit, hone]
      exact ⟨[packet], packets, rfl, List.cons_ne_nil _ _, rfl, fun _ => by omega⟩
    · rw [if_neg hexit]
      cases packets with
      | nil =>
        rw [if_pos (getD_field (hreads.skip.idle (by omega))), hone]
        exact ⟨[packet], [], rfl, List.cons_ne_nil _ _, rfl, fun hmore => absurd rfl hmore⟩
      | cons next rest =>
        have hfit' : ∀ p ∈ next :: rest, Fit getPacketLen h p := fun p hp =>
          hfit p (List.mem_cons_of_mem _ hp)
        obtain ⟨-, hheader', -, hnotIdle⟩ := hfit' next List.mem_cons_self
        obtain ⟨octet, hread, hbusy⟩ := hreads.skip.busy (by omega) (by omega) hnotIdle
        rw [getD_field hread, if_neg hbusy]
        obtain ⟨walked, left, hwalked, -, hloop, hleft⟩ := ih (List.cons_ne_nil _ _) hfit'
          hreads.skip (by omega) (show m.maxDataLen ≤ offset + packet.length + fuel by omega)
        have hlong : offset + packet.length + walked.flatten.length =
            offset + (packet :: walked).flatten.length := by
          rw [List.flatten_cons, List.length_append, Nat.add_assoc]
        rw [hlong] at hloop hleft
        exact ⟨packet :: walked, left, congrArg (packet :: ·) hwalked, List.cons_ne_nil _ _, hloop,
          hleft⟩

/-- In a frame in which packets start, or idle octets, the octets that count end behind one of
the packets.
SOURCE: osdlp_tm.c:226-271 -/
theorem evalResidueLen_walked (hpos : 0 < h) (hfits : TmFits m)
    (hfit : ∀ p ∈ starts, Fit getPacketLen h p) (hwhole : frame.length = m.frameLen)
    {before : List UInt8} (hlt : before.length < m.maxDataLen)
    (hptr : tmFirstHdrPtr frame = BitVec.ofNat 11 before.length)
    (hfilled : Filled m frame (before ++ starts.flatten)) {fuel : ℕ} (hfuel : m.maxDataLen ≤ fuel) :
    ∃ walked left, starts = walked ++ left ∧
      evalResidueLen getPacketLen fuel m frame = some (before ++ walked.flatten).length ∧
      (left ≠ [] → walked ≠ [] ∧
        m.maxDataLen ≤ before.length + walked.flatten.length + m.headerLen) := by
  have hsmall := hfits.small
  obtain ⟨hnat, hno, hoid⟩ := ofNat_ptr (show before.length < 2046 by omega)
  have hreads := hfilled.reads hfits.frame hwhole
  have hlen := hfilled.length
  rw [List.length_append] at hlen
  unfold evalResidueLen
  dsimp only
  rw [hptr, hnat, if_pos ⟨hno, hoid⟩]
  cases starts with
  | nil =>
    rw [if_pos (getD_field (hreads.idle hlt))]
    exact ⟨[], [], rfl, by simp, fun hmore => absurd rfl hmore⟩
  | cons packet starts =>
    obtain ⟨-, hheader, -, hnotIdle⟩ := hfit packet List.mem_cons_self
    obtain ⟨octet, hread, hbusy⟩ := hreads.busy hlt (by omega) hnotIdle
    rw [getD_field hread, if_neg hbusy]
    obtain ⟨walked, left, hwalked, hne, hloop, hleft⟩ := evalResidueLoop_walked hpos (by omega)
      (List.cons_ne_nil _ _) hfit hreads hlen
      (show m.maxDataLen ≤ before.length + fuel by omega)
    rw [← List.length_append] at hloop
    exact ⟨walked, left, hwalked, hloop, fun hmore => ⟨hne, hleft hmore⟩⟩

/-- A packet that is not the last one ends before the last header length. -/
theorem Spaced.walked_lt {headerLen maxDataLen offset : ℕ} {walked left : List (List UInt8)}
    (hspaced : Spaced headerLen maxDataLen offset (walked ++ left)) (hne : walked ≠ [])
    (hleft : left ≠ []) : offset + walked.flatten.length + headerLen < maxDataLen := by
  induction walked generalizing offset with
  | nil => exact absurd rfl hne
  | cons packet walked ih =>
    cases walked with
    | nil =>
      obtain ⟨next, left, rfl⟩ := List.exists_cons_of_ne_nil hleft
      have hgap := hspaced.1
      simpa using hgap
    | cons next walked =>
      have hrest := ih hspaced.2 (List.cons_ne_nil _ _)
      rw [List.flatten_cons, List.length_append]
      omega

/-- The end of what a queued frame holds.
SOURCE: osdlp_tm.c:226-271 -/
theorem evalResidueLen_eq (hpos : 0 < h) (hfits : TmFits m)
    (hfit : ∀ p ∈ starts, Fit getPacketLen h p) (htail : TailFrame m frame x starts)
    (hspaced : Spaced m.headerLen m.maxDataLen (tmFirstHdrPtr frame).toNat starts) {fuel : ℕ}
    (hfuel : m.maxDataLen ≤ fuel) :
    evalResidueLen getPacketLen fuel m frame = some x.length := by
  have hsmall := hfits.small
  rcases htail.ptr with ⟨hptr, hfull⟩ | ⟨before, hlt, hptr, rfl⟩
  · unfold evalResidueLen
    rw [hptr, hfull]
    rfl
  · obtain ⟨walked, left, rfl, hresidue, hleft⟩ := evalResidueLen_walked hpos hfits hfit htail.whole
      hlt hptr htail.filled hfuel
    by_cases hmore : left = []
    · rw [hresidue, hmore, List.append_nil]
    · obtain ⟨hne, hbound⟩ := hleft hmore
      rw [hptr, (ofNat_ptr (show before.length < 2046 by omega)).1] at hspaced
      have hgap := hspaced.walked_lt hne hmore
      omega

/-! ## Filling the space -/

variable {tf : TmTransferFrame}

/-- The checksum is renewed and nothing else changes. -/
theorem packCrc_filled (hshape : TmShape tf) {body : List UInt8}
    (hwhole : body.length = tf.mission.frameLen) (hfilled : Filled tf.mission body x) :
    Sound tf.mission (packCrc tf.mission body) ∧ Filled tf.mission (packCrc tf.mission body) x ∧
      tmFirstHdrPtr (packCrc tf.mission body) = tmFirstHdrPtr body := by
  have hge := hshape.headerLen_ge
  have hframe := hshape.frameLen_ge
  have hlen : (packCrc tf.mission body).length = tf.mission.frameLen := by
    unfold packCrc
    split_ifs
    · rw [length_tmWriteCrc]
      omega
    · exact hwhole
  have hcell := tmCell_packCrc hshape body
  have hsound := sound_packCrc hshape body
  rw [region_all hlen] at hcell hsound
  exact ⟨hsound, ⟨hfilled.length, (congrArg TmCell.field hcell).trans hfilled.field⟩,
    congrArg TmCell.ptr hcell⟩

/-- Octets written into a data field, over what lies there. -/
theorem region_overwrite {left : List UInt8} (src : List UInt8)
    (hfield : region frame m.headerLen m.maxDataLen = x ++ left)
    (hin : x.length + src.length ≤ m.maxDataLen) :
    region (memWrite frame (m.headerLen + x.length) src) m.headerLen m.maxDataLen =
      x ++ src ++ left.drop src.length := by
  rw [region_memWrite_inside frame src hin, hfield, List.take_left, List.drop_append,
    List.drop_eq_nil_of_le (by omega), List.nil_append, Nat.add_sub_cancel_left]

/-- Octets written to the end of the data field. -/
theorem region_overwrite_end {left : List UInt8} (src : List UInt8)
    (hfield : region frame m.headerLen m.maxDataLen = x ++ left)
    (hend : x.length + src.length = m.maxDataLen) :
    region (memWrite frame (m.headerLen + x.length) src) m.headerLen m.maxDataLen = x ++ src := by
  have hlen := congrArg List.length hfield
  rw [length_region, List.length_append] at hlen
  rw [region_overwrite src hfield hend.le, List.drop_eq_nil_of_le (by omega), List.append_nil]

/-- A copy into the data field keeps the length and the first header pointer. -/
theorem memWrite_dataField (hshape : TmShape tf) (hwhole : frame.length = tf.mission.frameLen)
    {n : ℕ} (src : List UInt8) (hin : n + src.length ≤ tf.mission.maxDataLen) :
    (memWrite frame (tf.mission.headerLen + n) src).length = tf.mission.frameLen ∧
      tmFirstHdrPtr (memWrite frame (tf.mission.headerLen + n) src) = tmFirstHdrPtr frame := by
  have hge := hshape.headerLen_ge
  have hframe := hshape.frameLen_ge
  refine ⟨?_, tmFirstHdrPtr_congr (region_memWrite_of_disjoint (.inl (by omega)))⟩
  rw [length_memWrite]
  omega

/-- The frame before its checksum is renewed. -/
theorem handlePktStuffing_body (packet : List UInt8) (hshape : TmShape tf)
    (hmaxLt : tf.mission.maxDataLen < 65536) (hwhole : frame.length = tf.mission.frameLen)
    {left : List UInt8} (hfilled : Filled tf.mission frame (x ++ left)) {numPackets : ℕ}
    (hone : numPackets = 1 ↔ packet.length + x.length ≤ tf.mission.maxDataLen)
    (hlen : packet.length < 65536) :
    ∃ body, handlePktStuffing tf.mission numPackets frame packet packet.length x.length =
        (packCrc tf.mission body, x.length + packet.length - tf.mission.maxDataLen) ∧
      body.length = tf.mission.frameLen ∧ tmFirstHdrPtr body = tmFirstHdrPtr frame ∧
      Filled tf.mission body ((x ++ packet).take tf.mission.maxDataLen) := by
  have hx := hfilled.length
  have hfield := hfilled.field
  rw [List.length_append] at hx
  rw [List.append_assoc] at hfield
  unfold handlePktStuffing
  -- the packet ends inside the data field, or it fills the field and leaves a rest
  by_cases hin : packet.length + x.length ≤ tf.mission.maxDataLen
  · have hshort : (x ++ packet).length ≤ tf.mission.maxDataLen := by
      rw [List.length_append]
      omega
    have hspace : u16 ((tf.mission.maxDataLen : ℤ) - packet.length - x.length) =
        tf.mission.maxDataLen - (x ++ packet).length := by
      rw [List.length_append, sub_sub, ← Nat.cast_add, ← Nat.cast_sub hin, Nat.add_comm x.length]
      exact u16_of_lt (by omega)
    obtain ⟨hwhole', hptr⟩ := memWrite_dataField hshape hwhole packet
      (show x.length + packet.length ≤ _ by omega)
    rw [if_pos (hone.mpr hin), List.take_of_length_le hshort, Nat.sub_eq_zero_of_le (by omega)]
    dsimp only
    rw [List.take_length, hspace]
    split_ifs with hidle
    · -- what lay behind the octets that count is made idle
      have hend : (x ++ packet).length + (List.replicate
          (tf.mission.maxDataLen - (x ++ packet).length) tmIdlePacket).length =
            tf.mission.maxDataLen := by
        rw [List.length_replicate]
        omega
      rw [Nat.add_assoc, ← List.length_append]
      obtain ⟨hwhole'', hptr'⟩ := memWrite_dataField hshape hwhole' _ hend.le
      exact ⟨_, rfl, hwhole'', hptr'.trans hptr, hshort,
        region_overwrite_end _ (region_overwrite packet hfield (by omega)) hend⟩
    · have hend : x.length + packet.length = tf.mission.maxDataLen := by
        rw [List.length_append] at hidle
        omega
      refine ⟨_, rfl, hwhole', hptr, hshort, ?_⟩
      rw [region_overwrite_end packet hfield hend, Nat.eq_zero_of_not_pos hidle,
        List.replicate_zero, List.append_nil]
  · have hchunk : u16 ((tf.mission.maxDataLen : ℤ) - x.length) = tf.mission.maxDataLen - x.length := by
      rw [← Nat.cast_sub (by omega)]
      exact u16_of_lt (by omega)
    have hrest : u16 ((packet.length : ℤ) - ((tf.mission.maxDataLen - x.length : ℕ) : ℤ)) =
        x.length + packet.length - tf.mission.maxDataLen := by
      rw [← Nat.cast_sub (by omega), u16_of_lt (by omega)]
      omega
    have hend : x.length + (packet.take (tf.mission.maxDataLen - x.length)).length =
        tf.mission.maxDataLen := by
      rw [List.length_take]
      omega
    have htaken : (x ++ packet).take tf.mission.maxDataLen =
        x ++ packet.take (tf.mission.maxDataLen - x.length) := by
      rw [List.take_append, List.take_of_length_le (by omega)]
    obtain ⟨hwhole', hptr⟩ := memWrite_dataField hshape hwhole _ hend.le
    rw [if_neg fun he => hin (hone.mp he), hchunk]
    dsimp only
    rw [hrest, htaken]
    refine ⟨_, rfl, hwhole', hptr, ?_, ?_⟩
    · rw [List.length_append]
      exact hend.le
    · rw [region_overwrite_end _ hfield hend, List.length_append, hend, Nat.sub_self,
        List.replicate_zero, List.append_nil]

/-- The packet goes behind the octets that count, over what lies there, and what finds no room
remains.
SOURCE: osdlp_tm.c:273-304 -/
theorem handlePktStuffing_filled (packet : List UInt8) (hshape : TmShape tf)
    (hmaxLt : tf.mission.maxDataLen < 65536) (hwhole : frame.length = tf.mission.frameLen)
    {left : List UInt8} (hfilled : Filled tf.mission frame (x ++ left)) {numPackets : ℕ}
    (hone : numPackets = 1 ↔ packet.length + x.length ≤ tf.mission.maxDataLen)
    (hlen : packet.length < 65536) :
    ∃ stuffed, handlePktStuffing tf.mission numPackets frame packet packet.length x.length =
        (stuffed, x.length + packet.length - tf.mission.maxDataLen) ∧
      Sound tf.mission stuffed ∧ tmFirstHdrPtr stuffed = tmFirstHdrPtr frame ∧
      Filled tf.mission stuffed ((x ++ packet).take tf.mission.maxDataLen) := by
  obtain ⟨body, hcall, hwhole', hptr, hfilled'⟩ :=
    handlePktStuffing_body packet hshape hmaxLt hwhole hfilled hone hlen
  obtain ⟨hsound, hfilled'', hptr'⟩ := packCrc_filled hshape hwhole' hfilled'
  exact ⟨_, hcall, hsound, hptr'.trans hptr, hfilled''⟩

/-! ## Whole calls -/

variable {s : TmSender} {init : List (List UInt8)} {packet : List UInt8} {fuel : ℕ}

/-- A frame holds the same whatever the utility buffer does. -/
theorem Filled.of_ready (hready : Ready m tf) (hfilled : Filled m frame x) :
    Filled tf.mission frame x := by
  rw [hready.mission]
  exact ⟨hfilled.length, hfilled.field⟩

/-- Frames are read with the layout of the mission. -/
theorem Ready.filled (hready : Ready m tf) (hfilled : Filled tf.mission frame x) :
    Filled m frame x := by
  rw [hready.mission] at hfilled
  exact ⟨hfilled.length, hfilled.field⟩

/-- The utility buffer plays no part in the walk. -/
theorem evalResidueLoop_util (util : TmUtilBuf) (residueLen : ℕ) :
    evalResidueLoop getPacketLen { m with util := util } frame fuel residueLen =
      evalResidueLoop getPacketLen m frame fuel residueLen := by
  induction fuel generalizing residueLen with
  | zero => rfl
  | succ fuel ih =>
    unfold evalResidueLoop
    simp only [ih]

/-- The search only looks at the layout. -/
theorem Ready.evalResidueLen (hready : Ready m tf) :
    evalResidueLen getPacketLen fuel tf.mission frame =
      Osdlp.Model.evalResidueLen getPacketLen fuel m frame := by
  rw [hready.mission]
  unfold Osdlp.Model.evalResidueLen
  simp only [evalResidueLoop_util]

/-- How many frames a packet takes. -/
theorem Ready.numPacketsFor (hready : Ready m tf) (len : ℕ) :
    numPacketsFor tf.mission len = numPacketsFor m len := by
  rw [hready.mission]
  rfl

/-- With an empty queue, a packet goes into frames of its own.
SOURCE: osdlp_tm.c:355-413 -/
theorem osdlpTmTransmit_empty (packet : List UInt8) (hready : Ready m s.tf)
    (hacc : Accepting s.answers)
    (hempty : s.queue = []) :
    ∃ s', osdlpTmTransmit getPacketLen fuel 0 s packet packet.length = some (0, s') ∧
      Queues m s s' (packetCells m packet (numPacketsFor m packet.length) packet.length) := by
  have hloop := transmitLoop_queues packet (numPacketsFor m packet.length) hready hacc
    (Nat.le_refl packet.length)
  have hopen : ¬ s.tf.mission.util.loopState = .loopOpen := by
    rw [hready.closed]
    decide
  refine ⟨_, ?_, hloop.2⟩
  unfold osdlpTmTransmit
  dsimp only
  rw [if_neg (by simp [hempty]), if_neg hopen, hready.numPacketsFor]
  exact congrArg some (Prod.ext hloop.1 rfl)

/-- A call that finds a queue looks at its last frame.
SOURCE: osdlp_tm.c:320-353 -/
theorem osdlpTmTransmit_queue (packet : List UInt8) (hready : Ready m s.tf)
    (hon : m.stuffState = .stuffingOn) (hqueue : s.queue = init ++ [frame]) {residueLen : ℕ}
    (hresidue : evalResidueLen getPacketLen fuel s.tf.mission frame = some residueLen) :
    osdlpTmTransmit getPacketLen fuel 0 s packet packet.length =
      if residueLen ≥ m.maxDataLen then
        some (transmitLoop packet packet.length (numPacketsFor m packet.length) packet.length s)
      else
        let stuffed := handlePktStuffing s.tf.mission (numPacketsFor m (packet.length + residueLen))
          frame packet packet.length residueLen
        some (transmitLoop packet packet.length (numPacketsFor m (packet.length + residueLen) - 1)
          stuffed.2 { s with queue := init ++ [stuffed.1] }) := by
  have hopen : ¬ s.tf.mission.util.loopState = .loopOpen := by
    rw [hready.closed]
    decide
  have hstuff : s.queue ≠ [] ∧ s.tf.mission.stuffState = .stuffingOn ∧
      s.tf.mission.util.loopState = .loopClosed := by
    refine ⟨by simp [hqueue], ?_, hready.closed⟩
    rw [hready.mission]
    exact hon
  have hlast : s.queue.getLastD [] = frame := by simp [hqueue]
  have hinit : s.queue.dropLast = init := by simp [hqueue]
  unfold osdlpTmTransmit stuffLastFrame
  dsimp only
  rw [if_pos hstuff, if_neg hopen, hlast, hinit, hresidue, if_neg (by decide), hready.maxDataLen,
    hready.numPacketsFor]
  simp only [Option.bind_eq_bind, Option.bind_some, hready.numPacketsFor]
  split_ifs <;> rfl

/-- The last frame is full and stays.
SOURCE: osdlp_tm.c:335-341, 367-413 -/
theorem osdlpTmTransmit_full (packet : List UInt8) (hready : Ready m s.tf)
    (hacc : Accepting s.answers) (hon : m.stuffState = .stuffingOn)
    (hqueue : s.queue = init ++ [frame]) {residueLen : ℕ}
    (hresidue : evalResidueLen getPacketLen fuel s.tf.mission frame = some residueLen)
    (hfull : m.maxDataLen ≤ residueLen) :
    ∃ s', osdlpTmTransmit getPacketLen fuel 0 s packet packet.length = some (0, s') ∧
      Queues m s s' (packetCells m packet (numPacketsFor m packet.length) packet.length) := by
  have hcall := osdlpTmTransmit_queue packet hready hon hqueue hresidue
  rw [if_pos hfull] at hcall
  have hloop := transmitLoop_queues packet (numPacketsFor m packet.length) hready hacc
    (Nat.le_refl packet.length)
  exact ⟨_, hcall.trans (congrArg some (Prod.ext hloop.1 rfl)), hloop.2⟩

/-- The last frame takes what finds room behind the octets that count, and the packet goes on
in new frames.
SOURCE: osdlp_tm.c:342-352, 367-413 -/
theorem osdlpTmTransmit_stuffed (hready : Ready m s.tf) (hacc : Accepting s.answers)
    (hon : m.stuffState = .stuffingOn) (hfits : TmFits m) (hqueue : s.queue = init ++ [frame])
    (hwhole : frame.length = m.frameLen) {left : List UInt8} (hfilled : Filled m frame (x ++ left))
    (hresidue : evalResidueLen getPacketLen fuel s.tf.mission frame = some x.length)
    (hspace : x.length < m.maxDataLen) (hpos : 0 < packet.length) (hlen : packet.length < 65536) :
    ∃ stuffed numPackets s', osdlpTmTransmit getPacketLen fuel 0 s packet packet.length = some (0, s') ∧
      Queues m { s with queue := init ++ [stuffed] } s'
        (packetCells m packet numPackets (x.length + packet.length - m.maxDataLen)) ∧
      Sound m stuffed ∧ tmFirstHdrPtr stuffed = tmFirstHdrPtr frame ∧
      Filled m stuffed ((x ++ packet).take m.maxDataLen) ∧
      x.length + packet.length - m.maxDataLen ≤ numPackets * m.maxDataLen ∧
      numPackets * m.maxDataLen < x.length + packet.length - m.maxDataLen + m.maxDataLen := by
  have hcall := osdlpTmTransmit_queue packet hready hon hqueue hresidue
  have hsmall := hfits.small
  obtain ⟨hsome, hmany, hfew⟩ := numPacketsFor_bounds hfits.pos (packet.length + x.length)
  have hfew := hfew (by omega)
  have hone := numPacketsFor_eq_one hfits.pos (show 0 < packet.length + x.length by omega)
  have hstuffing := handlePktStuffing_filled packet hready.shape
    (by rw [hready.maxDataLen]; omega) (by rw [hwhole, hready.mission]) (hfilled.of_ready hready)
    (by rw [hready.maxDataLen]; exact hone) hlen
  rw [hready.maxDataLen] at hstuffing
  obtain ⟨stuffed, hstuffed, hsound, hptr, hstuffedFilled⟩ := hstuffing
  rw [if_neg (by omega), hstuffed] at hcall
  have hloop := transmitLoop_queues (s := { s with queue := init ++ [stuffed] }) packet
    (numPacketsFor m (packet.length + x.length) - 1) hready hacc
    (show x.length + packet.length - m.maxDataLen ≤ packet.length by omega)
  obtain ⟨numPackets, hnum⟩ := Nat.exists_eq_add_one_of_ne_zero (Nat.ne_of_gt hsome)
  rw [hnum, Nat.succ_mul] at hmany hfew
  rw [hnum, Nat.add_sub_cancel] at hcall hloop
  exact ⟨stuffed, numPackets, _, hcall.trans (congrArg some (Prod.ext hloop.1 rfl)), hloop.2,
    hready.sound hsound, hptr, hready.filled hstuffedFilled, by omega, by omega⟩

/-- What a call does that finds a queue: the last frame is full and stays, the packet fits into
it, or the packet goes on in new frames.
SOURCE: osdlp_tm.c:306-414 -/
theorem osdlpTmTransmit_outcome (hready : Ready m s.tf) (hacc : Accepting s.answers)
    (hon : m.stuffState = .stuffingOn) (hqueue : s.queue = init ++ [frame])
    (htail : TailFrame m frame x starts) (hpos : 0 < h)
    (hfits : TmFits m) (hfit : ∀ p ∈ starts, Fit getPacketLen h p)
    (hspaced : Spaced m.headerLen m.maxDataLen (tmFirstHdrPtr frame).toNat starts)
    (hfuel : m.maxDataLen ≤ fuel) (hpacket : Fit getPacketLen h packet) :
    ∃ s', osdlpTmTransmit getPacketLen fuel 0 s packet packet.length = some (0, s') ∧
      (Queues m s s' (packetCells m packet (numPacketsFor m packet.length) packet.length) ∨
        (∃ stuffed, Queues m { s with queue := init ++ [stuffed] } s' [] ∧
          TailFrame m stuffed (x ++ packet) (starts ++ [packet])) ∨
        ∃ stuffed numPackets remainingLen,
          Queues m { s with queue := init ++ [stuffed] } s'
            (packetCells m packet numPackets remainingLen) ∧
          Filled m stuffed (x ++ packet.take (packet.length - remainingLen)) ∧
          0 < remainingLen ∧ remainingLen < packet.length ∧
          remainingLen ≤ numPackets * m.maxDataLen ∧
          numPackets * m.maxDataLen < remainingLen + m.maxDataLen) := by
  have hheader := hpacket.header
  have hresidue : evalResidueLen getPacketLen fuel s.tf.mission frame = some x.length :=
    hready.evalResidueLen.trans (evalResidueLen_eq hpos hfits hfit htail hspaced hfuel)
  by_cases hfull : m.maxDataLen ≤ x.length
  · obtain ⟨s', hcall, hqueues⟩ := osdlpTmTransmit_full packet hready hacc hon hqueue hresidue hfull
    exact ⟨s', hcall, .inl hqueues⟩
  have hfilled : Filled m frame (x ++ []) := by
    rw [List.append_nil]
    exact htail.filled
  obtain ⟨stuffed, numPackets, s', hcall, hqueues, hsound, hptr, hstuffed, hmany, hfew⟩ :=
    osdlpTmTransmit_stuffed hready hacc hon hfits hqueue htail.whole hfilled hresidue (by omega)
      (by omega) hpacket.length
  refine ⟨s', hcall, .inr ?_⟩
  by_cases hin : x.length + packet.length ≤ m.maxDataLen
  · rw [Nat.sub_eq_zero_of_le hin, Nat.zero_add] at hfew
    have hnone : numPackets = 0 := by
      by_contra hmore
      have hle := Nat.le_mul_of_pos_left m.maxDataLen (Nat.pos_of_ne_zero hmore)
      omega
    rw [hnone] at hqueues
    rw [List.take_of_length_le (by rw [List.length_append]; omega)] at hstuffed
    refine .inl ⟨stuffed, hqueues, hsound.length, hstuffed, .inr ?_⟩
    rcases htail.ptr with ⟨-, hlast⟩ | ⟨before, hlt, hbefore, rfl⟩
    · omega
    · exact ⟨before, hlt, hptr.trans hbefore, by simp⟩
  · refine .inr ⟨stuffed, numPackets, _, hqueues, ?_, by omega, by omega, hmany, hfew⟩
    rw [List.take_append, List.take_of_length_le (by omega)] at hstuffed
    rwa [show packet.length - (x.length + packet.length - m.maxDataLen) =
      m.maxDataLen - x.length by omega]

end Osdlp.Interface
