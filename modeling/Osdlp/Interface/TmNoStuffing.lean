import Osdlp.Interface.TmReceiving

/-!
# Reception without stuffing

`handle_rx_no_stuffing` on the cells of a packet: the first one opens the packet
(`handleRxNoStuffing_first`), the others continue it (`handleRxNoStuffing_next`), and a
cell that does not complete what is collected hands over nothing
(`handleRxNoStuffing_silent`).
-/

set_option autoImplicit false

namespace Osdlp.Interface

open Osdlp.Model Osdlp.Library

variable {m : TmMissionParams} {r : TmReceiver} {packet : List UInt8} {remainingLen : ℕ}

/-- What a call leaves behind when `remainingLen` octets of the packet are still to come. -/
def Outcome (m : TmMissionParams) (r r' : TmReceiver) (packet : List UInt8) (remainingLen : ℕ) :
    Prop :=
  Listens m r' ∧
    ((remainingLen = 0 ∧ r'.tf.mission.util.loopState = .loopClosed ∧
        ∃ buf, packet <+: buf ∧ Delivers r r' [buf]) ∨
      (0 < remainingLen ∧
        Collects r'.tf.mission.util packet (packet.length - remainingLen) ∧ Delivers r r' []))

/-- What happens before without a delivery does not matter. -/
theorem Outcome.after {r₀ r' : TmReceiver} (hbefore : Delivers r₀ r [])
    (hout : Outcome m r r' packet remainingLen) : Outcome m r₀ r' packet remainingLen := by
  refine ⟨hout.1, ?_⟩
  rcases hout.2 with ⟨hzero, hclosed, buf, hbuf, hdel⟩ | ⟨hpos, hcoll, hdel⟩
  · exact .inl ⟨hzero, hclosed, buf, hbuf, hbefore.trans hdel⟩
  · exact .inr ⟨hpos, hcoll, hbefore.trans hdel⟩

/-- The packet that is complete is handed over.
SOURCE: osdlp_tm.c:434-443, 470-478 -/
theorem deliverUtil_outcome (h : Listens m r) {util : TmUtilBuf}
    (hbuf : util.buffer.take packet.length = packet) :
    Outcome m r (deliverUtil r util).2 packet 0 := by
  obtain ⟨hdel, htf⟩ := deliverUtil_delivers r util
  refine ⟨?_, .inl ⟨rfl, by rw [htf]; rfl, util.buffer, ?_, hdel⟩⟩
  · unfold Listens
    rw [htf]
    exact h.setUtil _
  · exact List.prefix_iff_eq_take.mpr hbuf.symm

/-- A cell that continues what is collected.
SOURCE: osdlp_tm.c:461-484 -/
theorem continuePacket_outcome (h : Holds m r (packetCell m packet remainingLen))
    (hfits : TmFits m) (hcoll : Collects r.tf.mission.util packet (packet.length - remainingLen))
    (hrem : remainingLen ≤ packet.length) (hsdu : packet.length ≤ m.maxSduLen) :
    Outcome m r (continuePacket r (min m.maxDataLen remainingLen)).2 packet
      (remainingLen - min m.maxDataLen remainingLen) := by
  have hmaxSdu : r.tf.mission.maxSduLen = m.maxSduLen := by rw [h.listens]
  have hsduLt := hfits.sdu
  have hoctets := take_memWrite_append (u := min m.maxDataLen remainingLen) (by omega) hcoll.octets
  rw [← h.data_packetCell hrem] at hoctets
  unfold continuePacket
  dsimp only
  rw [hcoll.buffered, hcoll.expected, hmaxSdu, if_neg (by omega)]
  split_ifs with hdone
  · have hzero : remainingLen - min m.maxDataLen remainingLen = 0 := by omega
    rw [hzero]
    refine deliverUtil_outcome h.listens ?_
    rw [hdone, List.take_length] at hoctets
    exact hoctets
  · have hbuffered : u16 (((packet.length - remainingLen : ℕ) : ℤ) +
        (min m.maxDataLen remainingLen : ℕ)) =
          packet.length - remainingLen + min m.maxDataLen remainingLen := by
      rw [← Nat.cast_add, u16_of_lt (by omega)]
    have hlen : packet.length - (remainingLen - min m.maxDataLen remainingLen) =
        packet.length - remainingLen + min m.maxDataLen remainingLen := by omega
    refine ⟨h.listens.setUtil _, .inr ⟨by omega, ?_, ?_⟩⟩
    · rw [hlen]
      exact ⟨hcoll.opened, hbuffered, rfl, hoctets⟩
    · exact ⟨(Delivers.refl r).taken, (Delivers.refl r).accepting⟩

/-- SOURCE: osdlp_tm.c:447-502 -/
theorem handleRxNoStuffing_next (getPacketLen : GetPacketLen)
    (h : Holds m r (packetCell m packet remainingLen)) (hfits : TmFits m)
    (hcoll : Collects r.tf.mission.util packet (packet.length - remainingLen))
    (hpos : 0 < remainingLen) (hrem : remainingLen < packet.length)
    (hsdu : packet.length ≤ m.maxSduLen) :
    Outcome m r (handleRxNoStuffing getPacketLen r).2 packet
      (remainingLen - min m.maxDataLen remainingLen) := by
  obtain ⟨hptr, husable⟩ := h.usableLen_packetCell hfits hpos hrem
  have hopen : ¬ r.tf.mission.util.loopState = .loopClosed := by
    rw [hcoll.opened]
    decide
  unfold handleRxNoStuffing handleNsPtrPositive
  rw [if_neg hptr, if_neg hopen, husable]
  exact continuePacket_outcome h hfits hcoll hrem.le hsdu

/-- The first cell of a packet.
SOURCE: osdlp_tm.c:416-445 -/
theorem handleRxNoStuffing_first {getPacketLen : GetPacketLen}
    (h : Holds m r (packetCell m packet packet.length)) (hsdu : packet.length ≤ m.maxSduLen)
    (hfits : TmFits m)
    (hhook : packet.take m.maxDataLen <+: r.tf.data →
      getPacketLen r.tf.data m.maxDataLen = some (UInt16.ofNat packet.length)) :
    Outcome m r (handleRxNoStuffing getPacketLen r).2 packet
      (packet.length - min m.maxDataLen packet.length) := by
  have hsduLt := hfits.sdu
  have hptr : r.tf.primaryHdr.firstHdrPtr = 0 := by
    rw [h.ptr]
    exact if_pos rfl
  have hmax : r.tf.mission.maxDataLen = m.maxDataLen := by rw [h.listens]
  have hlen : (UInt16.ofNat packet.length).toNat = packet.length :=
    (UInt16.toNat_ofNat').trans (Nat.mod_eq_of_lt (by omega))
  have hdata := h.data_packetCell (Nat.le_refl _)
  rw [Nat.sub_self, List.drop_zero] at hdata
  have hcopy : (memWrite r.tf.mission.util.buffer 0
      (r.tf.data.take (min m.maxDataLen packet.length))).take (min m.maxDataLen packet.length) =
        packet.take (min m.maxDataLen packet.length) := by
    have hcont : (memWrite r.tf.mission.util.buffer 0
        ((packet.drop 0).take (min m.maxDataLen packet.length))).take
          (0 + min m.maxDataLen packet.length) = packet.take (0 + min m.maxDataLen packet.length) :=
      take_memWrite_append (by omega) rfl
    rw [hdata]
    rwa [Nat.zero_add, List.drop_zero] at hcont
  have htold := hhook (by
    rw [List.take_eq_take_min, ← hdata]
    exact List.take_prefix _ _)
  unfold handleRxNoStuffing handleNsPtrZero
  rw [if_pos hptr]
  dsimp only
  rw [hmax, htold]
  dsimp only
  rw [hlen]
  split_ifs with hbig
  · have hlen' : packet.length - (packet.length - min m.maxDataLen packet.length) =
      min m.maxDataLen packet.length := by omega
    refine ⟨h.listens.setUtil _, .inr ⟨by omega, ?_, ?_⟩⟩
    · rw [hlen']
      rw [Nat.min_eq_left (by omega)] at hcopy ⊢
      exact ⟨rfl, rfl, rfl, hcopy⟩
    · exact ⟨(Delivers.refl r).taken, (Delivers.refl r).accepting⟩
  · rw [Nat.min_eq_right (by omega)] at hcopy ⊢
    rw [Nat.sub_self]
    rw [List.take_length] at hcopy
    exact deliverUtil_outcome h.listens hcopy

/-- Nothing is continued in a closed loop.
SOURCE: osdlp_tm.c:451-453 -/
theorem handleRxNoStuffing_closed (getPacketLen : GetPacketLen)
    (hptr : r.tf.primaryHdr.firstHdrPtr ≠ 0)
    (hclosed : r.tf.mission.util.loopState = .loopClosed) :
    (handleRxNoStuffing getPacketLen r).2 = r := by
  unfold handleRxNoStuffing handleNsPtrPositive
  rw [if_neg hptr, if_pos hclosed]

/-- A cell that does not complete what is collected hands over nothing.
SOURCE: osdlp_tm.c:454-484 -/
theorem handleRxNoStuffing_silent (getPacketLen : GetPacketLen) (h : Listens m r)
    (hptr : r.tf.primaryHdr.firstHdrPtr ≠ 0) (hopen : r.tf.mission.util.loopState = .loopOpen)
    (hno : r.tf.mission.util.bufferedLength + usableLen r.tf ≠
      r.tf.mission.util.expectedPktLen) :
    Listens m (handleRxNoStuffing getPacketLen r).2 ∧
      Delivers r (handleRxNoStuffing getPacketLen r).2 [] := by
  have hutil : ∀ util, Listens m (r.setUtil util) ∧ Delivers r (r.setUtil util) [] := fun util =>
    ⟨h.setUtil util, (Delivers.refl r).taken, (Delivers.refl r).accepting⟩
  unfold handleRxNoStuffing handleNsPtrPositive continuePacket
  rw [if_neg hptr, hopen, if_neg (by decide)]
  dsimp only
  rw [if_neg hno]
  split_ifs
  · exact hutil _
  · exact hutil _

/-! ## Whole calls -/

/-- The frame passes the checksum. -/
def Heard (r : TmReceiver) (frame : List UInt8) : Prop :=
  osdlpCalcCrc frame ((osdlpTmUnpack r.tf frame).mission.frameLen - 2) =
    (osdlpTmUnpack r.tf frame).crc

instance (r : TmReceiver) (frame : List UInt8) : Decidable (Heard r frame) :=
  inferInstanceAs (Decidable (_ = _))

/-- A frame that does not pass leaves the utility buffer and the receive queue alone.
SOURCE: osdlp_tm.c:758-762 -/
theorem osdlpTmReceive_not_heard (getPacketLen : GetPacketLen) (fuel : ℕ) {frame : List UInt8}
    (hheard : ¬ Heard r frame) :
    osdlpTmReceive getPacketLen fuel 0 r frame =
      some (-TmRxResult.wrongCrc.code, { r with tf := osdlpTmUnpack r.tf frame }) := by
  unfold osdlpTmReceive
  rw [if_neg (by decide)]
  exact if_pos hheard

/-- A frame that passes and is not an idle frame reaches the handler.
SOURCE: osdlp_tm.c:748-772 -/
theorem osdlpTmReceive_noStuffing (getPacketLen : GetPacketLen) (fuel : ℕ) (h : Listens m r)
    (hoff : m.stuffState = .stuffingOff) {frame : List UInt8} (hheard : Heard r frame)
    (hptr : (tmCell m frame).ptr ≠ tmFirstHdrPtrOid) :
    ∃ code, osdlpTmReceive getPacketLen fuel 0 r frame =
      some (code, (handleRxNoStuffing getPacketLen { r with tf := osdlpTmUnpack r.tf frame }).2) := by
  have hstuff : (osdlpTmUnpack r.tf frame).mission.stuffState = .stuffingOff := by
    show r.tf.mission.stuffState = _
    rw [h]
    exact hoff
  have hptr' : (osdlpTmUnpack r.tf frame).primaryHdr.firstHdrPtr ≠ tmFirstHdrPtrOid := hptr
  unfold Heard at hheard
  unfold osdlpTmReceive
  dsimp only
  rw [if_neg (by decide), if_neg (not_not.mpr hheard), if_neg hptr', hstuff]
  exact ⟨_, rfl⟩

/-- No cell of a packet is taken for an idle one. -/
theorem packetCell_ptr_ne_oid (hfits : TmFits m) (packet : List UInt8) (remainingLen : ℕ) :
    (packetCell m packet remainingLen).ptr ≠ tmFirstHdrPtrOid := by
  have hsmall := hfits.small
  unfold packetCell nextFirstHdrPtr
  dsimp only
  split_ifs
  · decide
  · decide
  · exact (ofNat_ptr (by omega)).2.2

/-- The frames are received one after the other, whatever the calls return. -/
def receiveAll (getPacketLen : GetPacketLen) (fuel : ℕ) :
    TmReceiver → List (List UInt8) → Option TmReceiver
  | r, [] => some r
  | r, frame :: frames => do
    let (_, r) ← osdlpTmReceive getPacketLen fuel 0 r frame
    receiveAll getPacketLen fuel r frames

theorem receiveAll_append (getPacketLen : GetPacketLen) (fuel : ℕ) (r : TmReceiver)
    (frames frames' : List (List UInt8)) :
    receiveAll getPacketLen fuel r (frames ++ frames') =
      (receiveAll getPacketLen fuel r frames).bind fun r =>
        receiveAll getPacketLen fuel r frames' := by
  induction frames generalizing r with
  | nil => rfl
  | cons frame frames ih =>
    simp only [List.cons_append, receiveAll, Option.bind_eq_bind, Option.bind_assoc]
    congr 1
    funext result
    exact ih _

end Osdlp.Interface
