import Mathlib.Data.List.Forall2
import Osdlp.Interface.TmNoStuffing
import Osdlp.Library.PacketStream

/-!
# Reception with stuffing

Packets laid out back to back in the data fields: `streamCell` is what the frame carries
that starts at a position of the stream.  At the end of a frame the receiver is `Midway`
in the packet that the next frame continues.  A packet that has the maximal length and
whose header straddles two frames is `Lost`.
-/

set_option autoImplicit false

namespace Osdlp.Interface

open Osdlp.Model Osdlp.Library

/-- The first header pointer of the frame that starts at a position of the stream. -/
def streamPtr (n : ℕ) (packets : List (List UInt8)) (x : ℕ) : BitVec 11 :=
  if nextStart packets x - x < n then BitVec.ofNat 11 (nextStart packets x - x)
  else tmFirstHdrPtrNoPktStart

/-- What the frame carries that starts at a position of the stream. -/
def streamCell (n : ℕ) (packets : List (List UInt8)) (x : ℕ) : TmCell :=
  { ptr := streamPtr n packets x, field := window n tmIdlePacket packets x }

/-- The data fields that packets take when they are laid out back to back. -/
def stuffedCells (n : ℕ) (packets : List (List UInt8)) : List TmCell :=
  (List.range ((packets.flatten.length + n - 1) / n)).map fun k => streamCell n packets (k * n)

/-- Whole packets in front do not matter. -/
theorem streamCell_append_add (n : ℕ) (done rest : List (List UInt8)) (y : ℕ) :
    streamCell n (done ++ rest) (done.flatten.length + y) = streamCell n rest y := by
  unfold streamCell streamPtr
  rw [nextStart_append_add, window_append_add, Nat.add_sub_add_left]

/-- The hook tells the length of a packet from `h` octets on, and not before. -/
structure TellsFrom (getPacketLen : GetPacketLen) (h : ℕ) (packets : List (List UInt8)) : Prop where
  tells : TellsLength getPacketLen h packets
  short : ∀ buf n, n < h → getPacketLen buf n = none

theorem lengthOctet_tellsFrom {i : ℕ} {packets : List (List UInt8)}
    (h : ∀ packet ∈ packets, packet.length < 256 ∧ packet[i]? = some (UInt8.ofNat packet.length)) :
    TellsFrom (lengthOctet i) (i + 1) packets :=
  ⟨lengthOctet_tells h, fun _ _ hn => if_pos (Nat.le_of_lt_succ hn)⟩

theorem TellsFrom.tail {getPacketLen : GetPacketLen} {h : ℕ} {packet : List UInt8}
    {packets : List (List UInt8)} (hhook : TellsFrom getPacketLen h (packet :: packets)) :
    TellsFrom getPacketLen h packets :=
  ⟨fun p hp => hhook.tells p (List.mem_cons_of_mem _ hp), hhook.short⟩

/-- A packet that the hook can tell, that is not too long and does not look like idle data. -/
structure Stuffable (m : TmMissionParams) (h : ℕ) (packet : List UInt8) : Prop where
  header : h ≤ packet.length
  sdu : packet.length ≤ m.maxSduLen
  notIdle : packet.head? ≠ some tmIdlePacket

instance (m : TmMissionParams) (h : ℕ) (packet : List UInt8) : Decidable (Stuffable m h packet) :=
  decidable_of_iff (h ≤ packet.length ∧ packet.length ≤ m.maxSduLen ∧
      packet.head? ≠ some tmIdlePacket)
    ⟨fun hp => ⟨hp.1, hp.2.1, hp.2.2⟩, fun hp => ⟨hp.header, hp.sdu, hp.notIdle⟩⟩

/-- The header of a packet that starts at a position goes on in the next frame. -/
def Straddles (n h start : ℕ) : Prop := n < start % n + h

instance (n h start : ℕ) : Decidable (Straddles n h start) := inferInstanceAs (Decidable (_ < _))

/-- A packet of the maximal length whose header straddles two frames. -/
def Lost (m : TmMissionParams) (h start : ℕ) (packet : List UInt8) : Prop :=
  packet.length = m.maxSduLen ∧ Straddles m.maxDataLen h start

instance (m : TmMissionParams) (h start : ℕ) (packet : List UInt8) :
    Decidable (Lost m h start packet) := inferInstanceAs (Decidable (_ ∧ _))

/-- The packets that are not lost, from a position of the stream on. -/
def surviving (m : TmMissionParams) (h : ℕ) : ℕ → List (List UInt8) → List (List UInt8)
  | _, [] => []
  | start, packet :: packets =>
    if Lost m h start packet then surviving m h (start + packet.length) packets
    else packet :: surviving m h (start + packet.length) packets

theorem surviving_append (m : TmMissionParams) (h start : ℕ) (done rest : List (List UInt8)) :
    surviving m h start (done ++ rest) =
      surviving m h start done ++ surviving m h (start + done.flatten.length) rest := by
  induction done generalizing start with
  | nil => rfl
  | cons packet done ih =>
    simp only [List.cons_append, surviving, ih, List.flatten_cons, List.length_append,
      Nat.add_assoc]
    split_ifs <;> rfl

/-- The utility buffer holds the first `n` octets of a packet that started at a position. -/
structure Midway (m : TmMissionParams) (h start : ℕ) (util : TmUtilBuf) (packet : List UInt8)
    (n : ℕ) : Prop where
  opened : util.loopState = .loopOpen
  buffered : util.bufferedLength = n
  expected : util.expectedPktLen = if Straddles m.maxDataLen h start then 0 else packet.length
  octets : util.buffer.take n = packet.take n

/-- Where a receiver stands at a position of the stream: between two packets, or midway in the
first of the packets that are not complete. -/
def Stands (m : TmMissionParams) (h start : ℕ) (util : TmUtilBuf) (packets : List (List UInt8))
    (n : ℕ) : Prop :=
  n = 0 ∨ ∃ packet rest, packets = packet :: rest ∧ n < packet.length ∧
    Midway m h start util packet n

/-- From `r` to `r'`, the stream has been followed from `start` on for `len` octets, or to its
end, and what has not been lost has been handed over. -/
def Advances (m : TmMissionParams) (h : ℕ) (r r' : TmReceiver) (start : ℕ)
    (packets : List (List UInt8)) (len : ℕ) : Prop :=
  Listens m r' ∧ ∃ done rest n handed, packets = done ++ rest ∧ Delivers r r' handed ∧
    List.Forall₂ (· <+: ·) (surviving m h start done) handed ∧
    ((rest = [] ∧ done.flatten.length ≤ len) ∨ len = done.flatten.length + n) ∧
    Stands m h (start + done.flatten.length) r'.tf.mission.util rest n

variable {m : TmMissionParams} {r r' r'' : TmReceiver} {h start : ℕ} {packet : List UInt8}
  {packets : List (List UInt8)} {getPacketLen : GetPacketLen}

/-- The stream goes on behind a packet. -/
theorem Advances.cons {handed : List (List UInt8)} {len : ℕ} (hdel : Delivers r r' handed)
    (hhanded : List.Forall₂ (· <+: ·) (surviving m h start [packet]) handed)
    (hrest : Advances m h r' r'' (start + packet.length) packets len) :
    Advances m h r r'' start (packet :: packets) (packet.length + len) := by
  obtain ⟨hlistens, done, rest, n, handed', rfl, hdel', hhanded', hlen, hstands⟩ := hrest
  refine ⟨hlistens, packet :: done, rest, n, handed ++ handed', rfl, hdel.trans hdel', ?_, ?_, ?_⟩
  · rw [← List.singleton_append, surviving_append, List.flatten_singleton]
    exact List.rel_append hhanded hhanded'
  · rw [List.flatten_cons, List.length_append]
    rcases hlen with ⟨hnil, hle⟩ | heq
    · exact .inl ⟨hnil, by omega⟩
    · exact .inr (by omega)
  · rw [List.flatten_cons, List.length_append, ← Nat.add_assoc]
    exact hstands

/-- The stream stands still. -/
theorem Advances.zero (hlistens : Listens m r) : Advances m h r r start packets 0 :=
  ⟨hlistens, [], packets, 0, [], rfl, .refl r, .nil, .inr (by simp), .inl rfl⟩

/-- A packet is collected, and not yet complete. -/
theorem Advances.stands {util : TmUtilBuf} {n : ℕ} (hlistens : Listens m r)
    (hlen : n < packet.length) (hmidway : Midway m h start util packet n) :
    Advances m h r (r.setUtil util) start (packet :: packets) n :=
  ⟨hlistens.setUtil util, [], packet :: packets, n, [], rfl,
    ⟨(Delivers.refl r).taken, (Delivers.refl r).accepting⟩, .nil, .inr (by simp),
    .inr ⟨packet, packets, rfl, hlen, hmidway⟩⟩

/-- What is handed over for a packet that is not lost. -/
theorem surviving_singleton (hnotLost : ¬ Lost m h start packet) {buf : List UInt8}
    (hbuf : packet <+: buf) : List.Forall₂ (· <+: ·) (surviving m h start [packet]) [buf] := by
  simp only [surviving, if_neg hnotLost]
  exact .cons hbuf .nil

/-- Nothing is handed over for a lost packet. -/
theorem surviving_lost (hlost : Lost m h start packet) :
    List.Forall₂ (· <+: ·) (surviving m h start [packet]) ([] : List (List UInt8)) := by
  simp only [surviving, if_pos hlost]
  exact .nil

/-! ## Exploring a data field -/

/-- What is copied to the start of a buffer lies there. -/
theorem take_memWrite_zero (buf : List UInt8) {src : List UInt8} {j : ℕ} (hlen : src.length = j) :
    (memWrite buf 0 src).take j = src := by
  rw [take_eq_region (by rw [length_memWrite]; omega), region_memWrite_self _ _ hlen]

/-- A packet that goes on in the next frame is left midway. -/
theorem advances_midway {offset expected : ℕ} (hlistens : Listens m r)
    (hreads : Reads m r.tf.data offset (packet :: packets)) (hoffset : offset ≤ m.maxDataLen)
    (hlen : m.maxDataLen - offset < packet.length)
    (hexpected : expected = if Straddles m.maxDataLen h start then 0 else packet.length) :
    Advances m h r
      (r.setUtil
        { buffer := memWrite r.tf.mission.util.buffer 0
            ((r.tf.data.drop offset).take (m.maxDataLen - offset))
          loopState := .loopOpen
          bufferedLength := m.maxDataLen - offset
          expectedPktLen := expected })
      start (packet :: packets) (m.maxDataLen - offset) := by
  rw [hreads.take (by omega) hlen.le]
  exact .stands hlistens hlen
    ⟨rfl, rfl, hexpected, take_memWrite_zero _ (List.length_take_of_le hlen.le)⟩

/-- A packet that lies in the data field is handed over. -/
theorem enqueue_whole {offset : ℕ} (hlistens : Listens m r) (hacc : Accepting r.answers)
    (hreads : Reads m r.tf.data offset (packet :: packets))
    (hlen : offset + packet.length ≤ m.maxDataLen) :
    let sent := osdlpTmRxQueueEnqueue (r.setUtil
      { buffer := memWrite r.tf.mission.util.buffer 0 ((r.tf.data.drop offset).take packet.length)
        loopState := .loopClosed
        bufferedLength := 0
        expectedPktLen := 0 })
    0 ≤ sent.1 ∧ Listens m sent.2 ∧ sent.2.tf.data = r.tf.data ∧
      ∃ buf, packet <+: buf ∧ Delivers r sent.2 [buf] := by
  intro sent
  obtain ⟨hdel, htf, hret⟩ := osdlpTmRxQueueEnqueue_delivers (r.setUtil
    { buffer := memWrite r.tf.mission.util.buffer 0 ((r.tf.data.drop offset).take packet.length)
      loopState := .loopClosed
      bufferedLength := 0
      expectedPktLen := 0 })
  refine ⟨hret hacc, ?_, by rw [show sent.2.tf = _ from htf]; rfl, _, ?_, hdel.taken, hdel.accepting⟩
  · unfold Listens
    rw [show sent.2.tf = _ from htf]
    exact hlistens.setUtil _
  · rw [TmReceiver.setUtil_util, hreads.take hlen (Nat.le_refl _), List.take_length]
    refine List.prefix_iff_eq_take.mpr ?_
    exact (take_memWrite_zero _ rfl).symm

/-- From an offset on, the packets of a data field are handed over up to the one that goes on
in the next frame.
SOURCE: osdlp_tm.c:511-555, 682-726 -/
theorem explorePackets_advances (hfits : TmFits m) (hpos : 0 < h)
    (hhook : TellsFrom getPacketLen h packets)
    (hvalid : ∀ p ∈ packets, Stuffable m h p) {offset fuel : ℕ} (hlistens : Listens m r)
    (hacc : Accepting r.answers) (hreads : Reads m r.tf.data offset packets)
    (hoffset : offset < m.maxDataLen)
    (hfuel : m.maxDataLen ≤ offset + fuel) (hstart : start % m.maxDataLen = offset) :
    ∃ result r', explorePackets getPacketLen fuel offset r = some (result, r') ∧
      Advances m h r r' start packets (m.maxDataLen - offset) := by
  have hmax : r.tf.mission.maxDataLen = m.maxDataLen := by rw [hlistens]
  have hsmall := hfits.small
  have hrest : u16 (m.maxDataLen - offset : ℤ) = m.maxDataLen - offset := by
    rw [← Nat.cast_sub hoffset.le]
    exact u16_of_lt (by omega)
  obtain ⟨fuel, rfl⟩ : ∃ k, fuel = k + 1 := ⟨fuel - 1, by omega⟩
  -- on the packets that are still to be read; each one moves the offset and uses one unit of fuel
  induction packets generalizing r start offset fuel with
  | nil =>
    have hidle : r.tf.data.getD offset 0 = tmIdlePacket := by
      refine getD_of_take_one ?_
      obtain ⟨k, hk⟩ := Nat.exists_eq_add_one_of_ne_zero hfits.pos.ne'
      rw [hreads 1 (by omega), hk]
      rfl
    unfold explorePackets
    dsimp only
    rw [if_pos hidle]
    refine ⟨_, _, rfl, hlistens.setUtil _, [], [], 0, [], rfl, ?_, .nil,
      .inl ⟨rfl, Nat.zero_le _⟩, .inl rfl⟩
    exact ⟨(Delivers.refl r).taken, (Delivers.refl r).accepting⟩
  | cons packet packets ih =>
    obtain ⟨hheader, hsdu, hnotIdle⟩ := hvalid packet List.mem_cons_self
    have hbusy : ¬ r.tf.data.getD offset 0 = tmIdlePacket := by
      cases packet with
      | nil => exact absurd hheader (by simp; omega)
      | cons octet tail =>
        have hone : (r.tf.data.drop offset).take 1 = [octet] := hreads.take (by omega) (by simp)
        rw [getD_of_take_one hone]
        exact fun he => hnotIdle (congrArg some he)
    unfold explorePackets
    dsimp only
    rw [if_neg hbusy, hmax, hrest]
    -- the packet header goes on in the next frame
    by_cases hshort : m.maxDataLen - offset < h
    · have hstraddles : Straddles m.maxDataLen h start := by
        unfold Straddles
        omega
      rw [hhook.short _ _ hshort]
      exact ⟨_, _, rfl, advances_midway hlistens hreads hoffset.le (by omega)
        (if_pos hstraddles).symm⟩
    · have hwhole : ¬ Straddles m.maxDataLen h start := by
        unfold Straddles
        omega
      have hsduLt := hfits.sdu
      have hlen : (UInt16.ofNat packet.length).toNat = packet.length :=
        (UInt16.toNat_ofNat').trans (Nat.mod_eq_of_lt (by omega))
      rw [hhook.tells packet List.mem_cons_self _ _ (not_lt.mp hshort) hreads.prefix_drop]
      dsimp only
      rw [hlen]
      -- the header is there, and the packet goes on in the next frame
      by_cases hlong : packet.length + offset > m.maxDataLen
      · rw [if_pos hlong]
        exact ⟨_, _, rfl, advances_midway hlistens hreads hoffset.le (by omega)
          (if_neg hwhole).symm⟩
      · obtain ⟨hret, hlistens', hdata, buf, hbuf, hdel⟩ :=
          enqueue_whole hlistens hacc hreads (by omega)
        have hkept : List.Forall₂ (· <+: ·) (surviving m h start [packet]) [buf] :=
          surviving_singleton (fun hlost => hwhole hlost.2) hbuf
        have hnext : u16 ((offset : ℤ) + (packet.length : ℤ)) = offset + packet.length := by
          rw [← Nat.cast_add]
          exact u16_of_lt (by omega)
        rw [if_neg hlong, if_neg (not_lt.mpr hret), hnext]
        have hspace : m.maxDataLen - offset =
            packet.length + (m.maxDataLen - (offset + packet.length)) := by omega
        rw [hspace]
        -- the packet ends with the data field, or another one follows it
        by_cases hend : offset + packet.length = m.maxDataLen
        · rw [if_pos hend]
          refine ⟨_, _, rfl, .cons hdel hkept ?_⟩
          rw [hend, Nat.sub_self]
          exact .zero hlistens'
        · obtain ⟨fuel, rfl⟩ : ∃ k, fuel = k + 1 := ⟨fuel - 1, by omega⟩
          have hreads' : Reads m (osdlpTmRxQueueEnqueue (r.setUtil
              { buffer := memWrite r.tf.mission.util.buffer 0
                  ((r.tf.data.drop offset).take packet.length)
                loopState := .loopClosed
                bufferedLength := 0
                expectedPktLen := 0 })).2.tf.data (offset + packet.length) packets := by
            rw [hdata]
            exact hreads.skip
          have hstart' : (start + packet.length) % m.maxDataLen = offset + packet.length := by
            rw [Nat.add_mod, hstart, Nat.mod_eq_of_lt (show packet.length < m.maxDataLen by omega)]
            exact Nat.mod_eq_of_lt (by omega)
          obtain ⟨result, r', hcall, hadv⟩ := ih hhook.tail
            (fun p hp => hvalid p (List.mem_cons_of_mem _ hp)) hlistens' (hdel.accepting hacc).1
            hreads' (by omega) hstart' (by rw [hlistens']) (by
              rw [← Nat.cast_sub (by omega)]
              exact u16_of_lt (by omega)) fuel (by omega)
          rw [if_neg hend]
          exact ⟨result, r', hcall, hadv.cons hdel hkept⟩

/-- A frame at the start of a packet. -/
theorem Holds.reads_zero (hholds : Holds m r (streamCell m.maxDataLen packets 0)) :
    Reads m r.tf.data 0 packets := by
  intro j hj
  rw [Nat.zero_add] at hj
  rw [List.drop_zero, hholds.data j hj]
  show (window _ _ _ _).take j = _
  unfold window
  rw [List.take_take, Nat.min_eq_left hj, List.drop_zero]

/-! ## Continuing a packet -/

/-- What lies at the start of the data field continues the packet. -/
theorem Holds.take_stream {n j : ℕ} (hholds : Holds m r (streamCell m.maxDataLen (packet :: packets) n))
    (hj : j ≤ m.maxDataLen) (hlen : n + j ≤ packet.length) :
    r.tf.data.take j = (packet.drop n).take j := by
  rw [hholds.data j hj]
  show (window _ _ _ _).take j = _
  unfold window
  rw [List.take_take, Nat.min_eq_left hj, List.flatten_cons,
    List.drop_append_of_le_length (by omega), List.append_assoc, List.take_append_of_le_length]
  rw [List.length_drop]
  omega

/-- Behind the packet lie the next ones. -/
theorem Holds.reads {n : ℕ} (hholds : Holds m r (streamCell m.maxDataLen (packet :: packets) n))
    (hn : n ≤ packet.length) : Reads m r.tf.data (packet.length - n) packets := by
  intro j hj
  have hall := congrArg (List.drop (packet.length - n)) (hholds.data _ hj)
  have hwindow : (streamCell m.maxDataLen (packet :: packets) n).field =
      (packet.drop n ++ (packets.flatten ++ List.replicate m.maxDataLen tmIdlePacket)).take
        m.maxDataLen := by
    show window _ _ _ _ = _
    unfold window
    rw [List.flatten_cons, List.drop_append_of_le_length hn, List.append_assoc]
  rw [hwindow, List.take_take, Nat.min_eq_left hj, List.drop_take, List.drop_take,
    Nat.add_sub_cancel_left, ← List.length_drop, List.drop_left, List.length_drop] at hall
  exact hall

/-- The header has been read when some of the packet is known beyond `h` octets. -/
theorem Midway.told {n k : ℕ} (hmidway : Midway m h start r.tf.mission.util packet n)
    (hhook : TellsFrom getPacketLen h (packet :: packets)) (hsdu : packet.length < 65536)
    (hdata : r.tf.data.take k = (packet.drop n).take k) (hlen : n + k ≤ packet.length)
    (hheader : h ≤ n + k) :
    (memWrite r.tf.mission.util.buffer n (r.tf.data.take k)).take (n + k) = packet.take (n + k) ∧
      ∃ length, getPacketLen (memWrite r.tf.mission.util.buffer n (r.tf.data.take k)) (n + k) =
        some length ∧ length.toNat = packet.length := by
  have hcopy : (memWrite r.tf.mission.util.buffer n (r.tf.data.take k)).take (n + k) =
      packet.take (n + k) := by
    rw [hdata]
    exact take_memWrite_append hlen hmidway.octets
  have hprefix : packet.take (n + k) <+: memWrite r.tf.mission.util.buffer n (r.tf.data.take k) := by
    rw [← hcopy]
    exact List.take_prefix _ _
  exact ⟨hcopy, _, hhook.tells packet List.mem_cons_self _ _ hheader hprefix,
    (UInt16.toNat_ofNat').trans (Nat.mod_eq_of_lt hsdu)⟩

/-- A packet that is complete is handed over. -/
theorem deliverUtil_complete (hlistens : Listens m r) {util : TmUtilBuf}
    (hbuf : util.buffer.take packet.length = packet) :
    Listens m (deliverUtil r util).2 ∧ (deliverUtil r util).2.tf.data = r.tf.data ∧
      (deliverUtil r util).2.tf.primaryHdr = r.tf.primaryHdr ∧
      ∃ buf, packet <+: buf ∧ Delivers r (deliverUtil r util).2 [buf] := by
  obtain ⟨hdel, htf⟩ := deliverUtil_delivers r util
  refine ⟨?_, by rw [htf]; rfl, by rw [htf]; rfl, util.buffer, ?_, hdel⟩
  · unfold Listens
    rw [htf]
    exact hlistens.setUtil _
  · exact List.prefix_iff_eq_take.mpr hbuf.symm

theorem deliverUtil_advances (hlistens : Listens m r) (hnotLost : ¬ Lost m h start packet)
    {util : TmUtilBuf} (hbuf : util.buffer.take packet.length = packet) :
    Advances m h r (deliverUtil r util).2 start (packet :: packets) packet.length := by
  obtain ⟨hlistens', -, -, buf, hprefix, hdel⟩ := deliverUtil_complete hlistens hbuf
  exact .cons hdel (surviving_singleton hnotLost hprefix) (.zero hlistens')

/-- The length is known, and the packet goes to the end of the frame at least.
SOURCE: osdlp_tm.c:601-627 -/
theorem continuePacket_advances (hfits : TmFits m) (hsdu : packet.length ≤ m.maxSduLen) {n : ℕ}
    (hholds : Holds m r (streamCell m.maxDataLen (packet :: packets) n))
    (hmidway : Midway m h start r.tf.mission.util packet n)
    (hknown : ¬ Straddles m.maxDataLen h start) (hlen : n + m.maxDataLen ≤ packet.length) :
    Advances m h r (continuePacket r m.maxDataLen).2 start (packet :: packets)
      (n + m.maxDataLen) := by
  have hsduLt := hfits.sdu
  have hmaxSdu : r.tf.mission.maxSduLen = m.maxSduLen := by rw [hholds.listens]
  have hexpected := hmidway.expected
  rw [if_neg hknown] at hexpected
  have hcopy : (memWrite r.tf.mission.util.buffer n (r.tf.data.take m.maxDataLen)).take
      (n + m.maxDataLen) = packet.take (n + m.maxDataLen) := by
    rw [hholds.take_stream (Nat.le_refl _) hlen]
    exact take_memWrite_append hlen hmidway.octets
  have hsum : u16 ((n : ℤ) + (m.maxDataLen : ℤ)) = n + m.maxDataLen := by
    rw [← Nat.cast_add]
    exact u16_of_lt (by omega)
  unfold continuePacket
  dsimp only
  rw [hmidway.buffered, hexpected, hmaxSdu, if_neg (by omega), hsum]
  by_cases hdone : n + m.maxDataLen = packet.length
  · rw [if_pos hdone, hdone]
    rw [hdone, List.take_length] at hcopy
    exact deliverUtil_advances hholds.listens (fun hlost => hknown hlost.2) hcopy
  · rw [if_neg hdone]
    exact .stands hholds.listens (by omega)
      ⟨hmidway.opened, rfl, (if_neg hknown).symm, hcopy⟩

/-- A frame that the packet fills to the end.
SOURCE: osdlp_tm.c:558-628 -/
theorem handleSPtrNopkt_advances (hfits : TmFits m) (hpos : 0 < h) (hroom : h ≤ m.maxDataLen)
    (hhook : TellsFrom getPacketLen h (packet :: packets)) (hvalid : Stuffable m h packet) {n : ℕ}
    (hholds : Holds m r (streamCell m.maxDataLen (packet :: packets) n))
    (hmidway : Midway m h start r.tf.mission.util packet n)
    (hlen : n + m.maxDataLen ≤ packet.length) :
    Advances m h r (handleSPtrNopkt getPacketLen r).2 start (packet :: packets)
      (n + m.maxDataLen) := by
  have hmax : r.tf.mission.maxDataLen = m.maxDataLen := by rw [hholds.listens]
  have hmaxSdu : r.tf.mission.maxSduLen = m.maxSduLen := by rw [hholds.listens]
  have hsdu := hvalid.sdu
  have hsduLt := hfits.sdu
  have hheader := hvalid.header
  obtain ⟨hcopy, length, htold, hlength⟩ := hmidway.told hhook (by omega)
    (hholds.take_stream (Nat.le_refl _) hlen) hlen (by omega)
  have hsum : u16 ((n : ℤ) + (m.maxDataLen : ℤ)) = n + m.maxDataLen := by
    rw [← Nat.cast_add]
    exact u16_of_lt (by omega)
  have hsum' : u16 ((m.maxDataLen : ℤ) + (n : ℤ)) = n + m.maxDataLen := by
    rw [Int.add_comm]
    exact hsum
  have hopen : ¬ r.tf.mission.util.loopState = .loopClosed := by
    rw [hmidway.opened]
    decide
  have hexpected := hmidway.expected
  unfold handleSPtrNopkt
  dsimp only
  rw [if_neg hopen, hmax, hmaxSdu, hmidway.buffered, hsum, hsum']
  by_cases hstraddles : Straddles m.maxDataLen h start
  · rw [if_pos hstraddles] at hexpected
    rw [if_pos hexpected]
    by_cases hfull : n + m.maxDataLen < m.maxSduLen
    · rw [if_pos hfull, htold]
      dsimp only
      rw [hlength, Nat.add_comm m.maxDataLen n]
      by_cases hdone : n + m.maxDataLen = packet.length
      · rw [if_pos hdone, hdone]
        rw [hdone, List.take_length] at hcopy
        exact deliverUtil_advances hholds.listens (fun hlost => by have := hlost.1; omega) hcopy
      · rw [if_neg hdone]
        exact .stands hholds.listens (by omega)
          ⟨hmidway.opened, rfl, hexpected.trans (if_pos hstraddles).symm, hcopy⟩
    · -- only a packet of the maximal length gets here, and its end is here too
      have hlost : Lost m h start packet := ⟨by omega, hstraddles⟩
      rw [if_neg hfull, show n + m.maxDataLen = packet.length + 0 by omega]
      have hclosed : Delivers r (closeLoop r) [] := ⟨(Delivers.refl r).taken, (Delivers.refl r).accepting⟩
      exact .cons hclosed (surviving_lost hlost) (.zero (hholds.listens.setUtil _))
  · rw [if_neg hstraddles] at hexpected
    rw [if_neg (by omega)]
    exact continuePacket_advances hfits hsdu hholds hmidway hstraddles hlen

/-- The receive queue takes what it is offered. -/
theorem deliverUtil_ok (hacc : Accepting r.answers) (util : TmUtilBuf) :
    (deliverUtil r util).1 = .ok := by
  obtain ⟨-, -, hret⟩ := osdlpTmRxQueueEnqueue_delivers
    (r.setUtil { util with loopState := .loopClosed, bufferedLength := 0 })
  unfold deliverUtil
  dsimp only
  rw [if_neg (not_lt.mpr (hret hacc))]

/-- The end of a packet in front of the next one.
SOURCE: osdlp_tm.c:637-680 -/
theorem finishPacket_hands (hfits : TmFits m) (hpos : 0 < h) (hacc : Accepting r.answers)
    (hhook : TellsFrom getPacketLen h (packet :: packets)) (hvalid : Stuffable m h packet) {n : ℕ}
    (hholds : Holds m r (streamCell m.maxDataLen (packet :: packets) n))
    (hmidway : Midway m h start r.tf.mission.util packet n) (hn : n ≤ packet.length)
    (hlen : packet.length ≤ n + m.maxDataLen)
    (hptr : r.tf.primaryHdr.firstHdrPtr.toNat = packet.length - n) :
    ∃ r' handed, finishPacket getPacketLen r = (none, r') ∧ Listens m r' ∧
      r'.tf.data = r.tf.data ∧ r'.tf.primaryHdr = r.tf.primaryHdr ∧ Delivers r r' handed ∧
      List.Forall₂ (· <+: ·) (surviving m h start [packet]) handed := by
  have hmaxSdu : r.tf.mission.maxSduLen = m.maxSduLen := by rw [hholds.listens]
  have hsdu := hvalid.sdu
  have hsduLt := hfits.sdu
  have hheader := hvalid.header
  have hend : n + (packet.length - n) = packet.length := by omega
  obtain ⟨hcopy, length, htold, hlength⟩ := hmidway.told hhook (by omega)
    (hholds.take_stream (show packet.length - n ≤ m.maxDataLen by omega) hend.le) hend.le (by omega)
  rw [hend, List.take_length] at hcopy
  rw [hend] at htold
  have hsum : u16 (((packet.length - n : ℕ) : ℤ) + (n : ℤ)) = packet.length := by
    rw [← Nat.cast_add, Nat.sub_add_cancel hn]
    exact u16_of_lt (by omega)
  have hopen : ¬ r.tf.mission.util.loopState = .loopClosed := by
    rw [hmidway.opened]
    decide
  -- the packet is handed over from the buffer that holds all of it
  have hdeliver : ∀ util : TmUtilBuf, util.buffer.take packet.length = packet →
      ¬ Lost m h start packet → ∃ r' handed,
        ((if (deliverUtil r util).1 = .denied then some TmRxResult.denied else none),
          (deliverUtil r util).2) = (none, r') ∧ Listens m r' ∧
        r'.tf.data = r.tf.data ∧ r'.tf.primaryHdr = r.tf.primaryHdr ∧ Delivers r r' handed ∧
        List.Forall₂ (· <+: ·) (surviving m h start [packet]) handed := by
    intro util hbuf hnotLost
    obtain ⟨hlistens, hdata, hhdr, buf, hprefix, hdel⟩ :=
      deliverUtil_complete hholds.listens hbuf
    refine ⟨_, [buf], ?_, hlistens, hdata, hhdr, hdel, surviving_singleton hnotLost hprefix⟩
    rw [deliverUtil_ok hacc, if_neg (by decide)]
  have hexpected := hmidway.expected
  unfold finishPacket
  dsimp only
  rw [if_neg hopen, hptr, hmaxSdu, hmidway.buffered, hsum, hend, Nat.sub_add_cancel hn]
  -- only where the header straddled two frames is the length still to be asked for
  by_cases hstraddles : Straddles m.maxDataLen h start
  · rw [if_pos hstraddles] at hexpected
    rw [if_pos hexpected]
    by_cases hfull : packet.length < m.maxSduLen
    · rw [if_pos hfull, htold]
      dsimp only
      rw [hlength, if_pos rfl]
      exact hdeliver _ hcopy fun hlost => by have := hlost.1; omega
    · -- of the greatest length, it is dropped instead
      have hlost : Lost m h start packet := ⟨by omega, hstraddles⟩
      rw [if_neg hfull]
      exact ⟨r, [], rfl, hholds.listens, rfl, rfl, .refl r, surviving_lost hlost⟩
  · rw [if_neg hstraddles] at hexpected
    rw [if_neg (by omega), if_pos hexpected.symm]
    exact hdeliver _ hcopy fun hlost => hstraddles hlost.2

/-- A frame that carries the stream from a position on.
SOURCE: osdlp_tm.c:729-746 -/
theorem handleRxStuffing_advances (hfits : TmFits m) (hpos : 0 < h) (hroom : h ≤ m.maxDataLen)
    (hhook : TellsFrom getPacketLen h packets) (hvalid : ∀ p ∈ packets, Stuffable m h p)
    {n fuel : ℕ} (hfuel : m.maxDataLen ≤ fuel) (hacc : Accepting r.answers)
    (hholds : Holds m r (streamCell m.maxDataLen packets n))
    (hstands : Stands m h start r.tf.mission.util packets n)
    (hstart : (start + n) % m.maxDataLen = 0) :
    ∃ result r', handleRxStuffing getPacketLen fuel r = some (result, r') ∧
      Advances m h r r' start packets (n + m.maxDataLen) := by
  have hpos' := hfits.pos
  have hsmall := hfits.small
  have hptr : r.tf.primaryHdr.firstHdrPtr = streamPtr m.maxDataLen packets n := hholds.ptr
  unfold handleRxStuffing
  rw [hptr]
  -- the frame starts with a packet, or in the middle of one
  rcases Nat.eq_zero_or_pos n with rfl | hn
  · have hzero : streamPtr m.maxDataLen packets 0 = 0 := by
      unfold streamPtr
      rw [nextStart_zero, if_pos hpos']
      rfl
    rw [if_pos hzero, Nat.zero_add]
    obtain ⟨result, r', hcall, hadv⟩ := explorePackets_advances hfits hpos hhook hvalid hholds.listens
      hacc hholds.reads_zero hpos' (show m.maxDataLen ≤ 0 + fuel by omega) hstart
    exact ⟨result, r', hcall, hadv⟩
  · obtain hzero | ⟨packet, rest, rfl, hlen, hmidway⟩ := hstands
    · omega
    have hnext : streamPtr m.maxDataLen (packet :: rest) n =
        if packet.length - n < m.maxDataLen then BitVec.ofNat 11 (packet.length - n)
        else tmFirstHdrPtrNoPktStart := by
      unfold streamPtr
      rw [nextStart_within rest hn hlen.le]
    have hvalidHead := hvalid packet List.mem_cons_self
    rw [hnext]
    -- the packet ends in this frame and others follow, or the whole frame belongs to it
    by_cases hend : packet.length - n < m.maxDataLen
    · obtain ⟨hnat, hno, -⟩ := ofNat_ptr (show packet.length - n < 2046 by omega)
      have hne : BitVec.ofNat 11 (packet.length - n) ≠ 0 := fun he => by
        rw [he] at hnat
        exact absurd hnat (by simp; omega)
      rw [if_pos hend, if_neg hne, if_neg hno]
      obtain ⟨r₁, handed, hfinish, hlistens, hdata, hhdr, hdel, hhanded⟩ :=
        finishPacket_hands hfits hpos hacc hhook hvalidHead hholds hmidway hlen.le (by omega)
          (by rw [hptr, hnext, if_pos hend, hnat])
      have hptr₁ : r₁.tf.primaryHdr.firstHdrPtr.toNat = packet.length - n := by
        rw [hhdr, hptr, hnext, if_pos hend, hnat]
      have hreads : Reads m r₁.tf.data (packet.length - n) rest := by
        rw [hdata]
        exact hholds.reads hlen.le
      have hstart' : (start + packet.length) % m.maxDataLen = packet.length - n := by
        rw [show start + packet.length = start + n + (packet.length - n) by omega, Nat.add_mod,
          hstart, Nat.zero_add, Nat.mod_mod, Nat.mod_eq_of_lt hend]
      obtain ⟨result, r', hcall, hadv⟩ := explorePackets_advances hfits hpos hhook.tail
        (fun p hp => hvalid p (List.mem_cons_of_mem _ hp)) hlistens (hdel.accepting hacc).1 hreads
        hend (show m.maxDataLen ≤ packet.length - n + fuel by omega) hstart'
      refine ⟨result, r', ?_, ?_⟩
      · unfold handleSPtrPositive
        rw [hfinish]
        dsimp only
        rw [hptr₁]
        exact hcall
      · have hsum : n + m.maxDataLen =
            packet.length + (m.maxDataLen - (packet.length - n)) := by omega
        rw [hsum]
        exact hadv.cons hdel hhanded
    · rw [if_neg hend, if_neg (by decide), if_pos rfl]
      exact ⟨_, _, rfl, handleSPtrNopkt_advances hfits hpos hroom hhook hvalidHead hholds hmidway
        (by omega)⟩

end Osdlp.Interface
