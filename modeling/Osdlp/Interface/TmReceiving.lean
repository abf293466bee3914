import Osdlp.Interface.TmFrame
import Osdlp.Interface.TmSending

/-!
# What a telemetry receiver makes of a frame

A receiver that has unpacked a frame `Holds` its cell.  What a call hands to the receive
queue is said by `Delivers`, and how far a packet has been collected by `Collects`.
-/

set_option autoImplicit false

namespace Osdlp.Interface

open Osdlp.Model Osdlp.Library

/-- A receiver with the mission `m`. -/
def Listens (m : TmMissionParams) (r : TmReceiver) : Prop :=
  r.tf.mission = { m with util := r.tf.mission.util }

/-- The receiver has unpacked a frame that carries the cell. -/
structure Holds (m : TmMissionParams) (r : TmReceiver) (cell : TmCell) : Prop where
  listens : Listens m r
  ptr : r.tf.primaryHdr.firstHdrPtr = cell.ptr
  data : ∀ k, k ≤ m.maxDataLen → r.tf.data.take k = cell.field.take k

/-- From `r` to `r'`, the receive queue has been handed some buffers.  It has taken them if it
takes all it is offered. -/
structure Delivers (r r' : TmReceiver) (handed : List (List UInt8)) : Prop where
  taken : ∃ taken, taken.Sublist handed ∧ r'.delivered = r.delivered ++ taken
  accepting : Accepting r.answers →
    Accepting r'.answers ∧ r'.delivered = r.delivered ++ handed

/-- The utility buffer holds the first `n` octets of a packet, and its length is known. -/
structure Collects (util : TmUtilBuf) (packet : List UInt8) (n : ℕ) : Prop where
  opened : util.loopState = .loopOpen
  buffered : util.bufferedLength = n
  expected : util.expectedPktLen = packet.length
  octets : util.buffer.take n = packet.take n

/-- The hook tells the length of these packets from `h` octets on. -/
def TellsLength (getPacketLen : GetPacketLen) (h : ℕ) (packets : List (List UInt8)) : Prop :=
  ∀ packet ∈ packets, ∀ buf n, h ≤ n → packet.take n <+: buf →
    getPacketLen buf n = some (UInt16.ofNat packet.length)

/-- A hook for packets that hold their length in one octet of the header. -/
def lengthOctet (i : ℕ) : GetPacketLen := fun buf n =>
  if n ≤ i then none else some (buf.getD i 0).toUInt16

/-- Packets that hold their length in an octet are told once that octet is there. -/
theorem lengthOctet_tells {i : ℕ} {packets : List (List UInt8)}
    (h : ∀ packet ∈ packets, packet.length < 256 ∧ packet[i]? = some (UInt8.ofNat packet.length)) :
    TellsLength (lengthOctet i) (i + 1) packets := by
  intro packet hmem buf n hn hprefix
  obtain ⟨hlt, hlen⟩ := h packet hmem
  have hoctet : buf[i]? = some (UInt8.ofNat packet.length) := by
    obtain ⟨tail, rfl⟩ := hprefix
    have hin : i < packet.length := (List.getElem?_eq_some_iff.mp hlen).1
    rw [List.getElem?_append_left (by rw [List.length_take]; omega),
      List.getElem?_take_of_lt (by omega), hlen]
  unfold lengthOctet
  rw [if_neg (by omega), List.getD_eq_getElem?_getD, hoctet, Option.getD_some]
  refine congrArg some (UInt16.toNat_inj.mp ?_)
  rw [UInt8.toNat_toUInt16, UInt8.toNat_ofNat', UInt16.toNat_ofNat']
  omega

/-- The data field is not empty and ends inside the frame, and no offset in it is one of the
special pointers. -/
structure TmFits (m : TmMissionParams) : Prop where
  pos : 0 < m.maxDataLen
  small : m.maxDataLen < 2046
  frame : m.headerLen + m.maxDataLen ≤ m.frameLen
  sdu : m.maxSduLen < 65536

variable {m : TmMissionParams} {r r' r'' : TmReceiver} {cell : TmCell}

theorem Delivers.refl (r : TmReceiver) : Delivers r r [] :=
  ⟨⟨[], List.Sublist.refl _, by simp⟩, fun h => ⟨h, by simp⟩⟩

theorem Delivers.trans {handed handed' : List (List UInt8)} (h : Delivers r r' handed)
    (h' : Delivers r' r'' handed') : Delivers r r'' (handed ++ handed') := by
  obtain ⟨taken, hsub, hr⟩ := h.taken
  obtain ⟨taken', hsub', hr'⟩ := h'.taken
  refine ⟨⟨taken ++ taken', hsub.append hsub', by rw [hr', hr, List.append_assoc]⟩, fun hacc => ?_⟩
  obtain ⟨hacc', hd⟩ := h.accepting hacc
  obtain ⟨hacc'', hd'⟩ := h'.accepting hacc'
  exact ⟨hacc'', by rw [hd', hd, List.append_assoc]⟩

/-! ## After `osdlp_tm_init` -/

/-- A frame of at most 2048 octets with room for some data. -/
theorem osdlpTmInit_fits {a : TmInitArgs} {h : ℕ} (hpos : 0 < h) (hsize : a.frameSize.toNat ≤ 2048)
    (hroom : a.occupied + h ≤ a.frameSize.toNat) :
    TmFits a.mission ∧ h ≤ a.mission.maxDataLen := by
  have hmax := TmInitArgs.mission_maxDataLen (show a.occupied ≤ a.frameSize.toNat by omega)
  have hhdr : 6 ≤ a.occupiedHeader := by
    simp only [TmInitArgs.occupiedHeader, tmPrimaryHdrLen]
    split <;> omega
  have hocc : a.occupiedHeader ≤ a.occupied := by
    unfold TmInitArgs.occupied
    omega
  refine ⟨⟨by omega, by omega, ?_, a.maxSduLen.toNat_lt⟩, by omega⟩
  show a.occupiedHeader + a.mission.maxDataLen ≤ a.frameSize.toNat
  omega

/-- An initialised structure is between two packets. -/
theorem osdlpTmInit_ready {tf₀ tf : TmTransferFrame} {a : TmInitArgs}
    (hroom : a.occupied ≤ a.frameSize.toNat) (h : osdlpTmInit tf₀ a = some tf) :
    Ready a.mission tf := by
  have hm := osdlpTmInit_mission h
  exact ⟨osdlpTmInit_shape hroom h, by rw [hm], by rw [hm]; rfl⟩

/-- The two ends share their mission, the utility buffers apart. -/
theorem osdlpTmInit_listens {tf₀ tf : TmTransferFrame} {a : TmInitArgs} {rxBuffer : List UInt8}
    (h : osdlpTmInit tf₀ { a with utilBuffer := rxBuffer } = some tf)
    (delivered : List (List UInt8)) (answers : List Int) :
    Listens a.mission { tf := tf, delivered := delivered, answers := answers } := by
  have hm := osdlpTmInit_mission h
  unfold Listens
  dsimp only
  rw [hm]
  rfl

/-! ## The receive queue -/

/-- The queue is handed the utility buffer. -/
theorem osdlpTmRxQueueEnqueue_delivers (r : TmReceiver) :
    Delivers r (osdlpTmRxQueueEnqueue r).2 [r.tf.mission.util.buffer] ∧
      (osdlpTmRxQueueEnqueue r).2.tf = r.tf ∧
      (Accepting r.answers → 0 ≤ (osdlpTmRxQueueEnqueue r).1) := by
  unfold osdlpTmRxQueueEnqueue
  cases hans : r.answers with
  | nil =>
    refine ⟨⟨⟨_, List.Sublist.refl _, rfl⟩, fun h => ⟨?_, rfl⟩⟩, rfl, fun _ => Int.le_refl _⟩
    simpa only [hans] using h
  | cons ret rest =>
    dsimp only
    split_ifs with hret
    · refine ⟨⟨⟨[], List.nil_sublist _, by simp⟩, fun h => ?_⟩, rfl, fun h => ?_⟩
      · rw [hans] at h
        exact absurd hret (not_lt.mpr (h ret List.mem_cons_self))
      · exact absurd hret (not_lt.mpr (h ret List.mem_cons_self))
    · refine ⟨⟨⟨_, List.Sublist.refl _, rfl⟩, fun h => ⟨?_, rfl⟩⟩, rfl, fun _ => not_lt.mp hret⟩
      rw [hans] at h
      exact fun a ha => h a (List.mem_cons_of_mem _ ha)

/-- The utility buffer is handed over, and the loop is closed. -/
theorem deliverUtil_delivers (r : TmReceiver) (util : TmUtilBuf) :
    Delivers r (deliverUtil r util).2 [util.buffer] ∧
      (deliverUtil r util).2.tf =
        (r.setUtil { util with loopState := .loopClosed, bufferedLength := 0 }).tf := by
  have hsnd : (deliverUtil r util).2 = (osdlpTmRxQueueEnqueue
      (r.setUtil { util with loopState := .loopClosed, bufferedLength := 0 })).2 := by
    unfold deliverUtil
    dsimp only
    split <;> rfl
  rw [hsnd]
  obtain ⟨hdel, htf, -⟩ := osdlpTmRxQueueEnqueue_delivers
    (r.setUtil { util with loopState := .loopClosed, bufferedLength := 0 })
  exact ⟨⟨hdel.taken, hdel.accepting⟩, htf⟩

/-! ## Unpacking -/

theorem Listens.setUtil (h : Listens m r) (util : TmUtilBuf) : Listens m (r.setUtil util) := by
  unfold Listens at h ⊢
  unfold TmReceiver.setUtil
  generalize r.tf.mission = n at h
  dsimp only
  rw [h]

theorem Listens.unpack (h : Listens m r) (frame : List UInt8) :
    Listens m { r with tf := osdlpTmUnpack r.tf frame } := h

/-- Unpacking a sound frame puts its cell into the frame structure. -/
theorem Listens.holds (h : Listens m r) (hsize : m.headerLen + m.maxDataLen ≤ m.frameLen)
    {frame : List UInt8} (hf : Sound m frame) :
    Holds m { r with tf := osdlpTmUnpack r.tf frame } (tmCell m frame) := by
  refine ⟨h.unpack frame, rfl, fun k hk => ?_⟩
  have hhdr : r.tf.mission.headerLen = m.headerLen := by rw [h]
  have hlen := hf.length
  show (frame.drop r.tf.mission.headerLen).take k = (region frame m.headerLen m.maxDataLen).take k
  rw [hhdr, drop_take_eq_region (by omega), take_eq_region (by simp [hk]),
    region_region _ (by omega), Nat.add_zero]

/-- A sound frame passes the checksum. -/
theorem Listens.crc (h : Listens m r) (hcrc : m.crcPresent = true) {frame : List UInt8}
    (hf : Sound m frame) :
    osdlpCalcCrc frame ((osdlpTmUnpack r.tf frame).mission.frameLen - 2) =
      (osdlpTmUnpack r.tf frame).crc := by
  have hfields : r.tf.mission.frameLen = m.frameLen ∧ r.tf.mission.crcPresent = true := by
    rw [h]
    exact ⟨rfl, hcrc⟩
  show osdlpCalcCrc frame (r.tf.mission.frameLen - 2) =
    if r.tf.mission.crcPresent then tmTrailerCrc r.tf.mission.frameLen frame else r.tf.crc
  rw [hfields.1, if_pos hfields.2]
  exact hf.crc hcrc

/-! ## Collecting a packet -/

variable {packet : List UInt8} {remainingLen : ℕ}

/-- The data field of a cell starts with what it brings of the packet. -/
theorem Holds.data_packetCell (h : Holds m r (packetCell m packet remainingLen))
    (hrem : remainingLen ≤ packet.length) :
    r.tf.data.take (min m.maxDataLen remainingLen) =
      (packet.drop (packet.length - remainingLen)).take (min m.maxDataLen remainingLen) := by
  rw [h.data _ (Nat.min_le_left _ _)]
  unfold packetCell
  refine List.take_left' (List.length_take_of_le ?_)
  rw [List.length_drop]
  omega

/-- An offset in the data field is none of the special pointers. -/
theorem ofNat_ptr {n : ℕ} (h : n < 2046) :
    (BitVec.ofNat 11 n).toNat = n ∧ BitVec.ofNat 11 n ≠ tmFirstHdrPtrNoPktStart ∧
      BitVec.ofNat 11 n ≠ tmFirstHdrPtrOid := by
  have hnat : (BitVec.ofNat 11 n).toNat = n := by
    rw [BitVec.toNat_ofNat]
    omega
  have hne : ∀ v : BitVec 11, 2046 ≤ v.toNat → BitVec.ofNat 11 n ≠ v := by
    intro v hv he
    rw [← he, hnat] at hv
    omega
  exact ⟨hnat, hne _ (by decide), hne _ (by decide)⟩

/-- A cell that continues a packet says how much of it that is. -/
theorem Holds.usableLen_packetCell (h : Holds m r (packetCell m packet remainingLen))
    (hfits : TmFits m) (hpos : 0 < remainingLen) (hrem : remainingLen < packet.length) :
    r.tf.primaryHdr.firstHdrPtr ≠ 0 ∧ usableLen r.tf = min m.maxDataLen remainingLen := by
  have hsmall := hfits.small
  have hmax : r.tf.mission.maxDataLen = m.maxDataLen := by rw [h.listens]
  have hptr : r.tf.primaryHdr.firstHdrPtr = nextFirstHdrPtr m packet.length remainingLen := h.ptr
  unfold nextFirstHdrPtr at hptr
  rw [if_neg (by omega)] at hptr
  unfold usableLen
  rw [hptr, hmax]
  by_cases hfull : remainingLen ≥ m.maxDataLen
  · rw [if_pos hfull, if_pos rfl]
    exact ⟨by decide, (Nat.min_eq_left hfull).symm⟩
  · obtain ⟨hnat, hno, -⟩ := ofNat_ptr (show remainingLen < 2046 by omega)
    rw [if_neg hfull, if_neg hno, hnat]
    refine ⟨fun he => ?_, by omega⟩
    rw [he] at hnat
    exact absurd hnat.symm (by simp; omega)

end Osdlp.Interface
