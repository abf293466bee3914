import Osdlp.Interface.TmNoStuffing

/-!
# The telemetry round trip without stuffing

The frames of a packet, received in order, hand over the packet (`receiveAll_packet`), and so
do the frames of a list of packets (`receiveAll_packets`).  `roundTrip` puts this together
with what the sender queues.
-/

set_option autoImplicit false

namespace Osdlp.Analysis

open Osdlp.Model Osdlp.Interface Osdlp.Library

variable {m : TmMissionParams} {r r₀ : TmReceiver} {packet : List UInt8} {getPacketLen : GetPacketLen}
  {h : ℕ}

/-- The rest of a packet completes it. -/
theorem receiveAll_rest (fuel : ℕ) (hoff : m.stuffState = .stuffingOff)
    (hcrc : m.crcPresent = true) (hfits : TmFits m) (hsdu : packet.length ≤ m.maxSduLen)
    (numPackets : ℕ) {remainingLen : ℕ} {frames : List (List UInt8)}
    (hcells : frames.map (tmCell m) = packetCells m packet numPackets remainingLen)
    (hsound : ∀ frame ∈ frames, Sound m frame) (hrem : remainingLen < packet.length)
    (hmany : remainingLen ≤ numPackets * m.maxDataLen)
    (hfew : numPackets * m.maxDataLen < remainingLen + m.maxDataLen)
    (hout : Outcome m r₀ r packet remainingLen) :
    ∃ r', receiveAll getPacketLen fuel r frames = some r' ∧ Outcome m r₀ r' packet 0 := by
  induction numPackets generalizing r remainingLen frames with
  | zero =>
    have hzero : remainingLen = 0 := by omega
    have hnil : frames = [] := List.map_eq_nil_iff.mp hcells
    subst hzero hnil
    exact ⟨r, rfl, hout⟩
  | succ numPackets ih =>
    rw [Nat.succ_mul] at hmany hfew
    obtain ⟨frame, frames, rfl, hcell, hrest⟩ := List.map_eq_cons_iff.mp hcells
    obtain ⟨hlistens, ⟨hzero, -⟩ | ⟨hpos, hcoll, hdel⟩⟩ := hout
    · omega
    have hf := hsound frame List.mem_cons_self
    have hholds := hlistens.holds hfits.frame hf
    rw [hcell] at hholds
    have hnext := handleRxNoStuffing_next getPacketLen hholds hfits hcoll hpos hrem hsdu
    obtain ⟨code, hcall⟩ := osdlpTmReceive_noStuffing getPacketLen fuel hlistens hoff
      (hlistens.crc hcrc hf)
      (by rw [hcell]; exact packetCell_ptr_ne_oid hfits packet remainingLen)
    have hunpacked : Delivers r₀ { r with tf := osdlpTmUnpack r.tf frame } [] :=
      ⟨hdel.taken, hdel.accepting⟩
    obtain ⟨r', hreceived, hdone⟩ := ih hrest
      (fun frame' hmem => hsound frame' (List.mem_cons_of_mem _ hmem)) (by omega) (by omega)
      (by omega) (hnext.after hunpacked)
    refine ⟨r', ?_, hdone⟩
    unfold receiveAll
    rw [hcall]
    exact hreceived

/-- The frames of a packet hand over the packet. -/
theorem receiveAll_packet (fuel : ℕ) (hoff : m.stuffState = .stuffingOff)
    (hcrc : m.crcPresent = true) (hfits : TmFits m) (hsdu : packet.length ≤ m.maxSduLen)
    (hpos : 0 < packet.length) (hhook : ∀ buf, packet.take m.maxDataLen <+: buf →
      getPacketLen buf m.maxDataLen = some (UInt16.ofNat packet.length))
    {frames : List (List UInt8)}
    (hcells : frames.map (tmCell m) =
      packetCells m packet (numPacketsFor m packet.length) packet.length)
    (hsound : ∀ frame ∈ frames, Sound m frame) (hlistens : Listens m r) :
    ∃ r', receiveAll getPacketLen fuel r frames = some r' ∧ Outcome m r r' packet 0 := by
  obtain ⟨hsome, hmany, hfew⟩ := numPacketsFor_bounds hfits.pos packet.length
  have hfew := hfew hpos
  obtain ⟨numPackets, hnum⟩ := Nat.exists_eq_add_of_lt hsome
  rw [Nat.zero_add] at hnum
  rw [hnum] at hcells hmany hfew
  rw [Nat.succ_mul] at hmany hfew
  obtain ⟨frame, frames, rfl, hcell, hrest⟩ := List.map_eq_cons_iff.mp hcells
  have hf := hsound frame List.mem_cons_self
  have hholds := hlistens.holds hfits.frame hf
  rw [hcell] at hholds
  have hfirst := handleRxNoStuffing_first hholds hsdu hfits (hhook _)
  obtain ⟨code, hcall⟩ := osdlpTmReceive_noStuffing getPacketLen fuel hlistens hoff
      (hlistens.crc hcrc hf)
    (by rw [hcell]; exact packetCell_ptr_ne_oid hfits packet packet.length)
  have hunpacked : Delivers r { r with tf := osdlpTmUnpack r.tf frame } [] :=
    ⟨(Delivers.refl r).taken, (Delivers.refl r).accepting⟩
  have hpos' := hfits.pos
  obtain ⟨r', hreceived, hdone⟩ := receiveAll_rest fuel hoff hcrc hfits hsdu numPackets hrest
    (fun frame' hmem => hsound frame' (List.mem_cons_of_mem _ hmem)) (by omega) (by omega)
    (by omega) (hfirst.after hunpacked)
  refine ⟨r', ?_, hdone⟩
  unfold receiveAll
  rw [hcall]
  exact hreceived

/-- The frames of a list of packets hand over the packets, in order. -/
theorem receiveAll_packets (fuel : ℕ) (hoff : m.stuffState = .stuffingOff)
    (hcrc : m.crcPresent = true) (hfits : TmFits m) {packets : List (List UInt8)}
    (hhook : TellsLength getPacketLen h packets) (hroom : h ≤ m.maxDataLen)
    (hvalid : ∀ packet ∈ packets, 0 < packet.length ∧ packet.length ≤ m.maxSduLen)
    {frames : List (List UInt8)} (hcells : frames.map (tmCell m) = noStuffingCells m packets)
    (hsound : ∀ frame ∈ frames, Sound m frame) (hlistens : Listens m r)
    (hclosed : r.tf.mission.util.loopState = .loopClosed) :
    ∃ r' handed, receiveAll getPacketLen fuel r frames = some r' ∧ Listens m r' ∧
      r'.tf.mission.util.loopState = .loopClosed ∧ Delivers r r' handed ∧
      List.Forall₂ (· <+: ·) packets handed := by
  induction packets generalizing r frames with
  | nil =>
    obtain rfl : frames = [] := List.map_eq_nil_iff.mp hcells
    exact ⟨r, [], rfl, hlistens, hclosed, .refl r, .nil⟩
  | cons packet packets ih =>
    obtain ⟨first, rest, rfl, hfirst, hrest⟩ := List.map_eq_append_iff.mp hcells
    obtain ⟨hpos, hsdu⟩ := hvalid packet List.mem_cons_self
    obtain ⟨r₁, hreceived, hlistens₁, ⟨-, hclosed₁, buf, hbuf, hdel⟩ | ⟨hne, -⟩⟩ :=
      receiveAll_packet fuel hoff hcrc hfits hsdu hpos
        (fun buf => hhook packet List.mem_cons_self buf _ hroom) hfirst
        (fun frame hmem => hsound frame (List.mem_append_left _ hmem)) hlistens
    · obtain ⟨r', handed, hreceived', hlistens', hclosed', hdel', hforall⟩ :=
        ih (fun p hp => hhook p (List.mem_cons_of_mem _ hp))
          (fun p hp => hvalid p (List.mem_cons_of_mem _ hp)) hrest
          (fun frame hmem => hsound frame (List.mem_append_right _ hmem)) hlistens₁ hclosed₁
      refine ⟨r', buf :: handed, ?_, hlistens', hclosed', hdel.trans hdel', .cons hbuf hforall⟩
      rw [receiveAll_append, hreceived]
      exact hreceived'
    · exact absurd hne (Nat.lt_irrefl 0)

/-- Between two ends set up alike, without stuffing and with checksum, the frames of the first
packets hand over these packets, each at the start of its buffer, and leave the receiver closed.
SOURCE: osdlp_tm.c:306-502, 748-772 -/
theorem roundTrip {a : TmInitArgs} {rxBuffer : List UInt8} {tf₀ tf₁ tx rx : TmTransferFrame}
    (htx : osdlpTmInit tf₀ a = some tx)
    (hrx : osdlpTmInit tf₁ { a with utilBuffer := rxBuffer } = some rx)
    (hcrc : a.crcFlag = true) (hoff : a.stuffing = .stuffingOff)
    (hsize : a.frameSize.toNat ≤ 2048) (hpos : 0 < h) (hroom : a.occupied + h ≤ a.frameSize.toNat)
    {txAnswers rxAnswers : List Int} (htxAcc : Accepting txAnswers) (hrxAcc : Accepting rxAnswers)
    {packets : List (List UInt8)} (hhook : TellsLength getPacketLen h packets)
    (hvalid : ∀ packet ∈ packets, h ≤ packet.length ∧ packet.length ≤ a.maxSduLen.toNat)
    (fuel : ℕ) :
    let s : TmSender := { tf := tx, queue := [], answers := txAnswers }
    let r : TmReceiver := { tf := rx, delivered := [], answers := rxAnswers }
    ∃ s', transmitAll getPacketLen fuel s packets = some s' ∧
      ∀ n, ∃ s₁ r₁, transmitAll getPacketLen fuel s (packets.take n) = some s₁ ∧
        s₁.queue <+: s'.queue ∧ receiveAll getPacketLen fuel r s₁.queue = some r₁ ∧
        r₁.tf.mission.util.loopState = .loopClosed ∧
        List.Forall₂ (· <+: ·) (packets.take n) r₁.delivered := by
  intro s r
  have hocc : a.occupied ≤ a.frameSize.toNat := by omega
  obtain ⟨hfits, hmax⟩ := osdlpTmInit_fits hpos hsize hroom
  have hready : Ready a.mission s.tf := osdlpTmInit_ready hocc htx
  have hlistens : Listens a.mission r := osdlpTmInit_listens hrx [] rxAnswers
  have hclosed : r.tf.mission.util.loopState = .loopClosed := by
    show rx.mission.util.loopState = _
    rw [osdlpTmInit_mission hrx]
    rfl
  obtain ⟨s', hall, -⟩ := transmitAll_queues getPacketLen fuel hoff hready htxAcc packets
  refine ⟨s', hall, fun n => ?_⟩
  obtain ⟨s₁, hsent, hqueued⟩ :=
    transmitAll_queues getPacketLen fuel hoff hready htxAcc (packets.take n)
  obtain ⟨frames, hqueue, hcells, hsound⟩ := hqueued.frames
  have hprefix : s₁.queue <+: s'.queue := by
    have hsplit := transmitAll_append getPacketLen fuel s (packets.take n) (packets.drop n)
    rw [List.take_append_drop, hall, hsent] at hsplit
    obtain ⟨s₂, hrest, hqueuedRest⟩ :=
      transmitAll_queues getPacketLen fuel hoff hqueued.ready hqueued.accepting (packets.drop n)
    obtain rfl : s' = s₂ := Option.some.inj (hsplit.trans hrest)
    obtain ⟨frames', hqueue', -⟩ := hqueuedRest.frames
    exact ⟨frames', hqueue'.symm⟩
  have hmem : ∀ packet ∈ packets.take n, packet ∈ packets := fun _ => List.mem_of_mem_take
  obtain ⟨r₁, handed, hreceived, -, hclosed₁, hdel, hforall⟩ :=
    receiveAll_packets fuel hoff hcrc hfits (fun p hp => hhook p (hmem p hp)) hmax
      (fun p hp => ⟨by have := hvalid p (hmem p hp); omega, (hvalid p (hmem p hp)).2⟩) hcells hsound
      hlistens hclosed
  refine ⟨s₁, r₁, hsent, hprefix, ?_, hclosed₁, ?_⟩
  · rw [hqueue]
    exact hreceived
  · rw [(hdel.accepting hrxAcc).2]
    exact hforall

/-- Frames of fourteen octets, six of them data. -/
def smallFrames : TmInitArgs :=
  { (default : TmInitArgs) with
    crcFlag := true
    frameSize := 14
    maxSduLen := 100
    stuffing := .stuffingOff }

/-- An end that is set up for them. -/
def smallEnd : TmTransferFrame := (osdlpTmInit default smallFrames).getD default

/-- A packet that fits into a frame, and one that takes two. -/
theorem roundTrip_two_packets :
    let packets : List (List UInt8) := [[4, 1, 2, 3], [9, 1, 2, 3, 4, 5, 6, 7, 8]]
    let s : TmSender := { tf := smallEnd, queue := [], answers := [] }
    let r : TmReceiver := { tf := smallEnd, delivered := [], answers := [] }
    ∃ s', transmitAll (lengthOctet 0) 0 s packets = some s' ∧
      ∀ n, ∃ s₁ r₁, transmitAll (lengthOctet 0) 0 s (packets.take n) = some s₁ ∧
        s₁.queue <+: s'.queue ∧ receiveAll (lengthOctet 0) 0 r s₁.queue = some r₁ ∧
        r₁.tf.mission.util.loopState = .loopClosed ∧
        List.Forall₂ (· <+: ·) (packets.take n) r₁.delivered :=
  roundTrip (a := smallFrames) (h := 1) (show osdlpTmInit default smallFrames = some smallEnd from rfl)
    (show osdlpTmInit default smallFrames = some smallEnd from rfl) rfl rfl (by decide) (by decide)
    (by decide) (by simp [Accepting]) (by simp [Accepting]) (lengthOctet_tells (by decide))
    (by decide) 0

end Osdlp.Analysis
