import Osdlp.Analysis.SppRoundTrip
import Osdlp.Analysis.TmMultiplexing

/-!
# Space packets over virtual channels

An application packs space packets, sends them on the virtual channels of a telemetry link, reads
their length off their header where `osdlp_tm_receive` asks for it, and unpacks what it is handed.
The primary header has the length in its last two octets, so that the first six octets tell it
(`sppPacketLen_tells`); every channel then hands over the headers and the data that were packed
(`packets_arrive`).
-/

set_option autoImplicit false

namespace Osdlp.Analysis

open Osdlp.Model Osdlp.Interface Osdlp.Library

/-- `osdlp_tm_get_packet_len` for space packets, by `osdlp_spp_unpack` without data. -/
def sppPacketLen : GetPacketLen := fun buf n =>
  let u := osdlpSppUnpack (some (sppUnpackHdr [])) (some buf) n none
  if u.ret < 0 then none else u.primHdr.map fun hdr => hdr.packetDataLen + 7

/-- The buffer that `osdlp_spp_pack` fills with a packet. -/
def packedBuffer (p : SpacePacket) : List UInt8 :=
  ((osdlpSppPack (some p.head) (some p.body) (some (List.replicate (encodedLen p.head) 0))
    (encodedLen p.head)).2).getD []

/-- The packer fills the buffer with the packet. -/
theorem packedBuffer_eq (p : SpacePacket) : packedBuffer p = packetOctets p := by
  unfold packedBuffer
  rw [(packsExactly p).writes _ _ le_rfl, List.drop_replicate, Nat.sub_self]
  simp

/-- Six octets of a packet have its header. -/
theorem sppUnpackHdr_of_prefix {p : SpacePacket} {buf : List UInt8} {n : ℕ}
    (hn : sppPrimHdrSize ≤ n) (h : (packetOctets p).take n <+: buf) : sppUnpackHdr buf = p.head := by
  obtain ⟨rest, rfl⟩ := h
  have hsize := length_sppHeaderOctets p.head
  have htake : (packetOctets p).take n =
      sppHeaderOctets p.head ++ p.body.take (n - sppPrimHdrSize) := by
    unfold packetOctets
    rw [List.take_append, List.take_of_length_le (by omega), hsize]
  rw [htake, List.append_assoc]
  exact sppUnpackHdr_header _ _

/-- The hook tells the length of a packet from its primary header.
SOURCE: osdlp_spp.c:65-98 -/
theorem sppPacketLen_tells (p : SpacePacket) :
    TellsLength sppPacketLen sppPrimHdrSize [packetOctets p] := by
  intro packet hmem buf n hn hprefix
  obtain rfl := List.mem_singleton.mp hmem
  have hhead := sppUnpackHdr_of_prefix hn hprefix
  obtain ⟨hunpack, -⟩ := osdlpSppUnpack_header (sppUnpackHdr []) buf hn
  have htotal : p.head.packetDataLen + 7 = UInt16.ofNat (packetOctets p).length := by
    have hocts := length_eq_encodedLen p
    unfold encodedLen at hocts
    apply UInt16.toNat_inj.mp
    rw [UInt16.toNat_add, UInt16.toNat_ofNat', hocts]
    show (_ + 7) % _ = _
    omega
  unfold sppPacketLen
  dsimp only
  rw [hunpack, hhead]
  exact congrArg some htotal

/-- A space packet or an idle frame is sent on a channel, or the first frame that is queued for it
goes over the link. -/
inductive SpaceLinkEvent
  | transmit (vcid : BitVec 3) (p : SpacePacket)
  | transmitIdleFdu (vcid : BitVec 3)
  | carry (vcid : BitVec 3)

/-- What the link sees of it. -/
def SpaceLinkEvent.onLink : SpaceLinkEvent → MultiplexedEvent
  | .transmit vcid p => .transmit vcid (packedBuffer p)
  | .transmitIdleFdu vcid => .transmitIdleFdu vcid
  | .carry vcid => .carry vcid

/-- The packet that an event sends on the channel. -/
def spacePacketOn (vcid : BitVec 3) : SpaceLinkEvent → Option SpacePacket
  | .transmit vcid' p => if vcid' = vcid then some p else none
  | .transmitIdleFdu _ | .carry _ => none

/-- The packet is not longer than what the receiver can hold. -/
def SpaceLinkEvent.Holdable (a : BitVec 3 → TmInitArgs) : SpaceLinkEvent → Prop
  | .transmit vcid p => encodedLen p.head ≤ (a vcid).maxSduLen.toNat
  | .transmitIdleFdu _ | .carry _ => True

/-- The buffer is unpacked to the packet. -/
def UnpacksTo (p : SpacePacket) (buf : List UInt8) : Prop :=
  ∀ hdr₀ ptr, let u := osdlpSppUnpack (some hdr₀) (some buf) buf.length (some ptr)
    u.ret = encodedLen p.head ∧ u.primHdr = some p.head ∧ handedData buf u = p.body

/-- A buffer that starts with the octets of a packet is unpacked to it.
SOURCE: osdlp_spp.c:65-98 -/
theorem unpacksTo_of_prefix {p : SpacePacket} {buf : List UInt8} (h : packetOctets p <+: buf) :
    UnpacksTo p buf := by
  obtain ⟨rest, rfl⟩ := h
  exact (packsExactly p).unpacks rest

variable {a : BitVec 3 → TmInitArgs} {fuel : ℕ}

/-- The hook reads the length field of the header. -/
theorem SpaceLinkEvent.Holdable.sendable {event : SpaceLinkEvent} (h : event.Holdable a) :
    Sendable sppPacketLen a sppPrimHdrSize event.onLink := by
  cases event with
  | transmit vcid p =>
    have hsdu : encodedLen p.head ≤ (a vcid).maxSduLen.toNat := h
    have hocts := length_eq_encodedLen p
    show _ ≤ (packedBuffer p).length ∧ (packedBuffer p).length ≤ _ ∧ TellsLength _ _ [packedBuffer p]
    rw [packedBuffer_eq, hocts]
    refine ⟨?_, hsdu, sppPacketLen_tells p⟩
    unfold encodedLen sppPrimHdrSize
    omega
  | transmitIdleFdu | carry => trivial

/-- The octets that are sent on a channel are those of its packets. -/
theorem filterMap_packetOn (vcid : BitVec 3) (events : List SpaceLinkEvent) :
    (events.map SpaceLinkEvent.onLink).filterMap (packetOn vcid) =
      (events.filterMap (spacePacketOn vcid)).map packetOctets := by
  have hone : ∀ event : SpaceLinkEvent,
      packetOn vcid event.onLink = (spacePacketOn vcid event).map packetOctets := by
    intro event
    cases event with
    | transmit vcid' p =>
      show (if vcid' = vcid then some (packedBuffer p) else none) =
        (if vcid' = vcid then some p else none).map packetOctets
      rw [packedBuffer_eq]
      split_ifs <;> rfl
    | transmitIdleFdu | carry => rfl
  rw [List.filterMap_map, List.map_filterMap]
  exact List.filterMap_congr fun event _ => hone event

/-- **Space packets arrive.**  Whatever space packets are packed and sent on the virtual channels, in
whatever order with idle frames and frames carried over the link, the buffers that a channel hands
over are unpacked to the headers and the data that were packed for it, in order and without a gap,
and to all of them once none of its frames is queued.
SOURCE: osdlp_spp.c:24-98; osdlp_tm.c:24-94, 306-502, 748-787 -/
theorem packets_arrive {tf₀ tf₁ tx rx : BitVec 3 → TmTransferFrame}
    {rxBuffer : BitVec 3 → List UInt8} (ha : Multiplexable a sppPrimHdrSize)
    (htx : ∀ vcid, osdlpTmInit (tf₀ vcid) (a vcid) = some (tx vcid))
    (hrx : ∀ vcid, osdlpTmInit (tf₁ vcid) { a vcid with utilBuffer := rxBuffer vcid } =
      some (rx vcid))
    {txAnswers rxAnswers : BitVec 3 → List Int} (htxAcc : ∀ vcid, Accepting (txAnswers vcid))
    (hrxAcc : ∀ vcid, Accepting (rxAnswers vcid)) (mcCount rxMcCount : UInt8)
    {events : List SpaceLinkEvent} (hevents : ∀ event ∈ events, event.Holdable a)
    (vcid : BitVec 3) :
    let s := run (multiplexedStep sppPacketLen fuel)
      { mcCount, rxMcCount
        senders := fun vcid => { tf := tx vcid, queue := [], answers := txAnswers vcid }
        receivers := fun vcid => { tf := rx vcid, delivered := [], answers := rxAnswers vcid } }
      (events.map SpaceLinkEvent.onLink)
    let delivered := (s.receivers vcid).delivered
    let sent := events.filterMap (spacePacketOn vcid)
    List.Forall₂ UnpacksTo (sent.take delivered.length) delivered ∧
      ((s.senders vcid).queue = [] → delivered.length = sent.length) := by
  intro s delivered sent
  have hstart := @allFlow_idle sppPacketLen fuel sppPrimHdrSize a tf₀ tf₁ tx rx rxBuffer ha htx hrx
    txAnswers rxAnswers htxAcc hrxAcc mcCount rxMcCount
  have hsendable : ∀ event ∈ events.map SpaceLinkEvent.onLink,
      Sendable sppPacketLen a sppPrimHdrSize event := by
    intro event hmem
    obtain ⟨event', hmem', rfl⟩ := List.mem_map.mp hmem
    exact (hevents event' hmem').sendable
  have hflows := allFlow_run (by decide) ha hsendable hstart vcid
  obtain ⟨hforall, hall⟩ := hflows.delivered (ha.off vcid)
  simp only [List.nil_append, filterMap_packetOn] at hforall hall
  refine ⟨?_, fun hempty => (hall hempty).trans (List.length_map _)⟩
  rw [← List.map_take, List.forall₂_map_left_iff] at hforall
  exact hforall.imp fun _ _ => unpacksTo_of_prefix

/-- A packet of telemetry with three octets of data. -/
def threeOctets (apid : BitVec 11) : SpacePacket :=
  { head :=
      { version := 0, isTc := 0, hasSecHdr := 0, apid := apid, seqFlag := 3, seqCount := 1
        packetDataLen := 2 }
    body := [7, 8, 9]
    length_body := rfl }

/-- Two packets, each longer than a frame, on two channels at once. -/
theorem packets_arrive_two_channels :
    let events : List SpaceLinkEvent :=
      [.transmit 1 (threeOctets 5), .carry 1, .transmit 2 (threeOctets 6), .carry 2, .carry 1, .carry 2]
    let s := run (multiplexedStep sppPacketLen 0)
      { mcCount := 3, rxMcCount := 0
        senders := fun vcid => { tf := smallChannel vcid, queue := [], answers := [] }
        receivers := fun vcid => { tf := smallChannel vcid, delivered := [], answers := [] } }
      (events.map SpaceLinkEvent.onLink)
    let delivered := (s.receivers 2).delivered
    let sent := events.filterMap (spacePacketOn 2)
    List.Forall₂ UnpacksTo (sent.take delivered.length) delivered ∧
      ((s.senders 2).queue = [] → delivered.length = sent.length) := by
  intro events
  have ha : Multiplexable smallChannels sppPrimHdrSize :=
    ⟨fun _ => rfl, fun _ => rfl, fun _ => rfl, fun _ => show (14 : ℕ) ≤ 2048 by decide,
      fun _ => show 8 + 6 ≤ 14 by decide⟩
  have hevents : ∀ event ∈ events, event.Holdable smallChannels := by
    intro event hmem
    simp only [events, List.mem_cons, List.not_mem_nil, or_false] at hmem
    obtain rfl | rfl | rfl | rfl | rfl | rfl := hmem
    · exact show 9 ≤ 100 by decide
    · trivial
    · exact show 9 ≤ 100 by decide
    all_goals trivial
  have hinit : ∀ vcid, osdlpTmInit default (smallChannels vcid) = some (smallChannel vcid) :=
    fun _ => rfl
  have hacc : ∀ _ : BitVec 3, Accepting [] := fun _ => by simp [Accepting]
  exact @packets_arrive smallChannels 0 (fun _ => default) (fun _ => default) _ _ (fun _ => []) ha
    hinit hinit _ _ hacc hacc 3 0 events hevents 2

end Osdlp.Analysis
