import Osdlp.Interface.SppCodec

/-!
# Space packets there and back

Packing and unpacking are inverse, and each consumes or writes exactly the octets of a packet
(`spp_inverse`): what is packed is unpacked to the same header and data, whatever lies behind it, and
what is unpacked is packed to the octets that it was unpacked from.
-/

set_option autoImplicit false

namespace Osdlp.Analysis

open Osdlp.Model Osdlp.Interface Osdlp.Library

/-- The number of octets of a packet with this header. -/
def encodedLen (hdr : SppPrimHdr) : ℕ := 7 + hdr.packetDataLen.toNat

/-- The octets that the caller finds behind the pointer. -/
def handedData (buf : List UInt8) (u : SppUnpacked) : List UInt8 :=
  match u.primHdr, u.outPackData with
  | some hdr, some (some ptr) => region buf ptr (hdr.packetDataLen.toNat + 1)
  | _, _ => []

/-- Packing the packet succeeds exactly if the buffer has room for it, and then writes its octets
and nothing else; unpacking them gives the packet back. -/
structure PacksExactly (p : SpacePacket) : Prop where
  length : (packetOctets p).length = encodedLen p.head
  succeeds : ∀ out bufSize,
    0 ≤ (osdlpSppPack (some p.head) (some p.body) (some out) bufSize).1 ↔
      encodedLen p.head ≤ bufSize
  writes : ∀ out bufSize, encodedLen p.head ≤ bufSize →
    osdlpSppPack (some p.head) (some p.body) (some out) bufSize =
      ((encodedLen p.head : ℤ), some (packetOctets p ++ out.drop (encodedLen p.head)))
  unpacks : ∀ (rest : List UInt8) hdr₀ ptr,
    let buf := packetOctets p ++ rest
    let u := osdlpSppUnpack (some hdr₀) (some buf) buf.length (some ptr)
    u.ret = encodedLen p.head ∧ u.primHdr = some p.head ∧ handedData buf u = p.body

/-- Unpacking the buffer succeeds exactly if it has a header and what the header announces, and
packing the result writes what was consumed. -/
structure UnpacksExactly (buf : List UInt8) : Prop where
  succeeds : ∀ hdr₀ ptr, 0 ≤ (osdlpSppUnpack (some hdr₀) (some buf) buf.length (some ptr)).ret ↔
    6 ≤ buf.length ∧ encodedLen (sppUnpackHdr buf) ≤ buf.length
  repacks : ∀ hdr₀ ptr,
    let u := osdlpSppUnpack (some hdr₀) (some buf) buf.length (some ptr)
    0 ≤ u.ret → u.ret ≤ buf.length ∧ ∀ (out : List UInt8) (bufSize : ℕ), u.ret ≤ bufSize →
      osdlpSppPack u.primHdr (some (handedData buf u)) (some out) bufSize =
        (u.ret, some (buf.take u.ret.toNat ++ out.drop u.ret.toNat))

/-- Without data, the first six octets are packed and unpacked as with them. -/
structure HeadersExact : Prop where
  packs : ∀ hdr (out : List UInt8) bufSize,
    (0 ≤ (osdlpSppPack (some hdr) none (some out) bufSize).1 ↔ 6 ≤ bufSize) ∧
      (6 ≤ bufSize → osdlpSppPack (some hdr) none (some out) bufSize =
        (6, some (sppHeaderOctets hdr ++ out.drop 6)))
  prefixes : ∀ p : SpacePacket, (packetOctets p).take 6 = sppHeaderOctets p.head
  unpacks : ∀ buf hdr₀,
    let u := osdlpSppUnpack (some hdr₀) (some buf) buf.length none
    (0 ≤ u.ret ↔ 6 ≤ buf.length) ∧ (6 ≤ buf.length → u.ret = 6 ∧
      (∀ ptr, u.primHdr =
        (osdlpSppUnpack (some hdr₀) (some buf) buf.length (some ptr)).primHdr) ∧
      ∀ (out : List UInt8) (bufSize : ℕ), 6 ≤ bufSize →
        osdlpSppPack u.primHdr none (some out) bufSize = (6, some (buf.take 6 ++ out.drop 6)))

/-- The length field tells how long the packet is. -/
theorem length_eq_encodedLen (p : SpacePacket) : (packetOctets p).length = encodedLen p.head := by
  rw [length_packetOctets]
  unfold announced encodedLen sppPrimHdrSize
  omega

/-- One property for all packets: what is written is the packet. -/
theorem packsExactly (p : SpacePacket) : PacksExactly p := by
  have hlen := length_eq_encodedLen p
  have hwrites : ∀ out bufSize, encodedLen p.head ≤ bufSize →
      osdlpSppPack (some p.head) (some p.body) (some out) bufSize =
        ((encodedLen p.head : ℤ), some (packetOctets p ++ out.drop (encodedLen p.head))) := by
    intro out bufSize hroom
    rw [← hlen] at hroom ⊢
    exact osdlpSppPack_packet p out hroom
  refine ⟨hlen, ?_, hwrites, ?_⟩
  · intro out bufSize
    constructor
    · intro hok
      by_contra hsmall
      rw [← hlen, length_packetOctets] at hsmall
      have hfail := osdlpSppPack_small p.head (some p.body) out (Nat.lt_of_not_le hsmall)
      omega
    · intro hroom
      rw [hwrites out bufSize hroom]
      exact Int.natCast_nonneg _
  · intro rest hdr₀ ptr
    have hunpack := osdlpSppUnpack_packet (sppCode.decode_encode p rest) hdr₀ ptr
    rw [encode_sppCode] at hunpack
    dsimp only
    rw [hunpack]
    refine ⟨congrArg Nat.cast hlen, rfl, ?_⟩
    show region (packetOctets p ++ rest) sppPrimHdrSize (announced p.head) = p.body
    rw [← drop_take_eq_region (by rw [List.length_append, length_packetOctets]; omega),
      packetOctets, List.append_assoc, List.drop_left' (length_sppHeaderOctets _),
      List.take_left' p.length_body]

/-- The same for all buffers: what is read is what the buffer holds. -/
theorem unpacksExactly (buf : List UInt8) : UnpacksExactly buf := by
  cases hdecode : sppCode.decode buf with
  | none =>
    have hrefused := osdlpSppUnpack_refused hdecode
    refine ⟨fun hdr₀ ptr => ?_, fun hdr₀ ptr hok => ?_⟩
    · rw [hrefused]
      refine ⟨fun h => absurd h (by decide), ?_⟩
      rintro ⟨hheader, hdata⟩
      have hsome := (sppHeaderCode.isSome_decode_counted announced
        (decode_sppHeaderCode hheader)).mpr (by
          rw [List.length_drop]
          unfold announced encodedLen at *
          unfold sppPrimHdrSize
          omega)
      rw [show (sppHeaderCode.counted announced).decode buf = none from hdecode] at hsome
      exact absurd hsome (by decide)
    · have := hrefused hdr₀ ptr
      omega
  | some read =>
    obtain ⟨p, rest⟩ := read
    obtain rfl : buf = packetOctets p ++ rest := sppCode.encode_decode hdecode
    have hexact := packsExactly p
    have hhead : sppUnpackHdr (packetOctets p ++ rest) = p.head := by
      rw [packetOctets, List.append_assoc]
      exact sppUnpackHdr_header _ _
    have hlen : (packetOctets p ++ rest).length = encodedLen p.head + rest.length := by
      rw [List.length_append, hexact.length]
    refine ⟨fun hdr₀ ptr => ?_, fun hdr₀ ptr _ => ?_⟩
    · obtain ⟨hret, -, -⟩ := hexact.unpacks rest hdr₀ ptr
      rw [hret, hhead, hlen]
      unfold encodedLen
      omega
    · obtain ⟨hret, hhdr, hdata⟩ := hexact.unpacks rest hdr₀ ptr
      rw [hret, hhdr, hdata, hlen]
      refine ⟨by omega, fun out bufSize hroom => ?_⟩
      rw [hexact.writes out bufSize (by omega), Int.toNat_natCast, List.take_left' hexact.length]

/-- Headers alone, in both directions. -/
theorem headersExact : HeadersExact := by
  have hpacks : ∀ hdr (out : List UInt8) bufSize, 6 ≤ bufSize →
      osdlpSppPack (some hdr) none (some out) bufSize =
        (6, some (sppHeaderOctets hdr ++ out.drop 6)) :=
    fun hdr out _ => osdlpSppPack_header hdr out
  refine ⟨fun hdr out bufSize => ⟨⟨fun hok => ?_, fun hroom => ?_⟩, hpacks hdr out bufSize⟩,
    fun p => List.take_left' (length_sppHeaderOctets _), fun buf hdr₀ => ⟨⟨fun hok => ?_, ?_⟩, ?_⟩⟩
  · by_contra hsmall
    have hfail := osdlpSppPack_small hdr none out (Nat.lt_of_not_le hsmall)
    omega
  · rw [hpacks hdr out bufSize hroom]
    exact Int.zero_le_ofNat 6
  · by_contra hshort
    have hfail := osdlpSppUnpack_short hdr₀ buf none (Nat.lt_of_not_le hshort)
    omega
  · intro hlong
    rw [(osdlpSppUnpack_header hdr₀ buf hlong).1]
    exact Int.natCast_nonneg _
  · intro hlong
    obtain ⟨halone, hwith⟩ := osdlpSppUnpack_header hdr₀ buf hlong
    rw [halone]
    refine ⟨rfl, fun ptr => (hwith ptr).symm, fun out bufSize hroom => ?_⟩
    have htake : sppHeaderOctets (sppUnpackHdr buf) = buf.take 6 := by
      have hdecode := sppHeaderCode.encode_decode (decode_sppHeaderCode hlong)
      conv_rhs => rw [hdecode]
      exact (List.take_left' (length_sppHeaderOctets _)).symm
    rw [hpacks _ out bufSize hroom, htake]

/-- **Packing and unpacking space packets are inverse and length-exact**, in both directions, with
and without data.  SOURCE: osdlp_spp.c:24-98 -/
theorem spp_inverse :
    (∀ p : SpacePacket, PacksExactly p) ∧ (∀ buf : List UInt8, UnpacksExactly buf) ∧
      HeadersExact :=
  ⟨packsExactly, unpacksExactly, headersExact⟩

end Osdlp.Analysis
