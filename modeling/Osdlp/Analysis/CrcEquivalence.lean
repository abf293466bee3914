import Osdlp.Interface.CrcRegister

/-!
# The checksum as CRC-16/CCITT-FALSE

The loop over the table computes, for a message of any length, what the shift register of
`x^16 + x^12 + x^5 + 1` holds after its bits, and a message with its own checksum behind it leaves
nothing (`osdlpCalcCrc_ccittFalse`).
-/

set_option autoImplicit false

namespace Osdlp.Analysis

open Osdlp.Model Osdlp.Interface Osdlp.Library

/-- CRC-16/CCITT-FALSE: the bits of the message, the most significant one of an octet first, go into
a register of ones; what it holds then is the checksum. -/
def ccittFalse (message : List UInt8) : UInt16 :=
  UInt16.ofBitVec (feed crcGenerator 0xffff#16 (bits message))

/-- The value that this checksum is known by: that of the digits from one to nine. -/
example : ccittFalse [0x31, 0x32, 0x33, 0x34, 0x35, 0x36, 0x37, 0x38, 0x39] = 0x29b1 := by
  decide +kernel

/-- A message followed by its checksum, the high octet first. -/
def withCrc (message : List UInt8) : List UInt8 :=
  let crc := osdlpCalcCrc message message.length
  message ++ [UInt8.ofNat (crc.toNat / 256), UInt8.ofNat crc.toNat]

/-- The table gives what the register gives. -/
theorem osdlpCalcCrc_all (message : List UInt8) :
    osdlpCalcCrc message message.length = ccittFalse message := by
  apply UInt16.toBitVec_inj.mp
  rw [osdlpCalcCrc_register, List.take_length]
  rfl

/-- A message with its checksum behind it leaves nothing in the register. -/
theorem ccittFalse_withCrc (message : List UInt8) : ccittFalse (withCrc message) = 0 := by
  have hregister := osdlpCalcCrc_register message message.length
  rw [List.take_length] at hregister
  apply UInt16.toBitVec_inj.mp
  show feed crcGenerator 0xffff#16 (bits (withCrc message)) = 0#16
  unfold withCrc
  rw [bits_append, feed_append, ← hregister, bits_cons, bits_cons, bits_nil, List.append_nil,
    feed_octets_eq_zero_iff]
  exact (join_octets _).symm

/-- **The table-driven checksum is CRC-16/CCITT-FALSE**, for a message of any length, and a message
followed by its own checksum has the checksum zero.  SOURCE: osdlp_crc.c:23-66 -/
theorem osdlpCalcCrc_ccittFalse (message : List UInt8) :
    osdlpCalcCrc message message.length = ccittFalse message ∧
      osdlpCalcCrc (withCrc message) (withCrc message).length = 0 := by
  refine ⟨osdlpCalcCrc_all message, ?_⟩
  rw [osdlpCalcCrc_all]
  exact ccittFalse_withCrc message

end Osdlp.Analysis
