import Osdlp.Library.ShiftRegister
import Osdlp.Model.Tm

/-!
# The checksum as a shift register

The table of osdlp_crc.c is a shift register of sixteen bits that takes eight bits at once
(`crcStep_register`).  So the two octets of a checksum clear the register that it was computed in,
and whether a frame passes the check is whether it clears the register as a whole
(`crcMatches_iff_clear`).
-/

set_option autoImplicit false

namespace Osdlp.Interface

open Osdlp.Model Osdlp.Library

/-! ## Octets as bits -/

/-- The bits of an octet, the most significant one first. -/
def octetBits (x : UInt8) : List Bool := (List.range 8).map fun i => x.toBitVec.getMsbD i

/-- The bits of a buffer in the order of transmission. -/
def bits (buf : List UInt8) : List Bool := buf.flatMap octetBits

@[simp] theorem bits_nil : bits [] = [] := rfl

@[simp] theorem bits_cons (x : UInt8) (buf : List UInt8) :
    bits (x :: buf) = octetBits x ++ bits buf := rfl

theorem bits_append (buf buf' : List UInt8) : bits (buf ++ buf') = bits buf ++ bits buf' := by
  simp [bits]

@[simp] theorem length_octetBits (x : UInt8) : (octetBits x).length = 8 := by simp [octetBits]

/-- Every octet gives eight bits. -/
theorem length_bits (buf : List UInt8) : (bits buf).length = 8 * buf.length := by
  induction buf with
  | nil => rfl
  | cons x buf ih =>
    rw [bits_cons, List.length_append, ih, length_octetBits, List.length_cons]
    omega

theorem octetBits_xor (x y : UInt8) :
    octetBits (x ^^^ y) = List.zipWith Bool.xor (octetBits x) (octetBits y) := by
  simp [octetBits, List.zipWith_map]

/-- The bits of a buffer with errors are its bits with the errors' bits. -/
theorem bits_xor {buf e : List UInt8} (h : buf.length = e.length) :
    bits (List.zipWith (· ^^^ ·) buf e) = List.zipWith Bool.xor (bits buf) (bits e) := by
  induction buf generalizing e with
  | nil =>
    rw [List.length_eq_zero_iff.mp h.symm]
    rfl
  | cons x buf ih =>
    cases e with
    | nil => simp at h
    | cons y e =>
      rw [List.zipWith_cons_cons, bits_cons, bits_cons, bits_cons, octetBits_xor,
        ih (by simpa using h), List.zipWith_append (by simp)]

/-! ## The table -/

/-- The coefficients of `x^16 + x^12 + x^5 + 1` below the leading one. -/
def crcGenerator : BitVec 16 := 0x1021

/-- An entry of the table is what eight bits leave in an empty register. -/
theorem crcTable_register : ∀ x : BitVec 8,
    (crcTable.getD x.toNat 0).toBitVec = feed crcGenerator 0#16 (octetBits (UInt8.ofBitVec x)) := by
  decide +kernel

/-- The upper half of the register is cleared by its own bits. -/
theorem feed_high : ∀ x : BitVec 8,
    feed crcGenerator (x.setWidth 16 <<< 8) (octetBits (UInt8.ofBitVec x)) = 0#16 := by
  decide +kernel

/-- The lower half is not fed back within eight bits. -/
theorem feed_low : ∀ x : BitVec 8,
    feed crcGenerator (x.setWidth 16) (octetBits 0) = x.setWidth 16 <<< 8 := by
  decide +kernel

/-- The two halves of a register. -/
theorem split_halves (c : BitVec 16) :
    c = ((c >>> 8).setWidth 8).setWidth 16 <<< 8 ^^^ (c.setWidth 8).setWidth 16 := by
  ext i hi
  simp
  grind

/-- The index into the table as a sum of octets. -/
theorem tableIndex (c : UInt16) (x : UInt8) :
    (((c >>> 8) ^^^ x.toUInt16) &&& 0xff).toNat =
      ((c.toBitVec >>> 8).setWidth 8 ^^^ x.toBitVec).toNat := by
  have hlt := c.toNat_lt
  have hshift : c.toNat >>> 8 % 256 = c.toNat >>> 8 := by
    rw [Nat.shiftRight_eq_div_pow]
    omega
  have hxor : c.toNat >>> 8 ^^^ x.toNat < 2 ^ 8 := by
    refine Nat.xor_lt_two_pow ?_ x.toNat_lt
    rw [Nat.shiftRight_eq_div_pow]
    omega
  simp only [UInt16.toNat_and, UInt16.toNat_xor, UInt16.toNat_shiftRight, UInt8.toNat_toUInt16,
    BitVec.toNat_xor, BitVec.toNat_setWidth, BitVec.toNat_ushiftRight, UInt16.toNat_toBitVec,
    UInt8.toNat_toBitVec]
  show (c.toNat >>> 8 ^^^ x.toNat) &&& (2 ^ 8 - 1) = c.toNat >>> 8 % 256 ^^^ x.toNat
  rw [Nat.and_two_pow_sub_one_eq_mod, Nat.mod_eq_of_lt hxor, hshift]

/-- One octet into the checksum is eight bits into the register.
SOURCE: osdlp_crc.c:58-66 -/
theorem crcStep_register (c : UInt16) (x : UInt8) :
    (crcStep c x).toBitVec = feed crcGenerator c.toBitVec (octetBits x) := by
  let hi : BitVec 8 := (c.toBitVec >>> 8).setWidth 8
  let lo : BitVec 8 := c.toBitVec.setWidth 8
  let z : BitVec 8 := hi ^^^ x.toBitVec
  have hbits : octetBits x = List.zipWith Bool.xor (octetBits (UInt8.ofBitVec hi))
      (List.zipWith Bool.xor (octetBits (UInt8.ofBitVec z)) (octetBits 0)) := by
    rw [← octetBits_xor, ← octetBits_xor]
    congr 1
    refine UInt8.toBitVec_inj.mp ?_
    show x.toBitVec = hi ^^^ (hi ^^^ x.toBitVec ^^^ 0#8)
    rw [BitVec.xor_zero, ← BitVec.xor_assoc, BitVec.xor_self, BitVec.zero_xor]
  have hlow : lo.setWidth 16 <<< 8 = c.toBitVec <<< 8 := by
    ext i hi
    simp [lo]
    grind
  have hfed : feed crcGenerator c.toBitVec (octetBits x) =
      (crcTable.getD z.toNat 0).toBitVec ^^^ c.toBitVec <<< 8 := by
    calc feed crcGenerator c.toBitVec (octetBits x)
        = feed crcGenerator (hi.setWidth 16 <<< 8 ^^^ (0#16 ^^^ lo.setWidth 16)) (octetBits x) := by
          rw [BitVec.zero_xor]
          exact congrArg (feed crcGenerator · _) (split_halves c.toBitVec)
      _ = feed crcGenerator (hi.setWidth 16 <<< 8) (octetBits (UInt8.ofBitVec hi)) ^^^
            (feed crcGenerator 0#16 (octetBits (UInt8.ofBitVec z)) ^^^
              feed crcGenerator (lo.setWidth 16) (octetBits 0)) := by
          rw [hbits, feed_xor _ (by simp), feed_xor _ (by simp)]
      _ = _ := by rw [feed_high, feed_low, ← crcTable_register, hlow, BitVec.zero_xor]
  rw [hfed]
  unfold crcStep
  rw [tableIndex, UInt16.toBitVec_xor, UInt16.toBitVec_shiftLeft]
  rfl

/-- SOURCE: osdlp_crc.c:58-66 -/
theorem osdlpCalcCrc_register (data : List UInt8) (length : ℕ) :
    (osdlpCalcCrc data length).toBitVec = feed crcGenerator 0xffff#16 (bits (data.take length)) := by
  have hfold : ∀ (buf : List UInt8) (c : UInt16),
      (buf.foldl crcStep c).toBitVec = feed crcGenerator c.toBitVec (bits buf) := by
    intro buf
    induction buf with
    | nil => exact fun c => rfl
    | cons x buf ih =>
      intro c
      rw [List.foldl_cons, ih, crcStep_register, bits_cons, feed_append]
  exact hfold _ _

/-! ## The checksum of a frame -/

/-- The bits of an octet from its most significant one on. -/
theorem getD_octetBits (x : UInt8) (i : ℕ) : (octetBits x).getD i false = x.toBitVec.getMsbD i := by
  rcases Nat.lt_or_ge i 8 with hlt | hge
  · simp [octetBits, List.getD_eq_getElem?_getD, hlt]
  · rw [List.getD_eq_default _ _ (by rw [length_octetBits]; exact hge), BitVec.getMsbD_of_ge _ _ hge]

/-- Two octets clear the register exactly if it holds what they say. -/
theorem feed_octets_eq_zero_iff (c : UInt16) (x y : UInt8) :
    feed crcGenerator c.toBitVec (octetBits x ++ octetBits y) = 0#16 ↔
      c = x.toUInt16 <<< 8 ||| y.toUInt16 := by
  have hheld : ∀ i, (x.toUInt16 <<< 8 ||| y.toUInt16).toBitVec.getMsbD i =
      (octetBits x ++ octetBits y).getD i false := by
    intro i
    have hjoin : (x.toUInt16 <<< 8 ||| y.toUInt16).toBitVec =
        x.toBitVec.setWidth 16 <<< 8 ||| y.toBitVec.setWidth 16 := rfl
    rw [hjoin, BitVec.getMsbD_or, BitVec.getMsbD_shiftLeft, BitVec.getMsbD_setWidth,
      BitVec.getMsbD_setWidth, show i + 8 + 8 - 16 = i by omega, show i + 8 - 16 = i - 8 by omega]
    rcases Nat.lt_or_ge i 8 with hlt | hge
    · rw [List.getD_append _ _ _ _ (by rw [length_octetBits]; exact hlt), getD_octetBits]
      simp
      omega
    · rw [List.getD_append_right _ _ _ _ (by rw [length_octetBits]; exact hge), getD_octetBits,
        length_octetBits, BitVec.getMsbD_of_ge x.toBitVec i hge]
      simp [hge]
  rw [feed_eq_zero_iff (by decide) (by simp), ← UInt16.toBitVec_inj]
  constructor
  · exact fun h => BitVec.eq_of_getMsbD_eq fun i _ => (h i).trans (hheld i).symm
  · rintro h i
    rw [h, hheld]

/-- The checksum over all but the last two octets is the one in the last two exactly if the whole
frame clears the register.
SOURCE: osdlp_tm.c:184-185, 756-758 -/
theorem crcMatches_iff_clear {frame : List UInt8} {n : ℕ} (hn : 2 ≤ n) (hlen : frame.length = n) :
    osdlpCalcCrc frame (n - 2) = tmTrailerCrc n frame ↔
      feed crcGenerator 0xffff#16 (bits frame) = 0#16 := by
  have hlast : frame.drop (n - 2) = [frame.getD (n - 2) 0, frame.getD (n - 1) 0] := by
    rw [List.drop_eq_getElem_cons (by omega), List.drop_eq_getElem_cons (by omega),
      List.drop_eq_nil_of_le (by omega), List.getD_eq_getElem _ _ (by omega),
      List.getD_eq_getElem _ _ (by omega)]
    congr 3
    omega
  have hsplit : bits frame = bits (frame.take (n - 2)) ++
      (octetBits (frame.getD (n - 2) 0) ++ octetBits (frame.getD (n - 1) 0)) := by
    conv_lhs => rw [← List.take_append_drop (n - 2) frame, hlast]
    rw [bits_append, bits_cons, bits_cons, bits_nil, List.append_nil]
  rw [hsplit, feed_append, ← osdlpCalcCrc_register, feed_octets_eq_zero_iff]
  rfl

end Osdlp.Interface
