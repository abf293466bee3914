import Mathlib.Data.BitVec

/-!
# The communications link control word

`struct clcw_frame` and its codec (osdlp_clcw.h, osdlp_clcw.c).  A one-bit field is a
`Bool`, a wider bit field a `BitVec` of its width, so that storing into it truncates as
the C bit field does.
-/

set_option autoImplicit false

namespace Osdlp.Model

/-- The bit of a flag, as `flag & 0x01`. -/
def bit (b : Bool) : UInt8 := if b then 1 else 0

/-- SOURCE: osdlp_clcw.h:51-66 -/
structure ClcwFrame where
  ctrlWordType : Bool
  clcwVersionNum : BitVec 2
  statusField : BitVec 3
  copInEffect : BitVec 2
  vcid : BitVec 6
  rsvdSpare1 : BitVec 2
  rfAvail : Bool
  bitLock : Bool
  lockout : Bool
  wait : Bool
  rt : Bool
  farmBCounter : BitVec 2
  rsvdSpare2 : Bool
  reportValue : UInt8
  deriving DecidableEq, Repr, Inhabited

/-- SOURCE: osdlp_clcw.c:22-42 -/
def osdlpClcwPack (c : ClcwFrame) : List UInt8 :=
  [(bit c.ctrlWordType <<< 7) ||| (UInt8.ofNat c.clcwVersionNum.toNat <<< 5) |||
      (UInt8.ofNat c.statusField.toNat <<< 2) ||| UInt8.ofNat c.copInEffect.toNat,
   (UInt8.ofNat c.vcid.toNat <<< 2) ||| UInt8.ofNat c.rsvdSpare1.toNat,
   (bit c.rfAvail <<< 7) ||| (bit c.bitLock <<< 6) ||| (bit c.lockout <<< 5) |||
      (bit c.wait <<< 4) ||| (bit c.rt <<< 3) ||| (UInt8.ofNat c.farmBCounter.toNat <<< 1) |||
      bit c.rsvdSpare2,
   c.reportValue]

/-- SOURCE: osdlp_clcw.c:44-64 -/
def osdlpClcwUnpack (packet : List UInt8) : ClcwFrame :=
  let p0 := packet.getD 0 0
  let p1 := packet.getD 1 0
  let p2 := packet.getD 2 0
  { ctrlWordType := (p0 >>> 7) &&& 0x01 != 0
    clcwVersionNum := BitVec.ofNat 2 ((p0 >>> 5) &&& 0x03).toNat
    statusField := BitVec.ofNat 3 ((p0 >>> 2) &&& 0x07).toNat
    copInEffect := BitVec.ofNat 2 (p0 &&& 0x03).toNat
    vcid := BitVec.ofNat 6 ((p1 >>> 2) &&& 0x3f).toNat
    rsvdSpare1 := BitVec.ofNat 2 (p1 &&& 0x03).toNat
    rfAvail := (p2 >>> 7) &&& 0x01 != 0
    bitLock := (p2 >>> 6) &&& 0x01 != 0
    lockout := (p2 >>> 5) &&& 0x01 != 0
    wait := (p2 >>> 4) &&& 0x01 != 0
    rt := (p2 >>> 3) &&& 0x01 != 0
    farmBCounter := BitVec.ofNat 2 ((p2 >>> 1) &&& 0x03).toNat
    rsvdSpare2 := p2 &&& 0x01 != 0
    reportValue := packet.getD 3 0 }

/-- The fields in the first octet do not overlap. -/
theorem clcw_octet0 : ∀ (t : Bool) (v : BitVec 2) (s : BitVec 3) (c : BitVec 2),
    let p := (bit t <<< 7) ||| (UInt8.ofNat v.toNat <<< 5) ||| (UInt8.ofNat s.toNat <<< 2) |||
      UInt8.ofNat c.toNat
    ((p >>> 7) &&& 0x01 != 0) = t ∧ BitVec.ofNat 2 ((p >>> 5) &&& 0x03).toNat = v ∧
      BitVec.ofNat 3 ((p >>> 2) &&& 0x07).toNat = s ∧ BitVec.ofNat 2 (p &&& 0x03).toNat = c := by
  decide

/-- The spare bits and the virtual channel in the second octet do not overlap. -/
theorem clcw_octet1 : ∀ (v : BitVec 6) (r : BitVec 2),
    let p := (UInt8.ofNat v.toNat <<< 2) ||| UInt8.ofNat r.toNat
    BitVec.ofNat 6 ((p >>> 2) &&& 0x3f).toNat = v ∧ BitVec.ofNat 2 (p &&& 0x03).toNat = r := by
  decide +kernel

/-- The flags and the counter in the third octet do not overlap. -/
theorem clcw_octet2 : ∀ (rf bl lo wt rt : Bool) (fb : BitVec 2) (sp : Bool),
    let p := (bit rf <<< 7) ||| (bit bl <<< 6) ||| (bit lo <<< 5) ||| (bit wt <<< 4) |||
      (bit rt <<< 3) ||| (UInt8.ofNat fb.toNat <<< 1) ||| bit sp
    ((p >>> 7) &&& 0x01 != 0) = rf ∧ ((p >>> 6) &&& 0x01 != 0) = bl ∧
      ((p >>> 5) &&& 0x01 != 0) = lo ∧ ((p >>> 4) &&& 0x01 != 0) = wt ∧
      ((p >>> 3) &&& 0x01 != 0) = rt ∧ BitVec.ofNat 2 ((p >>> 1) &&& 0x03).toNat = fb ∧
      (p &&& 0x01 != 0) = sp := by
  decide +kernel

/-- Unpacking the four octets that packing wrote gives the control word back. -/
@[simp] theorem osdlpClcwUnpack_pack (c : ClcwFrame) :
    osdlpClcwUnpack (osdlpClcwPack c) = c := by
  obtain ⟨h1, h2, h3, h4⟩ := clcw_octet0 c.ctrlWordType c.clcwVersionNum c.statusField c.copInEffect
  obtain ⟨h5, h6⟩ := clcw_octet1 c.vcid c.rsvdSpare1
  obtain ⟨h7, h8, h9, h10, h11, h12, h13⟩ :=
    clcw_octet2 c.rfAvail c.bitLock c.lockout c.wait c.rt c.farmBCounter c.rsvdSpare2
  simp only [osdlpClcwUnpack, osdlpClcwPack, List.getD_cons_zero, List.getD_cons_succ, h1, h2, h3,
    h4, h5, h6, h7, h8, h9, h10, h11, h12, h13]

end Osdlp.Model
