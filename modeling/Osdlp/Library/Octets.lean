import Mathlib.Data.List.Basic
import Mathlib.Data.List.GetD
import Mathlib.Data.List.TakeDrop
import Mathlib.Data.UInt

/-!
# Octet buffers

A buffer is the list of its octets.  `octetAt` reads one octet and `memWrite` is `memcpy`
into a buffer, which grows with zeros where the copy starts behind its end.  `u16` is the
value a sixteen-bit variable takes from an integer expression.
-/

set_option autoImplicit false

namespace Osdlp.Library

/-- The value of an integer expression stored in sixteen bits. -/
def u16 (z : ℤ) : ℕ := (z % 65536).toNat

/-- The octet at an index; zero outside the buffer. -/
def octetAt (buf : List UInt8) (i : ℤ) : UInt8 := if 0 ≤ i then buf.getD i.toNat 0 else 0

/-- The buffer after `src` has been copied to offset `off`. -/
def memWrite (buf : List UInt8) (off : ℕ) (src : List UInt8) : List UInt8 :=
  buf.take off ++ List.replicate (off - buf.length) 0 ++ src ++ buf.drop (off + src.length)

theorem u16_of_lt {n : ℕ} (h : n < 65536) : u16 n = n := by
  unfold u16
  omega

/-- A copy to the end of a buffer appends. -/
theorem memWrite_length (buf src : List UInt8) : memWrite buf buf.length src = buf ++ src := by
  simp [memWrite]

/-- A copy to the front of a buffer. -/
theorem memWrite_zero (buf src : List UInt8) : memWrite buf 0 src = src ++ buf.drop src.length := by
  simp [memWrite]

theorem u16_lt (z : ℤ) : u16 z < 65536 := by
  unfold u16
  omega

/-- A copy beyond the end makes the buffer longer. -/
theorem length_memWrite (buf src : List UInt8) (off : ℕ) :
    (memWrite buf off src).length = max buf.length (off + src.length) := by
  simp only [memWrite, List.length_append, List.length_take, List.length_replicate,
    List.length_drop]
  omega

/-- What lies at an index after a copy. -/
theorem getD_memWrite (buf src : List UInt8) (off i : ℕ) :
    (memWrite buf off src).getD i 0 =
      if off ≤ i ∧ i < off + src.length then src.getD (i - off) 0 else buf.getD i 0 := by
  have hpre : (buf.take off ++ List.replicate (off - buf.length) (0 : UInt8)).length = off := by
    simp only [List.length_append, List.length_take, List.length_replicate]
    omega
  unfold memWrite
  rw [List.append_assoc]
  rcases Nat.lt_or_ge i off with hlt | hge
  · rw [if_neg (by omega), List.getD_append _ _ _ _ (by rw [hpre]; exact hlt)]
    rcases Nat.lt_or_ge i buf.length with hin | hout
    · rw [List.getD_append _ _ _ _ (by rw [List.length_take]; omega)]
      simp only [List.getD_eq_getElem?_getD, List.getElem?_take_of_lt hlt]
    · rw [List.getD_append_right _ _ _ _ (by rw [List.length_take]; omega)]
      simp only [List.getD_eq_getElem?_getD, List.getElem?_eq_none hout, List.getElem?_replicate,
        Option.getD_none]
      split_ifs <;> rfl
  · rw [List.getD_append_right _ _ _ _ (by rw [hpre]; exact hge), hpre]
    rcases Nat.lt_or_ge i (off + src.length) with hin | hout
    · rw [if_pos ⟨hge, hin⟩, List.getD_append _ _ _ _ (by omega)]
    · rw [if_neg (by omega), List.getD_append_right _ _ _ _ (by omega)]
      simp only [List.getD_eq_getElem?_getD, List.getElem?_drop]
      congr 2
      omega

/-- The number that two octets make up. -/
theorem toNat_join (hi lo : UInt8) :
    (hi.toUInt16 <<< 8 ||| lo.toUInt16).toNat = hi.toNat * 256 + lo.toNat := by
  have hlt := hi.toNat_lt
  have hshift : hi.toNat <<< ((8 : UInt16).toNat % 16) % 2 ^ 16 = 2 ^ 8 * hi.toNat := by
    show hi.toNat <<< 8 % 2 ^ 16 = _
    rw [Nat.shiftLeft_eq]
    omega
  rw [UInt16.toNat_or, UInt16.toNat_shiftLeft, UInt8.toNat_toUInt16, UInt8.toNat_toUInt16, hshift,
    ← Nat.two_pow_add_eq_or_of_lt lo.toNat_lt, Nat.mul_comm]

/-- Two octets are the number they were taken from. -/
theorem join_octets (crc : UInt16) :
    (UInt8.ofNat (crc.toNat / 256)).toUInt16 <<< 8 ||| (UInt8.ofNat crc.toNat).toUInt16 = crc := by
  have hlt := crc.toNat_lt
  refine UInt16.toNat_inj.mp ?_
  rw [toNat_join, UInt8.toNat_ofNat', UInt8.toNat_ofNat']
  omega

/-- The two octets of the number that they make up. -/
theorem octets_join (hi lo : UInt8) :
    UInt8.ofNat ((hi.toUInt16 <<< 8 ||| lo.toUInt16).toNat / 256) = hi ∧
      UInt8.ofNat (hi.toUInt16 <<< 8 ||| lo.toUInt16).toNat = lo := by
  have hhi := hi.toNat_lt
  have hlo := lo.toNat_lt
  rw [toNat_join]
  refine ⟨UInt8.toNat_inj.mp ?_, UInt8.toNat_inj.mp ?_⟩
  · rw [UInt8.toNat_ofNat']
    omega
  · rw [UInt8.toNat_ofNat']
    omega

/-- A mask of low bits. -/
theorem ofNat_and_mask (k : ℕ) (mask : UInt8) (hk : k ≤ 8) (hmask : mask.toNat = 2 ^ k - 1)
    (n : ℕ) : UInt8.ofNat n &&& mask = UInt8.ofNat (BitVec.ofNat k n).toNat := by
  have hle : 2 ^ k ≤ 2 ^ 8 := Nat.pow_le_pow_right (by decide) hk
  have hlt := Nat.mod_lt n (Nat.two_pow_pos k)
  apply UInt8.toNat_inj.mp
  rw [UInt8.toNat_and, hmask, Nat.and_two_pow_sub_one_eq_mod, UInt8.toNat_ofNat', UInt8.toNat_ofNat',
    BitVec.toNat_ofNat, Nat.mod_mod_of_dvd n (Nat.pow_dvd_pow 2 hk),
    Nat.mod_eq_of_lt (Nat.lt_of_lt_of_le hlt hle)]

/-! ## Regions -/

/-- The `n` octets from an index on; zeros outside the buffer. -/
def region (buf : List UInt8) (off n : ℕ) : List UInt8 :=
  (List.range n).map fun i => buf.getD (off + i) 0

@[simp] theorem region_zero (buf : List UInt8) (off : ℕ) : region buf off 0 = [] := rfl

@[simp] theorem length_region (buf : List UInt8) (off n : ℕ) : (region buf off n).length = n := by
  simp [region]

theorem getD_region (buf : List UInt8) (off n i : ℕ) (h : i < n) :
    (region buf off n).getD i 0 = buf.getD (off + i) 0 := by
  simp [region, List.getD_eq_getElem?_getD, h]

/-- Regions that agree octet by octet. -/
theorem region_congr {buf buf' : List UInt8} {off off' n : ℕ}
    (h : ∀ i, i < n → buf.getD (off + i) 0 = buf'.getD (off' + i) 0) :
    region buf off n = region buf' off' n := by
  refine List.map_congr_left fun i hi => h i (List.mem_range.mp hi)

theorem region_add (buf : List UInt8) (off n m : ℕ) :
    region buf off (n + m) = region buf off n ++ region buf (off + n) m := by
  simp [region, List.range_add, Nat.add_assoc]

/-- A list is the region of its own length. -/
@[simp] theorem region_self (buf : List UInt8) : region buf 0 buf.length = buf := by
  refine List.ext_getElem (by simp) fun i h _ => ?_
  have hi : i < buf.length := by simpa using h
  simp [region, List.getD_eq_getElem?_getD, hi]

/-- What a buffer starts with is a region. -/
theorem take_eq_region {buf : List UInt8} {n : ℕ} (h : n ≤ buf.length) :
    buf.take n = region buf 0 n := by
  refine List.ext_getElem (by simp [h]) fun i hi _ => ?_
  have hin : i < n := by
    rw [List.length_take] at hi
    omega
  have hbuf : i < buf.length := by omega
  simp [region, List.getD_eq_getElem?_getD, hbuf]

/-- A region inside the buffer. -/
theorem drop_take_eq_region {buf : List UInt8} {off n : ℕ} (h : off + n ≤ buf.length) :
    (buf.drop off).take n = region buf off n := by
  rw [take_eq_region (by rw [List.length_drop]; omega)]
  refine region_congr fun i _ => ?_
  rw [List.getD_eq_getElem?_getD, List.getElem?_drop, ← List.getD_eq_getElem?_getD, Nat.zero_add]

theorem region_all {buf : List UInt8} {n : ℕ} (h : buf.length = n) : region buf 0 n = buf := by
  rw [← take_eq_region (Nat.le_of_eq h.symm), ← h, List.take_length]

/-- A region of a region. -/
theorem region_region (buf : List UInt8) {off n off' n' : ℕ} (h : off' + n' ≤ n) :
    region (region buf off n) off' n' = region buf (off + off') n' := by
  refine region_congr fun i hi => ?_
  rw [getD_region _ _ _ _ (by omega), Nat.add_assoc]

/-- Buffers of one length that agree octet by octet. -/
theorem eq_of_getD {buf buf' : List UInt8} (hlen : buf.length = buf'.length)
    (h : ∀ i, buf.getD i 0 = buf'.getD i 0) : buf = buf' := by
  rw [← region_self buf, ← region_self buf', hlen]
  apply region_congr
  intro i _
  exact h (0 + i)

/-- Copies of the same octets agree where the buffers do, or where they are copied to. -/
theorem getD_ite_memWrite_congr {c : Prop} [Decidable c] {buf buf' src : List UInt8} {off i : ℕ}
    (h : ¬ (c ∧ off ≤ i ∧ i < off + src.length) → buf.getD i 0 = buf'.getD i 0) :
    (if c then memWrite buf off src else buf).getD i 0 =
      (if c then memWrite buf' off src else buf').getD i 0 := by
  split_ifs with hc
  · rw [getD_memWrite, getD_memWrite]
    split_ifs with hin
    · rfl
    · exact h fun hcopied => hin hcopied.2
  · exact h fun hcopied => hc hcopied.1

/-- A copy leaves alone what lies before and behind it. -/
theorem region_memWrite_of_disjoint {buf src : List UInt8} {off o n : ℕ}
    (h : o + n ≤ off ∨ off + src.length ≤ o) :
    region (memWrite buf off src) o n = region buf o n := by
  refine region_congr fun i hi => ?_
  rw [getD_memWrite, if_neg (by omega)]

/-- The same for a copy that is made only sometimes. -/
theorem region_ite_memWrite_of_disjoint {c : Prop} [Decidable c] {buf src : List UInt8}
    {off o n : ℕ} (h : c → o + n ≤ off ∨ off + src.length ≤ o) :
    region (if c then memWrite buf off src else buf) o n = region buf o n := by
  split_ifs with hc
  · exact region_memWrite_of_disjoint (h hc)
  · rfl

/-- A copy puts the source where it is copied to. -/
theorem region_memWrite_self (buf : List UInt8) {src : List UInt8} (off : ℕ) {n : ℕ}
    (h : src.length = n) : region (memWrite buf off src) off n = src := by
  subst h
  conv_rhs => rw [← region_self src]
  refine region_congr fun i hi => ?_
  rw [getD_memWrite, if_pos (by omega), Nat.add_sub_cancel_left, Nat.zero_add]

/-- A copy into a region leaves alone what the region holds before and behind it. -/
theorem region_memWrite_inside (buf src : List UInt8) {off n k : ℕ} (h : n + src.length ≤ k) :
    region (memWrite buf (off + n) src) off k =
      (region buf off k).take n ++ src ++ (region buf off k).drop (n + src.length) := by
  obtain ⟨rest, rfl⟩ := Nat.exists_eq_add_of_le h
  have hfront : (region buf off (n + src.length + rest)).take n = region buf off n := by
    rw [Nat.add_assoc, region_add]
    exact List.take_left' (length_region _ _ _)
  have hback : (region buf off (n + src.length + rest)).drop (n + src.length) =
      region buf (off + (n + src.length)) rest := by
    rw [region_add]
    exact List.drop_left' (length_region _ _ _)
  rw [hfront, hback, region_add, region_add, region_memWrite_of_disjoint (.inl (Nat.le_refl _)),
    region_memWrite_self _ _ rfl, region_memWrite_of_disjoint (.inr (by omega))]

/-- What lies in front of the end of a copy. -/
theorem take_memWrite {buf : List UInt8} (src : List UInt8) {off : ℕ} (h : off ≤ buf.length) :
    (memWrite buf off src).take (off + src.length) = buf.take off ++ src := by
  unfold memWrite
  rw [Nat.sub_eq_zero_of_le h, List.replicate_zero, List.append_nil]
  refine List.take_left' ?_
  rw [List.length_append, List.length_take_of_le h]

/-- A copy behind the first octets of a list continues them. -/
theorem take_memWrite_append {buf whole : List UInt8} {n u : ℕ} (hn : n + u ≤ whole.length)
    (h : buf.take n = whole.take n) :
    (memWrite buf n ((whole.drop n).take u)).take (n + u) = whole.take (n + u) := by
  have hbuf : n ≤ buf.length := by
    have hlen := congrArg List.length h
    rw [List.length_take, List.length_take] at hlen
    omega
  have hcopied : ((whole.drop n).take u).length = u :=
    List.length_take_of_le (by rw [List.length_drop]; omega)
  have htake := take_memWrite ((whole.drop n).take u) hbuf
  rw [hcopied] at htake
  rw [htake, h, ← List.take_add]

end Osdlp.Library
