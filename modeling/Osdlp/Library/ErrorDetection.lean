import Osdlp.Library.ShiftRegister
import Mathlib.Algebra.BigOperators.Group.Finset.Basic
import Mathlib.Algebra.CharP.Two
import Mathlib.Algebra.Ring.Parity
import Mathlib.Algebra.Field.ZMod
import Mathlib.Logic.Function.Iterate

/-!
# Errors that leave a trace

An error pattern goes unnoticed by a cyclic code if it clears the shift register that checks it.  A
register whose generator has an even number of terms keeps the parity of what it is fed
(`parity_feed`), so that an odd number of errors leaves a trace.  Two errors do so as well as long
as their distance is not a period of the register (`feed_ne_zero_of_pair`).  Together that is every
pattern of at most three errors (`feed_ne_zero_of_few`).
-/

set_option autoImplicit false

namespace Osdlp.Library

variable {w : ℕ} {g : BitVec w}

/-! ## Parity -/

/-- The parity of the bits of a register. -/
def parity (c : BitVec w) : ZMod 2 := ∑ i ∈ Finset.range w, ((c.getLsbD i).toNat : ZMod 2)

theorem toNat_xor (a b : Bool) : (((a ^^ b).toNat : ℕ) : ZMod 2) = a.toNat + b.toNat := by
  cases a <;> cases b <;> decide

/-- The parity of a sum of two registers. -/
theorem parity_xor (c d : BitVec w) : parity (c ^^^ d) = parity c + parity d := by
  unfold parity
  rw [← Finset.sum_add_distrib]
  refine Finset.sum_congr rfl fun i _ => ?_
  rw [BitVec.getLsbD_xor, toNat_xor]

/-- What is shifted out is missing. -/
theorem parity_shiftLeft (c : BitVec w) : parity (c <<< 1) = parity c + (c.msb.toNat : ZMod 2) := by
  cases w with
  | zero => simp [parity, BitVec.of_length_zero]
  | succ n =>
    have hshifted : ∀ i ∈ Finset.range n, (((c <<< 1).getLsbD (i + 1)).toNat : ZMod 2) =
        (c.getLsbD i).toNat := by
      intro i hi
      have hlt := Finset.mem_range.mp hi
      rw [BitVec.getLsbD_shiftLeft]
      simp [hlt]
    have hmsb : c.msb = c.getLsbD n := by
      rw [BitVec.msb_eq_getLsbD_last, Nat.add_sub_cancel]
    unfold parity
    rw [Finset.sum_range_succ', Finset.sum_congr rfl hshifted, Finset.sum_range_succ, hmsb,
      add_assoc, CharTwo.add_self_eq_zero]
    simp

/-- A register whose generator has an even number of terms, the leading one included, counts the
ones that it is fed. -/
theorem parity_feedBit (hg : parity g = 1) (c : BitVec w) (b : Bool) :
    parity (feedBit g c b) = parity c + (b.toNat : ZMod 2) := by
  have hfed : parity (if c.msb ^^ b then g else 0#w) = ((c.msb ^^ b).toNat : ZMod 2) := by
    cases c.msb ^^ b with
    | true => simpa using hg
    | false => simp [parity]
  unfold feedBit
  rw [parity_xor, parity_shiftLeft, hfed, toNat_xor, add_assoc, ← add_assoc (c.msb.toNat : ZMod 2),
    CharTwo.add_self_eq_zero, zero_add]

/-- A generator of odd weight lets the parity of the register follow the ones of the message. -/
theorem parity_feed (hg : parity g = 1) (c : BitVec w) (bs : List Bool) :
    parity (feed g c bs) = parity c + (bs.count true : ZMod 2) := by
  induction bs generalizing c with
  | nil => simp
  | cons b bs ih =>
    rw [feed_cons, ih, parity_feedBit hg, List.count_cons, add_assoc]
    cases b <;> simp [add_comm]

/-- An odd number of errors leaves a trace. -/
theorem feed_ne_zero_of_odd (hg : parity g = 1) {bs : List Bool} (h : Odd (bs.count true)) :
    feed g 0#w bs ≠ 0#w := by
  intro hzero
  have hparity := parity_feed hg 0#w bs
  have hnone : parity (0#w) = 0 := by simp [parity]
  rw [hzero, hnone, zero_add, eq_comm, ZMod.natCast_eq_zero_iff_even] at hparity
  exact Nat.not_even_iff_odd.mpr h hparity

/-! ## Two errors -/

/-- The register after `n` zeros. -/
theorem feed_replicate_false (c : BitVec w) (n : ℕ) :
    feed g c (List.replicate n false) = (fun c => feedBit g c false)^[n] c := by
  induction n generalizing c with
  | zero => rfl
  | succ n ih => rw [List.replicate_succ, feed_cons, ih, Function.iterate_succ_apply]

/-- A one is a zero and the generator. -/
theorem feedBit_true (c : BitVec w) : feedBit g c true = feedBit g c false ^^^ g := by
  unfold feedBit
  cases c.msb with
  | false => simp
  | true =>
    show c <<< 1 ^^^ 0#w = c <<< 1 ^^^ g ^^^ g
    rw [BitVec.xor_assoc, BitVec.xor_self]

/-- A message with ones in it, split at the first of them. -/
theorem split_at_true {bs : List Bool} {n : ℕ} (h : bs.count true = n + 1) :
    ∃ k rest, bs = List.replicate k false ++ true :: rest ∧ rest.count true = n := by
  induction bs with
  | nil => simp at h
  | cons b bs ih =>
    cases b with
    | true => exact ⟨0, bs, rfl, by simpa using h⟩
    | false =>
      obtain ⟨k, rest, rfl, hrest⟩ := ih (by simpa using h)
      exact ⟨k + 1, rest, by simp [List.replicate_succ], hrest⟩

theorem eq_false_of_count_eq_zero {bs : List Bool} (h : bs.count true = 0) :
    ∀ b ∈ bs, b = false := by
  intro b hb
  by_contra hne
  rw [Bool.not_eq_false] at hne
  exact List.count_eq_zero.mp h (hne ▸ hb)

/-- Two errors leave a trace if no distance in the message brings the register back. -/
theorem feed_ne_zero_of_pair (hg : g.getLsbD 0 = true) {bs : List Bool} (h : bs.count true = 2)
    (hback : ∀ k, 0 < k → k < bs.length → (fun c => feedBit g c false)^[k] g ≠ g) :
    feed g 0#w bs ≠ 0#w := by
  obtain ⟨front, rest, rfl, hrest⟩ := split_at_true h
  obtain ⟨between, back, rfl, hback'⟩ := split_at_true hrest
  have hfirst : feedBit g 0#w true = g := by simp [feedBit]
  have hsecond : feed g g (List.replicate between false ++ [true]) =
      (fun c => feedBit g c false)^[between + 1] g ^^^ g := by
    rw [feed_append, feed_replicate_false, feed_cons, feed_nil, feedBit_true,
      Function.iterate_succ_apply']
  have hne : (fun c => feedBit g c false)^[between + 1] g ≠ g := by
    refine hback (between + 1) (Nat.succ_pos between) ?_
    simp only [List.length_append, List.length_replicate, List.length_cons]
    omega
  rw [feed_append, feed_zeros (by simp), feed_cons, hfirst, ← List.singleton_append (l := back),
    ← List.append_assoc, feed_append, hsecond]
  refine feed_zeros_ne_zero hg ?_ (eq_false_of_count_eq_zero hback')
  rwa [ne_eq, BitVec.xor_eq_zero_iff]

/-- One, two or three errors leave a trace. -/
theorem feed_ne_zero_of_few (hg : g.getLsbD 0 = true) (hparity : parity g = 1) {bs : List Bool}
    (hone : true ∈ bs) (hfew : bs.count true ≤ 3)
    (hback : ∀ k, 0 < k → k < bs.length → (fun c => feedBit g c false)^[k] g ≠ g) :
    feed g 0#w bs ≠ 0#w := by
  have hpos : 0 < bs.count true := List.count_pos_iff.mpr hone
  by_cases hpair : bs.count true = 2
  · exact feed_ne_zero_of_pair hg hpair hback
  · refine feed_ne_zero_of_odd hparity (Nat.odd_iff.mpr ?_)
    omega

/-! ## Periods of a register -/

/-- Whether the register comes to hold `a` within `n` zeros. -/
def comesBack (g a : BitVec w) : ℕ → BitVec w → Bool
  | 0, _ => false
  | n + 1, c => if feedBit g c false = a then true else comesBack g a n (feedBit g c false)

/-- If the search finds nothing, the register does not come back within its bound. -/
theorem iterate_ne_of_comesBack {a : BitVec w} {n : ℕ} {c : BitVec w}
    (h : comesBack g a n c = false) {k : ℕ} (hpos : 0 < k) (hk : k ≤ n) :
    (fun c => feedBit g c false)^[k] c ≠ a := by
  induction n generalizing c k with
  | zero => omega
  | succ n ih =>
    unfold comesBack at h
    split_ifs at h with hback
    cases k with
    | zero => omega
    | succ k =>
      rw [Function.iterate_succ_apply]
      rcases Nat.eq_zero_or_pos k with rfl | hk'
      · exact hback
      · exact ih h hk' (by omega)

end Osdlp.Library
