import Mathlib.Data.List.Basic
import Mathlib.Data.List.GetD

/-!
# Linear feedback shift registers

A register of `w` bits takes a message bit by bit, the most significant end first; `g` holds the
coefficients of the generator below its leading one.  The register is linear in itself and the
message (`feed_xor`).  If the generator has a constant term, then at most `w` bits clear the
register exactly if they are what it holds (`feed_eq_zero_iff`), so that no burst of at most `w`
bits goes unnoticed (`feed_ne_zero_of_burst`).
-/

set_option autoImplicit false

namespace Osdlp.Library

variable {w : ℕ} (g : BitVec w)

/-- One bit into the register. -/
def feedBit (c : BitVec w) (b : Bool) : BitVec w := c <<< 1 ^^^ if c.msb ^^ b then g else 0#w

/-- A message into the register. -/
def feed (c : BitVec w) (bs : List Bool) : BitVec w := bs.foldl (feedBit g) c

@[simp] theorem feed_nil (c : BitVec w) : feed g c [] = c := rfl

@[simp] theorem feed_cons (c : BitVec w) (b : Bool) (bs : List Bool) :
    feed g c (b :: bs) = feed g (feedBit g c b) bs := rfl

theorem feed_append (c : BitVec w) (bs es : List Bool) :
    feed g c (bs ++ es) = feed g (feed g c bs) es := List.foldl_append

/-! ## Linearity -/

/-- Linearity for one bit: the generator enters for both sums or for neither. -/
theorem feedBit_xor (c d : BitVec w) (b e : Bool) :
    feedBit g (c ^^^ d) (b ^^ e) = feedBit g c b ^^^ feedBit g d e := by
  have hg : ∀ x y : BitVec w, x ^^^ g ^^^ (y ^^^ g) = x ^^^ y := by
    intro x y
    rw [BitVec.xor_comm y g, BitVec.xor_assoc, ← BitVec.xor_assoc g g y, BitVec.xor_self,
      BitVec.zero_xor]
  unfold feedBit
  rw [BitVec.shiftLeft_xor_distrib, BitVec.msb_xor]
  cases c.msb <;> cases d.msb <;> cases b <;> cases e <;> simp [hg] <;> ac_rfl

/-- The register is linear in what it holds and what it is fed. -/
theorem feed_xor {bs es : List Bool} (h : bs.length = es.length) (c d : BitVec w) :
    feed g (c ^^^ d) (List.zipWith Bool.xor bs es) = feed g c bs ^^^ feed g d es := by
  induction bs generalizing es c d with
  | nil =>
    rw [List.length_eq_zero_iff.mp h.symm]
    rfl
  | cons b bs ih =>
    cases es with
    | nil => simp at h
    | cons e es =>
      rw [List.zipWith_cons_cons, feed_cons, feed_cons, feed_cons, ← ih (by simpa using h),
        ← feedBit_xor]

/-! ## What clears the register -/

variable {g}

theorem feedBit_of_msb {c : BitVec w} {b : Bool} (h : c.msb = b) : feedBit g c b = c <<< 1 := by
  unfold feedBit
  simp [h]

/-- The constant term of the generator shows in the lowest bit whether it came in. -/
theorem msb_of_feedBit (hg : g.getLsbD 0 = true) {c : BitVec w} {b : Bool}
    (h : (feedBit g c b).getLsbD 0 = false) : c.msb = b := by
  have hw : 0 < w := BitVec.lt_of_getLsbD hg
  unfold feedBit at h
  rw [BitVec.getLsbD_xor] at h
  cases hc : c.msb <;> cases b <;> simp_all

/-- At most `w` bits clear the register exactly if they are what it holds, from its most
significant end on. -/
theorem feed_eq_zero_iff (hg : g.getLsbD 0 = true) {c : BitVec w} {bs : List Bool}
    (h : bs.length ≤ w) : feed g c bs = 0#w ↔ ∀ i, c.getMsbD i = bs.getD i false := by
  induction bs generalizing c with
  | nil =>
    refine ⟨?_, fun hc => BitVec.eq_of_getMsbD_eq fun i _ => ?_⟩
    · rintro rfl
      simp
    · simpa using hc i
  | cons b bs ih =>
    rw [List.length_cons] at h
    rw [feed_cons, ih (by omega)]
    constructor
    · intro hfed
      have hmsb : c.msb = b := by
        refine msb_of_feedBit hg ?_
        have hlast := hfed (w - 1)
        rw [List.getD_eq_default _ _ (by omega), BitVec.getMsbD_eq_getLsbD,
          Nat.sub_self, decide_eq_true (by omega), Bool.true_and] at hlast
        exact hlast
      rw [feedBit_of_msb hmsb] at hfed
      intro i
      cases i with
      | zero => rw [List.getD_cons_zero, ← BitVec.msb_eq_getMsbD_zero, hmsb]
      | succ i => rw [List.getD_cons_succ, ← hfed i, BitVec.getMsbD_shiftLeft]
    · intro hheld i
      have hmsb : c.msb = b := by
        rw [BitVec.msb_eq_getMsbD_zero, hheld 0, List.getD_cons_zero]
      rw [feedBit_of_msb hmsb, BitVec.getMsbD_shiftLeft, hheld (i + 1), List.getD_cons_succ]

/-! ## Bursts -/

/-- The ones of a message all lie within `n` consecutive bits. -/
def ConfinedTo (n : ℕ) (bs : List Bool) : Prop :=
  ∃ i, ∀ j, bs.getD j false = true → i ≤ j ∧ j < i + n

/-- An empty register stays empty. -/
theorem feed_zeros {bs : List Bool} (h : ∀ b ∈ bs, b = false) : feed g 0#w bs = 0#w := by
  induction bs with
  | nil => rfl
  | cons b bs ih =>
    rw [feed_cons, feedBit_of_msb (by rw [h b List.mem_cons_self]; simp), BitVec.zero_shiftLeft]
    exact ih fun b hb => h b (List.mem_cons_of_mem _ hb)

/-- Zeros do not clear a register. -/
theorem feed_zeros_ne_zero (hg : g.getLsbD 0 = true) {c : BitVec w} (hc : c ≠ 0#w)
    {bs : List Bool} (h : ∀ b ∈ bs, b = false) : feed g c bs ≠ 0#w := by
  have hw : 0 < w := BitVec.lt_of_getLsbD hg
  induction bs generalizing c with
  | nil => exact hc
  | cons b bs ih =>
    refine ih (fun hzero => hc ?_) fun b hb => h b (List.mem_cons_of_mem _ hb)
    have hone : feed g c [false] = 0#w := by
      rw [← h b List.mem_cons_self]
      exact hzero
    rw [feed_eq_zero_iff hg (by rw [List.length_singleton]; omega)] at hone
    refine BitVec.eq_of_getMsbD_eq fun i _ => ?_
    rw [hone i, BitVec.getMsbD_zero]
    cases i <;> rfl

/-- A burst that is no longer than the register leaves a trace in it. -/
theorem feed_ne_zero_of_burst (hg : g.getLsbD 0 = true) {bs : List Bool} (hone : true ∈ bs)
    (h : ConfinedTo w bs) : feed g 0#w bs ≠ 0#w := by
  obtain ⟨i, hi⟩ := h
  have hzero : ∀ j, j < i ∨ i + w ≤ j → bs.getD j false = false := by
    intro j hj
    by_contra hb
    have := hi j (by simpa using hb)
    omega
  have hsplit : bs = bs.take i ++ ((bs.drop i).take w ++ bs.drop (i + w)) := by
    rw [← List.drop_drop, List.take_append_drop, List.take_append_drop]
  have hfront : ∀ b ∈ bs.take i, b = false := by
    intro b hb
    obtain ⟨j, hj, rfl⟩ := List.mem_iff_getElem.mp hb
    rw [List.length_take] at hj
    rw [List.getElem_take, ← hzero j (.inl (by omega)), List.getD_eq_getElem]
  have hback : ∀ b ∈ bs.drop (i + w), b = false := by
    intro b hb
    obtain ⟨j, hj, rfl⟩ := List.mem_iff_getElem.mp hb
    rw [List.length_drop] at hj
    rw [List.getElem_drop, ← hzero (i + w + j) (.inr (by omega)), List.getD_eq_getElem]
  have hmiddle : true ∈ (bs.drop i).take w := by
    rw [hsplit, List.mem_append, List.mem_append] at hone
    rcases hone with hone | hone | hone
    · exact absurd (hfront true hone) (by decide)
    · exact hone
    · exact absurd (hback true hone) (by decide)
  rw [hsplit, feed_append, feed_append, feed_zeros hfront]
  refine feed_zeros_ne_zero hg (fun hcleared => ?_) hback
  rw [feed_eq_zero_iff hg (by rw [List.length_take]; omega)] at hcleared
  obtain ⟨j, hj, htrue⟩ := List.mem_iff_getElem.mp hmiddle
  have hread := hcleared j
  rw [BitVec.getMsbD_zero, List.getD_eq_getElem _ _ hj, htrue] at hread
  exact absurd hread (by decide)

end Osdlp.Library
