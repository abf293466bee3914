import Mathlib.Tactic

/-!
# Eight-bit sequence numbers

Numbers modulo 256.  `seqDist a b` is how many steps forward lead from `a` to `b`, and
`consecutive a n` lists the `n` numbers `a, a + 1, …`, going round from 255 to 0.
-/

set_option autoImplicit false

namespace Osdlp.Library

/-- The next number, as code that counts in a wider type writes it. -/
theorem toNat_succ_mod (x : UInt8) : UInt8.ofNat ((x.toNat + 1) % 256) = x + 1 := by
  apply UInt8.toNat_inj.mp
  rw [UInt8.toNat_ofNat', UInt8.toNat_add]
  simp

/-- The steps forward from `a` to `b`, modulo 256. -/
def seqDist (a b : UInt8) : ℕ := (b - a).toNat

theorem seqDist_lt (a b : UInt8) : seqDist a b < 256 := (b - a).toNat_lt

/-- The distance if the numbers do not wrap in between. -/
theorem seqDist_of_le {a b : UInt8} (h : a.toNat ≤ b.toNat) :
    seqDist a b = b.toNat - a.toNat := by
  have ha := a.toNat_lt
  have hb := b.toNat_lt
  unfold seqDist
  rw [UInt8.toNat_sub]
  omega

/-- The distance over the wrap. -/
theorem seqDist_of_lt {a b : UInt8} (h : b.toNat < a.toNat) :
    seqDist a b = 256 + b.toNat - a.toNat := by
  have ha := a.toNat_lt
  have hb := b.toNat_lt
  unfold seqDist
  rw [UInt8.toNat_sub]
  omega

@[simp] theorem seqDist_self (a : UInt8) : seqDist a a = 0 := by
  simp [seqDist]

theorem seqDist_eq_zero {a b : UInt8} : seqDist a b = 0 ↔ a = b := by
  constructor
  · intro h
    have hsub : b - a = 0 := UInt8.toNat_inj.mp h
    grind
  · rintro rfl
    exact seqDist_self a

/-- Walking the distance leads there. -/
@[simp] theorem add_seqDist (a b : UInt8) : a + UInt8.ofNat (seqDist a b) = b := by
  unfold seqDist
  rw [UInt8.ofNat_toNat]
  grind

/-- The distance to a number reached in fewer than 256 steps. -/
theorem seqDist_add_ofNat (a : UInt8) {n : ℕ} (h : n < 256) :
    seqDist a (a + UInt8.ofNat n) = n := by
  unfold seqDist
  rw [show a + UInt8.ofNat n - a = UInt8.ofNat n by grind, UInt8.toNat_ofNat']
  exact Nat.mod_eq_of_lt h

/-- Distances along the way subtract. -/
theorem seqDist_sub {a b c : UInt8} (h : seqDist a b ≤ seqDist a c) :
    seqDist b c = seqDist a c - seqDist a b := by
  have hlt := seqDist_lt a c
  unfold seqDist at *
  have hsplit : c - b = (c - a) - (b - a) := by grind
  rw [hsplit, UInt8.toNat_sub_of_le _ _ (UInt8.le_iff_toNat_le.mpr h)]

/-- The ways there and back go round once. -/
theorem seqDist_add_seqDist {a b : UInt8} (h : a ≠ b) : seqDist a b + seqDist b a = 256 := by
  have ha := a.toNat_lt
  have hb := b.toNat_lt
  have hne : a.toNat ≠ b.toNat := fun heq => h (UInt8.toNat_inj.mp heq)
  rcases Nat.lt_or_ge a.toNat b.toNat with hlt | hge
  · rw [seqDist_of_le hlt.le, seqDist_of_lt hlt]
    omega
  · rw [seqDist_of_lt (by omega), seqDist_of_le hge]
    omega

/-- One step nearer. -/
theorem seqDist_succ_left {a b : UInt8} (h : a ≠ b) : seqDist (a + 1) b = seqDist a b - 1 := by
  have hpos : seqDist a b ≠ 0 := fun hz => h (seqDist_eq_zero.mp hz)
  have hone : seqDist a (a + 1) = 1 := seqDist_add_ofNat a (by decide : 1 < 256)
  have hle : seqDist a (a + 1) ≤ seqDist a b := by omega
  rw [seqDist_sub hle, hone]

/-- One step further. -/
theorem seqDist_succ_right {a b : UInt8} (h : seqDist a b < 255) :
    seqDist a (b + 1) = seqDist a b + 1 := by
  have hlt : seqDist a b + 1 < 256 := by omega
  have hadd := seqDist_add_ofNat a hlt
  have hwalk : a + UInt8.ofNat (seqDist a b + 1) = b + 1 := by
    rw [UInt8.ofNat_add]
    have := add_seqDist a b
    grind
  rwa [hwalk] at hadd

/-- The distance between two numbers counted from the same one. -/
theorem seqDist_ofNat (a : UInt8) {i j : ℕ} (hij : i ≤ j) (h : j - i < 256) :
    seqDist (a + UInt8.ofNat i) (a + UInt8.ofNat j) = j - i := by
  have hsplit : UInt8.ofNat j = UInt8.ofNat i + UInt8.ofNat (j - i) := by
    rw [← UInt8.ofNat_add, Nat.add_sub_cancel' hij]
  rw [hsplit, ← UInt8.add_assoc]
  exact seqDist_add_ofNat _ h

/-- Numbers counted from the same one repeat after 256 and not before. -/
theorem eq_of_ofNat_eq (a : UInt8) {i j : ℕ} (hij : i ≤ j) (h : j - i < 256)
    (heq : a + UInt8.ofNat i = a + UInt8.ofNat j) : i = j := by
  have hdist := seqDist_ofNat a hij h
  rw [heq, seqDist_self] at hdist
  omega

/-- The `n` numbers from `a` on. -/
def consecutive (a : UInt8) : ℕ → List UInt8
  | 0 => []
  | n + 1 => a :: consecutive (a + 1) n

@[simp] theorem length_consecutive (a : UInt8) (n : ℕ) : (consecutive a n).length = n := by
  induction n generalizing a with
  | zero => rfl
  | succ n ih => simp [consecutive, ih]

theorem ofNat_succ (n : ℕ) : UInt8.ofNat (n + 1) = UInt8.ofNat n + 1 := by
  rw [UInt8.ofNat_add]
  rfl

/-- Counting one further. -/
theorem consecutive_concat (a : UInt8) (n : ℕ) :
    consecutive a (n + 1) = consecutive a n ++ [a + UInt8.ofNat n] := by
  induction n generalizing a with
  | zero => simp [consecutive]
  | succ n ih =>
    rw [consecutive, ih (a + 1), consecutive, List.cons_append, ofNat_succ]
    rw [show a + 1 + UInt8.ofNat n = a + (UInt8.ofNat n + 1) by grind]

/-- Counting from a later number on. -/
theorem consecutive_drop (a : UInt8) (n d : ℕ) :
    (consecutive a n).drop d = consecutive (a + UInt8.ofNat d) (n - d) := by
  induction d generalizing a n with
  | zero => simp
  | succ d ih =>
    cases n with
    | zero => simp [consecutive]
    | succ n =>
      rw [consecutive, List.drop_succ_cons, ih, ofNat_succ, Nat.succ_sub_succ]
      rw [show a + 1 + UInt8.ofNat d = a + (UInt8.ofNat d + 1) by grind]

/-- The number at a place. -/
theorem getElem?_consecutive (a : UInt8) {n i : ℕ} (h : i < n) :
    (consecutive a n)[i]? = some (a + UInt8.ofNat i) := by
  have hdrop := consecutive_drop a n i
  have hpos : n - i = (n - i - 1) + 1 := by omega
  rw [hpos, consecutive] at hdrop
  rw [← List.head?_drop, hdrop, List.head?_cons]

/-- A number among the first `n ≤ 256` names its own distance. -/
theorem mem_consecutive {a b : UInt8} {n : ℕ} (hn : n ≤ 256) :
    b ∈ consecutive a n ↔ seqDist a b < n := by
  rw [List.mem_iff_getElem?]
  constructor
  · rintro ⟨i, hi⟩
    have hin : i < n := by
      have := (List.getElem?_eq_some_iff.mp hi).1
      simpa using this
    rw [getElem?_consecutive a hin] at hi
    rw [← Option.some.inj hi, seqDist_add_ofNat a (by omega)]
    exact hin
  · intro h
    exact ⟨seqDist a b, by rw [getElem?_consecutive a h, add_seqDist]⟩

/-- The numbers of one round are different. -/
theorem nodup_consecutive (a : UInt8) {n : ℕ} (hn : n ≤ 256) : (consecutive a n).Nodup := by
  induction n generalizing a with
  | zero => exact List.nodup_nil
  | succ n ih =>
    refine List.nodup_cons.mpr ⟨?_, ih (a + 1) (by omega)⟩
    have hdist : seqDist (a + 1) a = 255 := by
      unfold seqDist
      rw [show a - (a + 1) = 255 by grind]
      rfl
    rw [mem_consecutive (by omega), hdist]
    omega

/-- A number is not its own successor. -/
theorem succ_ne (a : UInt8) : a + 1 ≠ a := by
  grind

end Osdlp.Library
