import Mathlib.Data.List.Basic
import Mathlib.Data.List.TakeDrop

/-!
# Packets laid out in windows

Packets are laid out back to back and cut into windows of `n` elements, the last one filled
up.  `nextStart` is the first place at or behind a position where a packet starts or the
last one ends, and `window` is what lies in the window that starts at a position.  Both
only look ahead: what lies before a packet does not matter for the windows behind its start
(`nextStart_cons_add`, `window_cons_add`).
-/

set_option autoImplicit false

namespace Osdlp.Library

variable {α : Type*}

/-- The first boundary between packets at or behind a position. -/
def nextStart : List (List α) → ℕ → ℕ
  | [], _ => 0
  | packet :: packets, x => if x = 0 then 0 else packet.length + nextStart packets (x - packet.length)

/-- The `n` elements from a position on, filled up behind the last packet. -/
def window (n : ℕ) (fill : α) (packets : List (List α)) (x : ℕ) : List α :=
  (packets.flatten.drop x ++ List.replicate n fill).take n

@[simp] theorem nextStart_zero (packets : List (List α)) : nextStart packets 0 = 0 := by
  cases packets <;> rfl

/-- From inside a packet the next boundary is its end. -/
theorem nextStart_within {packet : List α} (packets : List (List α)) {x : ℕ} (hpos : 0 < x)
    (hle : x ≤ packet.length) : nextStart (packet :: packets) x = packet.length := by
  unfold nextStart
  rw [if_neg (Nat.ne_of_gt hpos), Nat.sub_eq_zero_of_le hle, nextStart_zero, Nat.add_zero]

/-- The first packet does not matter from its end on. -/
theorem nextStart_cons_add (packet : List α) (packets : List (List α)) (y : ℕ) :
    nextStart (packet :: packets) (packet.length + y) = packet.length + nextStart packets y := by
  rcases Nat.eq_zero_or_pos (packet.length + y) with hzero | hpos
  · obtain ⟨hp, rfl⟩ : packet.length = 0 ∧ y = 0 := by omega
    rw [hp, nextStart_zero, nextStart_zero]
  · conv_lhs => unfold nextStart
    rw [if_neg (Nat.ne_of_gt hpos), Nat.add_sub_cancel_left]

/-- The first packet does not lie in a window behind it. -/
theorem window_cons_add (n : ℕ) (fill : α) (packet : List α) (packets : List (List α)) (y : ℕ) :
    window n fill (packet :: packets) (packet.length + y) = window n fill packets y := by
  unfold window
  rw [List.flatten_cons, List.drop_append, List.drop_eq_nil_of_le (Nat.le_add_right _ _),
    Nat.add_sub_cancel_left, List.nil_append]

@[simp] theorem length_window (n : ℕ) (fill : α) (packets : List (List α)) (x : ℕ) :
    (window n fill packets x).length = n := by
  unfold window
  rw [List.length_take, List.length_append, List.length_replicate]
  omega

/-- Whole packets in front do not matter. -/
theorem nextStart_append_add (done rest : List (List α)) (y : ℕ) :
    nextStart (done ++ rest) (done.flatten.length + y) =
      done.flatten.length + nextStart rest y := by
  induction done with
  | nil => simp
  | cons packet done ih =>
    rw [List.flatten_cons, List.length_append, Nat.add_assoc, List.cons_append, nextStart_cons_add,
      ih, Nat.add_assoc]

/-- No packet in front of the window matters for it. -/
theorem window_append_add (n : ℕ) (fill : α) (done rest : List (List α)) (y : ℕ) :
    window n fill (done ++ rest) (done.flatten.length + y) = window n fill rest y := by
  induction done with
  | nil => simp
  | cons packet done ih =>
    rw [List.flatten_cons, List.length_append, Nat.add_assoc, List.cons_append, window_cons_add, ih]

end Osdlp.Library
