import Mathlib.Data.List.Basic

/-!
# Ring buffers

A ring of `n` slots in which a list lies from a head on, and goes on at slot 0 behind the last one.
The slots are a function of their number, so that nothing is said of how they are stored.
`InRing.push`, `InRing.pop` and `InRing.replaceHead` say what the three ways of changing a ring buffer
make of the list.
-/

set_option autoImplicit false

namespace Osdlp.Library

variable {α : Type*}

/-- The slot behind so many others, for at most one turn. -/
def wrap (n i : ℕ) : ℕ := if i < n then i else i - n

theorem wrap_of_lt {n i : ℕ} (h : i < n) : wrap n i = i := if_pos h

theorem wrap_lt {n i : ℕ} (h : i < 2 * n) : wrap n i < n := by
  unfold wrap
  split_ifs <;> omega

/-- The next slot. -/
theorem wrap_succ {n i : ℕ} (h : i < n) : wrap n (i + 1) = if i + 1 ≥ n then 0 else i + 1 := by
  unfold wrap
  split_ifs <;> omega

/-- From the next head on, the slots are those behind the first. -/
theorem wrap_wrap_succ {n head i : ℕ} (hhead : head < n) (hi : i + 1 < n) :
    wrap n (wrap n (head + 1) + i) = wrap n (head + (i + 1)) := by
  unfold wrap
  split_ifs <;> omega

/-- Different places are in different slots. -/
theorem wrap_ne {n head i j : ℕ} (hi : i < j) (hj : j < n) :
    wrap n (head + i) ≠ wrap n (head + j) := by
  unfold wrap
  split_ifs <;> omega

/-- The list lies in the ring from the head on. -/
structure InRing (n : ℕ) (slot : ℕ → α) (head : ℕ) (xs : List α) : Prop where
  inside : head < n
  room : xs.length ≤ n
  holds : ∀ i (h : i < xs.length), slot (wrap n (head + i)) = xs[i]

variable {n head : ℕ} {slot slot' : ℕ → α} {xs : List α} {x : α}

theorem InRing.nil (slot : ℕ → α) (h : head < n) : InRing n slot head ([] : List α) :=
  ⟨h, Nat.zero_le n, fun i hi => absurd hi (Nat.not_lt_zero i)⟩

/-- An element is written behind the last one. -/
theorem InRing.push (h : InRing n slot head xs) (hroom : xs.length < n)
    (hnew : slot' (wrap n (head + xs.length)) = x)
    (hkept : ∀ i, i < n → i ≠ wrap n (head + xs.length) → slot' i = slot i) :
    InRing n slot' head (xs ++ [x]) := by
  have hhead := h.inside
  refine ⟨hhead, by rw [List.length_append, List.length_singleton]; omega, fun i hi => ?_⟩
  rw [List.length_append, List.length_singleton] at hi
  by_cases hold : i < xs.length
  · rw [List.getElem_append_left hold, hkept _ (wrap_lt (by omega)) (wrap_ne hold hroom)]
    exact h.holds i hold
  · obtain rfl : i = xs.length := by omega
    rw [List.getElem_append_right (Nat.le_refl _)]
    simpa using hnew

/-- The first element is taken off. -/
theorem InRing.pop (h : InRing n slot head (x :: xs)) :
    InRing n slot (wrap n (head + 1)) xs := by
  have hhead := h.inside
  have hroom : xs.length + 1 ≤ n := h.room
  refine ⟨wrap_lt (by omega), by omega, fun i hi => ?_⟩
  rw [wrap_wrap_succ hhead (by omega)]
  exact h.holds (i + 1) (Nat.succ_lt_succ hi)

/-- The first element is written over. -/
theorem InRing.replaceHead (h : InRing n slot head (x :: xs)) {y : α} (hnew : slot' head = y)
    (hkept : ∀ i, i < n → i ≠ head → slot' i = slot i) : InRing n slot' head (y :: xs) := by
  have hhead := h.inside
  have hroom : xs.length + 1 ≤ n := h.room
  refine ⟨hhead, h.room, fun i hi => ?_⟩
  cases i with
  | zero =>
    rw [Nat.add_zero, wrap_of_lt hhead]
    exact hnew
  | succ i =>
    have hi' : i < xs.length := Nat.lt_of_succ_lt_succ hi
    have hne : wrap n (head + 0) ≠ wrap n (head + (i + 1)) :=
      wrap_ne (Nat.succ_pos i) (by omega)
    rw [Nat.add_zero, wrap_of_lt hhead] at hne
    rw [hkept _ (wrap_lt (by omega)) hne.symm]
    exact h.holds (i + 1) hi

end Osdlp.Library
