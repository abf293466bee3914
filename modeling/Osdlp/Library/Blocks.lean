import Mathlib.Data.List.Basic
import Mathlib.Data.List.TakeDrop

/-!
# A list cut into blocks

`block n xs i` is the `i`-th block of `n` elements; the block with the end of the list may be
shorter.  The blocks put together are the list again (`flatten_blocks`).
-/

set_option autoImplicit false

namespace Osdlp.Library

variable {α : Type*}

/-- The elements of a list from `n * i` on, `n` of them if there are as many. -/
def block (n : ℕ) (xs : List α) (i : ℕ) : List α := (xs.drop (n * i)).take n

/-- The first `c` blocks. -/
def blocks (n : ℕ) (xs : List α) (c : ℕ) : List (List α) := (List.range c).map (block n xs)

theorem length_block (n : ℕ) (xs : List α) (i : ℕ) :
    (block n xs i).length = min n (xs.length - n * i) := by
  simp [block]

/-- A block that ends within the list is full. -/
theorem length_block_of_le {n : ℕ} {xs : List α} {i : ℕ} (h : n * (i + 1) ≤ xs.length) :
    (block n xs i).length = n := by
  rw [Nat.mul_succ] at h
  rw [length_block]
  omega

theorem blocks_succ (n : ℕ) (xs : List α) (c : ℕ) :
    blocks n xs (c + 1) = blocks n xs c ++ [block n xs c] := by
  simp [blocks, List.range_succ]

/-- A block continues the elements in front of it. -/
theorem take_append_block (n : ℕ) (xs : List α) (i : ℕ) :
    xs.take (n * i) ++ block n xs i = xs.take (n * (i + 1)) := by
  rw [Nat.mul_succ, List.take_add]
  rfl

/-- The first `c` blocks are the first `n * c` elements. -/
theorem flatten_blocks (n : ℕ) (xs : List α) (c : ℕ) :
    (blocks n xs c).flatten = xs.take (n * c) := by
  induction c with
  | zero => simp [blocks]
  | succ c ih => rw [blocks_succ, List.flatten_append, ih, List.flatten_singleton, take_append_block]

end Osdlp.Library
