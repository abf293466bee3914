import Mathlib.Data.Int.Notation
import Mathlib.Data.List.Basic

/-!
# Computations that log what they touch

A `Traced κ α` is a value with the log of the accesses made to compute it, in order.  A program
written in this monad can only get at a resource through operations that log, so that a property
of its log is a property of every access it makes.  `AllIn P m` says that all accesses of `m`
satisfy `P`, and its rules follow the way a program is put together.
-/

set_option autoImplicit false

namespace Osdlp.Library

universe u v

variable {κ : Type u} {α β : Type v}

/-- A value and the accesses made to compute it. -/
structure Traced (κ : Type u) (α : Type v) where
  value : α
  log : List κ
  deriving DecidableEq, Repr

/-- Logs are put together in the order of the computation. -/
instance : Monad (Traced κ) where
  pure a := ⟨a, []⟩
  bind m f := ⟨(f m.value).value, m.log ++ (f m.value).log⟩

/-- The value of a computation without accesses. -/
@[simp] theorem Traced.value_pure (a : α) : (pure a : Traced κ α).value = a := (rfl)

/-- Such a computation logs nothing. -/
@[simp] theorem Traced.log_pure (a : α) : (pure a : Traced κ α).log = [] := (rfl)

/-- Values are computed as if nothing were logged. -/
@[simp] theorem Traced.value_bind (m : Traced κ α) (f : α → Traced κ β) :
    (m >>= f).value = (f m.value).value := (rfl)

/-- The accesses of the first computation come first. -/
@[simp] theorem Traced.log_bind (m : Traced κ α) (f : α → Traced κ β) :
    (m >>= f).log = m.log ++ (f m.value).log := (rfl)

/-- The value of a branch is that of the computation taken. -/
theorem Traced.value_ite (c : Prop) [Decidable c] (m n : Traced κ α) :
    (if c then m else n).value = if c then m.value else n.value := by
  split <;> rfl

/-- Every access satisfies `P`. -/
def AllIn (P : κ → Prop) (m : Traced κ α) : Prop := ∀ k ∈ m.log, P k

/-- A log is finite, so it can be checked. -/
instance (P : κ → Prop) [DecidablePred P] (m : Traced κ α) : Decidable (AllIn P m) :=
  inferInstanceAs (Decidable (∀ k ∈ m.log, P k))

/-- No access, so none that could be wrong. -/
@[simp] theorem allIn_pure (P : κ → Prop) (a : α) : AllIn P (pure a : Traced κ α) :=
  fun _ hk => absurd hk List.not_mem_nil

/-- One access after the other. -/
theorem allIn_bind {P : κ → Prop} {m : Traced κ α} {f : α → Traced κ β} :
    AllIn P (m >>= f) ↔ AllIn P m ∧ AllIn P (f m.value) := by
  unfold AllIn
  simp only [Traced.log_bind, List.forall_mem_append]

/-- A computation with one access. -/
theorem allIn_access {P : κ → Prop} {a : α} {k : κ} : AllIn P ⟨a, [k]⟩ ↔ P k := by
  unfold AllIn
  simp only [List.forall_mem_singleton]

/-- Only the branch that is taken has accesses. -/
theorem allIn_ite {P : κ → Prop} {c : Prop} [Decidable c] {m n : Traced κ α} :
    AllIn P (if c then m else n) ↔ (c → AllIn P m) ∧ (¬ c → AllIn P n) := by
  split <;> simp [*]

/-! ## Indices -/

/-- The indices from `start` on, `count` of them. -/
structure Span where
  start : ℤ
  count : ℤ
  deriving DecidableEq, Repr

/-- All indices lie in a buffer of `n` octets. -/
def Span.Inside (n : ℕ) (s : Span) : Prop := ∀ i, s.start ≤ i → i < s.start + s.count → 0 ≤ i ∧ i < n

/-- A span without indices lies in every buffer, and any other where both its ends do. -/
theorem Span.inside_iff {n : ℕ} {s : Span} :
    s.Inside n ↔ s.count ≤ 0 ∨ 0 ≤ s.start ∧ s.start + s.count ≤ n := by
  constructor
  · intro h
    by_contra hout
    have hfirst := h s.start (by omega) (by omega)
    have hlast := h (s.start + s.count - 1) (by omega) (by omega)
    omega
  · intro h i hi hlt
    omega

/-- The ends of a span tell whether it lies inside. -/
instance (n : ℕ) (s : Span) : Decidable (s.Inside n) := decidable_of_iff' _ Span.inside_iff

end Osdlp.Library
