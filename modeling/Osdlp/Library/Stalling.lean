import Mathlib.Data.Nat.Basic
import Mathlib.Data.Option.Basic

/-!
# Loops that advance by what they read

A loop goes through a buffer and advances, in each round, by a length that it reads where it
stands.  `At p len` says that it stands at `p` and goes on by `len`.  It never ends exactly if it
comes to a place where it goes on by nothing (`ends_iff_not_stalls`): as long as it advances, the
buffer bounds its rounds.
-/

set_option autoImplicit false

namespace Osdlp.Library

/-- From `p` on, a place is reached where the loop goes on by nothing. -/
inductive Stalls (At : ℕ → ℕ → Prop) : ℕ → Prop
  | here {p : ℕ} : At p 0 → Stalls At p
  | behind {p len : ℕ} : At p len → Stalls At (p + len) → Stalls At p

variable {At : ℕ → ℕ → Prop} {p : ℕ}

theorem Stalls.goesOn (h : Stalls At p) : ∃ len, At p len ∧ Stalls At (p + len) := by
  cases h with
  | here hat => exact ⟨0, hat, .here hat⟩
  | behind hat hrest => exact ⟨_, hat, hrest⟩

variable {σ ρ : Type*} {loop : ℕ → ℕ → σ → Option ρ} {I : σ → Prop} {s : σ} {n : ℕ}

/-- A loop that stalls runs out of any fuel. -/
theorem Stalls.outOfFuel (h : Stalls At p) (hzero : ∀ p s, loop 0 p s = none)
    (hnext : ∀ p s len, I s → At p len →
      ∃ s', I s' ∧ ∀ fuel, loop (fuel + 1) p s = loop fuel (p + len) s')
    (hs : I s) (fuel : ℕ) : loop fuel p s = none := by
  induction fuel generalizing p s with
  | zero => exact hzero p s
  | succ fuel ih =>
    obtain ⟨len, hat, hrest⟩ := h.goesOn
    obtain ⟨s', hs', hloop⟩ := hnext p s len hs hat
    rw [hloop]
    exact ih hrest hs'

/-- A loop that does not stall ends before it has done more rounds than the buffer has places. -/
theorem isSome_of_not_stalls (h : ¬ Stalls At p) (hbound : ∀ p len, At p len → p + len ≤ n)
    (hlast : ∀ p s, I s → (¬ ∃ len, At p len) → ∀ fuel, (loop (fuel + 1) p s).isSome)
    (hnext : ∀ p s len, I s → At p len →
      ∃ s', I s' ∧ ∀ fuel, loop (fuel + 1) p s = loop fuel (p + len) s')
    (hs : I s) {fuel : ℕ} (hfuel : n < fuel + p) (hpos : 0 < fuel) : (loop fuel p s).isSome := by
  induction fuel generalizing p s with
  | zero => exact absurd hpos (Nat.lt_irrefl 0)
  | succ fuel ih =>
    by_cases hmore : ∃ len, At p len
    · obtain ⟨len, hat⟩ := hmore
      obtain ⟨s', hs', hloop⟩ := hnext p s len hs hat
      have hlen : len ≠ 0 := by
        rintro rfl
        exact h (.here hat)
      have hle := hbound p len hat
      rw [hloop]
      exact ih (fun hrest => h (.behind hat hrest)) hs' (by omega) (by omega)
    · exact hlast p s hs hmore fuel

/-- The loop ends exactly if it does not stall. -/
theorem ends_iff_not_stalls (loop : ℕ → ℕ → σ → Option ρ)
    (hbound : ∀ p len, At p len → p + len ≤ n)
    (hzero : ∀ p s, loop 0 p s = none)
    (hlast : ∀ p s, I s → (¬ ∃ len, At p len) → ∀ fuel, (loop (fuel + 1) p s).isSome)
    (hnext : ∀ p s len, I s → At p len →
      ∃ s', I s' ∧ ∀ fuel, loop (fuel + 1) p s = loop fuel (p + len) s')
    (hs : I s) : (∃ fuel, (loop fuel p s).isSome) ↔ ¬ Stalls At p := by
  constructor
  · rintro ⟨fuel, hsome⟩ hstalls
    rw [hstalls.outOfFuel hzero hnext hs fuel] at hsome
    exact Bool.false_ne_true hsome
  · intro h
    exact ⟨n + 1, isSome_of_not_stalls h hbound hlast hnext hs (by omega) (by omega)⟩

end Osdlp.Library
