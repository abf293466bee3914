import Mathlib.Data.List.Chain
import Mathlib.Data.UInt

/-!
# Counters that are read now and then

Of a sequence of events some advance a counter of one octet, and some are seen together with the
value that the counter then has.  The values that are seen are consecutive exactly if from one seen
event to the next the counter advances once, modulo 256 (`isChain_readings_iff`).
-/

set_option autoImplicit false

namespace Osdlp.Library

variable {ε : Type*} (ticks seen : ε → Bool)

/-- The counter after an event. -/
def ticked (c : UInt8) (e : ε) : UInt8 := if ticks e then c + 1 else c

/-- The values that are seen, from the value `c` on. -/
def readings (c : UInt8) : List ε → List UInt8
  | [] => []
  | e :: es =>
    if seen e then ticked ticks c e :: readings (ticked ticks c e) es
    else readings (ticked ticks c e) es

/-- From one seen event to the next there is one advance modulo 256, the one at the second event
included; `since` counts the advances since the last seen event, if there is one. -/
def OneTickApart (since : Option ℕ) : List ε → Prop
  | [] => True
  | e :: es =>
    let now := since.map (· + if ticks e then 1 else 0)
    if seen e then (∀ n ∈ now, n % 256 = 1) ∧ OneTickApart (some 0) es else OneTickApart now es

instance OneTickApart.decidable (since : Option ℕ) :
    (es : List ε) → Decidable (OneTickApart ticks seen since es)
  | [] => isTrue trivial
  | e :: es => by
    have := OneTickApart.decidable (some 0) es
    have := OneTickApart.decidable (since.map (· + if ticks e then 1 else 0)) es
    unfold OneTickApart
    infer_instance

variable {ticks seen}

theorem add_ofNat_eq_succ_iff (l : UInt8) (n : ℕ) : l + UInt8.ofNat n = l + 1 ↔ n % 256 = 1 := by
  rw [UInt8.add_right_inj, ← UInt8.toNat_inj, UInt8.toNat_ofNat']
  exact Iff.rfl

/-- The counter after one more event, as a count from its start. -/
theorem ticked_add (l : UInt8) (n : ℕ) (e : ε) :
    ticked ticks (l + UInt8.ofNat n) e = l + UInt8.ofNat (n + if ticks e then 1 else 0) := by
  unfold ticked
  split_ifs
  · rw [UInt8.ofNat_add, UInt8.add_assoc]
    rfl
  · rfl

/-- The values behind the last one that was seen. -/
theorem isChain_readings_some (l : UInt8) (n : ℕ) (es : List ε) :
    (l :: readings ticks seen (l + UInt8.ofNat n) es).IsChain (fun x y => y = x + 1) ↔
      OneTickApart ticks seen (some n) es := by
  induction es generalizing l n with
  | nil => simp [readings, OneTickApart]
  | cons e es ih =>
    unfold readings OneTickApart
    dsimp only
    rw [ticked_add, Option.map_some]
    generalize n + (if ticks e then 1 else 0) = now
    by_cases hseen : seen e
    · have hlast := ih (l + UInt8.ofNat now) 0
      rw [show UInt8.ofNat 0 = 0 from rfl, UInt8.add_zero] at hlast
      rw [if_pos hseen, if_pos hseen, List.isChain_cons_cons, add_ofNat_eq_succ_iff, hlast]
      simp
    · rw [if_neg hseen, if_neg hseen]
      exact ih l now

/-- The values that are seen are consecutive exactly if the counter advances once from one to the
next. -/
theorem isChain_readings_iff (c : UInt8) (es : List ε) :
    (readings ticks seen c es).IsChain (fun x y => y = x + 1) ↔
      OneTickApart ticks seen none es := by
  induction es generalizing c with
  | nil => simp [readings, OneTickApart]
  | cons e es ih =>
    unfold readings OneTickApart
    dsimp only
    by_cases hseen : seen e
    · have hfirst := @isChain_readings_some _ ticks seen (ticked ticks c e) 0 es
      rw [show UInt8.ofNat 0 = 0 from rfl, UInt8.add_zero] at hfirst
      rw [if_pos hseen, if_pos hseen, hfirst]
      simp
    · rw [if_neg hseen, if_neg hseen]
      exact ih _

end Osdlp.Library
