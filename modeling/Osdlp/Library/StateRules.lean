import Mathlib.Logic.Basic

/-!
# Rules for stateful programs

A program is a `StateM σ α`: from a state it computes a result and the next state.  The
first lemmas evaluate such a program at a state.  `Hoare P m Q` is total correctness, and
its rules follow the way a program is put together, so that a property of a handler is
proved from properties of the operations it calls.
-/

set_option autoImplicit false

namespace Osdlp.Library

variable {σ α β : Type}

/-- The second program starts from the result and the state of the first. -/
theorem bind_apply (m : StateM σ α) (k : α → StateM σ β) (s : σ) :
    (m >>= k) s = k (m s).1 (m s).2 := rfl

/-- A function of the result leaves the state alone. -/
theorem map_apply (f : α → β) (m : StateM σ α) (s : σ) : (f <$> m) s = (f (m s).1, (m s).2) := rfl

/-- A result that needs no state. -/
theorem pure_apply (a : α) (s : σ) : (pure a : StateM σ α) s = (a, s) := rfl

/-- The state is the result. -/
theorem get_apply (s : σ) : (get : StateM σ σ) s = (s, s) := rfl

/-- The state before is forgotten. -/
theorem set_apply (s' s : σ) : (set s' : StateM σ PUnit) s = (⟨⟩, s') := rfl

/-- The choice between two programs is made at the state where they start. -/
theorem ite_apply_state (c : Prop) [Decidable c] (m n : StateM σ α) (s : σ) :
    (if c then m else n) s = if c then m s else n s := by
  split <;> rfl

/-- From a state in `P` the program ends with a result and a state in `Q`. -/
def Hoare (P : σ → Prop) (m : StateM σ α) (Q : α → σ → Prop) : Prop :=
  ∀ s, P s → Q (m s).1 (m s).2

/-- The program keeps `I`. -/
def Keeps (I : σ → Prop) (m : StateM σ α) : Prop := Hoare I m fun _ => I

/-- The state is as before, so it has to be in `Q` already. -/
theorem Hoare.pure {P : σ → Prop} {Q : α → σ → Prop} {a : α} (h : ∀ s, P s → Q a s) :
    Hoare P (pure a) Q := h

/-- A middle assertion holds between the two programs, and may speak of the result of the first. -/
theorem Hoare.bind {P : σ → Prop} {R : α → σ → Prop} {Q : β → σ → Prop} {m : StateM σ α}
    {k : α → StateM σ β} (hm : Hoare P m R) (hk : ∀ a, Hoare (R a) (k a) Q) :
    Hoare P (m >>= k) Q :=
  fun s hs => hk (m s).1 (m s).2 (hm s hs)

/-- Each branch may use its condition. -/
theorem Hoare.ite {P : σ → Prop} {Q : α → σ → Prop} {c : Prop} [Decidable c]
    {m n : StateM σ α} (ht : c → Hoare P m Q) (he : ¬ c → Hoare P n Q) :
    Hoare P (if c then m else n) Q := by
  split
  · exact ht ‹_›
  · exact he ‹_›

/-- An invariant is its own middle assertion. -/
theorem Keeps.bind {I : σ → Prop} {m : StateM σ α} {k : α → StateM σ β} (hm : Keeps I m)
    (hk : ∀ a, Keeps I (k a)) : Keeps I (m >>= k) :=
  Hoare.bind hm hk

/-- Nothing changes. -/
theorem Keeps.pure {I : σ → Prop} (a : α) : Keeps I (pure a : StateM σ α) :=
  fun _ hs => hs

/-- The branches keep it whatever the condition is. -/
theorem Keeps.ite {I : σ → Prop} {c : Prop} [Decidable c] {m n : StateM σ α}
    (ht : Keeps I m) (he : Keeps I n) : Keeps I (if c then m else n) :=
  Hoare.ite (fun _ => ht) (fun _ => he)

end Osdlp.Library
