import Mathlib.Data.List.Basic
import Mathlib.Logic.Relation

/-!
# Runs of deterministic event systems

A component with a total step function `step : σ → ε → σ` is run on a finite list of
events; whatever is nondeterministic (losses, oracle answers) is carried by the events.
A step may be constrained by a guard on the state it is taken in: `Guarded` says that a run
meets the guard at every step, and `run_guarded_inv` is the invariant rule for such runs.
`Simulates` relates a run to a nondeterministic abstract machine, one concrete step
being matched by any number of abstract moves.
-/

set_option autoImplicit false

namespace Osdlp.Library

variable {σ ε τ : Type*}

/-- The state after a finite sequence of events. -/
def run (step : σ → ε → σ) (s : σ) (events : List ε) : σ := events.foldl step s

@[simp] theorem run_nil (step : σ → ε → σ) (s : σ) : run step s [] = s := rfl

@[simp] theorem run_cons (step : σ → ε → σ) (s : σ) (e : ε) (es : List ε) :
    run step s (e :: es) = run step (step s e) es := rfl

theorem run_append (step : σ → ε → σ) (s : σ) (es es' : List ε) :
    run step s (es ++ es') = run step (run step s es) es' := List.foldl_append

/-- Every event of the run is taken in a state in which the guard holds for it. -/
def Guarded (step : σ → ε → σ) (guard : σ → ε → Prop) : σ → List ε → Prop
  | _, [] => True
  | s, e :: es => guard s e ∧ Guarded step guard (step s e) es

instance Guarded.decidable {step : σ → ε → σ} {guard : σ → ε → Prop}
    [∀ s e, Decidable (guard s e)] : ∀ s es, Decidable (Guarded step guard s es)
  | _, [] => isTrue trivial
  | s, e :: es =>
    @instDecidableAnd _ _ _ (Guarded.decidable (step s e) es)

/-- A prefix of a guarded run is guarded. -/
theorem Guarded.take {step : σ → ε → σ} {guard : σ → ε → Prop} {s : σ} {es : List ε}
    (h : Guarded step guard s es) (n : ℕ) : Guarded step guard s (es.take n) := by
  induction es generalizing s n with
  | nil => simp [Guarded]
  | cons e es ih =>
    cases n with
    | zero => trivial
    | succ n => exact ⟨h.1, ih h.2 n⟩

/-- The invariant rule for guarded runs. -/
theorem run_guarded_inv {step : σ → ε → σ} {guard : σ → ε → Prop} {I : σ → Prop} {s : σ} (hs : I s)
    {es : List ε} (hstep : ∀ s, ∀ e ∈ es, I s → guard s e → I (step s e))
    (hg : Guarded step guard s es) : I (run step s es) := by
  induction es generalizing s with
  | nil => exact hs
  | cons e es ih =>
    exact ih (hstep s e List.mem_cons_self hs hg.1)
      (fun s e' he' => hstep s e' (List.mem_cons_of_mem _ he')) hg.2

/-- Where a step that the environment allows leads from a good state to a good state exactly
when its guard holds, and `J` is kept on the way, all states of an allowed run are good
exactly when the run is guarded. -/
theorem forall_take_iff_guarded {step : σ → ε → σ} {allowed guard : σ → ε → Prop}
    {P J : σ → Prop} (hJ : ∀ s e, P s → J s → allowed s e → J (step s e))
    (hstep : ∀ s e, P s → J s → allowed s e → (P (step s e) ↔ guard s e)) {s : σ} (hs : P s)
    (hsJ : J s) {es : List ε} (hes : Guarded step allowed s es) :
    (∀ n, P (run step s (es.take n))) ↔ Guarded step guard s es := by
  induction es generalizing s with
  | nil => simp [Guarded, hs]
  | cons e es ih =>
    obtain ⟨he, hrest⟩ := hes
    have hfirstJ := hJ s e hs hsJ he
    constructor
    · intro hall
      have hfirst : P (step s e) := by simpa using hall 1
      refine ⟨(hstep s e hs hsJ he).mp hfirst, (ih hfirst hfirstJ hrest).mp fun n => ?_⟩
      simpa using hall (n + 1)
    · rintro ⟨hg, hguarded⟩ n
      have hfirst := (hstep s e hs hsJ he).mpr hg
      cases n with
      | zero => exact hs
      | succ n => exact (ih hfirst hfirstJ hrest).mpr hguarded n

/-- Every run is allowed where every step is. -/
theorem Guarded.of_forall {step : σ → ε → σ} {guard : σ → ε → Prop} (h : ∀ s e, guard s e)
    (s : σ) (es : List ε) : Guarded step guard s es := by
  induction es generalizing s with
  | nil => trivial
  | cons e es ih => exact ⟨h s e, ih (step s e)⟩

/-- The invariant rule: what every event keeps holds at the end of every run. -/
theorem run_inv {step : σ → ε → σ} {I : σ → Prop} {s : σ} (hs : I s) {es : List ε}
    (hstep : ∀ s, ∀ e ∈ es, I s → I (step s e)) : I (run step s es) :=
  run_guarded_inv hs (fun s e he h _ => hstep s e he h) (.of_forall (fun _ _ => trivial) s es)

/-- A guard that only concerns the events holds all along if it holds of each of them. -/
theorem Guarded.of_mem {step : σ → ε → σ} {guard : σ → ε → Prop} {es : List ε}
    (h : ∀ e ∈ es, ∀ s, guard s e) (s : σ) : Guarded step guard s es := by
  induction es generalizing s with
  | nil => trivial
  | cons e es ih =>
    refine ⟨h e List.mem_cons_self s, ih ?_ (step s e)⟩
    exact fun e' hmem => h e' (List.mem_cons_of_mem e hmem)

/-- A guard that keeps an invariant implies along a run whatever it implies in the states of the
invariant. -/
theorem Guarded.imp {step : σ → ε → σ} {guard guard' : σ → ε → Prop} {I : σ → Prop}
    (hstep : ∀ s e, I s → guard s e → guard' s e ∧ I (step s e)) {s : σ} (hs : I s) {es : List ε}
    (h : Guarded step guard s es) : Guarded step guard' s es := by
  induction es generalizing s with
  | nil => trivial
  | cons e es ih =>
    obtain ⟨hguard, hnext⟩ := hstep s e hs h.1
    exact ⟨hguard, ih hnext h.2⟩

/-- Guards that agree in the states of an invariant hold along the same runs. -/
theorem guarded_congr {step : σ → ε → σ} {guard guard' : σ → ε → Prop} {I : σ → Prop} {s : σ}
    (hs : I s) {es : List ε} (hstep : ∀ s, ∀ e ∈ es, I s → I (step s e))
    (h : ∀ s, ∀ e ∈ es, I s → (guard s e ↔ guard' s e)) :
    Guarded step guard s es ↔ Guarded step guard' s es := by
  induction es generalizing s with
  | nil => exact Iff.rfl
  | cons e es ih =>
    exact and_congr (h s e List.mem_cons_self hs)
      (ih (hstep s e List.mem_cons_self hs)
        (fun s e' he' => hstep s e' (List.mem_cons_of_mem _ he'))
        (fun s e' he' => h s e' (List.mem_cons_of_mem _ he')))

/-- The rule for what can be reached in rounds: if some allowed events lead from every state of
the invariant in which something is left to do to one of the invariant in which less is left, then
allowed events lead to a state in which nothing is left. -/
theorem exists_run_of_rounds {step : σ → ε → σ} {allowed : ε → Prop} {I : σ → Prop} {left : σ → ℕ}
    (hround : ∀ s, I s → left s ≠ 0 → ∃ es, (∀ e ∈ es, allowed e) ∧ I (run step s es) ∧
      left (run step s es) < left s) {s : σ} (hs : I s) :
    ∃ es, (∀ e ∈ es, allowed e) ∧ I (run step s es) ∧ left (run step s es) = 0 := by
  induction hn : left s using Nat.strongRecOn generalizing s with
  | ind n ih =>
    by_cases hzero : left s = 0
    · exact ⟨[], by simp, hs, hzero⟩
    · obtain ⟨es, hes, hI, hless⟩ := hround s hs hzero
      obtain ⟨es', hes', hI', hdone⟩ := ih _ (hn ▸ hless) hI rfl
      rw [← run_append] at hI' hdone
      refine ⟨es ++ es', ?_, hI', hdone⟩
      intro e he
      exact (List.mem_append.mp he).elim (hes e) (hes' e)

/-- Every allowed concrete step from a related pair is matched by some abstract moves that
end in a related pair. -/
def Simulates (step : σ → ε → σ) (allowed : ε → Prop) (Move : τ → τ → Prop) (R : σ → τ → Prop) :
    Prop :=
  ∀ s e a, allowed e → R s a → ∃ a', Relation.ReflTransGen Move a a' ∧ R (step s e) a'

/-- A run of a simulated system ends in a state related to a reachable abstract one. -/
theorem Simulates.run {step : σ → ε → σ} {allowed : ε → Prop} {Move : τ → τ → Prop}
    {R : σ → τ → Prop} (hsim : Simulates step allowed Move R) {s : σ} {a : τ} (h : R s a)
    {es : List ε} (hes : ∀ e ∈ es, allowed e) :
    ∃ a', Relation.ReflTransGen Move a a' ∧ R (run step s es) a' := by
  induction es generalizing s a with
  | nil => exact ⟨a, .refl, h⟩
  | cons e es ih =>
    obtain ⟨a₁, hmove, h₁⟩ := hsim s e a (hes e (by simp)) h
    obtain ⟨a₂, hmoves, h₂⟩ := ih h₁ fun e' he' => hes e' (by simp [he'])
    exact ⟨a₂, hmove.trans hmoves, h₂⟩

end Osdlp.Library
