import Osdlp.Library.SeqNum
import Osdlp.Model.Farm

/-!
# The sliding window of FARM-1

`handle_farm_typea` (osdlp_cop.c:252-283) picks one of the events E1 to E5 by comparing
N(S) with V(R); `typeaEvent` names the event it picks.  `windowEvent` is what the window
is for: the event is decided by how far N(S) is ahead of V(R) or behind it, modulo 256.

For the window that `osdlp_prepare_farm` sets from an even width the two agree except at
two numbers (`typeaEvent_eq_windowEvent_iff`): the last number of the positive half when
that half wraps round, where `condition_farm_e3` compares with `<` what should be `<=`,
and N(S) = 255 when V(R) = 0, which the second clause of `condition_farm_e4` leaves out.
At both the receiver locks out (`typeaEvent_of_edge`).
-/

set_option autoImplicit false

namespace Osdlp.Analysis

open Osdlp.Model Osdlp.Library

/-- The events of FARM-1 for a type-A frame. -/
inductive FarmEvent
  | e1
  | e2
  | e3
  | e4
  | e5
  deriving DecidableEq, Repr

/-- The handler of an event. -/
def FarmEvent.handle : FarmEvent → FarmFrame → FarmResult × FarmFrame
  | .e1 => farmE1
  | .e2 => farmE2
  | .e3 => farmE3
  | .e4 => farmE4
  | .e5 => farmE5

/-- The event that the tests of the source pick.
SOURCE: osdlp_cop.c:252-283 -/
def typeaEvent (rxFull : Bool) (tf : FarmFrame) : FarmEvent :=
  if tf.primaryHdr.frameSeqNum = tf.copCfg.vr then
    if !rxFull then .e1 else .e2
  else if conditionFarmE3 tf then .e3
  else if conditionFarmE4 tf then .e4
  else .e5

/-- A type-A frame is handled by the handler of the event picked for it. -/
theorem osdlpFarm1_typeA (rxFull : Bool) (tf : FarmFrame) (h : tf.primaryHdr.bypass = .typeA) :
    osdlpFarm1 rxFull tf = (typeaEvent rxFull tf).handle tf := by
  unfold osdlpFarm1
  rw [h]
  unfold typeaEvent
  show handleFarmTypea rxFull tf = _
  unfold handleFarmTypea
  split_ifs <;> rfl

/-- How far N(S) is ahead of V(R). -/
def ahead (tf : FarmFrame) : ℕ := seqDist tf.copCfg.vr tf.primaryHdr.frameSeqNum

/-- How far N(S) is behind V(R). -/
def behind (tf : FarmFrame) : ℕ := seqDist tf.primaryHdr.frameSeqNum tf.copCfg.vr

/-- The event by distance alone: the purpose of the sliding window. -/
def windowEvent (rxFull : Bool) (tf : FarmFrame) : FarmEvent :=
  if ahead tf = 0 then
    if !rxFull then .e1 else .e2
  else if ahead tf ≤ tf.copCfg.pw.toNat - 1 then .e3
  else if behind tf ≤ tf.copCfg.nw.toNat then .e4
  else .e5

/-- The window variables as `osdlp_prepare_farm` leaves them for an even width.
SOURCE: osdlp_cop.c:39-47 -/
structure EvenWindow (farm : FarmConfig) : Prop where
  two_le : 2 ≤ farm.w.toNat
  even : farm.w.toNat % 2 = 0
  pw_eq : farm.pw.toNat = farm.w.toNat / 2
  nw_eq : farm.nw.toNat = farm.w.toNat / 2

/-- `osdlp_prepare_farm` halves the window. -/
theorem evenWindow_prepareFarm (farm : FarmConfig) (state : FarmState) (w : UInt8)
    (hw : 2 ≤ w.toNat) (he : w.toNat % 2 = 0) : EvenWindow (osdlpPrepareFarm farm state w) where
  two_le := hw
  even := he
  pw_eq := by simp [osdlpPrepareFarm]
  nw_eq := by simp [osdlpPrepareFarm]

/-- The two numbers at which the tests miss the window: its last number ahead when the
positive half wraps round, and 255 when V(R) is 0. -/
def OnEdge (tf : FarmFrame) : Prop :=
  (257 ≤ tf.copCfg.vr.toNat + tf.copCfg.pw.toNat ∧
    tf.primaryHdr.frameSeqNum.toNat + 257 = tf.copCfg.vr.toNat + tf.copCfg.pw.toNat) ∨
  (tf.copCfg.vr.toNat = 0 ∧ tf.primaryHdr.frameSeqNum.toNat = 255)

instance (tf : FarmFrame) : Decidable (OnEdge tf) := by unfold OnEdge; infer_instance

/-- The wrapped remainder of the source, for a sum that is not negative. -/
theorem tmod_256 {x : ℤ} (h : 0 ≤ x) : x.tmod 256 = x % 256 := Int.tmod_eq_emod_of_nonneg h

/-- The positive part of the window, up to the slip at its edge. -/
theorem conditionFarmE3_iff (tf : FarmFrame) (hw : EvenWindow tf.copCfg)
    (hne : tf.primaryHdr.frameSeqNum ≠ tf.copCfg.vr) :
    conditionFarmE3 tf = true ↔
      ahead tf ≤ tf.copCfg.pw.toNat - 1 ∧
        ¬ (257 ≤ tf.copCfg.vr.toNat + tf.copCfg.pw.toNat ∧
          tf.primaryHdr.frameSeqNum.toNat + 257 = tf.copCfg.vr.toNat + tf.copCfg.pw.toNat) := by
  obtain ⟨h2, he, hp, hn⟩ := hw
  have hns := tf.primaryHdr.frameSeqNum.toNat_lt
  have hvr := tf.copCfg.vr.toNat_lt
  have hwlt := tf.copCfg.w.toNat_lt
  have hne' : tf.primaryHdr.frameSeqNum.toNat ≠ tf.copCfg.vr.toNat :=
    fun h => hne (UInt8.toNat_inj.mp h)
  unfold conditionFarmE3
  simp only [Bool.or_eq_true, Bool.and_eq_true, decide_eq_true_eq]
  rw [tmod_256 (by omega)]
  unfold ahead
  rcases Nat.lt_or_gt_of_ne hne' with hlt | hgt
  · -- N(S) below V(R): ahead of it only across 255
    rw [seqDist_of_lt hlt]
    omega
  · rw [seqDist_of_le hgt.le]
    omega

/-- The negative part of the window, up to the slip at its edge. -/
theorem conditionFarmE4_iff (tf : FarmFrame) (hw : EvenWindow tf.copCfg)
    (hne : tf.primaryHdr.frameSeqNum ≠ tf.copCfg.vr) :
    conditionFarmE4 tf = true ↔
      behind tf ≤ tf.copCfg.nw.toNat ∧
        ¬ (tf.copCfg.vr.toNat = 0 ∧ tf.primaryHdr.frameSeqNum.toNat = 255) := by
  obtain ⟨h2, he, hp, hn⟩ := hw
  have hns := tf.primaryHdr.frameSeqNum.toNat_lt
  have hvr := tf.copCfg.vr.toNat_lt
  have hwlt := tf.copCfg.w.toNat_lt
  have hne' : tf.primaryHdr.frameSeqNum.toNat ≠ tf.copCfg.vr.toNat :=
    fun h => hne (UInt8.toNat_inj.mp h)
  unfold conditionFarmE4
  simp only [Bool.or_eq_true, Bool.and_eq_true, decide_eq_true_eq]
  rw [tmod_256 (by omega)]
  unfold behind
  rcases Nat.lt_or_gt_of_ne hne' with hlt | hgt
  · rw [seqDist_of_le hlt.le]
    omega
  · -- N(S) above V(R): behind it only across 255
    rw [seqDist_of_lt hgt]
    omega

/-- The two halves of the window are disjoint, so a number is ahead, behind or outside. -/
theorem behind_gt_of_ahead_le (tf : FarmFrame) (hw : EvenWindow tf.copCfg)
    (hne : tf.primaryHdr.frameSeqNum ≠ tf.copCfg.vr) (h : ahead tf ≤ tf.copCfg.pw.toNat - 1) :
    tf.copCfg.nw.toNat < behind tf := by
  obtain ⟨h2, he, hp, hn⟩ := hw
  have hns := tf.primaryHdr.frameSeqNum.toNat_lt
  have hvr := tf.copCfg.vr.toNat_lt
  have hwlt := tf.copCfg.w.toNat_lt
  have hne' : tf.primaryHdr.frameSeqNum.toNat ≠ tf.copCfg.vr.toNat :=
    fun h => hne (UInt8.toNat_inj.mp h)
  unfold ahead at h
  unfold behind
  rcases Nat.lt_or_gt_of_ne hne' with hlt | hgt
  · rw [seqDist_of_lt hlt] at h
    rw [seqDist_of_le hlt.le]
    omega
  · rw [seqDist_of_le hgt.le] at h
    rw [seqDist_of_lt hgt]
    omega

/-- N(S) is at distance 0 exactly when it is V(R). -/
theorem ahead_eq_zero (tf : FarmFrame) :
    ahead tf = 0 ↔ tf.primaryHdr.frameSeqNum = tf.copCfg.vr := by
  unfold ahead
  rw [seqDist_eq_zero, eq_comm]

/-- An edge number lies in the window, but the tests send it to E5. -/
theorem typeaEvent_of_edge (rxFull : Bool) (tf : FarmFrame) (hw : EvenWindow tf.copCfg)
    (h : OnEdge tf) :
    typeaEvent rxFull tf = .e5 ∧
      (windowEvent rxFull tf = .e3 ∨ windowEvent rxFull tf = .e4) := by
  have hvr := tf.copCfg.vr.toNat_lt
  have hns := tf.primaryHdr.frameSeqNum.toNat_lt
  have hwlt := tf.copCfg.w.toNat_lt
  have hp := hw.pw_eq
  have hnw := hw.nw_eq
  have h2 := hw.two_le
  have hne : tf.primaryHdr.frameSeqNum ≠ tf.copCfg.vr := by
    intro heq
    have := congrArg UInt8.toNat heq
    rcases h with ⟨-, h⟩ | ⟨h, h'⟩ <;> omega
  have h0 : ahead tf ≠ 0 := fun hz => hne ((ahead_eq_zero tf).mp hz)
  unfold typeaEvent windowEvent
  rw [if_neg hne, if_neg h0]
  rcases h with ⟨hwrap, hlast⟩ | ⟨hzero, htop⟩
  · -- the last number ahead, across 255
    have hlt : tf.primaryHdr.frameSeqNum.toNat < tf.copCfg.vr.toNat := by omega
    have hahead : ahead tf = tf.copCfg.pw.toNat - 1 := by
      unfold ahead
      rw [seqDist_of_lt hlt]
      omega
    have hbehind := behind_gt_of_ahead_le tf hw hne hahead.le
    rw [if_neg, if_neg, if_pos hahead.le]
    · exact ⟨rfl, Or.inl rfl⟩
    · rw [conditionFarmE4_iff tf hw hne]
      omega
    · rw [conditionFarmE3_iff tf hw hne]
      omega
  · -- 255 when V(R) is 0
    have hgt : tf.copCfg.vr.toNat < tf.primaryHdr.frameSeqNum.toNat := by omega
    have hahead : ahead tf = 255 := by
      unfold ahead
      rw [seqDist_of_le hgt.le]
      omega
    have hbehind : behind tf = 1 := by
      unfold behind
      rw [seqDist_of_lt hgt]
      omega
    rw [if_neg, if_neg, if_neg (by omega), if_pos (by omega)]
    · exact ⟨rfl, Or.inr rfl⟩
    · rw [conditionFarmE4_iff tf hw hne]
      omega
    · rw [conditionFarmE3_iff tf hw hne]
      omega

/-- Off the edges the tests pick the event of the window. -/
theorem typeaEvent_of_not_edge (rxFull : Bool) (tf : FarmFrame) (hw : EvenWindow tf.copCfg)
    (h : ¬ OnEdge tf) : typeaEvent rxFull tf = windowEvent rxFull tf := by
  unfold typeaEvent windowEvent
  by_cases heq : tf.primaryHdr.frameSeqNum = tf.copCfg.vr
  · rw [if_pos heq, if_pos ((ahead_eq_zero tf).mpr heq)]
  · rw [if_neg heq, if_neg (fun hz => heq ((ahead_eq_zero tf).mp hz))]
    unfold OnEdge at h
    have h3 := conditionFarmE3_iff tf hw heq
    have h4 := conditionFarmE4_iff tf hw heq
    simp only [h3, h4]
    split_ifs <;> first | rfl | omega

/-- The window as it is meant to be: E1 and E2 for V(R) itself, E3 for the numbers ahead of
it within the positive half, E4 for those behind it within the negative half, E5 for all
others; the handler of the event is run, and a number in either half causes no lockout. -/
structure WindowExact (rxFull : Bool) (tf : FarmFrame) : Prop where
  acts : osdlpFarm1 rxFull tf = (typeaEvent rxFull tf).handle tf
  e1 : typeaEvent rxFull tf = .e1 ↔ tf.primaryHdr.frameSeqNum = tf.copCfg.vr ∧ rxFull = false
  e2 : typeaEvent rxFull tf = .e2 ↔ tf.primaryHdr.frameSeqNum = tf.copCfg.vr ∧ rxFull = true
  e3 : typeaEvent rxFull tf = .e3 ↔ 0 < ahead tf ∧ ahead tf ≤ tf.copCfg.pw.toNat - 1
  e4 : typeaEvent rxFull tf = .e4 ↔ 0 < behind tf ∧ behind tf ≤ tf.copCfg.nw.toNat
  e5 : typeaEvent rxFull tf = .e5 ↔
    tf.primaryHdr.frameSeqNum ≠ tf.copCfg.vr ∧ tf.copCfg.pw.toNat - 1 < ahead tf ∧
      tf.copCfg.nw.toNat < behind tf
  noLockout : ahead tf ≤ tf.copCfg.pw.toNat - 1 ∨ behind tf ≤ tf.copCfg.nw.toNat →
    (osdlpFarm1 rxFull tf).2.copCfg.state = .stateLockout → tf.copCfg.state = .stateLockout

theorem behind_eq_zero (tf : FarmFrame) :
    behind tf = 0 ↔ tf.primaryHdr.frameSeqNum = tf.copCfg.vr := by
  unfold behind
  rw [seqDist_eq_zero]

/-- Only E5 takes a receiver into lockout. -/
theorem handle_lockout (e : FarmEvent) (tf : FarmFrame) (he : e ≠ .e5)
    (h : (e.handle tf).2.copCfg.state = .stateLockout) : tf.copCfg.state = .stateLockout := by
  cases e with
  | e5 => exact absurd rfl he
  | e1 =>
    cases hs : tf.copCfg.state <;> simp only [FarmEvent.handle, farmE1, hs] at h
    · split at h <;> simp_all
    · simp_all
    · rfl
  | e2 => cases hs : tf.copCfg.state <;> simp_all [FarmEvent.handle, farmE2]
  | e3 => cases hs : tf.copCfg.state <;> simp_all [FarmEvent.handle, farmE3]
  | e4 => cases hs : tf.copCfg.state <;> simp_all [FarmEvent.handle, farmE4]

/-- The event of the window is characterised by the distances. -/
theorem windowExact_of_eq (rxFull : Bool) (tf : FarmFrame) (hw : EvenWindow tf.copCfg)
    (htype : tf.primaryHdr.bypass = .typeA)
    (h : typeaEvent rxFull tf = windowEvent rxFull tf) : WindowExact rxFull tf := by
  have hz := ahead_eq_zero tf
  have hz' := behind_eq_zero tf
  have hdisj : tf.primaryHdr.frameSeqNum ≠ tf.copCfg.vr →
      ahead tf ≤ tf.copCfg.pw.toNat - 1 → tf.copCfg.nw.toNat < behind tf :=
    behind_gt_of_ahead_le tf hw
  have hacts := osdlpFarm1_typeA rxFull tf htype
  have hevent : ∀ e, typeaEvent rxFull tf = e ↔ windowEvent rxFull tf = e := fun e => by rw [h]
  refine ⟨hacts, ?_, ?_, ?_, ?_, ?_, ?_⟩
  · rw [hevent]
    unfold windowEvent
    cases rxFull <;> split_ifs <;> simp_all
  · rw [hevent]
    unfold windowEvent
    cases rxFull <;> split_ifs <;> simp_all
  · rw [hevent]
    unfold windowEvent
    split_ifs <;> simp <;> omega
  · rw [hevent]
    unfold windowEvent
    by_cases heq : tf.primaryHdr.frameSeqNum = tf.copCfg.vr
    · rw [if_pos (hz.mpr heq), hz'.mpr heq]
      split_ifs <;> simp
    · have h0 : behind tf ≠ 0 := fun h0 => heq (hz'.mp h0)
      have := hdisj heq
      rw [if_neg (fun h0 => heq (hz.mp h0))]
      split_ifs <;> simp <;> omega
  · rw [hevent]
    unfold windowEvent
    by_cases heq : tf.primaryHdr.frameSeqNum = tf.copCfg.vr
    · rw [if_pos (hz.mpr heq)]
      split_ifs <;> simp [heq]
    · rw [if_neg (fun h0 => heq (hz.mp h0))]
      split_ifs <;> simp [heq] <;> omega
  · intro hin hlock
    rw [hacts] at hlock
    refine handle_lockout _ tf ?_ hlock
    rw [h]
    unfold windowEvent
    split_ifs <;> simp only [ne_eq, reduceCtorEq, not_false_eq_true, not_true_eq_false]
    omega

/-- The code meets the window exactly off its two edges.
SOURCE: osdlp_cop.c:226-283 -/
theorem windowExact_iff_not_edge (rxFull : Bool) (tf : FarmFrame) (hw : EvenWindow tf.copCfg)
    (htype : tf.primaryHdr.bypass = .typeA) : WindowExact rxFull tf ↔ ¬ OnEdge tf := by
  constructor
  · intro hexact hedge
    have hne := (typeaEvent_of_edge rxFull tf hw hedge).1
    obtain ⟨hne', hahead, hbehind⟩ := hexact.e5.mp hne
    have h0 : ahead tf ≠ 0 := fun hz => hne' ((ahead_eq_zero tf).mp hz)
    have hwin := (typeaEvent_of_edge rxFull tf hw hedge).2
    unfold windowEvent at hwin
    rw [if_neg h0, if_neg (by omega), if_neg (by omega)] at hwin
    simp at hwin
  · intro hedge
    exact windowExact_of_eq rxFull tf hw htype (typeaEvent_of_not_edge rxFull tf hw hedge)

/-- A receiver in its first state after `osdlp_prepare_farm` with width 10, and the frame
number 2 ahead of it. -/
theorem windowExact_iff_not_edge_ahead :
    let tf : FarmFrame :=
      { (default : FarmFrame) with
        primaryHdr := { (default : TcPrimaryHdr) with frameSeqNum := 2 }
        copCfg := osdlpPrepareFarm default .stateOpen 10 }
    WindowExact false tf ↔ ¬ OnEdge tf :=
  windowExact_iff_not_edge false _ (evenWindow_prepareFarm default .stateOpen 10 (by decide)
    (by decide)) rfl

/-- After `osdlp_prepare_farm` with width 10, a frame numbered 255, one behind V(R) = 0 and
so inside the negative half of the window, locks the receiver out. -/
theorem not_windowExact_behind_zero :
    let tf : FarmFrame :=
      { (default : FarmFrame) with
        primaryHdr := { (default : TcPrimaryHdr) with frameSeqNum := 255 }
        copCfg := osdlpPrepareFarm default .stateOpen 10 }
    EvenWindow tf.copCfg ∧ tf.primaryHdr.bypass = .typeA ∧ behind tf = 1 ∧
      (osdlpFarm1 false tf).2.copCfg.state = .stateLockout ∧ ¬ WindowExact false tf := by
  intro tf
  have hevent : typeaEvent false tf = .e5 := by decide
  refine ⟨evenWindow_prepareFarm default .stateOpen 10 (by decide) (by decide), rfl, by decide,
    by decide, fun h => ?_⟩
  have hbehind := (h.e5.mp hevent).2.2
  revert hbehind
  decide

end Osdlp.Analysis
