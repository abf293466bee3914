import Osdlp.Interface.SentQueue

/-!
# The judgement of N(R)

`osdlp_handle_clcw` has to tell the report values that acknowledge something, or nothing,
from those that cannot be right: with n frames outstanding, the value d steps ahead of
NN(R) is right exactly when d ≤ n (`JudgesExactly`).

The range test is `clcwInRange_of_le` and `clcwInRange_of_lt`: while V(S) has not
wrapped round behind NN(R) it lets every value pass, and once it has it leaves out NN(R)
itself.  `judgesExactly_iff` adds the third way to go wrong, a handler that has nothing to
transmit and returns whatever the signal field holds.
-/

set_option autoImplicit false

namespace Osdlp.Analysis

open Osdlp.Model Osdlp.Interface Osdlp.Library

/-- The AD service runs, the sent queue holds the outstanding frames, no more than the
window allows, and transmission is possible. -/
structure Outstanding (s : Fop) : Prop where
  ad : isAd s.tf.copCfg.state
  mirrors : Mirrors s
  window : seqDist s.tf.copCfg.nnr s.tf.copCfg.vs ≤ s.tf.copCfg.slideWnd.toNat
  txLim : 1 ≤ s.tf.copCfg.txLim.toNat

/-- How many frames are outstanding. -/
def outstanding (s : Fop) : ℕ := seqDist s.tf.copCfg.nnr s.tf.copCfg.vs

/-- How many frames a report value acknowledges. -/
def acknowledges (s : Fop) (nr : UInt8) : ℕ := seqDist s.tf.copCfg.nnr nr

/-- The control word is judged by its report value alone: with too much acknowledged it is
an alert that ends the service, and otherwise, unless some other alert does, exactly the
acknowledged frames leave the sent queue, while at most one new frame joins it. -/
structure JudgesExactly (s : Fop) (nr : UInt8) (r : Notification × Fop) : Prop where
  reject : outstanding s < acknowledges s nr →
    r.1 = .alertNnr ∧ r.2.tf.copCfg.state = .init ∧ r.2.world.sentQueue = [] ∧
      r.2.world.waitQueue = []
  accept : acknowledges s nr ≤ outstanding s → r.1 ≠ .alertNnr
  acked : acknowledges s nr ≤ outstanding s → r.1.isAlert = false →
    r.2.tf.copCfg.nnr = nr ∧
      ∃ new : List QueueItem, new.length ≤ 1 ∧
        (∀ item ∈ new, itemKey item = (s.tf.copCfg.vs, .typeA)) ∧
        r.2.world.sentQueue.map itemCopy =
          (s.world.sentQueue.drop (acknowledges s nr) ++ new).map itemCopy

/-! ## The range test -/

/-- Without a wrap every report value passes. -/
theorem clcwInRange_of_le {fop : FopConfig} {nr : UInt8} (hle : fop.nnr.toNat ≤ fop.vs.toNat)
    (hne : fop.vs ≠ nr) : clcwInRange fop nr = true := by
  have hne' : fop.vs.toNat ≠ nr.toNat := fun h => hne (UInt8.toNat_inj.mp h)
  simp only [clcwInRange, Bool.or_eq_true, Bool.and_eq_true, decide_eq_true_eq, gt_iff_lt, ge_iff_le,
    UInt8.lt_iff_toNat_lt, UInt8.le_iff_toNat_le]
  omega

/-- After a wrap exactly the right values pass, except NN(R). -/
theorem clcwInRange_of_lt {fop : FopConfig} {nr : UInt8} (hlt : fop.vs.toNat < fop.nnr.toNat)
    (hne : fop.vs ≠ nr) :
    clcwInRange fop nr = true ↔
      seqDist fop.nnr nr ≤ seqDist fop.nnr fop.vs ∧ nr ≠ fop.nnr := by
  have hne' : fop.vs.toNat ≠ nr.toNat := fun h => hne (UInt8.toNat_inj.mp h)
  have hnr : nr ≠ fop.nnr ↔ nr.toNat ≠ fop.nnr.toNat := not_congr UInt8.toNat_inj.symm
  have hn := nr.toNat_lt
  have hnn := fop.nnr.toNat_lt
  have hd := seqDist_of_lt hlt
  rw [hnr, hd]
  simp only [clcwInRange, Bool.or_eq_true, Bool.and_eq_true, decide_eq_true_eq, gt_iff_lt, ge_iff_le,
    UInt8.lt_iff_toNat_lt, UInt8.le_iff_toNat_le]
  rcases Nat.lt_or_ge nr.toNat fop.nnr.toNat with hlt' | hle'
  · rw [seqDist_of_lt hlt']
    omega
  · rw [seqDist_of_le hle']
    omega

/-! ## What the handlers return -/

/-- What comes of the search for a frame to transmit, from the state `a`. -/
structure Looked (a : Fop) (r : Notification × Fop) : Prop where
  notif : (a.world.waitQueue = [] ∧ r.1 = a.tf.copCfg.signal) ∨
    (a.world.waitQueue ≠ [] ∧ (r.1 = .acceptTx ∨ r.1 = .delayResp))
  nnr : r.2.tf.copCfg.nnr = a.tf.copCfg.nnr
  ad : isAd r.2.tf.copCfg.state
  sent : ∃ new : List QueueItem, new.length ≤ 1 ∧
    (∀ item ∈ new, itemKey item = (a.tf.copCfg.vs, .typeA)) ∧
    r.2.world.sentQueue.map itemCopy = (a.world.sentQueue ++ new).map itemCopy

/-- The search only looks at what the two states share. -/
theorem Looked.congr {a b : Fop} {r : Notification × Fop} (h : Looked a r)
    (hwait : b.world.waitQueue = a.world.waitQueue)
    (hsignal : b.tf.copCfg.signal = a.tf.copCfg.signal)
    (hnnr : b.tf.copCfg.nnr = a.tf.copCfg.nnr) (hvs : b.tf.copCfg.vs = a.tf.copCfg.vs)
    (hsent : b.world.sentQueue.map itemCopy = a.world.sentQueue.map itemCopy) : Looked b r where
  notif := by
    rw [hwait, hsignal]
    exact h.notif
  nnr := by
    rw [hnnr]
    exact h.nnr
  ad := h.ad
  sent := by
    obtain ⟨new, hlen, hkey, heq⟩ := h.sent
    refine ⟨new, hlen, by rw [hvs]; exact hkey, ?_⟩
    rw [heq, List.map_append, List.map_append, hsent]

variable (keep : List Bool)

/-- A frame that goes out again stays in the sent queue. -/
theorem resent_itemCopy (a : Fop) :
    (resent a).world.sentQueue.map itemCopy = a.world.sentQueue.map itemCopy := by
  unfold resent
  split
  · rfl
  · exact map_itemCopy_resetRt _ _

/-- What comes of `osdlp_look_for_fdu` and the report that follows it. -/
theorem lookThenReport_looked (a : Fop) (state : Option FopState)
    (ha : isAd a.tf.copCfg.state) (hstate : ∀ st ∈ state, isAd st) :
    Looked a (lookThenReport (fifoHooks keep) state a) := by
  have hlook : osdlpLookForFdu (fifoHooks keep) a = lookForWaiting (fifoHooks keep) (resent a) := by
    unfold osdlpLookForFdu
    rw [bind_apply, lookForRetransmission_apply]
  -- the state the service is left in is one in which it runs, whatever the report says
  have hfinal : ∀ notif (b : Fop), isAd b.tf.copCfg.state → ∀ r : Notification × Fop,
      osdlpLookForFdu (fifoHooks keep) a = (notif, b) →
      r = lookThenReport (fifoHooks keep) state a →
      (r.1 = if notif ≠ .ignore then notif else b.tf.copCfg.signal) ∧
        r.2.tf.copCfg.nnr = b.tf.copCfg.nnr ∧ isAd r.2.tf.copCfg.state ∧
        r.2.world.sentQueue = b.world.sentQueue := by
    rintro notif b hb r hl rfl
    unfold lookThenReport
    rw [bind_apply, hl]
    cases state with
    | none =>
      unfold report
      dsimp only
      rw [ite_apply_state]
      split_ifs <;> exact ⟨rfl, rfl, hb, rfl⟩
    | some st =>
      have hst := hstate st rfl
      unfold report
      simp only [bind_apply, ite_apply_state]
      split_ifs <;> exact ⟨rfl, rfl, hst, rfl⟩
  rw [lookForWaiting_apply] at hlook
  split_ifs at hlook with hempty hroom
  · have hwait : a.world.waitQueue = [] := by
      rw [← resent_waitQueue]
      exact List.isEmpty_iff.mp hempty
    obtain ⟨h1, h2, h3, h4⟩ := hfinal _ _ (by rw [resent_tf]; exact ha) _ hlook rfl
    rw [resent_tf] at h1 h2
    exact ⟨.inl ⟨hwait, h1⟩, h2, h3, [], by simp, by simp, by rw [h4, List.append_nil, resent_itemCopy]⟩
  · have hwait : a.world.waitQueue ≠ [] := by
      rw [← resent_waitQueue]
      exact fun h => hempty (by rw [h]; rfl)
    obtain ⟨h1, h2, h3, h4⟩ := hfinal _ _ (by
      show isAd (resent a).tf.copCfg.state
      rw [resent_tf]
      exact ha) _ hlook rfl
    refine ⟨.inr ⟨hwait, .inl h1⟩, by rw [h2, ← resent_tf a]; rfl, h3, ?_⟩
    refine ⟨[newItem (resent a)], le_refl _, fun item hitem => ?_, ?_⟩
    · rw [List.mem_singleton.mp hitem, ← resent_tf a]
      rfl
    · rw [h4]
      show ((resent a).world.sentQueue ++ [newItem (resent a)]).map itemCopy = _
      rw [List.map_append, resent_itemCopy, ← List.map_append]
  · have hwait : a.world.waitQueue ≠ [] := by
      rw [← resent_waitQueue]
      exact fun h => hempty (by rw [h]; rfl)
    obtain ⟨h1, h2, h3, h4⟩ := hfinal _ _ (by
      show isAd (resent a).tf.copCfg.state
      rw [resent_tf]
      exact ha) _ hlook rfl
    exact ⟨.inr ⟨hwait, .inr h1⟩, by rw [h2, ← resent_tf a]; rfl, h3, [], by simp, by simp,
      by rw [h4, List.append_nil]; exact resent_itemCopy a⟩

/-- Nothing comes of the control word but the acknowledgement, or the service ends with an
alert that is not about N(R). -/
def Quiet (a : Fop) (r : Notification × Fop) : Prop :=
  (r.1 = .ignore ∧ r.2.tf.copCfg.nnr = a.tf.copCfg.nnr ∧ isAd r.2.tf.copCfg.state ∧
      r.2.world.sentQueue = a.world.sentQueue) ∨
    (r.1.isAlert = true ∧ r.1 ≠ .alertNnr)

/-- The sender once the acknowledged frames are gone. -/
def ackedBy (nr : UInt8) (s : Fop) : Fop := acked nr (s.tf.copCfg.slideWnd.toNat + 1) s

/-- The removal leaves the waiting frames, the signal, V(S) and the state. -/
theorem ackedBy_world (nr : UInt8) (s : Fop) :
    (ackedBy nr s).world.waitQueue = s.world.waitQueue ∧
      (ackedBy nr s).tf.copCfg.signal = s.tf.copCfg.signal ∧
      (ackedBy nr s).tf.copCfg.vs = s.tf.copCfg.vs ∧
      (ackedBy nr s).tf.copCfg.state = s.tf.copCfg.state := by
  unfold ackedBy acked
  split_ifs <;> exact ⟨rfl, rfl, rfl, rfl⟩

theorem removeAckedThen_apply (clcw : ClcwFrame) (next : FopM FifoWorld Notification) (s : Fop) :
    removeAckedThen (fifoHooks keep) clcw next s = next (ackedBy clcw.reportValue s) :=
  removeAckedThen_acked keep clcw next s

theorem alertTo_quiet {a : Fop} {notif : Notification} (hn : notif.isAlert = true)
    (hne : notif ≠ .alertNnr) (b : Fop) : Quiet a (alertTo (fifoHooks keep) notif b) :=
  .inr ⟨hn, hne⟩

/-- Marks do not change what a search finds waiting. -/
theorem looked_of_retransmitting {a : Fop} (ha : isAd a.tf.copCfg.state) {state : Option FopState}
    (hstate : ∀ st ∈ state, isAd st) :
    Looked a (adRetransmissionThen (fifoHooks keep) (lookThenReport (fifoHooks keep) state) a) :=
  (lookThenReport_looked keep (retransmitting keep a) state ha hstate).congr rfl rfl rfl rfl
    (map_itemCopy_markRt _ _).symm

section Events

variable {s : Fop} (hs : isAd s.tf.copCfg.state) (clcw : ClcwFrame)

include hs

theorem ackedBy_isAd (nr : UInt8) : isAd (ackedBy nr s).tf.copCfg.state := by
  rw [(ackedBy_world nr s).2.2.2]
  exact hs

/-- E2 cancels the timer and searches. -/
theorem fopE2_looked : Looked (ackedBy clcw.reportValue s) (fopE2 (fifoHooks keep) clcw s) := by
  have hrun : Looked (ackedBy clcw.reportValue s)
      (removeAckedThen (fifoHooks keep) clcw (do
        let _ ← (fifoHooks keep).timerCancel
        lookThenReport (fifoHooks keep) none) s) := by
    rw [removeAckedThen_apply]
    exact (lookThenReport_looked keep
      (onWorld (ackedBy clcw.reportValue s) fun w => { w with timerRunning := false }) none
      (ackedBy_isAd hs _) (by simp)).congr rfl rfl rfl rfl rfl
  unfold fopE2
  rw [bind_apply, getFop_apply]
  cases hst : s.tf.copCfg.state with
  | active | rtNoWait | rtWait => exact hrun
  | initNoBc | initBc | init => rw [hst] at hs; exact absurd hs (by decide)

/-- E6 searches, before or after the change of state. -/
theorem fopE6_looked : Looked (ackedBy clcw.reportValue s) (fopE6 (fifoHooks keep) clcw s) := by
  have ha := ackedBy_isAd hs clcw.reportValue
  unfold fopE6
  rw [bind_apply, getFop_apply]
  cases hst : s.tf.copCfg.state with
  | active =>
    simp only [removeAckedThen_apply]
    exact lookThenReport_looked keep _ none ha (by simp)
  | rtNoWait =>
    simp only [removeAckedThen_apply, bind_apply]
    exact (lookThenReport_looked keep ((ackedBy clcw.reportValue s).setFop
      { (ackedBy clcw.reportValue s).tf.copCfg with state := .active }) none rfl
      (by simp)).congr rfl rfl rfl rfl rfl
  | rtWait =>
    simp only [removeAckedThen_apply]
    exact lookThenReport_looked keep _ (some .active) ha (by simp [isAd])
  | initNoBc | initBc | init => rw [hst] at hs; exact absurd hs (by decide)

/-- E8 marks what is left and searches. -/
theorem fopE8_looked : Looked (ackedBy clcw.reportValue s) (fopE8 (fifoHooks keep) clcw s) := by
  have ha := ackedBy_isAd hs clcw.reportValue
  unfold fopE8
  rw [bind_apply, getFop_apply]
  cases hst : s.tf.copCfg.state with
  | active | rtWait =>
    simp only [removeAckedThen_apply]
    exact looked_of_retransmitting keep ha (by simp [isAd])
  | rtNoWait =>
    simp only [removeAckedThen_apply]
    exact looked_of_retransmitting keep ha (by simp)
  | initNoBc | initBc | init => rw [hst] at hs; exact absurd hs (by decide)

/-- E9 only goes to RT_WAIT. -/
theorem fopE9_quiet : Quiet (ackedBy clcw.reportValue s) (fopE9 (fifoHooks keep) clcw s) := by
  unfold fopE9
  rw [bind_apply, getFop_apply]
  cases hst : s.tf.copCfg.state with
  | active | rtNoWait | rtWait =>
    simp only [removeAckedThen_apply]
    exact .inl ⟨rfl, rfl, rfl, rfl⟩
  | initNoBc | initBc | init => rw [hst] at hs; exact absurd hs (by decide)

/-- E101 ends in an alert about the limit. -/
theorem fopE101_quiet (a : Fop) : Quiet a (fopE101 (fifoHooks keep) clcw s) := by
  unfold fopE101
  rw [bind_apply, getFop_apply]
  cases hst : s.tf.copCfg.state with
  | active | rtNoWait =>
    simp only [removeAckedThen_apply]
    exact alertTo_quiet keep rfl (by decide) _
  | rtWait => exact alertTo_quiet keep rfl (by decide) _
  | initNoBc | initBc | init => rw [hst] at hs; exact absurd hs (by decide)

/-- E1 finds the service idle or alerts about the synchronisation. -/
theorem fopE1_quiet : Quiet s (fopE1 (fifoHooks keep) s) := by
  unfold fopE1
  rw [bind_apply, getFop_apply]
  cases hst : s.tf.copCfg.state with
  | active => exact .inl ⟨rfl, rfl, hs, rfl⟩
  | rtNoWait | rtWait => exact alertTo_quiet keep rfl (by decide) _
  | initNoBc | initBc | init => rw [hst] at hs; exact absurd hs (by decide)

/-- E3, E4 and E7 are alerts; the others find `a` unchanged, are alerts or wait. -/
theorem restHandler_quiet {kind : ClcwKind} (hkind : kind.rests = true) (h13 : kind ≠ .e13)
    {a : Fop} (hself : kind ≠ .e3 → kind ≠ .e4 → kind ≠ .e7 → a = s) :
    Quiet a (kind.handler (fifoHooks keep) clcw s) := by
  have houtcome := @restHandler_outcome keep kind hkind clcw s
  generalize kind.handler (fifoHooks keep) clcw s = r at houtcome
  cases houtcome with
  | unchanged notif hrests =>
    obtain ⟨rfl, hwhich⟩ := hrests hs
    have ha : a = s := by
      rcases hwhich with ⟨rfl, -⟩ | ⟨rfl, -⟩ | ⟨rfl | rfl, -⟩ <;>
        exact hself (by decide) (by decide) (by decide)
    rw [ha]
    exact .inl ⟨rfl, rfl, hs, rfl⟩
  | alert notif hnotif _ _ hnnr => exact alertTo_quiet keep hnotif (hnnr h13) s
  | enters state had hstate =>
    have ha : a = s := by
      rcases hstate with ⟨rfl, -⟩ | ⟨rfl | rfl, -⟩ <;>
        exact hself (by decide) (by decide) (by decide)
    rw [ha]
    rcases hstate with ⟨-, rfl⟩ | ⟨-, rfl⟩ <;> exact .inl ⟨rfl, rfl, rfl, rfl⟩

/-- E10 marks what is outstanding and searches. -/
theorem fopE10_looked (hne : s.tf.copCfg.state ≠ .rtNoWait) :
    Looked s (fopE10 (fifoHooks keep) s) := by
  unfold fopE10
  rw [bind_apply, getFop_apply]
  cases hst : s.tf.copCfg.state with
  | active | rtWait => exact looked_of_retransmitting keep hs (by simp [isAd])
  | rtNoWait => exact absurd hst hne
  | initNoBc | initBc | init => rw [hst] at hs; exact absurd hs (by decide)

/-- In RT_NO_WAIT the outstanding frames are marked already, and E10 does nothing. -/
theorem fopE10_quiet (hst : s.tf.copCfg.state = .rtNoWait) :
    Quiet s (fopE10 (fifoHooks keep) s) := by
  unfold fopE10
  rw [bind_apply, getFop_apply]
  simp only [hst]
  exact .inl ⟨rfl, rfl, hs, rfl⟩

/-- E13 is the alert about N(R). -/
theorem fopE13_apply : fopE13 (fifoHooks keep) s = (.alertNnr, alerted .alertNnr s) := by
  unfold fopE13
  rw [bind_apply, getFop_apply]
  cases hst : s.tf.copCfg.state with
  | active | rtNoWait | rtWait => rfl
  | initNoBc | initBc | init => rw [hst] at hs; exact absurd hs (by decide)

end Events

/-! ## Which control words go right -/

/-- The handler looks for a frame to transmit. -/
def Searches (fop : FopConfig) (clcw : ClcwFrame) : Prop :=
  clcw.wait = false ∧
    ((clcw.rt = false ∧ clcw.reportValue ≠ fop.nnr) ∨
      (clcw.rt = true ∧ clcw.reportValue ≠ fop.vs ∧ fop.txLim ≠ 1 ∧
        (clcw.reportValue ≠ fop.nnr ∨ (fop.txCnt < fop.txLim ∧ fop.state ≠ .rtNoWait))))

/-- Nothing is removed when NN(R) is reported again. -/
theorem ackedBy_nnr {s : Fop} (hm : Mirrors s) : ackedBy s.tf.copCfg.nnr s = s := by
  have hsame : dropAcked s.tf.copCfg.nnr (s.tf.copCfg.slideWnd.toNat + 1) s.world.sentQueue =
      s.world.sentQueue := by
    have hnum := hm.seqNums
    cases hq : s.world.sentQueue with
    | nil => rfl
    | cons item items =>
      rw [hq, List.map_cons, List.length_cons, consecutive, List.cons.injEq] at hnum
      rw [dropAcked, if_pos hnum.1]
  unfold ackedBy acked
  rw [if_pos hsame]

/-- A control word without lockout that passes the range test acknowledges first, and then
either looks for a frame to transmit or does nothing more. -/
theorem clcwEvent_judged {s : Fop} (ho : Outstanding s) (clcw : ClcwFrame)
    (hlock : clcw.lockout = false)
    (hrange : s.tf.copCfg.vs = clcw.reportValue ∨ clcwInRange s.tf.copCfg clcw.reportValue = true) :
    let r := clcwEvent (fifoHooks keep) s.tf.copCfg clcw s
    (Searches s.tf.copCfg clcw ∧ Looked (ackedBy clcw.reportValue s) r) ∨
      (¬ Searches s.tf.copCfg clcw ∧ Quiet (ackedBy clcw.reportValue s) r) := by
  have hs := ho.ad
  have hself : clcw.reportValue = s.tf.copCfg.nnr → ackedBy clcw.reportValue s = s :=
    fun h => h ▸ ackedBy_nnr ho.mirrors
  have hlim : s.tf.copCfg.txLim ≠ 1 → s.tf.copCfg.txLim > 1 := by
    intro h1
    have h1' : s.tf.copCfg.txLim.toNat ≠ 1 := fun h => h1 (UInt8.toNat_inj.mp h)
    have := ho.txLim
    rw [gt_iff_lt, UInt8.lt_iff_toNat_lt]
    show 1 < _
    omega
  have hone : s.tf.copCfg.txLim > 1 → s.tf.copCfg.txLim ≠ 1 := by
    intro hlim heq
    rw [heq] at hlim
    exact absurd hlim (by decide)
  have hguard := clcwKind_guard s.tf.copCfg clcw
  intro r
  show _ ∨ _
  simp only [r, clcwEvent_eq, Searches]
  -- one case for each event of the control word; its guard says which part of `Searches` fails
  cases hkind : clcwKind s.tf.copCfg clcw with
  | e1 =>
    rw [hkind] at hguard
    obtain ⟨-, ⟨hrt, -⟩, hnr⟩ := hguard
    exact .inr ⟨by simp [hrt, hnr], (hself hnr).symm ▸ fopE1_quiet keep hs⟩
  | e2 =>
    rw [hkind] at hguard
    obtain ⟨-, ⟨hrt, hwait⟩, hnr⟩ := hguard
    exact .inl ⟨⟨hwait, .inl ⟨hrt, hnr⟩⟩, fopE2_looked keep hs clcw⟩
  | e3 =>
    rw [hkind] at hguard
    obtain ⟨-, -, hwait⟩ := hguard
    exact .inr ⟨by simp [hwait], restHandler_quiet keep hs clcw rfl (by decide)
      fun hne => absurd rfl hne⟩
  | e4 =>
    rw [hkind] at hguard
    obtain ⟨⟨-, hvs⟩, hrt⟩ := hguard
    exact .inr ⟨by simp [hrt, hvs], restHandler_quiet keep hs clcw rfl (by decide)
      fun _ hne => absurd rfl hne⟩
  | e5 =>
    rw [hkind] at hguard
    obtain ⟨-, ⟨hrt, -⟩, hnr⟩ := hguard
    exact .inr ⟨by simp [hrt, hnr], restHandler_quiet keep hs clcw rfl (by decide)
      fun _ _ _ => hself hnr⟩
  | e6 =>
    rw [hkind] at hguard
    obtain ⟨-, ⟨hrt, hwait⟩, hnr⟩ := hguard
    exact .inl ⟨⟨hwait, .inl ⟨hrt, hnr⟩⟩, fopE6_looked keep hs clcw⟩
  | e7 =>
    rw [hkind] at hguard
    obtain ⟨-, -, hwait⟩ := hguard
    exact .inr ⟨by simp [hwait], restHandler_quiet keep hs clcw rfl (by decide)
      fun _ _ hne => absurd rfl hne⟩
  | e101 =>
    rw [hkind] at hguard
    obtain ⟨-, hrt, hone, -⟩ := hguard
    exact .inr ⟨by simp [hrt, hone], fopE101_quiet keep hs clcw _⟩
  | e102 =>
    rw [hkind] at hguard
    obtain ⟨-, hrt, hone, hnr⟩ := hguard
    exact .inr ⟨by simp [hrt, hone], restHandler_quiet keep hs clcw rfl (by decide)
      fun _ _ _ => hself hnr⟩
  | e8 =>
    rw [hkind] at hguard
    obtain ⟨⟨⟨-, hvs, -⟩, hrt, hlim⟩, hnr, hwait⟩ := hguard
    exact .inl ⟨⟨hwait, .inr ⟨hrt, hvs.symm, hone hlim, .inl hnr⟩⟩, fopE8_looked keep hs clcw⟩
  | e9 =>
    rw [hkind] at hguard
    obtain ⟨-, -, hwait⟩ := hguard
    exact .inr ⟨by simp [hwait], fopE9_quiet keep hs clcw⟩
  | e10 =>
    rw [hkind] at hguard
    obtain ⟨⟨⟨-, hvs, -⟩, hrt, hlim⟩, hnr, hcnt, hwait⟩ := hguard
    rw [hself hnr]
    -- in RT_NO_WAIT the frames are already marked, and `fopE10` starts nothing anew
    by_cases hst : s.tf.copCfg.state = .rtNoWait
    · exact .inr ⟨by simp [hrt, hnr, hst], fopE10_quiet keep hs hst⟩
    · exact .inl ⟨⟨hwait, .inr ⟨hrt, hvs.symm, hone hlim, .inr ⟨hcnt, hst⟩⟩⟩,
        fopE10_looked keep hs hst⟩
  | e11 =>
    rw [hkind] at hguard
    obtain ⟨-, hnr, -, hwait⟩ := hguard
    exact .inr ⟨by simp [hwait], restHandler_quiet keep hs clcw rfl (by decide)
      fun _ _ _ => hself hnr⟩
  | e12 | e103 =>
    rw [hkind] at hguard
    obtain ⟨⟨-, hrt, -⟩, hnr, hcnt, -⟩ := hguard
    exact .inr ⟨by simp [hrt, hnr, hcnt], restHandler_quiet keep hs clcw rfl (by decide)
      fun _ _ _ => hself hnr⟩
  | undefined =>
    rw [hkind] at hguard
    obtain ⟨-, -, hone, hfew⟩ := hguard
    exact absurd (hlim hone) hfew
  | e13 =>
    rw [hkind] at hguard
    -- E13 and E14 need a value out of range and a lockout
    obtain ⟨-, hvs, hout⟩ := hguard
    exact absurd ((hrange.resolve_left hvs).symm.trans hout) (by decide)
  | e14 =>
    rw [hkind] at hguard
    exact absurd (hlock.symm.trans hguard) (by decide)

/-- A value that fails the range test is an alert. -/
theorem clcwEvent_outOfRange {s : Fop} (hs : isAd s.tf.copCfg.state) {clcw : ClcwFrame}
    (hlock : clcw.lockout = false) (hvs : s.tf.copCfg.vs ≠ clcw.reportValue)
    (hout : ¬ clcwInRange s.tf.copCfg clcw.reportValue = true) :
    clcwEvent (fifoHooks keep) s.tf.copCfg clcw s = (.alertNnr, alerted .alertNnr s) := by
  rw [← fopE13_apply keep hs]
  unfold clcwEvent
  simp only [hlock, Bool.not_false, if_true, if_neg hvs, if_neg hout]

/-- The control words that are not judged by their report value: those that acknowledge too
much before V(S) has wrapped round behind NN(R), those that repeat NN(R) once it has, and
those that end a search with nothing waiting while the signal field holds the alert. -/
def Misjudged (s : Fop) (clcw : ClcwFrame) : Prop :=
  let fop := s.tf.copCfg
  (fop.nnr ≤ fop.vs ∧ outstanding s < acknowledges s clcw.reportValue) ∨
    (fop.vs < fop.nnr ∧ clcw.reportValue = fop.nnr) ∨
    (acknowledges s clcw.reportValue ≤ outstanding s ∧ fop.signal = .alertNnr ∧
      s.world.waitQueue = [] ∧ Searches fop clcw)

section Verdict

variable {s : Fop} {clcw : ClcwFrame} {r : Notification × Fop}

/-- A value that passes the range test and acknowledges too much is not judged right. -/
theorem not_judgesExactly_of_lt
    (hr : Looked (ackedBy clcw.reportValue s) r ∨ Quiet (ackedBy clcw.reportValue s) r)
    (hlt : outstanding s < acknowledges s clcw.reportValue) :
    ¬ JudgesExactly s clcw.reportValue r := by
  intro hj
  obtain ⟨hnotif, hinit, -, -⟩ := hj.reject hlt
  rcases hr with hl | ⟨hign, -⟩ | ⟨-, hne⟩
  · have had := hl.ad
    rw [hinit] at had
    exact absurd had (by decide)
  · rw [hign] at hnotif
    exact absurd hnotif (by decide)
  · exact hne hnotif

/-- A value that passes the range test and acknowledges no more than is outstanding is
judged right unless the handler returns the alert all the same. -/
theorem judgesExactly_of_le (ho : Outstanding s)
    (hr : Looked (ackedBy clcw.reportValue s) r ∨ Quiet (ackedBy clcw.reportValue s) r)
    (hle : acknowledges s clcw.reportValue ≤ outstanding s) :
    JudgesExactly s clcw.reportValue r ↔ r.1 ≠ .alertNnr := by
  refine ⟨fun hj => hj.accept hle, fun hne => ⟨fun hlt => absurd hlt (by omega), fun _ => hne, ?_⟩⟩
  intro _ halert
  have hwnd : s.world.sentQueue.length ≤ s.tf.copCfg.slideWnd.toNat := by
    rw [ho.mirrors.length]
    exact ho.window
  obtain ⟨hsent, hnnr, -⟩ := ho.mirrors.acked hle hwnd
  have hsent' : (ackedBy clcw.reportValue s).world.sentQueue =
      s.world.sentQueue.drop (acknowledges s clcw.reportValue) := hsent
  have hvs := (ackedBy_world clcw.reportValue s).2.2.1
  rcases hr with hl | ⟨-, hnr, -, hq⟩ | ⟨hal, -⟩
  · obtain ⟨new, hlen, hkey, heq⟩ := hl.sent
    refine ⟨hl.nnr.trans hnnr, new, hlen, ?_, ?_⟩
    · rw [← hvs]
      exact hkey
    · rw [heq, hsent']
  · exact ⟨hnr.trans hnnr, [], Nat.zero_le _, by simp, by rw [hq, hsent', List.append_nil]⟩
  · rw [hal] at halert
    exact absurd halert (by decide)

/-- When the alert comes of a value that passes the range test. -/
theorem judged_alertNnr_iff
    (hr : (Searches s.tf.copCfg clcw ∧ Looked (ackedBy clcw.reportValue s) r) ∨
      (¬ Searches s.tf.copCfg clcw ∧ Quiet (ackedBy clcw.reportValue s) r)) :
    r.1 = .alertNnr ↔
      s.tf.copCfg.signal = .alertNnr ∧ s.world.waitQueue = [] ∧ Searches s.tf.copCfg clcw := by
  obtain ⟨hwait, hsignal, -, -⟩ := ackedBy_world clcw.reportValue s
  rcases hr with ⟨hsearch, hl⟩ | ⟨hno, hq⟩
  · have hnotif := hl.notif
    rw [hwait, hsignal] at hnotif
    rcases hnotif with ⟨hempty, heq⟩ | ⟨hne, heq⟩
    · rw [heq]
      exact ⟨fun h => ⟨h, hempty, hsearch⟩, fun h => h.1⟩
    · refine ⟨fun h => ?_, fun h => absurd h.2.1 hne⟩
      rcases heq with heq | heq <;> rw [heq] at h <;> exact absurd h (by decide)
  · refine ⟨fun h => ?_, fun h => absurd h.2.2 hno⟩
    rcases hq with ⟨heq, -⟩ | ⟨-, hne⟩
    · rw [heq] at h
      exact absurd h (by decide)
    · exact absurd h hne

end Verdict

/-- `osdlp_handle_clcw` judges N(R) exactly unless the control word is one of the misjudged.
SOURCE: osdlp_cop.c:1975-2092, 615-642, 1465-1521 -/
theorem judgesExactly_iff (s : Fop) (ocf : List UInt8) (ho : Outstanding s)
    (hlock : (osdlpClcwUnpack ocf).lockout = false) :
    JudgesExactly s (osdlpClcwUnpack ocf).reportValue (osdlpHandleClcw (fifoHooks keep) ocf s) ↔
      ¬ Misjudged s (osdlpClcwUnpack ocf) := by
  have hhandle : osdlpHandleClcw (fifoHooks keep) ocf s =
      clcwEvent (fifoHooks keep) s.tf.copCfg (osdlpClcwUnpack ocf)
        (withClcw (osdlpClcwUnpack ocf) s) := rfl
  rw [hhandle]
  generalize osdlpClcwUnpack ocf = clcw at *
  -- storing the control word changes nothing that the judgement looks at
  have hstored : ∀ r, JudgesExactly s clcw.reportValue r ↔
      JudgesExactly (withClcw clcw s) clcw.reportValue r :=
    fun r => ⟨fun h => ⟨h.reject, h.accept, h.acked⟩, fun h => ⟨h.reject, h.accept, h.acked⟩⟩
  have hmis : Misjudged s clcw ↔ Misjudged (withClcw clcw s) clcw := Iff.rfl
  have ho' : Outstanding (withClcw clcw s) := ⟨ho.ad, ho.mirrors, ho.window, ho.txLim⟩
  rw [hstored, hmis]
  show JudgesExactly (withClcw clcw s) clcw.reportValue (clcwEvent (fifoHooks keep)
    (withClcw clcw s).tf.copCfg clcw (withClcw clcw s)) ↔ _
  generalize withClcw clcw s = s at *
  by_cases hpass : s.tf.copCfg.vs = clcw.reportValue ∨
      clcwInRange s.tf.copCfg clcw.reportValue = true
  · have hjudged := clcwEvent_judged keep ho' clcw hlock hpass
    have hr := hjudged.imp And.right And.right
    -- after a wrap whatever passes acknowledges no more than is outstanding
    have hwrap : s.tf.copCfg.vs < s.tf.copCfg.nnr →
        acknowledges s clcw.reportValue ≤ outstanding s ∧ clcw.reportValue ≠ s.tf.copCfg.nnr := by
      intro hlt
      have hlt' := UInt8.lt_iff_toNat_lt.mp hlt
      by_cases hvs : s.tf.copCfg.vs = clcw.reportValue
      · refine ⟨by rw [acknowledges, outstanding, hvs], fun h => ?_⟩
        rw [hvs, h] at hlt'
        omega
      · exact (clcwInRange_of_lt hlt' hvs).mp (hpass.resolve_left hvs)
    rcases Nat.lt_or_ge (outstanding s) (acknowledges s clcw.reportValue) with hlt | hle
    · have hnowrap : s.tf.copCfg.nnr ≤ s.tf.copCfg.vs := by
        rw [← UInt8.not_lt]
        intro h
        have := (hwrap h).1
        omega
      exact iff_of_false (not_judgesExactly_of_lt hr hlt) (not_not.mpr (.inl ⟨hnowrap, hlt⟩))
    · rw [judgesExactly_of_le ho' hr hle, ne_eq, judged_alertNnr_iff hjudged, not_iff_not]
      constructor
      · exact fun h => .inr (.inr ⟨hle, h⟩)
      · rintro (⟨-, h⟩ | ⟨h, heq⟩ | ⟨-, h⟩)
        · omega
        · exact absurd heq (hwrap h).2
        · exact h
  · obtain ⟨hvs, hout⟩ := not_or.mp hpass
    have hlt : s.tf.copCfg.vs.toNat < s.tf.copCfg.nnr.toNat := by
      by_contra h
      exact hout (clcwInRange_of_le (not_lt.mp h) hvs)
    have hlt8 : s.tf.copCfg.vs < s.tf.copCfg.nnr := UInt8.lt_iff_toNat_lt.mpr hlt
    rw [clcwInRange_of_lt hlt hvs, not_and_not_right] at hout
    rw [clcwEvent_outOfRange keep ho'.ad hlock hvs (not_or.mp hpass).2]
    rcases Nat.lt_or_ge (outstanding s) (acknowledges s clcw.reportValue) with hgt | hle
    · refine iff_of_true ⟨fun _ => ⟨rfl, rfl, rfl, rfl⟩, fun h => absurd h (by omega),
        fun h => absurd h (by omega)⟩ ?_
      rintro (⟨h, -⟩ | ⟨-, heq⟩ | ⟨h, -⟩)
      · exact absurd hlt8 (UInt8.not_lt.mpr h)
      · have hzero : acknowledges s clcw.reportValue = 0 := by
          rw [acknowledges, heq, seqDist_self]
        omega
      · omega
    · exact iff_of_false (fun hj => hj.accept hle rfl) (not_not.mpr (.inr (.inl ⟨hlt8, hout hle⟩)))

/-- A sender with a window of 10 and the frames numbered nnr, …, nnr + n − 1 outstanding. -/
def outstandingFop (nnr : UInt8) (n : ℕ) : Fop :=
  { tf :=
      { (default : FopFrame) with
        copCfg :=
          { (default : FopConfig) with
            state := .active, nnr := nnr, vs := nnr + UInt8.ofNat n, slideWnd := 10, txLim := 3,
            signal := .acceptTx } }
    world :=
      { waitQueue := []
        sentQueue := (consecutive nnr n).map fun seqNum =>
          { fdu := [], rtFlag := false, seqNum := seqNum, type := .typeA }
        txQueue := [], timerRunning := true, accepted := [] } }

/-- A control word without flags. -/
def plainClcw (nr : UInt8) : List UInt8 := [0, 0, 0, nr]

/-- A sender with two frames outstanding. -/
theorem outstanding_outstandingFop_two : Outstanding (outstandingFop 7 2) where
  ad := rfl
  mirrors := rfl
  window := by decide
  txLim := by decide

/-- Two frames outstanding, and one of them acknowledged. -/
theorem judgesExactly_iff_one_of_two :
    JudgesExactly (outstandingFop 7 2) (osdlpClcwUnpack (plainClcw 8)).reportValue
        (osdlpHandleClcw (fifoHooks []) (plainClcw 8) (outstandingFop 7 2)) ↔
      ¬ Misjudged (outstandingFop 7 2) (osdlpClcwUnpack (plainClcw 8)) :=
  judgesExactly_iff [] _ _ outstanding_outstandingFop_two (by decide)

/-- With the one frame 255 outstanding a control word that repeats NN(R) ends the service
with the alert, and with the one frame 0 outstanding the report value 5, which acknowledges
four frames that were never sent, empties the queue without an alert. -/
theorem not_judgesExactly_one_outstanding :
    (let s := outstandingFop 255 1
      let r := osdlpHandleClcw (fifoHooks []) (plainClcw 255) s
      Outstanding s ∧ outstanding s = 1 ∧ acknowledges s 255 = 0 ∧ r.1 = .alertNnr ∧
        r.2.world.sentQueue = [] ∧ ¬ JudgesExactly s 255 r) ∧
    (let s := outstandingFop 0 1
      let r := osdlpHandleClcw (fifoHooks []) (plainClcw 5) s
      Outstanding s ∧ outstanding s = 1 ∧ acknowledges s 5 = 5 ∧ r.1 = .acceptTx ∧
        r.2.tf.copCfg.state = .active ∧ r.2.world.sentQueue = [] ∧ ¬ JudgesExactly s 5 r) := by
  refine ⟨⟨⟨rfl, rfl, by decide, by decide⟩, rfl, rfl, rfl, rfl, fun h => ?_⟩,
    ⟨⟨rfl, rfl, by decide, by decide⟩, rfl, rfl, rfl, rfl, rfl, fun h => ?_⟩⟩
  · exact h.accept (by decide) rfl
  · exact absurd (h.reject (by decide)).1 (by decide)

end Osdlp.Analysis
