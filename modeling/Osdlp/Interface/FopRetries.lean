import Osdlp.Interface.FopOutcomes
import Osdlp.Interface.SentQueue

/-!
# How the sender gets a frame through

What the operations of a service that is sending come to: an expiration of the timer puts the first
outstanding frame out again, and a control word that acknowledges something new makes its report
value NN(R).  `Transmitting` is what they keep.
-/

set_option autoImplicit false

namespace Osdlp.Interface

open Osdlp.Model Osdlp.Library

/-- The service is sending, its timer retransmits, and the limit allows more than one transmission.
-/
structure Transmitting (fop : FopConfig) : Prop where
  sending : sends fop.state
  timeoutType : fop.tt = 0 ∨ fop.tt = 1
  txLim : 1 < fop.txLim

/-- A service that sends runs. -/
theorem isAd_of_sending {state : FopState} (h : sends state) : isAd state := by
  cases state with
  | active | rtNoWait => rfl
  | _ => exact absurd h (by decide)

variable {keep : List Bool} {t s' : Fop} {state : FopState}

/-! ## The search for a frame -/

/-- The search for a frame leaves NN(R) and the parameters alone. -/
theorem Searched.parameters (h : Searched t state s') :
    s'.tf.copCfg.state = state ∧ s'.tf.copCfg.nnr = t.tf.copCfg.nnr ∧
      s'.tf.copCfg.tt = t.tf.copCfg.tt ∧ s'.tf.copCfg.txLim = t.tf.copCfg.txLim ∧
      (s'.tf.copCfg.txCnt = t.tf.copCfg.txCnt ∨ s'.tf.copCfg.txCnt = 1) := by
  cases h with
  | kept hnone signal hfop hworld =>
    rw [hfop]
    exact ⟨rfl, rfl, rfl, rfl, .inl rfl⟩
  | sent hwait hroom signal item hfop hsent hwaiting htimer =>
    rw [hfop]
    refine ⟨rfl, rfl, rfl, rfl, ?_⟩
    dsimp only
    split_ifs
    · exact .inr rfl
    · exact .inl rfl

/-- A search changes neither `tt` nor the limit. -/
theorem Searched.transmitting (h : Searched t state s') (hs : sends state)
    (ht : Transmitting t.tf.copCfg) : Transmitting s'.tf.copCfg := by
  obtain ⟨hstate, -, htt, hlim, -⟩ := h.parameters
  refine ⟨?_, ?_, ?_⟩
  · rw [hstate]
    exact hs
  · rw [htt]
    exact ht.timeoutType
  · rw [hlim]
    exact ht.txLim

/-- With room in the window the search empties the sent queue for no one: whatever waits goes out.
-/
theorem Searched.drawn (h : Searched t state s') (hwait : t.world.waitQueue ≠ [])
    (hroom : fopRoom t.tf.copCfg = true) : s'.world.sentQueue ≠ [] := by
  cases h with
  | kept hnone => exact absurd (hnone.resolve_left hwait) (by rw [hroom]; decide)
  | sent _ _ signal item hfop hsent => rw [hsent]; simp

/-- The search only adds to the queues of what has been sent, and first what is to be retransmitted.
-/
theorem lookThenReport_adds (state : Option FopState) (t : Fop) :
    let s' := (lookThenReport (fifoHooks keep) state t).2
    (resent t).world.txQueue <+: s'.world.txQueue ∧
      (resent t).world.sentQueue <+: s'.world.sentQueue := by
  have hworld : (lookThenReport (fifoHooks keep) state t).2.world =
      (osdlpLookForFdu (fifoHooks keep) t).2.world := by
    unfold lookThenReport report
    rw [bind_apply]
    cases state <;> simp only [bind_apply, ite_apply_state] <;> split_ifs <;> rfl
  dsimp only
  rw [hworld, osdlpLookForFdu_apply]
  split_ifs
  · exact ⟨List.prefix_refl _, List.prefix_refl _⟩
  · exact ⟨List.prefix_append _ _, List.prefix_append _ _⟩
  · exact ⟨List.prefix_refl _, List.prefix_refl _⟩

/-- The first outstanding frame has been put on the transmission queue, behind what the lower layer
has kept. -/
def FirstOut (keep : List Bool) (tx : List (List UInt8)) (s' : Fop) : Prop :=
  ∃ fdu, (s'.world.sentQueue.map QueueItem.fdu).head? = some fdu ∧
    survivors keep tx ++ [fdu] <+: s'.world.txQueue

/-- Once everything outstanding is marked, the first outstanding frame goes out. -/
theorem lookThenReport_firstOut (state : Option FopState) {item : QueueItem}
    {items : List QueueItem} (hq : t.world.sentQueue = item :: items) (htype : item.type = .typeA) :
    FirstOut keep t.world.txQueue
      (lookThenReport (fifoHooks keep) state (retransmitting keep t)).2 := by
  have hfirst : (retransmitting keep t).world.sentQueue.find? isAdRt =
      some (markRt .typeA item) := by
    show (t.world.sentQueue.map (markRt .typeA)).find? isAdRt = _
    rw [hq, List.map_cons, List.find?_cons_of_pos (by rw [isAdRt_markRt, htype])]
  obtain ⟨htx, hsent⟩ := @lookThenReport_adds keep state (retransmitting keep t)
  have htx' : (resent (retransmitting keep t)).world.txQueue =
      survivors keep t.world.txQueue ++ [item.fdu] := by
    unfold resent
    rw [hfirst, ← markRt_fdu .typeA item]
    rfl
  have hsent' : (resent (retransmitting keep t)).world.sentQueue =
      { markRt .typeA item with rtFlag := false } :: items.map (markRt .typeA) := by
    unfold resent
    rw [hfirst]
    show resetRt (markRt .typeA item).seqNum (t.world.sentQueue.map (markRt .typeA)) = _
    rw [hq, List.map_cons, resetRt, if_pos rfl]
  rw [htx'] at htx
  rw [hsent'] at hsent
  obtain ⟨more, hmore⟩ := hsent
  refine ⟨item.fdu, ?_, htx⟩
  rw [← hmore, List.cons_append, List.map_cons, List.head?_cons]
  exact congrArg some (markRt_fdu .typeA item)

/-! ## The timer -/

/-- An expiration below the limit repeats everything outstanding.
SOURCE: osdlp_cop.c:1581-1708, 2094-2125 -/
theorem osdlpHandleTimerExpired_retries (fuel : ℕ) (ht : Transmitting t.tf.copCfg)
    (hcnt : t.tf.copCfg.txCnt < t.tf.copCfg.txLim) :
    (osdlpHandleTimerExpired (fifoHooks keep) fuel t).2 =
      (lookThenReport (fifoHooks keep) none (retransmitting keep t)).2 := by
  have hretry : ∀ m : ℕ → FopM FifoWorld (Option Notification),
      m = fopE16 (fifoHooks keep) ∨ m = fopE104 (fifoHooks keep) →
      (m fuel t).2 = (lookThenReport (fifoHooks keep) none (retransmitting keep t)).2 := by
    rintro m (rfl | rfl)
    · unfold fopE16
      rw [bind_apply, getFop_apply]
      cases hst : t.tf.copCfg.state with
      | active | rtNoWait => rfl
      | _ => exact absurd (hst ▸ ht.sending) (by decide)
    · unfold fopE104
      rw [bind_apply, getFop_apply]
      cases hst : t.tf.copCfg.state with
      | active | rtNoWait => rfl
      | _ => exact absurd (hst ▸ ht.sending) (by decide)
  unfold osdlpHandleTimerExpired
  rw [bind_apply, getFop_apply]
  simp only [if_pos hcnt]
  rcases ht.timeoutType with htt | htt
  · rw [if_pos htt]
    exact hretry _ (.inl rfl)
  · rw [if_neg (by rw [htt]; decide), if_pos htt]
    exact hretry _ (.inr rfl)

/-- So the first outstanding frame goes out, and the counters stay. -/
theorem osdlpHandleTimerExpired_firstOut (fuel : ℕ) (ht : Transmitting t.tf.copCfg)
    (hcnt : t.tf.copCfg.txCnt < t.tf.copCfg.txLim) {item : QueueItem} {items : List QueueItem}
    (hq : t.world.sentQueue = item :: items) (htype : item.type = .typeA) :
    let s' := (osdlpHandleTimerExpired (fifoHooks keep) fuel t).2
    Transmitting s'.tf.copCfg ∧ s'.tf.copCfg.nnr = t.tf.copCfg.nnr ∧
      FirstOut keep t.world.txQueue s' := by
  have hfound := @lookThenReport_searched keep none (retransmitting keep t)
  have htt : Transmitting (retransmitting keep t).tf.copCfg :=
    ⟨ht.sending, ht.timeoutType, ht.txLim⟩
  rw [osdlpHandleTimerExpired_retries fuel ht hcnt]
  exact ⟨hfound.transmitting ht.sending htt, hfound.parameters.2.1,
    lookThenReport_firstOut none hq htype⟩

/-! ## A control word that acknowledges something -/

/-- A report value that lies beyond NN(R) passes the range test.
SOURCE: osdlp_cop.c:2009-2014 -/
theorem clcwInRange_of_new {fop : FopConfig} {nr : UInt8} (hrange : InRange fop nr)
    (hnew : nr ≠ fop.nnr) (hvs : fop.vs ≠ nr) : clcwInRange fop nr = true := by
  have hvs' : fop.vs.toNat ≠ nr.toNat := fun h => hvs (UInt8.toNat_inj.mp h)
  have hnew' : nr.toNat ≠ fop.nnr.toNat := fun h => hnew (UInt8.toNat_inj.mp h)
  have hv := fop.vs.toNat_lt
  have hn := nr.toNat_lt
  have hnn := fop.nnr.toNat_lt
  unfold InRange at hrange
  simp only [clcwInRange, Bool.or_eq_true, Bool.and_eq_true, decide_eq_true_eq, gt_iff_lt,
    ge_iff_le, UInt8.lt_iff_toNat_lt, UInt8.le_iff_toNat_le]
  rcases Nat.lt_or_ge fop.vs.toNat fop.nnr.toNat with hlt | hge
  · rw [seqDist_of_lt hlt] at hrange
    rcases Nat.lt_or_ge nr.toNat fop.nnr.toNat with hlt' | hge'
    · rw [seqDist_of_lt hlt'] at hrange
      omega
    · rw [seqDist_of_le hge'] at hrange
      omega
  · omega

/-- The event of a control word that acknowledges something and asks for nothing. -/
theorem clcwKind_of_new {fop : FopConfig} {clcw : ClcwFrame} (hlock : clcw.lockout = false)
    (hwait : clcw.wait = false) (hrange : InRange fop clcw.reportValue)
    (hnew : clcw.reportValue ≠ fop.nnr) :
    (clcw.rt = false → clcwKind fop clcw = if fop.vs = clcw.reportValue then .e2 else .e6) ∧
      (clcw.rt = true → fop.vs ≠ clcw.reportValue → 1 < fop.txLim → clcwKind fop clcw = .e8) := by
  unfold clcwKind
  refine ⟨fun hrt => ?_, fun hrt hvs hlim => ?_⟩
  · by_cases hvs : fop.vs = clcw.reportValue
    · simp [hlock, hwait, hrt, hvs, hnew]
    · simp [hlock, hwait, hrt, hvs, hnew, clcwInRange_of_new hrange hnew hvs]
  · have hone : fop.txLim ≠ 1 := by
      intro heq
      rw [heq] at hlim
      exact absurd hlim (by decide)
    simp [hlock, hwait, hrt, hvs, hnew, clcwInRange_of_new hrange hnew hvs, hone, hlim]

/-- What a removal that removes something makes of the FOP variables. -/
theorem acked_copCfg {s : Fop} {n : UInt8} (hmirrors : Mirrors s)
    (hwindow : s.world.sentQueue.length ≤ s.tf.copCfg.slideWnd.toNat)
    (hrange : InRange s.tf.copCfg n) (hnew : n ≠ s.tf.copCfg.nnr) :
    (acked n (s.tf.copCfg.slideWnd.toNat + 1) s).tf.copCfg =
      { s.tf.copCfg with nnr := n, txCnt := 1 } := by
  obtain ⟨-, hnnr, -⟩ := hmirrors.acked hrange hwindow
  unfold acked at hnnr ⊢
  split_ifs at hnnr ⊢ with hsame
  · exact absurd hnnr.symm hnew
  · rfl

/-- A control word for a sender whose queue is numbered, which acknowledges something new. -/
structure AcknowledgesNew (clcw : ClcwFrame) (s : Fop) : Prop where
  lockout : clcw.lockout = false
  wait : clcw.wait = false
  inRange : InRange s.tf.copCfg clcw.reportValue
  new : clcw.reportValue ≠ s.tf.copCfg.nnr
  mirrors : Mirrors s
  window : s.world.sentQueue.length ≤ s.tf.copCfg.slideWnd.toNat

variable {s : Fop} {clcw : ClcwFrame}

/-- A removal sets the count to 1. -/
theorem AcknowledgesNew.withoutAcked (h : AcknowledgesNew clcw s) :
    (Interface.withoutAcked clcw (withClcw clcw s)).tf.copCfg =
      { s.tf.copCfg with nnr := clcw.reportValue, txCnt := 1 } := by
  have hmirrors : Mirrors (withClcw clcw s) := h.mirrors
  exact acked_copCfg hmirrors h.window h.inRange h.new

/-- If it asks for nothing, the report value becomes NN(R), and the transmissions are counted anew.
SOURCE: osdlp_cop.c:715-780, 950-1014 -/
theorem osdlpHandleClcw_acknowledges {ocf : List UInt8}
    (h : AcknowledgesNew (osdlpClcwUnpack ocf) s) (hrt : (osdlpClcwUnpack ocf).rt = false)
    (ht : Transmitting s.tf.copCfg) :
    let s' := (osdlpHandleClcw (fifoHooks keep) ocf s).2
    Transmitting s'.tf.copCfg ∧ s'.tf.copCfg.nnr = (osdlpClcwUnpack ocf).reportValue ∧
      s'.tf.copCfg.txCnt = 1 := by
  have had : isAd (withClcw (osdlpClcwUnpack ocf) s).tf.copCfg.state := isAd_of_sending ht.sending
  have houtcome := @osdlpHandleClcw_outcome keep ocf s
  rw [(clcwKind_of_new h.lockout h.wait h.inRange h.new).1 hrt] at houtcome
  have hsearched : ∃ t state, sends state ∧
      t.tf.copCfg = { s.tf.copCfg with nnr := (osdlpClcwUnpack ocf).reportValue, txCnt := 1 } ∧
      Searched t state (osdlpHandleClcw (fifoHooks keep) ocf s).2 := by
    split_ifs at houtcome
    · exact ⟨timerOff _, _, ht.sending, h.withoutAcked, houtcome.searched_e2 had⟩
    · exact ⟨_, .active, rfl, h.withoutAcked, houtcome.searched_e6 had⟩
  obtain ⟨t, state, hs, hcop, hfound⟩ := hsearched
  obtain ⟨-, hnnr, -, -, hcnt⟩ := hfound.parameters
  have htt : Transmitting t.tf.copCfg := by
    rw [hcop]
    exact ⟨ht.sending, ht.timeoutType, ht.txLim⟩
  refine ⟨hfound.transmitting hs htt, ?_, ?_⟩
  · rw [hnnr, hcop]
  · rcases hcnt with hcnt | hcnt
    · rw [hcnt, hcop]
    · exact hcnt

end Osdlp.Interface
