import Osdlp.Interface.FopEffects

/-!
# A suspended service waits unchanged

An expiration of the timer can suspend the AD service: `fopE18` and `fopE104` note the state in
`ss` and go to INIT.  Until `osdlp_resume_ad` the counters and the two queues are to stay as they
are, whatever arrives (`SuspendedFrom`).

The handlers do nothing in INIT, and `osdlp_set_new_vs` looks at `ss`, so they do stay
(`resumed_restores`).  That the expiration returned `SUSPEND` does not quite say that the service
has been suspended: a handler that finds nothing to send returns the signal field.
-/

set_option autoImplicit false

namespace Osdlp.Analysis

open Osdlp.Model Osdlp.Interface Osdlp.Library

/-- The states in which the service can be suspended. -/
def suspendable : FopState → Bool
  | .active | .rtNoWait | .rtWait | .initNoBc => true
  | .initBc | .init => false

/-- What a suspension has to preserve. -/
structure SameProgress (s t : Fop) : Prop where
  vs : t.tf.copCfg.vs = s.tf.copCfg.vs
  nnr : t.tf.copCfg.nnr = s.tf.copCfg.nnr
  txCnt : t.tf.copCfg.txCnt = s.tf.copCfg.txCnt
  sentQueue : t.world.sentQueue = s.world.sentQueue
  waitQueue : t.world.waitQueue = s.world.waitQueue

/-- The service of `s` is suspended in `t`. -/
structure SuspendedFrom (s t : Fop) : Prop extends SameProgress s t where
  state : t.tf.copCfg.state = .init
  ss : suspendedState t.tf.copCfg.ss = some s.tf.copCfg.state

/-- The service of `s` goes on in `t`. -/
structure Restored (s t : Fop) : Prop extends SameProgress s t where
  state : t.tf.copCfg.state = s.tf.copCfg.state
  ss : t.tf.copCfg.ss = 0

variable {keep : List Bool} {s t : Fop}

/-! ## Being suspended -/

theorem suspendedFrom_suspend {ss : UInt8} (hss : suspendedState ss = some s.tf.copCfg.state) :
    SuspendedFrom s (suspend ss s).2 :=
  ⟨⟨rfl, rfl, rfl, rfl, rfl⟩, rfl, hss⟩

/-- A search for a frame does not come back with `SUSPEND` of its own. -/
theorem lookThenReport_ne_suspend (h : t.tf.copCfg.signal ≠ .suspend) :
    (lookThenReport (fifoHooks keep) none t).1 ≠ .suspend := by
  unfold lookThenReport
  rw [bind_apply, osdlpLookForFdu_apply]
  split_ifs
  · show (resent t).tf.copCfg.signal ≠ .suspend
    rw [resent_tf]
    exact h
  · show Notification.acceptTx ≠ .suspend
    decide
  · show Notification.delayResp ≠ .suspend
    decide

/-- An expiration that returns `SUSPEND` has suspended the service. -/
theorem suspendedFrom_timerExpired {fuel : ℕ} (hstate : suspendable s.tf.copCfg.state)
    (hsignal : s.tf.copCfg.signal ≠ .suspend)
    (hret : (osdlpHandleTimerExpired (fifoHooks keep) fuel s).1 = some .suspend) :
    SuspendedFrom s (osdlpHandleTimerExpired (fifoHooks keep) fuel s).2 := by
  have hretransmit : (some <$> adRetransmissionThen (fifoHooks keep)
      (lookThenReport (fifoHooks keep) none) : FopM FifoWorld (Option Notification)) s =
      (some (lookThenReport (fifoHooks keep) none (retransmitting keep s)).1,
        (lookThenReport (fifoHooks keep) none (retransmitting keep s)).2) := rfl
  have hsearch : some (lookThenReport (fifoHooks keep) none (retransmitting keep s)).1 ≠
      some .suspend := fun heq =>
    lookThenReport_ne_suspend (t := retransmitting keep s) hsignal (Option.some.inj heq)
  revert hret
  unfold osdlpHandleTimerExpired
  rw [bind_apply, getFop_apply]
  simp only [ite_apply_state]
  split_ifs
  · -- with the timeout type 0 nothing is suspended
    unfold fopE16
    rw [bind_apply, getFop_apply]
    cases hs : s.tf.copCfg.state with
    | active | rtNoWait =>
      simp only [hretransmit]
      exact fun hret => absurd hret hsearch
    | rtWait => exact fun hret => absurd hret (by simp [pure_apply])
    | initNoBc => exact fun hret => absurd hret (by simp [map_apply, alertTo_apply])
    | initBc | init => exact absurd hstate (by rw [hs]; decide)
  · unfold fopE104
    rw [bind_apply, getFop_apply]
    cases hs : s.tf.copCfg.state with
    | active | rtNoWait =>
      simp only [hretransmit]
      exact fun hret => absurd hret hsearch
    | rtWait => exact fun hret => absurd hret (by simp [pure_apply])
    | initNoBc => exact fun _ => suspendedFrom_suspend (by rw [hs]; rfl)
    | initBc | init => exact absurd hstate (by rw [hs]; decide)
  · exact fun hret => absurd (Option.some.inj hret) (by decide)
  · unfold fopE17
    rw [map_apply, bind_apply, getFop_apply]
    cases hs : s.tf.copCfg.state with
    | active | rtNoWait | rtWait | initNoBc =>
      exact fun hret => absurd hret (by simp [alertTo_apply])
    | initBc | init => exact absurd hstate (by rw [hs]; decide)
  · unfold fopE18
    rw [map_apply, bind_apply, getFop_apply]
    cases hs : s.tf.copCfg.state with
    | active | rtNoWait | rtWait | initNoBc => exact fun _ => suspendedFrom_suspend (by rw [hs]; rfl)
    | initBc | init => exact absurd hstate (by rw [hs]; decide)
  · exact fun hret => absurd (Option.some.inj hret) (by decide)

/-! ## Staying suspended -/

/-- What may happen to a suspended service. -/
def WhileSuspended : SenderEvent → Prop
  | .op _ op =>
    match op with
    | .request _ _ | .clcw _ | .timerExpired | .adAccept | .bcAccept | .bdAccept | .setNewVs _
    | .setTimer _ | .setTxLimit _ | .setTt _ => True
    | _ => False
  | .prepare _ _ | .setSlidingWindow _ => True

/-- A step that keeps the progress, the state and what `ss` remembers. -/
theorem SuspendedFrom.step {t' : Fop} (h : SuspendedFrom s t) (hsame : SameProgress t t')
    (hstate : t'.tf.copCfg.state = t.tf.copCfg.state) (hss : t'.tf.copCfg.ss = t.tf.copCfg.ss) :
    SuspendedFrom s t' where
  vs := hsame.vs.trans h.vs
  nnr := hsame.nnr.trans h.nnr
  txCnt := hsame.txCnt.trans h.txCnt
  sentQueue := hsame.sentQueue.trans h.sentQueue
  waitQueue := hsame.waitQueue.trans h.waitQueue
  state := hstate.trans h.state
  ss := by rw [hss]; exact h.ss

theorem SuspendedFrom.signalled (h : SuspendedFrom s t) (notif : Notification) :
    SuspendedFrom s (signalled notif t) :=
  h.step ⟨rfl, rfl, rfl, rfl, rfl⟩ rfl rfl

/-- In INIT no event of a control word does anything. -/
theorem handler_init {kind : ClcwKind} (clcw : ClcwFrame) (hs : t.tf.copCfg.state = .init) :
    (kind.handler (fifoHooks keep) clcw t).2 = t ∨
      (kind.handler (fifoHooks keep) clcw t).2 = signalled .undefError t := by
  cases kind with
  | undefined => exact .inr rfl
  | e1 | e2 | e3 | e4 | e5 | e6 | e7 | e8 | e9 | e10 | e11 | e12 | e13 | e14 | e101 | e102 | e103 =>
    left
    simp only [ClcwKind.handler, fopE1, fopE2, fopE3, fopE4, fopE5, fopE6, fopE7, fopE8, fopE9,
      fopE10, fopE11, fopE12, fopE13, fopE14, fopE101, fopE102, fopE103, bind_apply, getFop_apply, hs]
    rfl

/-- In INIT an expiration does nothing, or is an undefined error. -/
theorem osdlpHandleTimerExpired_init (fuel : ℕ) (hs : t.tf.copCfg.state = .init) :
    (osdlpHandleTimerExpired (fifoHooks keep) fuel t).2 = t ∨
      (osdlpHandleTimerExpired (fifoHooks keep) fuel t).2 = signalled .undefError t := by
  have h16 : (fopE16 (fifoHooks keep) fuel t).2 = t := by
    unfold fopE16
    rw [bind_apply, getFop_apply]
    simp only [hs]
    rfl
  have h104 : (fopE104 (fifoHooks keep) fuel t).2 = t := by
    unfold fopE104
    rw [bind_apply, getFop_apply]
    simp only [hs]
    rfl
  have h17 : ((some <$> fopE17 (fifoHooks keep)) t).2 = t := by
    unfold fopE17
    rw [map_apply, bind_apply, getFop_apply]
    simp only [hs]
    rfl
  have h18 : ((some <$> fopE18 (fifoHooks keep)) t).2 = t := by
    unfold fopE18
    rw [map_apply, bind_apply, getFop_apply]
    simp only [hs]
    rfl
  unfold osdlpHandleTimerExpired
  rw [bind_apply, getFop_apply]
  simp only [ite_apply_state]
  split_ifs
  · exact .inl h16
  · exact .inl h104
  · exact .inr rfl
  · exact .inl h17
  · exact .inl h18
  · exact .inr rfl

/-- In INIT a type-A request is rejected, whether a frame waits or not. -/
theorem osdlpReqTransferFdu_init (hs : t.tf.copCfg.state = .init)
    (htype : t.tf.primaryHdr.bypass = .typeA) :
    (osdlpReqTransferFdu (fifoHooks keep) t).2 = signalled .rejectTx t := by
  have hreject : (fopE19 (fifoHooks keep) t).2 = signalled .rejectTx t := by
    unfold fopE19
    rw [bind_apply, getFop_apply]
    simp only [hs]
    rfl
  unfold osdlpReqTransferFdu
  rw [bind_apply, get_apply]
  simp only [htype, bind_apply, waitQueueEmpty_apply, ite_apply_state]
  split_ifs
  · exact hreject
  · rfl

/-- Nothing that may happen to a suspended service touches it. -/
theorem SuspendedFrom.event (h : SuspendedFrom s t) {e : SenderEvent} (he : WhileSuspended e) :
    SuspendedFrom s (senderStep t e) := by
  have hprepared : ∀ hdr frameData, SuspendedFrom s (prepared hdr frameData t) :=
    fun hdr frameData => h.step ⟨rfl, rfl, rfl, rfl, rfl⟩ rfl rfl
  have hset : ∀ fop' : FopConfig, fop'.vs = t.tf.copCfg.vs → fop'.nnr = t.tf.copCfg.nnr →
      fop'.txCnt = t.tf.copCfg.txCnt → fop'.state = t.tf.copCfg.state → fop'.ss = t.tf.copCfg.ss →
      SuspendedFrom s (t.setFop fop') :=
    fun fop' hvs hnnr hcnt hstate hss => h.step ⟨hvs, hnnr, hcnt, rfl, rfl⟩ hstate hss
  cases e with
  | prepare hdr frameData => exact hprepared hdr frameData
  | setSlidingWindow newWnd => exact hset _ rfl rfl rfl rfl rfl
  | op keep op =>
    cases op with
    | request hdr frameData =>
      cases htype : hdr.bypass with
      | typeA =>
        show SuspendedFrom s (osdlpReqTransferFdu (fifoHooks keep) (prepared hdr frameData t)).2
        have htype' : (prepared hdr frameData t).tf.primaryHdr.bypass = .typeA := htype
        rw [osdlpReqTransferFdu_init (hprepared hdr frameData).state htype']
        exact (hprepared hdr frameData).signalled _
      | typeB =>
        obtain ⟨tf, txQueue, notif, hcop, hstep⟩ :=
          @osdlpReqTransferFdu_typeB keep t hdr frameData htype
        show SuspendedFrom s (fopStep t (keep, .request hdr frameData))
        rw [hstep]
        refine h.step ⟨?_, ?_, ?_, rfl, rfl⟩ ?_ ?_ <;> rw [hcop]
    | clcw ocf =>
      have hstored : SuspendedFrom s (withClcw (osdlpClcwUnpack ocf) t) :=
        h.step ⟨rfl, rfl, rfl, rfl, rfl⟩ rfl rfl
      show SuspendedFrom s (osdlpHandleClcw (fifoHooks keep) ocf t).2
      rw [osdlpHandleClcw_handler]
      rcases handler_init (osdlpClcwUnpack ocf) hstored.state with hstep | hstep
      · rw [hstep]
        exact hstored
      · rw [hstep]
        exact hstored.signalled _
    | timerExpired =>
      show SuspendedFrom s (osdlpHandleTimerExpired (fifoHooks keep) 2 t).2
      rcases @osdlpHandleTimerExpired_init keep t 2 h.state with hstep | hstep
      · rw [hstep]
        exact h
      · rw [hstep]
        exact h.signalled _
    | adAccept =>
      show SuspendedFrom s (osdlpAdAccept (fifoHooks keep) t).2
      unfold osdlpAdAccept
      rw [bind_apply, getFop_apply]
      simp only [h.state]
      exact h
    | bcAccept =>
      show SuspendedFrom s (osdlpBcAccept (fifoHooks keep) 2 t).2
      unfold osdlpBcAccept bcAcceptWith
      rw [bind_apply, getFop_apply]
      simp only [h.state]
      exact h
    | bdAccept => exact h.signalled _
    | setNewVs newVs =>
      -- the directive is rejected because the service is suspended
      have hss : t.tf.copCfg.ss ≠ 0 := by
        intro hzero
        have hsus := h.ss
        rw [hzero] at hsus
        exact absurd hsus (by simp [suspendedState])
      show SuspendedFrom s ((osdlpSetNewVs newVs : FopM FifoWorld Notification) t).2
      unfold osdlpSetNewVs initiateSilently
      rw [bind_apply, getFop_apply]
      simp only [h.state]
      rw [bind_apply, getFop_apply]
      simp only [ite_apply_state, if_neg hss]
      exact h
    | setTimer newT1 => exact hset _ rfl rfl rfl rfl rfl
    | setTxLimit newLim => exact hset _ rfl rfl rfl rfl rfl
    | setTt newTt => exact hset _ rfl rfl rfl rfl rfl
    | adReject | bcReject | bdReject | initiateNoClcw | initiateWithClcw | initiateWithUnlock
    | initiateWithSetvr | terminateAd | resumeAd => exact absurd he id

theorem SuspendedFrom.run (h : SuspendedFrom s t) {events : List SenderEvent}
    (hevents : ∀ e ∈ events, WhileSuspended e) : SuspendedFrom s (run senderStep t events) :=
  run_inv h fun _ e he h => h.event (hevents e he)

/-! ## Going on -/

/-- The resumption of a suspended service. -/
theorem SuspendedFrom.resumes (h : SuspendedFrom s t) :
    (osdlpResumeAd (fifoHooks keep) t).1 = .positiveDir ∧
      Restored s (osdlpResumeAd (fifoHooks keep) t).2 := by
  have hto : ∀ state, resumeTo (fifoHooks keep) state t = (.positiveDir, resumed state t) := by
    intro state
    unfold resumeTo
    rw [bind_apply, getFop_apply]
    simp only [h.state]
    rfl
  have hrestored : ∀ state, some state = some s.tf.copCfg.state → Restored s (resumed state t) :=
    fun state heq => ⟨⟨h.vs, h.nnr, h.txCnt, h.sentQueue, h.waitQueue⟩, Option.some.inj heq, rfl⟩
  have hss := h.ss
  unfold suspendedState at hss
  unfold osdlpResumeAd
  rw [bind_apply, getFop_apply]
  simp only [ite_apply_state, hto]
  split_ifs at hss with h1 h2 h3 h4
  · simp only [h1]
    exact ⟨rfl, hrestored _ hss⟩
  · simp only [h2]
    exact ⟨rfl, hrestored _ hss⟩
  · simp only [h3]
    exact ⟨rfl, hrestored _ hss⟩
  · simp only [h4]
    exact ⟨rfl, hrestored _ hss⟩

/-- **A resumption finds the service as the suspension left it**, if the signal field did not hold
`SUSPEND` before the expiration.
SOURCE: osdlp_cop.c:1581-1816, 1975-2125, 2395-2757 -/
theorem resumed_restores {fuel : ℕ} (hstate : suspendable s.tf.copCfg.state)
    (hsignal : s.tf.copCfg.signal ≠ .suspend)
    (hret : (osdlpHandleTimerExpired (fifoHooks keep) fuel s).1 = some .suspend)
    {events : List SenderEvent} (hevents : ∀ e ∈ events, WhileSuspended e) (keep' : List Bool) :
    let t := run senderStep (osdlpHandleTimerExpired (fifoHooks keep) fuel s).2 events
    (osdlpResumeAd (fifoHooks keep') t).1 = .positiveDir ∧
      Restored s (osdlpResumeAd (fifoHooks keep') t).2 := by
  intro t
  have hsuspended := suspendedFrom_timerExpired hstate hsignal hret
  exact (hsuspended.run hevents).resumes

/-- A sender in RT_NO_WAIT with two frames outstanding and one waiting, which has tried as often as
the limit allows. -/
def triedFop (signal : Notification) : Fop :=
  { tf :=
      { (default : FopFrame) with
        copCfg :=
          { osdlpPrepareFop default 2 .rtNoWait 100 1 3 with
            vs := 9, nnr := 7, txCnt := 3, signal := signal } }
    world :=
      { waitQueue := [default]
        sentQueue :=
          [{ fdu := [], rtFlag := false, seqNum := 7, type := .typeA },
           { fdu := [], rtFlag := true, seqNum := 8, type := .typeA }]
        txQueue := []
        timerRunning := true
        accepted := [] } }

/-- A control word that acknowledges, an expiration, a request, a new V(S) and a wider window reach
the suspended service. -/
theorem resumed_restores_two_outstanding :
    let s := triedFop .acceptTx
    let ack := osdlpClcwPack { (default : ClcwFrame) with reportValue := 8 }
    let events : List SenderEvent :=
      [.op [] (.clcw ack), .op [] .timerExpired, .op [] (.request default default),
        .op [] (.setNewVs 100), .setSlidingWindow 200]
    let t := run senderStep (osdlpHandleTimerExpired (fifoHooks []) 2 s).2 events
    (osdlpResumeAd (fifoHooks []) t).1 = .positiveDir ∧
      Restored s (osdlpResumeAd (fifoHooks []) t).2 := by
  intro s ack events
  refine resumed_restores rfl (by decide) (by decide) ?_ []
  intro e he
  simp only [events, List.mem_cons, List.not_mem_nil, or_false] at he
  rcases he with rfl | rfl | rfl | rfl | rfl <;> trivial

/-- The signal field holds an old `SUSPEND`.  With timeout type 0 the expiration retransmits, finds
no frame to send and returns the field; the service has not been suspended, and the resumption is
rejected. -/
theorem suspend_stale_signal :
    let s : Fop :=
      { tf := { (default : FopFrame) with copCfg :=
          { osdlpPrepareFop default 10 .active 100 0 3 with signal := .suspend } }
        world :=
          { waitQueue := [], sentQueue := [], txQueue := [], timerRunning := true, accepted := [] } }
    let expired := osdlpHandleTimerExpired (fifoHooks []) 2 s
    suspendable s.tf.copCfg.state ∧ expired.1 = some .suspend ∧
      expired.2.tf.copCfg.state = .active ∧
      (osdlpResumeAd (fifoHooks []) expired.2).1 = .rejectDir := by
  decide

end Osdlp.Analysis
