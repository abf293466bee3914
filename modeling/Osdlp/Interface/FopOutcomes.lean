import Osdlp.Interface.FopEffects
import Osdlp.Interface.FopRelease

/-!
# What comes of the moves

The moves of an operation leave open when the timer runs and what the transmission count is.
`ClcwOutcome`, `TimerOutcome` and `RequestOutcome` list what the operations that are made of moves
come to, with both.
-/

set_option autoImplicit false

namespace Osdlp.Interface

open Osdlp.Model Osdlp.Library

/-! ## The search for a frame -/

/-- What the search for a frame makes of `t`, with the state that it leaves behind. -/
inductive Searched (t : Fop) (state : FopState) (s' : Fop) : Prop
  | kept (hnone : t.world.waitQueue = [] ∨ fopRoom t.tf.copCfg = false) (signal : Notification)
      (hfop : s'.tf.copCfg = { t.tf.copCfg with state := state, signal := signal })
      (hworld : s'.world = (resent t).world)
  | sent (hwait : t.world.waitQueue ≠ []) (hroom : fopRoom t.tf.copCfg = true)
      (signal : Notification) (item : QueueItem)
      (hfop : s'.tf.copCfg =
        { t.tf.copCfg with
          state := state
          signal := signal
          vs := t.tf.copCfg.vs + 1
          txCnt := if t.world.sentQueue.isEmpty then 1 else t.tf.copCfg.txCnt })
      (hsent : s'.world.sentQueue = (resent t).world.sentQueue ++ [item])
      (hwaiting : s'.world.waitQueue = t.world.waitQueue.tail)
      (htimer : s'.world.timerRunning = true)

/-- A frame that goes out again stays in the sent queue. -/
theorem resent_isEmpty (t : Fop) :
    (resent t).world.sentQueue.isEmpty = t.world.sentQueue.isEmpty := by
  unfold resent
  split
  · rfl
  · rename_i item _
    have hcopies := congrArg List.isEmpty (map_itemCopy_resetRt item.seqNum t.world.sentQueue)
    rw [List.isEmpty_map, List.isEmpty_map] at hcopies
    exact hcopies

variable {keep : List Bool}

/-- `osdlp_look_for_fdu`, the state if it changes, and the report. -/
theorem lookThenReport_searched (state : Option FopState) (t : Fop) :
    Searched t (state.getD t.tf.copCfg.state) (lookThenReport (fifoHooks keep) state t).2 := by
  have hreport : ∀ (notif : Notification) (b : Fop), osdlpLookForFdu (fifoHooks keep) t = (notif, b) →
      ∃ signal, (lookThenReport (fifoHooks keep) state t).2 = b.setFop
        { b.tf.copCfg with state := state.getD b.tf.copCfg.state, signal := signal } := by
    intro notif b hlook
    unfold lookThenReport report
    rw [bind_apply, hlook]
    cases state with
    | none =>
      simp only [bind_apply, ite_apply_state]
      split_ifs
      · exact ⟨notif, rfl⟩
      · exact ⟨b.tf.copCfg.signal, rfl⟩
    | some st =>
      simp only [bind_apply, ite_apply_state]
      split_ifs
      · exact ⟨notif, rfl⟩
      · exact ⟨b.tf.copCfg.signal, rfl⟩
  have hlook := osdlpLookForFdu_apply keep t
  split_ifs at hlook with hempty hroom
  · obtain ⟨signal, hresult⟩ := hreport _ _ hlook
    rw [hresult]
    refine .kept (.inl (List.isEmpty_iff.mp hempty)) signal ?_ rfl
    rw [FopSt.setFop_copCfg, resent_tf]
  · obtain ⟨signal, hresult⟩ := hreport _ _ hlook
    rw [hresult]
    refine .sent (fun hnone => hempty (List.isEmpty_iff.mpr hnone)) hroom signal
      (newItem (resent t)) ?_ rfl (congrArg List.tail (resent_waitQueue t)) rfl
    rw [FopSt.setFop_copCfg, ← toNat_succ_mod, ← resent_isEmpty, ← resent_tf t]
    rfl
  · obtain ⟨signal, hresult⟩ := hreport _ _ hlook
    rw [hresult]
    refine .kept (.inr (Bool.eq_false_iff.mpr hroom)) signal ?_ rfl
    rw [FopSt.setFop_copCfg, ← resent_tf t]
    rfl

/-- The counters after the search for a frame, with room in the window. -/
theorem Searched.counters {t s' : Fop} {state : FopState} (h : Searched t state s')
    (hroom : fopRoom t.tf.copCfg = true) :
    s'.tf.copCfg.state = state ∧ s'.tf.copCfg.nnr = t.tf.copCfg.nnr ∧
      s'.tf.copCfg.vs =
        if t.world.waitQueue = [] then t.tf.copCfg.vs else t.tf.copCfg.vs + 1 := by
  cases h with
  | kept hnone signal hfop hworld =>
    have hempty : t.world.waitQueue = [] :=
      hnone.resolve_right fun hfull => Bool.false_ne_true (hfull.symm.trans hroom)
    rw [hfop, if_pos hempty]
    exact ⟨rfl, rfl, rfl⟩
  | sent hwait _ signal item hfop hsent hwaiting htimer =>
    rw [hfop, if_neg hwait]
    exact ⟨rfl, rfl, rfl⟩

/-! ## A control word -/

/-- The sender once the frames that the control word acknowledges are gone. -/
def withoutAcked (clcw : ClcwFrame) (t : Fop) : Fop :=
  acked clcw.reportValue (t.tf.copCfg.slideWnd.toNat + 1) t

/-- The sender with its timer stopped. -/
def timerOff (t : Fop) : Fop := onWorld t fun w => { w with timerRunning := false }

/-- The sender in another state. -/
def inState (state : FopState) (t : Fop) : Fop := t.setFop { t.tf.copCfg with state := state }

/-- What comes of an event of a control word. -/
inductive ClcwOutcome (keep : List Bool) (clcw : ClcwFrame) (t : Fop) : ClcwKind → Fop → Prop
  | idle (kind : ClcwKind) (signal : Notification)
      (hkind : isAd t.tf.copCfg.state → kind.acks = false ∧
        (kind = .e12 → t.tf.copCfg.state = .rtNoWait)) :
      ClcwOutcome keep clcw t kind (signalled signal t)
  | alert (kind : ClcwKind) (notif : Notification) (hs : t.tf.copCfg.state ≠ .init)
      (hkind : isAd t.tf.copCfg.state → kind.acks = false ∧ kind ≠ .e12) :
      ClcwOutcome keep clcw t kind (alerted notif t)
  | ackAlert (notif : Notification) (had : isAd t.tf.copCfg.state) :
      ClcwOutcome keep clcw t .e101 (alerted notif (withoutAcked clcw t))
  | started (hs : t.tf.copCfg.state = .initNoBc) :
      ClcwOutcome keep clcw t .e1 (signalled .positiveDir (inState .active (timerOff t)))
  | released (hs : t.tf.copCfg.state = .initBc) :
      ClcwOutcome keep clcw t .e1 (signalled .positiveDir (inState .active (timerOff (released t))))
  | waits (kind : ClcwKind) (hkind : kind = .e11 ∨ kind = .e103) (had : isAd t.tf.copCfg.state) :
      ClcwOutcome keep clcw t kind (inState .rtWait t)
  | resumes (had : isAd t.tf.copCfg.state) : ClcwOutcome keep clcw t .e12 (inState .rtNoWait t)
  | acknowledged (s' : Fop) (had : isAd t.tf.copCfg.state)
      (h : Searched (timerOff (withoutAcked clcw t)) t.tf.copCfg.state s') :
      ClcwOutcome keep clcw t .e2 s'
  | partly (s' : Fop) (had : isAd t.tf.copCfg.state)
      (h : Searched (withoutAcked clcw t) .active s') : ClcwOutcome keep clcw t .e6 s'
  | retransmitted (s' : Fop) (had : isAd t.tf.copCfg.state)
      (h : Searched (retransmitting keep (withoutAcked clcw t)) .rtNoWait s') :
      ClcwOutcome keep clcw t .e8 s'
  | ackWaits (had : isAd t.tf.copCfg.state) :
      ClcwOutcome keep clcw t .e9 (inState .rtWait (withoutAcked clcw t))
  | retried (s' : Fop) (had : isAd t.tf.copCfg.state) (hs : t.tf.copCfg.state ≠ .rtNoWait)
      (h : Searched (retransmitting keep t) .rtNoWait s') : ClcwOutcome keep clcw t .e10 s'

theorem withoutAcked_state (clcw : ClcwFrame) (t : Fop) :
    (withoutAcked clcw t).tf.copCfg.state = t.tf.copCfg.state := acked_state _ _ t

/-- Over queues a handler always goes on behind the removal. -/
theorem removeAckedThen_withoutAcked (clcw : ClcwFrame) (next : FopM FifoWorld Notification)
    (t : Fop) :
    removeAckedThen (fifoHooks keep) clcw next t = next (withoutAcked clcw t) :=
  removeAckedThen_acked keep clcw next t

/-- The search only looks at the state that it leaves behind. -/
theorem Searched.of_inState {t s' : Fop} {st state : FopState}
    (h : Searched (inState st t) state s') : Searched t state s' := by
  have hresent : (resent (inState st t)).world = (resent t).world := by
    unfold resent inState
    rw [FopSt.setFop_world]
    split <;> rfl
  cases h with
  | kept hnone signal hfop hworld => exact .kept hnone signal hfop (hworld.trans hresent)
  | sent hwait hroom signal item hfop hsent hwaiting htimer =>
    refine .sent hwait hroom signal item hfop ?_ hwaiting htimer
    rw [hsent, hresent]

variable {clcw : ClcwFrame} {t : Fop}

/-- The events that acknowledge frames. -/
theorem ackHandler_outcome {kind : ClcwKind} (hkind : kind.acks = true) :
    ClcwOutcome keep clcw t kind (kind.handler (fifoHooks keep) clcw t).2 := by
  have hidle : ¬ isAd t.tf.copCfg.state → ClcwOutcome keep clcw t kind t :=
    fun hnot => .idle kind t.tf.copCfg.signal fun had => absurd had hnot
  cases kind with
  | e2 =>
    show ClcwOutcome keep clcw t .e2 (fopE2 (fifoHooks keep) clcw t).2
    unfold fopE2
    rw [bind_apply, getFop_apply]
    cases hst : t.tf.copCfg.state with
    | active | rtNoWait | rtWait =>
      simp only [removeAckedThen_withoutAcked]
      refine .acknowledged _ (by rw [hst]; rfl) ?_
      rw [← withoutAcked_state clcw t]
      exact lookThenReport_searched none (timerOff (withoutAcked clcw t))
    | initNoBc | initBc | init => exact hidle (by rw [hst]; decide)
  | e6 =>
    show ClcwOutcome keep clcw t .e6 (fopE6 (fifoHooks keep) clcw t).2
    unfold fopE6
    rw [bind_apply, getFop_apply]
    cases hst : t.tf.copCfg.state with
    | active =>
      simp only [removeAckedThen_withoutAcked]
      refine .partly _ (by rw [hst]; rfl) ?_
      rw [← hst, ← withoutAcked_state clcw t]
      exact lookThenReport_searched none (withoutAcked clcw t)
    | rtNoWait =>
      simp only [removeAckedThen_withoutAcked]
      refine .partly _ (by rw [hst]; rfl) ?_
      -- here the state is set before the search and not after it
      exact Searched.of_inState
        (lookThenReport_searched none (inState .active (withoutAcked clcw t)))
    | rtWait =>
      simp only [removeAckedThen_withoutAcked]
      exact .partly _ (by rw [hst]; rfl) (lookThenReport_searched (some .active) _)
    | initNoBc | initBc | init => exact hidle (by rw [hst]; decide)
  | e8 =>
    show ClcwOutcome keep clcw t .e8 (fopE8 (fifoHooks keep) clcw t).2
    unfold fopE8
    rw [bind_apply, getFop_apply]
    cases hst : t.tf.copCfg.state with
    | active | rtWait =>
      simp only [removeAckedThen_withoutAcked]
      exact .retransmitted _ (by rw [hst]; rfl)
        (lookThenReport_searched (some .rtNoWait) (retransmitting keep (withoutAcked clcw t)))
    | rtNoWait =>
      simp only [removeAckedThen_withoutAcked]
      refine .retransmitted _ (by rw [hst]; rfl) ?_
      rw [← hst, ← withoutAcked_state clcw t]
      exact lookThenReport_searched none (retransmitting keep (withoutAcked clcw t))
    | initNoBc | initBc | init => exact hidle (by rw [hst]; decide)
  | e9 =>
    show ClcwOutcome keep clcw t .e9 (fopE9 (fifoHooks keep) clcw t).2
    unfold fopE9
    rw [bind_apply, getFop_apply]
    cases hst : t.tf.copCfg.state with
    | active | rtNoWait | rtWait =>
      simp only [removeAckedThen_withoutAcked]
      exact .ackWaits (by rw [hst]; rfl)
    | initNoBc | initBc | init => exact hidle (by rw [hst]; decide)
  | e101 =>
    show ClcwOutcome keep clcw t .e101 (fopE101 (fifoHooks keep) clcw t).2
    unfold fopE101
    rw [bind_apply, getFop_apply]
    cases hst : t.tf.copCfg.state with
    | active | rtNoWait =>
      simp only [removeAckedThen_withoutAcked, alertTo_apply]
      exact .ackAlert _ (by rw [hst]; rfl)
    | rtWait =>
      -- in RT_WAIT the code does not look at what the removal returns
      obtain ⟨code, hremove⟩ := osdlpRemoveAckedFrames_apply keep clcw.reportValue t
      simp only [bind_apply, hremove, alertTo_apply]
      exact .ackAlert _ (by rw [hst]; rfl)
    | initNoBc | initBc | init => exact hidle (by rw [hst]; decide)
  | _ => exact absurd hkind (by decide)

/-- The events that only change the state. -/
theorem ClcwOutcome.of_rest {kind : ClcwKind} (hkind : kind.rests = true) :
    ClcwOutcome keep clcw t kind (kind.handler (fifoHooks keep) clcw t).2 := by
  have hacks : kind.acks = false := by
    cases kind with
    | e2 | e6 | e8 | e9 | e101 => exact absurd hkind (by decide)
    | _ => rfl
  have houtcome := @restHandler_outcome keep kind hkind clcw t
  generalize kind.handler (fifoHooks keep) clcw t = r at houtcome
  cases houtcome with
  | unchanged notif hrests =>
    refine .idle kind t.tf.copCfg.signal fun had => ⟨hacks, fun he => ?_⟩
    subst he
    obtain ⟨-, ⟨he5, -⟩ | ⟨-, hst⟩ | ⟨hwaits, -⟩⟩ := hrests had
    · exact absurd he5 (by decide)
    · exact hst
    · exact absurd hwaits (by decide)
  | alert notif _ hs hne => exact .alert kind notif hs fun _ => ⟨hacks, hne⟩
  | enters state had hstate =>
    rcases hstate with ⟨rfl, rfl⟩ | ⟨hwaits, rfl⟩
    · exact .resumes had
    · exact .waits kind hwaits had

/-- The first control word of the service. -/
theorem fopE1_outcome : ClcwOutcome keep clcw t .e1 (fopE1 (fifoHooks keep) t).2 := by
  have hidle : ∀ signal, ClcwOutcome keep clcw t .e1 (signalled signal t) :=
    fun signal => .idle .e1 signal fun _ => ⟨rfl, fun he => absurd he (by decide)⟩
  unfold fopE1
  rw [bind_apply, getFop_apply]
  cases hst : t.tf.copCfg.state with
  | active | init => exact hidle t.tf.copCfg.signal
  | rtNoWait | rtWait =>
    exact .alert .e1 .alertSynch (by rw [hst]; decide) fun _ => ⟨rfl, by decide⟩
  | initNoBc => exact .started hst
  | initBc =>
    obtain ⟨ret, hrelease⟩ := osdlpReleaseCopyOfBc_apply keep t
    simp only [bind_apply, hrelease]
    exact .released hst

/-- A retransmission that acknowledges nothing. -/
theorem fopE10_outcome : ClcwOutcome keep clcw t .e10 (fopE10 (fifoHooks keep) t).2 := by
  have hidle : ClcwOutcome keep clcw t .e10 t :=
    .idle .e10 t.tf.copCfg.signal fun _ => ⟨rfl, fun he => absurd he (by decide)⟩
  unfold fopE10
  rw [bind_apply, getFop_apply]
  cases hst : t.tf.copCfg.state with
  | active | rtWait =>
    exact .retried _ (by rw [hst]; rfl) (by rw [hst]; decide)
      (lookThenReport_searched (some .rtNoWait) (retransmitting keep t))
  | rtNoWait | initNoBc | initBc | init => exact hidle

/-- What comes of a control word. -/
theorem osdlpHandleClcw_outcome (ocf : List UInt8) (s : Fop) :
    ClcwOutcome keep (osdlpClcwUnpack ocf) (withClcw (osdlpClcwUnpack ocf) s)
      (clcwKind s.tf.copCfg (osdlpClcwUnpack ocf)) (osdlpHandleClcw (fifoHooks keep) ocf s).2 := by
  rw [osdlpHandleClcw_handler]
  cases hkind : clcwKind s.tf.copCfg (osdlpClcwUnpack ocf) with
  | e2 | e6 | e8 | e9 | e101 => exact ackHandler_outcome rfl
  | e1 => exact fopE1_outcome
  | e10 => exact fopE10_outcome
  | undefined => exact .idle _ _ fun _ => ⟨rfl, fun he => absurd he (by decide)⟩
  | e3 | e4 | e5 | e7 | e11 | e12 | e13 | e14 | e102 | e103 => exact .of_rest rfl

/-- What E2 comes to in the running service. -/
theorem ClcwOutcome.searched_e2 {s' : Fop} (h : ClcwOutcome keep clcw t .e2 s')
    (had : isAd t.tf.copCfg.state) :
    Searched (timerOff (withoutAcked clcw t)) t.tf.copCfg.state s' := by
  cases h with
  | idle _ signal hidle => exact absurd (hidle had).1 (by decide)
  | alert _ notif hs halert => exact absurd (halert had).1 (by decide)
  | waits _ hwaits => exact absurd hwaits (by decide)
  | acknowledged _ _ hsearched => exact hsearched

/-- What E6 comes to in the running service. -/
theorem ClcwOutcome.searched_e6 {s' : Fop} (h : ClcwOutcome keep clcw t .e6 s')
    (had : isAd t.tf.copCfg.state) : Searched (withoutAcked clcw t) .active s' := by
  cases h with
  | idle _ signal hidle => exact absurd (hidle had).1 (by decide)
  | alert _ notif hs halert => exact absurd (halert had).1 (by decide)
  | waits _ hwaits => exact absurd hwaits (by decide)
  | partly _ _ hsearched => exact hsearched

/-- What E8 comes to in the running service. -/
theorem ClcwOutcome.searched_e8 {s' : Fop} (h : ClcwOutcome keep clcw t .e8 s')
    (had : isAd t.tf.copCfg.state) :
    Searched (retransmitting keep (withoutAcked clcw t)) .rtNoWait s' := by
  cases h with
  | idle _ signal hidle => exact absurd (hidle had).1 (by decide)
  | alert _ notif hs halert => exact absurd (halert had).1 (by decide)
  | waits _ hwaits => exact absurd hwaits (by decide)
  | retransmitted _ _ hsearched => exact hsearched

/-! ## The command that is outstanding -/

/-- At most the signal, the flags of sent items and the transmission queue have changed. -/
structure CommandResent (t s' : Fop) : Prop where
  fop : ∃ signal, s'.tf.copCfg = { t.tf.copCfg with signal := signal }
  sentQueue : s'.world.sentQueue.map itemCopy = t.world.sentQueue.map itemCopy
  timer : s'.world.timerRunning = t.world.timerRunning

theorem CommandResent.refl (t : Fop) : CommandResent t t := ⟨⟨t.tf.copCfg.signal, rfl⟩, rfl, rfl⟩

/-- An answer changes the signal. -/
theorem answer_commandResent (notif : Notification) : Keeps (CommandResent t) (answer notif) := by
  rintro s ⟨⟨signal, hfop⟩, hsent, htimer⟩
  refine ⟨⟨notif, ?_⟩, hsent, htimer⟩
  show ({ s.tf.copCfg with signal := notif } : FopConfig) = _
  rw [hfop]

theorem report_commandResent (notif : Notification) : Keeps (CommandResent t) (report notif) := by
  unfold report
  exact Keeps.ite (answer_commandResent notif) fun _ hs => hs

/-- An acceptance changes what its search changes. -/
theorem bcAcceptWith_commandResent {look : FopM FifoWorld (Option Notification)}
    (hlook : Keeps (CommandResent t) look) : Keeps (CommandResent t) (bcAcceptWith look) := by
  intro s hs
  unfold bcAcceptWith
  rw [bind_apply, getFop_apply]
  cases s.tf.copCfg.state with
  | active | rtNoWait | rtWait | initNoBc | init => exact hs
  | initBc =>
    refine Keeps.bind hlook (fun result => ?_) s hs
    cases result with
    | none => exact Keeps.pure none
    | some notif => exact fun s hs => report_commandResent notif s hs

/-- The flag of the command goes down, and its frame goes out: by induction on the depth. -/
theorem osdlpLookForDirective_commandResent (fuel : ℕ) :
    Keeps (CommandResent t) (osdlpLookForDirective (fifoHooks keep) fuel) := by
  induction fuel with
  | zero => exact fun s hs => hs
  | succ fuel ih =>
    intro s hs
    unfold osdlpLookForDirective
    rw [bind_apply, sentQueueHead_apply]
    cases s.world.sentQueue.head? with
    | none => exact answer_commandResent _ s hs
    | some item =>
      simp only [ite_apply_state]
      split_ifs with hrt
      · have hagain : CommandResent t (onWorld s fun w =>
            { w with
              sentQueue := resetRt item.seqNum w.sentQueue
              txQueue := w.txQueue ++ [item.fdu] }) := by
          refine ⟨hs.fop, ?_, hs.timer⟩
          exact (map_itemCopy_resetRt _ _).trans hs.sentQueue
        exact bcAcceptWith_commandResent ih _ hagain
      · exact hs

/-- The acceptance of a command frame by the lower layer. -/
theorem osdlpBcAccept_commandResent (fuel : ℕ) (t : Fop) :
    CommandResent t (osdlpBcAccept (fifoHooks keep) fuel t).2 :=
  bcAcceptWith_commandResent (osdlpLookForDirective_commandResent fuel) t (.refl t)

/-- The sender with the retransmission of its command initiated. -/
def commandMarked (keep : List Bool) (t : Fop) : Fop :=
  (onWorld t fun w =>
    { w with
      txQueue := survivors keep w.txQueue
      timerRunning := true
      sentQueue := w.sentQueue.map (markRt .typeB) }).setFop (nextTxCnt t.tf.copCfg)

/-- The search starts where the command has been marked. -/
theorem bcRetransmission_commandResent (fuel : ℕ) (t : Fop) :
    CommandResent (commandMarked keep t) (bcRetransmission (fifoHooks keep) fuel t).2 := by
  have hmarked : osdlpInitiateBcRetransmission (fifoHooks keep) t = (0, commandMarked keep t) := rfl
  unfold bcRetransmission
  rw [bind_apply, hmarked]
  refine Keeps.bind (osdlpLookForDirective_commandResent fuel) (fun result => ?_) _ (.refl _)
  cases result with
  | none => exact Keeps.pure none
  | some notif => exact fun s hs => report_commandResent notif s hs

/-! ## The timer, requests and acceptances -/

/-- The states in which the timer guards the frames that are outstanding. -/
def sends : FopState → Bool
  | .active | .rtNoWait => true
  | .rtWait | .initNoBc | .initBc | .init => false

/-- What comes of an expiration of the timer. -/
inductive TimerOutcome (keep : List Bool) (t : Fop) : Fop → Prop
  | idle (signal : Notification)
      (hidle : sends t.tf.copCfg.state → t.tf.copCfg.tt ≠ 0 ∧ t.tf.copCfg.tt ≠ 1) :
      TimerOutcome keep t (signalled signal t)
  | alert (notif : Notification) (hs : t.tf.copCfg.state ≠ .init)
      (htt : t.tf.copCfg.tt = 0 ∨ t.tf.copCfg.tt = 1) : TimerOutcome keep t (alerted notif t)
  | suspend (ss : UInt8) (hs : suspendedState ss = some t.tf.copCfg.state)
      (htt : t.tf.copCfg.tt = 0 ∨ t.tf.copCfg.tt = 1) :
      TimerOutcome keep t (t.setFop { t.tf.copCfg with ss := ss, state := .init })
  | retried (s' : Fop) (hs : sends t.tf.copCfg.state) (hcnt : t.tf.copCfg.txCnt < t.tf.copCfg.txLim)
      (htt : t.tf.copCfg.tt = 0 ∨ t.tf.copCfg.tt = 1)
      (h : Searched (retransmitting keep t) t.tf.copCfg.state s') : TimerOutcome keep t s'
  | command (s' : Fop) (hs : t.tf.copCfg.state = .initBc)
      (hcnt : t.tf.copCfg.txCnt < t.tf.copCfg.txLim) (h : CommandResent (commandMarked keep t) s') :
      TimerOutcome keep t s'

/-- Below the limit `tt` makes no difference, but for INIT_NO_BC. -/
theorem fopE16_outcome (fuel : ℕ) (hcnt : t.tf.copCfg.txCnt < t.tf.copCfg.txLim)
    (htt : t.tf.copCfg.tt = 0 ∨ t.tf.copCfg.tt = 1) :
    TimerOutcome keep t (fopE16 (fifoHooks keep) fuel t).2 ∧
      TimerOutcome keep t (fopE104 (fifoHooks keep) fuel t).2 := by
  have hretried : sends t.tf.copCfg.state → TimerOutcome keep t
      (adRetransmissionThen (fifoHooks keep) (lookThenReport (fifoHooks keep) none) t).2 :=
    fun hs => .retried _ hs hcnt htt (lookThenReport_searched none (retransmitting keep t))
  have hidle : sends t.tf.copCfg.state = false → TimerOutcome keep t t := by
    intro hnot
    refine .idle t.tf.copCfg.signal fun hs => ?_
    rw [hnot] at hs
    exact absurd hs (by decide)
  unfold fopE16 fopE104
  simp only [bind_apply, getFop_apply]
  cases hst : t.tf.copCfg.state with
  | active | rtNoWait =>
    have hs : sends t.tf.copCfg.state := by rw [hst]; rfl
    exact ⟨hretried hs, hretried hs⟩
  | rtWait | init =>
    have hs : sends t.tf.copCfg.state = false := by rw [hst]; rfl
    exact ⟨hidle hs, hidle hs⟩
  | initNoBc => exact ⟨.alert _ (by rw [hst]; decide) htt, .suspend 4 (by rw [hst]; rfl) htt⟩
  | initBc =>
    have hcommand : TimerOutcome keep t (bcRetransmission (fifoHooks keep) fuel t).2 :=
      .command _ hst hcnt (bcRetransmission_commandResent fuel t)
    exact ⟨hcommand, hcommand⟩

/-- At the limit `tt` decides between an alert and a suspension. -/
theorem fopE17_outcome (htt : t.tf.copCfg.tt = 0 ∨ t.tf.copCfg.tt = 1) :
    TimerOutcome keep t (fopE17 (fifoHooks keep) t).2 ∧
      TimerOutcome keep t (fopE18 (fifoHooks keep) t).2 := by
  have halert : t.tf.copCfg.state ≠ .init → TimerOutcome keep t (alerted .alertT1 t) :=
    fun hs => .alert _ hs htt
  unfold fopE17 fopE18
  simp only [bind_apply, getFop_apply]
  cases hst : t.tf.copCfg.state with
  | active | rtNoWait | rtWait | initNoBc =>
    exact ⟨halert (by rw [hst]; decide), .suspend _ (by rw [hst]; rfl) htt⟩
  | initBc => exact ⟨halert (by rw [hst]; decide), halert (by rw [hst]; decide)⟩
  | init =>
    have hidle : TimerOutcome keep t t := by
      refine .idle t.tf.copCfg.signal fun hs => ?_
      rw [hst] at hs
      exact absurd hs (by decide)
    exact ⟨hidle, hidle⟩

/-- What comes of an expiration of the timer. -/
theorem osdlpHandleTimerExpired_outcome (fuel : ℕ) (t : Fop) :
    TimerOutcome keep t (osdlpHandleTimerExpired (fifoHooks keep) fuel t).2 := by
  unfold osdlpHandleTimerExpired
  rw [bind_apply, getFop_apply]
  simp only [ite_apply_state, map_apply]
  split_ifs with hcnt h0 h1 h0 h1
  · exact (fopE16_outcome fuel hcnt (.inl h0)).1
  · exact (fopE16_outcome fuel hcnt (.inr h1)).2
  · exact .idle .undefError fun _ => ⟨h0, h1⟩
  · exact (fopE17_outcome (.inl h0)).1
  · exact (fopE17_outcome (.inr h1)).2
  · exact .idle .undefError fun _ => ⟨h0, h1⟩

/-- What comes of a type-A request. -/
inductive RequestOutcome (t : Fop) : Fop → Prop
  | idle (signal : Notification) : RequestOutcome t (signalled signal t)
  | delayed (hs : t.tf.copCfg.state = .rtWait) (hwait : t.world.waitQueue = []) :
      RequestOutcome t (signalled .delayResp (enqueued t))
  | searched (s' : Fop) (hs : sends t.tf.copCfg.state) (hwait : t.world.waitQueue = [])
      (h : Searched (enqueued t) t.tf.copCfg.state s') : RequestOutcome t s'

/-- A request is rejected, waits, or is followed by a search. -/
theorem osdlpReqTransferFdu_typeA (htype : t.tf.primaryHdr.bypass = .typeA) :
    RequestOutcome t (osdlpReqTransferFdu (fifoHooks keep) t).2 := by
  unfold osdlpReqTransferFdu
  rw [bind_apply, get_apply]
  simp only [htype, bind_apply, waitQueueEmpty_apply, ite_apply_state]
  split_ifs with hempty
  · have hwait : t.world.waitQueue = [] := List.isEmpty_iff.mp hempty
    unfold fopE19
    rw [bind_apply, getFop_apply]
    cases hst : t.tf.copCfg.state with
    | active | rtNoWait =>
      exact .searched _ (by rw [hst]; rfl) hwait (lookThenReport_searched none (enqueued t))
    | rtWait => exact .delayed hst hwait
    | initNoBc | initBc | init => exact .idle _
  · exact .idle _

/-- What comes of the acceptance of a type-A frame by the lower layer. -/
theorem osdlpAdAccept_searched (t : Fop) :
    (osdlpAdAccept (fifoHooks keep) t).2 = t ∨
      (sends t.tf.copCfg.state ∧
        Searched t t.tf.copCfg.state (osdlpAdAccept (fifoHooks keep) t).2) := by
  have hlook := @lookThenReport_searched keep none t
  unfold osdlpAdAccept
  rw [bind_apply, getFop_apply]
  cases hst : t.tf.copCfg.state with
  | active | rtNoWait =>
    rw [Option.getD_none, hst] at hlook
    exact .inr ⟨rfl, hlook⟩
  | rtWait | initNoBc | initBc | init => exact .inl rfl

end Osdlp.Interface
