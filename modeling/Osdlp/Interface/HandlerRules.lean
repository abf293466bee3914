import Osdlp.Interface.ClcwEvents

/-!
# Rules for the handlers

The handlers of FOP-1 are tables over six states, and their rows are put together from a few
operations.  A property that is closed under these holds of the handlers of control words
(`AckClosed.clcwEvent`) and of the timer (`TimerClosed.handleTimerExpired`), with any hooks.
-/

set_option autoImplicit false

namespace Osdlp.Interface

open Osdlp.Model Osdlp.Library

variable {W : Type} {h : CopHooks W} {clcw : ClcwFrame} {P : FopM W Notification → Prop}

/-- `P` is closed under the rows of the events that neither acknowledge nor search.  `ALERT_CLCW`,
which only E3 and E7 raise, is left out. -/
structure RestClosed (h : CopHooks W) (P : FopM W Notification → Prop) : Prop where
  row : ∀ rows : FopConfig → FopM W Notification, (∀ fop, P (rows fop)) → P (getFop >>= rows)
  ignore : P (pure .ignore)
  na : P (pure .na)
  enter : ∀ state next, P next → P (do setState state; next)
  alert : ∀ notif, notif ≠ .alertClcw → P (alertTo h notif)

/-- SOURCE: osdlp_cop.c:847-948, 1131-1180, 1366-1579 -/
theorem RestClosed.restEvent (hP : RestClosed h P) :
    ∀ m ∈ [fopE4 h, fopE5 h, fopE11, fopE12, fopE13 h, fopE14 h, fopE102 h, fopE103], P m := by
  have hset : ∀ state, P (do setState state; return .ignore) :=
    fun state => hP.enter state _ hP.ignore
  intro m hm
  simp only [List.mem_cons, List.not_mem_nil, or_false] at hm
  rcases hm with rfl | rfl | rfl | rfl | rfl | rfl | rfl | rfl
  · refine hP.row _ fun fop => ?_
    cases fop.state with
    | active | rtNoWait | rtWait | initNoBc => exact hP.alert _ (by decide)
    | initBc | init => exact hP.ignore
  · refine hP.row _ fun fop => ?_
    cases fop.state with
    | rtNoWait | rtWait => exact hP.alert _ (by decide)
    | initNoBc | initBc => exact hP.na
    | active | init => exact hP.ignore
  · refine hP.row _ fun fop => ?_
    cases fop.state with
    | active | rtNoWait => exact hset _
    | rtWait | initNoBc | initBc | init => exact hP.ignore
  · refine hP.row _ fun fop => ?_
    cases fop.state with
    | active | rtWait => exact hset _
    | initNoBc | initBc => exact hP.na
    | rtNoWait | init => exact hP.ignore
  · refine hP.row _ fun fop => ?_
    cases fop.state with
    | active | rtNoWait | rtWait | initNoBc => exact hP.alert _ (by decide)
    | initBc | init => exact hP.ignore
  · refine hP.row _ fun fop => ?_
    cases fop.state with
    | active | rtNoWait | rtWait | initNoBc => exact hP.alert _ (by decide)
    | initBc | init => exact hP.ignore
  · refine hP.row _ fun fop => ?_
    cases fop.state with
    | active | rtNoWait | rtWait => exact hP.alert _ (by decide)
    | initNoBc | initBc => exact hP.na
    | init => exact hP.ignore
  · refine hP.row _ fun fop => ?_
    cases fop.state with
    | active | rtNoWait => exact hset _
    | initNoBc | initBc => exact hP.na
    | rtWait | init => exact hP.ignore

/-- E3 and E7 as well.
SOURCE: osdlp_cop.c:782-845, 1016-1065 -/
theorem RestClosed.plainEvent (hP : RestClosed h P) (hclcw : P (alertTo h .alertClcw)) :
    ∀ m ∈ [fopE3 h, fopE4 h, fopE5 h, fopE7 h, fopE11, fopE12, fopE13 h, fopE14 h, fopE102 h,
      fopE103], P m := by
  have h3 : P (fopE3 h) := by
    refine hP.row _ fun fop => ?_
    cases fop.state with
    | active | rtNoWait | rtWait | initNoBc | initBc => exact hclcw
    | init => exact hP.ignore
  have h7 : P (fopE7 h) := by
    refine hP.row _ fun fop => ?_
    cases fop.state with
    | active | rtNoWait | rtWait => exact hclcw
    | initNoBc | initBc => exact hP.na
    | init => exact hP.ignore
  have hrest := hP.restEvent
  simp only [List.forall_mem_cons] at hrest ⊢
  obtain ⟨h4, h5, h11, h12, h13, h14, h102, h103, hnil⟩ := hrest
  exact ⟨h3, h4, h5, h7, h11, h12, h13, h14, h102, h103, hnil⟩

/-- E1, which goes on whatever the alert and the release of the command return.
SOURCE: osdlp_cop.c:644-713 -/
theorem RestClosed.fopE1 (hP : RestClosed h P)
    (hanswer : ∀ notif, notif ≠ .alertClcw → P (answer notif))
    (hcancel : ∀ next, P next → P (do let _ ← h.timerCancel; next))
    (halert : P (do let _ ← osdlpAlert h; setState .init; answer .alertSynch))
    (hrelease : ∀ next : Int → FopM W Notification, (∀ ret, P (next ret)) →
      P (osdlpReleaseCopyOfBc h >>= next)) : P (fopE1 h) := by
  have hactive := hP.enter .active _ (hcancel _ (hanswer .positiveDir (by decide)))
  refine hP.row _ fun fop => ?_
  cases fop.state with
  | active | init => exact hP.ignore
  | rtNoWait | rtWait => exact halert
  | initNoBc => exact hactive
  | initBc => exact hrelease _ fun ret => hactive

/-- `P` is also closed under acknowledging, retransmitting and searching. -/
structure AckClosed (h : CopHooks W) (clcw : ClcwFrame) (P : FopM W Notification → Prop) : Prop
    extends RestClosed h P where
  remove : ∀ next, P next → P (removeAckedThen h clcw next)
  retransmit : ∀ next, P next → P (adRetransmissionThen h next)
  cancel : ∀ next, P next → P (do let _ ← h.timerCancel; next)
  look : ∀ state, P (lookThenReport h state)

/-- The events that acknowledge, E101 apart, and the one that retransmits without.
SOURCE: osdlp_cop.c:715-780, 950-1014, 1182-1364 -/
theorem AckClosed.ackEvent (hP : AckClosed h clcw P) :
    ∀ m ∈ [fopE2 h clcw, fopE6 h clcw, fopE8 h clcw, fopE9 h clcw, fopE10 h], P m := by
  intro m hm
  simp only [List.mem_cons, List.not_mem_nil, or_false] at hm
  rcases hm with rfl | rfl | rfl | rfl | rfl
  · refine hP.row _ fun fop => ?_
    cases fop.state with
    | active | rtNoWait | rtWait => exact hP.remove _ (hP.cancel _ (hP.look none))
    | initNoBc | initBc => exact hP.na
    | init => exact hP.ignore
  · refine hP.row _ fun fop => ?_
    cases fop.state with
    | active | rtWait => exact hP.remove _ (hP.look _)
    | rtNoWait => exact hP.remove _ (hP.enter _ _ (hP.look none))
    | initNoBc | initBc => exact hP.na
    | init => exact hP.ignore
  · refine hP.row _ fun fop => ?_
    cases fop.state with
    | active | rtNoWait | rtWait => exact hP.remove _ (hP.retransmit _ (hP.look _))
    | initNoBc | initBc => exact hP.na
    | init => exact hP.ignore
  · refine hP.row _ fun fop => ?_
    cases fop.state with
    | active | rtNoWait | rtWait => exact hP.remove _ (hP.enter _ _ hP.ignore)
    | initNoBc | initBc => exact hP.na
    | init => exact hP.ignore
  · refine hP.row _ fun fop => ?_
    cases fop.state with
    | active | rtWait => exact hP.retransmit _ (hP.look _)
    | initNoBc | initBc => exact hP.na
    | rtNoWait | init => exact hP.ignore

/-- Every control word, if `P` holds of the handlers that are not among these as well.
SOURCE: osdlp_cop.c:1980-2091 -/
theorem AckClosed.clcwEvent (hP : AckClosed h clcw P) (hclcw : P (alertTo h .alertClcw))
    (h1 : P (Model.fopE1 h)) (h101 : P (fopE101 h clcw)) (hundefined : P (answer .undefError))
    (fop : FopConfig) : P (clcwEvent h fop clcw) := by
  have hplain := hP.plainEvent hclcw
  have hack := hP.ackEvent
  simp only [List.forall_mem_cons] at hplain hack
  obtain ⟨h3, h4, h5, h7, h11, h12, h13, h14, h102, h103, -⟩ := hplain
  obtain ⟨h2, h6, h8, h9, h10, -⟩ := hack
  exact clcwEvent_induct h fop clcw (P := fun _ m => P m) h1 h2 h3 h4 h5 h6 h7 h8 h9 h10 h11 h12
    h13 h14 h101 h102 h103 hundefined

/-- `Q` is closed under the rows of the events of the timer. -/
structure TimerClosed (h : CopHooks W) (fuel : ℕ) (Q : FopM W (Option Notification) → Prop) :
    Prop where
  row : ∀ rows : FopConfig → FopM W (Option Notification), (∀ fop, Q (rows fop)) →
    Q (getFop >>= rows)
  none : ∀ notif, Q (pure (some notif))
  undefined : Q (some <$> answer .undefError)
  alert : Q (some <$> alertTo h .alertT1)
  suspend : ∀ ss, Q (some <$> suspend ss)
  retransmit : Q (some <$> adRetransmissionThen h (lookThenReport h .none))
  retransmitBc : Q (bcRetransmission h fuel)

/-- An expiration of the timer.
SOURCE: osdlp_cop.c:1581-1816, 2094-2125 -/
theorem TimerClosed.handleTimerExpired {fuel : ℕ} {Q : FopM W (Option Notification) → Prop}
    (hQ : TimerClosed h fuel Q) : Q (osdlpHandleTimerExpired h fuel) := by
  have h16 : Q (fopE16 h fuel) := by
    refine hQ.row _ fun fop => ?_
    cases fop.state with
    | active | rtNoWait => exact hQ.retransmit
    | rtWait | init => exact hQ.none _
    | initNoBc => exact hQ.alert
    | initBc => exact hQ.retransmitBc
  have h104 : Q (fopE104 h fuel) := by
    refine hQ.row _ fun fop => ?_
    cases fop.state with
    | active | rtNoWait => exact hQ.retransmit
    | rtWait | init => exact hQ.none _
    | initNoBc => exact hQ.suspend _
    | initBc => exact hQ.retransmitBc
  have hrow : ∀ rows : FopConfig → FopM W Notification, (∀ fop, Q (some <$> rows fop)) →
      Q (some <$> (getFop >>= rows)) := fun rows hrows => hQ.row _ hrows
  have h17 : Q (some <$> fopE17 h) := by
    refine hrow _ fun fop => ?_
    cases fop.state with
    | active | rtNoWait | rtWait | initNoBc | initBc => exact hQ.alert
    | init => exact hQ.none _
  have h18 : Q (some <$> fopE18 h) := by
    refine hrow _ fun fop => ?_
    cases fop.state with
    | active | rtNoWait | rtWait | initNoBc => exact hQ.suspend _
    | initBc => exact hQ.alert
    | init => exact hQ.none _
  refine hQ.row _ fun fop => ?_
  split_ifs
  · exact h16
  · exact h104
  · exact hQ.undefined
  · exact h17
  · exact h18
  · exact hQ.undefined

end Osdlp.Interface
