import Osdlp.Interface.Fifo

/-!
# The event that a control word is

`osdlp_handle_clcw` chooses one of seventeen events by the control word and the FOP variables.
`clcwKind` names the event, `clcwEvent_eq` says that its handler runs, and `clcwKind_guard` under
what conditions it is chosen.  Ten of the events do no more than change the state or end the
service (`restHandler_outcome`).
-/

set_option autoImplicit false

namespace Osdlp.Interface

open Osdlp.Model Osdlp.Library

/-- The events of a control word, by their numbers. -/
inductive ClcwKind
  | e1 | e2 | e3 | e4 | e5 | e6 | e7 | e8 | e9 | e10 | e11 | e12 | e13 | e14 | e101 | e102 | e103
  | undefined
  deriving DecidableEq

/-- The event that a control word is, for the given FOP variables.
SOURCE: osdlp_cop.c:1980-2091 -/
def clcwKind (fop : FopConfig) (clcw : ClcwFrame) : ClcwKind :=
  let nr := clcw.reportValue
  if !clcw.lockout then
    if fop.vs = nr then
      if !clcw.rt then
        if !clcw.wait then
          if nr = fop.nnr then .e1 else .e2
        else .e3
      else .e4
    else if clcwInRange fop nr then
      if !clcw.rt then
        if !clcw.wait then
          if nr = fop.nnr then .e5 else .e6
        else .e7
      else if fop.txLim = 1 then
        if nr ≠ fop.nnr then .e101 else .e102
      else if fop.txLim > 1 then
        if nr ≠ fop.nnr then
          if !clcw.wait then .e8 else .e9
        else if fop.txCnt < fop.txLim then
          if !clcw.wait then .e10 else .e11
        else if !clcw.wait then .e12 else .e103
      else .undefined
    else .e13
  else .e14

/-- The handler of the event. -/
def ClcwKind.handler (h : CopHooks FifoWorld) (clcw : ClcwFrame) :
    ClcwKind → FopM FifoWorld Notification
  | .e1 => fopE1 h
  | .e2 => fopE2 h clcw
  | .e3 => fopE3 h
  | .e4 => fopE4 h
  | .e5 => fopE5 h
  | .e6 => fopE6 h clcw
  | .e7 => fopE7 h
  | .e8 => fopE8 h clcw
  | .e9 => fopE9 h clcw
  | .e10 => fopE10 h
  | .e11 => fopE11
  | .e12 => fopE12
  | .e13 => fopE13 h
  | .e14 => fopE14 h
  | .e101 => fopE101 h clcw
  | .e102 => fopE102 h
  | .e103 => fopE103
  | .undefined => answer .undefError

/-- The handler removes acknowledged frames first. -/
def ClcwKind.acks : ClcwKind → Bool
  | .e2 | .e6 | .e8 | .e9 | .e101 => true
  | _ => false

/-- The handler of the event is what runs. -/
theorem clcwEvent_eq (h : CopHooks FifoWorld) (fop : FopConfig) (clcw : ClcwFrame) :
    clcwEvent h fop clcw = (clcwKind fop clcw).handler h clcw := by
  unfold clcwEvent clcwKind
  simp only [apply_ite (ClcwKind.handler h clcw)]
  rfl

/-- What holds of every handler holds of the one that runs, with any hooks. -/
theorem clcwEvent_induct {W : Type} (h : CopHooks W) (fop : FopConfig) (clcw : ClcwFrame)
    {P : ClcwKind → FopM W Notification → Prop} (h1 : P .e1 (fopE1 h)) (h2 : P .e2 (fopE2 h clcw))
    (h3 : P .e3 (fopE3 h)) (h4 : P .e4 (fopE4 h)) (h5 : P .e5 (fopE5 h))
    (h6 : P .e6 (fopE6 h clcw)) (h7 : P .e7 (fopE7 h)) (h8 : P .e8 (fopE8 h clcw))
    (h9 : P .e9 (fopE9 h clcw)) (h10 : P .e10 (fopE10 h)) (h11 : P .e11 fopE11)
    (h12 : P .e12 fopE12) (h13 : P .e13 (fopE13 h)) (h14 : P .e14 (fopE14 h))
    (h101 : P .e101 (fopE101 h clcw)) (h102 : P .e102 (fopE102 h)) (h103 : P .e103 fopE103)
    (hundefined : P .undefined (answer .undefError)) :
    P (clcwKind fop clcw) (clcwEvent h fop clcw) := by
  have hite : ∀ {c : Prop} [Decidable c] {kind kind' : ClcwKind} {m m' : FopM W Notification},
      P kind m → P kind' m' → P (if c then kind else kind') (if c then m else m') := by
    intro c _ kind kind' m m' hm hm'
    split
    · exact hm
    · exact hm'
  unfold clcwKind clcwEvent
  refine hite (hite (hite (hite (hite h1 h2) h3) h4) (hite ?_ h13)) h14
  refine hite (hite (hite h5 h6) h7) (hite (hite h101 h102) (hite ?_ hundefined))
  exact hite (hite h8 h9) (hite (hite h10 h11) (hite h12 h103))

/-- The sender with another control word. -/
def withClcw (clcw : ClcwFrame) (s : Fop) : Fop :=
  { s with tf := { s.tf with mission := { s.tf.mission with clcw := clcw } } }

theorem osdlpHandleClcw_handler (h : CopHooks FifoWorld) (ocf : List UInt8) (s : Fop) :
    osdlpHandleClcw h ocf s = (clcwKind s.tf.copCfg (osdlpClcwUnpack ocf)).handler h
      (osdlpClcwUnpack ocf) (withClcw (osdlpClcwUnpack ocf) s) := by
  rw [← clcwEvent_eq]
  rfl

/-! ## When an event is chosen -/

/-- The report value is V(S). -/
def AtVs (fop : FopConfig) (clcw : ClcwFrame) : Prop :=
  clcw.lockout = false ∧ fop.vs = clcw.reportValue

/-- The report value is another one that passes the range test. -/
def BehindVs (fop : FopConfig) (clcw : ClcwFrame) : Prop :=
  clcw.lockout = false ∧ fop.vs ≠ clcw.reportValue ∧ clcwInRange fop clcw.reportValue = true

/-- Neither a retransmission nor a wait is asked for. -/
def Clear (clcw : ClcwFrame) : Prop := clcw.rt = false ∧ clcw.wait = false

/-- A retransmission is asked for, and the limit allows one. -/
def Repeats (fop : FopConfig) (clcw : ClcwFrame) : Prop :=
  BehindVs fop clcw ∧ clcw.rt = true ∧ fop.txLim > 1

/-- What the control word and the FOP variables are like where the event is chosen. -/
def ClcwKind.Guard (fop : FopConfig) (clcw : ClcwFrame) : ClcwKind → Prop
  | .e1 => AtVs fop clcw ∧ Clear clcw ∧ clcw.reportValue = fop.nnr
  | .e2 => AtVs fop clcw ∧ Clear clcw ∧ clcw.reportValue ≠ fop.nnr
  | .e3 => AtVs fop clcw ∧ clcw.rt = false ∧ clcw.wait = true
  | .e4 => AtVs fop clcw ∧ clcw.rt = true
  | .e5 => BehindVs fop clcw ∧ Clear clcw ∧ clcw.reportValue = fop.nnr
  | .e6 => BehindVs fop clcw ∧ Clear clcw ∧ clcw.reportValue ≠ fop.nnr
  | .e7 => BehindVs fop clcw ∧ clcw.rt = false ∧ clcw.wait = true
  | .e101 => BehindVs fop clcw ∧ clcw.rt = true ∧ fop.txLim = 1 ∧ clcw.reportValue ≠ fop.nnr
  | .e102 => BehindVs fop clcw ∧ clcw.rt = true ∧ fop.txLim = 1 ∧ clcw.reportValue = fop.nnr
  | .e8 => Repeats fop clcw ∧ clcw.reportValue ≠ fop.nnr ∧ clcw.wait = false
  | .e9 => Repeats fop clcw ∧ clcw.reportValue ≠ fop.nnr ∧ clcw.wait = true
  | .e10 => Repeats fop clcw ∧ clcw.reportValue = fop.nnr ∧ fop.txCnt < fop.txLim ∧ clcw.wait = false
  | .e11 => Repeats fop clcw ∧ clcw.reportValue = fop.nnr ∧ fop.txCnt < fop.txLim ∧ clcw.wait = true
  | .e12 => Repeats fop clcw ∧ clcw.reportValue = fop.nnr ∧ ¬ fop.txCnt < fop.txLim ∧ clcw.wait = false
  | .e103 => Repeats fop clcw ∧ clcw.reportValue = fop.nnr ∧ ¬ fop.txCnt < fop.txLim ∧ clcw.wait = true
  | .undefined => BehindVs fop clcw ∧ clcw.rt = true ∧ fop.txLim ≠ 1 ∧ ¬ fop.txLim > 1
  | .e13 => clcw.lockout = false ∧ fop.vs ≠ clcw.reportValue ∧
      clcwInRange fop clcw.reportValue = false
  | .e14 => clcw.lockout = true

variable {fop : FopConfig} {clcw : ClcwFrame}

/-- A condition decides between two events. -/
theorem ClcwKind.Guard.ite {c : Prop} [Decidable c] {kind kind' : ClcwKind}
    (hthen : c → kind.Guard fop clcw) (helse : ¬ c → kind'.Guard fop clcw) :
    (if c then kind else kind').Guard fop clcw := by
  split_ifs with hc
  · exact hthen hc
  · exact helse hc

theorem clcwKind_guard (fop : FopConfig) (clcw : ClcwFrame) :
    (clcwKind fop clcw).Guard fop clcw := by
  unfold clcwKind
  refine .ite (fun hlock => .ite (fun hvs => ?_) fun hvs => .ite (fun hrange => ?_) fun hrange => ?_)
    fun hlock => show clcw.lockout = true by simpa using hlock
  · have hat : AtVs fop clcw := ⟨by simpa using hlock, hvs⟩
    refine .ite (fun hrt => .ite (fun hwait => ?_) fun hwait => ?_) fun hrt => ⟨hat, by simpa using hrt⟩
    · have hclear : Clear clcw := ⟨by simpa using hrt, by simpa using hwait⟩
      exact .ite (fun hnr => ⟨hat, hclear, hnr⟩) fun hnr => ⟨hat, hclear, hnr⟩
    · exact ⟨hat, by simpa using hrt, by simpa using hwait⟩
  · have hbehind : BehindVs fop clcw := ⟨by simpa using hlock, hvs, hrange⟩
    refine .ite (fun hrt => .ite (fun hwait => ?_) fun hwait => ?_) fun hrt => ?_
    · have hclear : Clear clcw := ⟨by simpa using hrt, by simpa using hwait⟩
      exact .ite (fun hnr => ⟨hbehind, hclear, hnr⟩) fun hnr => ⟨hbehind, hclear, hnr⟩
    · exact ⟨hbehind, by simpa using hrt, by simpa using hwait⟩
    · have hrt' : clcw.rt = true := by simpa using hrt
      refine .ite (fun hone => .ite (fun hnr => ⟨hbehind, hrt', hone, hnr⟩)
        fun hnr => ⟨hbehind, hrt', hone, not_not.mp hnr⟩) fun hone => .ite (fun hmore => ?_)
        fun hmore => ⟨hbehind, hrt', hone, hmore⟩
      have hrepeats : Repeats fop clcw := ⟨hbehind, hrt', hmore⟩
      refine .ite (fun hnr => .ite (fun hwait => ⟨hrepeats, hnr, by simpa using hwait⟩)
        fun hwait => ⟨hrepeats, hnr, by simpa using hwait⟩) fun hnr => ?_
      have hnr' := not_not.mp hnr
      exact .ite (fun hcnt => .ite (fun hwait => ⟨hrepeats, hnr', hcnt, by simpa using hwait⟩)
        fun hwait => ⟨hrepeats, hnr', hcnt, by simpa using hwait⟩) fun hcnt =>
        .ite (fun hwait => ⟨hrepeats, hnr', hcnt, by simpa using hwait⟩)
          fun hwait => ⟨hrepeats, hnr', hcnt, by simpa using hwait⟩
  · exact ⟨by simpa using hlock, hvs, by simpa using hrange⟩

/-! ## The events that only change the state -/

/-- The states in which the AD service is running. -/
def isAd : FopState → Bool
  | .active | .rtNoWait | .rtWait => true
  | .initNoBc | .initBc | .init => false

theorem not_isAd_init {s : Fop} (h : isAd s.tf.copCfg.state) : s.tf.copCfg.state ≠ .init := by
  intro hinit
  rw [hinit] at h
  exact absurd h (by decide)

theorem getFop_apply (s : Fop) : getFop s = (s.tf.copCfg, s) := (rfl)

/-- What an event comes to that neither acknowledges nor looks for a frame: nothing, an alert, or
another state of the running service. -/
inductive RestOutcome (kind : ClcwKind) (s : Fop) : Notification × Fop → Prop
  | unchanged (notif : Notification)
      (hkind : isAd s.tf.copCfg.state → notif = .ignore ∧
        ((kind = .e5 ∧ s.tf.copCfg.state = .active) ∨ (kind = .e12 ∧ s.tf.copCfg.state = .rtNoWait) ∨
          ((kind = .e11 ∨ kind = .e103) ∧ s.tf.copCfg.state = .rtWait))) :
      RestOutcome kind s (notif, s)
  | alert (notif : Notification) (hnotif : notif.isAlert = true) (hs : s.tf.copCfg.state ≠ .init)
      (hkind : kind ≠ .e12) (hnnr : kind ≠ .e13 → notif ≠ .alertNnr) :
      RestOutcome kind s (notif, alerted notif s)
  | enters (state : FopState) (had : isAd s.tf.copCfg.state)
      (hstate : (kind = .e12 ∧ state = .rtNoWait) ∨
        ((kind = .e11 ∨ kind = .e103) ∧ state = .rtWait)) :
      RestOutcome kind s (.ignore, s.setFop { s.tf.copCfg with state := state })

/-- The events that neither acknowledge nor look for a frame, E1 apart. -/
def ClcwKind.rests : ClcwKind → Bool
  | .e3 | .e4 | .e5 | .e7 | .e11 | .e12 | .e13 | .e14 | .e102 | .e103 => true
  | _ => false

variable {keep : List Bool}

/-- SOURCE: osdlp_cop.c:782-948, 1016-1065, 1131-1180, 1366-1579 -/
theorem restHandler_outcome {kind : ClcwKind} (hkind : kind.rests = true) (clcw : ClcwFrame)
    (s : Fop) : RestOutcome kind s (kind.handler (fifoHooks keep) clcw s) := by
  have hidle : ¬ isAd s.tf.copCfg.state → ∀ notif, RestOutcome kind s (notif, s) :=
    fun hnot notif => .unchanged notif fun had => absurd had hnot
  cases kind with
  | e1 | e2 | e6 | e8 | e9 | e10 | e101 | undefined => exact absurd hkind (by decide)
  | e3 =>
    simp only [ClcwKind.handler, fopE3, bind_apply, getFop_apply]
    cases hst : s.tf.copCfg.state with
    | active | rtNoWait | rtWait | initNoBc | initBc =>
      simp only [alertTo_apply]
      exact .alert _ rfl (by rw [hst]; decide) (by decide) (by decide)
    | init => exact hidle (by rw [hst]; decide) _
  | e4 | e13 | e14 =>
    simp only [ClcwKind.handler, fopE4, fopE13, fopE14, bind_apply, getFop_apply]
    cases hst : s.tf.copCfg.state with
    | active | rtNoWait | rtWait | initNoBc =>
      simp only [alertTo_apply]
      exact .alert _ rfl (by rw [hst]; decide) (by decide) (by decide)
    | initBc | init => exact hidle (by rw [hst]; decide) _
  | e5 =>
    simp only [ClcwKind.handler, fopE5, bind_apply, getFop_apply]
    cases hst : s.tf.copCfg.state with
    | rtNoWait | rtWait =>
      simp only [alertTo_apply]
      exact .alert _ rfl (by rw [hst]; decide) (by decide) (by decide)
    | active => exact .unchanged _ fun _ => ⟨rfl, .inl ⟨rfl, hst⟩⟩
    | initNoBc | initBc | init => exact hidle (by rw [hst]; decide) _
  | e7 | e102 =>
    simp only [ClcwKind.handler, fopE7, fopE102, bind_apply, getFop_apply]
    cases hst : s.tf.copCfg.state with
    | active | rtNoWait | rtWait =>
      simp only [alertTo_apply]
      exact .alert _ rfl (by rw [hst]; decide) (by decide) (by decide)
    | initNoBc | initBc | init => exact hidle (by rw [hst]; decide) _
  | e11 | e103 =>
    simp only [ClcwKind.handler, fopE11, fopE103, bind_apply, getFop_apply]
    cases hst : s.tf.copCfg.state with
    | active | rtNoWait => exact .enters .rtWait (by rw [hst]; rfl) (.inr ⟨by decide, rfl⟩)
    | rtWait => exact .unchanged _ fun _ => ⟨rfl, .inr (.inr ⟨by decide, hst⟩)⟩
    | initNoBc | initBc | init => exact hidle (by rw [hst]; decide) _
  | e12 =>
    simp only [ClcwKind.handler, fopE12, bind_apply, getFop_apply]
    cases hst : s.tf.copCfg.state with
    | active | rtWait => exact .enters .rtNoWait (by rw [hst]; rfl) (.inl ⟨rfl, rfl⟩)
    | rtNoWait => exact .unchanged _ fun _ => ⟨rfl, .inr (.inl ⟨rfl, hst⟩)⟩
    | initNoBc | initBc | init => exact hidle (by rw [hst]; decide) _

end Osdlp.Interface
