import Osdlp.Interface.FopRun
import Osdlp.Library.StateRules
import Osdlp.Interface.HandlerRules

/-!
# What the signal tells

The user learns from `cop_cfg.fop.signal` what an operation of FOP-1 has come to.  Most operations
store there what they return (`Tells`); `untold` lists the ones that return something else than what
they have stored, for which the field keeps its old value (`signal_told_iff`).
-/

set_option autoImplicit false

namespace Osdlp.Analysis

open Osdlp.Model Osdlp.Interface Osdlp.Library

variable {W : Type} {α : Type} {h : CopHooks W}

/-- The entry points of FOP-1 that return a notification. -/
inductive FopEntry
  | op (op : FopOp)
  | setSlidingWindow (newWnd : UInt8)

/-- One call, with any hooks; `depth` bounds the search for a directive.  The frame of a request is
set up before. -/
def FopEntry.call (h : CopHooks W) (depth : ℕ) : FopEntry → FopM W (Option Notification)
  | .op (.request hdr frameData) => do
    modify fun s => { s with tf := { s.tf with primaryHdr := hdr, frameData := frameData } }
    some <$> osdlpReqTransferFdu h
  | .op (.clcw ocf) => some <$> osdlpHandleClcw h ocf
  | .op .timerExpired => osdlpHandleTimerExpired h depth
  | .op .adAccept => some <$> osdlpAdAccept h
  | .op .adReject => some <$> osdlpAdReject h
  | .op .bcAccept => osdlpBcAccept h depth
  | .op .bcReject => some <$> osdlpBcReject h
  | .op .bdAccept => some <$> osdlpBdAccept
  | .op .bdReject => some <$> osdlpBdReject h
  | .op .initiateNoClcw => some <$> osdlpInitiateNoClcw h
  | .op .initiateWithClcw => some <$> osdlpInitiateWithClcw h
  | .op .initiateWithUnlock => some <$> osdlpInitiateWithUnlock h
  | .op (.initiateWithSetvr newVr) => some <$> osdlpInitiateWithSetvr h newVr
  | .op .terminateAd => some <$> osdlpTerminateAd h
  | .op .resumeAd => some <$> osdlpResumeAd h
  | .op (.setNewVs newVs) => some <$> osdlpSetNewVs newVs
  | .op (.setTimer newT1) => some <$> osdlpSetTimer newT1
  | .op (.setTxLimit newLim) => some <$> osdlpSetTxLimit newLim
  | .op (.setTt newTt) => some <$> osdlpSetTt newTt
  | .setSlidingWindow newWnd => some <$> osdlpSetSlidingWindow newWnd

/-- The signal is what has been returned, unless that is IGNORE or NA. -/
def Tells (result : Option Notification) (s : FopSt W) : Prop :=
  ∀ notif, result = some notif → notif ≠ .ignore → notif ≠ .na → s.tf.copCfg.signal = notif

/-- An expiration of the timer suspends the service.
SOURCE: osdlp_cop.c:1648-1708, 1774-1816 -/
def suspends (fop : FopConfig) : Bool :=
  fop.tt = 1 &&
    match fop.state with
    | .initNoBc => true
    | .active | .rtNoWait | .rtWait => !(fop.txCnt < fop.txLim)
    | .initBc | .init => false

/-- What a call returns without having stored it: a suspension of the service, the rejection of some
directives, and the answer to E101 in INIT_BC. -/
def untold (fop : FopConfig) : FopEntry → Option Notification
  | .op (.clcw ocf) =>
    if clcwKind fop (osdlpClcwUnpack ocf) = .e101 ∧ fop.state = .initBc then some .acceptDir
    else none
  | .op .timerExpired =>
    if suspends fop then some .suspend else none
  | .op .initiateWithUnlock | .op (.initiateWithSetvr _) =>
    if fop.state = .init then none else some .rejectDir
  | .op .resumeAd => if fop.ss = 0 then some .rejectDir else none
  | .op (.setNewVs _) => if fop.state = .init ∧ fop.ss = 0 then none else some .rejectDir
  | _ => none

/-! ## Programs that store what they return -/

/-- The program stores what it returns. -/
abbrev Told (m : FopM W Notification) : Prop :=
  Hoare (fun _ => True) m fun notif s => Tells (some notif) s

/-- What comes first does not matter, since the end of the program stores what it returns. -/
theorem Told.bind {m : FopM W α} {k : α → FopM W Notification} (hk : ∀ a, Told (k a)) :
    Told (m >>= k) :=
  Hoare.bind (R := fun _ _ => True) (fun _ _ => trivial) hk

/-- An answer is stored and returned. -/
theorem answer_told (notif : Notification) : Told (answer notif : FopM W Notification) := by
  intro s _ notif' heq _ _
  exact Option.some.inj heq

/-- IGNORE tells nothing. -/
theorem ignore_told : Told (pure .ignore : FopM W Notification) := by
  intro s _ notif heq hignore _
  exact absurd (Option.some.inj heq).symm hignore

/-- NA tells nothing. -/
theorem na_told : Told (pure .na : FopM W Notification) := by
  intro s _ notif heq _ hna
  exact absurd (Option.some.inj heq).symm hna

/-- Either branch stores what it returns. -/
theorem Told.ite {c : Prop} [Decidable c] {m n : FopM W Notification} (hm : Told m) (hn : Told n) :
    Told (if c then m else n) :=
  Hoare.ite (fun _ => hm) (fun _ => hn)

/-- A report stores what the search has found, or returns what is stored. -/
theorem report_told (notif : Notification) : Told (report notif : FopM W Notification) := by
  unfold report
  apply Told.ite
  · exact answer_told notif
  · intro s _ notif' heq _ _
    exact Option.some.inj heq

/-- In particular from the states in which a guard holds. -/
theorem Told.guarded {guard : FopSt W → Prop} {m : FopM W Notification} (hm : Told m) :
    Hoare guard m fun notif s => Tells (some notif) s :=
  fun s _ => hm s trivial

/-- The program goes on with the FOP variables as they are. -/
theorem getFop_bind (k : FopConfig → FopM W α) (s : FopSt W) :
    (getFop >>= k) s = k s.tf.copCfg s := rfl

/-- The rule for a look at the FOP variables, which the rest of the program may rely on. -/
theorem Hoare.getFop {guard : FopSt W → Prop} {k : FopConfig → FopM W α} {Q : α → FopSt W → Prop}
    (hk : ∀ fop, Hoare (fun s => guard s ∧ s.tf.copCfg = fop) (k fop) Q) :
    Hoare guard (Model.getFop >>= k) Q :=
  fun s hs => hk s.tf.copCfg s ⟨hs, rfl⟩

/-- An alert stores its notification, or an error. -/
theorem alertTo_told (notif : Notification) : Told (alertTo h notif) :=
  Told.bind fun _ => Told.ite (answer_told _) (Told.bind fun _ => answer_told _)

/-- The state may change between the search and its report. -/
theorem lookThenReport_told (state : Option FopState) : Told (lookThenReport h state) := by
  apply Told.bind
  intro notif
  cases state with
  | none => exact report_told notif
  | some state => exact Told.bind fun _ => report_told notif

/-- A removal that fails stores an error. -/
theorem removeAckedThen_told (clcw : ClcwFrame) {next : FopM W Notification} (hnext : Told next) :
    Told (removeAckedThen h clcw next) :=
  Told.bind fun _ => Told.ite (answer_told _) hnext

/-- A retransmission that fails to start stores an error. -/
theorem adRetransmissionThen_told {next : FopM W Notification} (hnext : Told next) :
    Told (adRetransmissionThen h next) :=
  Told.bind fun _ => Told.ite (answer_told _) hnext

/-- A rejection by the lower layer ends in an alert. -/
theorem rejectAlert_told : Told (rejectAlert h) := by
  apply Told.bind
  intro fop
  cases fop.state with
  | active | rtNoWait | rtWait | initNoBc | initBc => exact alertTo_told _
  | init => exact Told.bind fun _ => Told.ite (answer_told _) (answer_told _)

/-! ## A control word -/

/-- What handlers without acknowledgement are put together from. -/
theorem restClosed_told : RestClosed h Told where
  row _ hrows := Told.bind hrows
  ignore := ignore_told
  na := na_told
  enter _ _ hnext := Told.bind fun _ => hnext
  alert notif _ := alertTo_told notif

/-- What the other handlers of control words are put together from. -/
theorem ackClosed_told (clcw : ClcwFrame) : AckClosed h clcw Told where
  toRestClosed := restClosed_told
  remove _ hnext := removeAckedThen_told clcw hnext
  retransmit _ hnext := adRetransmissionThen_told hnext
  cancel _ hnext := Told.bind fun _ => hnext
  look state := lookThenReport_told state

/-- All answers of E1 are stored. -/
theorem fopE1_told : Told (fopE1 h) :=
  restClosed_told.fopE1 (fun notif _ => answer_told notif) (fun _ hnext => Told.bind fun _ => hnext)
    (Told.bind fun _ => Told.bind fun _ => answer_told _) fun _ hnext => Told.bind hnext

/-- In INIT_BC the source returns 0 and leaves the signal. -/
theorem fopE101_told (clcw : ClcwFrame) :
    Hoare (fun s : FopSt W => s.tf.copCfg.state ≠ .initBc) (fopE101 h clcw)
      fun notif s => Tells (some notif) s := by
  apply Hoare.getFop
  intro fop
  cases hst : fop.state with
  | active | rtNoWait => exact Told.guarded (removeAckedThen_told clcw (alertTo_told _))
  | rtWait => exact Told.guarded (Told.bind fun _ => alertTo_told _)
  | initNoBc => exact Told.guarded na_told
  | initBc =>
    rintro s ⟨hne, rfl⟩
    exact absurd hst hne
  | init => exact Told.guarded ignore_told

/-- Every handler stores what it returns, but for E101 in INIT_BC.
SOURCE: osdlp_cop.c:663-1579, 1980-2091 -/
theorem clcwEvent_told (fop : FopConfig) (clcw : ClcwFrame) :
    Hoare (fun s : FopSt W => ¬ (clcwKind fop clcw = .e101 ∧ s.tf.copCfg.state = .initBc))
      (clcwEvent h fop clcw) fun notif s => Tells (some notif) s := by
  have hplain := (@restClosed_told W h).plainEvent (alertTo_told _)
  have hack := (@ackClosed_told W h clcw).ackEvent
  simp only [List.forall_mem_cons] at hplain hack
  obtain ⟨h3, h4, h5, h7, h11, h12, h13, h14, h102, h103, -⟩ := hplain
  obtain ⟨h2, h6, h8, h9, h10, -⟩ := hack
  refine clcwEvent_induct h fop clcw (P := fun kind m =>
    Hoare (fun s : FopSt W => ¬ (kind = .e101 ∧ s.tf.copCfg.state = .initBc)) m
      fun notif s => Tells (some notif) s) fopE1_told.guarded h2.guarded h3.guarded
    h4.guarded h5.guarded h6.guarded h7.guarded h8.guarded h9.guarded h10.guarded h11.guarded
    h12.guarded h13.guarded h14.guarded ?_ h102.guarded h103.guarded (Told.guarded (answer_told _))
  intro s hs
  exact fopE101_told clcw s fun hst => hs ⟨rfl, hst⟩

/-! ## The timer -/

/-- The program stores what it returns, if it returns. -/
abbrev MayTell (m : FopM W (Option Notification)) : Prop := Hoare (fun _ => True) m Tells

/-- A program that always returns. -/
theorem Told.map {m : FopM W Notification} (hm : Told m) : MayTell (some <$> m) := hm

/-- What comes first does not matter here either. -/
theorem MayTell.bind {m : FopM W α} {k : α → FopM W (Option Notification)}
    (hk : ∀ a, MayTell (k a)) : MayTell (m >>= k) :=
  Hoare.bind (R := fun _ _ => True) (fun _ _ => trivial) hk

/-- Either branch stores what it returns. -/
theorem MayTell.ite {c : Prop} [Decidable c] {m n : FopM W (Option Notification)} (hm : MayTell m)
    (hn : MayTell n) : MayTell (if c then m else n) :=
  Hoare.ite (fun _ => hm) (fun _ => hn)

/-- A search that is given up returns nothing. -/
theorem exhausted_mayTell : MayTell (pure none : FopM W (Option Notification)) := by
  intro s _ notif heq
  cases heq

/-- The search for a directive, and the report. -/
theorem reported_mayTell (look : FopM W (Option Notification)) :
    MayTell (do
      let result ← look
      match result with
      | none => return none
      | some notif => some <$> report notif) := by
  apply MayTell.bind
  intro result
  cases result with
  | none => exact exhausted_mayTell
  | some notif => exact (report_told notif).map

/-- A command goes out again, and the search tells what came of it. -/
theorem bcRetransmission_mayTell (depth : ℕ) : MayTell (bcRetransmission h depth) := by
  apply MayTell.bind
  intro ret
  exact MayTell.ite (answer_told _).map (reported_mayTell _)

/-- Where the limit is not reached.
SOURCE: osdlp_cop.c:1581-1646 -/
theorem fopE16_mayTell (depth : ℕ) : MayTell (fopE16 h depth) := by
  apply MayTell.bind
  intro fop
  cases fop.state with
  | active | rtNoWait => exact (adRetransmissionThen_told (lookThenReport_told none)).map
  | rtWait => exact ignore_told.map
  | initNoBc => exact (alertTo_told _).map
  | initBc => exact bcRetransmission_mayTell depth
  | init => exact na_told.map

/-- SOURCE: osdlp_cop.c:1648-1708 -/
theorem fopE104_mayTell (depth : ℕ) :
    Hoare (fun s : FopSt W => s.tf.copCfg.state ≠ .initNoBc) (fopE104 h depth) Tells := by
  apply Hoare.getFop
  intro fop
  cases hst : fop.state with
  | active | rtNoWait => exact Told.guarded (adRetransmissionThen_told (lookThenReport_told none))
  | rtWait => exact Told.guarded ignore_told
  | initNoBc =>
    rintro s ⟨hne, rfl⟩
    exact absurd hst hne
  | initBc => exact fun s _ => bcRetransmission_mayTell depth s trivial
  | init => exact Told.guarded na_told

/-- SOURCE: osdlp_cop.c:1710-1772 -/
theorem fopE17_told : Told (fopE17 h) := by
  apply Told.bind
  intro fop
  cases fop.state with
  | active | rtNoWait | rtWait | initNoBc | initBc => exact alertTo_told _
  | init => exact na_told

/-- SOURCE: osdlp_cop.c:1774-1816 -/
theorem fopE18_told :
    Hoare (fun s : FopSt W => s.tf.copCfg.state = .initBc ∨ s.tf.copCfg.state = .init) (fopE18 h)
      fun notif s => Tells (some notif) s := by
  apply Hoare.getFop
  intro fop
  cases hst : fop.state with
  | active | rtNoWait | rtWait | initNoBc =>
    rintro s ⟨hcases, rfl⟩
    rw [hst] at hcases
    simp at hcases
  | initBc => exact Told.guarded (alertTo_told _)
  | init => exact Told.guarded na_told

/-- SOURCE: osdlp_cop.c:2094-2125 -/
theorem osdlpHandleTimerExpired_mayTell (depth : ℕ) :
    Hoare (fun s : FopSt W => suspends s.tf.copCfg = false) (osdlpHandleTimerExpired h depth)
      Tells := by
  intro s hs
  unfold osdlpHandleTimerExpired
  simp only [getFop_bind, suspends] at hs ⊢
  by_cases hlim : s.tf.copCfg.txCnt < s.tf.copCfg.txLim
  · rw [if_pos hlim]
    by_cases htt : s.tf.copCfg.tt = 1
    · rw [if_neg (by simp [htt]), if_pos htt]
      apply fopE104_mayTell
      intro hst
      simp [htt, hst] at hs
    · rw [if_neg htt]
      exact MayTell.ite (fopE16_mayTell depth) (answer_told _).map s trivial
  · rw [if_neg hlim]
    by_cases htt : s.tf.copCfg.tt = 1
    · rw [if_neg (by simp [htt]), if_pos htt]
      apply fopE18_told
      cases hst : s.tf.copCfg.state <;> simp [htt, hst, hlim] at hs ⊢
    · rw [if_neg htt]
      exact MayTell.ite fopE17_told.map (answer_told _).map s trivial

/-! ## Requests and directives -/

/-- SOURCE: osdlp_cop.c:1818-1874 -/
theorem fopE19_told : Told (fopE19 h) := by
  apply Told.bind
  intro fop
  cases fop.state with
  | active | rtNoWait =>
    exact Told.bind fun _ => Told.ite (answer_told _) (lookThenReport_told none)
  | rtWait => exact Told.bind fun _ => Told.ite (answer_told _) (answer_told _)
  | initNoBc | initBc | init => exact answer_told _

/-- SOURCE: osdlp_cop.c:2127-2150 -/
theorem osdlpReqTransferFdu_told : Told (osdlpReqTransferFdu h) := by
  apply Told.bind
  intro s
  cases s.tf.primaryHdr.bypass with
  | typeA => exact Told.bind fun _ => Told.ite fopE19_told (answer_told _)
  | typeB =>
    cases s.tf.primaryHdr.ctrlCmd with
    | data => exact Told.bind fun _ => Told.ite (answer_told _) (answer_told _)
    | command => exact answer_told _

/-- Outside INIT a directive of this kind is rejected with a signal. -/
theorem initiate_told {inInit : FopM W Notification} (hinit : Told inInit) :
    Told (initiate inInit) := by
  apply Told.bind
  intro fop
  cases fop.state with
  | active | rtNoWait | rtWait | initNoBc | initBc => exact answer_told _
  | init => exact hinit

/-- In INIT a directive of this kind is not rejected. -/
theorem initiateSilently_inInit (inInit : FopM W Notification) {s : FopSt W}
    (hst : s.tf.copCfg.state = .init) : initiateSilently inInit s = inInit s := by
  unfold initiateSilently
  rw [getFop_bind]
  simp only [hst]

/-- Elsewhere it is, and nothing is stored. -/
theorem initiateSilently_elsewhere (inInit : FopM W Notification) {s : FopSt W}
    (hst : s.tf.copCfg.state ≠ .init) : initiateSilently inInit s = (.rejectDir, s) := by
  unfold initiateSilently
  rw [getFop_bind]
  cases hcases : s.tf.copCfg.state with
  | active | rtNoWait | rtWait | initNoBc | initBc => rfl
  | init => exact absurd hcases hst

/-- A command that cannot be sent stores an error. -/
theorem startCommand_told : Told (startCommand h) :=
  Told.bind fun _ => Told.ite (answer_told _) (Told.bind fun _ => answer_told _)

/-- A FOP that is not in INIT answers NA. -/
theorem resumeTo_told (state : FopState) : Told (resumeTo h state) := by
  apply Told.bind
  intro fop
  cases fop.state with
  | active | rtNoWait | rtWait | initNoBc | initBc => exact na_told
  | init => exact Told.bind fun _ => Told.ite (answer_told _) (Told.bind fun _ => answer_told _)

/-- SOURCE: osdlp_cop.c:2395-2555 -/
theorem osdlpResumeAd_told :
    Hoare (fun s : FopSt W => s.tf.copCfg.ss ≠ 0) (osdlpResumeAd h)
      fun notif s => Tells (some notif) s := by
  intro s hss
  unfold osdlpResumeAd
  rw [getFop_bind, if_neg hss]
  have hresume := @resumeTo_told W h
  exact Told.ite (hresume _) (Told.ite (hresume _) (Told.ite (hresume _) (Told.ite (hresume _)
    (answer_told _)))) s trivial

/-- SOURCE: osdlp_cop.c:2324-2393 -/
theorem osdlpTerminateAd_told : Told (osdlpTerminateAd h) := by
  apply Told.bind
  intro fop
  cases fop.state with
  | active | rtNoWait | rtWait | initNoBc | initBc => exact alertTo_told _
  | init => exact answer_told _

/-- A directive that sets a parameter is always accepted. -/
theorem setParameter_told (f : FopConfig → FopConfig) :
    Told (setParameter f : FopM W Notification) :=
  Told.bind fun _ => answer_told _

/-! ## Responses of the lower layer -/

/-- SOURCE: osdlp_cop.c:2759-2793 -/
theorem osdlpAdAccept_told : Told (osdlpAdAccept h) := by
  apply Told.bind
  intro fop
  cases fop.state with
  | active | rtNoWait => exact lookThenReport_told none
  | rtWait | initNoBc | initBc | init => exact ignore_told

/-- SOURCE: osdlp_cop.c:2866-2894 -/
theorem osdlpBcAccept_mayTell (depth : ℕ) : MayTell (osdlpBcAccept h depth) := by
  apply MayTell.bind
  intro fop
  cases fop.state with
  | active | rtNoWait | rtWait | initNoBc | init => exact ignore_told.map
  | initBc => exact reported_mayTell _

/-! ## All calls -/

/-- Where nothing is listed in `untold`, the call stores what it returns. -/
theorem call_told (depth : ℕ) (entry : FopEntry) (s : FopSt W)
    (htold : untold s.tf.copCfg entry = none) :
    Tells (entry.call h depth s).1 (entry.call h depth s).2 := by
  -- outside the initial state these directives answer without storing anything
  have hinitiated : ∀ {inInit : FopM W Notification}, Told inInit →
      (if s.tf.copCfg.state = .init then none else some Notification.rejectDir) = none →
      Tells (some (initiateSilently inInit s).1) (initiateSilently inInit s).2 := by
    intro inInit hinit hcond
    have hst : s.tf.copCfg.state = .init := by
      by_contra hne
      simp [hne] at hcond
    rw [initiateSilently_inInit inInit hst]
    exact hinit s trivial
  cases entry with
  | setSlidingWindow newWnd =>
    exact setParameter_told (fun fop => { fop with slideWnd := newWnd }) s trivial
  | op op =>
    cases op with
    | request hdr frameData => exact osdlpReqTransferFdu_told _ trivial
    | clcw ocf =>
      apply clcwEvent_told
      intro hcond
      have huntold : untold s.tf.copCfg (.op (.clcw ocf)) = some .acceptDir := if_pos hcond
      rw [huntold] at htold
      cases htold
    | timerExpired =>
      apply osdlpHandleTimerExpired_mayTell
      simpa [untold] using htold
    | adAccept => exact osdlpAdAccept_told s trivial
    | adReject | bcReject | bdReject => exact rejectAlert_told s trivial
    | bcAccept => exact osdlpBcAccept_mayTell depth s trivial
    | bdAccept => exact answer_told _ s trivial
    | initiateNoClcw =>
      exact initiate_told (Told.bind fun _ => Told.ite (answer_told _)
        (Told.bind fun _ => answer_told _)) s trivial
    | initiateWithClcw =>
      exact initiate_told (Told.bind fun _ => Told.ite (answer_told _)
        (Told.bind fun _ => Told.bind fun _ => answer_told _)) s trivial
    | initiateWithUnlock =>
      exact hinitiated (Told.bind fun _ => Told.ite (answer_told _)
        (Told.bind fun _ => startCommand_told)) htold
    | initiateWithSetvr newVr =>
      exact hinitiated (Told.bind fun _ => Told.ite (answer_told _)
        (Told.bind fun _ => Told.bind fun _ => startCommand_told)) htold
    | terminateAd => exact osdlpTerminateAd_told s trivial
    | resumeAd =>
      apply osdlpResumeAd_told
      intro hss
      simp [untold, hss] at htold
    | setNewVs newVs =>
      obtain ⟨hst, hss⟩ : s.tf.copCfg.state = .init ∧ s.tf.copCfg.ss = 0 := by
        by_contra hne
        simp [untold, hne] at htold
      show Tells (some (osdlpSetNewVs newVs s).1) (osdlpSetNewVs newVs s).2
      unfold osdlpSetNewVs
      rw [initiateSilently_inInit _ hst, getFop_bind, if_pos hss]
      exact Told.bind (fun _ => answer_told _) s trivial
    | setTimer newT1 => exact setParameter_told (fun fop => { fop with t1Init := newT1 }) s trivial
    | setTxLimit newLim =>
      exact setParameter_told (fun fop => { fop with txLim := newLim }) s trivial
    | setTt newTt => exact setParameter_told (fun fop => { fop with tt := newTt }) s trivial

/-- SOURCE: osdlp_cop.c:1648-1708, 1774-1816, 2094-2125 -/
theorem timerExpired_untold (depth : ℕ) {s : FopSt W} (hs : suspends s.tf.copCfg = true) :
    (osdlpHandleTimerExpired h depth s).1 = some .suspend ∧
      (osdlpHandleTimerExpired h depth s).2.tf.copCfg.signal = s.tf.copCfg.signal := by
  simp only [suspends, Bool.and_eq_true, decide_eq_true_eq] at hs
  obtain ⟨htt, hstate⟩ := hs
  have htt0 : s.tf.copCfg.tt ≠ 0 := by simp [htt]
  unfold osdlpHandleTimerExpired
  rw [getFop_bind, if_neg htt0, if_neg htt0, if_pos htt, if_pos htt]
  by_cases hlim : s.tf.copCfg.txCnt < s.tf.copCfg.txLim
  · have hst : s.tf.copCfg.state = .initNoBc := by
      cases hst : s.tf.copCfg.state <;> simp [hst, hlim] at hstate ⊢
    rw [if_pos hlim]
    unfold fopE104
    rw [getFop_bind, hst]
    exact ⟨rfl, rfl⟩
  · rw [if_neg hlim]
    unfold fopE18
    rw [map_apply, getFop_bind]
    cases hst : s.tf.copCfg.state with
    | active | rtNoWait | rtWait | initNoBc => exact ⟨rfl, rfl⟩
    | initBc | init => simp [hst] at hstate

/-- SOURCE: osdlp_cop.c:1067-1129 -/
theorem clcw_untold (ocf : List UInt8) {s : FopSt W}
    (hkind : clcwKind s.tf.copCfg (osdlpClcwUnpack ocf) = .e101)
    (hst : s.tf.copCfg.state = .initBc) :
    (osdlpHandleClcw h ocf s).1 = .acceptDir ∧
      (osdlpHandleClcw h ocf s).2.tf.copCfg.signal = s.tf.copCfg.signal := by
  have hhandler : clcwEvent h s.tf.copCfg (osdlpClcwUnpack ocf) =
      fopE101 h (osdlpClcwUnpack ocf) := by
    revert hkind
    apply clcwEvent_induct h s.tf.copCfg (osdlpClcwUnpack ocf) (P := fun kind m =>
      kind = .e101 → m = fopE101 h (osdlpClcwUnpack ocf)) <;> simp
  unfold osdlpHandleClcw
  rw [bind_apply, getFop_bind]
  show (clcwEvent h s.tf.copCfg (osdlpClcwUnpack ocf) _).1 = _ ∧
    (clcwEvent h s.tf.copCfg (osdlpClcwUnpack ocf) _).2.tf.copCfg.signal = _
  rw [hhandler]
  unfold fopE101
  rw [getFop_bind]
  have hkept : (storeClcw ocf s).2.tf.copCfg = s.tf.copCfg := rfl
  rw [hkept, hst]
  exact ⟨rfl, rfl⟩

/-- SOURCE: osdlp_cop.c:2395-2555 -/
theorem osdlpResumeAd_untold {s : FopSt W} (hss : s.tf.copCfg.ss = 0) :
    osdlpResumeAd h s = (.rejectDir, s) := by
  unfold osdlpResumeAd
  rw [getFop_bind, if_pos hss]
  rfl

/-- SOURCE: osdlp_cop.c:2557-2592 -/
theorem osdlpSetNewVs_untold (newVs : UInt8) {s : FopSt W}
    (hcond : ¬ (s.tf.copCfg.state = .init ∧ s.tf.copCfg.ss = 0)) :
    osdlpSetNewVs newVs s = (.rejectDir, s) := by
  unfold osdlpSetNewVs
  by_cases hst : s.tf.copCfg.state = .init
  · have hss : s.tf.copCfg.ss ≠ 0 := fun hss => hcond ⟨hst, hss⟩
    rw [initiateSilently_inInit _ hst, getFop_bind, if_neg hss]
    rfl
  · exact initiateSilently_elsewhere _ hst

/-- What is listed there is returned, and the signal stays as it was. -/
theorem call_untold (depth : ℕ) (entry : FopEntry) (s : FopSt W) {notif : Notification}
    (huntold : untold s.tf.copCfg entry = some notif) :
    (entry.call h depth s).1 = some notif ∧
      (entry.call h depth s).2.tf.copCfg.signal = s.tf.copCfg.signal := by
  have hsilent : ∀ {m : FopM W Notification}, some .rejectDir = some notif → m s = (.rejectDir, s) →
      ((some <$> m) s).1 = some notif ∧
        ((some <$> m) s).2.tf.copCfg.signal = s.tf.copCfg.signal := by
    intro m hnotif hm
    rw [map_apply, hm]
    exact ⟨hnotif, rfl⟩
  cases entry with
  | setSlidingWindow newWnd => cases huntold
  | op op =>
    cases op with
    | request hdr frameData => cases huntold
    | clcw ocf =>
      obtain ⟨⟨hkind, hst⟩, hnotif⟩ := Option.ite_none_right_eq_some.mp huntold
      obtain ⟨hresult, hsignal⟩ := clcw_untold (h := h) ocf hkind hst
      exact ⟨(congrArg some hresult).trans hnotif, hsignal⟩
    | timerExpired =>
      obtain ⟨hsuspends, hnotif⟩ := Option.ite_none_right_eq_some.mp huntold
      obtain ⟨hresult, hsignal⟩ := timerExpired_untold (h := h) depth hsuspends
      exact ⟨hresult.trans hnotif, hsignal⟩
    | adAccept | adReject | bcReject | bdReject | bcAccept | bdAccept => cases huntold
    | initiateNoClcw | initiateWithClcw | terminateAd => cases huntold
    | setTimer newT1 | setTxLimit newLim | setTt newTt => cases huntold
    | initiateWithUnlock =>
      obtain ⟨hst, hnotif⟩ := Option.ite_none_left_eq_some.mp huntold
      exact hsilent hnotif (initiateSilently_elsewhere _ hst)
    | initiateWithSetvr newVr =>
      obtain ⟨hst, hnotif⟩ := Option.ite_none_left_eq_some.mp huntold
      exact hsilent hnotif (initiateSilently_elsewhere _ hst)
    | resumeAd =>
      obtain ⟨hss, hnotif⟩ := Option.ite_none_right_eq_some.mp huntold
      exact hsilent hnotif (osdlpResumeAd_untold hss)
    | setNewVs newVs =>
      obtain ⟨hcond, hnotif⟩ := Option.ite_none_left_eq_some.mp huntold
      exact hsilent hnotif (osdlpSetNewVs_untold newVs hcond)

/-- No entry of the list is IGNORE or NA. -/
theorem untold_notif {fop : FopConfig} {entry : FopEntry} {notif : Notification}
    (huntold : untold fop entry = some notif) : notif ≠ .ignore ∧ notif ≠ .na := by
  unfold untold at huntold
  split at huntold <;> grind

/-- The signal tells what the call has returned if and only if nothing is listed in `untold`, or
what is listed happens to be stored already. -/
theorem signal_told_iff (h : CopHooks W) (depth : ℕ) (entry : FopEntry) (s : FopSt W) :
    Tells (entry.call h depth s).1 (entry.call h depth s).2 ↔
      ∀ notif, untold s.tf.copCfg entry = some notif → s.tf.copCfg.signal = notif := by
  cases huntold : untold s.tf.copCfg entry with
  | none =>
    have htold := call_told (h := h) depth entry s huntold
    simp [htold]
  | some notif =>
    obtain ⟨hresult, hsignal⟩ := call_untold (h := h) depth entry s huntold
    obtain ⟨hignore, hna⟩ := untold_notif huntold
    constructor
    · intro htells notif' heq
      obtain rfl := Option.some.inj heq
      rw [← hsignal]
      exact htells _ hresult hignore hna
    · intro hstored notif' heq _ _
      rw [hresult] at heq
      rw [hsignal]
      exact hstored notif' heq

/-- The timer expires with the transmission limit reached.  The service is suspended, and the signal
still says that the last frame has been accepted. -/
theorem not_told_suspension :
    let s : Fop :=
      { tf := { (default : FopFrame) with copCfg :=
          { osdlpPrepareFop default 10 .active 100 1 1 with txCnt := 1, signal := .acceptTx } }
        world :=
          { waitQueue := [], sentQueue := [], txQueue := [], timerRunning := true, accepted := [] } }
    let expired := (FopEntry.op .timerExpired).call (fifoHooks []) 2 s
    expired.1 = some .suspend ∧ expired.2.tf.copCfg.signal = .acceptTx ∧
      ¬ Tells expired.1 expired.2 := by
  intro s expired
  have hsuspend : expired.1 = some .suspend := by decide
  have hstale : expired.2.tf.copCfg.signal = .acceptTx := by decide
  refine ⟨hsuspend, hstale, ?_⟩
  intro htells
  have hstored := htells .suspend hsuspend (by decide) (by decide)
  rw [hstale] at hstored
  cases hstored

end Osdlp.Analysis
