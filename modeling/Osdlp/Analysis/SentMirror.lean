import Osdlp.Interface.FopEffects

/-!
# The sent queue mirrors the counters

While the AD service runs, the sent queue is meant to hold exactly the frames numbered
NN(R), …, V(S) − 1 (`InStep`).  `Parked` is what has to be known of the other states for
that to be an invariant.

Every handler of a control word, of the timer and of a request keeps it (`inStep_move`).
Two operations do not, because an alert empties the queue and leaves V(S) and NN(R) apart:
`osdlp_initiate_no_clcw` starts the service again without setting them equal, and
`osdlp_resume_ad` resumes a service whose queue was emptied by a lower-layer rejection
while it was suspended.  `inStep_run_iff` is the exact condition on a run.
-/

set_option autoImplicit false

namespace Osdlp.Analysis

open Osdlp.Model Osdlp.Interface Osdlp.Library

/-- While the AD service runs, the sent queue holds the type-A items numbered NN(R), …,
V(S) − 1, and is empty exactly when the two are equal. -/
def InStep (s : Fop) : Prop :=
  isAd s.tf.copCfg.state →
    Mirrors s ∧ (s.world.sentQueue = [] ↔ s.tf.copCfg.nnr = s.tf.copCfg.vs)

theorem inStep_iff (s : Fop) : InStep s ↔ (isAd s.tf.copCfg.state → Mirrors s) :=
  ⟨fun h hs => (h hs).1, fun h hs => ⟨h hs, (h hs).nil_iff⟩⟩

/-- What holds of the queue outside the running service, and of its length. -/
structure Parked (s : Fop) : Prop where
  init : s.tf.copCfg.state = .init →
    s.world.sentQueue = [] ∨ (Mirrors s ∧ SuspendedAd s)
  noBc : s.tf.copCfg.state = .initNoBc → s.world.sentQueue = []
  bc : s.tf.copCfg.state = .initBc → ∃ item, s.world.sentQueue = [item] ∧ item.type = .typeB
  window : isAd s.tf.copCfg.state ∨ s.tf.copCfg.state = .init →
    s.world.sentQueue.length ≤ s.tf.copCfg.slideWnd.toNat

/-- The invariant of the sender. -/
structure SenderInv (s : Fop) : Prop where
  inStep : isAd s.tf.copCfg.state → Mirrors s
  parked : Parked s

/-- The invariant only looks at some of the FOP variables and at the keys of the queue. -/
theorem SenderInv.congr {s s' : Fop} (h : SenderInv s)
    (hfop : SameCounters s.tf.copCfg s'.tf.copCfg)
    (hq : s'.world.sentQueue.map itemKey = s.world.sentQueue.map itemKey) : SenderInv s' := by
  have hm : Mirrors s' ↔ Mirrors s := mirrors_congr hfop.vs hfop.nnr hq
  have hlen : s'.world.sentQueue.length = s.world.sentQueue.length := by
    simpa using congrArg List.length hq
  have hnil : s.world.sentQueue = [] → s'.world.sentQueue = [] := by
    intro h0
    rw [← List.length_eq_zero_iff, hlen, h0, List.length_nil]
  refine ⟨?_, ?_, ?_, ?_, ?_⟩
  · rw [hfop.state, hm]
    exact h.inStep
  · intro hinit
    rw [hfop.state] at hinit
    rcases h.parked.init hinit with h0 | ⟨hmir, hsus⟩
    · exact .inl (hnil h0)
    · refine .inr ⟨hm.mpr hmir, ?_⟩
      unfold SuspendedAd
      rw [hfop.ss]
      exact hsus
  · intro hno
    rw [hfop.state] at hno
    exact hnil (h.parked.noBc hno)
  · intro hbc
    rw [hfop.state] at hbc
    obtain ⟨item, hitem, htype⟩ := h.parked.bc hbc
    rw [hitem] at hq hlen
    obtain ⟨item', hitem'⟩ := List.length_eq_one_iff.mp hlen
    rw [hitem'] at hq
    have hkey : itemKey item' = itemKey item := by simpa using hq
    have htype' : item'.type = item.type := congrArg Prod.snd hkey
    exact ⟨item', hitem', htype'.trans htype⟩
  · rw [hfop.state, hlen, hfop.slideWnd]
    exact h.parked.window

/-- A state with an empty sent queue, in a state that asks for no more. -/
theorem senderInv_of_nil {s : Fop} (hq : s.world.sentQueue = [])
    (hvs : isAd s.tf.copCfg.state → s.tf.copCfg.nnr = s.tf.copCfg.vs)
    (hbc : s.tf.copCfg.state ≠ .initBc) : SenderInv s where
  inStep := fun hs => mirrors_nil hq (hvs hs)
  parked :=
    { init := fun _ => .inl hq
      noBc := fun _ => hq
      bc := fun h => absurd h hbc
      window := fun _ => by rw [hq]; exact Nat.zero_le _ }

theorem senderInv_alerted (notif : Notification) (s : Fop) : SenderInv (alerted notif s) :=
  senderInv_of_nil rfl (fun h => absurd h (by simp [alerted, isAd])) (by simp [alerted])

/-- A state with the service running is described by its queue alone. -/
theorem senderInv_of_ad {s : Fop} (hs : isAd s.tf.copCfg.state) (hm : Mirrors s)
    (hlen : s.world.sentQueue.length ≤ s.tf.copCfg.slideWnd.toNat) : SenderInv s where
  inStep := fun _ => hm
  parked :=
    { init := fun h => absurd h (not_isAd_init hs)
      noBc := fun h => by rw [h] at hs; exact absurd hs (by decide)
      bc := fun h => by rw [h] at hs; exact absurd hs (by decide)
      window := fun _ => hlen }

/-- Every move of the sender keeps the invariant. -/
theorem SenderInv.move {keep : List Bool} {nr : Option UInt8} {req : Bool} {s s' : Fop}
    (h : SenderInv s)
    (hmove : FopMove keep nr req s s') : SenderInv s' := by
  cases hmove with
  | fop fop' hsame => exact h.congr hsame rfl
  | timer running => exact h.congr ⟨rfl, rfl, rfl, rfl, rfl⟩ rfl
  | clcw clcw => exact h.congr ⟨rfl, rfl, rfl, rfl, rfl⟩ rfl
  | adState state hs hstate =>
    exact senderInv_of_ad hstate (h.inStep hs) (h.parked.window (.inl hs))
  | ack n hs hn hrange =>
    have hwnd := h.parked.window (.inl hs)
    obtain ⟨hq, -, hm⟩ := (h.inStep hs).acked hrange hwnd
    refine senderInv_of_ad ((acked_state n _ s).symm ▸ hs) hm ?_
    rw [hq, acked_slideWnd, List.length_drop]
    exact Nat.le_trans (Nat.sub_le _ _) hwnd
  | retransmit hs =>
    exact h.congr ⟨rfl, rfl, rfl, rfl, rfl⟩ (map_itemKey_of_itemCopy (map_itemCopy_markRt _ _))
  | resend hs =>
    unfold resent
    split
    · exact h
    · exact h.congr ⟨rfl, rfl, rfl, rfl, rfl⟩ (map_itemKey_of_itemCopy (map_itemCopy_resetRt _ _))
  | send hs hwait hroom =>
    have hm := h.inStep hs
    have hwnd := h.parked.window (.inl hs)
    rw [hm.length] at hwnd
    have hlt := (fopRoom_iff hwnd).mp hroom
    have hw := s.tf.copCfg.slideWnd.toNat_lt
    refine senderInv_of_ad hs (hm.transmitted (by omega)) ?_
    show (s.world.sentQueue ++ [_]).length ≤ s.tf.copCfg.slideWnd.toNat
    rw [List.length_append, hm.length]
    exact hlt
  | enqueue hreq hs hwait => exact h.congr ⟨rfl, rfl, rfl, rfl, rfl⟩ rfl
  | alert notif hs => exact senderInv_alerted notif s
  | suspend ss hs =>
    by_cases had : isAd s.tf.copCfg.state
    · have hm := h.inStep had
      refine ⟨fun habs => absurd habs (by simp [isAd]), ?_, ?_, ?_, ?_⟩
      · exact fun _ => .inr ⟨hm, s.tf.copCfg.state, hs, had⟩
      · exact fun habs => absurd habs (by simp)
      · exact fun habs => absurd habs (by simp)
      · exact fun _ => h.parked.window (.inl had)
    · have hno : s.tf.copCfg.state = .initNoBc := (suspendedState_cases hs).resolve_left had
      exact senderInv_of_nil (h.parked.noBc hno) (fun habs => absurd habs (by simp [isAd]))
        (by simp)
  | initiated hs hvs => exact senderInv_of_nil (h.parked.noBc hs) (fun _ => hvs) (by simp)
  | released hs hvs =>
    obtain ⟨item, hitem, htype⟩ := h.parked.bc hs
    exact senderInv_of_nil (withoutCommand_singleton hitem htype) (fun _ => hvs) (by simp)
  | command hs items tx hq => exact h.congr ⟨rfl, rfl, rfl, rfl, rfl⟩ (map_itemKey_of_itemCopy hq)

/-- A run of moves keeps the invariant. -/
theorem SenderInv.reaches {keep : List Bool} {nr : Option UInt8} {req : Bool} {s s' : Fop}
    (h : SenderInv s)
    (hmoves : Reaches keep nr req s s') : SenderInv s' := by
  induction hmoves with
  | refl => exact h
  | tail _ hmove ih => exact ih.move hmove

/-! ## The operations that are not made of moves -/

/-- A request of any type keeps the invariant. -/
theorem SenderInv.request {s : Fop} (h : SenderInv s) (keep : List Bool) (hdr : TcPrimaryHdr)
    (frameData : TcFdf) : SenderInv (fopStep s (keep, .request hdr frameData)) := by
  have hprep : SenderInv (prepared hdr frameData s) := h.congr ⟨rfl, rfl, rfl, rfl, rfl⟩ rfl
  show SenderInv (osdlpReqTransferFdu (fifoHooks keep) (prepared hdr frameData s)).2
  generalize prepared hdr frameData s = s' at hprep ⊢
  cases htype : s'.tf.primaryHdr.bypass with
  | typeA => exact hprep.reaches (osdlpReqTransferFdu_reaches htype : Reaches keep none true _ _)
  | typeB =>
    unfold osdlpReqTransferFdu
    rw [bind_apply, get_apply]
    simp only [htype]
    cases s'.tf.primaryHdr.ctrlCmd with
    | data =>
      obtain ⟨tf, fdu, hcop, -, hbd⟩ := osdlpTransmitTypeBd_apply keep s'
      show SenderInv (fopE21 (fifoHooks keep) s').2
      unfold fopE21
      rw [bind_apply, hbd]
      have hbd' : SenderInv
          { tf := tf, world := { s'.world with txQueue := s'.world.txQueue ++ [fdu] } } := by
        refine hprep.congr ?_ rfl
        rw [hcop]
        exact ⟨rfl, rfl, rfl, rfl, rfl⟩
      exact hbd'.congr ⟨rfl, rfl, rfl, rfl, rfl⟩ rfl
    | command => exact hprep.congr ⟨rfl, rfl, rfl, rfl, rfl⟩ rfl

/-- A rejection by the lower layer ends in an alert. -/
theorem senderInv_rejectAlert (keep : List Bool) (s : Fop) :
    SenderInv (rejectAlert (fifoHooks keep) s).2 := by
  rw [rejectAlert_alerts]
  exact senderInv_alerted _ _

/-- The end of the service is an alert, outside INIT. -/
theorem SenderInv.terminateAd {s : Fop} (h : SenderInv s) (keep : List Bool) :
    SenderInv (osdlpTerminateAd (fifoHooks keep) s).2 := by
  unfold osdlpTerminateAd
  rw [bind_apply, getFop_apply]
  cases hs : s.tf.copCfg.state with
  | active | rtNoWait | rtWait | initNoBc | initBc => exact senderInv_alerted _ _
  | init => exact h.congr ⟨rfl, rfl, rfl, rfl, rfl⟩ rfl

/-- A directive that is rejected outside INIT changes at most the signal there. -/
theorem SenderInv.initiate {s : Fop} (h : SenderInv s) {inInit : FopM FifoWorld Notification}
    (hinit : s.tf.copCfg.state = .init → SenderInv (inInit s).2) :
    SenderInv (Model.initiate inInit s).2 := by
  unfold Model.initiate
  rw [bind_apply, getFop_apply]
  cases hs : s.tf.copCfg.state with
  | active | rtNoWait | rtWait | initNoBc | initBc => exact h.congr ⟨rfl, rfl, rfl, rfl, rfl⟩ rfl
  | init => exact hinit hs

/-- Outside INIT the directive changes nothing. -/
theorem SenderInv.initiateSilently {s : Fop} (h : SenderInv s)
    {inInit : FopM FifoWorld Notification}
    (hinit : s.tf.copCfg.state = .init → SenderInv (inInit s).2) :
    SenderInv (Model.initiateSilently inInit s).2 := by
  unfold Model.initiateSilently
  rw [bind_apply, getFop_apply]
  cases hs : s.tf.copCfg.state with
  | active | rtNoWait | rtWait | initNoBc | initBc => exact h
  | init => exact hinit hs

/-- A command goes out on an empty sent queue. -/
theorem senderInv_startCommand (keep : List Bool) {s : Fop} (hq : s.world.sentQueue = []) :
    SenderInv (startCommand (fifoHooks keep) s).2 := by
  obtain ⟨tf, item, hcop, -, htype, hbc⟩ := osdlpTransmitTypeBc_apply keep s
  have hstate : (startCommand (fifoHooks keep) s).2.tf.copCfg.state = .initBc := by
    unfold startCommand
    rw [bind_apply, hbc]
    rfl
  have hsent : (startCommand (fifoHooks keep) s).2.world.sentQueue = [item] := by
    unfold startCommand
    rw [bind_apply, hbc, hq]
    rfl
  refine ⟨?_, ?_, ?_, ?_, ?_⟩ <;> rw [hstate]
  · exact fun habs => absurd habs (by decide)
  · exact fun habs => absurd habs (by decide)
  · exact fun habs => absurd habs (by decide)
  · exact fun _ => ⟨item, hsent, htype⟩
  · exact fun habs => absurd habs (by decide)

/-- The queue is emptied, whatever was in it, before a service is initiated. -/
theorem SenderInv.initiateWithUnlock {s : Fop} (h : SenderInv s) (keep : List Bool) :
    SenderInv (osdlpInitiateWithUnlock (fifoHooks keep) s).2 := by
  refine h.initiateSilently fun _ => ?_
  rw [bind_apply, osdlpInitializeCop_apply]
  exact senderInv_startCommand keep rfl

/-- The counters are set, and the command is the only item. -/
theorem SenderInv.initiateWithSetvr {s : Fop} (h : SenderInv s) (keep : List Bool)
    (newVr : UInt8) : SenderInv (osdlpInitiateWithSetvr (fifoHooks keep) newVr s).2 := by
  refine h.initiateSilently fun _ => ?_
  rw [bind_apply, osdlpInitializeCop_apply]
  exact senderInv_startCommand keep rfl

/-- The queues are empty, and a control word is awaited. -/
theorem SenderInv.initiateWithClcw {s : Fop} (h : SenderInv s) (keep : List Bool) :
    SenderInv (osdlpInitiateWithClcw (fifoHooks keep) s).2 := by
  refine h.initiate fun _ => ?_
  rw [bind_apply, osdlpInitializeCop_apply]
  refine senderInv_of_nil rfl (fun habs => Bool.false_ne_true habs |>.elim) ?_
  show FopState.initNoBc ≠ .initBc
  decide

/-- New counters are only accepted when nothing is outstanding. -/
theorem SenderInv.setNewVs {s : Fop} (h : SenderInv s) (newVs : UInt8) :
    SenderInv ((osdlpSetNewVs newVs : FopM FifoWorld Notification) s).2 := by
  refine h.initiateSilently fun hinit => ?_
  rw [bind_apply, getFop_apply]
  simp only [ite_apply_state]
  split_ifs with hss
  · have hq : s.world.sentQueue = [] := by
      rcases h.parked.init hinit with hq | ⟨-, state, hsus, -⟩
      · exact hq
      · rw [hss] at hsus
        simp [suspendedState] at hsus
    exact senderInv_of_nil hq (fun _ => rfl) (by
      show s.tf.copCfg.state ≠ .initBc
      rw [hinit]
      decide)
  · exact h

/-! ## The two operations that need a condition -/

/-- Starting the service without a control word presumes that the counters agree, and a
suspended service may be resumed if its queue, should it have been emptied, had nothing to
hold. -/
def resynchronised (s : Fop) : List Bool × FopOp → Prop
  | (_, .initiateNoClcw) => s.tf.copCfg.state = .init → s.tf.copCfg.nnr = s.tf.copCfg.vs
  | (_, .resumeAd) =>
    s.tf.copCfg.state = .init → SuspendedAd s → s.world.sentQueue = [] →
      s.tf.copCfg.nnr = s.tf.copCfg.vs
  | _ => True

/-- What `osdlp_initiate_no_clcw` keeps, and when it keeps the rest. -/
theorem initiateNoClcw_inv {s : Fop} (h : SenderInv s) (keep : List Bool) :
    Parked (osdlpInitiateNoClcw (fifoHooks keep) s).2 ∧
      (InStep (osdlpInitiateNoClcw (fifoHooks keep) s).2 ↔
        (s.tf.copCfg.state = .init → s.tf.copCfg.nnr = s.tf.copCfg.vs)) := by
  by_cases hinit : s.tf.copCfg.state = .init
  · have hstate : (osdlpInitiateNoClcw (fifoHooks keep) s).2.tf.copCfg.state = .active ∧
        (osdlpInitiateNoClcw (fifoHooks keep) s).2.world.sentQueue = [] ∧
        (osdlpInitiateNoClcw (fifoHooks keep) s).2.tf.copCfg.nnr = s.tf.copCfg.nnr ∧
        (osdlpInitiateNoClcw (fifoHooks keep) s).2.tf.copCfg.vs = s.tf.copCfg.vs := by
      unfold osdlpInitiateNoClcw initiate
      rw [bind_apply, getFop_apply]
      simp only [hinit]
      rw [bind_apply, osdlpInitializeCop_apply]
      exact ⟨rfl, rfl, rfl, rfl⟩
    obtain ⟨hact, hq, hnnr, hvs⟩ := hstate
    refine ⟨⟨?_, fun _ => hq, ?_, fun _ => by rw [hq]; exact Nat.zero_le _⟩, ?_⟩
    · exact fun _ => .inl hq
    · rw [hact]
      exact fun habs => absurd habs (by decide)
    · rw [inStep_iff, hact, mirrors_of_nil_iff hq, hnnr, hvs]
      simp [isAd, hinit]
  · have hsame : SenderInv (osdlpInitiateNoClcw (fifoHooks keep) s).2 :=
      h.initiate fun habs => absurd habs hinit
    refine ⟨hsame.parked, ?_⟩
    rw [inStep_iff]
    exact ⟨fun _ habs => absurd habs hinit, fun _ => hsame.inStep⟩

/-- What `osdlp_resume_ad` keeps, and when it keeps the rest. -/
theorem resumeAd_inv {s : Fop} (h : SenderInv s) (keep : List Bool) :
    Parked (osdlpResumeAd (fifoHooks keep) s).2 ∧
      (InStep (osdlpResumeAd (fifoHooks keep) s).2 ↔
        (s.tf.copCfg.state = .init → SuspendedAd s → s.world.sentQueue = [] →
          s.tf.copCfg.nnr = s.tf.copCfg.vs)) := by
  rcases @osdlpResumeAd_cases keep s with ⟨state, hinit, hss, hres⟩ | ⟨hno, hres⟩
  · rw [hres]
    have hm : Mirrors (resumed state s) ↔ Mirrors s := mirrors_congr rfl rfl rfl
    by_cases had : isAd state
    · refine ⟨⟨?_, ?_, ?_, fun _ => h.parked.window (.inr hinit)⟩, ?_⟩
      · exact fun habs => absurd habs (not_isAd_init (s := resumed state s) had)
      · intro habs
        exact absurd (habs ▸ had : isAd .initNoBc) (by decide)
      · intro habs
        exact absurd (habs ▸ had : isAd .initBc) (by decide)
      · rw [inStep_iff, hm]
        constructor
        · intro hmir _ _ hq
          exact (hmir had).nil_iff.mp hq
        · intro hguard _
          rcases h.parked.init hinit with hq | ⟨hmir, -⟩
          · exact mirrors_nil hq (hguard hinit ⟨state, hss, had⟩ hq)
          · exact hmir
    · have hstate : state = .initNoBc := (suspendedState_cases hss).resolve_left had
      have hq : s.world.sentQueue = [] := by
        rcases h.parked.init hinit with hq | ⟨-, state', hss', had'⟩
        · exact hq
        · rw [hss] at hss'
          exact absurd (Option.some.inj hss' ▸ had') had
      have hinv : SenderInv (resumed state s) :=
        senderInv_of_nil hq (fun habs => absurd habs had) (by
          rw [hstate]
          show FopState.initNoBc ≠ .initBc
          decide)
      refine ⟨hinv.parked, (inStep_iff _).trans ⟨?_, fun _ => hinv.inStep⟩⟩
      rintro - - ⟨state', hss', had'⟩
      rw [hss] at hss'
      exact absurd (Option.some.inj hss' ▸ had') had
  · have hinv : SenderInv (osdlpResumeAd (fifoHooks keep) s).2 := by
      rcases hres with hres | hres
      · rw [hres]
        exact h
      · rw [hres]
        exact h.congr ⟨rfl, rfl, rfl, rfl, rfl⟩ rfl
    refine ⟨hinv.parked, (inStep_iff _).trans ⟨?_, fun _ => hinv.inStep⟩⟩
    rintro - hinit ⟨state', hss', -⟩
    rw [hno hinit] at hss'
    exact absurd hss' (by simp)

/-! ## Runs -/

/-- One operation on a control word in range keeps what is parked, and keeps the queue in
step exactly when it is resynchronised. -/
theorem senderInv_step {s : Fop} {op : List Bool × FopOp} (h : SenderInv s)
    (hrange : reportsInRange s op) :
    Parked (fopStep s op) ∧ (InStep (fopStep s op) ↔ resynchronised s op) := by
  have hkept : SenderInv (fopStep s op) → resynchronised s op →
      Parked (fopStep s op) ∧ (InStep (fopStep s op) ↔ resynchronised s op) :=
    fun hinv hre => ⟨hinv.parked, ⟨fun _ => hre, fun _ => (inStep_iff _).mpr hinv.inStep⟩⟩
  obtain ⟨keep, op⟩ := op
  cases op with
  | request hdr frameData => exact hkept (h.request keep hdr frameData) trivial
  | clcw ocf => exact hkept (h.reaches (osdlpHandleClcw_reaches ocf (fun _ => hrange) :
      Reaches keep _ false _ _)) trivial
  | timerExpired =>
    exact hkept (h.reaches (osdlpHandleTimerExpired_reaches 2 : Reaches keep none false _ _)) trivial
  | adAccept => exact hkept (h.reaches (osdlpAdAccept_reaches : Reaches keep none false _ _)) trivial
  | bcAccept => exact hkept (h.reaches (osdlpBcAccept_reaches 2 : Reaches keep none false _ _)) trivial
  | bdAccept => exact hkept (h.congr ⟨rfl, rfl, rfl, rfl, rfl⟩ rfl) trivial
  | adReject | bcReject | bdReject =>
    exact hkept (senderInv_rejectAlert keep s) trivial
  | initiateNoClcw => exact initiateNoClcw_inv h keep
  | initiateWithClcw => exact hkept (h.initiateWithClcw keep) trivial
  | initiateWithUnlock => exact hkept (h.initiateWithUnlock keep) trivial
  | initiateWithSetvr newVr => exact hkept (h.initiateWithSetvr keep newVr) trivial
  | terminateAd => exact hkept (h.terminateAd keep) trivial
  | resumeAd => exact resumeAd_inv h keep
  | setNewVs newVs => exact hkept (h.setNewVs newVs) trivial
  | setTimer newT1 => exact hkept (h.congr ⟨rfl, rfl, rfl, rfl, rfl⟩ rfl) trivial
  | setTxLimit newLim => exact hkept (h.congr ⟨rfl, rfl, rfl, rfl, rfl⟩ rfl) trivial
  | setTt newTt => exact hkept (h.congr ⟨rfl, rfl, rfl, rfl, rfl⟩ rfl) trivial

/-- From `osdlp_prepare_fop` in INIT with empty queues, on control words in range, the sent
queue is in step with the counters in every state of a run exactly when every start
without a control word finds V(S) = NN(R), and so does every resumption of a service whose
queue has been emptied.
SOURCE: osdlp_cop.c:338-385, 482-514, 1975-2592 -/
theorem inStep_run_iff (s : Fop) (fop : FopConfig) (slideWnd t1Init : UInt16)
    (timeoutType txLim : UInt8)
    (hfop : s.tf.copCfg = osdlpPrepareFop fop slideWnd .init t1Init timeoutType txLim)
    (hsent : s.world.sentQueue = []) (_hwait : s.world.waitQueue = [])
    (ops : List (List Bool × FopOp)) (hrange : Guarded fopStep reportsInRange s ops) :
    (∀ n, InStep (run fopStep s (ops.take n))) ↔ Guarded fopStep resynchronised s ops := by
  have hstart : SenderInv s := by
    refine senderInv_of_nil hsent (fun habs => ?_) (fun habs => ?_)
    · simp [hfop, osdlpPrepareFop, isAd] at habs
    · simp [hfop, osdlpPrepareFop] at habs
  have hinv : ∀ s, InStep s → Parked s → SenderInv s :=
    fun s hs hp => ⟨(inStep_iff s).mp hs, hp⟩
  exact forall_take_iff_guarded (fun s op hs hp hop => (senderInv_step (hinv s hs hp) hop).1)
    (fun s op hs hp hop => (senderInv_step (hinv s hs hp) hop).2)
    ((inStep_iff s).mpr hstart.inStep) hstart.parked hrange

/-- A sender in INIT with empty queues, a window of 10 and a transmission limit of 3. -/
def freshFop : Fop :=
  { tf := { (default : FopFrame) with copCfg := osdlpPrepareFop default 10 .init 100 0 3 }
    world :=
      { waitQueue := [], sentQueue := [], txQueue := [], timerRunning := false, accepted := [] } }

/-- A request for one octet. -/
def octetRequest : List Bool × FopOp :=
  ([], .request default { (default : TcFdf) with data := [7], dataLen := 1 })

/-- A service started, used and ended. -/
theorem inStep_run_iff_once :
    let ops := [([], .initiateNoClcw), octetRequest, ([], .terminateAd)]
    (∀ n, InStep (run fopStep freshFop (ops.take n))) ↔
      Guarded fopStep resynchronised freshFop ops :=
  inStep_run_iff freshFop default 10 100 0 3 rfl rfl rfl _ (by trivial)

/-- A service ended with a frame outstanding and started again without a control word runs
with V(S) one ahead of NN(R) and nothing in the sent queue. -/
theorem not_inStep_restart :
    let ops := [([], .initiateNoClcw), octetRequest, ([], .terminateAd), ([], .initiateNoClcw)]
    let s := run fopStep freshFop ops
    Guarded fopStep reportsInRange freshFop ops ∧ s.tf.copCfg.state = .active ∧
      s.tf.copCfg.nnr = 0 ∧ s.tf.copCfg.vs = 1 ∧ s.world.sentQueue = [] ∧ ¬ InStep s := by
  intro ops s
  have hstate : s.tf.copCfg.state = .active := by rfl
  have hnnr : s.tf.copCfg.nnr = 0 := by rfl
  have hvs : s.tf.copCfg.vs = 1 := by rfl
  have hq : s.world.sentQueue = [] := by rfl
  refine ⟨by trivial, hstate, hnnr, hvs, hq, fun h => ?_⟩
  have heq := (h (by rw [hstate]; rfl)).2.mp hq
  rw [hnnr, hvs] at heq
  exact absurd heq (by decide)

end Osdlp.Analysis
