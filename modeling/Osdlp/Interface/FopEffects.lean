import Osdlp.Interface.FopRun

/-!
# What the operations do

A control word, an expiration of the timer, a type-A request and two of the acceptances make the
moves of `Osdlp.Interface.FopMoves`.  What the other operations do to the sender is listed in
`FopEffect`; together the two cover every operation (`fopStep_reaches`, `fopStep_effect`).
-/

set_option autoImplicit false

namespace Osdlp.Interface

open Osdlp.Model Osdlp.Library

/-- The operation is made of moves. -/
def FopOp.makesMoves : FopOp → Bool
  | .request hdr _ => hdr.bypass = .typeA
  | .clcw _ | .timerExpired | .adAccept | .bcAccept => true
  | _ => false

/-- The sender that the operation works on: a request sets its frame up first. -/
def workingOn (s : Fop) : FopOp → Fop
  | .request hdr frameData => prepared hdr frameData s
  | _ => s

theorem workingOn_copCfg (s : Fop) (op : FopOp) : (workingOn s op).tf.copCfg = s.tf.copCfg := by
  cases op <;> rfl

/-- The FOP variables agree on everything but the signal and the parameters that the directives
set. -/
structure SameService (fop fop' : FopConfig) : Prop extends SameCounters fop fop' where
  txCnt : fop'.txCnt = fop.txCnt

/-- The sender with its queues emptied and the count and the suspension reset. -/
def initialised (s : Fop) : Fop :=
  (onWorld s fun w => { w with waitQueue := [], sentQueue := [] }).setFop
    { s.tf.copCfg with txCnt := 1, ss := 0 }

/-- What an operation that is not made of moves does. -/
inductive FopEffect (s : Fop) : FopOp → Fop → Prop
  | none (op : FopOp) : FopEffect s op s
  | fop (op : FopOp) (fop' : FopConfig) (hsame : SameService s.tf.copCfg fop')
      (hlim : (∀ newLim, op ≠ .setTxLimit newLim) → fop'.txLim = s.tf.copCfg.txLim)
      (htt : (∀ newTt, op ≠ .setTt newTt) → fop'.tt = s.tf.copCfg.tt) : FopEffect s op (s.setFop fop')
  | alert (op : FopOp) (notif : Notification) : FopEffect s op (alerted notif s)
  | frame (hdr : TcPrimaryHdr) (frameData : TcFdf) (tf : FopFrame) (txQueue : List (List UInt8))
      (notif : Notification) (hcop : tf.copCfg = { s.tf.copCfg with signal := notif }) :
      FopEffect s (.request hdr frameData) { tf := tf, world := { s.world with txQueue := txQueue } }
  | initiated (hs : s.tf.copCfg.state = .init) :
      FopEffect s .initiateNoClcw ((initialised s).setFop
        { (initialised s).tf.copCfg with state := .active, signal := .positiveDir })
  | awaited (hs : s.tf.copCfg.state = .init) :
      FopEffect s .initiateWithClcw ((onWorld (initialised s) fun w =>
        { w with timerRunning := true }).setFop
          { (initialised s).tf.copCfg with state := .initNoBc, signal := .acceptDir })
  | command (op : FopOp) (hs : s.tf.copCfg.state = .init) (vs nnr : UInt8)
      (hvs : (vs = s.tf.copCfg.vs ∧ nnr = s.tf.copCfg.nnr) ∨ nnr = vs) (tf : FopFrame)
      (item : QueueItem) (txQueue : List (List UInt8)) (htype : item.type = .typeB)
      (hcop : tf.copCfg =
        { s.tf.copCfg with
          vs := vs, nnr := nnr, txCnt := 1, ss := 0, state := .initBc, signal := .acceptDir }) :
      FopEffect s op
        { tf := tf
          world :=
            { s.world with
              waitQueue := []
              sentQueue := [item]
              txQueue := txQueue
              timerRunning := true } }
  | resumed (state : FopState) (hs : s.tf.copCfg.state = .init)
      (hss : suspendedState s.tf.copCfg.ss = some state) : FopEffect s .resumeAd (resumed state s)
  | newVs (newVs : UInt8) (hs : s.tf.copCfg.state = .init) (hss : s.tf.copCfg.ss = 0) :
      FopEffect s (.setNewVs newVs) (s.setFop
        { s.tf.copCfg with vs := newVs, nnr := newVs, signal := .positiveDir })

variable {keep : List Bool} {s : Fop}

/-- A signal is the least effect. -/
theorem signalled_effect (op : FopOp) (notif : Notification) :
    FopEffect s op (signalled notif s) := by
  refine .fop op _ ⟨⟨rfl, rfl, rfl, rfl, rfl⟩, rfl⟩ ?_ ?_
  · exact fun _ => rfl
  · exact fun _ => rfl

/-- A rejection by the lower layer is an alert in every state. -/
theorem rejectAlert_alerts (keep : List Bool) (s : Fop) :
    (rejectAlert (fifoHooks keep) s).2 = alerted .alertLlif s := by
  unfold rejectAlert
  rw [bind_apply, getFop_apply]
  cases hs : s.tf.copCfg.state with
  | active | rtNoWait | rtWait | initNoBc | initBc => rfl
  | init => exact congrArg Prod.snd (alertInInit_apply keep .alertLlif s hs)

/-- A request of type B touches the frame structure and the transmission queue, and of the FOP
variables the signal. -/
theorem osdlpReqTransferFdu_typeB {hdr : TcPrimaryHdr} (frameData : TcFdf)
    (htype : hdr.bypass = .typeB) :
    ∃ (tf : FopFrame) (txQueue : List (List UInt8)) (notif : Notification),
      tf.copCfg = { s.tf.copCfg with signal := notif } ∧
      fopStep s (keep, .request hdr frameData) =
        { tf := tf, world := { s.world with txQueue := txQueue } } := by
  show ∃ tf txQueue notif, _ ∧
    (osdlpReqTransferFdu (fifoHooks keep) (prepared hdr frameData s)).2 = _
  unfold osdlpReqTransferFdu
  rw [bind_apply, get_apply]
  have htype' : (prepared hdr frameData s).tf.primaryHdr.bypass = .typeB := htype
  simp only [htype']
  cases (prepared hdr frameData s).tf.primaryHdr.ctrlCmd with
  | data =>
    obtain ⟨tf, fdu, hcop, -, hbd⟩ := osdlpTransmitTypeBd_apply keep (prepared hdr frameData s)
    unfold fopE21
    dsimp only
    rw [bind_apply, hbd]
    refine ⟨{ tf with copCfg := { tf.copCfg with signal := .acceptTx } }, _, .acceptTx, ?_, rfl⟩
    rw [hcop]
    rfl
  | command => exact ⟨_, s.world.txQueue, .undefError, rfl, rfl⟩

/-- A request of type B. -/
theorem osdlpReqTransferFdu_effect (hdr : TcPrimaryHdr) (frameData : TcFdf)
    (htype : hdr.bypass = .typeB) :
    FopEffect s (.request hdr frameData) (fopStep s (keep, .request hdr frameData)) := by
  obtain ⟨tf, txQueue, notif, hcop, hstep⟩ := osdlpReqTransferFdu_typeB frameData htype
  rw [hstep]
  exact .frame hdr frameData tf txQueue notif hcop

/-- A command goes out after the initialisation. -/
theorem startCommand_effect (op : FopOp) (hs : s.tf.copCfg.state = .init) {t : Fop} (vs nnr : UInt8)
    (hvs : (vs = s.tf.copCfg.vs ∧ nnr = s.tf.copCfg.nnr) ∨ nnr = vs)
    (hcop : t.tf.copCfg = { s.tf.copCfg with vs := vs, nnr := nnr, txCnt := 1, ss := 0 })
    (hworld : t.world = { s.world with waitQueue := [], sentQueue := [] }) :
    FopEffect s op (startCommand (fifoHooks keep) t).2 := by
  obtain ⟨tf, item, htf, -, htype, hbc⟩ := osdlpTransmitTypeBc_apply keep t
  unfold startCommand
  rw [bind_apply, hbc, hworld]
  refine .command op hs vs nnr hvs
    { tf with copCfg := { tf.copCfg with state := .initBc, signal := .acceptDir } } item _ htype ?_
  rw [htf, hcop]

/-- A directive that is only accepted in INIT. -/
theorem initiate_effect {op : FopOp} {inInit : FopM FifoWorld Notification}
    (h : s.tf.copCfg.state = .init → FopEffect s op (inInit s).2) :
    FopEffect s op (initiate inInit s).2 ∧ FopEffect s op (initiateSilently inInit s).2 := by
  unfold initiate initiateSilently
  simp only [bind_apply, getFop_apply]
  cases hs : s.tf.copCfg.state with
  | active | rtNoWait | rtWait | initNoBc | initBc => exact ⟨signalled_effect op _, .none op⟩
  | init => exact ⟨h hs, h hs⟩

/-- An operation that is not made of moves has one of the effects. -/
theorem fopStep_effect {op : FopOp} (hop : op.makesMoves = false) :
    FopEffect s op (fopStep s (keep, op)) := by
  -- the three rejections are one and the same alert
  have hreject : ∀ op, FopEffect s op (rejectAlert (fifoHooks keep) s).2 := by
    intro op
    rw [rejectAlert_alerts]
    exact .alert op _
  cases op with
  | request hdr frameData =>
    refine osdlpReqTransferFdu_effect hdr frameData ?_
    cases hbypass : hdr.bypass with
    | typeA => simp [FopOp.makesMoves, hbypass] at hop
    | typeB => rfl
  | clcw | timerExpired | adAccept | bcAccept => exact absurd hop (by simp [FopOp.makesMoves])
  | adReject | bcReject | bdReject => exact hreject _
  | bdAccept => exact signalled_effect _ _
  | initiateNoClcw => exact (initiate_effect fun hs => .initiated hs).1
  | initiateWithClcw => exact (initiate_effect fun hs => .awaited hs).1
  | initiateWithUnlock =>
    refine (initiate_effect fun hs => ?_).2
    rw [bind_apply, osdlpInitializeCop_apply]
    exact startCommand_effect _ hs _ _ (.inl ⟨rfl, rfl⟩) rfl rfl
  | initiateWithSetvr newVr =>
    refine (initiate_effect fun hs => ?_).2
    rw [bind_apply, osdlpInitializeCop_apply]
    exact startCommand_effect _ hs newVr newVr (.inr rfl) rfl rfl
  | terminateAd =>
    show FopEffect s _ (osdlpTerminateAd (fifoHooks keep) s).2
    unfold osdlpTerminateAd
    rw [bind_apply, getFop_apply]
    cases s.tf.copCfg.state with
    | active | rtNoWait | rtWait | initNoBc | initBc => exact .alert _ _
    | init => exact signalled_effect _ _
  | resumeAd =>
    show FopEffect s _ (osdlpResumeAd (fifoHooks keep) s).2
    rcases @osdlpResumeAd_cases keep s with ⟨state, hs, hss, hresumed⟩ | ⟨-, hsame | hundef⟩
    · rw [hresumed]
      exact .resumed state hs hss
    · rw [hsame]
      exact .none _
    · rw [hundef]
      exact signalled_effect _ _
  | setNewVs newVs =>
    refine (initiate_effect fun hs => ?_).2
    rw [bind_apply, getFop_apply]
    simp only [ite_apply_state]
    split_ifs with hss
    · exact .newVs newVs hs hss
    · exact .none _
  | setTimer newT1 =>
    exact .fop _ _ ⟨⟨rfl, rfl, rfl, rfl, rfl⟩, rfl⟩ (fun _ => rfl) fun _ => rfl
  | setTxLimit newLim =>
    exact .fop _ _ ⟨⟨rfl, rfl, rfl, rfl, rfl⟩, rfl⟩ (fun h => absurd rfl (h newLim)) fun _ => rfl
  | setTt newTt =>
    exact .fop _ _ ⟨⟨rfl, rfl, rfl, rfl, rfl⟩, rfl⟩ (fun _ => rfl) fun h => absurd rfl (h newTt)

/-- An operation that is made of moves reaches its result by them. -/
theorem fopStep_reaches {op : FopOp} (hop : op.makesMoves = true)
    (hrange : reportsInRange s (keep, op)) :
    ∃ nr req, Reaches keep nr req (workingOn s op) (fopStep s (keep, op)) := by
  cases op with
  | request hdr frameData =>
    have htype : hdr.bypass = .typeA := by simpa [FopOp.makesMoves] using hop
    exact ⟨none, true, osdlpReqTransferFdu_reaches htype⟩
  | clcw ocf => exact ⟨_, false, osdlpHandleClcw_reaches ocf fun _ => hrange⟩
  | timerExpired => exact ⟨none, false, osdlpHandleTimerExpired_reaches 2⟩
  | adAccept => exact ⟨none, false, osdlpAdAccept_reaches⟩
  | bcAccept => exact ⟨none, false, osdlpBcAccept_reaches 2⟩
  | _ => exact absurd hop (by simp [FopOp.makesMoves])

end Osdlp.Interface
