import Osdlp.Analysis.FarmFlags
import Osdlp.Interface.ClcwEvents
import Osdlp.Interface.HandlerRules

/-!
# A wait is not reported alone

The FOP answers a control word that asks for a wait, but neither for a retransmission nor reports a
lockout, with `ALERT_CLCW` (E3 and E7).  `farmE2`, which alone raises the wait flag, raises the
retransmission flag with it, and nothing lowers that flag and leaves the other one up
(`WaitCovered`).  So a receiver never sends such a control word.

`osdlp_handle_clcw` can return `ALERT_CLCW` all the same: where the search for a frame finds none,
the handlers return the signal field as it stands.
-/

set_option autoImplicit false

namespace Osdlp.Analysis

open Osdlp.Model Osdlp.Interface Osdlp.Library

/-! ## The receiver -/

/-- The wait flag is down in OPEN, and up only along with the retransmission flag. -/
structure WaitCovered (farm : FarmConfig) : Prop where
  of_open : farm.state = .stateOpen → farm.wait = false
  retransmit : farm.wait = true → farm.retransmit = true

/-- A state with the wait flag down. -/
theorem waitCovered_of_down {farm : FarmConfig} (h : farm.wait = false) : WaitCovered farm where
  of_open := fun _ => h
  retransmit := fun hwait => absurd hwait (by simp [h])

/-- A state that differs in neither flag, and is not open where it was not. -/
theorem WaitCovered.congr {farm farm' : FarmConfig} (h : WaitCovered farm)
    (hopen : farm'.state = .stateOpen → farm.state = .stateOpen) (hwait : farm'.wait = farm.wait)
    (hrt : farm'.retransmit = farm.retransmit) : WaitCovered farm' where
  of_open := fun ho => hwait.trans (h.of_open (hopen ho))
  retransmit := fun hw => hrt.trans (h.retransmit (hwait.symm.trans hw))

/-- A type-A frame raises both flags or leaves the wait flag alone, which is down where the other one
may be lowered. -/
theorem waitCovered_typea (rxFull : Bool) (tf : FarmFrame) (h : WaitCovered tf.copCfg) :
    WaitCovered (handleFarmTypea rxFull tf).2.copCfg := by
  have h1 : WaitCovered (farmE1 tf).2.copCfg := by
    unfold farmE1
    cases hs : tf.copCfg.state with
    | stateOpen =>
      have hdown := h.of_open hs
      dsimp only
      split_ifs
      · exact waitCovered_of_down hdown
      · exact waitCovered_of_down hdown
    | stateWait | stateLockout => exact h
  have h2 : WaitCovered (farmE2 tf).2.copCfg := by
    unfold farmE2
    cases hs : tf.copCfg.state with
    | stateOpen => exact ⟨fun ho => absurd ho (by simp), fun _ => rfl⟩
    | stateWait | stateLockout => exact h
  have h3 : WaitCovered (farmE3 tf).2.copCfg := by
    unfold farmE3
    cases hs : tf.copCfg.state with
    | stateOpen => exact waitCovered_of_down (h.of_open hs)
    | stateWait | stateLockout => exact h
  have h4 : WaitCovered (farmE4 tf).2.copCfg := by
    unfold farmE4
    cases tf.copCfg.state <;> exact h
  have h5 : WaitCovered (farmE5 tf).2.copCfg := by
    unfold farmE5
    cases tf.copCfg.state with
    | stateOpen | stateWait => exact h.congr (fun ho => absurd ho (by simp)) rfl rfl
    | stateLockout => exact h
  unfold handleFarmTypea
  split_ifs <;> assumption

/-- In LOCKOUT a Set V(R) command only counts, elsewhere the commands lower the wait flag. -/
theorem waitCovered_typebCmd (tf : FarmFrame) (h : WaitCovered tf.copCfg) :
    WaitCovered (handleFarmTypebCmd tf).2.copCfg := by
  have h7 : WaitCovered (farmE7 tf).2.copCfg := by
    unfold farmE7
    cases hs : tf.copCfg.state with
    | stateOpen => exact waitCovered_of_down (h.of_open hs)
    | stateWait | stateLockout => exact waitCovered_of_down rfl
  have h8 : WaitCovered (farmE8 tf).2.copCfg := by
    unfold farmE8
    cases hs : tf.copCfg.state with
    | stateOpen => exact waitCovered_of_down (h.of_open hs)
    | stateWait => exact waitCovered_of_down rfl
    | stateLockout => exact h.congr (fun ho => ho) rfl rfl
  unfold handleFarmTypebCmd
  split_ifs
  · exact h7
  · exact h8
  · exact h

/-- Every event keeps the flags together: a release lowers the wait flag. -/
theorem waitCovered_step (tf : FarmFrame) (op : FarmOp) (h : WaitCovered tf.copCfg) :
    WaitCovered (farmStep tf op).copCfg := by
  cases op with
  | release => exact waitCovered_of_down rfl
  | frame hdr frameData rxFull =>
    have hload : WaitCovered (loadFrame tf hdr frameData).copCfg := h
    show WaitCovered (osdlpFarm1 rxFull (loadFrame tf hdr frameData)).2.copCfg
    unfold osdlpFarm1
    cases (loadFrame tf hdr frameData).primaryHdr.bypass with
    | typeA => exact waitCovered_typea rxFull _ hload
    | typeB =>
      cases (loadFrame tf hdr frameData).primaryHdr.ctrlCmd with
      | data =>
        show WaitCovered (farmE6 (loadFrame tf hdr frameData)).2.copCfg
        unfold farmE6
        cases (loadFrame tf hdr frameData).copCfg.state <;>
          exact hload.congr (fun ho => ho) rfl rfl
      | command => exact waitCovered_typebCmd _ hload

/-- Hence so does every run. -/
theorem waitCovered_run {tf : FarmFrame} (h : WaitCovered tf.copCfg) (ops : List FarmOp) :
    WaitCovered (run farmStep tf ops).copCfg :=
  run_inv (I := fun tf => WaitCovered tf.copCfg) h fun tf op _ h => waitCovered_step tf op h

/-- The control word asks for a wait and for nothing else. -/
def WaitAlone (clcw : ClcwFrame) : Prop :=
  clcw.wait = true ∧ clcw.rt = false ∧ clcw.lockout = false

/-- The flags of the control word are those of the FARM. -/
theorem not_waitAlone_prepareClcw {tf : FarmFrame} (h : WaitCovered tf.copCfg) :
    ¬ WaitAlone (osdlpClcwUnpack (osdlpPrepareClcw tf).1) := by
  rw [osdlpPrepareClcw, osdlpClcwUnpack_pack]
  rintro ⟨hwait, hrt, -⟩
  have hup : tf.copCfg.retransmit = true := h.retransmit hwait
  exact absurd (hup.symm.trans hrt) (by decide)

/-- Only such a control word is one of the two events. -/
theorem waitAlone_of_kind {fop : FopConfig} {clcw : ClcwFrame}
    (h : clcwKind fop clcw = .e3 ∨ clcwKind fop clcw = .e7) : WaitAlone clcw := by
  have hguard := clcwKind_guard fop clcw
  rcases h with h | h
  · rw [h] at hguard
    obtain ⟨hat, hrt, hwait⟩ := hguard
    exact ⟨hwait, hrt, hat.1⟩
  · rw [h] at hguard
    obtain ⟨hbehind, hrt, hwait⟩ := hguard
    exact ⟨hwait, hrt, hbehind.1⟩

/-! ## The sender -/

variable {W : Type}

/-- The signal field does not hold `ALERT_CLCW`. -/
def NoClcwAlert (s : FopSt W) : Prop := s.tf.copCfg.signal ≠ .alertClcw

/-- A program that neither returns `ALERT_CLCW` nor stores it. -/
def Silent (m : FopM W Notification) : Prop :=
  Hoare NoClcwAlert m fun notif s => notif ≠ .alertClcw ∧ NoClcwAlert s

/-- Hooks that do not store `ALERT_CLCW`.  They may fail, and they may call back into the FOP. -/
structure SilentHooks (h : CopHooks W) : Prop where
  timerStart : Keeps NoClcwAlert h.timerStart
  timerCancel : Keeps NoClcwAlert h.timerCancel
  cancelLowerOps : Keeps NoClcwAlert h.cancelLowerOps
  markAdAsRt : Keeps NoClcwAlert h.markAdAsRt
  getFirstAdRtFrame : Keeps NoClcwAlert h.getFirstAdRtFrame
  resetRtFrame : ∀ item, Keeps NoClcwAlert (h.resetRtFrame item)
  waitQueueDequeue : Keeps NoClcwAlert h.waitQueueDequeue
  waitQueueEmpty : Keeps NoClcwAlert h.waitQueueEmpty
  waitQueueClear : Keeps NoClcwAlert h.waitQueueClear
  sentQueueEnqueue : ∀ item, Keeps NoClcwAlert (h.sentQueueEnqueue item)
  sentQueueDequeue : Keeps NoClcwAlert h.sentQueueDequeue
  sentQueueEmpty : Keeps NoClcwAlert h.sentQueueEmpty
  sentQueueClear : Keeps NoClcwAlert h.sentQueueClear
  sentQueueHead : Keeps NoClcwAlert h.sentQueueHead
  txQueueEnqueue : ∀ fdu, Keeps NoClcwAlert (h.txQueueEnqueue fdu)

/-- In particular it does not store the alert. -/
theorem Silent.keeps {m : FopM W Notification} (hm : Silent m) : Keeps NoClcwAlert m :=
  fun s hs => (hm s hs).2

/-- A silent program may follow any that does not store the alert. -/
theorem Silent.after {α : Type} {m : FopM W α} {k : α → FopM W Notification}
    (hm : Keeps NoClcwAlert m) (hk : ∀ a, Silent (k a)) : Silent (m >>= k) :=
  Hoare.bind hm hk

/-- Each branch may use its condition. -/
theorem Silent.ite {c : Prop} [Decidable c] {m n : FopM W Notification} (ht : c → Silent m)
    (he : ¬ c → Silent n) : Silent (if c then m else n) :=
  Hoare.ite ht he

/-- The signal field stays as it is. -/
theorem silent_pure {notif : Notification} (h : notif ≠ .alertClcw) :
    Silent (pure notif : FopM W Notification) :=
  Hoare.pure fun _ hs => ⟨h, hs⟩

/-- The answer replaces what was in the signal field. -/
theorem silent_answer {notif : Notification} (h : notif ≠ .alertClcw) :
    Silent (answer notif : FopM W Notification) :=
  fun _ _ => ⟨h, h⟩

/-- Reading the FOP variables. -/
theorem keeps_getFop : Keeps NoClcwAlert (getFop : FopM W FopConfig) := fun _ hs => hs

/-- Writing other FOP variables. -/
theorem keeps_modifyFop {f : FopConfig → FopConfig} (h : ∀ fop, (f fop).signal = fop.signal) :
    Keeps NoClcwAlert (modifyFop f : FopM W Unit) := by
  intro s hs
  show (f s.tf.copCfg).signal ≠ .alertClcw
  rw [h]
  exact hs

/-- The state is another variable than the signal. -/
theorem keeps_setState (state : FopState) : Keeps NoClcwAlert (setState state : FopM W Unit) :=
  keeps_modifyFop fun _ => rfl

/-- Packing writes the checksum of the frame structure only. -/
theorem keeps_packFrame (data : List UInt8) (length : ℕ) :
    Keeps NoClcwAlert (packFrame data length : FopM W (List UInt8)) := by
  intro s hs
  obtain ⟨crc, hpack⟩ := osdlpTcPack_snd s.tf data length
  show (osdlpTcPack s.tf data length).2.copCfg.signal ≠ .alertClcw
  rw [hpack]
  exact hs

/-- What a handler returns after the search: the notification found, or the signal field. -/
theorem silent_report {notif : Notification} (h : notif ≠ .alertClcw) :
    Silent (report notif : FopM W Notification) := by
  unfold report
  refine Silent.ite (fun _ => silent_answer h) fun _ => ?_
  intro s hs
  exact ⟨hs, hs⟩

variable {h : CopHooks W}

/-- An alert leaves `NEGATIVE_TX` in the signal field, or what was there. -/
theorem SilentHooks.alert (hq : SilentHooks h) : Keeps NoClcwAlert (osdlpAlert h) := by
  unfold osdlpAlert osdlpPurgeWaitQueue osdlpPurgeSentQueue
  refine hq.timerCancel.bind fun _ => Keeps.ite (Keeps.pure _) ?_
  refine Keeps.bind (hq.waitQueueClear.bind fun _ => Keeps.ite (Keeps.pure _) (Keeps.pure _))
    fun _ => Keeps.ite (Keeps.pure _) ?_
  refine Keeps.bind (hq.sentQueueClear.bind fun _ => Keeps.ite (Keeps.pure _) (Keeps.pure _))
    fun _ => Keeps.ite (Keeps.pure _) ?_
  exact Keeps.bind (fun s _ => show Notification.negativeTx ≠ .alertClcw by decide)
    fun _ => Keeps.pure _

/-- Every alert but E3's and E7's. -/
theorem SilentHooks.alertTo (hq : SilentHooks h) {notif : Notification}
    (hne : notif ≠ .alertClcw) : Silent (alertTo h notif) := by
  have hfail : Silent (answer .undefError : FopM W Notification) := silent_answer (by decide)
  unfold Model.alertTo
  refine Silent.after hq.alert fun _ => Silent.ite (fun _ => hfail) fun _ => ?_
  exact Silent.after (keeps_setState _) fun _ => silent_answer hne

/-- The search for a frame marked for retransmission ends early with an error only. -/
theorem SilentHooks.lookForRetransmission (hq : SilentHooks h) :
    Hoare NoClcwAlert (lookForRetransmission h) fun early s =>
      early ≠ some .alertClcw ∧ NoClcwAlert s := by
  have hnone : Hoare NoClcwAlert (pure none : FopM W (Option Notification)) fun early s =>
      early ≠ some .alertClcw ∧ NoClcwAlert s := Hoare.pure fun _ hs => ⟨by decide, hs⟩
  unfold Model.lookForRetransmission
  refine Hoare.bind hq.sentQueueEmpty fun noneSent => Hoare.ite (fun _ => hnone) fun _ => ?_
  refine Hoare.bind hq.getFirstAdRtFrame fun first => ?_
  cases first with
  | none => exact hnone
  | some item =>
    refine Hoare.bind (hq.resetRtFrame item) fun ret => Hoare.ite (fun _ => ?_) fun _ => ?_
    · exact Hoare.pure fun _ hs => ⟨by decide, hs⟩
    refine Hoare.bind (hq.txQueueEnqueue item.fdu) fun ret => Hoare.ite (fun _ => ?_) fun _ => hnone
    intro s _
    show some Notification.undefError ≠ some .alertClcw ∧ Notification.undefError ≠ .alertClcw
    decide

/-- Sending a waiting frame writes V(S) and `tx_cnt`, and no signal. -/
theorem SilentHooks.transmitTypeAd (hq : SilentHooks h) :
    Keeps NoClcwAlert (osdlpTransmitTypeAd h) := by
  unfold osdlpTransmitTypeAd
  refine hq.waitQueueDequeue.bind fun waitItem => (keeps_packFrame _ _).bind fun fdu => ?_
  have hrest : Keeps NoClcwAlert (do
      let _ ← h.timerStart
      let fop ← getFop
      let ret ← h.sentQueueEnqueue { fdu := fdu, rtFlag := false, seqNum := fop.vs, type := .typeA }
      modifyFop fun fop => { fop with vs := UInt8.ofNat ((fop.vs.toNat + 1) % 256) }
      if ret < 0 then
        return -1
      let ret ← h.txQueueEnqueue fdu
      if ret < 0 then
        return -1
      return (0 : Int)) := by
    refine hq.timerStart.bind fun _ => keeps_getFop.bind fun fop => ?_
    refine (hq.sentQueueEnqueue _).bind fun ret => ?_
    refine Keeps.bind (keeps_modifyFop (by intro; rfl)) fun _ => Keeps.ite (Keeps.pure _) ?_
    exact (hq.txQueueEnqueue fdu).bind fun ret => Keeps.ite (Keeps.pure _) (Keeps.pure _)
  refine hq.sentQueueEmpty.bind fun noneSent => Keeps.ite ?_ hrest
  exact Keeps.bind (keeps_modifyFop (by intro; rfl)) fun _ => hrest

/-- The search answers with an acceptance, a delay, an error or IGNORE. -/
theorem SilentHooks.lookForFdu (hq : SilentHooks h) : Silent (osdlpLookForFdu h) := by
  unfold osdlpLookForFdu
  refine Hoare.bind hq.lookForRetransmission fun early => ?_
  cases early with
  | some notif => exact fun s hs => ⟨fun heq => hs.1 (congrArg some heq), hs.2⟩
  | none =>
    have hwaiting : Silent (lookForWaiting h) := by
      unfold lookForWaiting
      refine Silent.after hq.waitQueueEmpty fun noneWaiting =>
        Silent.ite (fun _ => silent_pure (by decide)) fun _ => ?_
      refine Silent.after keeps_getFop fun fop => Silent.ite (fun _ => ?_) fun _ => ?_
      · exact Silent.after hq.transmitTypeAd fun ret =>
          Silent.ite (fun _ => silent_answer (by decide)) fun _ => silent_answer (by decide)
      · exact silent_answer (by decide)
    exact fun s hs => hwaiting s hs.2

/-- After IGNORE the old signal is returned, which is not the alert. -/
theorem SilentHooks.lookThenReport (hq : SilentHooks h) (state : Option FopState) :
    Silent (lookThenReport h state) := by
  unfold Model.lookThenReport
  refine Hoare.bind hq.lookForFdu fun notif => ?_
  intro s hs
  cases state with
  | none => exact silent_report hs.1 s hs.2
  | some st => exact Silent.after (keeps_setState st) (fun _ => silent_report hs.1) s hs.2

/-- Each round writes NN(R) and `tx_cnt`. -/
theorem SilentHooks.removeAckedLoop (hq : SilentHooks h) (nr : UInt8) (counter rounds : ℕ) :
    Keeps NoClcwAlert (removeAckedLoop h nr counter rounds) := by
  induction rounds generalizing counter with
  | zero => exact Keeps.pure _
  | succ rounds ih =>
    unfold Model.removeAckedLoop
    refine hq.sentQueueHead.bind fun head => ?_
    cases head with
    | none => exact Keeps.pure _
    | some item =>
      refine Keeps.ite (Keeps.pure _) (hq.sentQueueDequeue.bind fun ret => ?_)
      refine Keeps.ite (Keeps.pure _) (Keeps.bind (keeps_modifyFop (by intro; rfl)) fun _ => ?_)
      exact keeps_getFop.bind fun fop => Keeps.ite (Keeps.pure _) (ih _)

/-- So the loop as a whole stores no signal. -/
theorem SilentHooks.removeAckedFrames (hq : SilentHooks h) (nr : UInt8) :
    Keeps NoClcwAlert (osdlpRemoveAckedFrames h nr) := hq.removeAckedLoop nr 0 256

/-- A removal that fails is answered with an error. -/
theorem SilentHooks.removeAckedThen (hq : SilentHooks h) (clcw : ClcwFrame)
    {next : FopM W Notification} (hnext : Silent next) : Silent (removeAckedThen h clcw next) :=
  Silent.after (hq.removeAckedFrames _) fun _ =>
    Silent.ite (fun _ => silent_answer (by decide)) fun _ => hnext

/-- So is a retransmission that fails to start. -/
theorem SilentHooks.adRetransmissionThen (hq : SilentHooks h) {next : FopM W Notification}
    (hnext : Silent next) : Silent (adRetransmissionThen h next) := by
  have hinit : Keeps NoClcwAlert (osdlpInitiateAdRetransmission h) := by
    unfold osdlpInitiateAdRetransmission
    refine hq.cancelLowerOps.bind fun _ => Keeps.bind (keeps_modifyFop (by intro; rfl)) fun _ => ?_
    refine hq.timerStart.bind fun _ => Keeps.ite (Keeps.pure _) ?_
    exact hq.markAdAsRt.bind fun _ => Keeps.ite (Keeps.pure _) (Keeps.pure _)
  exact Silent.after hinit fun _ => Silent.ite (fun _ => silent_answer (by decide)) fun _ => hnext

/-! ## The events -/

/-- What handlers without acknowledgement are put together from, E3 and E7 apart. -/
theorem SilentHooks.restClosed (hq : SilentHooks h) : RestClosed h Silent where
  row _ hrows := Silent.after keeps_getFop hrows
  ignore := silent_pure (by decide)
  na := silent_pure (by decide)
  enter state _ hnext := Silent.after (keeps_setState state) fun _ => hnext
  alert _ hnotif := hq.alertTo hnotif

/-- What the other handlers of control words are put together from. -/
theorem SilentHooks.ackClosed (hq : SilentHooks h) (clcw : ClcwFrame)
    : AckClosed h clcw Silent where
  toRestClosed := hq.restClosed
  remove _ hnext := hq.removeAckedThen clcw hnext
  retransmit _ hnext := hq.adRetransmissionThen hnext
  cancel _ hnext := Silent.after hq.timerCancel fun _ => hnext
  look state := hq.lookThenReport state

/-- E1 answers with ALERT_SYNCH, POSITIVE_DIR or IGNORE. -/
theorem SilentHooks.fopE1 (hq : SilentHooks h) : Silent (fopE1 h) := by
  have hrelease : Keeps NoClcwAlert (osdlpReleaseCopyOfBc h) := by
    unfold osdlpReleaseCopyOfBc
    refine hq.sentQueueHead.bind fun head => ?_
    cases head with
    | none => exact Keeps.pure _
    | some item =>
      refine Keeps.ite (hq.sentQueueDequeue.bind fun ret => ?_) (Keeps.pure _)
      exact Keeps.ite (Keeps.pure _) (Keeps.pure _)
  exact hq.restClosed.fopE1 (fun _ hnotif => silent_answer hnotif)
    (fun _ hnext => Silent.after hq.timerCancel fun _ => hnext)
    (Silent.after hq.alert fun _ => Silent.after (keeps_setState _) fun _ => silent_answer (by decide))
    fun _ hnext => Silent.after hrelease hnext

/-- E101 answers with ALERT_LIMIT where the service runs. -/
theorem SilentHooks.fopE101 (hq : SilentHooks h) (clcw : ClcwFrame) : Silent (fopE101 h clcw) := by
  refine Silent.after keeps_getFop fun fop => ?_
  cases fop.state with
  | active | rtNoWait => exact hq.removeAckedThen clcw (hq.alertTo (by decide))
  | rtWait => exact Silent.after (hq.removeAckedFrames _) fun _ => hq.alertTo (by decide)
  | initNoBc | initBc | init => exact silent_pure (by decide)

/-- A control word that does not ask for a wait alone raises no `ALERT_CLCW`. -/
theorem SilentHooks.clcwEvent (hq : SilentHooks h) (fop : FopConfig) {clcw : ClcwFrame}
    (hclcw : ¬ WaitAlone clcw) : Silent (clcwEvent h fop clcw) := by
  have hrest := hq.restClosed.restEvent
  have hack := (hq.ackClosed clcw).ackEvent
  -- E3 and E7 are the branches in which the control word would ask for a wait alone
  have halone : ∀ m : FopM W Notification, (!clcw.lockout) = true → (!clcw.rt) = true →
      ¬ (!clcw.wait) = true → Silent m := by
    intro m hlock hrt hwait
    exact absurd ⟨by simpa using hwait, by simpa using hrt, by simpa using hlock⟩ hclcw
  unfold Model.clcwEvent
  refine Silent.ite (fun hlock => ?_) fun _ => hrest _ (by simp)
  refine Silent.ite (fun _ => Silent.ite (fun hrt => ?_) fun _ => hrest _ (by simp))
    fun _ => Silent.ite (fun _ => Silent.ite (fun hrt => ?_) fun _ => ?_) fun _ => hrest _ (by simp)
  · refine Silent.ite (fun _ => Silent.ite (fun _ => hq.fopE1) fun _ => hack _ (by simp)) ?_
    exact fun hwait => halone _ hlock hrt hwait
  · refine Silent.ite (fun _ => Silent.ite (fun _ => hrest _ (by simp)) fun _ => hack _ (by simp)) ?_
    exact fun hwait => halone _ hlock hrt hwait
  · refine Silent.ite (fun _ => Silent.ite (fun _ => hq.fopE101 clcw) fun _ => hrest _ (by simp))
      fun _ => Silent.ite (fun _ => ?_) fun _ => silent_answer (by decide)
    refine Silent.ite (fun _ => Silent.ite (fun _ => hack _ (by simp)) fun _ => hack _ (by simp))
      fun _ => Silent.ite (fun _ => ?_) fun _ => ?_
    · exact Silent.ite (fun _ => hack _ (by simp)) fun _ => hrest _ (by simp)
    · exact Silent.ite (fun _ => hrest _ (by simp)) fun _ => hrest _ (by simp)

/-- **No control word of a receiver is one of the two events**, whatever the state of the sender, and
so the sender does not answer it with `ALERT_CLCW` unless the signal field holds that already.  Of
the flags at the start only the wait flag has to be down.
SOURCE: osdlp_cop.c:49-224, 1975-2092; osdlp_tc.c:470-484; osdlp_clcw.c:22-64 -/
theorem farm_never_alertClcw (hq : SilentHooks h) (tf : FarmFrame)
    (hwait : tf.copCfg.wait = false) (ops : List FarmOp) (s : FopSt W) :
    let ocf := (osdlpPrepareClcw (run farmStep tf ops)).1
    ¬ WaitAlone (osdlpClcwUnpack ocf) ∧
      clcwKind s.tf.copCfg (osdlpClcwUnpack ocf) ≠ .e3 ∧
      clcwKind s.tf.copCfg (osdlpClcwUnpack ocf) ≠ .e7 ∧
      (s.tf.copCfg.signal ≠ .alertClcw → (osdlpHandleClcw h ocf s).1 ≠ .alertClcw) := by
  intro ocf
  have halone : ¬ WaitAlone (osdlpClcwUnpack ocf) :=
    not_waitAlone_prepareClcw (waitCovered_run (waitCovered_of_down hwait) ops)
  refine ⟨halone, fun hkind => halone (waitAlone_of_kind (.inl hkind)),
    fun hkind => halone (waitAlone_of_kind (.inr hkind)), fun hsignal => ?_⟩
  have hsilent := hq.clcwEvent s.tf.copCfg halone
  exact (hsilent { s with tf := { s.tf with mission := { s.tf.mission with
    clcw := osdlpClcwUnpack ocf } } } hsignal).1

/-- Queues do not store notifications. -/
theorem silentHooks_fifo (keep : List Bool) : SilentHooks (fifoHooks keep) where
  timerStart := fun _ hs => hs
  timerCancel := fun _ hs => hs
  cancelLowerOps := fun _ hs => hs
  markAdAsRt := fun _ hs => hs
  getFirstAdRtFrame := fun _ hs => hs
  resetRtFrame := fun _ _ hs => hs
  waitQueueDequeue := fun _ hs => hs
  waitQueueEmpty := fun _ hs => hs
  waitQueueClear := fun _ hs => hs
  sentQueueEnqueue := fun _ _ hs => hs
  sentQueueDequeue := fun _ hs => hs
  sentQueueEmpty := fun _ hs => hs
  sentQueueClear := fun _ hs => hs
  sentQueueHead := fun _ hs => hs
  txQueueEnqueue := fun _ _ hs => hs

/-- A sender in ACTIVE with frame 255 outstanding and the given signal. -/
def oneOutstandingFop (signal : Notification) : Fop :=
  { tf :=
      { (default : FopFrame) with
        copCfg :=
          { osdlpPrepareFop default 10 .active 100 0 3 with nnr := 255, signal := signal } }
    world :=
      { waitQueue := []
        sentQueue := [{ fdu := [], rtFlag := false, seqNum := 255, type := .typeA }]
        txQueue := []
        timerRunning := true
        accepted := [] } }

/-- A receiver that has to wait and is then locked out. -/
theorem farm_never_alertClcw_locked_out :
    let ops : List FarmOp := [.frame default default true, .frame farFrame default false]
    let ocf := (osdlpPrepareClcw (run farmStep openFarm ops)).1
    let s := oneOutstandingFop .ignore
    (osdlpClcwUnpack ocf).wait = true ∧ s.tf.copCfg.signal ≠ .alertClcw ∧
      ¬ WaitAlone (osdlpClcwUnpack ocf) ∧
      clcwKind s.tf.copCfg (osdlpClcwUnpack ocf) ≠ .e3 ∧
      clcwKind s.tf.copCfg (osdlpClcwUnpack ocf) ≠ .e7 ∧
      (s.tf.copCfg.signal ≠ .alertClcw →
        (osdlpHandleClcw (fifoHooks []) ocf s).1 ≠ .alertClcw) := by
  intro ops ocf s
  exact ⟨by decide, by decide, farm_never_alertClcw (silentHooks_fifo []) openFarm rfl ops s⟩

/-- The sender has the frame 255 outstanding, and its signal field holds an old `ALERT_CLCW`.  The
receiver's first control word acknowledges the frame (E2); no frame waits, and the signal field is
returned. -/
theorem alertClcw_stale_signal :
    let ocf := (osdlpPrepareClcw (run farmStep openFarm [])).1
    openFarm.copCfg.state = .stateOpen ∧ openFarm.copCfg.lockout = false ∧
      openFarm.copCfg.wait = false ∧ openFarm.copCfg.retransmit = false ∧
      clcwKind (oneOutstandingFop .alertClcw).tf.copCfg (osdlpClcwUnpack ocf) = .e2 ∧
      (osdlpHandleClcw (fifoHooks []) ocf (oneOutstandingFop .alertClcw)).1 = .alertClcw := by
  decide

end Osdlp.Analysis
