import Osdlp.Interface.FopRun
import Osdlp.Interface.HandlerRules

/-!
# What FOP-1 leaves alone

`osdlp_tc_transmit` keeps its progress in `seg_status` and cuts at `max_data_len`.  No operation of
FOP-1 writes either of them, whatever the hooks answer, as long as the hooks do not write them
(`copStep_aside`).  So a directive or an alert that gives an SDU up leaves the progress behind.
-/

set_option autoImplicit false

namespace Osdlp.Interface

open Osdlp.Model Osdlp.Library

variable {W : Type} {α β : Type}

/-- The progress of the segmentation and the length of the segments agree. -/
structure SameSegments (s s' : FopSt W) : Prop where
  segStatus : s'.tf.segStatus = s.tf.segStatus
  maxDataLen : s'.tf.mission.maxDataLen = s.tf.mission.maxDataLen

/-- Nothing has changed yet. -/
theorem SameSegments.refl (s : FopSt W) : SameSegments s s := ⟨rfl, rfl⟩

/-- What two programs leave alone, both together do. -/
theorem SameSegments.trans {s s' s'' : FopSt W} (h : SameSegments s s')
    (h' : SameSegments s' s'') : SameSegments s s'' :=
  ⟨h'.segStatus.trans h.segStatus, h'.maxDataLen.trans h.maxDataLen⟩

/-- The program leaves the segmentation alone. -/
def Aside (m : FopM W α) : Prop := ∀ s, SameSegments s (m s).2

/-- It is enough that both programs leave the segmentation alone, whatever the first one returns. -/
theorem Aside.bind {m : FopM W α} {k : α → FopM W β} (hm : Aside m) (hk : ∀ a, Aside (k a)) :
    Aside (m >>= k) :=
  fun s => (hm s).trans (hk (m s).1 (m s).2)

/-- Only the state counts. -/
theorem Aside.map {m : FopM W α} (hm : Aside m) (f : α → β) : Aside (f <$> m) := hm

/-- Neither branch touches the segmentation. -/
theorem Aside.ite {c : Prop} [Decidable c] {m n : FopM W α} (ht : Aside m) (he : Aside n) :
    Aside (if c then m else n) := by
  split
  · exact ht
  · exact he

/-- A result changes nothing. -/
theorem aside_pure (a : α) : Aside (pure a : FopM W α) := SameSegments.refl

/-- Reading the FOP variables changes nothing. -/
theorem aside_getFop : Aside (getFop : FopM W FopConfig) := SameSegments.refl

/-- Reading the whole state changes nothing. -/
theorem aside_get : Aside (get : FopM W (FopSt W)) := SameSegments.refl

/-- The FOP variables lie in `cop_cfg`, apart from `seg_status` and the mission parameters. -/
theorem aside_modifyFop (f : FopConfig → FopConfig) : Aside (modifyFop f : FopM W Unit) :=
  fun _ => ⟨rfl, rfl⟩

/-- The state is one of the FOP variables. -/
theorem aside_setState (state : FopState) : Aside (setState state : FopM W Unit) :=
  aside_modifyFop _

/-- An answer is stored in `signal`, one of the FOP variables. -/
theorem aside_answer (notif : Notification) : Aside (answer notif : FopM W Notification) :=
  fun _ => ⟨rfl, rfl⟩

/-- Packing writes the checksum of the frame structure and nothing else of it. -/
theorem aside_packFrame (data : List UInt8) (length : ℕ) :
    Aside (packFrame data length : FopM W (List UInt8)) := by
  intro s
  obtain ⟨crc, hpack⟩ := osdlpTcPack_snd s.tf data length
  have hstate : (packFrame data length s).2 = { s with tf := { s.tf with crc := crc } } := by
    show ({ s with tf := (osdlpTcPack s.tf data length).2 } : FopSt W) = _
    rw [hpack]
  rw [hstate]
  exact ⟨rfl, rfl⟩

/-- The length field belongs to the primary header. -/
theorem aside_setFrameLen : Aside (setFrameLen : FopM W Unit) := fun _ => ⟨rfl, rfl⟩

/-- A report stores at most a signal. -/
theorem aside_report (notif : Notification) : Aside (report notif : FopM W Notification) := by
  unfold report
  exact Aside.ite (aside_answer notif) (aside_getFop.bind fun fop => aside_pure fop.signal)

/-- Hooks that leave the segmentation alone.  They may fail, and they may call back into the
FOP. -/
structure AsideHooks (h : CopHooks W) : Prop where
  timerStart : Aside h.timerStart
  timerCancel : Aside h.timerCancel
  cancelLowerOps : Aside h.cancelLowerOps
  markAdAsRt : Aside h.markAdAsRt
  markBcAsRt : Aside h.markBcAsRt
  getFirstAdRtFrame : Aside h.getFirstAdRtFrame
  resetRtFrame : ∀ item, Aside (h.resetRtFrame item)
  waitQueueEnqueue : Aside h.waitQueueEnqueue
  waitQueueDequeue : Aside h.waitQueueDequeue
  waitQueueEmpty : Aside h.waitQueueEmpty
  waitQueueClear : Aside h.waitQueueClear
  sentQueueEnqueue : ∀ item, Aside (h.sentQueueEnqueue item)
  sentQueueDequeue : Aside h.sentQueueDequeue
  sentQueueEmpty : Aside h.sentQueueEmpty
  sentQueueClear : Aside h.sentQueueClear
  sentQueueHead : Aside h.sentQueueHead
  txQueueEnqueue : ∀ fdu, Aside (h.txQueueEnqueue fdu)

/-- Hooks over queues do not know of the segmentation. -/
theorem fifoHooks_aside (keep : List Bool) : AsideHooks (fifoHooks keep) := by
  refine ⟨?_, ?_, ?_, ?_, ?_, ?_, fun item => ?_, ?_, ?_, ?_, ?_, fun item => ?_, ?_, ?_, ?_, ?_,
    fun fdu => ?_⟩ <;> exact fun _ => ⟨rfl, rfl⟩

variable {h : CopHooks W}

/-! ## The building blocks -/

/-- A hook that reports success or failure. -/
theorem Aside.checked {m : FopM W Int} (hm : Aside m) {fail next : FopM W α} (hfail : Aside fail)
    (hnext : Aside next) : Aside (do
      let ret ← m
      if ret < 0 then fail else next) :=
  hm.bind fun _ => Aside.ite hfail hnext

/-- Clearing the sent queue is left to its hook. -/
theorem AsideHooks.purgeSentQueue (hq : AsideHooks h) : Aside (osdlpPurgeSentQueue h) :=
  hq.sentQueueClear.checked (aside_pure _) (aside_pure _)

/-- Clearing the wait queue is left to its hook: a segment that waits is lost, the progress stays.
-/
theorem AsideHooks.purgeWaitQueue (hq : AsideHooks h) : Aside (osdlpPurgeWaitQueue h) :=
  hq.waitQueueClear.checked (aside_pure _) (aside_pure _)

/-- Both queues are cleared, and FOP variables are set. -/
theorem AsideHooks.initializeCop (hq : AsideHooks h) : Aside (osdlpInitializeCop h) := by
  unfold osdlpInitializeCop
  refine hq.purgeWaitQueue.checked (aside_pure _) (hq.purgeSentQueue.checked (aside_pure _) ?_)
  exact (aside_modifyFop _).bind fun _ => aside_pure _

/-- An alert purges the queues without giving the SDU up. -/
theorem AsideHooks.alert (hq : AsideHooks h) : Aside (osdlpAlert h) := by
  unfold osdlpAlert
  refine hq.timerCancel.checked (aside_pure _) ?_
  refine hq.purgeWaitQueue.checked (aside_pure _) (hq.purgeSentQueue.checked (aside_pure _) ?_)
  exact (aside_modifyFop _).bind fun _ => aside_pure _

/-- A resumption starts the timer and sets `ss`. -/
theorem AsideHooks.resume (hq : AsideHooks h) : Aside (osdlpResume h) := by
  unfold osdlpResume
  exact hq.timerStart.checked (aside_pure _) ((aside_modifyFop _).bind fun _ => aside_pure _)

/-- The frame that waited is packed, and V(S) goes up. -/
theorem AsideHooks.transmitTypeAd (hq : AsideHooks h) : Aside (osdlpTransmitTypeAd h) := by
  unfold osdlpTransmitTypeAd
  refine hq.waitQueueDequeue.bind fun waitItem => (aside_packFrame _ _).bind fun fdu => ?_
  have hrest : Aside (do
      let _ ← h.timerStart
      let fop ← getFop
      let ret ← h.sentQueueEnqueue { fdu := fdu, rtFlag := false, seqNum := fop.vs, type := .typeA }
      modifyFop fun fop => { fop with vs := UInt8.ofNat ((fop.vs.toNat + 1) % 256) }
      if ret < 0 then
        return -1
      let ret ← h.txQueueEnqueue fdu
      if ret < 0 then
        return -1
      return (0 : Int)) := by
    refine hq.timerStart.bind fun _ => aside_getFop.bind fun fop => ?_
    refine (hq.sentQueueEnqueue _).bind fun ret => (aside_modifyFop _).bind fun _ => ?_
    exact Aside.ite (aside_pure _)
      ((hq.txQueueEnqueue fdu).checked (aside_pure _) (aside_pure _))
  exact hq.sentQueueEmpty.bind fun noneSent =>
    Aside.ite ((aside_modifyFop _).bind fun _ => hrest) hrest

/-- A command is packed, and `tx_cnt` is set. -/
theorem AsideHooks.transmitTypeBc (hq : AsideHooks h) : Aside (osdlpTransmitTypeBc h) := by
  unfold osdlpTransmitTypeBc
  refine aside_get.bind fun s => (aside_packFrame _ _).bind fun fdu => ?_
  refine (aside_modifyFop _).bind fun _ => aside_setFrameLen.bind fun _ => ?_
  refine hq.timerStart.bind fun _ => aside_getFop.bind fun fop => ?_
  exact (hq.sentQueueEnqueue _).checked (aside_pure _)
    ((hq.txQueueEnqueue fdu).checked (aside_pure _) (aside_pure _))

/-- A frame of the expedited service is packed. -/
theorem AsideHooks.transmitTypeBd (hq : AsideHooks h) : Aside (osdlpTransmitTypeBd h) := by
  unfold osdlpTransmitTypeBd
  refine aside_get.bind fun s => (aside_packFrame _ _).bind fun fdu => ?_
  exact aside_setFrameLen.bind fun _ =>
    (hq.txQueueEnqueue fdu).checked (aside_pure _) (aside_pure _)

/-- Frames are marked by a hook, and `tx_cnt` goes up. -/
theorem AsideHooks.initiateAdRetransmission (hq : AsideHooks h) :
    Aside (osdlpInitiateAdRetransmission h) := by
  unfold osdlpInitiateAdRetransmission
  refine hq.cancelLowerOps.bind fun _ => (aside_modifyFop _).bind fun _ => ?_
  exact hq.timerStart.checked (aside_pure _) (hq.markAdAsRt.checked (aside_pure _) (aside_pure _))

/-- The command is marked by a hook, and `tx_cnt` goes up. -/
theorem AsideHooks.initiateBcRetransmission (hq : AsideHooks h) :
    Aside (osdlpInitiateBcRetransmission h) := by
  unfold osdlpInitiateBcRetransmission
  refine hq.cancelLowerOps.bind fun _ => (aside_modifyFop _).bind fun _ => ?_
  exact hq.timerStart.checked (aside_pure _) (hq.markBcAsRt.checked (aside_pure _) (aside_pure _))

/-- A marked frame goes out as it was packed before. -/
theorem AsideHooks.lookForRetransmission (hq : AsideHooks h) :
    Aside (lookForRetransmission h) := by
  unfold Model.lookForRetransmission
  refine hq.sentQueueEmpty.bind fun noneSent => Aside.ite (aside_pure _) ?_
  refine hq.getFirstAdRtFrame.bind fun first => ?_
  cases first with
  | none => exact aside_pure _
  | some item =>
    refine (hq.resetRtFrame item).checked (aside_pure _) ?_
    exact (hq.txQueueEnqueue item.fdu).checked ((aside_answer _).bind fun _ => aside_pure _)
      (aside_pure _)

/-- Either a marked frame goes out or the one that waits. -/
theorem AsideHooks.lookForFdu (hq : AsideHooks h) : Aside (osdlpLookForFdu h) := by
  unfold osdlpLookForFdu
  refine hq.lookForRetransmission.bind fun early => ?_
  cases early with
  | some notif => exact aside_pure _
  | none =>
    unfold lookForWaiting
    refine hq.waitQueueEmpty.bind fun noneWaiting => Aside.ite (aside_pure _) ?_
    refine aside_getFop.bind fun fop => Aside.ite ?_ (aside_answer _)
    exact hq.transmitTypeAd.checked (aside_answer _) (aside_answer _)

/-- Searching, changing the state and reporting. -/
theorem AsideHooks.lookThenReport (hq : AsideHooks h) (state : Option FopState) :
    Aside (lookThenReport h state) := by
  unfold Model.lookThenReport
  refine hq.lookForFdu.bind fun notif => ?_
  cases state with
  | none => exact aside_report notif
  | some st => exact (aside_setState st).bind fun _ => aside_report notif

/-- The loop only moves NN(R), however often it goes round. -/
theorem AsideHooks.removeAckedFrames (hq : AsideHooks h) (nr : UInt8) :
    Aside (osdlpRemoveAckedFrames h nr) := by
  have hloop : ∀ rounds counter, Aside (removeAckedLoop h nr counter rounds) := by
    intro rounds
    induction rounds with
    | zero => exact fun _ => aside_pure _
    | succ rounds ih =>
      intro counter
      refine hq.sentQueueHead.bind fun head => ?_
      cases head with
      | none => exact aside_pure _
      | some item =>
        refine Aside.ite (aside_pure _) (hq.sentQueueDequeue.checked (aside_pure _) ?_)
        refine (aside_modifyFop _).bind fun _ => aside_getFop.bind fun fop => ?_
        exact Aside.ite (aside_pure _) (ih _)
  exact hloop 256 0

/-- A handler that removes frames first. -/
theorem AsideHooks.removeAckedThen (hq : AsideHooks h) (clcw : ClcwFrame)
    {next : FopM W Notification} (hnext : Aside next) : Aside (removeAckedThen h clcw next) :=
  (hq.removeAckedFrames _).checked (aside_answer _) hnext

/-- A handler that initiates a retransmission first. -/
theorem AsideHooks.adRetransmissionThen (hq : AsideHooks h) {next : FopM W Notification}
    (hnext : Aside next) : Aside (adRetransmissionThen h next) :=
  hq.initiateAdRetransmission.checked (aside_answer _) hnext

/-- The copy of a command is taken off by a hook. -/
theorem AsideHooks.releaseCopyOfBc (hq : AsideHooks h) : Aside (osdlpReleaseCopyOfBc h) := by
  unfold osdlpReleaseCopyOfBc
  refine hq.sentQueueHead.bind fun head => ?_
  cases head with
  | none => exact aside_pure _
  | some item =>
    exact Aside.ite (hq.sentQueueDequeue.checked (aside_pure _) (aside_pure _)) (aside_pure _)

/-- Ending the service does not end the segmentation. -/
theorem AsideHooks.alertTo (hq : AsideHooks h) (notif : Notification) :
    Aside (alertTo h notif) :=
  hq.alert.checked (aside_answer _) ((aside_setState _).bind fun _ => aside_answer _)

/-- A rejection by the lower layer does not end the segmentation. -/
theorem AsideHooks.rejectAlert (hq : AsideHooks h) : Aside (rejectAlert h) := by
  unfold Model.rejectAlert
  refine aside_getFop.bind fun fop => ?_
  cases fop.state with
  | active | rtNoWait | rtWait | initNoBc | initBc => exact hq.alertTo _
  | init => exact hq.alert.checked (aside_answer _) (aside_answer _)

/-- What follows a search for a directive. -/
theorem aside_reportFound {look : FopM W (Option Notification)} (hlook : Aside look) :
    Aside (do
      let result ← look
      match result with
      | none => return none
      | some notif => some <$> report notif) := by
  refine hlook.bind fun result => ?_
  cases result with
  | none => exact aside_pure _
  | some notif => exact (aside_report notif).map some

/-- An acceptance goes on with the search in INIT_BC only. -/
theorem aside_bcAcceptWith {look : FopM W (Option Notification)} (hlook : Aside look) :
    Aside (bcAcceptWith look) := by
  unfold bcAcceptWith
  refine aside_getFop.bind fun fop => ?_
  cases fop.state with
  | initBc => exact aside_reportFound hlook
  | active | rtNoWait | rtWait | initNoBc | init => exact aside_pure _

/-- The search calls the acceptance, which searches again: by induction on the depth. -/
theorem AsideHooks.lookForDirective (hq : AsideHooks h) (depth : ℕ) :
    Aside (osdlpLookForDirective h depth) := by
  induction depth with
  | zero => exact aside_pure _
  | succ depth ih =>
    refine hq.sentQueueHead.bind fun head => ?_
    cases head with
    | none => exact (aside_answer _).map some
    | some item =>
      refine Aside.ite ?_ (aside_pure _)
      refine (hq.txQueueEnqueue _).checked (hq.rejectAlert.map some) ?_
      exact (hq.resetRtFrame _).checked (aside_pure _) (aside_bcAcceptWith ih)

/-- The lower layer has accepted a command. -/
theorem AsideHooks.bcAccept (hq : AsideHooks h) (depth : ℕ) : Aside (osdlpBcAccept h depth) :=
  aside_bcAcceptWith (hq.lookForDirective depth)

/-! ## The handlers -/

/-- What handlers without acknowledgement are put together from. -/
theorem AsideHooks.restClosed (hq : AsideHooks h) :
    RestClosed h (Aside : FopM W Notification → Prop) where
  row _ hrows := aside_getFop.bind hrows
  ignore := aside_pure _
  na := aside_pure _
  enter state _ hnext := (aside_setState state).bind fun _ => hnext
  alert notif _ := hq.alertTo notif

/-- What the other handlers of control words are put together from. -/
theorem AsideHooks.ackClosed (hq : AsideHooks h) (clcw : ClcwFrame) :
    AckClosed h clcw (Aside : FopM W Notification → Prop) where
  toRestClosed := hq.restClosed
  remove _ hnext := hq.removeAckedThen clcw hnext
  retransmit _ hnext := hq.adRetransmissionThen hnext
  cancel _ hnext := hq.timerCancel.bind fun _ => hnext
  look state := hq.lookThenReport state

/-- An event without an acknowledgement, which ends an initialisation in INIT_NO_BC or INIT_BC. -/
theorem AsideHooks.fopE1 (hq : AsideHooks h) : Aside (fopE1 h) :=
  hq.restClosed.fopE1 (fun notif _ => aside_answer notif)
    (fun _ hnext => hq.timerCancel.bind fun _ => hnext)
    (hq.alert.bind fun _ => (aside_setState _).bind fun _ => aside_answer _)
    fun _ hnext => hq.releaseCopyOfBc.bind hnext

/-- An alert after the removal of what is acknowledged. -/
theorem AsideHooks.fopE101 (hq : AsideHooks h) (clcw : ClcwFrame) : Aside (fopE101 h clcw) := by
  refine aside_getFop.bind fun fop => ?_
  cases fop.state with
  | active | rtNoWait => exact hq.removeAckedThen clcw (hq.alertTo _)
  | rtWait => exact (hq.removeAckedFrames _).bind fun _ => hq.alertTo _
  | initNoBc | initBc | init => exact aside_pure _

/-- A control word. -/
theorem AsideHooks.handleClcw (hq : AsideHooks h) (ocf : List UInt8) :
    Aside (osdlpHandleClcw h ocf) := by
  have hstore : Aside (storeClcw ocf : FopM W ClcwFrame) := fun _ => ⟨rfl, rfl⟩
  refine hstore.bind fun clcw => aside_getFop.bind fun fop => ?_
  exact (hq.ackClosed clcw).clcwEvent (hq.alertTo _) hq.fopE1 (hq.fopE101 clcw) (aside_answer _) fop

/-- The command goes out again after an expiration. -/
theorem AsideHooks.bcRetransmission (hq : AsideHooks h) (depth : ℕ) :
    Aside (bcRetransmission h depth) :=
  hq.initiateBcRetransmission.checked ((aside_answer _).map some)
    (aside_reportFound (hq.lookForDirective depth))

/-- A suspension remembers the state in `ss`. -/
theorem aside_suspend (ss : UInt8) : Aside (suspend ss : FopM W Notification) :=
  (aside_modifyFop _).bind fun _ => (aside_setState _).bind fun _ => aside_pure _

/-- What the handlers of an expiration are put together from. -/
theorem AsideHooks.timerClosed (hq : AsideHooks h) (depth : ℕ) :
    TimerClosed h depth (Aside : FopM W (Option Notification) → Prop) where
  row _ hrows := aside_getFop.bind hrows
  none _ := aside_pure _
  undefined := (aside_answer _).map some
  alert := (hq.alertTo _).map some
  suspend ss := (aside_suspend ss).map some
  retransmit := (hq.adRetransmissionThen (hq.lookThenReport none)).map some
  retransmitBc := hq.bcRetransmission depth

/-- An expiration of the timer. -/
theorem AsideHooks.handleTimerExpired (hq : AsideHooks h) (depth : ℕ) :
    Aside (osdlpHandleTimerExpired h depth) :=
  (hq.timerClosed depth).handleTimerExpired

/-- A request to transfer a frame data unit. -/
theorem AsideHooks.reqTransferFdu (hq : AsideHooks h) : Aside (osdlpReqTransferFdu h) := by
  have h19 : Aside (fopE19 h) := by
    refine aside_getFop.bind fun fop => ?_
    cases fop.state with
    | active | rtNoWait =>
      exact hq.waitQueueEnqueue.checked (aside_answer _) (hq.lookThenReport none)
    | rtWait => exact hq.waitQueueEnqueue.checked (aside_answer _) (aside_answer _)
    | initNoBc | initBc | init => exact aside_answer _
  refine aside_get.bind fun s => ?_
  cases s.tf.primaryHdr.bypass with
  | typeA => exact hq.waitQueueEmpty.bind fun noneWaiting => Aside.ite h19 (aside_answer _)
  | typeB =>
    cases s.tf.primaryHdr.ctrlCmd with
    | data => exact hq.transmitTypeBd.checked (aside_answer _) (aside_answer _)
    | command => exact aside_answer _

/-- A directive is refused outside INIT, with a signal or without. -/
theorem aside_initiate {inInit : FopM W Notification} (hinit : Aside inInit) :
    Aside (initiate inInit) ∧ Aside (initiateSilently inInit) := by
  constructor
  all_goals refine aside_getFop.bind fun fop => ?_
  · cases fop.state with
    | active | rtNoWait | rtWait | initNoBc | initBc => exact aside_answer _
    | init => exact hinit
  · cases fop.state with
    | active | rtNoWait | rtWait | initNoBc | initBc => exact aside_pure _
    | init => exact hinit

/-- The command of a directive goes out. -/
theorem AsideHooks.startCommand (hq : AsideHooks h) : Aside (startCommand h) :=
  hq.transmitTypeBc.checked (aside_answer _)
    ((aside_setState _).bind fun _ => aside_answer _)

/-- A resumption goes back to one of four states. -/
theorem AsideHooks.resumeAd (hq : AsideHooks h) : Aside (osdlpResumeAd h) := by
  have hto : ∀ state, Aside (resumeTo h state) := by
    intro state
    refine aside_getFop.bind fun fop => ?_
    cases fop.state with
    | active | rtNoWait | rtWait | initNoBc | initBc => exact aside_pure _
    | init =>
      exact hq.resume.checked (aside_answer _) ((aside_setState _).bind fun _ => aside_answer _)
  refine aside_getFop.bind fun fop => Aside.ite (aside_pure _) ?_
  refine Aside.ite (hto _) (Aside.ite (hto _) (Aside.ite (hto _) (Aside.ite (hto _) ?_)))
  exact aside_answer _

/-! ## All operations -/

/-- One operation, with any hooks. -/
def copProgram (h : CopHooks W) (depth : ℕ) : FopOp → FopM W Unit
  | .request hdr frameData => do
    modify fun s => { s with tf := { s.tf with primaryHdr := hdr, frameData := frameData } }
    discard (osdlpReqTransferFdu h)
  | .clcw ocf => discard (osdlpHandleClcw h ocf)
  | .timerExpired => discard (osdlpHandleTimerExpired h depth)
  | .adAccept => discard (osdlpAdAccept h)
  | .adReject => discard (osdlpAdReject h)
  | .bcAccept => discard (osdlpBcAccept h depth)
  | .bcReject => discard (osdlpBcReject h)
  | .bdAccept => discard osdlpBdAccept
  | .bdReject => discard (osdlpBdReject h)
  | .initiateNoClcw => discard (osdlpInitiateNoClcw h)
  | .initiateWithClcw => discard (osdlpInitiateWithClcw h)
  | .initiateWithUnlock => discard (osdlpInitiateWithUnlock h)
  | .initiateWithSetvr newVr => discard (osdlpInitiateWithSetvr h newVr)
  | .terminateAd => discard (osdlpTerminateAd h)
  | .resumeAd => discard (osdlpResumeAd h)
  | .setNewVs newVs => discard (osdlpSetNewVs newVs)
  | .setTimer newT1 => discard (osdlpSetTimer newT1)
  | .setTxLimit newLim => discard (osdlpSetTxLimit newLim)
  | .setTt newTt => discard (osdlpSetTt newTt)

/-- With hooks that are queues this is a step of the sender. -/
theorem copProgram_fopStep (keep : List Bool) (s : Fop) (op : FopOp) :
    (copProgram (fifoHooks keep) 2 op s).2 = fopStep s (keep, op) := by
  cases op <;> rfl

/-- No operation writes the progress of a segmentation or the length of its segments.
SOURCE: osdlp_cop.c:338-3065 -/
theorem AsideHooks.copProgram (hq : AsideHooks h) (depth : ℕ) (op : FopOp) :
    Aside (copProgram h depth op) := by
  have hset : ∀ f, Aside (setParameter f : FopM W Notification) :=
    fun f => (aside_modifyFop f).bind fun _ => aside_answer _
  -- one case for each operation, from what its parts leave alone
  cases op with
  | request hdr frameData =>
    have hprepare : Aside (modify fun s : FopSt W =>
        { s with tf := { s.tf with primaryHdr := hdr, frameData := frameData } }) :=
      fun _ => ⟨rfl, rfl⟩
    exact hprepare.bind fun _ => hq.reqTransferFdu.map _
  | clcw ocf => exact (hq.handleClcw ocf).map _
  | timerExpired => exact (hq.handleTimerExpired depth).map _
  | adAccept =>
    have haccept : Aside (osdlpAdAccept h) := by
      refine aside_getFop.bind fun fop => ?_
      cases fop.state with
      | active | rtNoWait => exact hq.lookThenReport none
      | rtWait | initNoBc | initBc | init => exact aside_pure _
    exact haccept.map _
  | adReject | bcReject | bdReject => exact hq.rejectAlert.map _
  | bcAccept => exact (hq.bcAccept depth).map _
  | bdAccept => exact (aside_answer _).map _
  | initiateNoClcw =>
    have hinit : Aside _ := hq.initializeCop.checked (aside_answer .undefError)
      ((aside_setState .active).bind fun _ => aside_answer .positiveDir)
    exact (aside_initiate hinit).1.map _
  | initiateWithClcw =>
    have hinit : Aside _ := hq.initializeCop.checked (aside_answer .undefError)
      (hq.timerStart.bind fun _ =>
        (aside_setState .initNoBc).bind fun _ => aside_answer .acceptDir)
    exact (aside_initiate hinit).1.map _
  | initiateWithUnlock =>
    have hprepare : Aside (osdlpPrepareTypebUnlock : FopM W Unit) := fun _ => ⟨rfl, rfl⟩
    have hinit : Aside _ := hq.initializeCop.checked (aside_answer .undefError)
      (hprepare.bind fun _ => hq.startCommand)
    exact (aside_initiate hinit).2.map _
  | initiateWithSetvr newVr =>
    have hprepare : Aside (osdlpPrepareTypebSetvr newVr : FopM W Unit) := fun _ => ⟨rfl, rfl⟩
    have hinit : Aside _ := hq.initializeCop.checked (aside_answer .undefError)
      ((aside_modifyFop fun fop => { fop with vs := newVr, nnr := newVr }).bind fun _ =>
        hprepare.bind fun _ => hq.startCommand)
    exact (aside_initiate hinit).2.map _
  | terminateAd =>
    have hterminate : Aside (osdlpTerminateAd h) := by
      refine aside_getFop.bind fun fop => ?_
      cases fop.state with
      | active | rtNoWait | rtWait | initNoBc | initBc => exact hq.alertTo _
      | init => exact aside_answer _
    exact hterminate.map _
  | resumeAd => exact hq.resumeAd.map _
  | setNewVs newVs =>
    have hinit : Aside (do
        let fop ← getFop
        if fop.ss = 0 then
          modifyFop fun fop => { fop with vs := newVs, nnr := newVs }
          answer .positiveDir
        else
          return .rejectDir : FopM W Notification) :=
      aside_getFop.bind fun fop =>
        Aside.ite ((aside_modifyFop _).bind fun _ => aside_answer _) (aside_pure _)
    exact (aside_initiate hinit).2.map _
  | setTimer | setTxLimit | setTt => exact (hset _).map _

end Osdlp.Interface
