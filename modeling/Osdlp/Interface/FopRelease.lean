import Osdlp.Interface.FopRun
import Osdlp.Interface.HandlerRules

/-!
# How a waiting frame leaves the wait queue

An operation leaves the wait queue alone, clears it, or lets `osdlp_transmit_type_ad` take a frame
from it as the last thing that happens to the queues (`WaitOutcome`).  Up to then the frame at hand,
V(S) and the wait queue are what they were when the operation began (`Still`).
-/

set_option autoImplicit false

namespace Osdlp.Interface

open Osdlp.Model Osdlp.Library

/-- The mission parameters agree on everything but the control word and the octets of the Set V(R)
command, which are no parameters. -/
def SameParams (m m' : TcMissionParams) : Prop :=
  m' = { m with setVrCmd := m'.setVrCmd, clcw := m'.clcw }

/-- What the length and the layout of a frame are computed from. -/
theorem SameParams.fields {m m' : TcMissionParams} (h : SameParams m m') :
    m'.segHdrFlag = m.segHdrFlag ∧ m'.crcFlag = m.crcFlag ∧
      m'.fixedOverheadLen = m.fixedOverheadLen := by
  rw [h]
  exact ⟨rfl, rfl, rfl⟩

/-- The control word and the command may be written again. -/
theorem SameParams.trans {m m' m'' : TcMissionParams} (h : SameParams m m')
    (h' : SameParams m' m'') : SameParams m m'' := by
  unfold SameParams at *
  rw [h', h]

/-- Nothing that a frame is packed from has changed: the frame at hand, the framing, V(S) and the
wait queue. -/
structure Still (s₀ s : Fop) : Prop where
  primaryHdr : s.tf.primaryHdr = s₀.tf.primaryHdr
  frameData : s.tf.frameData = s₀.tf.frameData
  params : SameParams s₀.tf.mission s.tf.mission
  vs : s.tf.copCfg.vs = s₀.tf.copCfg.vs
  waitQueue : s.world.waitQueue = s₀.world.waitQueue

/-- The first waiting frame has been transmitted in state `t`, and nothing has happened to the
queues and the counters since. -/
structure ReleasedFrom (t s : Fop) : Prop where
  params : SameParams t.tf.mission s.tf.mission
  waiting : t.world.waitQueue ≠ []
  room : fopRoom t.tf.copCfg = true
  waitQueue : s.world.waitQueue = t.world.waitQueue.tail
  sentQueue : s.world.sentQueue = t.world.sentQueue ++ [newItem t]
  txQueue : s.world.txQueue = t.world.txQueue ++ [(newItem t).fdu]

/-- How an operation leaves the wait queue. -/
inductive WaitOutcome (s₀ s : Fop) : Prop
  | kept (hparams : SameParams s₀.tf.mission s.tf.mission)
      (hwait : s.world.waitQueue = s₀.world.waitQueue)
  | cleared (hparams : SameParams s₀.tf.mission s.tf.mission) (hwait : s.world.waitQueue = [])
      (hsent : ∀ item ∈ s.world.sentQueue, item.type = .typeB)
  | released (t : Fop) (hstill : Still s₀ t) (h : ReleasedFrom t s)

/-- Nothing has happened yet. -/
theorem Still.refl (s : Fop) : Still s s := ⟨rfl, rfl, rfl, rfl, rfl⟩

variable {keep : List Bool} {s₀ s : Fop}

/-- Then the wait queue is as it was. -/
theorem Still.outcome (h : Still s₀ s) : WaitOutcome s₀ s := .kept h.params h.waitQueue

/-- Nothing but the FOP variables has changed, and not V(S). -/
theorem Still.setFop (h : Still s₀ s) {fop : FopConfig} (hvs : fop.vs = s.tf.copCfg.vs) :
    Still s₀ (s.setFop fop) :=
  ⟨h.primaryHdr, h.frameData, h.params, hvs.trans h.vs, h.waitQueue⟩

/-- It is enough that the step itself leaves the five fields alone. -/
theorem Still.of_eq {s' : Fop} (h : Still s₀ s) (hhdr : s'.tf.primaryHdr = s.tf.primaryHdr)
    (hdata : s'.tf.frameData = s.tf.frameData) (hmission : s'.tf.mission = s.tf.mission)
    (hvs : s'.tf.copCfg.vs = s.tf.copCfg.vs) (hwait : s'.world.waitQueue = s.world.waitQueue) :
    Still s₀ s' := by
  refine ⟨hhdr.trans h.primaryHdr, hdata.trans h.frameData, ?_, hvs.trans h.vs,
    hwait.trans h.waitQueue⟩
  rw [hmission]
  exact h.params

/-- The FOP variables may be written after a frame has left the wait queue. -/
theorem WaitOutcome.setFop (h : WaitOutcome s₀ s) (fop : FopConfig) :
    WaitOutcome s₀ (s.setFop fop) := by
  cases h with
  | kept hparams hwait => exact .kept hparams hwait
  | cleared hparams hwait hsent => exact .cleared hparams hwait hsent
  | released t hstill h =>
    exact .released t hstill ⟨h.params, h.waiting, h.room, h.waitQueue, h.sentQueue, h.txQueue⟩

/-! ## The building blocks -/

/-- The program does not get as far as the wait queue. -/
abbrev StaysStill {α : Type} (s₀ : Fop) (m : FopM FifoWorld α) : Prop := Keeps (Still s₀) m

/-- The program ends with one of the outcomes. -/
abbrev Settles {α : Type} (s₀ : Fop) (m : FopM FifoWorld α) : Prop :=
  Hoare (Still s₀) m fun _ => WaitOutcome s₀

/-- A program that does not touch the wait queue settles it. -/
theorem settles_of_staysStill {α : Type} {m : FopM FifoWorld α} (h : StaysStill s₀ m) :
    Settles s₀ m :=
  fun s hs => (h s hs).outcome

/-- A handler may end without doing anything. -/
theorem pure_settles {α : Type} (a : α) : Settles s₀ (pure a : FopM FifoWorld α) :=
  fun _ hs => hs.outcome

/-- A handler begins with a look at the FOP variables. -/
theorem getFop_bind_settles {α : Type} {m : FopConfig → FopM FifoWorld α}
    (h : ∀ fop, Settles s₀ (m fop)) : Settles s₀ (getFop >>= m) :=
  fun s hs => h s.tf.copCfg s hs

/-- An answer is stored in `signal`. -/
theorem answer_staysStill (notif : Notification) : StaysStill s₀ (answer notif) :=
  fun _ hs => hs.setFop rfl

/-- An answer may be stored after the frame has been transmitted. -/
theorem answer_outcome (notif : Notification) :
    Keeps (WaitOutcome s₀) (answer notif : FopM FifoWorld Notification) :=
  fun _ hs => hs.setFop _

/-- The state is not V(S). -/
theorem setState_staysStill (state : FopState) : StaysStill s₀ (setState state) :=
  fun _ hs => hs.setFop rfl

/-- The state may change after the frame has been transmitted, as in E6. -/
theorem setState_outcome (state : FopState) :
    Keeps (WaitOutcome s₀) (setState state : FopM FifoWorld Unit) :=
  fun _ hs => hs.setFop _

/-- The signal may be stored after the frame has been transmitted. -/
theorem report_outcome (notif : Notification) :
    Keeps (WaitOutcome s₀) (report notif : FopM FifoWorld Notification) := by
  unfold report
  exact Keeps.ite (answer_outcome notif) fun _ hs => hs

/-- The state changes before the search. -/
theorem setState_then_settles {state : FopState} {α : Type} {m : FopM FifoWorld α}
    (h : Settles s₀ m) : Settles s₀ (setState state >>= fun _ => m) :=
  Hoare.bind (setState_staysStill state) fun _ => h

/-- An alert clears both queues. -/
theorem alertTo_settles (notif : Notification) : Settles s₀ (alertTo (fifoHooks keep) notif) := by
  intro s hs
  rw [alertTo_apply]
  refine .cleared hs.params rfl ?_
  intro item hitem
  exact absurd hitem List.not_mem_nil

/-- A frame that is sent again is taken from the sent queue as it is. -/
theorem resent_still (h : Still s₀ s) : Still s₀ (resent s) := by
  unfold resent
  split
  · exact h
  · exact h.of_eq rfl rfl rfl rfl rfl

/-- `osdlp_look_for_fdu` transmits last.
SOURCE: osdlp_cop.c:395-450, 482-514 -/
theorem osdlpLookForFdu_settles : Settles s₀ (osdlpLookForFdu (fifoHooks keep)) := by
  intro s hs
  have hr := resent_still hs
  unfold osdlpLookForFdu
  rw [bind_apply, lookForRetransmission_apply]
  show WaitOutcome s₀ (lookForWaiting (fifoHooks keep) (resent s)).2
  rw [lookForWaiting_apply]
  split_ifs with hempty hroom
  · exact hr.outcome
  · have hwait : (resent s).world.waitQueue ≠ [] := by
      intro h
      rw [h] at hempty
      exact hempty rfl
    refine .released _ hr ⟨?_, hwait, hroom, rfl, rfl, rfl⟩
    obtain ⟨crc, hpack⟩ := osdlpTcPack_snd (resent s).tf
      ((resent s).world.waitQueue.headD default).frameData.data
      ((resent s).world.waitQueue.headD default).frameData.dataLen
    show SameParams _ (packedWaiting (resent s)).2.mission
    unfold packedWaiting
    rw [hpack]
    rfl
  · exact hr.outcome.setFop _

/-- A search is followed by the state and the report at most. -/
theorem lookThenReport_settles (state : Option FopState) :
    Settles s₀ (lookThenReport (fifoHooks keep) state) := by
  unfold lookThenReport
  refine Hoare.bind osdlpLookForFdu_settles fun notif => ?_
  cases state with
  | none => exact report_outcome notif
  | some st => exact (setState_outcome st).bind fun _ => report_outcome notif

/-- Frames that are acknowledged leave the sent queue. -/
theorem acked_still (h : Still s₀ s) (n : UInt8) (left : ℕ) : Still s₀ (acked n left s) := by
  unfold acked
  split_ifs
  · exact h
  · exact h.of_eq rfl rfl rfl rfl rfl

/-- So the loop over that queue does not get as far as the wait queue, wherever it stops. -/
theorem osdlpRemoveAckedFrames_staysStill (nr : UInt8) :
    StaysStill s₀ (osdlpRemoveAckedFrames (fifoHooks keep) nr) := by
  intro s hs
  obtain ⟨code, hremove⟩ := osdlpRemoveAckedFrames_apply keep nr s
  rw [hremove]
  exact acked_still hs nr _

/-- Over queues the removal does not fail, and the handler goes on. -/
theorem removeAckedThen_settles {clcw : ClcwFrame} {next : FopM FifoWorld Notification}
    (hnext : Settles s₀ next) : Settles s₀ (removeAckedThen (fifoHooks keep) clcw next) := by
  intro s hs
  rw [removeAckedThen_acked]
  exact hnext _ (acked_still hs _ _)

/-- Marking frames on the sent queue leaves the wait queue alone. -/
theorem adRetransmissionThen_settles {next : FopM FifoWorld Notification}
    (hnext : Settles s₀ next) : Settles s₀ (adRetransmissionThen (fifoHooks keep) next) := by
  intro s hs
  have hr : Still s₀ (retransmitting keep s) := hs.of_eq rfl rfl rfl rfl rfl
  exact hnext _ hr

/-- The timer is started or cancelled on the way. -/
theorem timer_then_settles {running : Bool} {α : Type} {m : FopM FifoWorld α} (h : Settles s₀ m) :
    Settles s₀ (act (fun w => { w with timerRunning := running }) >>= fun _ => m) :=
  fun _ hs => h _ (hs.of_eq rfl rfl rfl rfl rfl)

/-! ## The handlers -/

/-- What handlers without acknowledgement are put together from. -/
theorem restClosed_settles (keep : List Bool) (s₀ : Fop) :
    RestClosed (fifoHooks keep) (Settles s₀) where
  row _ hrows := getFop_bind_settles hrows
  ignore := pure_settles _
  na := pure_settles _
  enter _ _ hnext := setState_then_settles hnext
  alert notif _ := alertTo_settles notif

/-- What the other handlers of control words are put together from. -/
theorem ackClosed_settles (keep : List Bool) (s₀ : Fop) (clcw : ClcwFrame) :
    AckClosed (fifoHooks keep) clcw (Settles s₀) where
  toRestClosed := restClosed_settles keep s₀
  remove _ hnext := removeAckedThen_settles hnext
  retransmit _ hnext := adRetransmissionThen_settles hnext
  cancel _ hnext := timer_then_settles hnext
  look state := lookThenReport_settles state

/-- No handler but this one takes the copy of a command off. -/
theorem fopE1_settles : Settles s₀ (fopE1 (fifoHooks keep)) := by
  have hrelease : StaysStill s₀ (osdlpReleaseCopyOfBc (fifoHooks keep)) := by
    intro s hs
    unfold osdlpReleaseCopyOfBc
    rw [bind_apply, sentQueueHead_apply]
    cases s.world.sentQueue.head? with
    | none => exact hs
    | some item =>
      simp only [ite_apply_state]
      split_ifs
      · exact hs.of_eq rfl rfl rfl rfl rfl
      · exact hs
  exact (restClosed_settles keep s₀).fopE1
    (fun notif _ => settles_of_staysStill (answer_staysStill notif))
    (fun _ hnext => timer_then_settles hnext) (alertTo_settles .alertSynch)
    fun _ hnext => Hoare.bind hrelease hnext

/-- An alert, after the removal of what is acknowledged. -/
theorem fopE101_settles (clcw : ClcwFrame) : Settles s₀ (fopE101 (fifoHooks keep) clcw) := by
  unfold fopE101
  refine getFop_bind_settles fun fop => ?_
  cases fop.state with
  | active | rtNoWait => exact removeAckedThen_settles (alertTo_settles _)
  | rtWait => exact Hoare.bind (osdlpRemoveAckedFrames_staysStill _) fun _ => alertTo_settles _
  | initNoBc | initBc | init => exact pure_settles _

/-- A control word.
SOURCE: osdlp_cop.c:1975-2092 -/
theorem osdlpHandleClcw_settles (ocf : List UInt8) :
    Settles s₀ (osdlpHandleClcw (fifoHooks keep) ocf) := by
  have hstored : StaysStill s₀ (storeClcw ocf) :=
    fun s hs => ⟨hs.primaryHdr, hs.frameData, hs.params.trans rfl, hs.vs, hs.waitQueue⟩
  refine Hoare.bind hstored fun clcw => getFop_bind_settles fun fop => ?_
  exact (ackClosed_settles keep s₀ clcw).clcwEvent (alertTo_settles _) fopE1_settles
    (fopE101_settles clcw) (settles_of_staysStill (answer_staysStill _)) fop

/-! ## The timer -/

/-- A report that is not the last thing to happen. -/
theorem report_staysStill (notif : Notification) :
    StaysStill s₀ (report notif : FopM FifoWorld Notification) := by
  unfold report
  exact Keeps.ite (answer_staysStill notif) fun _ hs => hs

/-- An acceptance only concerns commands. -/
theorem bcAcceptWith_staysStill {look : FopM FifoWorld (Option Notification)}
    (hlook : StaysStill s₀ look) : StaysStill s₀ (bcAcceptWith look) := by
  intro s hs
  unfold bcAcceptWith
  rw [bind_apply, getFop_apply]
  cases s.tf.copCfg.state with
  | active | rtNoWait | rtWait | initNoBc | init => exact hs
  | initBc =>
    refine Keeps.bind hlook (fun result => ?_) s hs
    cases result with
    | none => exact Keeps.pure none
    | some notif => exact fun s hs => report_staysStill notif s hs

/-- Commands lie on the sent queue, and the search goes on as long as the first one is marked. -/
theorem osdlpLookForDirective_staysStill (fuel : ℕ) :
    StaysStill s₀ (osdlpLookForDirective (fifoHooks keep) fuel) := by
  induction fuel with
  | zero => exact fun s hs => hs
  | succ fuel ih =>
    intro s hs
    unfold osdlpLookForDirective
    rw [bind_apply, sentQueueHead_apply]
    cases s.world.sentQueue.head? with
    | none => exact answer_staysStill _ s hs
    | some item =>
      simp only [ite_apply_state]
      split_ifs with hrt
      · have hagain : Still s₀ (onWorld s fun w =>
            { w with
              sentQueue := resetRt item.seqNum w.sentQueue
              txQueue := w.txQueue ++ [item.fdu] }) := hs.of_eq rfl rfl rfl rfl rfl
        exact bcAcceptWith_staysStill ih _ hagain
      · exact hs

/-- Sending a command again. -/
theorem bcRetransmission_staysStill (fuel : ℕ) :
    StaysStill s₀ (bcRetransmission (fifoHooks keep) fuel) := by
  have hinitiate : StaysStill s₀ (osdlpInitiateBcRetransmission (fifoHooks keep)) :=
    fun _ hs => hs.of_eq rfl rfl rfl rfl rfl
  unfold bcRetransmission
  refine hinitiate.bind fun ret => Keeps.ite ?_ ?_
  · exact fun s hs => answer_staysStill _ s hs
  · refine (osdlpLookForDirective_staysStill fuel).bind fun result => ?_
    cases result with
    | none => exact Keeps.pure none
    | some notif => exact fun s hs => report_staysStill notif s hs

/-- A suspension leaves the frame where it waits. -/
theorem suspend_settles (ss : UInt8) : Settles s₀ (suspend ss : FopM FifoWorld Notification) :=
  fun _ hs => hs.outcome.setFop _

/-- Only the state counts. -/
theorem map_settles {α β : Type} {f : α → β} {m : FopM FifoWorld α} (h : Settles s₀ m) :
    Settles s₀ (f <$> m) :=
  h

/-- What the handlers of an expiration are put together from. -/
theorem timerClosed_settles (keep : List Bool) (s₀ : Fop) (fuel : ℕ) :
    TimerClosed (fifoHooks keep) fuel (Settles s₀) where
  row _ hrows := getFop_bind_settles hrows
  none _ := pure_settles _
  undefined := map_settles (settles_of_staysStill (answer_staysStill _))
  alert := map_settles (alertTo_settles _)
  suspend ss := map_settles (suspend_settles ss)
  retransmit := map_settles (adRetransmissionThen_settles (lookThenReport_settles _))
  retransmitBc := settles_of_staysStill (bcRetransmission_staysStill fuel)

/-- An expiration of the timer.
SOURCE: osdlp_cop.c:1581-1816, 2094-2125 -/
theorem osdlpHandleTimerExpired_settles (fuel : ℕ) :
    Settles s₀ (osdlpHandleTimerExpired (fifoHooks keep) fuel) :=
  (timerClosed_settles keep s₀ fuel).handleTimerExpired

/-! ## Requests, responses and directives -/

/-- The sender after a request has been put on the wait queue. -/
def enqueued (s : Fop) : Fop :=
  onWorld s fun w =>
    { w with
      waitQueue := w.waitQueue ++ [s.tf]
      accepted := w.accepted ++ [s.tf.frameData.payload] }

/-- A request is put on the wait queue, which is empty, or leaves the queue and V(S) alone. -/
theorem osdlpReqTransferFdu_outcome (keep : List Bool) (s : Fop) :
    let s' := (osdlpReqTransferFdu (fifoHooks keep) s).2
    (SameParams s.tf.mission s'.tf.mission ∧ s'.world.waitQueue = s.world.waitQueue ∧
        s'.tf.copCfg.vs = s.tf.copCfg.vs) ∨
      (s.world.waitQueue = [] ∧ s.tf.primaryHdr.bypass = .typeA ∧ WaitOutcome (enqueued s) s') := by
  intro s'
  have hsame : SameParams s.tf.mission s.tf.mission := rfl
  show (SameParams s.tf.mission (osdlpReqTransferFdu (fifoHooks keep) s).2.tf.mission ∧ _) ∨ _
  unfold s' osdlpReqTransferFdu
  rw [bind_apply, get_apply]
  cases hbypass : s.tf.primaryHdr.bypass with
  | typeA =>
    simp only [bind_apply, waitQueueEmpty_apply, ite_apply_state]
    split_ifs with hempty
    · unfold fopE19
      rw [bind_apply, getFop_apply]
      cases s.tf.copCfg.state with
      | active | rtNoWait =>
        exact .inr ⟨List.isEmpty_iff.mp hempty, trivial,
          lookThenReport_settles none _ (Still.refl (enqueued s))⟩
      | rtWait =>
        exact .inr ⟨List.isEmpty_iff.mp hempty, trivial, (Still.refl (enqueued s)).outcome.setFop _⟩
      | initNoBc | initBc | init => exact .inl ⟨hsame, rfl, rfl⟩
    · exact .inl ⟨hsame, rfl, rfl⟩
  | typeB =>
    cases s.tf.primaryHdr.ctrlCmd with
    | data =>
      obtain ⟨tf, fdu, hcop, hmission, hbd⟩ := osdlpTransmitTypeBd_apply keep s
      have hsent : (fopE21 (fifoHooks keep) s).2.tf.mission = tf.mission ∧
          (fopE21 (fifoHooks keep) s).2.world.waitQueue = s.world.waitQueue ∧
          (fopE21 (fifoHooks keep) s).2.tf.copCfg.vs = tf.copCfg.vs := by
        unfold fopE21
        rw [bind_apply, hbd]
        exact ⟨rfl, rfl, rfl⟩
      refine .inl ⟨?_, hsent.2.1, ?_⟩
      · show SameParams _ (fopE21 (fifoHooks keep) s).2.tf.mission
        rw [hsent.1, hmission]
        exact hsame
      · rw [← hcop]
        exact hsent.2.2
    | command => exact .inl ⟨hsame, rfl, rfl⟩

/-- Both queues are empty. -/
theorem WaitOutcome.of_empty (hparams : SameParams s₀.tf.mission s.tf.mission)
    (hwait : s.world.waitQueue = []) (hsent : s.world.sentQueue = []) : WaitOutcome s₀ s := by
  refine .cleared hparams hwait ?_
  intro item hitem
  rw [hsent] at hitem
  exact absurd hitem List.not_mem_nil

/-- A command goes out after both queues have been cleared.
SOURCE: osdlp_cop.c:516-542 -/
theorem startCommand_outcome (s : Fop) (hparams : SameParams s₀.tf.mission s.tf.mission)
    (hwait : s.world.waitQueue = [])
    (hsent : s.world.sentQueue = []) : WaitOutcome s₀ (startCommand (fifoHooks keep) s).2 := by
  obtain ⟨tf, item, -, hmission, htype, hbc⟩ := osdlpTransmitTypeBc_apply keep s
  unfold startCommand
  rw [bind_apply, hbc]
  have hcleared : ∀ sent : Fop, sent.tf.mission = tf.mission →
      sent.world.waitQueue = s.world.waitQueue →
      sent.world.sentQueue = s.world.sentQueue ++ [item] → WaitOutcome s₀ sent := by
    intro sent htf hsame hqueue
    refine .cleared ?_ (hsame.trans hwait) ?_
    · rw [htf, hmission]
      exact hparams
    intro item' hitem'
    rw [hqueue, hsent] at hitem'
    rw [List.mem_singleton.mp hitem']
    exact htype
  exact hcleared _ rfl rfl rfl

/-- Any other operation.
SOURCE: osdlp_cop.c:1975-3065 -/
theorem fopStep_outcome (s : Fop) (keep : List Bool) {op : FopOp}
    (hop : ∀ hdr frameData, op ≠ .request hdr frameData) :
    WaitOutcome s (fopStep s (keep, op)) := by
  have hstill := Still.refl s
  have hreject : WaitOutcome s (rejectAlert (fifoHooks keep) s).2 := by
    unfold rejectAlert
    refine getFop_bind_settles (fun fop => ?_) s hstill
    cases fop.state with
    | active | rtNoWait | rtWait | initNoBc | initBc => exact alertTo_settles _
    | init =>
      intro s hs
      exact .of_empty hs.params rfl rfl
  cases op with
  | request hdr frameData => exact absurd rfl (hop hdr frameData)
  | clcw ocf => exact osdlpHandleClcw_settles ocf s hstill
  | timerExpired => exact osdlpHandleTimerExpired_settles 2 s hstill
  | adAccept =>
    refine getFop_bind_settles (fun fop => ?_) s hstill
    cases fop.state with
    | active | rtNoWait => exact lookThenReport_settles _
    | rtWait | initNoBc | initBc | init => exact pure_settles _
  | bcAccept =>
    exact (bcAcceptWith_staysStill (osdlpLookForDirective_staysStill 2) s hstill).outcome
  | adReject | bcReject | bdReject => exact hreject
  | bdAccept => exact hstill.outcome.setFop _
  | initiateNoClcw | initiateWithClcw =>
    refine getFop_bind_settles (fun fop => ?_) s hstill
    cases fop.state with
    | active | rtNoWait | rtWait | initNoBc | initBc =>
      exact settles_of_staysStill (answer_staysStill _)
    | init => exact fun s hs => .of_empty hs.params rfl rfl
  -- in the initial state both queues have been emptied before the command starts
  | initiateWithUnlock =>
    refine getFop_bind_settles (fun fop => ?_) s hstill
    cases fop.state with
    | active | rtNoWait | rtWait | initNoBc | initBc => exact pure_settles _
    | init => exact fun s hs => startCommand_outcome _ (hs.params.trans rfl) rfl rfl
  | initiateWithSetvr newVr =>
    refine getFop_bind_settles (fun fop => ?_) s hstill
    cases fop.state with
    | active | rtNoWait | rtWait | initNoBc | initBc => exact pure_settles _
    | init => exact fun s hs => startCommand_outcome _ (hs.params.trans rfl) rfl rfl
  | terminateAd =>
    refine getFop_bind_settles (fun fop => ?_) s hstill
    cases fop.state with
    | active | rtNoWait | rtWait | initNoBc | initBc => exact alertTo_settles _
    | init => exact settles_of_staysStill (answer_staysStill _)
  | resumeAd =>
    have hkept : ∀ s' : Fop, s'.tf.mission = s.tf.mission →
        s'.world.waitQueue = s.world.waitQueue → WaitOutcome s s' := by
      intro s' hmission hwait
      refine .kept ?_ hwait
      rw [hmission]
      rfl
    show WaitOutcome s (osdlpResumeAd (fifoHooks keep) s).2
    -- resuming writes the state, or answers without an effect, or stores the error
    rcases @osdlpResumeAd_cases keep s with ⟨state, -, -, hresumed⟩ | ⟨-, hsame | hundef⟩
    · rw [hresumed]
      exact hkept _ rfl rfl
    · rw [hsame]
      exact hstill.outcome
    · rw [hundef]
      exact hstill.outcome.setFop _
  | setNewVs newVs =>
    refine getFop_bind_settles (fun fop => ?_) s hstill
    cases fop.state with
    | active | rtNoWait | rtWait | initNoBc | initBc => exact pure_settles _
    | init =>
      refine getFop_bind_settles fun fop => Hoare.ite (fun _ => ?_) fun _ => pure_settles _
      exact fun s hs => (hs.outcome.setFop _).setFop _
  | setTimer newT1 => exact hstill.outcome.setFop _
  | setTxLimit newLim => exact hstill.outcome.setFop _
  | setTt newTt => exact hstill.outcome.setFop _

end Osdlp.Interface
