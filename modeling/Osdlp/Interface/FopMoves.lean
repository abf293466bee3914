import Osdlp.Interface.ClcwEvents
import Osdlp.Library.SeqNum
import Mathlib.Logic.Relation

/-!
# What the sender can do

`FopMove` lists the things a handler of FOP-1 can do to the sender and its queues, each
with the guard under which the handlers do it.  The theorems of this file say that a
control word, an expiration of the timer, a request, `osdlp_ad_accept` and
`osdlp_resume_ad` only ever make such moves; an invariant of the sender is then proved one
move at a time.
-/

set_option autoImplicit false

namespace Osdlp.Interface

open Osdlp.Model Osdlp.Library
open Relation (ReflTransGen)

/-- The FOP variables agree on everything but the signal, the transmission count and the
parameters that only the timer uses. -/
structure SameCounters (fop fop' : FopConfig) : Prop where
  state : fop'.state = fop.state
  vs : fop'.vs = fop.vs
  nnr : fop'.nnr = fop.nnr
  slideWnd : fop'.slideWnd = fop.slideWnd
  ss : fop'.ss = fop.ss

/-- What an item carries, whatever its flag. -/
def itemCopy (item : QueueItem) : List UInt8 × UInt8 × TcBypass :=
  (item.fdu, item.seqNum, item.type)

/-- The state that `ss` remembers. -/
def suspendedState (ss : UInt8) : Option FopState :=
  if ss = 1 then some .active
  else if ss = 2 then some .rtNoWait
  else if ss = 3 then some .rtWait
  else if ss = 4 then some .initNoBc
  else none

/-- A state to resume is one in which the service runs, or INIT_NO_BC. -/
theorem suspendedState_cases {ss : UInt8} {state : FopState} (h : suspendedState ss = some state) :
    isAd state ∨ state = .initNoBc := by
  unfold suspendedState at h
  split_ifs at h
  · exact .inl (Option.some.inj h ▸ rfl)
  · exact .inl (Option.some.inj h ▸ rfl)
  · exact .inl (Option.some.inj h ▸ rfl)
  · exact .inr (Option.some.inj h).symm

/-- The service is suspended in one of the states in which it runs. -/
def SuspendedAd (s : Fop) : Prop :=
  ∃ state, suspendedState s.tf.copCfg.ss = some state ∧ isAd state

/-- The moves of the sender.  `nr` is the report value at hand, if there is one, and `req`
says whether there is a request. -/
inductive FopMove (keep : List Bool) (nr : Option UInt8) (req : Bool) : Fop → Fop → Prop
  | fop (s : Fop) (fop' : FopConfig) (hsame : SameCounters s.tf.copCfg fop') :
      FopMove keep nr req s (s.setFop fop')
  | timer (s : Fop) (running : Bool) :
      FopMove keep nr req s (onWorld s fun w => { w with timerRunning := running })
  | clcw (s : Fop) (clcw : ClcwFrame) : FopMove keep nr req s (withClcw clcw s)
  | adState (s : Fop) (state : FopState) (hs : isAd s.tf.copCfg.state) (hstate : isAd state) :
      FopMove keep nr req s (s.setFop { s.tf.copCfg with state := state })
  | ack (s : Fop) (n : UInt8) (hs : isAd s.tf.copCfg.state) (hn : nr = some n)
      (hrange : seqDist s.tf.copCfg.nnr n ≤ seqDist s.tf.copCfg.nnr s.tf.copCfg.vs) :
      FopMove keep nr req s (acked n (s.tf.copCfg.slideWnd.toNat + 1) s)
  | retransmit (s : Fop) (hs : isAd s.tf.copCfg.state) :
      FopMove keep nr req s (retransmitting keep s)
  | resend (s : Fop) (hs : isAd s.tf.copCfg.state) : FopMove keep nr req s (resent s)
  | send (s : Fop) (hs : isAd s.tf.copCfg.state) (hwait : s.world.waitQueue ≠ [])
      (hroom : fopRoom s.tf.copCfg) : FopMove keep nr req s (transmitted s)
  | enqueue (s : Fop) (hreq : req = true) (hs : isAd s.tf.copCfg.state)
      (hwait : s.world.waitQueue = []) :
      FopMove keep nr req s (onWorld s fun w =>
        { w with
          waitQueue := w.waitQueue ++ [s.tf]
          accepted := w.accepted ++ [s.tf.frameData.payload] })
  | alert (s : Fop) (notif : Notification) (hs : s.tf.copCfg.state ≠ .init) :
      FopMove keep nr req s (alerted notif s)
  | suspend (s : Fop) (ss : UInt8) (hs : suspendedState ss = some s.tf.copCfg.state) :
      FopMove keep nr req s (s.setFop { s.tf.copCfg with ss := ss, state := .init })
  | initiated (s : Fop) (hs : s.tf.copCfg.state = .initNoBc)
      (hvs : s.tf.copCfg.nnr = s.tf.copCfg.vs) :
      FopMove keep nr req s (s.setFop { s.tf.copCfg with state := .active })
  | released (s : Fop) (hs : s.tf.copCfg.state = .initBc)
      (hvs : s.tf.copCfg.nnr = s.tf.copCfg.vs) :
      FopMove keep nr req s ((released s).setFop { s.tf.copCfg with state := .active })
  | command (s : Fop) (hs : s.tf.copCfg.state = .initBc) (items : List QueueItem)
      (tx : List (List UInt8)) (hq : items.map itemCopy = s.world.sentQueue.map itemCopy) :
      FopMove keep nr req s (onWorld s fun w => { w with sentQueue := items, txQueue := tx })

/-- A move leaves the frame at hand alone, and of the mission parameters it changes only the
control word. -/
theorem FopMove.frame {keep : List Bool} {nr : Option UInt8} {req : Bool} {s s' : Fop}
    (h : FopMove keep nr req s s') :
    s'.tf.primaryHdr = s.tf.primaryHdr ∧ s'.tf.frameData = s.tf.frameData ∧
      s'.tf.mission = { s.tf.mission with clcw := s'.tf.mission.clcw } := by
  cases h with
  | ack n =>
    unfold acked
    split_ifs <;> exact ⟨rfl, rfl, rfl⟩
  | resend =>
    unfold resent
    split <;> exact ⟨rfl, rfl, rfl⟩
  | send =>
    obtain ⟨crc, hpack⟩ := osdlpTcPack_snd s.tf (s.world.waitQueue.headD default).frameData.data
      (s.world.waitQueue.headD default).frameData.dataLen
    unfold transmitted packedWaiting
    rw [hpack]
    exact ⟨rfl, rfl, rfl⟩
  | _ => exact ⟨rfl, rfl, rfl⟩

/-- What a run of moves from `s₀` can reach. -/
def Reaches (keep : List Bool) (nr : Option UInt8) (req : Bool) (s₀ s : Fop) : Prop :=
  ReflTransGen (FopMove keep nr req) s₀ s

/-- What a run of moves can reach with the AD service running. -/
def ReachesAd (keep : List Bool) (nr : Option UInt8) (req : Bool) (s₀ s : Fop) : Prop :=
  Reaches keep nr req s₀ s ∧ isAd s.tf.copCfg.state

variable {keep : List Bool} {nr : Option UInt8} {req : Bool} {s₀ : Fop}

/-- A move that leaves the state of the FOP alone. -/
theorem ReachesAd.step {s s' : Fop} (h : ReachesAd keep nr req s₀ s)
    (hmove : isAd s.tf.copCfg.state → FopMove keep nr req s s')
    (hs : s'.tf.copCfg.state = s.tf.copCfg.state) : ReachesAd keep nr req s₀ s' :=
  ⟨h.1.tail (hmove h.2), hs ▸ h.2⟩

/-! ## The building blocks -/

/-- Storing a signal is a move. -/
theorem answer_reaches (notif : Notification) : Keeps (Reaches keep nr req s₀) (answer notif) :=
  fun s hs => hs.tail (.fop s _ ⟨rfl, rfl, rfl, rfl, rfl⟩)

/-- An answer lets the service go on running. -/
theorem answer_reachesAd (notif : Notification) : Keeps (ReachesAd keep nr req s₀) (answer notif) :=
  fun s hs => hs.step (fun _ => .fop s _ ⟨rfl, rfl, rfl, rfl, rfl⟩) rfl

/-- The service goes on running when a report stores the signal or leaves it. -/
theorem report_reachesAd (notif : Notification) :
    Keeps (ReachesAd keep nr req s₀) (report notif) := by
  unfold report
  refine Keeps.ite (answer_reachesAd notif) ?_
  intro s hs
  exact hs

/-- A program that keeps the service running has moved. -/
theorem moved_of_keeps {α : Type} {m : FopM FifoWorld α} (hm : Keeps (ReachesAd keep nr req s₀) m) :
    Hoare (ReachesAd keep nr req s₀) m fun _ => Reaches keep nr req s₀ :=
  fun s hs => (hm s hs).1

/-- An alert is one move, from any state but INIT. -/
theorem alertTo_reaches (notif : Notification) {s : Fop} (hs : s.tf.copCfg.state ≠ .init) :
    Reaches keep nr req s (alertTo (fifoHooks keep) notif s).2 := by
  rw [alertTo_apply]
  exact .single (.alert s notif hs)

/-- The search for a frame to transmit. -/
theorem osdlpLookForFdu_reachesAd :
    Keeps (ReachesAd keep nr req s₀) (osdlpLookForFdu (fifoHooks keep)) := by
  intro s hs
  have hresent : (resent s).tf = s.tf := by
    unfold resent
    split <;> rfl
  have hr : ReachesAd keep nr req s₀ (resent s) :=
    hs.step (fun h => .resend s h) (by rw [hresent])
  unfold osdlpLookForFdu
  rw [bind_apply, lookForRetransmission_apply]
  show ReachesAd keep nr req s₀ (lookForWaiting (fifoHooks keep) (resent s)).2
  rw [lookForWaiting_apply]
  split_ifs with hempty hroom
  · exact hr
  · have hwait : (resent s).world.waitQueue ≠ [] := by
      intro h
      rw [h] at hempty
      exact hempty rfl
    have ht : ReachesAd keep nr req s₀ (transmitted (resent s)) :=
      hr.step (fun h => .send _ h hwait hroom) rfl
    exact ht.step (fun _ => .fop _ _ ⟨rfl, rfl, rfl, rfl, rfl⟩) rfl
  · exact hr.step (fun _ => .fop _ _ ⟨rfl, rfl, rfl, rfl, rfl⟩) rfl

/-- A change between the states in which the service runs. -/
theorem setState_reachesAd {state : FopState} (hstate : isAd state) :
    Keeps (ReachesAd keep nr req s₀) (setState state) :=
  fun s hs => ⟨hs.1.tail (.adState s state hs.2 hstate), hstate⟩

/-- A search after which the state may change. -/
theorem lookThenReport_reachesAd {state : Option FopState} (hstate : ∀ st ∈ state, isAd st) :
    Keeps (ReachesAd keep nr req s₀) (lookThenReport (fifoHooks keep) state) := by
  unfold lookThenReport
  refine osdlpLookForFdu_reachesAd.bind fun notif => ?_
  cases state with
  | none => exact report_reachesAd notif
  | some st => exact (setState_reachesAd (hstate st rfl)).bind fun _ => report_reachesAd notif

/-- A search after which it does not. -/
theorem lookThenReport_none_reachesAd :
    Keeps (ReachesAd keep nr req s₀) (lookThenReport (fifoHooks keep) none) :=
  lookThenReport_reachesAd (by simp)

/-- Frames are marked, and the handler goes on. -/
theorem adRetransmissionThen_reachesAd {next : FopM FifoWorld Notification}
    (hnext : Keeps (ReachesAd keep nr req s₀) next) :
    Keeps (ReachesAd keep nr req s₀) (adRetransmissionThen (fifoHooks keep) next) := by
  intro s hs
  have hr : ReachesAd keep nr req s₀ (retransmitting keep s) :=
    hs.step (fun h => .retransmit s h) rfl
  exact hnext _ hr

/-- The timer is cancelled when nothing is outstanding. -/
theorem timerCancel_reachesAd :
    Keeps (ReachesAd keep nr req s₀) (fifoHooks keep).timerCancel :=
  fun s hs => hs.step (fun _ => .timer s false) rfl

/-- The report value lies between NN(R) and V(S). -/
def InRange (fop : FopConfig) (n : UInt8) : Prop := seqDist fop.nnr n ≤ seqDist fop.nnr fop.vs

/-- The removal of acknowledged frames touches NN(R), the transmission count and the sent
queue. -/
theorem acked_frame (n : UInt8) (left : ℕ) (s : Fop) :
    (∃ nnr cnt, (acked n left s).tf.copCfg = { s.tf.copCfg with nnr := nnr, txCnt := cnt }) ∧
      ∃ items, (acked n left s).world = { s.world with sentQueue := items } := by
  unfold acked
  split_ifs
  · exact ⟨⟨s.tf.copCfg.nnr, s.tf.copCfg.txCnt, rfl⟩, s.world.sentQueue, rfl⟩
  · exact ⟨⟨n, 1, rfl⟩, _, rfl⟩

/-- The state stays as it is. -/
theorem acked_state (n : UInt8) (left : ℕ) (s : Fop) :
    (acked n left s).tf.copCfg.state = s.tf.copCfg.state := by
  unfold acked
  split_ifs <;> rfl

/-- The window width stays, which the loop reads again. -/
theorem acked_slideWnd (n : UInt8) (left : ℕ) (s : Fop) :
    (acked n left s).tf.copCfg.slideWnd = s.tf.copCfg.slideWnd := by
  unfold acked
  split_ifs <;> rfl

/-- The removal of acknowledged frames, from a state with the service running. -/
theorem removeAckedThen_reaches {clcw : ClcwFrame} {next : FopM FifoWorld Notification} {s : Fop}
    (hnext : Hoare (ReachesAd keep (some clcw.reportValue) req s) next
      fun _ => Reaches keep (some clcw.reportValue) req s)
    (hs : isAd s.tf.copCfg.state) (hrange : InRange s.tf.copCfg clcw.reportValue) :
    Reaches keep (some clcw.reportValue) req s (removeAckedThen (fifoHooks keep) clcw next s).2 := by
  have hstep : ReachesAd keep (some clcw.reportValue) req s
      (acked clcw.reportValue (s.tf.copCfg.slideWnd.toNat + 1) s) :=
    ⟨.single (.ack s _ hs rfl hrange), (acked_state _ _ s).symm ▸ hs⟩
  rw [removeAckedThen_acked]
  exact hnext _ hstep

/-! ## The handlers of a control word -/

/-- A handler that only changes the state. -/
theorem setState_reaches {state : FopState} {s : Fop} (hs : isAd s.tf.copCfg.state)
    (hstate : isAd state) : Reaches keep nr req s (setState state s).2 :=
  .single (.adState s state hs hstate)

/-- V(S) = NN(R) is what E1 is about, and it lets an initialisation end. -/
theorem fopE1_reaches {s : Fop} (hvs : s.tf.copCfg.nnr = s.tf.copCfg.vs) :
    Reaches keep nr req s (fopE1 (fifoHooks keep) s).2 := by
  unfold fopE1
  rw [bind_apply, getFop_apply]
  cases hs : s.tf.copCfg.state with
  | active => exact .refl
  | rtNoWait => exact alertTo_reaches _ (by simp [hs])
  | rtWait => exact alertTo_reaches _ (by simp [hs])
  | initNoBc =>
    have h1 : Reaches keep nr req s (s.setFop { s.tf.copCfg with state := .active }) :=
      .single (.initiated s hs hvs)
    exact answer_reaches .positiveDir _ (h1.tail (.timer _ false))
  | initBc =>
    obtain ⟨ret, hrelease⟩ := osdlpReleaseCopyOfBc_apply keep s
    simp only [bind_apply, hrelease]
    have h1 : Reaches keep nr req s ((released s).setFop { s.tf.copCfg with state := .active }) :=
      .single (.released s hs hvs)
    exact answer_reaches .positiveDir _ (h1.tail (.timer _ false))
  | init => exact .refl

/-- E2 and E6 acknowledge frames; only E2 cancels the timer. -/
theorem fopE2_reaches {s : Fop} (clcw : ClcwFrame)
    (hrange : isAd s.tf.copCfg.state → InRange s.tf.copCfg clcw.reportValue) :
    Reaches keep (some clcw.reportValue) req s (fopE2 (fifoHooks keep) clcw s).2 := by
  have had : isAd s.tf.copCfg.state → Reaches keep (some clcw.reportValue) req s
      (removeAckedThen (fifoHooks keep) clcw (do
        let _ ← (fifoHooks keep).timerCancel
        lookThenReport (fifoHooks keep) none) s).2 := by
    intro hs
    refine removeAckedThen_reaches (moved_of_keeps ?_) hs (hrange hs)
    exact timerCancel_reachesAd.bind fun _ => lookThenReport_none_reachesAd
  unfold fopE2
  rw [bind_apply, getFop_apply]
  cases hs : s.tf.copCfg.state with
  | active | rtNoWait | rtWait => exact had (by rw [hs]; rfl)
  | initNoBc | initBc | init => exact .refl

/-- E6 leaves RT_NO_WAIT before the search and RT_WAIT after it. -/
theorem fopE6_reaches {s : Fop} (clcw : ClcwFrame)
    (hrange : isAd s.tf.copCfg.state → InRange s.tf.copCfg clcw.reportValue) :
    Reaches keep (some clcw.reportValue) req s (fopE6 (fifoHooks keep) clcw s).2 := by
  unfold fopE6
  rw [bind_apply, getFop_apply]
  cases hs : s.tf.copCfg.state with
  | active =>
    refine removeAckedThen_reaches (moved_of_keeps ?_) (by rw [hs]; rfl)
      (hrange (by rw [hs]; rfl))
    exact lookThenReport_none_reachesAd
  | rtNoWait =>
    refine removeAckedThen_reaches (moved_of_keeps ?_) (by rw [hs]; rfl)
      (hrange (by rw [hs]; rfl))
    exact (setState_reachesAd rfl).bind fun _ => lookThenReport_none_reachesAd
  | rtWait =>
    refine removeAckedThen_reaches (moved_of_keeps ?_) (by rw [hs]; rfl)
      (hrange (by rw [hs]; rfl))
    exact lookThenReport_reachesAd (by simp [isAd])
  | initNoBc | initBc | init => exact .refl

/-- The service runs, so the state is not INIT. -/
theorem alertTo_of_reachesAd (notif : Notification) :
    Hoare (ReachesAd keep nr req s₀) (alertTo (fifoHooks keep) notif)
      fun _ => Reaches keep nr req s₀ := by
  intro s hs
  have hne : s.tf.copCfg.state ≠ .init := by
    intro h
    have := hs.2
    rw [h] at this
    exact absurd this (by decide)
  exact hs.1.trans (alertTo_reaches notif hne)

/-- Frames are removed, and then the service ends all the same. -/
theorem fopE101_reaches {s : Fop} (clcw : ClcwFrame)
    (hrange : isAd s.tf.copCfg.state → InRange s.tf.copCfg clcw.reportValue) :
    Reaches keep (some clcw.reportValue) req s (fopE101 (fifoHooks keep) clcw s).2 := by
  have had : isAd s.tf.copCfg.state → Reaches keep (some clcw.reportValue) req s
      (removeAckedThen (fifoHooks keep) clcw (alertTo (fifoHooks keep) .alertLimit) s).2 :=
    fun hs => removeAckedThen_reaches (alertTo_of_reachesAd _) hs (hrange hs)
  unfold fopE101
  rw [bind_apply, getFop_apply]
  cases hs : s.tf.copCfg.state with
  | active | rtNoWait => exact had (by rw [hs]; rfl)
  | rtWait =>
    -- here the source does not look at the result of the removal
    obtain ⟨code, hremove⟩ := osdlpRemoveAckedFrames_apply keep clcw.reportValue s
    have hisad : isAd s.tf.copCfg.state := by rw [hs]; rfl
    simp only [bind_apply, hremove]
    exact alertTo_of_reachesAd _ _
      ⟨.single (.ack s _ hisad rfl (hrange hisad)), (acked_state _ _ s).symm ▸ hisad⟩
  | initNoBc | initBc | init => exact .refl

/-- Frames are removed, and those that are left go out again. -/
theorem fopE8_reaches {s : Fop} (clcw : ClcwFrame)
    (hrange : isAd s.tf.copCfg.state → InRange s.tf.copCfg clcw.reportValue) :
    Reaches keep (some clcw.reportValue) req s (fopE8 (fifoHooks keep) clcw s).2 := by
  have had : ∀ state : Option FopState, (∀ st ∈ state, isAd st) → isAd s.tf.copCfg.state →
      Reaches keep (some clcw.reportValue) req s
        (removeAckedThen (fifoHooks keep) clcw (adRetransmissionThen (fifoHooks keep)
          (lookThenReport (fifoHooks keep) state)) s).2 := by
    intro state hstate hs
    refine removeAckedThen_reaches (moved_of_keeps ?_) hs (hrange hs)
    exact adRetransmissionThen_reachesAd (lookThenReport_reachesAd hstate)
  unfold fopE8
  rw [bind_apply, getFop_apply]
  cases hs : s.tf.copCfg.state with
  | active | rtWait => exact had (some .rtNoWait) (by simp [isAd]) (by rw [hs]; rfl)
  | rtNoWait => exact had none (by simp) (by rw [hs]; rfl)
  | initNoBc | initBc | init => exact .refl

/-- Frames are removed, and the receiver has asked to wait. -/
theorem fopE9_reaches {s : Fop} (clcw : ClcwFrame)
    (hrange : isAd s.tf.copCfg.state → InRange s.tf.copCfg clcw.reportValue) :
    Reaches keep (some clcw.reportValue) req s (fopE9 (fifoHooks keep) clcw s).2 := by
  have had : isAd s.tf.copCfg.state → Reaches keep (some clcw.reportValue) req s
      (removeAckedThen (fifoHooks keep) clcw (do
        setState .rtWait
        return .ignore) s).2 := by
    intro hs
    refine removeAckedThen_reaches (moved_of_keeps ?_) hs (hrange hs)
    exact (setState_reachesAd rfl).bind fun _ => Keeps.pure _
  unfold fopE9
  rw [bind_apply, getFop_apply]
  cases hs : s.tf.copCfg.state with
  | active | rtNoWait | rtWait => exact had (by rw [hs]; rfl)
  | initNoBc | initBc | init => exact .refl

/-- Nothing is acknowledged, and all outstanding frames go out again. -/
theorem fopE10_reaches {s : Fop} : Reaches keep nr req s (fopE10 (fifoHooks keep) s).2 := by
  have had : isAd s.tf.copCfg.state → Reaches keep nr req s
      (adRetransmissionThen (fifoHooks keep)
        (lookThenReport (fifoHooks keep) (some .rtNoWait)) s).2 :=
    fun hs => (adRetransmissionThen_reachesAd (lookThenReport_reachesAd (by simp [isAd])) s
      ⟨.refl, hs⟩).1
  unfold fopE10
  rw [bind_apply, getFop_apply]
  cases hs : s.tf.copCfg.state with
  | active | rtWait => exact had (by rw [hs]; rfl)
  | rtNoWait | initNoBc | initBc | init => exact .refl

/-- The handlers that leave the queues to an alert. -/
theorem restHandler_reaches {kind : ClcwKind} (hkind : kind.rests = true) (clcw : ClcwFrame)
    {s : Fop} : Reaches keep nr req s (kind.handler (fifoHooks keep) clcw s).2 := by
  have houtcome := @restHandler_outcome keep kind hkind clcw s
  generalize kind.handler (fifoHooks keep) clcw s = r at houtcome
  cases houtcome with
  | unchanged => exact .refl
  | alert notif _ hs => exact .single (.alert s notif hs)
  | enters state had hstate =>
    refine @setState_reaches _ _ _ state s had ?_
    rcases hstate with ⟨-, rfl⟩ | ⟨-, rfl⟩ <;> rfl

/-- A control word whose report value is in range, or that finds the service at rest, only
makes moves. -/
theorem osdlpHandleClcw_reaches {s : Fop} (ocf : List UInt8)
    (hrange : isAd s.tf.copCfg.state → InRange s.tf.copCfg (osdlpClcwUnpack ocf).reportValue) :
    Reaches keep (some (osdlpClcwUnpack ocf).reportValue) req s
      (osdlpHandleClcw (fifoHooks keep) ocf s).2 := by
  have hstored : Reaches keep (some (osdlpClcwUnpack ocf).reportValue) req s
      (withClcw (osdlpClcwUnpack ocf) s) := .single (.clcw s _)
  have hguard := clcwKind_guard s.tf.copCfg (osdlpClcwUnpack ocf)
  rw [osdlpHandleClcw_handler]
  refine hstored.trans ?_
  cases hkind : clcwKind s.tf.copCfg (osdlpClcwUnpack ocf) with
  | e1 =>
    rw [hkind] at hguard
    obtain ⟨⟨-, hvs⟩, -, hnnr⟩ := hguard
    exact fopE1_reaches (hnnr.symm.trans hvs.symm)
  | e2 => exact fopE2_reaches _ hrange
  | e6 => exact fopE6_reaches _ hrange
  | e8 => exact fopE8_reaches _ hrange
  | e9 => exact fopE9_reaches _ hrange
  | e101 => exact fopE101_reaches _ hrange
  | e10 => exact fopE10_reaches
  | undefined => exact answer_reaches _ _ .refl
  | e3 | e4 | e5 | e7 | e11 | e12 | e13 | e14 | e102 | e103 => exact restHandler_reaches rfl _

/-! ## Expirations of the timer -/

/-- A mark is a flag. -/
@[simp] theorem itemCopy_markRt (type : TcBypass) (item : QueueItem) :
    itemCopy (markRt type item) = itemCopy item := by
  unfold markRt
  split_ifs <;> rfl

/-- So marked items carry what they carried. -/
@[simp] theorem map_itemCopy_markRt (type : TcBypass) (items : List QueueItem) :
    (items.map (markRt type)).map itemCopy = items.map itemCopy := by
  simp

/-- Taking a flag down changes no item otherwise. -/
@[simp] theorem map_itemCopy_resetRt (seqNum : UInt8) (items : List QueueItem) :
    (resetRt seqNum items).map itemCopy = items.map itemCopy := by
  induction items with
  | nil => rfl
  | cons item items ih =>
    unfold resetRt
    split_ifs
    · rfl
    · rw [List.map_cons, List.map_cons, ih]

/-- What a run of moves can reach with a command outstanding. -/
def ReachesBc (keep : List Bool) (nr : Option UInt8) (req : Bool) (s₀ s : Fop) : Prop :=
  Reaches keep nr req s₀ s ∧ s.tf.copCfg.state = .initBc

/-- A report while a command is outstanding. -/
theorem report_reachesBc (notif : Notification) :
    Keeps (ReachesBc keep nr req s₀) (report notif) := by
  unfold report
  refine Keeps.ite ?_ ?_
  · intro s hs
    exact ⟨answer_reaches notif s hs.1, hs.2⟩
  · intro s hs
    exact hs

/-- The report of a search that may have been given up. -/
theorem reportResult_reachesBc (result : Option Notification) :
    Keeps (ReachesBc keep nr req s₀) (match result with
      | none => pure none
      | some notif => some <$> report notif : FopM FifoWorld (Option Notification)) := by
  cases result with
  | none => exact Keeps.pure none
  | some notif => exact report_reachesBc notif

/-- Looking for a directive, to whatever depth, only makes moves. -/
theorem osdlpLookForDirective_reachesBc (fuel : ℕ) :
    Keeps (ReachesBc keep nr req s₀) (osdlpLookForDirective (fifoHooks keep) fuel) := by
  induction fuel with
  | zero => exact fun s hs => hs
  | succ fuel ih =>
    intro s hs
    unfold osdlpLookForDirective
    rw [bind_apply, sentQueueHead_apply]
    cases hq : s.world.sentQueue with
    | nil => exact ⟨answer_reaches .undefError s hs.1, hs.2⟩
    | cons item items =>
      simp only [List.head?_cons, ite_apply_state]
      split_ifs with hrt
      · -- the command goes out, its flag is taken down, and the source looks again
        have hagain : ReachesBc keep nr req s₀ (onWorld s fun w =>
            { w with
              sentQueue := resetRt item.seqNum w.sentQueue
              txQueue := w.txQueue ++ [item.fdu] }) :=
          ⟨hs.1.tail (.command s hs.2 _ _ (map_itemCopy_resetRt _ _)), hs.2⟩
        have hlook := (ih.bind reportResult_reachesBc) _ hagain
        show ReachesBc keep nr req s₀ (bcAcceptWith (osdlpLookForDirective (fifoHooks keep) fuel)
          (onWorld s fun w =>
            { w with
              sentQueue := resetRt item.seqNum w.sentQueue
              txQueue := w.txQueue ++ [item.fdu] })).2
        unfold bcAcceptWith
        rw [bind_apply, getFop_apply]
        simp only [onWorld_tf, hs.2]
        exact hlook
      · exact hs

/-- A command is marked and found at the head of the sent queue. -/
theorem bcRetransmission_reaches (fuel : ℕ) {s : Fop} (hs : s.tf.copCfg.state = .initBc) :
    Reaches keep nr req s (bcRetransmission (fifoHooks keep) fuel s).2 := by
  have h1 : Reaches keep nr req s (onWorld s fun w =>
      { w with
        sentQueue := w.sentQueue.map (markRt .typeB)
        txQueue := survivors keep w.txQueue }) :=
    .single (.command s hs _ _ (map_itemCopy_markRt _ _))
  have h2 := (h1.tail (.fop _ (nextTxCnt s.tf.copCfg) ⟨rfl, rfl, rfl, rfl, rfl⟩)).tail
    (.timer _ true)
  exact ((osdlpLookForDirective_reachesBc fuel).bind reportResult_reachesBc _ ⟨h2, hs⟩).1

/-- An expiration below the limit, with `tt = 0`. -/
theorem fopE16_reaches (fuel : ℕ) {s : Fop} :
    Reaches keep nr req s (fopE16 (fifoHooks keep) fuel s).2 := by
  unfold fopE16
  rw [bind_apply, getFop_apply]
  cases hs : s.tf.copCfg.state with
  | active | rtNoWait =>
    exact (adRetransmissionThen_reachesAd (lookThenReport_none_reachesAd) s
      ⟨.refl, by rw [hs]; rfl⟩).1
  | initNoBc => exact alertTo_reaches _ (by simp [hs])
  | initBc => exact bcRetransmission_reaches fuel hs
  | rtWait | init => exact .refl

/-- The service is suspended in the state that `ss` remembers. -/
theorem suspend_reaches {ss : UInt8} {s : Fop}
    (hs : suspendedState ss = some s.tf.copCfg.state) : Reaches keep nr req s (suspend ss s).2 :=
  .single (.suspend s ss hs)

/-- The same with `tt = 1`; only INIT_NO_BC is handled in another way. -/
theorem fopE104_reaches (fuel : ℕ) {s : Fop} :
    Reaches keep nr req s (fopE104 (fifoHooks keep) fuel s).2 := by
  unfold fopE104
  rw [bind_apply, getFop_apply]
  cases hs : s.tf.copCfg.state with
  | active | rtNoWait =>
    exact (adRetransmissionThen_reachesAd (lookThenReport_none_reachesAd) s
      ⟨.refl, by rw [hs]; rfl⟩).1
  | initNoBc => exact suspend_reaches (by rw [hs]; rfl)
  | initBc => exact bcRetransmission_reaches fuel hs
  | rtWait | init => exact .refl

/-- The limit is reached with `tt = 0`: an alert in all states but INIT. -/
theorem fopE17_reaches {s : Fop} : Reaches keep nr req s (fopE17 (fifoHooks keep) s).2 := by
  unfold fopE17
  rw [bind_apply, getFop_apply]
  cases hs : s.tf.copCfg.state with
  | active | rtNoWait | rtWait | initNoBc | initBc => exact alertTo_reaches _ (by simp [hs])
  | init => exact .refl

/-- The limit is reached with `tt = 1`: a suspension where there is something to resume. -/
theorem fopE18_reaches {s : Fop} : Reaches keep nr req s (fopE18 (fifoHooks keep) s).2 := by
  unfold fopE18
  rw [bind_apply, getFop_apply]
  cases hs : s.tf.copCfg.state with
  | active | rtNoWait | rtWait | initNoBc => exact suspend_reaches (by rw [hs]; rfl)
  | initBc => exact alertTo_reaches _ (by simp [hs])
  | init => exact .refl

/-- An expiration of the timer only makes moves. -/
theorem osdlpHandleTimerExpired_reaches (fuel : ℕ) {s : Fop} :
    Reaches keep nr req s (osdlpHandleTimerExpired (fifoHooks keep) fuel s).2 := by
  unfold osdlpHandleTimerExpired
  rw [bind_apply, getFop_apply]
  simp only [ite_apply_state, map_apply]
  split_ifs
  · exact fopE16_reaches fuel
  · exact fopE104_reaches fuel
  · exact answer_reaches _ _ .refl
  · exact fopE17_reaches
  · exact fopE18_reaches
  · exact answer_reaches _ _ .refl

/-! ## Requests, acceptance by the lower layer, resumption -/

/-- A request of type A only makes moves. -/
theorem osdlpReqTransferFdu_reaches {s : Fop} (htype : s.tf.primaryHdr.bypass = .typeA) :
    Reaches keep nr true s (osdlpReqTransferFdu (fifoHooks keep) s).2 := by
  unfold osdlpReqTransferFdu
  rw [bind_apply, get_apply]
  simp only [htype, bind_apply, waitQueueEmpty_apply, ite_apply_state]
  split_ifs with hempty
  · have hwait : s.world.waitQueue = [] := List.isEmpty_iff.mp hempty
    have henq : isAd s.tf.copCfg.state → Reaches keep nr true s
        ((fifoHooks keep).waitQueueEnqueue s).2 :=
      fun hs => .single (.enqueue s rfl hs hwait)
    unfold fopE19
    rw [bind_apply, getFop_apply]
    cases hs : s.tf.copCfg.state with
    | active | rtNoWait =>
      have hisad : isAd s.tf.copCfg.state := by rw [hs]; rfl
      exact (lookThenReport_none_reachesAd _ ⟨henq hisad, hisad⟩).1
    | rtWait => exact answer_reaches .delayResp _ (henq (by rw [hs]; rfl))
    | initNoBc | initBc | init => exact answer_reaches .rejectTx _ .refl
  · exact answer_reaches .rejectTx _ .refl

/-- The acceptance of a type-A frame by the lower layer only makes moves. -/
theorem osdlpAdAccept_reaches {s : Fop} :
    Reaches keep nr req s (osdlpAdAccept (fifoHooks keep) s).2 := by
  unfold osdlpAdAccept
  rw [bind_apply, getFop_apply]
  cases hs : s.tf.copCfg.state with
  | active | rtNoWait =>
    exact (lookThenReport_none_reachesAd s ⟨.refl, by rw [hs]; rfl⟩).1
  | rtWait | initNoBc | initBc | init => exact .refl

/-- The acceptance of a type-B command frame by the lower layer only makes moves. -/
theorem osdlpBcAccept_reaches (fuel : ℕ) {s : Fop} :
    Reaches keep nr req s (osdlpBcAccept (fifoHooks keep) fuel s).2 := by
  unfold osdlpBcAccept bcAcceptWith
  rw [bind_apply, getFop_apply]
  cases hs : s.tf.copCfg.state with
  | initBc =>
    exact ((osdlpLookForDirective_reachesBc fuel).bind reportResult_reachesBc s ⟨.refl, hs⟩).1
  | active | rtNoWait | rtWait | initNoBc | init => exact .refl

/-- The sender after a resumption. -/
def resumed (state : FopState) (s : Fop) : Fop :=
  (onWorld s fun w => { w with timerRunning := true }).setFop
    { s.tf.copCfg with ss := 0, state := state, signal := .positiveDir }

/-- Only a FOP in INIT is resumed. -/
theorem resumeTo_apply (state : FopState) (s : Fop) :
    (resumeTo (fifoHooks keep) state s).2 =
      if s.tf.copCfg.state = .init then resumed state s else s := by
  unfold resumeTo
  rw [bind_apply, getFop_apply]
  cases hs : s.tf.copCfg.state with
  | active | rtNoWait | rtWait | initNoBc | initBc => rfl
  | init => rfl

/-- `osdlp_resume_ad` resumes a suspended service and otherwise changes at most the signal. -/
theorem osdlpResumeAd_cases (s : Fop) :
    (∃ state, s.tf.copCfg.state = .init ∧ suspendedState s.tf.copCfg.ss = some state ∧
      (osdlpResumeAd (fifoHooks keep) s).2 = resumed state s) ∨
    ((s.tf.copCfg.state = .init → suspendedState s.tf.copCfg.ss = none) ∧
      ((osdlpResumeAd (fifoHooks keep) s).2 = s ∨
        (osdlpResumeAd (fifoHooks keep) s).2 = signalled .undefError s)) := by
  have hto : ∀ state, suspendedState s.tf.copCfg.ss = some state →
      (osdlpResumeAd (fifoHooks keep) s).2 = (resumeTo (fifoHooks keep) state s).2 →
      (∃ state, s.tf.copCfg.state = .init ∧ suspendedState s.tf.copCfg.ss = some state ∧
        (osdlpResumeAd (fifoHooks keep) s).2 = resumed state s) ∨
      ((s.tf.copCfg.state = .init → suspendedState s.tf.copCfg.ss = none) ∧
        ((osdlpResumeAd (fifoHooks keep) s).2 = s ∨
          (osdlpResumeAd (fifoHooks keep) s).2 = signalled .undefError s)) := by
    intro state hss heq
    rw [resumeTo_apply] at heq
    by_cases hinit : s.tf.copCfg.state = .init
    · exact .inl ⟨state, hinit, hss, by rw [heq, if_pos hinit]⟩
    · exact .inr ⟨fun h => absurd h hinit, .inl (by rw [heq, if_neg hinit])⟩
  have happly : osdlpResumeAd (fifoHooks keep) s =
      if s.tf.copCfg.ss = 0 then (.rejectDir, s)
      else if s.tf.copCfg.ss = 1 then resumeTo (fifoHooks keep) .active s
      else if s.tf.copCfg.ss = 2 then resumeTo (fifoHooks keep) .rtNoWait s
      else if s.tf.copCfg.ss = 3 then resumeTo (fifoHooks keep) .rtWait s
      else if s.tf.copCfg.ss = 4 then resumeTo (fifoHooks keep) .initNoBc s
      else answer .undefError s := by
    unfold osdlpResumeAd
    rw [bind_apply, getFop_apply]
    simp only [ite_apply_state]
    rfl
  split_ifs at happly with h0 h1 h2 h3 h4
  · exact .inr ⟨fun _ => by rw [h0]; rfl, .inl (by rw [happly])⟩
  · exact hto .active (by rw [h1]; rfl) (by rw [happly])
  · exact hto .rtNoWait (by rw [h2]; rfl) (by rw [happly])
  · exact hto .rtWait (by rw [h3]; rfl) (by rw [happly])
  · exact hto .initNoBc (by rw [h4]; rfl) (by rw [happly])
  · refine .inr ⟨fun _ => ?_, .inr (by rw [happly]; rfl)⟩
    unfold suspendedState
    rw [if_neg h1, if_neg h2, if_neg h3, if_neg h4]

end Osdlp.Interface
