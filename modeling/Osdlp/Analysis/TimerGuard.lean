import Osdlp.Analysis.ReportJudgement
import Osdlp.Analysis.TransmissionLimit

/-!
# The timer guards what is outstanding

While the service sends, the frames in the sent queue are to be guarded by the timer (`TimerGuards`).
An expiration in RT_WAIT is ignored, which leaves the timer stopped; an event that then ends the
wait without starting it again breaks the guard.  `timerGuards_run_iff` is the exact condition on a
run.
-/

set_option autoImplicit false

namespace Osdlp.Analysis

open Osdlp.Model Osdlp.Interface Osdlp.Library

/-- In ACTIVE and RT_NO_WAIT, the timer runs if anything is outstanding. -/
def TimerGuards (s : Fop) : Prop :=
  sends s.tf.copCfg.state → s.world.sentQueue ≠ [] → s.world.timerRunning = true

/-- The user's events with a timer that expires once: it has stopped by the time its expiration is
handled. -/
def oneShotStep (s : Fop) : SenderEvent → Fop
  | .op keep .timerExpired => fopStep (timerOff s) (keep, .timerExpired)
  | e => senderStep s e

/-- What the sent queue holds where the service does not run. -/
structure Stored (s : Fop) : Prop where
  noBc : s.tf.copCfg.state = .initNoBc → s.world.sentQueue = []
  bc : s.tf.copCfg.state = .initBc → ∃ item, s.world.sentQueue = [item] ∧ item.type = .typeB
  suspended : s.tf.copCfg.state = .init → suspendedState s.tf.copCfg.ss = some .initNoBc →
    s.world.sentQueue = []

variable {keep : List Bool} {s s' t : Fop}

/-- Nothing is asked of a service that runs. -/
theorem stored_of_ad (had : isAd s.tf.copCfg.state) : Stored s := by
  refine ⟨fun h => ?_, fun h => ?_, fun h => absurd h (not_isAd_init had)⟩
  · rw [h] at had
    exact absurd had (by decide)
  · rw [h] at had
    exact absurd had (by decide)

/-- The queue is empty. -/
theorem stored_of_nil (hq : s.world.sentQueue = []) (hbc : s.tf.copCfg.state ≠ .initBc) :
    Stored s :=
  ⟨fun _ => hq, fun h => absurd h hbc, fun _ _ => hq⟩

/-- Flags of the items do not matter. -/
theorem Stored.congr (h : Stored s) (hstate : s'.tf.copCfg.state = s.tf.copCfg.state)
    (hss : s'.tf.copCfg.ss = s.tf.copCfg.ss)
    (hq : s'.world.sentQueue.map itemCopy = s.world.sentQueue.map itemCopy) : Stored s' := by
  have hnil : s.world.sentQueue = [] → s'.world.sentQueue = [] := by
    intro hempty
    rw [hempty] at hq
    exact List.map_eq_nil_iff.mp hq
  refine ⟨?_, ?_, ?_⟩
  · rw [hstate]
    exact fun hs => hnil (h.noBc hs)
  · rw [hstate]
    intro hs
    obtain ⟨item, hitem, htype⟩ := h.bc hs
    rw [hitem, List.map_singleton] at hq
    obtain ⟨item', hitem', hcopy⟩ := List.map_eq_singleton_iff.mp hq
    refine ⟨item', hitem', ?_⟩
    have htype' : item'.type = item.type := congrArg (fun copy => copy.2.2) hcopy
    exact htype'.trans htype
  · rw [hstate, hss]
    exact fun hs hsus => hnil (h.suspended hs hsus)

/-- Nothing is asked of the timer where the service does not send. -/
theorem timerGuards_of_not_sends (hs : sends s.tf.copCfg.state = false) : TimerGuards s := by
  intro habs
  rw [hs] at habs
  exact absurd habs (by decide)

/-! ## The search for a frame -/

/-- A waiting frame would be sent. -/
def Releases (t : Fop) : Prop := t.world.waitQueue ≠ [] ∧ fopRoom t.tf.copCfg = true

/-- After a search the guard holds if the timer was running, nothing was outstanding or a frame has
been sent. -/
theorem timerGuards_searched {state : FopState} (h : Searched t state s') :
    TimerGuards s' ↔
      (sends state → t.world.timerRunning = true ∨ t.world.sentQueue = [] ∨ Releases t) := by
  cases h with
  | kept hnone signal hfop hworld =>
    have hstate : s'.tf.copCfg.state = state := by rw [hfop]
    have hnil : s'.world.sentQueue = [] ↔ t.world.sentQueue = [] := by
      rw [hworld, ← List.isEmpty_iff, ← List.isEmpty_iff, resent_isEmpty]
    have htimer : s'.world.timerRunning = t.world.timerRunning := by
      rw [hworld]
      unfold resent
      split <;> rfl
    have hreleases : ¬ Releases t := by
      rintro ⟨hwait, hroom⟩
      rcases hnone with hempty | hfull
      · exact hwait hempty
      · exact absurd (hfull.symm.trans hroom) (by decide)
    unfold TimerGuards
    rw [hstate, htimer, ne_eq, hnil]
    constructor
    · intro hguards hs
      by_cases hempty : t.world.sentQueue = []
      · exact .inr (.inl hempty)
      · exact .inl (hguards hs hempty)
    · intro hcond hs hempty
      rcases hcond hs with hrunning | hnone | hrel
      · exact hrunning
      · exact absurd hnone hempty
      · exact absurd hrel hreleases
  | sent hwait hroom signal item hfop hsent hwaiting htimer =>
    exact iff_of_true (fun _ _ => htimer) fun _ => .inr (.inr ⟨hwait, hroom⟩)

/-- A search leaves the service running. -/
theorem stored_searched {state : FopState} (h : Searched t state s') (had : isAd state) :
    Stored s' := by
  apply stored_of_ad
  cases h with
  | kept hnone signal hfop hworld =>
    rw [hfop]
    exact had
  | sent hwait hroom signal item hfop hsent hwaiting htimer =>
    rw [hfop]
    exact had

/-! ## Control words -/

/-- Everything sent is removed: no more than `slide_wnd` + 1 frames, none of them numbered N(R). -/
def AcksAll (clcw : ClcwFrame) (s : Fop) : Prop :=
  (∀ item ∈ s.world.sentQueue, item.seqNum ≠ clcw.reportValue) ∧
    s.world.sentQueue.length ≤ s.tf.copCfg.slideWnd.toNat + 1

/-- The loop stops at N(R), or when `left` is used up. -/
theorem dropAcked_eq_nil_iff (nr : UInt8) (left : ℕ) (items : List QueueItem) :
    dropAcked nr left items = [] ↔ (∀ item ∈ items, item.seqNum ≠ nr) ∧ items.length ≤ left := by
  induction items generalizing left with
  | nil => simp [dropAcked]
  | cons item items ih =>
    cases left with
    | zero => simp [dropAcked]
    | succ left =>
      unfold dropAcked
      split_ifs with hnr
      · simp [hnr]
      · rw [ih left, List.forall_mem_cons, List.length_cons]
        simp only [ne_eq, hnr, not_false_eq_true, true_and, Nat.add_le_add_iff_right]

/-- What the removal leaves in the sent queue, NN(R) unchanged or not. -/
theorem withoutAcked_sentQueue (clcw : ClcwFrame) (t : Fop) :
    (withoutAcked clcw t).world.sentQueue =
      dropAcked clcw.reportValue (t.tf.copCfg.slideWnd.toNat + 1) t.world.sentQueue := by
  unfold withoutAcked acked
  split_ifs with hsame
  · exact hsame.symm
  · rfl

/-- Nothing is left exactly if everything is acknowledged. -/
theorem withoutAcked_nil_iff (clcw : ClcwFrame) (t : Fop) :
    (withoutAcked clcw t).world.sentQueue = [] ↔ AcksAll clcw t := by
  rw [withoutAcked_sentQueue, dropAcked_eq_nil_iff]
  rfl

/-- A queue in step with the counters, and no longer than the window, is emptied by N(R) = V(S). -/
theorem acksAll_of_mirrors {clcw : ClcwFrame} (hm : Mirrors t)
    (hwnd : t.world.sentQueue.length ≤ t.tf.copCfg.slideWnd.toNat)
    (hvs : clcw.reportValue = t.tf.copCfg.vs) : AcksAll clcw t := by
  have hw := t.tf.copCfg.slideWnd.toNat_lt
  refine ⟨fun item hitem heq => ?_, by omega⟩
  have hmem : item.seqNum ∈ consecutive t.tf.copCfg.nnr t.world.sentQueue.length := by
    rw [← hm.seqNums]
    exact List.mem_map_of_mem hitem
  rw [mem_consecutive (by omega), heq, hvs, ← hm.length] at hmem
  exact absurd hmem (Nat.lt_irrefl _)

/-- The removal does not touch the timer. -/
theorem withoutAcked_timer (clcw : ClcwFrame) (t : Fop) :
    (withoutAcked clcw t).world.timerRunning = t.world.timerRunning := by
  unfold withoutAcked acked
  split_ifs <;> rfl

/-- What the events E2, E6 and E12 ask of the state before them.  E2 stops the timer, so everything
has to be acknowledged or a frame to be sent; E6 and E12 end the wait in RT_WAIT, so the timer has to
run, nothing to be left or a frame to be sent. -/
structure ClcwGuards (kind : ClcwKind) (clcw : ClcwFrame) (t : Fop) : Prop where
  e2 : kind = .e2 → sends t.tf.copCfg.state → AcksAll clcw t ∨ Releases (withoutAcked clcw t)
  e6 : kind = .e6 → t.tf.copCfg.state = .rtWait →
    t.world.timerRunning = true ∨ AcksAll clcw t ∨ Releases (withoutAcked clcw t)
  e12 : kind = .e12 → t.tf.copCfg.state = .rtWait →
    t.world.timerRunning = true ∨ t.world.sentQueue = []

/-- The other events ask for nothing. -/
theorem clcwGuards_of_ne {kind : ClcwKind} {clcw : ClcwFrame} (h2 : kind ≠ .e2) (h6 : kind ≠ .e6)
    (h12 : kind ≠ .e12) : ClcwGuards kind clcw t :=
  ⟨fun h => absurd h h2, fun h => absurd h h6, fun h => absurd h h12⟩

/-- The service sends unless it has been asked to wait. -/
theorem sends_or_rtWait {state : FopState} (had : isAd state) : sends state ∨ state = .rtWait := by
  cases state with
  | active | rtNoWait => exact .inl rfl
  | rtWait => exact .inr rfl
  | initNoBc | initBc | init => exact absurd had (by decide)

/-- A service that sends runs. -/
theorem isAd_of_sends {state : FopState} (hs : sends state) : isAd state := by
  cases state with
  | active | rtNoWait => rfl
  | rtWait | initNoBc | initBc | init => exact absurd hs (by decide)

/-- A control word keeps the guard exactly if its event finds what it asks for. -/
theorem timerGuards_clcw {kind : ClcwKind} {clcw : ClcwFrame} (hguards : TimerGuards t)
    (hstored : Stored t) (houtcome : ClcwOutcome keep clcw t kind s') :
    Stored s' ∧ (TimerGuards s' ↔ ClcwGuards kind clcw t) := by
  -- only E2, E6 and E12 can leave unacknowledged frames without a timer
  cases houtcome with
  | idle _ signal hidle =>
    refine ⟨hstored.congr rfl rfl rfl, iff_of_true hguards ⟨?_, ?_, ?_⟩⟩
    · rintro rfl hs
      exact absurd (hidle (isAd_of_sends hs)).1 (by decide)
    · rintro rfl hs
      exact absurd (hidle (by rw [hs]; rfl)).1 (by decide)
    · rintro rfl hs
      have hno := (hidle (by rw [hs]; rfl)).2 rfl
      rw [hs] at hno
      exact absurd hno (by decide)
  | alert _ notif hne halert =>
    refine ⟨stored_of_nil rfl (by decide : FopState.init ≠ .initBc),
      iff_of_true (timerGuards_of_not_sends rfl) ⟨?_, ?_, ?_⟩⟩
    · rintro rfl hs
      exact absurd (halert (isAd_of_sends hs)).1 (by decide)
    · rintro rfl hs
      exact absurd (halert (by rw [hs]; rfl)).1 (by decide)
    · rintro rfl hs
      exact absurd rfl (halert (by rw [hs]; rfl)).2
  | ackAlert notif had =>
    exact ⟨stored_of_nil rfl (by decide : FopState.init ≠ .initBc),
      iff_of_true (timerGuards_of_not_sends rfl)
        (clcwGuards_of_ne (by decide) (by decide) (by decide))⟩
  | started hs =>
    have hnil := hstored.noBc hs
    exact ⟨stored_of_ad rfl, iff_of_true (fun _ hne => absurd hnil hne)
      (clcwGuards_of_ne (by decide) (by decide) (by decide))⟩
  | released hs =>
    obtain ⟨item, hitem, htype⟩ := hstored.bc hs
    have hnil : withoutCommand t.world.sentQueue = [] := withoutCommand_singleton hitem htype
    exact ⟨stored_of_ad rfl, iff_of_true (fun _ hne => absurd hnil hne)
      (clcwGuards_of_ne (by decide) (by decide) (by decide))⟩
  | waits _ hkind had =>
    refine ⟨stored_of_ad rfl, iff_of_true (timerGuards_of_not_sends rfl) ?_⟩
    rcases hkind with rfl | rfl
    · exact clcwGuards_of_ne (by decide) (by decide) (by decide)
    · exact clcwGuards_of_ne (by decide) (by decide) (by decide)
  | resumes had =>
    refine ⟨stored_of_ad rfl, ?_⟩
    -- from RT_WAIT the service starts to send again with whatever the timer was left at
    rcases sends_or_rtWait had with hs | hs
    · refine iff_of_true (fun _ hne => hguards hs hne) ⟨fun h => absurd h (by decide),
        fun h => absurd h (by decide), fun _ hwait => ?_⟩
      rw [hwait] at hs
      exact absurd hs (by decide)
    · constructor
      · intro hguards'
        refine ⟨fun h => absurd h (by decide), fun h => absurd h (by decide), fun _ _ => ?_⟩
        by_cases hnil : t.world.sentQueue = []
        · exact .inr hnil
        · exact .inl (hguards' rfl hnil)
      · intro h _ hne
        exact (h.e12 rfl hs).resolve_right hne
  | acknowledged _ had hsearched =>
    refine ⟨stored_searched hsearched had, ?_⟩
    rw [timerGuards_searched hsearched]
    constructor
    · intro h
      refine ⟨fun _ hs => ?_, fun h => absurd h (by decide), fun h => absurd h (by decide)⟩
      -- the timer was stopped, so the guard can only come from the queue or from a new frame
      rcases h hs with hrunning | hnil | hrel
      · exact absurd hrunning Bool.false_ne_true
      · exact .inl ((withoutAcked_nil_iff clcw t).mp hnil)
      · exact .inr hrel
    · intro h hs
      rcases h.e2 rfl hs with hall | hrel
      · exact .inr (.inl ((withoutAcked_nil_iff clcw t).mpr hall))
      · exact .inr (.inr hrel)
  | partly _ had hsearched =>
    refine ⟨stored_searched hsearched rfl, ?_⟩
    rw [timerGuards_searched hsearched, withoutAcked_timer, withoutAcked_nil_iff]
    rcases sends_or_rtWait had with hs | hs
    · refine iff_of_true (fun _ => ?_) ⟨fun h => absurd h (by decide), fun _ hwait => ?_,
        fun h => absurd h (by decide)⟩
      · by_cases hnil : t.world.sentQueue = []
        · refine .inr (.inl ⟨?_, ?_⟩) <;> rw [hnil]
          · exact fun item hitem => absurd hitem List.not_mem_nil
          · exact Nat.zero_le _
        · exact .inl (hguards hs hnil)
      · rw [hwait] at hs
        exact absurd hs (by decide)
    · exact ⟨fun h => ⟨fun h2 => absurd h2 (by decide), fun _ _ => h rfl,
        fun h12 => absurd h12 (by decide)⟩, fun h _ => h.e6 rfl hs⟩
  | retransmitted _ had hsearched =>
    refine ⟨stored_searched hsearched rfl, iff_of_true ?_
      (clcwGuards_of_ne (by decide) (by decide) (by decide))⟩
    exact (timerGuards_searched hsearched).mpr fun _ => .inl rfl
  | ackWaits had =>
    exact ⟨stored_of_ad rfl, iff_of_true (timerGuards_of_not_sends rfl)
      (clcwGuards_of_ne (by decide) (by decide) (by decide))⟩
  | retried _ had hs hsearched =>
    refine ⟨stored_searched hsearched rfl, iff_of_true ?_
      (clcwGuards_of_ne (by decide) (by decide) (by decide))⟩
    exact (timerGuards_searched hsearched).mpr fun _ => .inl rfl

/-! ## The other operations -/

/-- An expiration, which stops the timer, is handled by a retransmission or ends the service, unless
the timeout type is neither 0 nor 1. -/
theorem timerGuards_expired (hstored : Stored t) (houtcome : TimerOutcome keep (timerOff t) s') :
    Stored s' ∧ (TimerGuards s' ↔ (sends t.tf.copCfg.state →
      t.tf.copCfg.tt = 0 ∨ t.tf.copCfg.tt = 1 ∨ t.world.sentQueue = [])) := by
  cases houtcome with
  | idle signal hidle =>
    refine ⟨hstored.congr rfl rfl rfl, ?_⟩
    constructor
    · intro hguards hs
      by_cases hnil : t.world.sentQueue = []
      · exact .inr (.inr hnil)
      · exact absurd (hguards hs hnil) Bool.false_ne_true
    · intro h hs hne
      obtain ⟨h0, h1⟩ := hidle hs
      rcases h hs with htt | htt | hnil
      · exact absurd htt h0
      · exact absurd htt h1
      · exact absurd hnil hne
  | alert notif hs htt =>
    exact ⟨stored_of_nil rfl (by decide : FopState.init ≠ .initBc),
      iff_of_true (timerGuards_of_not_sends rfl) fun _ => htt.elim .inl fun h1 => .inr (.inl h1)⟩
  | suspend ss hss htt =>
    refine ⟨⟨fun h => absurd h (by decide : FopState.init ≠ .initNoBc),
      fun h => absurd h (by decide : FopState.init ≠ .initBc), fun _ hsus => ?_⟩,
      iff_of_true (timerGuards_of_not_sends rfl) fun _ => htt.elim .inl fun h1 => .inr (.inl h1)⟩
    have hnoBc : some t.tf.copCfg.state = some FopState.initNoBc := hss.symm.trans hsus
    exact hstored.noBc (Option.some.inj hnoBc)
  | retried _ hs hcnt htt hsearched =>
    refine ⟨stored_searched hsearched (isAd_of_sends hs),
      iff_of_true ?_ fun _ => htt.elim .inl fun h1 => .inr (.inl h1)⟩
    exact (timerGuards_searched hsearched).mpr fun _ => .inl rfl
  | command _ hs hcnt hresent =>
    obtain ⟨signal, hfop⟩ := hresent.fop
    have hstate : s'.tf.copCfg.state = .initBc := by
      rw [hfop]
      exact hs
    have hss : s'.tf.copCfg.ss = t.tf.copCfg.ss := by
      rw [hfop]
      rfl
    have hcopies : s'.world.sentQueue.map itemCopy = t.world.sentQueue.map itemCopy :=
      hresent.sentQueue.trans (map_itemCopy_markRt _ _)
    have hsends : sends t.tf.copCfg.state = false := by
      have hs' : t.tf.copCfg.state = .initBc := hs
      rw [hs']
      rfl
    refine ⟨hstored.congr (hstate.trans hs.symm) hss hcopies, iff_of_true ?_ fun habs => ?_⟩
    · exact timerGuards_of_not_sends (by rw [hstate]; rfl)
    · rw [hsends] at habs
      exact absurd habs (by decide)

/-- A request starts the timer if its frame is sent, and else leaves the sent queue. -/
theorem timerGuards_request (hguards : TimerGuards t) (hstored : Stored t)
    (houtcome : RequestOutcome t s') : Stored s' ∧ TimerGuards s' := by
  cases houtcome with
  | idle signal => exact ⟨hstored.congr rfl rfl rfl, hguards⟩
  | delayed hs hwait => exact ⟨hstored.congr rfl rfl rfl, hguards⟩
  | searched _ hs hwait hsearched =>
    refine ⟨stored_searched hsearched (isAd_of_sends hs), (timerGuards_searched hsearched).mpr ?_⟩
    intro _
    by_cases hnil : t.world.sentQueue = []
    · exact .inr (.inl hnil)
    · exact .inl (hguards hs hnil)

/-- An acceptance by the lower layer searches as well, and starts the timer if a frame is sent. -/
theorem timerGuards_adAccept (hguards : TimerGuards t) (hstored : Stored t) :
    Stored (osdlpAdAccept (fifoHooks keep) t).2 ∧
      TimerGuards (osdlpAdAccept (fifoHooks keep) t).2 := by
  rcases @osdlpAdAccept_searched keep t with hsame | ⟨hs, hsearched⟩
  · rw [hsame]
    exact ⟨hstored, hguards⟩
  · refine ⟨stored_searched hsearched (isAd_of_sends hs), ?_⟩
    refine (timerGuards_searched hsearched).mpr fun _ => ?_
    by_cases hnil : t.world.sentQueue = []
    · exact .inr (.inl hnil)
    · exact .inl (hguards hs hnil)

/-- A command that goes out again stays alone in the sent queue. -/
theorem timerGuards_commandResent (hguards : TimerGuards t) (hstored : Stored t)
    (hresent : CommandResent t s') : Stored s' ∧ TimerGuards s' := by
  obtain ⟨signal, hfop⟩ := hresent.fop
  have hstate : s'.tf.copCfg.state = t.tf.copCfg.state := by rw [hfop]
  have hss : s'.tf.copCfg.ss = t.tf.copCfg.ss := by rw [hfop]
  refine ⟨hstored.congr hstate hss hresent.sentQueue, fun hs hne => ?_⟩
  rw [hresent.timer]
  rw [hstate] at hs
  refine hguards hs fun hnil => hne ?_
  have hcopies := hresent.sentQueue
  rw [hnil] at hcopies
  exact List.map_eq_nil_iff.mp hcopies

/-- The operations that are not made of moves start the timer or leave nothing outstanding. -/
theorem timerGuards_effect {op : FopOp} (hguards : TimerGuards s) (hstored : Stored s)
    (heffect : FopEffect s op s') : Stored s' ∧ TimerGuards s' := by
  cases heffect with
  | none => exact ⟨hstored, hguards⟩
  | fop op fop' hsame =>
    refine ⟨hstored.congr hsame.state hsame.ss rfl, fun hs hne => hguards ?_ hne⟩
    rw [← hsame.state]
    exact hs
  | alert op notif =>
    exact ⟨stored_of_nil rfl (by decide : FopState.init ≠ .initBc), timerGuards_of_not_sends rfl⟩
  | frame hdr frameData tf txQueue notif hcop =>
    have hstate : tf.copCfg.state = s.tf.copCfg.state := by rw [hcop]
    have hss : tf.copCfg.ss = s.tf.copCfg.ss := by rw [hcop]
    refine ⟨hstored.congr hstate hss rfl, fun hs hne => hguards ?_ hne⟩
    rw [← hstate]
    exact hs
  | initiated hs => exact ⟨stored_of_ad rfl, fun _ hne => absurd rfl hne⟩
  | awaited hs =>
    exact ⟨stored_of_nil rfl (by decide : FopState.initNoBc ≠ .initBc), timerGuards_of_not_sends rfl⟩
  | command op hs vs nnr hvs tf item txQueue htype hcop =>
    have hstate : tf.copCfg.state = .initBc := by rw [hcop]
    refine ⟨⟨fun h => ?_, fun _ => ⟨item, rfl, htype⟩, fun h => ?_⟩, fun habs => ?_⟩
    · exact absurd (hstate.symm.trans h) (by decide)
    · exact absurd (hstate.symm.trans h) (by decide)
    · have hsends : sends tf.copCfg.state = false := by
        rw [hstate]
        rfl
      exact absurd (hsends.symm.trans habs) (by decide)
  | resumed state hs hss =>
    refine ⟨?_, fun _ _ => rfl⟩
    rcases suspendedState_cases hss with had | rfl
    · exact stored_of_ad had
    · exact stored_of_nil (hstored.suspended hs hss) (by decide : FopState.initNoBc ≠ .initBc)
  | newVs newVs hs hss => exact ⟨hstored.congr rfl rfl rfl, hguards⟩

/-! ## Runs -/

/-- What an event asks of the state before it. -/
def keepsGuard (s : Fop) : SenderEvent → Prop
  | .op _ (.clcw ocf) =>
    ClcwGuards (clcwKind s.tf.copCfg (osdlpClcwUnpack ocf)) (osdlpClcwUnpack ocf)
      (withClcw (osdlpClcwUnpack ocf) s)
  | .op _ .timerExpired =>
    sends s.tf.copCfg.state → s.tf.copCfg.tt = 0 ∨ s.tf.copCfg.tt = 1 ∨ s.world.sentQueue = []
  | _ => True

/-- One event keeps the guard exactly under the condition on the state before it. -/
theorem timerGuards_step {e : SenderEvent} (hguards : TimerGuards s) (hstored : Stored s) :
    Stored (oneShotStep s e) ∧ (TimerGuards (oneShotStep s e) ↔ keepsGuard s e) := by
  have hkept : Stored (oneShotStep s e) ∧ TimerGuards (oneShotStep s e) → keepsGuard s e →
      Stored (oneShotStep s e) ∧ (TimerGuards (oneShotStep s e) ↔ keepsGuard s e) :=
    fun h he => ⟨h.1, iff_of_true h.2 he⟩
  cases e with
  | prepare hdr frameData => exact hkept ⟨hstored.congr rfl rfl rfl, hguards⟩ trivial
  | setSlidingWindow newWnd => exact hkept ⟨hstored.congr rfl rfl rfl, hguards⟩ trivial
  | op keep op =>
    cases hop : op.makesMoves with
    | false =>
      have heffect : FopEffect s op (oneShotStep s (.op keep op)) := by
        have hstep : FopEffect s op (fopStep s (keep, op)) := fopStep_effect hop
        cases op with
        | timerExpired => simp [FopOp.makesMoves] at hop
        | _ => exact hstep
      refine hkept (timerGuards_effect hguards hstored heffect) ?_
      cases op with
      | clcw | timerExpired => simp [FopOp.makesMoves] at hop
      | _ => trivial
    | true =>
      cases op with
      | request hdr frameData =>
        have htype : hdr.bypass = .typeA := by simpa [FopOp.makesMoves] using hop
        have hguards' : TimerGuards (prepared hdr frameData s) := hguards
        have hstored' : Stored (prepared hdr frameData s) := hstored.congr rfl rfl rfl
        exact hkept (timerGuards_request hguards' hstored' (osdlpReqTransferFdu_typeA htype)) trivial
      | clcw ocf =>
        have hguards' : TimerGuards (withClcw (osdlpClcwUnpack ocf) s) := hguards
        have hstored' : Stored (withClcw (osdlpClcwUnpack ocf) s) := hstored.congr rfl rfl rfl
        exact timerGuards_clcw hguards' hstored' (osdlpHandleClcw_outcome ocf s)
      | timerExpired =>
        exact timerGuards_expired hstored (osdlpHandleTimerExpired_outcome 2 (timerOff s))
      | adAccept => exact hkept (timerGuards_adAccept hguards hstored) trivial
      | bcAccept =>
        exact hkept (timerGuards_commandResent hguards hstored (osdlpBcAccept_commandResent 2 s))
          trivial
      | _ => simp [FopOp.makesMoves] at hop

/-- **The timer guards what is outstanding in a run exactly if** E2 never stops it with something
left, E6 and E12 never end a wait with the timer stopped and something left, and no expiration
finds an unknown timeout type.
SOURCE: osdlp_cop.c:482-514, 561-576, 663-1646 -/
theorem timerGuards_run_iff {start : Fop} (fop : FopConfig) {slideWnd t1Init : UInt16}
    {timeoutType txLim : UInt8}
    (hfop : start.tf.copCfg = osdlpPrepareFop fop slideWnd .init t1Init timeoutType txLim)
    (hsent : start.world.sentQueue = []) (events : List SenderEvent) :
    (∀ n, TimerGuards (run oneShotStep start (events.take n))) ↔
      Guarded oneShotStep keepsGuard start events := by
  have hinit : start.tf.copCfg.state = .init := by
    rw [hfop]
    rfl
  have hguards : TimerGuards start := by
    intro hs
    rw [hinit] at hs
    exact absurd hs (by decide)
  have hstored : Stored start := stored_of_nil hsent (by rw [hinit]; decide)
  exact forall_take_iff_guarded (P := TimerGuards) (J := Stored)
    (fun s e hs hst _ => (timerGuards_step hs hst).1)
    (fun s e hs hst _ => (timerGuards_step hs hst).2) hguards hstored
    (Guarded.of_forall (fun _ _ => trivial) start events)

/-- Two frames are sent and acknowledged together. -/
theorem timerGuards_run_iff_acknowledged :
    let events := [.op [] .initiateNoClcw, oneOctet, oneOctet, .op [] (.clcw (plainClcw 2))]
    (∀ n, TimerGuards (run oneShotStep freshFop (events.take n))) ↔
      Guarded oneShotStep keepsGuard freshFop events :=
  timerGuards_run_iff default rfl rfl _

/-- Two frames are sent, the receiver asks for a wait, the timer expires, and the first frame is
acknowledged: the second one is outstanding in ACTIVE, and no timer runs. -/
theorem not_timerGuards_wait_expired :
    let events := [.op [] .initiateNoClcw, oneOctet, oneOctet, .op [] (.clcw [0, 0, 24, 0]),
      .op [] .timerExpired, .op [] (.clcw (plainClcw 1))]
    let s := run oneShotStep freshFop events
    Guarded oneShotStep reportsWithin freshFop events ∧ s.tf.copCfg.state = .active ∧
      s.world.sentQueue.length = 1 ∧ s.world.timerRunning = false ∧ ¬ TimerGuards s := by
  intro events s
  have hstate : s.tf.copCfg.state = .active := by rfl
  have htimer : s.world.timerRunning = false := by rfl
  have hsent : s.world.sentQueue.length = 1 := by rfl
  refine ⟨⟨trivial, trivial, trivial, ?_, trivial, ?_, trivial⟩, hstate, hsent, htimer, fun h => ?_⟩
  · show seqDist 0 0 ≤ seqDist 0 2
    decide
  · show seqDist 0 1 ≤ seqDist 0 2
    decide
  · have hrunning := h (by rw [hstate]; rfl) (List.ne_nil_of_length_pos (by rw [hsent]; decide))
    exact absurd (htimer.symm.trans hrunning) Bool.false_ne_true

end Osdlp.Analysis
