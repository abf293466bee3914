import Osdlp.Analysis.WindowLimit
import Osdlp.Interface.FopOutcomes

/-!
# The transmission limit

The count of transmissions goes up after a comparison with the limit, except in event E8, which
presumes that the removal of acknowledged frames has just set it back to one.  Where nothing is
removed it has not, and the limit is passed (`withinLimit_run_iff`).
-/

set_option autoImplicit false

namespace Osdlp.Analysis

open Osdlp.Model Osdlp.Interface Osdlp.Library

/-- The count is within the limit, and it has not gone round to zero. -/
structure WithinLimit (s : Fop) : Prop where
  limit : s.tf.copCfg.txCnt.toNat ≤ s.tf.copCfg.txLim.toNat
  counted : s.tf.copCfg.state ≠ .init → 1 ≤ s.tf.copCfg.txCnt.toNat

/-- What is kept whatever becomes of the count. -/
structure LimitSet (s : Fop) : Prop where
  positive : 1 ≤ s.tf.copCfg.txLim.toNat
  running : s.tf.copCfg.state ≠ .init → s.tf.copCfg.ss = 0
  suspended : s.tf.copCfg.state = .init → s.tf.copCfg.ss ≠ 0 → 1 ≤ s.tf.copCfg.txCnt.toNat

/-- The FOP variables that the count depends on. -/
structure SameCount (fop fop' : FopConfig) : Prop where
  state : fop'.state = fop.state
  txCnt : fop'.txCnt = fop.txCnt
  txLim : fop'.txLim = fop.txLim
  ss : fop'.ss = fop.ss

variable {keep : List Bool} {s s' t : Fop}

theorem WithinLimit.congr (h : WithinLimit s) (hsame : SameCount s.tf.copCfg s'.tf.copCfg) :
    WithinLimit s' := by
  refine ⟨?_, ?_⟩
  · rw [hsame.txCnt, hsame.txLim]
    exact h.limit
  · rw [hsame.state, hsame.txCnt]
    exact h.counted

theorem LimitSet.congr (h : LimitSet s) (hsame : SameCount s.tf.copCfg s'.tf.copCfg) :
    LimitSet s' := by
  refine ⟨?_, ?_, ?_⟩
  · rw [hsame.txLim]
    exact h.positive
  · rw [hsame.state, hsame.ss]
    exact h.running
  · rw [hsame.state, hsame.ss, hsame.txCnt]
    exact h.suspended

/-- Both together, in a state of the running service. -/
structure Counted (s : Fop) : Prop where
  within : WithinLimit s
  limitSet : LimitSet s

theorem Counted.congr (h : Counted s) (hsame : SameCount s.tf.copCfg s'.tf.copCfg) : Counted s' :=
  ⟨h.within.congr hsame, h.limitSet.congr hsame⟩

/-- A running service is described by the count, the limit and the suspension alone. -/
theorem counted_of_running (hstate : s.tf.copCfg.state ≠ .init) (hss : s.tf.copCfg.ss = 0)
    (hone : 1 ≤ s.tf.copCfg.txCnt.toNat)
    (hlim : s.tf.copCfg.txCnt.toNat ≤ s.tf.copCfg.txLim.toNat) : Counted s where
  within := ⟨hlim, fun _ => hone⟩
  limitSet := ⟨Nat.le_trans hone hlim, fun _ => hss, fun hinit => absurd hinit hstate⟩

theorem limitSet_of_running (hstate : s.tf.copCfg.state ≠ .init) (hss : s.tf.copCfg.ss = 0)
    (hpos : 1 ≤ s.tf.copCfg.txLim.toNat) : LimitSet s :=
  ⟨hpos, fun _ => hss, fun hinit => absurd hinit hstate⟩

/-- An alert ends a running service, and there is none to resume. -/
theorem Counted.alerted (h : Counted s) (hs : s.tf.copCfg.state ≠ .init) (notif : Notification) :
    Counted (alerted notif s) where
  within := ⟨h.within.limit, fun hne => absurd rfl hne⟩
  limitSet := ⟨h.limitSet.positive, fun hne => absurd rfl hne,
    fun _ hss => absurd (h.limitSet.running hs) hss⟩

/-- The search for a frame sets the count back if it sends the first frame. -/
theorem Counted.searched (h : Counted t) (hs : t.tf.copCfg.state ≠ .init) {state : FopState}
    (hstate : state ≠ .init) (hsearched : Searched t state s') : Counted s' := by
  have hone := h.within.counted hs
  cases hsearched with
  | kept hnone signal hfop hworld =>
    apply counted_of_running <;> rw [hfop]
    · exact hstate
    · exact h.limitSet.running hs
    · exact hone
    · exact h.within.limit
  | sent hwait hroom signal item hfop hsent hwaiting htimer =>
    apply counted_of_running <;> rw [hfop]
    · exact hstate
    · exact h.limitSet.running hs
    · show 1 ≤ (if _ then (1 : UInt8) else t.tf.copCfg.txCnt).toNat
      split_ifs
      · exact Nat.le_refl 1
      · exact hone
    · show (if _ then (1 : UInt8) else t.tf.copCfg.txCnt).toNat ≤ _
      split_ifs
      · exact h.limitSet.positive
      · exact h.within.limit

/-- A removal sets the count to 1, or leaves it. -/
theorem Counted.removal (h : Counted t) (hs : t.tf.copCfg.state ≠ .init) (clcw : ClcwFrame) :
    Counted (withoutAcked clcw t) := by
  unfold withoutAcked acked
  split_ifs
  · exact h
  · exact counted_of_running hs (h.limitSet.running hs) (Nat.le_refl 1) h.limitSet.positive

/-- Below the limit the count can go up by one. -/
theorem counted_next (h : Counted t) (hs : t.tf.copCfg.state ≠ .init)
    (hcnt : t.tf.copCfg.txCnt < t.tf.copCfg.txLim)
    (hfop : s'.tf.copCfg = nextTxCnt t.tf.copCfg) : Counted s' := by
  have hlt : t.tf.copCfg.txCnt.toNat < t.tf.copCfg.txLim.toNat := hcnt
  have hnext : (nextTxCnt t.tf.copCfg).txCnt.toNat = t.tf.copCfg.txCnt.toNat + 1 := by
    show (UInt8.ofNat ((t.tf.copCfg.txCnt.toNat + 1) % 256)).toNat = _
    have hlim := t.tf.copCfg.txLim.toNat_lt
    rw [UInt8.toNat_ofNat', Nat.mod_mod]
    omega
  apply counted_of_running <;> rw [hfop]
  · exact hs
  · exact h.limitSet.running hs
  · rw [hnext]
    omega
  · rw [hnext]
    exact hlt

/-- The service goes on in another state. -/
theorem Counted.goesOn (h : Counted t) (hs : t.tf.copCfg.state ≠ .init) {state : FopState}
    {signal : Notification} (hstate : state ≠ .init)
    (hfop : s'.tf.copCfg = { t.tf.copCfg with state := state, signal := signal }) : Counted s' := by
  apply counted_of_running <;> rw [hfop]
  · exact hstate
  · exact h.limitSet.running hs
  · exact h.within.counted hs
  · exact h.within.limit

/-! ## Event E8 -/

/-- E8 needs a limit above 1. -/
theorem clcwKind_e8 {fop : FopConfig} {clcw : ClcwFrame} (h : clcwKind fop clcw = .e8) :
    1 < fop.txLim := by
  have hguard := clcwKind_guard fop clcw
  rw [h] at hguard
  obtain ⟨⟨-, -, hlim⟩, -⟩ := hguard
  exact hlim

/-- E10 needs a count below the limit. -/
theorem clcwKind_e10 {fop : FopConfig} {clcw : ClcwFrame} (h : clcwKind fop clcw = .e10) :
    fop.txCnt < fop.txLim := by
  have hguard := clcwKind_guard fop clcw
  rw [h] at hguard
  obtain ⟨-, -, hcnt, -⟩ := hguard
  exact hcnt

/-- The first sent frame is acknowledged. -/
def removesOne (s : Fop) (nr : UInt8) : Prop :=
  ∃ item, s.world.sentQueue.head? = some item ∧ item.seqNum ≠ nr

/-- The removal sets the count back, or there is nothing to remove. -/
theorem withoutAcked_txCnt (clcw : ClcwFrame) (t : Fop) :
    (removesOne t clcw.reportValue → (withoutAcked clcw t).tf.copCfg.txCnt = 1) ∧
      (¬ removesOne t clcw.reportValue → withoutAcked clcw t = t) := by
  unfold removesOne withoutAcked acked
  cases hq : t.world.sentQueue with
  | nil =>
    refine ⟨fun h => ?_, fun _ => if_pos rfl⟩
    obtain ⟨item, hitem, -⟩ := h
    exact absurd hitem (by simp)
  | cons item items =>
    rw [dropAcked]
    by_cases hnr : item.seqNum = clcw.reportValue
    · rw [if_pos hnr, if_pos rfl]
      refine ⟨fun h => ?_, fun _ => rfl⟩
      obtain ⟨first, hfirst, hne⟩ := h
      rw [List.head?_cons, Option.some.injEq] at hfirst
      rw [← hfirst] at hne
      exact absurd hnr hne
    · have hshorter : dropAcked clcw.reportValue t.tf.copCfg.slideWnd.toNat items ≠
          item :: items := by
        intro heq
        have hlen := length_dropAcked_le clcw.reportValue t.tf.copCfg.slideWnd.toNat items
        rw [heq, List.length_cons] at hlen
        omega
      rw [if_neg hnr, if_neg hshorter]
      exact ⟨fun _ => rfl, fun h => absurd ⟨item, List.head?_cons, hnr⟩ h⟩

/-- Event E8 removes a frame, finds the count below the limit, or sends a waiting frame as the
only one. -/
def e8Counts (s : Fop) : SenderEvent → Prop
  | .op _ (.clcw ocf) =>
    clcwKind s.tf.copCfg (osdlpClcwUnpack ocf) = .e8 → isAd s.tf.copCfg.state →
      removesOne s (osdlpClcwUnpack ocf).reportValue ∨ s.tf.copCfg.txCnt < s.tf.copCfg.txLim ∨
        (s.world.sentQueue = [] ∧ s.world.waitQueue ≠ [] ∧ fopRoom s.tf.copCfg = true)
  | _ => True

/-- The retransmission that E8 initiates keeps the count within the limit in just these cases. -/
theorem withinLimit_e8 (h : Counted t) (had : isAd t.tf.copCfg.state) (clcw : ClcwFrame)
    (hlim : 1 < t.tf.copCfg.txLim)
    (hsearched : Searched (retransmitting keep (withoutAcked clcw t)) .rtNoWait s') :
    LimitSet s' ∧ (WithinLimit s' ↔
      removesOne t clcw.reportValue ∨ t.tf.copCfg.txCnt < t.tf.copCfg.txLim ∨
        (t.world.sentQueue = [] ∧ t.world.waitQueue ≠ [] ∧ fopRoom t.tf.copCfg = true)) := by
  have hs := not_isAd_init had
  have hacked := h.removal hs clcw
  have hsacked : (withoutAcked clcw t).tf.copCfg.state ≠ .init := by
    rw [withoutAcked_state]
    exact hs
  have hbelow : (withoutAcked clcw t).tf.copCfg.txCnt < (withoutAcked clcw t).tf.copCfg.txLim →
      Counted s' := by
    intro hcnt
    have hnext : Counted (retransmitting keep (withoutAcked clcw t)) :=
      counted_next hacked hsacked hcnt rfl
    exact hnext.searched hsacked (by decide) hsearched
  -- a removal sets the count to 1 before the retransmission adds 1
  by_cases hremoves : removesOne t clcw.reportValue
  · have hcounted : Counted s' := by
      apply hbelow
      rw [(withoutAcked_txCnt clcw t).1 hremoves]
      unfold withoutAcked acked
      split_ifs <;> exact hlim
    exact ⟨hcounted.limitSet, iff_of_true hcounted.within (.inl hremoves)⟩
  · have hsame := (withoutAcked_txCnt clcw t).2 hremoves
    rw [hsame] at hsearched hbelow
    have hempty : (t.world.sentQueue.map (markRt .typeA)).isEmpty = t.world.sentQueue.isEmpty :=
      List.isEmpty_map
    have hlimit := h.within.limit
    have hcnt256 := t.tf.copCfg.txCnt.toNat_lt
    have hnext : (nextTxCnt t.tf.copCfg).txCnt.toNat = (t.tf.copCfg.txCnt.toNat + 1) % 256 := by
      show (UInt8.ofNat ((t.tf.copCfg.txCnt.toNat + 1) % 256)).toNat = _
      rw [UInt8.toNat_ofNat', Nat.mod_mod]
    have hset : LimitSet s' := by
      have hrt : FopState.rtNoWait ≠ .init := by decide
      cases hsearched with
      | kept hnone signal hfop hworld =>
        apply limitSet_of_running <;> rw [hfop]
        · exact hrt
        · exact h.limitSet.running hs
        · exact h.limitSet.positive
      | sent hwait hroom signal item hfop hsent hwaiting htimer =>
        apply limitSet_of_running <;> rw [hfop]
        · exact hrt
        · exact h.limitSet.running hs
        · exact h.limitSet.positive
    refine ⟨hset, ?_⟩
    by_cases hcnt : t.tf.copCfg.txCnt < t.tf.copCfg.txLim
    · exact iff_of_true (hbelow hcnt).within (.inr (.inl hcnt))
    · have hfull : t.tf.copCfg.txLim.toNat ≤ t.tf.copCfg.txCnt.toNat := by
        rw [UInt8.lt_iff_toNat_lt] at hcnt
        omega
      -- the increment is not guarded: at the limit the count passes it, or wraps to 0
      have hpassed : s'.tf.copCfg.state = .rtNoWait → s'.tf.copCfg.txLim = t.tf.copCfg.txLim →
          s'.tf.copCfg.txCnt = (nextTxCnt t.tf.copCfg).txCnt → ¬ WithinLimit s' := by
        intro hstate hlim' hcnt' hwithin
        have hle := hwithin.limit
        have hone := hwithin.counted (by rw [hstate]; decide)
        rw [hcnt', hnext] at hle hone
        rw [hlim'] at hle
        omega
      cases hsearched with
      | kept hnone signal hfop hworld =>
        refine iff_of_false (hpassed (by rw [hfop]) (by rw [hfop]; rfl) (by rw [hfop]; rfl)) ?_
        rintro (hremoves' | hcnt' | ⟨hnil, hwait, hroom⟩)
        · exact hremoves hremoves'
        · exact hcnt hcnt'
        · rcases hnone with hnone | hnone
          · exact hwait hnone
          · exact absurd (hnone.symm.trans hroom) (by decide)
      | sent hwait hroom signal item hfop hsent hwaiting htimer =>
        -- a waiting frame that goes out with nothing else outstanding sets the count to 1
        by_cases hnil : t.world.sentQueue = []
        · refine iff_of_true ⟨?_, ?_⟩ (.inr (.inr ⟨hnil, hwait, hroom⟩)) <;> rw [hfop]
          · show (if (t.world.sentQueue.map (markRt .typeA)).isEmpty then (1 : UInt8) else _).toNat ≤ _
            rw [hnil]
            exact h.limitSet.positive
          · intro _
            show 1 ≤ (if (t.world.sentQueue.map (markRt .typeA)).isEmpty then (1 : UInt8) else _).toNat
            rw [hnil]
            exact Nat.le_refl 1
        · refine iff_of_false (hpassed (by rw [hfop]) (by rw [hfop]; rfl) ?_) ?_
          · rw [hfop]
            show (if (t.world.sentQueue.map (markRt .typeA)).isEmpty then (1 : UInt8) else _) = _
            rw [hempty, if_neg fun hisEmpty => hnil (List.isEmpty_iff.mp hisEmpty)]
            rfl
          · rintro (hremoves' | hcnt' | ⟨hnil', -⟩)
            · exact hremoves hremoves'
            · exact hcnt hcnt'
            · exact hnil hnil'

/-! ## The other operations -/

theorem sends_ne_init {state : FopState} (hs : sends state) : state ≠ .init := by
  rintro rfl
  exact absurd hs (by decide)

/-- A control word that is not event E8 in the running service. -/
theorem Counted.clcw (h : Counted t) {clcw : ClcwFrame} {kind : ClcwKind}
    (houtcome : ClcwOutcome keep clcw t kind s')
    (hkind : kind = .e8 → ¬ isAd t.tf.copCfg.state)
    (hcnt : kind = .e10 → t.tf.copCfg.txCnt < t.tf.copCfg.txLim) : Counted s' := by
  have hactive : FopState.active ≠ .init := by decide
  have hwait : FopState.rtWait ≠ .init := by decide
  have hnoWait : FopState.rtNoWait ≠ .init := by decide
  cases houtcome with
  | idle signal => exact h.congr ⟨rfl, rfl, rfl, rfl⟩
  | alert _ notif hs => exact h.alerted hs notif
  | ackAlert notif had =>
    refine (h.removal (not_isAd_init had) clcw).alerted ?_ notif
    rw [withoutAcked_state]
    exact not_isAd_init had
  | started hs => exact h.goesOn (by rw [hs]; decide) hactive rfl
  | released hs => exact h.goesOn (by rw [hs]; decide) hactive rfl
  | waits _ hkind had => exact h.goesOn (not_isAd_init had) hwait rfl
  | resumes had => exact h.goesOn (not_isAd_init had) hnoWait rfl
  | acknowledged _ had hsearched =>
    have hacked := h.removal (not_isAd_init had) clcw
    have hs : (withoutAcked clcw t).tf.copCfg.state ≠ .init := by
      rw [withoutAcked_state]
      exact not_isAd_init had
    have hoff : Counted (timerOff (withoutAcked clcw t)) := hacked.congr ⟨rfl, rfl, rfl, rfl⟩
    exact hoff.searched hs (not_isAd_init had) hsearched
  | partly _ had hsearched =>
    have hs : (withoutAcked clcw t).tf.copCfg.state ≠ .init := by
      rw [withoutAcked_state]
      exact not_isAd_init had
    exact (h.removal (not_isAd_init had) clcw).searched hs hactive hsearched
  | retransmitted _ had => exact absurd had (hkind rfl)
  | ackWaits had =>
    have hs : (withoutAcked clcw t).tf.copCfg.state ≠ .init := by
      rw [withoutAcked_state]
      exact not_isAd_init had
    exact (h.removal (not_isAd_init had) clcw).goesOn hs hwait rfl
  | retried _ had hs hsearched =>
    have hnext : Counted (retransmitting keep t) :=
      counted_next h (not_isAd_init had) (hcnt rfl) rfl
    exact hnext.searched (not_isAd_init had) hnoWait hsearched

/-- A command that goes out again is not counted by the search that sends it. -/
theorem Counted.commandResent (h : Counted t) (hresent : CommandResent t s') : Counted s' := by
  obtain ⟨signal, hfop⟩ := hresent.fop
  refine h.congr ?_
  rw [hfop]
  exact ⟨rfl, rfl, rfl, rfl⟩

/-- An expiration of the timer compares the count with the limit. -/
theorem Counted.timer (h : Counted t) (houtcome : TimerOutcome keep t s') : Counted s' := by
  cases houtcome with
  | idle signal => exact h.congr ⟨rfl, rfl, rfl, rfl⟩
  | alert notif hs => exact h.alerted hs notif
  | suspend ss hs =>
    have hne : t.tf.copCfg.state ≠ .init := by
      intro hinit
      rw [hinit] at hs
      rcases suspendedState_cases hs with had | hno
      · exact absurd had (by decide)
      · exact absurd hno (by decide)
    exact ⟨⟨h.within.limit, fun habs => absurd rfl habs⟩, h.limitSet.positive,
      fun habs => absurd rfl habs, fun _ _ => h.within.counted hne⟩
  | retried _ hs hcnt htt hsearched =>
    have hnext : Counted (retransmitting keep t) := counted_next h (sends_ne_init hs) hcnt rfl
    exact hnext.searched (sends_ne_init hs) (sends_ne_init hs) hsearched
  | command _ hs hcnt hresent =>
    have hmarked : Counted (commandMarked keep t) :=
      counted_next h (by rw [hs]; decide) hcnt rfl
    exact hmarked.commandResent hresent

/-- A request sets the count to 1 if its frame is the only one. -/
theorem Counted.request (h : Counted t) (houtcome : RequestOutcome t s') : Counted s' := by
  cases houtcome with
  | idle signal => exact h.congr ⟨rfl, rfl, rfl, rfl⟩
  | delayed => exact h.congr ⟨rfl, rfl, rfl, rfl⟩
  | searched _ hs hwait hsearched =>
    have hqueued : Counted (enqueued t) := h.congr ⟨rfl, rfl, rfl, rfl⟩
    exact hqueued.searched (sends_ne_init hs) (sends_ne_init hs) hsearched

/-- The operations that are not made of moves set the count to one or leave it alone. -/
theorem Counted.effect {op : FopOp} (h : Counted s) (heffect : FopEffect s op s')
    (hop : ∀ newLim, op ≠ .setTxLimit newLim) : Counted s' := by
  have hone : ∀ state : FopState, state ≠ .init → s'.tf.copCfg.state = state →
      s'.tf.copCfg.ss = 0 → s'.tf.copCfg.txCnt = 1 → s'.tf.copCfg.txLim = s.tf.copCfg.txLim →
      Counted s' := by
    intro state hstate hs hss hcnt hlim
    apply counted_of_running
    · rw [hs]
      exact hstate
    · exact hss
    · rw [hcnt]
      exact Nat.le_refl 1
    · rw [hcnt, hlim]
      exact h.limitSet.positive
  cases heffect with
  | none => exact h
  | fop op fop' hsame hlim => exact h.congr ⟨hsame.state, hsame.txCnt, hlim hop, hsame.ss⟩
  | alert op notif =>
    by_cases hs : s.tf.copCfg.state = .init
    · exact ⟨⟨h.within.limit, fun habs => absurd rfl habs⟩, h.limitSet.positive,
        fun habs => absurd rfl habs, fun _ => h.limitSet.suspended hs⟩
    · exact h.alerted hs notif
  | frame hdr frameData tf txQueue notif hcop =>
    refine h.congr ?_
    rw [hcop]
    exact ⟨rfl, rfl, rfl, rfl⟩
  | initiated hs => exact hone .active (by decide) rfl rfl rfl rfl
  | awaited hs => exact hone .initNoBc (by decide) rfl rfl rfl rfl
  | command op hs vs nnr hvs tf item txQueue htype hcop =>
    apply hone .initBc (by decide) <;> rw [hcop]
  | resumed state hs hss =>
    have hne : s.tf.copCfg.ss ≠ 0 := by
      intro hzero
      rw [hzero] at hss
      simp [suspendedState] at hss
    have hstate : state ≠ .init := by
      rcases suspendedState_cases hss with had | hno
      · intro hinit
        rw [hinit] at had
        exact absurd had (by decide)
      · rw [hno]
        decide
    exact counted_of_running hstate rfl (h.limitSet.suspended hs hne) h.within.limit
  | newVs newVs hs hss => exact h.congr ⟨rfl, rfl, rfl, rfl⟩

/-- The limit is not changed. -/
def limitFixed (_ : Fop) : SenderEvent → Prop
  | .op _ (.setTxLimit _) => False
  | _ => True

/-- One event keeps the count within the limit exactly under the condition on E8. -/
theorem counted_step {e : SenderEvent} (h : Counted s) (hfixed : limitFixed s e) :
    LimitSet (senderStep s e) ∧ (WithinLimit (senderStep s e) ↔ e8Counts s e) := by
  have hkept : Counted (senderStep s e) → e8Counts s e →
      LimitSet (senderStep s e) ∧ (WithinLimit (senderStep s e) ↔ e8Counts s e) :=
    fun hcounted he => ⟨hcounted.limitSet, iff_of_true hcounted.within he⟩
  cases e with
  | prepare hdr frameData => exact hkept (h.congr ⟨rfl, rfl, rfl, rfl⟩) trivial
  | setSlidingWindow newWnd => exact hkept (h.congr ⟨rfl, rfl, rfl, rfl⟩) trivial
  | op keep op =>
    cases hop : op.makesMoves with
    | false =>
      have hlim : ∀ newLim, op ≠ .setTxLimit newLim := by
        rintro newLim rfl
        exact hfixed
      refine hkept (h.effect (fopStep_effect hop) hlim) ?_
      cases op with
      | clcw ocf => simp [FopOp.makesMoves] at hop
      | _ => trivial
    | true =>
      cases op with
      | request hdr frameData =>
        have htype : hdr.bypass = .typeA := by simpa [FopOp.makesMoves] using hop
        refine hkept ?_ trivial
        have hprep : Counted (prepared hdr frameData s) := h.congr ⟨rfl, rfl, rfl, rfl⟩
        exact hprep.request (osdlpReqTransferFdu_typeA htype)
      | clcw ocf =>
        have hstored : Counted (withClcw (osdlpClcwUnpack ocf) s) := h.congr ⟨rfl, rfl, rfl, rfl⟩
        have houtcome := @osdlpHandleClcw_outcome keep ocf s
        by_cases he8 : clcwKind s.tf.copCfg (osdlpClcwUnpack ocf) = .e8 ∧ isAd s.tf.copCfg.state
        · obtain ⟨hkind, had⟩ := he8
          rw [hkind] at houtcome
          have hiff : e8Counts s (.op keep (.clcw ocf)) ↔ _ :=
            ⟨fun he => he hkind had, fun he _ _ => he⟩
          rw [hiff]
          exact withinLimit_e8 hstored had _ (clcwKind_e8 hkind) (houtcome.searched_e8 had)
        · refine hkept (hstored.clcw houtcome (fun hkind had => he8 ⟨hkind, had⟩) clcwKind_e10) ?_
          exact fun hkind had => absurd ⟨hkind, had⟩ he8
      | timerExpired =>
        exact hkept (h.timer (osdlpHandleTimerExpired_outcome 2 s)) trivial
      | adAccept =>
        refine hkept ?_ trivial
        show Counted (osdlpAdAccept (fifoHooks keep) s).2
        rcases @osdlpAdAccept_searched keep s with hsame | ⟨hs, hsearched⟩
        · rw [hsame]
          exact h
        · exact h.searched (sends_ne_init hs) (sends_ne_init hs) hsearched
      | bcAccept => exact hkept (h.commandResent (osdlpBcAccept_commandResent 2 s)) trivial
      | _ => simp [FopOp.makesMoves] at hop

/-- **The count keeps within the limit in a run exactly if event E8 never finds it there with
nothing to remove.**
SOURCE: osdlp_cop.c:561-642, 1182-1261, 1581-1816, 2094-2555 -/
theorem withinLimit_run_iff {start : Fop} (fop : FopConfig) {slideWnd t1Init : UInt16}
    {timeoutType txLim : UInt8}
    (hfop : start.tf.copCfg = osdlpPrepareFop fop slideWnd .init t1Init timeoutType txLim)
    (hlim : 1 ≤ txLim.toNat) {events : List SenderEvent}
    (hfixed : ∀ keep newLim, .op keep (.setTxLimit newLim) ∉ events) :
    (∀ n, WithinLimit (run senderStep start (events.take n))) ↔
      Guarded senderStep e8Counts start events := by
  have hstart : WithinLimit start ∧ LimitSet start := by
    refine ⟨⟨?_, ?_⟩, ?_, ?_, ?_⟩ <;> rw [hfop]
    · exact Nat.zero_le _
    · exact fun habs => absurd rfl habs
    · exact hlim
    · exact fun habs => absurd rfl habs
    · exact fun _ hss => absurd rfl hss
  have hallowed : Guarded senderStep limitFixed start events := by
    refine Guarded.of_mem (fun e hmem s => ?_) start
    cases e with
    | op keep op =>
      cases op with
      | setTxLimit newLim => exact hfixed keep newLim hmem
      | _ => trivial
    | _ => trivial
  exact forall_take_iff_guarded (P := WithinLimit) (J := LimitSet)
    (fun s e hs hset he => (counted_step ⟨hs, hset⟩ he).1)
    (fun s e hs hset he => (counted_step ⟨hs, hset⟩ he).2) hstart.1 hstart.2 hallowed

/-- Two frames are sent, and a control word that asks for the second one again acknowledges the
first. -/
theorem withinLimit_run_iff_second_again :
    let events := [.op [] .initiateNoClcw, oneOctet, oneOctet, .op [] (.clcw [0, 0, 8, 1])]
    (∀ n, WithinLimit (run senderStep freshFop (events.take n))) ↔
      Guarded senderStep e8Counts freshFop events := by
  refine withinLimit_run_iff default rfl (by decide) fun keep newLim hmem => ?_
  simp [oneOctet, octetRequest] at hmem

/-- The service has been ended with two frames outstanding and started again without a control
word. -/
def restarted : List SenderEvent :=
  [.op [] .initiateNoClcw, oneOctet, oneOctet, .op [] .terminateAd, .op [] .initiateNoClcw]

/-- The same control word three times, with nothing left to remove: the count passes the limit of
three. -/
theorem not_withinLimit_restarted :
    let again : SenderEvent := .op [] (.clcw [0, 0, 8, 1])
    let events := restarted ++ [again, again, again]
    let s := run senderStep freshFop events
    Guarded senderStep reportsWithin freshFop events ∧ s.tf.copCfg.state = .rtNoWait ∧
      s.tf.copCfg.txLim = 3 ∧ s.tf.copCfg.txCnt = 4 ∧ s.world.sentQueue = [] ∧ ¬ WithinLimit s := by
  intro again events s
  have hcnt : s.tf.copCfg.txCnt = 4 := by rfl
  have hlim : s.tf.copCfg.txLim = 3 := by rfl
  refine ⟨?_, rfl, hlim, hcnt, rfl, fun h => ?_⟩
  · refine ⟨trivial, trivial, trivial, trivial, trivial, ?_, ?_, ?_, trivial⟩
    all_goals
      show seqDist 0 1 ≤ seqDist 0 2
      decide
  · have hle := h.limit
    rw [hcnt, hlim] at hle
    exact absurd hle (by decide)

end Osdlp.Analysis
