import Osdlp.Analysis.ReportJudgement
import Osdlp.Interface.FopOutcomes

/-!
# A repeated control word

A control word that acknowledges some of the outstanding frames, and whose flags are down, is
event E2 or E6; handled again, it is E1 or E5.  Those two ignore it in ACTIVE, so it is harmless if
the first handling leaves the FOP there and V(S) has not gone round behind N(R)
(`repetitionHarmless_iff`).
-/

set_option autoImplicit false

namespace Osdlp.Analysis

open Osdlp.Model Osdlp.Interface Osdlp.Library

/-- The flags of the control word are down. -/
structure PlainAck (clcw : ClcwFrame) : Prop where
  lockout : clcw.lockout = false
  wait : clcw.wait = false
  rt : clcw.rt = false

/-- The sender after the control word has been handled a number of times. -/
def handledAgain (ocf : List UInt8) (s : Fop) (keeps : List (List Bool)) : Fop :=
  run fopStep s (keeps.map fun keep => (keep, .clcw ocf))

/-- The control word leaves the FOP in ACTIVE with its report value as NN(R), and further copies
of it raise no alert, remove nothing and leave the FOP there. -/
structure RepetitionHarmless (ocf : List UInt8) (s : Fop) : Prop where
  state : ∀ keep, (fopStep s (keep, .clcw ocf)).tf.copCfg.state = .active
  nnr : ∀ keep, (fopStep s (keep, .clcw ocf)).tf.copCfg.nnr = (osdlpClcwUnpack ocf).reportValue
  again : ∀ keep keeps keep',
    let t := handledAgain ocf (fopStep s (keep, .clcw ocf)) keeps
    (osdlpHandleClcw (fifoHooks keep') ocf t).1.isAlert = false ∧
      (osdlpHandleClcw (fifoHooks keep') ocf t).2.world.sentQueue = t.world.sentQueue ∧
      (osdlpHandleClcw (fifoHooks keep') ocf t).2.tf.copCfg.state = .active

variable {keep : List Bool} {clcw : ClcwFrame} {s : Fop}

/-- The events that a control word with its flags down can be. -/
theorem clcwEvent_plain (h : PlainAck clcw) (fop : FopConfig) :
    clcwEvent (fifoHooks keep) fop clcw =
      if fop.vs = clcw.reportValue then
        if clcw.reportValue = fop.nnr then fopE1 (fifoHooks keep) else fopE2 (fifoHooks keep) clcw
      else if clcwInRange fop clcw.reportValue then
        if clcw.reportValue = fop.nnr then fopE5 (fifoHooks keep) else fopE6 (fifoHooks keep) clcw
      else fopE13 (fifoHooks keep) := by
  unfold clcwEvent
  simp only [h.lockout, h.wait, h.rt, Bool.not_false, if_true]

theorem osdlpHandleClcw_apply (ocf : List UInt8) (s : Fop) :
    osdlpHandleClcw (fifoHooks keep) ocf s =
      clcwEvent (fifoHooks keep) s.tf.copCfg (osdlpClcwUnpack ocf)
        (withClcw (osdlpClcwUnpack ocf) s) := rfl

/-! ## Handled again -/

/-- With N(R) as NN(R), the range test only lets it pass below V(S). -/
theorem clcwInRange_nnr (fop : FopConfig) :
    clcwInRange fop fop.nnr = true ↔ fop.nnr.toNat < fop.vs.toNat := by
  simp only [clcwInRange, Bool.or_eq_true, Bool.and_eq_true, decide_eq_true_eq, gt_iff_lt, ge_iff_le,
    UInt8.lt_iff_toNat_lt, UInt8.le_iff_toNat_le]
  omega

/-- What the first handling has to lead to. -/
structure AckedInActive (nr : UInt8) (t : Fop) : Prop where
  state : t.tf.copCfg.state = .active
  nnr : t.tf.copCfg.nnr = nr
  vs : nr.toNat ≤ t.tf.copCfg.vs.toNat

/-- E1 and E5 ignore the control word in ACTIVE. -/
theorem AckedInActive.handle {ocf : List UInt8} {t : Fop}
    (h : AckedInActive (osdlpClcwUnpack ocf).reportValue t)
    (hplain : PlainAck (osdlpClcwUnpack ocf)) :
    osdlpHandleClcw (fifoHooks keep) ocf t = (.ignore, withClcw (osdlpClcwUnpack ocf) t) := by
  rw [osdlpHandleClcw_apply, clcwEvent_plain hplain]
  have hstate : (withClcw (osdlpClcwUnpack ocf) t).tf.copCfg.state = .active := h.state
  split_ifs with hvs hnnr hrange hnnr
  · unfold fopE1
    rw [bind_apply, getFop_apply]
    simp only [hstate]
    rfl
  · exact absurd h.nnr.symm hnnr
  · unfold fopE5
    rw [bind_apply, getFop_apply]
    simp only [hstate]
    rfl
  · exact absurd h.nnr.symm hnnr
  · rw [← h.nnr, clcwInRange_nnr] at hrange
    have hle := h.vs
    rw [← h.nnr] at hle hvs
    exact absurd (Nat.lt_of_le_of_ne hle fun heq => hvs (UInt8.toNat_inj.mp heq.symm)) hrange

/-- Below N(R), V(S) makes the repeated control word an alert. -/
theorem handle_alert {ocf : List UInt8} {t : Fop} (keep : List Bool)
    (hplain : PlainAck (osdlpClcwUnpack ocf))
    (hstate : t.tf.copCfg.state = .active)
    (hnnr : t.tf.copCfg.nnr = (osdlpClcwUnpack ocf).reportValue)
    (hvs : ¬ (osdlpClcwUnpack ocf).reportValue.toNat ≤ t.tf.copCfg.vs.toNat) :
    (osdlpHandleClcw (fifoHooks keep) ocf t).1 = .alertNnr := by
  rw [osdlpHandleClcw_apply, clcwEvent_plain hplain]
  have hne : t.tf.copCfg.vs ≠ (osdlpClcwUnpack ocf).reportValue := by
    intro heq
    exact hvs (Nat.le_of_eq (congrArg UInt8.toNat heq.symm))
  have hrange : ¬ clcwInRange t.tf.copCfg (osdlpClcwUnpack ocf).reportValue = true := by
    rw [← hnnr, clcwInRange_nnr]
    intro hlt
    rw [hnnr] at hlt
    exact hvs (Nat.le_of_lt hlt)
  rw [if_neg hne, if_neg hrange, fopE13_apply]
  show isAd t.tf.copCfg.state
  rw [hstate]
  rfl

/-- Further copies of the control word change nothing but the control word at hand. -/
theorem AckedInActive.handledAgain {ocf : List UInt8} {t : Fop}
    (h : AckedInActive (osdlpClcwUnpack ocf).reportValue t)
    (hplain : PlainAck (osdlpClcwUnpack ocf))
    (keeps : List (List Bool)) :
    AckedInActive (osdlpClcwUnpack ocf).reportValue (handledAgain ocf t keeps) := by
  induction keeps generalizing t with
  | nil => exact h
  | cons keep keeps ih =>
    have hstep : fopStep t (keep, .clcw ocf) = withClcw (osdlpClcwUnpack ocf) t :=
      congrArg Prod.snd (h.handle hplain)
    show AckedInActive _ (run fopStep (fopStep t (keep, .clcw ocf)) _)
    rw [hstep]
    exact ih ⟨h.state, h.nnr, h.vs⟩

/-! ## Handled first -/

/-- What the first handling of the control word starts from. -/
structure Acknowledges (s : Fop) (clcw : ClcwFrame) : Prop where
  plain : PlainAck clcw
  ad : isAd s.tf.copCfg.state
  mirrors : Mirrors s
  window : s.world.sentQueue.length ≤ s.tf.copCfg.slideWnd.toNat
  range : InRange s.tf.copCfg clcw.reportValue
  new : clcw.reportValue ≠ s.tf.copCfg.nnr

/-- Frames remain acknowledged, so the report value is nearer to V(S) than NN(R) was. -/
theorem Acknowledges.dist (h : Acknowledges s clcw) :
    seqDist clcw.reportValue s.tf.copCfg.vs < s.tf.copCfg.slideWnd.toNat := by
  have hpos : seqDist s.tf.copCfg.nnr clcw.reportValue ≠ 0 :=
    fun hzero => h.new (seqDist_eq_zero.mp hzero).symm
  have hwnd := h.window
  have hrange := h.range
  unfold InRange at hrange
  rw [h.mirrors.length] at hwnd
  rw [seqDist_sub hrange]
  omega

/-- The counters once the acknowledged frames have been removed. -/
theorem Acknowledges.acked (h : Acknowledges s clcw) :
    (ackedBy clcw.reportValue s).tf.copCfg.nnr = clcw.reportValue ∧
      fopRoom (ackedBy clcw.reportValue s).tf.copCfg = true := by
  have hnnr := (h.mirrors.acked h.range h.window).2.1
  have hvs := (ackedBy_world clcw.reportValue s).2.2.1
  have hslide : (ackedBy clcw.reportValue s).tf.copCfg.slideWnd = s.tf.copCfg.slideWnd :=
    acked_slideWnd _ _ s
  have hdist : seqDist (ackedBy clcw.reportValue s).tf.copCfg.nnr
      (ackedBy clcw.reportValue s).tf.copCfg.vs <
        (ackedBy clcw.reportValue s).tf.copCfg.slideWnd.toNat := by
    show seqDist (Interface.acked _ _ s).tf.copCfg.nnr _ < _
    rw [hnnr, hvs, hslide]
    exact h.dist
  exact ⟨hnnr, (fopRoom_iff (Nat.le_of_lt hdist)).mpr hdist⟩

/-- The control word is E2 if it acknowledges everything, and E6 otherwise. -/
theorem Acknowledges.kind (h : Acknowledges s clcw) :
    clcwKind s.tf.copCfg clcw = if s.tf.copCfg.vs = clcw.reportValue then .e2 else .e6 := by
  unfold clcwKind
  simp only [h.plain.lockout, h.plain.wait, h.plain.rt, Bool.not_false, if_true, if_neg h.new]
  by_cases heq : s.tf.copCfg.vs = clcw.reportValue
  · rw [if_pos heq, if_pos heq]
  · have hpass : clcwInRange s.tf.copCfg clcw.reportValue = true := by
      rcases Nat.lt_or_ge s.tf.copCfg.vs.toNat s.tf.copCfg.nnr.toNat with hlt | hle
      · exact (clcwInRange_of_lt hlt heq).mpr ⟨h.range, h.new⟩
      · exact clcwInRange_of_le hle heq
    rw [if_neg heq, if_neg heq, if_pos hpass]

/-- The first handling acknowledges the frames and sends one that waits. -/
theorem Acknowledges.handled {ocf : List UInt8} (h : Acknowledges s (osdlpClcwUnpack ocf))
    (keep : List Bool) :
    let nr := (osdlpClcwUnpack ocf).reportValue
    let fop := (fopStep s (keep, .clcw ocf)).tf.copCfg
    (fop.state = if s.tf.copCfg.vs = nr then s.tf.copCfg.state else .active) ∧ fop.nnr = nr ∧
      fop.vs = if s.world.waitQueue = [] then s.tf.copCfg.vs else s.tf.copCfg.vs + 1 := by
  intro nr fop
  have hstored : Acknowledges (withClcw (osdlpClcwUnpack ocf) s) (osdlpClcwUnpack ocf) :=
    ⟨h.plain, h.ad, h.mirrors, h.window, h.range, h.new⟩
  obtain ⟨hnnr, hroom⟩ := hstored.acked
  obtain ⟨hwait, -, hvs, -⟩ := ackedBy_world nr (withClcw (osdlpClcwUnpack ocf) s)
  have hnext : (if (ackedBy nr (withClcw (osdlpClcwUnpack ocf) s)).world.waitQueue = [] then
      (ackedBy nr (withClcw (osdlpClcwUnpack ocf) s)).tf.copCfg.vs else
      (ackedBy nr (withClcw (osdlpClcwUnpack ocf) s)).tf.copCfg.vs + 1) =
        if s.world.waitQueue = [] then s.tf.copCfg.vs else s.tf.copCfg.vs + 1 := by
    rw [hwait, hvs]
    rfl
  have houtcome := @osdlpHandleClcw_outcome keep ocf s
  rw [h.kind] at houtcome
  by_cases heq : s.tf.copCfg.vs = nr
  · rw [if_pos heq] at houtcome
    obtain ⟨hs, hn, hv⟩ := (houtcome.searched_e2 h.ad).counters hroom
    rw [if_pos heq]
    exact ⟨hs, hn.trans hnnr, hv.trans hnext⟩
  · rw [if_neg heq] at houtcome
    obtain ⟨hs, hn, hv⟩ := (houtcome.searched_e6 h.ad).counters hroom
    rw [if_neg heq]
    exact ⟨hs, hn.trans hnnr, hv.trans hnext⟩

/-- **A repeated control word is harmless in exactly these cases**: it is handled in ACTIVE or
leaves frames outstanding; V(S) is not below N(R); and it is not 255 with a frame waiting, which
would take it round.
SOURCE: osdlp_cop.c:663-780, 906-1014, 1975-2092 -/
theorem repetitionHarmless_iff {ocf : List UInt8} (h : Acknowledges s (osdlpClcwUnpack ocf)) :
    RepetitionHarmless ocf s ↔
      (s.tf.copCfg.state = .active ∨ (osdlpClcwUnpack ocf).reportValue ≠ s.tf.copCfg.vs) ∧
        (osdlpClcwUnpack ocf).reportValue.toNat ≤ s.tf.copCfg.vs.toNat ∧
        (s.tf.copCfg.vs = 255 → s.world.waitQueue = []) := by
  have hv := s.tf.copCfg.vs.toNat_lt
  have hw := s.tf.copCfg.slideWnd.toNat_lt
  have hdist := h.dist
  -- V(S) after the first handling is not below N(R) just in the cases of the statement
  have hvs : ∀ keep, (osdlpClcwUnpack ocf).reportValue.toNat ≤
      (fopStep s (keep, .clcw ocf)).tf.copCfg.vs.toNat ↔
        (osdlpClcwUnpack ocf).reportValue.toNat ≤ s.tf.copCfg.vs.toNat ∧
          (s.tf.copCfg.vs = 255 → s.world.waitQueue = []) := by
    intro keep
    rw [(h.handled keep).2.2]
    split_ifs with hnone
    · exact ⟨fun hle => ⟨hle, fun _ => hnone⟩, And.left⟩
    · have h255 : s.tf.copCfg.vs = 255 ↔ s.tf.copCfg.vs.toNat = 255 := by
        rw [← UInt8.toNat_inj]
        rfl
      have hnext : (s.tf.copCfg.vs + 1).toNat = (s.tf.copCfg.vs.toNat + 1) % 256 := by
        rw [UInt8.toNat_add]
        rfl
      rw [h255, hnext]
      have hnr := (osdlpClcwUnpack ocf).reportValue.toNat_lt
      rcases Nat.lt_or_ge s.tf.copCfg.vs.toNat (osdlpClcwUnpack ocf).reportValue.toNat with hlt | hle
      · rw [seqDist_of_lt hlt] at hdist
        simp only [hnone, imp_false]
        omega
      · rw [seqDist_of_le hle] at hdist
        simp only [hnone, imp_false]
        omega
  constructor
  · intro hharmless
    have hstate := hharmless.state []
    refine ⟨?_, (hvs []).mp ?_⟩
    · rw [(h.handled []).1] at hstate
      by_cases heq : s.tf.copCfg.vs = (osdlpClcwUnpack ocf).reportValue
      · rw [if_pos heq] at hstate
        exact .inl hstate
      · exact .inr fun hne => heq hne.symm
    · by_contra hbelow
      have halert := handle_alert [] h.plain hstate (hharmless.nnr []) hbelow
      have hquiet := (hharmless.again [] [] []).1
      have hagain : handledAgain ocf (fopStep s ([], .clcw ocf)) [] = fopStep s ([], .clcw ocf) := rfl
      rw [hagain, halert] at hquiet
      exact absurd hquiet (by decide)
  · rintro ⟨hstate, hcond⟩
    have hacked : ∀ keep, AckedInActive (osdlpClcwUnpack ocf).reportValue
        (fopStep s (keep, .clcw ocf)) := by
      intro keep
      refine ⟨?_, (h.handled keep).2.1, (hvs keep).mpr hcond⟩
      rw [(h.handled keep).1]
      split_ifs with heq
      · exact hstate.resolve_right fun hne => hne heq.symm
      · rfl
    refine ⟨fun keep => (hacked keep).state, fun keep => (hacked keep).nnr, ?_⟩
    intro keep keeps keep' t
    have ht := (hacked keep).handledAgain h.plain keeps
    rw [ht.handle h.plain]
    exact ⟨rfl, rfl, ht.state⟩

/-- Of two outstanding frames the first is acknowledged. -/
theorem acknowledges_one_of_two :
    Acknowledges (outstandingFop 7 2) (osdlpClcwUnpack (plainClcw 8)) where
  plain := ⟨rfl, rfl, rfl⟩
  ad := rfl
  mirrors := rfl
  window := by decide
  range := by
    show seqDist 7 8 ≤ seqDist 7 9
    decide
  new := by decide

/-- Two frames outstanding, and one of them acknowledged again and again. -/
theorem repetitionHarmless_iff_one_of_two :
    RepetitionHarmless (plainClcw 8) (outstandingFop 7 2) ↔
      ((outstandingFop 7 2).tf.copCfg.state = .active ∨ (8 : UInt8) ≠ 9) ∧
        (8 : UInt8).toNat ≤ (9 : UInt8).toNat ∧
        ((outstandingFop 7 2).tf.copCfg.vs = 255 → (outstandingFop 7 2).world.waitQueue = []) :=
  repetitionHarmless_iff acknowledges_one_of_two

/-- During a retransmission, everything outstanding is acknowledged: the state stays RT_NO_WAIT,
and the second copy of the control word ends the service.  In ACTIVE with V(S) gone round to 0, one
of the frames 254 and 255 is acknowledged: the second copy ends the service as well. -/
theorem not_repetitionHarmless_two_outstanding :
    (let s := (outstandingFop 7 2).setFop { (outstandingFop 7 2).tf.copCfg with state := .rtNoWait }
      let s' := fopStep s ([], .clcw (plainClcw 9))
      Acknowledges s (osdlpClcwUnpack (plainClcw 9)) ∧
        s'.tf.copCfg.state = .rtNoWait ∧ s'.world.sentQueue = [] ∧
        (osdlpHandleClcw (fifoHooks []) (plainClcw 9) s').1 = .alertSynch ∧
        ¬ RepetitionHarmless (plainClcw 9) s) ∧
    (let s := outstandingFop 254 2
      let s' := fopStep s ([], .clcw (plainClcw 255))
      Acknowledges s (osdlpClcwUnpack (plainClcw 255)) ∧
        s'.tf.copCfg.state = .active ∧ s'.tf.copCfg.nnr = 255 ∧
        (osdlpHandleClcw (fifoHooks []) (plainClcw 255) s').1 = .alertNnr ∧
        ¬ RepetitionHarmless (plainClcw 255) s) := by
  refine ⟨⟨⟨⟨rfl, rfl, rfl⟩, rfl, rfl, by decide, ?_, by decide⟩, rfl, rfl, rfl, fun h => ?_⟩,
    ⟨⟨⟨rfl, rfl, rfl⟩, rfl, rfl, by decide, ?_, by decide⟩, rfl, rfl, rfl, fun h => ?_⟩⟩
  · exact Nat.le_refl _
  · exact absurd (h.state []) (by decide)
  · show seqDist 254 255 ≤ seqDist 254 0
    decide
  · exact absurd (h.again [] [] []).1 (by decide)

end Osdlp.Analysis
