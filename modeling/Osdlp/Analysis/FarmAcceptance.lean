import Osdlp.Analysis.FarmFlags
import Osdlp.Interface.FarmStep

/-!
# Acceptance in sequence

Whatever arrives, the frames that FARM-1 accepts are numbered consecutively for as long as no
Set V(R) command is executed, and V(R) counts them (`accepted_consecutive`).
-/

set_option autoImplicit false

namespace Osdlp.Analysis

open Osdlp.Model Osdlp.Interface Osdlp.Library

/-- The operation is a Set V(R) command, in a state in which it is executed. -/
def ExecutesSetVr (tf : FarmFrame) : FarmOp → Prop
  | .frame hdr frameData _ =>
    SetsVr (loadFrame tf hdr frameData) ∧ tf.copCfg.state ≠ .stateLockout
  | .release => False

instance (tf : FarmFrame) : (op : FarmOp) → Decidable (ExecutesSetVr tf op)
  | .frame hdr frameData _ =>
    inferInstanceAs (Decidable ((hdr.bypass = _ ∧ hdr.ctrlCmd = _ ∧ frameData.data.getD 0 0 = _ ∧
      frameData.data.getD 1 0 = _) ∧ _))
  | .release => inferInstanceAs (Decidable False)

/-- The number of the frame, if the answer is `COP_ENQ`. -/
def acceptedNumber (tf : FarmFrame) : FarmOp → List UInt8
  | .frame hdr frameData rxFull =>
    if (osdlpFarm1 rxFull (loadFrame tf hdr frameData)).1 = .enq then [hdr.frameSeqNum] else []
  | .release => []

/-- The numbers of the frames on which a run answers `COP_ENQ`. -/
def acceptedNumbers : FarmFrame → List FarmOp → List UInt8
  | _, [] => []
  | tf, op :: ops => acceptedNumber tf op ++ acceptedNumbers (farmStep tf op) ops

/-- What the answer to a frame says about the state it arrives in, and about the one it leaves
behind. -/
structure AnsweredFairly (rxFull : Bool) (tf : FarmFrame) : Prop where
  enq : (osdlpFarm1 rxFull tf).1 = .enq →
    tf.copCfg.state = .stateOpen ∧ tf.primaryHdr.bypass = .typeA ∧ rxFull = false
  priorityEnq : (osdlpFarm1 rxFull tf).1 = .priorityEnq →
    ∃ cnt, (osdlpFarm1 rxFull tf).2.copCfg = { tf.copCfg with farmbCnt := cnt }

/-- SOURCE: osdlp_cop.c:62-224, 252-336 -/
theorem osdlpFarm1_answeredFairly (rxFull : Bool) (tf : FarmFrame) : AnsweredFairly rxFull tf := by
  constructor
  · intro henq
    rcases osdlpFarm1_vr rxFull tf with ⟨haccepts, -⟩ | ⟨-, hne, -⟩
    · exact ⟨haccepts.isOpen, haccepts.bypass, haccepts.room⟩
    · exact absurd henq hne
  · -- E6 alone answers so, and it only counts
    have htable : ∀ e ∈ [farmE1, farmE2, farmE3, farmE4, farmE5, farmE7, farmE8],
        (e tf).1 ≠ .priorityEnq := by
      intro e he
      simp only [List.mem_cons, List.not_mem_nil, or_false] at he
      rcases he with rfl | rfl | rfl | rfl | rfl | rfl | rfl
      · unfold farmE1
        cases tf.copCfg.state <;> simp
      · unfold farmE2
        cases tf.copCfg.state <;> simp
      · unfold farmE3
        cases tf.copCfg.state <;> simp
      · unfold farmE4
        cases tf.copCfg.state <;> simp
      · unfold farmE5
        cases tf.copCfg.state <;> simp
      · unfold farmE7
        cases tf.copCfg.state <;> simp
      · unfold farmE8
        cases tf.copCfg.state <;> simp
    intro hpriority
    unfold osdlpFarm1 at hpriority ⊢
    cases hbypass : tf.primaryHdr.bypass with
    | typeA =>
      simp only [hbypass] at hpriority
      unfold handleFarmTypea at hpriority
      split_ifs at hpriority <;> exact absurd hpriority (htable _ (by simp))
    | typeB =>
      cases hctrl : tf.primaryHdr.ctrlCmd with
      | data =>
        show ∃ cnt, (farmE6 tf).2.copCfg = _
        unfold farmE6
        cases tf.copCfg.state <;> exact ⟨_, rfl⟩
      | command =>
        simp only [hbypass, hctrl] at hpriority
        unfold handleFarmTypebCmd at hpriority
        split_ifs at hpriority
        · exact absurd hpriority (htable farmE7 (by simp))
        · exact absurd hpriority (htable farmE8 (by simp))

/-- A Set V(R) command is not executed in LOCKOUT.
SOURCE: osdlp_cop.c:199-224 -/
theorem osdlpFarm1_setsVr_lockout (rxFull : Bool) {tf : FarmFrame} (hsets : SetsVr tf)
    (hlockout : tf.copCfg.state = .stateLockout) :
    (osdlpFarm1 rxFull tf).2.copCfg.vr = tf.copCfg.vr := by
  obtain ⟨hbypass, hctrl, hfirst, hsecond⟩ := hsets
  have hnotUnlock : ¬ setvrByte1 = 0 := by decide
  unfold osdlpFarm1
  rw [hbypass, hctrl]
  dsimp only
  unfold handleFarmTypebCmd farmE8
  rw [hfirst, if_neg hnotUnlock, if_pos ⟨rfl, hsecond⟩, hlockout]
  rfl

/-- One operation: V(R) is the number that is accepted, and counts it. -/
theorem farmStep_vr {tf : FarmFrame} {op : FarmOp} (hset : ¬ ExecutesSetVr tf op) :
    (acceptedNumber tf op = [tf.copCfg.vr] ∧ (farmStep tf op).copCfg.vr = tf.copCfg.vr + 1) ∨
      (acceptedNumber tf op = [] ∧ (farmStep tf op).copCfg.vr = tf.copCfg.vr) := by
  cases op with
  | release => exact .inr ⟨rfl, rfl⟩
  | frame hdr frameData rxFull =>
    unfold acceptedNumber farmStep
    dsimp only
    rcases osdlpFarm1_vr rxFull (loadFrame tf hdr frameData) with
      ⟨haccepts, henq, hvr⟩ | ⟨-, hne, hvr | ⟨hsets, -⟩⟩
    · have hnum : hdr.frameSeqNum = tf.copCfg.vr := haccepts.seqNum
      rw [if_pos henq, hnum]
      exact .inl ⟨rfl, hvr⟩
    · rw [if_neg hne]
      exact .inr ⟨rfl, hvr⟩
    · rw [if_neg hne]
      have hlockout : tf.copCfg.state = .stateLockout := not_not.mp fun hne => hset ⟨hsets, hne⟩
      exact .inr ⟨rfl, osdlpFarm1_setsVr_lockout rxFull hsets hlockout⟩

/-- A stretch of a run: the accepted numbers follow each other from V(R) on, and V(R) ends
behind them. -/
theorem acceptedNumbers_stretch {tf : FarmFrame} {ops : List FarmOp}
    (hset : Guarded farmStep (fun tf op => ¬ ExecutesSetVr tf op) tf ops) :
    acceptedNumbers tf ops = consecutive tf.copCfg.vr (acceptedNumbers tf ops).length ∧
      (run farmStep tf ops).copCfg.vr =
        tf.copCfg.vr + UInt8.ofNat (acceptedNumbers tf ops).length := by
  induction ops generalizing tf with
  | nil => exact ⟨rfl, (UInt8.add_zero _).symm⟩
  | cons op ops ih =>
    obtain ⟨hconsecutive, hvr⟩ := ih hset.2
    rw [run_cons, hvr, acceptedNumbers]
    rcases farmStep_vr hset.1 with ⟨haccepted, hnext⟩ | ⟨haccepted, hnext⟩
    · rw [hnext] at hconsecutive ⊢
      rw [haccepted, List.singleton_append, List.length_cons, consecutive, ← hconsecutive,
        ofNat_succ, UInt8.add_assoc, UInt8.add_comm 1]
      exact ⟨rfl, rfl⟩
    · rw [hnext] at hconsecutive ⊢
      rw [haccepted, List.nil_append]
      exact ⟨hconsecutive, rfl⟩

/-- In every run, whatever arrives: within a stretch without an executed Set V(R) command the
accepted frames are numbered consecutively from the V(R) at its beginning, and at each point V(R)
is that number plus how many have been accepted since; and every frame is answered fairly.
SOURCE: osdlp_cop.c:49-224, 252-336 -/
theorem accepted_consecutive (tf : FarmFrame) (ops : List FarmOp) :
    (∀ before stretch after, ops = before ++ stretch ++ after →
      let start := run farmStep tf before
      Guarded farmStep (fun tf op => ¬ ExecutesSetVr tf op) start stretch →
      acceptedNumbers start stretch =
          consecutive start.copCfg.vr (acceptedNumbers start stretch).length ∧
        ∀ n, (run farmStep start (stretch.take n)).copCfg.vr =
          start.copCfg.vr + UInt8.ofNat (acceptedNumbers start (stretch.take n)).length) ∧
    ∀ n hdr frameData rxFull, ops[n]? = some (.frame hdr frameData rxFull) →
      AnsweredFairly rxFull (loadFrame (run farmStep tf (ops.take n)) hdr frameData) := by
  refine ⟨?_, fun n hdr frameData rxFull _ => osdlpFarm1_answeredFairly rxFull _⟩
  intro before stretch after _ start hset
  exact ⟨(acceptedNumbers_stretch hset).1, fun n => (acceptedNumbers_stretch (hset.take n)).2⟩

/-- A frame, a frame out of sequence, and the next frame after the last number. -/
theorem accepted_consecutive_wrap :
    let start : FarmFrame :=
      { openFarm with copCfg := { openFarm.copCfg with vr := 255 } }
    let ops : List FarmOp := [255, 3, 0].map fun n =>
      .frame { (default : TcPrimaryHdr) with frameSeqNum := n } default false
    acceptedNumbers start ops = [255, 0] ∧
      acceptedNumbers start ops = consecutive 255 (acceptedNumbers start ops).length ∧
      (run farmStep start (ops.take 3)).copCfg.vr =
        255 + UInt8.ofNat (acceptedNumbers start (ops.take 3)).length ∧
      AnsweredFairly false (loadFrame (run farmStep start (ops.take 2))
        { (default : TcPrimaryHdr) with frameSeqNum := 0 } default) := by
  intro start ops
  have hset : Guarded farmStep (fun tf op => ¬ ExecutesSetVr tf op) start ops := by decide
  obtain ⟨hstretch, hfair⟩ := accepted_consecutive start ops
  obtain ⟨hconsecutive, hvr⟩ := hstretch [] ops [] (by simp) hset
  exact ⟨by decide, hconsecutive, hvr 3, hfair 2 _ _ _ rfl⟩

end Osdlp.Analysis
