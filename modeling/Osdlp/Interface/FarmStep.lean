import Osdlp.Library.SeqNum
import Osdlp.Model.Farm

/-!
# What FARM-1 does to V(R)

V(R) moves in two ways only: by one, on a type-A frame that is taken, and to a value that a
Set V(R) command names (`osdlpFarm1_vr`).  Nothing but the FARM variables changes
(`osdlpFarm1_frame`).
-/

set_option autoImplicit false

namespace Osdlp.Interface

open Osdlp.Model Osdlp.Library

/-- The frame is the type-A frame that is waited for, and it can be taken. -/
structure Accepts (rxFull : Bool) (tf : FarmFrame) : Prop where
  bypass : tf.primaryHdr.bypass = .typeA
  seqNum : tf.primaryHdr.frameSeqNum = tf.copCfg.vr
  room : rxFull = false
  isOpen : tf.copCfg.state = .stateOpen

/-- The frame is a Set V(R) command. -/
def SetsVr (tf : FarmFrame) : Prop :=
  tf.primaryHdr.bypass = .typeB ∧ tf.primaryHdr.ctrlCmd = .command ∧
    tf.frameData.data.getD 0 0 = setvrByte1 ∧ tf.frameData.data.getD 1 0 = setvrByte2

/-- FARM-1 changes its own variables and nothing else. -/
theorem osdlpFarm1_frame (rxFull : Bool) (tf : FarmFrame) :
    ∃ farm, (osdlpFarm1 rxFull tf).2 = setFarm tf farm := by
  have htable : ∀ e ∈ [farmE1, farmE2, farmE3, farmE4, farmE5, farmE6, farmE7, farmE8],
      ∃ farm, (e tf).2 = setFarm tf farm := by
    intro e he
    simp only [List.mem_cons, List.not_mem_nil, or_false] at he
    rcases he with rfl | rfl | rfl | rfl | rfl | rfl | rfl | rfl
    · unfold farmE1
      cases tf.copCfg.state <;> exact ⟨_, rfl⟩
    · unfold farmE2
      cases tf.copCfg.state <;> exact ⟨_, rfl⟩
    · unfold farmE3
      cases tf.copCfg.state <;> exact ⟨_, rfl⟩
    · unfold farmE4
      cases tf.copCfg.state <;> exact ⟨_, rfl⟩
    · unfold farmE5
      cases tf.copCfg.state <;> exact ⟨_, rfl⟩
    · unfold farmE6
      cases tf.copCfg.state <;> exact ⟨_, rfl⟩
    · unfold farmE7
      cases tf.copCfg.state <;> exact ⟨_, rfl⟩
    · unfold farmE8
      cases tf.copCfg.state <;> exact ⟨_, rfl⟩
  unfold osdlpFarm1
  cases tf.primaryHdr.bypass with
  | typeA =>
    dsimp only
    unfold handleFarmTypea
    split_ifs <;> exact htable _ (by simp)
  | typeB =>
    cases tf.primaryHdr.ctrlCmd with
    | data => exact htable farmE6 (by simp)
    | command =>
      dsimp only
      unfold handleFarmTypebCmd
      split_ifs
      · exact htable farmE7 (by simp)
      · exact htable farmE8 (by simp)
      · exact ⟨tf.copCfg, rfl⟩

/-- V(R) counts the frames on which `COP_ENQ` is returned, and a Set V(R) command is never
an error. -/
theorem osdlpFarm1_vr (rxFull : Bool) (tf : FarmFrame) :
    (Accepts rxFull tf ∧ (osdlpFarm1 rxFull tf).1 = .enq ∧
        (osdlpFarm1 rxFull tf).2.copCfg.vr = tf.copCfg.vr + 1) ∨
      (¬ Accepts rxFull tf ∧ (osdlpFarm1 rxFull tf).1 ≠ .enq ∧
        ((osdlpFarm1 rxFull tf).2.copCfg.vr = tf.copCfg.vr ∨
          (SetsVr tf ∧ (osdlpFarm1 rxFull tf).1 = .ok))) := by
  have hdiscard : FarmResult.discard ≠ .enq := by decide
  have herror : FarmResult.error ≠ .enq := by decide
  have hok : FarmResult.ok ≠ .enq := by decide
  have hpriority : FarmResult.priorityEnq ≠ .enq := by decide
  unfold osdlpFarm1
  cases hbypass : tf.primaryHdr.bypass with
  | typeA =>
    dsimp only
    unfold handleFarmTypea
    -- only E1 in the open state takes a numbered frame
    split_ifs with hns hfull he3 he4
    · have hroom : rxFull = false := by simpa using hfull
      unfold farmE1
      cases hstate : tf.copCfg.state with
      | stateOpen =>
        refine .inl ⟨⟨hbypass, hns, hroom, hstate⟩, rfl, ?_⟩
        simp only [setFarm_copCfg]
        split_ifs <;> exact toNat_succ_mod _
      | stateWait =>
        exact .inr ⟨fun h => by simpa [hstate] using h.isOpen, herror, .inl rfl⟩
      | stateLockout =>
        exact .inr ⟨fun h => by simpa [hstate] using h.isOpen, hdiscard, .inl rfl⟩
    · have hno : ¬ Accepts rxFull tf := fun h => hfull (by simp [h.room])
      unfold farmE2
      cases tf.copCfg.state <;> exact .inr ⟨hno, hdiscard, .inl rfl⟩
    · have hno : ¬ Accepts rxFull tf := fun h => hns h.seqNum
      unfold farmE3
      cases tf.copCfg.state <;> exact .inr ⟨hno, hdiscard, .inl rfl⟩
    · have hno : ¬ Accepts rxFull tf := fun h => hns h.seqNum
      unfold farmE4
      cases tf.copCfg.state <;> exact .inr ⟨hno, hdiscard, .inl rfl⟩
    · have hno : ¬ Accepts rxFull tf := fun h => hns h.seqNum
      unfold farmE5
      cases tf.copCfg.state <;> exact .inr ⟨hno, hdiscard, .inl rfl⟩
  | typeB =>
    have hno : ¬ Accepts rxFull tf := fun h => by simpa [hbypass] using h.bypass
    cases hctrl : tf.primaryHdr.ctrlCmd with
    | data =>
      dsimp only
      unfold handleFarmTypebData farmE6
      cases tf.copCfg.state <;> exact .inr ⟨hno, hpriority, .inl rfl⟩
    | command =>
      dsimp only
      -- a Set V(R) command writes V(R), and the call returns `COP_OK` all the same
      unfold handleFarmTypebCmd
      split_ifs with hunlock hset
      · unfold farmE7
        cases tf.copCfg.state <;> exact .inr ⟨hno, hok, .inl rfl⟩
      · have hsets : SetsVr tf := ⟨hbypass, hctrl, hset⟩
        unfold farmE8
        cases tf.copCfg.state <;> exact .inr ⟨hno, hok, .inr ⟨hsets, rfl⟩⟩
      · exact .inr ⟨hno, herror, .inl rfl⟩

/-- A frame that is taken moves V(R) on, and answers a request for a retransmission. -/
theorem osdlpFarm1_accepts {rxFull : Bool} {tf : FarmFrame} (h : Accepts rxFull tf) :
    osdlpFarm1 rxFull tf =
      (.enq, setFarm tf { tf.copCfg with vr := tf.copCfg.vr + 1, retransmit := false }) := by
  have hanswered : ∀ farm : FarmConfig, (if farm.retransmit then { farm with retransmit := false }
      else farm) = { farm with retransmit := false } := by
    intro farm
    split_ifs with hretransmit
    · rfl
    · rw [← Bool.eq_false_iff.mpr hretransmit]
  unfold osdlpFarm1
  rw [h.bypass]
  dsimp only
  unfold handleFarmTypea farmE1
  rw [if_pos h.seqNum, if_pos (by rw [h.room]; rfl), toNat_succ_mod]
  cases hstate : tf.copCfg.state with
  | stateOpen =>
    refine congrArg (Prod.mk _ ∘ setFarm tf) ?_
    rw [← hstate]
    exact hanswered { tf.copCfg with vr := tf.copCfg.vr + 1 }
  | stateWait | stateLockout => exact absurd (hstate.symm.trans h.isOpen) (by decide)

end Osdlp.Interface
