import Osdlp.Library.Run
import Osdlp.Model.Farm

/-!
# State and flags of FARM-1

The receiver keeps its state twice: as `state`, which decides what it does, and as the
flags that `osdlp_prepare_clcw` reports.  `FarmConsistent` is what the two owe each other.

Every frame keeps it (`consistent_farm1`).  `osdlp_buffer_release` keeps it except in
LOCKOUT: `osdlp_reset_wait` sets the state to OPEN whatever it was and leaves the lockout
flag standing, unlike `farm_e7`, which leaves LOCKOUT and clears the flag together.
-/

set_option autoImplicit false

namespace Osdlp.Analysis

open Osdlp.Model Osdlp.Library

/-- What reaches the receiver: a frame, with the answer of the queue-full hook, or a buffer
release. -/
inductive FarmOp
  | frame (hdr : TcPrimaryHdr) (frameData : TcFdf) (rxFull : Bool)
  | release

/-- The frame as `osdlp_tc_unpack` leaves it for FARM-1. -/
def loadFrame (tf : FarmFrame) (hdr : TcPrimaryHdr) (frameData : TcFdf) : FarmFrame :=
  { tf with primaryHdr := hdr, frameData := frameData }

/-- One operation of the receiver. -/
def farmStep (tf : FarmFrame) : FarmOp → FarmFrame
  | .frame hdr frameData rxFull => (osdlpFarm1 rxFull (loadFrame tf hdr frameData)).2
  | .release => osdlpBufferRelease tf

/-- What state and flags owe each other. -/
structure FarmConsistent (farm : FarmConfig) : Prop where
  lockout_iff : farm.state = .stateLockout ↔ farm.lockout = true
  of_open : farm.state = .stateOpen → farm.wait = false
  of_wait : farm.state = .stateWait → farm.wait = true ∧ farm.retransmit = true

/-- The lockout flag as the control word reports it. -/
def reportedLockout (tf : FarmFrame) : Bool := (osdlpClcwUnpack (osdlpPrepareClcw tf).1).lockout

/-- The control word reports the flag of the receiver. -/
theorem reportedLockout_eq (tf : FarmFrame) : reportedLockout tf = tf.copCfg.lockout := by
  unfold reportedLockout osdlpPrepareClcw
  rw [osdlpClcwUnpack_pack]
  rfl

/-- The receiver is honest: state and flags agree, no type-A frame is accepted while the
control word says lockout, and after an UNLOCK command it does not say so. -/
structure FarmHonest (tf : FarmFrame) : Prop where
  consistent : FarmConsistent tf.copCfg
  no_accept : reportedLockout tf = true → ∀ hdr frameData rxFull, hdr.bypass = .typeA →
    (osdlpFarm1 rxFull (loadFrame tf hdr frameData)).1 ≠ .enq
  unlock : ∀ hdr frameData rxFull, hdr.bypass = .typeB → hdr.ctrlCmd = .command →
    frameData.data.getD 0 0 = 0 →
    reportedLockout (osdlpFarm1 rxFull (loadFrame tf hdr frameData)).2 = false

/-- Consistency only looks at the FARM variables. -/
theorem consistent_of_eq {farm farm' : FarmConfig} (h : FarmConsistent farm)
    (hs : farm'.state = farm.state) (hl : farm'.lockout = farm.lockout)
    (hw : farm'.wait = farm.wait) (hr : farm.state = .stateWait → farm'.retransmit = farm.retransmit) :
    FarmConsistent farm' := by
  obtain ⟨h1, h2, h3⟩ := h
  refine ⟨by rw [hs, hl]; exact h1, fun ho => ?_, fun hwait => ?_⟩
  · rw [hw]; exact h2 (hs ▸ ho)
  · have hwait' : farm.state = .stateWait := hs ▸ hwait
    rw [hw, hr hwait']
    exact h3 hwait'

/-- A type-A frame keeps state and flags in agreement. -/
theorem consistent_typea (rxFull : Bool) (tf : FarmFrame) (h : FarmConsistent tf.copCfg) :
    FarmConsistent (handleFarmTypea rxFull tf).2.copCfg := by
  have h1 : FarmConsistent (farmE1 tf).2.copCfg := by
    unfold farmE1
    cases hs : tf.copCfg.state with
    | stateOpen =>
      dsimp only
      split_ifs
      · exact consistent_of_eq h rfl rfl rfl (by simp [hs])
      · exact consistent_of_eq h rfl rfl rfl (by simp [hs])
    | stateWait => exact h
    | stateLockout => exact h
  have h2 : FarmConsistent (farmE2 tf).2.copCfg := by
    have hl := h.lockout_iff
    unfold farmE2
    cases hs : tf.copCfg.state with
    | stateOpen => constructor <;> simp_all
    | stateWait => exact h
    | stateLockout => exact h
  have h3 : FarmConsistent (farmE3 tf).2.copCfg := by
    unfold farmE3
    cases hs : tf.copCfg.state with
    | stateOpen => exact consistent_of_eq h rfl rfl rfl (by simp [hs])
    | stateWait => exact h
    | stateLockout => exact h
  have h4 : FarmConsistent (farmE4 tf).2.copCfg := by
    unfold farmE4
    cases tf.copCfg.state <;> exact h
  have h5 : FarmConsistent (farmE5 tf).2.copCfg := by
    unfold farmE5
    cases hs : tf.copCfg.state with
    | stateOpen => constructor <;> simp
    | stateWait => constructor <;> simp
    | stateLockout => exact h
  unfold handleFarmTypea
  split_ifs <;> assumption

/-- A control command keeps state and flags in agreement. -/
theorem consistent_typebCmd (tf : FarmFrame) (h : FarmConsistent tf.copCfg) :
    FarmConsistent (handleFarmTypebCmd tf).2.copCfg := by
  have hl := h.lockout_iff
  have ho := h.of_open
  have h7 : FarmConsistent (farmE7 tf).2.copCfg := by
    unfold farmE7
    cases hs : tf.copCfg.state with
    | stateOpen => exact consistent_of_eq h rfl rfl rfl (by simp [hs])
    | stateWait => constructor <;> simp_all
    | stateLockout => constructor <;> simp
  have h8 : FarmConsistent (farmE8 tf).2.copCfg := by
    unfold farmE8
    cases hs : tf.copCfg.state with
    | stateOpen => exact consistent_of_eq h rfl rfl rfl (by simp [hs])
    | stateWait => constructor <;> simp_all
    | stateLockout => exact consistent_of_eq h rfl rfl rfl (by simp [hs])
  unfold handleFarmTypebCmd
  split_ifs
  · exact h7
  · exact h8
  · exact h

/-- Every frame keeps state and flags in agreement. -/
theorem consistent_farm1 (rxFull : Bool) (tf : FarmFrame) (h : FarmConsistent tf.copCfg) :
    FarmConsistent (osdlpFarm1 rxFull tf).2.copCfg := by
  unfold osdlpFarm1
  cases tf.primaryHdr.bypass with
  | typeA => exact consistent_typea rxFull tf h
  | typeB =>
    cases tf.primaryHdr.ctrlCmd with
    | data =>
      show FarmConsistent (farmE6 tf).2.copCfg
      unfold farmE6
      cases tf.copCfg.state <;> exact consistent_of_eq h rfl rfl rfl (fun _ => rfl)
    | command => exact consistent_typebCmd tf h

/-- A buffer release keeps the agreement exactly outside LOCKOUT. -/
theorem consistent_release_iff (tf : FarmFrame) (h : FarmConsistent tf.copCfg) :
    FarmConsistent (osdlpBufferRelease tf).copCfg ↔ tf.copCfg.state ≠ .stateLockout := by
  have hl := h.lockout_iff
  constructor
  · intro hrel hlock
    have hflag : tf.copCfg.lockout = true := hl.mp hlock
    have hstate : (osdlpBufferRelease tf).copCfg.state = .stateLockout :=
      hrel.lockout_iff.mpr hflag
    exact absurd hstate (by simp [osdlpBufferRelease, osdlpResetWait])
  · intro hne
    have hflag : tf.copCfg.lockout = false := by
      rw [← Bool.not_eq_true]
      exact fun ht => hne (hl.mpr ht)
    unfold osdlpBufferRelease osdlpResetWait
    constructor <;> simp [hflag]

/-- A type-A frame is accepted only in OPEN. -/
theorem open_of_enq (rxFull : Bool) (tf : FarmFrame) (htype : tf.primaryHdr.bypass = .typeA)
    (h : (osdlpFarm1 rxFull tf).1 = .enq) : tf.copCfg.state = .stateOpen := by
  unfold osdlpFarm1 at h
  rw [htype] at h
  dsimp only at h
  cases hs : tf.copCfg.state with
  | stateOpen => rfl
  | stateWait =>
    unfold handleFarmTypea at h
    split_ifs at h <;> simp [farmE1, farmE2, farmE3, farmE4, farmE5, hs] at h
  | stateLockout =>
    unfold handleFarmTypea at h
    split_ifs at h <;> simp [farmE1, farmE2, farmE3, farmE4, farmE5, hs] at h

/-- An UNLOCK command leaves a consistent receiver with the lockout flag down. -/
theorem lockout_unlock (rxFull : Bool) (tf : FarmFrame) (h : FarmConsistent tf.copCfg)
    (htype : tf.primaryHdr.bypass = .typeB) (hcmd : tf.primaryHdr.ctrlCmd = .command)
    (hdata : tf.frameData.data.getD 0 0 = 0) :
    (osdlpFarm1 rxFull tf).2.copCfg.lockout = false := by
  have hl := h.lockout_iff
  unfold osdlpFarm1
  rw [htype, hcmd]
  show (handleFarmTypebCmd tf).2.copCfg.lockout = false
  unfold handleFarmTypebCmd
  rw [if_pos hdata]
  unfold farmE7
  cases hs : tf.copCfg.state <;> simp_all

/-- Agreement of state and flags is all that honesty takes. -/
theorem farmHonest_iff (tf : FarmFrame) : FarmHonest tf ↔ FarmConsistent tf.copCfg := by
  constructor
  · exact FarmHonest.consistent
  · intro h
    refine ⟨h, ?_, ?_⟩
    · intro hrep hdr frameData rxFull htype henq
      rw [reportedLockout_eq] at hrep
      have hopen := open_of_enq rxFull (loadFrame tf hdr frameData) htype henq
      have hlock : tf.copCfg.state = .stateLockout := h.lockout_iff.mpr hrep
      rw [show (loadFrame tf hdr frameData).copCfg = tf.copCfg from rfl, hlock] at hopen
      exact absurd hopen (by decide)
    · intro hdr frameData rxFull htype hcmd hdata
      rw [reportedLockout_eq]
      exact lockout_unlock rxFull (loadFrame tf hdr frameData) h htype hcmd hdata

/-- No buffer is released while the receiver is in LOCKOUT. -/
def releaseUnlocked (tf : FarmFrame) : FarmOp → Prop
  | .frame _ _ _ => True
  | .release => tf.copCfg.state ≠ .stateLockout

/-- One event keeps the flags honest exactly under the condition on a release. -/
theorem farmHonest_step (tf : FarmFrame) (op : FarmOp) (h : FarmHonest tf) :
    FarmHonest (farmStep tf op) ↔ releaseUnlocked tf op := by
  have hc := h.consistent
  rw [farmHonest_iff]
  cases op with
  | frame hdr frameData rxFull =>
    have hstep : FarmConsistent (farmStep tf (.frame hdr frameData rxFull)).copCfg :=
      consistent_farm1 rxFull (loadFrame tf hdr frameData) hc
    simp only [releaseUnlocked, iff_true]
    exact hstep
  | release => exact consistent_release_iff tf hc

/-- From OPEN with all flags down, the receiver is honest in every state of a run exactly
when no buffer is released in LOCKOUT.
SOURCE: osdlp_cop.c:49-224, 314-336; osdlp_tc.c:470-484 -/
theorem farmHonest_run_iff (tf : FarmFrame) (hopen : tf.copCfg.state = .stateOpen)
    (hl : tf.copCfg.lockout = false) (hw : tf.copCfg.wait = false)
    (_hr : tf.copCfg.retransmit = false) (ops : List FarmOp) :
    (∀ n, FarmHonest (run farmStep tf (ops.take n))) ↔
      Guarded farmStep releaseUnlocked tf ops := by
  have hstart : FarmHonest tf := by
    rw [farmHonest_iff]
    constructor <;> simp [hopen, hl, hw]
  have hall : Guarded farmStep (fun _ _ => True) tf ops :=
    Guarded.of_forall (fun _ _ => trivial) tf ops
  exact forall_take_iff_guarded (J := fun _ => True) (fun _ _ _ _ _ => trivial)
    (fun tf op h _ _ => farmHonest_step tf op h) hstart trivial hall

/-- A receiver waiting for frame 0 with a window of width 10. -/
def openFarm : FarmFrame :=
  { (default : FarmFrame) with copCfg := osdlpPrepareFarm default .stateOpen 10 }

/-- A type-A frame numbered 100, outside the window of `openFarm`. -/
def farFrame : TcPrimaryHdr := { (default : TcPrimaryHdr) with frameSeqNum := 100 }

/-- A lockout undone by an UNLOCK command before the buffer is released. -/
theorem farmHonest_run_iff_unlocked :
    let unlock : TcPrimaryHdr := { farFrame with bypass := .typeB, ctrlCmd := .command }
    let ops : List FarmOp :=
      [.frame farFrame default false, .frame unlock default false, .release]
    (∀ n, FarmHonest (run farmStep openFarm (ops.take n))) ↔
      Guarded farmStep releaseUnlocked openFarm ops :=
  farmHonest_run_iff openFarm rfl rfl rfl rfl _

/-- A frame outside the window locks the receiver out; the release of a buffer then opens
it with the lockout flag still up, and the next frame is accepted under a control word
that says lockout. -/
theorem not_farmHonest_release_lockout :
    let ops : List FarmOp := [.frame farFrame default false, .release]
    let tf := run farmStep openFarm ops
    openFarm.copCfg.state = .stateOpen ∧ openFarm.copCfg.lockout = false ∧
      openFarm.copCfg.wait = false ∧ openFarm.copCfg.retransmit = false ∧
      tf.copCfg.state = .stateOpen ∧ reportedLockout tf = true ∧
      (osdlpFarm1 false (loadFrame tf default default)).1 = .enq ∧ ¬ FarmHonest tf := by
  intro ops tf
  have hrep : reportedLockout tf = true := by
    rw [reportedLockout_eq]
    decide
  have henq : (osdlpFarm1 false (loadFrame tf default default)).1 = .enq := by decide
  exact ⟨rfl, rfl, rfl, rfl, by decide, hrep, henq,
    fun h => h.no_accept hrep default default false rfl henq⟩

end Osdlp.Analysis
