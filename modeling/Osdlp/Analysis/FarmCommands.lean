import Osdlp.Analysis.FarmFlags
import Osdlp.Model.TcFrame

/-!
# Control commands

A control command is UNLOCK or Set V(R), each with octets of its own (`FarmCommand.octets`).
`handle_farm_typeb_cmd` looks at the first octets behind the header and not at their number, so
that it also executes what only begins like a command, or has no data field at all
(`parsesExactly_iff`).
-/

set_option autoImplicit false

namespace Osdlp.Analysis

open Osdlp.Model Osdlp.Library

/-- The control commands of FARM-1. -/
inductive FarmCommand
  | unlock
  | setVr (v : UInt8)

/-- The data field of a command. -/
def FarmCommand.octets : FarmCommand → List UInt8
  | .unlock => [0]
  | .setVr v => [setvrByte1, setvrByte2, v]

/-- The FARM variables after a command, which is always counted.  In LOCKOUT, Set V(R) is counted
only. -/
def FarmCommand.execute (farm : FarmConfig) (cmd : FarmCommand) : FarmConfig :=
  let counted := { farm with farmbCnt := nextFarmbCnt farm.farmbCnt }
  match cmd, farm.state with
  | .unlock, .stateOpen => { counted with retransmit := false }
  | .unlock, .stateWait => { counted with retransmit := false, wait := false, state := .stateOpen }
  | .unlock, .stateLockout =>
    { counted with retransmit := false, wait := false, lockout := false, state := .stateOpen }
  | .setVr v, .stateOpen => { counted with vr := v, retransmit := false }
  | .setVr v, .stateWait =>
    { counted with vr := v, retransmit := false, wait := false, state := .stateOpen }
  | .setVr _, .stateLockout => counted

/-- The data field of a received frame: the octets between its headers and its checksum. -/
def dataField (tf : FarmFrame) (rxBuffer : List UInt8) : List UInt8 :=
  (osdlpTcUnpack tf rxBuffer).frameData.data.take
    ((tcUnpackHdr rxBuffer).frameLen.toNat + 1 - tf.mission.fixedOverheadLen)

/-- FARM-1 executes the command that the data field says, and refuses a frame whose data field says
none without touching its variables. -/
structure ParsesExactly (rxFull : Bool) (tf : FarmFrame) (rxBuffer : List UInt8) : Prop where
  executes : ∀ cmd : FarmCommand, dataField tf rxBuffer = cmd.octets →
    osdlpFarm1 rxFull (osdlpTcUnpack tf rxBuffer) =
      (.ok, setFarm (osdlpTcUnpack tf rxBuffer) (cmd.execute tf.copCfg))
  refuses : (∀ cmd : FarmCommand, dataField tf rxBuffer ≠ cmd.octets) →
    (osdlpFarm1 rxFull (osdlpTcUnpack tf rxBuffer)).1 = .error ∧
      (osdlpFarm1 rxFull (osdlpTcUnpack tf rxBuffer)).2.copCfg = tf.copCfg

/-- The buffer begins like a command. -/
def BeginsLikeCommand (data : List UInt8) : Prop :=
  data.getD 0 0 = 0 ∨ data.getD 0 0 = setvrByte1 ∧ data.getD 1 0 = setvrByte2

/-- SOURCE: osdlp_cop.c:170-224, 287-304 -/
theorem handleFarmTypebCmd_unlock {tf : FarmFrame} (h : tf.frameData.data.getD 0 0 = 0) :
    handleFarmTypebCmd tf = (.ok, setFarm tf (FarmCommand.unlock.execute tf.copCfg)) := by
  unfold handleFarmTypebCmd farmE7 FarmCommand.execute
  rw [if_pos h]
  cases hstate : tf.copCfg.state <;> simp [hstate]

/-- SOURCE: osdlp_cop.c:170-224, 287-304 -/
theorem handleFarmTypebCmd_setVr {tf : FarmFrame} (h0 : tf.frameData.data.getD 0 0 = setvrByte1)
    (h1 : tf.frameData.data.getD 1 0 = setvrByte2) :
    handleFarmTypebCmd tf =
      (.ok, setFarm tf
        ((FarmCommand.setVr (tf.frameData.data.getD 2 0)).execute tf.copCfg)) := by
  unfold handleFarmTypebCmd farmE8 FarmCommand.execute
  rw [if_neg (by rw [h0]; decide), if_pos ⟨h0, h1⟩]
  cases hstate : tf.copCfg.state <;> simp [hstate]

/-- SOURCE: osdlp_cop.c:287-304 -/
theorem handleFarmTypebCmd_error {tf : FarmFrame} (h : ¬ BeginsLikeCommand tf.frameData.data) :
    handleFarmTypebCmd tf = (.error, tf) := by
  unfold BeginsLikeCommand at h
  rw [not_or] at h
  unfold handleFarmTypebCmd
  rw [if_neg h.1, if_neg h.2]

/-- What begins like a command is executed. -/
theorem handleFarmTypebCmd_ok {tf : FarmFrame} (h : BeginsLikeCommand tf.frameData.data) :
    (handleFarmTypebCmd tf).1 = .ok := by
  rcases h with h0 | ⟨h0, h1⟩
  · rw [handleFarmTypebCmd_unlock h0]
  · rw [handleFarmTypebCmd_setVr h0 h1]

/-- An octet of a buffer in front of which a list lies. -/
theorem getD_of_take {data l : List UInt8} {n : ℕ} (h : data.take n = l) {i : ℕ}
    (hi : i < l.length) : data.getD i 0 = l.getD i 0 := by
  subst h
  rw [List.length_take] at hi
  simp only [List.getD_eq_getElem?_getD, List.getElem?_take_of_lt (show i < n by omega)]

/-- **Control commands** are parsed by their grammar exactly if the data field is a command or what
lies in its place does not begin like one.
SOURCE: osdlp_cop.c:170-224, 287-304, osdlp_tc.c:86-121 -/
theorem parsesExactly_iff (rxFull : Bool) (tf : FarmFrame) (rxBuffer : List UInt8)
    (hbypass : (tcUnpackHdr rxBuffer).bypass = .typeB)
    (hctrl : (tcUnpackHdr rxBuffer).ctrlCmd = .command) :
    ParsesExactly rxFull tf rxBuffer ↔
      (∃ cmd : FarmCommand, dataField tf rxBuffer = cmd.octets) ∨
        ¬ BeginsLikeCommand (osdlpTcUnpack tf rxBuffer).frameData.data := by
  have hfarm : osdlpFarm1 rxFull (osdlpTcUnpack tf rxBuffer) =
      handleFarmTypebCmd (osdlpTcUnpack tf rxBuffer) := by
    have hb : (osdlpTcUnpack tf rxBuffer).primaryHdr.bypass = .typeB := hbypass
    have hc : (osdlpTcUnpack tf rxBuffer).primaryHdr.ctrlCmd = .command := hctrl
    unfold osdlpFarm1
    simp only [hb, hc]
  have hexecutes : ∀ cmd : FarmCommand, dataField tf rxBuffer = cmd.octets →
      osdlpFarm1 rxFull (osdlpTcUnpack tf rxBuffer) =
        (.ok, setFarm (osdlpTcUnpack tf rxBuffer) (cmd.execute tf.copCfg)) := by
    intro cmd hcmd
    rw [hfarm]
    cases cmd with
    | unlock => exact handleFarmTypebCmd_unlock (getD_of_take hcmd (i := 0) (by decide))
    | setVr v =>
      have hv : (osdlpTcUnpack tf rxBuffer).frameData.data.getD 2 0 = v :=
        getD_of_take hcmd (i := 2) (show 2 < 3 by decide)
      rw [handleFarmTypebCmd_setVr (getD_of_take hcmd (i := 0) (show 0 < 3 by decide))
        (getD_of_take hcmd (i := 1) (show 1 < 3 by decide)), hv]
      rfl
  constructor
  · intro hexact
    by_contra hno
    rw [not_or, not_not, not_exists] at hno
    have herror := (hexact.refuses hno.1).1
    rw [hfarm, handleFarmTypebCmd_ok hno.2] at herror
    exact absurd herror (by decide)
  · intro hwhen
    refine ⟨hexecutes, fun hnone => ?_⟩
    rcases hwhen with ⟨cmd, hcmd⟩ | hbegins
    · exact absurd hcmd (hnone cmd)
    · rw [hfarm, handleFarmTypebCmd_error hbegins]
      exact ⟨rfl, rfl⟩

/-- A receiver without segment headers and checksums. -/
def plainFarm : FarmFrame :=
  { openFarm with mission := { openFarm.mission with fixedOverheadLen := 5 } }

/-- A Set V(R) command of three octets. -/
theorem parsesExactly_iff_setVr :
    ParsesExactly false plainFarm [0x30, 0, 0, 7, 0, 0x82, 0, 77] ↔
      (∃ cmd : FarmCommand, dataField plainFarm [0x30, 0, 0, 7, 0, 0x82, 0, 77] = cmd.octets) ∨
        ¬ BeginsLikeCommand
          (osdlpTcUnpack plainFarm [0x30, 0, 0, 7, 0, 0x82, 0, 77]).frameData.data :=
  parsesExactly_iff false plainFarm _ (by decide) (by decide)

/-- A command frame without a data field, in a buffer that still holds an older Set V(R) command,
sets V(R). -/
theorem not_parsesExactly_empty :
    let rxBuffer : List UInt8 := [0x30, 0, 0, 4, 0, 0x82, 0, 77]
    osdlpFrameValidationCheck (osdlpTcUnpack plainFarm rxBuffer) rxBuffer = 0 ∧
      dataField plainFarm rxBuffer = [] ∧
      (osdlpFarm1 false (osdlpTcUnpack plainFarm rxBuffer)).2.copCfg.vr = 77 ∧
      ¬ ParsesExactly false plainFarm rxBuffer := by
  refine ⟨by decide, rfl, by decide, fun hexact => ?_⟩
  obtain ⟨herror, -⟩ := hexact.refuses (by rintro (_ | v) h <;> cases h)
  exact absurd herror (by decide)

end Osdlp.Analysis
