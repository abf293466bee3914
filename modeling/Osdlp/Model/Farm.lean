import Osdlp.Model.TcTypes

/-!
# FARM-1

The frame acceptance and reporting mechanism (osdlp_cop.c:49-336) and the control word it
reports (`osdlp_prepare_clcw`).  `rxFull` is the answer of `osdlp_tc_rx_queue_full`.  The
state field only ever holds an enumerator, so the `default` branches have no counterpart,
and neither has E9, the bypass flag being one bit wide.
-/

set_option autoImplicit false

namespace Osdlp.Model

/-- The receiving end of the link. -/
abbrev FarmFrame := TcTransferFrame FarmConfig

/-- Replaces the FARM variables. -/
def setFarm (tf : FarmFrame) (farm : FarmConfig) : FarmFrame := { tf with copCfg := farm }

@[simp] theorem setFarm_copCfg (tf : FarmFrame) (farm : FarmConfig) :
    (setFarm tf farm).copCfg = farm := rfl

@[simp] theorem setFarm_mission (tf : FarmFrame) (farm : FarmConfig) :
    (setFarm tf farm).mission = tf.mission := rfl

@[simp] theorem setFarm_frameData (tf : FarmFrame) (farm : FarmConfig) :
    (setFarm tf farm).frameData = tf.frameData := rfl

@[simp] theorem setFarm_primaryHdr (tf : FarmFrame) (farm : FarmConfig) :
    (setFarm tf farm).primaryHdr = tf.primaryHdr := rfl

/-- SOURCE: osdlp_cop.c:55-60 -/
def osdlpResetWait (tf : FarmFrame) : FarmFrame :=
  setFarm tf { tf.copCfg with wait := false, state := .stateOpen }

/-- SOURCE: osdlp_cop.c:49-53 -/
def osdlpBufferRelease (tf : FarmFrame) : FarmFrame := osdlpResetWait tf

/-- SOURCE: osdlp_cop.c:62-79 -/
def farmE1 (tf : FarmFrame) : FarmResult × FarmFrame :=
  match tf.copCfg.state with
  | .stateOpen =>
    let farm := { tf.copCfg with vr := UInt8.ofNat ((tf.copCfg.vr.toNat + 1) % 256) }
    (.enq, setFarm tf (if farm.retransmit then { farm with retransmit := false } else farm))
  | .stateWait => (.error, tf)
  | .stateLockout => (.discard, tf)

/-- SOURCE: osdlp_cop.c:81-97 -/
def farmE2 (tf : FarmFrame) : FarmResult × FarmFrame :=
  match tf.copCfg.state with
  | .stateOpen =>
    (.discard, setFarm tf { tf.copCfg with retransmit := true, wait := true, state := .stateWait })
  | .stateWait => (.discard, tf)
  | .stateLockout => (.discard, tf)

/-- SOURCE: osdlp_cop.c:99-113 -/
def farmE3 (tf : FarmFrame) : FarmResult × FarmFrame :=
  match tf.copCfg.state with
  | .stateOpen => (.discard, setFarm tf { tf.copCfg with retransmit := true })
  | .stateWait => (.discard, tf)
  | .stateLockout => (.discard, tf)

/-- SOURCE: osdlp_cop.c:115-128 -/
def farmE4 (tf : FarmFrame) : FarmResult × FarmFrame :=
  match tf.copCfg.state with
  | .stateOpen => (.discard, tf)
  | .stateWait => (.discard, tf)
  | .stateLockout => (.discard, tf)

/-- SOURCE: osdlp_cop.c:130-147 -/
def farmE5 (tf : FarmFrame) : FarmResult × FarmFrame :=
  match tf.copCfg.state with
  | .stateOpen => (.discard, setFarm tf { tf.copCfg with state := .stateLockout, lockout := true })
  | .stateWait => (.discard, setFarm tf { tf.copCfg with state := .stateLockout, lockout := true })
  | .stateLockout => (.discard, tf)

/-- The FARM-B counter after one more type-B frame. -/
def nextFarmbCnt (cnt : UInt8) : UInt8 := UInt8.ofNat ((cnt.toNat + 1) % 4)

/-- SOURCE: osdlp_cop.c:149-168 -/
def farmE6 (tf : FarmFrame) : FarmResult × FarmFrame :=
  let counted := setFarm tf { tf.copCfg with farmbCnt := nextFarmbCnt tf.copCfg.farmbCnt }
  match tf.copCfg.state with
  | .stateOpen => (.priorityEnq, counted)
  | .stateWait => (.priorityEnq, counted)
  | .stateLockout => (.priorityEnq, counted)

/-- SOURCE: osdlp_cop.c:170-197 -/
def farmE7 (tf : FarmFrame) : FarmResult × FarmFrame :=
  let farm := { tf.copCfg with farmbCnt := nextFarmbCnt tf.copCfg.farmbCnt, retransmit := false }
  match tf.copCfg.state with
  | .stateOpen => (.ok, setFarm tf farm)
  | .stateWait => (.ok, setFarm tf { farm with wait := false, state := .stateOpen })
  | .stateLockout =>
    (.ok, setFarm tf { farm with wait := false, lockout := false, state := .stateOpen })

/-- SOURCE: osdlp_cop.c:199-224 -/
def farmE8 (tf : FarmFrame) : FarmResult × FarmFrame :=
  let counted := { tf.copCfg with farmbCnt := nextFarmbCnt tf.copCfg.farmbCnt }
  let farm := { counted with vr := tf.frameData.data.getD 2 0, retransmit := false }
  match tf.copCfg.state with
  | .stateOpen => (.ok, setFarm tf farm)
  | .stateWait => (.ok, setFarm tf { farm with wait := false, state := .stateOpen })
  | .stateLockout => (.ok, setFarm tf counted)

/-- The positive part of the window, in the integer arithmetic of the source.
SOURCE: osdlp_cop.c:226-238 -/
def conditionFarmE3 (tf : FarmFrame) : Bool :=
  let ns : ℤ := tf.primaryHdr.frameSeqNum.toNat
  let vr : ℤ := tf.copCfg.vr.toNat
  let pw : ℤ := tf.copCfg.pw.toNat
  (ns > vr && ns ≤ vr + pw - 1) ||
    (vr > (vr + pw - 1).tmod 256 && ns < vr && ns < (vr + pw - 1).tmod 256)

/-- The negative part of the window.
SOURCE: osdlp_cop.c:240-250 -/
def conditionFarmE4 (tf : FarmFrame) : Bool :=
  let ns : ℤ := tf.primaryHdr.frameSeqNum.toNat
  let vr : ℤ := tf.copCfg.vr.toNat
  let pw : ℤ := tf.copCfg.pw.toNat
  let nw : ℤ := tf.copCfg.nw.toNat
  (ns < vr && ns ≥ vr - nw) ||
    ((ns + pw).tmod 256 ≥ vr && (ns + pw).tmod 256 < vr + pw - 1)

/-- SOURCE: osdlp_cop.c:252-283 -/
def handleFarmTypea (rxFull : Bool) (tf : FarmFrame) : FarmResult × FarmFrame :=
  if tf.primaryHdr.frameSeqNum = tf.copCfg.vr then
    if !rxFull then farmE1 tf else farmE2 tf
  else if conditionFarmE3 tf then farmE3 tf
  else if conditionFarmE4 tf then farmE4 tf
  else farmE5 tf

/-- SOURCE: osdlp_cop.c:287-304 -/
def handleFarmTypebCmd (tf : FarmFrame) : FarmResult × FarmFrame :=
  if tf.frameData.data.getD 0 0 = 0 then farmE7 tf
  else if tf.frameData.data.getD 0 0 = setvrByte1 ∧ tf.frameData.data.getD 1 0 = setvrByte2 then
    farmE8 tf
  else (.error, tf)

/-- SOURCE: osdlp_cop.c:306-312 -/
def handleFarmTypebData (tf : FarmFrame) : FarmResult × FarmFrame := farmE6 tf

/-- SOURCE: osdlp_cop.c:314-336 -/
def osdlpFarm1 (rxFull : Bool) (tf : FarmFrame) : FarmResult × FarmFrame :=
  match tf.primaryHdr.bypass with
  | .typeA => handleFarmTypea rxFull tf
  | .typeB =>
    match tf.primaryHdr.ctrlCmd with
    | .data => handleFarmTypebData tf
    | .command => handleFarmTypebCmd tf

/-- The control word with the fields that `osdlp_prepare_clcw` sets.
SOURCE: osdlp_tc.c:472-482 -/
def prepareClcw (tf : FarmFrame) : ClcwFrame :=
  { tf.mission.clcw with
    ctrlWordType := false
    copInEffect := 1
    farmBCounter := BitVec.ofNat 2 tf.copCfg.farmbCnt.toNat
    lockout := tf.copCfg.lockout
    rt := tf.copCfg.retransmit
    wait := tf.copCfg.wait
    reportValue := tf.copCfg.vr
    vcid := BitVec.ofNat 6 tf.mission.vcid.toNat
    clcwVersionNum := 0 }

/-- SOURCE: osdlp_tc.c:470-484 -/
def osdlpPrepareClcw (tf : FarmFrame) : List UInt8 × FarmFrame :=
  (osdlpClcwPack (prepareClcw tf), { tf with mission := { tf.mission with clcw := prepareClcw tf } })

end Osdlp.Model
