import Osdlp.Model.Clcw

/-!
# The telecommand data model

The enumerations and structures of osdlp_tc.h and osdlp_cop.h.  Octets and eight-bit
counters are `UInt8`, bit fields are `BitVec`s, sixteen-bit lengths are `ℕ` with the
wrap written out where the code stores them, and a pointer into a buffer is the list of
the octets from there on.

`struct cop_config` is a union of the FOP and the FARM variables, and an end of the link
only ever uses one view of it; `TcTransferFrame` takes that view as a parameter.
-/

set_option autoImplicit false

namespace Osdlp.Model

/-- `SETVR_BYTE1` -/
def setvrByte1 : UInt8 := 0x82

/-- `SETVR_BYTE2` -/
def setvrByte2 : UInt8 := 0

/-- `tc_bypass_t` -/
inductive TcBypass
  | typeA
  | typeB
  deriving DecidableEq, Repr, Inhabited

/-- `tc_ctrl_t` -/
inductive TcCtrl
  | data
  | command
  deriving DecidableEq, Repr, Inhabited

/-- `tc_loop_state_t`: the state of reception of segmented FDUs. -/
inductive TcLoopState
  | loopOpen
  | loopClosed
  deriving DecidableEq, Repr, Inhabited

/-- `seg_status_t` -/
inductive SegStatus
  | ended
  | inProgress
  deriving DecidableEq, Repr, Inhabited

/-- `farm_result_t` -/
inductive FarmResult
  | ok
  | enq
  | priorityEnq
  | discard
  | error
  deriving DecidableEq, Repr, Inhabited

/-- `tc_rx_result_t` -/
inductive TcRxResult
  | ok
  | frameLenErr
  | configErr
  | frameValErr
  | queueErr
  | copErr
  deriving DecidableEq, Repr, Inhabited

/-- The numeric value of `tc_rx_result_t`. -/
def TcRxResult.code : TcRxResult → Int
  | .ok => 0
  | .frameLenErr => 1
  | .configErr => 2
  | .frameValErr => 3
  | .queueErr => 4
  | .copErr => 5

/-- `tc_seq_flag_t` -/
inductive TcSeqFlag
  | contSeg
  | firstSeg
  | lastSeg
  | unseg
  deriving DecidableEq, Repr, Inhabited

/-- `notification_t` -/
inductive Notification
  | acceptDir
  | rejectDir
  | positiveDir
  | negativeDir
  | suspend
  | alertLimit
  | alertT1
  | alertLockout
  | alertSynch
  | alertNnr
  | alertClcw
  | alertLlif
  | alertTerm
  | acceptTx
  | rejectTx
  | positiveTx
  | negativeTx
  | delayResp
  | undefError
  | ignore
  | na
  deriving DecidableEq, Repr, Inhabited

/-- The notifications `ALERT_LIMIT` to `ALERT_TERM`. -/
def Notification.isAlert : Notification → Bool
  | .alertLimit | .alertT1 | .alertLockout | .alertSynch | .alertNnr | .alertClcw | .alertLlif
  | .alertTerm => true
  | _ => false

/-- `farm_state_t` -/
inductive FarmState
  | stateOpen
  | stateWait
  | stateLockout
  deriving DecidableEq, Repr, Inhabited

/-- `fop_state_t` -/
inductive FopState
  | active
  | rtNoWait
  | rtWait
  | initNoBc
  | initBc
  | init
  deriving DecidableEq, Repr, Inhabited

/-- SOURCE: osdlp_tc.h:93-102 -/
structure TcPrimaryHdr where
  versionNum : BitVec 2
  bypass : TcBypass
  ctrlCmd : TcCtrl
  rsvdSpare : BitVec 2
  spacecraftId : BitVec 10
  vcid : BitVec 6
  frameLen : BitVec 10
  frameSeqNum : UInt8
  deriving DecidableEq, Repr, Inhabited

/-- SOURCE: osdlp_tc.h:114-117 -/
structure TcSegHdr where
  seqFlag : TcSeqFlag
  mapId : BitVec 6
  deriving DecidableEq, Repr, Inhabited

/-- SOURCE: osdlp_tc.h:122-126.  `data` is what lies from the data pointer on; only its
first `dataLen` octets belong to the frame. -/
structure TcFdf where
  segHdr : TcSegHdr
  data : List UInt8
  dataLen : ℕ
  deriving DecidableEq, Repr, Inhabited

/-- The octets of the data field. -/
def TcFdf.payload (d : TcFdf) : List UInt8 := d.data.take d.dataLen

/-- SOURCE: osdlp_tc.h:131-135 -/
structure TcUtilBuf where
  buffer : List UInt8
  bufferedLength : ℕ
  loopState : TcLoopState
  deriving DecidableEq, Repr, Inhabited

/-- SOURCE: osdlp_tc.h:140-156 -/
structure TcMissionParams where
  util : TcUtilBuf
  crcFlag : Bool
  segHdrFlag : Bool
  maxSduLen : ℕ
  maxDataLen : ℕ
  maxFrameLen : ℕ
  fixedOverheadLen : ℕ
  spacecraftId : UInt16
  vcid : UInt8
  versionNum : UInt8
  unlockCmd : UInt8
  setVrCmd : List UInt8
  clcw : ClcwFrame
  deriving DecidableEq, Repr, Inhabited

/-- SOURCE: osdlp_tc.h:161-164 -/
structure SegmentStatus where
  flag : SegStatus
  octetsTxed : ℕ
  deriving DecidableEq, Repr, Inhabited

/-- SOURCE: osdlp_tc.h:166-176 -/
structure FarmConfig where
  state : FarmState
  lockout : Bool
  wait : Bool
  retransmit : Bool
  vr : UInt8
  farmbCnt : UInt8
  w : UInt8
  pw : UInt8
  nw : UInt8
  deriving DecidableEq, Repr, Inhabited

/-- SOURCE: osdlp_tc.h:202-215 -/
structure FopConfig where
  state : FopState
  vs : UInt8
  nnr : UInt8
  t1Init : UInt16
  txLim : UInt8
  txCnt : UInt8
  slideWnd : UInt8
  tt : UInt8
  ss : UInt8
  signal : Notification
  deriving DecidableEq, Repr, Inhabited

/-- SOURCE: osdlp_tc.h:224-231 -/
structure TcTransferFrame (Cop : Type) where
  primaryHdr : TcPrimaryHdr
  mission : TcMissionParams
  copCfg : Cop
  frameData : TcFdf
  segStatus : SegmentStatus
  crc : UInt16
  deriving DecidableEq, Repr, Inhabited

/-- SOURCE: osdlp_cop.c:23-37 -/
def osdlpPrepareFop (fop : FopConfig) (slideWnd : UInt16) (state : FopState) (t1Init : UInt16)
    (timeoutType txLim : UInt8) : FopConfig :=
  { fop with
    nnr := 0
    slideWnd := slideWnd.toUInt8
    ss := 0
    state := state
    t1Init := t1Init
    tt := timeoutType
    txCnt := 0
    txLim := txLim
    vs := 0
    signal := .ignore }

/-- SOURCE: osdlp_cop.c:39-47 -/
def osdlpPrepareFarm (farm : FarmConfig) (state : FarmState) (windowWidth : UInt8) : FarmConfig :=
  { farm with
    state := state
    pw := windowWidth / 2
    nw := windowWidth / 2
    w := windowWidth }

end Osdlp.Model
