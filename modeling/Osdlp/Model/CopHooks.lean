import Osdlp.Model.TcFrame

/-!
# The hooks of FOP-1

osdlp_cop.h:240-430 declares the queue, timer and lower-layer functions that the user of
the library supplies.  A program of FOP-1 runs on the frame structure of the sender and on
the user's own state `W`; a hook may change both, so that a hook which calls back into the
library can be written as one.  A hook that yields an item yields `none` where the source
returns a negative value.  One virtual channel is modelled, so the `vcid` argument is left
out.
-/

set_option autoImplicit false

namespace Osdlp.Model

/-- SOURCE: osdlp_cop.h:56-66 -/
structure QueueItem where
  fdu : List UInt8
  rtFlag : Bool
  seqNum : UInt8
  type : TcBypass
  deriving DecidableEq, Repr, Inhabited

/-- What a program of FOP-1 runs on. -/
structure FopSt (W : Type) where
  tf : FopFrame
  world : W
  deriving DecidableEq, Repr

/-- A program of FOP-1. -/
abbrev FopM (W : Type) := StateM (FopSt W)

/-- SOURCE: osdlp_cop.h:240-430 -/
structure CopHooks (W : Type) where
  timerStart : FopM W Int
  timerCancel : FopM W Int
  cancelLowerOps : FopM W Int
  markAdAsRt : FopM W Int
  markBcAsRt : FopM W Int
  getFirstAdRtFrame : FopM W (Option QueueItem)
  resetRtFrame : QueueItem → FopM W Int
  waitQueueEnqueue : FopM W Int
  waitQueueDequeue : FopM W FopFrame
  waitQueueEmpty : FopM W Bool
  waitQueueClear : FopM W Int
  sentQueueEnqueue : QueueItem → FopM W Int
  sentQueueDequeue : FopM W Int
  sentQueueEmpty : FopM W Bool
  sentQueueClear : FopM W Int
  sentQueueHead : FopM W (Option QueueItem)
  txQueueEnqueue : List UInt8 → FopM W Int

variable {W : Type}

/-- The state with other FOP variables. -/
def FopSt.setFop (s : FopSt W) (fop : FopConfig) : FopSt W :=
  { s with tf := { s.tf with copCfg := fop } }

@[simp] theorem FopSt.setFop_copCfg (s : FopSt W) (fop : FopConfig) :
    (s.setFop fop).tf.copCfg = fop := rfl

@[simp] theorem FopSt.setFop_primaryHdr (s : FopSt W) (fop : FopConfig) :
    (s.setFop fop).tf.primaryHdr = s.tf.primaryHdr := rfl

@[simp] theorem FopSt.setFop_mission (s : FopSt W) (fop : FopConfig) :
    (s.setFop fop).tf.mission = s.tf.mission := rfl

@[simp] theorem FopSt.setFop_frameData (s : FopSt W) (fop : FopConfig) :
    (s.setFop fop).tf.frameData = s.tf.frameData := rfl

@[simp] theorem FopSt.setFop_world (s : FopSt W) (fop : FopConfig) :
    (s.setFop fop).world = s.world := rfl

/-- Reads the FOP variables. -/
def getFop : FopM W FopConfig := do
  return (← get).tf.copCfg

/-- Writes some of the FOP variables. -/
def modifyFop (f : FopConfig → FopConfig) : FopM W Unit :=
  modify fun s => s.setFop (f s.tf.copCfg)

/-- `fop.state = …` -/
def setState (state : FopState) : FopM W Unit := modifyFop fun fop => { fop with state := state }

/-- `fop.signal = …` followed by returning the same value. -/
def answer (notif : Notification) : FopM W Notification := do
  modifyFop fun fop => { fop with signal := notif }
  return notif

end Osdlp.Model
