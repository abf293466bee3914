import Osdlp.Interface.FopRun
import Osdlp.Model.Farm

/-!
# COP-1

A sender, a receiver, and the two channels between them.  What the sender puts on its
transmission queue is the uplink, octet by octet; the receiver unpacks the frame at its
head and hands it to FARM-1.  The downlink carries packed control words.  Either channel
loses what a mask says, and neither reorders.  `delivered` is history: the payloads of the
frames on which FARM-1 returned `COP_ENQ`.
-/

set_option autoImplicit false

namespace Osdlp.Interface

open Osdlp.Model Osdlp.Library

/-- Both ends of the link and what is in flight. -/
structure Cop1 where
  fop : Fop
  farm : FarmFrame
  downlink : List (List UInt8)
  delivered : List (List UInt8)

/-- What is in flight towards the receiver. -/
def Cop1.uplink (c : Cop1) : List (List UInt8) := c.fop.world.txQueue

/-- The events of the link.  The handlers of the sender come with the mask of the frames
that `osdlp_cancel_lower_ops` spares, in case it is called. -/
inductive Cop1Event
  | request (hdr : TcPrimaryHdr) (frameData : TcFdf)
  | adAccept (keep : List Bool)
  | clcw (keep : List Bool)
  | timerExpired (keep : List Bool)
  | resumeAd (keep : List Bool)
  | arrive (rxFull : Bool)
  | bufferRelease
  | report
  | loseUp (keep : List Bool)
  | loseDown (keep : List Bool)

/-- The receiver takes a frame off the uplink. -/
def Cop1.arrived (c : Cop1) (rxFull : Bool) (frame : List UInt8) (rest : List (List UInt8)) :
    Cop1 :=
  let rx := osdlpTcUnpack c.farm frame
  let result := osdlpFarm1 rxFull rx
  { c with
    fop := onWorld c.fop fun w => { w with txQueue := rest }
    farm := result.2
    delivered := if result.1 = .enq then c.delivered ++ [rx.frameData.payload] else c.delivered }

/-- One event.  Nothing happens when a channel has nothing to deliver. -/
def cop1Step (c : Cop1) : Cop1Event → Cop1
  | .request hdr frameData => { c with fop := fopStep c.fop ([], .request hdr frameData) }
  | .adAccept keep => { c with fop := fopStep c.fop (keep, .adAccept) }
  | .clcw keep =>
    match c.downlink with
    | [] => c
    | ocf :: rest => { c with fop := fopStep c.fop (keep, .clcw ocf), downlink := rest }
  | .timerExpired keep => { c with fop := fopStep c.fop (keep, .timerExpired) }
  | .resumeAd keep => { c with fop := fopStep c.fop (keep, .resumeAd) }
  | .arrive rxFull =>
    match c.uplink with
    | [] => c
    | frame :: rest => c.arrived rxFull frame rest
  | .bufferRelease => { c with farm := osdlpBufferRelease c.farm }
  | .report =>
    let clcw := osdlpPrepareClcw c.farm
    { c with farm := clcw.2, downlink := c.downlink ++ [clcw.1] }
  | .loseUp keep =>
    { c with fop := onWorld c.fop fun w => { w with txQueue := survivors keep w.txQueue } }
  | .loseDown keep => { c with downlink := survivors keep c.downlink }

/-- The data field is within its buffer, and the frame that carries it within the 1024
octets that the length field can express. -/
def Fits (overheadLen : ℕ) (d : TcFdf) : Prop :=
  d.dataLen ≤ d.data.length ∧ overheadLen + d.dataLen ≤ 1024

instance (overheadLen : ℕ) (d : TcFdf) : Decidable (Fits overheadLen d) :=
  inferInstanceAs (Decidable (_ ∧ _))

/-- Requests are of type A, and their data fit into a frame. -/
def Cop1Event.WellFormed (overheadLen : ℕ) : Cop1Event → Prop
  | .request hdr frameData => hdr.bypass = .typeA ∧ Fits overheadLen frameData
  | _ => True

instance (overheadLen : ℕ) (e : Cop1Event) : Decidable (e.WellFormed overheadLen) :=
  match e with
  | .request _ _ => inferInstanceAs (Decidable (_ ∧ _))
  | .adAccept _ | .clcw _ | .timerExpired _ | .resumeAd _ | .arrive _ | .bufferRelease | .report
  | .loseUp _ | .loseDown _ => inferInstanceAs (Decidable True)

/-- What happens without the user's doing and without a loss: the handlers run, frames and reports
arrive, and the receiver has room. -/
def Cop1Event.Repairs : Cop1Event → Prop
  | .timerExpired _ | .adAccept _ | .clcw _ | .bufferRelease | .report => True
  | .arrive rxFull => rxFull = false
  | .request _ _ | .resumeAd _ | .loseUp _ | .loseDown _ => False

/-- Nothing is requested by such an event. -/
theorem Cop1Event.Repairs.wellFormed {e : Cop1Event} (h : e.Repairs) (overheadLen : ℕ) :
    e.WellFormed overheadLen := by
  cases e with
  | request => exact h.elim
  | _ => trivial

/-- The AD service has been started at both ends, and nothing has been sent yet. -/
structure Started (c : Cop1) : Prop where
  active : c.fop.tf.copCfg.state = .active
  ss : c.fop.tf.copCfg.ss = 0
  nnr : c.fop.tf.copCfg.nnr = c.fop.tf.copCfg.vs
  vr : c.farm.copCfg.vr = c.fop.tf.copCfg.vs
  window : 1 ≤ c.fop.tf.copCfg.slideWnd.toNat
  txLim : 1 ≤ c.fop.tf.copCfg.txLim.toNat
  farmOpen : c.farm.copCfg.state = .stateOpen
  waitQueue : c.fop.world.waitQueue = []
  sentQueue : c.fop.world.sentQueue = []
  accepted : c.fop.world.accepted = []
  uplink : c.uplink = []
  downlink : c.downlink = []
  delivered : c.delivered = []

/-- Both ends frame in the same way, and the overhead is what `osdlp_tc_init` makes it. -/
structure SameFraming (c : Cop1) : Prop where
  overhead : c.fop.tf.mission.fixedOverheadLen = c.fop.tf.mission.overhead
  segHdrFlag : c.farm.mission.segHdrFlag = c.fop.tf.mission.segHdrFlag
  overheadLen : c.farm.mission.fixedOverheadLen = c.fop.tf.mission.fixedOverheadLen

end Osdlp.Interface
