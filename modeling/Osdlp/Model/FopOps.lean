import Osdlp.Library.StateRules
import Osdlp.Model.CopHooks

/-!
# The operations of FOP-1

The building blocks of the handlers (osdlp_cop.c:338-660): initialisation, alert and resume,
the search for something to transmit, the transmission of the three kinds of frame,
retransmission, and the removal of acknowledged frames.

`osdlp_look_for_directive` and `osdlp_bc_accept` call each other for as long as the hooks
report a command to retransmit; they take the depth of that recursion and yield `none`
where it is used up.
-/

set_option autoImplicit false

namespace Osdlp.Model

open Osdlp.Library

variable {W : Type} (h : CopHooks W)

/-- SOURCE: osdlp_cop.c:595-603 -/
def osdlpPurgeSentQueue : FopM W Int := do
  let ret ← h.sentQueueClear
  if ret < 0 then
    return -1
  return 0

/-- SOURCE: osdlp_cop.c:605-613 -/
def osdlpPurgeWaitQueue : FopM W Int := do
  let ret ← h.waitQueueClear
  if ret < 0 then
    return -1
  return 0

/-- SOURCE: osdlp_cop.c:338-353 -/
def osdlpInitializeCop : FopM W Int := do
  let ret ← osdlpPurgeWaitQueue h
  if ret < 0 then
    return -1
  let ret ← osdlpPurgeSentQueue h
  if ret < 0 then
    return -1
  modifyFop fun fop => { fop with txCnt := 1, ss := 0 }
  return 0

/-- SOURCE: osdlp_cop.c:355-374 -/
def osdlpAlert : FopM W Int := do
  let ret ← h.timerCancel
  if ret < 0 then
    return -1
  let ret ← osdlpPurgeWaitQueue h
  if ret < 0 then
    return -1
  let ret ← osdlpPurgeSentQueue h
  if ret < 0 then
    return -1
  modifyFop fun fop => { fop with signal := .negativeTx }
  return 0

/-- SOURCE: osdlp_cop.c:376-385 -/
def osdlpResume : FopM W Int := do
  let ret ← h.timerStart
  if ret < 0 then
    return -1
  modifyFop fun fop => { fop with ss := 0 }
  return 0

/-- SOURCE: osdlp_cop.c:387-393 -/
def conditionFopInwindow (fop : FopConfig) : Bool :=
  fop.vs ≥ fop.nnr || fop.vs.toNat < (fop.nnr.toNat + fop.slideWnd.toNat) % 256

/-- The test for room in the window, which has one form for a window that wraps round and
one for a window that does not.
SOURCE: osdlp_cop.c:416-417, 431-432 -/
def fopRoom (fop : FopConfig) : Bool :=
  if fop.nnr.toNat + fop.slideWnd.toNat ≥ 256 then conditionFopInwindow fop
  else fop.vs.toNat < fop.nnr.toNat + fop.slideWnd.toNat

/-- `osdlp_tc_pack` into the utility buffer: the octets that `item.fdu` then points to. -/
def packFrame (data : List UInt8) (length : ℕ) : FopM W (List UInt8) := do
  let s ← get
  let (fdu, tf) := osdlpTcPack s.tf data length
  set { s with tf := tf }
  return fdu

/-- SOURCE: osdlp_cop.c:482-514 -/
def osdlpTransmitTypeAd : FopM W Int := do
  let waitItem ← h.waitQueueDequeue
  let fdu ← packFrame waitItem.frameData.data waitItem.frameData.dataLen
  let noneSent ← h.sentQueueEmpty
  if noneSent then
    modifyFop fun fop => { fop with txCnt := 1 }
  let _ ← h.timerStart
  let fop ← getFop
  let ret ← h.sentQueueEnqueue { fdu := fdu, rtFlag := false, seqNum := fop.vs, type := .typeA }
  modifyFop fun fop => { fop with vs := UInt8.ofNat ((fop.vs.toNat + 1) % 256) }
  if ret < 0 then
    return -1
  let ret ← h.txQueueEnqueue fdu
  if ret < 0 then
    return -1
  return 0

/-- The length field of the frame being sent.
SOURCE: osdlp_cop.c:524-525, 551-552 -/
def setFrameLen : FopM W Unit :=
  modify fun s =>
    { s with tf := { s.tf with primaryHdr := { s.tf.primaryHdr with
      frameLen := BitVec.ofNat 10
        (u16 (s.tf.mission.fixedOverheadLen + s.tf.frameData.dataLen - 1)) } } }

/-- SOURCE: osdlp_cop.c:516-542 -/
def osdlpTransmitTypeBc : FopM W Int := do
  let s ← get
  let fdu ← packFrame s.tf.frameData.data s.tf.frameData.dataLen
  modifyFop fun fop => { fop with txCnt := 1 }
  setFrameLen
  let _ ← h.timerStart
  let fop ← getFop
  let ret ← h.sentQueueEnqueue { fdu := fdu, rtFlag := false, seqNum := fop.vs, type := .typeB }
  if ret < 0 then
    return -1
  let ret ← h.txQueueEnqueue fdu
  if ret < 0 then
    return -1
  return 0

/-- SOURCE: osdlp_cop.c:544-559 -/
def osdlpTransmitTypeBd : FopM W Int := do
  let s ← get
  let fdu ← packFrame s.tf.frameData.data s.tf.frameData.dataLen
  setFrameLen
  let ret ← h.txQueueEnqueue fdu
  if ret < 0 then
    return -1
  return 0

/-- The retransmission counter after one more attempt. -/
def nextTxCnt (fop : FopConfig) : FopConfig :=
  { fop with txCnt := UInt8.ofNat ((fop.txCnt.toNat + 1) % 256) }

/-- SOURCE: osdlp_cop.c:561-576 -/
def osdlpInitiateAdRetransmission : FopM W Int := do
  let _ ← h.cancelLowerOps
  modifyFop nextTxCnt
  let ret ← h.timerStart
  if ret < 0 then
    return -1
  let ret ← h.markAdAsRt
  if ret < 0 then
    return -1
  return 0

/-- SOURCE: osdlp_cop.c:578-593 -/
def osdlpInitiateBcRetransmission : FopM W Int := do
  let _ ← h.cancelLowerOps
  modifyFop nextTxCnt
  let ret ← h.timerStart
  if ret < 0 then
    return -1
  let ret ← h.markBcAsRt
  if ret < 0 then
    return -1
  return 0

/-- The first half of `osdlp_look_for_fdu`: the first frame marked for retransmission goes
out.  The result is what the function returns early, if it does.
SOURCE: osdlp_cop.c:398-412 -/
def lookForRetransmission : FopM W (Option Notification) := do
  let noneSent ← h.sentQueueEmpty
  if noneSent then
    return none
  let first ← h.getFirstAdRtFrame
  match first with
  | none => return none
  | some item =>
    let ret ← h.resetRtFrame item
    if ret < 0 then
      return some .undefError
    let ret ← h.txQueueEnqueue item.fdu
    if ret < 0 then
      let notif ← answer .undefError
      return some notif
    return none

/-- The second half of `osdlp_look_for_fdu`: a waiting frame goes out if there is room.
SOURCE: osdlp_cop.c:415-449 -/
def lookForWaiting : FopM W Notification := do
  let noneWaiting ← h.waitQueueEmpty
  if noneWaiting then
    return .ignore
  let fop ← getFop
  if fopRoom fop then
    let ret ← osdlpTransmitTypeAd h
    if ret < 0 then
      answer .undefError
    else
      answer .acceptTx
  else
    answer .delayResp

/-- SOURCE: osdlp_cop.c:395-450 -/
def osdlpLookForFdu : FopM W Notification := do
  let early ← lookForRetransmission h
  match early with
  | some notif => return notif
  | none => lookForWaiting h

/-- The loop of `osdlp_remove_acked_frames`, which reads `slide_wnd` again after every removal.
That field has eight bits, so whatever the hooks make of it the loop ends at the latest when
`counter` is 256, which the last argument counts down to.
SOURCE: osdlp_cop.c:620-640 -/
def removeAckedLoop (nr : UInt8) : ℕ → ℕ → FopM W Int
  | _, 0 => return 1
  | counter, rounds + 1 => do
    let head ← h.sentQueueHead
    match head with
    | none => return 0
    | some item =>
      if item.seqNum = nr then
        return 0
      let ret ← h.sentQueueDequeue
      if ret < 0 then
        return -1
      modifyFop fun fop => { fop with nnr := nr, txCnt := 1 }
      let fop ← getFop
      if counter + 1 > fop.slideWnd.toNat then
        return 1
      removeAckedLoop nr (counter + 1) rounds

/-- SOURCE: osdlp_cop.c:615-642 -/
def osdlpRemoveAckedFrames (nr : UInt8) : FopM W Int := removeAckedLoop h nr 0 256

/-- SOURCE: osdlp_cop.c:644-661 -/
def osdlpReleaseCopyOfBc : FopM W Int := do
  let head ← h.sentQueueHead
  match head with
  | none => return -1
  | some item =>
    if item.type = .typeB then
      let ret ← h.sentQueueDequeue
      if ret < 0 then
        return -1
      return 0
    return 0

/-- An alert that ends the service: `osdlp_alert`, the state INIT, the notification. -/
def alertTo (notif : Notification) : FopM W Notification := do
  let ret ← osdlpAlert h
  if ret < 0 then
    answer .undefError
  else
    setState .init
    answer notif

/-- `osdlp_alert` and a notification in state INIT, which stays as it is. -/
def alertInInit (notif : Notification) : FopM W Notification := do
  let ret ← osdlpAlert h
  if ret < 0 then
    answer .undefError
  else
    answer notif

/-- What a handler returns after `osdlp_look_for_fdu` or `osdlp_look_for_directive`. -/
def report (notif : Notification) : FopM W Notification := do
  if notif ≠ .ignore then
    answer notif
  else
    let fop ← getFop
    return fop.signal

/-- The lower-layer rejections: an alert in every state, which in INIT stays as it is.
SOURCE: osdlp_cop.c:2795-2864 -/
def rejectAlert : FopM W Notification := do
  let fop ← getFop
  match fop.state with
  | .active | .rtNoWait | .rtWait | .initNoBc | .initBc => alertTo h .alertLlif
  | .init => alertInInit h .alertLlif

/-- SOURCE: osdlp_cop.c:2896-2965 -/
def osdlpBcReject : FopM W Notification := rejectAlert h

/-- `osdlp_bc_accept` over the `osdlp_look_for_directive` it calls.
SOURCE: osdlp_cop.c:2866-2894 -/
def bcAcceptWith (look : FopM W (Option Notification)) : FopM W (Option Notification) := do
  let fop ← getFop
  match fop.state with
  | .active | .rtNoWait | .rtWait | .initNoBc | .init => return some .ignore
  | .initBc =>
    let result ← look
    match result with
    | none => return none
    | some notif => some <$> report notif

/-- SOURCE: osdlp_cop.c:452-480 -/
def osdlpLookForDirective : ℕ → FopM W (Option Notification)
  | 0 => return none
  | fuel + 1 => do
    let head ← h.sentQueueHead
    match head with
    | none => some <$> answer .undefError
    | some item =>
      if item.rtFlag ∧ item.type = .typeB then
        let ret ← h.txQueueEnqueue item.fdu
        if ret < 0 then
          some <$> osdlpBcReject h
        else
          let ret ← h.resetRtFrame { item with rtFlag := false }
          if ret < 0 then
            return some .undefError
          else
            bcAcceptWith (osdlpLookForDirective fuel)
      else
        return some .acceptDir

/-- SOURCE: osdlp_cop.c:2866-2894 -/
def osdlpBcAccept (fuel : ℕ) : FopM W (Option Notification) :=
  bcAcceptWith (osdlpLookForDirective h fuel)

end Osdlp.Model
