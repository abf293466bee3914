import Osdlp.Model.FopOps

/-!
# FOP-1

The event handlers of the sender (osdlp_cop.c:663-1973), the three functions that choose
among them (`osdlp_handle_clcw`, `osdlp_handle_timer_expired`, `osdlp_req_transfer_fdu`),
the directives and the responses of the lower layer.

A handler is a table over the six states.  The `default` branches have no counterpart, the
state only ever holding an enumerator.
-/

set_option autoImplicit false

namespace Osdlp.Model

open Osdlp.Library

variable {W : Type} (h : CopHooks W)

/-! ## Events of a control word -/

/-- Here `ret` is a `notification_t`, an enumeration without negative values: `ret < 0` never
holds, and what `osdlp_alert` and `osdlp_release_copy_of_bc` return makes no difference.
SOURCE: osdlp_cop.c:663-713 -/
def fopE1 : FopM W Notification := do
  let fop ← getFop
  match fop.state with
  | .active => return .ignore
  | .rtNoWait | .rtWait =>
    let _ ← osdlpAlert h
    setState .init
    answer .alertSynch
  | .initNoBc =>
    setState .active
    let _ ← h.timerCancel
    answer .positiveDir
  | .initBc =>
    let _ ← osdlpReleaseCopyOfBc h
    setState .active
    let _ ← h.timerCancel
    answer .positiveDir
  | .init => return .ignore

/-- Acknowledged frames are removed, and the handler goes on. -/
def removeAckedThen (clcw : ClcwFrame) (next : FopM W Notification) : FopM W Notification := do
  let ret ← osdlpRemoveAckedFrames h clcw.reportValue
  if ret < 0 then
    answer .undefError
  else
    next

/-- Retransmission is initiated, and the handler goes on. -/
def adRetransmissionThen (next : FopM W Notification) : FopM W Notification := do
  let ret ← osdlpInitiateAdRetransmission h
  if ret < 0 then
    answer .undefError
  else
    next

/-- `osdlp_look_for_fdu`, then the state if it changes, then the report. -/
def lookThenReport (state : Option FopState) : FopM W Notification := do
  let notif ← osdlpLookForFdu h
  match state with
  | some state => setState state
  | none => pure ()
  report notif

/-- SOURCE: osdlp_cop.c:715-780 -/
def fopE2 (clcw : ClcwFrame) : FopM W Notification := do
  let fop ← getFop
  match fop.state with
  | .active | .rtNoWait | .rtWait =>
    removeAckedThen h clcw do
      let _ ← h.timerCancel
      lookThenReport h none
  | .initNoBc | .initBc => return .na
  | .init => return .ignore

/-- SOURCE: osdlp_cop.c:782-845 -/
def fopE3 : FopM W Notification := do
  let fop ← getFop
  match fop.state with
  | .active | .rtNoWait | .rtWait | .initNoBc | .initBc => alertTo h .alertClcw
  | .init => return .ignore

/-- SOURCE: osdlp_cop.c:847-904 -/
def fopE4 : FopM W Notification := do
  let fop ← getFop
  match fop.state with
  | .active | .rtNoWait | .rtWait | .initNoBc => alertTo h .alertSynch
  | .initBc | .init => return .ignore

/-- SOURCE: osdlp_cop.c:906-948 -/
def fopE5 : FopM W Notification := do
  let fop ← getFop
  match fop.state with
  | .active => return .ignore
  | .rtNoWait | .rtWait => alertTo h .alertSynch
  | .initNoBc | .initBc => return .na
  | .init => return .ignore

/-- In RT_NO_WAIT the state changes before the search, in RT_WAIT after it.
SOURCE: osdlp_cop.c:950-1014 -/
def fopE6 (clcw : ClcwFrame) : FopM W Notification := do
  let fop ← getFop
  match fop.state with
  | .active => removeAckedThen h clcw (lookThenReport h none)
  | .rtNoWait =>
    removeAckedThen h clcw do
      setState .active
      lookThenReport h none
  | .rtWait => removeAckedThen h clcw (lookThenReport h (some .active))
  | .initNoBc | .initBc => return .na
  | .init => return .ignore

/-- SOURCE: osdlp_cop.c:1016-1065 -/
def fopE7 : FopM W Notification := do
  let fop ← getFop
  match fop.state with
  | .active | .rtNoWait | .rtWait => alertTo h .alertClcw
  | .initNoBc | .initBc => return .na
  | .init => return .ignore

/-- In INIT_BC the source returns the number 0, which is `ACCEPT_DIR`.
SOURCE: osdlp_cop.c:1067-1129 -/
def fopE101 (clcw : ClcwFrame) : FopM W Notification := do
  let fop ← getFop
  match fop.state with
  | .active | .rtNoWait => removeAckedThen h clcw (alertTo h .alertLimit)
  | .rtWait =>
    let _ ← osdlpRemoveAckedFrames h clcw.reportValue
    alertTo h .alertLimit
  | .initNoBc => return .na
  | .initBc => return .acceptDir
  | .init => return .ignore

/-- SOURCE: osdlp_cop.c:1131-1180 -/
def fopE102 : FopM W Notification := do
  let fop ← getFop
  match fop.state with
  | .active | .rtNoWait | .rtWait => alertTo h .alertLimit
  | .initNoBc | .initBc => return .na
  | .init => return .ignore

/-- SOURCE: osdlp_cop.c:1182-1261 -/
def fopE8 (clcw : ClcwFrame) : FopM W Notification := do
  let fop ← getFop
  match fop.state with
  | .active | .rtWait =>
    removeAckedThen h clcw (adRetransmissionThen h (lookThenReport h (some .rtNoWait)))
  | .rtNoWait => removeAckedThen h clcw (adRetransmissionThen h (lookThenReport h none))
  | .initNoBc | .initBc => return .na
  | .init => return .ignore

/-- SOURCE: osdlp_cop.c:1263-1309 -/
def fopE9 (clcw : ClcwFrame) : FopM W Notification := do
  let fop ← getFop
  match fop.state with
  | .active | .rtNoWait | .rtWait =>
    removeAckedThen h clcw do
      setState .rtWait
      return .ignore
  | .initNoBc | .initBc => return .na
  | .init => return .ignore

/-- SOURCE: osdlp_cop.c:1311-1364 -/
def fopE10 : FopM W Notification := do
  let fop ← getFop
  match fop.state with
  | .active | .rtWait => adRetransmissionThen h (lookThenReport h (some .rtNoWait))
  | .rtNoWait => return .ignore
  | .initNoBc | .initBc => return .na
  | .init => return .ignore

/-- SOURCE: osdlp_cop.c:1366-1397 -/
def fopE11 : FopM W Notification := do
  let fop ← getFop
  match fop.state with
  | .active | .rtNoWait =>
    setState .rtWait
    return .ignore
  | .rtWait | .initNoBc | .initBc | .init => return .ignore

/-- SOURCE: osdlp_cop.c:1399-1430 -/
def fopE12 : FopM W Notification := do
  let fop ← getFop
  match fop.state with
  | .active | .rtWait =>
    setState .rtNoWait
    return .ignore
  | .rtNoWait => return .ignore
  | .initNoBc | .initBc => return .na
  | .init => return .ignore

/-- SOURCE: osdlp_cop.c:1432-1463 -/
def fopE103 : FopM W Notification := do
  let fop ← getFop
  match fop.state with
  | .active | .rtNoWait =>
    setState .rtWait
    return .ignore
  | .rtWait => return .ignore
  | .initNoBc | .initBc => return .na
  | .init => return .ignore

/-- SOURCE: osdlp_cop.c:1465-1521 -/
def fopE13 : FopM W Notification := do
  let fop ← getFop
  match fop.state with
  | .active | .rtNoWait | .rtWait | .initNoBc => alertTo h .alertNnr
  | .initBc | .init => return .ignore

/-- SOURCE: osdlp_cop.c:1523-1579 -/
def fopE14 : FopM W Notification := do
  let fop ← getFop
  match fop.state with
  | .active | .rtNoWait | .rtWait | .initNoBc => alertTo h .alertLockout
  | .initBc | .init => return .ignore

/-! ## Expirations of the timer -/

/-- The command in INIT_BC goes out again. -/
def bcRetransmission (fuel : ℕ) : FopM W (Option Notification) := do
  let ret ← osdlpInitiateBcRetransmission h
  if ret < 0 then
    some <$> answer .undefError
  else
    let result ← osdlpLookForDirective h fuel
    match result with
    | none => return none
    | some notif => some <$> report notif

/-- SOURCE: osdlp_cop.c:1581-1646 -/
def fopE16 (fuel : ℕ) : FopM W (Option Notification) := do
  let fop ← getFop
  match fop.state with
  | .active | .rtNoWait => some <$> adRetransmissionThen h (lookThenReport h none)
  | .rtWait => return some .ignore
  | .initNoBc => some <$> alertTo h .alertT1
  | .initBc => bcRetransmission h fuel
  | .init => return some .na

/-- The service is suspended in the state that `ss` remembers. -/
def suspend (ss : UInt8) : FopM W Notification := do
  modifyFop fun fop => { fop with ss := ss }
  setState .init
  return .suspend

/-- SOURCE: osdlp_cop.c:1648-1708 -/
def fopE104 (fuel : ℕ) : FopM W (Option Notification) := do
  let fop ← getFop
  match fop.state with
  | .active | .rtNoWait => some <$> adRetransmissionThen h (lookThenReport h none)
  | .rtWait => return some .ignore
  | .initNoBc => some <$> suspend 4
  | .initBc => bcRetransmission h fuel
  | .init => return some .na

/-- SOURCE: osdlp_cop.c:1710-1772 -/
def fopE17 : FopM W Notification := do
  let fop ← getFop
  match fop.state with
  | .active | .rtNoWait | .rtWait | .initNoBc | .initBc => alertTo h .alertT1
  | .init => return .na

/-- SOURCE: osdlp_cop.c:1774-1816 -/
def fopE18 : FopM W Notification := do
  let fop ← getFop
  match fop.state with
  | .active => suspend 1
  | .rtNoWait => suspend 2
  | .rtWait => suspend 3
  | .initNoBc => suspend 4
  | .initBc => alertTo h .alertT1
  | .init => return .na

/-! ## Requests to transfer a frame data unit -/

/-- SOURCE: osdlp_cop.c:1818-1874 -/
def fopE19 : FopM W Notification := do
  let fop ← getFop
  match fop.state with
  | .active | .rtNoWait =>
    let ret ← h.waitQueueEnqueue
    if ret < 0 then
      answer .undefError
    else
      lookThenReport h none
  | .rtWait =>
    let ret ← h.waitQueueEnqueue
    if ret < 0 then
      answer .undefError
    else
      answer .delayResp
  | .initNoBc | .initBc | .init => answer .rejectTx

/-- SOURCE: osdlp_cop.c:1876-1908 -/
def fopE20 : FopM W Notification := answer .rejectTx

/-- All six states transmit.
SOURCE: osdlp_cop.c:1910-1972 -/
def fopE21 : FopM W Notification := do
  let ret ← osdlpTransmitTypeBd h
  if ret < 0 then
    answer .rejectTx
  else
    answer .acceptTx

/-! ## The three dispatchers -/

/-- The test of N(R) for a control word whose report value is not V(S).
SOURCE: osdlp_cop.c:2009-2014 -/
def clcwInRange (fop : FopConfig) (nr : UInt8) : Bool :=
  (fop.vs > nr && nr ≥ fop.nnr) || (fop.vs < nr && nr > fop.nnr) || (fop.vs > nr && nr < fop.nnr)

/-- Which event a control word is, for the given FOP variables.
SOURCE: osdlp_cop.c:1980-2091 -/
def clcwEvent (fop : FopConfig) (clcw : ClcwFrame) : FopM W Notification :=
  let nr := clcw.reportValue
  if !clcw.lockout then
    if fop.vs = nr then
      if !clcw.rt then
        if !clcw.wait then
          if nr = fop.nnr then fopE1 h else fopE2 h clcw
        else fopE3 h
      else fopE4 h
    else if clcwInRange fop nr then
      if !clcw.rt then
        if !clcw.wait then
          if nr = fop.nnr then fopE5 h else fopE6 h clcw
        else fopE7 h
      else if fop.txLim = 1 then
        if nr ≠ fop.nnr then fopE101 h clcw else fopE102 h
      else if fop.txLim > 1 then
        if nr ≠ fop.nnr then
          if !clcw.wait then fopE8 h clcw else fopE9 h clcw
        else if fop.txCnt < fop.txLim then
          if !clcw.wait then fopE10 h else fopE11
        else if !clcw.wait then fopE12 else fopE103
      else answer .undefError
    else fopE13 h
  else fopE14 h

/-- `osdlp_clcw_unpack` into the frame structure.
SOURCE: osdlp_cop.c:1979 -/
def storeClcw (ocfBuffer : List UInt8) : FopM W ClcwFrame := do
  let clcw := osdlpClcwUnpack ocfBuffer
  modify fun s => { s with tf := { s.tf with mission := { s.tf.mission with clcw := clcw } } }
  return clcw

/-- SOURCE: osdlp_cop.c:1975-2092 -/
def osdlpHandleClcw (ocfBuffer : List UInt8) : FopM W Notification := do
  let clcw ← storeClcw ocfBuffer
  let fop ← getFop
  clcwEvent h fop clcw

/-- SOURCE: osdlp_cop.c:2094-2125 -/
def osdlpHandleTimerExpired (fuel : ℕ) : FopM W (Option Notification) := do
  let fop ← getFop
  if fop.txCnt < fop.txLim then
    if fop.tt = 0 then fopE16 h fuel
    else if fop.tt = 1 then fopE104 h fuel
    else some <$> answer .undefError
  else if fop.tt = 0 then some <$> fopE17 h
  else if fop.tt = 1 then some <$> fopE18 h
  else some <$> answer .undefError

/-- SOURCE: osdlp_cop.c:2127-2150 -/
def osdlpReqTransferFdu : FopM W Notification := do
  let s ← get
  match s.tf.primaryHdr.bypass, s.tf.primaryHdr.ctrlCmd with
  | .typeA, _ =>
    let noneWaiting ← h.waitQueueEmpty
    if noneWaiting then fopE19 h else fopE20
  | .typeB, .data => fopE21 h
  | .typeB, .command => answer .undefError

/-! ## Directives -/

/-- A directive that is only accepted in INIT; elsewhere it is rejected with a signal. -/
def initiate (inInit : FopM W Notification) : FopM W Notification := do
  let fop ← getFop
  match fop.state with
  | .active | .rtNoWait | .rtWait | .initNoBc | .initBc => answer .rejectDir
  | .init => inInit

/-- A directive that is only accepted in INIT; elsewhere it is rejected without a signal. -/
def initiateSilently (inInit : FopM W Notification) : FopM W Notification := do
  let fop ← getFop
  match fop.state with
  | .active | .rtNoWait | .rtWait | .initNoBc | .initBc => return .rejectDir
  | .init => inInit

/-- SOURCE: osdlp_cop.c:2152-2193 -/
def osdlpInitiateNoClcw : FopM W Notification :=
  initiate do
    let ret ← osdlpInitializeCop h
    if ret < 0 then
      answer .undefError
    else
      setState .active
      answer .positiveDir

/-- SOURCE: osdlp_cop.c:2195-2235 -/
def osdlpInitiateWithClcw : FopM W Notification :=
  initiate do
    let ret ← osdlpInitializeCop h
    if ret < 0 then
      answer .undefError
    else
      let _ ← h.timerStart
      setState .initNoBc
      answer .acceptDir

/-- The fields of a type-B command frame with the given data.
SOURCE: osdlp_tc.c:449-468 -/
def setTypebCommand (data : List UInt8) (dataLen : ℕ) : FopM W Unit :=
  modify fun s =>
    { s with tf := { s.tf with
      primaryHdr := { s.tf.primaryHdr with bypass := .typeB, ctrlCmd := .command }
      frameData :=
        { segHdr := { s.tf.frameData.segHdr with seqFlag := .unseg }
          data := data
          dataLen := dataLen } } }

/-- SOURCE: osdlp_tc.c:460-468 -/
def osdlpPrepareTypebUnlock : FopM W Unit := do
  let s ← get
  setTypebCommand [s.tf.mission.unlockCmd] 1

/-- SOURCE: osdlp_tc.c:449-458 -/
def osdlpPrepareTypebSetvr (vr : UInt8) : FopM W Unit := do
  modify fun s =>
    { s with tf := { s.tf with mission := { s.tf.mission with
      setVrCmd := memWrite s.tf.mission.setVrCmd 2 [vr] } } }
  let s ← get
  setTypebCommand s.tf.mission.setVrCmd 3

/-- The command goes out, and the state becomes INIT_BC. -/
def startCommand : FopM W Notification := do
  let ret ← osdlpTransmitTypeBc h
  if ret < 0 then
    answer .undefError
  else
    setState .initBc
    answer .acceptDir

/-- SOURCE: osdlp_cop.c:2237-2277 -/
def osdlpInitiateWithUnlock : FopM W Notification :=
  initiateSilently do
    let ret ← osdlpInitializeCop h
    if ret < 0 then
      answer .undefError
    else
      osdlpPrepareTypebUnlock
      startCommand h

/-- SOURCE: osdlp_cop.c:2279-2322 -/
def osdlpInitiateWithSetvr (newVr : UInt8) : FopM W Notification :=
  initiateSilently do
    let ret ← osdlpInitializeCop h
    if ret < 0 then
      answer .undefError
    else
      modifyFop fun fop => { fop with vs := newVr, nnr := newVr }
      osdlpPrepareTypebSetvr newVr
      startCommand h

/-- SOURCE: osdlp_cop.c:2324-2393 -/
def osdlpTerminateAd : FopM W Notification := do
  let fop ← getFop
  match fop.state with
  | .active | .rtNoWait | .rtWait | .initNoBc | .initBc => alertTo h .positiveDir
  | .init => answer .positiveDir

/-- A resumption into the state in which the service was suspended. -/
def resumeTo (state : FopState) : FopM W Notification := do
  let fop ← getFop
  match fop.state with
  | .active | .rtNoWait | .rtWait | .initNoBc | .initBc => return .na
  | .init =>
    let ret ← osdlpResume h
    if ret < 0 then
      answer .undefError
    else
      setState state
      answer .positiveDir

/-- SOURCE: osdlp_cop.c:2395-2555 -/
def osdlpResumeAd : FopM W Notification := do
  let fop ← getFop
  if fop.ss = 0 then return .rejectDir
  else if fop.ss = 1 then resumeTo h .active
  else if fop.ss = 2 then resumeTo h .rtNoWait
  else if fop.ss = 3 then resumeTo h .rtWait
  else if fop.ss = 4 then resumeTo h .initNoBc
  else answer .undefError

/-- SOURCE: osdlp_cop.c:2557-2592 -/
def osdlpSetNewVs (newVs : UInt8) : FopM W Notification :=
  initiateSilently do
    let fop ← getFop
    if fop.ss = 0 then
      modifyFop fun fop => { fop with vs := newVs, nnr := newVs }
      answer .positiveDir
    else
      return .rejectDir

/-- A directive that sets one of the parameters, in every state. -/
def setParameter (f : FopConfig → FopConfig) : FopM W Notification := do
  modifyFop f
  answer .positiveDir

/-- SOURCE: osdlp_cop.c:2594-2634 -/
def osdlpSetSlidingWindow (newWnd : UInt8) : FopM W Notification :=
  setParameter fun fop => { fop with slideWnd := newWnd }

/-- SOURCE: osdlp_cop.c:2636-2675 -/
def osdlpSetTimer (newT1 : UInt16) : FopM W Notification :=
  setParameter fun fop => { fop with t1Init := newT1 }

/-- SOURCE: osdlp_cop.c:2677-2716 -/
def osdlpSetTxLimit (newLim : UInt8) : FopM W Notification :=
  setParameter fun fop => { fop with txLim := newLim }

/-- SOURCE: osdlp_cop.c:2718-2757 -/
def osdlpSetTt (newTt : UInt8) : FopM W Notification :=
  setParameter fun fop => { fop with tt := newTt }

/-! ## Responses of the lower layer -/

/-- SOURCE: osdlp_cop.c:2759-2793 -/
def osdlpAdAccept : FopM W Notification := do
  let fop ← getFop
  match fop.state with
  | .active | .rtNoWait => lookThenReport h none
  | .rtWait | .initNoBc | .initBc | .init => return .ignore

/-- SOURCE: osdlp_cop.c:2795-2864 -/
def osdlpAdReject : FopM W Notification := rejectAlert h

/-- SOURCE: osdlp_cop.c:2967-2994 -/
def osdlpBdAccept : FopM W Notification := answer .acceptTx

/-- SOURCE: osdlp_cop.c:2996-3065 -/
def osdlpBdReject : FopM W Notification := rejectAlert h

end Osdlp.Model
