import Osdlp.Analysis.FarmFlags
import Osdlp.Analysis.Recovery
import Osdlp.Analysis.SessionOpening

/-!
# A link is restarted

Whatever has become of the sender, of the receiver and of what is in flight, the service can be
started anew: it is terminated, UNLOCK opens the receiver, and Set V(R) brings both ends to one
number.  Either command may be lost, as long as one of its transmissions below the limit arrives:
while it is lost and sent again the sender is `Commanding`, and the transmission that arrives
`Executes` it.
-/

set_option autoImplicit false

namespace Osdlp.Analysis

open Osdlp.Model Osdlp.Interface Osdlp.Library

/-- A directive that sends a command, which is lost so many times and sent again, and arrives. -/
def insist (op : FopOp) (lost : ℕ) (rxFull : Bool) : List SessionEvent :=
  .sender [] op ::
    (List.replicate lost [.link (.loseUp [false]), .link (.timerExpired [])]).flatten ++
      [.link (.arrive rxFull)]

/-- The service is terminated and all in flight lost, then UNLOCK and Set V(R) are insisted on, and
the receiver reports. -/
def restart (c : Cop1) (v : UInt8) (unlocks setvrs : ℕ) (rxFull : Bool) : List SessionEvent :=
  (.sender [] .terminateAd :: (silence c).map .link ++ insist .initiateWithUnlock unlocks rxFull) ++
    (.sender [] .terminateAd :: insist (.initiateWithSetvr v) setvrs rxFull) ++
      [.link .report, .link (.clcw [])]

/-- The commands are those of `osdlp_tc_init`.
SOURCE: osdlp_tc.c:69-71 -/
structure CommandsInit (m : TcMissionParams) : Prop where
  unlock : m.unlockCmd = 0
  setVr : ∃ vr, m.setVrCmd = [setvrByte1, setvrByte2, vr]

/-- The service runs from `v` on, nothing is in flight, the receiver is open, and history is as
before. -/
structure Restarted (v : UInt8) (c c' : Cop1) : Prop where
  state : c'.fop.tf.copCfg.state = .active
  ss : c'.fop.tf.copCfg.ss = 0
  vs : c'.fop.tf.copCfg.vs = v
  nnr : c'.fop.tf.copCfg.nnr = v
  vr : c'.farm.copCfg.vr = v
  farmOpen : c'.farm.copCfg.state = .stateOpen
  flags : c'.farm.copCfg.lockout = false ∧ c'.farm.copCfg.wait = false ∧
    c'.farm.copCfg.retransmit = false
  queues : c'.fop.world.waitQueue = [] ∧ c'.fop.world.sentQueue = []
  flight : c'.uplink = [] ∧ c'.downlink = []
  accepted : c'.fop.world.accepted = c.fop.world.accepted
  delivered : c'.delivered = c.delivered

variable {m : TcMissionParams} {cfg : FopConfig} {acc : List (List UInt8)} {fdu : List UInt8}
  {n : ℕ} {f : Framing} {s : Fop} {keep : List Bool}

/-! ## A command that is sent again -/

/-- The command has been sent `n` times, and its last transmission is in flight. -/
structure Commanding (m : TcMissionParams) (cfg : FopConfig) (acc : List (List UInt8))
    (fdu : List UInt8) (n : ℕ) (s : Fop) : Prop where
  mission : s.tf.mission = m
  config : s.tf.copCfg =
    { cfg with state := .initBc, ss := 0, txCnt := UInt8.ofNat n, signal := s.tf.copCfg.signal }
  command : ∃ item : QueueItem, item.type = .typeB ∧ item.fdu = fdu ∧ s.world.sentQueue = [item]
  waitQueue : s.world.waitQueue = []
  txQueue : s.world.txQueue = [fdu]
  accepted : s.world.accepted = acc

/-- Without a mark there is nothing to send again. -/
theorem osdlpLookForDirective_unmarked (fuel : ℕ) {item : QueueItem} {items : List QueueItem}
    (hq : s.world.sentQueue = item :: items) (hrt : item.rtFlag = false) :
    osdlpLookForDirective (fifoHooks keep) (fuel + 1) s = (some .acceptDir, s) := by
  unfold osdlpLookForDirective
  rw [bind_apply, sentQueueHead_apply, hq]
  simp [hrt]
  rfl

/-- A marked command goes out once more.
SOURCE: osdlp_cop.c:452-480, 2866-2894 -/
theorem osdlpLookForDirective_marked (fuel : ℕ) {item : QueueItem}
    (hs : s.tf.copCfg.state = .initBc) (hq : s.world.sentQueue = [item]) (hrt : item.rtFlag = true)
    (htype : item.type = .typeB) :
    osdlpLookForDirective (fifoHooks keep) (fuel + 2) s =
      (some .acceptDir, signalled .acceptDir (onWorld s fun w =>
        { w with
          sentQueue := [{ item with rtFlag := false }]
          txQueue := w.txQueue ++ [item.fdu] })) := by
  let again := onWorld s fun w =>
    { w with
      sentQueue := [{ item with rtFlag := false }]
      txQueue := w.txQueue ++ [item.fdu] }
  have hreset : onWorld s (fun w =>
      { w with
        sentQueue := resetRt item.seqNum w.sentQueue
        txQueue := w.txQueue ++ [item.fdu] }) = again := by
    unfold again onWorld
    simp [hq, resetRt]
  have hlook : osdlpLookForDirective (fifoHooks keep) (fuel + 1) again = (some .acceptDir, again) :=
    osdlpLookForDirective_unmarked fuel rfl rfl
  have haccept : bcAcceptWith (osdlpLookForDirective (fifoHooks keep) (fuel + 1)) again =
      (some .acceptDir, signalled .acceptDir again) := by
    unfold bcAcceptWith
    rw [bind_apply, getFop_apply]
    rw [show again.tf.copCfg.state = .initBc from hs]
    dsimp only
    rw [bind_apply, hlook]
    rfl
  unfold osdlpLookForDirective
  rw [bind_apply, sentQueueHead_apply, hq]
  simp only [List.head?_cons, ite_apply_state]
  rw [if_pos ⟨hrt, htype⟩]
  exact (congrArg (bcAcceptWith (osdlpLookForDirective (fifoHooks keep) (fuel + 1))) hreset).trans
    haccept

/-- The timer sends a command again that has been lost.
SOURCE: osdlp_cop.c:452-480, 578-593, 1581-1646, 2094-2125 -/
theorem Commanding.retried (h : Commanding m cfg acc fdu n s) (hn : n < cfg.txLim.toNat)
    (htt : cfg.tt = 0 ∨ cfg.tt = 1) :
    Commanding m cfg acc fdu (n + 1) (fopStep (withTxQueue [] s) ([], .timerExpired)) := by
  obtain ⟨item, htype, hfdu, hq⟩ := h.command
  have hlim := cfg.txLim.toNat_lt
  have hcount : (UInt8.ofNat n).toNat = n := by
    rw [UInt8.toNat_ofNat']
    omega
  -- the copy that is on its way is lost before the timer expires
  let lost := withTxQueue [] s
  have hconfig : lost.tf.copCfg =
      { cfg with state := .initBc, ss := 0, txCnt := UInt8.ofNat n, signal := s.tf.copCfg.signal } :=
    h.config
  have hs : lost.tf.copCfg.state = .initBc := by rw [hconfig]
  have hcnt : lost.tf.copCfg.txCnt < lost.tf.copCfg.txLim := by
    rw [hconfig, UInt8.lt_iff_toNat_lt]
    dsimp only
    rw [hcount]
    exact hn
  have htt' : lost.tf.copCfg.tt = 0 ∨ lost.tf.copCfg.tt = 1 := by
    rw [hconfig]
    exact htt
  have hmarked : (commandMarked [] lost).world.sentQueue = [{ item with rtFlag := true }] := by
    show s.world.sentQueue.map (markRt .typeB) = _
    rw [hq]
    simp [markRt, htype]
  have hlook := @osdlpLookForDirective_marked _ [] 0 { item with rtFlag := true }
    (show (commandMarked [] lost).tf.copCfg.state = .initBc from hs) hmarked rfl htype
  have hinit : osdlpInitiateBcRetransmission (fifoHooks []) lost = (0, commandMarked [] lost) := rfl
  have hresent : fopStep lost ([], .timerExpired) = signalled .acceptDir
      (onWorld (commandMarked [] lost) fun w =>
        { w with sentQueue := [{ item with rtFlag := false }], txQueue := w.txQueue ++ [item.fdu] }) := by
    show (osdlpHandleTimerExpired (fifoHooks []) 2 lost).2 = _
    rw [osdlpHandleTimerExpired_resends 2 hs hcnt, if_pos htt']
    unfold bcRetransmission
    rw [bind_apply, hinit]
    dsimp only
    rw [if_neg (by decide), bind_apply, hlook]
    rfl
  show Commanding m cfg acc fdu (n + 1) (fopStep lost ([], .timerExpired))
  rw [hresent]
  refine ⟨h.mission, ?_, ⟨{ item with rtFlag := false }, htype, hfdu, rfl⟩, h.waitQueue, ?_,
    h.accepted⟩
  · show ({ nextTxCnt lost.tf.copCfg with signal := .acceptDir } : FopConfig) = _
    rw [hconfig]
    unfold nextTxCnt
    dsimp only
    rw [hcount, Nat.mod_eq_of_lt (by omega)]
    rfl
  · show ([] : List (List UInt8)) ++ [item.fdu] = [fdu]
    rw [hfdu]
    rfl

/-- A command that is lost and sent again so many times. -/
theorem commanding_run (htt : cfg.tt = 0 ∨ cfg.tt = 1) (lost : ℕ) {n : ℕ} {c : Cop1}
    (h : Commanding m cfg acc fdu n c.fop) (hlim : n + lost ≤ cfg.txLim.toNat) :
    ∃ fop, Commanding m cfg acc fdu (n + lost) fop ∧
      run sessionStep c (List.replicate lost
        [.link (.loseUp [false]), .link (.timerExpired [])]).flatten = { c with fop := fop } := by
  induction lost generalizing n c with
  | zero => exact ⟨c.fop, h, rfl⟩
  | succ lost ih =>
    have hlose : sessionStep c (.link (.loseUp [false])) = { c with fop := withTxQueue [] c.fop } := by
      show ({ c with fop := onWorld c.fop fun w => _ } : Cop1) = _
      unfold withTxQueue onWorld
      dsimp only
      rw [h.txQueue]
      rfl
    have hretry := h.retried (by omega) htt
    obtain ⟨fop, hfop, hrun⟩ := @ih (n + 1)
      { c with fop := fopStep (withTxQueue [] c.fop) ([], .timerExpired) } hretry (by omega)
    refine ⟨fop, ?_, ?_⟩
    · rw [show n + (lost + 1) = n + 1 + lost by omega]
      exact hfop
    · rw [List.replicate_succ, List.flatten_cons, List.cons_append, run_cons, hlose]
      exact hrun

/-! ## A command that arrives -/

/-- A receiver of that framing takes the octets for the command. -/
def Executes (f : Framing) (cmd : FarmCommand) (frame : List UInt8) : Prop :=
  ∀ rx : FarmFrame, framing rx = f → ∀ rxFull,
    osdlpFarm1 rxFull (osdlpTcUnpack rx frame) =
      (.ok, setFarm (osdlpTcUnpack rx frame) (cmd.execute rx.copCfg))

/-- The octets that a sender packs for a command. -/
theorem executes_pack {tf : FopFrame} {d : TcFdf} {cmd : FarmCommand}
    (hover : tf.mission.fixedOverheadLen = tf.mission.overhead) (hf : framing tf = f)
    (hbypass : tf.primaryHdr.bypass = .typeB) (hctrl : tf.primaryHdr.ctrlCmd = .command)
    (hfits : Fits f.overheadLen d) (hoctets : d.payload = cmd.octets) :
    Executes f cmd (osdlpTcPack tf d.data d.dataLen).1 := by
  intro rx hrx rxFull
  have hsame : framing rx = framing tf := hrx.trans hf.symm
  have hseg : rx.mission.segHdrFlag = tf.mission.segHdrFlag := congrArg Framing.segHdrFlag hsame
  have hfix : rx.mission.fixedOverheadLen = tf.mission.fixedOverheadLen :=
    congrArg Framing.overheadLen hsame
  have hlen : d.payload.length = d.dataLen := List.length_take_of_le hfits.1
  have hroom : tf.mission.fixedOverheadLen + d.payload.length ≤ 1024 := by
    have h := hfits.2
    rw [← hf] at h
    rw [hlen]
    exact h
  rw [osdlpTcPack_payload tf hfits.1]
  obtain ⟨hhdr, -, -, hpayload⟩ := osdlpTcUnpack_pack hover hroom hseg hfix []
  rw [List.append_nil] at hhdr hpayload
  generalize hpeer : osdlpTcUnpack rx (osdlpTcPack tf d.payload d.payload.length).1 = peer
    at hhdr hpayload
  have hcfg : peer.copCfg = rx.copCfg := by
    rw [← hpeer]
    rfl
  have hfarm : osdlpFarm1 rxFull peer = handleFarmTypebCmd peer := by
    unfold osdlpFarm1
    rw [hhdr]
    dsimp only
    rw [hbypass, hctrl]
  have hat : ∀ i, i < cmd.octets.length → peer.frameData.data.getD i 0 = cmd.octets.getD i 0 := by
    intro i hi
    rw [← hoctets] at hi ⊢
    exact getD_of_take hpayload hi
  rw [hfarm, ← hcfg]
  cases cmd with
  | unlock => exact handleFarmTypebCmd_unlock (hat 0 (by decide))
  | setVr v =>
    have htwo : peer.frameData.data.getD 2 0 = v := hat 2 (by simp [FarmCommand.octets])
    have hset := @handleFarmTypebCmd_setVr peer (hat 0 (by simp [FarmCommand.octets]))
      (hat 1 (by simp [FarmCommand.octets]))
    rw [htwo] at hset
    exact hset

/-! ## The directives -/

/-- The sender that is initialised and has a command prepared. -/
def commandSet (m : TcMissionParams) (cfg : FopConfig) (data : List UInt8) (dataLen : ℕ) (s : Fop) :
    Fop :=
  { tf :=
      { s.tf with
        primaryHdr := { s.tf.primaryHdr with bypass := .typeB, ctrlCmd := .command }
        frameData :=
          { segHdr := { s.tf.frameData.segHdr with seqFlag := .unseg }, data := data, dataLen := dataLen }
        mission := m
        copCfg := { cfg with txCnt := 1, ss := 0 } }
    world := { s.world with waitQueue := [], sentQueue := [] } }

/-- SOURCE: osdlp_cop.c:2237-2277, osdlp_tc.c:460-468 -/
theorem osdlpInitiateWithUnlock_apply (hs : s.tf.copCfg.state = .init) :
    osdlpInitiateWithUnlock (fifoHooks keep) s =
      startCommand (fifoHooks keep)
        (commandSet s.tf.mission s.tf.copCfg [s.tf.mission.unlockCmd] 1 s) := by
  unfold osdlpInitiateWithUnlock initiateSilently
  rw [bind_apply, getFop_apply, hs]
  rfl

/-- SOURCE: osdlp_cop.c:2279-2322, osdlp_tc.c:449-458 -/
theorem osdlpInitiateWithSetvr_apply (v : UInt8) (hs : s.tf.copCfg.state = .init) :
    osdlpInitiateWithSetvr (fifoHooks keep) v s =
      startCommand (fifoHooks keep)
        (commandSet { s.tf.mission with setVrCmd := memWrite s.tf.mission.setVrCmd 2 [v] }
          { s.tf.copCfg with vs := v, nnr := v } (memWrite s.tf.mission.setVrCmd 2 [v]) 3 s) := by
  unfold osdlpInitiateWithSetvr initiateSilently
  rw [bind_apply, getFop_apply, hs]
  rfl

/-- The command goes out for the first time. -/
theorem startCommand_commanding {data : List UInt8} {dataLen : ℕ} {cmd : FarmCommand}
    (hf : m.segHdrFlag = f.segHdrFlag ∧ m.fixedOverheadLen = f.overheadLen)
    (hover : m.fixedOverheadLen = m.overhead) (hlen : dataLen ≤ 3)
    (hoctets : data.take dataLen = cmd.octets) (hdata : dataLen ≤ data.length)
    (htx : s.world.txQueue = []) :
    ∃ fdu, Executes f cmd fdu ∧
      Commanding m cfg s.world.accepted fdu 1
        (startCommand (fifoHooks keep) (commandSet m cfg data dataLen s)).2 := by
  have hsmall : m.fixedOverheadLen + dataLen ≤ 1024 := by
    rw [hover]
    unfold TcMissionParams.overhead
    split_ifs <;> omega
  let t := commandSet m cfg data dataLen s
  have hframing : framing t.tf = f := by
    cases f
    exact congrArg₂ Framing.mk hf.1 hf.2
  have hexec : Executes f cmd (osdlpTcPack t.tf t.tf.frameData.data t.tf.frameData.dataLen).1 :=
    @executes_pack f t.tf t.tf.frameData cmd hover hframing rfl rfl
      ⟨hdata, hf.2 ▸ hsmall⟩ hoctets
  obtain ⟨crc, item, htype, hfdu, hdr, hstart⟩ := startCommand_packs keep t
  rw [← hfdu] at hexec
  refine ⟨item.fdu, hexec, ?_⟩
  rw [hstart]
  refine ⟨rfl, rfl, ⟨item, htype, rfl, rfl⟩, rfl, ?_, rfl⟩
  show s.world.txQueue ++ [item.fdu] = _
  rw [htx]
  rfl

/-- UNLOCK goes out. -/
theorem commanding_unlock (hs : s.tf.copCfg.state = .init) (htx : s.world.txQueue = [])
    (hover : s.tf.mission.fixedOverheadLen = s.tf.mission.overhead)
    (hset : CommandsInit s.tf.mission) :
    ∃ fdu, Executes (framing s.tf) .unlock fdu ∧
      Commanding s.tf.mission s.tf.copCfg s.world.accepted fdu 1
        (fopStep s (keep, .initiateWithUnlock)) := by
  show ∃ fdu, _ ∧ Commanding _ _ _ fdu 1 (osdlpInitiateWithUnlock (fifoHooks keep) s).2
  rw [osdlpInitiateWithUnlock_apply hs]
  refine startCommand_commanding ⟨rfl, rfl⟩ hover (by decide) ?_ (le_refl 1) htx
  rw [hset.unlock]
  rfl

/-- Set V(R) goes out. -/
theorem commanding_setvr (v : UInt8) (hs : s.tf.copCfg.state = .init) (htx : s.world.txQueue = [])
    (hover : s.tf.mission.fixedOverheadLen = s.tf.mission.overhead)
    (hset : CommandsInit s.tf.mission) :
    ∃ fdu m, Executes (framing s.tf) (.setVr v) fdu ∧
      Commanding m { s.tf.copCfg with vs := v, nnr := v } s.world.accepted fdu 1
        (fopStep s (keep, .initiateWithSetvr v)) := by
  obtain ⟨vr, hbuf⟩ := hset.setVr
  have hwritten : memWrite s.tf.mission.setVrCmd 2 [v] = [setvrByte1, setvrByte2, v] := by
    rw [hbuf]
    rfl
  show ∃ fdu m, _ ∧ Commanding m _ _ fdu 1 (osdlpInitiateWithSetvr (fifoHooks keep) v s).2
  rw [osdlpInitiateWithSetvr_apply v hs, hwritten]
  obtain ⟨fdu, hexec, hcommanding⟩ := @startCommand_commanding
    { s.tf.mission with setVrCmd := [setvrByte1, setvrByte2, v] }
    { s.tf.copCfg with vs := v, nnr := v } (framing s.tf) s keep [setvrByte1, setvrByte2, v] 3
    (.setVr v) ⟨rfl, rfl⟩ hover (by decide) rfl (le_refl 3) htx
  exact ⟨fdu, _, hexec, hcommanding⟩

/-- A command that is insisted on arrives. -/
theorem insist_arrives {op : FopOp} {cmd : FarmCommand} {c : Cop1}
    (h : Commanding m cfg acc fdu 1 (fopStep c.fop ([], op))) (hexec : Executes f cmd fdu)
    (hf : framing c.farm = f) (htt : cfg.tt = 0 ∨ cfg.tt = 1) {lost : ℕ}
    (hlim : lost < cfg.txLim.toNat) (rxFull : Bool) :
    ∃ fop, Commanding m cfg acc fdu (1 + lost) fop ∧
      run sessionStep c (insist op lost rxFull) =
        { c with
          fop := withTxQueue [] fop
          farm := setFarm (osdlpTcUnpack c.farm fdu) (cmd.execute c.farm.copCfg) } := by
  obtain ⟨fop, hfop, hrun⟩ := commanding_run htt lost
    (c := { c with fop := fopStep c.fop ([], op) }) h (by omega)
  refine ⟨fop, hfop, ?_⟩
  have hop : sessionStep c (.sender [] op) = { c with fop := fopStep c.fop ([], op) } := rfl
  unfold insist
  rw [List.cons_append, run_cons, run_append, hop, hrun, run_cons, run_nil]
  have hup : Cop1.uplink { c with fop := fop } = [fdu] := hfop.txQueue
  have harrive : sessionStep { c with fop := fop } (.link (.arrive rxFull)) =
      Cop1.arrived { c with fop := fop } rxFull fdu [] := by
    unfold sessionStep cop1Step
    dsimp only
    rw [hup]
  rw [harrive]
  unfold Cop1.arrived
  dsimp only
  rw [hexec c.farm hf rxFull, if_neg (show ¬ FarmResult.ok = .enq by decide)]
  rfl

/-! ## The restart -/

/-- The control word that the sender waits for releases its command and starts the service.
SOURCE: osdlp_cop.c:663-713, 1975-2092 -/
theorem clcw_starts {item : QueueItem} {ocf : List UInt8} (hs : s.tf.copCfg.state = .initBc)
    (hq : s.world.sentQueue = [item]) (htype : item.type = .typeB)
    (hvs : s.tf.copCfg.vs = (osdlpClcwUnpack ocf).reportValue)
    (hnnr : (osdlpClcwUnpack ocf).reportValue = s.tf.copCfg.nnr)
    (hlockout : (osdlpClcwUnpack ocf).lockout = false) (hrt : (osdlpClcwUnpack ocf).rt = false)
    (hwait : (osdlpClcwUnpack ocf).wait = false) :
    fopStep s (keep, .clcw ocf) = signalled .positiveDir
      ((onWorld (withClcw (osdlpClcwUnpack ocf) s) fun w =>
        { w with sentQueue := [], timerRunning := false }).setFop
          { s.tf.copCfg with state := .active }) := by
  let t := withClcw (osdlpClcwUnpack ocf) s
  obtain ⟨ret, hrelease⟩ := osdlpReleaseCopyOfBc_apply keep t
  have hreleased : released t = onWorld t fun w => { w with sentQueue := [] } :=
    released_eq (withoutCommand_singleton hq htype)
  have hevent : clcwEvent (fifoHooks keep) s.tf.copCfg (osdlpClcwUnpack ocf) =
      fopE1 (fifoHooks keep) := by
    unfold clcwEvent
    simp only [hlockout, hrt, hwait, hvs, hnnr, Bool.not_false, if_true]
  have hstart : fopE1 (fifoHooks keep) t = (.positiveDir, signalled .positiveDir
      ((onWorld t fun w => { w with sentQueue := [], timerRunning := false }).setFop
        { s.tf.copCfg with state := .active })) := by
    unfold fopE1
    rw [bind_apply, getFop_apply]
    rw [show t.tf.copCfg.state = .initBc from hs]
    dsimp only
    rw [bind_apply, hrelease, hreleased]
    rfl
  show (osdlpHandleClcw (fifoHooks keep) ocf s).2 = _
  unfold osdlpHandleClcw
  have hstore : storeClcw ocf s = (osdlpClcwUnpack ocf, t) := rfl
  rw [bind_apply, hstore]
  dsimp only
  rw [bind_apply, getFop_apply]
  show (clcwEvent (fifoHooks keep) s.tf.copCfg (osdlpClcwUnpack ocf) t).2 = _
  rw [hevent, hstart]

/-- UNLOCK opens the receiver, whatever state it is in. -/
theorem execute_unlock {farm : FarmConfig} (h : FarmConsistent farm) :
    let opened := FarmCommand.unlock.execute farm
    opened.state = .stateOpen ∧ opened.lockout = false ∧ opened.wait = false ∧
      opened.retransmit = false := by
  have hlockout : farm.state ≠ .stateLockout → farm.lockout = false := by
    intro hne
    exact Bool.eq_false_iff.mpr fun hlock => hne (h.lockout_iff.mpr hlock)
  unfold FarmCommand.execute
  cases hs : farm.state with
  | stateOpen => exact ⟨rfl, hlockout (by rw [hs]; decide), h.of_open hs, rfl⟩
  | stateWait => exact ⟨rfl, hlockout (by rw [hs]; decide), rfl, rfl⟩
  | stateLockout => exact ⟨rfl, rfl, rfl, rfl⟩

/-- Silence is no more than a session's. -/
theorem run_sessionStep_link (c : Cop1) (es : List Cop1Event) :
    run sessionStep c (es.map .link) = run cop1Step c es := by
  induction es generalizing c with
  | nil => rfl
  | cons e es ih => exact ih (cop1Step c e)

/-- Nothing is in flight; parameters and history are as they were. -/
structure Cleared (c₀ c : Cop1) : Prop where
  mission : c.fop.tf.mission = c₀.fop.tf.mission
  tt : c.fop.tf.copCfg.tt = c₀.fop.tf.copCfg.tt
  txLim : c.fop.tf.copCfg.txLim = c₀.fop.tf.copCfg.txLim
  framing : framing c.farm = framing c₀.farm
  uplink : c.uplink = []
  downlink : c.downlink = []
  accepted : c.fop.world.accepted = c₀.fop.world.accepted
  delivered : c.delivered = c₀.delivered

/-- The service has been ended as well. -/
structure Halted (c₀ c : Cop1) : Prop extends Cleared c₀ c where
  state : c.fop.tf.copCfg.state = .init

/-- What a restart asks of both ends. -/
structure Restartable (c : Cop1) : Prop where
  framing : SameFraming c
  commands : CommandsInit c.fop.tf.mission
  timeoutType : c.fop.tf.copCfg.tt = 0 ∨ c.fop.tf.copCfg.tt = 1

variable {c₀ c : Cop1}

/-- SOURCE: osdlp_cop.c:2324-2393 -/
theorem Cleared.terminateAd (h : Cleared c₀ c) :
    Halted c₀ (sessionStep c (.sender keep .terminateAd)) := by
  show Halted c₀ { c with fop := (osdlpTerminateAd (fifoHooks keep) c.fop).2 }
  rcases osdlpTerminateAd_ends keep c.fop with ⟨-, heq⟩ | ⟨hinit, heq⟩
  · rw [heq]
    exact ⟨⟨h.mission, h.tt, h.txLim, h.framing, h.uplink, h.downlink, h.accepted, h.delivered⟩, rfl⟩
  · rw [heq]
    exact ⟨⟨h.mission, h.tt, h.txLim, h.framing, h.uplink, h.downlink, h.accepted, h.delivered⟩,
      hinit⟩

/-- What a restart needs does not depend on what is in flight. -/
theorem Cleared.restartable (h : Cleared c₀ c) (hc : Restartable c₀) : Restartable c := by
  have hseg : c.farm.mission.segHdrFlag = c₀.farm.mission.segHdrFlag :=
    congrArg Framing.segHdrFlag h.framing
  have hfix : c.farm.mission.fixedOverheadLen = c₀.farm.mission.fixedOverheadLen :=
    congrArg Framing.overheadLen h.framing
  refine ⟨⟨?_, ?_, ?_⟩, ?_, ?_⟩
  · rw [h.mission]
    exact hc.framing.overhead
  · rw [hseg, h.mission]
    exact hc.framing.segHdrFlag
  · rw [hfix, h.mission]
    exact hc.framing.overheadLen
  · rw [h.mission]
    exact hc.commands
  · rw [h.tt]
    exact hc.timeoutType

/-- Both ends frame alike. -/
theorem Restartable.framing_eq (hc : Restartable c) :
    Analysis.framing c.farm = Analysis.framing c.fop.tf := by
  unfold Analysis.framing
  rw [hc.framing.segHdrFlag, hc.framing.overheadLen]

/-- The service is terminated and all in flight lost. -/
theorem terminateAd_silence (c : Cop1) :
    Halted c (run sessionStep c (.sender [] .terminateAd :: (silence c).map .link)) ∧
      (run sessionStep c (.sender [] .terminateAd :: (silence c).map .link)).farm = c.farm := by
  have hended := osdlpTerminateAd_ends [] c.fop
  have hop : sessionStep c (.sender [] .terminateAd) =
      { c with fop := (osdlpTerminateAd (fifoHooks []) c.fop).2 } := rfl
  have hsame : silence c = silence { c with fop := (osdlpTerminateAd (fifoHooks []) c.fop).2 } := by
    unfold silence Cop1.uplink
    rcases hended with ⟨-, heq⟩ | ⟨-, heq⟩ <;> rw [heq] <;> rfl
  rw [run_cons, run_sessionStep_link, hop, hsame, run_silence]
  refine ⟨?_, rfl⟩
  rcases hended with ⟨-, heq⟩ | ⟨hinit, heq⟩
  · rw [heq]
    exact ⟨⟨rfl, rfl, rfl, rfl, rfl, rfl, rfl, rfl⟩, rfl⟩
  · rw [heq]
    exact ⟨⟨rfl, rfl, rfl, rfl, rfl, rfl, rfl, rfl⟩, hinit⟩

/-- UNLOCK arrives, and the directive is given up. -/
theorem Halted.unlocks (h : Halted c₀ c) (hc : Restartable c₀) {lost : ℕ}
    (hlost : lost < c₀.fop.tf.copCfg.txLim.toNat) (rxFull : Bool) :
    let later := run sessionStep c
      (insist .initiateWithUnlock lost rxFull ++ [.sender [] .terminateAd])
    Halted c₀ later ∧ later.farm.copCfg = FarmCommand.unlock.execute c.farm.copCfg := by
  have hready := h.restartable hc
  obtain ⟨unlock, hexec, hcommanding⟩ := @commanding_unlock c.fop [] h.state h.uplink
    hready.framing.overhead hready.commands
  obtain ⟨fop, hfop, hrun⟩ := insist_arrives hcommanding hexec hready.framing_eq hready.timeoutType
    (by rw [h.txLim]; exact hlost) rxFull
  have hcfg := hfop.config
  intro later
  have hlater : later = sessionStep { c with
      fop := withTxQueue [] fop
      farm := setFarm (osdlpTcUnpack c.farm unlock) (FarmCommand.unlock.execute c.farm.copCfg) }
      (.sender [] .terminateAd) := by
    unfold later
    rw [run_append, hrun, run_cons, run_nil]
  rw [hlater]
  refine ⟨Cleared.terminateAd ⟨hfop.mission.trans h.mission, ?_, ?_, h.framing, rfl, h.downlink,
    hfop.accepted.trans h.accepted, h.delivered⟩, rfl⟩
  · show fop.tf.copCfg.tt = _
    rw [hcfg]
    exact h.tt
  · show fop.tf.copCfg.txLim = _
    rw [hcfg]
    exact h.txLim

/-- Set V(R) arrives at an open receiver, and its report starts the service. -/
theorem Halted.starts (h : Halted c₀ c) (hc : Restartable c₀)
    (hopen : c.farm.copCfg.state = .stateOpen)
    (hflags : c.farm.copCfg.lockout = false ∧ c.farm.copCfg.wait = false) (v : UInt8) {lost : ℕ}
    (hlost : lost < c₀.fop.tf.copCfg.txLim.toNat) (rxFull : Bool) :
    Restarted v c₀ (run sessionStep c
      (insist (.initiateWithSetvr v) lost rxFull ++ [.link .report, .link (.clcw [])])) := by
  have hready := h.restartable hc
  obtain ⟨setvr, m, hexec, hcommanding⟩ := @commanding_setvr c.fop [] v h.state h.uplink
    hready.framing.overhead hready.commands
  obtain ⟨fop, hfop, hrun⟩ := insist_arrives hcommanding hexec hready.framing_eq hready.timeoutType
    (by dsimp only; rw [h.txLim]; exact hlost) rxFull
  let farm := setFarm (osdlpTcUnpack c.farm setvr) ((FarmCommand.setVr v).execute c.farm.copCfg)
  have hfarm : farm.copCfg = { c.farm.copCfg with
      state := .stateOpen
      farmbCnt := nextFarmbCnt c.farm.copCfg.farmbCnt
      vr := v
      retransmit := false } := by
    show (FarmCommand.setVr v).execute c.farm.copCfg = _
    unfold FarmCommand.execute
    rw [hopen]
  let clcw := osdlpPrepareClcw farm
  have hreported : osdlpClcwUnpack clcw.1 = prepareClcw farm := osdlpClcwUnpack_pack _
  obtain ⟨item, htype, -, hq⟩ := hfop.command
  have hcfg := hfop.config
  have hstarted := @clcw_starts (withTxQueue [] fop) [] item clcw.1
    (show fop.tf.copCfg.state = _ by rw [hcfg]) hq htype
    (by rw [hreported]; show fop.tf.copCfg.vs = farm.copCfg.vr; rw [hcfg, hfarm])
    (by rw [hreported]; show farm.copCfg.vr = fop.tf.copCfg.nnr; rw [hcfg, hfarm])
    (by rw [hreported]; show farm.copCfg.lockout = false; rw [hfarm]; exact hflags.1)
    (by rw [hreported]; show farm.copCfg.retransmit = false; rw [hfarm])
    (by rw [hreported]; show farm.copCfg.wait = false; rw [hfarm]; exact hflags.2)
  have hlater : run sessionStep c
      (insist (.initiateWithSetvr v) lost rxFull ++ [.link .report, .link (.clcw [])]) =
      { c with fop := fopStep (withTxQueue [] fop) ([], .clcw clcw.1), farm := clcw.2 } := by
    rw [run_append, hrun, run_cons, run_cons, run_nil]
    unfold sessionStep cop1Step
    dsimp only
    rw [h.downlink]
    rfl
  rw [hlater, hstarted]
  have hvs : fop.tf.copCfg.vs = v ∧ fop.tf.copCfg.nnr = v ∧ fop.tf.copCfg.ss = 0 := by
    rw [hcfg]
    exact ⟨rfl, rfl, rfl⟩
  have hvr : farm.copCfg.vr = v ∧ farm.copCfg.state = .stateOpen ∧ farm.copCfg.lockout = false ∧
      farm.copCfg.wait = false ∧ farm.copCfg.retransmit = false := by
    rw [hfarm]
    exact ⟨rfl, rfl, hflags.1, hflags.2, rfl⟩
  exact ⟨rfl, hvs.2.2, hvs.1, hvs.2.1, hvr.1, hvr.2.1, hvr.2.2, ⟨hfop.waitQueue, rfl⟩,
    ⟨rfl, h.downlink⟩, hfop.accepted.trans h.accepted, h.delivered⟩

/-- **Restart.**  Whatever state the sender is in, whatever is queued or in flight, and even if the
receiver is locked out: the service can be terminated and started anew, from any number, as long as
one of the transmissions of either command below the limit arrives.
SOURCE: osdlp_cop.c:170-224, 287-304, 355-374, 452-480, 516-542, 578-593, 663-713, 1581-1708,
1975-2125, 2237-2393; osdlp_tc.c:449-484 -/
theorem restarts (c : Cop1) (hc : Restartable c) (hfarm : FarmConsistent c.farm.copCfg) (v : UInt8)
    {unlocks setvrs : ℕ} (hunlocks : unlocks < c.fop.tf.copCfg.txLim.toNat)
    (hsetvrs : setvrs < c.fop.tf.copCfg.txLim.toNat) (rxFull : Bool) :
    Restarted v c (run sessionStep c (restart c v unlocks setvrs rxFull)) := by
  obtain ⟨hended, hkept⟩ := terminateAd_silence c
  generalize hc₁ : run sessionStep c (.sender [] .terminateAd :: (silence c).map .link) = c₁
    at hended hkept
  obtain ⟨hhalted, hexecuted⟩ := hended.unlocks hc hunlocks rxFull
  generalize hc₂ : run sessionStep c₁
    (insist .initiateWithUnlock unlocks rxFull ++ [.sender [] .terminateAd]) = c₂
    at hhalted hexecuted
  obtain ⟨hopen, hlockout, hwait, -⟩ := execute_unlock hfarm
  rw [hkept] at hexecuted
  rw [← hexecuted] at hopen hlockout hwait
  have hrestart : restart c v unlocks setvrs rxFull =
      (.sender [] .terminateAd :: (silence c).map .link) ++
        ((insist .initiateWithUnlock unlocks rxFull ++ [.sender [] .terminateAd]) ++
          (insist (.initiateWithSetvr v) setvrs rxFull ++ [.link .report, .link (.clcw [])])) := by
    unfold restart
    simp
  rw [hrestart, run_append, hc₁, run_append, hc₂]
  exact hhalted.starts hc hopen ⟨hlockout, hwait⟩ v hsetvrs rxFull

/-- A link whose sender is in the middle of a service and whose receiver is locked out. -/
def lockedLink : Cop1 :=
  { startedLink with
    fop :=
      { startedLink.fop with
        tf :=
          { startedLink.fop.tf with
            mission := { startedLink.fop.tf.mission with setVrCmd := [setvrByte1, setvrByte2, 0] }
            copCfg := { startedLink.fop.tf.copCfg with txLim := 3 } } }
    farm :=
      { startedLink.farm with
        copCfg := { startedLink.farm.copCfg with state := .stateLockout, lockout := true } } }

/-- Two copies of UNLOCK are lost, and one of Set V(R). -/
theorem restarts_locked :
    let busy := run cop1Step lockedLink [octetEvent 1, octetEvent 2, .arrive false, .report]
    busy.delivered = [] ∧ Restarted 100 busy (run sessionStep busy (restart busy 100 2 1 true)) := by
  intro busy
  refine ⟨by decide, restarts busy ⟨⟨by decide, by decide, by decide⟩, ⟨by decide, 0, by decide⟩,
    by decide⟩ ?_ 100 (by decide) (by decide) true⟩
  exact ⟨by decide, by decide, by decide⟩

end Osdlp.Analysis
