import Osdlp.Interface.Session
import Osdlp.Analysis.FarmCommands
import Osdlp.Analysis.InOrderDelivery

/-!
# The opening of a session

The sender of a session, from the directive that opens it to the control word that starts the
service.  All that it sends are copies of one control command (`Unsent`), and it is in INIT_BC or
INIT_NO_BC, unless the handshake has been suspended or given up (`Awaiting`).  Every operation keeps
it there but a control word that reports the value it waits for (`Handshaking.clcw`).
-/

set_option autoImplicit false

namespace Osdlp.Analysis

open Osdlp.Model Osdlp.Interface Osdlp.Library Osdlp.Library.GoBackN
open Relation (ReflTransGen)

/-! ## Control commands in flight -/

/-- A receiver of that framing takes the octets for a type-B frame, and for none that sets V(R) to
another value. -/
def CommandFor (f : Framing) (v : UInt8) (frame : List UInt8) : Prop :=
  ∀ rx : FarmFrame, framing rx = f →
    (osdlpTcUnpack rx frame).primaryHdr.bypass = .typeB ∧
      (SetsVr (osdlpTcUnpack rx frame) → (osdlpTcUnpack rx frame).frameData.data.getD 2 0 = v)

variable {f : Framing} {v : UInt8} {W : ℕ} {keep : List Bool}

/-- Such a frame delivers nothing, and leaves V(R) as it is or sets it to the value. -/
theorem CommandFor.arrives {frame : List UInt8} (h : CommandFor f v frame) {rx : FarmFrame}
    (hrx : framing rx = f) (rxFull : Bool) :
    (osdlpFarm1 rxFull (osdlpTcUnpack rx frame)).1 ≠ .enq ∧
      ((osdlpFarm1 rxFull (osdlpTcUnpack rx frame)).2.copCfg.vr = rx.copCfg.vr ∨
        (osdlpFarm1 rxFull (osdlpTcUnpack rx frame)).2.copCfg.vr = v) := by
  obtain ⟨hbypass, hvalue⟩ := h rx hrx
  rcases osdlpFarm1_vr rxFull (osdlpTcUnpack rx frame) with ⟨hacc, -, -⟩ | ⟨-, hne, hvr⟩
  · exact absurd (hbypass.symm.trans hacc.bypass) (by decide)
  · refine ⟨hne, ?_⟩
    rcases hvr with hsame | ⟨hsets, -⟩
    · exact .inl hsame
    · obtain ⟨-, hctrl, h0, h1⟩ := id hsets
      have hfarm : osdlpFarm1 rxFull (osdlpTcUnpack rx frame) =
          handleFarmTypebCmd (osdlpTcUnpack rx frame) := by
        unfold osdlpFarm1
        simp only [hbypass, hctrl]
      rw [hfarm, handleFarmTypebCmd_setVr h0 h1, hvalue hsets]
      unfold FarmCommand.execute
      rw [setFarm_copCfg]
      cases (osdlpTcUnpack rx frame).copCfg.state with
      | stateOpen | stateWait => exact .inr rfl
      | stateLockout => exact .inl rfl

/-- The octets that a sender packs for a command whose data set V(R) to nothing but the value. -/
theorem commandFor_pack {tf : FopFrame} {d : TcFdf}
    (hover : tf.mission.fixedOverheadLen = tf.mission.overhead) (hf : framing tf = f)
    (hbypass : tf.primaryHdr.bypass = .typeB) (hfits : Fits f.overheadLen d)
    (hsets : d.payload.head? = some setvrByte1 → d.payload[2]? = some v)
    (hpos : d.payload ≠ []) : CommandFor f v (osdlpTcPack tf d.data d.dataLen).1 := by
  intro rx hrx
  have hsame : framing rx = framing tf := hrx.trans hf.symm
  have hseg : rx.mission.segHdrFlag = tf.mission.segHdrFlag := congrArg Framing.segHdrFlag hsame
  have hfix : rx.mission.fixedOverheadLen = tf.mission.fixedOverheadLen :=
    congrArg Framing.overheadLen hsame
  have hlen : d.payload.length = d.dataLen := List.length_take_of_le hfits.1
  have hroom : tf.mission.fixedOverheadLen + d.payload.length ≤ 1024 := by
    have h := hfits.2
    rw [← hf] at h
    rw [hlen]
    exact h
  rw [osdlpTcPack_payload tf hfits.1]
  obtain ⟨hhdr, -, -, hpayload⟩ := osdlpTcUnpack_pack hover hroom hseg hfix []
  rw [List.append_nil] at hhdr hpayload
  refine ⟨by rw [hhdr]; exact hbypass, ?_⟩
  rintro ⟨-, -, h0, -⟩
  have hat : ∀ i, i < d.payload.length → (osdlpTcUnpack rx
      (osdlpTcPack tf d.payload d.payload.length).1).frameData.data.getD i 0 =
        d.payload.getD i 0 := fun i hi => getD_of_take hpayload hi
  obtain ⟨x, rest, hx⟩ := List.exists_cons_of_ne_nil hpos
  rw [hat 0 (by simp [hx]), hx, List.getD_cons_zero] at h0
  have htwo := hsets (by rw [hx, List.head?_cons, h0])
  have hlt := (List.getElem?_eq_some_iff.mp htwo).1
  rw [hat 2 hlt, List.getD_eq_getElem?_getD, htwo, Option.getD_some]

/-! ## The sender before its service runs -/

/-- The sender has sent nothing but copies of a command. -/
structure Unsent (f : Framing) (v : UInt8) (W : ℕ) (s : Fop) : Prop where
  framing : framing s.tf = f
  overhead : s.tf.mission.fixedOverheadLen = s.tf.mission.overhead
  window : s.tf.copCfg.slideWnd.toNat = W
  vs : s.tf.copCfg.vs = v
  accepted : s.world.accepted = []
  waitQueue : s.world.waitQueue = []
  uplink : ∀ frame ∈ s.world.txQueue, CommandFor f v frame
  commands : ∀ item ∈ s.world.sentQueue, CommandFor f v item.fdu

/-- The handshake lasts, is suspended, or has been given up. -/
def Awaiting (s : Fop) : Prop :=
  (s.tf.copCfg.state = .initBc ∧ s.tf.copCfg.ss = 0 ∧
      ∃ item : QueueItem, item.type = .typeB ∧ s.world.sentQueue = [item]) ∨
    (s.tf.copCfg.state = .initNoBc ∧ s.tf.copCfg.ss = 0 ∧ s.world.sentQueue = []) ∨
    (s.tf.copCfg.state = .init ∧
      (s.tf.copCfg.ss = 0 ∨ s.tf.copCfg.ss = 4 ∧ s.world.sentQueue = []))

/-- The service has been started by the receiver's answer. -/
structure Opened (s : Fop) : Prop where
  state : s.tf.copCfg.state = .active
  ss : s.tf.copCfg.ss = 0
  nnr : s.tf.copCfg.nnr = s.tf.copCfg.vs
  sentQueue : s.world.sentQueue = []

variable {s s' : Fop}

/-- The sender opens a session. -/
def Handshaking (f : Framing) (v : UInt8) (W : ℕ) (s : Fop) : Prop := Unsent f v W s ∧ Awaiting s

theorem Awaiting.not_ad (h : Awaiting s) : isAd s.tf.copCfg.state = false := by
  rcases h with ⟨hs, -⟩ | ⟨hs, -⟩ | ⟨hs, -⟩ <;> rw [hs] <;> rfl

theorem Awaiting.not_sends (h : Awaiting s) : sends s.tf.copCfg.state = false := by
  rcases h with ⟨hs, -⟩ | ⟨hs, -⟩ | ⟨hs, -⟩ <;> rw [hs] <;> rfl

/-- Nothing is suspended while a directive is under way. -/
theorem Awaiting.ss (h : Awaiting s) (hs : s.tf.copCfg.state ≠ .init) : s.tf.copCfg.ss = 0 := by
  rcases h with ⟨-, hss, -⟩ | ⟨-, hss, -⟩ | ⟨hinit, -⟩
  · exact hss
  · exact hss
  · exact absurd hinit hs

/-- Only what the frames depend on has to be looked at. -/
theorem Unsent.congr (h : Unsent f v W s)
    (hmission : s'.tf.mission = { s.tf.mission with clcw := s'.tf.mission.clcw })
    (hwnd : s'.tf.copCfg.slideWnd = s.tf.copCfg.slideWnd)
    (hvs : s'.tf.copCfg.vs = s.tf.copCfg.vs) (hacc : s'.world.accepted = s.world.accepted)
    (hwait : s'.world.waitQueue = []) (hup : ∀ frame ∈ s'.world.txQueue, CommandFor f v frame)
    (hcommands : ∀ item ∈ s'.world.sentQueue, CommandFor f v item.fdu) : Unsent f v W s' where
  framing := by
    rw [← h.framing]
    unfold Analysis.framing
    rw [hmission]
  overhead := by
    rw [hmission]
    exact h.overhead
  window := by rw [hwnd]; exact h.window
  vs := hvs.trans h.vs
  accepted := hacc.trans h.accepted
  waitQueue := hwait
  uplink := hup
  commands := hcommands

/-- Changes of the FOP variables other than V(S) and the window leave the queues as they are. -/
theorem Unsent.setFop (h : Unsent f v W s) {fop' : FopConfig}
    (hwnd : fop'.slideWnd = s.tf.copCfg.slideWnd) (hvs : fop'.vs = s.tf.copCfg.vs) :
    Unsent f v W (s.setFop fop') :=
  h.congr rfl hwnd hvs rfl h.waitQueue h.uplink h.commands

theorem Handshaking.signalled (h : Handshaking f v W s) (notif : Notification) :
    Handshaking f v W (signalled notif s) := ⟨h.1.setFop rfl rfl, h.2⟩

/-- An alert ends the handshake. -/
theorem Handshaking.alerted (h : Handshaking f v W s) (hs : s.tf.copCfg.state ≠ .init)
    (notif : Notification) : Handshaking f v W (alerted notif s) :=
  ⟨h.1.congr rfl rfl rfl rfl rfl h.1.uplink (by simp [Interface.alerted]),
    .inr (.inr ⟨rfl, .inl (h.2.ss hs)⟩)⟩

/-- A report does not matter. -/
theorem report_handshaking (notif : Notification) :
    Keeps (Handshaking f v W) (report notif) := by
  unfold report
  exact Keeps.ite (fun s hs => hs.signalled notif) fun s hs => hs

/-- A command that is sent again is a copy of the one that waits to be acknowledged. -/
theorem Handshaking.resends (h : Handshaking f v W s) {item : QueueItem} {items : List QueueItem}
    (hq : s.world.sentQueue = item :: items) :
    Handshaking f v W (onWorld s fun w =>
      { w with
        sentQueue := resetRt item.seqNum w.sentQueue
        txQueue := w.txQueue ++ [item.fdu] }) := by
  obtain ⟨hunsent, hawaiting⟩ := h
  have hcopies : ∀ item' ∈ resetRt item.seqNum s.world.sentQueue, CommandFor f v item'.fdu := by
    intro item' hmem
    have hcopy : itemCopy item' ∈ s.world.sentQueue.map itemCopy := by
      rw [← map_itemCopy_resetRt item.seqNum]
      exact List.mem_map_of_mem hmem
    obtain ⟨item₀, hmem₀, heq⟩ := List.mem_map.mp hcopy
    have hfdu : item₀.fdu = item'.fdu := congrArg Prod.fst heq
    rw [← hfdu]
    exact hunsent.commands item₀ hmem₀
  refine ⟨hunsent.congr rfl rfl rfl rfl hunsent.waitQueue ?_ hcopies, ?_⟩
  · intro frame hframe
    rcases List.mem_append.mp hframe with hmem | hmem
    · exact hunsent.uplink frame hmem
    · rw [List.mem_singleton.mp hmem]
      exact hunsent.commands item (by simp [hq])
  · rcases hawaiting with ⟨hs, hss, item₀, htype, hsingle⟩ | ⟨hs, hss, hnil⟩ | ⟨hs, hss⟩
    · refine .inl ⟨hs, hss, { item₀ with rtFlag := false }, htype, ?_⟩
      rw [hsingle] at hq
      obtain ⟨rfl, rfl⟩ := List.cons.inj hq
      simp [hsingle, resetRt]
    · rw [hnil] at hq
      exact absurd hq (by simp)
    · refine .inr (.inr ⟨hs, hss.imp_right fun hnil => ?_⟩)
      rw [hnil.2] at hq
      exact absurd hq (by simp)

/-- An acceptance leaves the handshake where it is. -/
theorem bcAcceptWith_handshaking {look : FopM FifoWorld (Option Notification)}
    (hlook : Keeps (Handshaking f v W) look) : Keeps (Handshaking f v W) (bcAcceptWith look) := by
  intro s hs
  unfold bcAcceptWith
  rw [bind_apply, getFop_apply]
  cases s.tf.copCfg.state with
  | active | rtNoWait | rtWait | initNoBc | init => exact hs
  | initBc =>
    refine Keeps.bind hlook (fun result => ?_) s hs
    cases result with
    | none => exact Keeps.pure none
    | some notif => exact fun s hs => report_handshaking notif s hs

/-- The search sends the command of the handshake, by induction on the depth. -/
theorem osdlpLookForDirective_handshaking (fuel : ℕ) :
    Keeps (Handshaking f v W) (osdlpLookForDirective (fifoHooks keep) fuel) := by
  induction fuel with
  | zero => exact fun s hs => hs
  | succ fuel ih =>
    intro s hs
    unfold osdlpLookForDirective
    rw [bind_apply, sentQueueHead_apply]
    cases hq : s.world.sentQueue with
    | nil => exact hs.signalled _
    | cons item items =>
      simp only [List.head?_cons, ite_apply_state]
      split_ifs with hrt
      · have hagain := bcAcceptWith_handshaking ih _ (hs.resends hq)
        exact hagain
      · exact hs

/-- The command goes out again, and copies that have not left yet may be lost. -/
theorem bcRetransmission_handshaking (fuel : ℕ) (h : Handshaking f v W s) :
    Handshaking f v W (bcRetransmission (fifoHooks keep) fuel s).2 := by
  obtain ⟨hunsent, hawaiting⟩ := h
  have hcopies : ∀ item ∈ s.world.sentQueue.map (markRt .typeB), CommandFor f v item.fdu := by
    intro item hmem
    obtain ⟨item₀, hmem₀, rfl⟩ := List.mem_map.mp hmem
    rw [markRt_fdu]
    exact hunsent.commands item₀ hmem₀
  have hmarked : Handshaking f v W (commandMarked keep s) := by
    refine ⟨hunsent.congr rfl rfl rfl rfl hunsent.waitQueue ?_ hcopies, ?_⟩
    · intro frame hframe
      exact hunsent.uplink frame ((survivors_sublist keep _).subset hframe)
    · rcases hawaiting with ⟨hs, hss, item, htype, hq⟩ | ⟨hs, hss, hq⟩ | ⟨hs, hss⟩
      · refine .inl ⟨hs, hss, markRt .typeB item, ?_, ?_⟩
        · rw [markRt_type, htype]
        · show s.world.sentQueue.map _ = _
          rw [hq]
          rfl
      · refine .inr (.inl ⟨hs, hss, ?_⟩)
        show s.world.sentQueue.map _ = _
        rw [hq]
        rfl
      · refine .inr (.inr ⟨hs, hss.imp_right fun hnil => ⟨hnil.1, ?_⟩⟩)
        show s.world.sentQueue.map _ = _
        rw [hnil.2]
        rfl
  have hinit : osdlpInitiateBcRetransmission (fifoHooks keep) s = (0, commandMarked keep s) := rfl
  unfold bcRetransmission
  rw [bind_apply, hinit]
  refine Keeps.bind (osdlpLookForDirective_handshaking fuel) (fun result => ?_) _ hmarked
  cases result with
  | none => exact Keeps.pure none
  | some notif => exact fun s hs => report_handshaking notif s hs

/-- The state that 4 remembers is INIT_NO_BC. -/
theorem ss_of_suspended_initNoBc {ss : UInt8} (h : suspendedState ss = some .initNoBc)
    : ss = 4 := by
  unfold suspendedState at h
  split_ifs at h with h1 h2 h3 h4
  · exact absurd h (by decide)
  · exact absurd h (by decide)
  · exact absurd h (by decide)
  · exact h4

/-- In INIT_BC an expiration below the limit is a retransmission of the command, unless the timeout
type is neither 0 nor 1.
SOURCE: osdlp_cop.c:1581-1708, 2094-2125 -/
theorem osdlpHandleTimerExpired_resends (fuel : ℕ) (hs : s.tf.copCfg.state = .initBc)
    (hcnt : s.tf.copCfg.txCnt < s.tf.copCfg.txLim) :
    (osdlpHandleTimerExpired (fifoHooks keep) fuel s).2 =
      if s.tf.copCfg.tt = 0 ∨ s.tf.copCfg.tt = 1 then (bcRetransmission (fifoHooks keep) fuel s).2
      else signalled .undefError s := by
  have h16 : fopE16 (fifoHooks keep) fuel s = bcRetransmission (fifoHooks keep) fuel s := by
    unfold fopE16
    rw [bind_apply, getFop_apply, hs]
  have h104 : fopE104 (fifoHooks keep) fuel s = bcRetransmission (fifoHooks keep) fuel s := by
    unfold fopE104
    rw [bind_apply, getFop_apply, hs]
  unfold osdlpHandleTimerExpired
  rw [bind_apply, getFop_apply]
  simp only [ite_apply_state, if_pos hcnt]
  by_cases hzero : s.tf.copCfg.tt = 0
  · rw [if_pos hzero, if_pos (.inl hzero), h16]
  · by_cases hone : s.tf.copCfg.tt = 1
    · rw [if_neg hzero, if_pos hone, if_pos (.inr hone), h104]
    · rw [if_neg hzero, if_neg hone, if_neg (not_or.mpr ⟨hzero, hone⟩)]
      rfl

/-- The expiration of the timer repeats the command, or ends or suspends the handshake.
SOURCE: osdlp_cop.c:1581-1816, 2094-2125 -/
theorem Handshaking.timerExpired (h : Handshaking f v W s) :
    Handshaking f v W (fopStep s (keep, .timerExpired)) := by
  have houtcome : TimerOutcome keep s (fopStep s (keep, .timerExpired)) :=
    osdlpHandleTimerExpired_outcome 2 s
  generalize hs' : fopStep s (keep, .timerExpired) = s' at houtcome
  cases houtcome with
  | idle signal => exact h.signalled signal
  | alert notif hs => exact h.alerted hs notif
  | suspend ss hs =>
    refine ⟨h.1.setFop rfl rfl, .inr (.inr ⟨rfl, ?_⟩)⟩
    rcases h.2 with ⟨hst, -⟩ | ⟨hst, -, hq⟩ | ⟨hst, -⟩
    · rw [hst] at hs
      exact absurd (suspendedState_cases hs) (by decide)
    · rw [hst] at hs
      exact .inr ⟨ss_of_suspended_initNoBc hs, hq⟩
    · rw [hst] at hs
      exact absurd (suspendedState_cases hs) (by decide)
  | retried _ hs =>
    rw [h.2.not_sends] at hs
    exact absurd hs (by decide)
  | command _ hs hcnt =>
    rw [← hs']
    show Handshaking f v W (osdlpHandleTimerExpired (fifoHooks keep) 2 s).2
    rw [osdlpHandleTimerExpired_resends 2 hs hcnt]
    split_ifs
    · exact bcRetransmission_handshaking 2 h
    · exact h.signalled _

/-- A request is rejected.
SOURCE: osdlp_cop.c:1818-1874 -/
theorem Handshaking.request (h : Handshaking f v W s) {hdr : TcPrimaryHdr} (frameData : TcFdf)
    (hbypass : hdr.bypass = .typeA) :
    Handshaking f v W (fopStep s (keep, .request hdr frameData)) := by
  have hprepared : Handshaking f v W (prepared hdr frameData s) :=
    ⟨h.1.congr rfl rfl rfl rfl h.1.waitQueue h.1.uplink h.1.commands, h.2⟩
  have houtcome : RequestOutcome (prepared hdr frameData s)
      (fopStep s (keep, .request hdr frameData)) := osdlpReqTransferFdu_typeA hbypass
  generalize fopStep s (keep, .request hdr frameData) = s' at houtcome
  cases houtcome with
  | idle signal => exact hprepared.signalled signal
  | delayed hs =>
    have hnot := hprepared.2.not_ad
    rw [hs] at hnot
    exact absurd hnot (by decide)
  | searched _ hs =>
    rw [hprepared.2.not_sends] at hs
    exact absurd hs (by decide)

/-- An acceptance of a type-A frame is ignored. -/
theorem Handshaking.adAccept (h : Handshaking f v W s) :
    Handshaking f v W (fopStep s (keep, .adAccept)) := by
  show Handshaking f v W (osdlpAdAccept (fifoHooks keep) s).2
  rcases @osdlpAdAccept_searched keep s with heq | ⟨hs, -⟩
  · rw [heq]
    exact h
  · rw [h.2.not_sends] at hs
    exact absurd hs (by decide)

/-- A resumption takes up a handshake that has been suspended.
SOURCE: osdlp_cop.c:2395-2555 -/
theorem Handshaking.resumeAd (h : Handshaking f v W s) :
    Handshaking f v W (fopStep s (keep, .resumeAd)) := by
  show Handshaking f v W (osdlpResumeAd (fifoHooks keep) s).2
  rcases @osdlpResumeAd_cases keep s with ⟨state, hinit, hss, hres⟩ | ⟨-, hres | hres⟩
  · rw [hres]
    rcases h.2 with ⟨hs, -⟩ | ⟨hs, -⟩ | ⟨-, hzero | ⟨hfour, hq⟩⟩
    · rw [hinit] at hs
      exact absurd hs (by decide)
    · rw [hinit] at hs
      exact absurd hs (by decide)
    · rw [hzero] at hss
      exact absurd hss (by simp [suspendedState])
    · rw [hfour] at hss
      refine ⟨h.1.congr rfl rfl rfl rfl h.1.waitQueue h.1.uplink h.1.commands, .inr (.inl ?_)⟩
      exact ⟨(Option.some.inj hss).symm, rfl, hq⟩
  · rw [hres]
    exact h
  · rw [hres]
    exact h.signalled _

/-- A control word opens the session, or leaves the handshake as it is.
SOURCE: osdlp_cop.c:663-713, 1975-2092 -/
theorem Handshaking.clcw (h : Handshaking f v W s) (ocf : List UInt8) :
    Handshaking f v W (fopStep s (keep, .clcw ocf)) ∨
      ((osdlpClcwUnpack ocf).reportValue = v ∧ Unsent f v W (fopStep s (keep, .clcw ocf)) ∧
        Opened (fopStep s (keep, .clcw ocf))) := by
  have hstored : Handshaking f v W (withClcw (osdlpClcwUnpack ocf) s) :=
    ⟨h.1.congr rfl rfl rfl rfl h.1.waitQueue h.1.uplink h.1.commands, h.2⟩
  have hguard := clcwKind_guard s.tf.copCfg (osdlpClcwUnpack ocf)
  have houtcome : ClcwOutcome keep (osdlpClcwUnpack ocf) (withClcw (osdlpClcwUnpack ocf) s)
      (clcwKind s.tf.copCfg (osdlpClcwUnpack ocf)) (fopStep s (keep, .clcw ocf)) :=
    osdlpHandleClcw_outcome ocf s
  have hnot : ¬ isAd (withClcw (osdlpClcwUnpack ocf) s).tf.copCfg.state := by
    rw [hstored.2.not_ad]
    decide
  generalize fopStep s (keep, .clcw ocf) = s' at houtcome
  generalize hkind : clcwKind s.tf.copCfg (osdlpClcwUnpack ocf) = kind at houtcome hguard
  -- only the outcomes of E1 and of the released command leave the handshake without an alert
  cases houtcome with
  | idle kind signal => exact .inl (hstored.signalled signal)
  | alert kind notif hs => exact .inl (hstored.alerted hs notif)
  | started hs =>
    obtain ⟨⟨-, hvs⟩, -, hnnr⟩ := hguard
    have hq : s.world.sentQueue = [] := by
      rcases hstored.2 with ⟨hst, -⟩ | ⟨-, -, hq⟩ | ⟨hst, -⟩
      · rw [hs] at hst
        exact absurd hst (by decide)
      · exact hq
      · rw [hs] at hst
        exact absurd hst (by decide)
    refine .inr ⟨hvs.symm.trans h.1.vs, ?_, rfl, ?_, hnnr.symm.trans hvs.symm, hq⟩
    · exact hstored.1.congr rfl rfl rfl rfl h.1.waitQueue h.1.uplink h.1.commands
    · exact hstored.2.ss (by rw [hs]; decide)
  | released hs =>
    obtain ⟨⟨-, hvs⟩, -, hnnr⟩ := hguard
    have hnil : withoutCommand s.world.sentQueue = [] := by
      rcases hstored.2 with ⟨-, -, item, htype, hsingle⟩ | ⟨hst, -⟩ | ⟨hst, -⟩
      · exact withoutCommand_singleton hsingle htype
      · rw [hs] at hst
        exact absurd hst (by decide)
      · rw [hs] at hst
        exact absurd hst (by decide)
    refine .inr ⟨hvs.symm.trans h.1.vs, ?_, rfl, ?_, hnnr.symm.trans hvs.symm, hnil⟩
    · refine hstored.1.congr rfl rfl rfl rfl h.1.waitQueue h.1.uplink ?_
      intro item hitem
      exact h.1.commands item ((withoutCommand_sublist _).subset hitem)
    · exact hstored.2.ss (by rw [hs]; decide)
  | ackAlert notif had => exact absurd had hnot
  | waits _ _ had => exact absurd had hnot
  | resumes had => exact absurd had hnot
  | acknowledged _ had => exact absurd had hnot
  | partly _ had => exact absurd had hnot
  | retransmitted _ had => exact absurd had hnot
  | ackWaits had => exact absurd had hnot
  | retried _ had => exact absurd had hnot

/-- What accompanies a session does not open it. -/
theorem Handshaking.accompanied (h : Handshaking f v W s) {op : FopOp}
    (hop : op.accompanies = true) : Handshaking f v W (fopStep s (keep, op)) := by
  cases op with
  | bcAccept => exact bcAcceptWith_handshaking (osdlpLookForDirective_handshaking 2) s h
  | bdAccept => exact h.signalled _
  | terminateAd =>
    show Handshaking f v W (osdlpTerminateAd (fifoHooks keep) s).2
    rcases osdlpTerminateAd_ends keep s with ⟨hs, heq⟩ | ⟨-, heq⟩
    · rw [heq]
      exact h.alerted hs _
    · rw [heq]
      exact h.signalled _
  | setTimer | setTxLimit | setTt => exact ⟨h.1.setFop rfl rfl, h.2⟩
  | _ => exact absurd hop (by simp [FopOp.accompanies])

/-! ## The directive -/

/-- The value of V(R) that the directive waits for. -/
def opensAt (s : Fop) : FopOp → UInt8
  | .initiateWithSetvr newVr => newVr
  | _ => s.tf.copCfg.vs

/-- A command goes out after the initialisation. -/
theorem startCommand_handshaking {t : Fop} (hframing : framing t.tf = f)
    (hover : t.tf.mission.fixedOverheadLen = t.tf.mission.overhead)
    (hwnd : t.tf.copCfg.slideWnd.toNat = W) (hvs : t.tf.copCfg.vs = v) (hss : t.tf.copCfg.ss = 0)
    (hworld : t.world.accepted = [] ∧ t.world.waitQueue = [] ∧ t.world.sentQueue = [] ∧
      t.world.txQueue = [])
    (hcommand : CommandFor f v (osdlpTcPack t.tf t.tf.frameData.data t.tf.frameData.dataLen).1) :
    Handshaking f v W (startCommand (fifoHooks keep) t).2 := by
  obtain ⟨hacc, hwait, hsent, htx⟩ := hworld
  obtain ⟨crc, item, htype, hfdu, hdr, hstart⟩ := startCommand_packs keep t
  rw [← hfdu] at hcommand
  rw [hstart, hsent, htx]
  refine ⟨⟨hframing, hover, hwnd, hvs, hacc, hwait, ?_, ?_⟩, .inl ⟨rfl, hss, item, htype, rfl⟩⟩
  · intro frame hframe
    rw [List.mem_singleton.mp hframe]
    exact hcommand
  · intro item' hitem
    rw [List.mem_singleton.mp hitem]
    exact hcommand

/-- The directive begins the handshake.
SOURCE: osdlp_cop.c:2195-2322, osdlp_tc.c:449-468 -/
theorem handshaking_opens {op : FopOp} (hop : op.opens = true) (hs : s.tf.copCfg.state = .init)
    (htx : s.world.txQueue = []) (hacc : s.world.accepted = [])
    (hover : s.tf.mission.fixedOverheadLen = s.tf.mission.overhead)
    (hset : CommandsSet s.tf.mission) :
    Handshaking (framing s.tf) (opensAt s op) s.tf.copCfg.slideWnd.toNat
      (fopStep s (keep, op)) := by
  have hsmall : s.tf.mission.fixedOverheadLen + 3 ≤ 1024 := by
    rw [hover]
    unfold TcMissionParams.overhead
    split_ifs <;> omega
  cases op with
  | initiateWithClcw =>
    show Handshaking _ _ _ (osdlpInitiateWithClcw (fifoHooks keep) s).2
    unfold osdlpInitiateWithClcw initiate
    rw [bind_apply, getFop_apply, hs]
    refine ⟨⟨rfl, hover, rfl, rfl, hacc, rfl, ?_, ?_⟩, .inr (.inl ⟨rfl, rfl, rfl⟩)⟩
    · show ∀ frame ∈ s.world.txQueue, _
      rw [htx]
      simp
    · intro item hitem
      exact absurd hitem (List.not_mem_nil)
  | initiateWithUnlock =>
    show Handshaking _ _ _ (osdlpInitiateWithUnlock (fifoHooks keep) s).2
    unfold osdlpInitiateWithUnlock initiateSilently
    rw [bind_apply, getFop_apply, hs]
    refine startCommand_handshaking rfl hover rfl rfl rfl ⟨hacc, rfl, rfl, htx⟩ ?_
    refine commandFor_pack hover rfl rfl ?_ ?_ ?_
    · refine ⟨le_refl 1, ?_⟩
      show s.tf.mission.fixedOverheadLen + 1 ≤ 1024
      omega
    · intro hhead
      exact absurd (Option.some.inj hhead) hset.unlock
    · exact List.cons_ne_nil _ _
  | initiateWithSetvr newVr =>
    show Handshaking _ _ _ (osdlpInitiateWithSetvr (fifoHooks keep) newVr s).2
    unfold osdlpInitiateWithSetvr initiateSilently
    rw [bind_apply, getFop_apply, hs]
    -- the new V(R) goes into the third octet of the command
    obtain ⟨x, y, z, hbuf⟩ := List.length_eq_three.mp hset.setVr
    have hwritten : memWrite s.tf.mission.setVrCmd 2 [newVr] = [x, y, newVr] := by
      rw [hbuf]
      rfl
    refine startCommand_handshaking rfl hover rfl rfl rfl ⟨hacc, rfl, rfl, htx⟩ ?_
    refine commandFor_pack hover rfl rfl ?_ ?_ ?_
    · refine ⟨?_, hsmall⟩
      show 3 ≤ (memWrite s.tf.mission.setVrCmd 2 [newVr]).length
      rw [hwritten]
      exact le_refl 3
    · intro _
      show ((memWrite s.tf.mission.setVrCmd 2 [newVr]).take 3)[2]? = some newVr
      rw [hwritten]
      rfl
    · show (memWrite s.tf.mission.setVrCmd 2 [newVr]).take 3 ≠ []
      rw [hwritten]
      exact List.cons_ne_nil _ _
  | _ => exact absurd hop (by simp [FopOp.opens])

end Osdlp.Analysis
