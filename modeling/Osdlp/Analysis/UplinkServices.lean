import Osdlp.Analysis.UplinkFrames

/-!
# Both services on a noisy uplink

Two services share a sender, a channel that loses frames and garbles others, and
`osdlp_tc_receive` at its end.  What either of them hands to the receive queue is what the channel
leaves of it: a prefix of what was accepted by the numbered service, and a part of what was requested
of the expedited one, in the same order (`services_deliver`).
-/

set_option autoImplicit false

namespace Osdlp.Analysis

open Osdlp.Model Osdlp.Interface Osdlp.Library Osdlp.Library.GoBackN

variable {f : Framing} {maxSduLen : ℕ} {rx : FarmFrame} {hooks : RxHooks} {frame data : List UInt8}
  {a : UInt8} {W : ℕ} {keep : List Bool} {nr : Option UInt8} {req : Bool} {s s' : Fop}
  {l : Link (List UInt8)}

/-! ## The uplink -/

/-- Both ends, the data that have been requested to go without a number, and those that the receiver
has handed to the front of its queue. -/
structure Uplink where
  link : Cop1
  requested : List (List UInt8)
  expedited : List (List UInt8)

/-- The events of the uplink.  The frame at its head arrives as it was sent, or with errors, in a
buffer that may hold more. -/
inductive UplinkEvent
  | link (e : Cop1Event)
  | requestBd (hdr : TcPrimaryHdr) (frameData : TcFdf)
  | receive (hooks : RxHooks) (errors : Option (List UInt8)) (rest : List UInt8)

/-- A frame on its way through the channel. -/
def garbled (errors : Option (List UInt8)) (frame : List UInt8) : List UInt8 :=
  match errors with
  | none => frame
  | some errors => corrupted frame errors

/-- `osdlp_tc_receive` is called. -/
def Uplink.received (u : Uplink) (hooks : RxHooks) (rxBuffer : List UInt8)
    (frames : List (List UInt8)) : Uplink :=
  let r := osdlpTcReceive hooks u.link.farm rxBuffer rxBuffer.length
  { u with
    link :=
      { u.link with
        fop := onWorld u.link.fop fun w => { w with txQueue := frames }
        farm := r.tf
        delivered := u.link.delivered ++ sdusOffered false r }
    expedited := u.expedited ++ sdusOffered true r }

/-- One event. -/
def uplinkStep (u : Uplink) : UplinkEvent → Uplink
  | .link e => { u with link := cop1Step u.link e }
  | .requestBd hdr frameData =>
    { u with
      link := { u.link with fop := fopStep u.link.fop ([], .request hdr frameData) }
      requested := u.requested ++ [frameData.payload] }
  | .receive hooks errors rest =>
    match u.link.uplink with
    | [] => u
    | frame :: frames => u.received hooks (garbled errors frame ++ rest) frames

/-- Requests fit into a frame and are not longer than what the receiver takes, and errors are of a
kind that the checksum notices.  As a frame that waits is packed with the header at hand, nothing is
requested of the expedited service while one waits. -/
def Allowed (overheadLen maxSduLen : ℕ) (u : Uplink) : UplinkEvent → Prop
  | .link (.request hdr frameData) =>
    hdr.bypass = .typeA ∧ Fits overheadLen frameData ∧ frameData.dataLen ≤ maxSduLen
  | .link (.arrive _) => False
  | .link _ => True
  | .requestBd hdr frameData =>
    hdr.bypass = .typeB ∧ hdr.ctrlCmd = .data ∧ Fits overheadLen frameData ∧
      frameData.dataLen ≤ maxSduLen ∧ u.link.fop.world.waitQueue = []
  | .receive _ errors _ => ∀ e ∈ errors, ∀ frame ∈ u.link.uplink.head?,
    e.length = frame.length ∧ Noticeable e ∧ SparesLength e

/-- An expedited frame with its data. -/
structure Expedites (f : Framing) (maxSduLen : ℕ) (frame data : List UInt8) : Prop where
  checked : Checked f maxSduLen frame data
  bypass : (tcUnpackHdr frame).bypass = .typeB
  ctrlCmd : (tcUnpackHdr frame).ctrlCmd = .data

/-- The link with its numbered frames alone. -/
def numberedLink (c : Cop1) : Cop1 := { c with fop := adOnly c.fop }

/-- The numbered service is the link, and the expedited one has handed over or has on its way what
is left of the requests. -/
structure Serves (f : Framing) (a : UInt8) (W maxSduLen : ℕ) (u : Uplink) (l : Link (List UInt8)) :
    Prop where
  link : Matches f a W (numberedLink u.link) l
  sends : SendsWhole f maxSduLen false u.link.fop
  receives : ReceivesWhole f maxSduLen u.link.farm
  expedited : ∃ pending, List.Forall₂ (Expedites f maxSduLen) (expeditedFrames u.link.fop) pending ∧
    (u.expedited ++ pending).Sublist u.requested
  counted : u.link.farm.copCfg.farmbCnt.toNat = u.expedited.length % 4

variable {u : Uplink}

/-- What is left of the expedited frames is what is left of the requests. -/
theorem pending_sublist {frames frames' : List (List UInt8)} (hless : frames'.Sublist frames)
    (h : ∃ pending, List.Forall₂ (Expedites f maxSduLen) frames pending ∧
      (u.expedited ++ pending).Sublist u.requested) :
    ∃ pending, List.Forall₂ (Expedites f maxSduLen) frames' pending ∧
      (u.expedited ++ pending).Sublist u.requested := by
  obtain ⟨pending, hpending, hsub⟩ := h
  obtain ⟨keep, rfl⟩ := exists_survivors hless
  refine ⟨survivors keep pending, forall₂_survivors hpending keep, ?_⟩
  exact (List.Sublist.append_left (survivors_sublist keep pending) _).trans hsub

/-- A run of moves of the sender. -/
theorem Serves.reaches (h : Serves f a W maxSduLen u l) (hW : W ≤ 255)
    (hlinked : Linked f (numbered a) W req (adOnly s) l) (hsends : SendsWhole f maxSduLen req s)
    (hframes : expeditedFrames s = expeditedFrames u.link.fop)
    (hnr : ∀ n, nr = some n → ∃ r rest, l.downlink = r :: rest ∧ numbered a r = n)
    (hmoves : Reaches keep nr req s s') :
    ∃ l', Serves f a W maxSduLen { u with link := { u.link with fop := s' } } l' ∧
      l'.downlink = l.downlink := by
  obtain ⟨l', hm, hlinked', hsends', hless, hdel, hdown⟩ :=
    reaches_adOnly hlinked hsends h.link.inv hW hnr hmoves
  rw [hframes] at hless
  refine ⟨l', ⟨⟨hlinked'.forget, h.link.framing, ?_, ?_, ?_, h.link.inv.moves (numbered_inj hW) hm⟩,
    { hsends' with requested := fun hfalse => absurd hfalse (by decide) }, h.receives,
    pending_sublist hless h.expedited, h.counted⟩, hdown⟩
  · rw [hdel]
    exact h.link.vr
  · rw [hdel]
    exact h.link.delivered
  · rw [hdown]
    exact h.link.downlink

/-- Frames get lost. -/
theorem Serves.lose (h : Serves f a W maxSduLen u l) (hW : W ≤ 255) {frames : List (List UInt8)}
    (hless : frames.Sublist u.link.uplink) :
    ∃ l', Serves f a W maxSduLen
      { u with
        link := { u.link with fop := onWorld u.link.fop fun w => { w with txQueue := frames } } }
      l' := by
  obtain ⟨keep, hkeep⟩ := exists_survivors (hless.filter isTypeA)
  obtain ⟨l', -, hlink⟩ := cop1_simulates hW (numberedLink u.link) (.loseUp keep) l trivial h.link
  have hsame : cop1Step (numberedLink u.link) (.loseUp keep) = numberedLink
      { u.link with fop := onWorld u.link.fop fun w => { w with txQueue := frames } } := by
    unfold cop1Step numberedLink adOnly onWorld
    simp only
    rw [← hkeep]
    rfl
  rw [hsame] at hlink
  refine ⟨l', hlink, { h.sends with queued := fun frame hframe => ?_ }, h.receives, ?_, h.counted⟩
  · exact h.sends.queued frame (hless.subset hframe)
  · exact pending_sublist (hless.filter _) h.expedited

/-! ## One event -/

/-- The header of a packed frame. -/
theorem tcUnpackHdr_checked_pack {tf : FopFrame} {d : TcFdf}
    (hover : tf.mission.fixedOverheadLen = tf.mission.overhead) (hf : framing tf = f)
    (hfits : Fits f.overheadLen d) :
    (tcUnpackHdr (osdlpTcPack tf d.data d.dataLen).1).bypass = tf.primaryHdr.bypass ∧
      (tcUnpackHdr (osdlpTcPack tf d.data d.dataLen).1).ctrlCmd = tf.primaryHdr.ctrlCmd := by
  let peer : FarmFrame := { (default : FarmFrame) with mission := tf.mission }
  have hlen : d.payload.length = d.dataLen := List.length_take_of_le hfits.1
  have hroom : tf.mission.fixedOverheadLen + d.payload.length ≤ 1024 := by
    have hfits' := hfits.2
    rw [← hf] at hfits'
    rw [hlen]
    exact hfits'
  obtain ⟨hhdr, -, -, -⟩ := @osdlpTcUnpack_pack tf d.payload _ peer hover hroom rfl rfl []
  rw [List.append_nil, ← osdlpTcPack_payload tf hfits.1] at hhdr
  have hread : tcUnpackHdr (osdlpTcPack tf d.data d.dataLen).1 = _ := hhdr
  rw [hread]
  exact ⟨rfl, rfl⟩

/-- A request of the expedited service puts its frame on the uplink and is done.
SOURCE: osdlp_cop.c:544-560, 1910-1940, 2127-2150 -/
theorem fopStep_requestBd {hdr : TcPrimaryHdr} {frameData : TcFdf} (hbypass : hdr.bypass = .typeB)
    (hctrl : hdr.ctrlCmd = .data) (s : Fop) :
    ∃ hdr' crc, fopStep s ([], .request hdr frameData) =
      { tf :=
          { (prepared hdr frameData s).tf with
            primaryHdr := hdr'
            crc := crc
            copCfg := { s.tf.copCfg with signal := .acceptTx } }
        world :=
          { s.world with
            txQueue := s.world.txQueue ++ [(osdlpTcPack (prepared hdr frameData s).tf frameData.data
              frameData.dataLen).1] } } := by
  obtain ⟨crc, hpack⟩ := osdlpTcPack_snd (prepared hdr frameData s).tf frameData.data
    frameData.dataLen
  have hreq : osdlpReqTransferFdu (fifoHooks []) (prepared hdr frameData s) =
      fopE21 (fifoHooks []) (prepared hdr frameData s) := by
    have htype : (prepared hdr frameData s).tf.primaryHdr.bypass = .typeB := hbypass
    have hdata : (prepared hdr frameData s).tf.primaryHdr.ctrlCmd = .data := hctrl
    unfold osdlpReqTransferFdu
    rw [bind_apply, get_apply]
    simp only [htype, hdata]
  unfold fopStep
  dsimp only
  rw [hreq]
  unfold fopE21 osdlpTransmitTypeBd packFrame
  simp only [bind_apply, get_apply, set_apply, pure_apply]
  rw [show (prepared hdr frameData s).tf.frameData = frameData from rfl, hpack]
  exact ⟨_, _, rfl⟩

/-- A request of the expedited service. -/
theorem Serves.requestBd (h : Serves f a W maxSduLen u l) {hdr : TcPrimaryHdr} {frameData : TcFdf}
    (hallowed : Allowed f.overheadLen maxSduLen u (.requestBd hdr frameData)) :
    Serves f a W maxSduLen (uplinkStep u (.requestBd hdr frameData)) l := by
  obtain ⟨hbypass, hctrl, hfits, hsmall, hwait⟩ := hallowed
  obtain ⟨hdr', crc, hstep⟩ := @fopStep_requestBd hdr frameData hbypass hctrl u.link.fop
  have hsender := h.link.sender
  have hprepared : framing (prepared hdr frameData u.link.fop).tf = f := hsender.framing
  have hover : (prepared hdr frameData u.link.fop).tf.mission.fixedOverheadLen =
      (prepared hdr frameData u.link.fop).tf.mission.overhead := hsender.overhead
  have hcrc : (prepared hdr frameData u.link.fop).tf.mission.crcFlag = true := h.sends.crcFlag
  obtain ⟨htype, hcommand⟩ := tcUnpackHdr_checked_pack hover hprepared hfits
  have hchecked := checked_pack hcrc hover hprepared hfits hsmall
  have hother : isTypeA (osdlpTcPack (prepared hdr frameData u.link.fop).tf frameData.data
      frameData.dataLen).1 = false := by
    unfold isTypeA
    rw [htype]
    exact decide_eq_false (by simp [prepared, hbypass])
  unfold uplinkStep
  dsimp only
  rw [hstep]
  refine ⟨⟨?_, h.link.framing, h.link.vr, h.link.delivered, h.link.downlink, h.link.inv⟩, ?_,
    h.receives, ?_, h.counted⟩
  · refine ⟨hsender.framing, hsender.overhead, fun hfalse => absurd hfalse (by decide),
      hsender.window, hsender.accepted, ?_, ?_⟩
    · show List.Forall₂ _ (List.filter _ (_ ++ [_])) _
      rw [List.filter_append, List.filter_singleton, hother, cond_false, List.append_nil]
      exact hsender.uplink
    · refine hsender.service.imp (fun halive => ?_) fun hended => ⟨hended.state, hended.ss⟩
      exact ⟨halive.state, halive.mirrors, halive.nnr, halive.vs, halive.copies, halive.waiting,
        halive.fits, fun hne => absurd hwait hne⟩
  · refine ⟨h.sends.crcFlag, ?_, h.sends.sent, h.sends.waiting, fun hfalse => ?_⟩
    swap
    · exact absurd hfalse (by decide)
    intro frame hframe
    rcases List.mem_append.mp hframe with hold | hnew
    · exact h.sends.queued frame hold
    · rw [List.mem_singleton.mp hnew]
      exact ⟨_, hchecked⟩
  · obtain ⟨pending, hpending, hsub⟩ := h.expedited
    refine ⟨pending ++ [frameData.payload], ?_, ?_⟩
    · show List.Forall₂ _ (List.filter _ (_ ++ [_])) _
      rw [List.filter_append, List.filter_singleton, hother]
      refine List.rel_append hpending (.cons ⟨hchecked, ?_, ?_⟩ .nil)
      · exact htype.trans hbypass
      · exact hcommand.trans hctrl
    · rw [← List.append_assoc]
      exact hsub.append (.refl _)

/-- What a receiver finds in a checked frame. -/
theorem payload_of_checked (hrx : ReceivesWhole f maxSduLen rx)
    (hframe : Checked f maxSduLen frame data) :
    (osdlpTcUnpack rx frame).frameData.payload = data := by
  obtain ⟨-, tx, -, hover, hf, hfits, rfl⟩ := hframe
  have hsame : framing rx = framing tx := hrx.framing.trans hf.symm
  have hroom : tx.mission.fixedOverheadLen + data.length ≤ 1024 := by
    rw [← hf] at hfits
    exact hfits
  obtain ⟨-, -, -, hpayload⟩ := osdlpTcUnpack_pack hover hroom
    (congrArg Framing.segHdrFlag hsame) (congrArg Framing.overheadLen hsame) []
  rw [List.append_nil] at hpayload
  exact hpayload

/-- A numbered frame is not counted among the others, and its data do not go to the front.
SOURCE: osdlp_cop.c:62-147, 252-284 -/
theorem osdlpFarm1_numbered {tf : FarmFrame} (h : tf.primaryHdr.bypass = .typeA) (rxFull : Bool) :
    (osdlpFarm1 rxFull tf).1 ≠ .priorityEnq ∧
      (osdlpFarm1 rxFull tf).2.copCfg.farmbCnt = tf.copCfg.farmbCnt := by
  unfold osdlpFarm1
  rw [h]
  dsimp only
  unfold handleFarmTypea farmE1 farmE2 farmE3 farmE4 farmE5
  split_ifs <;> cases tf.copCfg.state <;> simp [apply_ite]

/-- An expedited frame is taken in every state, and counted.
SOURCE: osdlp_cop.c:149-168, 306-312 -/
theorem osdlpFarm1_expedited {tf : FarmFrame} (h : tf.primaryHdr.bypass = .typeB)
    (hctrl : tf.primaryHdr.ctrlCmd = .data) (rxFull : Bool) :
    osdlpFarm1 rxFull tf =
      (.priorityEnq, setFarm tf { tf.copCfg with farmbCnt := nextFarmbCnt tf.copCfg.farmbCnt }) := by
  unfold osdlpFarm1
  rw [h, hctrl]
  dsimp only
  unfold handleFarmTypebData farmE6
  split <;> rfl

/-- The receiver keeps its configuration. -/
theorem ReceivesWhole.of_mission {rx' : FarmFrame} (h : ReceivesWhole f maxSduLen rx)
    {util : TcUtilBuf} (hmission : rx'.mission = { rx.mission with util := util }) :
    ReceivesWhole f maxSduLen rx' := by
  refine ⟨?_, h.whole, ?_, ?_⟩
  · rw [← h.framing]
    unfold Analysis.framing
    rw [hmission]
  · rw [hmission]
    exact h.crcFlag
  · rw [hmission]
    exact h.maxSduLen

/-- Nothing is offered. -/
theorem sdusOffered_none {r : TcReceived} (now : Bool) (h : r.offer = none) :
    sdusOffered now r = [] := by
  unfold sdusOffered
  rw [h]
  rfl

/-- An SDU is offered to one of the two queues. -/
theorem sdusOffered_some {r : TcReceived} (now : Bool) {o : Offer} (h : r.offer = some o) :
    sdusOffered now r = if o.now = now then [o.sdu] else [] := by
  unfold sdusOffered
  rw [h]
  by_cases hnow : o.now = now <;> simp [hnow]

/-- A frame that makes no difference is as good as lost. -/
theorem Serves.unheard (h : Serves f a W maxSduLen u l) (hW : W ≤ 255)
    {frames : List (List UInt8)} (hup : u.link.uplink = frame :: frames) {rxBuffer : List UInt8}
    (hunheard : Unheard u.link.farm (osdlpTcReceive hooks u.link.farm rxBuffer rxBuffer.length)) :
    ∃ l', Serves f a W maxSduLen (u.received hooks rxBuffer frames) l' := by
  obtain ⟨l', h'⟩ := h.lose hW (show frames.Sublist u.link.uplink by rw [hup]; simp)
  have hreceives := @ReceivesWhole.of_mission f maxSduLen u.link.farm _ h.receives
    u.link.farm.mission.util hunheard.mission
  have hnone := fun now => sdusOffered_none now hunheard.offer
  refine ⟨l', ⟨⟨h'.link.sender, hreceives.framing, ?_, ?_, h'.link.downlink, h'.link.inv⟩, h'.sends,
    hreceives, ?_, ?_⟩⟩
  · show (osdlpTcReceive hooks u.link.farm rxBuffer rxBuffer.length).tf.copCfg.vr = _
    rw [hunheard.copCfg]
    exact h'.link.vr
  · show u.link.delivered ++ sdusOffered false _ = _
    rw [hnone, List.append_nil]
    exact h'.link.delivered
  · unfold Uplink.received
    dsimp only
    rw [hnone, List.append_nil]
    exact h'.expedited
  · unfold Uplink.received
    dsimp only
    rw [hnone, List.append_nil, hunheard.copCfg]
    exact h'.counted

section Arrival

variable {frames : List (List UInt8)} {unpacked : FarmFrame} {rxBuffer : List UInt8}

/-- What comes next is checked as well. -/
theorem Serves.sends_later (h : Serves f a W maxSduLen u l)
    (hup : u.link.uplink = frame :: frames) :
    SendsWhole f maxSduLen false (onWorld u.link.fop fun w => { w with txQueue := frames }) := by
  have hqueue : u.link.fop.world.txQueue = frame :: frames := hup
  refine { h.sends with queued := fun fr hfr => h.sends.queued fr ?_ }
  rw [hqueue]
  exact List.mem_cons_of_mem frame hfr

/-- FARM-1 decides about a numbered frame.
SOURCE: osdlp_cop.c:62-147, 252-284 -/
theorem Serves.delivers (h : Serves f a W maxSduLen u l) (hW : W ≤ 255)
    (hup : u.link.uplink = frame :: frames) (htype : isTypeA frame = true)
    (hchecked : Checked f maxSduLen frame data)
    (hdecided : Decided hooks u.link.farm (tcUnpackHdr frame) data unpacked
      (osdlpTcReceive hooks u.link.farm rxBuffer rxBuffer.length)) :
    ∃ l', Serves f a W maxSduLen (u.received hooks rxBuffer frames) l' := by
  obtain ⟨hcop, hhdr, hfarm, ⟨util, hmission⟩, hoffer⟩ := hdecided
  have hqueue : u.link.fop.world.txQueue = frame :: frames := hup
  have hbypass : unpacked.primaryHdr.bypass = .typeA := by
    rw [hhdr]
    exact of_decide_eq_true htype
  have hreceives := h.receives.of_mission hmission
  have hvr₀ : u.link.farm.copCfg.vr = numbered a l.delivered.length := h.link.vr
  have hdel₀ : u.link.delivered = l.delivered := h.link.delivered
  have hothers : ∃ pending,
      List.Forall₂ (Expedites f maxSduLen) (frames.filter fun fr => !isTypeA fr) pending ∧
        (u.expedited ++ pending).Sublist u.requested := by
    have hexpedited := h.expedited
    unfold expeditedFrames at hexpedited
    rwa [hqueue, List.filter_cons_of_neg (by simp [htype])] at hexpedited
  have huplink : List.Forall₂ (Carries f (numbered a) l.accepted)
      (u.link.fop.world.txQueue.filter isTypeA) l.uplink := h.link.sender.uplink
  rw [hqueue, List.filter_cons_of_pos htype] at huplink
  obtain ⟨i, indices, ⟨x, hx, hframe⟩, hrest, hl⟩ := List.forall₂_cons_left_iff.mp huplink
  obtain ⟨-, hns, hx'⟩ := hframe u.link.farm h.receives.framing
  have hdata : data = x := (payload_of_checked h.receives hchecked).symm.trans hx'
  obtain ⟨hnotFront, hcnt⟩ := osdlpFarm1_numbered hbypass hooks.rxFull
  rcases osdlpFarm1_vr hooks.rxFull unpacked with ⟨hacc, henq, hvr⟩ | ⟨-, hne, hvr⟩
  · -- it is the one that is waited for
    have hnum : numbered a i = numbered a l.delivered.length := by
      have hwaited := hacc.seqNum
      rw [hhdr, hcop, hvr₀] at hwaited
      exact hns.symm.trans hwaited
    rw [henq, if_pos (.inl rfl)] at hoffer
    have hend := sdusOffered_some false hoffer
    have hfront := sdusOffered_some true hoffer
    simp only [ne_eq, not_true_eq_false, decide_false, if_true, Bool.false_eq_true, if_false]
      at hend hfront
    refine ⟨{ l with uplink := indices, delivered := l.delivered ++ [x] },
      ⟨h.link.sender.withUplink rfl rfl rfl hrest, hreceives.framing, ?_, ?_, h.link.downlink,
        h.link.inv.deliver (numbered_inj hW) hl hnum hx⟩, h.sends_later hup, hreceives, ?_, ?_⟩
    · show (osdlpTcReceive hooks u.link.farm _ _).tf.copCfg.vr = _
      rw [hfarm, hvr, hcop, hvr₀, List.length_append, List.length_singleton, numbered_succ]
    · show u.link.delivered ++ sdusOffered false _ = l.delivered ++ [x]
      rw [hend, hdel₀, hdata]
    · show ∃ pending, _ ∧ ((u.expedited ++ sdusOffered true _) ++ pending).Sublist u.requested
      rw [hfront, List.append_nil]
      exact hothers
    · show (osdlpTcReceive hooks u.link.farm _ _).tf.copCfg.farmbCnt.toNat =
        (u.expedited ++ sdusOffered true _).length % 4
      rw [hfront, List.append_nil, hfarm, hcnt, hcop]
      exact h.counted
  · -- it is not, or there is no room
    have hnoset : ¬ SetsVr unpacked := fun hset => by simpa [hbypass] using hset.1
    have hlost : indices.Sublist l.uplink := by
      rw [hl]
      exact List.sublist_cons_self i indices
    rw [if_neg (not_or.mpr ⟨hne, hnotFront⟩)] at hoffer
    have hnone := fun now => sdusOffered_none now hoffer
    refine ⟨{ l with uplink := indices },
      ⟨h.link.sender.withUplink rfl rfl rfl hrest, hreceives.framing, ?_, ?_, h.link.downlink,
        h.link.inv.loseUp hlost⟩, h.sends_later hup, hreceives, ?_, ?_⟩
    · show (osdlpTcReceive hooks u.link.farm _ _).tf.copCfg.vr = _
      rw [hfarm, hvr.resolve_right fun hset => hnoset hset.1, hcop]
      exact hvr₀
    · show u.link.delivered ++ sdusOffered false _ = l.delivered
      rw [hnone, List.append_nil]
      exact hdel₀
    · show ∃ pending, _ ∧ ((u.expedited ++ sdusOffered true _) ++ pending).Sublist u.requested
      rw [hnone, List.append_nil]
      exact hothers
    · show (osdlpTcReceive hooks u.link.farm _ _).tf.copCfg.farmbCnt.toNat =
        (u.expedited ++ sdusOffered true _).length % 4
      rw [hnone, List.append_nil, hfarm, hcnt, hcop]
      exact h.counted

/-- The counter of FARM-1 that the control word reports. -/
theorem toNat_nextFarmbCnt {cnt : UInt8} {n : ℕ} (h : cnt.toNat = n % 4) :
    (nextFarmbCnt cnt).toNat = (n + 1) % 4 := by
  unfold nextFarmbCnt
  rw [h, UInt8.toNat_ofNat']
  omega

/-- FARM-1 takes an expedited frame.
SOURCE: osdlp_cop.c:149-168, 306-312 -/
theorem Serves.expedites (h : Serves f a W maxSduLen u l)
    (hup : u.link.uplink = frame :: frames) (htype : isTypeA frame = false)
    (hchecked : Checked f maxSduLen frame data)
    (hdecided : Decided hooks u.link.farm (tcUnpackHdr frame) data unpacked
      (osdlpTcReceive hooks u.link.farm rxBuffer rxBuffer.length)) :
    Serves f a W maxSduLen (u.received hooks rxBuffer frames) l := by
  obtain ⟨hcop, hhdr, hfarm, ⟨util, hmission⟩, hoffer⟩ := hdecided
  have hqueue : u.link.fop.world.txQueue = frame :: frames := hup
  have hreceives := h.receives.of_mission hmission
  obtain ⟨pending, hpending, hsub⟩ := h.expedited
  unfold expeditedFrames at hpending
  rw [hqueue, List.filter_cons_of_pos (by simp [htype])] at hpending
  obtain ⟨data', later, hfirst, hlater, rfl⟩ := List.forall₂_cons_left_iff.mp hpending
  have hdata : data' = data := by
    rw [← payload_of_checked h.receives hfirst.checked, payload_of_checked h.receives hchecked]
  have hbypass : unpacked.primaryHdr.bypass = .typeB := by
    rw [hhdr]
    exact hfirst.bypass
  have hctrl : unpacked.primaryHdr.ctrlCmd = .data := by
    rw [hhdr]
    exact hfirst.ctrlCmd
  have hfarm1 := osdlpFarm1_expedited hbypass hctrl hooks.rxFull
  rw [hfarm1] at hfarm hoffer
  rw [if_pos (.inr rfl)] at hoffer
  have hend := sdusOffered_some false hoffer
  have hfront := sdusOffered_some true hoffer
  simp only [ne_eq, reduceCtorEq, not_false_eq_true, decide_true, if_true, Bool.true_eq_false,
    if_false] at hend hfront
  have huplink : List.Forall₂ (Carries f (numbered a) l.accepted) (frames.filter isTypeA)
      l.uplink := by
    have hall : List.Forall₂ (Carries f (numbered a) l.accepted)
        (u.link.fop.world.txQueue.filter isTypeA) l.uplink := h.link.sender.uplink
    rwa [hqueue, List.filter_cons_of_neg (by simp [htype])] at hall
  refine ⟨⟨h.link.sender.withUplink rfl rfl rfl huplink, hreceives.framing, ?_, ?_, h.link.downlink,
    h.link.inv⟩, h.sends_later hup, hreceives, ⟨later, hlater, ?_⟩, ?_⟩
  · show (osdlpTcReceive hooks u.link.farm _ _).tf.copCfg.vr = _
    rw [hfarm, setFarm_copCfg, hcop]
    exact h.link.vr
  · show u.link.delivered ++ sdusOffered false _ = l.delivered
    rw [hend, List.append_nil]
    exact h.link.delivered
  · show ((u.expedited ++ sdusOffered true _) ++ later).Sublist u.requested
    rw [hfront, ← hdata, List.append_assoc]
    exact hsub
  · show (osdlpTcReceive hooks u.link.farm _ _).tf.copCfg.farmbCnt.toNat =
      (u.expedited ++ sdusOffered true _).length % 4
    rw [hfront, hfarm, setFarm_copCfg, hcop, List.length_append, List.length_singleton]
    exact toNat_nextFarmbCnt h.counted

/-- The frame at the head of the uplink arrives, in whatever shape. -/
theorem Serves.receive (h : Serves f a W maxSduLen u l) (hW : W ≤ 255) (hooks : RxHooks)
    (errors : Option (List UInt8)) (rest : List UInt8)
    (hallowed : Allowed f.overheadLen maxSduLen u (.receive hooks errors rest)) :
    ∃ l', Serves f a W maxSduLen (uplinkStep u (.receive hooks errors rest)) l' := by
  unfold uplinkStep
  cases hup : u.link.uplink with
  | nil => exact ⟨l, h⟩
  | cons frame frames =>
    obtain ⟨data, hchecked⟩ := h.sends.queued frame
      (by rw [show u.link.fop.world.txQueue = frame :: frames from hup]; simp)
    cases errors with
    | some errors =>
      obtain ⟨herrors, hnoticeable, hspares⟩ := hallowed errors rfl frame (by rw [hup]; rfl)
      exact h.unheard hW hup
        (osdlpTcReceive_garbled h.receives hchecked herrors hnoticeable hspares _)
    | none =>
      rcases osdlpTcReceive_intact h.receives hchecked (frame ++ rest).length with
        hunheard | ⟨unpacked, hdecided⟩
      · exact h.unheard hW hup hunheard
      · cases htype : isTypeA frame with
        | true => exact h.delivers hW hup htype hchecked hdecided
        | false => exact ⟨l, h.expedites hup htype hchecked hdecided⟩

end Arrival

/-- A resumption leaves the queues and the frame at hand alone. -/
theorem SendsWhole.resumeAd (h : SendsWhole f maxSduLen req s) (keep : List Bool) :
    SendsWhole f maxSduLen req (osdlpResumeAd (fifoHooks keep) s).2 ∧
      expeditedFrames (osdlpResumeAd (fifoHooks keep) s).2 = expeditedFrames s := by
  have hkept : ∀ fop running, SendsWhole f maxSduLen req
      ((onWorld s fun w => { w with timerRunning := running }).setFop fop) :=
    fun _ _ => ⟨h.crcFlag, h.queued, h.sent, h.waiting, h.requested⟩
  rcases @osdlpResumeAd_cases keep s with ⟨state, -, -, hres⟩ | ⟨-, hres | hres⟩
  · rw [hres]
    exact ⟨hkept _ true, rfl⟩
  · rw [hres]
    exact ⟨h, rfl⟩
  · rw [hres]
    exact ⟨hkept _ s.world.timerRunning, rfl⟩

/-- An event of the link that is not an arrival. -/
theorem Serves.linkEvent (h : Serves f a W maxSduLen u l) (hW : W ≤ 255) {e : Cop1Event}
    (hallowed : Allowed f.overheadLen maxSduLen u (.link e)) :
    ∃ l', Serves f a W maxSduLen (uplinkStep u (.link e)) l' := by
  have hnone : ∀ n, (none : Option UInt8) = some n →
      ∃ r rest, l.downlink = r :: rest ∧ numbered a r = n := fun n hn => by simp at hn
  cases e with
  | request hdr frameData =>
    obtain ⟨htype, hfits, hsmall⟩ := hallowed
    have hlinked : Linked f (numbered a) W true (adOnly (prepared hdr frameData u.link.fop)) l :=
      h.link.sender.prepared htype hfits
    have hsends : SendsWhole f maxSduLen true (prepared hdr frameData u.link.fop) :=
      ⟨h.sends.crcFlag, h.sends.queued, h.sends.sent, h.sends.waiting, fun _ => ⟨hfits, hsmall⟩⟩
    obtain ⟨l', h', -⟩ := h.reaches hW hlinked hsends rfl hnone
      (osdlpReqTransferFdu_reaches htype : Reaches [] none true _ _)
    exact ⟨l', h'⟩
  | adAccept keep =>
    obtain ⟨l', h', -⟩ := h.reaches hW h.link.sender h.sends rfl hnone
      (osdlpAdAccept_reaches : Reaches keep none false _ _)
    exact ⟨l', h'⟩
  | timerExpired keep =>
    obtain ⟨l', h', -⟩ := h.reaches hW h.link.sender h.sends rfl hnone
      (osdlpHandleTimerExpired_reaches 2 : Reaches keep none false _ _)
    exact ⟨l', h'⟩
  | clcw keep =>
    unfold uplinkStep cop1Step
    dsimp only
    -- without a control word on its way nothing happens
    cases hdown : u.link.downlink with
    | nil => exact ⟨l, h⟩
    | cons ocf rest =>
      have hmatch : List.Forall₂ (fun ocf r => (osdlpClcwUnpack ocf).reportValue = numbered a r)
        u.link.downlink l.downlink := h.link.downlink
      rw [hdown] at hmatch
      obtain ⟨r, rest', hr, hrest, hl⟩ := List.forall₂_cons_left_iff.mp hmatch
      have hreach : Reaches keep (some (osdlpClcwUnpack ocf).reportValue) false u.link.fop
          (fopStep u.link.fop (keep, .clcw ocf)) := by
        apply osdlpHandleClcw_reaches ocf
        intro hs
        rw [hr]
        exact h.link.inRange hW (by simp [hl]) hs
      have hnr : ∀ n, some (osdlpClcwUnpack ocf).reportValue = some n →
          ∃ r rest, l.downlink = r :: rest ∧ numbered a r = n := by
        intro n hn
        exact ⟨r, rest', hl, hr.symm.trans (Option.some.inj hn)⟩
      obtain ⟨l', h', hdown'⟩ := h.reaches hW h.link.sender h.sends rfl hnr hreach
      have hlost : rest'.Sublist l'.downlink := by
        rw [hdown', hl]
        exact List.sublist_cons_self r rest'
      exact ⟨{ l' with downlink := rest' },
        ⟨h'.link.sender.withUplink rfl rfl rfl h'.link.sender.uplink, h'.link.framing, h'.link.vr,
          h'.link.delivered, hrest, h'.link.inv.loseDown hlost⟩,
        h'.sends, h'.receives, h'.expedited, h'.counted⟩
  | resumeAd keep =>
    obtain ⟨l', -, hlink⟩ :=
      cop1_simulates hW (numberedLink u.link) (.resumeAd keep) l trivial h.link
    obtain ⟨hsends, hframes⟩ := h.sends.resumeAd keep
    -- the directive does the same to the link of the numbered frames alone
    have hsame : cop1Step (numberedLink u.link) (.resumeAd keep) =
        numberedLink (cop1Step u.link (.resumeAd keep)) :=
      congrArg (fun fop => { u.link with fop := fop }) (adOnly_resumeAd keep u.link.fop).symm
    rw [hsame] at hlink
    refine ⟨l', hlink, hsends, h.receives, ?_, h.counted⟩
    exact hframes.symm ▸ h.expedited
  | arrive rxFull => exact hallowed.elim
  | bufferRelease =>
    obtain ⟨l', -, hlink⟩ := cop1_simulates hW (numberedLink u.link) .bufferRelease l trivial h.link
    exact ⟨l', hlink, h.sends, ⟨h.receives.framing, h.receives.whole, h.receives.crcFlag,
      h.receives.maxSduLen⟩, h.expedited, h.counted⟩
  | report =>
    obtain ⟨l', -, hlink⟩ := cop1_simulates hW (numberedLink u.link) .report l trivial h.link
    exact ⟨l', hlink, h.sends, ⟨h.receives.framing, h.receives.whole, h.receives.crcFlag,
      h.receives.maxSduLen⟩, h.expedited, h.counted⟩
  | loseUp keep => exact h.lose hW (survivors_sublist keep u.link.uplink)
  | loseDown keep =>
    obtain ⟨l', -, hlink⟩ :=
      cop1_simulates hW (numberedLink u.link) (.loseDown keep) l trivial h.link
    exact ⟨l', hlink, h.sends, h.receives, h.expedited, h.counted⟩

/-- One event of the uplink. -/
theorem Serves.event (h : Serves f a W maxSduLen u l) (hW : W ≤ 255) {e : UplinkEvent}
    (hallowed : Allowed f.overheadLen maxSduLen u e) :
    ∃ l', Serves f a W maxSduLen (uplinkStep u e) l' := by
  cases e with
  | link e => exact h.linkEvent hW hallowed
  | requestBd hdr frameData => exact ⟨l, h.requestBd hallowed⟩
  | receive hooks errors rest => exact h.receive hW hooks errors rest hallowed

/-! ## The guarantee -/

/-- The numbered service delivers in order. -/
theorem Serves.delivered (h : Serves f a W maxSduLen u l) :
    u.link.delivered <+: u.link.fop.world.accepted := by
  have hdelivered : u.link.delivered = l.delivered := h.link.delivered
  have haccepted : u.link.fop.world.accepted = l.accepted := h.link.sender.accepted
  rw [hdelivered, haccepted]
  exact h.link.inv.delivered_prefix

/-- The expedited service delivers what it can. -/
theorem Serves.expedited_sublist (h : Serves f a W maxSduLen u l) :
    u.expedited.Sublist u.requested := by
  obtain ⟨pending, -, hsub⟩ := h.expedited
  exact (List.sublist_append_left _ _).trans hsub

/-- Both ends put checksums into their frames and look at them, and neither uses segment headers. -/
structure ChecksWhole (c : Cop1) : Prop where
  sender : c.fop.tf.mission.crcFlag = true
  receiver : c.farm.mission.crcFlag = true
  whole : c.fop.tf.mission.segHdrFlag = false

/-- A started link on which nothing has been requested. -/
theorem serves_idle {c : Cop1} (hstart : Started c) (hframing : SameFraming c)
    (hchecks : ChecksWhole c) (hcounter : c.farm.copCfg.farmbCnt = 0) :
    ∃ l, Serves (framing c.fop.tf) c.fop.tf.copCfg.vs c.fop.tf.copCfg.slideWnd.toNat
      c.farm.mission.maxSduLen { link := c, requested := [], expedited := [] } l := by
  have hup : c.fop.world.txQueue = [] := hstart.uplink
  have hidle := matches_idle hstart hframing
  refine ⟨_, { hidle with sender := hidle.sender.withUplink rfl rfl rfl ?_ }, ?_, ?_,
    ⟨[], ?_, .refl _⟩, ?_⟩
  · rw [hup]
    exact .nil
  · refine ⟨hchecks.sender, ?_, ?_, ?_, fun hfalse => absurd hfalse (by decide)⟩
    · simp [hup]
    · simp [hstart.sentQueue]
    · simp [hstart.waitQueue]
  · refine ⟨?_, hchecks.whole, hchecks.receiver, rfl⟩
    unfold framing
    rw [hframing.segHdrFlag, hframing.overheadLen]
  · unfold expeditedFrames
    rw [hup]
    exact .nil
  · show c.farm.copCfg.farmbCnt.toNat = 0
    rw [hcounter]
    rfl

/-- **Both services at once, over a channel that loses frames and garbles others.**  From a started
link on, whatever is requested of either service, lost, garbled, delayed and repeated in whatever
order, the SDUs that `osdlp_tc_receive` hands to the end of the receive queue are a prefix of those
that FOP-1 has accepted; the SDUs that it hands to the front are among those requested of the
expedited service, in the order of the requests and each at most once, and the counter of FARM-1
that the control word reports counts them modulo 4.
SOURCE: osdlp_crc.c:23-66, osdlp_tc.c:86-339, osdlp_cop.c:62-336, 395-560, 1910-2150, 2395-2555 -/
theorem services_deliver (c : Cop1) (hstart : Started c) (hframing : SameFraming c)
    (hchecks : ChecksWhole c) (hcounter : c.farm.copCfg.farmbCnt = 0) (events : List UplinkEvent)
    (hevents : Guarded uplinkStep
      (Allowed c.fop.tf.mission.fixedOverheadLen c.farm.mission.maxSduLen)
      { link := c, requested := [], expedited := [] } events) :
    let u := run uplinkStep { link := c, requested := [], expedited := [] } events
    u.link.delivered <+: u.link.fop.world.accepted ∧ u.expedited.Sublist u.requested ∧
      u.link.farm.copCfg.farmbCnt.toNat = u.expedited.length % 4 := by
  intro u
  have hW : c.fop.tf.copCfg.slideWnd.toNat ≤ 255 := by
    have hlt := c.fop.tf.copCfg.slideWnd.toNat_lt
    omega
  have hrun : ∃ l, Serves (framing c.fop.tf) c.fop.tf.copCfg.vs c.fop.tf.copCfg.slideWnd.toNat
      c.farm.mission.maxSduLen u l := by
    refine run_guarded_inv (I := fun u => ∃ l, Serves _ _ _ _ u l)
      (serves_idle hstart hframing hchecks hcounter) ?_ hevents
    rintro u e - ⟨l, h⟩ hallowed
    exact h.event hW hallowed
  obtain ⟨l, h⟩ := hrun
  exact ⟨h.delivered, h.expedited_sublist, h.counted⟩

/-- The started pair, with checksums. -/
def checkedLink : Cop1 :=
  { startedLink with
    fop :=
      { startedLink.fop with
        tf :=
          { startedLink.fop.tf with
            mission :=
              { (default : TcMissionParams) with
                fixedOverheadLen := 7
                crcFlag := true } } }
    farm :=
      { startedLink.farm with
        mission :=
          { (default : TcMissionParams) with
            fixedOverheadLen := 7
            crcFlag := true
            maxSduLen := 10 } } }

/-- Hooks that accept everything. -/
def readyHooks : RxHooks := { config := 0, rxFull := false, enqueue := 0, enqueueNow := 0 }

/-- One request of each service, the frame of the first with a wrong bit, then one more request,
which brings about a retransmission. -/
def mixedRequests : List UplinkEvent :=
  [.link (octetEvent 1),
    .requestBd { (default : TcPrimaryHdr) with bypass := .typeB }
      { (default : TcFdf) with data := [9], dataLen := 1 },
    .receive readyHooks (some [0, 0, 0, 0, 0, 0x10, 0, 0]) [], .receive readyHooks none [0xff],
    .link (octetEvent 2), .receive readyHooks none [], .link .report, .link (.clcw []),
    .receive readyHooks none []]

/-- Requests of both services. -/
theorem services_deliver_mixed :
    let u := run uplinkStep { link := checkedLink, requested := [], expedited := [] } mixedRequests
    (u.link.delivered <+: u.link.fop.world.accepted ∧ u.expedited.Sublist u.requested ∧
      u.link.farm.copCfg.farmbCnt.toNat = u.expedited.length % 4) ∧
      u.link.delivered = [[1]] ∧ u.link.fop.world.accepted = [[1], [2]] ∧ u.expedited = [[9]] := by
  have hstart : Started checkedLink :=
    ⟨rfl, rfl, rfl, rfl, by decide, by decide, rfl, rfl, rfl, rfl, rfl, rfl, rfl⟩
  have hnoticeable : Noticeable [0, 0, 0, 0, 0, 0x10, 0, 0] :=
    .inr (.inr ⟨by decide +kernel, by decide +kernel⟩)
  refine ⟨services_deliver checkedLink hstart ⟨rfl, rfl, rfl⟩ ⟨rfl, rfl, rfl⟩ rfl mixedRequests ?_,
    by decide +kernel⟩
  refine ⟨⟨rfl, by decide, by decide⟩, ⟨rfl, rfl, by decide, by decide, rfl⟩, ?_, by simp [Allowed],
    ⟨rfl, by decide, by decide⟩, by simp [Allowed], trivial, trivial, by simp [Allowed], trivial⟩
  intro errors herrors frame hframe
  obtain rfl := Option.some.inj herrors
  obtain rfl := Option.some.inj hframe
  exact ⟨rfl, hnoticeable, by decide, by decide⟩

end Osdlp.Analysis
