import Osdlp.Analysis.ErrorDetection
import Osdlp.Analysis.InOrderDelivery
import Osdlp.Analysis.ReceiveAck

/-!
# The frames of both services

The sequence-controlled service and the expedited one share the transmission queue.  The expedited
frames are not numbered, and no move of the sender looks at what is on the queue, so that the
numbered frames are on the uplink as if they were alone (`adOnly_move`).  All frames have a checksum
(`SendsWhole.move`).  At the other end, a garbled frame is as good as lost
(`osdlpTcReceive_garbled`), and FARM-1 decides about the others (`osdlpTcReceive_intact`).
-/

set_option autoImplicit false

namespace Osdlp.Analysis

open Osdlp.Model Osdlp.Interface Osdlp.Library Osdlp.Library.GoBackN
open Relation (ReflTransGen)

/-! ## A frame arrives -/

/-- The octets are a frame with a checksum that `osdlp_tc_pack` writes, with this data field of at
most `maxSduLen` octets. -/
def Checked (f : Framing) (maxSduLen : ℕ) (frame data : List UInt8) : Prop :=
  data.length ≤ maxSduLen ∧ ∃ tx : FopFrame, tx.mission.crcFlag = true ∧
    tx.mission.fixedOverheadLen = tx.mission.overhead ∧ framing tx = f ∧
      f.overheadLen + data.length ≤ 1024 ∧ frame = (osdlpTcPack tx data data.length).1

/-- A receiver of whole SDUs of at most `maxSduLen` octets that looks at checksums. -/
structure ReceivesWhole (f : Framing) (maxSduLen : ℕ) (rx : FarmFrame) : Prop where
  framing : framing rx = f
  whole : f.segHdrFlag = false
  crcFlag : rx.mission.crcFlag = true
  maxSduLen : rx.mission.maxSduLen = maxSduLen

/-- The SDUs that a call hands to the receive queue, to its end or to its front. -/
def sdusOffered (now : Bool) (r : TcReceived) : List (List UInt8) :=
  (r.offer.toList.filter fun o => o.now = now).map Offer.sdu

variable {f : Framing} {maxSduLen : ℕ} {rx : FarmFrame} {hooks : RxHooks}
  {frame data errors rest : List UInt8}

/-- Only the utility buffer and the unpacked fields are written besides the FARM variables. -/
structure Unheard (rx : FarmFrame) (r : TcReceived) : Prop where
  offer : r.offer = none
  copCfg : r.tf.copCfg = rx.copCfg
  mission : r.tf.mission = rx.mission

/-- A call that does not get as far as FARM-1.
SOURCE: osdlp_tc.c:185-207 -/
theorem unheard_of_not_admitted {rxBuffer : List UInt8} {length : ℕ}
    (h : ¬ Admitted hooks rx rxBuffer length) :
    Unheard rx (osdlpTcReceive hooks rx rxBuffer length) := by
  unfold osdlpTcReceive
  dsimp only
  split_ifs with hlen hconfig hvalid
  · exact ⟨rfl, rfl, rfl⟩
  · exact ⟨rfl, rfl, rfl⟩
  · exact ⟨rfl, rfl, rfl⟩
  · exact absurd ⟨by omega, not_lt.mp hconfig, not_lt.mp hvalid⟩ h

/-- A garbled frame is as good as lost.
SOURCE: osdlp_crc.c:23-66, osdlp_tc.c:161-207 -/
theorem osdlpTcReceive_garbled (hrx : ReceivesWhole f maxSduLen rx)
    (hframe : Checked f maxSduLen frame data) (herrors : errors.length = frame.length)
    (hnoticeable : Noticeable errors) (hspares : SparesLength errors) (length : ℕ) :
    Unheard rx (osdlpTcReceive hooks rx (corrupted frame errors ++ rest) length) := by
  obtain ⟨-, tx, hcrc, hover, rfl, hfits, rfl⟩ := hframe
  have hinvalid := osdlpFrameValidationCheck_corrupted hover hfits herrors hspares hcrc hnoticeable
    hrx.crcFlag rest
  apply unheard_of_not_admitted
  intro hadmitted
  have hvalid := hadmitted.valid
  rw [hinvalid] at hvalid
  exact absurd hvalid (by decide)

/-- What follows FARM-1 when SDUs are not segmented.
SOURCE: osdlp_tc.c:209-338 -/
theorem receiveFarmed_whole {tf : FarmFrame} (hwhole : tf.mission.segHdrFlag = false)
    (hpayload : tf.frameData.payload.length = tf.frameData.dataLen)
    (hlen : tf.frameData.dataLen ≤ tf.mission.maxSduLen) (ret : FarmResult) :
    ∃ util, (receiveFarmed hooks ret tf).tf = setUtil tf util ∧
      (receiveFarmed hooks ret tf).offer =
        if ret = .enq ∨ ret = .priorityEnq then
          some { now := ret ≠ .enq, sdu := tf.frameData.payload }
        else none := by
  have htaken : (copiedTo tf 0).take tf.frameData.dataLen = tf.frameData.payload := by
    have hcopied := @take_memWrite tf.mission.util.buffer tf.frameData.payload 0 (Nat.zero_le _)
    rw [Nat.zero_add, List.take_zero, List.nil_append, hpayload] at hcopied
    exact hcopied
  have hdata : ∀ farmRet, receiveData hooks farmRet tf =
      rxOffer hooks farmRet tf.frameData.payload
        (setUtil tf { buffer := copiedTo tf 0, bufferedLength := 0, loopState := .loopClosed }) := by
    intro farmRet
    unfold receiveData receiveWhole
    rw [hwhole, if_neg (by simp), if_neg (by omega)]
    dsimp only
    rw [htaken]
  unfold receiveFarmed
  cases ret with
  | enq | priorityEnq =>
    dsimp only
    rw [hdata]
    exact ⟨_, rfl, by simp [rxOffer]⟩
  | error => exact ⟨_, rfl, by simp [rxError]⟩
  | ok => exact ⟨tf.mission.util, rfl, by simp [rxDone]⟩
  | discard => exact ⟨tf.mission.util, rfl, by simp [rxError]⟩

/-- FARM-1 decides about the frame and its data, with this header as `unpacked`. -/
structure Decided (hooks : RxHooks) (rx : FarmFrame) (hdr : TcPrimaryHdr) (data : List UInt8)
    (unpacked : FarmFrame) (r : TcReceived) : Prop where
  before : unpacked.copCfg = rx.copCfg
  primaryHdr : unpacked.primaryHdr = hdr
  copCfg : r.tf.copCfg = (osdlpFarm1 hooks.rxFull unpacked).2.copCfg
  mission : ∃ util, r.tf.mission = { rx.mission with util := util }
  offer : r.offer =
    if (osdlpFarm1 hooks.rxFull unpacked).1 = .enq ∨
        (osdlpFarm1 hooks.rxFull unpacked).1 = .priorityEnq then
      some { now := (osdlpFarm1 hooks.rxFull unpacked).1 ≠ .enq, sdu := data }
    else none

/-- A frame that arrives as it was sent is dropped without a trace, or FARM-1 decides about it.
SOURCE: osdlp_tc.c:185-339 -/
theorem osdlpTcReceive_intact (hrx : ReceivesWhole f maxSduLen rx)
    (hframe : Checked f maxSduLen frame data) (length : ℕ) :
    Unheard rx (osdlpTcReceive hooks rx (frame ++ rest) length) ∨
      ∃ unpacked, Decided hooks rx (tcUnpackHdr frame) data unpacked
        (osdlpTcReceive hooks rx (frame ++ rest) length) := by
  by_cases hadmitted : Admitted hooks rx (frame ++ rest) length
  · let unpacked := osdlpTcUnpack rx (frame ++ rest)
    obtain ⟨hsmall, tx, hcrc, hover, hf, hfits, hpack⟩ := hframe
    have hsame : framing rx = framing tx := hrx.framing.trans hf.symm
    have hseg : rx.mission.segHdrFlag = tx.mission.segHdrFlag := congrArg Framing.segHdrFlag hsame
    have hfix : rx.mission.fixedOverheadLen = tx.mission.fixedOverheadLen :=
      congrArg Framing.overheadLen hsame
    have hroom : tx.mission.fixedOverheadLen + data.length ≤ 1024 := by
      rw [← hf] at hfits
      exact hfits
    have hwhole : rx.mission.segHdrFlag = false := by
      have hnone := hrx.whole
      rw [← hrx.framing] at hnone
      exact hnone
    obtain ⟨hhdr, -, hdataLen, hpayload⟩ := osdlpTcUnpack_pack hover hroom hseg hfix rest
    obtain ⟨hhdr', -, -, -⟩ := osdlpTcUnpack_pack hover hroom hseg hfix []
    rw [List.append_nil, ← hpack] at hhdr'
    rw [← hpack] at hhdr hdataLen hpayload
    obtain ⟨farm, hfarm⟩ := osdlpFarm1_frame hooks.rxFull unpacked
    obtain ⟨util, htf, hoffer⟩ := @receiveFarmed_whole hooks (setFarm unpacked farm) hwhole
      (show unpacked.frameData.payload.length = unpacked.frameData.dataLen by
        rw [hpayload, hdataLen])
      (show unpacked.frameData.dataLen ≤ rx.mission.maxSduLen by
        rw [hdataLen, hrx.maxSduLen]
        exact hsmall)
      (osdlpFarm1 hooks.rxFull unpacked).1
    have hcall := osdlpTcReceive_admitted hadmitted
    refine .inr ⟨unpacked, rfl, hhdr.trans hhdr'.symm, ?_, ⟨util, ?_⟩, ?_⟩
    · rw [hcall, receiveFarmed_copCfg]
    · rw [hcall, hfarm, htf]
      rfl
    · rw [hcall, hfarm, hoffer]
      have hsdu : (setFarm unpacked farm).frameData.payload = data := hpayload
      rw [hsdu]
  · exact .inl (unheard_of_not_admitted hadmitted)

/-! ## The numbered frames on their own -/

/-- The header of the frame says type A. -/
def isTypeA (frame : List UInt8) : Bool := (tcUnpackHdr frame).bypass = .typeA

/-- The sender as if there were no other frames on its transmission queue. -/
def adOnly (s : Fop) : Fop := onWorld s fun w => { w with txQueue := w.txQueue.filter isTypeA }

@[simp] theorem adOnly_tf (s : Fop) : (adOnly s).tf = s.tf := rfl

/-- The other frames. -/
def expeditedFrames (s : Fop) : List (List UInt8) :=
  s.world.txQueue.filter fun frame => !isTypeA frame

variable {a : UInt8} {W : ℕ} {keep : List Bool} {nr : Option UInt8} {req : Bool} {s s' : Fop}
  {l : Link (List UInt8)} {num : ℕ → UInt8}

/-- What every receiver takes for a type-A frame is one. -/
theorem isTypeA_of_frameOf {number : UInt8} {payload : List UInt8}
    (h : FrameOf f frame number payload) : isTypeA frame = true := by
  let peer : FarmFrame := { (default : FarmFrame) with
    mission := { (default : TcMissionParams) with
      segHdrFlag := f.segHdrFlag
      fixedOverheadLen := f.overheadLen } }
  exact decide_eq_true (h peer rfl).1

/-- A numbered frame more. -/
theorem filter_concat_typeA {frames : List (List UInt8)} (h : isTypeA frame = true) :
    (frames ++ [frame]).filter isTypeA = frames.filter isTypeA ++ [frame] ∧
      (frames ++ [frame]).filter (fun fr => !isTypeA fr) = frames.filter fun fr => !isTypeA fr := by
  simp [List.filter_append, h]

/-- The frame that is packed for the first in the wait queue has the type at hand. -/
theorem isTypeA_packedWaiting (h : Linked f num W req (adOnly s) l)
    (hs : isAd s.tf.copCfg.state) (hwait : s.world.waitQueue ≠ []) :
    isTypeA (packedWaiting s).1 = true := by
  obtain ⟨halive, -⟩ := h.alive (not_isAd_init hs)
  obtain ⟨tf, rest, hq⟩ := List.exists_cons_of_ne_nil hwait
  have hpacked : packedWaiting s = osdlpTcPack s.tf tf.frameData.data tf.frameData.dataLen := by
    unfold packedWaiting
    rw [hq]
    rfl
  have hfits : Fits f.overheadLen tf.frameData := by
    apply halive.fits
    show tf ∈ s.world.waitQueue
    simp [hq]
  rw [hpacked]
  exact isTypeA_of_frameOf (frameOf_pack h.overhead h.framing (halive.header hwait) hfits)

/-- A frame that is sent again is one of the numbered ones. -/
theorem isTypeA_resent {item : QueueItem} (h : Linked f num W req (adOnly s) l)
    (hs : isAd s.tf.copCfg.state) (hitem : item ∈ s.world.sentQueue) :
    isTypeA item.fdu = true := by
  obtain ⟨halive, -⟩ := h.alive (not_isAd_init hs)
  obtain ⟨k, hk, hget⟩ := List.getElem_of_mem (List.mem_map_of_mem (f := QueueItem.fdu) hitem)
  have hcopies := List.forall₂_iff_get.mp halive.copies
  obtain ⟨payload, -, hframe⟩ := hcopies.2 k hk (by rw [← hcopies.1]; exact hk)
  rw [← hget]
  exact isTypeA_of_frameOf hframe

/-- **The numbered service does not notice the expedited one.**  Every move of the sender is one
of the sender with its numbered frames alone, and adds no other frame.
SOURCE: osdlp_cop.c:395-560 -/
theorem adOnly_move (h : Linked f num W req (adOnly s) l) (hmove : FopMove keep nr req s s') :
    (∃ keep', FopMove keep' nr req (adOnly s) (adOnly s')) ∧
      (expeditedFrames s').Sublist (expeditedFrames s) := by
  -- moves that leave the queue to the lower layers alone are the same moves of `adOnly s`
  cases hmove with
  | fop fop' hsame => exact ⟨⟨keep, .fop (adOnly s) fop' hsame⟩, .refl _⟩
  | timer running => exact ⟨⟨keep, .timer (adOnly s) running⟩, .refl _⟩
  | clcw clcw => exact ⟨⟨keep, .clcw (adOnly s) clcw⟩, .refl _⟩
  | adState state hs hstate => exact ⟨⟨keep, .adState (adOnly s) state hs hstate⟩, .refl _⟩
  | ack n hs hn hrange =>
    have hsame : adOnly (acked n (s.tf.copCfg.slideWnd.toNat + 1) s) =
        acked n (s.tf.copCfg.slideWnd.toNat + 1) (adOnly s) := by
      unfold acked
      exact apply_ite adOnly _ _ _
    have hqueue : expeditedFrames (acked n (s.tf.copCfg.slideWnd.toNat + 1) s) =
        expeditedFrames s := by
      obtain ⟨-, items, hworld⟩ := acked_frame n (s.tf.copCfg.slideWnd.toNat + 1) s
      unfold expeditedFrames
      rw [hworld]
    rw [hsame, hqueue]
    exact ⟨⟨keep, .ack (adOnly s) n hs hn hrange⟩, .refl _⟩
  | retransmit hs =>
    have hlost := survivors_sublist keep s.world.txQueue
    -- of the frames that the retransmission drops, the numbered ones are dropped by some `keep'`
    obtain ⟨keep', hkeep⟩ := exists_survivors (hlost.filter isTypeA)
    have hsame : adOnly (retransmitting keep s) = retransmitting keep' (adOnly s) := by
      simp only [adOnly, retransmitting, onWorld, FopSt.setFop, hkeep]
    rw [hsame]
    exact ⟨⟨keep', .retransmit (adOnly s) hs⟩, hlost.filter _⟩
  | resend hs =>
    unfold resent
    split
    · rename_i hnone
      have hsame : resent (adOnly s) = adOnly s := by
        unfold resent
        rw [show (adOnly s).world.sentQueue.find? isAdRt = none from hnone]
      have hagain : FopMove keep nr req (adOnly s) (resent (adOnly s)) := .resend (adOnly s) hs
      rw [hsame] at hagain
      exact ⟨⟨keep, hagain⟩, .refl _⟩
    · rename_i item hsome
      have htype := isTypeA_resent h hs (List.mem_of_find?_eq_some hsome)
      obtain ⟨hnumbered, hother⟩ := @filter_concat_typeA _ s.world.txQueue htype
      have hsame : resent (adOnly s) = adOnly (onWorld s fun w =>
          { w with
            sentQueue := resetRt item.seqNum w.sentQueue
            txQueue := w.txQueue ++ [item.fdu] }) := by
        unfold resent
        rw [show (adOnly s).world.sentQueue.find? isAdRt = some item from hsome]
        simp only [adOnly, onWorld, hnumbered]
      refine ⟨⟨keep, hsame ▸ .resend (adOnly s) hs⟩, ?_⟩
      unfold expeditedFrames
      exact hother.symm ▸ .refl _
  | send hs hwait hroom =>
    have htype := isTypeA_packedWaiting h hs hwait
    obtain ⟨hnumbered, hother⟩ := @filter_concat_typeA _ s.world.txQueue htype
    have hsame : adOnly (transmitted s) = transmitted (adOnly s) := by
      unfold adOnly transmitted onWorld
      simp only [hnumbered]
      rfl
    rw [hsame]
    refine ⟨⟨keep, .send (adOnly s) hs hwait hroom⟩, ?_⟩
    unfold expeditedFrames
    exact hother.symm ▸ .refl _
  | enqueue hreq hs hwait => exact ⟨⟨keep, .enqueue (adOnly s) hreq hs hwait⟩, .refl _⟩
  | alert notif hs => exact ⟨⟨keep, .alert (adOnly s) notif hs⟩, .refl _⟩
  | suspend ss hs => exact ⟨⟨keep, .suspend (adOnly s) ss hs⟩, .refl _⟩
  | initiated hs hvs => exact ⟨⟨keep, .initiated (adOnly s) hs hvs⟩, .refl _⟩
  | released hs hvs => exact ⟨⟨keep, .released (adOnly s) hs hvs⟩, .refl _⟩
  | command hs =>
    have had := (h.alive (by rw [adOnly_tf, hs]; decide)).2.1
    rw [adOnly_tf, hs] at had
    exact absurd had (by decide)

/-! ## What is on the uplink has a checksum -/

/-- All that is on its way, kept for another time or still to be packed are whole SDUs. -/
structure SendsWhole (f : Framing) (maxSduLen : ℕ) (req : Bool) (s : Fop) : Prop where
  crcFlag : s.tf.mission.crcFlag = true
  queued : ∀ frame ∈ s.world.txQueue, ∃ data, Checked f maxSduLen frame data
  sent : ∀ frame ∈ s.world.sentQueue.map QueueItem.fdu, ∃ data, Checked f maxSduLen frame data
  waiting : ∀ tf ∈ s.world.waitQueue,
    Fits f.overheadLen tf.frameData ∧ tf.frameData.dataLen ≤ maxSduLen
  requested : req = true → Fits f.overheadLen s.tf.frameData ∧ s.tf.frameData.dataLen ≤ maxSduLen

/-- The octets of the copies, whatever their flags. -/
theorem map_fdu_of_itemCopy {items items' : List QueueItem}
    (h : items'.map itemCopy = items.map itemCopy) :
    items'.map QueueItem.fdu = items.map QueueItem.fdu := by
  have hfirst := congrArg (List.map Prod.fst) h
  simp only [List.map_map] at hfirst
  exact hfirst

/-- A packed frame that carries data within the limits. -/
theorem checked_pack {tf : FopFrame} {d : TcFdf} (hcrc : tf.mission.crcFlag = true)
    (hover : tf.mission.fixedOverheadLen = tf.mission.overhead) (hf : framing tf = f)
    (hfits : Fits f.overheadLen d) (hsmall : d.dataLen ≤ maxSduLen) :
    Checked f maxSduLen (osdlpTcPack tf d.data d.dataLen).1 d.payload := by
  have hlen : d.payload.length = d.dataLen := List.length_take_of_le hfits.1
  rw [osdlpTcPack_payload tf hfits.1]
  refine ⟨by omega, tf, hcrc, hover, hf, ?_, rfl⟩
  rw [hlen]
  exact hfits.2

/-- No move of a service that runs or has ended puts anything else on its way. -/
theorem SendsWhole.move (h : SendsWhole f maxSduLen req s)
    (hlinked : Linked f num W req (adOnly s) l) (hmove : FopMove keep nr req s s') :
    SendsWhole f maxSduLen req s' := by
  obtain ⟨hhdr, hdata, hmission⟩ := hmove.frame
  have hcrc : s'.tf.mission.crcFlag = true := by
    rw [hmission]
    exact h.crcFlag
  have hreq : req = true →
      Fits f.overheadLen s'.tf.frameData ∧ s'.tf.frameData.dataLen ≤ maxSduLen := by
    rw [hdata]
    exact h.requested
  cases hmove with
  | fop | timer | clcw | adState | suspend | initiated =>
    exact ⟨hcrc, h.queued, h.sent, h.waiting, hreq⟩
  | ack n =>
    obtain ⟨-, items, hworld⟩ := acked_frame n (s.tf.copCfg.slideWnd.toNat + 1) s
    refine ⟨hcrc, ?_, ?_, ?_, hreq⟩
    · rw [hworld]
      exact h.queued
    · intro frame hframe
      rw [acked_sentQueue] at hframe
      exact h.sent frame (((dropAcked_sublist _ _ _).map _).subset hframe)
    · rw [hworld]
      exact h.waiting
  | retransmit =>
    refine ⟨hcrc, ?_, ?_, h.waiting, hreq⟩
    · intro frame hframe
      exact h.queued frame ((survivors_sublist keep _).subset hframe)
    · show ∀ frame ∈ (s.world.sentQueue.map (markRt .typeA)).map QueueItem.fdu, _
      rw [map_fdu_of_itemCopy (map_itemCopy_markRt _ _)]
      exact h.sent
  | resend hs =>
    unfold resent
    split
    · exact h
    · rename_i item hsome
      refine ⟨h.crcFlag, ?_, ?_, h.waiting, h.requested⟩
      · intro frame hframe
        rcases List.mem_append.mp hframe with hold | hnew
        · exact h.queued frame hold
        · rw [List.mem_singleton.mp hnew]
          exact h.sent _ (List.mem_map_of_mem (List.mem_of_find?_eq_some hsome))
      · show ∀ frame ∈ (resetRt item.seqNum s.world.sentQueue).map QueueItem.fdu, _
        rw [map_fdu_of_itemCopy (map_itemCopy_resetRt _ _)]
        exact h.sent
  | send hs hwait =>
    obtain ⟨tf, rest, hq⟩ := List.exists_cons_of_ne_nil hwait
    have hpacked : packedWaiting s = osdlpTcPack s.tf tf.frameData.data tf.frameData.dataLen := by
      unfold packedWaiting
      rw [hq]
      rfl
    have hhead := h.waiting tf (by simp [hq])
    have hchecked : Checked f maxSduLen (packedWaiting s).1 tf.frameData.payload := by
      rw [hpacked]
      exact checked_pack h.crcFlag hlinked.overhead hlinked.framing hhead.1 hhead.2
    -- the only frame that a move adds is the packed head of the wait queue
    have hnew : ∀ {frames : List (List UInt8)},
        (∀ frame ∈ frames, ∃ data, Checked f maxSduLen frame data) →
        ∀ frame ∈ frames ++ [(packedWaiting s).1], ∃ data, Checked f maxSduLen frame data := by
      intro frames hframes frame hframe
      rcases List.mem_append.mp hframe with hold | hlast
      · exact hframes frame hold
      · rw [List.mem_singleton.mp hlast]
        exact ⟨_, hchecked⟩
    refine ⟨hcrc, hnew h.queued, ?_, ?_, hreq⟩
    · show ∀ frame ∈ (s.world.sentQueue ++ [newItem s]).map QueueItem.fdu, _
      rw [List.map_append]
      exact hnew h.sent
    · intro tf' htf'
      exact h.waiting tf' (List.mem_of_mem_tail htf')
  | enqueue hrequest =>
    refine ⟨hcrc, h.queued, h.sent, ?_, hreq⟩
    intro tf htf
    rcases List.mem_append.mp htf with hold | hnew
    · exact h.waiting tf hold
    · rw [List.mem_singleton.mp hnew]
      exact h.requested hrequest
  | alert => exact ⟨hcrc, h.queued, by simp [alerted], by simp [alerted], hreq⟩
  | released =>
    refine ⟨hcrc, h.queued, ?_, h.waiting, hreq⟩
    intro frame hframe
    exact h.sent frame (((withoutCommand_sublist _).map QueueItem.fdu).subset hframe)
  | command hs =>
    -- a command is only sent in a state without the numbered service
    have had := (hlinked.alive (by rw [adOnly_tf, hs]; decide)).2.1
    rw [adOnly_tf, hs] at had
    exact absurd had (by decide)

/-- A run of moves of the sender, as the numbered frames see it. -/
theorem reaches_adOnly (hlinked : Linked f (numbered a) W req (adOnly s) l)
    (hsends : SendsWhole f maxSduLen req s) (hinv : Inv W l) (hW : W ≤ 255)
    (hnr : ∀ n, nr = some n → ∃ r rest, l.downlink = r :: rest ∧ numbered a r = n)
    (hmoves : Reaches keep nr req s s') :
    ∃ l', ReflTransGen (Move (numbered a) W) l l' ∧
      Linked f (numbered a) W req (adOnly s') l' ∧ SendsWhole f maxSduLen req s' ∧
      (expeditedFrames s').Sublist (expeditedFrames s) ∧ l'.delivered = l.delivered ∧
      l'.downlink = l.downlink := by
  induction hmoves with
  | refl => exact ⟨l, .refl, hlinked, hsends, .refl _, rfl, rfl⟩
  | tail _ hmove ih =>
    obtain ⟨l₁, hm₁, h₁, hsends₁, hless₁, hdel₁, hdown₁⟩ := ih
    obtain ⟨⟨keep', hmove'⟩, hless₂⟩ := adOnly_move h₁ hmove
    obtain ⟨l₂, hm₂, h₂, hdel₂, hdown₂⟩ := h₁.move (hinv.moves (numbered_inj hW) hm₁) hW
      (fun n hn => by rw [hdown₁]; exact hnr n hn) hmove'
    exact ⟨l₂, hm₁.trans hm₂, h₂, hsends₁.move h₁ hmove, hless₂.trans hless₁,
      hdel₂.trans hdel₁, hdown₂.trans hdown₁⟩

/-- A resumption does not look at the transmission queue. -/
theorem adOnly_resumeAd (keep : List Bool) (s : Fop) :
    adOnly (osdlpResumeAd (fifoHooks keep) s).2 = (osdlpResumeAd (fifoHooks keep) (adOnly s)).2 := by
  have hto : ∀ state, adOnly (resumeTo (fifoHooks keep) state s).2 =
      (resumeTo (fifoHooks keep) state (adOnly s)).2 := by
    intro state
    rw [resumeTo_apply, resumeTo_apply]
    by_cases hinit : s.tf.copCfg.state = .init
    · have hinit' : (adOnly s).tf.copCfg.state = .init := hinit
      rw [if_pos hinit, if_pos hinit']
      rfl
    · have hinit' : (adOnly s).tf.copCfg.state ≠ .init := hinit
      rw [if_neg hinit, if_neg hinit']
  unfold osdlpResumeAd
  simp only [bind_apply, getFop_apply, ite_apply_state, adOnly_tf]
  split_ifs
  · rfl
  · exact hto .active
  · exact hto .rtNoWait
  · exact hto .rtWait
  · exact hto .initNoBc
  · rfl

end Osdlp.Analysis
