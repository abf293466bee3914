import Osdlp.Interface.Cop1
import Osdlp.Interface.FopRelease
import Osdlp.Interface.TcCodec
import Osdlp.Model.TcTransmit

/-!
# A frame that had to wait

`osdlp_transmit_type_ad` takes the data from the frame that waited and everything else from the
frame structure as it is by then.  So a waiting frame is sent as it was requested exactly if the
frame structure still holds its type and its segment header (`asRequested_iff`).
-/

set_option autoImplicit false

namespace Osdlp.Analysis

open Osdlp.Model Osdlp.Interface Osdlp.Library

/-! ## What is asked for -/

/-- The frame structure that the event works on. -/
def template (s : Fop) : SenderEvent → FopFrame
  | .op _ (.request hdr frameData) => (prepared hdr frameData s).tf
  | _ => s.tf

/-- The frames that wait, the one that the event may put on the wait queue included. -/
def awaiting (s : Fop) (e : SenderEvent) : List FopFrame :=
  match s.world.waitQueue, e with
  | [], .op _ (.request hdr frameData) =>
    if hdr.bypass = .typeA then [(prepared hdr frameData s).tf] else []
  | waiting, _ => waiting

/-- The event transmits the waiting frame `w`, and `item` is what it puts on the sent queue: no
frame waits any longer, V(S) has gone up, and the sent queue ends with a type-A item. -/
structure Transmits (s : Fop) (e : SenderEvent) (w : FopFrame) (item : QueueItem) : Prop where
  awaiting : awaiting s e = [w]
  waitQueue : (senderStep s e).world.waitQueue = []
  vs : (senderStep s e).tf.copCfg.vs = s.tf.copCfg.vs + 1
  sentQueue : (senderStep s e).world.sentQueue.getLast? = some item
  type : item.type = .typeA

/-- The frame goes onto both queues with the number V(S), and whoever unpacks it gets the waiting
frame as it was requested. -/
structure AsRequested (s : Fop) (e : SenderEvent) (w : FopFrame) (item : QueueItem) : Prop where
  txQueue : (senderStep s e).world.txQueue.getLast? = some item.fdu
  seqNum : item.seqNum = s.tf.copCfg.vs
  unpacked : ∀ rx : TcTransferFrame FarmConfig,
    rx.mission.segHdrFlag = s.tf.mission.segHdrFlag →
    rx.mission.fixedOverheadLen = s.tf.mission.fixedOverheadLen →
    let peer := osdlpTcUnpack rx item.fdu
    peer.primaryHdr.bypass = .typeA ∧ peer.primaryHdr.frameSeqNum = s.tf.copCfg.vs ∧
      peer.frameData.payload = w.frameData.payload ∧
      (s.tf.mission.segHdrFlag = true → peer.frameData.segHdr = w.frameData.segHdr)

/-- The frame structure still holds the type and the segment header of the waiting frame. -/
def TemplateAgrees (s : Fop) (e : SenderEvent) (w : FopFrame) : Prop :=
  (template s e).primaryHdr.bypass = .typeA ∧
    (s.tf.mission.segHdrFlag = true → (template s e).frameData.segHdr = w.frameData.segHdr)

/-- The event is no type-A request but one of `R`. -/
def RequestsOnly (R : TcPrimaryHdr → TcFdf → Prop) : SenderEvent → Prop
  | .op _ (.request hdr frameData) => hdr.bypass = .typeA → R hdr frameData
  | _ => True

/-! ## The run -/

/-- One frame waits at most, and it is as it was requested; the framing is the one of the start. -/
structure WaitsFor (m : TcMissionParams) (R : TcPrimaryHdr → TcFdf → Prop) (s : Fop) : Prop where
  params : SameParams m s.tf.mission
  one : s.world.waitQueue.length ≤ 1
  requested : ∀ w ∈ s.world.waitQueue, w.primaryHdr.bypass = .typeA ∧ R w.primaryHdr w.frameData

variable {m : TcMissionParams} {R : TcPrimaryHdr → TcFdf → Prop} {s : Fop} {e : SenderEvent}
  {w : FopFrame} {item : QueueItem}

/-- An operation leaves the waiting frame, drops it or sends it. -/
theorem WaitsFor.of_outcome {s₀ : Fop} (h : WaitsFor m R s₀) (houtcome : WaitOutcome s₀ s) :
    WaitsFor m R s := by
  cases houtcome with
  | kept hparams hwait =>
    refine ⟨h.params.trans hparams, ?_, ?_⟩
    · rw [hwait]
      exact h.one
    · rw [hwait]
      exact h.requested
  | cleared hparams hwait hsent =>
    refine ⟨h.params.trans hparams, ?_, ?_⟩
    · rw [hwait]
      exact Nat.zero_le 1
    · rw [hwait]
      exact fun w hw => absurd hw List.not_mem_nil
  | released t hstill hreleased =>
    refine ⟨(h.params.trans hstill.params).trans hreleased.params, ?_, ?_⟩
    · rw [hreleased.waitQueue, hstill.waitQueue, List.length_tail]
      exact Nat.le_trans (Nat.sub_le _ _) h.one
    · rw [hreleased.waitQueue, hstill.waitQueue]
      exact fun w hw => h.requested w (List.mem_of_mem_tail hw)

/-- One event. -/
theorem WaitsFor.step (h : WaitsFor m R s) (he : RequestsOnly R e) :
    WaitsFor m R (senderStep s e) := by
  cases e with
  | prepare hdr frameData => exact ⟨h.params, h.one, h.requested⟩
  | setSlidingWindow newWnd => exact ⟨h.params, h.one, h.requested⟩
  | op keep op =>
    by_cases hreq : ∃ hdr frameData, op = .request hdr frameData
    · obtain ⟨hdr, frameData, rfl⟩ := hreq
      rcases osdlpReqTransferFdu_outcome keep (prepared hdr frameData s) with
        ⟨hparams, hwait, -⟩ | ⟨hnone, htype, houtcome⟩
      · exact h.of_outcome (.kept hparams hwait)
      · have henqueued : WaitsFor m R (enqueued (prepared hdr frameData s)) := by
          have hqueue : (enqueued (prepared hdr frameData s)).world.waitQueue =
              [(prepared hdr frameData s).tf] := by
            show (prepared hdr frameData s).world.waitQueue ++ _ = _
            rw [hnone]
            rfl
          refine ⟨h.params, ?_, ?_⟩
          · rw [hqueue]
            exact Nat.le_refl 1
          · rw [hqueue]
            intro w hw
            rw [List.mem_singleton.mp hw]
            exact ⟨htype, he htype⟩
        exact henqueued.of_outcome houtcome
    · exact h.of_outcome (fopStep_outcome s keep fun hdr frameData heq => hreq ⟨hdr, frameData, heq⟩)

/-! ## The frame that goes out -/

/-- An operation that is no request finds what it works on in the state. -/
theorem awaiting_of_not_request (keep : List Bool) {op : FopOp}
    (hop : ∀ hdr frameData, op ≠ .request hdr frameData) :
    awaiting s (.op keep op) = s.world.waitQueue ∧ template s (.op keep op) = s.tf := by
  cases op with
  | request hdr frameData => exact absurd rfl (hop hdr frameData)
  | _ =>
    refine ⟨?_, rfl⟩
    unfold awaiting
    cases s.world.waitQueue <;> rfl

/-- An event that transmits the waiting frame does so from a state in which nothing has changed
that the frame is packed from. -/
structure PackedFrom (s : Fop) (e : SenderEvent) (w : FopFrame) (t : Fop) : Prop where
  primaryHdr : t.tf.primaryHdr = (template s e).primaryHdr
  frameData : t.tf.frameData = (template s e).frameData
  params : SameParams s.tf.mission t.tf.mission
  vs : t.tf.copCfg.vs = s.tf.copCfg.vs
  waitQueue : t.world.waitQueue = [w]

/-- A frame that has been transmitted was released from the wait queue. -/
theorem released_of_outcome {s₁ : Fop} (ht : Transmits s e w item)
    (hwait : s₁.world.waitQueue = [w]) (houtcome : WaitOutcome s₁ (senderStep s e)) :
    ∃ t, Still s₁ t ∧ ReleasedFrom t (senderStep s e) := by
  cases houtcome with
  | kept hparams hkept =>
    have hnone := ht.waitQueue
    rw [hkept, hwait] at hnone
    exact absurd hnone (List.cons_ne_nil w [])
  | cleared hparams hnone hsent =>
    have htype := hsent item (List.mem_of_getLast? ht.sentQueue)
    rw [ht.type] at htype
    exact absurd htype (by decide)
  | released t hstill hreleased => exact ⟨t, hstill, hreleased⟩

/-- The frame is packed from the frame structure that the event works on. -/
theorem transmits_packedFrom (h : WaitsFor m R s) (he : RequestsOnly R e)
    (ht : Transmits s e w item) :
    (w.primaryHdr.bypass = .typeA ∧ R w.primaryHdr w.frameData) ∧
      ∃ t, PackedFrom s e w t ∧ ReleasedFrom t (senderStep s e) := by
  have hmoved : (senderStep s e).tf.copCfg.vs ≠ s.tf.copCfg.vs := by
    rw [ht.vs]
    exact succ_ne _
  cases e with
  | prepare hdr frameData => exact absurd rfl hmoved
  | setSlidingWindow newWnd => exact absurd rfl hmoved
  | op keep op =>
    by_cases hreq : ∃ hdr frameData, op = .request hdr frameData
    · obtain ⟨hdr, frameData, rfl⟩ := hreq
      rcases osdlpReqTransferFdu_outcome keep (prepared hdr frameData s) with
        ⟨-, -, hvs⟩ | ⟨hnone, htype, houtcome⟩
      · exact absurd hvs hmoved
      · have hw : w = (prepared hdr frameData s).tf := by
          have hqueue := ht.awaiting
          unfold awaiting at hqueue
          rw [show s.world.waitQueue = [] from hnone] at hqueue
          have htypeHdr : hdr.bypass = .typeA := htype
          dsimp only at hqueue
          rw [if_pos htypeHdr] at hqueue
          exact (List.cons.inj hqueue).1.symm
        have henqueued : (enqueued (prepared hdr frameData s)).world.waitQueue = [w] := by
          show (prepared hdr frameData s).world.waitQueue ++ _ = _
          rw [hnone, hw]
          rfl
        obtain ⟨t, hstill, hreleased⟩ := released_of_outcome ht henqueued houtcome
        refine ⟨?_, t, ⟨hstill.primaryHdr, hstill.frameData, hstill.params, hstill.vs,
          hstill.waitQueue.trans henqueued⟩, hreleased⟩
        rw [hw]
        exact ⟨htype, he htype⟩
    · have hop : ∀ hdr frameData, op ≠ .request hdr frameData :=
        fun hdr frameData heq => hreq ⟨hdr, frameData, heq⟩
      obtain ⟨hawaiting, htemplate⟩ := awaiting_of_not_request (s := s) keep hop
      have hqueue : s.world.waitQueue = [w] := hawaiting.symm.trans ht.awaiting
      obtain ⟨t, hstill, hreleased⟩ := released_of_outcome ht hqueue (fopStep_outcome s keep hop)
      refine ⟨h.requested w (by rw [hqueue]; exact List.mem_singleton_self w), t,
        ⟨?_, ?_, hstill.params, hstill.vs, hstill.waitQueue.trans hqueue⟩, hreleased⟩
      · rw [htemplate]
        exact hstill.primaryHdr
      · rw [htemplate]
        exact hstill.frameData

/-- A waiting frame is sent as it was requested exactly if the frame structure still agrees.
SOURCE: osdlp_cop.c:482-514, 1818-1874 -/
theorem asRequested_iff_step (hover : m.fixedOverheadLen = m.overhead) (h : WaitsFor m R s)
    (he : RequestsOnly R e) (hR : ∀ hdr frameData, R hdr frameData → Fits m.fixedOverheadLen frameData)
    (ht : Transmits s e w item) : AsRequested s e w item ↔ TemplateAgrees s e w := by
  obtain ⟨⟨-, hrequested⟩, t, hpacked, hreleased⟩ := transmits_packedFrom h he ht
  have hfits := hR _ _ hrequested
  have hitem : item = newItem t := by
    have hlast := ht.sentQueue
    rw [hreleased.sentQueue, List.getLast?_concat] at hlast
    exact (Option.some.inj hlast).symm
  have htx : (senderStep s e).world.txQueue.getLast? = some item.fdu := by
    rw [hreleased.txQueue, List.getLast?_concat, hitem]
  have hseqNum : item.seqNum = s.tf.copCfg.vs := by
    rw [hitem]
    exact hpacked.vs
  have hfdu : item.fdu = (osdlpTcPack t.tf w.frameData.data w.frameData.dataLen).1 := by
    rw [hitem]
    show (packedWaiting t).1 = _
    unfold packedWaiting
    rw [hpacked.waitQueue]
    rfl
  obtain ⟨hseg, hcrc, hfix⟩ := (h.params.trans hpacked.params).fields
  have hoverT : t.tf.mission.fixedOverheadLen = t.tf.mission.overhead := by
    unfold TcMissionParams.overhead at hover ⊢
    rw [hfix, hseg, hcrc]
    exact hover
  have hunpacks := unpacksTo_pack_iff hoverT hfits.1 (by rw [hfix]; exact hfits.2)
  obtain ⟨hsegS, -, hfixS⟩ := hpacked.params.fields
  unfold UnpacksTo at hunpacks
  rw [hsegS, hfixS, hpacked.primaryHdr, hpacked.frameData, hpacked.vs, ← hfdu] at hunpacks
  exact ⟨fun hasked => hunpacks.mp hasked.unpacked,
    fun hagrees => ⟨htx, hseqNum, hunpacks.mpr hagrees⟩⟩

/-- **A waiting frame is sent as it was requested exactly if the frame structure still agrees with
it.**  In every run, the frame that waited is that of a type-A request made before.
SOURCE: osdlp_cop.c:395-514, 1818-1874 -/
theorem asRequested_iff {start : Fop}
    (hover : start.tf.mission.fixedOverheadLen = start.tf.mission.overhead)
    (hempty : start.world.waitQueue = []) {events : List SenderEvent}
    (hfits : ∀ keep hdr frameData, .op keep (.request hdr frameData) ∈ events →
      hdr.bypass = .typeA → Fits start.tf.mission.fixedOverheadLen frameData)
    {n : ℕ} (he : events[n]? = some e)
    (ht : Transmits (run senderStep start (events.take n)) e w item) :
    (w.primaryHdr.bypass = .typeA ∧ ∃ keep,
      .op keep (.request w.primaryHdr w.frameData) ∈ events.take (n + 1)) ∧
    (AsRequested (run senderStep start (events.take n)) e w item ↔
      TemplateAgrees (run senderStep start (events.take n)) e w) := by
  let R : TcPrimaryHdr → TcFdf → Prop := fun hdr frameData =>
    Fits start.tf.mission.fixedOverheadLen frameData ∧
      ∃ keep, .op keep (.request hdr frameData) ∈ events.take (n + 1)
  have honly : ∀ e ∈ events.take (n + 1), RequestsOnly R e := by
    intro e hmem
    cases e with
    | prepare hdr frameData => trivial
    | setSlidingWindow newWnd => trivial
    | op keep op =>
      cases op with
      | request hdr frameData =>
        exact fun htype => ⟨hfits keep hdr frameData (List.mem_of_mem_take hmem) htype, keep, hmem⟩
      | _ => trivial
  have hstart : WaitsFor start.tf.mission R start := by
    refine ⟨rfl, ?_, ?_⟩
    · rw [hempty]
      exact Nat.zero_le 1
    · rw [hempty]
      exact fun w hw => absurd hw List.not_mem_nil
  have hsub : ∀ e ∈ events.take n, RequestsOnly R e :=
    fun e hmem => honly e (List.take_subset_take_left events (Nat.le_succ n) hmem)
  have hwaits : WaitsFor start.tf.mission R (run senderStep start (events.take n)) :=
    run_inv hstart fun s e hmem h => h.step (hsub e hmem)
  have hlast : e ∈ events.take (n + 1) := by
    rw [List.mem_take_iff_getElem]
    obtain ⟨hn, rfl⟩ := List.getElem?_eq_some_iff.mp he
    exact ⟨n, by omega, rfl⟩
  obtain ⟨⟨htype, -, keep, hmem⟩, -⟩ := transmits_packedFrom hwaits (honly e hlast) ht
  exact ⟨⟨htype, keep, hmem⟩,
    asRequested_iff_step hover hwaits (honly e hlast) (fun _ _ h => h.1) ht⟩

/-! ## A frame that is set up in between -/

/-- The set-up of a data frame is an event of the sender. -/
theorem senderStep_prepareDataFrame (s : Fop) (bypass : TcBypass) (buffer : List UInt8) (len : ℕ)
    (mapid : UInt8) :
    let tf := prepareDataFrame bypass buffer len mapid s.tf
    senderStep s (.prepare tf.primaryHdr tf.frameData) = { s with tf := tf } := rfl

section SetUp

variable {keep : List Bool} {op : FopOp} {buffer : List UInt8} {len : ℕ} {mapid : UInt8}

/-- After the set-up of a data frame the waiting frame is sent as it was requested exactly if the
new frame has its type and its segment header.
SOURCE: osdlp_cop.c:482-514, osdlp_tc.c:428-448 -/
theorem asRequested_prepareDataFrame_iff (hover : m.fixedOverheadLen = m.overhead)
    (h : WaitsFor m R s) (hR : ∀ hdr frameData, R hdr frameData → Fits m.fixedOverheadLen frameData)
    (hop : ∀ hdr frameData, op ≠ .request hdr frameData) (bypass : TcBypass)
    (ht : Transmits { s with tf := prepareDataFrame bypass buffer len mapid s.tf } (.op keep op) w
      item) :
    AsRequested { s with tf := prepareDataFrame bypass buffer len mapid s.tf } (.op keep op) w item ↔
      bypass = .typeA ∧ (s.tf.mission.segHdrFlag = true →
        { s.tf.frameData.segHdr with mapId := BitVec.ofNat 6 mapid.toNat } = w.frameData.segHdr) := by
  have hwaits : WaitsFor m R { s with tf := prepareDataFrame bypass buffer len mapid s.tf } := by
    rw [← senderStep_prepareDataFrame]
    exact h.step trivial
  have honly : RequestsOnly R (.op keep op) := by
    cases op with
    | request hdr frameData => exact absurd rfl (hop hdr frameData)
    | _ => trivial
  rw [asRequested_iff_step hover hwaits honly hR ht]
  unfold TemplateAgrees
  rw [(awaiting_of_not_request keep hop).2]
  rfl

/-- A type-A frame agrees with the waiting one in its MAP and its sequence flag, or the waiting frame
is not sent as it was requested. -/
theorem asRequested_prepareTypea_iff (hover : m.fixedOverheadLen = m.overhead)
    (h : WaitsFor m R s) (hR : ∀ hdr frameData, R hdr frameData → Fits m.fixedOverheadLen frameData)
    (hop : ∀ hdr frameData, op ≠ .request hdr frameData)
    (ht : Transmits { s with tf := osdlpPrepareTypeaDataFrame buffer len mapid s.tf } (.op keep op) w
      item) :
    AsRequested { s with tf := osdlpPrepareTypeaDataFrame buffer len mapid s.tf } (.op keep op) w
        item ↔
      (s.tf.mission.segHdrFlag = true →
        { s.tf.frameData.segHdr with mapId := BitVec.ofNat 6 mapid.toNat } = w.frameData.segHdr) :=
  (asRequested_prepareDataFrame_iff hover h hR hop .typeA ht).trans (and_iff_right rfl)

/-- After the set-up of a type-B frame no waiting frame is sent as it was requested. -/
theorem not_asRequested_prepareTypeb (hover : m.fixedOverheadLen = m.overhead)
    (h : WaitsFor m R s) (hR : ∀ hdr frameData, R hdr frameData → Fits m.fixedOverheadLen frameData)
    (hop : ∀ hdr frameData, op ≠ .request hdr frameData)
    (ht : Transmits { s with tf := osdlpPrepareTypebDataFrame buffer len mapid s.tf } (.op keep op) w
      item) :
    ¬ AsRequested { s with tf := osdlpPrepareTypebDataFrame buffer len mapid s.tf } (.op keep op) w
      item := by
  intro hasked
  have htype := ((asRequested_prepareDataFrame_iff hover h hR hop .typeB ht).mp hasked).1
  exact absurd htype (by decide)

end SetUp

/-! ## One frame that waits -/

/-- A sender in INIT with a segment header, no checksum and a window of one frame. -/
def narrowFop : Fop :=
  { tf :=
      { (default : FopFrame) with
        mission := { (default : TcMissionParams) with segHdrFlag := true, fixedOverheadLen := 6 }
        copCfg := osdlpPrepareFop default 1 .init 100 0 3 }
    world :=
      { waitQueue := [], sentQueue := [], txQueue := [], timerRunning := false, accepted := [] } }

/-- A request for one octet on one of the MAPs. -/
def mapRequest (bypass : TcBypass) (octet : UInt8) (mapId : BitVec 6) : SenderEvent :=
  .op [] (.request { (default : TcPrimaryHdr) with bypass := bypass }
    { segHdr := { seqFlag := .unseg, mapId := mapId }, data := [octet], dataLen := 1 })

/-- The control word that acknowledges the first frame. -/
def firstAcked : SenderEvent :=
  .op [] (.clcw (osdlpClcwPack { (default : ClcwFrame) with reportValue := 1 }))

/-- Two requests, of which the second has to wait. -/
def twoRequests : List SenderEvent :=
  [.op [] .initiateNoClcw, mapRequest .typeA 7 1, mapRequest .typeA 8 2]

/-- The frame of the second request, as it waits. -/
def secondFrame : FopFrame :=
  (run senderStep narrowFop twoRequests).world.waitQueue.headD default

/-- A request for one octet fits. -/
theorem fits_mapRequest {bypass : TcBypass} {octet : UInt8} {mapId : BitVec 6}
    {keep : List Bool} {hdr : TcPrimaryHdr} {frameData : TcFdf}
    (h : SenderEvent.op keep (.request hdr frameData) = mapRequest bypass octet mapId) :
    Fits 6 frameData := by
  injection h with _ hop
  injection hop with _ hdata
  rw [hdata]
  exact ⟨Nat.le_refl 1, by simp⟩

/-- Nothing happens to the frame structure while the second request waits. -/
theorem asRequested_iff_two_requests :
    let events := twoRequests ++ [firstAcked]
    let s := run senderStep narrowFop (events.take 3)
    ∃ item, Transmits s firstAcked secondFrame item ∧
      (AsRequested s firstAcked secondFrame item ↔ TemplateAgrees s firstAcked secondFrame) := by
  intro events s
  let item : QueueItem :=
    { fdu := [0, 0, 0, 6, 1, 194, 8], rtFlag := false, seqNum := 1, type := .typeA }
  have ht : Transmits s firstAcked secondFrame item := by
    exact ⟨rfl, rfl, rfl, by decide, rfl⟩
  have hfits : ∀ keep hdr frameData, .op keep (.request hdr frameData) ∈ events →
      hdr.bypass = .typeA → Fits narrowFop.tf.mission.fixedOverheadLen frameData := by
    intro keep hdr frameData hmem _
    simp only [events, twoRequests, List.cons_append, List.nil_append, List.mem_cons,
      List.not_mem_nil, or_false] at hmem
    rcases hmem with hinit | hfirst | hsecond | hack
    · simp at hinit
    · exact fits_mapRequest hfirst
    · exact fits_mapRequest hsecond
    · simp [firstAcked] at hack
  exact ⟨item, ht, (asRequested_iff rfl rfl hfits rfl ht).2⟩

/-- A type-BD frame on another MAP goes out while the second request waits: the frame that
waited is sent as type B, unnumbered and on that MAP. -/
theorem not_asRequested_bd_between :
    let s := run senderStep narrowFop (twoRequests ++ [mapRequest .typeB 9 3])
    ∃ item, Transmits s firstAcked secondFrame item ∧
      ¬ AsRequested s firstAcked secondFrame item ∧
      let peer := osdlpTcUnpack narrowFop.tf item.fdu
      peer.primaryHdr.bypass = .typeB ∧ peer.primaryHdr.frameSeqNum = 0 ∧
        peer.frameData.segHdr.mapId = 3 ∧ peer.frameData.payload = [8] := by
  intro s
  let item : QueueItem :=
    { fdu := [32, 0, 0, 6, 0, 195, 8], rtFlag := false, seqNum := 1, type := .typeA }
  refine ⟨item, ⟨rfl, rfl, rfl, by decide, rfl⟩, fun h => ?_, by decide⟩
  let rx : TcTransferFrame FarmConfig :=
    { (default : TcTransferFrame FarmConfig) with mission := narrowFop.tf.mission }
  have htype := (h.unpacked rx rfl rfl).1
  exact absurd htype (by decide)

end Osdlp.Analysis
