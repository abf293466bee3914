import Osdlp.Analysis.MasterChannel
import Osdlp.Analysis.TmExtraction
import Osdlp.Analysis.TmRoundTrip
import Osdlp.Interface.TmCodec

/-!
# Virtual channels on one link

The virtual channels of a spacecraft send on one link, in any order, and share the master channel
counter at both ends; `osdlp_tm_receive` finds the frame structure of a frame by its VCID.  What is
still queued for a channel, received to the end, completes what has been handed over to all packets
of the channel (`Flows`), so that the channels do not disturb each other (`multiplexed_delivers`).
-/

set_option autoImplicit false

namespace Osdlp.Analysis

open Osdlp.Model Osdlp.Interface Osdlp.Library

/-- Both ends of the virtual channels, with the counters that the channels share. -/
structure MultiplexedLink where
  mcCount : UInt8
  senders : BitVec 3 → TmSender
  rxMcCount : UInt8
  receivers : BitVec 3 → TmReceiver

/-- A packet or an idle frame is sent on a channel, or the first frame that is queued for it goes
over the link. -/
inductive MultiplexedEvent
  | transmit (vcid : BitVec 3) (packet : List UInt8)
  | transmitIdleFdu (vcid : BitVec 3)
  | carry (vcid : BitVec 3)
  deriving DecidableEq

/-- A call on the frame structure of a channel, which reads the shared counter and writes it. -/
def MultiplexedLink.callOn (s : MultiplexedLink) (vcid : BitVec 3) (call : TmSender → TmSender) :
    MultiplexedLink :=
  let tx := s.senders vcid
  let sent := call { tx with tf := readMaster s.mcCount tx.tf }
  { s with
    mcCount := sent.tf.primaryHdr.mcFrameCnt
    senders := Function.update s.senders vcid sent }

/-- `osdlp_tm_receive` with the frame structure that `osdlp_tm_get_rx_config` finds; one that does
not come back leaves the state.
SOURCE: osdlp_tm.c:748-772 -/
def MultiplexedLink.receive (getPacketLen : GetPacketLen) (fuel : ℕ) (s : MultiplexedLink)
    (dataIn : List UInt8) : MultiplexedLink :=
  let vcid := BitVec.ofNat 3 ((dataIn.getD 1 0 >>> 1) &&& 0x07).toNat
  let rx := s.receivers vcid
  match osdlpTmReceive getPacketLen fuel 0 { rx with tf := readMaster s.rxMcCount rx.tf } dataIn with
  | none => s
  | some (_, rx) =>
    { s with
      rxMcCount := rx.tf.primaryHdr.mcFrameCnt
      receivers := Function.update s.receivers vcid rx }

/-- The sender after a packet; a call that does not come back leaves it. -/
def afterTransmit (getPacketLen : GetPacketLen) (fuel : ℕ) (packet : List UInt8) (tx : TmSender) :
    TmSender :=
  ((osdlpTmTransmit getPacketLen fuel 0 tx packet packet.length).map Prod.snd).getD tx

/-- The state after an event. -/
def multiplexedStep (getPacketLen : GetPacketLen) (fuel : ℕ) (s : MultiplexedLink) :
    MultiplexedEvent → MultiplexedLink
  | .transmit vcid packet => s.callOn vcid (afterTransmit getPacketLen fuel packet)
  | .transmitIdleFdu vcid => s.callOn vcid fun tx => (osdlpTmTransmitIdleFdu tx).2
  | .carry vcid =>
    let tx := s.senders vcid
    match tx.queue with
    | [] => s
    | frame :: queue =>
      { s with senders := Function.update s.senders vcid { tx with queue := queue } }.receive
        getPacketLen fuel frame

/-- The packet that an event sends on the channel. -/
def packetOn (vcid : BitVec 3) : MultiplexedEvent → Option (List UInt8)
  | .transmit vcid' packet => if vcid' = vcid then some packet else none
  | .transmitIdleFdu _ | .carry _ => none

@[simp] theorem packetOn_transmit (vcid : BitVec 3) (packet : List UInt8) :
    packetOn vcid (.transmit vcid packet) = some packet := if_pos rfl

theorem packetOn_transmit_of_ne {vcid vcid' : BitVec 3} (h : vcid' ≠ vcid) (packet : List UInt8) :
    packetOn vcid (.transmit vcid' packet) = none := if_neg h

variable {m : TmMissionParams} {tf : TmTransferFrame} {s : TmSender} {r r' : TmReceiver}
  {vcid : BitVec 3} {getPacketLen : GetPacketLen} {fuel h : ℕ}

/-! ## The address of a frame -/

/-- The VCID that a frame names.
SOURCE: osdlp_tm.c:752 -/
def frameVcid (frame : List UInt8) : BitVec 3 :=
  BitVec.ofNat 3 ((frame.getD 1 0 >>> 1) &&& 0x07).toNat

/-- The frame structure and all frames that are queued name the channel. -/
structure Addressed (vcid : BitVec 3) (s : TmSender) : Prop where
  header : s.tf.primaryHdr.vcid = vcid
  queued : ∀ frame ∈ s.queue, frameVcid frame = vcid

/-- A packed frame names the channel of its header. -/
theorem frameVcid_queuedFrame (hbehind : BehindHeader tf.mission) (data : List UInt8)
    (length : ℕ) : frameVcid (queuedFrame (packIntoUtil tf data length)) = tf.primaryHdr.vcid := by
  unfold frameVcid
  rw [getD_packIntoUtil hbehind data length (by decide)]
  exact congrArg TmPrimaryHdr.vcid (tmUnpackHdr_hdrOctets tf.primaryHdr)

/-- A frame that is packed and offered names the channel of its frame structure. -/
theorem osdlpTmTxQueueEnqueue_addressed (hbehind : BehindHeader tf.mission)
    (haddressed : Addressed vcid s) (hvcid : tf.primaryHdr.vcid = vcid) (data : List UInt8)
    (length : ℕ) :
    Addressed vcid (osdlpTmTxQueueEnqueue { s with tf := packIntoUtil tf data length }
      (packIntoUtil tf data length).mission.util.buffer).2 := by
  have hname : (packIntoUtil tf data length).primaryHdr.vcid = vcid := by
    rw [packIntoUtil_primaryHdr]
    exact hvcid
  have hframe : frameVcid (queuedFrame (packIntoUtil tf data length)) = vcid :=
    (frameVcid_queuedFrame hbehind data length).trans hvcid
  have hqueued : ∀ frame ∈ s.queue ++ [queuedFrame (packIntoUtil tf data length)],
      frameVcid frame = vcid := by
    intro frame hmem
    rcases List.mem_append.mp hmem with hold | hnew
    · exact haddressed.queued frame hold
    · rw [List.mem_singleton.mp hnew]
      exact hframe
  unfold osdlpTmTxQueueEnqueue
  dsimp only
  cases s.answers with
  | nil => exact ⟨hname, hqueued⟩
  | cons ret rest =>
    dsimp only
    split_ifs
    · exact ⟨hname, haddressed.queued⟩
    · exact ⟨hname, hqueued⟩

/-- SOURCE: osdlp_tm.c:367-413 -/
theorem transmitLoop_addressed (dataIn : List UInt8) (length numPackets : ℕ) {remainingLen : ℕ}
    (hbehind : BehindHeader s.tf.mission) (haddressed : Addressed vcid s) :
    Addressed vcid (transmitLoop dataIn length numPackets remainingLen s).2 := by
  induction numPackets generalizing s remainingLen with
  | zero => exact ⟨haddressed.header, haddressed.queued⟩
  | succ numPackets ih =>
    have hnext : BehindHeader (nextTmFrame s.tf length remainingLen).mission := hbehind
    have hsent := osdlpTmTxQueueEnqueue_addressed hnext haddressed
      (show (nextTmFrame s.tf length remainingLen).primaryHdr.vcid = vcid from haddressed.header)
      (dataIn.drop (length - remainingLen)) (min s.tf.mission.maxDataLen remainingLen)
    unfold transmitLoop
    dsimp only
    split_ifs
    · refine ⟨?_, hsent.queued⟩
      show (packIntoUtil _ _ _).primaryHdr.vcid = vcid
      rw [packIntoUtil_primaryHdr]
      exact haddressed.header
    · apply ih _ hsent
      rw [osdlpTmTxQueueEnqueue_tf]
      exact hnext.packIntoUtil _ _

/-- SOURCE: osdlp_tm.c:306-414 -/
theorem osdlpTmTransmit_addressed (hoff : m.stuffState = .stuffingOff) (hready : Ready m s.tf)
    (hbehind : BehindHeader s.tf.mission) (haddressed : Addressed vcid s) {queueBack ret : Int}
    {dataIn : List UInt8} {length : ℕ} {s' : TmSender}
    (hcall : osdlpTmTransmit getPacketLen fuel queueBack s dataIn length = some (ret, s')) :
    Addressed vcid s' := by
  have hnostuff : s.tf.mission.stuffState ≠ .stuffingOn := by
    rw [hready.mission, hoff]
    decide
  unfold osdlpTmTransmit at hcall
  dsimp only at hcall
  rw [if_neg fun hstuffs => hnostuff hstuffs.2.1] at hcall
  obtain rfl := congrArg Prod.snd (Option.some.inj hcall)
  exact transmitLoop_addressed dataIn length _ hbehind haddressed

/-- SOURCE: osdlp_tm.c:774-787 -/
theorem osdlpTmTransmitIdleFdu_addressed (hbehind : BehindHeader s.tf.mission)
    (haddressed : Addressed vcid s) : Addressed vcid (osdlpTmTransmitIdleFdu s).2 := by
  have hsent := @osdlpTmTxQueueEnqueue_addressed
    { s.tf with primaryHdr := { s.tf.primaryHdr with firstHdrPtr := tmFirstHdrPtrOid } } s vcid hbehind
    haddressed haddressed.header [] 0
  unfold osdlpTmTransmitIdleFdu
  dsimp only
  split_ifs
  · exact hsent
  · exact hsent

/-! ## Reception -/

/-- A reception keeps the mission and takes back nothing that it has handed over. -/
structure Hears (m : TmMissionParams) (r r' : TmReceiver) : Prop where
  listens : Listens m r'
  grows : r.delivered <+: r'.delivered

theorem Hears.setUtil (hlistens : Listens m r) (util : TmUtilBuf) : Hears m r (r.setUtil util) :=
  ⟨hlistens.setUtil util, List.prefix_refl _⟩

/-- A delivery adds at the end of what has been handed over. -/
theorem Hears.deliver (hlistens : Listens m r) (util : TmUtilBuf) :
    Hears m r (deliverUtil r util).2 := by
  obtain ⟨hdel, htf⟩ := deliverUtil_delivers r util
  obtain ⟨taken, -, hdelivered⟩ := hdel.taken
  refine ⟨?_, ?_⟩
  · unfold Listens
    rw [htf]
    exact hlistens.setUtil _
  · rw [hdelivered]
    exact List.prefix_append _ _

/-- SOURCE: osdlp_tm.c:487-502 -/
theorem handleRxNoStuffing_hears (hlistens : Listens m r) :
    Hears m r (handleRxNoStuffing getPacketLen r).2 := by
  have hrefl : Hears m r r := ⟨hlistens, List.prefix_refl _⟩
  unfold handleRxNoStuffing handleNsPtrZero handleNsPtrPositive continuePacket
  dsimp only
  by_cases hzero : r.tf.primaryHdr.firstHdrPtr = 0
  · rw [if_pos hzero]
    cases getPacketLen r.tf.data r.tf.mission.maxDataLen with
    | none => exact hrefl
    | some length =>
      dsimp only
      split_ifs
      · exact .setUtil hlistens _
      · exact .deliver hlistens _
  · rw [if_neg hzero]
    split_ifs
    · exact hrefl
    · exact .setUtil hlistens _
    · exact .deliver hlistens _
    · exact .setUtil hlistens _

/-- SOURCE: osdlp_tm.c:748-772 -/
theorem osdlpTmReceive_hears (hoff : m.stuffState = .stuffingOff) (hlistens : Listens m r)
    {frame : List UInt8} {code : Int}
    (hcall : osdlpTmReceive getPacketLen fuel 0 r frame = some (code, r')) : Hears m r r' := by
  have hunpacked : Listens m { r with tf := osdlpTmUnpack r.tf frame } := hlistens.unpack frame
  have hstuff : (osdlpTmUnpack r.tf frame).mission.stuffState = .stuffingOff := by
    show r.tf.mission.stuffState = _
    rw [hlistens]
    exact hoff
  have hkept : Hears m r { r with tf := osdlpTmUnpack r.tf frame } :=
    ⟨hunpacked, List.prefix_refl _⟩
  unfold osdlpTmReceive at hcall
  rw [if_neg (by decide)] at hcall
  dsimp only at hcall
  split_ifs at hcall
  · obtain rfl := congrArg Prod.snd (Option.some.inj hcall)
    exact hkept
  · obtain rfl := congrArg Prod.snd (Option.some.inj hcall)
    exact hkept
  · rw [hstuff] at hcall
    obtain rfl := congrArg Prod.snd (Option.some.inj hcall)
    obtain ⟨hlistens', hgrows⟩ := @handleRxNoStuffing_hears _ _ getPacketLen hunpacked
    exact ⟨hlistens', hgrows⟩

/-- Whatever else is received, nothing is taken back. -/
theorem receiveAll_grows (hoff : m.stuffState = .stuffingOff) (hlistens : Listens m r)
    {frames : List (List UInt8)}
    (hall : receiveAll getPacketLen fuel r frames = some r') : r.delivered <+: r'.delivered := by
  induction frames generalizing r with
  | nil =>
    obtain rfl := Option.some.inj hall
    exact List.prefix_refl _
  | cons frame frames ih =>
    obtain ⟨⟨code, r₁⟩, hcall, hrest⟩ := Option.bind_eq_some_iff.mp hall
    have hheard := osdlpTmReceive_hears hoff hlistens hcall
    exact hheard.grows.trans (ih hheard.listens hrest)

/-! ## One channel -/

/-- What is still queued for the channel, received to the end, completes what has been handed over
to the packets. -/
structure Flows (getPacketLen : GetPacketLen) (fuel : ℕ) (m : TmMissionParams) (vcid : BitVec 3)
    (packets : List (List UInt8)) (tx : TmSender) (rx : TmReceiver) : Prop where
  ready : Ready m tx.tf
  accepting : Accepting tx.answers
  addressed : Addressed vcid tx
  listens : Listens m rx
  drains : ∃ r', receiveAll getPacketLen fuel rx tx.queue = some r' ∧ Listens m r' ∧
    r'.tf.mission.util.loopState = .loopClosed ∧ Accepting r'.answers ∧
    List.Forall₂ (· <+: ·) packets r'.delivered

variable {packets : List (List UInt8)}

/-- Frames with room for data have their checksum behind the header. -/
theorem behindHeader_of_ready (hready : Ready m tf) (hfits : TmFits m) :
    BehindHeader tf.mission := by
  have hheader := hready.shape.headerLen_ge
  have hframe := hready.shape.frameLen_ge
  have hmax := hready.maxDataLen
  have hpos := hfits.pos
  exact ⟨hheader, by omega⟩

/-- The counter that is shared is of no concern for the channel. -/
theorem Flows.readMaster (hflows : Flows getPacketLen fuel m vcid packets s r) (mcCount : UInt8) :
    Flows getPacketLen fuel m vcid packets { s with tf := readMaster mcCount s.tf } r :=
  ⟨⟨⟨hflows.ready.shape.header, hflows.ready.shape.frame⟩, hflows.ready.mission,
      hflows.ready.closed⟩, hflows.accepting,
    ⟨hflows.addressed.header, hflows.addressed.queued⟩, hflows.listens, hflows.drains⟩

/-- A packet is queued in whole frames, which the receiver would complete. -/
theorem Flows.transmit (hfits : TmFits m) (hoff : m.stuffState = .stuffingOff)
    (hcrc : m.crcPresent = true) (hroom : h ≤ m.maxDataLen) {packet : List UInt8}
    (hhook : TellsLength getPacketLen h [packet]) (hpos : 0 < packet.length)
    (hsdu : packet.length ≤ m.maxSduLen)
    (hflows : Flows getPacketLen fuel m vcid packets s r) :
    Flows getPacketLen fuel m vcid (packets ++ [packet]) (afterTransmit getPacketLen fuel packet s)
      r := by
  obtain ⟨s', hcall, hqueues⟩ := osdlpTmTransmit_queues getPacketLen fuel 0 hoff hflows.ready
    hflows.accepting packet
  obtain ⟨frames, hqueue, hcells, hsound⟩ := hqueues.frames
  obtain ⟨r', hall, hlistens, hclosed, hacc, hforall⟩ := hflows.drains
  have hcells' : frames.map (tmCell m) = noStuffingCells m [packet] := by
    rw [hcells]
    unfold noStuffingCells
    rw [List.flatMap_singleton]
  obtain ⟨r'', handed, hrest, hlistens', hclosed', hdel, hhanded⟩ :=
    receiveAll_packets fuel hoff hcrc hfits hhook hroom (by simpa using ⟨hpos, hsdu⟩) hcells' hsound
      hlistens hclosed
  obtain ⟨hacc', hdelivered⟩ := hdel.accepting hacc
  have haddressed : Addressed vcid s' := osdlpTmTransmit_addressed hoff hflows.ready
    (behindHeader_of_ready hflows.ready hfits) hflows.addressed hcall
  unfold afterTransmit
  rw [hcall]
  refine ⟨hqueues.ready, hqueues.accepting, haddressed, hflows.listens, r'', ?_, hlistens', hclosed',
    hacc', ?_⟩
  · show receiveAll getPacketLen fuel r s'.queue = some r''
    rw [hqueue, receiveAll_append, hall]
    exact hrest
  · rw [hdelivered]
    exact List.rel_append hforall hhanded

/-- An idle frame is queued, which the receiver would ignore. -/
theorem Flows.transmitIdleFdu (hfits : TmFits m) (hcrc : m.crcPresent = true)
    (hflows : Flows getPacketLen fuel m vcid packets s r) :
    Flows getPacketLen fuel m vcid packets (osdlpTmTransmitIdleFdu s).2 r := by
  obtain ⟨-, hqueues⟩ := osdlpTmTransmitIdleFdu_queues hflows.ready hflows.accepting
  obtain ⟨frames, hqueue, hcells, hsound⟩ := hqueues.frames
  obtain ⟨r', hall, hlistens, hclosed, hacc, hforall⟩ := hflows.drains
  obtain ⟨idle, rest, rfl, hcell, hnil⟩ := List.map_eq_cons_iff.mp hcells
  obtain rfl := List.map_eq_nil_iff.mp hnil
  have hidle : osdlpTmReceive getPacketLen fuel 0 r' idle = some (TmRxResult.oid.code, _) :=
    osdlpTmReceive_idle (hlistens.crc hcrc (hsound idle List.mem_cons_self))
      (not_not.mpr (congrArg TmCell.ptr hcell))
  refine ⟨hqueues.ready, hqueues.accepting, ?_, hflows.listens,
    { r' with tf := osdlpTmUnpack r'.tf idle }, ?_, hlistens.unpack idle, hclosed, hacc, hforall⟩
  · exact osdlpTmTransmitIdleFdu_addressed (behindHeader_of_ready hflows.ready hfits)
      hflows.addressed
  · rw [hqueue, receiveAll_append, hall]
    show receiveAll getPacketLen fuel r' [idle] = _
    unfold receiveAll
    rw [hidle]
    rfl

/-- The first frame that is queued is received. -/
theorem Flows.carry (hoff : m.stuffState = .stuffingOff) {frame : List UInt8}
    {queue : List (List UInt8)} (hqueue : s.queue = frame :: queue)
    (hflows : Flows getPacketLen fuel m vcid packets s r) :
    frameVcid frame = vcid ∧ ∃ code r', osdlpTmReceive getPacketLen fuel 0 r frame = some (code, r') ∧
      Flows getPacketLen fuel m vcid packets { s with queue := queue } r' := by
  obtain ⟨r', hall, hdone⟩ := hflows.drains
  rw [hqueue] at hall
  obtain ⟨⟨code, r₁⟩, hcall, hrest⟩ := Option.bind_eq_some_iff.mp hall
  have hnamed := hflows.addressed.queued
  rw [hqueue] at hnamed
  refine ⟨hnamed frame List.mem_cons_self, code, r₁, hcall, hflows.ready, hflows.accepting,
    ⟨hflows.addressed.header, fun other hmem => hnamed other (List.mem_cons_of_mem _ hmem)⟩,
    (osdlpTmReceive_hears hoff hflows.listens hcall).listens, r', hrest, hdone⟩

/-! ## All channels -/

/-- The frame structure names the channel that it is initialised with. -/
theorem osdlpTmInit_vcid {tf₀ : TmTransferFrame} {a : TmInitArgs}
    (h : osdlpTmInit tf₀ a = some tf) :
    tf.primaryHdr.vcid = BitVec.ofNat 3 a.vcid.toNat := by
  unfold osdlpTmInit at h
  split_ifs at h
  all_goals exact congrArg (fun tf => tf.primaryHdr.vcid) (Option.some.inj h).symm

/-- How the channels are set up, for packets whose length the hook tells from `h` octets on. -/
structure Multiplexable (a : BitVec 3 → TmInitArgs) (h : ℕ) : Prop where
  vcid : ∀ vcid, (a vcid).vcid = UInt8.ofNat vcid.toNat
  crc : ∀ vcid, (a vcid).crcFlag = true
  off : ∀ vcid, (a vcid).stuffing = .stuffingOff
  size : ∀ vcid, (a vcid).frameSize.toNat ≤ 2048
  room : ∀ vcid, (a vcid).occupied + h ≤ (a vcid).frameSize.toNat

/-- What is sent on a channel is a packet that the receiver can hold, and that the hook knows. -/
def Sendable (getPacketLen : GetPacketLen) (a : BitVec 3 → TmInitArgs) (h : ℕ) :
    MultiplexedEvent → Prop
  | .transmit vcid packet =>
    h ≤ packet.length ∧ packet.length ≤ (a vcid).maxSduLen.toNat ∧ TellsLength getPacketLen h [packet]
  | .transmitIdleFdu _ | .carry _ => True

variable {a : BitVec 3 → TmInitArgs} {link : MultiplexedLink}

/-- Every channel flows. -/
def AllFlow (getPacketLen : GetPacketLen) (fuel : ℕ) (a : BitVec 3 → TmInitArgs)
    (sent : BitVec 3 → List (List UInt8)) (link : MultiplexedLink) : Prop :=
  ∀ vcid, Flows getPacketLen fuel (a vcid).mission vcid (sent vcid) (link.senders vcid)
    (link.receivers vcid)

/-- A call on one channel, which leaves the others alone. -/
theorem AllFlow.callOn {sent sent' : BitVec 3 → List (List UInt8)} (vcid : BitVec 3)
    {call : TmSender → TmSender} (hothers : ∀ other, other ≠ vcid → sent' other = sent other)
    (hcall : ∀ {tx : TmSender} {rx : TmReceiver},
      Flows getPacketLen fuel (a vcid).mission vcid (sent vcid) tx rx →
      Flows getPacketLen fuel (a vcid).mission vcid (sent' vcid) (call tx) rx)
    (hflow : AllFlow getPacketLen fuel a sent link) :
    AllFlow getPacketLen fuel a sent' (link.callOn vcid call) := by
  intro other
  show Flows _ _ _ _ _ (Function.update link.senders vcid _ other) _
  by_cases hsame : other = vcid
  · subst hsame
    rw [Function.update_self]
    exact hcall ((hflow other).readMaster link.mcCount)
  · rw [Function.update_of_ne hsame, hothers other hsame]
    exact hflow other

/-- A frame goes over, and what is still queued completes what has been handed over. -/
theorem AllFlow.carry {sent : BitVec 3 → List (List UInt8)} (vcid : BitVec 3)
    (hoff : (a vcid).mission.stuffState = .stuffingOff)
    (hflow : AllFlow getPacketLen fuel a sent link) :
    AllFlow getPacketLen fuel a sent (multiplexedStep getPacketLen fuel link (.carry vcid)) := by
  unfold multiplexedStep
  dsimp only
  cases hqueue : (link.senders vcid).queue with
  | nil => exact hflow
  | cons frame queue =>
    obtain ⟨hnamed, code, r', hcall, hflows⟩ := (hflow vcid).carry hoff hqueue
    unfold frameVcid at hnamed
    unfold MultiplexedLink.receive
    dsimp only
    rw [hnamed]
    -- unpacking writes the whole primary header, the shared counter included
    have hshared : osdlpTmReceive getPacketLen fuel 0
        { link.receivers vcid with
          tf := readMaster link.rxMcCount (link.receivers vcid).tf } frame =
        some (code, r') := hcall
    rw [hshared]
    intro other
    show Flows _ _ _ _ _ (Function.update link.senders vcid _ other)
      (Function.update link.receivers vcid _ other)
    by_cases hsame : other = vcid
    · subst hsame
      rw [Function.update_self, Function.update_self]
      exact hflows
    · rw [Function.update_of_ne hsame, Function.update_of_ne hsame]
      exact hflow other

/-- One event on one channel leaves the others alone but for the shared counter. -/
theorem allFlow_step (hpos : 0 < h) (ha : Multiplexable a h) {sent : BitVec 3 → List (List UInt8)}
    {event : MultiplexedEvent} (hevent : Sendable getPacketLen a h event)
    (hflow : AllFlow getPacketLen fuel a sent link) :
    AllFlow getPacketLen fuel a (fun vcid => sent vcid ++ (packetOn vcid event).toList)
      (multiplexedStep getPacketLen fuel link event) := by
  have hsetup : ∀ vcid, TmFits (a vcid).mission ∧ h ≤ (a vcid).mission.maxDataLen := fun vcid =>
    osdlpTmInit_fits hpos (ha.size vcid) (ha.room vcid)
  cases event with
  | transmit vcid packet =>
    obtain ⟨hlen, hsdu, hhook⟩ := hevent
    obtain ⟨hfits, hroom⟩ := hsetup vcid
    refine hflow.callOn vcid (fun other hne => ?_) fun hflows => ?_
    · rw [packetOn_transmit_of_ne (Ne.symm hne), Option.toList_none, List.append_nil]
    · rw [packetOn_transmit, Option.toList_some]
      exact hflows.transmit hfits (ha.off vcid) (ha.crc vcid) hroom hhook (by omega) hsdu
  | transmitIdleFdu vcid =>
    have hsent : (fun other => sent other ++ (packetOn other (.transmitIdleFdu vcid)).toList) = sent :=
      funext fun other => List.append_nil (sent other)
    rw [hsent]
    exact hflow.callOn vcid (fun _ _ => rfl) fun hflows =>
      hflows.transmitIdleFdu (hsetup vcid).1 (ha.crc vcid)
  | carry vcid =>
    have hsent : (fun other => sent other ++ (packetOn other (.carry vcid)).toList) = sent :=
      funext fun other => List.append_nil (sent other)
    rw [hsent]
    exact hflow.carry vcid (ha.off vcid)

/-- By induction on the events, in any order of the channels. -/
theorem allFlow_run (hpos : 0 < h) (ha : Multiplexable a h) {sent : BitVec 3 → List (List UInt8)}
    {events : List MultiplexedEvent} (hevents : ∀ event ∈ events, Sendable getPacketLen a h event)
    (hflow : AllFlow getPacketLen fuel a sent link) :
    AllFlow getPacketLen fuel a (fun vcid => sent vcid ++ events.filterMap (packetOn vcid))
      (run (multiplexedStep getPacketLen fuel) link events) := by
  induction events generalizing link sent with
  | nil =>
    simp only [List.filterMap_nil, List.append_nil]
    exact hflow
  | cons event events ih =>
    have hstep := allFlow_step hpos ha (hevents event List.mem_cons_self) hflow
    have hrun := ih (fun e he => hevents e (List.mem_cons_of_mem _ he)) hstep
    have hsent : ∀ vcid, (event :: events).filterMap (packetOn vcid) =
        (packetOn vcid event).toList ++ events.filterMap (packetOn vcid) := by
      intro vcid
      rw [List.filterMap_cons]
      cases packetOn vcid event <;> rfl
    simp only [hsent, ← List.append_assoc]
    exact hrun

/-- Channels that have just been set up flow. -/
theorem allFlow_idle {tf₀ tf₁ tx rx : BitVec 3 → TmTransferFrame}
    {rxBuffer : BitVec 3 → List UInt8} (ha : Multiplexable a h)
    (htx : ∀ vcid, osdlpTmInit (tf₀ vcid) (a vcid) = some (tx vcid))
    (hrx : ∀ vcid, osdlpTmInit (tf₁ vcid) { a vcid with utilBuffer := rxBuffer vcid } =
      some (rx vcid))
    {txAnswers rxAnswers : BitVec 3 → List Int} (htxAcc : ∀ vcid, Accepting (txAnswers vcid))
    (hrxAcc : ∀ vcid, Accepting (rxAnswers vcid)) (mcCount rxMcCount : UInt8) :
    AllFlow getPacketLen fuel a (fun _ => [])
      { mcCount, rxMcCount
        senders := fun vcid => { tf := tx vcid, queue := [], answers := txAnswers vcid }
        receivers := fun vcid => { tf := rx vcid, delivered := [], answers := rxAnswers vcid } } := by
  intro vcid
  have hroom := ha.room vcid
  have hlistens : Listens (a vcid).mission
      { tf := rx vcid, delivered := [], answers := rxAnswers vcid } :=
    osdlpTmInit_listens (hrx vcid) [] _
  refine ⟨osdlpTmInit_ready (by omega) (htx vcid), htxAcc vcid, ⟨?_, by simp⟩, hlistens, _, rfl,
    hlistens, ?_, hrxAcc vcid, .nil⟩
  · have hname : (UInt8.ofNat vcid.toNat).toNat = vcid.toNat := by
      rw [UInt8.toNat_ofNat']
      omega
    show (tx vcid).primaryHdr.vcid = vcid
    rw [osdlpTmInit_vcid (htx vcid), ha.vcid vcid, hname, BitVec.ofNat_toNat, BitVec.setWidth_eq]
  · show (rx vcid).mission.util.loopState = _
    rw [osdlpTmInit_mission (hrx vcid)]
    rfl

/-- What a channel that flows has handed over. -/
theorem Flows.delivered (hoff : m.stuffState = .stuffingOff)
    (hflows : Flows getPacketLen fuel m vcid packets s r) :
    List.Forall₂ (· <+: ·) (packets.take r.delivered.length) r.delivered ∧
      (s.queue = [] → r.delivered.length = packets.length) := by
  obtain ⟨r', hall, -, -, -, hforall⟩ := hflows.drains
  have hgrows := receiveAll_grows hoff hflows.listens hall
  refine ⟨?_, fun hempty => ?_⟩
  · have htaken := List.forall₂_take r.delivered.length hforall
    rw [← List.prefix_iff_eq_take.mp hgrows] at htaken
    exact htaken
  · rw [hempty] at hall
    obtain rfl := Option.some.inj hall
    exact hforall.length_eq.symm

/-- **Virtual channels.**  Both ends of all virtual channels are set up alike, without stuffing and
with checksum, and share the master channel counter.  In every order in which packets and idle
frames are sent on the channels and their frames carried over the link, each channel hands over its
packets in order, each at the start of its buffer, and all of them once none of its frames is queued.
SOURCE: osdlp_tm.c:24-94, 306-502, 748-787; osdlp_tm.h:112, 173-174 -/
theorem multiplexed_delivers {tf₀ tf₁ tx rx : BitVec 3 → TmTransferFrame}
    {rxBuffer : BitVec 3 → List UInt8} (ha : Multiplexable a h) (hpos : 0 < h)
    (htx : ∀ vcid, osdlpTmInit (tf₀ vcid) (a vcid) = some (tx vcid))
    (hrx : ∀ vcid, osdlpTmInit (tf₁ vcid) { a vcid with utilBuffer := rxBuffer vcid } =
      some (rx vcid))
    {txAnswers rxAnswers : BitVec 3 → List Int} (htxAcc : ∀ vcid, Accepting (txAnswers vcid))
    (hrxAcc : ∀ vcid, Accepting (rxAnswers vcid)) (mcCount rxMcCount : UInt8)
    {events : List MultiplexedEvent} (hevents : ∀ event ∈ events, Sendable getPacketLen a h event)
    (vcid : BitVec 3) :
    let s := run (multiplexedStep getPacketLen fuel)
      { mcCount, rxMcCount
        senders := fun vcid => { tf := tx vcid, queue := [], answers := txAnswers vcid }
        receivers := fun vcid => { tf := rx vcid, delivered := [], answers := rxAnswers vcid } } events
    let delivered := (s.receivers vcid).delivered
    let sent := events.filterMap (packetOn vcid)
    List.Forall₂ (· <+: ·) (sent.take delivered.length) delivered ∧
      ((s.senders vcid).queue = [] → delivered.length = sent.length) := by
  intro s delivered sent
  have hstart := @allFlow_idle getPacketLen fuel h a tf₀ tf₁ tx rx rxBuffer ha htx hrx txAnswers
    rxAnswers htxAcc hrxAcc mcCount rxMcCount
  have hflows := allFlow_run hpos ha hevents hstart vcid
  exact hflows.delivered (ha.off vcid)

/-- Channels with frames of six octets of data. -/
def smallChannels (vcid : BitVec 3) : TmInitArgs :=
    { smallFrames with vcid := UInt8.ofNat vcid.toNat }

/-- An end of one of them. -/
def smallChannel (vcid : BitVec 3) : TmTransferFrame :=
  (osdlpTmInit default (smallChannels vcid)).getD default

/-- A packet of two frames on one channel, with one of another channel and an idle frame between
its frames. -/
theorem multiplexed_delivers_between :
    let long : List UInt8 := [9, 1, 2, 3, 4, 5, 6, 7, 8]
    let short : List UInt8 := [4, 1, 2, 3]
    let events : List MultiplexedEvent :=
      [.transmit 1 long, .carry 1, .transmit 2 short, .transmitIdleFdu 1, .carry 2, .carry 1, .carry 1]
    let s := run (multiplexedStep (lengthOctet 0) 0)
      { mcCount := 3, rxMcCount := 0
        senders := fun vcid => { tf := smallChannel vcid, queue := [], answers := [] }
        receivers := fun vcid => { tf := smallChannel vcid, delivered := [], answers := [] } } events
    let delivered := (s.receivers 1).delivered
    let sent := events.filterMap (packetOn 1)
    List.Forall₂ (· <+: ·) (sent.take delivered.length) delivered ∧
      ((s.senders 1).queue = [] → delivered.length = sent.length) := by
  intro long short events
  have ha : Multiplexable smallChannels 1 :=
    ⟨fun _ => rfl, fun _ => rfl, fun _ => rfl, fun _ => show (14 : ℕ) ≤ 2048 by decide,
      fun _ => show 8 + 1 ≤ 14 by decide⟩
  have hevents : ∀ event ∈ events, Sendable (lengthOctet 0) smallChannels 1 event := by
    intro event hmem
    simp only [events, List.mem_cons, List.not_mem_nil, or_false] at hmem
    obtain rfl | rfl | rfl | rfl | rfl | rfl | rfl := hmem
    · exact ⟨by decide, by decide, lengthOctet_tells (by decide)⟩
    · trivial
    · exact ⟨by decide, by decide, lengthOctet_tells (by decide)⟩
    all_goals trivial
  have hinit : ∀ vcid, osdlpTmInit default (smallChannels vcid) = some (smallChannel vcid) :=
    fun _ => rfl
  have hacc : ∀ _ : BitVec 3, Accepting [] := fun _ => by simp [Accepting]
  exact @multiplexed_delivers (lengthOctet 0) 0 1 smallChannels (fun _ => default) (fun _ => default)
    _ _ (fun _ => []) ha (by decide) hinit hinit _ _ hacc hacc 3 0 events hevents 1

end Osdlp.Analysis
