import Osdlp.Analysis.ErrorDetection
import Osdlp.Analysis.TmAcceptance
import Osdlp.Analysis.TmBounds
import Osdlp.Interface.TmCodec

/-!
# Control words in telemetry

Every frame of a channel with an operational control field carries the control word that the frame
structure holds when the frame is packed, whether a packet is stuffed into it later or not
(`Words.step`), and a receiver finds it there if the frame arrives without errors
(`osdlpTmReceive_word`).
-/

set_option autoImplicit false

namespace Osdlp.Analysis

open Osdlp.Model Osdlp.Interface Osdlp.Library

/-- The control word in a frame.
SOURCE: osdlp_tm.c:128-131, 177-180 -/
def frameOcf (m : TmMissionParams) (frame : List UInt8) : List UInt8 :=
  region frame (m.headerLen + m.maxDataLen) 4

/-- The frames have room for a control word and for a checksum. -/
structure OcfRoom (m : TmMissionParams) : Prop where
  header : 6 ≤ m.headerLen
  some : 0 < m.maxDataLen
  small : m.maxDataLen < 65536
  frame : m.frameLen = m.headerLen + m.maxDataLen + 4 + 2
  crcPresent : m.crcPresent = true

/-- A whole frame that says that it has a control word. -/
structure Worded (m : TmMissionParams) (frame : List UInt8) : Prop where
  sound : Sound m frame
  flag : (tmUnpackHdr frame).ocf = true

/-- A sender of the channel, with a control word in its frame structure and in all its frames. -/
structure Words (m : TmMissionParams) (s : TmSender) : Prop where
  channel : OfChannel m s.tf
  flag : s.tf.primaryHdr.ocf = true
  word : s.tf.ocf.length = 4
  queue : ∀ frame ∈ s.queue, Worded m frame

/-- From `s` to `s'`, frames have been queued that carry the control word at hand. -/
structure Repeats (m : TmMissionParams) (s s' : TmSender) : Prop where
  words : Words m s'
  ocf : s'.tf.ocf = s.tf.ocf
  queue : ∃ n, s'.queue.map (frameOcf m) =
    s.queue.map (frameOcf m) ++ List.replicate n s.tf.ocf

variable {m : TmMissionParams} {tf : TmTransferFrame} {s s' s'' : TmSender} {frame : List UInt8}

theorem Repeats.refl (h : Words m s) : Repeats m s s := ⟨h, rfl, 0, by simp⟩

theorem Repeats.trans (h : Repeats m s s') (h' : Repeats m s' s'') : Repeats m s s'' := by
  obtain ⟨n, hqueue⟩ := h.queue
  obtain ⟨n', hqueue'⟩ := h'.queue
  refine ⟨h'.words, h'.ocf.trans h.ocf, n + n', ?_⟩
  rw [hqueue', hqueue, h.ocf, List.append_assoc, List.replicate_append_replicate]

/-- A call that leaves the queue alone. -/
theorem Repeats.of_queue (h : Words m s) (hchannel : OfChannel m s'.tf)
    (hhdr : s'.tf.primaryHdr.ocf = s.tf.primaryHdr.ocf) (hocf : s'.tf.ocf = s.tf.ocf)
    (hqueue : s'.queue = s.queue) : Repeats m s s' := by
  refine ⟨⟨hchannel, hhdr.trans h.flag, hocf ▸ h.word, hqueue ▸ h.queue⟩, hocf, 0, ?_⟩
  rw [hqueue, List.replicate_zero, List.append_nil]

/-! ## A frame that is packed -/

/-- The checksum leaves alone what lies before it. -/
theorem region_packCrc_of_le (pkt : List UInt8) {off k : ℕ} (h : off + k ≤ m.frameLen - 2) :
    region (packCrc m pkt) off k = region pkt off k :=
  region_congr fun i hi => getD_packCrc pkt fun _ => .inl (by omega)

/-- The flag is the last bit of the second octet. -/
theorem tmUnpackHdr_ocf_congr {pkt pkt' : List UInt8} (h : pkt.getD 1 0 = pkt'.getD 1 0) :
    (tmUnpackHdr pkt).ocf = (tmUnpackHdr pkt').ocf := by
  unfold tmUnpackHdr
  dsimp only
  rw [h]

theorem OcfRoom.behindHeader (hroom : OcfRoom m) : BehindHeader m := by
  have hframe := hroom.frame
  have hheader := hroom.header
  exact ⟨hheader, by omega⟩

/-- A frame that is packed shows the flag of its frame structure and carries its control word. -/
theorem worded_queuedFrame (hroom : OcfRoom m) (hchannel : OfChannel m tf)
    (hflag : tf.primaryHdr.ocf = true) (hword : tf.ocf.length = 4) (data : List UInt8)
    (length : ℕ) :
    Worded m (queuedFrame (packIntoUtil tf data length)) ∧
      frameOcf m (queuedFrame (packIntoUtil tf data length)) = tf.ocf := by
  have hheader : tf.mission.headerLen = m.headerLen := by rw [hchannel]
  have hmax : tf.mission.maxDataLen = m.maxDataLen := by rw [hchannel]
  have hlen : tf.mission.frameLen = m.frameLen := by rw [hchannel]
  have hbehind : BehindHeader tf.mission := by
    have hbehind := hroom.behindHeader
    exact ⟨hheader ▸ hbehind.headerLen, hlen ▸ hbehind.frameLen⟩
  have hwritten : TmWritten m (queuedFrame (packIntoUtil tf data length)) := by
    have hpacked := TmWritten.packed hchannel tf.mission.util.buffer data length
    rw [← hlen] at hpacked
    obtain ⟨crc, heq⟩ := packIntoUtil_eq tf data length
    unfold queuedFrame
    rw [heq]
    convert hpacked using 2
    unfold osdlpTmPack packCrc
    split_ifs <;> rfl
  have hframe := hroom.frame
  refine ⟨⟨⟨?_, fun _ => hwritten.crc hroom.crcPresent (by omega)⟩, ?_⟩, ?_⟩
  · obtain ⟨crc, heq⟩ := packIntoUtil_eq tf data length
    unfold queuedFrame
    rw [heq, length_region, hlen]
  · have hoctet := getD_packIntoUtil hbehind data length (show 1 < 5 by omega)
    rw [tmUnpackHdr_ocf_congr hoctet, tmUnpackHdr_hdrOctets]
    exact hflag
  · obtain ⟨crc, heq⟩ := packIntoUtil_eq tf data length
    unfold queuedFrame frameOcf
    rw [heq]
    show region (region (packCrc tf.mission _) 0 tf.mission.frameLen) _ 4 = _
    rw [region_region _ (by omega), Nat.zero_add, region_packCrc_of_le _ (by omega), ← hheader,
      ← hmax]
    exact region_tmPackBody_ocf hflag hword _ _ _

/-! ## A frame that takes a packet -/

theorem packCrc_length (hcrc : m.crcPresent = true) (hframe : 2 ≤ m.frameLen) {pkt : List UInt8}
    (hlen : pkt.length = m.frameLen) : (packCrc m pkt).length = m.frameLen := by
  unfold packCrc
  rw [if_pos hcrc, length_tmWriteCrc]
  omega

/-- Stuffing keeps to the data field and the checksum.
SOURCE: osdlp_tm.c:273-304 -/
theorem handlePktStuffing_kept (hroom : OcfRoom m) (hlen : frame.length = m.frameLen)
    {residueLen : ℕ} (hresidue : residueLen < m.maxDataLen) (dataIn : List UInt8) (length : ℕ) :
    let stuffed := (handlePktStuffing m (numPacketsFor m (length + residueLen)) frame dataIn length
      residueLen).1
    stuffed.length = m.frameLen ∧
      ∀ i, i < m.headerLen ∨ m.headerLen + m.maxDataLen ≤ i → i < m.frameLen - 2 →
        stuffed.getD i 0 = frame.getD i 0 := by
  have hframe := hroom.frame
  have hsmall := hroom.small
  have hcopied : ∀ n, (dataIn.take n).length ≤ n := fun n => List.length_take_le n dataIn
  have hrenew : ∀ pkt : List UInt8, pkt.length = m.frameLen →
      (∀ i, i < m.headerLen ∨ m.headerLen + m.maxDataLen ≤ i → pkt.getD i 0 = frame.getD i 0) →
      (packCrc m pkt).length = m.frameLen ∧
        ∀ i, i < m.headerLen ∨ m.headerLen + m.maxDataLen ≤ i → i < m.frameLen - 2 →
          (packCrc m pkt).getD i 0 = frame.getD i 0 := by
    intro pkt hpkt hkept
    refine ⟨packCrc_length hroom.crcPresent (by omega) hpkt, fun i hout hi => ?_⟩
    rw [getD_packCrc pkt fun _ => .inl hi]
    exact hkept i hout
  intro stuffed
  show (handlePktStuffing _ _ _ _ _ _).1.length = _ ∧ ∀ i, _ → _ →
    (handlePktStuffing _ _ _ _ _ _).1.getD i 0 = _
  unfold handlePktStuffing
  by_cases hone : numPacketsFor m (length + residueLen) = 1
  · -- the packet ends in the frame, and idle octets follow
    have hin := (numPacketsFor_bounds hroom.some (length + residueLen)).2.1
    rw [hone, Nat.one_mul] at hin
    have hspace : u16 (m.maxDataLen - length - residueLen : ℤ) =
        m.maxDataLen - length - residueLen := by
      rw [← Nat.cast_sub (by omega), ← Nat.cast_sub (by omega)]
      exact u16_of_lt (by omega)
    have hcopy := hcopied length
    rw [if_pos hone, hspace]
    apply hrenew
    · split_ifs <;> simp only [length_memWrite, List.length_replicate] <;> omega
    · intro i hout
      split_ifs
      · rw [getD_memWrite, if_neg (by rw [List.length_replicate]; omega), getD_memWrite,
          if_neg (by omega)]
      · rw [getD_memWrite, if_neg (by omega)]
  · -- it fills the data field
    have hspace : u16 (m.maxDataLen - residueLen : ℤ) = m.maxDataLen - residueLen := by
      rw [← Nat.cast_sub hresidue.le]
      exact u16_of_lt (by omega)
    have hcopy := hcopied (m.maxDataLen - residueLen)
    rw [if_neg hone, hspace]
    apply hrenew
    · rw [length_memWrite]
      omega
    · intro i hout
      rw [getD_memWrite, if_neg (by omega)]

/-- A frame keeps its control word when a packet is stuffed into it. -/
theorem worded_stuffed (hroom : OcfRoom m) (hchannel : OfChannel m tf) (hworded : Worded m frame)
    {residueLen : ℕ} (hresidue : residueLen < m.maxDataLen) (dataIn : List UInt8) (length : ℕ) :
    let stuffed := (handlePktStuffing tf.mission (numPacketsFor tf.mission (length + residueLen))
      frame dataIn length residueLen).1
    Worded m stuffed ∧ frameOcf m stuffed = frameOcf m frame := by
  intro stuffed
  have hsame : stuffed = (handlePktStuffing m (numPacketsFor m (length + residueLen)) frame dataIn
      length residueLen).1 := by
    show (handlePktStuffing tf.mission (numPacketsFor tf.mission _) _ _ _ _).1 = _
    rw [hchannel]
    rfl
  obtain ⟨hlen, hkept⟩ :=
    handlePktStuffing_kept hroom hworded.sound.length hresidue dataIn length
  rw [← hsame] at hlen hkept
  have hframe := hroom.frame
  have hheader := hroom.header
  have hwritten : TmWritten m stuffed := by
    have hstuffed := TmWritten.stuffed hchannel (numPacketsFor tf.mission (length + residueLen)) frame
      dataIn length residueLen
    rwa [region_all hlen] at hstuffed
  refine ⟨⟨⟨hlen, fun _ => hwritten.crc hroom.crcPresent (by omega)⟩, ?_⟩, ?_⟩
  · rw [tmUnpackHdr_ocf_congr (hkept 1 (.inl (by omega)) (by omega))]
    exact hworded.flag
  · exact region_congr fun i hi => hkept _ (.inr (by omega)) (by omega)

/-! ## The calls of a sender -/

/-- A frame that is packed and offered. -/
theorem Words.enqueue (hroom : OcfRoom m) (h : Words m s) (hchannel : OfChannel m tf)
    (hflag : tf.primaryHdr.ocf = true) (hocf : tf.ocf = s.tf.ocf) (data : List UInt8)
    (length : ℕ) :
    let packed := packIntoUtil tf data length
    Repeats m s (osdlpTmTxQueueEnqueue { s with tf := packed } packed.mission.util.buffer).2 := by
  intro packed
  have hword : tf.ocf.length = 4 := hocf ▸ h.word
  obtain ⟨hworded, hframeOcf⟩ := worded_queuedFrame hroom hchannel hflag hword data length
  have hpacked : OfChannel m packed := hchannel.packIntoUtil data length
  obtain ⟨crc, heq⟩ := packIntoUtil_eq tf data length
  have hkept : packed.primaryHdr.ocf = true ∧ packed.ocf = s.tf.ocf := by
    show (packIntoUtil tf data length).primaryHdr.ocf = true ∧
      (packIntoUtil tf data length).ocf = s.tf.ocf
    rw [heq]
    exact ⟨hflag, hocf⟩
  have hrepeats : ∀ queue answers n, (∀ fr ∈ queue, Worded m fr) →
      queue.map (frameOcf m) = s.queue.map (frameOcf m) ++ List.replicate n s.tf.ocf →
      Repeats m s { tf := packed, queue := queue, answers := answers } :=
    fun queue answers n hqueue hmap =>
      ⟨⟨hpacked, hkept.1, hkept.2 ▸ h.word, hqueue⟩, hkept.2, n, hmap⟩
  rcases osdlpTmTxQueueEnqueue_cases { s with tf := packed } packed.mission.util.buffer with
    ⟨answers, -, -, hsent⟩ | ⟨ret, answers, -, -, hsent⟩
  · rw [hsent]
    apply hrepeats _ _ 1
    · intro fr hfr
      rcases List.mem_append.mp hfr with hold | hnew
      · exact h.queue fr hold
      · rw [List.mem_singleton.mp hnew]
        exact hworded
    · rw [List.map_append, List.map_singleton, ← hocf]
      exact congrArg (fun ocf => _ ++ [ocf]) hframeOcf
  · rw [hsent]
    exact hrepeats _ _ 0 h.queue (by simp)

/-- SOURCE: osdlp_tm.c:367-413 -/
theorem Words.transmitLoop (hroom : OcfRoom m) (h : Words m s) (dataIn : List UInt8)
    (length numPackets remainingLen : ℕ) :
    Repeats m s (transmitLoop dataIn length numPackets remainingLen s).2 := by
  induction numPackets generalizing s remainingLen with
  | zero => exact .of_queue h (h.channel.setUtil _) rfl rfl rfl
  | succ numPackets ih =>
    have hnext : OfChannel m (nextTmFrame s.tf length remainingLen) := h.channel
    have hsent := h.enqueue hroom hnext h.flag rfl (dataIn.drop (length - remainingLen))
      (min s.tf.mission.maxDataLen remainingLen)
    have hpacked := hnext.packIntoUtil (dataIn.drop (length - remainingLen))
      (min s.tf.mission.maxDataLen remainingLen)
    unfold Model.transmitLoop
    dsimp only at hsent ⊢
    generalize packIntoUtil (nextTmFrame s.tf length remainingLen) _ _ = packed at hpacked hsent ⊢
    split_ifs with hrefused
    · have htf := osdlpTmTxQueueEnqueue_tf { s with tf := packed } packed.mission.util.buffer
      refine hsent.trans (.of_queue hsent.words (hpacked.setUtil _) ?_ ?_ rfl)
      · rw [htf]
      · rw [htf]
    · exact hsent.trans (ih hsent.words _)

/-- The last frame of the queue takes a packet. -/
theorem Words.stuffed (hroom : OcfRoom m) (h : Words m s) (hsome : s.queue ≠ []) {residueLen : ℕ}
    (hresidue : residueLen < m.maxDataLen) (dataIn : List UInt8) (length : ℕ) :
    let last := handlePktStuffing s.tf.mission (numPacketsFor s.tf.mission (length + residueLen))
      (s.queue.getLastD []) dataIn length residueLen
    Repeats m s { s with queue := s.queue.dropLast ++ [last.1] } := by
  have hlast : s.queue.dropLast ++ [s.queue.getLastD []] = s.queue := by
    rw [List.getLastD_eq_getLast?, List.getLast?_eq_some_getLast hsome, Option.getD_some]
    exact List.dropLast_append_getLast hsome
  have hmem : s.queue.getLastD [] ∈ s.queue := by
    rw [← hlast]
    simp
  obtain ⟨hworded, hocf⟩ :=
    worded_stuffed hroom h.channel (h.queue _ hmem) hresidue dataIn length
  refine ⟨⟨h.channel, h.flag, h.word, ?_⟩, rfl, 0, ?_⟩
  · intro fr hfr
    rcases List.mem_append.mp hfr with hold | hnew
    · exact h.queue fr (List.dropLast_subset _ hold)
    · rw [List.mem_singleton.mp hnew]
      exact hworded
  · rw [List.replicate_zero, List.append_nil]
    conv_rhs => rw [← hlast]
    rw [List.map_append, List.map_append, List.map_singleton, List.map_singleton, hocf]

/-- SOURCE: osdlp_tm.c:329-353 -/
theorem Words.stuffLastFrame (hroom : OcfRoom m) (h : Words m s) (hsome : s.queue ≠ [])
    {getPacketLen : GetPacketLen} {fuel : ℕ} {queueBack : Int} {dataIn : List UInt8} {length : ℕ}
    {stuffed : ℕ × ℕ × TmSender}
    (hstuffed : stuffLastFrame getPacketLen fuel queueBack s dataIn length length = some stuffed) :
    Repeats m s stuffed.2.2 := by
  have hmax : s.tf.mission.maxDataLen = m.maxDataLen := by rw [h.channel]
  unfold Model.stuffLastFrame at hstuffed
  dsimp only at hstuffed
  split_ifs at hstuffed
  all_goals
    obtain ⟨residueLen, -, htaken⟩ := Option.bind_eq_some_iff.mp hstuffed
    by_cases hfull : residueLen ≥ s.tf.mission.maxDataLen
    · rw [if_pos hfull] at htaken
      obtain rfl := Option.some.inj htaken
      exact .refl h
    · rw [if_neg hfull] at htaken
      obtain rfl := Option.some.inj htaken
      exact h.stuffed hroom hsome (by omega) dataIn length

/-- SOURCE: osdlp_tm.c:306-414 -/
theorem Words.transmit (hroom : OcfRoom m) (h : Words m s) {getPacketLen : GetPacketLen} {fuel : ℕ}
    {queueBack : Int} {dataIn : List UInt8} {length : ℕ} {out : Int × TmSender}
    (hsent : osdlpTmTransmit getPacketLen fuel queueBack s dataIn length = some out) :
    Repeats m s out.2 := by
  unfold osdlpTmTransmit at hsent
  dsimp only at hsent
  by_cases hstuff : s.queue ≠ [] ∧ s.tf.mission.stuffState = .stuffingOn ∧
      s.tf.mission.util.loopState = .loopClosed
  · rw [if_pos hstuff, if_neg (by rw [hstuff.2.2]; decide)] at hsent
    obtain ⟨stuffed, hstuffed, hloop⟩ := Option.bind_eq_some_iff.mp hsent
    obtain rfl := Option.some.inj hloop
    have hlast := h.stuffLastFrame hroom hstuff.1 hstuffed
    exact hlast.trans (hlast.words.transmitLoop hroom _ _ _ _)
  · rw [if_neg hstuff] at hsent
    obtain rfl := Option.some.inj hsent
    exact h.transmitLoop hroom _ _ _ _

/-- SOURCE: osdlp_tm.c:774-787 -/
theorem Words.transmitIdleFdu (hroom : OcfRoom m) (h : Words m s) :
    Repeats m s (osdlpTmTransmitIdleFdu s).2 := by
  have hidle : OfChannel m
      { s.tf with primaryHdr := { s.tf.primaryHdr with firstHdrPtr := tmFirstHdrPtrOid } } :=
    h.channel
  have hsent := h.enqueue hroom hidle h.flag rfl [] 0
  unfold osdlpTmTransmitIdleFdu
  dsimp only at hsent ⊢
  split_ifs
  · exact hsent
  · exact hsent

/-- Whatever a sender is called for, the frames that it queues carry the control word at hand, and
those in its queue keep theirs.
SOURCE: osdlp_tm.c:203-220, 306-414, 774-787 -/
theorem Words.step {s : TmStored} (hroom : OcfRoom m) (h : Words m s.tx) (call : TmSenderCall) :
    Repeats m s.tx (tmSenderStep s call).tx ∨
      (call = .dequeue ∧ (tmSenderStep s call).tx = { s.tx with queue := s.tx.queue.tail }) := by
  cases call with
  | transmit getPacketLen fuel queueBack dataIn length =>
    left
    cases hsent : tmTransmitStores getPacketLen fuel queueBack s.tx dataIn length.toNat with
    | none =>
      simp only [tmSenderStep, hsent]
      exact .refl h
    | some sent =>
      have hvalue := @value_tmTransmitStores s.tx dataIn length.toNat getPacketLen fuel queueBack
      rw [hsent] at hvalue
      rw [tmSenderStep_transmit hsent]
      exact h.transmit hroom hvalue.symm
  | transmitIdleFdu => exact .inl (h.transmitIdleFdu hroom)
  | dequeue => exact .inr ⟨rfl, rfl⟩
  | abortSegmentation => exact .inl (.of_queue h (h.channel.setUtil _) rfl rfl rfl)
  | enablePacketStuffing | disablePacketStuffing =>
    exact .inl (.of_queue h (h.channel.setStuffing _) rfl rfl rfl)

/-! ## Reception -/

variable {getPacketLen : GetPacketLen} {r : TmReceiver}

/-- A call returns, and behind the unpacking it changes nothing but the utility buffer.
SOURCE: osdlp_tm.c:748-772 -/
theorem osdlpTmReceive_reutilized (hsettled : Settled m r)
    (hanswers : AnswersWithin getPacketLen m.maxSduLen) (hsmall : m.maxDataLen < 65536)
    {fuel : ℕ} (hfuel : m.maxDataLen < fuel) (frame : List UInt8) :
    ∃ result, osdlpTmReceive getPacketLen fuel 0 r frame = some result ∧
      Reutilized m.maxSduLen { r with tf := osdlpTmUnpack r.tf frame } result.2 := by
  have hunpacked := hsettled.unpack frame
  have hrefl : Reutilized m.maxSduLen { r with tf := osdlpTmUnpack r.tf frame }
      { r with tf := osdlpTmUnpack r.tf frame } := .refl hunpacked.expected
  unfold osdlpTmReceive
  rw [if_neg (by decide)]
  dsimp only
  split_ifs
  · exact ⟨_, rfl, hrefl⟩
  · exact ⟨_, rfl, hrefl⟩
  · cases (osdlpTmUnpack r.tf frame).mission.stuffState with
    | stuffingOff =>
      exact ⟨_, rfl, handleRxNoStuffing_reutilized hunpacked.expected hanswers⟩
    | stuffingOn =>
      obtain ⟨result, hresult, hkept⟩ := handleRxStuffing_reutilized hunpacked.listens
        hunpacked.expected hanswers hsmall hfuel
      dsimp only
      rw [hresult]
      exact ⟨_, rfl, hkept⟩

/-- The control word of a frame that arrives without errors is in the frame structure afterwards,
and the frame is not rejected.
SOURCE: osdlp_tm.c:155-187, 748-772 -/
theorem osdlpTmReceive_word (hroom : OcfRoom m) (hsettled : Settled m r)
    (hword : r.tf.ocf.length = 4) (hanswers : AnswersWithin getPacketLen m.maxSduLen)
    (hworded : Worded m frame) {fuel : ℕ} (hfuel : m.maxDataLen < fuel) :
    ∃ code r', osdlpTmReceive getPacketLen fuel 0 r frame = some (code, r') ∧
      code ≠ -TmRxResult.wrongCrc.code ∧ Settled m r' ∧ r'.tf.ocf = frameOcf m frame := by
  obtain ⟨⟨code, r'⟩, hreceived, hkept⟩ :=
    osdlpTmReceive_reutilized hsettled hanswers hroom.small hfuel frame
  have hmission : r.tf.mission.headerLen = m.headerLen ∧
      r.tf.mission.maxDataLen = m.maxDataLen := by
    rw [hsettled.listens]
    exact ⟨rfl, rfl⟩
  refine ⟨code, r', hreceived, ?_, (hsettled.unpack frame).reutilized hkept, ?_⟩
  · intro hcode
    refine (osdlpTmReceive_rejects_iff getPacketLen fuel (Int.le_refl 0) r frame).mp ?_
      (hsettled.listens.crc hroom.crcPresent hworded.sound)
    rw [hreceived, hcode]
    rfl
  · obtain ⟨util, htf, -⟩ := hkept.util
    rw [htf]
    show (osdlpTmUnpack r.tf frame).ocf = _
    unfold osdlpTmUnpack
    dsimp only
    rw [if_pos hworded.flag, hmission.1, hmission.2, memWrite_zero, List.drop_of_length_le,
      List.append_nil]
    · rfl
    · rw [length_region, hword]

/-- The control word of a frame stays four octets long. -/
theorem length_osdlpTmUnpack_ocf (hword : tf.ocf.length = 4) (frame : List UInt8) :
    (osdlpTmUnpack tf frame).ocf.length = 4 := by
  unfold osdlpTmUnpack
  dsimp only
  split_ifs
  · rw [length_memWrite, length_region, hword]
    rfl
  · exact hword

/-- A frame with errors that the checksum notices is rejected.
SOURCE: osdlp_crc.c:23-66, osdlp_tm.c:748-772 -/
theorem osdlpTmReceive_garbledWord (hroom : OcfRoom m) (hlong : m.frameLen ≤ 2048)
    (hlistens : Listens m r) (hworded : Worded m frame) {errors : List UInt8}
    (herrors : errors.length = frame.length) (hnoticeable : Noticeable errors)
    (getPacketLen : GetPacketLen) (fuel : ℕ) :
    osdlpTmReceive getPacketLen fuel 0 r (corrupted frame errors) =
      some (-TmRxResult.wrongCrc.code,
        { r with tf := osdlpTmUnpack r.tf (corrupted frame errors) }) := by
  have hframe := hroom.frame
  have hlen := hworded.sound.length
  have hne := crc_corrupted_ne_of_noticeable (by omega) hlong hlen
    (hworded.sound.crc hroom.crcPresent) (herrors.trans hlen) hnoticeable
  have hmission : r.tf.mission.crcPresent = true ∧ r.tf.mission.frameLen = m.frameLen := by
    rw [hlistens]
    exact ⟨hroom.crcPresent, rfl⟩
  refine osdlpTmReceive_wrongCrc getPacketLen fuel (Int.le_refl 0) hmission.1 ?_
  rw [hmission.2]
  exact hne

end Osdlp.Analysis
