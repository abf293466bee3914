import Osdlp.Analysis.Configurations
import Osdlp.Interface.TmOffers
import Osdlp.Interface.TmResuming

/-!
# Acceptance of telemetry frames

A frame that `osdlp_tm_pack` writes, or packet stuffing rewrites, has the right checksum where the
mission has one (`TmWritten.crc`), and every frame in the queue of a sender is such a frame
(`run_written`).  Where the mission has none, `osdlp_tm_receive` compares all the same, with what the
`crc` field of the receiver happens to hold (`accepts_iff`).
-/

set_option autoImplicit false

namespace Osdlp.Analysis

open Osdlp.Model Osdlp.Interface Osdlp.Library

/-- A frame structure of the channel: its utility buffer and its state of stuffing are its own, and
the rest of the mission is shared by both ends. -/
def OfChannel (m : TmMissionParams) (tf : TmTransferFrame) : Prop :=
  tf.mission = { m with util := tf.mission.util, stuffState := tf.mission.stuffState }

/-- A frame of the channel: `osdlp_tm_pack` has written it, or `osdlp_tm_transmit` has stuffed a
packet into it. -/
inductive TmWritten (m : TmMissionParams) : List UInt8 → Prop
  | packed {tf : TmTransferFrame} (hchannel : OfChannel m tf) (pktOut dataIn : List UInt8)
      (length : ℕ) : TmWritten m (region (osdlpTmPack tf pktOut dataIn length).1 0 m.frameLen)
  | stuffed {tf : TmTransferFrame} (hchannel : OfChannel m tf) (numPackets : ℕ)
      (lastPkt dataIn : List UInt8) (length residueLen : ℕ) :
      TmWritten m (region (handlePktStuffing tf.mission numPackets lastPkt dataIn length
        residueLen).1 0 m.frameLen)

variable {m : TmMissionParams} {tf : TmTransferFrame} {frame : List UInt8}
  {getPacketLen : GetPacketLen} {r : TmReceiver}

/-! ## The checksum that is written -/

/-- The checksum of a packed frame is the one behind it. -/
theorem crc_packCrc (hcrc : m.crcPresent = true) (hframe : 2 ≤ m.frameLen) (pkt : List UInt8) :
    osdlpCalcCrc (region (packCrc m pkt) 0 m.frameLen) (m.frameLen - 2) =
      tmTrailerCrc m.frameLen (region (packCrc m pkt) 0 m.frameLen) := by
  unfold packCrc
  rw [if_pos hcrc]
  exact tmWriteCrc_sound hframe pkt

/-- SOURCE: osdlp_tm.c:96-153, 189-201, 273-304 -/
theorem TmWritten.crc (h : TmWritten m frame) (hcrc : m.crcPresent = true)
    (hframe : 2 ≤ m.frameLen) :
    osdlpCalcCrc frame (m.frameLen - 2) = tmTrailerCrc m.frameLen frame := by
  cases h with
  | @packed tf hchannel pktOut dataIn length =>
    have hpacked : (osdlpTmPack tf pktOut dataIn length).1 =
        packCrc m (tmPackBody tf pktOut dataIn length) := by
      unfold osdlpTmPack packCrc
      rw [hchannel]
      simp only [hcrc, if_true]
    rw [hpacked]
    exact crc_packCrc hcrc hframe _
  | @stuffed tf hchannel numPackets lastPkt dataIn length residueLen =>
    have hrenewed : ∀ pkt, packCrc tf.mission pkt = packCrc m pkt := by
      intro pkt
      rw [hchannel]
      rfl
    unfold handlePktStuffing
    dsimp only
    split_ifs
    all_goals
      rw [hrenewed]
      exact crc_packCrc hcrc hframe _

/-! ## What reception reports -/

/-- Handing a packet over does not look at the checksum. -/
theorem deliverUtil_ne_wrongCrc (r : TmReceiver) (util : TmUtilBuf) :
    (deliverUtil r util).1 ≠ .wrongCrc := by
  unfold deliverUtil
  dsimp only
  split_ifs <;> simp

/-- A packet that goes on is not rejected for the checksum. -/
theorem continuePacket_ne_wrongCrc (r : TmReceiver) (usableLen : ℕ) :
    (continuePacket r usableLen).1 ≠ .wrongCrc := by
  unfold continuePacket
  dsimp only
  split_ifs
  · simp
  · exact deliverUtil_ne_wrongCrc _ _
  · simp

/-- SOURCE: osdlp_tm.c:416-502 -/
theorem handleRxNoStuffing_ne_wrongCrc (getPacketLen : GetPacketLen) (r : TmReceiver) :
    (handleRxNoStuffing getPacketLen r).1 ≠ .wrongCrc := by
  unfold handleRxNoStuffing handleNsPtrZero handleNsPtrPositive
  dsimp only
  split_ifs
  · cases getPacketLen r.tf.data r.tf.mission.maxDataLen with
    | none => simp
    | some length =>
      dsimp only
      split_ifs
      · simp
      · exact deliverUtil_ne_wrongCrc _ _
  · simp
  · exact continuePacket_ne_wrongCrc _ _

/-- SOURCE: osdlp_tm.c:511-555, 682-726 -/
theorem explorePackets_ne_wrongCrc {fuel bytesExplored : ℕ} {out : TmRxResult × TmReceiver}
    (h : explorePackets getPacketLen fuel bytesExplored r = some out) : out.1 ≠ .wrongCrc := by
  induction fuel generalizing bytesExplored r with
  | zero => cases h
  | succ fuel ih =>
    unfold explorePackets at h
    dsimp only at h
    split at h
    · obtain rfl := Option.some.inj h
      simp
    · split at h
      · obtain rfl := Option.some.inj h
        simp
      · split_ifs at h
        · obtain rfl := Option.some.inj h
          simp
        · obtain rfl := Option.some.inj h
          simp
        · obtain rfl := Option.some.inj h
          simp
        · exact ih h

/-- SOURCE: osdlp_tm.c:558-628 -/
theorem handleSPtrNopkt_ne_wrongCrc (getPacketLen : GetPacketLen) (r : TmReceiver) :
    (handleSPtrNopkt getPacketLen r).1 ≠ .wrongCrc := by
  unfold handleSPtrNopkt
  dsimp only
  split_ifs
  · simp
  · split
    · split_ifs
      · exact deliverUtil_ne_wrongCrc _ _
      · simp
    · exact continuePacket_ne_wrongCrc _ _
  · simp
  · exact continuePacket_ne_wrongCrc _ _

/-- SOURCE: osdlp_tm.c:637-680 -/
theorem finishPacket_ne_wrongCrc (getPacketLen : GetPacketLen) (r : TmReceiver) :
    (finishPacket getPacketLen r).1 ≠ some .wrongCrc := by
  have hdenied : ∀ c : Prop, [Decidable c] → (if c then some .denied else none) ≠
      some TmRxResult.wrongCrc := by
    intro c _
    split_ifs <;> simp
  unfold finishPacket
  dsimp only
  split
  · simp
  split
  · split
    · split
      · split
        · exact hdenied _
        · simp
      · simp
    · simp
  · split
    · exact hdenied _
    · simp

/-- SOURCE: osdlp_tm.c:504-746 -/
theorem handleRxStuffing_ne_wrongCrc {fuel : ℕ} {out : TmRxResult × TmReceiver}
    (h : handleRxStuffing getPacketLen fuel r = some out) : out.1 ≠ .wrongCrc := by
  unfold handleRxStuffing at h
  split_ifs at h
  · exact explorePackets_ne_wrongCrc h
  · obtain rfl := Option.some.inj h
    exact handleSPtrNopkt_ne_wrongCrc _ _
  · have hfinished := finishPacket_ne_wrongCrc getPacketLen r
    unfold handleSPtrPositive at h
    split at h
    · rename_i result r' hresult
      obtain rfl := Option.some.inj h
      rw [hresult] at hfinished
      exact fun heq => hfinished (congrArg some heq)
    · exact explorePackets_ne_wrongCrc h

/-- A frame is rejected for its checksum exactly if the one calculated is not the one that the
structure holds.
SOURCE: osdlp_tm.c:748-772 -/
theorem osdlpTmReceive_rejects_iff (getPacketLen : GetPacketLen) (fuel : ℕ) {rxConfig : Int}
    (hconfig : 0 ≤ rxConfig) (r : TmReceiver) (frame : List UInt8) :
    (osdlpTmReceive getPacketLen fuel rxConfig r frame).map Prod.fst =
        some (-TmRxResult.wrongCrc.code) ↔
      osdlpCalcCrc frame (r.tf.mission.frameLen - 2) ≠ (osdlpTmUnpack r.tf frame).crc := by
  have hcode : ∀ result : TmRxResult, result ≠ .wrongCrc → -result.code ≠ -TmRxResult.wrongCrc.code := by
    intro result hne
    cases result <;> simp_all [TmRxResult.code]
  unfold osdlpTmReceive
  rw [if_neg (not_lt.mpr hconfig)]
  dsimp only
  split_ifs with hcrc hoid
  · exact ⟨fun _ => hcrc, fun _ => rfl⟩
  · refine ⟨fun h => ?_, fun h => absurd h hcrc⟩
    exact absurd (Option.some.inj h) (by simp [TmRxResult.code])
  · refine ⟨fun h => ?_, fun h => absurd h hcrc⟩
    rw [Option.map_map, Option.map_eq_some_iff] at h
    obtain ⟨out, hout, hreported⟩ := h
    refine absurd hreported (hcode out.1 ?_)
    split at hout
    · obtain rfl := Option.some.inj hout
      exact handleRxNoStuffing_ne_wrongCrc _ _
    · exact handleRxStuffing_ne_wrongCrc hout

/-- **Acceptance.**  A receiver does not reject a frame of its channel for its checksum exactly if
the mission has one, or the `crc` field of the receiver, which nothing writes then, happens to be the
checksum of the frame.
SOURCE: osdlp_tm.c:96-201, 273-304, 748-772 -/
theorem accepts_iff {tf₀ tf : TmTransferFrame} {a : TmInitArgs}
    (hinit : osdlpTmInit tf₀ a = some tf)
    {frame : List UInt8} (hwritten : TmWritten tf.mission frame) (getPacketLen : GetPacketLen)
    (fuel : ℕ) {rxConfig : Int} (hconfig : 0 ≤ rxConfig) {r : TmReceiver}
    (hchannel : OfChannel tf.mission r.tf) :
    (osdlpTmReceive getPacketLen fuel rxConfig r frame).map Prod.fst ≠
        some (-TmRxResult.wrongCrc.code) ↔
      a.crcFlag = true ∨ r.tf.crc = osdlpCalcCrc frame (a.frameSize.toNat - 2) := by
  have hmission := osdlpTmInit_mission hinit
  have hframe : 2 ≤ tf.mission.frameLen := by
    have hlen := (osdlpTmInit_behindHeader hinit).frameLen
    omega
  have hrx : r.tf.mission.crcPresent = a.crcFlag ∧ r.tf.mission.frameLen = a.frameSize.toNat := by
    rw [hchannel, hmission]
    exact ⟨rfl, rfl⟩
  have htx : tf.mission.crcPresent = a.crcFlag ∧ tf.mission.frameLen = a.frameSize.toNat := by
    rw [hmission]
    exact ⟨rfl, rfl⟩
  rw [ne_eq, osdlpTmReceive_rejects_iff getPacketLen fuel hconfig r frame, not_not, hrx.2]
  by_cases hcrc : a.crcFlag = true
  · have hsound := hwritten.crc (htx.1.trans hcrc) hframe
    rw [htx.2] at hsound
    have hread : (osdlpTmUnpack r.tf frame).crc = tmTrailerCrc a.frameSize.toNat frame := by
      rw [← hrx.2]
      exact if_pos (hrx.1.trans hcrc)
    rw [hread]
    exact ⟨fun _ => .inl hcrc, fun _ => hsound⟩
  · have hstale : (osdlpTmUnpack r.tf frame).crc = r.tf.crc :=
      if_neg (by rw [hrx.1]; exact hcrc)
    rw [hstale]
    exact ⟨fun h => .inr h.symm, fun h => (h.resolve_left hcrc).symm⟩

/-! ## The frames of a sender -/

/-- A sender of the channel; the queue holds frames of the channel. -/
structure Sends (m : TmMissionParams) (s : TmSender) : Prop where
  channel : OfChannel m s.tf
  queue : ∀ item ∈ s.queue, TmWritten m (region item 0 m.frameLen)

variable {s : TmSender}

theorem OfChannel.setUtil (h : OfChannel m tf) (util : TmUtilBuf) :
    OfChannel m { tf with mission := { tf.mission with util := util } } := by
  unfold OfChannel at *
  generalize tf.mission = n at h ⊢
  rw [h]

/-- The state of stuffing is the end's own. -/
theorem OfChannel.setStuffing (h : OfChannel m tf) (state : TmStuffState) :
    OfChannel m (setStuffing state tf) := by
  unfold OfChannel Model.setStuffing at *
  generalize tf.mission = n at h ⊢
  rw [h]

/-- Packing writes the utility buffer only. -/
theorem OfChannel.packIntoUtil (h : OfChannel m tf) (data : List UInt8) (length : ℕ) :
    OfChannel m (packIntoUtil tf data length) := by
  obtain ⟨crc, hpacked⟩ := packIntoUtil_eq tf data length
  rw [hpacked]
  exact h.setUtil _

/-- A frame that is packed and offered. -/
theorem Sends.enqueue (h : Sends m s) {tf : TmTransferFrame} (htf : OfChannel m tf)
    (data : List UInt8) (length : ℕ) :
    let packed := packIntoUtil tf data length
    Sends m (osdlpTmTxQueueEnqueue { s with tf := packed } packed.mission.util.buffer).2 := by
  intro packed
  have hpacked : OfChannel m packed := htf.packIntoUtil data length
  rcases osdlpTmTxQueueEnqueue_cases { s with tf := packed } packed.mission.util.buffer with
    ⟨answers, -, -, hsent⟩ | ⟨ret, answers, -, -, hsent⟩
  · rw [hsent]
    refine ⟨hpacked, ?_⟩
    intro item hitem
    rcases List.mem_append.mp hitem with hold | hnew
    · exact h.queue item hold
    · have hlen : packed.mission.frameLen = m.frameLen := by rw [hpacked]
      rw [List.mem_singleton.mp hnew]
      show TmWritten m (region (region _ 0 packed.mission.frameLen) 0 m.frameLen)
      rw [hlen, region_region _ (by omega)]
      exact .packed htf tf.mission.util.buffer data length
  · rw [hsent]
    exact ⟨hpacked, h.queue⟩

/-- SOURCE: osdlp_tm.c:367-413 -/
theorem Sends.transmitLoop (h : Sends m s) (dataIn : List UInt8) (length numPackets : ℕ)
    (remainingLen : ℕ) : Sends m (transmitLoop dataIn length numPackets remainingLen s).2 := by
  induction numPackets generalizing s remainingLen with
  | zero => exact ⟨h.channel.setUtil _, h.queue⟩
  | succ numPackets ih =>
    have hnext : OfChannel m (nextTmFrame s.tf length remainingLen) := h.channel
    have hpacked := hnext.packIntoUtil (dataIn.drop (length - remainingLen))
      (min s.tf.mission.maxDataLen remainingLen)
    have hsent := h.enqueue hnext (dataIn.drop (length - remainingLen))
      (min s.tf.mission.maxDataLen remainingLen)
    unfold Model.transmitLoop
    dsimp only at hsent ⊢
    generalize packIntoUtil (nextTmFrame s.tf length remainingLen) _ _ = packed at hpacked hsent ⊢
    split_ifs with hrefused
    · exact ⟨hpacked.setUtil _, hsent.queue⟩
    · exact ih hsent _

/-- The last frame of the queue, whatever is stuffed into it.
SOURCE: osdlp_tm.c:329-353 -/
theorem Sends.stuffLastFrame (h : Sends m s) {fuel : ℕ} {queueBack : Int} {dataIn : List UInt8}
    {length remainingLen : ℕ} {stuffed : ℕ × ℕ × TmSender}
    (hstuffed : stuffLastFrame getPacketLen fuel queueBack s dataIn length remainingLen =
      some stuffed) : Sends m stuffed.2.2 := by
  refine ⟨by rw [stuffLastFrame_tf hstuffed]; exact h.channel, ?_⟩
  unfold Model.stuffLastFrame at hstuffed
  dsimp only at hstuffed
  split_ifs at hstuffed
  all_goals
    obtain ⟨residueLen, -, htaken⟩ := Option.bind_eq_some_iff.mp hstuffed
    split_ifs at htaken
  all_goals obtain rfl := Option.some.inj htaken
  all_goals
    first
    | exact h.queue
    | intro item hitem
      rcases List.mem_append.mp hitem with hold | hnew
      · exact h.queue item (List.dropLast_subset _ hold)
      · rw [List.mem_singleton.mp hnew]
        exact .stuffed h.channel _ _ _ _ _

/-- SOURCE: osdlp_tm.c:306-414 -/
theorem Sends.transmit (h : Sends m s) {fuel : ℕ} {queueBack : Int} {dataIn : List UInt8}
    {length : ℕ} {out : Int × TmSender}
    (hsent : osdlpTmTransmit getPacketLen fuel queueBack s dataIn length = some out) :
    Sends m out.2 := by
  unfold osdlpTmTransmit at hsent
  dsimp only at hsent
  generalize (if s.tf.mission.util.loopState = .loopOpen then
    u16 (length - s.tf.mission.util.bufferedLength : ℤ) else length) = remainingLen at hsent
  split_ifs at hsent
  · obtain ⟨stuffed, hstuffed, hloop⟩ := Option.bind_eq_some_iff.mp hsent
    obtain rfl := Option.some.inj hloop
    exact (h.stuffLastFrame hstuffed).transmitLoop _ _ _ _
  · obtain rfl := Option.some.inj hsent
    exact h.transmitLoop _ _ _ _

/-- SOURCE: osdlp_tm.c:774-787 -/
theorem Sends.transmitIdleFdu (h : Sends m s) : Sends m (osdlpTmTransmitIdleFdu s).2 := by
  have hidle : OfChannel m
      { s.tf with primaryHdr := { s.tf.primaryHdr with firstHdrPtr := tmFirstHdrPtrOid } } :=
    h.channel
  have hsent := h.enqueue hidle [] 0
  unfold osdlpTmTransmitIdleFdu
  dsimp only at hsent ⊢
  split_ifs <;> exact hsent

/-- Every call leaves frames of the channel in the queue. -/
theorem Sends.step {s : TmStored} (h : Sends m s.tx) (call : TmSenderCall) :
    Sends m (tmSenderStep s call).tx := by
  cases call with
  | transmit getPacketLen fuel queueBack dataIn length =>
    cases hsent : tmTransmitStores getPacketLen fuel queueBack s.tx dataIn length.toNat with
    | none =>
      simp only [tmSenderStep, hsent]
      exact h
    | some sent =>
      have hvalue := @value_tmTransmitStores s.tx dataIn length.toNat getPacketLen fuel queueBack
      rw [hsent] at hvalue
      rw [tmSenderStep_transmit hsent]
      exact h.transmit hvalue.symm
  | transmitIdleFdu => exact h.transmitIdleFdu
  | dequeue => exact ⟨h.channel, fun item hitem => h.queue item (List.tail_subset _ hitem)⟩
  | abortSegmentation => exact ⟨h.channel.setUtil _, h.queue⟩
  | enablePacketStuffing | disablePacketStuffing => exact ⟨h.channel.setStuffing _, h.queue⟩

/-- Every frame that a sender queues is a frame of the channel, in every run.
SOURCE: osdlp_tm.c:203-220, 306-414, 774-787 -/
theorem run_written (tf : TmTransferFrame) (answers : List Int) (calls : List TmSenderCall) :
    ∀ item ∈ (run tmSenderStep (freshTmSender tf answers) calls).tx.queue,
      TmWritten tf.mission (region item 0 tf.mission.frameLen) := by
  have hfresh : Sends tf.mission (freshTmSender tf answers).tx := ⟨rfl, by simp [freshTmSender]⟩
  have hrun : Sends tf.mission (run tmSenderStep (freshTmSender tf answers) calls).tx :=
    run_inv (I := fun s : TmStored => Sends tf.mission s.tx) hfresh fun _ call _ h => h.step call
  exact hrun.queue

/-- Frames without a checksum. -/
def plainArgs : TmInitArgs := { sixteenArgs with crcFlag := false }

/-- An end of such a channel. -/
def plainEnd : TmTransferFrame := (osdlpTmInit default plainArgs).getD default

/-- A frame with one octet of data. -/
def octetFrame (tf : TmTransferFrame) : List UInt8 :=
  region (osdlpTmPack tf [] [1] 1).1 0 tf.mission.frameLen

theorem octetFrame_written (tf : TmTransferFrame) : TmWritten tf.mission (octetFrame tf) :=
  .packed rfl [] [1] 1

/-- The condition, for a receiver that has just been initialised. -/
theorem accepts_iff_octet :
    (osdlpTmReceive (fun _ _ => none) 1 0 { tf := plainEnd, delivered := [], answers := [] }
        (octetFrame plainEnd)).map Prod.fst ≠ some (-TmRxResult.wrongCrc.code) ↔
      plainArgs.crcFlag = true ∨
        plainEnd.crc = osdlpCalcCrc (octetFrame plainEnd) (plainArgs.frameSize.toNat - 2) :=
  @accepts_iff default plainEnd plainArgs rfl _ (octetFrame_written plainEnd) (fun _ _ => none) 1 0
    (Int.le_refl 0) { tf := plainEnd, delivered := [], answers := [] } rfl

/-- A receiver without checksums that has just been initialised rejects the first frame of its
peer. -/
theorem not_accepts_plain :
    osdlpTmInit default plainArgs = some plainEnd ∧
      TmWritten plainEnd.mission (octetFrame plainEnd) ∧
      (osdlpTmReceive (fun _ _ => none) 1 0 { tf := plainEnd, delivered := [], answers := [] }
        (octetFrame plainEnd)).map Prod.fst = some (-TmRxResult.wrongCrc.code) := by
  refine ⟨rfl, octetFrame_written plainEnd, ?_⟩
  decide +kernel

end Osdlp.Analysis
