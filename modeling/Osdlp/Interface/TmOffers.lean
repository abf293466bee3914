import Osdlp.Interface.TmStores
import Osdlp.Library.Tally

/-!
# The frames that are offered to the queue

`osdlp_tm_transmit` and `osdlp_tm_transmit_idle_fdu` once more, with every call of
`osdlp_tm_tx_queue_enqueue` logged: the frame, and whether the queue takes it.  The functions compute
what those of the model do (`value_tmTransmitOffers`), and the counters in the frames are those of
the frame structure (`tmTransmitOffers_counted`).
-/

set_option autoImplicit false

namespace Osdlp.Interface

open Osdlp.Model Osdlp.Library

/-- A frame that is offered to the queue; `built` tells those of `osdlp_tm_transmit` from idle
frames. -/
structure TmOffer where
  frame : List UInt8
  built : Bool
  accepted : Bool
  deriving DecidableEq

/-- A computation that offers frames to the queue. -/
abbrev TmOffers := Traced TmOffer

/-- `osdlp_tm_tx_queue_enqueue` -/
def offer (built : Bool) (s : TmSender) (pkt : List UInt8) : TmOffers (Int × TmSender) :=
  let sent := osdlpTmTxQueueEnqueue s pkt
  ⟨sent, [{ frame := region pkt 0 s.tf.mission.frameLen, built, accepted := 0 ≤ sent.1 }]⟩

/-- SOURCE: osdlp_tm.c:367-413 -/
def transmitLoopOffers (dataIn : List UInt8) (length : ℕ) :
    ℕ → ℕ → TmSender → TmOffers (Int × TmSender)
  | 0, _, s => pure (0, { s with tf := osdlpAbortSegmentation s.tf })
  | numPackets + 1, remainingLen, s => do
    let bytesAvail := min s.tf.mission.maxDataLen remainingLen
    let tf := packIntoUtil (nextTmFrame s.tf length remainingLen)
      (dataIn.drop (length - remainingLen)) bytesAvail
    let sent ← offer true { s with tf := tf } tf.mission.util.buffer
    if sent.1 < 0 then
      pure (sent.1, { sent.2 with tf := { tf with mission := { tf.mission with util :=
        { tf.mission.util with
          loopState := .loopOpen
          bufferedLength := u16 (length - remainingLen : ℤ) } } } })
    else transmitLoopOffers dataIn length numPackets (remainingLen - bytesAvail) sent.2

/-- SOURCE: osdlp_tm.c:306-414 -/
def tmTransmitOffers (getPacketLen : GetPacketLen) (fuel : ℕ) (queueBack : Int) (s : TmSender)
    (dataIn : List UInt8) (length : ℕ) : Option (TmOffers (Int × TmSender)) := do
  let m := s.tf.mission
  let remainingLen :=
    if m.util.loopState = .loopOpen then u16 (length - m.util.bufferedLength : ℤ) else length
  if s.queue ≠ [] ∧ m.stuffState = .stuffingOn ∧ m.util.loopState = .loopClosed then
    let (numPackets, remainingLen, s) ←
      stuffLastFrame getPacketLen fuel queueBack s dataIn length remainingLen
    return transmitLoopOffers dataIn length numPackets remainingLen s
  else return transmitLoopOffers dataIn length (numPacketsFor m remainingLen) remainingLen s

/-- SOURCE: osdlp_tm.c:774-787 -/
def tmTransmitIdleFduOffers (s : TmSender) : TmOffers (Int × TmSender) := do
  let hdr := { s.tf.primaryHdr with firstHdrPtr := tmFirstHdrPtrOid }
  let tf := packIntoUtil { s.tf with primaryHdr := hdr } [] 0
  let sent ← offer false { s with tf := tf } tf.mission.util.buffer
  if sent.1 < 0 then return sent else return (0, sent.2)

variable {s : TmSender} {dataIn : List UInt8} {length remainingLen : ℕ}

/-! ## The values -/

/-- The log changes nothing of the loop. -/
theorem value_transmitLoopOffers (numPackets : ℕ) :
    (transmitLoopOffers dataIn length numPackets remainingLen s).value =
      transmitLoop dataIn length numPackets remainingLen s := by
  induction numPackets generalizing s remainingLen with
  | zero => rfl
  | succ numPackets ih =>
    simp only [transmitLoopOffers, Traced.value_bind, Traced.value_ite, Traced.value_pure, ih]
    rfl

/-- The value is what the model computes. -/
theorem value_tmTransmitOffers (getPacketLen : GetPacketLen) (fuel : ℕ) (queueBack : Int) :
    (tmTransmitOffers getPacketLen fuel queueBack s dataIn length).map Traced.value =
      osdlpTmTransmit getPacketLen fuel queueBack s dataIn length := by
  unfold tmTransmitOffers osdlpTmTransmit
  dsimp only
  generalize (if s.tf.mission.util.loopState = .loopOpen then
    u16 (length - s.tf.mission.util.bufferedLength : ℤ) else length) = remainingLen
  split_ifs with hstuff
  · cases stuffLastFrame getPacketLen fuel queueBack s dataIn length remainingLen with
    | none => rfl
    | some stuffed => exact congrArg some (value_transmitLoopOffers _)
  · exact congrArg some (value_transmitLoopOffers _)

/-- The log changes nothing of an idle frame. -/
theorem value_tmTransmitIdleFduOffers (s : TmSender) :
    (tmTransmitIdleFduOffers s).value = osdlpTmTransmitIdleFdu s := by
  unfold tmTransmitIdleFduOffers osdlpTmTransmitIdleFdu
  simp only [Traced.value_bind, Traced.value_ite, Traced.value_pure]
  rfl

/-! ## The counters -/

/-- The frame has a checksum behind the primary header only, and the data behind it too. -/
structure BehindHeader (m : TmMissionParams) : Prop where
  headerLen : 6 ≤ m.headerLen
  frameLen : 7 ≤ m.frameLen

/-- `osdlp_tm_init` accepts no shorter frame. -/
theorem osdlpTmInit_behindHeader {tf₀ tf : TmTransferFrame} {a : TmInitArgs}
    (h : osdlpTmInit tf₀ a = some tf) : BehindHeader tf.mission := by
  rw [osdlpTmInit_mission h]
  constructor
  · show 6 ≤ a.occupiedHeader
    unfold TmInitArgs.occupiedHeader tmPrimaryHdrLen
    split_ifs <;> omega
  · show 7 ≤ a.frameSize.toNat
    unfold osdlpTmInit tmPrimaryHdrLen at h
    split_ifs at h
    all_goals omega

/-- What is written behind the primary header leaves it alone. -/
theorem getD_tmPackBody {tf : TmTransferFrame} (h : BehindHeader tf.mission)
    (pktOut dataIn : List UInt8) (length : ℕ) {i : ℕ} (hi : i < 6) :
    (tmPackBody tf pktOut dataIn length).getD i 0 = (tmHdrOctets tf.primaryHdr).getD i 0 := by
  have hheader := h.headerLen
  have hkeep : ∀ (c : Prop) [Decidable c] (buf src : List UInt8) (off : ℕ), 6 ≤ off →
      (if c then memWrite buf off src else buf).getD i 0 = buf.getD i 0 := by
    intro c _ buf src off hoff
    split_ifs
    · rw [getD_memWrite, if_neg (by omega)]
    · rfl
  unfold tmPackBody tmPackHeaders
  dsimp only
  rw [hkeep _ _ _ _ (by omega), hkeep _ _ _ _ (by omega), hkeep _ _ _ _ (by omega),
    hkeep _ _ _ _ (show 6 ≤ tmPrimaryHdrLen from le_refl 6), memWrite_zero, List.getD_append _ _ _ _ hi]

/-- The primary header of the frame that is queued. -/
theorem getD_packIntoUtil {tf : TmTransferFrame} (h : BehindHeader tf.mission)
    (data : List UInt8) (length : ℕ) {i : ℕ} (hi : i < 5) :
    (queuedFrame (packIntoUtil tf data length)).getD i 0 =
      (tmHdrOctets tf.primaryHdr).getD i 0 := by
  have hframe := h.frameLen
  obtain ⟨crc, hpacked⟩ := packIntoUtil_eq tf data length
  unfold queuedFrame
  rw [hpacked]
  show (region (packCrc tf.mission _) 0 tf.mission.frameLen).getD i 0 = _
  rw [getD_region _ _ _ _ (by omega), Nat.zero_add, getD_packCrc _ fun _ => .inl (by omega),
    getD_tmPackBody h _ _ _ (by omega)]

/-- Frame by frame, the octet is the counter, which frames of `osdlp_tm_transmit` advance. -/
def Counts (octet : ℕ) (c : UInt8) : List TmOffer → UInt8 → Prop
  | [], c' => c' = c
  | o :: os, c' =>
    o.frame.getD octet 0 = ticked TmOffer.built c o ∧
      Counts octet (ticked TmOffer.built c o) os c'

/-- The count goes on where the first stretch has left it. -/
theorem Counts.append {octet : ℕ} {c c' c'' : UInt8} {os os' : List TmOffer}
    (h : Counts octet c os c') (h' : Counts octet c' os' c'') :
    Counts octet c (os ++ os') c'' := by
  induction os generalizing c with
  | nil =>
    obtain rfl := h
    exact h'
  | cons o os ih => exact ⟨h.1, ih h.2⟩

/-- What the accepted frames show is what is read of the counter. -/
theorem Counts.readings {octet : ℕ} {c c' : UInt8} {os : List TmOffer}
    (h : Counts octet c os c') :
    (os.filter TmOffer.accepted).map (fun o => o.frame.getD octet 0) =
      readings TmOffer.built TmOffer.accepted c os := by
  induction os generalizing c with
  | nil => rfl
  | cons o os ih =>
    obtain ⟨hoctet, hrest⟩ := h
    unfold Library.readings
    rw [List.filter_cons]
    split_ifs
    · rw [List.map_cons, hoctet, ih hrest]
    · exact ih hrest

/-- From `tf` to `tf'`, the counters of the frame structure are those in the offered frames. -/
structure OffersCounted (tf tf' : TmTransferFrame) (offers : List TmOffer) : Prop where
  behind : BehindHeader tf'.mission
  master : Counts 2 tf.primaryHdr.mcFrameCnt offers tf'.primaryHdr.mcFrameCnt
  channel : Counts 3 tf.primaryHdr.vcFrameCnt offers tf'.primaryHdr.vcFrameCnt

theorem OffersCounted.trans {tf tf' tf'' : TmTransferFrame} {os os' : List TmOffer}
    (h : OffersCounted tf tf' os) (h' : OffersCounted tf' tf'' os') :
    OffersCounted tf tf'' (os ++ os') :=
  ⟨h'.behind, h.master.append h'.master, h.channel.append h'.channel⟩

/-- The source writes the sum modulo 256 as a case distinction. -/
theorem nextCount (c : UInt8) : (if c < 255 then c + 1 else 0) = c + 1 := by
  split_ifs with hlt
  · rfl
  · have htop : c = 255 := by
      have := c.toNat_lt
      rw [UInt8.not_lt, UInt8.le_iff_toNat_le] at hlt
      apply UInt8.toNat_inj.mp
      show c.toNat = 255
      have : (255 : UInt8).toNat = 255 := rfl
      omega
    rw [htop]
    rfl

/-- Packing leaves the counters. -/
theorem packIntoUtil_primaryHdr (tf : TmTransferFrame) (data : List UInt8) (length : ℕ) :
    (packIntoUtil tf data length).primaryHdr = tf.primaryHdr := by
  obtain ⟨crc, hpacked⟩ := packIntoUtil_eq tf data length
  rw [hpacked]

/-- Packing leaves the layout. -/
theorem BehindHeader.packIntoUtil {tf : TmTransferFrame} (h : BehindHeader tf.mission)
    (data : List UInt8) (length : ℕ) : BehindHeader (packIntoUtil tf data length).mission := by
  obtain ⟨crc, hpacked⟩ := packIntoUtil_eq tf data length
  rw [hpacked]
  exact ⟨h.headerLen, h.frameLen⟩

/-- A frame that is packed and offered shows the counters of its frame structure. -/
theorem offer_octets {tf : TmTransferFrame} (h : BehindHeader tf.mission) (built : Bool)
    (s : TmSender) (data : List UInt8) (length : ℕ) :
    ∃ o, (offer built { s with tf := packIntoUtil tf data length }
          (packIntoUtil tf data length).mission.util.buffer).log = [o] ∧ o.built = built ∧
      o.frame.getD 2 0 = tf.primaryHdr.mcFrameCnt ∧
      o.frame.getD 3 0 = tf.primaryHdr.vcFrameCnt := by
  refine ⟨_, rfl, rfl, ?_, ?_⟩
  · exact getD_packIntoUtil h data length (by decide)
  · exact getD_packIntoUtil h data length (by decide)

/-- SOURCE: osdlp_tm.c:367-413 -/
theorem transmitLoopOffers_counted (numPackets : ℕ) (h : BehindHeader s.tf.mission) :
    OffersCounted s.tf (transmitLoopOffers dataIn length numPackets remainingLen s).value.2.tf
      (transmitLoopOffers dataIn length numPackets remainingLen s).log := by
  induction numPackets generalizing s remainingLen with
  | zero => exact ⟨⟨h.headerLen, h.frameLen⟩, rfl, rfl⟩
  | succ numPackets ih =>
    let next := nextTmFrame s.tf length remainingLen
    let data := dataIn.drop (length - remainingLen)
    let bytesAvail := min s.tf.mission.maxDataLen remainingLen
    let tf := packIntoUtil next data bytesAvail
    have hnext : BehindHeader next.mission := ⟨h.headerLen, h.frameLen⟩
    obtain ⟨o, hlog, hbuilt, hmaster, hchannel⟩ := offer_octets hnext true s data bytesAvail
    have hticks : ∀ c : UInt8, ticked TmOffer.built c o = if c < 255 then c + 1 else 0 := by
      intro c
      rw [nextCount]
      exact if_pos hbuilt
    have hround : ∀ tf', tf'.primaryHdr = tf.primaryHdr → BehindHeader tf'.mission →
        OffersCounted s.tf tf' [o] := by
      intro tf' hsame hbehind
      rw [packIntoUtil_primaryHdr] at hsame
      refine ⟨hbehind, ⟨?_, ?_⟩, ⟨?_, ?_⟩⟩
      · rw [hmaster, hticks]
        rfl
      · rw [hsame, hticks]
        rfl
      · rw [hchannel, hticks]
        rfl
      · rw [hsame, hticks]
        rfl
    have hsent : (offer true { s with tf := tf } tf.mission.util.buffer).value.2.tf = tf :=
      osdlpTmTxQueueEnqueue_tf _ _
    have htf : BehindHeader tf.mission := hnext.packIntoUtil data bytesAvail
    unfold transmitLoopOffers
    simp only [Traced.value_bind, Traced.log_bind]
    rw [hlog]
    split_ifs with hrefused
    · rw [Traced.log_pure, List.append_nil]
      exact hround _ rfl ⟨htf.headerLen, htf.frameLen⟩
    · refine (hround _ (congrArg _ hsent) ?_).trans (ih ?_)
      · rw [hsent]
        exact htf
      · rw [hsent]
        exact htf

/-- SOURCE: osdlp_tm.c:306-414 -/
theorem tmTransmitOffers_counted {getPacketLen : GetPacketLen} {fuel : ℕ} {queueBack : Int}
    {sent : TmOffers (Int × TmSender)} (h : BehindHeader s.tf.mission)
    (hsent : tmTransmitOffers getPacketLen fuel queueBack s dataIn length = some sent) :
    OffersCounted s.tf sent.value.2.tf sent.log := by
  unfold tmTransmitOffers at hsent
  dsimp only at hsent
  split_ifs at hsent
  all_goals
    first
    | obtain rfl := Option.some.inj hsent
      exact transmitLoopOffers_counted _ h
    | obtain ⟨stuffed, hstuffed, hrest⟩ := Option.bind_eq_some_iff.mp hsent
      obtain rfl := Option.some.inj hrest
      have htf := stuffLastFrame_tf hstuffed
      have hbehind : BehindHeader stuffed.2.2.tf.mission := by
        rw [htf]
        exact h
      have hcounted := @transmitLoopOffers_counted stuffed.2.2 dataIn length stuffed.2.1 stuffed.1
        hbehind
      rw [htf] at hcounted
      exact hcounted

/-- SOURCE: osdlp_tm.c:774-787 -/
theorem tmTransmitIdleFduOffers_counted (h : BehindHeader s.tf.mission) :
    OffersCounted s.tf (tmTransmitIdleFduOffers s).value.2.tf (tmTransmitIdleFduOffers s).log := by
  let hdr := { s.tf.primaryHdr with firstHdrPtr := tmFirstHdrPtrOid }
  let tf := packIntoUtil { s.tf with primaryHdr := hdr } [] 0
  have hidle : BehindHeader ({ s.tf with primaryHdr := hdr } : TmTransferFrame).mission := h
  obtain ⟨o, hlog, hbuilt, hmaster, hchannel⟩ := offer_octets hidle false s [] 0
  have hsent : (offer false { s with tf := tf } tf.mission.util.buffer).value.2.tf = tf :=
    osdlpTmTxQueueEnqueue_tf _ _
  have hticks : ∀ c : UInt8, ticked TmOffer.built c o = c := by
    intro c
    exact if_neg (by rw [hbuilt]; decide)
  have hround : OffersCounted s.tf tf [o] := by
    refine ⟨hidle.packIntoUtil [] 0, ⟨?_, ?_⟩, ⟨?_, ?_⟩⟩
    · rw [hmaster, hticks]
    · rw [packIntoUtil_primaryHdr, hticks]
      rfl
    · rw [hchannel, hticks]
    · rw [packIntoUtil_primaryHdr, hticks]
      rfl
  unfold tmTransmitIdleFduOffers
  simp only [Traced.value_bind, Traced.log_bind, Traced.value_ite]
  rw [hlog]
  split_ifs
  · rw [Traced.log_pure, List.append_nil, Traced.value_pure, hsent]
    exact hround
  · rw [Traced.log_pure, List.append_nil, Traced.value_pure, hsent]
    exact hround

end Osdlp.Interface
