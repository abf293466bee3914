import Osdlp.Analysis.Configurations
import Osdlp.Interface.TmOffers

/-!
# Frame counters without gaps

`osdlp_tm_transmit` advances the counters before it offers a frame, whether the queue takes it or
not, and `osdlp_tm_transmit_idle_fdu` does not advance them at all.  So the accepted frames are
numbered consecutively exactly if from one to the next one frame of `osdlp_tm_transmit` is built
(`gapFree_run_iff`).
-/

set_option autoImplicit false

namespace Osdlp.Analysis

open Osdlp.Model Osdlp.Interface Osdlp.Library

/-- A sender with the frames that it has offered to the queue. -/
structure TmOffering where
  tx : TmSender
  offers : List TmOffer

/-- The state after a call; one that does not come back leaves it. -/
def offeringStep (s : TmOffering) : TmSenderCall → TmOffering
  | .transmit getPacketLen fuel queueBack dataIn length =>
    match tmTransmitOffers getPacketLen fuel queueBack s.tx dataIn length.toNat with
    | none => s
    | some sent => { tx := sent.value.2, offers := s.offers ++ sent.log }
  | .transmitIdleFdu =>
    let sent := tmTransmitIdleFduOffers s.tx
    { tx := sent.value.2, offers := s.offers ++ sent.log }
  | .dequeue => { s with tx := { s.tx with queue := s.tx.queue.tail } }
  | .enablePacketStuffing => { s with tx := { s.tx with tf := osdlpEnablePacketStuffing s.tx.tf } }
  | .disablePacketStuffing => { s with tx := { s.tx with tf := osdlpDisablePacketStuffing s.tx.tf } }
  | .abortSegmentation => { s with tx := { s.tx with tf := osdlpAbortSegmentation s.tx.tf } }

/-- The octets with this index of the frames that the queue has taken. -/
def acceptedOctets (octet : ℕ) (offers : List TmOffer) : List UInt8 :=
  (offers.filter TmOffer.accepted).map fun o => o.frame.getD octet 0

/-- Both counters of the frames that the queue has taken are consecutive modulo 256. -/
structure GapFree (offers : List TmOffer) : Prop where
  master : (acceptedOctets 2 offers).IsChain fun x y => y = x + 1
  channel : (acceptedOctets 3 offers).IsChain fun x y => y = x + 1

/-- From one frame that the queue takes to the next, `osdlp_tm_transmit` has built one frame modulo
256, the latter included. -/
def OneBuiltApart (offers : List TmOffer) : Prop :=
  OneTickApart TmOffer.built TmOffer.accepted none offers

instance (offers : List TmOffer) : Decidable (OneBuiltApart offers) :=
  inferInstanceAs (Decidable (OneTickApart _ _ _ _))

/-- The counters of the frame structure are those in the offered frames. -/
theorem offersCounted_step {tf : TmTransferFrame} {s : TmOffering}
    (h : OffersCounted tf s.tx.tf s.offers) (call : TmSenderCall) :
    OffersCounted tf (offeringStep s call).tx.tf (offeringStep s call).offers := by
  cases call with
  | transmit getPacketLen fuel queueBack dataIn length =>
    unfold offeringStep
    dsimp only
    cases hsent : tmTransmitOffers getPacketLen fuel queueBack s.tx dataIn length.toNat with
    | none => exact h
    | some sent => exact h.trans (tmTransmitOffers_counted h.behind hsent)
  | transmitIdleFdu => exact h.trans (tmTransmitIdleFduOffers_counted h.behind)
  | dequeue => exact h
  | enablePacketStuffing | disablePacketStuffing | abortSegmentation =>
    exact ⟨⟨h.behind.headerLen, h.behind.frameLen⟩, h.master, h.channel⟩

/-- By induction on the calls. -/
theorem offersCounted_run {tf : TmTransferFrame} {s : TmOffering}
    (h : OffersCounted tf s.tx.tf s.offers) (calls : List TmSenderCall) :
    OffersCounted tf (run offeringStep s calls).tx.tf (run offeringStep s calls).offers :=
  run_inv (I := fun s : TmOffering => OffersCounted tf s.tx.tf s.offers) h fun _ call _ h =>
    offersCounted_step h call

/-- **Frame counters.**  In every run of an initialised channel, whatever the queue answers, the
frames that the queue takes are numbered without gaps and repetitions exactly if from one to the next
one frame of `osdlp_tm_transmit` is built.  SOURCE: osdlp_tm.c:366-414, 774-786 -/
theorem gapFree_run_iff {tf₀ tf : TmTransferFrame} {a : TmInitArgs}
    (h : osdlpTmInit tf₀ a = some tf) (queue : List (List UInt8)) (answers : List Int)
    (calls : List TmSenderCall) :
    let s := run offeringStep { tx := { tf := tf, queue, answers }, offers := [] } calls
    GapFree s.offers ↔ OneBuiltApart s.offers := by
  intro s
  have hstart : OffersCounted tf tf [] := ⟨osdlpTmInit_behindHeader h, rfl, rfl⟩
  have hrun : OffersCounted tf s.tx.tf s.offers := offersCounted_run hstart calls
  have hmaster := @isChain_readings_iff _ TmOffer.built TmOffer.accepted
    tf.primaryHdr.mcFrameCnt s.offers
  have hchannel := @isChain_readings_iff _ TmOffer.built TmOffer.accepted
    tf.primaryHdr.vcFrameCnt s.offers
  rw [← hrun.master.readings] at hmaster
  rw [← hrun.channel.readings] at hchannel
  exact ⟨fun hfree => hchannel.mp hfree.channel, fun hone => ⟨hmaster.mpr hone, hchannel.mpr hone⟩⟩

/-- A channel whose frames have sixteen octets of data, before it has sent anything. -/
def freshOffering (answers : List Int) : TmOffering :=
  { tx := { tf := (osdlpTmInit default sixteenArgs).getD default, queue := [], answers },
    offers := [] }

/-- A packet that fills the data field of a frame. -/
def fillingPacket : TmSenderCall :=
  .transmit (fun _ _ => some 16) 16 0 (List.replicate 16 1) 16

/-- Two packets that the queue takes: one frame is built from the first to the second. -/
theorem gapFree_run_iff_two_packets :
    let s := run offeringStep (freshOffering []) [fillingPacket, fillingPacket]
    acceptedOctets 2 s.offers = [1, 2] ∧ acceptedOctets 3 s.offers = [1, 2] ∧
      OneBuiltApart s.offers ∧ (GapFree s.offers ↔ OneBuiltApart s.offers) := by
  intro s
  refine ⟨?_, ?_, ?_, @gapFree_run_iff default _ sixteenArgs rfl [] [] _⟩
  · decide +kernel
  · decide +kernel
  · decide +kernel

/-- A packet is refused and sent again, and its number is that of the one before but two; an idle
frame has the number of the frame before it. -/
theorem not_gapFree_refused_idle :
    let refused := run offeringStep (freshOffering [0, -1, 0])
      [fillingPacket, fillingPacket, fillingPacket]
    let idle := run offeringStep (freshOffering []) [fillingPacket, .transmitIdleFdu]
    (acceptedOctets 3 refused.offers = [1, 3] ∧ ¬ GapFree refused.offers) ∧
      acceptedOctets 3 idle.offers = [1, 1] ∧ ¬ GapFree idle.offers := by
  intro refused idle
  have hrefused : acceptedOctets 3 refused.offers = [1, 3] := by decide +kernel
  have hidle : acceptedOctets 3 idle.offers = [1, 1] := by decide +kernel
  refine ⟨⟨hrefused, fun hfree => ?_⟩, hidle, fun hfree => ?_⟩
  · have hchannel := hfree.channel
    rw [hrefused, List.isChain_pair] at hchannel
    exact absurd hchannel (by decide)
  · have hchannel := hfree.channel
    rw [hidle, List.isChain_pair] at hchannel
    exact absurd hchannel (by decide)

end Osdlp.Analysis
