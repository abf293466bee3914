import Osdlp.Analysis.FrameCounters
import Mathlib.Logic.Function.Basic

/-!
# The frame counter of the master channel

All virtual channels of a spacecraft point to one master channel counter, which every call reads and
writes back, and each channel has a counter of its own.  Whatever the order of the calls, the counter
in the frames counts the frames of `osdlp_tm_transmit` on all channels together, and the other one
those on its channel (`masterGapFree_run_iff`).
-/

set_option autoImplicit false

namespace Osdlp.Analysis

open Osdlp.Model Osdlp.Interface Osdlp.Library

/-- The frame structure reads the counter that is shared.
SOURCE: osdlp_tm.h:112, osdlp_tm.c:51 -/
def readMaster (mcCount : UInt8) (tf : TmTransferFrame) : TmTransferFrame :=
  { tf with primaryHdr := { tf.primaryHdr with mcFrameCnt := mcCount } }

/-- The senders of the virtual channels, the counter that they share, and the frames that they have
offered to their queues. -/
structure MasterChannel (ι : Type) where
  mcCount : UInt8
  senders : ι → TmSender
  offers : List (ι × TmOffer)

variable {ι : Type} [DecidableEq ι]

/-- A call on one of the channels. -/
def masterStep (s : MasterChannel ι) (event : ι × TmSenderCall) : MasterChannel ι :=
  let tx := s.senders event.1
  let sent := offeringStep { tx := { tx with tf := readMaster s.mcCount tx.tf }, offers := [] } event.2
  { mcCount := sent.tx.tf.primaryHdr.mcFrameCnt
    senders := Function.update s.senders event.1 sent.tx
    offers := s.offers ++ sent.offers.map (Prod.mk event.1) }

/-- The frames that a channel has offered. -/
def offersOn (channel : ι) (offers : List (ι × TmOffer)) : List TmOffer :=
  (offers.filter fun o => o.1 = channel).map Prod.snd

@[simp] theorem offersOn_nil (channel : ι) : offersOn channel [] = [] := rfl

theorem offersOn_append (channel : ι) (offers offers' : List (ι × TmOffer)) :
    offersOn channel (offers ++ offers') = offersOn channel offers ++ offersOn channel offers' := by
  unfold offersOn
  rw [List.filter_append, List.map_append]

/-- All offers of a call are on its channel. -/
theorem offersOn_mk (channel : ι) (offers : List TmOffer) :
    offersOn channel (offers.map (Prod.mk channel)) = offers := by
  unfold offersOn
  rw [List.filter_eq_self.mpr (by simp), List.map_map]
  exact List.map_id _

/-- No offer of a call is on another channel. -/
theorem offersOn_mk_of_ne {channel other : ι} (h : channel ≠ other) (offers : List TmOffer) :
    offersOn other (offers.map (Prod.mk channel)) = [] := by
  unfold offersOn
  rw [List.filter_eq_nil_iff.mpr (by simp [h])]
  rfl

/-- The counters in the offered frames are the one that is shared and those of the channels. -/
structure MasterCounted (c : UInt8) (cs : ι → UInt8) (s : MasterChannel ι) : Prop where
  behind : ∀ channel, BehindHeader (s.senders channel).tf.mission
  master : Counts 2 c (s.offers.map Prod.snd) s.mcCount
  channel : ∀ channel, Counts 3 (cs channel) (offersOn channel s.offers)
    (s.senders channel).tf.primaryHdr.vcFrameCnt

/-- A call reads the shared counter, counts on, and writes it back. -/
theorem masterCounted_step {c : UInt8} {cs : ι → UInt8} {s : MasterChannel ι}
    (h : MasterCounted c cs s) (event : ι × TmSenderCall) :
    MasterCounted c cs (masterStep s event) := by
  obtain ⟨channel, call⟩ := event
  have hsent : OffersCounted (readMaster s.mcCount (s.senders channel).tf) _ _ :=
    offersCounted_step (s := { tx := { s.senders channel with
      tf := readMaster s.mcCount (s.senders channel).tf }, offers := [] })
      ⟨h.behind channel, rfl, rfl⟩ call
  refine ⟨fun other => ?_, ?_, fun other => ?_⟩
  · show BehindHeader (Function.update s.senders channel _ other).tf.mission
    by_cases hsame : other = channel
    · subst hsame
      rw [Function.update_self]
      exact hsent.behind
    · rw [Function.update_of_ne hsame]
      exact h.behind other
  · show Counts 2 c ((s.offers ++ _).map Prod.snd) _
    rw [List.map_append, List.map_map]
    refine h.master.append ?_
    rw [show (Prod.snd ∘ Prod.mk channel : TmOffer → TmOffer) = id from rfl, List.map_id]
    exact hsent.master
  · show Counts 3 (cs other) (offersOn other (s.offers ++ _))
      (Function.update s.senders channel _ other).tf.primaryHdr.vcFrameCnt
    rw [offersOn_append]
    by_cases hsame : other = channel
    · subst hsame
      rw [Function.update_self, offersOn_mk]
      exact (h.channel other).append hsent.channel
    · rw [Function.update_of_ne hsame, offersOn_mk_of_ne (Ne.symm hsame), List.append_nil]
      exact h.channel other

/-- What the accepted frames show is consecutive exactly if from one of them to the next one frame
of `osdlp_tm_transmit` is built. -/
theorem isChain_acceptedOctets_iff {octet : ℕ} {c c' : UInt8} {offers : List TmOffer}
    (h : Counts octet c offers c') :
    (acceptedOctets octet offers).IsChain (fun x y => y = x + 1) ↔ OneBuiltApart offers := by
  unfold acceptedOctets OneBuiltApart
  rw [h.readings]
  exact isChain_readings_iff c offers

/-- **The counters of a master channel.**  In every run of calls on initialised channels that share
the counter, in any order and whatever the queues answer, the master channel counts of the accepted
frames are consecutive exactly if among the frames of all channels one is built by
`osdlp_tm_transmit` from each to the next, and the virtual channel counts of a channel exactly if
that holds among its frames.  SOURCE: osdlp_tm.c:24-56, 366-414, 774-786; osdlp_tm.h:112, 173-174 -/
theorem masterGapFree_run_iff {tf₀ tf : ι → TmTransferFrame} {a : ι → TmInitArgs}
    (h : ∀ channel, osdlpTmInit (tf₀ channel) (a channel) = some (tf channel))
    (mcCount : UInt8) (queues : ι → List (List UInt8)) (answers : ι → List Int)
    (calls : List (ι × TmSenderCall)) :
    let s := run masterStep
      { mcCount
        senders := fun channel =>
          { tf := tf channel, queue := queues channel, answers := answers channel }
        offers := [] } calls
    ((acceptedOctets 2 (s.offers.map Prod.snd)).IsChain (fun x y => y = x + 1) ↔
        OneBuiltApart (s.offers.map Prod.snd)) ∧
      ∀ channel, (acceptedOctets 3 (offersOn channel s.offers)).IsChain (fun x y => y = x + 1) ↔
        OneBuiltApart (offersOn channel s.offers) := by
  intro s
  have hrun : MasterCounted mcCount (fun channel => (tf channel).primaryHdr.vcFrameCnt) s :=
    run_inv ⟨fun channel => osdlpTmInit_behindHeader (h channel), rfl, fun _ => rfl⟩
      fun _ event _ hcounted => masterCounted_step hcounted event
  exact ⟨isChain_acceptedOctets_iff hrun.master,
    fun channel => isChain_acceptedOctets_iff (hrun.channel channel)⟩

/-- Two channels in turn: three frames count from 7 on, two of them are the first and the second of
their channel. -/
theorem masterGapFree_run_iff_two_channels :
    let s := run masterStep
      { mcCount := 7
        senders := fun _ : Bool =>
          { tf := (osdlpTmInit default sixteenArgs).getD default, queue := [], answers := [] }
        offers := [] } [(false, fillingPacket), (true, fillingPacket), (false, fillingPacket)]
    acceptedOctets 2 (s.offers.map Prod.snd) = [8, 9, 10] ∧
      acceptedOctets 3 (offersOn false s.offers) = [1, 2] ∧
      acceptedOctets 3 (offersOn true s.offers) = [1] ∧
      ((acceptedOctets 2 (s.offers.map Prod.snd)).IsChain (fun x y => y = x + 1) ↔
        OneBuiltApart (s.offers.map Prod.snd)) ∧
      ∀ channel, (acceptedOctets 3 (offersOn channel s.offers)).IsChain (fun x y => y = x + 1) ↔
        OneBuiltApart (offersOn channel s.offers) := by
  intro s
  refine ⟨?_, ?_, ?_, @masterGapFree_run_iff Bool _ (fun _ => default) _ (fun _ => sixteenArgs)
    (fun _ => rfl) 7 (fun _ => []) (fun _ => []) _⟩
  · decide +kernel
  · decide +kernel
  · decide +kernel

end Osdlp.Analysis
