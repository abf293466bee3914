import Osdlp.Interface.TmFrame
import Osdlp.Library.Traced
import Osdlp.Model.TmTransmit

/-!
# The remainders that are stored as pointers

`osdlp_tm_transmit` once more, with every number of remaining octets logged that it stores as a
first header pointer.  The functions compute what those of the model do
(`value_tmTransmitStores`), and what they log is less than `max_data_len`
(`tmTransmitStores_bounded`).
-/

set_option autoImplicit false

namespace Osdlp.Interface

open Osdlp.Model Osdlp.Library

/-- SOURCE: osdlp_tm.c:371-380 -/
def storeFirstHdrPtr (m : TmMissionParams) (length remainingLen : ℕ) : Traced ℕ (BitVec 11) :=
  if length = remainingLen then pure 0
  else if remainingLen ≥ m.maxDataLen then pure tmFirstHdrPtrNoPktStart
  else ⟨BitVec.ofNat 11 remainingLen, [remainingLen]⟩

/-- SOURCE: osdlp_tm.c:367-413 -/
def transmitLoopStores (dataIn : List UInt8) (length : ℕ) :
    ℕ → ℕ → TmSender → Traced ℕ (Int × TmSender)
  | 0, _, s => pure (0, { s with tf := osdlpAbortSegmentation s.tf })
  | numPackets + 1, remainingLen, s => do
    let firstHdrPtr ← storeFirstHdrPtr s.tf.mission length remainingLen
    let bytesAvail := min s.tf.mission.maxDataLen remainingLen
    let next := nextTmFrame s.tf length remainingLen
    let tf := packIntoUtil
      { next with primaryHdr := { next.primaryHdr with firstHdrPtr := firstHdrPtr } }
      (dataIn.drop (length - remainingLen)) bytesAvail
    let sent := osdlpTmTxQueueEnqueue { s with tf := tf } tf.mission.util.buffer
    if sent.1 < 0 then
      pure (sent.1, { sent.2 with tf := { tf with mission := { tf.mission with util :=
        { tf.mission.util with
          loopState := .loopOpen
          bufferedLength := u16 (length - remainingLen : ℤ) } } } })
    else transmitLoopStores dataIn length numPackets (remainingLen - bytesAvail) sent.2

/-- SOURCE: osdlp_tm.c:306-414 -/
def tmTransmitStores (getPacketLen : GetPacketLen) (fuel : ℕ) (queueBack : Int) (s : TmSender)
    (dataIn : List UInt8) (length : ℕ) : Option (Traced ℕ (Int × TmSender)) := do
  let m := s.tf.mission
  let remainingLen :=
    if m.util.loopState = .loopOpen then u16 (length - m.util.bufferedLength : ℤ) else length
  if s.queue ≠ [] ∧ m.stuffState = .stuffingOn ∧ m.util.loopState = .loopClosed then
    let (numPackets, remainingLen, s) ←
      stuffLastFrame getPacketLen fuel queueBack s dataIn length remainingLen
    return transmitLoopStores dataIn length numPackets remainingLen s
  else return transmitLoopStores dataIn length (numPacketsFor m remainingLen) remainingLen s

variable {s s' : TmSender} {dataIn : List UInt8} {length remainingLen : ℕ}

/-! ## The values -/

/-- The pointer is the one of the model. -/
theorem value_storeFirstHdrPtr (m : TmMissionParams) (length remainingLen : ℕ) :
    (storeFirstHdrPtr m length remainingLen).value = nextFirstHdrPtr m length remainingLen := by
  unfold storeFirstHdrPtr nextFirstHdrPtr
  split_ifs <;> rfl

/-- The loop computes what it computes without the log. -/
theorem value_transmitLoopStores (numPackets : ℕ) :
    (transmitLoopStores dataIn length numPackets remainingLen s).value =
      transmitLoop dataIn length numPackets remainingLen s := by
  induction numPackets generalizing s remainingLen with
  | zero => rfl
  | succ numPackets ih =>
    simp only [transmitLoopStores, Traced.value_bind, value_storeFirstHdrPtr, Traced.value_ite,
      Traced.value_pure, ih]
    rfl

/-- The value is what the model computes. -/
theorem value_tmTransmitStores (getPacketLen : GetPacketLen) (fuel : ℕ) (queueBack : Int) :
    (tmTransmitStores getPacketLen fuel queueBack s dataIn length).map Traced.value =
      osdlpTmTransmit getPacketLen fuel queueBack s dataIn length := by
  unfold tmTransmitStores osdlpTmTransmit
  dsimp only
  generalize (if s.tf.mission.util.loopState = .loopOpen then
    u16 (length - s.tf.mission.util.bufferedLength : ℤ) else length) = remainingLen
  split_ifs with hstuff
  · cases stuffLastFrame getPacketLen fuel queueBack s dataIn length remainingLen with
    | none => rfl
    | some stuffed => exact congrArg some (value_transmitLoopStores _)
  · exact congrArg some (value_transmitLoopStores _)

/-! ## The remainders -/

/-- A call that leaves the length of the data field alone and logs what is less. -/
structure Bounded (s : TmSender) (sent : Traced ℕ (Int × TmSender)) : Prop where
  maxDataLen : sent.value.2.tf.mission.maxDataLen = s.tf.mission.maxDataLen
  stores : AllIn (fun n => n < s.tf.mission.maxDataLen) sent

/-- A number is only stored if it points into the data field. -/
theorem allIn_storeFirstHdrPtr (m : TmMissionParams) (length remainingLen : ℕ) :
    AllIn (fun n => n < m.maxDataLen) (storeFirstHdrPtr m length remainingLen) := by
  unfold storeFirstHdrPtr
  split_ifs with hfirst hmore
  · exact allIn_pure _ _
  · exact allIn_pure _ _
  · exact allIn_access.mpr (not_le.mp hmore)

/-- Packing does not change the layout of the frames. -/
theorem packIntoUtil_maxDataLen (tf : TmTransferFrame) (data : List UInt8) (length : ℕ) :
    (packIntoUtil tf data length).mission.maxDataLen = tf.mission.maxDataLen := by
  obtain ⟨crc, hpacked⟩ := packIntoUtil_eq tf data length
  rw [hpacked]

/-- Offering a frame changes nothing of the structure. -/
theorem osdlpTmTxQueueEnqueue_tf (s : TmSender) (pkt : List UInt8) :
    (osdlpTmTxQueueEnqueue s pkt).2.tf = s.tf := by
  unfold osdlpTmTxQueueEnqueue
  dsimp only
  split
  · rfl
  · split_ifs <;> rfl

/-- Stuffing rewrites the queue and nothing else. -/
theorem stuffLastFrame_tf {getPacketLen : GetPacketLen} {fuel : ℕ} {queueBack : Int}
    {stuffed : ℕ × ℕ × TmSender}
    (h : stuffLastFrame getPacketLen fuel queueBack s dataIn length remainingLen = some stuffed) :
    stuffed.2.2.tf = s.tf := by
  unfold stuffLastFrame at h
  dsimp only at h
  split_ifs at h
  all_goals
    obtain ⟨residueLen, -, hstuffed⟩ := Option.bind_eq_some_iff.mp h
    split_ifs at hstuffed
  all_goals
    obtain rfl := Option.some.inj hstuffed
    rfl

/-- Whatever is stored first. -/
theorem Bounded.after {α : Type} {m : Traced ℕ α} {f : α → Traced ℕ (Int × TmSender)}
    (hm : AllIn (fun n => n < s.tf.mission.maxDataLen) m) (h : Bounded s (f m.value)) :
    Bounded s (m >>= f) :=
  ⟨h.maxDataLen, allIn_bind.mpr ⟨hm, h.stores⟩⟩

/-- A round leaves the bound as it is. -/
theorem Bounded.of_eq {sent : Traced ℕ (Int × TmSender)} (h : Bounded s' sent)
    (heq : s'.tf.mission.maxDataLen = s.tf.mission.maxDataLen) : Bounded s sent := by
  refine ⟨h.maxDataLen.trans heq, ?_⟩
  rw [← heq]
  exact h.stores

/-- By induction on the frames to make. -/
theorem transmitLoopStores_bounded (numPackets : ℕ) :
    Bounded s (transmitLoopStores dataIn length numPackets remainingLen s) := by
  induction numPackets generalizing s remainingLen with
  | zero => exact ⟨rfl, allIn_pure _ _⟩
  | succ numPackets ih =>
    unfold transmitLoopStores
    refine .after (allIn_storeFirstHdrPtr s.tf.mission length remainingLen) ?_
    dsimp only
    split_ifs with hrefused
    · exact ⟨packIntoUtil_maxDataLen _ _ _, allIn_pure _ _⟩
    · refine ih.of_eq ?_
      rw [osdlpTmTxQueueEnqueue_tf]
      exact packIntoUtil_maxDataLen _ _ _

/-- What is stored as a pointer is less than `max_data_len`.
SOURCE: osdlp_tm.c:306-414 -/
theorem tmTransmitStores_bounded {getPacketLen : GetPacketLen} {fuel : ℕ} {queueBack : Int}
    {sent : Traced ℕ (Int × TmSender)}
    (h : tmTransmitStores getPacketLen fuel queueBack s dataIn length = some sent) :
    Bounded s sent := by
  unfold tmTransmitStores at h
  dsimp only at h
  generalize (if s.tf.mission.util.loopState = .loopOpen then
    u16 (length - s.tf.mission.util.bufferedLength : ℤ) else length) = remainingLen at h
  split_ifs at h with hstuff
  · cases hlast : stuffLastFrame getPacketLen fuel queueBack s dataIn length remainingLen with
    | none =>
      rw [hlast] at h
      exact absurd h (by simp)
    | some stuffed =>
      rw [hlast] at h
      obtain rfl := Option.some.inj h
      refine (transmitLoopStores_bounded stuffed.1).of_eq ?_
      rw [stuffLastFrame_tf hlast]
  · obtain rfl := Option.some.inj h
    exact transmitLoopStores_bounded _

end Osdlp.Interface
