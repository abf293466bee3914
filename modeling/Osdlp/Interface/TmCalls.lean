import Osdlp.Interface.TmReceiving

/-!
# What a reception leaves behind

Whatever the frame is, a reception changes nothing of the frame structure behind the unpacking but
the utility buffer, and the length that it expects is one that the hook has answered
(`Reutilized`).
-/

set_option autoImplicit false

namespace Osdlp.Interface

open Osdlp.Model Osdlp.Library

/-- What the hook answers is an error, or the length of a packet that is not empty and fits into
the utility buffer. -/
def AnswersWithin (getPacketLen : GetPacketLen) (maxSduLen : ℕ) : Prop :=
  ∀ buf n length, getPacketLen buf n = some length → 1 ≤ length.toNat ∧ length.toNat ≤ maxSduLen

variable {getPacketLen : GetPacketLen} {bound fuel : ℕ} {m : TmMissionParams} {r r' : TmReceiver}

/-- Only the utility buffer and the queue change, and a packet that is expected fits.  A queue that
takes all it is offered goes on so. -/
structure Reutilized (bound : ℕ) (r r' : TmReceiver) : Prop where
  util : ∃ util, r'.tf = (r.setUtil util).tf ∧ util.expectedPktLen ≤ bound
  accepting : Accepting r.answers → Accepting r'.answers

theorem Reutilized.setUtil (r : TmReceiver) (util : TmUtilBuf)
    (hutil : util.expectedPktLen ≤ bound) : Reutilized bound r (r.setUtil util) :=
  ⟨⟨util, rfl, hutil⟩, id⟩

theorem Reutilized.refl (hexpected : r.tf.mission.util.expectedPktLen ≤ bound) :
    Reutilized bound r r := ⟨⟨r.tf.mission.util, rfl, hexpected⟩, id⟩

theorem Reutilized.trans {r'' : TmReceiver} (h : Reutilized bound r r')
    (h' : Reutilized bound r' r'') :
    Reutilized bound r r'' := by
  obtain ⟨util, htf, -⟩ := h.util
  obtain ⟨util', htf', hutil'⟩ := h'.util
  refine ⟨⟨util', ?_, hutil'⟩, fun hacc => h'.accepting (h.accepting hacc)⟩
  rw [htf']
  unfold TmReceiver.setUtil at htf ⊢
  rw [htf]

/-- The bound is one on the state that is left. -/
theorem Reutilized.expected (h : Reutilized bound r r') :
    r'.tf.mission.util.expectedPktLen ≤ bound := by
  obtain ⟨util, htf, hutil⟩ := h.util
  rw [htf]
  exact hutil

/-- A receiver that listens to a channel goes on listening to it. -/
theorem Reutilized.listens (h : Reutilized bound r r') (hlistens : Listens m r) : Listens m r' := by
  obtain ⟨util, htf, -⟩ := h.util
  have hlistens' := hlistens.setUtil util
  unfold Listens at hlistens'
  unfold Listens
  rw [htf]
  exact hlistens'

/-- The data field of the frame at hand stays where it is. -/
theorem Reutilized.data (h : Reutilized bound r r') : r'.tf.data = r.tf.data := by
  obtain ⟨util, htf, -⟩ := h.util
  rw [htf]
  rfl

/-- The data field keeps its length. -/
theorem Reutilized.maxDataLen (h : Reutilized bound r r') :
    r'.tf.mission.maxDataLen = r.tf.mission.maxDataLen := by
  obtain ⟨util, htf, -⟩ := h.util
  rw [htf]
  rfl

/-- The header keeps its pointer. -/
theorem Reutilized.primaryHdr (h : Reutilized bound r r') : r'.tf.primaryHdr = r.tf.primaryHdr := by
  obtain ⟨util, htf, -⟩ := h.util
  rw [htf]
  rfl

/-- A packet is offered to the queue, which answers. -/
theorem Reutilized.enqueue (r : TmReceiver) (util : TmUtilBuf)
    (hutil : util.expectedPktLen ≤ bound) :
    Reutilized bound r (osdlpTmRxQueueEnqueue (r.setUtil util)).2 := by
  obtain ⟨hdel, htf, -⟩ := osdlpTmRxQueueEnqueue_delivers (r.setUtil util)
  exact ⟨⟨util, htf, hutil⟩, fun hacc => (hdel.accepting hacc).1⟩

/-- The buffer is delivered, and the result depends on the answer only. -/
theorem Reutilized.deliver (r : TmReceiver) (util : TmUtilBuf)
    (hutil : util.expectedPktLen ≤ bound) : Reutilized bound r (deliverUtil r util).2 := by
  obtain ⟨hdel, htf⟩ := deliverUtil_delivers r util
  exact ⟨⟨_, htf, hutil⟩, fun hacc => (hdel.accepting hacc).1⟩

/-- SOURCE: osdlp_tm.c:461-484, 601-627 -/
theorem continuePacket_reutilized (hexpected : r.tf.mission.util.expectedPktLen ≤ bound)
    (usableLen : ℕ) :
    Reutilized bound r (continuePacket r usableLen).2 := by
  unfold continuePacket
  dsimp only
  split_ifs
  · exact .setUtil r _ hexpected
  · exact .deliver r _ hexpected
  · exact .setUtil r _ hexpected

/-- SOURCE: osdlp_tm.c:487-502 -/
theorem handleRxNoStuffing_reutilized (hexpected : r.tf.mission.util.expectedPktLen ≤ bound)
    (hanswers : AnswersWithin getPacketLen bound) :
    Reutilized bound r (handleRxNoStuffing getPacketLen r).2 := by
  unfold handleRxNoStuffing handleNsPtrZero handleNsPtrPositive
  dsimp only
  by_cases hzero : r.tf.primaryHdr.firstHdrPtr = 0
  · rw [if_pos hzero]
    cases hfound : getPacketLen r.tf.data r.tf.mission.maxDataLen with
    | none => exact .refl hexpected
    | some length =>
      obtain ⟨-, hlength⟩ := hanswers _ _ _ hfound
      dsimp only
      split_ifs
      · exact .setUtil r _ hlength
      · exact .deliver r _ hlength
  · rw [if_neg hzero]
    split_ifs
    · exact .refl hexpected
    · exact continuePacket_reutilized hexpected _

/-- Every round goes on behind the packet that it has found, so that there are no more rounds than
octets.
SOURCE: osdlp_tm.c:511-555, 682-726 -/
theorem explorePackets_reutilized (hanswers : AnswersWithin getPacketLen bound)
    (hsmall : m.maxDataLen < 65536) (fuel : ℕ) {bytesExplored : ℕ} {r : TmReceiver}
    (hlistens : Listens m r) (hfuel : m.maxDataLen < fuel + bytesExplored) (hpos : 0 < fuel) :
    ∃ result, explorePackets getPacketLen fuel bytesExplored r = some result ∧
      Reutilized bound r result.2 := by
  induction fuel generalizing bytesExplored r with
  | zero => exact absurd hpos (Nat.lt_irrefl 0)
  | succ fuel ih =>
    have hmax : r.tf.mission.maxDataLen = m.maxDataLen := by rw [hlistens]
    unfold explorePackets
    dsimp only
    split_ifs with hidle
    · exact ⟨_, rfl, .setUtil r _ (Nat.zero_le _)⟩
    · cases hfound : getPacketLen (r.tf.data.drop bytesExplored)
        (u16 (r.tf.mission.maxDataLen - bytesExplored : ℤ)) with
      | none => exact ⟨_, rfl, .setUtil r _ (Nat.zero_le _)⟩
      | some length =>
        obtain ⟨hlength, hsdu⟩ := hanswers _ _ _ hfound
        dsimp only
        rw [hmax]
        split_ifs with hover hdenied hend
        · exact ⟨_, rfl, .setUtil r _ hsdu⟩
        · exact ⟨_, rfl, .enqueue r _ (Nat.zero_le _)⟩
        · exact ⟨_, rfl, .enqueue r _ (Nat.zero_le _)⟩
        · have hnext : u16 (bytesExplored + length.toNat) = bytesExplored + length.toNat := by
            rw [← Nat.cast_add]
            exact u16_of_lt (by omega)
          rw [hnext] at hend ⊢
          have hsent : Reutilized bound r (osdlpTmRxQueueEnqueue _).2 :=
            .enqueue r
              { buffer := memWrite r.tf.mission.util.buffer 0
                  ((r.tf.data.drop bytesExplored).take length.toNat)
                loopState := .loopClosed
                bufferedLength := 0
                expectedPktLen := 0 } (Nat.zero_le _)
          obtain ⟨result, hresult, hkept⟩ := @ih (bytesExplored + length.toNat) _
            (hsent.listens hlistens) (by omega) (by omega)
          exact ⟨result, hresult, hsent.trans hkept⟩

/-- SOURCE: osdlp_tm.c:558-628 -/
theorem handleSPtrNopkt_reutilized (hexpected : r.tf.mission.util.expectedPktLen ≤ bound) :
    Reutilized bound r (handleSPtrNopkt getPacketLen r).2 := by
  unfold handleSPtrNopkt
  dsimp only
  split_ifs
  · exact .refl hexpected
  · cases getPacketLen (memWrite r.tf.mission.util.buffer r.tf.mission.util.bufferedLength
      (r.tf.data.take r.tf.mission.maxDataLen))
      (u16 (r.tf.mission.maxDataLen + r.tf.mission.util.bufferedLength)) with
    | none =>
      have hkept : Reutilized bound r (r.setUtil _) := .setUtil r
        { r.tf.mission.util with
          buffer := memWrite r.tf.mission.util.buffer r.tf.mission.util.bufferedLength
            (r.tf.data.take r.tf.mission.maxDataLen) } hexpected
      exact hkept.trans (continuePacket_reutilized hkept.expected _)
    | some length =>
      dsimp only
      split_ifs
      · exact .deliver r _ hexpected
      · exact .setUtil r _ hexpected
  · exact .setUtil r _ hexpected
  · exact continuePacket_reutilized hexpected _

/-- SOURCE: osdlp_tm.c:637-680 -/
theorem finishPacket_reutilized (getPacketLen : GetPacketLen)
    (hexpected : r.tf.mission.util.expectedPktLen ≤ bound) :
    Reutilized bound r (finishPacket getPacketLen r).2 := by
  unfold finishPacket
  dsimp only
  by_cases hclosed : r.tf.mission.util.loopState = .loopClosed
  · rw [if_pos hclosed]
    exact .refl hexpected
  · rw [if_neg hclosed]
    by_cases hexp : r.tf.mission.util.expectedPktLen = 0
    · rw [if_pos hexp]
      by_cases hroom : r.tf.mission.util.bufferedLength + r.tf.primaryHdr.firstHdrPtr.toNat <
          r.tf.mission.maxSduLen
      · rw [if_pos hroom]
        cases getPacketLen (memWrite r.tf.mission.util.buffer r.tf.mission.util.bufferedLength
          (r.tf.data.take r.tf.primaryHdr.firstHdrPtr.toNat))
          (u16 (r.tf.primaryHdr.firstHdrPtr.toNat + r.tf.mission.util.bufferedLength)) with
        | none => exact .setUtil r _ hexpected
        | some length =>
          dsimp only
          by_cases hends : r.tf.primaryHdr.firstHdrPtr.toNat + r.tf.mission.util.bufferedLength =
              length.toNat
          · rw [if_pos hends]
            exact .deliver r _ hexpected
          · rw [if_neg hends]
            exact .setUtil r _ (Nat.zero_le _)
      · rw [if_neg hroom]
        exact .refl hexpected
    · rw [if_neg hexp]
      by_cases hends : r.tf.primaryHdr.firstHdrPtr.toNat + r.tf.mission.util.bufferedLength =
          r.tf.mission.util.expectedPktLen
      · rw [if_pos hends]
        exact .deliver r _ hexpected
      · rw [if_neg hends]
        exact .refl hexpected

/-- SOURCE: osdlp_tm.c:729-746 -/
theorem handleRxStuffing_reutilized (hlistens : Listens m r)
    (hexpected : r.tf.mission.util.expectedPktLen ≤ bound)
    (hanswers : AnswersWithin getPacketLen bound) (hsmall : m.maxDataLen < 65536)
    (hfuel : m.maxDataLen < fuel) :
    ∃ result, handleRxStuffing getPacketLen fuel r = some result ∧ Reutilized bound r result.2 := by
  unfold handleRxStuffing handleSPtrZero handleSPtrPositive
  split_ifs
  · exact explorePackets_reutilized hanswers hsmall fuel hlistens (by omega) (by omega)
  · exact ⟨_, rfl, handleSPtrNopkt_reutilized hexpected⟩
  · have hkept := finishPacket_reutilized getPacketLen hexpected
    cases hfinished : finishPacket getPacketLen r with
    | mk finished r' =>
      rw [hfinished] at hkept
      cases finished with
      | some result => exact ⟨_, rfl, hkept⟩
      | none =>
        obtain ⟨result, hresult, hkept'⟩ := @explorePackets_reutilized _ _ _ hanswers hsmall
          fuel r'.tf.primaryHdr.firstHdrPtr.toNat r' (hkept.listens hlistens) (by omega) (by omega)
        exact ⟨result, hresult, hkept.trans hkept'⟩

/-! ## Refusals -/

/-- The packet that the frame continues ends at the pointer, and the receive queue refuses it. -/
def EndsRefused (getPacketLen : GetPacketLen) (r : TmReceiver) (ptr : ℕ) (data : List UInt8) :
    Prop :=
  let util := r.tf.mission.util
  util.loopState = .loopOpen ∧ (∃ ret rest, r.answers = ret :: rest ∧ ret < 0) ∧
    if util.expectedPktLen = 0 then
      util.bufferedLength + ptr < r.tf.mission.maxSduLen ∧
        ∃ length, getPacketLen (memWrite util.buffer util.bufferedLength (data.take ptr))
            (u16 (ptr + util.bufferedLength)) = some length ∧
          ptr + util.bufferedLength = length.toNat
    else ptr + util.bufferedLength = util.expectedPktLen

/-- SOURCE: osdlp_tm.c:470-478 -/
theorem deliverUtil_denied_iff (r : TmReceiver) (util : TmUtilBuf) :
    (deliverUtil r util).1 = .denied ↔ ∃ ret rest, r.answers = ret :: rest ∧ ret < 0 := by
  unfold deliverUtil osdlpTmRxQueueEnqueue TmReceiver.setUtil
  dsimp only
  cases r.answers with
  | nil => simp
  | cons ret rest =>
    by_cases hret : ret < 0
    · simp [hret]
    · simp [hret]

/-- SOURCE: osdlp_tm.c:637-680 -/
theorem finishPacket_isSome_iff (getPacketLen : GetPacketLen) (r : TmReceiver) :
    (finishPacket getPacketLen r).1.isSome ↔
      EndsRefused getPacketLen r r.tf.primaryHdr.firstHdrPtr.toNat r.tf.data := by
  have hdenied : ∀ util, (if (deliverUtil r util).1 = .denied then some TmRxResult.denied
      else none).isSome ↔ ∃ ret rest, r.answers = ret :: rest ∧ ret < 0 := by
    intro util
    rw [← deliverUtil_denied_iff r util]
    split <;> simp [*]
  unfold finishPacket EndsRefused
  dsimp only
  cases r.tf.mission.util.loopState with
  | loopClosed => simp
  | loopOpen =>
    rw [if_neg (by decide)]
    by_cases hexp : r.tf.mission.util.expectedPktLen = 0
    · rw [if_pos hexp, if_pos hexp]
      by_cases hroom : r.tf.mission.util.bufferedLength + r.tf.primaryHdr.firstHdrPtr.toNat <
          r.tf.mission.maxSduLen
      · rw [if_pos hroom]
        cases getPacketLen (memWrite r.tf.mission.util.buffer r.tf.mission.util.bufferedLength
            (r.tf.data.take r.tf.primaryHdr.firstHdrPtr.toNat))
            (u16 (r.tf.primaryHdr.firstHdrPtr.toNat + r.tf.mission.util.bufferedLength)) with
        | none => simp
        | some length =>
          dsimp only
          by_cases hends : r.tf.primaryHdr.firstHdrPtr.toNat + r.tf.mission.util.bufferedLength =
              length.toNat
          · rw [if_pos hends, hdenied]
            simp [hroom, hends]
          · rw [if_neg hends]
            simp [hends]
      · rw [if_neg hroom]
        simp [hroom]
    · rw [if_neg hexp, if_neg hexp]
      by_cases hends : r.tf.primaryHdr.firstHdrPtr.toNat + r.tf.mission.util.bufferedLength =
          r.tf.mission.util.expectedPktLen
      · rw [if_pos hends, hdenied]
        simp [hends]
      · rw [if_neg hends]
        simp [hends]

end Osdlp.Interface
