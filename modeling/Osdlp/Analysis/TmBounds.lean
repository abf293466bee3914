import Osdlp.Interface.TmAccess
import Osdlp.Interface.TmCalls
import Osdlp.Analysis.TmExtraction
import Osdlp.Library.Run

/-!
# What reception touches of a telemetry frame

The first header pointer of a frame is any number of eleven bits, and `osdlp_tm_receive` takes it
for an offset in the data field without a look at how long that is; the OCF flag of a frame makes
`osdlp_tm_unpack` read four octets behind the data field whether the configuration has an OCF or
not.  In a run of receptions every access stays within its buffer exactly if every frame points
inside (`accessesInside_run_iff`).
-/

set_option autoImplicit false

namespace Osdlp.Analysis

open Osdlp.Model Osdlp.Interface Osdlp.Library

/-! ## The property and the condition -/

/-- Every access of the call stays within its buffer, however many packets it explores. -/
def AccessesInside (getPacketLen : GetPacketLen) (r : TmReceiver) (frame : List UInt8) : Prop :=
  ∀ fuel, AllIn (TmAccess.Inside r.tf.mission) (tmReceiveAccess getPacketLen fuel 0 r frame)

/-- The OCF of the frame, if it has one, lies in the frame, and a first header pointer that is an
offset points into the data field.  Without stuffing it may point to its end, or nothing is
copied; with stuffing it may do so if the call ends before it looks there. -/
structure PointsInside (getPacketLen : GetPacketLen) (r : TmReceiver) (frame : List UInt8) :
    Prop where
  ocf : (tmUnpackHdr frame).ocf = true →
    r.tf.mission.headerLen + r.tf.mission.maxDataLen + 4 ≤ r.tf.mission.frameLen
  pointer : tmFirstHdrPtr frame ≠ tmFirstHdrPtrOid →
    tmFirstHdrPtr frame ≠ tmFirstHdrPtrNoPktStart →
    let ptr := (tmFirstHdrPtr frame).toNat
    let util := r.tf.mission.util
    match r.tf.mission.stuffState with
    | .stuffingOff =>
      ptr ≤ r.tf.mission.maxDataLen ∨ util.loopState = .loopClosed ∨
        util.bufferedLength + ptr > r.tf.mission.maxSduLen
    | .stuffingOn =>
      ptr < r.tf.mission.maxDataLen ∨
        0 < ptr ∧ ptr = r.tf.mission.maxDataLen ∧
          EndsRefused getPacketLen r ptr (frame.drop r.tf.mission.headerLen)

/-- The configuration leaves room for the checksum and for the OCF that it has, and a data field
fits into the utility buffer. -/
structure RxFits (m : TmMissionParams) : Prop where
  crc : m.crcPresent = true
  header : 6 ≤ m.headerLen
  frame : m.headerLen + m.maxDataLen + 2 ≤ m.frameLen
  data : m.maxDataLen ≤ m.maxSduLen
  sdu : m.maxSduLen < 65536

/-- A receiver with the mission `m` that expects no longer packet than the buffer holds. -/
structure Settled (m : TmMissionParams) (r : TmReceiver) : Prop where
  listens : Listens m r
  expected : r.tf.mission.util.expectedPktLen ≤ m.maxSduLen

variable {getPacketLen : GetPacketLen} {m : TmMissionParams} {r r' : TmReceiver} {fuel : ℕ}
  {frame : List UInt8}

/-! ## Single accesses -/

/-- An access lies inside if its length is not negative and both its ends do. -/
theorem inside_iff (m : TmMissionParams) (region : TmRegion) (start count : ℤ) :
    (TmAccess.mk region ⟨start, count⟩).Inside m ↔
      0 ≤ count ∧ (count ≤ 0 ∨ 0 ≤ start ∧ start + count ≤ region.size m) := by
  unfold TmAccess.Inside
  rw [Span.inside_iff]

/-- A copy reads the data field and writes the utility buffer. -/
theorem allIn_copyOctets (r : TmReceiver) (src dst taken : ℕ) (count : ℤ) :
    AllIn (TmAccess.Inside m) (copyOctets r src dst taken count) ↔
      0 ≤ count ∧ (count ≤ 0 ∨ src + count ≤ m.maxDataLen ∧ dst + count ≤ m.maxSduLen) := by
  unfold AllIn copyOctets
  simp only [List.forall_mem_cons, List.not_mem_nil, false_imp_iff, implies_true, and_true,
    inside_iff, TmRegion.size]
  omega

/-- The hook reads the data field. -/
theorem allIn_searchData (r : TmReceiver) (src memLen : ℕ) (count : ℤ) :
    AllIn (TmAccess.Inside m) (searchData getPacketLen r src memLen count) ↔
      0 ≤ count ∧ (count ≤ 0 ∨ src + count ≤ m.maxDataLen) := by
  unfold searchData
  rw [allIn_access, inside_iff, TmRegion.size]
  omega

/-- The hook reads the utility buffer. -/
theorem allIn_searchBuffer (buffer : List UInt8) (count : ℕ) :
    AllIn (TmAccess.Inside m) (searchBuffer getPacketLen buffer count) ↔ count ≤ m.maxSduLen := by
  unfold searchBuffer
  rw [allIn_access, inside_iff, TmRegion.size]
  omega

/-- An octet of the frame is read. -/
theorem allIn_readFrame (pktIn : List UInt8) (i : ℕ) :
    AllIn (TmAccess.Inside m) (readFrame pktIn i) ↔ i < m.frameLen := by
  unfold readFrame
  rw [allIn_access, inside_iff, TmRegion.size]
  omega

/-! ## Stuffing off -/

/-- SOURCE: osdlp_tm.c:416-445 -/
theorem allIn_handleNsPtrZeroAccess (hfits : RxFits m) (hlistens : Listens m r) :
    AllIn (TmAccess.Inside m) (handleNsPtrZeroAccess getPacketLen r) := by
  have hmax : r.tf.mission.maxDataLen = m.maxDataLen := by rw [hlistens]
  have hdata := hfits.data
  unfold handleNsPtrZeroAccess
  dsimp only
  rw [allIn_bind, allIn_searchData]
  refine ⟨by omega, ?_⟩
  cases (searchData getPacketLen r 0 r.tf.mission.maxDataLen r.tf.mission.maxDataLen).value with
  | none => exact allIn_pure _ _
  | some length =>
    dsimp only
    simp only [allIn_ite, allIn_bind, allIn_pure, allIn_copyOctets, and_true]
    omega

/-- SOURCE: osdlp_tm.c:461-484, 601-627 -/
theorem allIn_continuePacketAccess (hlistens : Listens m r) (usableLen : ℕ) :
    AllIn (TmAccess.Inside m) (continuePacketAccess r usableLen) ↔
      (r.tf.mission.util.bufferedLength + usableLen ≤ m.maxSduLen → usableLen ≤ m.maxDataLen) := by
  have hsdu : r.tf.mission.maxSduLen = m.maxSduLen := by rw [hlistens]
  unfold continuePacketAccess
  simp only [allIn_ite, allIn_bind, allIn_pure, allIn_copyOctets, implies_true, and_true, true_and,
    and_self, hsdu]
  omega

/-- SOURCE: osdlp_tm.c:416-502 -/
theorem allIn_handleRxNoStuffingAccess (hfits : RxFits m) (hlistens : Listens m r) :
    AllIn (TmAccess.Inside m) (handleRxNoStuffingAccess getPacketLen r) ↔
      (r.tf.primaryHdr.firstHdrPtr ≠ tmFirstHdrPtrNoPktStart →
        r.tf.primaryHdr.firstHdrPtr.toNat ≤ m.maxDataLen ∨
          r.tf.mission.util.loopState = .loopClosed ∨
          r.tf.mission.util.bufferedLength + r.tf.primaryHdr.firstHdrPtr.toNat > m.maxSduLen) := by
  have hmax : r.tf.mission.maxDataLen = m.maxDataLen := by rw [hlistens]
  unfold handleRxNoStuffingAccess handleNsPtrPositiveAccess usableLen
  simp only [allIn_ite, allIn_pure, allIn_handleNsPtrZeroAccess hfits hlistens,
    allIn_continuePacketAccess hlistens, implies_true, true_and, hmax]
  by_cases hzero : r.tf.primaryHdr.firstHdrPtr = 0
  · simp [hzero]
  · by_cases hnone : r.tf.primaryHdr.firstHdrPtr = tmFirstHdrPtrNoPktStart
    · simp [hnone]
    · rw [if_neg hnone]
      constructor
      · intro h _
        by_cases hclosed : r.tf.mission.util.loopState = .loopClosed
        · exact .inr (.inl hclosed)
        · have := h hzero hclosed
          omega
      · intro h _ hopen hroom
        have := (h hnone).resolve_right (fun hor => hor.elim hopen (by omega))
        exact this

/-! ## Stuffing on -/

/-- The packets of a data field are explored up to its end.
SOURCE: osdlp_tm.c:511-555, 682-726 -/
theorem allIn_explorePacketsAccess (hfits : RxFits m)
    (hanswers : AnswersWithin getPacketLen m.maxSduLen) (fuel : ℕ) {bytesExplored : ℕ}
    (hin : bytesExplored < m.maxDataLen) {r : TmReceiver} (hlistens : Listens m r) :
    AllIn (TmAccess.Inside m) (explorePacketsAccess getPacketLen fuel bytesExplored r) := by
  have hdata := hfits.data
  have hsdu := hfits.sdu
  induction fuel generalizing bytesExplored r with
  | zero => exact allIn_pure _ _
  | succ fuel ih =>
    have hmax : r.tf.mission.maxDataLen = m.maxDataLen := by rw [hlistens]
    unfold explorePacketsAccess
    dsimp only
    rw [allIn_bind, allIn_access, inside_iff, TmRegion.size, hmax]
    refine ⟨by omega, ?_⟩
    dsimp only
    rw [allIn_ite]
    refine ⟨fun _ => allIn_pure _ _, fun _ => ?_⟩
    rw [allIn_bind, allIn_searchData]
    refine ⟨by omega, ?_⟩
    unfold searchData
    dsimp only
    cases hfound : getPacketLen (r.tf.data.drop bytesExplored)
      (u16 (m.maxDataLen - bytesExplored : ℤ)) with
    | none =>
      dsimp only
      rw [allIn_bind, allIn_copyOctets]
      exact ⟨by omega, allIn_pure _ _⟩
    | some length =>
      obtain ⟨hpos, -⟩ := hanswers _ _ _ hfound
      dsimp only
      rw [allIn_ite]
      refine ⟨fun _ => ?_, fun hover => ?_⟩
      · rw [allIn_bind, allIn_copyOctets]
        exact ⟨by omega, allIn_pure _ _⟩
      · rw [allIn_bind, allIn_copyOctets, allIn_ite, allIn_ite]
        refine ⟨by omega, fun _ => allIn_pure _ _, fun _ => ⟨fun _ => allIn_pure _ _, fun hend => ?_⟩⟩
        have hnext : u16 (bytesExplored + length.toNat) = bytesExplored + length.toNat := by
          rw [← Nat.cast_add]
          exact u16_of_lt (by omega)
        rw [hnext] at hend ⊢
        refine ih (by omega) ?_
        unfold Listens
        rw [(osdlpTmRxQueueEnqueue_delivers _).2.1]
        exact hlistens.setUtil _

/-- An exploration from the end of the data field on reads behind it. -/
theorem not_allIn_explorePacketsAccess {bytesExplored : ℕ} (hout : m.maxDataLen ≤ bytesExplored)
    (fuel : ℕ) (r : TmReceiver) :
    ¬ AllIn (TmAccess.Inside m)
      (explorePacketsAccess getPacketLen (fuel + 1) bytesExplored r) := by
  unfold explorePacketsAccess
  dsimp only
  rw [allIn_bind, allIn_access, inside_iff, TmRegion.size]
  omega

/-- SOURCE: osdlp_tm.c:558-628 -/
theorem allIn_handleSPtrNopktAccess (hlistens : Listens m r) :
    AllIn (TmAccess.Inside m) (handleSPtrNopktAccess getPacketLen r) := by
  have hmax : r.tf.mission.maxDataLen = m.maxDataLen := by rw [hlistens]
  have hsdu : r.tf.mission.maxSduLen = m.maxSduLen := by rw [hlistens]
  unfold handleSPtrNopktAccess
  simp only [allIn_ite, allIn_bind, allIn_pure, allIn_copyOctets, allIn_searchBuffer,
    allIn_continuePacketAccess hlistens, implies_true, true_and, and_true, hmax, hsdu, Nat.le_refl]
  refine fun _ _ hroom => ⟨by omega, by omega, ?_⟩
  cases (searchBuffer getPacketLen
      (copyOctets r 0 r.tf.mission.util.bufferedLength m.maxDataLen m.maxDataLen).value
      (m.maxDataLen + r.tf.mission.util.bufferedLength)).value with
  | none => exact (allIn_continuePacketAccess (hlistens.setUtil _) _).mpr fun _ => Nat.le_refl _
  | some length =>
    dsimp only
    rw [allIn_bind, allIn_copyOctets, allIn_ite]
    exact ⟨by omega, fun _ => allIn_pure _ _, fun _ => allIn_pure _ _⟩

/-- SOURCE: osdlp_tm.c:637-680 -/
theorem allIn_finishPacketAccess (hsettled : Settled m r)
    (hptr : r.tf.primaryHdr.firstHdrPtr.toNat ≤ m.maxDataLen) :
    AllIn (TmAccess.Inside m) (finishPacketAccess getPacketLen r) := by
  have hsdu : r.tf.mission.maxSduLen = m.maxSduLen := by rw [hsettled.listens]
  have hexpected := hsettled.expected
  unfold finishPacketAccess
  dsimp only
  rw [allIn_ite, allIn_ite, allIn_ite, allIn_ite, hsdu]
  refine ⟨fun _ => allIn_pure _ _, fun _ => ⟨fun _ => ⟨fun hroom => ?_, fun _ => allIn_pure _ _⟩,
    fun _ => ⟨fun hends => ?_, fun _ => allIn_pure _ _⟩⟩⟩
  · rw [allIn_bind, allIn_copyOctets, allIn_bind, allIn_searchBuffer]
    refine ⟨by omega, by omega, ?_⟩
    cases (searchBuffer getPacketLen
        (copyOctets r 0 r.tf.mission.util.bufferedLength r.tf.primaryHdr.firstHdrPtr.toNat
          r.tf.primaryHdr.firstHdrPtr.toNat).value
        (r.tf.primaryHdr.firstHdrPtr.toNat + r.tf.mission.util.bufferedLength)).value with
    | none => exact allIn_pure _ _
    | some length =>
      dsimp only
      rw [allIn_ite]
      exact ⟨fun _ => allIn_pure _ _, fun _ => allIn_pure _ _⟩
  · rw [allIn_bind, allIn_copyOctets]
    exact ⟨by omega, allIn_pure _ _⟩

/-- A packet that is finished has been copied whole. -/
theorem pointer_le_of_endsRefused
    (hrefused : EndsRefused getPacketLen r r.tf.primaryHdr.firstHdrPtr.toNat r.tf.data)
    (hptr : 0 < r.tf.primaryHdr.firstHdrPtr.toNat)
    (hin : AllIn (TmAccess.Inside m) (finishPacketAccess getPacketLen r)) :
    r.tf.primaryHdr.firstHdrPtr.toNat ≤ m.maxDataLen := by
  obtain ⟨hopen, -, hends⟩ := hrefused
  have hnotClosed : ¬ r.tf.mission.util.loopState = .loopClosed := by
    rw [hopen]
    decide
  unfold finishPacketAccess at hin
  dsimp only at hin
  rw [if_neg hnotClosed] at hin
  by_cases hexp : r.tf.mission.util.expectedPktLen = 0
  · rw [if_pos hexp] at hin hends
    rw [if_pos hends.1, allIn_bind, allIn_copyOctets] at hin
    have := hin.1
    omega
  · rw [if_neg hexp] at hin hends
    rw [if_pos hends, allIn_bind, allIn_copyOctets] at hin
    have := hin.1
    omega

/-! ## Whole calls -/

theorem Settled.reutilized (hsettled : Settled m r) (h : Reutilized m.maxSduLen r r') :
    Settled m r' := ⟨h.listens hsettled.listens, h.expected⟩

/-- The state after a call.  There are no more packets in a data field than octets, so that the
call always returns. -/
def tmReceiveStep (getPacketLen : GetPacketLen) (r : TmReceiver) (frame : List UInt8)
    : TmReceiver :=
  match osdlpTmReceive getPacketLen (r.tf.mission.maxDataLen + 1) 0 r frame with
  | some (_, r') => r'
  | none => r

theorem Settled.unpack (h : Settled m r) (frame : List UInt8) :
    Settled m { r with tf := osdlpTmUnpack r.tf frame } := ⟨h.listens.unpack frame, h.expected⟩

/-- A call returns, and keeps what the bounds rest on.
SOURCE: osdlp_tm.c:748-772 -/
theorem Settled.receive (hsettled : Settled m r)
    (hanswers : AnswersWithin getPacketLen m.maxSduLen) (hsmall : m.maxDataLen < 65536)
    (hfuel : m.maxDataLen < fuel) (frame : List UInt8) :
    ∃ result, osdlpTmReceive getPacketLen fuel 0 r frame = some result ∧ Settled m result.2 := by
  have hunpacked := hsettled.unpack frame
  unfold osdlpTmReceive
  rw [if_neg (by decide)]
  dsimp only
  split_ifs
  · exact ⟨_, rfl, hunpacked⟩
  · exact ⟨_, rfl, hunpacked⟩
  · cases (osdlpTmUnpack r.tf frame).mission.stuffState with
    | stuffingOff =>
      exact ⟨_, rfl,
        hunpacked.reutilized (handleRxNoStuffing_reutilized hunpacked.expected hanswers)⟩
    | stuffingOn =>
      obtain ⟨result, hresult, hkept⟩ := handleRxStuffing_reutilized hunpacked.listens
        hunpacked.expected hanswers hsmall hfuel
      dsimp only
      rw [hresult]
      exact ⟨_, rfl, hunpacked.reutilized hkept⟩

/-- Every reception leaves the receiver settled, whatever the frame. -/
theorem Settled.step (hsettled : Settled m r) (hanswers : AnswersWithin getPacketLen m.maxSduLen)
    (hsmall : m.maxDataLen < 65536) (frame : List UInt8) :
    Settled m (tmReceiveStep getPacketLen r frame) := by
  have hmax : r.tf.mission.maxDataLen = m.maxDataLen := by rw [hsettled.listens]
  obtain ⟨result, hresult, hkept⟩ :=
    hsettled.receive hanswers hsmall (Nat.lt_succ_self m.maxDataLen) frame
  unfold tmReceiveStep
  rw [hmax, hresult]
  exact hkept

/-- SOURCE: osdlp_tm.c:630-727 -/
theorem allIn_handleSPtrPositiveAccess (hfits : RxFits m) (hsettled : Settled m r)
    (hanswers : AnswersWithin getPacketLen m.maxSduLen)
    (hptr : 0 < r.tf.primaryHdr.firstHdrPtr.toNat) :
    (∀ fuel, AllIn (TmAccess.Inside m) (handleSPtrPositiveAccess getPacketLen fuel r)) ↔
      r.tf.primaryHdr.firstHdrPtr.toNat < m.maxDataLen ∨
        r.tf.primaryHdr.firstHdrPtr.toNat = m.maxDataLen ∧
          EndsRefused getPacketLen r r.tf.primaryHdr.firstHdrPtr.toNat r.tf.data := by
  have hkept := finishPacket_reutilized getPacketLen hsettled.expected
  have hrefused := finishPacket_isSome_iff getPacketLen r
  unfold handleSPtrPositiveAccess
  simp only [allIn_bind, value_finishPacketAccess]
  cases hfinished : finishPacket getPacketLen r with
  | mk finished r' =>
    rw [hfinished] at hkept hrefused
    have hhdr : r'.tf.primaryHdr = r.tf.primaryHdr := hkept.primaryHdr
    cases finished with
    | some result =>
      have hends := hrefused.mp rfl
      constructor
      · intro h
        have hle := pointer_le_of_endsRefused hends hptr (h 0).1
        exact (Nat.lt_or_eq_of_le hle).imp_right fun heq => ⟨heq, hends⟩
      · intro h fuel
        exact ⟨allIn_finishPacketAccess hsettled (by omega), allIn_pure _ _⟩
    | none =>
      have hgoesOn : ¬ EndsRefused getPacketLen r r.tf.primaryHdr.firstHdrPtr.toNat r.tf.data := by
        intro hends
        simpa using hrefused.mpr hends
      dsimp only
      rw [hhdr]
      constructor
      · intro h
        refine .inl (Nat.lt_of_not_le fun hle => ?_)
        exact not_allIn_explorePacketsAccess hle 0 r' (h 1).2
      · rintro (hlt | ⟨-, hends⟩) fuel
        · exact ⟨allIn_finishPacketAccess hsettled hlt.le,
            allIn_explorePacketsAccess hfits hanswers fuel hlt (hkept.listens hsettled.listens)⟩
        · exact absurd hends hgoesOn

/-- SOURCE: osdlp_tm.c:729-746 -/
theorem allIn_handleRxStuffingAccess (hfits : RxFits m) (hsettled : Settled m r)
    (hanswers : AnswersWithin getPacketLen m.maxSduLen) :
    (∀ fuel, AllIn (TmAccess.Inside m) (handleRxStuffingAccess getPacketLen fuel r)) ↔
      (r.tf.primaryHdr.firstHdrPtr ≠ tmFirstHdrPtrNoPktStart →
        r.tf.primaryHdr.firstHdrPtr.toNat < m.maxDataLen ∨
          0 < r.tf.primaryHdr.firstHdrPtr.toNat ∧
            r.tf.primaryHdr.firstHdrPtr.toNat = m.maxDataLen ∧
              EndsRefused getPacketLen r r.tf.primaryHdr.firstHdrPtr.toNat r.tf.data) := by
  unfold handleRxStuffingAccess
  by_cases hzero : r.tf.primaryHdr.firstHdrPtr = 0
  · have hne : r.tf.primaryHdr.firstHdrPtr ≠ tmFirstHdrPtrNoPktStart := by
      rw [hzero]
      decide
    have htoNat : r.tf.primaryHdr.firstHdrPtr.toNat = 0 := by rw [hzero]; rfl
    simp only [if_pos hzero, htoNat, Nat.lt_irrefl, false_and, or_false]
    constructor
    · intro h _
      refine Nat.lt_of_not_le fun hle => ?_
      exact not_allIn_explorePacketsAccess hle 0 r (h 1)
    · intro h fuel
      exact allIn_explorePacketsAccess hfits hanswers fuel (h hne) hsettled.listens
  · simp only [if_neg hzero]
    by_cases hnone : r.tf.primaryHdr.firstHdrPtr = tmFirstHdrPtrNoPktStart
    · simp only [ne_eq, hnone, not_true_eq_false, false_imp_iff, iff_true]
      intro fuel
      exact allIn_bind.mpr ⟨allIn_handleSPtrNopktAccess hsettled.listens, allIn_pure _ _⟩
    · have hpos : 0 < r.tf.primaryHdr.firstHdrPtr.toNat := by
        refine Nat.pos_of_ne_zero fun h => hzero (BitVec.eq_of_toNat_eq h)
      simp only [ne_eq, hnone, not_false_eq_true, true_imp_iff, hpos, true_and]
      exact allIn_handleSPtrPositiveAccess hfits hsettled hanswers hpos

/-- The OCF is read where the header of the frame says that there is one.
SOURCE: osdlp_tm.c:155-187 -/
theorem allIn_tmUnpackAccess (hfits : RxFits m) (hlistens : Listens m r) (frame : List UInt8) :
    AllIn (TmAccess.Inside m) (tmUnpackAccess r.tf frame) ↔
      ((tmUnpackHdr frame).ocf = true →
        r.tf.mission.headerLen + r.tf.mission.maxDataLen + 4 ≤ r.tf.mission.frameLen) := by
  have hheader := hfits.header
  have hframe := hfits.frame
  have hmission : r.tf.mission.headerLen = m.headerLen ∧ r.tf.mission.maxDataLen = m.maxDataLen ∧
      r.tf.mission.frameLen = m.frameLen ∧ r.tf.mission.crcPresent = true := by
    rw [hlistens]
    exact ⟨rfl, rfl, rfl, hfits.crc⟩
  obtain ⟨hhdr, hmax, hlen, hcrc⟩ := hmission
  have hread : ∀ i ≤ 6, AllIn (TmAccess.Inside m) (readFrame frame i) := fun i hi =>
    (allIn_readFrame frame i).mpr (by omega)
  have hsec : ∀ secHdr, AllIn (TmAccess.Inside m) (readSecHdr r.tf secHdr frame) := by
    intro secHdr
    unfold readSecHdr
    rw [allIn_ite, allIn_bind]
    exact ⟨fun _ => ⟨hread 6 (Nat.le_refl 6), allIn_pure _ _⟩, fun _ => allIn_pure _ _⟩
  have hocf : ∀ ocf, AllIn (TmAccess.Inside m) (readOcf r.tf ocf frame) ↔
      (ocf = true → m.headerLen + m.maxDataLen + 4 ≤ m.frameLen) := by
    intro ocf
    unfold readOcf
    dsimp only
    rw [allIn_ite, allIn_access, inside_iff, TmRegion.size, hhdr, hmax]
    simp only [allIn_pure, implies_true, and_true]
    exact imp_congr_right fun _ => by omega
  have htrailer : AllIn (TmAccess.Inside m) (readCrc r.tf frame) := by
    unfold readCrc
    rw [if_pos hcrc, hlen, allIn_bind, allIn_bind, allIn_readFrame, allIn_readFrame]
    exact ⟨by omega, by omega, allIn_pure _ _⟩
  unfold tmUnpackAccess
  simp only [allIn_bind, allIn_pure, hread 0 (by decide), hread 1 (by decide), hread 2 (by decide),
    hread 3 (by decide), hread 4 (by decide), hread 5 (by decide), hsec, hocf, htrailer, true_and,
    and_true, hhdr, hmax, hlen]
  exact Iff.rfl

/-- The accesses of one call, on a frame that passes the checksum.
SOURCE: osdlp_tm.c:748-772 -/
theorem accessesInside_iff (hfits : RxFits m) (hsettled : Settled m r)
    (hanswers : AnswersWithin getPacketLen m.maxSduLen) (hsound : Sound m frame) :
    AccessesInside getPacketLen r frame ↔ PointsInside getPacketLen r frame := by
  have hframe := hfits.frame
  have hmission : r.tf.mission.maxDataLen = m.maxDataLen ∧ r.tf.mission.maxSduLen = m.maxSduLen ∧
      r.tf.mission.frameLen = m.frameLen := by
    rw [hsettled.listens]
    exact ⟨rfl, rfl, rfl⟩
  obtain ⟨hmax, hsdu, hlen⟩ := hmission
  have hunpacked := hsettled.unpack frame
  have hheard := hsettled.listens.crc hfits.crc hsound
  have hinside : TmAccess.Inside r.tf.mission = TmAccess.Inside m := by
    funext access
    rw [hsettled.listens]
    cases access with | mk region span => cases region <;> rfl
  -- all that is read in front of the handlers is the frame, its header, the OCF and the checksum
  have hcall : ∀ fuel, AllIn (TmAccess.Inside m) (tmReceiveAccess getPacketLen fuel 0 r frame) ↔
      ((tmUnpackHdr frame).ocf = true →
        r.tf.mission.headerLen + r.tf.mission.maxDataLen + 4 ≤ r.tf.mission.frameLen) ∧
      (tmFirstHdrPtr frame ≠ tmFirstHdrPtrOid → AllIn (TmAccess.Inside m)
        (handleRxAccess getPacketLen fuel { r with tf := osdlpTmUnpack r.tf frame })) := by
    intro fuel
    unfold tmReceiveAccess
    rw [allIn_bind, allIn_readFrame, if_neg (by decide), allIn_bind,
      allIn_tmUnpackAccess hfits hsettled.listens, value_tmUnpackAccess, allIn_bind, allIn_access,
      inside_iff, TmRegion.size]
    dsimp only
    rw [if_neg (not_not.mpr hheard), allIn_ite, allIn_bind]
    simp only [allIn_pure, implies_true, true_and, and_true]
    refine ⟨fun h => ⟨h.2.1, h.2.2.2⟩, fun h => ⟨by omega, h.1, ?_, h.2⟩⟩
    have hlen' : (osdlpTmUnpack r.tf frame).mission.frameLen = m.frameLen := hlen
    omega
  -- what the handlers read depends on the pointer and on the mode
  have hhandled : (∀ fuel, AllIn (TmAccess.Inside m)
      (handleRxAccess getPacketLen fuel { r with tf := osdlpTmUnpack r.tf frame })) ↔
        (tmFirstHdrPtr frame ≠ tmFirstHdrPtrNoPktStart →
          let ptr := (tmFirstHdrPtr frame).toNat
          let util := r.tf.mission.util
          match r.tf.mission.stuffState with
          | .stuffingOff =>
            ptr ≤ r.tf.mission.maxDataLen ∨ util.loopState = .loopClosed ∨
              util.bufferedLength + ptr > r.tf.mission.maxSduLen
          | .stuffingOn =>
            ptr < r.tf.mission.maxDataLen ∨
              0 < ptr ∧ ptr = r.tf.mission.maxDataLen ∧
                EndsRefused getPacketLen r ptr (frame.drop r.tf.mission.headerLen)) := by
    have hoff := @allIn_handleRxNoStuffingAccess getPacketLen _ _ hfits hunpacked.listens
    have hon := allIn_handleRxStuffingAccess hfits hunpacked hanswers
    have hstate : (osdlpTmUnpack r.tf frame).mission.stuffState = r.tf.mission.stuffState := rfl
    unfold handleRxAccess
    dsimp only
    rw [hstate, hmax, hsdu]
    cases r.tf.mission.stuffState with
    | stuffingOff =>
      simp only [allIn_bind, allIn_pure, and_true, forall_const]
      exact hoff
    | stuffingOn => exact hon
  have hall : AccessesInside getPacketLen r frame ↔
      ∀ fuel, AllIn (TmAccess.Inside m) (tmReceiveAccess getPacketLen fuel 0 r frame) := by
    unfold AccessesInside
    rw [hinside]
  rw [hall]
  simp only [hcall, forall_and, forall_const]
  constructor
  · rintro ⟨hocf, hptr⟩
    exact ⟨hocf, fun hoid => hhandled.mp fun fuel => hptr fuel hoid⟩
  · intro h
    exact ⟨h.ocf, fun fuel hoid => hhandled.mpr (h.pointer hoid) fuel⟩

/-- In every run of receptions, all accesses stay within their buffers exactly if every frame
points inside.
SOURCE: osdlp_tm.c:416-772 -/
theorem accessesInside_run_iff {a : TmInitArgs} {tf₀ tf : TmTransferFrame}
    (hinit : osdlpTmInit tf₀ a = some tf) (hcrc : a.crcFlag = true)
    (hroom : a.occupied ≤ a.frameSize.toNat) (hdata : a.mission.maxDataLen ≤ a.maxSduLen.toNat)
    (hanswers : AnswersWithin getPacketLen a.maxSduLen.toNat) (delivered : List (List UInt8))
    (answers : List Int) {frames : List (List UInt8)} (hsound : ∀ f ∈ frames, Sound a.mission f) :
    Guarded (tmReceiveStep getPacketLen) (AccessesInside getPacketLen)
        { tf := tf, delivered := delivered, answers := answers } frames ↔
      Guarded (tmReceiveStep getPacketLen) (PointsInside getPacketLen)
        { tf := tf, delivered := delivered, answers := answers } frames := by
  have hmax := TmInitArgs.mission_maxDataLen hroom
  have hmission := osdlpTmInit_mission hinit
  have hocc : a.occupiedHeader + 2 ≤ a.occupied ∧ 6 ≤ a.occupiedHeader := by
    unfold TmInitArgs.occupied TmInitArgs.occupiedHeader tmPrimaryHdrLen tmCrcLength
    rw [hcrc]
    constructor
    · simp only [if_true]
      omega
    · split <;> omega
  have hsize := a.frameSize.toNat_lt
  have hfits : RxFits a.mission :=
    ⟨hcrc, hocc.2, by show a.occupiedHeader + a.mission.maxDataLen + 2 ≤ a.frameSize.toNat; omega,
      hdata, a.maxSduLen.toNat_lt⟩
  have hsmall : a.mission.maxDataLen < 65536 := by omega
  have hsettled : Settled a.mission { tf := tf, delivered := delivered, answers := answers } := by
    refine ⟨@osdlpTmInit_listens _ _ a a.utilBuffer hinit delivered answers, ?_⟩
    show tf.mission.util.expectedPktLen ≤ _
    rw [hmission]
    exact Nat.zero_le _
  exact guarded_congr hsettled (fun r frame _ h => h.step hanswers hsmall frame)
    fun r frame hmem h => accessesInside_iff hfits h hanswers (hsound frame hmem)

/-! ## A pointer behind the data field -/

/-- A hook for packets of one octet. -/
def singleOctets : GetPacketLen := fun _ _ => some 1

/-- A hook that finds packets of one octet. -/
theorem singleOctets_within : AnswersWithin singleOctets tenOctets.maxSduLen.toNat := by
  intro buf n length hfound
  cases hfound
  decide

/-- A frame of six such packets with its checksum, and a first header pointer. -/
def pointing (ptr : UInt8) : List UInt8 :=
  let body := [0, 0, 1, 1, 0x18, ptr, 1, 1, 1, 1, 1, 1]
  let crc := osdlpCalcCrc body 12
  body ++ [UInt8.ofNat (crc.toNat / 256), UInt8.ofNat crc.toNat]

/-- The condition, for a pointer to the last octet and one behind it. -/
theorem accessesInside_run_iff_pointing :
    ∃ rx, osdlpTmInit default tenOctets = some rx ∧
      let r : TmReceiver := { tf := rx, delivered := [], answers := [] }
      (Guarded (tmReceiveStep singleOctets) (AccessesInside singleOctets) r [pointing 5, pointing 6] ↔
        Guarded (tmReceiveStep singleOctets) (PointsInside singleOctets) r [pointing 5, pointing 6]) := by
  refine ⟨_, rfl, ?_⟩
  exact accessesInside_run_iff (a := tenOctets)
    (show osdlpTmInit default tenOctets = some _ from rfl) rfl (by decide) (by decide)
    singleOctets_within [] [] (by decide +kernel)

/-- With a first header pointer of twelve and a data field of six octets, the octet at twelve is
read, and the length of the search and of the copy is six below zero. -/
theorem not_accessesInside_pointing_twelve :
    ∃ rx, osdlpTmInit default tenOctets = some rx ∧
      let r : TmReceiver := { tf := rx, delivered := [], answers := [] }
      let m := tenOctets.mission
      let log := (tmReceiveAccess singleOctets 1 0 r (pointing 12)).log
      m.crcPresent ∧ m.headerLen + m.maxDataLen + 2 = m.frameLen ∧ m.maxDataLen ≤ m.maxSduLen ∧
        AnswersWithin singleOctets m.maxSduLen ∧ Sound m (pointing 12) ∧
        m.maxDataLen = 6 ∧ ⟨.dataField, ⟨12, 1⟩⟩ ∈ log ∧ ⟨.dataField, ⟨12, -6⟩⟩ ∈ log ∧
        ¬ AccessesInside singleOctets r (pointing 12) := by
  refine ⟨_, rfl, ?_⟩
  intro r m log
  have hread : ⟨.dataField, ⟨12, 1⟩⟩ ∈ log := by decide +kernel
  refine ⟨by decide, by decide, by decide, singleOctets_within, by decide +kernel, by decide, hread,
    by decide +kernel, fun h => ?_⟩
  exact absurd (h 1 _ hread) (by decide)

end Osdlp.Analysis
