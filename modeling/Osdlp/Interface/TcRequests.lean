import Osdlp.Interface.FopAside
import Osdlp.Model.TcTransmit

/-!
# The segments that are requested

The sender keeps a log of what `osdlp_tc_transmit` asks `osdlp_req_transfer_fdu` to transfer:
which SDU the call was for, and the data field of the frame.  The log changes nothing
(`recordedTransmit_unrecorded`).  Over any hooks that leave the segmentation alone, a call for an
SDU of fewer than 65536 octets requests slices of that SDU, ends, and answers `TC_TX_OK` with the
whole SDU requested, provided that what is in progress is this SDU (`recordedTransmit_sound`).
-/

set_option autoImplicit false

namespace Osdlp.Interface

open Osdlp.Model Osdlp.Library

/-- A buffer and a length, as they are passed to `osdlp_tc_transmit`.  The buffer holds as many
octets. -/
structure Sdu where
  buffer : List UInt8
  length : UInt32
  held : length.toNat ≤ buffer.length
  deriving DecidableEq, Repr

/-- The number of octets. -/
def Sdu.size (sdu : Sdu) : ℕ := sdu.length.toNat

/-- A segment of an SDU that has been requested. -/
structure SegmentRequest where
  sdu : Sdu
  frameData : TcFdf
  deriving DecidableEq, Repr

/-- The distance of the data pointer from the start of the buffer. -/
def SegmentRequest.offset (r : SegmentRequest) : ℕ :=
  r.sdu.buffer.length - r.frameData.data.length

/-- The indices of the segment in the buffer. -/
def SegmentRequest.octets (r : SegmentRequest) : List ℕ :=
  List.range' r.offset r.frameData.dataLen

/-- The segment is the first of its SDU. -/
def SegmentRequest.starts (r : SegmentRequest) : Bool :=
  r.frameData.segHdr.seqFlag = .firstSeg || r.frameData.segHdr.seqFlag = .unseg

/-- The requests since the last first segment. -/
def sinceFirst (requests : List SegmentRequest) : List SegmentRequest :=
  requests.foldl (fun since r => if r.starts then [r] else since ++ [r]) []

@[simp] theorem sinceFirst_concat (requests : List SegmentRequest) (r : SegmentRequest) :
    sinceFirst (requests ++ [r]) = if r.starts then [r] else sinceFirst requests ++ [r] := by
  unfold sinceFirst
  rw [List.foldl_append]
  rfl

/-- The last request belongs to what has begun last. -/
theorem sinceFirst_getLast? (requests : List SegmentRequest) :
    (sinceFirst requests).getLast? = requests.getLast? := by
  induction requests using List.reverseRecOn with
  | nil => rfl
  | append_singleton requests r _ =>
    rw [sinceFirst_concat]
    split_ifs <;> simp

/-- The requests are the first `n` octets of the SDU, each once and in order, and the data field of
each points to the octets of the buffer at its offset. -/
structure Covers (sdu : Sdu) (n : ℕ) (requests : List SegmentRequest) : Prop where
  same : ∀ r ∈ requests, r.sdu = sdu
  data : ∀ r ∈ requests, r.frameData.data = r.sdu.buffer.drop r.offset
  octets : requests.flatMap SegmentRequest.octets = List.range n
  last : ∃ r, requests.getLast? = some r ∧ r.offset + r.frameData.dataLen = n

/-- A first segment covers the SDU up to its end. -/
theorem Covers.singleton {sdu : Sdu} {r : SegmentRequest} (hsdu : r.sdu = sdu)
    (hdata : r.frameData.data = r.sdu.buffer.drop r.offset) (hoff : r.offset = 0) :
    Covers sdu r.frameData.dataLen [r] := by
  have hall : ∀ r' ∈ [r], r'.sdu = sdu ∧ r'.frameData.data = r'.sdu.buffer.drop r'.offset :=
    fun r' hr' => List.mem_singleton.mp hr' ▸ ⟨hsdu, hdata⟩
  refine ⟨fun r' hr' => (hall r' hr').1, fun r' hr' => (hall r' hr').2, ?_, r, rfl, ?_⟩
  · rw [List.flatMap_singleton, SegmentRequest.octets, hoff, List.range_eq_range']
  · rw [hoff, Nat.zero_add]

/-- A later one goes on where the others end. -/
theorem Covers.concat {sdu : Sdu} {n : ℕ} {requests : List SegmentRequest}
    (h : Covers sdu n requests) {r : SegmentRequest} (hsdu : r.sdu = sdu)
    (hdata : r.frameData.data = r.sdu.buffer.drop r.offset) (hoff : r.offset = n) :
    Covers sdu (n + r.frameData.dataLen) (requests ++ [r]) := by
  refine ⟨fun r' hr' => ?_, fun r' hr' => ?_, ?_, r, List.getLast?_concat, by rw [hoff]⟩
  · rcases List.mem_append.mp hr' with hold | hnew
    · exact h.same r' hold
    · rw [List.mem_singleton.mp hnew, hsdu]
  · rcases List.mem_append.mp hr' with hold | hnew
    · exact h.data r' hold
    · rw [List.mem_singleton.mp hnew, hdata]
  · rw [List.flatMap_append, h.octets, List.flatMap_singleton, SegmentRequest.octets, hoff,
      List.range_eq_range', List.range_eq_range']
    simpa using List.range'_append_1 (s := 0) (m := n) (n := r.frameData.dataLen)

/-! ## The log -/

/-- The user's state with the log. -/
structure Recording (W : Type) where
  user : W
  requests : List SegmentRequest
  deriving DecidableEq, Repr

variable {W : Type} {α : Type}

/-- The state without the log. -/
def unrecorded (s : FopSt (Recording W)) : FopSt W := { tf := s.tf, world := s.world.user }

/-- A program that requests nothing. -/
def recorded (m : FopM W α) : FopM (Recording W) α := fun s =>
  let (a, t) := m (unrecorded s)
  (a, { tf := t.tf, world := { s.world with user := t.world } })

/-- `osdlp_req_transfer_fdu` for a segment of the SDU. -/
def recordedRequest (sdu : Sdu) (h : CopHooks W) : FopM (Recording W) Notification := do
  modify fun s =>
    { s with
      world :=
        { s.world with
          requests := s.world.requests ++ [{ sdu := sdu, frameData := s.tf.frameData }] } }
  recorded (osdlpReqTransferFdu h)

/-- What the user supplies: the hooks, and `osdlp_tc_tx_queue_full`, which is not passed the frame
structure.  The depth bounds the search for a directive. -/
structure TcUser (W : Type) where
  hooks : CopHooks W
  depth : ℕ
  txQueueFull : FopM W Bool
  aside : AsideHooks hooks
  full_tf : ∀ s, (txQueueFull s).2.tf = s.tf

/-- A call of `osdlp_tc_transmit`.  What remains is a 16-bit number, so that it has no more
rounds than this. -/
def recordedTransmit (user : TcUser W) (sdu : Sdu) : FopM (Recording W) (Option Int) :=
  osdlpTcTransmit (recorded user.txQueueFull) (recordedRequest sdu user.hooks) 65536 sdu.buffer
    sdu.size

/-! ## One round -/

/-- What is left of a round when the segment has been set up; `left` octets are left of the SDU
behind it.
SOURCE: osdlp_tc.c:379-422 -/
def afterSegment (full : FopM W Bool) (req : FopM W Notification) (length left : ℕ)
    (next : FopM W (Option Int)) : FopM W (Option Int) := do
  let isFull ← full
  if isFull then
    let _ ← answer .rejectTx
    return some (-TcTxResult.copErr.code)
  else
    let notif ← req
    match notif with
    | .rejectTx => some <$> giveUpSdu .rejectTx
    | .delayResp =>
      setSegStatus (segProgress length left)
      return some (-TcTxResult.delay.code)
    | .acceptTx | .ignore =>
      setSegStatus (segProgress length left)
      next
    | _ => some <$> giveUpSdu .undefError

/-- One round: the queue is asked, and then the FOP. -/
theorem tcTransmitLoop_succ (full : FopM W Bool) (req : FopM W Notification)
    (buffer : List UInt8) (length rounds : ℕ) {remaining : ℕ} (hmore : remaining ≠ 0)
    (s : FopSt W) :
    tcTransmitLoop full req buffer length (rounds + 1) remaining s =
      let left := remaining - bytesAvail s.tf.mission remaining
      afterSegment full req length left (tcTransmitLoop full req buffer length rounds left)
        { s with tf := nextSegment s.tf buffer length remaining } := by
  rw [tcTransmitLoop, if_neg hmore]
  rfl

/-- Without its log the one program is the other. -/
def Erases (m' : FopM (Recording W) α) (m : FopM W α) : Prop :=
  ∀ s, ((m' s).1, unrecorded (m' s).2) = m (unrecorded s)

theorem Erases.bind {β : Type} {m' : FopM (Recording W) α} {m : FopM W α}
    {k' : α → FopM (Recording W) β} {k : α → FopM W β} (hm : Erases m' m)
    (hk : ∀ a, Erases (k' a) (k a)) : Erases (m' >>= k') (m >>= k) := by
  intro s
  rw [bind_apply, bind_apply, ← hm s]
  exact hk _ _

theorem erases_recorded (m : FopM W α) : Erases (recorded m) m := fun _ => rfl

theorem erases_setSegStatus (status : SegmentStatus) :
    Erases (setSegStatus status : FopM (Recording W) Unit) (setSegStatus status) := fun _ => rfl

theorem erases_recordedRequest (sdu : Sdu) (h : CopHooks W) :
    Erases (recordedRequest sdu h) (osdlpReqTransferFdu h) := fun _ => rfl

/-- What follows the set-up of a segment. -/
theorem Erases.afterSegment {full' : FopM (Recording W) Bool} {full : FopM W Bool}
    {req' : FopM (Recording W) Notification} {req : FopM W Notification}
    {next' : FopM (Recording W) (Option Int)} {next : FopM W (Option Int)}
    (hfull : Erases full' full) (hreq : Erases req' req) (hnext : Erases next' next)
    (length left : ℕ) :
    Erases (afterSegment full' req' length left next')
      (afterSegment full req length left next) := by
  refine hfull.bind fun isFull => ?_
  cases isFull with
  | true => exact fun _ => rfl
  | false =>
    refine hreq.bind fun notif => ?_
    cases notif with
    | acceptTx | ignore => exact (erases_setSegStatus _).bind fun _ => hnext
    | _ => exact fun _ => rfl

/-- The log changes nothing. -/
theorem recordedTransmit_unrecorded (user : TcUser W) (sdu : Sdu) :
    Erases (recordedTransmit user sdu)
      (osdlpTcTransmit user.txQueueFull (osdlpReqTransferFdu user.hooks) 65536 sdu.buffer
        sdu.size) := by
  have hloop : ∀ rounds remaining,
      Erases (tcTransmitLoop (recorded user.txQueueFull) (recordedRequest sdu user.hooks)
        sdu.buffer sdu.size rounds remaining)
        (tcTransmitLoop user.txQueueFull (osdlpReqTransferFdu user.hooks) sdu.buffer sdu.size
          rounds remaining) := by
    intro rounds
    induction rounds with
    | zero => exact fun _ _ => rfl
    | succ rounds ih =>
      intro remaining s
      by_cases hmore : remaining = 0
      · rw [hmore]
        rfl
      · rw [tcTransmitLoop_succ _ _ _ _ _ hmore, tcTransmitLoop_succ _ _ _ _ _ hmore]
        exact (erases_recorded _).afterSegment (erases_recordedRequest sdu _) (ih _) _ _ _
  exact fun s => hloop _ _ s

/-! ## The progress of an SDU -/

/-- The octets of the SDU that `seg_status` counts have been requested, and there are more. -/
structure InProgress (sdu : Sdu) (s : FopSt (Recording W)) : Prop where
  more : s.tf.segStatus.octetsTxed < sdu.size
  covers : Covers sdu s.tf.segStatus.octetsTxed (sinceFirst s.world.requests)

/-- An SDU of which octets have been sent is in progress. -/
def Resumable (s : FopSt (Recording W)) : Prop :=
  s.tf.segStatus.flag = .inProgress → ∃ sdu, InProgress sdu s

/-- The loop of `osdlp_tc_transmit` has so many octets left: the SDU has not been begun, is in
progress, or has been requested to its end. -/
inductive Progress (sdu : Sdu) (s : FopSt (Recording W)) : ℕ → Prop
  | fresh (hended : s.tf.segStatus.flag = .ended) : Progress sdu s sdu.size
  | partway (hflag : s.tf.segStatus.flag = .inProgress) (h : InProgress sdu s) :
      Progress sdu s (sdu.size - s.tf.segStatus.octetsTxed)
  | complete (hended : s.tf.segStatus.flag = .ended)
      (hcovers : Covers sdu sdu.size (sinceFirst s.world.requests)) : Progress sdu s 0

variable {sdu : Sdu} {s s' : FopSt (Recording W)} {remaining : ℕ}

/-- A segmentation that has ended leaves nothing to go on with. -/
theorem Resumable.of_ended (hended : s.tf.segStatus.flag = .ended) : Resumable s := by
  intro hflag
  rw [hended] at hflag
  exact absurd hflag (by decide)

/-- A segmentation under way can be gone on with. -/
theorem Progress.resumable (h : Progress sdu s remaining) : Resumable s := by
  cases h with
  | fresh hended => exact .of_ended hended
  | partway _ h => exact fun _ => ⟨sdu, h⟩
  | complete hended _ => exact .of_ended hended

theorem Resumable.congr (h : Resumable s) (hstatus : s'.tf.segStatus = s.tf.segStatus)
    (hrequests : s'.world.requests = s.world.requests) : Resumable s' := by
  intro hflag
  rw [hstatus] at hflag
  obtain ⟨sdu, hmore, hcovers⟩ := h hflag
  refine ⟨sdu, ?_, ?_⟩
  · rw [hstatus]
    exact hmore
  · rw [hstatus, hrequests]
    exact hcovers

/-- No more is left than there was. -/
theorem Progress.le (h : Progress sdu s remaining) : remaining ≤ sdu.size := by
  cases h with
  | fresh => exact Nat.le_refl _
  | partway => exact Nat.sub_le _ _
  | complete => exact Nat.zero_le _

/-- The next request. -/
def nextRequest (sdu : Sdu) (remaining : ℕ) (s : FopSt (Recording W)) : SegmentRequest :=
  { sdu := sdu, frameData := (nextSegment s.tf sdu.buffer sdu.size remaining).frameData }

theorem nextRequest_dataLen (sdu : Sdu) (remaining : ℕ) (s : FopSt (Recording W)) :
    (nextRequest sdu remaining s).frameData.dataLen = bytesAvail s.tf.mission remaining := rfl

/-- The segment begins where the octets end that have been sent. -/
theorem nextRequest_offset (hle : remaining ≤ sdu.size) :
    (nextRequest sdu remaining s).offset = sdu.size - remaining := by
  have hlen : sdu.size < 2 ^ 32 := sdu.length.toNat_lt
  have hheld : sdu.size ≤ sdu.buffer.length := sdu.held
  show sdu.buffer.length - (sdu.buffer.drop (segmentOffset sdu.size remaining)).length = _
  rw [segmentOffset_of_le hle hlen, List.length_drop]
  omega

/-- The data field points to the octets of the buffer at the offset of the segment. -/
theorem nextRequest_data (hle : remaining ≤ sdu.size) :
    (nextRequest sdu remaining s).frameData.data =
      sdu.buffer.drop (nextRequest sdu remaining s).offset := by
  rw [nextRequest_offset hle, ← segmentOffset_of_le hle sdu.length.toNat_lt]
  rfl

/-- A segment is not empty and not longer than what remains. -/
theorem bytesAvail_bounds {m : TcMissionParams} {remaining : ℕ} (hpos : 1 ≤ m.maxDataLen)
    (hmore : remaining ≠ 0) :
    1 ≤ bytesAvail m remaining ∧ bytesAvail m remaining ≤ remaining := by
  have hdiv := Nat.div_pos_iff (a := remaining) (b := m.maxDataLen)
  unfold bytesAvail
  split_ifs <;> omega

/-- With the next request the SDU is covered up to the end of its segment. -/
theorem Progress.covers_next (h : Progress sdu s remaining) (hmore : remaining ≠ 0) :
    Covers sdu (sdu.size - remaining + bytesAvail s.tf.mission remaining)
      (sinceFirst (s.world.requests ++ [nextRequest sdu remaining s])) := by
  have hoff := nextRequest_offset (s := s) h.le
  have hdata := nextRequest_data (s := s) h.le
  have hflag : (nextRequest sdu remaining s).frameData.segHdr.seqFlag =
      nextSeqFlag s.tf.mission s.tf.segStatus.flag remaining := rfl
  rw [sinceFirst_concat, ← nextRequest_dataLen sdu]
  unfold SegmentRequest.starts
  rw [hflag]
  cases h with
  | fresh hended =>
    have hstarts : nextSeqFlag s.tf.mission s.tf.segStatus.flag sdu.size = .firstSeg ∨
        nextSeqFlag s.tf.mission s.tf.segStatus.flag sdu.size = .unseg := by
      rw [hended]
      unfold nextSeqFlag
      dsimp only
      split_ifs
      · exact .inr rfl
      · exact .inl rfl
    rw [if_pos (by simpa using hstarts), Nat.sub_self, Nat.zero_add]
    exact .singleton rfl hdata (hoff.trans (Nat.sub_self _))
  | partway hin h =>
    have hcontinues : ∀ left, nextSeqFlag s.tf.mission s.tf.segStatus.flag left = .contSeg ∨
        nextSeqFlag s.tf.mission s.tf.segStatus.flag left = .lastSeg := by
      intro left
      rw [hin]
      unfold nextSeqFlag
      dsimp only
      split_ifs
      · exact .inl rfl
      · exact .inr rfl
    have hsent : sdu.size - (sdu.size - s.tf.segStatus.octetsTxed) = s.tf.segStatus.octetsTxed :=
      Nat.sub_sub_self h.more.le
    rw [hsent] at hoff ⊢
    rw [if_neg (by
      rcases hcontinues (sdu.size - s.tf.segStatus.octetsTxed) with h | h <;> simp [h])]
    exact h.covers.concat rfl hdata hoff
  | complete => exact absurd rfl hmore

/-- Nothing is left of an SDU when it has been requested to its end. -/
theorem Progress.covers_end (h : Progress sdu s remaining) (hsome : 1 ≤ sdu.size)
    (hdone : remaining = 0) : Covers sdu sdu.size (sinceFirst s.world.requests) := by
  cases h with
  | fresh => omega
  | partway _ h =>
    have hmore := h.more
    omega
  | complete _ hcovers => exact hcovers

/-- The progress that `osdlp_tc_transmit` stores is the right one. -/
theorem progress_stored (hshort : sdu.size < 65536) {left : ℕ} (hle : left ≤ sdu.size)
    (hcovers : Covers sdu (sdu.size - left) (sinceFirst s.world.requests))
    (hstatus : s.tf.segStatus = segProgress sdu.size left) : Progress sdu s left := by
  unfold segProgress at hstatus
  by_cases hleft : left = 0
  · rw [if_pos hleft] at hstatus
    subst hleft
    exact .complete (by rw [hstatus]) hcovers
  · rw [if_neg hleft] at hstatus
    have hsent : s.tf.segStatus.octetsTxed = sdu.size - left := by
      rw [hstatus]
      show u16 ((sdu.size : ℤ) - left) = _
      unfold u16
      omega
    have hleft' : left = sdu.size - s.tf.segStatus.octetsTxed := by omega
    rw [hleft']
    refine .partway (by rw [hstatus]) ⟨by omega, ?_⟩
    rw [hsent]
    exact hcovers

/-! ## How a round ends -/

/-- The frame structure with the next segment. -/
def withSegment (sdu : Sdu) (remaining : ℕ) (s : FopSt (Recording W)) : FopSt (Recording W) :=
  { s with tf := nextSegment s.tf sdu.buffer sdu.size remaining }

/-- The next segment has been requested in state `s`. -/
structure Requested (sdu : Sdu) (remaining : ℕ) (s v : FopSt (Recording W)) : Prop where
  maxDataLen : v.tf.mission.maxDataLen = s.tf.mission.maxDataLen
  requests : v.world.requests = s.world.requests ++ [nextRequest sdu remaining s]

/-- The progress stored when the next segment has been requested. -/
def nextProgress (sdu : Sdu) (remaining : ℕ) (s : FopSt (Recording W)) : SegmentStatus :=
  segProgress sdu.size (remaining - bytesAvail s.tf.mission remaining)

/-- A round ends with a full queue and nothing requested, or the segment has been requested: then
the SDU is given up, or the progress is stored and the call ends or goes on. -/
inductive RoundEnd (user : TcUser W) (sdu : Sdu) (remaining : ℕ) (s : FopSt (Recording W))
    (next : FopM (Recording W) (Option Int)) : Option Int × FopSt (Recording W) → Prop
  | full (t : FopSt (Recording W)) (hsame : SameSegments s t)
      (hlog : t.world.requests = s.world.requests)
      (hfull : (user.txQueueFull (unrecorded (withSegment sdu remaining s))).1 = true) :
      RoundEnd user sdu remaining s next (some (-TcTxResult.copErr.code), t)
  | givenUp (v : FopSt (Recording W)) (hrequested : Requested sdu remaining s v)
      (hended : v.tf.segStatus.flag = .ended) :
      RoundEnd user sdu remaining s next (some (-TcTxResult.copErr.code), v)
  | delayed (v : FopSt (Recording W)) (hrequested : Requested sdu remaining s v)
      (hstatus : v.tf.segStatus = nextProgress sdu remaining s) :
      RoundEnd user sdu remaining s next (some (-TcTxResult.delay.code), v)
  | goesOn (v : FopSt (Recording W)) (hrequested : Requested sdu remaining s v)
      (hstatus : v.tf.segStatus = nextProgress sdu remaining s) :
      RoundEnd user sdu remaining s next (next v)

/-- One round, and whatever follows it.
SOURCE: osdlp_tc.c:379-422 -/
theorem afterSegment_roundEnd (user : TcUser W) (sdu : Sdu) (remaining : ℕ)
    (s : FopSt (Recording W)) (next : FopM (Recording W) (Option Int)) :
    RoundEnd user sdu remaining s next
      (afterSegment (recorded user.txQueueFull) (recordedRequest sdu user.hooks) sdu.size
        (remaining - bytesAvail s.tf.mission remaining) next (withSegment sdu remaining s)) := by
  unfold afterSegment
  rw [bind_apply]
  -- the queue has been asked for room
  obtain ⟨t, ht⟩ : ∃ t, t = (recorded user.txQueueFull (withSegment sdu remaining s)).2 := ⟨_, rfl⟩
  have htf : t.tf = nextSegment s.tf sdu.buffer sdu.size remaining := by
    rw [ht]
    exact user.full_tf (unrecorded (withSegment sdu remaining s))
  have hlog : t.world.requests = s.world.requests := by
    rw [ht]
    rfl
  have hsame : SameSegments s t := by
    constructor
    · rw [htf]
      rfl
    · rw [htf]
      rfl
  rw [← ht]
  cases hfull : (recorded user.txQueueFull (withSegment sdu remaining s)).1 with
  | true => exact .full _ ⟨hsame.segStatus, hsame.maxDataLen⟩ hlog hfull
  | false =>
    -- the segment has been requested
    obtain ⟨u, hu⟩ : ∃ u, u = (recordedRequest sdu user.hooks t).2 := ⟨_, rfl⟩
    have hrequested : Requested sdu remaining s u := by
      constructor
      · rw [hu]
        exact (user.aside.reqTransferFdu (unrecorded t)).maxDataLen.trans hsame.maxDataLen
      · rw [hu]
        show t.world.requests ++ [{ sdu := sdu, frameData := t.tf.frameData }] = _
        rw [hlog, htf]
        rfl
    let v : FopSt (Recording W) :=
      { u with tf := { u.tf with segStatus := nextProgress sdu remaining s } }
    have hstored : Requested sdu remaining s v := ⟨hrequested.maxDataLen, hrequested.requests⟩
    simp only [Bool.false_eq_true, if_false, bind_apply]
    rw [← hu]
    cases (recordedRequest sdu user.hooks t).1 with
    | acceptTx | ignore => exact .goesOn v hstored rfl
    | delayResp => exact .delayed v hstored rfl
    | _ => exact .givenUp _ ⟨hrequested.maxDataLen, hrequested.requests⟩ rfl

/-! ## A call in order -/

/-- The request is for a slice of the SDU, and not for an empty one: its data field points to the
octets of the buffer at its offset. -/
structure Within (sdu : Sdu) (r : SegmentRequest) : Prop where
  same : r.sdu = sdu
  data : r.frameData.data = r.sdu.buffer.drop r.offset
  some : 1 ≤ r.frameData.dataLen
  inside : r.offset + r.frameData.dataLen ≤ sdu.size

/-- A call from `s` to `s'` ends, requests slices of the SDU, and answers `TC_TX_OK` with the whole
SDU requested since its first segment. -/
structure SendsSlices (sdu : Sdu) (s : FopSt (Recording W)) (code : Option Int)
    (s' : FopSt (Recording W)) : Prop where
  ends : code.isSome
  slices : ∃ requests, s'.world.requests = s.world.requests ++ requests ∧
    ∀ r ∈ requests, Within sdu r
  whole : code = some TcTxResult.ok.code → Covers sdu sdu.size (sinceFirst s'.world.requests)

/-- The sender after a call, which can go on with the SDU. -/
structure Transmits (sdu : Sdu) (s : FopSt (Recording W)) (code : Option Int)
    (s' : FopSt (Recording W)) : Prop extends SendsSlices sdu s code s' where
  resumable : Resumable s'
  maxDataLen : s'.tf.mission.maxDataLen = s.tf.mission.maxDataLen

/-- The next request is for a slice of the SDU. -/
theorem Progress.within_next (h : Progress sdu s remaining) (hpos : 1 ≤ s.tf.mission.maxDataLen)
    (hmore : remaining ≠ 0) : Within sdu (nextRequest sdu remaining s) := by
  obtain ⟨havail, hle⟩ := bytesAvail_bounds hpos hmore
  have hremaining := h.le
  refine ⟨rfl, nextRequest_data hremaining, havail, ?_⟩
  rw [nextRequest_offset hremaining, nextRequest_dataLen]
  omega

/-- A call that stops without a success. -/
theorem Transmits.stopped {code : Int} (hcode : code ≠ TcTxResult.ok.code)
    {requests : List SegmentRequest} (hlog : s'.world.requests = s.world.requests ++ requests)
    (hwithin : ∀ r ∈ requests, Within sdu r) (hresumable : Resumable s')
    (hlen : s'.tf.mission.maxDataLen = s.tf.mission.maxDataLen) :
    Transmits sdu s (some code) s' :=
  ⟨⟨rfl, ⟨requests, hlog, hwithin⟩, fun h => absurd (Option.some.inj h) hcode⟩, hresumable, hlen⟩

/-- A round, then the rest of the call. -/
theorem Transmits.after {requests : List SegmentRequest} {t : FopSt (Recording W)}
    {code : Option Int} (h : Transmits sdu t code s')
    (hlog : t.world.requests = s.world.requests ++ requests)
    (hwithin : ∀ r ∈ requests, Within sdu r)
    (hlen : t.tf.mission.maxDataLen = s.tf.mission.maxDataLen) : Transmits sdu s code s' := by
  obtain ⟨⟨hends, ⟨later, hlater, hlaterWithin⟩, hwhole⟩, hresumable, hmaxDataLen⟩ := h
  refine ⟨⟨hends, ⟨requests ++ later, ?_, ?_⟩, hwhole⟩, hresumable, hmaxDataLen.trans hlen⟩
  · rw [hlater, hlog, List.append_assoc]
  · intro r hr
    rcases List.mem_append.mp hr with hfirst | hthen
    · exact hwithin r hfirst
    · exact hlaterWithin r hthen

/-- The loop of `osdlp_tc_transmit`.
SOURCE: osdlp_tc.c:352-425 -/
theorem tcTransmitLoop_transmits (user : TcUser W) (hsome : 1 ≤ sdu.size)
    (hshort : sdu.size < 65536) {rounds : ℕ} (hrounds : remaining < rounds)
    (hpos : 1 ≤ s.tf.mission.maxDataLen) (h : Progress sdu s remaining) :
    let sent := tcTransmitLoop (recorded user.txQueueFull) (recordedRequest sdu user.hooks)
      sdu.buffer sdu.size rounds remaining s
    Transmits sdu s sent.1 sent.2 := by
  induction rounds generalizing remaining s with
  | zero => omega
  | succ rounds ih =>
    by_cases hmore : remaining = 0
    · have hcovers := h.covers_end hsome hmore
      rw [hmore]
      refine ⟨⟨rfl, ⟨[], (List.append_nil _).symm, by simp⟩, fun _ => hcovers⟩, ?_, rfl⟩
      exact h.resumable.congr rfl rfl
    · obtain ⟨havail, hle⟩ := bytesAvail_bounds hpos hmore
      have hremaining := h.le
      have hwithin : ∀ r ∈ [nextRequest sdu remaining s], Within sdu r := by
        intro r hr
        rw [List.mem_singleton.mp hr]
        exact h.within_next hpos hmore
      have hprogress : ∀ v, Requested sdu remaining s v →
          v.tf.segStatus = nextProgress sdu remaining s →
          Progress sdu v (remaining - bytesAvail s.tf.mission remaining) := by
        intro v hv hstatus
        have hcovers := h.covers_next hmore
        rw [← hv.requests] at hcovers
        refine progress_stored hshort (by omega) ?_ hstatus
        rwa [show sdu.size - (remaining - bytesAvail s.tf.mission remaining) =
          sdu.size - remaining + bytesAvail s.tf.mission remaining by omega]
      have hround : ∀ sent, RoundEnd user sdu remaining s (tcTransmitLoop
          (recorded user.txQueueFull) (recordedRequest sdu user.hooks) sdu.buffer sdu.size rounds
          (remaining - bytesAvail s.tf.mission remaining)) sent → Transmits sdu s sent.1 sent.2 := by
        intro sent hsent
        cases hsent with
        | full t hsame hlog =>
          refine .stopped (by decide) (hlog.trans (List.append_nil _).symm) (by simp) ?_
            hsame.maxDataLen
          exact h.resumable.congr hsame.segStatus hlog
        | givenUp v hv hended =>
          exact .stopped (by decide) hv.requests hwithin (.of_ended hended) hv.maxDataLen
        | delayed v hv hstatus =>
          exact .stopped (by decide) hv.requests hwithin (hprogress v hv hstatus).resumable
            hv.maxDataLen
        | goesOn v hv hstatus =>
          have hpos' : 1 ≤ v.tf.mission.maxDataLen := hv.maxDataLen ▸ hpos
          have hrest := ih (by omega) hpos' (hprogress v hv hstatus)
          exact hrest.after hv.requests hwithin hv.maxDataLen
      rw [tcTransmitLoop_succ _ _ _ _ _ hmore]
      exact hround _ (afterSegment_roundEnd user sdu remaining s _)

/-- A call for the SDU that is in progress, or when none is.
SOURCE: osdlp_tc.c:342-426 -/
theorem recordedTransmit_transmits (user : TcUser W) (hsome : 1 ≤ sdu.size)
    (hshort : sdu.size < 65536) (hpos : 1 ≤ s.tf.mission.maxDataLen)
    (h : s.tf.segStatus.flag = .inProgress → InProgress sdu s) :
    Transmits sdu s (recordedTransmit user sdu s).1 (recordedTransmit user sdu s).2 := by
  have hprogress : Progress sdu s (remainingOctets s.tf.segStatus sdu.size) := by
    unfold remainingOctets
    cases hflag : s.tf.segStatus.flag with
    | ended =>
      rw [u16_of_lt hshort]
      exact .fresh hflag
    | inProgress =>
      have hin := h hflag
      have hmore := hin.more
      have hleft : u16 ((sdu.size : ℤ) - s.tf.segStatus.octetsTxed) =
          sdu.size - s.tf.segStatus.octetsTxed := by
        unfold u16
        omega
      rw [hleft]
      exact .partway hflag hin
  have hle := hprogress.le
  exact tcTransmitLoop_transmits user hsome hshort (by omega) hpos hprogress

/-! ## Any call -/

/-- The log has grown by segments of `max_data_len` octets at most. -/
structure Grows (s s' : FopSt (Recording W)) : Prop where
  maxDataLen : s'.tf.mission.maxDataLen = s.tf.mission.maxDataLen
  requests : ∃ requests, s'.world.requests = s.world.requests ++ requests ∧
    ∀ r ∈ requests, r.frameData.dataLen ≤ s.tf.mission.maxDataLen

theorem Grows.of_same (hlen : s'.tf.mission.maxDataLen = s.tf.mission.maxDataLen)
    (hlog : s'.world.requests = s.world.requests) : Grows s s' :=
  ⟨hlen, [], hlog.trans (List.append_nil _).symm, by simp⟩

theorem Grows.trans {s'' : FopSt (Recording W)} (h : Grows s s') (h' : Grows s' s'') :
    Grows s s'' := by
  obtain ⟨requests, hlog, hshort⟩ := h.requests
  obtain ⟨later, hlater, hlaterShort⟩ := h'.requests
  refine ⟨h'.maxDataLen.trans h.maxDataLen, requests ++ later, ?_, ?_⟩
  · rw [hlater, hlog, List.append_assoc]
  · intro r hr
    rcases List.mem_append.mp hr with hfirst | hthen
    · exact hshort r hfirst
    · exact h.maxDataLen ▸ hlaterShort r hthen

/-- What has been requested stays in the record. -/
theorem Grows.mem (h : Grows s s') {r : SegmentRequest} (hr : r ∈ s.world.requests) :
    r ∈ s'.world.requests := by
  obtain ⟨requests, hlog, -⟩ := h.requests
  rw [hlog]
  exact List.mem_append_left _ hr

/-- A call adds its requests at the end. -/
theorem Requested.grows (hpos : 1 ≤ s.tf.mission.maxDataLen)
    (h : Requested sdu remaining s s') : Grows s s' := by
  refine ⟨h.maxDataLen, [nextRequest sdu remaining s], h.requests, ?_⟩
  intro r hr
  rw [List.mem_singleton.mp hr, nextRequest_dataLen]
  have hdiv := Nat.div_pos_iff (a := remaining) (b := s.tf.mission.maxDataLen)
  unfold bytesAvail
  split_ifs <;> omega

/-- A round requests a segment unless the queue is full, whatever is in progress. -/
theorem RoundEnd.grows {user : TcUser W} {next : FopM (Recording W) (Option Int)}
    {sent : Option Int × FopSt (Recording W)} (h : RoundEnd user sdu remaining s next sent)
    (hpos : 1 ≤ s.tf.mission.maxDataLen)
    (hnext : ∀ v : FopSt (Recording W), 1 ≤ v.tf.mission.maxDataLen → Grows v (next v).2) :
    Grows s sent.2 ∧
      ((user.txQueueFull (unrecorded (withSegment sdu remaining s))).1 = false →
        nextRequest sdu remaining s ∈ sent.2.world.requests) := by
  have hlast : ∀ v, Requested sdu remaining s v →
      nextRequest sdu remaining s ∈ v.world.requests := by
    intro v hv
    rw [hv.requests]
    exact List.mem_append_right _ (List.mem_singleton_self _)
  cases h with
  | full t hsame hlog hfull =>
    refine ⟨.of_same hsame.maxDataLen hlog, fun hroom => ?_⟩
    rw [hfull] at hroom
    exact absurd hroom (by decide)
  | givenUp v hv => exact ⟨hv.grows hpos, fun _ => hlast v hv⟩
  | delayed v hv => exact ⟨hv.grows hpos, fun _ => hlast v hv⟩
  | goesOn v hv =>
    have hrest := hnext v (hv.maxDataLen ▸ hpos)
    exact ⟨(hv.grows hpos).trans hrest, fun _ => hrest.mem (hlast v hv)⟩

/-- The loop with any progress. -/
theorem tcTransmitLoop_grows (user : TcUser W) (sdu : Sdu) (rounds remaining : ℕ)
    (hpos : 1 ≤ s.tf.mission.maxDataLen) :
    Grows s (tcTransmitLoop (recorded user.txQueueFull) (recordedRequest sdu user.hooks)
      sdu.buffer sdu.size rounds remaining s).2 := by
  induction rounds generalizing remaining s with
  | zero => exact .of_same rfl rfl
  | succ rounds ih =>
    by_cases hmore : remaining = 0
    · rw [hmore]
      exact .of_same rfl rfl
    · rw [tcTransmitLoop_succ _ _ _ _ _ hmore]
      exact ((afterSegment_roundEnd user sdu remaining s _).grows hpos fun v hv => ih _ hv).1

/-- The first segment of a short SDU is requested unless the queue is full. -/
theorem recordedTransmit_first (user : TcUser W) (hsome : 1 ≤ sdu.size)
    (hshort : sdu.size < 65536) (hpos : 1 ≤ s.tf.mission.maxDataLen)
    (hended : s.tf.segStatus.flag = .ended)
    (hroom : (user.txQueueFull (unrecorded (withSegment sdu sdu.size s))).1 = false) :
    nextRequest sdu sdu.size s ∈ (recordedTransmit user sdu s).2.world.requests := by
  have hremaining : remainingOctets s.tf.segStatus sdu.size = sdu.size := by
    unfold remainingOctets
    rw [hended]
    exact u16_of_lt hshort
  unfold recordedTransmit osdlpTcTransmit
  rw [bind_apply, get_apply]
  dsimp only
  rw [hremaining, tcTransmitLoop_succ _ _ _ _ _ (by omega)]
  exact ((afterSegment_roundEnd user sdu sdu.size s _).grows hpos fun v hv =>
    tcTransmitLoop_grows user sdu _ _ hv).2 hroom

end Osdlp.Interface
