import Osdlp.Interface.TcCodec
import Osdlp.Library.Blocks
import Osdlp.Model.TcTransmit

/-!
# The segments of an SDU

`segmentAt` says what the `i`-th segment of an SDU is.  `osdlp_tc_transmit` runs over a FOP that
answers from a script, and keeps what it is handed; `Sending` holds when the first `j` segments
have been handed over, and each call takes it on until the SDU is sent (`sendSdu_sends`).
-/

set_option autoImplicit false

namespace Osdlp.Interface

open Osdlp.Model Osdlp.Library

/-! ## The segments -/

/-- The sequence flag of the `i`-th segment, of at most `n` octets, of an SDU of `len` octets. -/
def segmentFlag (n len i : ℕ) : TcSeqFlag :=
  if len ≤ n then .unseg
  else if i = 0 then .firstSeg
  else if n * (i + 1) < len then .contSeg
  else .lastSeg

/-- The `i`-th segment. -/
def segmentAt (n : ℕ) (sdu : List UInt8) (i : ℕ) : TcSeqFlag × List UInt8 :=
  (segmentFlag n sdu.length i, block n sdu i)

/-- What a frame carries of an SDU. -/
def sentSegment (tf : FopFrame) : TcSeqFlag × List UInt8 :=
  (tf.frameData.segHdr.seqFlag, tf.frameData.payload)

/-! ## A FOP with a script -/

/-- How one attempt to hand a segment over ends: the transmission queue is full, or the FOP takes
the segment, at once or after a delay, and has these variables afterwards. -/
inductive SegmentAnswer
  | full
  | taken (delayed : Bool) (fop : FopConfig)
  deriving DecidableEq, Repr

/-- The answers to come, and the frames that `osdlp_req_transfer_fdu` has been handed.  The FOP
takes what comes behind the last answer. -/
structure SegmentWorld where
  answers : List SegmentAnswer
  handed : List FopFrame
  deriving DecidableEq, Repr

/-- `osdlp_tc_tx_queue_full` -/
def scriptFull : FopM SegmentWorld Bool := do
  let s ← get
  match s.world.answers with
  | .full :: answers =>
    set ({ s with world := { s.world with answers := answers } } : FopSt SegmentWorld)
    return true
  | _ => return false

/-- The FOP has taken the segment that the frame structure holds.  What else it stores there, the
length field and the checksum, is not read by `osdlp_tc_transmit`. -/
def taken (answers : List SegmentAnswer) (fop : FopConfig) (s : FopSt SegmentWorld) :
    FopSt SegmentWorld :=
  { tf := { s.tf with copCfg := fop }
    world := { answers := answers, handed := s.world.handed ++ [s.tf] } }

/-- `osdlp_req_transfer_fdu` -/
def scriptRequest : FopM SegmentWorld Notification := do
  let s ← get
  match s.world.answers with
  | .taken delayed fop :: answers =>
    set (taken answers fop s)
    return if delayed then .delayResp else .acceptTx
  | answers =>
    set (taken answers s.tf.copCfg s)
    return .acceptTx

section Script

variable {s : FopSt SegmentWorld} {answers : List SegmentAnswer} {delayed : Bool} {fop : FopConfig}

/-- An attempt that finds the transmission queue full is over. -/
theorem scriptFull_full (h : s.world.answers = .full :: answers) :
    scriptFull s = (true, { s with world := { s.world with answers := answers } }) := by
  unfold scriptFull
  simp only [bind_apply, get_apply, h, set_apply, pure_apply]

theorem scriptFull_nil (h : s.world.answers = []) : scriptFull s = (false, s) := by
  unfold scriptFull
  simp only [bind_apply, get_apply, h, pure_apply]

/-- The queue has room, and the FOP is still to be asked. -/
theorem scriptFull_taken (h : s.world.answers = .taken delayed fop :: answers) :
    scriptFull s = (false, s) := by
  unfold scriptFull
  simp only [bind_apply, get_apply, h, pure_apply]

theorem scriptRequest_nil (h : s.world.answers = []) :
    scriptRequest s = (.acceptTx, taken [] s.tf.copCfg s) := by
  unfold scriptRequest
  simp only [bind_apply, get_apply, h, set_apply, pure_apply]

/-- The FOP takes the segment, at once or later. -/
theorem scriptRequest_taken (h : s.world.answers = .taken delayed fop :: answers) :
    scriptRequest s = (if delayed then .delayResp else .acceptTx, taken answers fop s) := by
  unfold scriptRequest
  simp only [bind_apply, get_apply, h, set_apply, pure_apply]

end Script

/-- One call of `osdlp_tc_transmit`. -/
def scriptTransmit (rounds : ℕ) (sdu : List UInt8) : FopM SegmentWorld (Option Int) :=
  osdlpTcTransmit scriptFull scriptRequest rounds sdu sdu.length

/-- The call has left octets of the SDU unsent: the queue was full, or the segmentation has not
ended. -/
def Interrupted (code : Option Int) (tf : FopFrame) : Prop :=
  code = some (-TcTxResult.copErr.code) ∨ tf.segStatus.flag = .inProgress

instance (code : Option Int) (tf : FopFrame) : Decidable (Interrupted code tf) :=
  inferInstanceAs (Decidable (_ ∨ _))

/-- The caller calls again, with the same SDU, after each interruption, up to so many times. -/
def sendSdu (rounds : ℕ) (sdu : List UInt8) : ℕ → FopM SegmentWorld (Option Int)
  | 0 => return none
  | calls + 1 => do
    let code ← scriptTransmit rounds sdu
    let s ← get
    if Interrupted code s.tf then sendSdu rounds sdu calls else return code

/-! ## The sender's progress -/

/-- A frame with the parameters and the header of the sender, and with data as long as it says. -/
structure FramedBy (tf₀ tf : FopFrame) : Prop where
  mission : tf.mission = tf₀.mission
  header : ∃ frameLen, tf.primaryHdr = { tf₀.primaryHdr with frameLen := frameLen }
  whole : tf.frameData.dataLen ≤ tf.frameData.data.length

/-- The first `j` segments have been handed over. -/
structure Handed (tf₀ : FopFrame) (sdu : List UInt8) (j : ℕ) (s : FopSt SegmentWorld) : Prop where
  mission : s.tf.mission = tf₀.mission
  header : ∃ frameLen, s.tf.primaryHdr = { tf₀.primaryHdr with frameLen := frameLen }
  framed : ∀ tf ∈ s.world.handed, FramedBy tf₀ tf
  segments : s.world.handed.map sentSegment =
    (List.range j).map (segmentAt tf₀.mission.maxDataLen sdu)

/-- The first `j` segments have been handed over, and there are more. -/
structure Sending (tf₀ : FopFrame) (sdu : List UInt8) (j : ℕ) (s : FopSt SegmentWorld) : Prop
    extends Handed tf₀ sdu j s where
  more : tf₀.mission.maxDataLen * j < sdu.length
  status : s.tf.segStatus.flag = if j = 0 then .ended else .inProgress
  octetsTxed : j ≠ 0 → s.tf.segStatus.octetsTxed = tf₀.mission.maxDataLen * j

/-- All segments have been handed over. -/
structure SentAll (tf₀ : FopFrame) (sdu : List UInt8) (j : ℕ) (s : FopSt SegmentWorld) : Prop
    extends Handed tf₀ sdu j s where
  positive : 0 < j
  lastMore : tf₀.mission.maxDataLen * (j - 1) < sdu.length
  covered : sdu.length ≤ tf₀.mission.maxDataLen * j
  ended : s.tf.segStatus.flag = .ended

/-! ## The segment that comes next -/

variable {tf₀ : FopFrame} {sdu : List UInt8} {j : ℕ} {s : FopSt SegmentWorld}

/-- A segment changes the length field of the header only. -/
theorem nextSegment_header (h : Handed tf₀ sdu j s) (remaining : ℕ) :
    ∃ frameLen, (nextSegment s.tf sdu sdu.length remaining).primaryHdr =
      { tf₀.primaryHdr with frameLen := frameLen } := by
  obtain ⟨frameLen, hheader⟩ := h.header
  let next := nextSegment s.tf sdu sdu.length remaining
  refine ⟨next.primaryHdr.frameLen, ?_⟩
  show { s.tf.primaryHdr with frameLen := next.primaryHdr.frameLen } = _
  rw [hheader]

/-- The segment that `osdlp_tc_transmit` cuts off next is the `j`-th.
SOURCE: osdlp_tc.c:353-377 -/
theorem nextSegment_segmentAt (hpos : 1 ≤ tf₀.mission.maxDataLen) (hlen : sdu.length < 65536)
    (h : Sending tf₀ sdu j s) :
    let remaining := sdu.length - tf₀.mission.maxDataLen * j
    let tf := nextSegment s.tf sdu sdu.length remaining
    bytesAvail s.tf.mission remaining = min tf₀.mission.maxDataLen remaining ∧
      sentSegment tf = segmentAt tf₀.mission.maxDataLen sdu j ∧
      tf.frameData.dataLen ≤ tf.frameData.data.length := by
  intro remaining tf
  have hmore := h.more
  have havail : bytesAvail s.tf.mission remaining = min tf₀.mission.maxDataLen remaining := by
    unfold bytesAvail
    rw [h.mission]
    have hdiv := Nat.div_pos_iff (a := remaining) (b := tf₀.mission.maxDataLen)
    split_ifs <;> omega
  have hoff : segmentOffset sdu.length remaining = tf₀.mission.maxDataLen * j := by
    rw [segmentOffset_of_le (Nat.sub_le _ _) (by omega)]
    omega
  have hdata : tf.frameData.data = sdu.drop (tf₀.mission.maxDataLen * j) := by
    show sdu.drop (segmentOffset sdu.length remaining) = _
    rw [hoff]
  have hdataLen : tf.frameData.dataLen = min tf₀.mission.maxDataLen remaining := havail
  have hpayload : tf.frameData.payload = block tf₀.mission.maxDataLen sdu j := by
    unfold TcFdf.payload block
    rw [hdata, hdataLen, List.take_eq_take_iff, List.length_drop]
    omega
  refine ⟨havail, ?_, ?_⟩
  · unfold sentSegment segmentAt
    rw [hpayload]
    congr 1
    show nextSeqFlag s.tf.mission s.tf.segStatus.flag remaining = _
    unfold nextSeqFlag segmentFlag
    rw [h.status, havail, h.mission]
    rcases Nat.eq_zero_or_pos j with rfl | hj
    · simp only [if_true]
      split_ifs <;> first | rfl | omega
    · have hstep : tf₀.mission.maxDataLen ≤ tf₀.mission.maxDataLen * j := Nat.le_mul_of_pos_right _ hj
      simp only [Nat.ne_of_gt hj, if_false, Nat.mul_succ]
      split_ifs <;> first | rfl | omega
  · rw [hdata, hdataLen, List.length_drop]
    omega

/-- The state after the FOP has taken the next segment. -/
def segmentTaken (sdu : List UInt8) (remaining : ℕ) (answers : List SegmentAnswer)
    (fop : FopConfig) (s : FopSt SegmentWorld) : FopSt SegmentWorld :=
  let next : FopSt SegmentWorld :=
    taken answers fop { s with tf := nextSegment s.tf sdu sdu.length remaining }
  let status := segProgress sdu.length (remaining - bytesAvail s.tf.mission remaining)
  { next with tf := { next.tf with segStatus := status } }

section Round

variable {answers : List SegmentAnswer} {fop : FopConfig} {rounds remaining : ℕ}

/-- The frame structure when the FOP is asked. -/
def asked (sdu : List UInt8) (remaining : ℕ) (s : FopSt SegmentWorld) : FopSt SegmentWorld :=
  { s with tf := nextSegment s.tf sdu sdu.length remaining }

/-- A round that finds the queue full. -/
theorem tcTransmitLoop_full (hmore : remaining ≠ 0) (h : s.world.answers = .full :: answers) :
    tcTransmitLoop scriptFull scriptRequest sdu sdu.length (rounds + 1) remaining s =
      (some (-TcTxResult.copErr.code),
        ({ asked sdu remaining s with world := { s.world with answers := answers } } :
          FopSt SegmentWorld).setFop { s.tf.copCfg with signal := .rejectTx }) := by
  have hfull : scriptFull (asked sdu remaining s) = (true, _) := scriptFull_full h
  rw [tcTransmitLoop, if_neg hmore]
  simp only [bind_apply, get_apply, set_apply]
  unfold asked at hfull
  rw [hfull]
  rfl

/-- A round after which the call returns with the segment taken. -/
theorem tcTransmitLoop_delayed (hmore : remaining ≠ 0)
    (h : s.world.answers = .taken true fop :: answers) :
    tcTransmitLoop scriptFull scriptRequest sdu sdu.length (rounds + 1) remaining s =
      (some (-TcTxResult.delay.code), segmentTaken sdu remaining answers fop s) := by
  have hfull : scriptFull (asked sdu remaining s) = (false, _) := scriptFull_taken h
  have hrequest : scriptRequest (asked sdu remaining s) = (_, _) := scriptRequest_taken h
  rw [tcTransmitLoop, if_neg hmore]
  simp only [bind_apply, get_apply, set_apply]
  unfold asked at hfull hrequest
  rw [hfull]
  simp only [Bool.false_eq_true, if_false, bind_apply]
  rw [hrequest]
  rfl

/-- A round after which the loop goes on. -/
theorem tcTransmitLoop_accepted (hmore : remaining ≠ 0)
    (h : s.world.answers = .taken false fop :: answers) :
    tcTransmitLoop scriptFull scriptRequest sdu sdu.length (rounds + 1) remaining s =
      tcTransmitLoop scriptFull scriptRequest sdu sdu.length rounds
        (remaining - bytesAvail s.tf.mission remaining)
        (segmentTaken sdu remaining answers fop s) := by
  have hfull : scriptFull (asked sdu remaining s) = (false, _) := scriptFull_taken h
  have hrequest : scriptRequest (asked sdu remaining s) = (_, _) := scriptRequest_taken h
  rw [tcTransmitLoop, if_neg hmore]
  simp only [bind_apply, get_apply, set_apply]
  unfold asked at hfull hrequest
  rw [hfull]
  simp only [Bool.false_eq_true, if_false, bind_apply]
  rw [hrequest]
  rfl

/-- A round behind the script. -/
theorem tcTransmitLoop_unscripted (hmore : remaining ≠ 0) (h : s.world.answers = []) :
    tcTransmitLoop scriptFull scriptRequest sdu sdu.length (rounds + 1) remaining s =
      tcTransmitLoop scriptFull scriptRequest sdu sdu.length rounds
        (remaining - bytesAvail s.tf.mission remaining)
        (segmentTaken sdu remaining [] s.tf.copCfg s) := by
  have hfull : scriptFull (asked sdu remaining s) = (false, _) := scriptFull_nil h
  have hrequest : scriptRequest (asked sdu remaining s) = (_, _) := scriptRequest_nil h
  rw [tcTransmitLoop, if_neg hmore]
  simp only [bind_apply, get_apply, set_apply]
  unfold asked at hfull hrequest
  rw [hfull]
  simp only [Bool.false_eq_true, if_false, bind_apply]
  rw [hrequest]
  rfl

end Round

/-- One more segment has been handed over. -/
theorem Sending.taken (h : Sending tf₀ sdu j s) (hpos : 1 ≤ tf₀.mission.maxDataLen)
    (hlen : sdu.length < 65536) (answers : List SegmentAnswer) (fop : FopConfig) :
    let next := segmentTaken sdu (sdu.length - tf₀.mission.maxDataLen * j) answers fop s
    if tf₀.mission.maxDataLen * (j + 1) < sdu.length then Sending tf₀ sdu (j + 1) next
    else SentAll tf₀ sdu (j + 1) next := by
  intro next
  obtain ⟨havail, hsegment, hwhole⟩ := nextSegment_segmentAt hpos hlen h
  have hmore := h.more
  have hstatus : next.tf.segStatus = segProgress sdu.length
      (sdu.length - tf₀.mission.maxDataLen * j -
        min tf₀.mission.maxDataLen (sdu.length - tf₀.mission.maxDataLen * j)) := by
    rw [← havail]
    rfl
  have hnextHeader := nextSegment_header h.toHanded (sdu.length - tf₀.mission.maxDataLen * j)
  have hnext : Handed tf₀ sdu (j + 1) next := by
    refine ⟨h.mission, hnextHeader, ?_, ?_⟩
    · intro tf htf
      rcases List.mem_append.mp htf with hold | hnew
      · exact h.framed tf hold
      · rw [List.mem_singleton.mp hnew]
        exact ⟨h.mission, hnextHeader, hwhole⟩
    · show (s.world.handed ++ [nextSegment s.tf sdu sdu.length _]).map sentSegment = _
      rw [List.map_append, h.segments, List.range_succ, List.map_append, List.map_singleton,
        hsegment, List.map_singleton]
  have hsucc : tf₀.mission.maxDataLen * (j + 1) =
      tf₀.mission.maxDataLen * j + tf₀.mission.maxDataLen := Nat.mul_succ _ _
  split_ifs with hagain
  · have hprogress : next.tf.segStatus =
        { flag := .inProgress, octetsTxed := tf₀.mission.maxDataLen * (j + 1) } := by
      rw [hstatus]
      unfold segProgress
      rw [if_neg (by omega), SegmentStatus.mk.injEq]
      refine ⟨rfl, ?_⟩
      unfold u16
      omega
    refine ⟨hnext, hagain, ?_, fun _ => ?_⟩
    · rw [hprogress, if_neg (Nat.succ_ne_zero j)]
    · rw [hprogress]
  · refine ⟨hnext, Nat.succ_pos j, ?_, by omega, ?_⟩
    · rw [Nat.add_sub_cancel]
      exact hmore
    · rw [hstatus]
      unfold segProgress
      rw [if_pos (by omega)]

/-! ## Calls of `osdlp_tc_transmit` -/

/-- The other fields do not matter. -/
theorem Handed.of_eq {s' : FopSt SegmentWorld} (h : Handed tf₀ sdu j s)
    (hmission : s'.tf.mission = s.tf.mission) (hheader : s'.tf.primaryHdr = s.tf.primaryHdr)
    (hhanded : s'.world.handed = s.world.handed) : Handed tf₀ sdu j s' := by
  refine ⟨hmission.trans h.mission, ?_, ?_, ?_⟩
  · rw [hheader]
    exact h.header
  · rw [hhanded]
    exact h.framed
  · rw [hhanded]
    exact h.segments

/-- Behind the last segment the segmentation has ended. -/
theorem SentAll.not_interrupted (h : SentAll tf₀ sdu j s) {code : Option Int}
    (hcode : code ≠ some (-TcTxResult.copErr.code)) : ¬ Interrupted code s.tf := by
  rintro (hrefused | hinProgress)
  · exact hcode hrefused
  · rw [h.ended] at hinProgress
    exact absurd hinProgress (by decide)

/-- How a call ends: with octets unsent, or with the whole SDU handed over. -/
def CallEnds (tf₀ : FopFrame) (sdu : List UInt8) (s : FopSt SegmentWorld)
    (r : Option Int × FopSt SegmentWorld) : Prop :=
  (∃ j, Sending tf₀ sdu j r.2 ∧ Interrupted r.1 r.2.tf ∧
      r.2.world.answers.length < s.world.answers.length) ∨
    ∃ j, SentAll tf₀ sdu j r.2 ∧ ¬ Interrupted r.1 r.2.tf ∧ r.1.isSome

/-- The loop of one call.
SOURCE: osdlp_tc.c:352-425 -/
theorem tcTransmitLoop_ends (hpos : 1 ≤ tf₀.mission.maxDataLen) (hlen : sdu.length < 65536)
    (h : Sending tf₀ sdu j s) {rounds : ℕ}
    (hrounds : sdu.length - tf₀.mission.maxDataLen * j < rounds) :
    CallEnds tf₀ sdu s (tcTransmitLoop scriptFull scriptRequest sdu sdu.length rounds
      (sdu.length - tf₀.mission.maxDataLen * j) s) := by
  induction rounds generalizing j s with
  | zero => omega
  | succ rounds ih =>
    have hmore := h.more
    obtain ⟨havail, -, -⟩ := nextSegment_segmentAt hpos hlen h
    have hnext := h.taken hpos hlen
    have hsucc : tf₀.mission.maxDataLen * (j + 1) =
        tf₀.mission.maxDataLen * j + tf₀.mission.maxDataLen := Nat.mul_succ _ _
    have hleft : sdu.length - tf₀.mission.maxDataLen * j - bytesAvail s.tf.mission
        (sdu.length - tf₀.mission.maxDataLen * j) =
          sdu.length - tf₀.mission.maxDataLen * (j + 1) := by
      rw [havail]
      omega
    -- a segment that is taken at once takes the loop round
    have haccept : ∀ answers fop, answers.length ≤ s.world.answers.length →
        CallEnds tf₀ sdu s (tcTransmitLoop scriptFull scriptRequest sdu sdu.length rounds
          (sdu.length - tf₀.mission.maxDataLen * (j + 1))
          (segmentTaken sdu (sdu.length - tf₀.mission.maxDataLen * j) answers fop s)) := by
      intro answers fop hanswers
      have hstep := hnext answers fop
      dsimp only at hstep
      split_ifs at hstep with hagain
      · rcases ih hstep (by omega) with ⟨k, hsending, hinterrupted, hfewer⟩ | hdone
        · exact .inl ⟨k, hsending, hinterrupted, Nat.lt_of_lt_of_le hfewer hanswers⟩
        · exact .inr hdone
      · obtain ⟨rounds, rfl⟩ : ∃ n, rounds = n + 1 := Nat.exists_eq_succ_of_ne_zero (by omega)
        rw [show sdu.length - tf₀.mission.maxDataLen * (j + 1) = 0 by omega, tcTransmitLoop,
          if_pos rfl]
        refine .inr ⟨j + 1, ⟨hstep.toHanded.of_eq rfl rfl rfl, hstep.positive, hstep.lastMore,
          hstep.covered, hstep.ended⟩, ?_, rfl⟩
        have hcode : some TcTxResult.ok.code ≠ some (-TcTxResult.copErr.code) := by decide
        exact hstep.not_interrupted hcode
    rcases hanswers : s.world.answers with _ | ⟨_ | ⟨_ | _, fop⟩, answers⟩
    · rw [tcTransmitLoop_unscripted (by omega) hanswers, hleft]
      exact haccept [] _ (Nat.zero_le _)
    · rw [tcTransmitLoop_full (by omega) hanswers]
      refine .inl ⟨j, ⟨?_, hmore, h.status, h.octetsTxed⟩, .inl rfl, ?_⟩
      · exact ⟨h.mission, nextSegment_header h.toHanded _, h.framed, h.segments⟩
      · rw [hanswers]
        exact Nat.lt_succ_self _
    · rw [tcTransmitLoop_accepted (by omega) hanswers, hleft]
      refine haccept answers fop ?_
      rw [hanswers]
      exact Nat.le_succ _
    · rw [tcTransmitLoop_delayed (by omega) hanswers]
      have hstep := hnext answers fop
      dsimp only at hstep
      split_ifs at hstep with hagain
      · refine .inl ⟨j + 1, hstep, .inr ?_, ?_⟩
        · rw [hstep.status, if_neg (Nat.succ_ne_zero j)]
        · rw [hanswers]
          exact Nat.lt_succ_self _
      · have hcode : some (-TcTxResult.delay.code) ≠ some (-TcTxResult.copErr.code) := by decide
        exact .inr ⟨j + 1, hstep, hstep.not_interrupted hcode, rfl⟩

/-- One call.
SOURCE: osdlp_tc.c:342-426 -/
theorem scriptTransmit_ends (hpos : 1 ≤ tf₀.mission.maxDataLen) (hlen : sdu.length < 65536)
    (h : Sending tf₀ sdu j s) {rounds : ℕ} (hrounds : sdu.length < rounds) :
    CallEnds tf₀ sdu s (scriptTransmit rounds sdu s) := by
  have hmore := h.more
  have hremaining : remainingOctets s.tf.segStatus sdu.length =
      sdu.length - tf₀.mission.maxDataLen * j := by
    unfold remainingOctets
    rw [h.status]
    rcases Nat.eq_zero_or_pos j with rfl | hj
    · exact u16_of_lt hlen
    · rw [if_neg (Nat.ne_of_gt hj), h.octetsTxed (Nat.ne_of_gt hj)]
      dsimp only
      unfold u16
      omega
  unfold scriptTransmit osdlpTcTransmit
  rw [bind_apply, get_apply, hremaining]
  exact tcTransmitLoop_ends hpos hlen h (by omega)

/-- One call, and more if it was interrupted. -/
theorem sendSdu_succ (rounds calls : ℕ) (s : FopSt SegmentWorld) :
    sendSdu rounds sdu (calls + 1) s =
      if Interrupted (scriptTransmit rounds sdu s).1 (scriptTransmit rounds sdu s).2.tf then
        sendSdu rounds sdu calls (scriptTransmit rounds sdu s).2
      else scriptTransmit rounds sdu s := by
  show (if Interrupted (scriptTransmit rounds sdu s).1 (scriptTransmit rounds sdu s).2.tf then
      sendSdu rounds sdu calls else pure (scriptTransmit rounds sdu s).1)
    (scriptTransmit rounds sdu s).2 = _
  rw [ite_apply_state]
  rfl

/-- Every call but the last takes an answer that interrupts it, so the SDU is sent at the latest
when the script has been played. -/
theorem sendSdu_sends (hpos : 1 ≤ tf₀.mission.maxDataLen) (hlen : sdu.length < 65536)
    (h : Sending tf₀ sdu j s) {rounds : ℕ} (hrounds : sdu.length < rounds) {calls : ℕ}
    (hcalls : s.world.answers.length < calls) :
    (sendSdu rounds sdu calls s).1.isSome ∧ ∃ c, SentAll tf₀ sdu c (sendSdu rounds sdu calls s).2 := by
  induction calls generalizing j s with
  | zero => omega
  | succ calls ih =>
    rw [sendSdu_succ]
    rcases scriptTransmit_ends hpos hlen h hrounds with
      ⟨k, hsending, hinterrupted, hfewer⟩ | ⟨c, hsent, hdone, hsome⟩
    · rw [if_pos hinterrupted]
      exact ih hsending (by omega)
    · rw [if_neg hdone]
      exact ⟨hsome, c, hsent⟩

end Osdlp.Interface
