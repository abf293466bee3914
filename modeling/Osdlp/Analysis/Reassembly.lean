import Osdlp.Analysis.ReceiveAck
import Osdlp.Analysis.ReceiveBounds
import Osdlp.Interface.TcCopies
import Osdlp.Library.Run

/-!
# Reassembly inside its buffer

While the loop is open, the utility buffer holds the data fields of a FIRST segment and of the CONT
segments accepted since, and whatever arrives in whatever order, no copy writes behind the
`max_sdu_len` octets of the buffer (`reassembly_inside`).
-/

set_option autoImplicit false

namespace Osdlp.Analysis

open Osdlp.Model Osdlp.Interface Osdlp.Library

/-! ## Runs of the receiver -/

/-- A sequence flag and a data field. -/
abbrev Segment := TcSeqFlag × List UInt8

/-- A receiver with the segments that it has accepted and the copies that it has made. -/
structure ReceiverRun where
  tf : FarmFrame
  accepted : List Segment
  copies : List Span

/-- What happens at the receiver: `osdlp_tc_receive` on whatever the buffer holds and with whatever
the hooks answer, and in between any change of the FARM variables. -/
inductive ReceiverOp
  | receive (hooks : RxHooks) (rxBuffer : List UInt8)
  | farm (farm : FarmConfig)

instance (tf : FarmFrame) : Decidable (IsCommand tf) := inferInstanceAs (Decidable (_ ∧ _))

/-- The segment, if the call returns `TC_RX_OK` for a frame that is not a control command. -/
def acceptedBy (hooks : RxHooks) (tf : FarmFrame) (rxBuffer : List UInt8) : List Segment :=
  let unpacked := osdlpTcUnpack tf rxBuffer
  if (osdlpTcReceive hooks tf rxBuffer rxBuffer.length).code = TcRxResult.ok.code ∧
      ¬ IsCommand unpacked then
    [(unpacked.frameData.segHdr.seqFlag, unpacked.frameData.payload)]
  else []

/-- A frame is received with the copies logged, or an event of the FARM alone happens. -/
def receiverStep (s : ReceiverRun) : ReceiverOp → ReceiverRun
  | .receive hooks rxBuffer =>
    let received := tcReceiveCopies hooks s.tf rxBuffer rxBuffer.length
    { tf := received.value.tf
      accepted := s.accepted ++ acceptedBy hooks s.tf rxBuffer
      copies := s.copies ++ received.log }
  | .farm farm => { s with tf := setFarm s.tf farm }

/-- The length of the frame is at least the overhead. -/
def ReceiverOp.Consistent (overhead : ℕ) : ReceiverOp → Prop
  | .receive _ rxBuffer => overhead ≤ rxFrameLen rxBuffer + 1
  | .farm _ => True

/-! ## The invariant -/

/-- The configuration of a receiver, with a utility buffer of `max_sdu_len` octets. -/
structure ReceiveConfig (m : TcMissionParams) : Prop where
  overhead : m.fixedOverheadLen = m.overhead
  positive : 1 ≤ m.maxDataLen
  dataLen : m.maxDataLen ≤ m.maxSduLen
  sduLen : m.maxSduLen < 65536
  buffer : m.util.buffer.length = m.maxSduLen

/-- An open loop holds the data fields of a FIRST segment and of the CONT segments behind it. -/
def Gathers (accepted : List Segment) (m : TcMissionParams) : Prop :=
  m.util.loopState = .loopOpen → m.util.bufferedLength ≤ m.maxSduLen ∧
    ∃ (earlier : List Segment) (first : List UInt8) (conts : List (List UInt8)),
      accepted = earlier ++ (.firstSeg, first) :: conts.map (Prod.mk .contSeg) ∧
      m.util.buffer.take m.util.bufferedLength = first ++ conts.flatten

variable {accepted : List Segment} {tf : FarmFrame}

theorem Gathers.of_closed {m : TcMissionParams} (h : m.util.loopState ≠ .loopOpen) :
    Gathers accepted m := fun hopen => absurd hopen h

theorem ReceiveConfig.setUtil (h : ReceiveConfig tf.mission) {util : TcUtilBuf}
    (hbuffer : util.buffer.length = tf.mission.maxSduLen) :
    ReceiveConfig (setUtil tf util).mission :=
  ⟨h.overhead, h.positive, h.dataLen, h.sduLen, hbuffer⟩

/-- From `tf`, the receiver accepts or refuses the segment and stays within its buffer. -/
structure Proceeds (accepted : List Segment) (tf : FarmFrame) (r : TcCopies TcReceived) : Prop where
  copies : AllIn (Span.Inside tf.mission.maxSduLen) r
  sduLen : r.value.tf.mission.maxSduLen = tf.mission.maxSduLen
  fixedOverheadLen : r.value.tf.mission.fixedOverheadLen = tf.mission.fixedOverheadLen
  config : ReceiveConfig r.value.tf.mission
  gathers : Gathers (accepted ++ if r.value.code = TcRxResult.ok.code then
    [(tf.frameData.segHdr.seqFlag, tf.frameData.payload)] else []) r.value.tf.mission

/-! ## One segment -/

section Segments

variable (hconfig : ReceiveConfig tf.mission)
  (hpayload : tf.frameData.payload.length = tf.frameData.dataLen)

include hconfig hpayload

/-- A copy inside the buffer leaves its length. -/
theorem length_copiedTo {off : ℕ} (h : off + tf.frameData.dataLen ≤ tf.mission.maxSduLen) :
    (copiedTo tf off).length = tf.mission.maxSduLen := by
  unfold copiedTo
  rw [length_memWrite, hpayload, hconfig.buffer]
  omega

/-- A copy inside the buffer, and what follows it. -/
theorem proceeds_copy {off : ℕ} (h : off + tf.frameData.dataLen ≤ tf.mission.maxSduLen)
    {next : List UInt8 → TcReceived} {util : TcUtilBuf}
    (hnext : (next (copiedTo tf off)).tf = setUtil tf util)
    (hbuffer : util.buffer = copiedTo tf off)
    (hgathers : Gathers (accepted ++ if (next (copiedTo tf off)).code = TcRxResult.ok.code then
      [(tf.frameData.segHdr.seqFlag, tf.frameData.payload)] else []) (setUtil tf util).mission) :
    Proceeds accepted tf (do
      let buffer ← copyToUtil tf off
      return next buffer) where
  copies := by
    rw [allIn_bind]
    refine ⟨?_, allIn_pure _ _⟩
    unfold copyToUtil
    rw [allIn_access, Span.inside_iff]
    dsimp only
    omega
  sduLen := by
    show (next (copiedTo tf off)).tf.mission.maxSduLen = _
    rw [hnext]
    rfl
  fixedOverheadLen := by
    show (next (copiedTo tf off)).tf.mission.fixedOverheadLen = _
    rw [hnext]
    rfl
  config := by
    show ReceiveConfig (next (copiedTo tf off)).tf.mission
    rw [hnext]
    apply hconfig.setUtil
    rw [hbuffer]
    exact length_copiedTo hconfig hpayload h
  gathers := by
    show Gathers _ (next (copiedTo tf off)).tf.mission
    rw [hnext]
    exact hgathers

omit hpayload in
/-- A segment that is refused leaves the buffer alone. -/
theorem proceeds_error {util : TcUtilBuf} (hbuffer : util.buffer = tf.mission.util.buffer)
    (hgathers : Gathers accepted (setUtil tf util).mission) :
    Proceeds accepted tf (pure (rxError .copErr (setUtil tf util))) where
  copies := allIn_pure _ _
  sduLen := rfl
  fixedOverheadLen := rfl
  config := hconfig.setUtil (hbuffer ▸ hconfig.buffer)
  gathers := by
    have hcode : (rxError .copErr (setUtil tf util)).code ≠ TcRxResult.ok.code :=
      (copErr_code_neg (setUtil tf util)).ne
    show Gathers (accepted ++ if (rxError .copErr (setUtil tf util)).code = _ then _ else []) _
    rw [if_neg hcode, List.append_nil]
    exact hgathers

/-- SOURCE: osdlp_tc.c:217-239 -/
theorem proceeds_unseg (hgathers : Gathers accepted tf.mission) (hooks : RxHooks)
    (farmRet : FarmResult) : Proceeds accepted tf (receiveUnsegCopies hooks farmRet tf) := by
  unfold receiveUnsegCopies
  split_ifs with hlong
  · exact @proceeds_error _ _ hconfig tf.mission.util rfl hgathers
  · have hle := hconfig.dataLen
    exact proceeds_copy hconfig hpayload (by omega) rfl rfl (Gathers.of_closed nofun)

/-- SOURCE: osdlp_tc.c:240-254 -/
theorem proceeds_firstSeg (hflag : tf.frameData.segHdr.seqFlag = .firstSeg) :
    Proceeds accepted tf (receiveFirstSegCopies tf) := by
  unfold receiveFirstSegCopies
  split_ifs with hloop hlong
  · exact proceeds_error hconfig rfl (Gathers.of_closed nofun)
  · rw [ne_eq, not_not] at hloop
    refine proceeds_error hconfig ?_ (Gathers.of_closed ?_)
    · rfl
    · show tf.mission.util.loopState ≠ .loopOpen
      rw [hloop]
      nofun
  · have hle := hconfig.dataLen
    apply proceeds_copy hconfig hpayload (by omega) rfl rfl
    intro _
    refine ⟨by show tf.frameData.dataLen ≤ tf.mission.maxSduLen; omega, accepted,
      tf.frameData.payload, [], ?_, ?_⟩
    · rw [hflag]
      rfl
    · show (copiedTo tf 0).take tf.frameData.dataLen = _
      unfold copiedTo
      rw [memWrite_zero, List.take_left' hpayload, List.flatten_nil, List.append_nil]

omit hpayload in
/-- SOURCE: osdlp_tc.c:256-266, 286-296 -/
theorem proceeds_inLoop {next : TcCopies TcReceived}
    (h : tf.mission.util.loopState = .loopOpen →
      tf.mission.util.bufferedLength + tf.frameData.dataLen ≤ tf.mission.maxSduLen →
      Proceeds accepted tf next) : Proceeds accepted tf (receiveInLoopCopies next tf) := by
  unfold receiveInLoopCopies
  split_ifs with hloop hlong
  · exact proceeds_error hconfig rfl (Gathers.of_closed hloop)
  · exact proceeds_error hconfig rfl (Gathers.of_closed nofun)
  · exact h (not_not.mp hloop) (by omega)

/-- SOURCE: osdlp_tc.c:255-284 -/
theorem proceeds_lastSeg (hooks : RxHooks) (farmRet : FarmResult) :
    Proceeds accepted tf (receiveLastSegCopies hooks farmRet tf) := by
  unfold receiveLastSegCopies
  apply proceeds_inLoop hconfig
  intro _ hfits
  exact proceeds_copy hconfig hpayload hfits rfl rfl (Gathers.of_closed nofun)

/-- SOURCE: osdlp_tc.c:285-302 -/
theorem proceeds_contSeg (hgathers : Gathers accepted tf.mission)
    (hflag : tf.frameData.segHdr.seqFlag = .contSeg) :
    Proceeds accepted tf (receiveContSegCopies tf) := by
  unfold receiveContSegCopies
  apply proceeds_inLoop hconfig
  intro hopen hfits
  obtain ⟨hle, earlier, first, conts, haccepted, htake⟩ := hgathers hopen
  have hsum : u16 (tf.mission.util.bufferedLength + tf.frameData.dataLen) =
      tf.mission.util.bufferedLength + tf.frameData.dataLen := by
    have hlt := hconfig.sduLen
    rw [← Nat.cast_add]
    exact u16_of_lt (by omega)
  apply proceeds_copy hconfig hpayload hfits rfl rfl
  intro _
  refine ⟨hsum.trans_le hfits, earlier, first, conts ++ [tf.frameData.payload], ?_, ?_⟩
  · rw [hflag, haccepted]
    show _ ++ [_] = _
    simp
  · show (copiedTo tf tf.mission.util.bufferedLength).take
      (u16 (tf.mission.util.bufferedLength + tf.frameData.dataLen)) = _
    rw [hsum]
    unfold copiedTo
    rw [← hpayload, take_memWrite _ (by rw [hconfig.buffer]; exact hle), htake, List.flatten_append,
      List.flatten_singleton, List.append_assoc]

/-- SOURCE: osdlp_tc.c:304-329 -/
theorem proceeds_whole (hooks : RxHooks) (farmRet : FarmResult) :
    Proceeds accepted tf (receiveWholeCopies hooks farmRet tf) := by
  unfold receiveWholeCopies
  split_ifs with hlong
  · exact proceeds_error hconfig rfl (Gathers.of_closed nofun)
  · exact proceeds_copy hconfig hpayload (by omega) rfl rfl (Gathers.of_closed nofun)

/-- SOURCE: osdlp_tc.c:215-329 -/
theorem proceeds_data (hgathers : Gathers accepted tf.mission) (hooks : RxHooks)
    (farmRet : FarmResult) : Proceeds accepted tf (receiveDataCopies hooks farmRet tf) := by
  unfold receiveDataCopies
  split_ifs
  · cases hflag : tf.frameData.segHdr.seqFlag with
    | unseg => exact proceeds_unseg hconfig hpayload hgathers hooks farmRet
    | firstSeg => exact proceeds_firstSeg hconfig hpayload hflag
    | lastSeg => exact proceeds_lastSeg hconfig hpayload hooks farmRet
    | contSeg => exact proceeds_contSeg hconfig hpayload hgathers hflag
  · exact proceeds_whole hconfig hpayload hooks farmRet

end Segments

/-! ## A call -/

/-- FARM-1 answers `COP_OK` to control commands only, and never hands on their data.
SOURCE: osdlp_cop.c:287-336 -/
theorem osdlpFarm1_command (rxFull : Bool) (tf : FarmFrame) :
    (IsCommand tf → (osdlpFarm1 rxFull tf).1 = .ok ∨ (osdlpFarm1 rxFull tf).1 = .error) ∧
      ((osdlpFarm1 rxFull tf).1 = .ok → IsCommand tf) := by
  unfold osdlpFarm1 IsCommand
  cases tf.primaryHdr.bypass with
  | typeA =>
    refine ⟨fun h => absurd h.1 nofun, fun h => absurd h ?_⟩
    dsimp only
    unfold handleFarmTypea farmE1 farmE2 farmE3 farmE4 farmE5
    cases tf.copCfg.state <;> dsimp only <;> split_ifs <;> nofun
  | typeB =>
    cases tf.primaryHdr.ctrlCmd with
    | data =>
      refine ⟨fun h => absurd h.2 nofun, fun h => absurd h ?_⟩
      dsimp only
      unfold handleFarmTypebData farmE6
      cases tf.copCfg.state <;> nofun
    | command =>
      refine ⟨fun _ => ?_, fun _ => ⟨rfl, rfl⟩⟩
      dsimp only
      unfold handleFarmTypebCmd farmE7 farmE8
      cases tf.copCfg.state <;> dsimp only <;> split_ifs <;> simp

/-- The data field of a frame that is long enough lies in the buffer.
SOURCE: osdlp_tc.c:86-121 -/
theorem length_payload_unpack (hover : tf.mission.fixedOverheadLen = tf.mission.overhead)
    {rxBuffer : List UInt8} (hfixed : tf.mission.fixedOverheadLen ≤ rxFrameLen rxBuffer + 1)
    (hdelimited : rxFrameLen rxBuffer + 1 ≤ rxBuffer.length) :
    (osdlpTcUnpack tf rxBuffer).frameData.payload.length =
      (osdlpTcUnpack tf rxBuffer).frameData.dataLen := by
  have hexact := (dataLen_exact_iff tf rxBuffer).mpr hfixed
  have hdata : rxBuffer.length ≤
      (osdlpTcUnpack tf rxBuffer).frameData.data.length + tf.mission.overhead := by
    show rxBuffer.length ≤
      (if tf.mission.segHdrFlag then rxBuffer.drop 6 else rxBuffer.drop 5).length + _
    unfold TcMissionParams.overhead
    split_ifs <;> rw [List.length_drop] <;> omega
  apply List.length_take_of_le
  omega

/-- Where the frame does not get as far as FARM-1, the call ends with an error. -/
theorem tcReceiveCopies_not_admitted {hooks : RxHooks} {rxBuffer : List UInt8} {length : ℕ}
    (h : ¬ Admitted hooks tf rxBuffer length) :
    ∃ err tf', err ≠ .ok ∧ tf'.mission = tf.mission ∧
      tcReceiveCopies hooks tf rxBuffer length = pure (rxError err tf') := by
  unfold tcReceiveCopies
  dsimp only
  split_ifs with hlen hconfig hvalid
  · exact ⟨.frameLenErr, tf, nofun, rfl, rfl⟩
  · exact ⟨.configErr, tf, nofun, rfl, rfl⟩
  · exact ⟨.frameValErr, osdlpTcUnpack tf rxBuffer, nofun, rfl, rfl⟩
  · exact absurd ⟨by omega, not_lt.mp hconfig, not_lt.mp hvalid⟩ h

/-- A frame that is admitted goes through the FARM. -/
theorem tcReceiveCopies_admitted {hooks : RxHooks} {rxBuffer : List UInt8} {length : ℕ}
    (h : Admitted hooks tf rxBuffer length) :
    tcReceiveCopies hooks tf rxBuffer length =
      receiveFarmedCopies hooks (osdlpFarm1 hooks.rxFull (osdlpTcUnpack tf rxBuffer)).1
        (osdlpFarm1 hooks.rxFull (osdlpTcUnpack tf rxBuffer)).2 := by
  have hlen := h.delimited
  have hdelim : ¬ (rxFrameLen rxBuffer + 1 > length ∨ length < 5) := by omega
  unfold tcReceiveCopies
  rw [if_neg hdelim, if_neg (not_lt.mpr h.configured)]
  exact if_neg (not_lt.mpr h.valid)

/-- An error is not reported as a success. -/
theorem rxError_code_ne {err : TcRxResult} (h : err ≠ .ok) (tf : FarmFrame) :
    (rxError err tf).code ≠ TcRxResult.ok.code := by
  cases err with
  | ok => exact absurd rfl h
  | _ =>
    show -TcRxResult.code _ ≠ _
    decide

/-- What a reception preserves. -/
structure Received (accepted : List Segment) (m : TcMissionParams) (r : TcCopies TcReceived) :
    Prop where
  copies : AllIn (Span.Inside m.maxSduLen) r
  sduLen : r.value.tf.mission.maxSduLen = m.maxSduLen
  fixedOverheadLen : r.value.tf.mission.fixedOverheadLen = m.fixedOverheadLen
  config : ReceiveConfig r.value.tf.mission
  gathers : Gathers accepted r.value.tf.mission

/-- SOURCE: osdlp_tc.c:185-339 -/
theorem received_call (hconfig : ReceiveConfig tf.mission)
    (hgathers : Gathers accepted tf.mission) (hooks : RxHooks) {rxBuffer : List UInt8}
    (hfixed : tf.mission.fixedOverheadLen ≤ rxFrameLen rxBuffer + 1) :
    Received (accepted ++ acceptedBy hooks tf rxBuffer) tf.mission
      (tcReceiveCopies hooks tf rxBuffer rxBuffer.length) := by
  have haccepted : acceptedBy hooks tf rxBuffer =
      if (tcReceiveCopies hooks tf rxBuffer rxBuffer.length).value.code = TcRxResult.ok.code ∧
          ¬ IsCommand (osdlpTcUnpack tf rxBuffer) then
        [((osdlpTcUnpack tf rxBuffer).frameData.segHdr.seqFlag,
          (osdlpTcUnpack tf rxBuffer).frameData.payload)]
      else [] := by
    rw [value_tcReceiveCopies]
    rfl
  rw [haccepted]
  by_cases hadmitted : Admitted hooks tf rxBuffer rxBuffer.length
  · rw [tcReceiveCopies_admitted hadmitted]
    obtain ⟨hcommand, hok⟩ := osdlpFarm1_command hooks.rxFull (osdlpTcUnpack tf rxBuffer)
    obtain ⟨farm, hfarm⟩ := osdlpFarm1_frame hooks.rxFull (osdlpTcUnpack tf rxBuffer)
    have hpayload := length_payload_unpack hconfig.overhead hfixed hadmitted.delimited.1
    rw [hfarm]
    -- what a FARM-1 answer that hands on the data leads to
    have hdata : ∀ farmRet, ¬ IsCommand (osdlpTcUnpack tf rxBuffer) →
        Received (accepted ++
          if (receiveDataCopies hooks farmRet
                (setFarm (osdlpTcUnpack tf rxBuffer) farm)).value.code = TcRxResult.ok.code ∧
              ¬ IsCommand (osdlpTcUnpack tf rxBuffer) then
            [((osdlpTcUnpack tf rxBuffer).frameData.segHdr.seqFlag,
              (osdlpTcUnpack tf rxBuffer).frameData.payload)]
          else []) tf.mission
          (receiveDataCopies hooks farmRet (setFarm (osdlpTcUnpack tf rxBuffer) farm)) := by
      intro farmRet hno
      have hstep := @proceeds_data accepted (setFarm (osdlpTcUnpack tf rxBuffer) farm) hconfig hpayload
        hgathers hooks farmRet
      refine ⟨hstep.copies, hstep.sduLen, hstep.fixedOverheadLen, hstep.config, ?_⟩
      simp only [hno, not_false_iff, and_true]
      exact hstep.gathers
    cases hret : (osdlpFarm1 hooks.rxFull (osdlpTcUnpack tf rxBuffer)).1 with
    | enq =>
      apply hdata .enq
      intro hcmd
      rcases hcommand hcmd with h | h <;> rw [hret] at h <;> cases h
    | priorityEnq =>
      apply hdata .priorityEnq
      intro hcmd
      rcases hcommand hcmd with h | h <;> rw [hret] at h <;> cases h
    | ok =>
      refine ⟨allIn_pure _ _, rfl, rfl, hconfig, ?_⟩
      rw [if_neg (fun h => h.2 (hok hret)), List.append_nil]
      exact hgathers
    | discard =>
      refine ⟨allIn_pure _ _, rfl, rfl, hconfig, ?_⟩
      have hcode := (copErr_code_neg (setFarm (osdlpTcUnpack tf rxBuffer) farm)).ne
      rw [if_neg (fun h => absurd h.1 hcode), List.append_nil]
      exact hgathers
    | error =>
      refine ⟨allIn_pure _ _, rfl, rfl, hconfig.setUtil hconfig.buffer, ?_⟩
      exact Gathers.of_closed nofun
  · obtain ⟨err, tf', herr, hmission, hearly⟩ := tcReceiveCopies_not_admitted hadmitted
    rw [hearly]
    have hcode := rxError_code_ne herr tf'
    have hsame : (pure (rxError err tf') : TcCopies TcReceived).value.tf.mission = tf.mission :=
      hmission
    refine ⟨allIn_pure _ _, by rw [hsame], by rw [hsame], by rw [hsame]; exact hconfig, ?_⟩
    rw [if_neg (fun h => absurd h.1 hcode), List.append_nil, hsame]
    exact hgathers

/-! ## The run -/

/-- The receiver keeps within a buffer of `n` octets. -/
structure KeepsWithin (n overhead : ℕ) (s : ReceiverRun) : Prop where
  sduLen : s.tf.mission.maxSduLen = n
  fixedOverheadLen : s.tf.mission.fixedOverheadLen = overhead
  config : ReceiveConfig s.tf.mission
  gathers : Gathers s.accepted s.tf.mission
  copies : ∀ span ∈ s.copies, span.Inside n

/-- Every event keeps the copies inside, whatever the frame. -/
theorem KeepsWithin.step {n overhead : ℕ} {s : ReceiverRun} (h : KeepsWithin n overhead s)
    {op : ReceiverOp} (hop : op.Consistent overhead) :
    KeepsWithin n overhead (receiverStep s op) := by
  cases op with
  | farm farm => exact ⟨h.sduLen, h.fixedOverheadLen, h.config, h.gathers, h.copies⟩
  | receive hooks rxBuffer =>
    have hstep := received_call h.config h.gathers hooks (h.fixedOverheadLen.trans_le hop)
    refine ⟨hstep.sduLen.trans h.sduLen, hstep.fixedOverheadLen.trans h.fixedOverheadLen,
      hstep.config, hstep.gathers, ?_⟩
    intro span hspan
    rcases List.mem_append.mp hspan with hold | hnew
    · exact h.copies span hold
    · rw [← h.sduLen]
      exact hstep.copies span hnew

/-- **Reassembly stays inside its buffer.**  Whatever frames arrive at a closed receiver and
whatever the hooks answer, an open loop holds a FIRST segment and the CONT segments accepted since,
in at most `max_sdu_len` octets, and no copy writes behind them.  SOURCE: osdlp_tc.c:185-339 -/
theorem reassembly_inside {tf : FarmFrame} (hconfig : ReceiveConfig tf.mission)
    (hclosed : tf.mission.util.loopState = .loopClosed) (ops : List ReceiverOp)
    (hops : ∀ op ∈ ops, op.Consistent tf.mission.fixedOverheadLen) :
    let s := run receiverStep { tf := tf, accepted := [], copies := [] } ops
    Gathers s.accepted s.tf.mission ∧
      s.tf.mission.maxSduLen = tf.mission.maxSduLen ∧
      ∀ span ∈ s.copies, span.Inside tf.mission.maxSduLen := by
  have hrun : KeepsWithin tf.mission.maxSduLen tf.mission.fixedOverheadLen
      (run receiverStep { tf := tf, accepted := [], copies := [] } ops) := by
    refine run_inv (I := KeepsWithin tf.mission.maxSduLen tf.mission.fixedOverheadLen) ?_
      fun s op hmem hs => hs.step (hops op hmem)
    refine ⟨rfl, rfl, hconfig, Gathers.of_closed ?_, fun _ hmem => absurd hmem List.not_mem_nil⟩
    rw [hclosed]
    nofun
  exact ⟨hrun.gathers, hrun.sduLen, hrun.copies⟩

/-- A receiver with a utility buffer of a hundred octets. -/
def bufferingReceiver : FarmFrame :=
  setUtil freshReceiver
    { buffer := List.replicate 100 0, bufferedLength := 0, loopState := .loopClosed }

/-- A FIRST segment of two octets and a CONT segment of one. -/
def twoSegments : List ReceiverOp :=
  [.receive takingHooks [0, 0, 0, 7, 0, 0x40, 1, 2], .receive takingHooks [0, 0, 0, 6, 1, 0, 3]]

/-- An SDU in two segments. -/
theorem reassembly_inside_two_segments :
    let s := run receiverStep { tf := bufferingReceiver, accepted := [], copies := [] } twoSegments
    s.tf.mission.util.loopState = .loopOpen ∧
      s.accepted = [(.firstSeg, [1, 2]), (.contSeg, [3])] ∧
      Gathers s.accepted s.tf.mission ∧ s.tf.mission.maxSduLen = 100 ∧
      ∀ span ∈ s.copies, span.Inside 100 := by
  have hconfig : ReceiveConfig bufferingReceiver.mission :=
    ⟨rfl, by decide, by decide, by decide, rfl⟩
  refine ⟨by decide, by decide, reassembly_inside hconfig rfl twoSegments ?_⟩
  intro op hop
  rcases List.mem_cons.mp hop with rfl | hop
  · show 6 ≤ 7 + 1
    decide
  · obtain rfl := List.mem_singleton.mp hop
    show 6 ≤ 6 + 1
    decide

end Osdlp.Analysis
