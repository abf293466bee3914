import Osdlp.Interface.FarmStep
import Osdlp.Interface.TcReads

/-!
# What reception reads of a frame

`osdlp_tc_receive` compares the length field of a frame with the length of the buffer, but not
with the octets that the configuration takes for headers and checksum, and FARM-1 looks at the
octets of a command whether there are any or not.  So the function stays within the buffer, with
an exact `data_len`, exactly if the buffer holds the octets of the length field, the frame is no
shorter than its fixed part, and a command that is looked at is in the buffer
(`readsInside_iff`).
-/

set_option autoImplicit false

namespace Osdlp.Analysis

open Osdlp.Model Osdlp.Interface Osdlp.Library

/-! ## The property and the condition -/

/-- The frame gets as far as `osdlp_tc_unpack`. -/
structure Unpacks (hooks : RxHooks) (rxBuffer : List UInt8) : Prop where
  delimited : rxFrameLen rxBuffer + 1 ≤ rxBuffer.length
  length : 5 ≤ rxBuffer.length
  configured : 0 ≤ hooks.config

/-- All reads of `rx_buffer` are within the buffer, and the length of the data is exact. -/
structure ReadsInside (hooks : RxHooks) (tf : FarmFrame) (rxBuffer : List UInt8) : Prop where
  reads : AllIn (Span.Inside rxBuffer.length) (tcReceiveReads hooks tf rxBuffer rxBuffer.length)
  dataLen : Unpacks hooks rxBuffer →
    ((osdlpTcUnpack tf rxBuffer).frameData.dataLen : ℤ) =
      rxFrameLen rxBuffer + 1 - tf.mission.fixedOverheadLen

/-- FARM-1 looks at the data of the frame as those of a command. -/
def IsCommand (tf : FarmFrame) : Prop :=
  tf.primaryHdr.bypass = .typeB ∧ tf.primaryHdr.ctrlCmd = .command

/-- The octets of a command that FARM-1 looks at.
SOURCE: osdlp_cop.c:199-224, 287-304 -/
def commandLen (tf : FarmFrame) : ℕ :=
  if tf.frameData.data.getD 0 0 = setvrByte1 then
    if tf.frameData.data.getD 1 0 = setvrByte2 ∧ tf.copCfg.state ≠ .stateLockout then 3 else 2
  else 1

/-- The buffer holds the length field, the fixed part of a frame that is unpacked, and the
command that is looked at in a valid one. -/
structure HoldsFrame (hooks : RxHooks) (tf : FarmFrame) (rxBuffer : List UInt8) : Prop where
  lengthField : 4 ≤ rxBuffer.length
  overhead : Unpacks hooks rxBuffer → tf.mission.fixedOverheadLen ≤ rxFrameLen rxBuffer + 1
  command : Unpacks hooks rxBuffer →
    let unpacked := osdlpTcUnpack tf rxBuffer
    0 ≤ osdlpFrameValidationCheck unpacked rxBuffer → IsCommand unpacked →
      dataOffset tf.mission + commandLen unpacked ≤ rxBuffer.length

variable {hooks : RxHooks} {tf : FarmFrame} {rxBuffer : List UInt8} {n : ℕ}

/-! ## The reads of each function -/

/-- An octet is read inside the buffer if its index is. -/
theorem allIn_readOctet (rxBuffer : List UInt8) (i : ℤ) :
    AllIn (Span.Inside n) (readOctet rxBuffer i) ↔ 0 ≤ i ∧ i < n := by
  unfold readOctet
  rw [allIn_access, Span.inside_iff]
  dsimp only
  omega

/-- The checksum is read in the last octets of the frame. -/
theorem allIn_readTrailer (rxBuffer : List UInt8) {frameLen : ℕ} (hpos : 1 ≤ frameLen)
    (hlt : frameLen < n) : AllIn (Span.Inside n) (readTrailer rxBuffer frameLen) := by
  unfold readTrailer
  simp only [allIn_bind, allIn_readOctet, allIn_pure, and_true]
  omega

/-- The data are read behind the header. -/
theorem allIn_readData (tf : FarmFrame) (k : ℕ) :
    AllIn (Span.Inside n) (readData tf k) ↔ dataOffset tf.mission + k < n := by
  unfold readData
  rw [allIn_access, Span.inside_iff]
  dsimp only
  omega

/-- Unpacking stays within a buffer that holds the fixed part of the frame.
SOURCE: osdlp_tc.c:86-121 -/
theorem allIn_unpackReads (hover : tf.mission.fixedOverheadLen = tf.mission.overhead)
    (hfixed : tf.mission.fixedOverheadLen ≤ rxFrameLen rxBuffer + 1)
    (hn : rxFrameLen rxBuffer + 1 ≤ n) :
    AllIn (Span.Inside n) (unpackReads tf rxBuffer) := by
  have htrailer : tf.mission.crcFlag = true →
      AllIn (Span.Inside n) (readTrailer rxBuffer (tcUnpackHdr rxBuffer).frameLen.toNat) := by
    intro hcrc
    rw [hover] at hfixed
    unfold TcMissionParams.overhead at hfixed
    rw [if_pos hcrc] at hfixed
    rw [← rxFrameLen_eq]
    exact allIn_readTrailer rxBuffer (by omega) (by omega)
  have hfive : 5 ≤ tf.mission.fixedOverheadLen := by
    rw [hover]
    unfold TcMissionParams.overhead
    omega
  have hsix : tf.mission.segHdrFlag = true → 6 ≤ tf.mission.fixedOverheadLen := by
    intro hseg
    rw [hover]
    unfold TcMissionParams.overhead
    rw [if_pos hseg]
    omega
  unfold unpackReads
  simp only [allIn_bind, allIn_readOctet, allIn_pure, allIn_ite, and_true, true_and, implies_true]
  refine ⟨by omega, by omega, by omega, by omega, by omega, fun hseg => ⟨?_, htrailer⟩,
    fun _ => htrailer⟩
  have := hsix hseg
  omega

/-- Validation stays within a buffer that holds the octets of the checksum.
SOURCE: osdlp_crc.c:58-66, osdlp_tc.c:161-183 -/
theorem allIn_validationReads (rxBuffer : List UInt8)
    (hcrc : tf.mission.crcFlag = true →
      1 ≤ tf.primaryHdr.frameLen.toNat ∧ tf.primaryHdr.frameLen.toNat < n) :
    AllIn (Span.Inside n) (validationReads tf rxBuffer) := by
  unfold validationReads compareCrc
  simp only [allIn_ite, allIn_bind, allIn_pure, implies_true, and_self, and_true, true_and]
  intro _ _ hflag
  obtain ⟨hpos, hlt⟩ := hcrc hflag
  refine ⟨?_, allIn_readTrailer rxBuffer hpos hlt⟩
  unfold calcCrcReads
  rw [allIn_access, Span.inside_iff]
  dsimp only
  omega

/-- In LOCKOUT the third octet of the command is not read. -/
theorem allIn_farmE8Reads (tf : FarmFrame) :
    AllIn (Span.Inside n) (farmE8Reads tf) ↔
      (tf.copCfg.state ≠ .stateLockout → dataOffset tf.mission + 2 < n) := by
  unfold farmE8Reads
  cases tf.copCfg.state <;> simp [allIn_bind, allIn_readData]

/-- SOURCE: osdlp_cop.c:287-304 -/
theorem allIn_handleFarmTypebCmdReads (tf : FarmFrame) :
    AllIn (Span.Inside n) (handleFarmTypebCmdReads tf) ↔
      dataOffset tf.mission + commandLen tf ≤ n := by
  unfold handleFarmTypebCmdReads commandLen
  simp only [allIn_bind, allIn_ite, allIn_pure, allIn_readData, allIn_farmE8Reads, implies_true,
    and_true, true_and]
  show _ ∧ (¬ tf.frameData.data.getD 0 0 = 0 → _ ∧ (tf.frameData.data.getD 0 0 = setvrByte1 →
    _ ∧ (tf.frameData.data.getD 1 0 = setvrByte2 → _))) ↔ _
  generalize tf.frameData.data.getD 0 0 = first
  generalize tf.frameData.data.getD 1 0 = second
  by_cases hfirst : first = setvrByte1
  · have hset : ¬ setvrByte1 = 0 := by decide
    by_cases hsecond : second = setvrByte2
    · by_cases hstate : tf.copCfg.state = .stateLockout
      · simp [hfirst, hsecond, hset, hstate]
        omega
      · simp [hfirst, hsecond, hset, hstate]
        omega
    · simp [hfirst, hsecond, hset]
      omega
  · simp [hfirst]
    omega

/-- FARM-1 looks at the data of commands only.
SOURCE: osdlp_cop.c:314-336 -/
theorem allIn_farm1Reads (rxFull : Bool) (tf : FarmFrame) :
    AllIn (Span.Inside n) (farm1Reads rxFull tf) ↔
      (IsCommand tf → dataOffset tf.mission + commandLen tf ≤ n) := by
  unfold farm1Reads IsCommand
  cases tf.primaryHdr.bypass with
  | typeA => simp
  | typeB =>
    cases tf.primaryHdr.ctrlCmd with
    | data => simp
    | command => simpa using allIn_handleFarmTypebCmdReads tf

/-- A copy stays within a buffer that holds the data. -/
theorem allIn_copyData (tf : FarmFrame) (off : ℕ)
    (h : dataOffset tf.mission + tf.frameData.dataLen ≤ n) :
    AllIn (Span.Inside n) (copyData tf off) := by
  unfold copyData
  rw [allIn_access, Span.inside_iff]
  dsimp only
  omega

/-- SOURCE: osdlp_tc.c:209-338 -/
theorem allIn_receiveFarmedReads (hooks : RxHooks) (farmRet : FarmResult) (tf : FarmFrame)
    (h : dataOffset tf.mission + tf.frameData.dataLen ≤ n) :
    AllIn (Span.Inside n) (receiveFarmedReads hooks farmRet tf) := by
  have hdata : AllIn (Span.Inside n) (receiveDataReads hooks farmRet tf) := by
    unfold receiveDataReads receiveUnsegReads receiveFirstSegReads receiveLastSegReads
      receiveContSegReads receiveInLoopReads receiveWholeReads
    cases tf.frameData.segHdr.seqFlag <;>
      simp only [allIn_ite, allIn_bind, allIn_pure, allIn_copyData _ _ h, implies_true, and_self]
  unfold receiveFarmedReads
  cases farmRet <;> first | exact hdata | exact allIn_pure _ _

/-! ## The whole call -/

/-- Where the frame is unpacked, the reads are those of the parts of the call. -/
theorem allIn_tcReceiveReads (hunpacks : Unpacks hooks rxBuffer) :
    AllIn (Span.Inside n) (tcReceiveReads hooks tf rxBuffer rxBuffer.length) ↔
      4 ≤ n ∧ AllIn (Span.Inside n) (unpackReads tf rxBuffer) ∧
        AllIn (Span.Inside n) (validationReads (osdlpTcUnpack tf rxBuffer) rxBuffer) ∧
        (0 ≤ osdlpFrameValidationCheck (osdlpTcUnpack tf rxBuffer) rxBuffer →
          AllIn (Span.Inside n) (farm1Reads hooks.rxFull (osdlpTcUnpack tf rxBuffer)) ∧
            AllIn (Span.Inside n) (receiveFarmedReads hooks
              (osdlpFarm1 hooks.rxFull (osdlpTcUnpack tf rxBuffer)).1
              (osdlpFarm1 hooks.rxFull (osdlpTcUnpack tf rxBuffer)).2)) := by
  obtain ⟨hdelimited, hlength, hconfigured⟩ := hunpacks
  have hdelim : ¬ (rxFrameLen rxBuffer + 1 > rxBuffer.length ∨ rxBuffer.length < 5) := by omega
  have hconfig : ¬ hooks.config < 0 := by omega
  unfold tcReceiveReads
  simp only [allIn_bind, allIn_readOctet, allIn_ite, allIn_pure, value_unpackReads,
    value_validationReads, value_farm1Reads, implies_true, true_and]
  constructor
  · rintro ⟨-, hthree, hrest⟩
    obtain ⟨hunpack, hvalidation, hfarm⟩ := hrest hdelim hconfig
    exact ⟨by omega, hunpack, hvalidation, fun hvalid => hfarm (not_lt.mpr hvalid)⟩
  · rintro ⟨hfour, hunpack, hvalidation, hfarm⟩
    exact ⟨by omega, by omega, fun _ _ =>
      ⟨hunpack, hvalidation, fun hvalid => hfarm (not_lt.mp hvalid)⟩⟩

/-- Where it is not, only the length field is read. -/
theorem allIn_tcReceiveReads_early (hunpacks : ¬ Unpacks hooks rxBuffer) :
    AllIn (Span.Inside n) (tcReceiveReads hooks tf rxBuffer rxBuffer.length) ↔ 4 ≤ n := by
  unfold tcReceiveReads
  simp only [allIn_bind, allIn_readOctet, allIn_ite, allIn_pure, implies_true, true_and]
  constructor
  · rintro ⟨-, hthree, -⟩
    omega
  · intro hfour
    refine ⟨by omega, by omega, fun hdelim hconfig => absurd ⟨?_, ?_, by omega⟩ hunpacks⟩
    · show rxFrameLen rxBuffer + 1 ≤ rxBuffer.length
      have := not_or.mp hdelim
      exact Nat.le_of_not_lt this.1
    · have := not_or.mp hdelim
      exact Nat.le_of_not_lt this.2

/-- The length of the data is exact exactly if the frame is no shorter than its fixed part.
SOURCE: osdlp_tc.c:104-105 -/
theorem dataLen_exact_iff (tf : FarmFrame) (rxBuffer : List UInt8) :
    ((osdlpTcUnpack tf rxBuffer).frameData.dataLen : ℤ) =
        rxFrameLen rxBuffer + 1 - tf.mission.fixedOverheadLen ↔
      tf.mission.fixedOverheadLen ≤ rxFrameLen rxBuffer + 1 := by
  have hshort := (tcUnpackHdr rxBuffer).frameLen.isLt
  show (u16 ((tcUnpackHdr rxBuffer).frameLen.toNat + 1 - tf.mission.fixedOverheadLen) : ℤ) = _ ↔ _
  rw [rxFrameLen_eq]
  unfold u16
  omega

/-- A reception that unpacks the frame. -/
theorem readsInside_iff_of_unpacks (hunpacks : Unpacks hooks rxBuffer) :
    ReadsInside hooks tf rxBuffer ↔
      AllIn (Span.Inside rxBuffer.length) (tcReceiveReads hooks tf rxBuffer rxBuffer.length) ∧
        tf.mission.fixedOverheadLen ≤ rxFrameLen rxBuffer + 1 := by
  rw [← dataLen_exact_iff]
  exact ⟨fun h => ⟨h.reads, h.dataLen hunpacks⟩, fun h => ⟨h.1, fun _ => h.2⟩⟩

/-- **A reception stays within the buffer exactly if the buffer holds the length field, the fixed
part of the frame, and the command that is looked at.**
SOURCE: osdlp_tc.c:86-121, 161-339, osdlp_crc.c:58-66, osdlp_cop.c:199-224, 287-336 -/
theorem readsInside_iff (hover : tf.mission.fixedOverheadLen = tf.mission.overhead) :
    ReadsInside hooks tf rxBuffer ↔ HoldsFrame hooks tf rxBuffer := by
  by_cases hunpacks : Unpacks hooks rxBuffer
  · have hdelimited := hunpacks.delimited
    rw [readsInside_iff_of_unpacks hunpacks, allIn_tcReceiveReads hunpacks]
    constructor
    · rintro ⟨⟨hfour, -, -, hfarm⟩, hfixed⟩
      exact ⟨hfour, fun _ => hfixed, fun _ hvalid =>
        (allIn_farm1Reads hooks.rxFull (osdlpTcUnpack tf rxBuffer)).mp (hfarm hvalid).1⟩
    · intro h
      have hfixed := h.overhead hunpacks
      refine ⟨⟨h.lengthField, allIn_unpackReads hover hfixed hdelimited,
        allIn_validationReads rxBuffer fun hcrc => ?_, fun hvalid =>
        ⟨(allIn_farm1Reads hooks.rxFull _).mpr (h.command hunpacks hvalid),
          allIn_receiveFarmedReads hooks _ _ ?_⟩⟩, hfixed⟩
      · have hseven : 7 ≤ tf.mission.fixedOverheadLen := by
          rw [hover]
          unfold TcMissionParams.overhead
          rw [if_pos (show tf.mission.crcFlag = true from hcrc)]
          omega
        show 1 ≤ (tcUnpackHdr rxBuffer).frameLen.toNat ∧
          (tcUnpackHdr rxBuffer).frameLen.toNat < rxBuffer.length
        rw [← rxFrameLen_eq]
        omega
      · obtain ⟨farm, hfarm⟩ := osdlpFarm1_frame hooks.rxFull (osdlpTcUnpack tf rxBuffer)
        have hexact := (dataLen_exact_iff tf rxBuffer).mpr hfixed
        have hoffset : dataOffset tf.mission ≤ tf.mission.fixedOverheadLen := by
          rw [hover]
          unfold dataOffset TcMissionParams.overhead
          split_ifs <;> omega
        rw [hfarm]
        show dataOffset tf.mission + (osdlpTcUnpack tf rxBuffer).frameData.dataLen ≤ _
        omega
  · constructor
    · intro h
      exact ⟨(allIn_tcReceiveReads_early hunpacks).mp h.reads,
        fun hyes => absurd hyes hunpacks, fun hyes => absurd hyes hunpacks⟩
    · intro h
      exact ⟨(allIn_tcReceiveReads_early hunpacks).mpr h.lengthField,
        fun hyes => absurd hyes hunpacks⟩

/-! ## Five octets of zeros -/

/-- What `osdlp_tc_init` makes the fixed part of a frame is what the flags add up to. -/
theorem osdlpTcInit_overhead {Cop : Type} {m : TcMissionParams} {rx₀ rx : TcTransferFrame Cop}
    {a : TcInitArgs} {cop : Cop} (h : osdlpTcInit m rx₀ a cop = some rx) :
    rx.mission.fixedOverheadLen = rx.mission.overhead := by
  unfold osdlpTcInit at h
  split_ifs at h
  cases h
  rfl

/-- The arguments of a channel with a checksum and no segment header. -/
def checkedArgs : TcInitArgs :=
  { (default : TcInitArgs) with maxSduLen := 64, maxFrameLen := 32, crcFlag := true }

/-- The receiving end of that channel. -/
def checkedRx : FarmFrame :=
  (osdlpTcInit default default checkedArgs
    (osdlpPrepareFarm default .stateOpen 10)).getD default

theorem checkedRx_init : osdlpTcInit default default checkedArgs
    (osdlpPrepareFarm default .stateOpen 10) = some checkedRx := rfl

/-- A queue that takes everything. -/
def takingHooks : RxHooks := { config := 0, rxFull := false, enqueue := 0, enqueueNow := 0 }

/-- A frame of seven octets and its checksum. -/
def sevenOctets : List UInt8 :=
  let body := [0, 0, 0, 8, 0, 1, 2]
  let crc := osdlpCalcCrc body 7
  body ++ [UInt8.ofNat (crc.toNat / 256), UInt8.ofNat crc.toNat]

/-- A frame of seven octets and its checksum. -/
theorem readsInside_iff_sevenOctets :
    ReadsInside takingHooks checkedRx sevenOctets ↔
      HoldsFrame takingHooks checkedRx sevenOctets :=
  readsInside_iff (osdlpTcInit_overhead checkedRx_init)

/-- Where a checksum is configured, a frame of five zeros has its trailer in front of the buffer,
the loop of the checksum runs over `2^32 - 1` octets, and the length of the data wraps round. -/
theorem not_readsInside_five_zeros :
    let rxBuffer : List UInt8 := [0, 0, 0, 0, 0]
    let log := (tcReceiveReads takingHooks checkedRx rxBuffer 5).log
    ¬ ReadsInside takingHooks checkedRx rxBuffer ∧ ⟨-1, 1⟩ ∈ log ∧ ⟨0, 4294967295⟩ ∈ log ∧
      (osdlpTcUnpack checkedRx rxBuffer).frameData.dataLen = 65530 := by
  intro rxBuffer log
  refine ⟨fun h => ?_, by decide +kernel, by decide +kernel, by decide +kernel⟩
  have hfixed := (dataLen_exact_iff _ _).mp (h.dataLen ⟨by decide, by decide, by decide⟩)
  exact absurd hfixed (by decide)

end Osdlp.Analysis
