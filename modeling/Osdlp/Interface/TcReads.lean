import Osdlp.Library.Traced
import Osdlp.Model.TcReceive

/-!
# What a reception reads

`osdlp_tc_receive` once more, with every access to `rx_buffer` logged: the functions below are
those of the model, octet by octet and copy by copy, and compute the same
(`value_tcReceiveReads`).
-/

set_option autoImplicit false

namespace Osdlp.Interface

open Osdlp.Model Osdlp.Library

/-- A computation that reads `rx_buffer`. -/
abbrev TcReads := Traced Span

/-- `rx_buffer[i]` -/
def readOctet (rxBuffer : List UInt8) (i : ℤ) : TcReads UInt8 := ⟨octetAt rxBuffer i, [⟨i, 1⟩]⟩

/-- The checksum in the octets `frame_len - 1` and `frame_len`.
SOURCE: osdlp_tc.c:117-120, 174-175 -/
def readTrailer (rxBuffer : List UInt8) (frameLen : ℕ) : TcReads UInt16 := do
  let hi ← readOctet rxBuffer (frameLen - 1)
  let lo ← readOctet rxBuffer frameLen
  return hi.toUInt16 <<< 8 ||| lo.toUInt16

/-- SOURCE: osdlp_tc.c:86-121 -/
def unpackReads (tf : FarmFrame) (pktIn : List UInt8) : TcReads FarmFrame := do
  let p0 ← readOctet pktIn 0
  let p1 ← readOctet pktIn 1
  let p2 ← readOctet pktIn 2
  let p3 ← readOctet pktIn 3
  let p4 ← readOctet pktIn 4
  let hdr : TcPrimaryHdr :=
    { versionNum := BitVec.ofNat 2 (p0 >>> 6).toNat
      bypass := .ofOctet ((p0 >>> 5) &&& 0x01)
      ctrlCmd := .ofOctet ((p0 >>> 4) &&& 0x01)
      rsvdSpare := BitVec.ofNat 2 ((p0 >>> 2) &&& 0x03).toNat
      spacecraftId := BitVec.ofNat 10 ((p0 &&& 0x03).toNat * 256 + p1.toNat)
      vcid := BitVec.ofNat 6 (p2 >>> 2).toNat
      frameLen := BitVec.ofNat 10 ((p2 &&& 0x03).toNat * 256 + p3.toNat)
      frameSeqNum := p4 }
  let frameData : TcFdf ←
    if tf.mission.segHdrFlag then do
      let p5 ← readOctet pktIn 5
      pure
        { segHdr :=
            { seqFlag := .ofOctet (p5 >>> 6), mapId := BitVec.ofNat 6 (p5 &&& 0x3f).toNat }
          data := pktIn.drop 6
          dataLen := u16 (hdr.frameLen.toNat + 1 - tf.mission.fixedOverheadLen) }
    else
      pure
        { tf.frameData with
          data := pktIn.drop 5
          dataLen := u16 (hdr.frameLen.toNat + 1 - tf.mission.fixedOverheadLen) }
  let crc ← if tf.mission.crcFlag then readTrailer pktIn hdr.frameLen.toNat else pure tf.crc
  return { tf with primaryHdr := hdr, frameData := frameData, crc := crc }

/-- The loop reads as many octets as the unsigned length says.
SOURCE: osdlp_crc.c:58-66 -/
def calcCrcReads (data : List UInt8) (length : ℕ) : TcReads UInt16 :=
  ⟨osdlpCalcCrc data length, [⟨0, length⟩]⟩

/-- Two checksums are computed or read, and compared.
SOURCE: osdlp_tc.c:173-179 -/
def compareCrc (computed received : TcReads UInt16) : TcReads Int := do
  let crc ← computed
  let rxCrc ← received
  if crc ≠ rxCrc then return -1 else return 0

/-- SOURCE: osdlp_tc.c:161-183 -/
def validationReads (tf : FarmFrame) (rxBuffer : List UInt8) : TcReads Int :=
  if tf.mission.versionNum.toNat ≠ tf.primaryHdr.versionNum.toNat then return -1
  else if tf.mission.spacecraftId.toNat ≠ tf.primaryHdr.spacecraftId.toNat then return -1
  else if tf.mission.crcFlag then
    compareCrc (calcCrcReads rxBuffer ((tf.primaryHdr.frameLen.toNat + 2 ^ 32 - 1) % 2 ^ 32))
      (readTrailer rxBuffer tf.primaryHdr.frameLen.toNat)
  else return 0

/-- Where the data pointer points to in `rx_buffer`.
SOURCE: osdlp_tc.c:111, 114 -/
def dataOffset (m : TcMissionParams) : ℕ := if m.segHdrFlag then 6 else 5

/-- `frame_data.data[k]` -/
def readData (tf : FarmFrame) (k : ℕ) : TcReads UInt8 :=
  ⟨tf.frameData.data.getD k 0, [⟨(dataOffset tf.mission + k : ℕ), 1⟩]⟩

/-- SOURCE: osdlp_cop.c:199-224 -/
def farmE8Reads (tf : FarmFrame) : TcReads (FarmResult × FarmFrame) :=
  let counted := { tf.copCfg with farmbCnt := nextFarmbCnt tf.copCfg.farmbCnt }
  match tf.copCfg.state with
  | .stateOpen => do
    let vr ← readData tf 2
    return (.ok, setFarm tf { counted with vr := vr, retransmit := false })
  | .stateWait => do
    let vr ← readData tf 2
    return (.ok, setFarm tf
      { counted with vr := vr, retransmit := false, wait := false, state := .stateOpen })
  | .stateLockout => return (.ok, setFarm tf counted)

/-- SOURCE: osdlp_cop.c:287-304 -/
def handleFarmTypebCmdReads (tf : FarmFrame) : TcReads (FarmResult × FarmFrame) := do
  let unlock ← readData tf 0
  if unlock = 0 then return farmE7 tf
  else
    let first ← readData tf 0
    -- the second octet is only read if the first one matches
    if first = setvrByte1 then
      let second ← readData tf 1
      if second = setvrByte2 then farmE8Reads tf else return (.error, tf)
    else return (.error, tf)

/-- SOURCE: osdlp_cop.c:314-336 -/
def farm1Reads (rxFull : Bool) (tf : FarmFrame) : TcReads (FarmResult × FarmFrame) :=
  match tf.primaryHdr.bypass with
  | .typeA => return handleFarmTypea rxFull tf
  | .typeB =>
    match tf.primaryHdr.ctrlCmd with
    | .data => return handleFarmTypebData tf
    | .command => handleFarmTypebCmdReads tf

/-- The data field is copied to an offset of the utility buffer. -/
def copyData (tf : FarmFrame) (off : ℕ) : TcReads (List UInt8) :=
  ⟨copiedTo tf off, [⟨dataOffset tf.mission, tf.frameData.dataLen⟩]⟩

/-- SOURCE: osdlp_tc.c:217-239 -/
def receiveUnsegReads (hooks : RxHooks) (farmRet : FarmResult) (tf : FarmFrame) :
    TcReads TcReceived :=
  if tf.frameData.dataLen > tf.mission.maxDataLen then return rxError .copErr tf
  else do
    let buffer ← copyData tf 0
    return rxOffer hooks farmRet (buffer.take tf.frameData.dataLen)
      (setUtil tf { buffer := buffer, bufferedLength := 0, loopState := .loopClosed })

/-- SOURCE: osdlp_tc.c:240-254 -/
def receiveFirstSegReads (tf : FarmFrame) : TcReads TcReceived :=
  if tf.mission.util.loopState ≠ .loopClosed then
    return rxError .copErr
      (setUtil tf { tf.mission.util with bufferedLength := 0, loopState := .loopClosed })
  else if tf.frameData.dataLen > tf.mission.maxDataLen then
    return rxError .copErr
      (setUtil tf { tf.mission.util with bufferedLength := tf.frameData.dataLen })
  else do
    let buffer ← copyData tf 0
    return rxDone (setUtil tf
      { buffer := buffer, bufferedLength := tf.frameData.dataLen, loopState := .loopOpen })

/-- SOURCE: osdlp_tc.c:256-266, 286-296 -/
def receiveInLoopReads (next : TcReads TcReceived) (tf : FarmFrame) : TcReads TcReceived :=
  if tf.mission.util.loopState ≠ .loopOpen then
    return rxError .copErr (setUtil tf { tf.mission.util with bufferedLength := 0 })
  else if tf.frameData.dataLen + tf.mission.util.bufferedLength > tf.mission.maxSduLen then
    return rxError .copErr
      (setUtil tf { tf.mission.util with bufferedLength := 0, loopState := .loopClosed })
  else next

/-- SOURCE: osdlp_tc.c:255-284 -/
def receiveLastSegReads (hooks : RxHooks) (farmRet : FarmResult) (tf : FarmFrame) :
    TcReads TcReceived :=
  let util := tf.mission.util
  receiveInLoopReads (do
    let buffer ← copyData tf util.bufferedLength
    return rxOffer hooks farmRet (buffer.take (util.bufferedLength + tf.frameData.dataLen))
      (setUtil tf { util with buffer := buffer, loopState := .loopClosed })) tf

/-- SOURCE: osdlp_tc.c:285-302 -/
def receiveContSegReads (tf : FarmFrame) : TcReads TcReceived :=
  let util := tf.mission.util
  receiveInLoopReads (do
    let buffer ← copyData tf util.bufferedLength
    return rxDone (setUtil tf
      { util with
        buffer := buffer
        bufferedLength := u16 (util.bufferedLength + tf.frameData.dataLen) })) tf

/-- SOURCE: osdlp_tc.c:304-329 -/
def receiveWholeReads (hooks : RxHooks) (farmRet : FarmResult) (tf : FarmFrame) :
    TcReads TcReceived :=
  if tf.frameData.dataLen > tf.mission.maxSduLen then
    return rxError .copErr
      (setUtil tf { tf.mission.util with bufferedLength := 0, loopState := .loopClosed })
  else do
    let buffer ← copyData tf 0
    return rxOffer hooks farmRet (buffer.take tf.frameData.dataLen)
      (setUtil tf { buffer := buffer, bufferedLength := 0, loopState := .loopClosed })

/-- SOURCE: osdlp_tc.c:215-329 -/
def receiveDataReads (hooks : RxHooks) (farmRet : FarmResult) (tf : FarmFrame) :
    TcReads TcReceived :=
  if tf.mission.segHdrFlag then
    match tf.frameData.segHdr.seqFlag with
    | .unseg => receiveUnsegReads hooks farmRet tf
    | .firstSeg => receiveFirstSegReads tf
    | .lastSeg => receiveLastSegReads hooks farmRet tf
    | .contSeg => receiveContSegReads tf
  else receiveWholeReads hooks farmRet tf

/-- SOURCE: osdlp_tc.c:209-338 -/
def receiveFarmedReads (hooks : RxHooks) (farmRet : FarmResult) (tf : FarmFrame) :
    TcReads TcReceived :=
  match farmRet with
  | .enq | .priorityEnq => receiveDataReads hooks farmRet tf
  | .error | .ok | .discard => return receiveFarmed hooks farmRet tf

/-- SOURCE: osdlp_tc.c:185-339 -/
def tcReceiveReads (hooks : RxHooks) (tf : FarmFrame) (rxBuffer : List UInt8) (length : ℕ) :
    TcReads TcReceived := do
  let p2 ← readOctet rxBuffer 2
  let p3 ← readOctet rxBuffer 3
  let frameLen := (p2 &&& 0x03).toNat * 256 + p3.toNat
  if frameLen + 1 > length ∨ length < 5 then return rxError .frameLenErr tf
  else if hooks.config < 0 then return rxError .configErr tf
  else
    let tf ← unpackReads tf rxBuffer
    let ret ← validationReads tf rxBuffer
    if ret < 0 then return rxError .frameValErr tf
    else
      let farm ← farm1Reads hooks.rxFull tf
      receiveFarmedReads hooks farm.1 farm.2

/-! ## The same values -/

/-- The reads of the header, without their log. -/
theorem value_unpackReads (tf : FarmFrame) (pktIn : List UInt8) :
    (unpackReads tf pktIn).value = osdlpTcUnpack tf pktIn := by
  unfold unpackReads osdlpTcUnpack
  cases tf.mission.segHdrFlag <;> cases tf.mission.crcFlag <;> rfl

theorem value_readTrailer (rxBuffer : List UInt8) (frameLen : ℕ) :
    (readTrailer rxBuffer frameLen).value = trailerCrc rxBuffer frameLen := (rfl)

theorem value_calcCrcReads (data : List UInt8) (length : ℕ) :
    (calcCrcReads data length).value = osdlpCalcCrc data length := (rfl)

/-- Both sides are read whatever the outcome. -/
theorem value_compareCrc (computed received : TcReads UInt16) :
    (compareCrc computed received).value = if computed.value ≠ received.value then -1 else 0 := by
  unfold compareCrc
  simp only [Traced.value_bind, Traced.value_ite, Traced.value_pure]

/-- The log changes nothing of the validation. -/
theorem value_validationReads (tf : FarmFrame) (rxBuffer : List UInt8) :
    (validationReads tf rxBuffer).value = osdlpFrameValidationCheck tf rxBuffer := by
  unfold validationReads osdlpFrameValidationCheck
  by_cases hversion : tf.mission.versionNum.toNat ≠ tf.primaryHdr.versionNum.toNat
  · rw [if_pos hversion]
    exact (if_pos hversion).symm
  by_cases hscid : tf.mission.spacecraftId.toNat ≠ tf.primaryHdr.spacecraftId.toNat
  · rw [if_neg hversion, if_pos hscid]
    exact ((if_neg hversion).trans (if_pos hscid)).symm
  rw [if_neg hversion, if_neg hscid]
  refine Eq.trans ?_ ((if_neg hversion).trans (if_neg hscid)).symm
  -- the comparison is split by hand: evaluating its instances would run the loop
  by_cases hcrc : tf.mission.crcFlag = true
  · rw [if_pos hcrc, value_compareCrc, value_calcCrcReads, value_readTrailer]
    split_ifs with hne hboth hboth
    · rfl
    · exact absurd ⟨hcrc, hne⟩ hboth
    · exact absurd hboth.2 hne
    · rfl
  · rw [if_neg hcrc]
    exact (if_neg fun h => hcrc h.1).symm

/-- The log changes nothing of a command. -/
theorem value_handleFarmTypebCmdReads (tf : FarmFrame) :
    (handleFarmTypebCmdReads tf).value = handleFarmTypebCmd tf := by
  have hset : (farmE8Reads tf).value = farmE8 tf := by
    unfold farmE8Reads farmE8
    cases tf.copCfg.state <;> rfl
  unfold handleFarmTypebCmdReads handleFarmTypebCmd
  simp only [Traced.value_bind, Traced.value_ite, Traced.value_pure, hset, readData]
  split_ifs <;> simp_all

/-- The log changes nothing of the FARM, which reads the data of commands only. -/
theorem value_farm1Reads (rxFull : Bool) (tf : FarmFrame) :
    (farm1Reads rxFull tf).value = osdlpFarm1 rxFull tf := by
  unfold farm1Reads osdlpFarm1
  cases tf.primaryHdr.bypass with
  | typeA => rfl
  | typeB =>
    cases tf.primaryHdr.ctrlCmd with
    | data => rfl
    | command => exact value_handleFarmTypebCmdReads tf

/-- The log changes nothing of the reassembly. -/
theorem value_receiveDataReads (hooks : RxHooks) (farmRet : FarmResult) (tf : FarmFrame) :
    (receiveDataReads hooks farmRet tf).value = receiveData hooks farmRet tf := by
  unfold receiveDataReads receiveData
  split_ifs
  · cases tf.frameData.segHdr.seqFlag with
    | unseg =>
      unfold receiveUnsegReads receiveUnseg
      rw [Traced.value_ite]
      rfl
    | firstSeg =>
      unfold receiveFirstSegReads receiveFirstSeg
      rw [Traced.value_ite, Traced.value_ite]
      rfl
    | lastSeg =>
      unfold receiveLastSegReads receiveLastSeg receiveInLoopReads receiveInLoop
      rw [Traced.value_ite, Traced.value_ite]
      rfl
    | contSeg =>
      unfold receiveContSegReads receiveContSeg receiveInLoopReads receiveInLoop
      rw [Traced.value_ite, Traced.value_ite]
      rfl
  · unfold receiveWholeReads receiveWhole
    rw [Traced.value_ite]
    rfl

/-- The log changes nothing of what follows the FARM. -/
theorem value_receiveFarmedReads (hooks : RxHooks) (farmRet : FarmResult) (tf : FarmFrame) :
    (receiveFarmedReads hooks farmRet tf).value = receiveFarmed hooks farmRet tf := by
  unfold receiveFarmedReads
  cases farmRet with
  | enq => exact value_receiveDataReads hooks .enq tf
  | priorityEnq => exact value_receiveDataReads hooks .priorityEnq tf
  | ok => rfl
  | discard => rfl
  | error => rfl

/-- The logged function computes what the modelled one does. -/
theorem value_tcReceiveReads (hooks : RxHooks) (tf : FarmFrame) (rxBuffer : List UInt8)
    (length : ℕ) :
    (tcReceiveReads hooks tf rxBuffer length).value = osdlpTcReceive hooks tf rxBuffer length := by
  unfold tcReceiveReads osdlpTcReceive
  simp only [Traced.value_bind, Traced.value_ite, Traced.value_pure, value_unpackReads,
    value_validationReads, value_farm1Reads, value_receiveFarmedReads]
  rfl

end Osdlp.Interface
