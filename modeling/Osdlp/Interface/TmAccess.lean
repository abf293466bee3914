import Osdlp.Library.Traced
import Osdlp.Model.TmReceive

/-!
# What a telemetry reception touches

`osdlp_tm_receive` once more, with every access to the frame, to its data field and to the utility
buffer logged, the octets in which `osdlp_tm_get_packet_len` may search among them.  A length is
logged as the integer expression of the source, before it is passed on in sixteen bits.  The
functions compute what those of the model do (`value_tmReceiveAccess`).
-/

set_option autoImplicit false

namespace Osdlp.Interface

open Osdlp.Model Osdlp.Library

/-- What is touched: the octets of `data_in`, those from `tm_tf->data` on, or the utility
buffer. -/
inductive TmRegion
  | frame
  | dataField
  | utilBuffer
  deriving DecidableEq, Repr

/-- The octets that the region has. -/
def TmRegion.size (m : TmMissionParams) : TmRegion → ℕ
  | .frame => m.frameLen
  | .dataField => m.maxDataLen
  | .utilBuffer => m.maxSduLen

/-- An access to a region. -/
structure TmAccess where
  region : TmRegion
  span : Span
  deriving DecidableEq, Repr

/-- The access stays within its region, and its length is no negative one. -/
def TmAccess.Inside (m : TmMissionParams) (a : TmAccess) : Prop :=
  0 ≤ a.span.count ∧ a.span.Inside (a.region.size m)

instance (m : TmMissionParams) (a : TmAccess) : Decidable (a.Inside m) :=
  inferInstanceAs (Decidable (_ ∧ _))

/-- A computation that touches the regions. -/
abbrev TmTraced := Traced TmAccess

/-- `pkt_in[i]` -/
def readFrame (pktIn : List UInt8) (i : ℕ) : TmTraced UInt8 := ⟨pktIn.getD i 0, [⟨.frame, i, 1⟩]⟩

/-- SOURCE: osdlp_tm.c:171-174 -/
def readSecHdr (tf : TmTransferFrame) (secHdr : Bool) (pktIn : List UInt8) : TmTraced TmSecHdr :=
  if secHdr then do
    let p6 ← readFrame pktIn 6
    return { tf.secondaryHdr with
      versionNum := BitVec.ofNat 2 ((p6 >>> 6) &&& 0x03).toNat
      length := BitVec.ofNat 6 (p6 &&& 0x3f).toNat }
  else return tf.secondaryHdr

/-- SOURCE: osdlp_tm.c:177-181 -/
def readOcf (tf : TmTransferFrame) (ocf : Bool) (pktIn : List UInt8) : TmTraced (List UInt8) :=
  let off := tf.mission.headerLen + tf.mission.maxDataLen
  if ocf then ⟨memWrite tf.ocf 0 (region pktIn off 4), [⟨.frame, off, 4⟩]⟩ else return tf.ocf

/-- SOURCE: osdlp_tm.c:182-186 -/
def readCrc (tf : TmTransferFrame) (pktIn : List UInt8) : TmTraced UInt16 :=
  if tf.mission.crcPresent then do
    let hi ← readFrame pktIn (tf.mission.frameLen - 2)
    let lo ← readFrame pktIn (tf.mission.frameLen - 1)
    return hi.toUInt16 <<< 8 ||| lo.toUInt16
  else return tf.crc

/-- SOURCE: osdlp_tm.c:155-187 -/
def tmUnpackAccess (tf : TmTransferFrame) (pktIn : List UInt8) : TmTraced TmTransferFrame := do
  let p0 ← readFrame pktIn 0
  let p1 ← readFrame pktIn 1
  let p2 ← readFrame pktIn 2
  let p3 ← readFrame pktIn 3
  let p4 ← readFrame pktIn 4
  let p5 ← readFrame pktIn 5
  let hdr : TmPrimaryHdr :=
    { versionNum := if p0 >>> 6 = 0 then 0 else 1
      spacecraftId := BitVec.ofNat 10 ((p0 &&& 0x3f).toNat * 16 + ((p1 >>> 4) &&& 0x0f).toNat)
      vcid := BitVec.ofNat 3 ((p1 >>> 1) &&& 0x07).toNat
      ocf := p1 &&& 0x01 != 0
      mcFrameCnt := p2
      vcFrameCnt := p3
      secHdr := (p4 >>> 7) &&& 0x01 != 0
      sync := (p4 >>> 6) &&& 0x01 != 0
      pktOrder := (p4 >>> 5) &&& 0x01 != 0
      segLenId := BitVec.ofNat 2 ((p4 >>> 3) &&& 0x03).toNat
      firstHdrPtr := BitVec.ofNat 11 ((p4 &&& 0x07).toNat * 256 + p5.toNat) }
  let secondaryHdr ← readSecHdr tf hdr.secHdr pktIn
  let ocf ← readOcf tf hdr.ocf pktIn
  let crc ← readCrc tf pktIn
  return { tf with
    primaryHdr := hdr
    secondaryHdr := secondaryHdr
    data := pktIn.drop tf.mission.headerLen
    ocf := ocf
    crc := crc }

/-- `memcpy` from an offset of the data field to one of the utility buffer.  `count` is the length
of the source, and `taken` what it is in sixteen bits. -/
def copyOctets (r : TmReceiver) (src dst taken : ℕ) (count : ℤ) : TmTraced (List UInt8) :=
  ⟨memWrite r.tf.mission.util.buffer dst ((r.tf.data.drop src).take taken),
    [⟨.dataField, src, count⟩, ⟨.utilBuffer, dst, count⟩]⟩

/-- `osdlp_tm_get_packet_len` on the data field from an offset on. -/
def searchData (getPacketLen : GetPacketLen) (r : TmReceiver) (src memLen : ℕ) (count : ℤ) :
    TmTraced (Option UInt16) :=
  ⟨getPacketLen (r.tf.data.drop src) memLen, [⟨.dataField, src, count⟩]⟩

/-- `osdlp_tm_get_packet_len` on the utility buffer. -/
def searchBuffer (getPacketLen : GetPacketLen) (buffer : List UInt8) (count : ℕ) :
    TmTraced (Option UInt16) :=
  ⟨getPacketLen buffer (u16 count), [⟨.utilBuffer, 0, count⟩]⟩

/-! ## Stuffing off -/

/-- SOURCE: osdlp_tm.c:416-445 -/
def handleNsPtrZeroAccess (getPacketLen : GetPacketLen) (r : TmReceiver) :
    TmTraced (TmRxResult × TmReceiver) := do
  let m := r.tf.mission
  let found ← searchData getPacketLen r 0 m.maxDataLen m.maxDataLen
  match found with
  | none => return (.error, r)
  | some length =>
    let util := { m.util with expectedPktLen := length.toNat }
    if length.toNat > m.maxDataLen then
      let buffer ← copyOctets r 0 0 m.maxDataLen m.maxDataLen
      return (.pending, r.setUtil
        { util with buffer := buffer, loopState := .loopOpen, bufferedLength := m.maxDataLen })
    else
      let buffer ← copyOctets r 0 0 length.toNat length.toNat
      return deliverUtil r { util with buffer := buffer }

/-- SOURCE: osdlp_tm.c:461-484, 601-627 -/
def continuePacketAccess (r : TmReceiver) (usableLen : ℕ) : TmTraced (TmRxResult × TmReceiver) :=
  let util := r.tf.mission.util
  if util.bufferedLength + usableLen > r.tf.mission.maxSduLen then return (.error, closeLoop r)
  else do
    let buffer ← copyOctets r 0 util.bufferedLength usableLen usableLen
    if util.bufferedLength + usableLen = util.expectedPktLen then
      return deliverUtil r { util with buffer := buffer }
    else
      return (.pending, r.setUtil
        { util with
          buffer := buffer
          bufferedLength := u16 (util.bufferedLength + usableLen) })

/-- SOURCE: osdlp_tm.c:447-485 -/
def handleNsPtrPositiveAccess (r : TmReceiver) : TmTraced (TmRxResult × TmReceiver) :=
  if r.tf.mission.util.loopState = .loopClosed then return (.error, r)
  else continuePacketAccess r (usableLen r.tf)

/-- SOURCE: osdlp_tm.c:487-502 -/
def handleRxNoStuffingAccess (getPacketLen : GetPacketLen) (r : TmReceiver) :
    TmTraced (TmRxResult × TmReceiver) :=
  if r.tf.primaryHdr.firstHdrPtr = 0 then handleNsPtrZeroAccess getPacketLen r
  else handleNsPtrPositiveAccess r

/-! ## Stuffing on -/

/-- SOURCE: osdlp_tm.c:511-555, 682-726 -/
def explorePacketsAccess (getPacketLen : GetPacketLen) :
    ℕ → ℕ → TmReceiver → TmTraced (Option (TmRxResult × TmReceiver))
  | 0, _, _ => return none
  | fuel + 1, bytesExplored, r => do
    let m := r.tf.mission
    let rest := u16 (m.maxDataLen - bytesExplored : ℤ)
    let first : UInt8 ← ⟨r.tf.data.getD bytesExplored 0, [⟨.dataField, bytesExplored, 1⟩]⟩
    if first = tmIdlePacket then
      return some (.ok, r.setUtil
        { m.util with loopState := .loopClosed, bufferedLength := 0, expectedPktLen := 0 })
    else
      let found ← searchData getPacketLen r bytesExplored rest (m.maxDataLen - bytesExplored)
      match found with
      | none =>
        let tail ← copyOctets r bytesExplored 0 rest (m.maxDataLen - bytesExplored)
        return some (.pending, r.setUtil
          { buffer := tail, loopState := .loopOpen, bufferedLength := rest, expectedPktLen := 0 })
      | some length =>
        if length.toNat + bytesExplored > m.maxDataLen then
          let tail ← copyOctets r bytesExplored 0 rest (m.maxDataLen - bytesExplored)
          return some (.pending, r.setUtil
            { buffer := tail
              loopState := .loopOpen
              bufferedLength := rest
              expectedPktLen := length.toNat })
        else
          let buffer ← copyOctets r bytesExplored 0 length.toNat length.toNat
          let sent := osdlpTmRxQueueEnqueue (r.setUtil
            { buffer := buffer, loopState := .loopClosed, bufferedLength := 0, expectedPktLen := 0 })
          if sent.1 < 0 then return some (.denied, sent.2)
          else if u16 (bytesExplored + length.toNat) = m.maxDataLen then return some (.ok, sent.2)
          else explorePacketsAccess getPacketLen fuel (u16 (bytesExplored + length.toNat)) sent.2

/-- SOURCE: osdlp_tm.c:558-628 -/
def handleSPtrNopktAccess (getPacketLen : GetPacketLen) (r : TmReceiver) :
    TmTraced (TmRxResult × TmReceiver) :=
  let m := r.tf.mission
  let util := m.util
  if util.loopState = .loopClosed then return (.error, r)
  else if util.expectedPktLen = 0 then
    if util.bufferedLength + m.maxDataLen < m.maxSduLen then do
      let buffer ← copyOctets r 0 util.bufferedLength m.maxDataLen m.maxDataLen
      let found ← searchBuffer getPacketLen buffer (m.maxDataLen + util.bufferedLength)
      match found with
      | some length =>
        -- the same octets are copied once more
        let buffer ← copyOctets r 0 util.bufferedLength m.maxDataLen m.maxDataLen
        if m.maxDataLen + util.bufferedLength = length.toNat then
          return deliverUtil r { util with buffer := buffer }
        else
          return (.pending, r.setUtil
            { util with
              buffer := buffer
              bufferedLength := u16 (util.bufferedLength + m.maxDataLen) })
      | none => continuePacketAccess (r.setUtil { util with buffer := buffer }) m.maxDataLen
    else return (.error, closeLoop r)
  else continuePacketAccess r m.maxDataLen

/-- SOURCE: osdlp_tm.c:637-680 -/
def finishPacketAccess (getPacketLen : GetPacketLen) (r : TmReceiver) :
    TmTraced (Option TmRxResult × TmReceiver) :=
  let m := r.tf.mission
  let util := m.util
  let ptr := r.tf.primaryHdr.firstHdrPtr.toNat
  if util.loopState = .loopClosed then return (none, r)
  else if util.expectedPktLen = 0 then
    if util.bufferedLength + ptr < m.maxSduLen then do
      let buffer ← copyOctets r 0 util.bufferedLength ptr ptr
      let found ← searchBuffer getPacketLen buffer (ptr + util.bufferedLength)
      match found with
      | some length =>
        if ptr + util.bufferedLength = length.toNat then
          let sent := deliverUtil r { util with buffer := buffer }
          return (if sent.1 = .denied then some .denied else none, sent.2)
        else
          return (none, r.setUtil
            { buffer := buffer, loopState := .loopClosed, bufferedLength := 0, expectedPktLen := 0 })
      | none => return (none, r.setUtil { util with buffer := buffer })
    else return (none, r)
  else if ptr + util.bufferedLength = util.expectedPktLen then do
    let buffer ← copyOctets r 0 util.bufferedLength ptr ptr
    let sent := deliverUtil r { util with buffer := buffer }
    return (if sent.1 = .denied then some .denied else none, sent.2)
  else return (none, r)

/-- SOURCE: osdlp_tm.c:630-727 -/
def handleSPtrPositiveAccess (getPacketLen : GetPacketLen) (fuel : ℕ) (r : TmReceiver) :
    TmTraced (Option (TmRxResult × TmReceiver)) := do
  let finished ← finishPacketAccess getPacketLen r
  match finished with
  | (some result, r) => return some (result, r)
  | (none, r) =>
    explorePacketsAccess getPacketLen fuel r.tf.primaryHdr.firstHdrPtr.toNat r

/-- SOURCE: osdlp_tm.c:729-746 -/
def handleRxStuffingAccess (getPacketLen : GetPacketLen) (fuel : ℕ) (r : TmReceiver) :
    TmTraced (Option (TmRxResult × TmReceiver)) :=
  if r.tf.primaryHdr.firstHdrPtr = 0 then explorePacketsAccess getPacketLen fuel 0 r
  else if r.tf.primaryHdr.firstHdrPtr = tmFirstHdrPtrNoPktStart then do
    let handled ← handleSPtrNopktAccess getPacketLen r
    return some handled
  else handleSPtrPositiveAccess getPacketLen fuel r

/-- The handler that the configuration asks for.
SOURCE: osdlp_tm.c:766-771 -/
def handleRxAccess (getPacketLen : GetPacketLen) (fuel : ℕ) (r : TmReceiver) :
    TmTraced (Option (TmRxResult × TmReceiver)) :=
  match r.tf.mission.stuffState with
  | .stuffingOff => do
    let handled ← handleRxNoStuffingAccess getPacketLen r
    return some handled
  | .stuffingOn => handleRxStuffingAccess getPacketLen fuel r

/-- SOURCE: osdlp_tm.c:748-772 -/
def tmReceiveAccess (getPacketLen : GetPacketLen) (fuel : ℕ) (rxConfig : Int) (r : TmReceiver)
    (dataIn : List UInt8) : TmTraced (Option (Int × TmReceiver)) := do
  let _ ← readFrame dataIn 1
  if rxConfig < 0 then return some (rxConfig, r)
  else
    let tf ← tmUnpackAccess r.tf dataIn
    let r := { r with tf := tf }
    let crc : UInt16 ← ⟨osdlpCalcCrc dataIn (r.tf.mission.frameLen - 2),
      [⟨.frame, 0, (r.tf.mission.frameLen - 2 : ℤ)⟩]⟩
    if crc ≠ r.tf.crc then return some (-TmRxResult.wrongCrc.code, r)
    else if r.tf.primaryHdr.firstHdrPtr = tmFirstHdrPtrOid then
      return some (TmRxResult.oid.code, r)
    else
      let handled ← handleRxAccess getPacketLen fuel r
      return handled.map fun result => (-result.1.code, result.2)

/-! ## The same values -/

variable (getPacketLen : GetPacketLen) (fuel : ℕ) (r : TmReceiver)

theorem value_copyOctets (src dst taken : ℕ) (count : ℤ) :
    (copyOctets r src dst taken count).value =
      memWrite r.tf.mission.util.buffer dst ((r.tf.data.drop src).take taken) := (rfl)

/-- The log changes nothing of the unpacked frame. -/
theorem value_tmUnpackAccess (tf : TmTransferFrame) (pktIn : List UInt8) :
    (tmUnpackAccess tf pktIn).value = osdlpTmUnpack tf pktIn := by
  have hsec : ∀ secHdr, (readSecHdr tf secHdr pktIn).value =
      if secHdr then
        { tf.secondaryHdr with
          versionNum := BitVec.ofNat 2 ((pktIn.getD 6 0 >>> 6) &&& 0x03).toNat
          length := BitVec.ofNat 6 (pktIn.getD 6 0 &&& 0x3f).toNat }
      else tf.secondaryHdr := fun secHdr => Traced.value_ite _ _ _
  have hocf : ∀ ocf, (readOcf tf ocf pktIn).value =
      if ocf then
        memWrite tf.ocf 0 (region pktIn (tf.mission.headerLen + tf.mission.maxDataLen) 4)
      else tf.ocf := fun ocf => Traced.value_ite _ _ _
  have hcrc : (readCrc tf pktIn).value =
      if tf.mission.crcPresent then tmTrailerCrc tf.mission.frameLen pktIn else tf.crc :=
    Traced.value_ite _ _ _
  unfold tmUnpackAccess
  simp only [Traced.value_bind, Traced.value_pure, hsec, hocf, hcrc]
  rfl

/-- A packet that starts with the frame is taken as it is without the log. -/
theorem value_handleNsPtrZeroAccess :
    (handleNsPtrZeroAccess getPacketLen r).value = handleNsPtrZero getPacketLen r := by
  unfold handleNsPtrZeroAccess handleNsPtrZero searchData
  simp only [Traced.value_bind, List.drop_zero]
  cases getPacketLen r.tf.data r.tf.mission.maxDataLen with
  | none => rfl
  | some length =>
    dsimp only
    rw [Traced.value_ite]
    rfl

/-- The log changes nothing of a packet that goes on. -/
theorem value_continuePacketAccess (usableLen : ℕ) :
    (continuePacketAccess r usableLen).value = continuePacket r usableLen := by
  unfold continuePacketAccess continuePacket
  dsimp only
  rw [Traced.value_ite, Traced.value_bind, Traced.value_ite]
  rfl

/-- The log changes nothing of a reception without stuffing. -/
theorem value_handleRxNoStuffingAccess :
    (handleRxNoStuffingAccess getPacketLen r).value = handleRxNoStuffing getPacketLen r := by
  unfold handleRxNoStuffingAccess handleRxNoStuffing handleNsPtrPositiveAccess handleNsPtrPositive
  rw [Traced.value_ite, Traced.value_ite, value_handleNsPtrZeroAccess, value_continuePacketAccess]
  rfl

/-- The log changes nothing of the loop, by induction on its rounds. -/
theorem value_explorePacketsAccess (bytesExplored : ℕ) :
    (explorePacketsAccess getPacketLen fuel bytesExplored r).value =
      explorePackets getPacketLen fuel bytesExplored r := by
  induction fuel generalizing bytesExplored r with
  | zero => rfl
  | succ fuel ih =>
    unfold explorePacketsAccess explorePackets
    dsimp only
    rw [Traced.value_bind, Traced.value_ite]
    dsimp only
    split_ifs with hidle
    · rfl
    · rw [Traced.value_bind]
      unfold searchData
      dsimp only
      cases getPacketLen (r.tf.data.drop bytesExplored)
        (u16 (r.tf.mission.maxDataLen - bytesExplored : ℤ)) with
      | none => rfl
      | some length =>
        dsimp only
        rw [Traced.value_ite]
        by_cases hover : length.toNat + bytesExplored > r.tf.mission.maxDataLen
        · rw [if_pos hover, if_pos hover]
          rfl
        · rw [if_neg hover, if_neg hover, Traced.value_bind, value_copyOctets, Traced.value_ite,
            Traced.value_ite, ih]
          rfl

/-- The log changes nothing of a frame in which no packet starts. -/
theorem value_handleSPtrNopktAccess :
    (handleSPtrNopktAccess getPacketLen r).value = handleSPtrNopkt getPacketLen r := by
  unfold handleSPtrNopktAccess handleSPtrNopkt
  dsimp only
  rw [Traced.value_ite, Traced.value_ite, Traced.value_ite, value_continuePacketAccess]
  refine ite_congr rfl (fun _ => rfl) fun _ => ite_congr rfl (fun _ => ?_) fun _ => rfl
  refine ite_congr rfl (fun _ => ?_) fun _ => rfl
  simp only [Traced.value_bind, searchBuffer, value_copyOctets, List.drop_zero]
  rw [Nat.cast_add]
  cases getPacketLen (memWrite r.tf.mission.util.buffer r.tf.mission.util.bufferedLength
    (r.tf.data.take r.tf.mission.maxDataLen))
    (u16 (r.tf.mission.maxDataLen + r.tf.mission.util.bufferedLength)) with
  | none => exact value_continuePacketAccess _ _
  | some length =>
    dsimp only
    rw [Traced.value_bind, Traced.value_ite]
    rfl

/-- The log changes nothing of a packet that ends at the pointer. -/
theorem value_finishPacketAccess :
    (finishPacketAccess getPacketLen r).value = finishPacket getPacketLen r := by
  unfold finishPacketAccess finishPacket
  dsimp only
  rw [Traced.value_ite, Traced.value_ite, Traced.value_ite, Traced.value_ite]
  refine ite_congr rfl (fun _ => rfl) fun _ => ite_congr rfl (fun _ => ?_) fun _ => ?_
  · refine ite_congr rfl (fun _ => ?_) fun _ => rfl
    simp only [Traced.value_bind, searchBuffer, value_copyOctets, List.drop_zero]
    rw [Nat.cast_add]
    cases getPacketLen (memWrite r.tf.mission.util.buffer r.tf.mission.util.bufferedLength
      (r.tf.data.take r.tf.primaryHdr.firstHdrPtr.toNat))
      (u16 (r.tf.primaryHdr.firstHdrPtr.toNat + r.tf.mission.util.bufferedLength)) with
    | none => rfl
    | some length =>
      dsimp only
      rw [Traced.value_ite]
      rfl
  · refine ite_congr rfl (fun _ => ?_) fun _ => rfl
    rw [Traced.value_bind, value_copyOctets, List.drop_zero]
    rfl

/-- The log changes nothing of a reception with stuffing. -/
theorem value_handleRxStuffingAccess :
    (handleRxStuffingAccess getPacketLen fuel r).value = handleRxStuffing getPacketLen fuel r := by
  unfold handleRxStuffingAccess handleRxStuffing handleSPtrPositiveAccess handleSPtrPositive
    handleSPtrZero
  rw [Traced.value_ite, Traced.value_ite, Traced.value_bind, Traced.value_bind,
    value_explorePacketsAccess, value_handleSPtrNopktAccess, value_finishPacketAccess]
  rcases finishPacket getPacketLen r with ⟨_ | result, r'⟩
  · dsimp only
    rw [value_explorePacketsAccess]
    rfl
  · rfl

/-- The logged function computes what the modelled one does. -/
theorem value_tmReceiveAccess (rxConfig : Int) (dataIn : List UInt8) :
    (tmReceiveAccess getPacketLen fuel rxConfig r dataIn).value =
      osdlpTmReceive getPacketLen fuel rxConfig r dataIn := by
  have hhandled : ∀ r, (handleRxAccess getPacketLen fuel r).value =
      match r.tf.mission.stuffState with
      | .stuffingOff => some (handleRxNoStuffing getPacketLen r)
      | .stuffingOn => handleRxStuffing getPacketLen fuel r := by
    intro r
    unfold handleRxAccess
    cases r.tf.mission.stuffState with
    | stuffingOff => exact congrArg some (value_handleRxNoStuffingAccess getPacketLen r)
    | stuffingOn => exact value_handleRxStuffingAccess getPacketLen fuel r
  unfold tmReceiveAccess osdlpTmReceive
  rw [Traced.value_bind, Traced.value_ite]
  refine ite_congr rfl (fun _ => rfl) fun _ => ?_
  rw [Traced.value_bind, value_tmUnpackAccess, Traced.value_bind, Traced.value_ite,
    Traced.value_ite, Traced.value_bind, hhandled]
  rfl

end Osdlp.Interface
