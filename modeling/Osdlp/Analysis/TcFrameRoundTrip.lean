import Osdlp.Interface.TcCodec

/-!
# The round trip of a telecommand frame

A peer with the mission parameters of the sender recovers what was packed, and the frame passes
its validation (`tcRecovers_pack`).
-/

set_option autoImplicit false

namespace Osdlp.Analysis

open Osdlp.Model Osdlp.Interface Osdlp.Library

/-- The same mission parameters: the utility buffer, the Set V(R) command and the CLCW, which are
not parameters, apart. -/
def SameMission (m m' : TcMissionParams) : Prop :=
  m' = { m with util := m'.util, setVrCmd := m'.setVrCmd, clcw := m'.clcw }

/-- The frame that `packed` holds is as long as it says, the peer has read from the octets what
the sender `tx`, set up with the arguments `a`, has packed, and the frame is valid. -/
structure TcRecovers {Cop : Type} (a : TcInitArgs) (tx : FopFrame) (data : List UInt8)
    (packed : List UInt8 × FopFrame) (octets : List UInt8) (peer : TcTransferFrame Cop) : Prop where
  written : peer.primaryHdr.frameLen.toNat + 1 = packed.1.length
  versionNum : peer.primaryHdr.versionNum = 0
  bypass : peer.primaryHdr.bypass = a.bypass
  ctrlCmd : peer.primaryHdr.ctrlCmd = a.ctrlCmd
  rsvdSpare : peer.primaryHdr.rsvdSpare = 0
  spacecraftId : peer.primaryHdr.spacecraftId.toNat = a.scid.toNat
  vcid : peer.primaryHdr.vcid.toNat = a.vcid.toNat
  typeA : a.bypass = .typeA → peer.primaryHdr.frameSeqNum = tx.copCfg.vs
  typeB : a.bypass = .typeB → peer.primaryHdr.frameSeqNum = 0
  segHdr : a.segHdrFlag = true → peer.frameData.segHdr =
    { seqFlag := tx.frameData.segHdr.seqFlag, mapId := BitVec.ofNat 6 a.mapid.toNat }
  dataLen : peer.frameData.dataLen = data.length
  payload : peer.frameData.payload = data
  crc : a.crcFlag = true → peer.crc = packed.2.crc
  valid : osdlpFrameValidationCheck peer octets = 0

variable {Cop : Type} {m : TcMissionParams} {tf tx : FopFrame} {rx : TcTransferFrame Cop}
  {a : TcInitArgs} {cop : FopConfig} {data : List UInt8}

/-- **The round trip of a telecommand frame.**  `rest` is what lies behind the frame in the buffer
that the peer reads.
SOURCE: osdlp_tc.c:24-182 -/
theorem tcRecovers_pack (hinit : osdlpTcInit m tf a cop = some tx) (hscid : a.scid.toNat < 1024)
    (hvcid : a.vcid.toNat < 64) (hmission : SameMission tx.mission rx.mission)
    (hlen : tx.mission.fixedOverheadLen + data.length ≤ 1024) (rest : List UInt8) :
    let packed := osdlpTcPack tx data data.length
    TcRecovers a tx data packed (packed.1 ++ rest) (osdlpTcUnpack rx (packed.1 ++ rest)) := by
  unfold osdlpTcInit at hinit
  split_ifs at hinit
  have htx := Option.some.inj hinit
  have hover : tx.mission.fixedOverheadLen = tx.mission.overhead := by
    rw [← htx]
    rfl
  obtain ⟨hsegFlag, hcrcFlag, hfix, hversion, hspacecraft⟩ :
      rx.mission.segHdrFlag = tx.mission.segHdrFlag ∧ rx.mission.crcFlag = tx.mission.crcFlag ∧
        rx.mission.fixedOverheadLen = tx.mission.fixedOverheadLen ∧
        rx.mission.versionNum = tx.mission.versionNum ∧
        rx.mission.spacecraftId = tx.mission.spacecraftId := by
    rw [hmission]
    exact ⟨rfl, rfl, rfl, rfl, rfl⟩
  have hpos := overhead_ge hover
  obtain ⟨hhdr, hsegHdr, hdataLen, hpayload⟩ := osdlpTcUnpack_pack hover hlen hsegFlag hfix rest
  intro packed
  -- the length field counts from zero
  have hframeLen : (osdlpTcUnpack rx (packed.1 ++ rest)).primaryHdr.frameLen.toNat =
      tx.mission.fixedOverheadLen + data.length - 1 := by
    rw [hhdr, BitVec.toNat_ofNat]
    omega
  have hscidMod : (BitVec.ofNat 10 a.scid.toNat).toNat = a.scid.toNat := by
    rw [BitVec.toNat_ofNat]
    omega
  -- the sequence number that is packed hangs on the bypass flag alone
  have hseq : packedSeqNum tx =
      packedSeqNum { tx with primaryHdr := { tx.primaryHdr with bypass := a.bypass } } := by
    rw [← htx]
  constructor
  case written =>
    rw [hframeLen, length_osdlpTcPack hover hlen]
    omega
  case versionNum | bypass | ctrlCmd | rsvdSpare =>
    rw [hhdr, ← htx]
  case spacecraftId =>
    rw [hhdr, ← htx]
    exact hscidMod
  case vcid =>
    rw [hhdr, ← htx]
    show (BitVec.ofNat 6 a.vcid.toNat).toNat = a.vcid.toNat
    rw [BitVec.toNat_ofNat]
    omega
  case typeA =>
    intro htype
    rw [hhdr]
    show packedSeqNum tx = _
    rw [hseq, htype]
    rfl
  case typeB =>
    intro htype
    rw [hhdr]
    show packedSeqNum tx = _
    rw [hseq, htype]
    rfl
  case segHdr =>
    intro hflag
    rw [hsegHdr (by rw [← htx]; exact hflag), ← htx]
  case dataLen => exact hdataLen
  case payload => exact hpayload
  case crc =>
    intro hflag
    have hcrc : tx.mission.crcFlag = true := by
      rw [← htx]
      exact hflag
    have hread : (osdlpTcUnpack rx (packed.1 ++ rest)).crc =
        trailerCrc (packed.1 ++ rest)
          (osdlpTcUnpack rx (packed.1 ++ rest)).primaryHdr.frameLen.toNat := by
      show (if rx.mission.crcFlag = true then _ else _) = _
      rw [hcrcFlag, if_pos hcrc]
      rfl
    rw [hread, hframeLen]
    exact (trailerCrc_pack hover hlen hcrc rest).1
  case valid =>
    refine osdlpFrameValidationCheck_pack hover hlen hsegFlag hfix hcrcFlag ?_ ?_ rest
    · rw [hversion, ← htx]
      rfl
    · rw [hspacecraft, ← htx]
      exact hscidMod.symm

/-- A sender of type-A frames with a segment header and a checksum. -/
def typeASenderArgs : TcInitArgs :=
  { scid := 0x2a5, maxSduLen := 100, maxFrameLen := 64, vcid := 9, mapid := 5, crcFlag := true
    segHdrFlag := true, bypass := .typeA, ctrlCmd := .data, utilBuffer := [] }

def typeASender : FopFrame :=
  (osdlpTcInit default default typeASenderArgs { (default : FopConfig) with vs := 77 }).getD default

/-- Three octets sent as the frame 77, with an octet behind it in the buffer. -/
theorem tcRecovers_pack_typeA :
    let packed := osdlpTcPack typeASender [1, 2, 3] 3
    let rx : TcTransferFrame FarmConfig :=
      { (default : TcTransferFrame FarmConfig) with mission := typeASender.mission }
    TcRecovers typeASenderArgs typeASender [1, 2, 3] packed (packed.1 ++ [0xff])
      (osdlpTcUnpack rx (packed.1 ++ [0xff])) := by
  intro packed rx
  have hinit : osdlpTcInit default default typeASenderArgs { (default : FopConfig) with vs := 77 } =
      some typeASender := rfl
  have hlen : typeASender.mission.fixedOverheadLen + [(1 : UInt8), 2, 3].length ≤ 1024 := by decide
  have hmission : SameMission typeASender.mission rx.mission := rfl
  exact tcRecovers_pack hinit (by decide) (by decide) hmission hlen [0xff]

end Osdlp.Analysis
