import Osdlp.Analysis.TmTermination
import Osdlp.Interface.TmResuming

/-!
# Resumption of a telemetry transmission

A caller that is refused a frame offers the packet again until the call returns 0.  What the queue
has taken then is what it takes if it refuses nothing, the counters and the checksums apart
(`resend_eq_uninterrupted`).
-/

set_option autoImplicit false

namespace Osdlp.Analysis

open Osdlp.Model Osdlp.Interface

/-- The packet is offered until the call returns 0; `calls` bounds the calls. -/
def resend (getPacketLen : GetPacketLen) (fuel : ℕ) (queueBack : Int) (packet : List UInt8) :
    ℕ → TmSender → Option TmSender
  | 0, _ => none
  | calls + 1, s => do
    let (ret, s) ← osdlpTmTransmit getPacketLen fuel queueBack s packet packet.length
    if ret = 0 then some s else resend getPacketLen fuel queueBack packet calls s

/-- A transmission is over: the utility buffer is closed and holds nothing back. -/
structure TransmissionOver (tf : TmTransferFrame) : Prop where
  closed : tf.mission.util.loopState = .loopClosed
  bufferedLength : tf.mission.util.bufferedLength = 0

variable {getPacketLen : GetPacketLen} {fuel : ℕ} {queueBack : Int} {packet : List UInt8}
  {base : TmTransferFrame} {s : TmSender}

/-- A call that enters the loop with a plan: the planned frames are queued in the end, whatever the
queue refuses on the way. -/
theorem resend_planned (hpos : 0 < base.mission.maxDataLen) (hlength : packet.length < 65536)
    (calls : ℕ) {numPackets remainingLen : ℕ} {sent : TmSender}
    (hcall : osdlpTmTransmit getPacketLen fuel queueBack s packet packet.length =
      some (transmitLoop packet packet.length numPackets remainingLen sent))
    (hcont : Continues base sent.tf) (hrem : remainingLen ≤ packet.length)
    (hnum : numPackets = 0 ∨ numPackets = numPacketsFor base.mission remainingLen)
    (hcalls : sent.answers.length < calls) :
    ∃ s' frames, resend getPacketLen fuel queueBack packet calls s = some s' ∧
      s'.queue = sent.queue ++ frames ∧
      frames.map (unnumbered base.mission) = plannedFrames base packet numPackets remainingLen ∧
      TransmissionOver s'.tf := by
  induction calls generalizing s sent numPackets remainingLen with
  | zero => exact absurd hcalls (Nat.not_lt_zero _)
  | succ calls ih =>
    obtain ⟨hcont', -, frames, rest, hqueue, hplan, hend⟩ :=
      transmitLoop_resumes hpos hlength hcont hrem hnum
    generalize transmitLoop packet packet.length numPackets remainingLen sent = out
      at hcall hcont' hqueue hend
    unfold resend
    rw [hcall]
    rcases hend with ⟨hret, hrest, hclosed, hzero⟩ | ⟨hret, hrest, hopen, hbuffered, -, hfewer⟩
    · refine ⟨out.2, frames, ?_, hqueue, ?_, hclosed, hzero⟩
      · simp [hret]
      · rw [← hplan, hrest, List.append_nil]
    · -- the next call goes on where this one stopped
      have hnext := osdlpTmTransmit_goesOn getPacketLen fuel queueBack hlength hopen hbuffered
      have hleft : numPacketsFor out.2.tf.mission = numPacketsFor base.mission := by
        rw [hcont'.mission]
        rfl
      rw [hleft] at hnext
      obtain ⟨s', frames', hagain, hqueue', hplan', hhanded⟩ :=
        ih hnext hcont' (Nat.sub_le _ _) (.inr rfl) (by omega)
      refine ⟨s', frames ++ frames', ?_, ?_, ?_, hhanded⟩
      · simp [hret.ne, hagain]
      · rw [hqueue', hqueue, List.append_assoc]
      · rw [List.map_append, hplan', ← hplan, hrest]
        rfl

/-- However often the queue refuses a frame, a packet that is offered until the call returns 0
leaves in the frames in which it leaves when the queue refuses none, and which the first call has
planned; only the counters and the checksums differ.  The last frame of the queue is stuffed alike.
SOURCE: osdlp_tm.c:273-414 -/
theorem resend_eq_uninterrupted (getPacketLen : GetPacketLen) (fuel : ℕ) (queueBack : Int)
    (packet : List UInt8) (s : TmSender) (hshape : TmShape s.tf)
    (hframe : s.tf.mission.frameLen ≤ 2048) (hpos : 1 ≤ s.tf.mission.maxDataLen)
    (hlen : 1 ≤ packet.length) (hlength : packet.length < 65536)
    (hbuffered : s.tf.mission.util.loopState = .loopOpen →
      s.tf.mission.util.bufferedLength ≤ packet.length)
    (hhook : ∀ pkt n, getPacketLen pkt n ≠ some 0) (hfuel : s.tf.mission.maxDataLen < fuel)
    (calls : ℕ) (hcalls : s.answers.length < calls) :
    ∃ resumed uninterrupted front frames frames' numPackets remainingLen,
      resend getPacketLen fuel queueBack packet calls s = some resumed ∧
      osdlpTmTransmit getPacketLen fuel queueBack { s with answers := [] } packet packet.length =
        some (0, uninterrupted) ∧
      resumed.queue = front ++ frames ∧ uninterrupted.queue = front ++ frames' ∧
      front.length = s.queue.length ∧ front.dropLast = s.queue.dropLast ∧
      TransmitStart s packet front numPackets remainingLen ∧
      frames.map (unnumbered s.tf.mission) = plannedFrames s.tf packet numPackets remainingLen ∧
      frames.map (tmCell s.tf.mission) = frames'.map (tmCell s.tf.mission) ∧
      frames.map (unnumbered s.tf.mission) = frames'.map (unnumbered s.tf.mission) ∧
      TransmissionOver resumed.tf ∧ TransmissionOver uninterrupted.tf := by
  have hsmall : s.tf.mission.maxDataLen < 65536 := by
    have hle := hshape.frameLen_ge
    omega
  obtain ⟨front, numPackets, remainingLen, hstart, hstarts⟩ :=
    osdlpTmTransmit_starts hhook hfuel hsmall hlength hbuffered queueBack
  obtain ⟨hrem, hnum⟩ := hstart.plan hpos hsmall hlen hlength
  obtain ⟨resumed, frames, hresend, hqueue, hplan, hhanded⟩ :=
    resend_planned hpos hlength calls (hstarts s.answers) (.refl s.tf) hrem hnum hcalls
  -- a queue that refuses nothing takes the whole plan at once
  obtain ⟨-, -, frames', rest, hqueue', hplan', hend⟩ := @transmitLoop_resumes s.tf
    { s with queue := front, answers := [] } packet hpos hlength _ _ (.refl s.tf) hrem hnum
  obtain ⟨hret, hrest, hclosed, hzero⟩ :=
    hend.resolve_right fun hrefused => hrefused.2.2.2.2.1 (by simp [Accepting])
  have hsame : frames.map (unnumbered s.tf.mission) = frames'.map (unnumbered s.tf.mission) := by
    rw [hplan, ← hplan', hrest, List.append_nil]
  have hcells : ∀ fs : List (List UInt8), fs.map (tmCell s.tf.mission) =
      (fs.map (unnumbered s.tf.mission)).map (tmCell s.tf.mission) := by
    intro fs
    rw [List.map_map]
    exact List.map_congr_left fun frame _ => (tmCell_unnumbered hshape frame).symm
  refine ⟨resumed, _, front, frames, frames', numPackets, remainingLen, hresend, ?_, hqueue, hqueue',
    hstart.queue.1, hstart.queue.2, hstart, hplan, ?_, hsame, hhanded, hclosed, hzero⟩
  · rw [hstarts []]
    exact congrArg some (Prod.ext hret rfl)
  · rw [hcells frames, hsame, ← hcells]

/-- A frame with one packet of five octets, and idle octets behind it. -/
def fiveOctets : List UInt8 :=
  let body := [0, 0, 1, 1, 0x18, 0, 0, 0, 0, 0, 5] ++ List.replicate 7 tmIdlePacket
  let crc := osdlpCalcCrc body 18
  body ++ [UInt8.ofNat (crc.toNat / 256), UInt8.ofNat crc.toNat]

/-- The hook of the tests, with no packet of no length. -/
def somePacketLen (tmMaxSduLen : ℕ) : GetPacketLen := fun pkt memLen =>
  (osdlpTmGetPacketLen tmMaxSduLen pkt memLen).filter (· ≠ 0)

/-- A packet of thirty octets is stuffed behind a packet of five, and two frames of it are refused on
the way: the first call stuffs seven octets, the third queues the last of the two frames, and two
calls are not enough. -/
theorem resend_eq_uninterrupted_thirty :
    ∃ tf, osdlpTmInit default twentyOctets = some tf ∧
      let s : TmSender := { tf := tf, queue := [fiveOctets], answers := [-1, 0, -1] }
      let packet : List UInt8 := List.replicate 30 1
      (∃ resumed uninterrupted front frames frames' numPackets remainingLen,
        resend (somePacketLen 64) 13 0 packet 4 s = some resumed ∧
        osdlpTmTransmit (somePacketLen 64) 13 0 { s with answers := [] } packet packet.length =
          some (0, uninterrupted) ∧
        resumed.queue = front ++ frames ∧ uninterrupted.queue = front ++ frames' ∧
        front.length = s.queue.length ∧ front.dropLast = s.queue.dropLast ∧
        TransmitStart s packet front numPackets remainingLen ∧
        frames.map (unnumbered tf.mission) = plannedFrames tf packet numPackets remainingLen ∧
        frames.map (tmCell tf.mission) = frames'.map (tmCell tf.mission) ∧
        frames.map (unnumbered tf.mission) = frames'.map (unnumbered tf.mission) ∧
        TransmissionOver resumed.tf ∧ TransmissionOver uninterrupted.tf) ∧
      resend (somePacketLen 64) 13 0 packet 2 s = none ∧
      (resend (somePacketLen 64) 13 0 packet 4 s).map
          (fun r => (r.answers, r.queue.map (tmCell tf.mission))) =
        some ([],
          [⟨0, [0, 0, 0, 0, 5] ++ List.replicate 7 1⟩, ⟨2047, List.replicate 12 1⟩,
            ⟨11, List.replicate 11 1 ++ [tmIdlePacket]⟩]) := by
  refine ⟨_, rfl, resend_eq_uninterrupted (somePacketLen 64) 13 0 (List.replicate 30 1)
    { tf := _, queue := [fiveOctets], answers := [-1, 0, -1] } ?_ ?_ ?_ ?_ ?_ ?_ ?_ ?_ 4 ?_, ?_, ?_⟩
  · exact @osdlpTmInit_shape _ default twentyOctets (by decide) rfl
  · decide
  · decide
  · decide
  · decide
  · exact fun _ => Nat.zero_le _
  · intro pkt n hzero
    exact absurd (Option.filter_eq_some_iff.mp hzero).2 (by decide)
  · decide
  · decide
  · decide +kernel
  · decide +kernel

end Osdlp.Analysis
