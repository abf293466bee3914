import Osdlp.Interface.TmFrame

/-!
# What a telemetry sender queues

The loop of `osdlp_tm_transmit` cuts what remains of a packet into cells (`packetCells`).
Where the queue takes every frame, the loop returns 0 and appends sound frames that carry
these cells (`transmitLoop_queues`).
-/

set_option autoImplicit false

namespace Osdlp.Interface

open Osdlp.Model Osdlp.Library

/-- A queue that takes all it is offered. -/
def Accepting (answers : List Int) : Prop := ∀ ret ∈ answers, 0 ≤ ret

/-- The frame structure of a sender with the mission `m`, between two packets. -/
structure Ready (m : TmMissionParams) (tf : TmTransferFrame) : Prop where
  shape : TmShape tf
  mission : tf.mission = { m with util := tf.mission.util }
  closed : tf.mission.util.loopState = .loopClosed

/-- From `s` to `s'`, sound frames that carry the cells have been queued. -/
structure Queues (m : TmMissionParams) (s s' : TmSender) (cells : List TmCell) : Prop where
  ready : Ready m s'.tf
  accepting : Accepting s'.answers
  frames : ∃ frames, s'.queue = s.queue ++ frames ∧ frames.map (tmCell m) = cells ∧
    ∀ frame ∈ frames, Sound m frame

variable {m : TmMissionParams} {tf : TmTransferFrame} {s s' s'' : TmSender}

theorem Queues.refl (hready : Ready m s.tf) (hacc : Accepting s.answers) : Queues m s s [] :=
  ⟨hready, hacc, [], by simp⟩

theorem Queues.trans {cells cells' : List TmCell} (h : Queues m s s' cells)
    (h' : Queues m s' s'' cells') : Queues m s s'' (cells ++ cells') := by
  obtain ⟨frames, hqueue, hcells, hsound⟩ := h.frames
  obtain ⟨frames', hqueue', hcells', hsound'⟩ := h'.frames
  refine ⟨h'.ready, h'.accepting, frames ++ frames', ?_, ?_, ?_⟩
  · rw [hqueue', hqueue, List.append_assoc]
  · rw [List.map_append, hcells, hcells']
  · intro frame hmem
    exact (List.mem_append.mp hmem).elim (hsound frame) (hsound' frame)

/-! ## The mission -/

theorem Ready.maxDataLen (h : Ready m tf) : tf.mission.maxDataLen = m.maxDataLen := by
  rw [h.mission]

/-- Cells are read with the layout of the mission. -/
theorem Ready.tmCell (h : Ready m tf) (frame : List UInt8) :
    tmCell tf.mission frame = tmCell m frame := by
  rw [h.mission]
  rfl

/-- Frames are checked with the layout of the mission. -/
theorem Ready.sound (h : Ready m tf) {frame : List UInt8} (hf : Sound tf.mission frame) :
    Sound m frame := by
  rw [h.mission] at hf
  exact ⟨hf.length, hf.crc⟩

/-- The counters and the pointer of the next frame are of no concern for the shape. -/
theorem Ready.nextTmFrame (h : Ready m tf) (length remainingLen : ℕ) :
    Ready m (nextTmFrame tf length remainingLen) :=
  ⟨⟨h.shape.header, h.shape.frame⟩, h.mission, h.closed⟩

/-- Packing writes the buffer and leaves the state of the loop. -/
theorem Ready.packIntoUtil (h : Ready m tf) (data : List UInt8) (length : ℕ) :
    Ready m (packIntoUtil tf data length) := by
  obtain ⟨crc, hpacked⟩ := packIntoUtil_eq tf data length
  rw [hpacked]
  refine ⟨⟨h.shape.header, h.shape.frame⟩, ?_, h.closed⟩
  have hm := h.mission
  generalize tf.mission = n at hm
  rw [hm]

/-! ## The loop -/

/-- An accepting queue takes the frame and goes on accepting. -/
theorem osdlpTmTxQueueEnqueue_accepts (h : Accepting s.answers) (pkt : List UInt8) :
    0 ≤ (osdlpTmTxQueueEnqueue s pkt).1 ∧
      ∃ answers, Accepting answers ∧ (osdlpTmTxQueueEnqueue s pkt).2 =
        { s with queue := s.queue ++ [region pkt 0 s.tf.mission.frameLen], answers := answers } := by
  unfold osdlpTmTxQueueEnqueue
  cases hans : s.answers with
  | nil =>
    refine ⟨Int.le_refl _, [], by simp [Accepting], ?_⟩
    dsimp only
  | cons ret rest =>
    rw [hans] at h
    have hret : 0 ≤ ret := h ret List.mem_cons_self
    dsimp only
    rw [if_neg (not_lt.mpr hret)]
    exact ⟨hret, rest, fun a ha => h a (List.mem_cons_of_mem _ ha), rfl⟩

/-- The next cell, when the last octets of a packet remain. -/
def packetCell (m : TmMissionParams) (packet : List UInt8) (remainingLen : ℕ) : TmCell :=
  { ptr := nextFirstHdrPtr m packet.length remainingLen
    field := (packet.drop (packet.length - remainingLen)).take (min m.maxDataLen remainingLen) ++
      List.replicate (m.maxDataLen - min m.maxDataLen remainingLen) tmIdlePacket }

/-- What the loop cuts the last octets of a packet into. -/
def packetCells (m : TmMissionParams) (packet : List UInt8) : ℕ → ℕ → List TmCell
  | 0, _ => []
  | numPackets + 1, remainingLen =>
    packetCell m packet remainingLen ::
      packetCells m packet numPackets (remainingLen - min m.maxDataLen remainingLen)

/-- One frame of the loop. -/
theorem enqueue_queues (hready : Ready m tf) (hacc : Accepting s.answers) (data : List UInt8)
    {length : ℕ} (hmax : length ≤ m.maxDataLen) (hdata : length ≤ data.length) :
    let packed := packIntoUtil tf data length
    let sent := osdlpTmTxQueueEnqueue { s with tf := packed } packed.mission.util.buffer
    0 ≤ sent.1 ∧ Queues m s sent.2
      [{ ptr := tf.primaryHdr.firstHdrPtr
         field := data.take length ++ List.replicate (m.maxDataLen - length) tmIdlePacket }] := by
  intro packed sent
  obtain ⟨hret, answers, hans, hsent⟩ :=
    osdlpTmTxQueueEnqueue_accepts (s := { s with tf := packed }) hacc packed.mission.util.buffer
  have hpacked : Ready m packed := hready.packIntoUtil data length
  rw [← hready.maxDataLen] at hmax
  obtain ⟨hsound, hcell⟩ := queuedFrame_packIntoUtil hready.shape hmax hdata
  rw [hready.tmCell, hready.maxDataLen] at hcell
  refine ⟨hret, ?_⟩
  rw [hsent]
  refine ⟨hpacked, hans, [queuedFrame packed], rfl, ?_, ?_⟩
  · exact congrArg (fun c => [c]) hcell
  · intro frame hmem
    rw [List.mem_singleton.mp hmem]
    exact hready.sound hsound

/-- An idle frame.
SOURCE: osdlp_tm.c:774-787 -/
theorem osdlpTmTransmitIdleFdu_queues (hready : Ready m s.tf) (hacc : Accepting s.answers) :
    (osdlpTmTransmitIdleFdu s).1 = 0 ∧ Queues m s (osdlpTmTransmitIdleFdu s).2
      [{ ptr := tmFirstHdrPtrOid, field := List.replicate m.maxDataLen tmIdlePacket }] := by
  let hdr := { s.tf.primaryHdr with firstHdrPtr := tmFirstHdrPtrOid }
  have hidle : Ready m { s.tf with primaryHdr := hdr } :=
    ⟨⟨hready.shape.header, hready.shape.frame⟩, hready.mission, hready.closed⟩
  obtain ⟨hret, hqueues⟩ := enqueue_queues (s := s) hidle hacc [] (Nat.zero_le _) (Nat.zero_le _)
  unfold osdlpTmTransmitIdleFdu
  dsimp only
  rw [if_neg (not_lt.mpr hret)]
  exact ⟨rfl, hqueues⟩

/-- The loop of `osdlp_tm_transmit` queues the cells of what remains.
SOURCE: osdlp_tm.c:367-413 -/
theorem transmitLoop_queues (packet : List UInt8) (numPackets : ℕ) {remainingLen : ℕ}
    (hready : Ready m s.tf) (hacc : Accepting s.answers) (hrem : remainingLen ≤ packet.length) :
    (transmitLoop packet packet.length numPackets remainingLen s).1 = 0 ∧
      Queues m s (transmitLoop packet packet.length numPackets remainingLen s).2
        (packetCells m packet numPackets remainingLen) := by
  induction numPackets generalizing s remainingLen with
  | zero =>
    refine ⟨rfl, ⟨?_, hacc, [], by simp [transmitLoop], rfl, by simp⟩⟩
    refine ⟨⟨hready.shape.header, hready.shape.frame⟩, ?_, rfl⟩
    have hm := hready.mission
    unfold transmitLoop osdlpAbortSegmentation
    generalize s.tf.mission = n at hm
    rw [hm]
  | succ numPackets ih =>
    have hround := enqueue_queues (hready.nextTmFrame packet.length remainingLen) hacc
      (packet.drop (packet.length - remainingLen)) (Nat.min_le_left m.maxDataLen remainingLen)
      (by rw [List.length_drop]; omega)
    have hptr : (nextTmFrame s.tf packet.length remainingLen).primaryHdr.firstHdrPtr =
        nextFirstHdrPtr m packet.length remainingLen := by
      unfold nextTmFrame
      rw [hready.mission]
      rfl
    rw [hptr] at hround
    obtain ⟨hret, hqueued⟩ := hround
    unfold transmitLoop packetCells
    dsimp only
    rw [hready.maxDataLen, if_neg (not_lt.mpr hret)]
    obtain ⟨hzero, hrest⟩ := ih hqueued.ready hqueued.accepting
      (show remainingLen - min m.maxDataLen remainingLen ≤ packet.length by omega)
    exact ⟨hzero, hqueued.trans hrest⟩

/-- How many cells a packet fills. -/
theorem numPacketsFor_bounds (hpos : 0 < m.maxDataLen) (length : ℕ) :
    0 < numPacketsFor m length ∧ length ≤ numPacketsFor m length * m.maxDataLen ∧
      (0 < length → numPacketsFor m length * m.maxDataLen < length + m.maxDataLen) := by
  have hdiv := Nat.div_add_mod length m.maxDataLen
  have hmod := Nat.mod_lt length hpos
  rw [Nat.mul_comm] at hdiv
  unfold numPacketsFor
  split_ifs with hmore
  · rw [Nat.succ_mul]
    refine ⟨Nat.succ_pos _, by omega, fun hlen => ?_⟩
    rcases hmore with hzero | hrest
    · rw [hzero]
      omega
    · omega
  · rw [not_or, not_not] at hmore
    exact ⟨Nat.pos_of_ne_zero hmore.1, by omega, by omega⟩

/-- No other number of cells is filled but for the last one. -/
theorem numPacketsFor_unique (hpos : 0 < m.maxDataLen) {numPackets length : ℕ} (hlen : 0 < length)
    (hmany : length ≤ numPackets * m.maxDataLen)
    (hfew : numPackets * m.maxDataLen < length + m.maxDataLen) :
    numPackets = numPacketsFor m length := by
  obtain ⟨-, hmany', hfew'⟩ := numPacketsFor_bounds hpos length
  have hfew' := hfew' hlen
  rcases Nat.lt_trichotomy numPackets (numPacketsFor m length) with hlt | heq | hgt
  · have hmul := Nat.mul_le_mul_right m.maxDataLen hlt
    rw [Nat.succ_mul] at hmul
    omega
  · exact heq
  · have hmul := Nat.mul_le_mul_right m.maxDataLen hgt
    rw [Nat.succ_mul] at hmul
    omega

/-- One frame is enough exactly for what fits into a data field. -/
theorem numPacketsFor_eq_one (hpos : 0 < m.maxDataLen) {len : ℕ} (hlen : 0 < len) :
    numPacketsFor m len = 1 ↔ len ≤ m.maxDataLen := by
  constructor
  · intro hone
    have hmany := (numPacketsFor_bounds hpos len).2.1
    rw [hone] at hmany
    omega
  · intro hle
    exact (numPacketsFor_unique hpos hlen (by omega) (by omega)).symm

/-! ## Stuffing off -/

/-- Without stuffing, a call queues the cells of its packet.
SOURCE: osdlp_tm.c:306-414 -/
theorem osdlpTmTransmit_queues (getPacketLen : GetPacketLen) (fuel : ℕ) (queueBack : Int)
    (hoff : m.stuffState = .stuffingOff) (hready : Ready m s.tf) (hacc : Accepting s.answers)
    (packet : List UInt8) :
    ∃ s', osdlpTmTransmit getPacketLen fuel queueBack s packet packet.length = some (0, s') ∧
      Queues m s s' (packetCells m packet (numPacketsFor m packet.length) packet.length) := by
  have hloop := transmitLoop_queues packet (numPacketsFor m packet.length) hready hacc
    (Nat.le_refl packet.length)
  have hnum : numPacketsFor s.tf.mission packet.length = numPacketsFor m packet.length := by
    rw [hready.mission]
    rfl
  have hnostuff : ¬ (s.queue ≠ [] ∧ s.tf.mission.stuffState = .stuffingOn ∧
      s.tf.mission.util.loopState = .loopClosed) := by
    rintro ⟨-, hon, -⟩
    rw [hready.mission, hoff] at hon
    cases hon
  have hopen : ¬ s.tf.mission.util.loopState = .loopOpen := by
    rw [hready.closed]
    decide
  refine ⟨_, ?_, hloop.2⟩
  unfold osdlpTmTransmit
  dsimp only
  rw [if_neg hnostuff, if_neg hopen, hnum]
  exact congrArg some (Prod.ext hloop.1 rfl)

/-- The packets are transmitted one after the other; the sender that is left where every call
returns 0. -/
def transmitAll (getPacketLen : GetPacketLen) (fuel : ℕ) :
    TmSender → List (List UInt8) → Option TmSender
  | s, [] => some s
  | s, packet :: packets => do
    let (ret, s) ← osdlpTmTransmit getPacketLen fuel 0 s packet packet.length
    if ret ≠ 0 then none else transmitAll getPacketLen fuel s packets

/-- The cells of packets that are sent without stuffing. -/
def noStuffingCells (m : TmMissionParams) (packets : List (List UInt8)) : List TmCell :=
  packets.flatMap fun packet => packetCells m packet (numPacketsFor m packet.length) packet.length

theorem transmitAll_append (getPacketLen : GetPacketLen) (fuel : ℕ) (s : TmSender)
    (sent rest : List (List UInt8)) :
    transmitAll getPacketLen fuel s (sent ++ rest) =
      (transmitAll getPacketLen fuel s sent).bind fun s => transmitAll getPacketLen fuel s rest := by
  induction sent generalizing s with
  | nil => rfl
  | cons packet sent ih =>
    simp only [List.cons_append, transmitAll, Option.bind_eq_bind, Option.bind_assoc]
    congr 1
    funext result
    split_ifs
    · rfl
    · exact ih _

/-- Without stuffing, the packets leave one after the other, each in its own cells. -/
theorem transmitAll_queues (getPacketLen : GetPacketLen) (fuel : ℕ)
    (hoff : m.stuffState = .stuffingOff) (hready : Ready m s.tf) (hacc : Accepting s.answers)
    (packets : List (List UInt8)) :
    ∃ s', transmitAll getPacketLen fuel s packets = some s' ∧
      Queues m s s' (noStuffingCells m packets) := by
  induction packets generalizing s with
  | nil => exact ⟨s, rfl, .refl hready hacc⟩
  | cons packet packets ih =>
    obtain ⟨s₁, hcall, hqueued⟩ :=
      osdlpTmTransmit_queues getPacketLen fuel 0 hoff hready hacc packet
    obtain ⟨s₂, hrest, hqueuedRest⟩ := ih hqueued.ready hqueued.accepting
    refine ⟨s₂, ?_, hqueued.trans hqueuedRest⟩
    unfold transmitAll
    rw [hcall]
    exact hrest

end Osdlp.Interface
