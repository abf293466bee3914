import Osdlp.Analysis.TmRoundTrip
import Osdlp.Interface.TmResidue
import Osdlp.Library.Run

/-!
# Packing with stuffing

Packets are transmitted with stuffing, while frames leave the head of the queue.  Where
every packet of the last frame but the last one ends far enough from the end of the data field
(`KeepsClear`), the frames carry the packets back to back (`carries_transmitted`).
-/

set_option autoImplicit false

namespace Osdlp.Analysis

open Osdlp.Model Osdlp.Interface Osdlp.Library

/-! ## The octets that frames carry -/

/-- The data fields hold these octets piece by piece, each piece with idle octets behind it. -/
def CarriesOctets (m : TmMissionParams) (frames : List (List UInt8)) (octets : List UInt8) : Prop :=
  ∃ pieces, List.Forall₂ (Filled m) frames pieces ∧ pieces.flatten = octets

variable {m : TmMissionParams} {frames frames' queue : List (List UInt8)}
  {octets octets' packet : List UInt8} {remainingLen h fuel : ℕ} {getPacketLen : GetPacketLen}

theorem CarriesOctets.nil : CarriesOctets m [] [] := ⟨[], .nil, rfl⟩

/-- Frames carry one stretch of octets after the other. -/
theorem CarriesOctets.append (hcarries : CarriesOctets m frames octets)
    (hcarries' : CarriesOctets m frames' octets') :
    CarriesOctets m (frames ++ frames') (octets ++ octets') := by
  obtain ⟨pieces, hfilled, rfl⟩ := hcarries
  obtain ⟨pieces', hfilled', rfl⟩ := hcarries'
  exact ⟨pieces ++ pieces', List.rel_append hfilled hfilled', List.flatten_append⟩

theorem carries_singleton {frame x : List UInt8} (hfilled : Filled m frame x) :
    CarriesOctets m [frame] x :=
  ⟨[x], .cons hfilled .nil, by simp⟩

/-- A frame with a cell of the packet holds the octets of the packet. -/
theorem filled_packetCell (hrem : remainingLen ≤ packet.length) {frame : List UInt8}
    (hcell : tmCell m frame = packetCell m packet remainingLen) :
    Filled m frame
      ((packet.drop (packet.length - remainingLen)).take (min m.maxDataLen remainingLen)) := by
  have hlen : ((packet.drop (packet.length - remainingLen)).take
      (min m.maxDataLen remainingLen)).length = min m.maxDataLen remainingLen := by
    rw [List.length_take, List.length_drop]
    omega
  refine ⟨by rw [hlen]; exact Nat.min_le_left _ _, ?_⟩
  rw [hlen]
  exact congrArg TmCell.field hcell

/-- The last frame of a packet. -/
theorem tailFrame_packetCell (hfits : TmFits m) (hpos : 0 < remainingLen)
    (hrem : remainingLen ≤ packet.length) (hmax : remainingLen ≤ m.maxDataLen) {frame : List UInt8}
    (hsound : Sound m frame) (hcell : tmCell m frame = packetCell m packet remainingLen) :
    TailFrame m frame (packet.drop (packet.length - remainingLen))
      (if tmFirstHdrPtr frame = 0 then [packet] else []) := by
  have hsmall := hfits.small
  have hfilled := filled_packetCell hrem hcell
  have hlen : (packet.drop (packet.length - remainingLen)).length = remainingLen := by
    rw [List.length_drop]
    omega
  rw [Nat.min_eq_right hmax, List.take_of_length_le hlen.le] at hfilled
  refine ⟨hsound.length, hfilled, ?_⟩
  have hptr : tmFirstHdrPtr frame = nextFirstHdrPtr m packet.length remainingLen :=
    congrArg TmCell.ptr hcell
  rw [hptr, hlen]
  unfold nextFirstHdrPtr
  by_cases hfirst : packet.length = remainingLen
  · rw [if_pos hfirst, if_pos rfl, hfirst, Nat.sub_self]
    exact .inr ⟨[], hfits.pos, rfl, by simp⟩
  · rw [if_neg hfirst]
    by_cases hfull : remainingLen ≥ m.maxDataLen
    · rw [if_pos hfull]
      exact .inl ⟨rfl, by omega⟩
    · obtain ⟨hnat, -⟩ := ofNat_ptr (show remainingLen < 2046 by omega)
      have hzero : BitVec.ofNat 11 remainingLen ≠ 0 := fun he => by
        rw [he] at hnat
        exact absurd hnat.symm (by simp; omega)
      rw [if_neg hfull, if_neg hzero]
      exact .inr ⟨packet.drop (packet.length - remainingLen), by omega, by rw [hlen], by simp⟩

/-- The frames of the last octets of a packet carry them, and the last of these frames can be
stuffed. -/
theorem packetCells_carries (hfits : TmFits m) {numPackets : ℕ}
    (hcells : frames.map (tmCell m) = packetCells m packet numPackets remainingLen)
    (hsound : ∀ frame ∈ frames, Sound m frame) (hpos : 0 < remainingLen)
    (hrem : remainingLen ≤ packet.length) (hmany : remainingLen ≤ numPackets * m.maxDataLen)
    (hfew : numPackets * m.maxDataLen < remainingLen + m.maxDataLen) :
    ∃ init frame before x, frames = init ++ [frame] ∧ CarriesOctets m init before ∧
      before ++ x = packet.drop (packet.length - remainingLen) ∧
      TailFrame m frame x (if tmFirstHdrPtr frame = 0 then [packet] else []) := by
  induction numPackets generalizing frames remainingLen with
  | zero => omega
  | succ numPackets ih =>
    rw [Nat.succ_mul] at hmany hfew
    obtain ⟨first, rest, rfl, hfirst, hrest⟩ := List.map_eq_cons_iff.mp hcells
    have hfirstSound := hsound first List.mem_cons_self
    by_cases hmax : remainingLen ≤ m.maxDataLen
    · have hnum : numPackets = 0 := by
        by_contra hmore
        have hle := Nat.le_mul_of_pos_left m.maxDataLen (Nat.pos_of_ne_zero hmore)
        omega
      subst hnum
      obtain rfl : rest = [] := List.map_eq_nil_iff.mp hrest
      exact ⟨[], first, [], _, rfl, .nil, rfl,
        tailFrame_packetCell hfits hpos hrem hmax hfirstSound hfirst⟩
    · rw [Nat.min_eq_left (by omega)] at hrest
      obtain ⟨init, frame, before, x, rfl, hcarries, hoctets, htail⟩ := ih hrest
        (fun frame hmem => hsound frame (List.mem_cons_of_mem _ hmem)) (by omega) (by omega)
        (by omega) (by omega)
      have hfilled := filled_packetCell hrem hfirst
      rw [Nat.min_eq_left (by omega)] at hfilled
      refine ⟨first :: init, frame, _, x, rfl, (carries_singleton hfilled).append hcarries, ?_, htail⟩
      rw [List.append_assoc, hoctets,
        show packet.length - (remainingLen - m.maxDataLen) =
          packet.length - remainingLen + m.maxDataLen by omega,
        ← List.drop_drop, List.take_append_drop]

/-! ## Transmissions and departures -/

/-- A sender and the frames that have left its queue; `sent` are the packets that have been
transmitted, and `starts` those that start in the last frame of the queue. -/
structure TmLine where
  tx : TmSender
  gone : List (List UInt8)
  sent : List (List UInt8)
  starts : List (List UInt8)
  deriving DecidableEq, Repr

/-- A packet is transmitted, or the first frame leaves the queue. -/
inductive TmLineEvent
  | transmit (packet : List UInt8)
  | dequeue
  deriving DecidableEq, Repr

/-- The packets of a run. -/
def offered (events : List TmLineEvent) : List (List UInt8) :=
  events.filterMap fun
    | .transmit packet => some packet
    | .dequeue => none

/-- The packets that start in the last frame when `tx` is what a transmission leaves behind. -/
def TmLine.startsAfter (s : TmLine) (packet : List UInt8) (tx : TmSender) : List (List UInt8) :=
  if tx.queue.length = s.tx.queue.length then s.starts ++ [packet]
  else if tmFirstHdrPtr (tx.queue.getLastD []) = 0 then [packet]
  else []

/-- A call that does not come back leaves the sender. -/
def lineStep (getPacketLen : GetPacketLen) (fuel : ℕ) (s : TmLine) : TmLineEvent → TmLine
  | .transmit packet =>
    let tx := ((osdlpTmTransmit getPacketLen fuel 0 s.tx packet packet.length).map Prod.snd).getD s.tx
    { tx := tx, gone := s.gone, sent := s.sent ++ [packet], starts := s.startsAfter packet tx }
  | .dequeue =>
    match s.tx.queue with
    | [] => s
    | frame :: queue =>
      { s with tx := { s.tx with queue := queue }, gone := s.gone ++ [frame] }

/-- No packet of the last frame but the last one ends within a header length of the end of the
data field. -/
def KeepsClear (s : TmLine) : TmLineEvent → Prop
  | .transmit _ => s.tx.queue ≠ [] → Spaced s.tx.tf.mission.headerLen s.tx.tf.mission.maxDataLen
      (tmFirstHdrPtr (s.tx.queue.getLastD [])).toNat s.starts
  | .dequeue => True

/-- What has been transmitted is in the frames, and the last frame of the queue can be
stuffed. -/
structure Packed (m : TmMissionParams) (getPacketLen : GetPacketLen) (h : ℕ) (s : TmLine) :
    Prop where
  ready : Ready m s.tx.tf
  accepting : Accepting s.tx.answers
  fit : ∀ p ∈ s.starts, Fit getPacketLen h p
  frames : (s.tx.queue = [] ∧ CarriesOctets m s.gone s.sent.flatten) ∨
    ∃ init frame before x, s.tx.queue = init ++ [frame] ∧ CarriesOctets m (s.gone ++ init) before ∧
      TailFrame m frame x s.starts ∧ before ++ x = s.sent.flatten

instance (s : TmLine) : (event : TmLineEvent) → Decidable (KeepsClear s event)
  | .transmit _ => inferInstanceAs (Decidable (_ → _))
  | .dequeue => isTrue trivial

variable {s : TmLine}

/-- The frames that are gone and those in the queue carry all packets together. -/
theorem Packed.carries (hpacked : Packed m getPacketLen h s) :
    CarriesOctets m (s.gone ++ s.tx.queue) s.sent.flatten := by
  rcases hpacked.frames with ⟨hqueue, hcarries⟩ | ⟨init, frame, before, x, hqueue, hcarries, htail, hsent⟩
  · rw [hqueue, List.append_nil]
    exact hcarries
  · rw [hqueue, ← List.append_assoc, ← hsent]
    exact hcarries.append (carries_singleton htail.filled)

/-- A departure. -/
theorem Packed.dequeue (hpacked : Packed m getPacketLen h s) :
    Packed m getPacketLen h (lineStep getPacketLen fuel s .dequeue) := by
  unfold lineStep
  dsimp only
  cases hqueue : s.tx.queue with
  | nil => exact hpacked
  | cons first queue =>
    refine ⟨hpacked.ready, hpacked.accepting, hpacked.fit, ?_⟩
    dsimp only
    rcases hpacked.frames with ⟨hnil, -⟩ | ⟨init, frame, before, x, hlast, hcarries, htail, hsent⟩
    · exact absurd (hqueue.symm.trans hnil) (List.cons_ne_nil _ _)
    · rw [hqueue] at hlast
      cases init with
      | nil =>
        obtain ⟨rfl, rfl⟩ := List.cons.inj hlast
        refine .inl ⟨rfl, ?_⟩
        rw [← hsent]
        rw [List.append_nil] at hcarries
        exact hcarries.append (carries_singleton htail.filled)
      | cons _ init =>
        obtain ⟨rfl, rfl⟩ := List.cons.inj hlast
        refine .inr ⟨init, frame, before, x, rfl, ?_, htail, hsent⟩
        rw [List.append_assoc]
        exact hcarries

/-- A transmission that ends with new frames behind a queue. -/
theorem Packed.newFrames (hfits : TmFits m) (hfit : Fit getPacketLen h packet)
    (hcarries : CarriesOctets m (s.gone ++ queue) octets)
    (hlength : queue.length = s.tx.queue.length)
    {tx : TmSender} {numPackets : ℕ}
    (hqueues : Queues m { s.tx with queue := queue } tx
      (packetCells m packet numPackets remainingLen))
    (hoctets : octets ++ packet.drop (packet.length - remainingLen) = s.sent.flatten ++ packet)
    (hpos : 0 < remainingLen) (hrem : remainingLen ≤ packet.length)
    (hmany : remainingLen ≤ numPackets * m.maxDataLen)
    (hfew : numPackets * m.maxDataLen < remainingLen + m.maxDataLen) :
    Packed m getPacketLen h
      { tx := tx, gone := s.gone, sent := s.sent ++ [packet], starts := s.startsAfter packet tx } := by
  obtain ⟨frames, hqueue, hcells, hsound⟩ := hqueues.frames
  obtain ⟨init, frame, before, x, rfl, hcarriesInit, hrest, htail⟩ :=
    packetCells_carries hfits hcells hsound hpos hrem hmany hfew
  have hqueue : tx.queue = (queue ++ init) ++ [frame] := by
    rw [hqueue, List.append_assoc]
  have hstarts : s.startsAfter packet tx = if tmFirstHdrPtr frame = 0 then [packet] else [] := by
    unfold TmLine.startsAfter
    rw [hqueue, List.getLastD_concat, if_neg]
    simp only [List.length_append, List.length_singleton]
    omega
  refine ⟨hqueues.ready, hqueues.accepting, ?_, .inr ⟨_, frame, octets ++ before, x, hqueue, ?_, ?_, ?_⟩⟩
  · dsimp only
    rw [hstarts]
    intro p hp
    split_ifs at hp
    · rw [List.mem_singleton.mp hp]
      exact hfit
    · exact absurd hp List.not_mem_nil
  · rw [← List.append_assoc]
    exact hcarries.append hcarriesInit
  · dsimp only
    rw [hstarts]
    exact htail
  · rw [List.append_assoc, hrest, hoctets, List.flatten_append]
    simp

/-- A transmission that ends in the last frame of the queue. -/
theorem Packed.stuffed (hfit : Fit getPacketLen h packet) (hpacked : Packed m getPacketLen h s)
    {init : List (List UInt8)} {frame before x : List UInt8} {tx : TmSender}
    (hlength : s.tx.queue.length = (init ++ [frame]).length)
    (hqueues : Queues m { s.tx with queue := init ++ [frame] } tx [])
    (hcarries : CarriesOctets m (s.gone ++ init) before)
    (htail : TailFrame m frame (x ++ packet) (s.starts ++ [packet]))
    (hsent : before ++ x = s.sent.flatten) :
    Packed m getPacketLen h
      { tx := tx, gone := s.gone, sent := s.sent ++ [packet], starts := s.startsAfter packet tx } := by
  obtain ⟨frames, hqueue, hcells, -⟩ := hqueues.frames
  obtain rfl : frames = [] := List.map_eq_nil_iff.mp hcells
  rw [List.append_nil] at hqueue
  have hstarts : s.startsAfter packet tx = s.starts ++ [packet] := by
    unfold TmLine.startsAfter
    rw [hqueue, if_pos hlength.symm]
  rw [hstarts]
  refine ⟨hqueues.ready, hqueues.accepting, fun p hp => ?_,
    .inr ⟨init, frame, before, x ++ packet, hqueue, hcarries, htail, ?_⟩⟩
  · rcases List.mem_append.mp hp with hp | hp
    · exact hpacked.fit p hp
    · rw [List.mem_singleton.mp hp]
      exact hfit
  · rw [← List.append_assoc, hsent, List.flatten_append]
    simp

/-- The step of a call that comes back. -/
theorem lineStep_transmit {ret : Int} {tx : TmSender}
    (hcall : osdlpTmTransmit getPacketLen fuel 0 s.tx packet packet.length = some (ret, tx)) :
    lineStep getPacketLen fuel s (.transmit packet) =
      { tx := tx, gone := s.gone, sent := s.sent ++ [packet], starts := s.startsAfter packet tx } := by
  unfold lineStep
  dsimp only
  rw [hcall]
  rfl

/-- A transmission. -/
theorem Packed.transmit (hfits : TmFits m) (hon : m.stuffState = .stuffingOn) (hpos : 0 < h)
    (hfuel : m.maxDataLen ≤ fuel) (hfit : Fit getPacketLen h packet)
    (hpacked : Packed m getPacketLen h s) (hclear : KeepsClear s (.transmit packet)) :
    Packed m getPacketLen h (lineStep getPacketLen fuel s (.transmit packet)) := by
  have hheader := hfit.header
  obtain ⟨-, hmany, hfew⟩ := numPacketsFor_bounds hfits.pos packet.length
  have hfew := hfew (by omega)
  have hwhole : s.sent.flatten ++ packet.drop (packet.length - packet.length) =
      s.sent.flatten ++ packet := by
    rw [Nat.sub_self, List.drop_zero]
  rcases hpacked.frames with ⟨hqueue, -⟩ | ⟨init, frame, before, x, hqueue, hcarries, htail, hsent⟩
  · obtain ⟨tx, hcall, hqueues⟩ := osdlpTmTransmit_empty packet hpacked.ready
      hpacked.accepting hqueue
    rw [lineStep_transmit hcall]
    exact .newFrames hfits hfit hpacked.carries rfl hqueues hwhole (by omega) (Nat.le_refl _)
      hmany hfew
  · have hspaced : Spaced m.headerLen m.maxDataLen (tmFirstHdrPtr frame).toNat s.starts := by
      have hspaced := hclear (by simp [hqueue])
      rw [hqueue, List.getLastD_concat, hpacked.ready.mission] at hspaced
      exact hspaced
    obtain ⟨tx, hcall, hout⟩ := osdlpTmTransmit_outcome hpacked.ready hpacked.accepting hon hqueue
      htail hpos hfits hpacked.fit hspaced hfuel hfit
    have hlength : ∀ stuffed : List UInt8, s.tx.queue.length = (init ++ [stuffed]).length := by
      simp [hqueue]
    rw [lineStep_transmit hcall]
    rcases hout with hqueues | ⟨stuffed, hqueues, hstuffed⟩ |
      ⟨stuffed, numPackets, remainingLen, hqueues, hfilled, hsome, hless, hmany, hfew⟩
    · exact .newFrames hfits hfit hpacked.carries rfl hqueues hwhole (by omega) (Nat.le_refl _)
        hmany hfew
    · exact hpacked.stuffed hfit (hlength stuffed) hqueues hcarries hstuffed hsent
    · have hcarries' := hcarries.append (carries_singleton hfilled)
      rw [List.append_assoc] at hcarries'
      refine .newFrames hfits hfit hcarries' (hlength stuffed).symm hqueues ?_ hsome hless.le
        hmany hfew
      rw [← List.append_assoc, List.append_assoc, List.take_append_drop, hsent]

/-- A run that is not broken off. -/
theorem sent_run (events : List TmLineEvent) :
    (run (lineStep getPacketLen fuel) s events).sent = s.sent ++ offered events := by
  induction events generalizing s with
  | nil => simp [offered]
  | cons event events ih =>
    rw [run_cons, ih]
    cases event with
    | transmit packet => simp [lineStep, offered]
    | dequeue =>
      have hsent : (lineStep getPacketLen fuel s .dequeue).sent = s.sent := by
        unfold lineStep
        dsimp only
        split <;> rfl
      rw [hsent]
      rfl

/-- Where every packet of the last frame but the last one ends more than a header length before
the end of the data field whenever another is transmitted, the frames carry what is transmitted,
back to back, whenever they leave.
SOURCE: osdlp_tm.c:226-414 -/
theorem carries_transmitted {a : TmInitArgs} {tf₀ tf : TmTransferFrame}
    (hinit : osdlpTmInit tf₀ a = some tf) (hon : a.stuffing = .stuffingOn)
    (hsize : a.frameSize.toNat ≤ 2048) (hpos : 0 < h) (hroom : a.occupied + h ≤ a.frameSize.toNat)
    {answers : List Int} (hacc : Accepting answers) {events : List TmLineEvent}
    (hhook : TellsLength getPacketLen h (offered events))
    (hvalid : ∀ packet ∈ offered events, h ≤ packet.length ∧
      packet.length ≤ a.maxSduLen.toNat ∧ packet.head? ≠ some tmIdlePacket)
    (hfuel : a.mission.maxDataLen ≤ fuel) :
    let s : TmLine :=
      { tx := { tf := tf, queue := [], answers := answers }, gone := [], sent := [], starts := [] }
    Guarded (lineStep getPacketLen fuel) KeepsClear s events →
      ∀ n, let s' := run (lineStep getPacketLen fuel) s (events.take n)
        CarriesOctets a.mission (s'.gone ++ s'.tx.queue) (offered (events.take n)).flatten := by
  intro s hguarded n s'
  obtain ⟨hfits, -⟩ := osdlpTmInit_fits hpos hsize hroom
  have hstart : Packed a.mission getPacketLen h s :=
    ⟨osdlpTmInit_ready (by omega) hinit, hacc, by simp [s], .inl ⟨rfl, .nil⟩⟩
  have hpacked : Packed a.mission getPacketLen h s' := by
    refine run_guarded_inv hstart (fun s event hevent hpacked hclear => ?_) (hguarded.take n)
    cases event with
    | dequeue => exact hpacked.dequeue
    | transmit packet =>
      have hmem : packet ∈ offered events :=
        List.mem_filterMap.mpr ⟨_, List.mem_of_mem_take hevent, rfl⟩
      obtain ⟨hheader, hsdu, hnotIdle⟩ := hvalid packet hmem
      have hsmall := a.maxSduLen.toNat_lt
      refine hpacked.transmit hfits hon hpos hfuel ⟨?_, hheader, by omega, hnotIdle⟩ hclear
      rintro p hp
      rw [List.mem_singleton.mp hp]
      exact hhook packet hmem
  have hsent : s'.sent = offered (events.take n) := sent_run _
  rw [← hsent]
  exact hpacked.carries

/-- Frames of twenty-four octets, sixteen of them data. -/
def stuffedFrames : TmInitArgs :=
  { (default : TmInitArgs) with
    crcFlag := true
    frameSize := 24
    maxSduLen := 100
    stuffing := .stuffingOn }

/-- A sender that is set up for them. -/
def stuffedLine : TmLine :=
  { tx :=
      { tf := (osdlpTmInit default stuffedFrames).getD default, queue := [], answers := [] }
    gone := []
    sent := []
    starts := [] }

/-- Two packets share a frame with the first octets of a third, which goes on in a new frame; a
fourth is put behind its end when the first frame has left. -/
theorem carries_transmitted_four_packets :
    let events : List TmLineEvent := [.transmit [4, 1, 1, 1], .transmit [3, 2, 2],
      .transmit [12, 3, 3, 3, 3, 3, 3, 3, 3, 3, 3, 3], .dequeue, .transmit [2, 4]]
    Guarded (lineStep (lengthOctet 0) 16) KeepsClear stuffedLine events ∧
      ∀ n, let s := run (lineStep (lengthOctet 0) 16) stuffedLine (events.take n)
        CarriesOctets stuffedFrames.mission (s.gone ++ s.tx.queue) (offered (events.take n)).flatten := by
  intro events
  have hguarded : Guarded (lineStep (lengthOctet 0) 16) KeepsClear stuffedLine events := by
    decide +kernel
  exact ⟨hguarded, carries_transmitted (a := stuffedFrames) (h := 1)
    (show osdlpTmInit default stuffedFrames = some _ from rfl) rfl (by decide) (by decide) (by decide)
    (show Accepting [] by simp [Accepting]) (lengthOctet_tells (by decide)) (by decide) (by decide)
    hguarded⟩

/-- A packet ends at offset ten of sixteen and another one lies behind it: the third packet
overwrites the second. -/
theorem not_carries_third_packet :
    let events : List TmLineEvent :=
      [.transmit [10, 1, 1, 1, 1, 1, 1, 1, 1, 1], .transmit [2, 2], .transmit [2, 3]]
    let s := run (lineStep (lengthOctet 0) 16) stuffedLine events
    TellsLength (lengthOctet 0) 1 (offered events) ∧
      (∀ packet ∈ offered events, 1 ≤ packet.length ∧
        packet.length ≤ stuffedFrames.maxSduLen.toNat ∧ packet.head? ≠ some tmIdlePacket) ∧
      (s.gone ++ s.tx.queue).map (fun frame => region frame 6 16) =
        [[10, 1, 1, 1, 1, 1, 1, 1, 1, 1, 2, 3, 0xE0, 0xE0, 0xE0, 0xE0]] ∧
      ¬ CarriesOctets stuffedFrames.mission (s.gone ++ s.tx.queue) (offered events).flatten := by
  intro events s
  have hfields : (s.gone ++ s.tx.queue).map (fun frame => region frame 6 16) =
      [[10, 1, 1, 1, 1, 1, 1, 1, 1, 1, 2, 3, 0xE0, 0xE0, 0xE0, 0xE0]] := by
    decide +kernel
  refine ⟨lengthOctet_tells (by decide), by decide, hfields, ?_⟩
  rintro ⟨pieces, hfilled, hpieces⟩
  obtain ⟨frame, rest, hframes, hfield, hrest⟩ := List.map_eq_cons_iff.mp hfields
  rw [hframes, List.map_eq_nil_iff.mp hrest] at hfilled
  obtain ⟨piece, pieces, hpiece, hnil, rfl⟩ := List.forall₂_cons_left_iff.mp hfilled
  obtain rfl := List.forall₂_nil_left_iff.mp hnil
  rw [List.flatten_cons, List.flatten_nil, List.append_nil] at hpieces
  subst hpieces
  have hheld : region frame 6 16 = _ := hpiece.field
  rw [hfield] at hheld
  revert hheld
  decide

end Osdlp.Analysis
