import Osdlp.Analysis.TmRoundTrip
import Osdlp.Library.Run

/-!
# Telemetry over a link that loses frames

Without stuffing, a packet is delivered when as many octets have come as it is long;
the frame counters are not looked at.  Frames that are lost between the frame that opened
a packet and the one that completes it go unnoticed if the lengths match.  Where no frame
completes a packet over such a gap, every delivered buffer starts with a transmitted packet
(`delivered_transmitted`).
-/

set_option autoImplicit false

namespace Osdlp.Analysis

open Osdlp.Model Osdlp.Interface Osdlp.Library

/-- A receiver behind a link, and whether a frame has been missed since the last one that
opened a packet. -/
structure LossyLink where
  rx : TmReceiver
  gap : Bool
  deriving DecidableEq, Repr

/-- A frame comes to the receiver, or is lost. -/
def linkStep (getPacketLen : GetPacketLen) (s : LossyLink) (event : List UInt8 × Bool) :
    LossyLink :=
  if event.2 then
    { rx := ((osdlpTmReceive getPacketLen 0 0 s.rx event.1).map Prod.snd).getD s.rx
      gap := if Heard s.rx event.1 then s.gap && tmFirstHdrPtr event.1 != 0 else true }
  else { s with gap := true }

/-- The frame does not complete a packet after others have been missed. -/
def NoJoin (s : LossyLink) (event : List UInt8 × Bool) : Prop :=
  ¬ (event.2 = true ∧ Heard s.rx event.1 ∧ s.gap = true ∧ tmFirstHdrPtr event.1 ≠ 0 ∧
    s.rx.tf.mission.util.loopState = .loopOpen ∧
    s.rx.tf.mission.util.bufferedLength + usableLen (osdlpTmUnpack s.rx.tf event.1) =
      s.rx.tf.mission.util.expectedPktLen)

instance (s : LossyLink) (event : List UInt8 × Bool) : Decidable (NoJoin s event) :=
  inferInstanceAs (Decidable (¬ _))

variable {m : TmMissionParams} {s : LossyLink} {packet : List UInt8} {remainingLen : ℕ}
  {getPacketLen : GetPacketLen} {h : ℕ} {packets : List (List UInt8)}

/-- An open loop without a gap has collected all but the last octets of the packet. -/
def Tracks (s : LossyLink) (packet : List UInt8) (remainingLen : ℕ) : Prop :=
  s.rx.tf.mission.util.loopState = .loopOpen → s.gap = false →
    0 < remainingLen ∧ Collects s.rx.tf.mission.util packet (packet.length - remainingLen)

/-- What a frame with a cell of the packet leaves behind, received or not. -/
structure LinkOutcome (m : TmMissionParams) (s s' : LossyLink) (packet : List UInt8)
    (remainingLen : ℕ) : Prop where
  listens : Listens m s'.rx
  tracks : Tracks s' packet remainingLen
  delivers : ∃ handed, Delivers s.rx s'.rx handed ∧ ∀ buf ∈ handed, packet <+: buf

/-- A frame that is heard is handled without stuffing. -/
theorem linkStep_heard (hlistens : Listens m s.rx) (hoff : m.stuffState = .stuffingOff)
    {frame : List UInt8} (hheard : Heard s.rx frame)
    (hptr : (tmCell m frame).ptr ≠ tmFirstHdrPtrOid) :
    linkStep getPacketLen s (frame, true) =
      { rx := (handleRxNoStuffing getPacketLen
          { s.rx with tf := osdlpTmUnpack s.rx.tf frame }).2
        gap := s.gap && (tmCell m frame).ptr != 0 } := by
  obtain ⟨code, hcall⟩ := osdlpTmReceive_noStuffing getPacketLen 0 hlistens hoff hheard hptr
  unfold linkStep
  dsimp only
  rw [if_pos rfl, if_pos hheard, hcall]
  rfl

/-- What the receiver makes of a cell, seen from the link. -/
theorem linkOutcome_of_outcome {frame : List UInt8} {r' : TmReceiver}
    (hout : Outcome m { s.rx with tf := osdlpTmUnpack s.rx.tf frame } r' packet remainingLen)
    (gap : Bool) : LinkOutcome m s { rx := r', gap := gap } packet remainingLen := by
  obtain ⟨hlistens, ⟨-, hclosed, buf, hbuf, hdel⟩ | ⟨hpos, hcoll, hdel⟩⟩ := hout
  · exact ⟨hlistens, fun hopen => absurd (hclosed.symm.trans hopen) (by decide), [buf],
      ⟨hdel.taken, hdel.accepting⟩, by simpa using hbuf⟩
  · exact ⟨hlistens, fun _ _ => ⟨hpos, hcoll⟩, [], ⟨hdel.taken, hdel.accepting⟩, by simp⟩

/-- A frame with a cell of a packet, at the place of that cell in what is sent.
SOURCE: osdlp_tm.c:416-485, 748-772 -/
theorem linkStep_outcome (hlistens : Listens m s.rx) (hoff : m.stuffState = .stuffingOff)
    (hfits : TmFits m) (hsdu : packet.length ≤ m.maxSduLen)
    (hhook : ∀ buf, packet.take m.maxDataLen <+: buf →
      getPacketLen buf m.maxDataLen = some (UInt16.ofNat packet.length))
    (hpos : 0 < remainingLen) (hrem : remainingLen ≤ packet.length)
    (htracks : remainingLen < packet.length → Tracks s packet remainingLen)
    {event : List UInt8 × Bool} (hf : Sound m event.1)
    (hcell : tmCell m event.1 = packetCell m packet remainingLen) (hguard : NoJoin s event) :
    LinkOutcome m s (linkStep getPacketLen s event) packet
      (remainingLen - min m.maxDataLen remainingLen) := by
  obtain ⟨frame, kept⟩ := event
  dsimp only at hf hcell
  cases kept with
  | false =>
    exact ⟨hlistens, fun _ hgap => (nomatch hgap), [], .refl s.rx, by simp⟩
  | true =>
    by_cases hheard : Heard s.rx frame
    · have hptr : (tmCell m frame).ptr ≠ tmFirstHdrPtrOid := by
        rw [hcell]
        exact packetCell_ptr_ne_oid hfits packet remainingLen
      have hholds := hlistens.holds hfits.frame hf
      rw [linkStep_heard hlistens hoff hheard hptr]
      rw [hcell] at hholds ⊢
      rcases hrem.lt_or_eq with hlt | rfl
      · obtain ⟨hne, husable⟩ := hholds.usableLen_packetCell hfits hpos hlt
        have hgap : (s.gap && (packetCell m packet remainingLen).ptr != 0) = s.gap := by
          rw [← hholds.ptr, bne_iff_ne.mpr hne, Bool.and_true]
        rw [hgap]
        cases hloop : s.rx.tf.mission.util.loopState with
        | loopClosed =>
          rw [handleRxNoStuffing_closed getPacketLen hne hloop]
          exact ⟨hholds.listens, fun hopen => absurd (hloop.symm.trans hopen) (by decide), [],
            ⟨(Delivers.refl s.rx).taken, (Delivers.refl s.rx).accepting⟩, by simp⟩
        | loopOpen =>
          cases hg : s.gap with
          | false =>
            obtain ⟨-, hcoll⟩ := htracks hlt hloop hg
            exact linkOutcome_of_outcome
              (handleRxNoStuffing_next getPacketLen hholds hfits hcoll hpos hlt hsdu) false
          | true =>
            -- the guard is what keeps the lengths from matching by accident
            obtain ⟨hlistens', hdel⟩ := handleRxNoStuffing_silent getPacketLen hholds.listens hne
              hloop fun hjoin => hguard ⟨rfl, hheard, hg, hne, hloop, hjoin⟩
            exact ⟨hlistens', fun _ hfalse => (nomatch hfalse), [],
              ⟨hdel.taken, hdel.accepting⟩, by simp⟩
      · exact linkOutcome_of_outcome (handleRxNoStuffing_first hholds hsdu hfits (hhook _)) _
    · have hcall := osdlpTmReceive_not_heard getPacketLen 0 hheard
      unfold linkStep
      dsimp only
      rw [if_pos rfl, if_neg hheard, hcall]
      refine ⟨hlistens.unpack frame, fun _ hgap => (nomatch hgap), [], ?_, by simp⟩
      exact ⟨(Delivers.refl s.rx).taken, (Delivers.refl s.rx).accepting⟩

/-! ## Runs -/

/-- The next cells are those of the last octets of a packet, and whole packets follow. -/
structure Ahead (m : TmMissionParams) (s : LossyLink) (packets : List (List UInt8))
    (packet : List UInt8) (numPackets remainingLen : ℕ) (rest : List (List UInt8)) : Prop where
  mem : 0 < remainingLen → packet ∈ packets
  subset : ∀ p ∈ rest, p ∈ packets
  rem : remainingLen ≤ packet.length
  many : remainingLen ≤ numPackets * m.maxDataLen
  few : numPackets * m.maxDataLen < remainingLen + m.maxDataLen
  tracks : remainingLen < packet.length → Tracks s packet remainingLen

/-- The cells of the octets and of the packets to come. -/
def aheadCells (m : TmMissionParams) (packet : List UInt8) (numPackets remainingLen : ℕ)
    (rest : List (List UInt8)) : List TmCell :=
  packetCells m packet numPackets remainingLen ++ noStuffingCells m rest

/-- Where all of a packet has been sent, the next one starts. -/
theorem Ahead.next (hfits : TmFits m) (hvalid : ∀ p ∈ packets, 0 < p.length ∧ p.length ≤ m.maxSduLen)
    {numPackets : ℕ} {rest : List (List UInt8)}
    (hahead : Ahead m s packets packet numPackets remainingLen rest) {cell : TmCell}
    {cells : List TmCell}
    (hcells : cell :: cells <+: aheadCells m packet numPackets remainingLen rest) :
    ∃ packet numPackets remainingLen rest,
      Ahead m s packets packet (numPackets + 1) remainingLen rest ∧
        cell :: cells <+: aheadCells m packet (numPackets + 1) remainingLen rest := by
  cases numPackets with
  | succ numPackets => exact ⟨packet, numPackets, remainingLen, rest, hahead, hcells⟩
  | zero =>
    cases rest with
    | nil => exact absurd (List.prefix_nil.mp hcells) (List.cons_ne_nil _ _)
    | cons packet rest =>
      have hmem := hahead.subset packet List.mem_cons_self
      obtain ⟨hsome, hmany, hfew⟩ := numPacketsFor_bounds hfits.pos packet.length
      obtain ⟨numPackets, hnum⟩ := Nat.exists_eq_add_one_of_ne_zero hsome.ne'
      refine ⟨packet, numPackets, packet.length, rest, ?_, ?_⟩
      · rw [hnum] at hmany hfew
        exact ⟨fun _ => hmem, fun p hp => hahead.subset p (List.mem_cons_of_mem _ hp), Nat.le_refl _, hmany,
          hfew (hvalid packet hmem).1, fun hlt => absurd hlt (Nat.lt_irrefl _)⟩
      · rw [← hnum]
        exact hcells

/-- A run without joins delivers the packets that are sent, and nothing else. -/
theorem run_delivers (hoff : m.stuffState = .stuffingOff) (hfits : TmFits m)
    (hhook : TellsLength getPacketLen h packets) (hroom : h ≤ m.maxDataLen)
    (hvalid : ∀ p ∈ packets, 0 < p.length ∧ p.length ≤ m.maxSduLen)
    {events : List (List UInt8 × Bool)} (hsound : ∀ e ∈ events, Sound m e.1) {numPackets : ℕ}
    {rest : List (List UInt8)} (hlistens : Listens m s.rx)
    (hahead : Ahead m s packets packet numPackets remainingLen rest)
    (hcells : (events.map fun e => tmCell m e.1) <+:
      aheadCells m packet numPackets remainingLen rest)
    (hguarded : Guarded (linkStep getPacketLen) NoJoin s events) :
    ∃ handed, Delivers s.rx (run (linkStep getPacketLen) s events).rx handed ∧
      ∀ buf ∈ handed, ∃ p ∈ packets, p <+: buf := by
  induction events generalizing s packet numPackets remainingLen rest with
  | nil => exact ⟨[], .refl s.rx, by simp⟩
  | cons event events ih =>
    obtain ⟨packet, numPackets, remainingLen, rest, hahead, hcells⟩ := hahead.next hfits hvalid hcells
    obtain ⟨hguard, hrest⟩ := hguarded
    obtain ⟨hcell, hcells⟩ := List.cons_prefix_cons.mp hcells
    have hmany := hahead.many
    have hfew := hahead.few
    have hrem := hahead.rem
    rw [Nat.succ_mul] at hmany hfew
    have hmem := hahead.mem (by omega)
    have hout := linkStep_outcome hlistens hoff hfits (hvalid packet hmem).2
      (fun buf => hhook packet hmem buf _ hroom) (by omega) hrem hahead.tracks
      (hsound event List.mem_cons_self) hcell hguard
    obtain ⟨handed, hdel, hhanded⟩ := hout.delivers
    obtain ⟨handed', hdel', hhanded'⟩ := ih (fun e he => hsound e (List.mem_cons_of_mem _ he))
      hout.listens ⟨fun _ => hmem, hahead.subset, by omega, by omega, by omega, fun _ => hout.tracks⟩
      hcells hrest
    refine ⟨handed ++ handed', hdel.trans hdel', fun buf hbuf => ?_⟩
    rcases List.mem_append.mp hbuf with hbuf | hbuf
    · exact ⟨packet, hmem, hhanded buf hbuf⟩
    · exact hhanded' buf hbuf

/-- Whatever frames are lost: where no frame completes a packet over a gap, every buffer that
is delivered starts with all of a transmitted packet.
SOURCE: osdlp_tm.c:306-502, 748-772 -/
theorem delivered_transmitted {a : TmInitArgs} {rxBuffer : List UInt8}
    {tf₀ tf₁ tx rx : TmTransferFrame} (htx : osdlpTmInit tf₀ a = some tx)
    (hrx : osdlpTmInit tf₁ { a with utilBuffer := rxBuffer } = some rx)
    (hoff : a.stuffing = .stuffingOff) (hsize : a.frameSize.toNat ≤ 2048) (hpos : 0 < h)
    (hroom : a.occupied + h ≤ a.frameSize.toNat) {txAnswers : List Int}
    (htxAcc : Accepting txAnswers) (rxAnswers : List Int)
    (hhook : TellsLength getPacketLen h packets)
    (hvalid : ∀ packet ∈ packets, h ≤ packet.length ∧ packet.length ≤ a.maxSduLen.toNat)
    (fuel : ℕ) :
    let link : LossyLink :=
      { rx := { tf := rx, delivered := [], answers := rxAnswers }, gap := false }
    ∃ s', transmitAll getPacketLen fuel { tf := tx, queue := [], answers := txAnswers } packets =
        some s' ∧
      ∀ kept : List Bool,
        Guarded (linkStep getPacketLen) NoJoin link (s'.queue.zip kept) →
        ∀ n, ∀ buf ∈ (run (linkStep getPacketLen) link ((s'.queue.zip kept).take n)).rx.delivered,
          ∃ packet ∈ packets, packet <+: buf := by
  intro link
  obtain ⟨hfits, hmax⟩ := osdlpTmInit_fits hpos hsize hroom
  have hready : Ready a.mission tx := osdlpTmInit_ready (by omega) htx
  have hlistens : Listens a.mission link.rx := osdlpTmInit_listens hrx [] rxAnswers
  obtain ⟨s', hsent, hqueued⟩ := transmitAll_queues (s := { tf := tx, queue := [], answers := txAnswers })
    getPacketLen fuel hoff hready htxAcc packets
  obtain ⟨frames, hqueue, hcells, hsound⟩ := hqueued.frames
  refine ⟨s', hsent, fun kept hguarded n buf hbuf => ?_⟩
  rw [hqueue, List.nil_append] at hguarded hbuf
  have hframes : ((frames.zip kept).take n).map Prod.fst <+: frames := by
    rw [List.zip_eq_zip_take_min, List.map_take, List.map_fst_zip (by simp)]
    exact (List.take_prefix _ _).trans (List.take_prefix _ _)
  have hahead : Ahead a.mission link packets [] 0 0 packets :=
    ⟨fun hlt => absurd hlt (Nat.lt_irrefl 0), fun _ => id, Nat.le_refl 0, Nat.zero_le _,
      by have := hfits.pos; omega, fun hlt => absurd hlt (Nat.lt_irrefl 0)⟩
  obtain ⟨handed, hdel, hhanded⟩ := run_delivers hoff hfits hhook hmax
    (fun p hp => ⟨by have := hvalid p hp; omega, (hvalid p hp).2⟩)
    (fun e he => hsound e.1 (hframes.subset (List.mem_map_of_mem he))) hlistens hahead
    (by
      have hmapped := hframes.map (tmCell a.mission)
      rw [hcells, List.map_map] at hmapped
      exact hmapped)
    (hguarded.take n)
  obtain ⟨taken, hsub, hdelivered⟩ := hdel.taken
  rw [hdelivered] at hbuf
  exact hhanded buf (hsub.subset hbuf)

/-- Two packets of twice the size of a data field. -/
def twelves : List (List UInt8) :=
  [[12, 1, 1, 1, 1, 1, 1, 1, 1, 1, 1, 1], [12, 2, 2, 2, 2, 2, 2, 2, 2, 2, 2, 2]]

/-- The third of four frames is lost, and the fourth finds no open loop. -/
theorem delivered_transmitted_third_lost :
    let s : TmSender := { tf := smallEnd, queue := [], answers := [] }
    let link : LossyLink :=
      { rx := { tf := smallEnd, delivered := [], answers := [] }, gap := false }
    let kept := [true, true, false, true]
    ∃ s', transmitAll (lengthOctet 0) 0 s twelves = some s' ∧
      Guarded (linkStep (lengthOctet 0)) NoJoin link (s'.queue.zip kept) ∧
      ∀ n, ∀ buf ∈ (run (linkStep (lengthOctet 0)) link ((s'.queue.zip kept).take n)).rx.delivered,
        ∃ packet ∈ twelves, packet <+: buf := by
  intro s link kept
  obtain ⟨s', hsent, hruns⟩ := delivered_transmitted (a := smallFrames) (h := 1)
    (show osdlpTmInit default smallFrames = some smallEnd from rfl)
    (show osdlpTmInit default smallFrames = some smallEnd from rfl) rfl (by decide) (by decide)
    (by decide) (show Accepting [] by simp [Accepting]) [] (lengthOctet_tells (by decide))
    (show ∀ packet ∈ twelves, _ by decide) 0
  have hguarded : (transmitAll (lengthOctet 0) 0 s twelves).all (fun s' =>
      decide (Guarded (linkStep (lengthOctet 0)) NoJoin link (s'.queue.zip kept))) = true := by
    decide +kernel
  rw [hsent] at hguarded
  exact ⟨s', hsent, of_decide_eq_true hguarded, hruns kept (of_decide_eq_true hguarded)⟩

/-- The frames of the two packets. -/
def twelvesFrames : List (List UInt8) :=
  [[0, 0, 1, 1, 0x18, 0, 12, 1, 1, 1, 1, 1, 224, 215],
    [0, 0, 2, 2, 0x1F, 0xFF, 1, 1, 1, 1, 1, 1, 80, 118],
    [0, 0, 3, 3, 0x18, 0, 12, 2, 2, 2, 2, 2, 177, 84],
    [0, 0, 4, 4, 0x1F, 0xFF, 2, 2, 2, 2, 2, 2, 254, 207]]

/-- The second and the third of four frames are lost: the first half of one packet and the
second half of the other are delivered as a packet. -/
theorem not_delivered_transmitted :
    let s : TmSender := { tf := smallEnd, queue := [], answers := [] }
    let r : TmReceiver := { tf := smallEnd, delivered := [], answers := [] }
    let heard := [twelvesFrames.getD 0 [], twelvesFrames.getD 3 []]
    ∃ s' r', transmitAll (lengthOctet 0) 0 s twelves = some s' ∧ s'.queue = twelvesFrames ∧
      heard.Sublist s'.queue ∧ receiveAll (lengthOctet 0) 0 r heard = some r' ∧
      r'.delivered = [[12, 1, 1, 1, 1, 1, 2, 2, 2, 2, 2, 2]] ∧
      ¬ ∀ buf ∈ r'.delivered, ∃ packet ∈ twelves, packet <+: buf := by
  intro s r heard
  have hsent : (transmitAll (lengthOctet 0) 0 s twelves).map TmSender.queue = some twelvesFrames := by
    decide +kernel
  have hreceived : (receiveAll (lengthOctet 0) 0 r heard).map TmReceiver.delivered =
      some [[12, 1, 1, 1, 1, 1, 2, 2, 2, 2, 2, 2]] := by
    decide +kernel
  obtain ⟨s', hs', hqueue⟩ := Option.map_eq_some_iff.mp hsent
  obtain ⟨r', hr', hdelivered⟩ := Option.map_eq_some_iff.mp hreceived
  refine ⟨s', r', hs', hqueue, ?_, hr', hdelivered, ?_⟩
  · rw [hqueue]
    decide
  · rw [hdelivered]
    decide

end Osdlp.Analysis
