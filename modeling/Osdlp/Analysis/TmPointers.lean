import Osdlp.Analysis.TmPacking

/-!
# First header pointers

Frames are made and, with stuffing, changed while they are in the queue.  `Laid` says that the
pointer of each frame matches what the frames hold; it is kept as long as no packet is stuffed
into an idle frame (`pointersMatch_run_iff`).
-/

set_option autoImplicit false

namespace Osdlp.Analysis

open Osdlp.Model Osdlp.Interface Osdlp.Library

/-! ## Frames and pointers -/

/-- A frame with a pointer that matches it.  `rest` is what an earlier packet has still to
bring, `starts` are the packets that start in the frame, and the last index is what is left of
the last one behind the frame. -/
inductive Points (m : TmMissionParams) :
    List UInt8 → List UInt8 → List (List UInt8) → List UInt8 → Prop
  /-- An idle frame holds no octet of a packet. -/
  | idle {frame : List UInt8} : tmFirstHdrPtr frame = tmFirstHdrPtrOid → Filled m frame [] →
      Points m [] frame [] []
  /-- The whole data field continues an earlier packet. -/
  | continues {rest frame : List UInt8} : m.maxDataLen ≤ rest.length →
      tmFirstHdrPtr frame = tmFirstHdrPtrNoPktStart → Filled m frame (rest.take m.maxDataLen) →
      Points m rest frame [] (rest.drop m.maxDataLen)
  /-- A packet, or the idle fill, starts behind the end of an earlier packet. -/
  | starts {rest frame : List UInt8} {starts : List (List UInt8)} : rest.length < m.maxDataLen →
      tmFirstHdrPtr frame = BitVec.ofNat 11 rest.length →
      rest.length + starts.dropLast.flatten.length < m.maxDataLen →
      Filled m frame ((rest ++ starts.flatten).take m.maxDataLen) →
      Points m rest frame starts ((rest ++ starts.flatten).drop m.maxDataLen)

/-- Frames with matching pointers one behind the other, and the packets that start in them. -/
inductive Laid (m : TmMissionParams) :
    List UInt8 → List (List UInt8) → List (List UInt8) → List UInt8 → Prop
  | nil {rest : List UInt8} : Laid m rest [] [] rest
  | cons {rest rest' rest'' frame : List UInt8} {frames starts packets : List (List UInt8)} :
      Points m rest frame starts rest' → Laid m rest' frames packets rest'' →
      Laid m rest (frame :: frames) (starts ++ packets) rest''

variable {m : TmMissionParams} {frames frames' init packets packets' starts : List (List UInt8)}
  {rest rest' rest'' frame packet : List UInt8} {remainingLen numPackets h fuel : ℕ}
  {getPacketLen : GetPacketLen}

/-- Packets are laid into frames one stretch after the other. -/
theorem Laid.append (hlaid : Laid m rest frames packets rest')
    (hlaid' : Laid m rest' frames' packets' rest'') :
    Laid m rest (frames ++ frames') (packets ++ packets') rest'' := by
  induction hlaid with
  | nil => exact hlaid'
  | cons hpoints _ ih =>
    rw [List.append_assoc]
    exact .cons hpoints (ih hlaid')

/-- One frame. -/
theorem Points.laid (hpoints : Points m rest frame starts rest') :
    Laid m rest [frame] starts rest' := by
  have hlaid : Laid m rest [frame] (starts ++ []) rest' := .cons hpoints .nil
  rwa [List.append_nil] at hlaid

/-- The last frame. -/
theorem Laid.last (hlaid : Laid m rest (init ++ [frame]) packets rest'') :
    ∃ rest' packets' starts, Laid m rest init packets' rest' ∧ Points m rest' frame starts rest'' ∧
      packets = packets' ++ starts := by
  induction init generalizing rest packets with
  | nil =>
    cases hlaid with
    | cons hpoints hnil =>
      cases hnil with
      | nil => exact ⟨rest, [], _, .nil, hpoints, by simp⟩
  | cons first init ih =>
    cases hlaid with
    | cons hpoints hlaid =>
      obtain ⟨rest', packets', starts, hinit, hlast, rfl⟩ := ih hlaid
      exact ⟨rest', _, starts, .cons hpoints hinit, hlast, by rw [List.append_assoc]⟩

/-- The pointer of an idle frame stands on an idle frame. -/
theorem Points.oid (hfits : TmFits m) (hpoints : Points m rest frame starts rest')
    (hoid : tmFirstHdrPtr frame = tmFirstHdrPtrOid) : Filled m frame [] := by
  have hsmall := hfits.small
  cases hpoints with
  | idle _ hfilled => exact hfilled
  | continues _ hno _ =>
    rw [hno] at hoid
    exact absurd hoid (by decide)
  | starts hlt hptr _ _ =>
    rw [hptr] at hoid
    exact absurd hoid (ofNat_ptr (by omega)).2.2

/-- A frame with the pointer of idle frames holds nothing. -/
theorem Laid.oid (hfits : TmFits m) (hlaid : Laid m rest frames packets rest')
    (hmem : frame ∈ frames) (hoid : tmFirstHdrPtr frame = tmFirstHdrPtrOid) :
    Filled m frame [] := by
  induction hlaid with
  | nil => exact absurd hmem List.not_mem_nil
  | cons hpoints _ ih =>
    rcases List.mem_cons.mp hmem with rfl | hmem
    · exact hpoints.oid hfits hoid
    · exact ih hmem

/-! ## The cells of a packet -/

/-- A cell that continues a packet. -/
theorem points_packetCell (hcell : tmCell m frame = packetCell m packet remainingLen)
    (hpos : 0 < remainingLen) (hrem : remainingLen < packet.length) :
    Points m (packet.drop (packet.length - remainingLen)) frame []
      (packet.drop (packet.length - (remainingLen - min m.maxDataLen remainingLen))) := by
  have hfilled := filled_packetCell hrem.le hcell
  have hptr : tmFirstHdrPtr frame = nextFirstHdrPtr m packet.length remainingLen :=
    congrArg TmCell.ptr hcell
  unfold nextFirstHdrPtr at hptr
  rw [if_neg (by omega)] at hptr
  have hlen : (packet.drop (packet.length - remainingLen)).length = remainingLen := by
    rw [List.length_drop]
    omega
  by_cases hfull : remainingLen ≥ m.maxDataLen
  · rw [if_pos hfull] at hptr
    rw [Nat.min_eq_left hfull] at hfilled ⊢
    rw [show packet.length - (remainingLen - m.maxDataLen) =
      packet.length - remainingLen + m.maxDataLen by omega, ← List.drop_drop]
    exact .continues (by omega) hptr hfilled
  · rw [if_neg hfull] at hptr
    rw [Nat.min_eq_right (by omega), List.take_of_length_le hlen.le] at hfilled
    have hpoints : Points m (packet.drop (packet.length - remainingLen)) frame [] _ :=
      .starts (by omega) (by rw [hptr, hlen]) (by simp; omega)
        (by rw [List.flatten_nil, List.append_nil, List.take_of_length_le (by omega)]; exact hfilled)
    have hdone : (packet.drop (packet.length - remainingLen) ++
        ([] : List (List UInt8)).flatten).drop m.maxDataLen = [] :=
      List.drop_eq_nil_of_le (by rw [List.flatten_nil, List.append_nil]; omega)
    rw [Nat.min_eq_right (by omega), Nat.sub_self, Nat.sub_zero, List.drop_length]
    rwa [hdone] at hpoints

/-- The frames that continue a packet end with it. -/
theorem laid_continued (hcells : frames.map (tmCell m) = packetCells m packet numPackets remainingLen)
    (hrem : remainingLen < packet.length) (hmany : remainingLen ≤ numPackets * m.maxDataLen)
    (hfew : numPackets * m.maxDataLen < remainingLen + m.maxDataLen) :
    Laid m (packet.drop (packet.length - remainingLen)) frames [] [] := by
  induction numPackets generalizing frames remainingLen with
  | zero =>
    obtain rfl : remainingLen = 0 := by omega
    obtain rfl : frames = [] := List.map_eq_nil_iff.mp hcells
    rw [Nat.sub_zero, List.drop_length]
    exact .nil
  | succ numPackets ih =>
    rw [Nat.succ_mul] at hmany hfew
    obtain ⟨first, frames, rfl, hfirst, hrest⟩ := List.map_eq_cons_iff.mp hcells
    exact .cons (points_packetCell hfirst (by omega) hrem) (ih hrest (by omega) (by omega) (by omega))

/-- The frames of a whole packet. -/
theorem laid_packetCells (hfits : TmFits m) (hpos : 0 < packet.length)
    (hcells : frames.map (tmCell m) =
      packetCells m packet (numPacketsFor m packet.length) packet.length) :
    Laid m [] frames [packet] [] := by
  have hroom := hfits.pos
  obtain ⟨hsome, hmany, hfew⟩ := numPacketsFor_bounds hfits.pos packet.length
  have hfew := hfew hpos
  obtain ⟨numPackets, hnum⟩ := Nat.exists_eq_add_one_of_ne_zero (Nat.ne_of_gt hsome)
  rw [hnum] at hcells hmany hfew
  rw [Nat.succ_mul] at hmany hfew
  obtain ⟨first, frames, rfl, hfirst, hrest⟩ := List.map_eq_cons_iff.mp hcells
  have hfilled := filled_packetCell (Nat.le_refl _) hfirst
  rw [Nat.sub_self, List.drop_zero, ← List.take_eq_take_min] at hfilled
  have hptr : tmFirstHdrPtr first = 0 := (congrArg TmCell.ptr hfirst).trans (if_pos rfl)
  have hpoints : Points m [] first [packet] ((([] : List UInt8) ++ [packet].flatten).drop m.maxDataLen) :=
    .starts (by simpa using hroom) hptr (by simpa using hroom) (by simpa using hfilled)
  have hlaid := laid_continued hrest (by omega) (by omega) (by omega)
  refine .cons hpoints ?_
  rw [List.nil_append, List.flatten_cons, List.flatten_nil, List.append_nil]
  rw [show packet.length - (packet.length - min m.maxDataLen packet.length) =
    min m.maxDataLen packet.length by omega] at hlaid
  rcases Nat.le_total m.maxDataLen packet.length with hle | hle
  · rwa [Nat.min_eq_left hle] at hlaid
  · rw [List.drop_eq_nil_of_le hle]
    rwa [Nat.min_eq_right hle, List.drop_length] at hlaid

/-! ## Packets, idle frames and departures -/

/-- A sender, the frames that have left its queue and the packets that it has been given. -/
structure TmFeed where
  tx : TmSender
  gone : List (List UInt8)
  given : List (List UInt8)
  deriving DecidableEq, Repr

/-- What happens to a sender with an accepting queue. -/
inductive TmFeedEvent
  | transmit (packet : List UInt8)
  | transmitIdleFdu
  | dequeue
  deriving DecidableEq, Repr

/-- A call that does not come back leaves the sender. -/
def feedStep (getPacketLen : GetPacketLen) (fuel : ℕ) (s : TmFeed) : TmFeedEvent → TmFeed
  | .transmit packet =>
    { tx := ((osdlpTmTransmit getPacketLen fuel 0 s.tx packet packet.length).map Prod.snd).getD s.tx
      gone := s.gone
      given := s.given ++ [packet] }
  | .transmitIdleFdu => { s with tx := (osdlpTmTransmitIdleFdu s.tx).2 }
  | .dequeue =>
    match s.tx.queue with
    | [] => s
    | frame :: queue => { s with tx := { s.tx with queue := queue }, gone := s.gone ++ [frame] }

/-- With stuffing, no packet is transmitted behind an idle frame. -/
def NotBehindIdle (s : TmFeed) : TmFeedEvent → Prop
  | .transmit _ => s.tx.tf.mission.stuffState = .stuffingOn → s.tx.queue ≠ [] →
      tmFirstHdrPtr (s.tx.queue.getLastD []) ≠ tmFirstHdrPtrOid
  | _ => True

instance (s : TmFeed) : (event : TmFeedEvent) → Decidable (NotBehindIdle s event)
  | .transmit _ => inferInstanceAs (Decidable (_ → _))
  | .transmitIdleFdu => isTrue trivial
  | .dequeue => isTrue trivial

/-- The frames are sound, and their pointers match packets that the sender has been given, in
their order. -/
structure PointersMatch (m : TmMissionParams) (s : TmFeed) : Prop where
  sound : ∀ frame ∈ s.gone ++ s.tx.queue, Sound m frame
  laid : ∃ packets, packets.Sublist s.given ∧ Laid m [] (s.gone ++ s.tx.queue) packets []

/-- The sender is between two packets, its queue takes all it is offered, and what it has been
given can be told. -/
structure Feeding (m : TmMissionParams) (getPacketLen : GetPacketLen) (h : ℕ) (s : TmFeed) : Prop where
  ready : Ready m s.tx.tf
  accepting : Accepting s.tx.answers
  fit : ∀ p ∈ s.given, Fit getPacketLen h p

/-- The packet of an event. -/
def fed : TmFeedEvent → Option (List UInt8)
  | .transmit packet => some packet
  | _ => none

variable {s : TmFeed} {tx : TmSender} {queue : List (List UInt8)} {cells : List TmCell}

/-- New frames behind frames that match. -/
theorem PointersMatch.queued (hqueues : Queues m { s.tx with queue := queue } tx cells)
    (hsound : ∀ frame ∈ s.gone ++ queue, Sound m frame)
    {given : List (List UInt8)} (hsub : (packets ++ starts).Sublist given)
    (hlaid : Laid m [] (s.gone ++ queue) packets rest)
    (hcells : ∀ frames, frames.map (tmCell m) = cells → Laid m rest frames starts []) :
    PointersMatch m { tx := tx, gone := s.gone, given := given } := by
  obtain ⟨frames, hqueue, hmap, hnew⟩ := hqueues.frames
  have hframes : s.gone ++ tx.queue = s.gone ++ queue ++ frames := by
    rw [hqueue, List.append_assoc]
  refine ⟨fun frame hmem => ?_, packets ++ starts, hsub, ?_⟩
  · rw [hframes] at hmem
    exact (List.mem_append.mp hmem).elim (hsound frame) (hnew frame)
  · show Laid m [] (s.gone ++ tx.queue) _ []
    rw [hframes]
    exact hlaid.append (hcells frames hmap)

/-- A packet in frames of its own. -/
theorem PointersMatch.newFrames (hfits : TmFits m) (hmatch : PointersMatch m s)
    (hpos : 0 < packet.length)
    (hqueues : Queues m s.tx tx
      (packetCells m packet (numPacketsFor m packet.length) packet.length)) :
    PointersMatch m { tx := tx, gone := s.gone, given := s.given ++ [packet] } := by
  obtain ⟨packets, hsub, hlaid⟩ := hmatch.laid
  exact .queued hqueues hmatch.sound (hsub.append (List.Sublist.refl _)) hlaid
    fun frames hcells => laid_packetCells hfits hpos hcells

/-- A packet behind octets of the last frame, over what lies there. -/
theorem PointersMatch.stuffed {walked left : List (List UInt8)} {stuffed : List UInt8}
    (hpos : 0 < packet.length) (hrest : (rest ++ walked.flatten).length < m.maxDataLen)
    (hptr : tmFirstHdrPtr stuffed = BitVec.ofNat 11 rest.length) (hnew : Sound m stuffed)
    (hfilled : Filled m stuffed ((rest ++ walked.flatten ++ packet).take m.maxDataLen))
    (hsound : ∀ frame ∈ s.gone ++ init, Sound m frame)
    (hsub : (packets ++ (walked ++ left)).Sublist s.given)
    (hlaid : Laid m [] (s.gone ++ init) packets rest)
    (hqueues : Queues m { s.tx with queue := init ++ [stuffed] } tx (packetCells m packet numPackets
      ((rest ++ walked.flatten).length + packet.length - m.maxDataLen)))
    (hmany : (rest ++ walked.flatten).length + packet.length - m.maxDataLen ≤ numPackets * m.maxDataLen)
    (hfew : numPackets * m.maxDataLen <
      (rest ++ walked.flatten).length + packet.length - m.maxDataLen + m.maxDataLen) :
    PointersMatch m { tx := tx, gone := s.gone, given := s.given ++ [packet] } := by
  have hoctets : rest ++ (walked ++ [packet]).flatten = rest ++ walked.flatten ++ packet := by simp
  have hlen := hrest
  rw [List.length_append] at hlen
  have hpoints : Points m rest stuffed (walked ++ [packet])
      ((rest ++ (walked ++ [packet]).flatten).drop m.maxDataLen) := by
    refine .starts (by omega) hptr ?_ (by rw [hoctets]; exact hfilled)
    rw [List.dropLast_concat]
    exact hlen
  have hleft : (rest ++ walked.flatten ++ packet).drop m.maxDataLen = packet.drop (packet.length -
      ((rest ++ walked.flatten).length + packet.length - m.maxDataLen)) := by
    rw [List.drop_append, List.drop_eq_nil_of_le hrest.le, List.nil_append]
    rcases Nat.le_total m.maxDataLen ((rest ++ walked.flatten).length + packet.length) with hle | hle
    · congr 1
      omega
    · rw [Nat.sub_eq_zero_of_le hle, Nat.sub_zero, List.drop_length, List.drop_eq_nil_of_le (by omega)]
  have hsub' : (packets ++ (walked ++ [packet]) ++ []).Sublist (s.given ++ [packet]) := by
    rw [List.append_nil, ← List.append_assoc]
    refine List.Sublist.append ?_ (List.Sublist.refl _)
    exact (List.Sublist.append (List.Sublist.refl _) (List.sublist_append_left _ _)).trans hsub
  refine .queued hqueues ?_ hsub' ?_ fun frames hcells => laid_continued hcells (by omega) hmany hfew
  · rw [← List.append_assoc]
    intro frame hmem
    rcases List.mem_append.mp hmem with hmem | hmem
    · exact hsound frame hmem
    · rw [List.mem_singleton.mp hmem]
      exact hnew
  · rw [← hleft, ← List.append_assoc, ← hoctets]
    exact hlaid.append hpoints.laid

/-- The step of a call that comes back. -/
theorem feedStep_transmit {ret : Int}
    (hcall : osdlpTmTransmit getPacketLen fuel 0 s.tx packet packet.length = some (ret, tx)) :
    feedStep getPacketLen fuel s (.transmit packet) =
      { tx := tx, gone := s.gone, given := s.given ++ [packet] } := by
  unfold feedStep
  dsimp only
  rw [hcall]
  rfl

/-- A packet that fits is given to the sender. -/
theorem Feeding.given (hfeeding : Feeding m getPacketLen h s) (hfit : Fit getPacketLen h packet)
    (hready : Ready m tx.tf) (hacc : Accepting tx.answers) :
    Feeding m getPacketLen h { tx := tx, gone := s.gone, given := s.given ++ [packet] } := by
  refine ⟨hready, hacc, fun p hmem => ?_⟩
  rcases List.mem_append.mp hmem with hmem | hmem
  · exact hfeeding.fit p hmem
  · rw [List.mem_singleton.mp hmem]
    exact hfit

/-- What a frame holds that is all idle looks idle. -/
theorem filled_nil_head (hidle : Filled m frame []) (hroom : 0 < m.maxDataLen)
    (hpos : 0 < packet.length) (hfilled : Filled m frame (packet.take m.maxDataLen)) :
    packet.head? = some tmIdlePacket := by
  obtain ⟨k, hk⟩ := Nat.exists_eq_add_one_of_ne_zero (Nat.ne_of_gt hroom)
  cases packet with
  | nil => exact absurd hpos (Nat.lt_irrefl 0)
  | cons octet packet =>
    have hfield := hidle.field.symm.trans hfilled.field
    rw [hk, List.take_succ_cons, List.length_nil, Nat.sub_zero, List.replicate_succ] at hfield
    exact congrArg some (List.cons.inj hfield).1.symm

/-- Behind an idle frame with stuffing, the packet goes into the idle frame. -/
theorem feedStep_behindIdle (hfits : TmFits m) (hpos : 0 < h) (hon : m.stuffState = .stuffingOn)
    (hfeeding : Feeding m getPacketLen h s) (hmatch : PointersMatch m s)
    (hfit : Fit getPacketLen h packet)
    (hqueue : s.tx.queue = init ++ [frame]) (hoid : tmFirstHdrPtr frame = tmFirstHdrPtrOid) :
    Feeding m getPacketLen h (feedStep getPacketLen fuel s (.transmit packet)) ∧
      ¬ PointersMatch m (feedStep getPacketLen fuel s (.transmit packet)) := by
  have hheader := hfit.header
  have hmem : frame ∈ s.gone ++ s.tx.queue := by simp [hqueue]
  obtain ⟨packets, -, hlaid⟩ := hmatch.laid
  have hresidue : evalResidueLen getPacketLen fuel s.tx.tf.mission frame =
      some ([] : List UInt8).length := by
    rw [hfeeding.ready.evalResidueLen]
    unfold evalResidueLen
    dsimp only
    rw [hoid]
    rfl
  obtain ⟨stuffed, numPackets, tx, hcall, hqueues, -, hptr, hfilled, -, -⟩ :=
    osdlpTmTransmit_stuffed hfeeding.ready hfeeding.accepting hon hfits hqueue
      (hmatch.sound frame hmem).length
      (show Filled m frame ([] ++ []) from hlaid.oid hfits hmem hoid) hresidue hfits.pos (by omega)
      hfit.length
  rw [feedStep_transmit hcall]
  refine ⟨hfeeding.given hfit hqueues.ready hqueues.accepting, fun hbad => ?_⟩
  obtain ⟨frames, hnew, -, -⟩ := hqueues.frames
  obtain ⟨packets', -, hlaid'⟩ := hbad.laid
  have hidle : Filled m stuffed [] := hlaid'.oid hfits (by simp [hnew]) (hptr.trans hoid)
  exact hfit.notIdle (filled_nil_head hidle hfits.pos (by omega) hfilled)

/-- A transmission keeps the pointers where the last frame of the queue is no idle frame.
SOURCE: osdlp_tm.c:226-414 -/
theorem feedStep_keeps (hfits : TmFits m) (hpos : 0 < h) (hfuel : m.maxDataLen ≤ fuel)
    (hfeeding : Feeding m getPacketLen h s) (hmatch : PointersMatch m s)
    (hfit : Fit getPacketLen h packet)
    (hclear : NotBehindIdle s (.transmit packet)) :
    Feeding m getPacketLen h (feedStep getPacketLen fuel s (.transmit packet)) ∧
      PointersMatch m (feedStep getPacketLen fuel s (.transmit packet)) := by
  have hheader := hfit.header
  have hready := hfeeding.ready
  have hacc := hfeeding.accepting
  -- wherever no residue is left, the packet starts in frames of its own
  have hnew : (∃ tx, osdlpTmTransmit getPacketLen fuel 0 s.tx packet packet.length = some (0, tx) ∧
      Queues m s.tx tx (packetCells m packet (numPacketsFor m packet.length) packet.length)) →
      Feeding m getPacketLen h (feedStep getPacketLen fuel s (.transmit packet)) ∧
        PointersMatch m (feedStep getPacketLen fuel s (.transmit packet)) := by
    rintro ⟨tx, hcall, hqueues⟩
    rw [feedStep_transmit hcall]
    exact ⟨hfeeding.given hfit hqueues.ready hqueues.accepting,
      hmatch.newFrames hfits (by omega) hqueues⟩
  cases hstuff : m.stuffState with
  | stuffingOff => exact hnew (osdlpTmTransmit_queues getPacketLen fuel 0 hstuff hready hacc packet)
  | stuffingOn =>
    rcases List.eq_nil_or_concat' s.tx.queue with hempty | ⟨init, frame, hqueue⟩
    · exact hnew (osdlpTmTransmit_empty packet hready hacc hempty)
    -- stuffing looks at the last frame of the queue, which must not be an idle one
    have hnotIdle : tmFirstHdrPtr frame ≠ tmFirstHdrPtrOid := by
      have hlast := hclear (by rw [hready.mission]; exact hstuff) (by simp [hqueue])
      rwa [hqueue, List.getLastD_concat] at hlast
    have hsound := hmatch.sound
    obtain ⟨packets, hsub, hlaid⟩ := hmatch.laid
    rw [hqueue, ← List.append_assoc] at hsound hlaid
    obtain ⟨rest, packets, starts, hinit, hlast, rfl⟩ := hlaid.last
    have hwhole := (hsound frame (List.mem_append_right _ List.mem_cons_self)).length
    generalize hend : ([] : List UInt8) = done at hlast
    cases hlast with
    | idle hoid => exact absurd hoid hnotIdle
    | continues _ hno =>
      refine hnew (osdlpTmTransmit_full packet hready hacc hstuff hqueue ?_ (Nat.le_refl _))
      rw [hready.evalResidueLen]
      unfold evalResidueLen
      rw [hno]
      rfl
    | starts hlt hptr _ hfilled =>
      have hin : (rest ++ starts.flatten).length ≤ m.maxDataLen :=
        List.drop_eq_nil_iff.mp hend.symm
      rw [List.take_of_length_le hin] at hfilled
      have hfits' : ∀ p ∈ starts, Fit getPacketLen h p := fun p hmem =>
        hfeeding.fit p (hsub.subset (List.mem_append_right _ hmem))
      obtain ⟨walked, left, rfl, hresidue, -⟩ := evalResidueLen_walked hpos hfits hfits' hwhole hlt
        hptr hfilled hfuel
      rw [← hready.evalResidueLen] at hresidue
      -- the walk over the packets of the last frame ends at its end, or leaves room
      by_cases hfull : m.maxDataLen ≤ (rest ++ walked.flatten).length
      · exact hnew (osdlpTmTransmit_full packet hready hacc hstuff hqueue hresidue hfull)
      rw [List.flatten_append, ← List.append_assoc] at hfilled
      obtain ⟨stuffed, numPackets, tx, hcall, hqueues, hstuffed, hptr', hfilled', hmany, hfew⟩ :=
        osdlpTmTransmit_stuffed hready hacc hstuff hfits hqueue hwhole hfilled hresidue
          (not_le.mp hfull) (by omega) hfit.length
      rw [feedStep_transmit hcall]
      refine ⟨hfeeding.given hfit hqueues.ready hqueues.accepting, ?_⟩
      exact .stuffed (by omega) (not_le.mp hfull) (hptr'.trans hptr) hstuffed hfilled'
        (fun frame hmem => hsound frame (List.mem_append_left _ hmem)) hsub hinit hqueues hmany hfew

/-- An idle frame.
SOURCE: osdlp_tm.c:774-787 -/
theorem feedStep_idleFdu (hfeeding : Feeding m getPacketLen h s) (hmatch : PointersMatch m s) :
    Feeding m getPacketLen h (feedStep getPacketLen fuel s .transmitIdleFdu) ∧
      PointersMatch m (feedStep getPacketLen fuel s .transmitIdleFdu) := by
  obtain ⟨-, hqueues⟩ := osdlpTmTransmitIdleFdu_queues hfeeding.ready hfeeding.accepting
  obtain ⟨packets, hsub, hlaid⟩ := hmatch.laid
  refine ⟨⟨hqueues.ready, hqueues.accepting, hfeeding.fit⟩, ?_⟩
  refine .queued hqueues hmatch.sound (by rw [List.append_nil]; exact hsub) hlaid fun frames hcells => ?_
  obtain ⟨frame, rest, rfl, hcell, hnil⟩ := List.map_eq_cons_iff.mp hcells
  obtain rfl := List.map_eq_nil_iff.mp hnil
  have hfilled : Filled m frame [] := ⟨Nat.zero_le _, congrArg TmCell.field hcell⟩
  exact (Points.idle (congrArg TmCell.ptr hcell) hfilled).laid

/-- A departure. -/
theorem feedStep_dequeue (hfeeding : Feeding m getPacketLen h s) (hmatch : PointersMatch m s) :
    Feeding m getPacketLen h (feedStep getPacketLen fuel s .dequeue) ∧
      PointersMatch m (feedStep getPacketLen fuel s .dequeue) := by
  unfold feedStep
  dsimp only
  cases hqueue : s.tx.queue with
  | nil => exact ⟨hfeeding, hmatch⟩
  | cons frame queue =>
    have hframes : s.gone ++ s.tx.queue = s.gone ++ [frame] ++ queue := by simp [hqueue]
    obtain ⟨hsound, hlaid⟩ := hmatch
    rw [hframes] at hsound hlaid
    exact ⟨⟨hfeeding.ready, hfeeding.accepting, hfeeding.fit⟩, hsound, hlaid⟩

/-! ## Whole runs -/

/-- What one event does to the pointers. -/
theorem feedStep_iff (hfits : TmFits m) (hpos : 0 < h) (hfuel : m.maxDataLen ≤ fuel)
    (hfeeding : Feeding m getPacketLen h s) (hmatch : PointersMatch m s) {event : TmFeedEvent}
    (hfit : ∀ packet, fed event = some packet → Fit getPacketLen h packet) :
    Feeding m getPacketLen h (feedStep getPacketLen fuel s event) ∧
      (PointersMatch m (feedStep getPacketLen fuel s event) ↔ NotBehindIdle s event) := by
  cases event with
  | transmitIdleFdu =>
    obtain ⟨hfeeding', hmatch'⟩ := feedStep_idleFdu hfeeding hmatch
    exact ⟨hfeeding', iff_of_true hmatch' trivial⟩
  | dequeue =>
    obtain ⟨hfeeding', hmatch'⟩ := feedStep_dequeue hfeeding hmatch
    exact ⟨hfeeding', iff_of_true hmatch' trivial⟩
  | transmit packet =>
    by_cases hclear : NotBehindIdle s (.transmit packet)
    · obtain ⟨hfeeding', hmatch'⟩ :=
        feedStep_keeps hfits hpos hfuel hfeeding hmatch (hfit packet rfl) hclear
      exact ⟨hfeeding', iff_of_true hmatch' hclear⟩
    · have hidle := hclear
      unfold NotBehindIdle at hidle
      push Not at hidle
      obtain ⟨hon, hne, hoid⟩ := hidle
      obtain ⟨init, frame, hqueue⟩ := (List.eq_nil_or_concat' s.tx.queue).resolve_left hne
      rw [hqueue, List.getLastD_concat] at hoid
      rw [hfeeding.ready.mission] at hon
      obtain ⟨hfeeding', hbad⟩ :=
        feedStep_behindIdle hfits hpos hon hfeeding hmatch (hfit packet rfl) hqueue hoid
      exact ⟨hfeeding', iff_of_false hbad hclear⟩

/-- In every state of a run the pointers match the frames, and the checksums are right, exactly
where with stuffing no packet is transmitted behind an idle frame.
SOURCE: osdlp_tm.c:226-414, 774-787 -/
theorem pointersMatch_run_iff {a : TmInitArgs} {tf₀ tf : TmTransferFrame}
    (hinit : osdlpTmInit tf₀ a = some tf) (hsize : a.frameSize.toNat ≤ 2048)
    (hroom : a.occupied < a.frameSize.toNat) {answers : List Int} (hacc : Accepting answers)
    (hpos : 0 < h) {events : List TmFeedEvent}
    (hfit : ∀ packet ∈ events.filterMap fed, Fit getPacketLen h packet)
    (hfuel : a.mission.maxDataLen ≤ fuel) :
    let s : TmFeed := { tx := { tf := tf, queue := [], answers := answers }, gone := [], given := [] }
    (∀ n, PointersMatch a.mission (run (feedStep getPacketLen fuel) s (events.take n))) ↔
      Guarded (feedStep getPacketLen fuel) NotBehindIdle s events := by
  intro s
  obtain ⟨hfits, -⟩ := osdlpTmInit_fits Nat.one_pos hsize hroom
  have hfeeding : Feeding a.mission getPacketLen h s :=
    ⟨osdlpTmInit_ready hroom.le hinit, hacc, by simp [s]⟩
  have hmatch : PointersMatch a.mission s :=
    ⟨by simp [s], [], List.Sublist.refl _, .nil⟩
  have hallowed : Guarded (feedStep getPacketLen fuel)
      (fun _ event => ∀ packet, fed event = some packet → Fit getPacketLen h packet) s events :=
    .of_mem (fun event hmem _ packet hfed => hfit packet (List.mem_filterMap.mpr ⟨event, hmem, hfed⟩)) s
  exact forall_take_iff_guarded (P := PointersMatch a.mission) (J := Feeding a.mission getPacketLen h)
    (fun _ _ hmatch hfeeding hfit => (feedStep_iff hfits hpos hfuel hfeeding hmatch hfit).1)
    (fun _ _ hmatch hfeeding hfit => (feedStep_iff hfits hpos hfuel hfeeding hmatch hfit).2)
    hmatch hfeeding hallowed

/-- A sender with frames of twenty-four octets, sixteen of them data. -/
def stuffedFeed : TmFeed :=
  { tx :=
      { tf := (osdlpTmInit default stuffedFrames).getD default, queue := [], answers := [] }
    gone := []
    given := [] }

/-- A packet is stuffed behind another one and goes on in a new frame; the next one is
transmitted when the idle frame behind it has left. -/
theorem pointersMatch_run_iff_idle_gone :
    let events : List TmFeedEvent := [.transmit [9, 1, 1, 1, 1, 1, 1, 1, 1],
      .transmit [12, 2, 2, 2, 2, 2, 2, 2, 2, 2, 2, 2], .transmitIdleFdu, .dequeue, .dequeue, .dequeue,
      .transmit [3, 3, 3]]
    Guarded (feedStep (lengthOctet 0) 16) NotBehindIdle stuffedFeed events ∧
      ∀ n, PointersMatch stuffedFrames.mission
        (run (feedStep (lengthOctet 0) 16) stuffedFeed (events.take n)) := by
  intro events
  have hguarded : Guarded (feedStep (lengthOctet 0) 16) NotBehindIdle stuffedFeed events := by
    decide +kernel
  have hvalid : ∀ packet ∈ events.filterMap fed, packet.length < 256 ∧
      packet[0]? = some (UInt8.ofNat packet.length) ∧ packet.head? ≠ some tmIdlePacket := by
    decide
  have hfit : ∀ packet ∈ events.filterMap fed, Fit (lengthOctet 0) 1 packet := by
    intro packet hmem
    obtain ⟨hlen, hoctet, hnotIdle⟩ := hvalid packet hmem
    exact lengthOctet_fit hlen hoctet hnotIdle
  exact ⟨hguarded, (pointersMatch_run_iff (a := stuffedFrames)
    (show osdlpTmInit default stuffedFrames = some _ from rfl) (by decide) (by decide)
    (show Accepting [] by simp [Accepting]) Nat.one_pos hfit (by decide)).mpr hguarded⟩

/-- Behind an idle frame a packet is put into the data field of the idle frame, and the pointer
still says that there is none. -/
theorem not_pointersMatch_behind_idle :
    let events : List TmFeedEvent := [.transmitIdleFdu, .transmit [2, 7]]
    let s := run (feedStep (lengthOctet 0) 16) stuffedFeed events
    (∀ packet ∈ events.filterMap fed, Fit (lengthOctet 0) 1 packet) ∧
      s.tx.queue.map (tmCell stuffedFrames.mission) =
        [{ ptr := tmFirstHdrPtrOid, field := [2, 7] ++ List.replicate 14 tmIdlePacket }] ∧
      ¬ PointersMatch stuffedFrames.mission s := by
  intro events s
  have hcells : s.tx.queue.map (tmCell stuffedFrames.mission) =
      [{ ptr := tmFirstHdrPtrOid, field := [2, 7] ++ List.replicate 14 tmIdlePacket }] := by
    decide +kernel
  have hfits : TmFits stuffedFrames.mission :=
    (osdlpTmInit_fits Nat.one_pos (show _ ≤ 2048 by decide) (by decide)).1
  refine ⟨fun packet hmem => ?_, hcells, fun hmatch => ?_⟩
  · obtain rfl : packet = [2, 7] := List.mem_singleton.mp hmem
    exact lengthOctet_fit (by decide) (by decide) (by decide)
  · obtain ⟨frame, rest, hqueue, hcell, -⟩ := List.map_eq_cons_iff.mp hcells
    obtain ⟨packets, -, hlaid⟩ := hmatch.laid
    have hidle : Filled stuffedFrames.mission frame [] :=
      hlaid.oid hfits (by simp [hqueue]) (congrArg TmCell.ptr hcell)
    have hfield := hidle.field.symm.trans (congrArg TmCell.field hcell)
    revert hfield
    decide

end Osdlp.Analysis
