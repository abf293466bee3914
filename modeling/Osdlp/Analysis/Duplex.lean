import Osdlp.Analysis.ControlWords
import Osdlp.Analysis.UplinkServices

/-!
# The link with its telemetry

COP-1 with the control words in the frames of a telemetry channel: `osdlp_prepare_clcw` writes the
control word into the frame structure, the frames that are packed from then on carry it, and the
sender of the uplink handles what `osdlp_tm_receive` finds in a frame that it does not reject.  Both
channels lose frames and garble others.  To the uplink this is a downlink on which the latest report
may be repeated (`Closes`), so that both services keep their guarantee, and what the sender has
released has arrived (`duplex_delivers`).
-/

set_option autoImplicit false

namespace Osdlp.Analysis

open Osdlp.Model Osdlp.Interface Osdlp.Library Osdlp.Library.GoBackN

/-- The uplink, and the two ends of the telemetry channel: the sender of the one is beside the
receiver of the other. -/
structure Duplex where
  up : Uplink
  tx : TmStored
  rx : TmReceiver

/-- What happens on either channel.  The frame at the head of the telemetry arrives as it was sent,
or with errors. -/
inductive DuplexEvent
  | uplink (e : UplinkEvent)
  | prepare
  | telemetry (call : TmSenderCall)
  | receive (keep : List Bool) (getPacketLen : GetPacketLen) (errors : Option (List UInt8))

/-- `osdlp_prepare_clcw` is called with the control field of the frame structure.
SOURCE: osdlp_tc.c:470-484, osdlp_tm.h:164 -/
def Duplex.prepare (d : Duplex) : Duplex :=
  let clcw := osdlpPrepareClcw d.up.link.farm
  { d with
    up := { d.up with link := { d.up.link with farm := clcw.2 } }
    tx := d.tx.withTf { d.tx.tx.tf with ocf := clcw.1 } }

/-- `osdlp_tm_receive` is called, and `osdlp_handle_clcw` with what it has found, unless the frame
has been rejected for its checksum. -/
def Duplex.received (d : Duplex) (keep : List Bool) (getPacketLen : GetPacketLen)
    (frame : List UInt8) : Duplex :=
  match osdlpTmReceive getPacketLen (d.rx.tf.mission.maxDataLen + 1) 0 d.rx frame with
  | none => d
  | some (code, rx) =>
    if code = -TmRxResult.wrongCrc.code then { d with rx := rx }
    else
      { d with
        up :=
          { d.up with
            link := { d.up.link with fop := fopStep d.up.link.fop (keep, .clcw rx.tf.ocf) } }
        rx := rx }

/-- One event. -/
def duplexStep (d : Duplex) : DuplexEvent → Duplex
  | .uplink e => { d with up := uplinkStep d.up e }
  | .prepare => d.prepare
  | .telemetry call => { d with tx := tmSenderStep d.tx call }
  | .receive keep getPacketLen errors =>
    match d.tx.tx.queue with
    | [] => d
    | frame :: frames =>
      Duplex.received { d with tx := { d.tx with tx := { d.tx.tx with queue := frames } } } keep
        getPacketLen (garbled errors frame)

/-- The events of the uplink that the telemetry takes the place of. -/
def UplinkEvent.onDownlink : UplinkEvent → Bool
  | .link (.clcw _) | .link .report | .link (.loseDown _) => true
  | _ => false

/-- The conditions of the uplink; the lengths of packets are found as they should be, and errors
are of a kind that the checksum notices. -/
def DuplexAllowed (overheadLen maxSduLen maxPktLen : ℕ) (d : Duplex) : DuplexEvent → Prop
  | .uplink e => e.onDownlink = false ∧ Allowed overheadLen maxSduLen d.up e
  | .prepare | .telemetry _ => True
  | .receive _ getPacketLen errors => AnswersWithin getPacketLen maxPktLen ∧
      ∀ e ∈ errors, ∀ frame ∈ d.tx.tx.queue.head?, e.length = frame.length ∧ Noticeable e

variable {f : Framing} {a : UInt8} {W maxSduLen : ℕ} {m : TmMissionParams} {u : Uplink}
  {l : Link (List UInt8)} {d : Duplex}

/-! ## The downlink that the telemetry is -/

/-- The uplink with other control words on their way. -/
def withDownlink (down : List (List UInt8)) (u : Uplink) : Uplink :=
  { u with link := { u.link with downlink := down } }

/-- The control words in flight, and behind them the one that the next frames will carry. -/
def Duplex.words (m : TmMissionParams) (d : Duplex) : List (List UInt8) :=
  d.tx.tx.queue.map (frameOcf m) ++ [d.tx.tx.tf.ocf]

/-- The uplink is served, both ends of the telemetry are of the channel `m`, and the control words
are where they should be. -/
structure Closes (f : Framing) (a : UInt8) (W maxSduLen : ℕ) (m : TmMissionParams) (d : Duplex)
    (l : Link (List UInt8)) : Prop where
  serves : Serves f a W maxSduLen (withDownlink (d.words m) d.up) l
  words : Words m d.tx.tx
  settled : Settled m d.rx
  word : d.rx.tf.ocf.length = 4

/-- The other events are no concern of the downlink. -/
theorem uplinkStep_withDownlink {e : UplinkEvent} (h : e.onDownlink = false)
    (down : List (List UInt8)) (u : Uplink) :
    uplinkStep (withDownlink down u) e = withDownlink down (uplinkStep u e) := by
  cases e with
  | link e =>
    cases e with
    | clcw | report | loseDown => exact absurd h (by simp [UplinkEvent.onDownlink])
    | arrive rxFull =>
      unfold uplinkStep cop1Step withDownlink
      dsimp only
      have hup : Cop1.uplink { u.link with downlink := down } = u.link.uplink := rfl
      rw [hup]
      cases u.link.uplink <;> rfl
    | _ => rfl
  | requestBd => rfl
  | receive hooks errors rest =>
    unfold uplinkStep withDownlink
    dsimp only
    have hup : Cop1.uplink { u.link with downlink := down } = u.link.uplink := rfl
    rw [hup]
    cases u.link.uplink <;> rfl

/-- The conditions of the uplink do not look at the downlink. -/
theorem Allowed.withDownlink {overheadLen : ℕ} {e : UplinkEvent}
    (h : Allowed overheadLen maxSduLen u e) (down : List (List UInt8)) :
    Allowed overheadLen maxSduLen (withDownlink down u) e := by
  cases e with
  | link e => cases e <;> exact h
  | requestBd => exact h
  | receive => exact h

/-- Other control words on their way. -/
theorem Serves.withDownlink (h : Serves f a W maxSduLen u l) {down : List (List UInt8)}
    {reports : List ℕ}
    (hmatch : List.Forall₂ (fun ocf r => (osdlpClcwUnpack ocf).reportValue = numbered a r) down
      reports) (hinv : Inv W { l with downlink := reports }) :
    Serves f a W maxSduLen (withDownlink down u) { l with downlink := reports } :=
  ⟨⟨h.link.sender.withUplink rfl rfl rfl h.link.sender.uplink, h.link.framing, h.link.vr,
    h.link.delivered, hmatch, hinv⟩, h.sends, h.receives, h.expedited, h.counted⟩

/-- Some of the control words are lost. -/
theorem Serves.loseDown (h : Serves f a W maxSduLen u l) {down : List (List UInt8)}
    (hless : down.Sublist u.link.downlink) :
    ∃ l', Serves f a W maxSduLen (Analysis.withDownlink down u) l' := by
  obtain ⟨keep, rfl⟩ := exists_survivors hless
  exact ⟨_, h.withDownlink (forall₂_survivors h.link.downlink keep)
    (h.link.inv.loseDown (survivors_sublist keep _))⟩

/-- The last element of a list and what it is related to. -/
theorem forall₂_concat_left {α β : Type} {R : α → β → Prop} {xs : List α} {x : α} {ys : List β}
    (h : List.Forall₂ R (xs ++ [x]) ys) :
    ∃ ys' y, ys = ys' ++ [y] ∧ List.Forall₂ R xs ys' ∧ R x y := by
  induction xs generalizing ys with
  | nil =>
    obtain ⟨y, rest, hxy, hrest, rfl⟩ := List.forall₂_cons_left_iff.mp h
    obtain rfl := List.forall₂_nil_left_iff.mp hrest
    exact ⟨[], y, rfl, .nil, hxy⟩
  | cons x' xs ih =>
    obtain ⟨y', rest, hxy', hrest, rfl⟩ := List.forall₂_cons_left_iff.mp h
    obtain ⟨ys', y, rfl, hxs, hxy⟩ := ih hrest
    exact ⟨y' :: ys', y, rfl, .cons hxy' hxs, hxy⟩

/-- Copies are related pairwise. -/
theorem forall₂_replicate {α β : Type} {R : α → β → Prop} {x : α} {y : β} (h : R x y) (n : ℕ) :
    List.Forall₂ R (List.replicate n x) (List.replicate n y) := by
  induction n with
  | zero => exact .nil
  | succ n ih => exact .cons h ih

/-- The last control word is repeated. -/
theorem Serves.repeatReport {words : List (List UInt8)} {word : List UInt8}
    (h : Serves f a W maxSduLen (Analysis.withDownlink (words ++ [word]) u) l) (n : ℕ) :
    ∃ l', Serves f a W maxSduLen
      (Analysis.withDownlink (words ++ List.replicate n word ++ [word]) u) l' := by
  have hmatch : List.Forall₂ (fun ocf r => (osdlpClcwUnpack ocf).reportValue = numbered a r)
      (words ++ [word]) l.downlink := h.link.downlink
  obtain ⟨reports, r, hl, hreports, hr⟩ := forall₂_concat_left hmatch
  have hrepeated := forall₂_replicate
    (R := fun ocf r => (osdlpClcwUnpack ocf).reportValue = numbered a r) hr n
  exact ⟨_, h.withDownlink (List.rel_append (List.rel_append hreports hrepeated) (.cons hr .nil))
    (h.link.inv.repeatReport hl n)⟩

/-! ## One event -/

/-- An event of the uplink other than a control word leaves the downlink alone. -/
theorem Closes.uplink (h : Closes f a W maxSduLen m d l) (hW : W ≤ 255) {e : UplinkEvent}
    (hother : e.onDownlink = false) (hallowed : Allowed f.overheadLen maxSduLen d.up e) :
    ∃ l', Closes f a W maxSduLen m (duplexStep d (.uplink e)) l' := by
  obtain ⟨l', h'⟩ := h.serves.event hW (hallowed.withDownlink (d.words m))
  rw [uplinkStep_withDownlink hother] at h'
  exact ⟨l', h', h.words, h.settled, h.word⟩

/-- A new control word takes the place of the one at hand.
SOURCE: osdlp_tc.c:470-484 -/
theorem Closes.prepare (h : Closes f a W maxSduLen m d l) (hW : W ≤ 255) :
    ∃ l', Closes f a W maxSduLen m d.prepare l' := by
  obtain ⟨l₁, h₁⟩ := h.serves.event hW (show Allowed f.overheadLen maxSduLen _ (.link .report) from
    trivial)
  have hless : (d.prepare.words m).Sublist
      (uplinkStep (withDownlink (d.words m) d.up) (.link .report)).link.downlink := by
    show (d.tx.tx.queue.map (frameOcf m) ++ [_]).Sublist
      ((d.tx.tx.queue.map (frameOcf m) ++ [_]) ++ [_])
    rw [List.append_assoc]
    exact (List.sublist_append_right _ _).append_left _
  obtain ⟨l₂, h₂⟩ := h₁.loseDown hless
  refine ⟨l₂, h₂, ⟨h.words.channel, h.words.flag, rfl, h.words.queue⟩, h.settled, h.word⟩

/-- SOURCE: osdlp_tm.c:203-220, 306-414, 774-787 -/
theorem Closes.telemetry (h : Closes f a W maxSduLen m d l) (hroom : OcfRoom m)
    (call : TmSenderCall) :
    ∃ l', Closes f a W maxSduLen m (duplexStep d (.telemetry call)) l' := by
  rcases h.words.step hroom call with hrepeats | ⟨-, hdequeued⟩
  · obtain ⟨n, hqueue⟩ := hrepeats.queue
    obtain ⟨l', h'⟩ := h.serves.repeatReport n
    have hwords : (duplexStep d (.telemetry call)).words m =
        d.tx.tx.queue.map (frameOcf m) ++ List.replicate n d.tx.tx.tf.ocf ++ [d.tx.tx.tf.ocf] := by
      show (tmSenderStep d.tx call).tx.queue.map _ ++ [(tmSenderStep d.tx call).tx.tf.ocf] = _
      rw [hqueue, hrepeats.ocf]
    rw [← hwords] at h'
    exact ⟨l', h', hrepeats.words, h.settled, h.word⟩
  · have hless : ((duplexStep d (.telemetry call)).words m).Sublist (d.words m) := by
      show ((tmSenderStep d.tx call).tx.queue.map _ ++ [(tmSenderStep d.tx call).tx.tf.ocf]).Sublist _
      rw [hdequeued]
      exact ((List.tail_sublist _).map _).append_right _
    obtain ⟨l', h'⟩ := h.serves.loseDown hless
    refine ⟨l', h', ?_, h.settled, h.word⟩
    show Words m (tmSenderStep d.tx call).tx
    rw [hdequeued]
    exact ⟨h.words.channel, h.words.flag, h.words.word,
      fun frame hframe => h.words.queue frame (List.tail_subset _ hframe)⟩

/-- SOURCE: osdlp_tm.c:748-772, osdlp_cop.c:1942-2125 -/
theorem Closes.receive (h : Closes f a W maxSduLen m d l) (hW : W ≤ 255) (hroom : OcfRoom m)
    (hlong : m.frameLen ≤ 2048) (keep : List Bool) {getPacketLen : GetPacketLen}
    (hanswers : AnswersWithin getPacketLen m.maxSduLen) {errors : Option (List UInt8)}
    (herrors : ∀ e ∈ errors, ∀ frame ∈ d.tx.tx.queue.head?,
      e.length = frame.length ∧ Noticeable e) :
    ∃ l', Closes f a W maxSduLen m (duplexStep d (.receive keep getPacketLen errors)) l' := by
  have hmax : d.rx.tf.mission.maxDataLen = m.maxDataLen := by rw [h.settled.listens]
  unfold duplexStep
  dsimp only
  cases hqueue : d.tx.tx.queue with
  | nil => exact ⟨l, h⟩
  | cons frame frames =>
    have hworded : Worded m frame := h.words.queue frame (by rw [hqueue]; exact List.mem_cons_self)
    have hlater : ∀ fr ∈ frames, Worded m fr := fun fr hfr =>
      h.words.queue fr (by rw [hqueue]; exact List.mem_cons_of_mem frame hfr)
    have hwords : d.words m =
        frameOcf m frame :: (frames.map (frameOcf m) ++ [d.tx.tx.tf.ocf]) := by
      unfold Duplex.words
      rw [hqueue]
      rfl
    unfold Duplex.received
    dsimp only
    rw [hmax]
    cases errors with
    | some errors =>
      obtain ⟨hlen, hnoticeable⟩ := herrors errors rfl frame (by rw [hqueue]; rfl)
      unfold garbled
      rw [osdlpTmReceive_garbledWord hroom hlong h.settled.listens hworded hlen hnoticeable]
      obtain ⟨l', h'⟩ := h.serves.loseDown
        (show (frames.map (frameOcf m) ++ [d.tx.tx.tf.ocf]).Sublist (d.words m) by
          rw [hwords]
          exact List.sublist_cons_self _ _)
      exact ⟨l', h', ⟨h.words.channel, h.words.flag, h.words.word, hlater⟩, h.settled.unpack _,
        length_osdlpTmUnpack_ocf h.word _⟩
    | none =>
      obtain ⟨code, rx, hreceived, hcode, hsettled, hocf⟩ := osdlpTmReceive_word hroom h.settled
        h.word hanswers hworded (Nat.lt_succ_self m.maxDataLen)
      unfold garbled
      rw [hreceived]
      dsimp only
      rw [if_neg hcode]
      obtain ⟨l', h'⟩ := h.serves.event hW
        (show Allowed f.overheadLen maxSduLen _ (.link (.clcw keep)) from trivial)
      rw [hwords] at h'
      refine ⟨l', ?_, ⟨h.words.channel, h.words.flag, h.words.word, hlater⟩, hsettled, ?_⟩
      · rw [hocf]
        exact h'
      · rw [hocf]
        exact length_region _ _ _

/-- Every event keeps the link closed. -/
theorem Closes.event (h : Closes f a W maxSduLen m d l) (hW : W ≤ 255) (hroom : OcfRoom m)
    (hlong : m.frameLen ≤ 2048) {e : DuplexEvent}
    (hallowed : DuplexAllowed f.overheadLen maxSduLen m.maxSduLen d e) :
    ∃ l', Closes f a W maxSduLen m (duplexStep d e) l' := by
  cases e with
  | uplink e => exact h.uplink hW hallowed.1 hallowed.2
  | prepare => exact h.prepare hW
  | telemetry call => exact h.telemetry hroom call
  | receive keep getPacketLen errors =>
    exact h.receive hW hroom hlong keep hallowed.1 hallowed.2

/-! ## The guarantee -/

/-- What FOP-1 keeps no copy of has been delivered. -/
theorem Serves.released (h : Serves f a W maxSduLen u l)
    (hstate : isAd u.link.fop.tf.copCfg.state = true) :
    u.link.fop.world.accepted.length ≤ u.link.delivered.length +
      u.link.fop.world.sentQueue.length + u.link.fop.world.waitQueue.length := by
  have hinv := h.link.inv
  have hdelivered : u.link.delivered = l.delivered := h.link.delivered
  have haccepted : u.link.fop.world.accepted = l.accepted := h.link.sender.accepted
  rcases h.link.sender.service with halive | hended
  · have hcopies : u.link.fop.world.sentQueue.length = l.next - l.base := by
      have hlen := halive.copies.length_eq
      rw [List.length_map, List.length_range'] at hlen
      exact hlen
    have hwaiting : u.link.fop.world.waitQueue.length = l.accepted.length - l.next := by
      have hlen := congrArg List.length halive.waiting
      rw [List.length_map, List.length_drop] at hlen
      exact hlen
    have hbase := hinv.base_le
    have hdelLe := hinv.le_next
    have hnext := hinv.next_le
    rw [haccepted, hdelivered, hcopies, hwaiting]
    omega
  · have hinit : u.link.fop.tf.copCfg.state = .init := hended.state
    rw [hinit] at hstate
    exact absurd hstate (by decide)

/-- How the telemetry channel is set up. -/
structure CarriesWords (a : TmInitArgs) : Prop where
  room : a.occupied < a.frameSize.toNat
  long : a.frameSize.toNat ≤ 2048
  ocf : a.ocfFlag = true
  crc : a.crcFlag = true

/-- Frames with a control word have room for it. -/
theorem CarriesWords.ocfRoom {a : TmInitArgs} (h : CarriesWords a) : OcfRoom a.mission := by
  have hroom := h.room
  have hlong := h.long
  have hmax := TmInitArgs.mission_maxDataLen hroom.le
  have hheader : 6 ≤ a.occupiedHeader := by
    simp only [TmInitArgs.occupiedHeader, tmPrimaryHdrLen]
    split_ifs <;> omega
  have hocc : a.occupied = a.occupiedHeader + 4 + 2 := by
    unfold TmInitArgs.occupied
    rw [if_pos h.ocf, if_pos h.crc]
    rfl
  refine ⟨hheader, by omega, by omega, ?_, h.crc⟩
  show a.frameSize.toNat = a.occupiedHeader + a.mission.maxDataLen + 4 + 2
  omega

/-- Both ends of the link, and of a telemetry channel whose frames carry the control word of the
idle receiver. -/
def idleDuplex (c : Cop1) (tx rx : TmTransferFrame) (answers rxAnswers : List Int) : Duplex :=
  Duplex.prepare
    { up := { link := c, requested := [], expedited := [] }
      tx := freshTmSender tx answers
      rx := { tf := rx, delivered := [], answers := rxAnswers } }

/-- Before anything is sent the link is closed. -/
theorem closes_idle {c : Cop1} (hstart : Started c) (hframing : SameFraming c)
    (hchecks : ChecksWhole c) (hcounter : c.farm.copCfg.farmbCnt = 0) {a : TmInitArgs}
    (ha : CarriesWords a) {rxBuffer : List UInt8} {tf₀ tf₁ tx rx : TmTransferFrame}
    (htx : osdlpTmInit tf₀ a = some tx)
    (hrx : osdlpTmInit tf₁ { a with utilBuffer := rxBuffer } = some rx) (hword : rx.ocf.length = 4)
    (answers rxAnswers : List Int) :
    ∃ l, Closes (framing c.fop.tf) c.fop.tf.copCfg.vs c.fop.tf.copCfg.slideWnd.toNat
      c.farm.mission.maxSduLen a.mission (idleDuplex c tx rx answers rxAnswers) l := by
  have hW : c.fop.tf.copCfg.slideWnd.toNat ≤ 255 := by
    have hlt := c.fop.tf.copCfg.slideWnd.toNat_lt
    omega
  obtain ⟨l₀, h₀⟩ := serves_idle hstart hframing hchecks hcounter
  obtain ⟨l, h⟩ := h₀.event hW (show Allowed _ _ _ (.link .report) from trivial)
  have hdown : c.downlink = [] := hstart.downlink
  have hwords : (uplinkStep { link := c, requested := [], expedited := [] } (.link .report)) =
      withDownlink ((idleDuplex c tx rx answers rxAnswers).words a.mission)
        (idleDuplex c tx rx answers rxAnswers).up := by
    unfold uplinkStep cop1Step
    dsimp only
    rw [hdown]
    rfl
  rw [hwords] at h
  refine ⟨l, h, ⟨?_, (osdlpTmInit_ocf htx).trans ha.ocf, rfl, fun frame hframe => ?_⟩, ⟨?_, ?_⟩,
    hword⟩
  · show tx.mission =
      { a.mission with util := tx.mission.util, stuffState := tx.mission.stuffState }
    rw [osdlpTmInit_mission htx]
  · exact absurd hframe List.not_mem_nil
  · show rx.mission = { a.mission with util := rx.mission.util }
    rw [osdlpTmInit_mission hrx]
    rfl
  · show rx.mission.util.expectedPktLen ≤ _
    rw [osdlpTmInit_mission hrx]
    exact Nat.zero_le _

/-- **The link with its telemetry.**  From a started link on, whatever is requested of either
service and of the telemetry, lost and garbled on either channel in whatever order, the receiver of
the uplink hands over a prefix of what the numbered service has accepted, and of the expedited
service a part of what was requested, in the same order.  While the service runs, whatever FOP-1
keeps no copy of has been handed over.
SOURCE: osdlp_crc.c:23-66, osdlp_tc.c:86-339, 470-484, osdlp_cop.c:62-336, 395-560, 1910-2555,
osdlp_tm.c:96-414, 748-787 -/
theorem duplex_delivers (c : Cop1) (hstart : Started c) (hframing : SameFraming c)
    (hchecks : ChecksWhole c) (hcounter : c.farm.copCfg.farmbCnt = 0) {a : TmInitArgs}
    (ha : CarriesWords a) {rxBuffer : List UInt8} {tf₀ tf₁ tx rx : TmTransferFrame}
    (htx : osdlpTmInit tf₀ a = some tx)
    (hrx : osdlpTmInit tf₁ { a with utilBuffer := rxBuffer } = some rx) (hword : rx.ocf.length = 4)
    (answers rxAnswers : List Int) (events : List DuplexEvent)
    (hevents : Guarded duplexStep
      (DuplexAllowed c.fop.tf.mission.fixedOverheadLen c.farm.mission.maxSduLen a.maxSduLen.toNat)
      (idleDuplex c tx rx answers rxAnswers) events) :
    let u := (run duplexStep (idleDuplex c tx rx answers rxAnswers) events).up
    u.link.delivered <+: u.link.fop.world.accepted ∧ u.expedited.Sublist u.requested ∧
      (isAd u.link.fop.tf.copCfg.state = true →
        u.link.fop.world.accepted.length ≤ u.link.delivered.length +
          u.link.fop.world.sentQueue.length + u.link.fop.world.waitQueue.length) := by
  intro u
  have hW : c.fop.tf.copCfg.slideWnd.toNat ≤ 255 := by
    have hlt := c.fop.tf.copCfg.slideWnd.toNat_lt
    omega
  have hrun : ∃ l, Closes (framing c.fop.tf) c.fop.tf.copCfg.vs c.fop.tf.copCfg.slideWnd.toNat
      c.farm.mission.maxSduLen a.mission
      (run duplexStep (idleDuplex c tx rx answers rxAnswers) events) l := by
    refine run_guarded_inv (I := fun d => ∃ l, Closes _ _ _ _ a.mission d l)
      (closes_idle hstart hframing hchecks hcounter ha htx hrx hword answers rxAnswers) ?_ hevents
    rintro d e - ⟨l, h⟩ hallowed
    exact h.event hW ha.ocfRoom ha.long hallowed
  obtain ⟨l, h⟩ := hrun
  exact ⟨h.serves.delivered, h.serves.expedited_sublist, h.serves.released⟩

/-- A telemetry channel with control words, whose frames have eight octets of data. -/
def wordArgs : TmInitArgs :=
  { (default : TmInitArgs) with ocfFlag := true, crcFlag := true, frameSize := 20, maxSduLen := 8 }

/-- An end of it. -/
def wordEnd : TmTransferFrame :=
  (osdlpTmInit { (default : TmTransferFrame) with ocf := [0, 0, 0, 0] } wordArgs).getD default

/-- Packets of one octet. -/
def octetPackets : GetPacketLen := fun _ _ => some 1

/-- Two requests, the frame of the first of which arrives and is reported.  A packet goes into a
frame from before, which keeps its control word; of the two frames with the new one, the first comes
with a wrong bit. -/
def wordedRequests : List DuplexEvent :=
  [.uplink (.link (octetEvent 1)), .uplink (.link (octetEvent 2)),
    .uplink (.receive readyHooks none []), .telemetry .transmitIdleFdu, .prepare,
    .telemetry (.transmit octetPackets 9 0 [7] 1), .telemetry .transmitIdleFdu,
    .telemetry .transmitIdleFdu, .receive [] octetPackets none,
    .receive [] octetPackets (some (1 :: List.replicate 19 0)), .receive [] octetPackets none]

/-- The first request is acknowledged in a telemetry frame, and the second one is outstanding. -/
theorem duplex_delivers_acknowledged :
    let u := (run duplexStep (idleDuplex checkedLink wordEnd wordEnd [] []) wordedRequests).up
    (u.link.delivered <+: u.link.fop.world.accepted ∧ u.expedited.Sublist u.requested ∧
      (isAd u.link.fop.tf.copCfg.state = true →
        u.link.fop.world.accepted.length ≤ u.link.delivered.length +
          u.link.fop.world.sentQueue.length + u.link.fop.world.waitQueue.length)) ∧
      isAd u.link.fop.tf.copCfg.state = true ∧ u.link.delivered = [[1]] ∧
      u.link.fop.world.accepted = [[1], [2]] ∧ u.link.fop.world.sentQueue.length = 1 := by
  have hstart : Started checkedLink :=
    ⟨rfl, rfl, rfl, rfl, by decide, by decide, rfl, rfl, rfl, rfl, rfl, rfl, rfl⟩
  have hcarries : CarriesWords wordArgs := ⟨by decide, by decide, rfl, rfl⟩
  have hanswers : AnswersWithin octetPackets wordArgs.maxSduLen.toNat := by
    intro buf n length hfound
    obtain rfl := Option.some.inj hfound
    decide
  have hnoticeable : ∀ head : Option (List UInt8), (∀ frame ∈ head, frame.length = 20) →
      ∀ e ∈ some ((1 : UInt8) :: List.replicate 19 0), ∀ frame ∈ head,
        e.length = frame.length ∧ Noticeable e := by
    intro head hlength e he frame hframe
    obtain rfl := Option.some.inj he
    exact ⟨(hlength frame hframe).symm, .inr (.inl (by decide +kernel))⟩
  refine ⟨@duplex_delivers checkedLink hstart ⟨rfl, rfl, rfl⟩ ⟨rfl, rfl, rfl⟩ rfl wordArgs hcarries []
    { (default : TmTransferFrame) with ocf := [0, 0, 0, 0] }
    { (default : TmTransferFrame) with ocf := [0, 0, 0, 0] } wordEnd wordEnd rfl rfl rfl [] []
    wordedRequests ?_, by decide +kernel⟩
  refine ⟨⟨rfl, rfl, by decide, by decide⟩, ⟨rfl, rfl, by decide, by decide⟩,
    ⟨rfl, by simp [Allowed]⟩, trivial, trivial, trivial, trivial, trivial,
    ⟨hanswers, by simp⟩, ⟨hanswers, ?_⟩, ⟨hanswers, by simp⟩, trivial⟩
  exact hnoticeable _ (by decide +kernel)

end Osdlp.Analysis
