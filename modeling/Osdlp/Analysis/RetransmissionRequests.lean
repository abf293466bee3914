import Osdlp.Analysis.InOrderDelivery

/-!
# Requests for retransmission

FARM-1 asks for a retransmission, or for the sender to wait, only while a frame that has been sent
has not arrived, and this stays so for as long as the request is under way (`Requesting`).  So no
control word of the link says at once that everything has arrived and that something is missing:
the alerts of E3 and E4 never end the service (`neverBoth_run`).

The windows have to fit together for this: a frame that arrives a second time lies at most one FOP
window behind V(R), and must not be taken for one ahead of it.
-/

set_option autoImplicit false

namespace Osdlp.Analysis

open Osdlp.Model Osdlp.Interface Osdlp.Library Osdlp.Library.GoBackN
open Relation (ReflTransGen)

/-! ## What FARM-1 asks for -/

/-- The receiver asks for a retransmission, or for the sender to wait. -/
def Asking (farm : FarmConfig) : Prop := farm.retransmit = true ∨ farm.wait = true

instance (farm : FarmConfig) : Decidable (Asking farm) := inferInstanceAs (Decidable (_ ∨ _))

/-- The receiver is not open while it asks the sender to wait. -/
def ShutWhileWaiting (farm : FarmConfig) : Prop := farm.wait = true → farm.state ≠ .stateOpen

/-- A frame that is taken answers the request. -/
theorem asking_accepted {rxFull : Bool} {tf : FarmFrame} (h : Accepts rxFull tf)
    (hshut : ShutWhileWaiting tf.copCfg) : ¬ Asking (osdlpFarm1 rxFull tf).2.copCfg := by
  have hwait : tf.copCfg.wait = false :=
    Bool.eq_false_iff.mpr fun hwait => hshut hwait h.isOpen
  rw [osdlpFarm1_accepts h]
  rintro (hrt | habs)
  · exact Bool.false_ne_true hrt
  · exact Bool.false_ne_true (hwait.symm.trans habs)

/-- What FARM-1 asks for after a type-A frame it has asked for before, unless the frame is the one
that it waits for, or one that it takes for one ahead of it.
SOURCE: osdlp_cop.c:62-147, 252-283 -/
theorem asking_farm1 {rxFull : Bool} {tf : FarmFrame} (htype : tf.primaryHdr.bypass = .typeA)
    (h : Asking (osdlpFarm1 rxFull tf).2.copCfg) :
    Asking tf.copCfg ∨ tf.primaryHdr.frameSeqNum = tf.copCfg.vr ∨ conditionFarmE3 tf = true := by
  unfold osdlpFarm1 at h
  rw [htype] at h
  dsimp only at h
  unfold handleFarmTypea at h
  by_cases hns : tf.primaryHdr.frameSeqNum = tf.copCfg.vr
  · exact .inr (.inl hns)
  · rw [if_neg hns] at h
    split_ifs at h with he3 he4
    · exact .inr (.inr he3)
    · refine .inl ?_
      unfold farmE4 at h
      cases hst : tf.copCfg.state <;> rwa [hst] at h
    · refine .inl ?_
      unfold farmE5 at h
      cases hst : tf.copCfg.state <;> rw [hst] at h <;> exact h

/-- No type-A frame opens the receiver while it asks the sender to wait. -/
theorem shutWhileWaiting_farm1 {rxFull : Bool} {tf : FarmFrame}
    (htype : tf.primaryHdr.bypass = .typeA) (h : ShutWhileWaiting tf.copCfg) :
    ShutWhileWaiting (osdlpFarm1 rxFull tf).2.copCfg := by
  unfold ShutWhileWaiting at h ⊢
  unfold osdlpFarm1
  rw [htype]
  dsimp only
  unfold handleFarmTypea
  split_ifs
  · unfold farmE1
    cases hst : tf.copCfg.state with
    | stateOpen =>
      cases hretransmit : tf.copCfg.retransmit <;> simp [hretransmit, hst] at h ⊢ <;> exact h
    | stateWait | stateLockout => simp [hst]
  · unfold farmE2
    cases hst : tf.copCfg.state <;> simp [hst]
  · unfold farmE3
    cases hst : tf.copCfg.state <;> simp [hst] at h ⊢
    exact h
  · unfold farmE4
    cases hst : tf.copCfg.state with
    | stateOpen => simpa [hst] using h
    | stateWait | stateLockout => simp [hst]
  · unfold farmE5
    cases hst : tf.copCfg.state <;> simp [hst]

/-- FARM-1 leaves its windows alone. -/
theorem osdlpFarm1_pw (rxFull : Bool) (tf : FarmFrame) :
    (osdlpFarm1 rxFull tf).2.copCfg.pw = tf.copCfg.pw := by
  unfold osdlpFarm1 handleFarmTypea handleFarmTypebData handleFarmTypebCmd
  unfold farmE1 farmE2 farmE3 farmE4 farmE5 farmE6 farmE7 farmE8
  cases tf.primaryHdr.bypass with
  | typeA => dsimp only; split_ifs <;> cases tf.copCfg.state <;> rfl
  | typeB =>
    cases tf.primaryHdr.ctrlCmd with
    | data => cases tf.copCfg.state <;> rfl
    | command => dsimp only; split_ifs <;> cases tf.copCfg.state <;> rfl

/-- The frame that FARM-1 takes for one ahead of it lies within the positive part of the window.
SOURCE: osdlp_cop.c:226-238 -/
theorem seqDist_lt_of_conditionFarmE3 {tf : FarmFrame} (hpw : 1 ≤ tf.copCfg.pw.toNat)
    (h : conditionFarmE3 tf = true) :
    seqDist tf.copCfg.vr tf.primaryHdr.frameSeqNum < tf.copCfg.pw.toNat := by
  have hvr := tf.copCfg.vr.toNat_lt
  have hns := tf.primaryHdr.frameSeqNum.toNat_lt
  have hpw' := tf.copCfg.pw.toNat_lt
  unfold conditionFarmE3 at h
  simp only [Bool.or_eq_true, Bool.and_eq_true, decide_eq_true_eq] at h
  rcases h with ⟨hgt, hle⟩ | ⟨⟨hwrap, hlt⟩, hlt'⟩
  · rw [seqDist_of_le (by omega)]
    omega
  · rw [Int.tmod_eq_emod_of_nonneg (by omega)] at hwrap hlt'
    rw [seqDist_of_lt (by omega)]
    omega

/-! ## The link while FARM-1 asks -/

/-- The control word asks for a retransmission, or for the sender to wait. -/
def Asked (clcw : ClcwFrame) : Prop := clcw.rt = true ∨ clcw.wait = true

/-- Both ends and both channels are the link.  While the receiver asks for something, a frame that
has been sent has not arrived, and no control word under way that asks for something says that
everything has arrived. -/
structure Requesting (f : Framing) (a : UInt8) (W : ℕ) (c : Cop1) (l : Link (List UInt8)) :
    Prop where
  link : Matches f a W c l
  window : 1 ≤ c.farm.copCfg.pw.toNat ∧ c.farm.copCfg.pw.toNat + W ≤ 256
  shut : ShutWhileWaiting c.farm.copCfg
  asks : Asking c.farm.copCfg → l.delivered.length < l.next
  asked : ∀ ocf ∈ c.downlink, Asked (osdlpClcwUnpack ocf) →
    (osdlpClcwUnpack ocf).reportValue ≠ numbered a l.next

variable {f : Framing} {a : UInt8} {W : ℕ} {c c' : Cop1} {l l' : Link (List UInt8)}

/-- A control word under way reports a value between the counters of the sender. -/
theorem Matches.reported (h : Matches f a W c l) {ocf : List UInt8} (hocf : ocf ∈ c.downlink) :
    ∃ r, (osdlpClcwUnpack ocf).reportValue = numbered a r ∧ l.base ≤ r ∧
      r ≤ l.delivered.length := by
  obtain ⟨k, hk, rfl⟩ := List.mem_iff_getElem.mp hocf
  have hk' : k < l.downlink.length := h.downlink.length_eq ▸ hk
  exact ⟨l.downlink[k], (List.forall₂_iff_get.mp h.downlink).2 k hk hk',
    h.inv.reports _ (List.getElem_mem hk')⟩

/-- What asks for something and is still under way after a step goes on asking for something that
is outstanding. -/
theorem Requesting.still_asked (h : Requesting f a W c l) (hW : W ≤ 255) (h' : Matches f a W c' l')
    (hnext : l.next ≤ l'.next) (hdelivered : l'.delivered.length ≤ l.next) {ocf : List UInt8}
    (hocf : ocf ∈ c.downlink) (hocf' : ocf ∈ c'.downlink) (hasked : Asked (osdlpClcwUnpack ocf)) :
    (osdlpClcwUnpack ocf).reportValue ≠ numbered a l'.next := by
  intro hat
  obtain ⟨r, hr, hbase, hle⟩ := h.link.reported hocf
  obtain ⟨r', hr', hbase', hle'⟩ := h'.reported hocf'
  have hwindow := h.link.inv.window
  have hwindow' := h'.inv.window
  have hle_next := h.link.inv.le_next
  have hle_next' := h'.inv.le_next
  have hall : r' = l'.next :=
    eq_of_ofNat_eq a (show r' ≤ l'.next by omega) (by omega) (hr'.symm.trans hat)
  have hsame : r = r' := eq_of_ofNat_eq a (show r ≤ r' by omega) (by omega) (hr.symm.trans hr')
  have hnew : r ≠ l.next := by
    rintro rfl
    exact h.asked ocf hocf hasked hr
  omega

/-- If everything has arrived, a frame that arrives again lies behind V(R), and FARM-1 does not take
it for one ahead. -/
theorem Requesting.notAhead (h : Requesting f a W c l) (hall : l.delivered.length = l.next) {i : ℕ}
    (hi : i ∈ l.uplink) {rx : FarmFrame} (hrx : rx.copCfg = c.farm.copCfg)
    (hns : rx.primaryHdr.frameSeqNum = numbered a i) : ¬ conditionFarmE3 rx = true := by
  intro hahead
  have hsent := h.link.inv.sent i hi
  have hnear := h.link.inv.near i hi
  obtain ⟨hpw, hfit⟩ := h.window
  have hdist := seqDist_lt_of_conditionFarmE3 (by rw [hrx]; exact hpw) hahead
  rw [hns, hrx, h.link.vr] at hdist
  have hback : seqDist (numbered a i) (numbered a l.delivered.length) = l.delivered.length - i :=
    seqDist_ofNat a (by omega) (by omega)
  have hne : numbered a i ≠ numbered a l.delivered.length := by
    intro heq
    have := eq_of_ofNat_eq a (show i ≤ l.delivered.length by omega) (by omega) heq
    omega
  have hsum := seqDist_add_seqDist hne
  omega

/-- A step that leaves the receiver alone, and of the downlink at most takes away. -/
theorem Requesting.aside (h : Requesting f a W c l) (hW : W ≤ 255) (h' : Matches f a W c' l')
    (hnext : l.next ≤ l'.next) (hfarm : c'.farm = c.farm) (hdelivered : c'.delivered = c.delivered)
    (hdown : c'.downlink.Sublist c.downlink) : Requesting f a W c' l' := by
  have hsame : l'.delivered = l.delivered := by
    rw [← h'.delivered, hdelivered, h.link.delivered]
  refine ⟨h', ?_, ?_, ?_, ?_⟩
  · rw [hfarm]
    exact h.window
  · rw [hfarm]
    exact h.shut
  · rw [hfarm, hsame]
    exact fun hask => (h.asks hask).trans_le hnext
  · intro ocf hocf
    refine h.still_asked hW h' hnext ?_ (hdown.subset hocf) hocf
    rw [hsame]
    exact h.link.inv.le_next

/-- A frame arrives. -/
theorem Requesting.arrived (h : Requesting f a W c l) (hW : W ≤ 255) {rxFull : Bool}
    {frame : List UInt8} {rest : List (List UInt8)} (hup : c.uplink = frame :: rest)
    (h' : Matches f a W (c.arrived rxFull frame rest) l') (hnext : l.next ≤ l'.next) :
    Requesting f a W (c.arrived rxFull frame rest) l' := by
  have hmatch := h.link.sender.uplink
  rw [show c.fop.world.txQueue = frame :: rest from hup] at hmatch
  obtain ⟨i, rest', ⟨x, -, hframe⟩, -, hl⟩ := List.forall₂_cons_left_iff.mp hmatch
  obtain ⟨hbypass, hns, -⟩ := hframe c.farm h.link.framing
  have hi : i ∈ l.uplink := by simp [hl]
  have hsent := h.link.inv.sent i hi
  have hle := h.link.inv.le_next
  let rx : FarmFrame := osdlpTcUnpack c.farm frame
  -- the frame that is waited for has been sent
  have hwaited : rx.primaryHdr.frameSeqNum = rx.copCfg.vr → l.delivered.length < l.next := by
    intro hseq
    have hnum : numbered a i = numbered a l.delivered.length := by
      rw [← h.link.vr, ← hns]
      exact hseq
    rw [← h.link.inv.head_eq (numbered_inj hW) hi hnum]
    exact hsent
  have hshut : ShutWhileWaiting rx.copCfg := h.shut
  have hdelivered : l'.delivered = if (osdlpFarm1 rxFull rx).1 = .enq
      then l.delivered ++ [rx.frameData.payload] else l.delivered := by
    rw [← h'.delivered, ← h.link.delivered]
    rfl
  -- at most one frame is taken, and it has been sent
  have hmore : l'.delivered.length ≤ l.next ∧
      (Asking (osdlpFarm1 rxFull rx).2.copCfg → l'.delivered.length < l'.next) := by
    rcases osdlpFarm1_vr rxFull rx with ⟨hacc, henq, -⟩ | ⟨-, hne, -⟩
    · rw [hdelivered, if_pos henq, List.length_append, List.length_singleton]
      exact ⟨hwaited hacc.seqNum, fun hask => absurd hask (asking_accepted hacc hshut)⟩
    · rw [hdelivered, if_neg hne]
      refine ⟨hle, fun hask => ?_⟩
      rcases asking_farm1 hbypass hask with hold | hseq | hahead
      · exact (h.asks hold).trans_le hnext
      · exact (hwaited hseq).trans_le hnext
      · have hbehind : l.delivered.length ≠ l.next :=
          fun hall => h.notAhead hall hi (show rx.copCfg = c.farm.copCfg from rfl) hns hahead
        omega
  refine ⟨h', ?_, shutWhileWaiting_farm1 hbypass hshut, hmore.2, fun ocf hocf => ?_⟩
  · show 1 ≤ (osdlpFarm1 rxFull rx).2.copCfg.pw.toNat ∧
      (osdlpFarm1 rxFull rx).2.copCfg.pw.toNat + W ≤ _
    rw [osdlpFarm1_pw]
    exact h.window
  · exact h.still_asked hW h' hnext hmore.1 hocf hocf

/-- FARM-1 reports. -/
theorem Requesting.report (h : Requesting f a W c l) (hW : W ≤ 255)
    (h' : Matches f a W (cop1Step c .report) l') (hnext : l.next ≤ l'.next) :
    Requesting f a W (cop1Step c .report) l' := by
  have hsame : l'.delivered = l.delivered := h'.delivered.symm.trans h.link.delivered
  have hle := h.link.inv.le_next
  have hwindow := h'.inv.window
  have hbase := h'.inv.base_le
  have hle' := h'.inv.le_next
  refine ⟨h', h.window, h.shut, ?_, fun ocf hocf hasked => ?_⟩
  · rw [hsame]
    exact fun hask => (h.asks hask).trans_le hnext
  · have hmem : ocf ∈ c.downlink ++ [(osdlpPrepareClcw c.farm).1] := hocf
    rcases List.mem_append.mp hmem with hold | hnew
    · refine h.still_asked hW h' hnext ?_ hold hocf hasked
      rw [hsame]
      exact hle
    · -- the new control word reports V(R), with the flags of the receiver
      rw [List.mem_singleton.mp hnew] at hasked ⊢
      rw [show osdlpClcwUnpack (osdlpPrepareClcw c.farm).1 = prepareClcw c.farm from
        osdlpClcwUnpack_pack _] at hasked ⊢
      have hbehind := h.asks hasked
      show c.farm.copCfg.vr ≠ _
      rw [h.link.vr, ← hsame]
      intro heq
      have := eq_of_ofNat_eq a (show l'.delivered.length ≤ l'.next by omega) (by omega) heq
      rw [hsame] at this
      omega

/-- Every event keeps what the requests owe to the link. -/
theorem requesting_simulates (hW : W ≤ 255) :
    Simulates cop1Step (Cop1Event.WellFormed f.overheadLen) (Move (numbered a) W)
      (Requesting f a W) := by
  intro c e l he h
  obtain ⟨l', hmoves, h'⟩ := cop1_simulates hW c e l he h.link
  have hnext := next_le_of_moves hmoves
  refine ⟨l', hmoves, ?_⟩
  cases e with
  | request | adAccept | timerExpired | resumeAd | loseUp =>
    exact h.aside hW h' hnext rfl rfl (List.Sublist.refl _)
  | loseDown keep => exact h.aside hW h' hnext rfl rfl (survivors_sublist keep c.downlink)
  | clcw keep =>
    cases hdown : c.downlink with
    | nil =>
      have hstep : cop1Step c (.clcw keep) = c := by
        unfold cop1Step
        rw [hdown]
      rw [hstep] at h' ⊢
      exact h.aside hW h' hnext rfl rfl (List.Sublist.refl _)
    | cons ocf rest =>
      have hstep : cop1Step c (.clcw keep) =
          { c with fop := fopStep c.fop (keep, .clcw ocf), downlink := rest } := by
        unfold cop1Step
        rw [hdown]
      rw [hstep] at h' ⊢
      exact h.aside hW h' hnext rfl rfl (by rw [hdown]; exact List.sublist_cons_self ocf rest)
  | arrive rxFull =>
    cases hup : c.uplink with
    | nil =>
      have hstep : cop1Step c (.arrive rxFull) = c := by
        unfold cop1Step
        rw [hup]
      rw [hstep] at h' ⊢
      exact h.aside hW h' hnext rfl rfl (List.Sublist.refl _)
    | cons frame rest =>
      have hstep : cop1Step c (.arrive rxFull) = c.arrived rxFull frame rest := by
        unfold cop1Step
        rw [hup]
      rw [hstep] at h' ⊢
      exact h.arrived hW hup h' hnext
  | bufferRelease =>
    -- the wait flag is cleared here, so only the retransmit flag still asks
    have hsame : l'.delivered = l.delivered := h'.delivered.symm.trans h.link.delivered
    refine ⟨h', h.window, fun hwait => absurd hwait Bool.false_ne_true, fun hask => ?_, ?_⟩
    · rw [hsame]
      have hrt : c.farm.copCfg.retransmit = true := hask.resolve_right Bool.false_ne_true
      exact (h.asks (.inl hrt)).trans_le hnext
    · intro ocf hocf
      refine h.still_asked hW h' hnext ?_ hocf hocf
      rw [hsame]
      exact h.link.inv.le_next
  | report => exact h.report hW h' hnext

/-- The receiver asks for nothing when the service is started, and the windows of the two ends fit
together. -/
structure AsksNothing (c : Cop1) : Prop where
  retransmit : c.farm.copCfg.retransmit = false
  wait : c.farm.copCfg.wait = false
  pw : 1 ≤ c.farm.copCfg.pw.toNat
  windows : c.farm.copCfg.pw.toNat + c.fop.tf.copCfg.slideWnd.toNat ≤ 256

/-- Before anything is sent nothing is asked for. -/
theorem requesting_idle (hstart : Started c) (hframing : SameFraming c) (hnothing : AsksNothing c) :
    Requesting (framing c.fop.tf) c.fop.tf.copCfg.vs c.fop.tf.copCfg.slideWnd.toNat c
      ⟨[], 0, 0, [], [], []⟩ := by
  have hsilent : ¬ Asking c.farm.copCfg := by
    rintro (hrt | hwait)
    · rw [hnothing.retransmit] at hrt
      exact absurd hrt (by decide)
    · rw [hnothing.wait] at hwait
      exact absurd hwait (by decide)
  refine ⟨matches_idle hstart hframing, ⟨hnothing.pw, hnothing.windows⟩,
    fun hwait => absurd (.inr hwait) hsilent, fun hask => absurd hask hsilent, fun ocf hocf => ?_⟩
  rw [hstart.downlink] at hocf
  exact absurd hocf List.not_mem_nil

/-- Every state of every run is that of a link on which requests are honoured. -/
theorem requesting_run (hstart : Started c) (hframing : SameFraming c) (hnothing : AsksNothing c)
    {events : List Cop1Event}
    (hevents : ∀ e ∈ events, e.WellFormed c.fop.tf.mission.fixedOverheadLen) :
    ∃ l, Requesting (framing c.fop.tf) c.fop.tf.copCfg.vs c.fop.tf.copCfg.slideWnd.toNat
      (run cop1Step c events) l := by
  have hlt := c.fop.tf.copCfg.slideWnd.toNat_lt
  obtain ⟨l, -, h⟩ := (requesting_simulates (by omega)).run
    (requesting_idle hstart hframing hnothing) hevents
  exact ⟨l, h⟩

/-- **FARM-1 asks only for what is outstanding.**  In every state that the link reaches with the
service running, V(R) is not V(S) while FARM-1 asks for something, and no control word under way is
an event E3 or E4: whatever is lost and however late the reports are, no alert tells the user that
the ends are out of step.
SOURCE: osdlp_cop.c:62-147, 226-283, 782-904, 1975-2092 -/
theorem asking_outstanding (c : Cop1) (hstart : Started c) (hframing : SameFraming c)
    (hnothing : AsksNothing c) (events : List Cop1Event)
    (hevents : ∀ e ∈ events, e.WellFormed c.fop.tf.mission.fixedOverheadLen)
    (had : isAd (run cop1Step c events).fop.tf.copCfg.state) :
    let now := run cop1Step c events
    (Asking now.farm.copCfg → now.farm.copCfg.vr ≠ now.fop.tf.copCfg.vs) ∧
      ∀ ocf ∈ now.downlink, clcwKind now.fop.tf.copCfg (osdlpClcwUnpack ocf) ≠ .e3 ∧
        clcwKind now.fop.tf.copCfg (osdlpClcwUnpack ocf) ≠ .e4 := by
  intro now
  obtain ⟨l, h⟩ := requesting_run hstart hframing hnothing hevents
  have hW := c.fop.tf.copCfg.slideWnd.toNat_lt
  have hvs : now.fop.tf.copCfg.vs = numbered c.fop.tf.copCfg.vs l.next :=
    (h.link.sender.alive (not_isAd_init had)).1.vs
  have hwindow := h.link.inv.window
  have hbase := h.link.inv.base_le
  have hle := h.link.inv.le_next
  refine ⟨fun hask heq => ?_, fun ocf hocf => ?_⟩
  · have hbehind := h.asks hask
    rw [h.link.vr, hvs] at heq
    have := eq_of_ofNat_eq _ (show l.delivered.length ≤ l.next by omega) (by omega) heq
    omega
  · have hguard := clcwKind_guard now.fop.tf.copCfg (osdlpClcwUnpack ocf)
    have hasked := h.asked ocf hocf
    rw [← hvs] at hasked
    refine ⟨fun hkind => ?_, fun hkind => ?_⟩
    · rw [hkind] at hguard
      exact hasked (.inr hguard.2.2) hguard.1.2.symm
    · rw [hkind] at hguard
      exact hasked (.inl hguard.2) hguard.1.2.symm

/-- The second of two frames overtakes the first, which is lost, and FARM-1 asks for it again. -/
theorem asking_outstanding_lost :
    let now := run cop1Step startedLink
      [octetEvent 1, octetEvent 2, .loseUp [false], .arrive false, .report]
    Asking now.farm.copCfg ∧ now.farm.copCfg.vr ≠ now.fop.tf.copCfg.vs ∧ now.downlink ≠ [] ∧
      ∀ ocf ∈ now.downlink, clcwKind now.fop.tf.copCfg (osdlpClcwUnpack ocf) ≠ .e3 ∧
        clcwKind now.fop.tf.copCfg (osdlpClcwUnpack ocf) ≠ .e4 := by
  intro now
  have hask : Asking now.farm.copCfg := by decide
  obtain ⟨hvr, hdown⟩ := asking_outstanding startedLink
    ⟨rfl, rfl, rfl, rfl, by decide, by decide, rfl, rfl, rfl, rfl, rfl, rfl, rfl⟩ ⟨rfl, rfl, rfl⟩
    ⟨rfl, rfl, by decide, by decide⟩
    [octetEvent 1, octetEvent 2, .loseUp [false], .arrive false, .report] (by decide) (by decide)
  exact ⟨hask, hvr hask, by decide, hdown⟩

end Osdlp.Analysis
