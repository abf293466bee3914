import Osdlp.Analysis.SessionOpening

/-!
# Deliveries of a session

`Started` assumes that both ends have been set up.  Here a session begins with the directive that
sets them up, over the same lossy channels as its frames.  While the handshake lasts, V(R) keeps the
value that the sender waits for once it has it (`Opening.settled`).  The service starts on a report
of that value, with copies of the command still ahead of its frames (`Behind`); these leave V(R)
where it is.  So a session is the abstract link from its first event on (`session_simulates`).
-/

set_option autoImplicit false

namespace Osdlp.Analysis

open Osdlp.Model Osdlp.Interface Osdlp.Library Osdlp.Library.GoBackN
open Relation (ReflTransGen)

variable {f : Framing} {v : UInt8} {W : ℕ} {c : Cop1} {l : Link (List UInt8)}

/-- The link before its first frame, with some reports that say so on their way. -/
def idle (reports : ℕ) : Link (List UInt8) := ⟨[], 0, 0, [], [], List.replicate reports 0⟩

theorem numbered_zero (a : UInt8) : numbered a 0 = a := by
  unfold numbered
  exact UInt8.add_zero a

/-! ## The handshake -/

/-- The values of V(R) that the receiver has reported and not yet been heard of, and the present
one. -/
def reported (c : Cop1) : List UInt8 :=
  c.downlink.map (fun ocf => (osdlpClcwUnpack ocf).reportValue) ++ [c.farm.copCfg.vr]

/-- The handshake of a session.  Once V(R) is what the sender waits for, it stays so. -/
structure Opening (f : Framing) (v : UInt8) (W : ℕ) (c : Cop1) : Prop where
  sender : Handshaking f v W c.fop
  framing : framing c.farm = f
  delivered : c.delivered = []
  settled : (reported c).Pairwise fun x y => x = v → y = v

/-! ## The service -/

/-- The frames of the service, with copies of the command that opened the session ahead of them. -/
def Behind (f : Framing) (v : UInt8) (W : ℕ) (c : Cop1) (l : Link (List UInt8)) : Prop :=
  ∃ ahead q, c.uplink = ahead ++ q ∧ (∀ frame ∈ ahead, CommandFor f v frame) ∧
    (ahead ≠ [] → c.delivered = []) ∧
    Matches f v W { c with fop := withTxQueue q c.fop } l

/-- A session is in its handshake, or its service runs. -/
def InSession (f : Framing) (v : UInt8) (W : ℕ) (c : Cop1) (l : Link (List UInt8)) : Prop :=
  (Opening f v W c ∧ l = idle 0) ∨ Behind f v W c l

/-- The reports of a receiver that has taken nothing. -/
theorem idle_reports (v : UInt8) (W n : ℕ) :
    ReflTransGen (Move (numbered v) W) (idle 0) (idle n) := by
  induction n with
  | zero => exact .refl
  | succ n ih =>
    have hreport : Move (numbered v) W (idle n) ⟨[], 0, 0, [], [], List.replicate n 0 ++ [0]⟩ :=
      .report (idle n)
    rw [← List.replicate_succ'] at hreport
    exact ih.tail hreport

/-- A sender whose service has been started is the sending half of the idle link. -/
theorem Unsent.linked {s : Fop} (h : Unsent f v W s) (hopen : Opened s) (n : ℕ) :
    Linked f (numbered v) W false (withTxQueue [] s) (idle n) := by
  have hnnr : s.tf.copCfg.nnr = v := hopen.nnr.trans h.vs
  have hmirrors : Mirrors (withTxQueue [] s) := mirrors_nil hopen.sentQueue hopen.nnr
  have had : isAd s.tf.copCfg.state = true := by
    rw [hopen.state]
    rfl
  refine ⟨h.framing, h.overhead, fun habs => absurd habs (by decide), h.window, h.accepted, .nil,
    .inl ⟨.inl ⟨had, hopen.ss⟩, hmirrors, ?_, ?_, ?_, ?_, ?_, ?_⟩⟩
  · exact hnnr.trans (numbered_zero v).symm
  · exact h.vs.trans (numbered_zero v).symm
  · show List.Forall₂ _ (s.world.sentQueue.map QueueItem.fdu) []
    rw [hopen.sentQueue]
    exact .nil
  · show s.world.waitQueue.map _ = []
    rw [h.waitQueue]
    rfl
  · show ∀ tf ∈ s.world.waitQueue, _
    rw [h.waitQueue]
    simp
  · exact fun habs => absurd h.waitQueue habs

/-- The report that starts the service makes the handshake the idle link. -/
theorem Opening.opened (h : Opening f v W c) (hW : W ≤ 255) {ocf : List UInt8}
    {rest : List (List UInt8)} (hdown : c.downlink = ocf :: rest)
    (hvalue : (osdlpClcwUnpack ocf).reportValue = v) {s : Fop} (hunsent : Unsent f v W s)
    (hopen : Opened s) :
    Behind f v W { c with fop := s, downlink := rest } (idle rest.length) := by
  have hsettled := h.settled
  unfold reported at hsettled
  rw [hdown, List.map_cons, List.cons_append, List.pairwise_cons] at hsettled
  have hvr : c.farm.copCfg.vr = v := hsettled.1 _ (by simp) hvalue
  have hrest : ∀ report ∈ rest, (osdlpClcwUnpack report).reportValue = v := by
    intro report hmem
    refine hsettled.1 _ (List.mem_append_left _ ?_) hvalue
    exact List.mem_map_of_mem hmem
  have hinv : Inv W (idle rest.length) :=
    (inv_idle W).moves (numbered_inj hW) (idle_reports v W rest.length)
  refine ⟨s.world.txQueue, [], (List.append_nil _).symm, hunsent.uplink, fun _ => h.delivered,
    ⟨hunsent.linked hopen _, h.framing, ?_, h.delivered, ?_, hinv⟩⟩
  · exact hvr.trans (numbered_zero v).symm
  · show List.Forall₂ _ rest (List.replicate rest.length 0)
    clear hdown hsettled hinv
    induction rest with
    | nil => exact .nil
    | cons report rest ih =>
      rw [List.length_cons, List.replicate_succ]
      refine .cons ?_ (ih fun report' hmem => hrest report' (List.mem_cons_of_mem _ hmem))
      exact (hrest report List.mem_cons_self).trans (numbered_zero v).symm

/-- What is reported of V(R) stays settled when a sublist of the reports is left. -/
theorem Opening.loseDown (h : Opening f v W c) {down : List (List UInt8)}
    (hsub : down.Sublist c.downlink) {s : Fop} (hsender : Handshaking f v W s) :
    Opening f v W { c with fop := s, downlink := down } where
  sender := hsender
  framing := h.framing
  delivered := h.delivered
  settled := h.settled.sublist ((hsub.map _).append_right _)

/-- A copy of the command arrives. -/
theorem Opening.arrive (h : Opening f v W c) (rxFull : Bool) {frame : List UInt8}
    {rest : List (List UInt8)} (hup : c.uplink = frame :: rest) :
    Opening f v W (c.arrived rxFull frame rest) := by
  obtain ⟨hunsent, hawaiting⟩ := h.sender
  have htx : c.fop.world.txQueue = frame :: rest := hup
  have hcommand : CommandFor f v frame := hunsent.uplink frame (by simp [htx])
  obtain ⟨hne, hvr⟩ := hcommand.arrives h.framing rxFull
  have hsettled := h.settled
  unfold reported at hsettled
  rw [List.pairwise_append] at hsettled
  obtain ⟨hdown, -, hlast⟩ := hsettled
  refine ⟨⟨hunsent.congr rfl rfl rfl rfl hunsent.waitQueue ?_ hunsent.commands, hawaiting⟩, ?_, ?_,
    ?_⟩
  · intro frame' hmem
    exact hunsent.uplink frame' (by rw [htx]; exact List.mem_cons_of_mem _ hmem)
  · obtain ⟨farm, hfarm⟩ := osdlpFarm1_frame rxFull (osdlpTcUnpack c.farm frame)
    rw [← h.framing]
    unfold Analysis.framing Cop1.arrived
    simp only [hfarm]
    rfl
  · show (if _ then _ else _) = _
    rw [if_neg hne]
    exact h.delivered
  · unfold reported
    refine List.pairwise_append.mpr ⟨hdown, List.pairwise_singleton _ _, ?_⟩
    intro x hx y hy hxv
    rw [List.mem_singleton.mp hy]
    rcases hvr with hsame | hset
    · exact hsame.trans (hlast x hx _ (by simp) hxv)
    · exact hset

/-- Another receiver state with the same V(R), or one more report of it, is settled as well. -/
theorem Opening.report (h : Opening f v W c) : Opening f v W (cop1Step c .report) := by
  refine ⟨h.sender, h.framing, h.delivered, ?_⟩
  have hvalue : (osdlpClcwUnpack (osdlpPrepareClcw c.farm).1).reportValue = c.farm.copCfg.vr := by
    show (osdlpClcwUnpack (osdlpClcwPack (prepareClcw c.farm))).reportValue = _
    rw [osdlpClcwUnpack_pack]
    rfl
  have hsettled := h.settled
  unfold reported cop1Step
  simp only [List.map_append, List.map_cons, List.map_nil, hvalue]
  have hadd : (reported c ++ [c.farm.copCfg.vr]).Pairwise fun x y => x = v → y = v := by
    refine List.pairwise_append.mpr ⟨hsettled, List.pairwise_singleton _ _, ?_⟩
    intro x hx y hy hxv
    rw [List.mem_singleton.mp hy]
    unfold reported at hsettled hx
    rcases List.mem_append.mp hx with hmem | hmem
    · exact (List.pairwise_append.mp hsettled).2.2 x hmem _ (by simp) hxv
    · rwa [List.mem_singleton.mp hmem] at hxv
  exact hadd

/-- The sender does something that keeps it in the handshake. -/
theorem Opening.withSender (h : Opening f v W c) {s : Fop} (hs : Handshaking f v W s) :
    Opening f v W { c with fop := s } := h.loseDown (.refl _) hs

/-- Every event keeps the handshake, or opens the session. -/
theorem Opening.step (h : Opening f v W c) (hW : W ≤ 255) {e : SessionEvent}
    (he : e.WellFormed f.overheadLen) :
    Opening f v W (sessionStep c e) ∨
      ∃ n, Behind f v W (sessionStep c e) (idle n) := by
  cases e with
  | sender keep op => exact .inl (h.withSender (h.sender.accompanied he))
  | link e =>
    cases e with
    | request hdr frameData => exact .inl (h.withSender (h.sender.request frameData he.1))
    | adAccept keep => exact .inl (h.withSender h.sender.adAccept)
    | timerExpired keep => exact .inl (h.withSender h.sender.timerExpired)
    | resumeAd keep => exact .inl (h.withSender h.sender.resumeAd)
    | clcw keep =>
      unfold sessionStep cop1Step
      cases hdown : c.downlink with
      | nil => exact .inl h
      | cons ocf rest =>
        have hsub : rest.Sublist c.downlink := by
          rw [hdown]
          exact List.sublist_cons_self ocf rest
        rcases h.sender.clcw ocf with hstays | ⟨hvalue, hunsent, hopen⟩
        · exact .inl (h.loseDown hsub hstays)
        · exact .inr ⟨rest.length, h.opened hW hdown hvalue hunsent hopen⟩
    | arrive rxFull =>
      unfold sessionStep cop1Step
      cases hup : c.uplink with
      | nil => exact .inl h
      | cons frame rest => exact .inl (h.arrive rxFull hup)
    | bufferRelease => exact .inl ⟨h.sender, h.framing, h.delivered, h.settled⟩
    | report => exact .inl h.report
    | loseUp keep =>
      obtain ⟨hunsent, hawaiting⟩ := h.sender
      refine .inl (h.withSender ⟨?_, hawaiting⟩)
      refine hunsent.congr rfl rfl rfl rfl hunsent.waitQueue ?_ hunsent.commands
      intro frame hmem
      exact hunsent.uplink frame ((survivors_sublist keep _).subset hmem)
    | loseDown keep => exact .inl (h.loseDown (survivors_sublist keep _) h.sender)

/-! ## Behind the command -/

variable {keep : List Bool} {nr : Option UInt8} {req : Bool} {s s' : Fop}
  {ahead q : List (List UInt8)}

/-- A run of moves of the sender is matched by moves of the link, what is ahead being left out. -/
theorem Linked.reachesBehind (h : Linked f (numbered v) W req (withTxQueue q s) l)
    (htx : s.world.txQueue = ahead ++ q) (hinv : Inv W l) (hW : W ≤ 255)
    (hnr : ∀ n, nr = some n → ∃ r rest, l.downlink = r :: rest ∧ numbered v r = n)
    (hmoves : Reaches keep nr req s s') :
    ∃ ahead' q' l', s'.world.txQueue = ahead' ++ q' ∧ ahead'.Sublist ahead ∧
      ReflTransGen (Move (numbered v) W) l l' ∧
      Linked f (numbered v) W req (withTxQueue q' s') l' ∧
      l'.delivered = l.delivered ∧ l'.downlink = l.downlink := by
  induction hmoves with
  | refl => exact ⟨ahead, q, l, htx, .refl _, .refl, h, rfl, rfl⟩
  | tail _ hmove ih =>
    obtain ⟨ahead₁, q₁, l₁, htx₁, hsub₁, hm₁, h₁, hdel₁, hdown₁⟩ := ih
    obtain ⟨keep', ahead₂, q₂, htx₂, hsub₂, hmove₂⟩ := hmove.behind htx₁
    obtain ⟨l₂, hm₂, h₂, hdel₂, hdown₂⟩ := h₁.move (hinv.moves (numbered_inj hW) hm₁) hW
      (fun n hn => by rw [hdown₁]; exact hnr n hn) hmove₂
    exact ⟨ahead₂, q₂, l₂, htx₂, hsub₂.trans hsub₁, hm₁.trans hm₂, h₂, hdel₂.trans hdel₁,
      hdown₂.trans hdown₁⟩

/-- What the sender does by moves, it does behind the command. -/
theorem Behind.reaches (htx : s.world.txQueue = ahead ++ q)
    (hahead : ∀ frame ∈ ahead, CommandFor f v frame) (hnone : ahead ≠ [] → c.delivered = [])
    (hmatches : Matches f v W { c with fop := withTxQueue q c.fop } l) (hW : W ≤ 255)
    (hlinked : Linked f (numbered v) W req (withTxQueue q s) l)
    (hnr : ∀ n, nr = some n → ∃ r rest, l.downlink = r :: rest ∧ numbered v r = n)
    (hmoves : Reaches keep nr req s s') :
    ∃ l', ReflTransGen (Move (numbered v) W) l l' ∧ Behind f v W { c with fop := s' } l' ∧
      l'.downlink = l.downlink := by
  obtain ⟨ahead', q', l', htx', hsub, hm, hlinked', hdel, hdown⟩ :=
    hlinked.reachesBehind htx hmatches.inv hW hnr hmoves
  refine ⟨l', hm, ⟨ahead', q', htx', fun frame hmem => hahead frame (hsub.subset hmem), ?_,
    hlinked'.forget, hmatches.framing, ?_, ?_, ?_, hmatches.inv.moves (numbered_inj hW) hm⟩, hdown⟩
  · intro hne
    refine hnone fun hnil => hne ?_
    rw [hnil] at hsub
    exact List.sublist_nil.mp hsub
  · rw [hdel]
    exact hmatches.vr
  · rw [hdel]
    exact hmatches.delivered
  · rw [hdown]
    exact hmatches.downlink

/-- A resumption does not look at the transmission queue. -/
theorem osdlpResumeAd_withTxQueue (q : List (List UInt8)) (s : Fop) :
    (osdlpResumeAd (fifoHooks keep) (withTxQueue q s)).2 =
      withTxQueue q (osdlpResumeAd (fifoHooks keep) s).2 := by
  have hto : ∀ state, (resumeTo (fifoHooks keep) state (withTxQueue q s)).2 =
      withTxQueue q (resumeTo (fifoHooks keep) state s).2 := by
    intro state
    rw [resumeTo_apply, resumeTo_apply, apply_ite (withTxQueue q)]
    rfl
  unfold osdlpResumeAd
  simp only [bind_apply, getFop_apply, ite_apply_state]
  have hcop : (withTxQueue q s).tf.copCfg = s.tf.copCfg := rfl
  rw [hcop]
  split_ifs
  · rfl
  · exact hto _
  · exact hto _
  · exact hto _
  · exact hto _
  · rfl

/-- The frame at the head of the uplink arrives, be it a copy of the command or one of the
service. -/
theorem Behind.arrive (h : Behind f v W c l) (hW : W ≤ 255) (rxFull : Bool) {frame : List UInt8}
    {rest : List (List UInt8)} (hup : c.uplink = frame :: rest) :
    ∃ l', ReflTransGen (Move (numbered v) W) l l' ∧ Behind f v W (c.arrived rxFull frame rest) l' := by
  obtain ⟨ahead, q, htx, hahead, hnone, hmatches⟩ := h
  cases ahead with
  | nil =>
    have hq : q = frame :: rest := by
      rw [hup] at htx
      exact htx.symm
    obtain ⟨l', hm, hmatches'⟩ := hmatches.arrive hW rxFull hq
    refine ⟨l', hm, [], rest, rfl, by simp, fun habs => absurd rfl habs, ?_⟩
    exact hmatches'
  | cons command ahead =>
    rw [hup, List.cons_append] at htx
    obtain ⟨rfl, hrest⟩ := List.cons.inj htx
    have hdelivered := hnone (List.cons_ne_nil _ _)
    obtain ⟨hne, hvr⟩ := (hahead frame List.mem_cons_self).arrives hmatches.framing rxFull
    have hzero : l.delivered = [] := hmatches.delivered.symm.trans hdelivered
    have hv : c.farm.copCfg.vr = v := by
      have h := hmatches.vr
      rwa [hzero, List.length_nil, numbered_zero] at h
    have hvr' : (osdlpFarm1 rxFull (osdlpTcUnpack c.farm frame)).2.copCfg.vr = v := by
      rcases hvr with hsame | hset
      · exact hsame.trans hv
      · exact hset
    have hsame : (c.arrived rxFull frame rest).delivered = c.delivered := if_neg hne
    refine ⟨l, .refl, ahead, q, hrest, fun frame' hmem => hahead frame' (List.mem_cons_of_mem _ hmem),
      fun _ => hsame.trans hdelivered, hmatches.sender, ?_, ?_, ?_, hmatches.downlink, hmatches.inv⟩
    · obtain ⟨farm, hfarm⟩ := osdlpFarm1_frame rxFull (osdlpTcUnpack c.farm frame)
      rw [← hmatches.framing]
      unfold Analysis.framing Cop1.arrived
      simp only [hfarm]
      rfl
    · rw [hzero, List.length_nil, numbered_zero]
      exact hvr'
    · exact hsame.trans hmatches.delivered

/-- The control word at the head of the downlink is handled. -/
theorem Behind.clcw (h : Behind f v W c l) (hW : W ≤ 255) {ocf : List UInt8}
    {rest : List (List UInt8)} (hdown : c.downlink = ocf :: rest) :
    ∃ l', ReflTransGen (Move (numbered v) W) l l' ∧
      Behind f v W { c with fop := fopStep c.fop (keep, .clcw ocf), downlink := rest } l' := by
  obtain ⟨ahead, q, htx, hahead, hnone, hmatches⟩ := h
  have hmatch := hmatches.downlink
  rw [show ({ c with fop := withTxQueue q c.fop } : Cop1).downlink = ocf :: rest from hdown] at hmatch
  obtain ⟨r, rest', hr, hrest, hl⟩ := List.forall₂_cons_left_iff.mp hmatch
  have hreach : Reaches keep (some (osdlpClcwUnpack ocf).reportValue) false c.fop
      (fopStep c.fop (keep, .clcw ocf)) :=
    osdlpHandleClcw_reaches ocf fun hs => hr ▸ hmatches.inRange hW (by simp [hl]) hs
  have hnr : ∀ n, some (osdlpClcwUnpack ocf).reportValue = some n →
      ∃ r rest, l.downlink = r :: rest ∧ numbered v r = n := by
    intro n hn
    exact ⟨r, rest', hl, hr.symm.trans (Option.some.inj hn)⟩
  obtain ⟨l₁, hm, ⟨ahead₁, q₁, htx₁, hahead₁, hnone₁, h₁⟩, hdown₁⟩ :=
    Behind.reaches htx hahead hnone hmatches hW hmatches.sender hnr hreach
  have hlost : rest'.Sublist l₁.downlink := by
    rw [hdown₁, hl]
    exact List.sublist_cons_self r rest'
  refine ⟨{ l₁ with downlink := rest' }, hm.tail (.loseDown l₁ rest' hlost), ahead₁, q₁, htx₁,
    hahead₁, hnone₁, ?_⟩
  exact ⟨h₁.sender.withUplink rfl rfl rfl h₁.sender.uplink, h₁.framing, h₁.vr, h₁.delivered, hrest,
    h₁.inv.loseDown hlost⟩

/-- Every event behind the command is matched by moves of the link. -/
theorem Behind.step (h : Behind f v W c l) (hW : W ≤ 255) {e : SessionEvent}
    (he : e.WellFormed f.overheadLen) :
    ∃ l', ReflTransGen (Move (numbered v) W) l l' ∧ Behind f v W (sessionStep c e) l' := by
  obtain ⟨ahead, q, htx, hahead, hnone, hmatches⟩ := id h
  have hnr : ∀ n, (none : Option UInt8) = some n →
      ∃ r rest, l.downlink = r :: rest ∧ numbered v r = n := fun n hn => by simp at hn
  -- what the sender does by moves
  have hmoved : ∀ {keep req s s'}, s.world.txQueue = ahead ++ q →
      Linked f (numbered v) W req (withTxQueue q s) l → Reaches keep none req s s' →
      ∃ l', ReflTransGen (Move (numbered v) W) l l' ∧ Behind f v W { c with fop := s' } l' := by
    intro keep req s s' hsame hlinked hreach
    obtain ⟨l', hm, hbehind, -⟩ := Behind.reaches hsame hahead hnone hmatches hW hlinked hnr hreach
    exact ⟨l', hm, hbehind⟩
  -- what the link does without the command as well
  have hlink : ∀ e' : Cop1Event, e'.WellFormed f.overheadLen →
      ∃ l', ReflTransGen (Move (numbered v) W) l l' ∧
        Matches f v W (cop1Step { c with fop := withTxQueue q c.fop } e') l' :=
    fun e' he' => cop1_simulates hW _ e' l he' hmatches
  cases e with
  | sender keep op =>
    exact hmoved htx hmatches.sender (fopStep_accompanies he : Reaches keep none false _ _)
  | link e =>
    cases e with
    | request hdr frameData =>
      exact hmoved (s := prepared hdr frameData c.fop) htx (hmatches.sender.prepared he.1 he.2)
        (osdlpReqTransferFdu_reaches he.1 : Reaches [] none true _ _)
    | adAccept keep =>
      exact hmoved htx hmatches.sender (osdlpAdAccept_reaches : Reaches keep none false _ _)
    | timerExpired keep =>
      exact hmoved htx hmatches.sender
        (osdlpHandleTimerExpired_reaches 2 : Reaches keep none false _ _)
    | resumeAd keep =>
      refine ⟨l, .refl, ahead, q, ?_, hahead, hnone, ?_⟩
      · show (osdlpResumeAd (fifoHooks keep) c.fop).2.world.txQueue = _
        rcases @osdlpResumeAd_cases keep c.fop with ⟨state, -, -, hres⟩ | ⟨-, hres | hres⟩ <;>
          rw [hres] <;> exact htx
      · have hresumed := hmatches.sender.resumeAd keep
        rw [osdlpResumeAd_withTxQueue] at hresumed
        exact { hmatches with sender := hresumed }
    | clcw keep =>
      unfold sessionStep cop1Step
      cases hdown : c.downlink with
      | nil => exact ⟨l, .refl, h⟩
      | cons ocf rest => exact h.clcw hW hdown
    | arrive rxFull =>
      unfold sessionStep cop1Step
      cases hup : c.uplink with
      | nil => exact ⟨l, .refl, h⟩
      | cons frame rest => exact h.arrive hW rxFull hup
    | bufferRelease =>
      obtain ⟨l', hm, hmatches'⟩ := hlink .bufferRelease trivial
      exact ⟨l', hm, ahead, q, htx, hahead, hnone, hmatches'⟩
    | report =>
      obtain ⟨l', hm, hmatches'⟩ := hlink .report trivial
      exact ⟨l', hm, ahead, q, htx, hahead, hnone, hmatches'⟩
    | loseDown keep =>
      obtain ⟨l', hm, hmatches'⟩ := hlink (.loseDown keep) trivial
      exact ⟨l', hm, ahead, q, htx, hahead, hnone, hmatches'⟩
    | loseUp keep =>
      obtain ⟨keep', hkeep⟩ := survivors_append keep ahead q
      obtain ⟨l', hm, hmatches'⟩ := hlink (.loseUp keep') trivial
      have hsub := survivors_sublist keep ahead
      refine ⟨l', hm, survivors keep ahead, survivors keep' q, ?_, ?_, ?_, hmatches'⟩
      · show survivors keep c.fop.world.txQueue = _
        rw [show c.fop.world.txQueue = ahead ++ q from htx, hkeep]
      · exact fun frame hmem => hahead frame (hsub.subset hmem)
      · intro hne
        refine hnone fun hnil => hne ?_
        rw [hnil] at hsub ⊢
        exact List.sublist_nil.mp hsub

/-- V(R) of a receiver lies within what a running service has sent and not seen acknowledged. -/
theorem Matches.vr_inRange (h : Matches f v W c l) (hW : W ≤ 255)
    (hs : isAd c.fop.tf.copCfg.state) : InRange c.fop.tf.copCfg c.farm.copCfg.vr := by
  obtain ⟨halive, -⟩ := h.sender.alive (not_isAd_init hs)
  have hbase := h.inv.base_le
  have hnext := h.inv.le_next
  have hwin := h.inv.window
  have hvr : seqDist (numbered v l.base) (numbered v l.delivered.length) =
      l.delivered.length - l.base := seqDist_ofNat v hbase (by omega)
  unfold InRange
  rw [halive.distance, halive.nnr, h.vr, hvr]
  omega

/-- A session is the abstract link from its first event on. -/
theorem session_simulates (hW : W ≤ 255) :
    Simulates sessionStep (SessionEvent.WellFormed f.overheadLen) (Move (numbered v) W)
      (InSession f v W) := by
  intro c e l he h
  rcases h with ⟨hopening, rfl⟩ | hbehind
  · rcases hopening.step hW he with hstays | ⟨n, hopened⟩
    · exact ⟨idle 0, .refl, .inl ⟨hstays, rfl⟩⟩
    · exact ⟨idle n, idle_reports v W n, .inr hopened⟩
  · obtain ⟨l', hm, hbehind'⟩ := hbehind.step hW he
    exact ⟨l', hm, .inr hbehind'⟩

/-- **A session delivers in order, exactly once, however it is opened.**  Whatever is lost of the
handshake or of the frames, what the receiver has taken is a prefix of what has been accepted, and
as soon as the service runs V(R) lies between NN(R) and V(S).
SOURCE: osdlp_cop.c:170-224, 252-336, 395-542, 663-713, 1581-1816, 1975-2393 -/
theorem session_delivers_prefix (c : Cop1) (op : FopOp) (hop : op.opens = true) (keep : List Bool)
    (hstart : Unstarted c) (hframing : SameFraming c) (hset : CommandsSet c.fop.tf.mission)
    (events : List SessionEvent)
    (hevents : ∀ e ∈ events, e.WellFormed c.fop.tf.mission.fixedOverheadLen) :
    let later := run sessionStep (sessionStep c (.sender keep op)) events
    later.delivered <+: later.fop.world.accepted ∧
      (isAd later.fop.tf.copCfg.state → InRange later.fop.tf.copCfg later.farm.copCfg.vr) := by
  intro later
  have hW : c.fop.tf.copCfg.slideWnd.toNat ≤ 255 := by
    have := c.fop.tf.copCfg.slideWnd.toNat_lt
    omega
  have hopening : Opening (framing c.fop.tf) (opensAt c.fop op) c.fop.tf.copCfg.slideWnd.toNat
      (sessionStep c (.sender keep op)) := by
    refine ⟨handshaking_opens hop hstart.state hstart.uplink hstart.accepted hframing.overhead hset,
      ?_, hstart.delivered, ?_⟩
    · show framing c.farm = framing c.fop.tf
      unfold framing
      rw [hframing.segHdrFlag, hframing.overheadLen]
    · show (c.downlink.map _ ++ [c.farm.copCfg.vr]).Pairwise _
      rw [hstart.downlink]
      exact List.pairwise_singleton _ _
  obtain ⟨l, -, h⟩ := (session_simulates hW).run (.inl ⟨hopening, rfl⟩) hevents
  rcases h with ⟨hopening', -⟩ | ⟨ahead, q, -, -, -, hmatches⟩
  · refine ⟨?_, fun had => ?_⟩
    · rw [hopening'.delivered]
      exact List.nil_prefix
    · rw [hopening'.sender.2.not_ad] at had
      exact absurd had (by decide)
  · refine ⟨?_, fun had => ?_⟩
    · have hdelivered : later.delivered = l.delivered := hmatches.delivered
      have haccepted : later.fop.world.accepted = l.accepted := hmatches.sender.accepted
      rw [hdelivered, haccepted]
      exact hmatches.inv.delivered_prefix
    · exact hmatches.vr_inRange hW had

/-- A sender at rest and a receiver in lockout that waits for another number. -/
def quietLink : Cop1 :=
  { startedLink with
    fop :=
      { startedLink.fop with
        tf :=
          { startedLink.fop.tf with
            mission := { startedLink.fop.tf.mission with setVrCmd := [setvrByte1, setvrByte2, 0] }
            copCfg := { startedLink.fop.tf.copCfg with state := .init, txLim := 3 } } }
    farm :=
      { startedLink.farm with
        copCfg := { startedLink.farm.copCfg with vr := 9 } } }

/-- Set V(R) to 7 is lost and sent again twice.  The service starts on the report of the first copy
that arrives, and the second one comes between it and the first frame. -/
theorem session_delivers_prefix_repeated :
    let later := run sessionStep (sessionStep quietLink (.sender [] (.initiateWithSetvr 7)))
      [.link (.loseUp [false]), .link (.timerExpired []), .link (.timerExpired []),
        .link (.arrive false), .link .report, .link (.clcw []), .link (octetEvent 1),
        .link (.arrive false), .link (.arrive false)]
    later.delivered = [[1]] ∧ later.farm.copCfg.vr = 8 ∧
      later.delivered <+: later.fop.world.accepted ∧
      (isAd later.fop.tf.copCfg.state → InRange later.fop.tf.copCfg later.farm.copCfg.vr) := by
  intro later
  refine ⟨by decide, by decide, session_delivers_prefix quietLink (.initiateWithSetvr 7) rfl [] ?_
    ⟨rfl, rfl, rfl⟩ ⟨rfl, by decide⟩ _ (by decide)⟩
  exact ⟨rfl, rfl, rfl, rfl, rfl⟩

end Osdlp.Analysis
