import Osdlp.Analysis.RetransmissionRequests
import Osdlp.Interface.FopRetries

/-!
# Recovery

Whatever has happened on the link, and even if all that is in flight is lost, what has been accepted
can still be brought across, without the user's doing and without further losses: `recovers`.

The argument goes in rounds.  When NN(R) is level with V(R) (`Poised`), an expiration of the timer
puts the first outstanding frame out, FARM-1 takes it, and its report makes the two level again
(`takesHead`).  When it is not, a report makes it so first (`catchesUp`); if the report asks for a
retransmission, it takes the first outstanding frame along.
-/

set_option autoImplicit false

namespace Osdlp.Analysis

open Osdlp.Model Osdlp.Interface Osdlp.Library Osdlp.Library.GoBackN
open Relation (ReflTransGen)

/-! ## What repairs the link -/

/-- Everything in flight is lost. -/
def silence (c : Cop1) : List Cop1Event :=
  [.loseUp (List.replicate c.uplink.length false),
    .loseDown (List.replicate c.downlink.length false)]

/-- A mask may spare nothing. -/
theorem survivors_none {α : Type} (xs : List α) :
    survivors (List.replicate xs.length false) xs = [] := by
  induction xs with
  | nil => rfl
  | cons x xs ih => exact ih

/-- Both channels lose what they hold. -/
theorem run_silence (c : Cop1) :
    run cop1Step c (silence c) =
      { c with fop := onWorld c.fop fun w => { w with txQueue := [] }, downlink := [] } := by
  have hup : survivors (List.replicate c.uplink.length false) c.fop.world.txQueue = [] :=
    survivors_none c.fop.world.txQueue
  have hdown := survivors_none c.downlink
  unfold silence
  simp only [run_cons, run_nil, cop1Step, hdown]
  unfold onWorld
  simp only [hup]

variable {f : Framing} {a : UInt8} {W : ℕ} {c c' : Cop1} {l l' : Link (List UInt8)}
  {keep : List Bool} {nr : Option UInt8} {s s' : Fop}

/-- Without a request nothing is accepted. -/
theorem accepted_of_reaches (h : Reaches keep nr false s s') :
    s'.world.accepted = s.world.accepted := by
  induction h with
  | refl => rfl
  | tail _ hmove ih =>
    rw [← ih]
    cases hmove with
    | ack n =>
      unfold acked
      split_ifs <;> rfl
    | resend =>
      unfold resent
      split <;> rfl
    | enqueue hreq => exact absurd hreq (by decide)
    | _ => rfl

/-- Nothing is accepted from the user in between. -/
theorem accepted_of_repairs (h : Matches f a W c l) (hW : W ≤ 255) {e : Cop1Event}
    (he : e.Repairs) : (cop1Step c e).fop.world.accepted = c.fop.world.accepted := by
  cases e with
  | adAccept keep =>
    exact accepted_of_reaches (osdlpAdAccept_reaches : Reaches keep none false _ _)
  | timerExpired keep =>
    exact accepted_of_reaches (osdlpHandleTimerExpired_reaches 2 : Reaches keep none false _ _)
  | clcw keep =>
    unfold cop1Step
    cases hdown : c.downlink with
    | nil => rfl
    | cons ocf rest =>
      have hmatch := h.downlink
      rw [hdown] at hmatch
      obtain ⟨r, rest', hr, -, hl⟩ := List.forall₂_cons_left_iff.mp hmatch
      have hreach : Reaches keep (some (osdlpClcwUnpack ocf).reportValue) false c.fop
          (fopStep c.fop (keep, .clcw ocf)) :=
        osdlpHandleClcw_reaches ocf fun hs => hr ▸ h.inRange hW (by simp [hl]) hs
      exact accepted_of_reaches hreach
  | arrive =>
    unfold cop1Step
    cases c.uplink <;> rfl
  | bufferRelease | report => rfl
  | request | resumeAd | loseUp | loseDown => exact he.elim

/-- Repairs keep the two ends the link, and accept nothing. -/
theorem Matches.repaired (h : Matches f a W c l) (hW : W ≤ 255) {es : List Cop1Event}
    (hes : ∀ e ∈ es, e.Repairs) :
    ∃ l', Matches f a W (run cop1Step c es) l' ∧
      (run cop1Step c es).fop.world.accepted = c.fop.world.accepted := by
  induction es generalizing c l with
  | nil => exact ⟨l, h, rfl⟩
  | cons e es ih =>
    have he := hes e List.mem_cons_self
    obtain ⟨l₁, -, h₁⟩ := cop1_simulates hW c e l (he.wellFormed _) h
    obtain ⟨l', h', hacc⟩ := ih h₁ fun e' he' => hes e' (List.mem_cons_of_mem _ he')
    exact ⟨l', h', hacc.trans (accepted_of_repairs h hW he)⟩

/-! ## Level counters -/

/-- The receiver takes what it waits for, and asks for nothing but retransmissions. -/
structure Taking (farm : FarmConfig) : Prop where
  isOpen : farm.state = .stateOpen
  lockout : farm.lockout = false
  wait : farm.wait = false

/-- The link is about to do a round: the sender is sending, the receiver is open, all that has
arrived has been acknowledged, and no report is under way. -/
structure Poised (f : Framing) (a : UInt8) (W : ℕ) (c : Cop1) (l : Link (List UInt8)) : Prop where
  link : Matches f a W c l
  sender : Transmitting c.fop.tf.copCfg
  receiver : Taking c.farm.copCfg
  level : c.fop.tf.copCfg.nnr = c.farm.copCfg.vr
  downlink : c.downlink = []

/-- The service is running. -/
theorem Matches.alive (h : Matches f a W c l) (ht : Transmitting c.fop.tf.copCfg) :
    Alive f (numbered a) c.fop l :=
  (h.sender.alive (not_isAd_init (isAd_of_sending ht.sending))).1

/-- The sender knows what has arrived. -/
theorem Poised.base (h : Poised f a W c l) (hW : W ≤ 255) : l.base = l.delivered.length := by
  have hnnr := (h.link.alive h.sender).nnr
  have hlevel := h.level
  have hbase := h.link.inv.base_le
  have hle := h.link.inv.le_next
  have hwindow := h.link.inv.window
  rw [hnnr, h.link.vr] at hlevel
  exact eq_of_ofNat_eq a hbase (by omega) hlevel

/-- What is at the head of the sent queue carries the first index not yet acknowledged. -/
theorem Alive.head (h : Alive f (numbered a) s l) {fdu : List UInt8}
    (hfdu : (s.world.sentQueue.map QueueItem.fdu).head? = some fdu) :
    Carries f (numbered a) l.accepted fdu l.base := by
  obtain ⟨rest, hq⟩ := List.head?_eq_some_iff.mp hfdu
  have hcopies := h.copies
  rw [hq] at hcopies
  obtain ⟨i, rest', hcarries, -, hrange⟩ := List.forall₂_cons_left_iff.mp hcopies
  have hi := (List.range'_eq_cons_iff.mp hrange).1
  rwa [← hi] at hcarries

/-- A report that says something new acknowledges it. -/
theorem Matches.acknowledges (h : Matches f a W c l) (hW : W ≤ 255)
    (ht : Transmitting c.fop.tf.copCfg) {ocf : List UInt8} (hocf : ocf ∈ c.downlink)
    (hlock : (osdlpClcwUnpack ocf).lockout = false) (hwait : (osdlpClcwUnpack ocf).wait = false)
    (hnew : (osdlpClcwUnpack ocf).reportValue ≠ c.fop.tf.copCfg.nnr) :
    AcknowledgesNew (osdlpClcwUnpack ocf) c.fop := by
  have halive := h.alive ht
  have hwindow := h.inv.window
  refine ⟨hlock, hwait, ?_, hnew, halive.mirrors, ?_⟩
  · obtain ⟨k, hk, rfl⟩ := List.mem_iff_getElem.mp hocf
    have hk' : k < l.downlink.length := h.downlink.length_eq ▸ hk
    have hr := (List.forall₂_iff_get.mp h.downlink).2 k hk hk'
    have hrange := h.inRange hW (List.getElem_mem hk') (isAd_of_sending ht.sending)
    exact hr ▸ hrange
  · rw [halive.mirrors.length, halive.distance, h.sender.window]
    omega

/-! ## A round -/

/-- FARM-1 takes the frame that carries the first index not yet acknowledged, and its report is
handled: the counters are level again, one further.
SOURCE: osdlp_cop.c:62-79, 715-780, 950-1014 -/
theorem Poised.takesHead (h : Poised f a W c l) (hW : W ≤ 255) {frame : List UInt8}
    {rest : List (List UInt8)} (hup : c.uplink = frame :: rest)
    (hframe : Carries f (numbered a) l.accepted frame l.base) :
    let c' := run cop1Step c [.arrive false, .report, .clcw []]
    (∃ l', Poised f a W c' l') ∧ c'.fop.tf.copCfg.txCnt = 1 ∧
      c'.delivered.length = c.delivered.length + 1 := by
  intro c'
  let rx : FarmFrame := osdlpTcUnpack c.farm frame
  let c₁ := c.arrived false frame rest
  let c₂ := cop1Step c₁ .report
  let clcw := prepareClcw c₁.farm
  obtain ⟨payload, -, hof⟩ := hframe
  obtain ⟨hbypass, hns, -⟩ := hof c.farm h.link.framing
  have hnnr := (h.link.alive h.sender).nnr
  have haccepts : Accepts false rx := by
    refine ⟨hbypass, ?_, rfl, h.receiver.isOpen⟩
    rw [hns, ← hnnr]
    exact h.level
  have hfarm1 := osdlpFarm1_accepts haccepts
  have hfarm : c₁.farm.copCfg =
      { c.farm.copCfg with vr := c.farm.copCfg.vr + 1, retransmit := false } := by
    show (osdlpFarm1 false rx).2.copCfg = _
    rw [hfarm1]
    rfl
  have hdelivered : c₁.delivered = c.delivered ++ [rx.frameData.payload] := by
    show (if (osdlpFarm1 false rx).1 = .enq then _ else _) = _
    rw [hfarm1]
    rfl
  have hstep₁ : cop1Step c (.arrive false) = c₁ := by
    unfold cop1Step
    rw [hup]
  have hdown₂ : c₂.downlink = [osdlpClcwPack clcw] := by
    show c.downlink ++ [(osdlpPrepareClcw c₁.farm).1] = _
    rw [h.downlink]
    rfl
  have hc' : c' =
      { c₂ with fop := fopStep c₂.fop ([], .clcw (osdlpClcwPack clcw)), downlink := [] } := by
    show cop1Step (cop1Step (cop1Step c (.arrive false)) .report) (.clcw []) = _
    rw [hstep₁]
    show cop1Step c₂ (.clcw []) = _
    unfold cop1Step
    rw [hdown₂]
  -- the two ends stay the link
  have hsim : ∀ es : List Cop1Event, (∀ e ∈ es, e.Repairs) →
      ∃ l', Matches f a W (run cop1Step c es) l' := by
    intro es hes
    obtain ⟨l', h', -⟩ := h.link.repaired hW hes
    exact ⟨l', h'⟩
  obtain ⟨l₂, h₂⟩ : ∃ l', Matches f a W c₂ l' := by
    have := hsim [.arrive false, .report] (by simp [Cop1Event.Repairs])
    rwa [run_cons, hstep₁] at this
  obtain ⟨l', h'⟩ := hsim [.arrive false, .report, .clcw []] (by simp [Cop1Event.Repairs])
  have hsender₂ : Transmitting c₂.fop.tf.copCfg := h.sender
  -- the report says one more, and asks for nothing
  have hclcw : osdlpClcwUnpack (osdlpClcwPack clcw) = clcw := osdlpClcwUnpack_pack clcw
  have hvr : clcw.reportValue = c.farm.copCfg.vr + 1 := congrArg FarmConfig.vr hfarm
  have hack : AcknowledgesNew (osdlpClcwUnpack (osdlpClcwPack clcw)) c₂.fop := by
    refine h₂.acknowledges hW hsender₂ (by rw [hdown₂]; exact List.mem_singleton_self _) ?_ ?_ ?_
    · rw [hclcw]
      exact (congrArg FarmConfig.lockout hfarm).trans h.receiver.lockout
    · rw [hclcw]
      exact (congrArg FarmConfig.wait hfarm).trans h.receiver.wait
    · rw [hclcw, hvr, ← h.level]
      exact succ_ne c.fop.tf.copCfg.nnr
  have hrt : (osdlpClcwUnpack (osdlpClcwPack clcw)).rt = false := by
    rw [hclcw]
    exact congrArg FarmConfig.retransmit hfarm
  obtain ⟨hsender, hnnr', hcnt⟩ := @osdlpHandleClcw_acknowledges [] c₂.fop _ hack hrt hsender₂
  have hfarm' : c'.farm.copCfg = c₁.farm.copCfg := by
    rw [hc']
    rfl
  refine ⟨⟨l', h', ?_, ?_, ?_, ?_⟩, ?_, ?_⟩
  · rw [hc']
    exact hsender
  · rw [hfarm', hfarm]
    exact ⟨h.receiver.isOpen, h.receiver.lockout, h.receiver.wait⟩
  · rw [hfarm', hfarm]
    rw [hclcw, hvr] at hnnr'
    rw [hc']
    exact hnnr'
  · rw [hc']
  · rw [hc']
    exact hcnt
  · rw [hc']
    show c₁.delivered.length = _
    rw [hdelivered, List.length_append, List.length_singleton]

/-- Once the first outstanding frame is out, with nothing ahead of it, it is taken. -/
theorem Poised.takesFirst (h : Poised f a W c l) (hW : W ≤ 255) {tx : List (List UInt8)}
    (hkeep : survivors keep tx = []) (hout : FirstOut keep tx c.fop) :
    let c' := run cop1Step c [.arrive false, .report, .clcw []]
    (∃ l', Poised f a W c' l') ∧ c'.fop.tf.copCfg.txCnt = 1 ∧
      c'.delivered.length = c.delivered.length + 1 := by
  obtain ⟨fdu, hhead, rest, htx⟩ := hout
  rw [hkeep, List.nil_append] at htx
  exact h.takesHead hW htx.symm ((h.link.alive h.sender).head hhead)

/-- The link can do a round: the counters are level, and the limit allows a retransmission. -/
structure RoundReady (f : Framing) (a : UInt8) (W : ℕ) (c : Cop1) : Prop where
  poised : ∃ l, Poised f a W c l
  txCnt : c.fop.tf.copCfg.txCnt < c.fop.tf.copCfg.txLim

/-- The count that an acknowledgement leaves is below the limit. -/
theorem Poised.ready (h : Poised f a W c l) (hcnt : c.fop.tf.copCfg.txCnt = 1) :
    RoundReady f a W c :=
  ⟨⟨l, h⟩, by rw [hcnt]; exact h.sender.txLim⟩

/-- While frames are outstanding, an expiration of the timer gets the first one through. -/
theorem RoundReady.round (h : RoundReady f a W c) (hW : W ≤ 255) (hq : c.fop.world.sentQueue ≠ []) :
    ∃ es, (∀ e ∈ es, e.Repairs) ∧ RoundReady f a W (run cop1Step c es) ∧
      (run cop1Step c es).delivered.length = c.delivered.length + 1 := by
  obtain ⟨⟨l, hpoised⟩, hcnt⟩ := h
  obtain ⟨item, items, hitem⟩ := List.exists_cons_of_ne_nil hq
  have htype : item.type = .typeA :=
    (hpoised.link.alive hpoised.sender).mirrors.typea (by rw [hitem]; exact List.mem_cons_self)
  let cancel := List.replicate c.fop.world.txQueue.length false
  obtain ⟨hsender, hnnr, hout⟩ := @osdlpHandleTimerExpired_firstOut cancel c.fop 2 hpoised.sender
    hcnt item items hitem htype
  obtain ⟨l₁, hlink, -⟩ := hpoised.link.repaired hW
    (show ∀ e ∈ [Cop1Event.timerExpired cancel], e.Repairs by simp [Cop1Event.Repairs])
  have hfired : Poised f a W (cop1Step c (.timerExpired cancel)) l₁ :=
    ⟨hlink, hsender, hpoised.receiver, hnnr.trans hpoised.level, hpoised.downlink⟩
  obtain ⟨⟨l', htaken⟩, hcnt', hmore⟩ := hfired.takesFirst hW (survivors_none _) hout
  refine ⟨[.timerExpired cancel, .arrive false, .report, .clcw []], by simp [Cop1Event.Repairs],
    htaken.ready hcnt', hmore⟩

/-- While something waits and nothing is outstanding, an acceptance by the lower layer sends it. -/
theorem RoundReady.draw (h : RoundReady f a W c) (hW : W ≤ 255) (hpos : 1 ≤ W)
    (hq : c.fop.world.sentQueue = []) (hwait : c.fop.world.waitQueue ≠ []) :
    let c' := cop1Step c (.adAccept [])
    RoundReady f a W c' ∧ c'.fop.world.sentQueue ≠ [] ∧ c'.delivered = c.delivered := by
  obtain ⟨⟨l, hpoised⟩, hcnt⟩ := h
  have halive := hpoised.link.alive hpoised.sender
  have hroom : fopRoom c.fop.tf.copCfg = true := by
    have heq := halive.mirrors.nil_iff.mp hq
    have hdist : seqDist c.fop.tf.copCfg.nnr c.fop.tf.copCfg.vs = 0 := seqDist_eq_zero.mpr heq
    have hwindow := hpoised.link.sender.window
    rw [fopRoom_iff (by omega)]
    omega
  have hsearched : Searched c.fop c.fop.tf.copCfg.state (osdlpAdAccept (fifoHooks []) c.fop).2 := by
    have hlook := @lookThenReport_searched [] none c.fop
    unfold osdlpAdAccept
    rw [bind_apply, getFop_apply]
    cases hst : c.fop.tf.copCfg.state with
    | active | rtNoWait =>
      rw [Option.getD_none, hst] at hlook
      exact hlook
    | _ => exact absurd (hst ▸ hpoised.sender.sending) (by decide)
  obtain ⟨-, hnnr, -, hlim, hcnt'⟩ := hsearched.parameters
  obtain ⟨l', hlink, -⟩ := hpoised.link.repaired hW
    (show ∀ e ∈ [Cop1Event.adAccept []], e.Repairs by simp [Cop1Event.Repairs])
  have hsender := hsearched.transmitting hpoised.sender.sending hpoised.sender
  have hnext : Poised f a W (cop1Step c (.adAccept [])) l' :=
    ⟨hlink, hsender, hpoised.receiver, hnnr.trans hpoised.level, hpoised.downlink⟩
  refine ⟨⟨⟨l', hnext⟩, ?_⟩, hsearched.drawn hwait hroom, rfl⟩
  show (osdlpAdAccept (fifoHooks []) c.fop).2.tf.copCfg.txCnt <
    (osdlpAdAccept (fifoHooks []) c.fop).2.tf.copCfg.txLim
  rcases hcnt' with hcnt' | hcnt'
  · rw [hcnt', hlim]
    exact hcnt
  · rw [hcnt']
    exact hsender.txLim

/-! ## Catching up -/

/-- Nothing is left to do: what has been accepted has been delivered and acknowledged. -/
structure Drained (c : Cop1) : Prop where
  delivered : c.delivered = c.fop.world.accepted
  sentQueue : c.fop.world.sentQueue = []
  waitQueue : c.fop.world.waitQueue = []
  nnr : c.fop.tf.copCfg.nnr = c.fop.tf.copCfg.vs
  vr : c.farm.copCfg.vr = c.fop.tf.copCfg.vs
  sending : sends c.fop.tf.copCfg.state
  farmOpen : c.farm.copCfg.state = .stateOpen

/-- A link that can do a round and has delivered all it has accepted is drained. -/
theorem RoundReady.drained (h : RoundReady f a W c) (hW : W ≤ 255)
    (hdone : c.fop.world.accepted.length ≤ c.delivered.length) : Drained c := by
  obtain ⟨⟨l, hpoised⟩, -⟩ := h
  have halive := hpoised.link.alive hpoised.sender
  have hbase := hpoised.base hW
  have hle := hpoised.link.inv.le_next
  have hnext := hpoised.link.inv.next_le
  have htaken := hpoised.link.inv.taken
  rw [hpoised.link.sender.accepted, hpoised.link.delivered] at hdone
  have hall : l.next = l.base := by omega
  have hlen := halive.mirrors.length
  rw [halive.distance, hall, Nat.sub_self, List.length_eq_zero_iff] at hlen
  have hwaiting := halive.waiting
  rw [List.drop_of_length_le (by omega), List.map_eq_nil_iff] at hwaiting
  have hnnr := halive.mirrors.nil_iff.mp hlen
  refine ⟨?_, hlen, hwaiting, hnnr, hpoised.level.symm.trans hnnr, hpoised.sender.sending,
    hpoised.receiver.isOpen⟩
  rw [hpoised.link.delivered, hpoised.link.sender.accepted, htaken, List.take_of_length_le hdone]

/-- What has not been delivered comes across in rounds. -/
theorem RoundReady.drains (h : RoundReady f a W c) (hW : W ≤ 255) (hpos : 1 ≤ W) :
    ∃ es, (∀ e ∈ es, e.Repairs) ∧ Drained (run cop1Step c es) := by
  let left : Cop1 → ℕ := fun c => c.fop.world.accepted.length - c.delivered.length
  have hround : ∀ c, RoundReady f a W c → left c ≠ 0 → ∃ es, (∀ e ∈ es, e.Repairs) ∧
      RoundReady f a W (run cop1Step c es) ∧ left (run cop1Step c es) < left c := by
    intro c hready hleft
    obtain ⟨l, hpoised⟩ := hready.poised
    have hless : ∀ es, (∀ e ∈ es, e.Repairs) →
        (run cop1Step c es).delivered.length = c.delivered.length + 1 →
        left (run cop1Step c es) < left c := by
      intro es hes hmore
      obtain ⟨-, -, hacc⟩ := hpoised.link.repaired hW hes
      show (run cop1Step c es).fop.world.accepted.length - (run cop1Step c es).delivered.length <
        c.fop.world.accepted.length - c.delivered.length
      have hpositive : c.fop.world.accepted.length - c.delivered.length ≠ 0 := hleft
      rw [hacc, hmore]
      omega
    by_cases hq : c.fop.world.sentQueue = []
    · -- nothing is outstanding, so that something waits
      have hwait : c.fop.world.waitQueue ≠ [] := by
        intro hnil
        have halive := hpoised.link.alive hpoised.sender
        have hlen := halive.mirrors.length
        have hwaiting := halive.waiting
        have hbase := hpoised.base hW
        rw [hq, halive.distance, List.length_nil] at hlen
        rw [hnil, List.map_nil] at hwaiting
        have hdrained := congrArg List.length hwaiting
        rw [List.length_nil, List.length_drop] at hdrained
        apply hleft
        show c.fop.world.accepted.length - c.delivered.length = 0
        rw [hpoised.link.sender.accepted, hpoised.link.delivered]
        omega
      obtain ⟨hdrawn, hq', hsame⟩ := hready.draw hW hpos hq hwait
      obtain ⟨es, hes, hready', hmore⟩ := hdrawn.round hW hq'
      have hall : ∀ e ∈ .adAccept [] :: es, Cop1Event.Repairs e := by
        intro e he
        rcases List.mem_cons.mp he with rfl | he
        · trivial
        · exact hes e he
      rw [hsame] at hmore
      exact ⟨.adAccept [] :: es, hall, hready', hless _ hall hmore⟩
    · obtain ⟨es, hes, hready', hmore⟩ := hready.round hW hq
      exact ⟨es, hes, hready', hless es hes hmore⟩
  obtain ⟨es, hes, hready, hdone⟩ := exists_run_of_rounds hround h
  exact ⟨es, hes, hready.drained hW (Nat.le_of_sub_eq_zero hdone)⟩

end Osdlp.Analysis
