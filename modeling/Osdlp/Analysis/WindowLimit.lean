import Osdlp.Analysis.SentMirror

/-!
# The window of the sender

`osdlp_look_for_fdu` compares V(S) with the end of the window in one of two ways, depending on
whether that end lies beyond 255.  Both are right unless V(S) has gone round and the end of the
window has not (`windowKept_iff`).  Only `osdlp_set_sliding_window` can bring that about
(`windowKept_run_iff`).
-/

set_option autoImplicit false

namespace Osdlp.Analysis

open Osdlp.Model Osdlp.Interface Osdlp.Library

/-- If V(S) has gone round since NN(R), so has the end of the window. -/
def GoesRound (fop : FopConfig) : Prop :=
  fop.vs.toNat < fop.nnr.toNat → 256 ≤ fop.nnr.toNat + fop.slideWnd.toNat

theorem fopRoom_dist_iff (fop : FopConfig) :
    (fopRoom fop = true ↔ seqDist fop.nnr fop.vs < fop.slideWnd.toNat) ↔ GoesRound fop :=
  fopRoom_dist fop

/-! ## The search for a frame -/

/-- The first waiting frame has been taken and put on the wire under V(S). -/
structure TakesFrame (s s' : Fop) : Prop where
  waiting : s.world.waitQueue ≠ []
  waitQueue : s'.world.waitQueue = s.world.waitQueue.tail
  vs : s'.tf.copCfg.vs = s.tf.copCfg.vs + 1
  sent : ∃ item : QueueItem, item.seqNum = s.tf.copCfg.vs ∧
    s'.world.sentQueue.getLast? = some item ∧ s'.world.txQueue.getLast? = some item.fdu

/-- Whatever waits, `osdlp_look_for_fdu` takes a frame exactly if there is one and fewer than
`slide_wnd` are outstanding; otherwise it leaves the wait queue alone. -/
def WindowKept (s : Fop) : Prop :=
  ∀ (keep : List Bool) (waiting : List FopFrame),
    let t := onWorld s fun w => { w with waitQueue := waiting }
    let t' := (osdlpLookForFdu (fifoHooks keep) t).2
    (TakesFrame t t' ↔
      waiting ≠ [] ∧ seqDist s.tf.copCfg.nnr s.tf.copCfg.vs < s.tf.copCfg.slideWnd.toNat) ∧
    (TakesFrame t t' ∨ t'.world.waitQueue = waiting)

/-- The search takes a frame exactly if one waits and the test of the source finds room. -/
theorem osdlpLookForFdu_takesFrame (keep : List Bool) (s : Fop) :
    let s' := (osdlpLookForFdu (fifoHooks keep) s).2
    (TakesFrame s s' ↔ s.world.waitQueue ≠ [] ∧ fopRoom s.tf.copCfg = true) ∧
      (TakesFrame s s' ∨ s'.world.waitQueue = s.world.waitQueue) := by
  intro s'
  have hlook : s' = (osdlpLookForFdu (fifoHooks keep) s).2 := rfl
  rw [osdlpLookForFdu_apply] at hlook
  split_ifs at hlook with hempty hroom
  · have hnone : s.world.waitQueue = [] := List.isEmpty_iff.mp hempty
    rw [hlook]
    refine ⟨⟨fun h => absurd hnone h.waiting, fun h => absurd hnone h.1⟩, .inr ?_⟩
    exact resent_waitQueue s
  · have hwaiting : s.world.waitQueue ≠ [] := by
      intro hnone
      rw [hnone] at hempty
      exact hempty rfl
    have htakes : TakesFrame s s' := by
      rw [hlook]
      refine ⟨hwaiting, congrArg List.tail (resent_waitQueue s), ?_,
        newItem (resent s), ?_, ?_, ?_⟩
      · show UInt8.ofNat (((resent s).tf.copCfg.vs.toNat + 1) % 256) = _
        rw [toNat_succ_mod, resent_tf]
      · exact congrArg (fun tf : FopFrame => tf.copCfg.vs) (resent_tf s)
      · exact List.getLast?_concat
      · exact List.getLast?_concat
    exact ⟨⟨fun _ => ⟨hwaiting, hroom⟩, fun _ => htakes⟩, .inl htakes⟩
  · have hkept : s'.world.waitQueue = s.world.waitQueue := by
      rw [hlook]
      exact resent_waitQueue s
    refine ⟨⟨fun h => ?_, fun h => absurd h.2 hroom⟩, .inr hkept⟩
    have hvs := h.vs
    rw [hlook] at hvs
    have hsame : (resent s).tf.copCfg.vs = s.tf.copCfg.vs + 1 := hvs
    rw [resent_tf] at hsame
    exact absurd hsame.symm (succ_ne _)

/-- The window is kept in exactly the states in which its end goes round with V(S). -/
theorem windowKept_iff (s : Fop) : WindowKept s ↔ GoesRound s.tf.copCfg := by
  rw [← fopRoom_dist_iff]
  constructor
  · intro h
    have hone := (h [] [s.tf]).1
    rw [(osdlpLookForFdu_takesFrame [] _).1] at hone
    simpa using hone
  · intro h keep waiting
    have hlook := osdlpLookForFdu_takesFrame keep
      (onWorld s fun w => { w with waitQueue := waiting })
    refine ⟨?_, hlook.2⟩
    rw [hlook.1]
    exact and_congr_right fun _ => h

/-! ## Runs -/

/-- An acknowledgement moves NN(R) on, at most up to V(S). -/
theorem GoesRound.acked {fop : FopConfig} (h : GoesRound fop) {n : UInt8} {cnt : UInt8}
    (hrange : InRange fop n) : GoesRound { fop with nnr := n, txCnt := cnt } := by
  have hnnr := fop.nnr.toNat_lt
  intro (hlt : fop.vs.toNat < n.toNat)
  show 256 ≤ n.toNat + fop.slideWnd.toNat
  unfold InRange at hrange
  rcases Nat.lt_or_ge fop.vs.toNat fop.nnr.toNat with hvs | hvs
  · rw [seqDist_of_lt hvs] at hrange
    have hend := h hvs
    rcases Nat.lt_or_ge n.toNat fop.nnr.toNat with hn | hn
    · rw [seqDist_of_lt hn] at hrange
      omega
    · omega
  · rw [seqDist_of_le hvs, seqDist_of_le (by omega : fop.nnr.toNat ≤ n.toNat)] at hrange
    omega

/-- A frame is only sent while there is room, so V(S) does not pass the end of the window. -/
theorem GoesRound.sent {fop : FopConfig} (h : GoesRound fop) (hroom : fopRoom fop = true)
    {cnt : UInt8} : GoesRound { fop with vs := UInt8.ofNat ((fop.vs.toNat + 1) % 256), txCnt := cnt } := by
  have hdist := ((fopRoom_dist_iff fop).mpr h).mp hroom
  have hv := fop.vs.toNat_lt
  have hn := fop.nnr.toNat_lt
  intro hlt
  have hnext : (UInt8.ofNat ((fop.vs.toNat + 1) % 256)).toNat = (fop.vs.toNat + 1) % 256 := by
    rw [UInt8.toNat_ofNat', Nat.mod_mod]
  have hlt' : (fop.vs.toNat + 1) % 256 < fop.nnr.toNat := hnext ▸ hlt
  show 256 ≤ fop.nnr.toNat + fop.slideWnd.toNat
  rcases Nat.lt_or_ge fop.vs.toNat fop.nnr.toNat with hvs | hvs
  · exact h hvs
  · rw [seqDist_of_le hvs] at hdist
    omega

/-- Every move of the sender keeps the window. -/
theorem GoesRound.move {keep : List Bool} {nr : Option UInt8} {req : Bool} {s s' : Fop}
    (h : GoesRound s.tf.copCfg) (hmove : FopMove keep nr req s s') : GoesRound s'.tf.copCfg := by
  cases hmove with
  | fop fop' hsame =>
    unfold GoesRound
    rw [FopSt.setFop_copCfg, hsame.vs, hsame.nnr, hsame.slideWnd]
    exact h
  | ack n hs hn hrange =>
    unfold Interface.acked
    split_ifs
    · exact h
    · exact h.acked hrange
  | resend hs =>
    rw [resent_tf]
    exact h
  | send hs hwait hroom => exact h.sent hroom
  | _ => exact h

/-- A handler keeps the condition, move by move. -/
theorem GoesRound.reaches {keep : List Bool} {nr : Option UInt8} {req : Bool} {s s' : Fop}
    (h : GoesRound s.tf.copCfg) (hmoves : Reaches keep nr req s s') : GoesRound s'.tf.copCfg := by
  induction hmoves with
  | refl => exact h
  | tail _ hmove ih => exact ih.move hmove

/-- The other operations leave the window alone or set V(S) and NN(R) equal. -/
theorem GoesRound.effect {op : FopOp} {s s' : Fop} (h : GoesRound s.tf.copCfg)
    (heffect : FopEffect s op s') : GoesRound s'.tf.copCfg := by
  cases heffect with
  | fop op fop' hsame =>
    unfold GoesRound
    rw [FopSt.setFop_copCfg, hsame.vs, hsame.nnr, hsame.slideWnd]
    exact h
  | frame hdr frameData tf txQueue notif hcop =>
    unfold GoesRound
    rw [hcop]
    exact h
  | command op hs vs nnr hvs tf item txQueue htype hcop =>
    unfold GoesRound
    rw [hcop]
    rcases hvs with ⟨rfl, rfl⟩ | rfl
    · exact h
    · exact fun hlt => absurd hlt (Nat.lt_irrefl _)
  | newVs newVs hs hss => exact fun hlt => absurd hlt (Nat.lt_irrefl _)
  | _ => exact h

/-- The control words of a run report values between NN(R) and V(S). -/
def reportsWithin (s : Fop) : SenderEvent → Prop
  | .op keep op => reportsInRange s (keep, op)
  | _ => True

/-- If V(S) has gone round, the end of a new window does so too. -/
def widthGoesRound (s : Fop) : SenderEvent → Prop
  | .setSlidingWindow newWnd =>
    s.tf.copCfg.vs.toNat < s.tf.copCfg.nnr.toNat → 256 ≤ s.tf.copCfg.nnr.toNat + newWnd.toNat
  | _ => True

/-- One event, the directive that sets the width included. -/
theorem goesRound_step {s : Fop} {e : SenderEvent} (h : GoesRound s.tf.copCfg)
    (hrange : reportsWithin s e) : GoesRound (senderStep s e).tf.copCfg ↔ widthGoesRound s e := by
  cases e with
  | op keep op =>
    refine ⟨fun _ => trivial, fun _ => ?_⟩
    cases hop : op.makesMoves with
    | true =>
      obtain ⟨nr, req, hmoves⟩ := fopStep_reaches hop hrange
      refine GoesRound.reaches ?_ hmoves
      rw [workingOn_copCfg]
      exact h
    | false => exact h.effect (fopStep_effect hop)
  | prepare hdr frameData => exact ⟨fun _ => trivial, fun _ => h⟩
  | setSlidingWindow newWnd => exact Iff.rfl

/-- **The window is kept in a run exactly if no new width ends before 256 while V(S) has gone
round.**  From V(S) = NN(R), on control words in range, it is then kept in every state reached and
in every state that an operation passes through.
SOURCE: osdlp_cop.c:387-450, 615-642, 2594-2634 -/
theorem windowKept_run_iff {start : Fop} (hstart : start.tf.copCfg.nnr = start.tf.copCfg.vs)
    {events : List SenderEvent} (hrange : Guarded senderStep reportsWithin start events) :
    (∀ n op keep nr req t,
      Reaches keep nr req (workingOn (run senderStep start (events.take n)) op) t → WindowKept t) ↔
    Guarded senderStep widthGoesRound start events := by
  have hfirst : GoesRound start.tf.copCfg := by
    intro hlt
    rw [hstart] at hlt
    exact absurd hlt (Nat.lt_irrefl _)
  have hruns := forall_take_iff_guarded (P := fun s => GoesRound s.tf.copCfg) (J := fun _ => True)
    (fun _ _ _ _ _ => trivial) (fun s e h _ hallowed => goesRound_step h hallowed) hfirst trivial
    hrange
  rw [← hruns]
  constructor
  · intro hall n
    exact (windowKept_iff _).mp (hall n .adAccept [] none false _ .refl)
  · intro hall n op keep nr req t hmoves
    rw [windowKept_iff]
    refine GoesRound.reaches ?_ hmoves
    rw [workingOn_copCfg]
    exact hall n

/-- A request for one octet, as an event. -/
def oneOctet : SenderEvent := .op octetRequest.1 octetRequest.2

/-- The service is started at 254 by a Set V(R), and two requests take V(S) round to 0. -/
def pastZero : List SenderEvent :=
  [.op [] (.initiateWithSetvr 254),
    .op [] (.clcw (osdlpClcwPack { (default : ClcwFrame) with reportValue := 254 })),
    oneOctet, oneOctet]

/-- Two frames are outstanding, and the window is narrowed to five frames. -/
theorem windowKept_run_iff_narrowed :
    let events := pastZero ++ [.setSlidingWindow 5]
    (∀ n op keep nr req t,
      Reaches keep nr req (workingOn (run senderStep freshFop (events.take n)) op) t →
        WindowKept t) ↔
      Guarded senderStep widthGoesRound freshFop events := by
  refine windowKept_run_iff rfl ?_
  exact ⟨trivial, Nat.le_refl _, trivial, trivial, trivial, trivial⟩

/-- Two frames are outstanding, and the window is narrowed to one frame: it would end before 256,
and a third frame goes out. -/
theorem not_windowKept_narrowed :
    let events := pastZero ++ [.setSlidingWindow 1]
    let s := run senderStep freshFop events
    let s' := senderStep s oneOctet
    Guarded senderStep reportsWithin freshFop events ∧ s.tf.copCfg.state = .active ∧
      seqDist s.tf.copCfg.nnr s.tf.copCfg.vs = 2 ∧ s.tf.copCfg.slideWnd = 1 ∧
      s.world.waitQueue = [] ∧ s'.world.waitQueue = [] ∧ s'.tf.copCfg.vs = s.tf.copCfg.vs + 1 ∧
      s'.world.sentQueue.length = 3 ∧ ¬ WindowKept s := by
  intro events s s'
  have hnnr : s.tf.copCfg.nnr = 254 := by rfl
  have hvs : s.tf.copCfg.vs = 0 := by rfl
  have hwnd : s.tf.copCfg.slideWnd = 1 := by rfl
  refine ⟨⟨trivial, Nat.le_refl _, trivial, trivial, trivial, trivial⟩, rfl, ?_, hwnd, rfl, rfl, rfl,
    rfl, fun h => ?_⟩
  · rw [hnnr, hvs]
    rfl
  · rw [windowKept_iff] at h
    unfold GoesRound at h
    rw [hnnr, hvs, hwnd] at h
    exact absurd h (by decide)

end Osdlp.Analysis
