import Osdlp.Interface.Cop1
import Osdlp.Interface.FopEffects
import Osdlp.Interface.FopOutcomes
import Osdlp.Interface.TcCodec

/-!
# A session of the link

A session begins with a directive that waits for the receiver: `osdlp_initiate_with_clcw`,
`osdlp_initiate_with_unlock` or `osdlp_initiate_with_setvr`.  The last two send a control command,
copies of which may still be on their way when the service starts, ahead of its frames.  What the
sender does then, it does behind them: `FopMove.behind` follows a move with what is ahead on the
transmission queue left out.
-/

set_option autoImplicit false

namespace Osdlp.Interface

open Osdlp.Model Osdlp.Library

/-! ## The transmission queue with what is ahead left out -/

/-- The sender with another transmission queue. -/
def withTxQueue (q : List (List UInt8)) (s : Fop) : Fop :=
  onWorld s fun w => { w with txQueue := q }

/-- What a mask keeps of a concatenation. -/
theorem survivors_append {α : Type} (keep : List Bool) (xs ys : List α) :
    ∃ keep', survivors keep (xs ++ ys) = survivors keep xs ++ survivors keep' ys := by
  induction xs generalizing keep with
  | nil =>
    refine ⟨keep, ?_⟩
    cases keep with
    | nil => rfl
    | cons b keep => cases b <;> rfl
  | cons x xs ih =>
    cases keep with
    | nil =>
      refine ⟨[], ?_⟩
      cases ys <;> rfl
    | cons b keep =>
      obtain ⟨keep', heq⟩ := ih keep
      refine ⟨keep', ?_⟩
      cases b with
      | true => exact congrArg (x :: ·) heq
      | false => exact heq

variable {keep : List Bool} {nr : Option UInt8} {req : Bool} {s s' : Fop}

/-- Every move of the sender is a move with what is ahead on the transmission queue left out; some
of that may be lost in the move. -/
theorem FopMove.behind (h : FopMove keep nr req s s') {ahead q : List (List UInt8)}
    (htx : s.world.txQueue = ahead ++ q) :
    ∃ keep' ahead' q', s'.world.txQueue = ahead' ++ q' ∧ ahead'.Sublist ahead ∧
      FopMove keep' nr req (withTxQueue q s) (withTxQueue q' s') := by
  cases h with
  | fop fop' hsame => exact ⟨keep, ahead, q, htx, .refl _, .fop _ fop' hsame⟩
  | timer running => exact ⟨keep, ahead, q, htx, .refl _, .timer _ running⟩
  | clcw clcw => exact ⟨keep, ahead, q, htx, .refl _, .clcw _ clcw⟩
  | adState state hs hstate => exact ⟨keep, ahead, q, htx, .refl _, .adState _ state hs hstate⟩
  | ack n hs hn hrange =>
    have hacked : withTxQueue q (acked n (s.tf.copCfg.slideWnd.toNat + 1) s) =
        acked n (s.tf.copCfg.slideWnd.toNat + 1) (withTxQueue q s) := by
      unfold acked
      exact apply_ite (withTxQueue q) _ _ _
    refine ⟨keep, ahead, q, ?_, .refl _, ?_⟩
    · obtain ⟨-, items, hworld⟩ := acked_frame n (s.tf.copCfg.slideWnd.toNat + 1) s
      rw [hworld]
      exact htx
    · rw [hacked]
      exact .ack (withTxQueue q s) n hs hn hrange
  | retransmit hs =>
    -- the retransmission drops some of what is ahead and some of what is behind
    obtain ⟨keep', hkeep⟩ := survivors_append keep ahead q
    refine ⟨keep', survivors keep ahead, survivors keep' q, ?_, survivors_sublist keep ahead, ?_⟩
    · show survivors keep s.world.txQueue = _
      rw [htx, hkeep]
    · exact .retransmit (withTxQueue q s) hs
  | resend hs =>
    have hresent : ∃ more, (resent s).world.txQueue = s.world.txQueue ++ more ∧
        withTxQueue (q ++ more) (resent s) = resent (withTxQueue q s) := by
      unfold resent
      simp only [withTxQueue, onWorld_world]
      cases s.world.sentQueue.find? isAdRt with
      | none => exact ⟨[], by simp, by simp⟩
      | some item => exact ⟨[item.fdu], rfl, rfl⟩
    obtain ⟨more, hmore, hcarried⟩ := hresent
    refine ⟨keep, ahead, q ++ more, ?_, .refl _, ?_⟩
    · rw [hmore, htx, List.append_assoc]
    · rw [hcarried]
      exact .resend (withTxQueue q s) hs
  | send hs hwait hroom =>
    refine ⟨keep, ahead, q ++ [(packedWaiting s).1], ?_, .refl _, ?_⟩
    · show s.world.txQueue ++ _ = _
      rw [htx, List.append_assoc]
    · exact .send (withTxQueue q s) hs hwait hroom
  | enqueue hreq hs hwait =>
    exact ⟨keep, ahead, q, htx, .refl _, .enqueue (withTxQueue q s) hreq hs hwait⟩
  | alert notif hs => exact ⟨keep, ahead, q, htx, .refl _, .alert (withTxQueue q s) notif hs⟩
  | suspend ss hs => exact ⟨keep, ahead, q, htx, .refl _, .suspend (withTxQueue q s) ss hs⟩
  | initiated hs hvs => exact ⟨keep, ahead, q, htx, .refl _, .initiated (withTxQueue q s) hs hvs⟩
  | released hs hvs => exact ⟨keep, ahead, q, htx, .refl _, .released (withTxQueue q s) hs hvs⟩
  | command hs items tx hq =>
    exact ⟨keep, [], tx, rfl, List.nil_sublist _, .command (withTxQueue q s) hs items tx hq⟩

/-! ## The events of a session -/

/-- The directives that open a session. -/
def FopOp.opens : FopOp → Bool
  | .initiateWithClcw | .initiateWithUnlock | .initiateWithSetvr _ => true
  | _ => false

/-- The operations, besides those of the link, that may come within a session: responses to control
commands and type-B data, the end of the service, and the parameters of the timer. -/
def FopOp.accompanies : FopOp → Bool
  | .bcAccept | .bdAccept | .terminateAd | .setTimer _ | .setTxLimit _ | .setTt _ => true
  | _ => false

/-- What happens within a session. -/
inductive SessionEvent
  | link (e : Cop1Event)
  | sender (keep : List Bool) (op : FopOp)

def sessionStep (c : Cop1) : SessionEvent → Cop1
  | .link e => cop1Step c e
  | .sender keep op => { c with fop := fopStep c.fop (keep, op) }

/-- No directive opens another session. -/
def SessionEvent.WellFormed (overheadLen : ℕ) : SessionEvent → Prop
  | .link e => e.WellFormed overheadLen
  | .sender _ op => op.accompanies = true

instance (overheadLen : ℕ) (e : SessionEvent) : Decidable (e.WellFormed overheadLen) :=
  match e with
  | .link e => inferInstanceAs (Decidable (e.WellFormed overheadLen))
  | .sender _ op => inferInstanceAs (Decidable (op.accompanies = true))

/-- The service is at rest, nothing is in flight, and history begins. -/
structure Unstarted (c : Cop1) : Prop where
  state : c.fop.tf.copCfg.state = .init
  uplink : c.uplink = []
  downlink : c.downlink = []
  accepted : c.fop.world.accepted = []
  delivered : c.delivered = []

/-- The control commands fill their buffers, and UNLOCK does not begin like Set V(R). -/
structure CommandsSet (m : TcMissionParams) : Prop where
  setVr : m.setVrCmd.length = 3
  unlock : m.unlockCmd ≠ setvrByte1

/-! ## What accompanies a session only makes moves -/

/-- The directive ends a service that runs, and else it says so. -/
theorem osdlpTerminateAd_ends (keep : List Bool) (s : Fop) :
    (s.tf.copCfg.state ≠ .init ∧ (osdlpTerminateAd (fifoHooks keep) s).2 = alerted .positiveDir s) ∨
      (s.tf.copCfg.state = .init ∧
        (osdlpTerminateAd (fifoHooks keep) s).2 = signalled .positiveDir s) := by
  unfold osdlpTerminateAd
  rw [bind_apply, getFop_apply]
  cases s.tf.copCfg.state with
  | active | rtNoWait | rtWait | initNoBc | initBc => exact .inl ⟨by decide, rfl⟩
  | init => exact .inr ⟨rfl, rfl⟩

/-- An operation that may accompany a session only makes moves. -/
theorem fopStep_accompanies {op : FopOp} (hop : op.accompanies = true) :
    Reaches keep nr req s (fopStep s (keep, op)) := by
  have hfop : ∀ fop', SameCounters s.tf.copCfg fop' → Reaches keep nr req s (s.setFop fop') :=
    fun fop' hsame => .single (.fop s fop' hsame)
  cases op with
  | bcAccept => exact osdlpBcAccept_reaches 2
  | bdAccept => exact hfop _ ⟨rfl, rfl, rfl, rfl, rfl⟩
  | terminateAd =>
    show Reaches keep nr req s (osdlpTerminateAd (fifoHooks keep) s).2
    rcases osdlpTerminateAd_ends keep s with ⟨hs, heq⟩ | ⟨-, heq⟩
    · rw [heq]
      exact .single (.alert s _ hs)
    · rw [heq]
      exact hfop _ ⟨rfl, rfl, rfl, rfl, rfl⟩
  | setTimer | setTxLimit | setTt => exact hfop _ ⟨rfl, rfl, rfl, rfl, rfl⟩
  | _ => exact absurd hop (by simp [FopOp.accompanies])

/-! ## The command of a session -/

/-- A command is packed as it has been set up, and sent.
SOURCE: osdlp_cop.c:516-542 -/
theorem startCommand_packs (keep : List Bool) (s : Fop) :
    ∃ crc item, item.type = .typeB ∧
      item.fdu = (osdlpTcPack s.tf s.tf.frameData.data s.tf.frameData.dataLen).1 ∧
      ∃ hdr, (startCommand (fifoHooks keep) s).2 =
        { tf :=
            { s.tf with
              primaryHdr := hdr
              copCfg := { s.tf.copCfg with txCnt := 1, state := .initBc, signal := .acceptDir }
              crc := crc }
          world :=
            { s.world with
              sentQueue := s.world.sentQueue ++ [item]
              txQueue := s.world.txQueue ++ [item.fdu]
              timerRunning := true } } := by
  obtain ⟨crc, hpack⟩ := osdlpTcPack_snd s.tf s.tf.frameData.data s.tf.frameData.dataLen
  unfold startCommand osdlpTransmitTypeBc packFrame
  simp only [bind_apply, get_apply, set_apply, pure_apply]
  rw [hpack]
  refine ⟨crc, _, ?_, ?_, _, rfl⟩
  · rfl
  · rfl

end Osdlp.Interface
