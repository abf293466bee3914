import Osdlp.Interface.Cop1
import Osdlp.Interface.TcCodec
import Osdlp.Interface.FarmStep
import Osdlp.Library.GoBackN

/-!
# In-order delivery

COP-1 is go-back-N.  `Linked` reads a sender as the sending half of the abstract link of
`Osdlp.Library.GoBackN`: V(S) and NN(R) are the numbers of the next index and of the first
one not yet acknowledged, the sent queue holds copies of the frames between them, and the
wait queue holds what has been accepted beyond.  Once an alert has ended the service the
sender sends nothing more, and only what is in flight still has to be accounted for.

Every move of the sender is matched by moves of the link (`Linked.move`), and so is every
event of the composed system (`cop1_simulates`); `delivered_prefix_accepted` is the
resulting guarantee over whole runs.
-/

set_option autoImplicit false

namespace Osdlp.Analysis

open Osdlp.Model Osdlp.Interface Osdlp.Library Osdlp.Library.GoBackN
open Relation (ReflTransGen)

/-! ## Frames in flight -/

/-- What an end has to know to unpack a frame. -/
structure Framing where
  segHdrFlag : Bool
  overheadLen : ℕ

/-- The framing of an end of the link. -/
def framing {Cop : Type} (tf : TcTransferFrame Cop) : Framing :=
  { segHdrFlag := tf.mission.segHdrFlag, overheadLen := tf.mission.fixedOverheadLen }

/-- A receiver of that framing takes the octets for a type-A frame with that number and
payload. -/
def FrameOf (f : Framing) (frame : List UInt8) (number : UInt8) (payload : List UInt8) : Prop :=
  ∀ rx : FarmFrame, framing rx = f →
    (osdlpTcUnpack rx frame).primaryHdr.bypass = .typeA ∧
      (osdlpTcUnpack rx frame).primaryHdr.frameSeqNum = number ∧
      (osdlpTcUnpack rx frame).frameData.payload = payload

/-- The octets are those of the accepted payload with index `i`. -/
def Carries (f : Framing) (num : ℕ → UInt8) (accepted : List (List UInt8)) (frame : List UInt8)
    (i : ℕ) : Prop :=
  ∃ payload, accepted[i]? = some payload ∧ FrameOf f frame (num i) payload

/-- Accepting more changes nothing about the frames in flight. -/
theorem Carries.append {f : Framing} {num : ℕ → UInt8} {accepted : List (List UInt8)}
    {frame : List UInt8} {i : ℕ} (h : Carries f num accepted frame i) (more : List (List UInt8)) :
    Carries f num (accepted ++ more) frame i := by
  obtain ⟨payload, hi, hframe⟩ := h
  have hlt := (List.getElem?_eq_some_iff.mp hi).1
  exact ⟨payload, (List.getElem?_append_left hlt).trans hi, hframe⟩

/-- The octets that a sender packs with a type-A header are taken for what they are. -/
theorem frameOf_pack {f : Framing} {tf : FopFrame} {d : TcFdf}
    (hover : tf.mission.fixedOverheadLen = tf.mission.overhead) (hf : framing tf = f)
    (hbypass : tf.primaryHdr.bypass = .typeA) (hfits : Fits f.overheadLen d) :
    FrameOf f (osdlpTcPack tf d.data d.dataLen).1 tf.copCfg.vs d.payload := by
  intro rx hrx
  have hsame : framing rx = framing tf := hrx.trans hf.symm
  have hseg : rx.mission.segHdrFlag = tf.mission.segHdrFlag := congrArg Framing.segHdrFlag hsame
  have hfix : rx.mission.fixedOverheadLen = tf.mission.fixedOverheadLen :=
    congrArg Framing.overheadLen hsame
  have hlen : d.payload.length = d.dataLen := List.length_take_of_le hfits.1
  have hroom : tf.mission.fixedOverheadLen + d.payload.length ≤ 1024 := by
    have h := hfits.2
    rw [← hf] at h
    rw [hlen]
    exact h
  rw [osdlpTcPack_payload tf hfits.1]
  obtain ⟨hhdr, -, -, hpayload⟩ := osdlpTcUnpack_pack hover hroom hseg hfix []
  rw [List.append_nil] at hhdr hpayload
  rw [hhdr]
  refine ⟨hbypass, ?_, hpayload⟩
  unfold packedSeqNum
  rw [hbypass]

/-! ## The sender as the sending half of the link -/

/-- The service runs, or will once it is resumed. -/
structure Alive (f : Framing) (num : ℕ → UInt8) (s : Fop) (l : Link (List UInt8)) : Prop where
  state : (isAd s.tf.copCfg.state ∧ s.tf.copCfg.ss = 0) ∨
    (s.tf.copCfg.state = .init ∧ SuspendedAd s)
  mirrors : Mirrors s
  nnr : s.tf.copCfg.nnr = num l.base
  vs : s.tf.copCfg.vs = num l.next
  copies : List.Forall₂ (Carries f num l.accepted) (s.world.sentQueue.map QueueItem.fdu)
    (List.range' l.base (l.next - l.base))
  waiting : s.world.waitQueue.map (fun tf => tf.frameData.payload) = l.accepted.drop l.next
  fits : ∀ tf ∈ s.world.waitQueue, Fits f.overheadLen tf.frameData
  header : s.world.waitQueue ≠ [] → s.tf.primaryHdr.bypass = .typeA

/-- The service has ended, and nothing brings it back. -/
structure Ended (s : Fop) : Prop where
  state : s.tf.copCfg.state = .init
  ss : s.tf.copCfg.ss = 0

/-- The sender is the sending half of the link.  `req` says that the frame at hand is one
that has been requested. -/
structure Linked (f : Framing) (num : ℕ → UInt8) (W : ℕ) (req : Bool) (s : Fop)
    (l : Link (List UInt8)) : Prop where
  framing : framing s.tf = f
  overhead : s.tf.mission.fixedOverheadLen = s.tf.mission.overhead
  requested : req = true → s.tf.primaryHdr.bypass = .typeA ∧ Fits f.overheadLen s.tf.frameData
  window : s.tf.copCfg.slideWnd.toNat = W
  accepted : s.world.accepted = l.accepted
  uplink : List.Forall₂ (Carries f num l.accepted) s.world.txQueue l.uplink
  service : Alive f num s l ∨ Ended s

variable {f : Framing} {num : ℕ → UInt8} {W : ℕ} {keep : List Bool} {nr : Option UInt8} {req : Bool}
  {s s' : Fop} {l l' : Link (List UInt8)}

/-- A running service only looks at the counters, the queues and the header at hand. -/
theorem Alive.congr (h : Alive f num s l)
    (hstate : (isAd s'.tf.copCfg.state ∧ s'.tf.copCfg.ss = 0) ∨
      (s'.tf.copCfg.state = .init ∧ SuspendedAd s'))
    (hnnr : s'.tf.copCfg.nnr = s.tf.copCfg.nnr) (hvs : s'.tf.copCfg.vs = s.tf.copCfg.vs)
    (hsent : s'.world.sentQueue.map itemCopy = s.world.sentQueue.map itemCopy)
    (hwait : s'.world.waitQueue = s.world.waitQueue)
    (hhdr : s'.tf.primaryHdr = s.tf.primaryHdr) : Alive f num s' l where
  state := hstate
  mirrors := (mirrors_congr hvs hnnr (map_itemKey_of_itemCopy hsent)).mpr h.mirrors
  nnr := hnnr.trans h.nnr
  vs := hvs.trans h.vs
  copies := by
    have hfdu : QueueItem.fdu = (fun c : List UInt8 × UInt8 × TcBypass => c.1) ∘ itemCopy := rfl
    have heq : s'.world.sentQueue.map QueueItem.fdu = s.world.sentQueue.map QueueItem.fdu := by
      rw [hfdu, ← List.map_map, hsent, List.map_map]
    rw [heq]
    exact h.copies
  waiting := by rw [hwait]; exact h.waiting
  fits := by rw [hwait]; exact h.fits
  header := by rw [hwait, hhdr]; exact h.header

/-- Neither does it look at what is in flight. -/
theorem Alive.congr_link (h : Alive f num s l) (hacc : l'.accepted = l.accepted)
    (hbase : l'.base = l.base) (hnext : l'.next = l.next) : Alive f num s l' where
  state := h.state
  mirrors := h.mirrors
  nnr := by rw [hbase]; exact h.nnr
  vs := by rw [hnext]; exact h.vs
  copies := by rw [hacc, hbase, hnext]; exact h.copies
  waiting := by rw [hacc, hnext]; exact h.waiting
  fits := h.fits
  header := h.header

/-- The counters of a running service are as far apart as the indices they number. -/
theorem Alive.distance (h : Alive f num s l) : seqDist s.tf.copCfg.nnr s.tf.copCfg.vs =
    l.next - l.base := by
  have hlen := h.copies.length_eq
  rw [List.length_map, List.length_range'] at hlen
  rw [← hlen, h.mirrors.length]

/-- A service that is neither suspended nor ended runs. -/
theorem Linked.alive (h : Linked f num W req s l) (hs : s.tf.copCfg.state ≠ .init) :
    Alive f num s l ∧ isAd s.tf.copCfg.state ∧ s.tf.copCfg.ss = 0 := by
  rcases h.service with halive | hended
  · refine ⟨halive, halive.state.resolve_right fun hsus => hs hsus.1⟩
  · exact absurd hended.state hs

/-- A move changes nothing of the frame at hand, so that only the queues and the service
have to be looked at. -/
theorem Linked.moved (h : Linked f num W req s l) (hmove : FopMove keep nr req s s')
    (hwnd : s'.tf.copCfg.slideWnd = s.tf.copCfg.slideWnd)
    (hacc : s'.world.accepted = l'.accepted)
    (htx : List.Forall₂ (Carries f num l'.accepted) s'.world.txQueue l'.uplink)
    (hservice : Alive f num s' l' ∨ Ended s') : Linked f num W req s' l' := by
  obtain ⟨hhdr, hdata, hmission⟩ := hmove.frame
  refine ⟨?_, ?_, ?_, ?_, hacc, htx, hservice⟩
  · rw [← h.framing]
    unfold Analysis.framing
    rw [hmission]
  · rw [hmission]
    exact h.overhead
  · rw [hhdr, hdata]
    exact h.requested
  · rw [hwnd]
    exact h.window

/-- The number of an index, counted from where the service started. -/
def numbered (a : UInt8) (i : ℕ) : UInt8 := a + UInt8.ofNat i

theorem numbered_succ (a : UInt8) (i : ℕ) : numbered a (i + 1) = numbered a i + 1 := by
  unfold numbered
  rw [ofNat_succ, ← UInt8.add_assoc]

/-- Within a window the numbers of indices are distinct. -/
theorem numbered_inj {a : UInt8} (hW : W ≤ 255) (i j : ℕ) (hij : i ≤ j) (hj : j ≤ i + W)
    (heq : numbered a i = numbered a j) : i = j :=
  eq_of_ofNat_eq a hij (by omega) heq

section Moves

variable {a : UInt8}

/-- An acknowledgement moves the base of the link to the index reported. -/
theorem Linked.ack (h : Linked f (numbered a) W req s l) (hinv : Inv W l)
    (hW : W ≤ 255) {n : UInt8} (hs : isAd s.tf.copCfg.state)
    (hrange : InRange s.tf.copCfg n) {r : ℕ} {rest : List ℕ} (hd : l.downlink = r :: rest)
    (hr : numbered a r = n)
    (hmove : FopMove keep nr req s (acked n (s.tf.copCfg.slideWnd.toNat + 1) s)) :
    Linked f (numbered a) W req (acked n (s.tf.copCfg.slideWnd.toNat + 1) s)
      { l with base := r } := by
  obtain ⟨halive, -, hss⟩ := h.alive (not_isAd_init hs)
  obtain ⟨⟨nnr', cnt', hcop⟩, items, hworld⟩ := acked_frame n (s.tf.copCfg.slideWnd.toNat + 1) s
  have hreport := hinv.reports r (by simp [hd])
  have hle := hinv.le_next
  have hwin := hinv.window
  have hwnd : s.world.sentQueue.length ≤ s.tf.copCfg.slideWnd.toNat := by
    rw [halive.mirrors.length, halive.distance, h.window]
    omega
  obtain ⟨hsent, hnnr, hmirrors⟩ := halive.mirrors.acked hrange hwnd
  have hdist : seqDist s.tf.copCfg.nnr n = r - l.base := by
    rw [halive.nnr, ← hr]
    exact seqDist_ofNat a hreport.1 (by omega)
  refine h.moved hmove (acked_slideWnd _ _ _) ?_ ?_ (.inl ⟨?_, hmirrors, hnnr.trans hr.symm, ?_, ?_,
    ?_, ?_, ?_⟩)
  · rw [hworld]
    exact h.accepted
  · rw [hworld]
    exact h.uplink
  · rw [hcop]
    exact .inl ⟨hs, hss⟩
  · rw [hcop]
    exact halive.vs
  · show List.Forall₂ _ _ (List.range' r (l.next - r))
    have hdrop := List.forall₂_drop (r - l.base) halive.copies
    rw [List.drop_range', Nat.mul_one] at hdrop
    rw [hsent, hdist, List.map_drop]
    have hidx : l.base + (r - l.base) = r := by omega
    have hlen : l.next - l.base - (r - l.base) = l.next - r := by omega
    rwa [hidx, hlen] at hdrop
  · rw [hworld]
    exact halive.waiting
  · rw [hworld]
    exact halive.fits
  · rw [hmove.frame.1, hworld]
    exact halive.header

/-- The transmission of the first waiting frame sends the next index. -/
theorem Linked.send (h : Linked f (numbered a) W req s l) (hinv : Inv W l)
    (hW : W ≤ 255) (hs : isAd s.tf.copCfg.state) (hwait : s.world.waitQueue ≠ [])
    (hroom : fopRoom s.tf.copCfg) (hmove : FopMove keep nr req s (transmitted s)) :
    l.next < l.accepted.length ∧ l.next < l.base + W ∧
      Linked f (numbered a) W req (transmitted s)
        { l with next := l.next + 1, uplink := l.uplink ++ [l.next] } := by
  obtain ⟨halive, -, hss⟩ := h.alive (not_isAd_init hs)
  have hbase := Nat.le_trans hinv.base_le hinv.le_next
  have hwin := hinv.window
  have hdist := halive.distance
  have hwnd := h.window
  have hlt : l.next - l.base < W := by
    rw [← hdist, ← hwnd]
    exact (fopRoom_iff (by omega)).mp hroom
  obtain ⟨tf, rest, hq⟩ := List.exists_cons_of_ne_nil hwait
  have hwaiting := halive.waiting
  rw [hq, List.map_cons] at hwaiting
  have hnext : l.accepted[l.next]? = some tf.frameData.payload := by
    rw [← List.head?_drop, ← hwaiting, List.head?_cons]
  have hlen : l.next < l.accepted.length := (List.getElem?_eq_some_iff.mp hnext).1
  have hpacked : packedWaiting s = osdlpTcPack s.tf tf.frameData.data tf.frameData.dataLen := by
    unfold packedWaiting
    rw [hq]
    rfl
  have hframe : Carries f (numbered a) l.accepted (packedWaiting s).1 l.next := by
    refine ⟨_, hnext, ?_⟩
    rw [hpacked, ← halive.vs]
    exact frameOf_pack h.overhead h.framing (halive.header hwait) (halive.fits tf (by simp [hq]))
  refine ⟨hlen, by omega, h.moved hmove rfl h.accepted ?_ (.inl ?_)⟩
  · exact List.rel_append h.uplink (.cons hframe .nil)
  · refine ⟨.inl ⟨hs, hss⟩, halive.mirrors.transmitted (by omega), halive.nnr, ?_, ?_, ?_, ?_, ?_⟩
    · rw [transmitted_vs, halive.vs, numbered_succ]
    · have hidx : l.next + 1 - l.base = l.next - l.base + 1 := by omega
      have hlast : l.base + (l.next - l.base) = l.next := by omega
      show List.Forall₂ _ ((s.world.sentQueue ++ [newItem s]).map QueueItem.fdu)
        (List.range' l.base (l.next + 1 - l.base))
      rw [hidx, List.range'_1_concat, hlast, List.map_append]
      exact List.rel_append halive.copies (.cons hframe .nil)
    · show s.world.waitQueue.tail.map _ = l.accepted.drop (l.next + 1)
      rw [hq, List.tail_cons, ← List.tail_drop, ← hwaiting, List.tail_cons]
    · intro tf' htf'
      exact halive.fits tf' (List.mem_of_mem_tail htf')
    · intro _
      rw [hmove.frame.1]
      exact halive.header hwait

/-- A retransmission repeats an index that is outstanding, if there is one to repeat. -/
theorem Linked.resend (h : Linked f (numbered a) W req s l)
    (hs : isAd s.tf.copCfg.state) (hmove : FopMove keep nr req s (resent s)) :
    Linked f (numbered a) W req (resent s) l ∨
      ∃ i, l.base ≤ i ∧ i < l.next ∧
        Linked f (numbered a) W req (resent s) { l with uplink := l.uplink ++ [i] } := by
  obtain ⟨halive, -, hss⟩ := h.alive (not_isAd_init hs)
  unfold resent at hmove ⊢
  split at hmove
  · exact .inl h
  · rename_i item hsome
    obtain ⟨k, hk⟩ := List.getElem?_of_mem (List.mem_of_find?_eq_some hsome)
    have hklt : k < s.world.sentQueue.length := (List.getElem?_eq_some_iff.mp hk).1
    have hlen := halive.copies.length_eq
    rw [List.length_map, List.length_range'] at hlen
    have hframe : Carries f (numbered a) l.accepted item.fdu (l.base + k) := by
      have hget := (List.forall₂_iff_get.mp halive.copies).2 k (by simpa using hklt)
        (by simp; omega)
      obtain ⟨hklt', heq⟩ := List.getElem?_eq_some_iff.mp hk
      simpa [heq] using hget
    refine .inr ⟨l.base + k, Nat.le_add_right _ _, by omega, ?_⟩
    refine h.moved hmove rfl h.accepted (List.rel_append h.uplink (.cons hframe .nil)) (.inl ?_)
    have hpushed : Alive f (numbered a) s { l with uplink := l.uplink ++ [l.base + k] } :=
      halive.congr_link rfl rfl rfl
    exact hpushed.congr (.inl ⟨hs, hss⟩) rfl rfl (map_itemCopy_resetRt _ _) rfl rfl

/-- The start of a retransmission loses frames in flight, at most. -/
theorem Linked.retransmit (h : Linked f (numbered a) W req s l)
    (hs : isAd s.tf.copCfg.state)
    (hmove : FopMove keep nr req s (retransmitting keep s)) :
    Linked f (numbered a) W req (retransmitting keep s)
      { l with uplink := survivors keep l.uplink } := by
  obtain ⟨halive, -, hss⟩ := h.alive (not_isAd_init hs)
  refine h.moved hmove rfl h.accepted (forall₂_survivors h.uplink keep) (.inl ?_)
  have hlost : Alive f (numbered a) s { l with uplink := survivors keep l.uplink } :=
    halive.congr_link rfl rfl rfl
  exact hlost.congr (.inl ⟨hs, hss⟩) rfl rfl (map_itemCopy_markRt _ _) rfl rfl

/-- A request that finds nothing waiting is accepted. -/
theorem Linked.enqueue (h : Linked f (numbered a) W req s l) (hinv : Inv W l)
    (hreq : req = true) (hs : isAd s.tf.copCfg.state)
    (hwait : s.world.waitQueue = []) {s' : Fop} (hmove : FopMove keep nr req s s')
    (hs' : s' = onWorld s fun w =>
      { w with
        waitQueue := w.waitQueue ++ [s.tf]
        accepted := w.accepted ++ [s.tf.frameData.payload] }) :
    Linked f (numbered a) W req s'
      { l with accepted := l.accepted ++ [s.tf.frameData.payload] } := by
  subst hs'
  obtain ⟨halive, -, hss⟩ := h.alive (not_isAd_init hs)
  obtain ⟨hhdr, hfits⟩ := h.requested hreq
  have hdrained := halive.waiting
  rw [hwait, List.map_nil] at hdrained
  have hmono : ∀ {frames : List (List UInt8)} {indices : List ℕ},
      List.Forall₂ (Carries f (numbered a) l.accepted) frames indices →
      List.Forall₂ (Carries f (numbered a) (l.accepted ++ [s.tf.frameData.payload])) frames
        indices :=
    fun hall => hall.imp fun _ _ hc => hc.append _
  refine h.moved hmove rfl ?_ (hmono h.uplink) (.inl ⟨.inl ⟨hs, hss⟩, halive.mirrors, halive.nnr,
    halive.vs, hmono halive.copies, ?_, ?_, fun _ => hhdr⟩)
  · show s.world.accepted ++ _ = _
    rw [h.accepted]
  · show (s.world.waitQueue ++ [s.tf]).map _ = (l.accepted ++ [_]).drop l.next
    rw [hwait, List.drop_append_of_le_length hinv.next_le, ← hdrained]
    rfl
  · intro tf htf
    have htf' : tf ∈ s.world.waitQueue ++ [s.tf] := htf
    rw [hwait, List.nil_append, List.mem_singleton] at htf'
    rw [htf']
    exact hfits

/-- Every move of the sender is matched by moves of the link that leave the receiver and
its reports alone. -/
theorem Linked.move (h : Linked f (numbered a) W req s l) (hinv : Inv W l)
    (hW : W ≤ 255)
    (hnr : ∀ n, nr = some n → ∃ r rest, l.downlink = r :: rest ∧ numbered a r = n)
    (hmove : FopMove keep nr req s s') :
    ∃ l', ReflTransGen (Move (numbered a) W) l l' ∧ Linked f (numbered a) W req s' l' ∧
      l'.delivered = l.delivered ∧ l'.downlink = l.downlink := by
  -- `hmove` is needed again in each case, for the parameters that no move writes
  have hcases := hmove
  cases hcases with
  | fop fop' hsame =>
    refine ⟨l, .refl, h.moved hmove hsame.slideWnd h.accepted h.uplink ?_, rfl, rfl⟩
    rcases h.service with halive | hended
    · refine .inl (halive.congr ?_ hsame.nnr hsame.vs rfl rfl rfl)
      show (isAd fop'.state ∧ fop'.ss = 0) ∨ (fop'.state = .init ∧ _)
      unfold SuspendedAd
      show _ ∨ (_ ∧ ∃ state, suspendedState fop'.ss = some state ∧ _)
      rw [hsame.state, hsame.ss]
      exact halive.state
    · exact .inr ⟨hsame.state.trans hended.state, hsame.ss.trans hended.ss⟩
  | timer running =>
    refine ⟨l, .refl, h.moved hmove rfl h.accepted h.uplink ?_, rfl, rfl⟩
    exact h.service.imp (fun halive => halive.congr halive.state rfl rfl rfl rfl rfl)
      fun hended => ⟨hended.state, hended.ss⟩
  | clcw clcw =>
    refine ⟨l, .refl, h.moved hmove rfl h.accepted h.uplink ?_, rfl, rfl⟩
    exact h.service.imp (fun halive => halive.congr halive.state rfl rfl rfl rfl rfl)
      fun hended => ⟨hended.state, hended.ss⟩
  | adState state hs hstate =>
    obtain ⟨halive, -, hss⟩ := h.alive (not_isAd_init hs)
    exact ⟨l, .refl, h.moved hmove rfl h.accepted h.uplink
      (.inl (halive.congr (.inl ⟨hstate, hss⟩) rfl rfl rfl rfl rfl)), rfl, rfl⟩
  | ack n hs hn hrange =>
    obtain ⟨r, rest, hd, hr⟩ := hnr n hn
    exact ⟨_, .single (.ack l r rest hd), h.ack hinv hW hs hrange hd hr hmove, rfl, rfl⟩
  -- the frames that the lower layers drop here are lost on the uplink
  | retransmit hs =>
    exact ⟨_, .single (.loseUp l _ (survivors_sublist keep l.uplink)), h.retransmit hs hmove,
      rfl, rfl⟩
  | resend hs =>
    rcases h.resend hs hmove with hsame | ⟨i, hb, hn, hpushed⟩
    · exact ⟨l, .refl, hsame, rfl, rfl⟩
    · exact ⟨_, .single (.resend l i hb hn), hpushed, rfl, rfl⟩
  | send hs hwait hroom =>
    obtain ⟨hlen, hw, hsent⟩ := h.send hinv hW hs hwait hroom hmove
    exact ⟨_, .single (.send l hlen hw), hsent, rfl, rfl⟩
  | enqueue hreq hs hwait =>
    exact ⟨_, .single (.accept l _), h.enqueue hinv hreq hs hwait hmove rfl, rfl, rfl⟩
  | alert notif hs =>
    obtain ⟨-, -, hss⟩ := h.alive hs
    exact ⟨l, .refl, h.moved hmove rfl h.accepted h.uplink (.inr ⟨rfl, hss⟩), rfl, rfl⟩
  | suspend ss hs =>
    have hinit : s.tf.copCfg.state ≠ .init := by
      intro hinit
      rw [hinit] at hs
      exact absurd (suspendedState_cases hs) (by decide)
    obtain ⟨halive, had, -⟩ := h.alive hinit
    exact ⟨l, .refl, h.moved hmove rfl h.accepted h.uplink
      (.inl (halive.congr (.inr ⟨rfl, _, hs, had⟩) rfl rfl rfl rfl rfl)), rfl, rfl⟩
  | initiated hs =>
    have had := (h.alive (by rw [hs]; decide)).2.1
    rw [hs] at had
    exact absurd had (by decide)
  -- a service that runs or has ended is not in the states of a command
  | released hs | command hs =>
    have had := (h.alive (by rw [hs]; decide)).2.1
    rw [hs] at had
    exact absurd had (by decide)

/-- A run of moves of the sender is matched by moves of the link. -/
theorem Linked.reaches (h : Linked f (numbered a) W req s l) (hinv : Inv W l) (hW : W ≤ 255)
    (hnr : ∀ n, nr = some n → ∃ r rest, l.downlink = r :: rest ∧ numbered a r = n)
    (hmoves : Reaches keep nr req s s') :
    ∃ l', ReflTransGen (Move (numbered a) W) l l' ∧ Linked f (numbered a) W req s' l' ∧
      l'.delivered = l.delivered ∧ l'.downlink = l.downlink := by
  induction hmoves with
  | refl => exact ⟨l, .refl, h, rfl, rfl⟩
  | tail _ hmove ih =>
    obtain ⟨l₁, hm₁, h₁, hdel₁, hdown₁⟩ := ih
    obtain ⟨l₂, hm₂, h₂, hdel₂, hdown₂⟩ := h₁.move (hinv.moves (numbered_inj hW) hm₁) hW
      (fun n hn => by rw [hdown₁]; exact hnr n hn) hmove
    exact ⟨l₂, hm₁.trans hm₂, h₂, hdel₂.trans hdel₁, hdown₂.trans hdown₁⟩

/-- Whether a request is at hand matters only while it is handled. -/
theorem Linked.forget (h : Linked f num W req s l) : Linked f num W false s l :=
  { h with requested := fun habs => absurd habs (by decide) }

end Moves

/-! ## The composed system -/

/-- Both ends and both channels are the link. -/
structure Matches (f : Framing) (a : UInt8) (W : ℕ) (c : Cop1) (l : Link (List UInt8)) : Prop where
  sender : Linked f (numbered a) W false c.fop l
  framing : framing c.farm = f
  vr : c.farm.copCfg.vr = numbered a l.delivered.length
  delivered : c.delivered = l.delivered
  downlink : List.Forall₂ (fun ocf r => (osdlpClcwUnpack ocf).reportValue = numbered a r)
    c.downlink l.downlink
  inv : Inv W l

/-- What is in flight, and what has been delivered, is no concern of the sender. -/
theorem Linked.withUplink (h : Linked f num W req s l) {tx : List (List UInt8)}
    (haccepted : l'.accepted = l.accepted) (hbase : l'.base = l.base) (hnext : l'.next = l.next)
    (htx : List.Forall₂ (Carries f num l.accepted) tx l'.uplink) :
    Linked f num W req (onWorld s fun w => { w with txQueue := tx }) l' where
  framing := h.framing
  overhead := h.overhead
  requested := h.requested
  window := h.window
  accepted := h.accepted.trans haccepted.symm
  uplink := by rw [haccepted]; exact htx
  service := h.service.imp
    (fun halive => (halive.congr_link haccepted hbase hnext).congr halive.state rfl rfl rfl rfl rfl)
    fun hended => ⟨hended.state, hended.ss⟩

/-- A resumption restores a service that was suspended. -/
theorem Linked.resumeAd (h : Linked f num W req s l) (keep : List Bool) :
    Linked f num W req (osdlpResumeAd (fifoHooks keep) s).2 l := by
  rcases @osdlpResumeAd_cases keep s with ⟨state, hinit, hss, hres⟩ | ⟨-, hres⟩
  · rw [hres]
    refine ⟨h.framing, h.overhead, h.requested, h.window, h.accepted, h.uplink, ?_⟩
    rcases h.service with halive | hended
    · have hsus : SuspendedAd s := by
        rcases halive.state with ⟨had, -⟩ | ⟨-, hsus⟩
        · exact absurd hinit (not_isAd_init had)
        · exact hsus
      obtain ⟨state', hss', had⟩ := hsus
      rw [hss] at hss'
      have had' : isAd state := Option.some.inj hss' ▸ had
      exact .inl (halive.congr (.inl ⟨had', rfl⟩) rfl rfl rfl rfl rfl)
    · rw [hended.ss] at hss
      exact absurd hss (by simp [suspendedState])
  · rcases hres with hres | hres
    · rw [hres]
      exact h
    · rw [hres]
      exact ⟨h.framing, h.overhead, h.requested, h.window, h.accepted, h.uplink, h.service.imp
        (fun halive => halive.congr halive.state rfl rfl rfl rfl rfl)
        fun hended => ⟨hended.state, hended.ss⟩⟩

section System

variable {a : UInt8} {c : Cop1}

/-- A run of moves of the sender, in the composed system. -/
theorem Matches.reaches (h : Matches f a W c l) (hW : W ≤ 255)
    (hlinked : Linked f (numbered a) W req s l)
    (hnr : ∀ n, nr = some n → ∃ r rest, l.downlink = r :: rest ∧ numbered a r = n)
    (hmoves : Reaches keep nr req s s') :
    ∃ l', ReflTransGen (Move (numbered a) W) l l' ∧ Matches f a W { c with fop := s' } l' ∧
      l'.downlink = l.downlink := by
  obtain ⟨l', hmoves', hlinked', hdel, hdown⟩ := hlinked.reaches h.inv hW hnr hmoves
  refine ⟨l', hmoves', ⟨hlinked'.forget, h.framing, ?_, ?_, ?_, h.inv.moves (numbered_inj hW) hmoves'⟩,
    hdown⟩
  · rw [hdel]
    exact h.vr
  · rw [hdel]
    exact h.delivered
  · rw [hdown]
    exact h.downlink

/-- A request puts a frame at hand. -/
theorem Linked.prepared (h : Linked f num W false s l) {hdr : TcPrimaryHdr} {frameData : TcFdf}
    (hbypass : hdr.bypass = .typeA) (hfits : Fits f.overheadLen frameData) :
    Linked f num W true (prepared hdr frameData s) l where
  framing := h.framing
  overhead := h.overhead
  requested := fun _ => ⟨hbypass, hfits⟩
  window := h.window
  accepted := h.accepted
  uplink := h.uplink
  service := h.service.imp
    (fun halive => ⟨halive.state, halive.mirrors, halive.nnr, halive.vs, halive.copies,
      halive.waiting, halive.fits, fun _ => hbypass⟩)
    fun hended => ⟨hended.state, hended.ss⟩

/-- A report in flight is in range for a service that runs. -/
theorem Matches.inRange (h : Matches f a W c l) (hW : W ≤ 255) {r : ℕ} (hr : r ∈ l.downlink)
    (hs : isAd c.fop.tf.copCfg.state) : InRange c.fop.tf.copCfg (numbered a r) := by
  obtain ⟨halive, -⟩ := h.sender.alive (not_isAd_init hs)
  have hreport := h.inv.reports r hr
  have hle := h.inv.le_next
  have hwin := h.inv.window
  have hnr : seqDist (numbered a l.base) (numbered a r) = r - l.base :=
    seqDist_ofNat a hreport.1 (by omega)
  unfold InRange
  rw [halive.distance, halive.nnr, hnr]
  omega

/-- The control word at the head of the downlink is handled. -/
theorem Matches.clcw (h : Matches f a W c l) (hW : W ≤ 255) {ocf : List UInt8}
    {rest : List (List UInt8)} (hdown : c.downlink = ocf :: rest) :
    ∃ l', ReflTransGen (Move (numbered a) W) l l' ∧
      Matches f a W { c with fop := fopStep c.fop (keep, .clcw ocf), downlink := rest } l' := by
  have hmatch := h.downlink
  rw [hdown] at hmatch
  obtain ⟨r, rest', hr, hrest, hl⟩ := List.forall₂_cons_left_iff.mp hmatch
  have hreach : Reaches keep (some (osdlpClcwUnpack ocf).reportValue) false c.fop
      (fopStep c.fop (keep, .clcw ocf)) :=
    osdlpHandleClcw_reaches ocf fun hs => hr ▸ h.inRange hW (by simp [hl]) hs
  have hnr : ∀ n, some (osdlpClcwUnpack ocf).reportValue = some n →
      ∃ r rest, l.downlink = r :: rest ∧ numbered a r = n := by
    intro n hn
    exact ⟨r, rest', hl, hr.symm.trans (Option.some.inj hn)⟩
  obtain ⟨l₁, hmoves, h₁, hdown₁⟩ := h.reaches hW h.sender hnr hreach
  have hlost : rest'.Sublist l₁.downlink := by
    rw [hdown₁, hl]
    exact List.sublist_cons_self r rest'
  refine ⟨{ l₁ with downlink := rest' }, hmoves.tail (.loseDown l₁ rest' hlost), ?_⟩
  exact ⟨h₁.sender.withUplink rfl rfl rfl h₁.sender.uplink, h₁.framing, h₁.vr, h₁.delivered, hrest,
    h₁.inv.loseDown hlost⟩

/-- The frame at the head of the uplink arrives. -/
theorem Matches.arrive (h : Matches f a W c l) (hW : W ≤ 255) (rxFull : Bool) {frame : List UInt8}
    {rest : List (List UInt8)} (hup : c.uplink = frame :: rest) :
    ∃ l', ReflTransGen (Move (numbered a) W) l l' ∧
      Matches f a W (c.arrived rxFull frame rest) l' := by
  have hmatch := h.sender.uplink
  rw [show c.fop.world.txQueue = frame :: rest from hup] at hmatch
  obtain ⟨i, rest', ⟨x, hx, hframe⟩, hrest, hl⟩ := List.forall₂_cons_left_iff.mp hmatch
  obtain ⟨hbypass, hns, hpayload⟩ := hframe c.farm h.framing
  have hnoset : ¬ SetsVr (osdlpTcUnpack c.farm frame) := fun hset => by
    simpa [hbypass] using hset.1
  have hframing : Analysis.framing (c.arrived rxFull frame rest).farm = f := by
    obtain ⟨farm, hfarm⟩ := osdlpFarm1_frame rxFull (osdlpTcUnpack c.farm frame)
    rw [← h.framing]
    unfold Analysis.framing Cop1.arrived
    simp only [hfarm]
    rfl
  rcases osdlpFarm1_vr rxFull (osdlpTcUnpack c.farm frame) with ⟨hacc, henq, hvr⟩ | ⟨-, hne, hvr⟩
  · have hnum : numbered a i = numbered a l.delivered.length := by
      rw [← h.vr, ← hns, hacc.seqNum]
      rfl
    refine ⟨_, .single (.deliver l i rest' x hl hnum hx), ?_, hframing, ?_, ?_, h.downlink,
      h.inv.deliver (numbered_inj hW) hl hnum hx⟩
    · exact h.sender.withUplink rfl rfl rfl hrest
    · show (osdlpFarm1 rxFull (osdlpTcUnpack c.farm frame)).2.copCfg.vr = _
      rw [hvr, List.length_append, List.length_singleton, numbered_succ, ← h.vr]
      rfl
    · show (if _ then _ else _) = _
      rw [if_pos henq, h.delivered, hpayload]
  · have hlost : rest'.Sublist l.uplink := by
      rw [hl]
      exact List.sublist_cons_self i rest'
    refine ⟨_, .single (.loseUp l rest' hlost), ?_, hframing, ?_, ?_, h.downlink,
      h.inv.loseUp hlost⟩
    · exact h.sender.withUplink rfl rfl rfl hrest
    · show (osdlpFarm1 rxFull (osdlpTcUnpack c.farm frame)).2.copCfg.vr = _
      rw [hvr.resolve_right fun hset => hnoset hset.1]
      exact h.vr
    · show (if _ then _ else _) = _
      rw [if_neg hne]
      exact h.delivered

/-- Every event of the composed system is matched by moves of the link. -/
theorem cop1_simulates (hW : W ≤ 255) :
    Simulates cop1Step (Cop1Event.WellFormed f.overheadLen) (Move (numbered a) W)
      (Matches f a W) := by
  intro c e l he h
  have hnone : ∀ n, (none : Option UInt8) = some n →
      ∃ r rest, l.downlink = r :: rest ∧ numbered a r = n := fun n hn => by simp at hn
  cases e with
  | request hdr frameData =>
    obtain ⟨l', hmoves, h', -⟩ := h.reaches hW (h.sender.prepared he.1 he.2) hnone
      (osdlpReqTransferFdu_reaches he.1 : Reaches [] none true _ _)
    exact ⟨l', hmoves, h'⟩
  | adAccept keep =>
    obtain ⟨l', hmoves, h', -⟩ := h.reaches hW h.sender hnone
      (osdlpAdAccept_reaches : Reaches keep none false _ _)
    exact ⟨l', hmoves, h'⟩
  | clcw keep =>
    unfold cop1Step
    cases hdown : c.downlink with
    | nil => exact ⟨l, .refl, h⟩
    | cons ocf rest => exact h.clcw hW hdown
  | timerExpired keep =>
    obtain ⟨l', hmoves, h', -⟩ := h.reaches hW h.sender hnone
      (osdlpHandleTimerExpired_reaches 2 : Reaches keep none false _ _)
    exact ⟨l', hmoves, h'⟩
  | resumeAd keep => exact ⟨l, .refl, { h with sender := h.sender.resumeAd keep }⟩
  | arrive rxFull =>
    unfold cop1Step
    cases hup : c.uplink with
    | nil => exact ⟨l, .refl, h⟩
    | cons frame rest => exact h.arrive hW rxFull hup
  | bufferRelease =>
    exact ⟨l, .refl, { h with framing := h.framing, vr := h.vr }⟩
  | report =>
    refine ⟨_, .single (.report l), ?_⟩
    refine ⟨h.sender.withUplink rfl rfl rfl h.sender.uplink, h.framing, h.vr, h.delivered, ?_,
      h.inv.report⟩
    refine List.rel_append h.downlink (.cons ?_ .nil)
    show (osdlpClcwUnpack (osdlpClcwPack (prepareClcw c.farm))).reportValue = _
    rw [osdlpClcwUnpack_pack]
    exact h.vr
  | loseUp keep =>
    have hlost := survivors_sublist keep l.uplink
    refine ⟨_, .single (.loseUp l _ hlost), ?_⟩
    exact ⟨h.sender.withUplink rfl rfl rfl (forall₂_survivors h.sender.uplink keep), h.framing, h.vr,
      h.delivered, h.downlink, h.inv.loseUp hlost⟩
  | loseDown keep =>
    have hlost := survivors_sublist keep l.downlink
    refine ⟨_, .single (.loseDown l _ hlost), ?_⟩
    exact ⟨h.sender.withUplink rfl rfl rfl h.sender.uplink, h.framing, h.vr, h.delivered,
      forall₂_survivors h.downlink keep, h.inv.loseDown hlost⟩

end System

/-- A started pair is the idle link. -/
theorem matches_idle {c : Cop1} (hstart : Started c) (hframing : SameFraming c) :
    Matches (framing c.fop.tf) c.fop.tf.copCfg.vs c.fop.tf.copCfg.slideWnd.toNat c
      ⟨[], 0, 0, [], [], []⟩ := by
  have hzero : numbered c.fop.tf.copCfg.vs 0 = c.fop.tf.copCfg.vs := by
    unfold numbered
    exact UInt8.add_zero _
  have hup : c.fop.world.txQueue = [] := hstart.uplink
  have halive : Alive (framing c.fop.tf) (numbered c.fop.tf.copCfg.vs) c.fop
      ⟨[], 0, 0, [], [], []⟩ := by
    refine ⟨.inl ⟨?_, hstart.ss⟩, mirrors_nil hstart.sentQueue hstart.nnr, ?_, hzero.symm, ?_, ?_, ?_,
      fun habs => absurd hstart.waitQueue habs⟩
    · rw [hstart.active]
      rfl
    · rw [hstart.nnr]
      exact hzero.symm
    · rw [hstart.sentQueue]
      exact .nil
    · rw [hstart.waitQueue]
      rfl
    · rw [hstart.waitQueue]
      simp
  refine ⟨⟨rfl, hframing.overhead, fun habs => absurd habs (by decide), rfl, hstart.accepted, ?_,
    .inl halive⟩, ?_, ?_, hstart.delivered, ?_, inv_idle _⟩
  · rw [hup]
    exact .nil
  · unfold framing
    rw [hframing.segHdrFlag, hframing.overheadLen]
  · rw [hstart.vr]
    exact hzero.symm
  · rw [hstart.downlink]
    exact .nil

/-- For every order and number of events, what FARM-1 has taken is a prefix of what FOP-1
has accepted onto the wait queue.
SOURCE: osdlp_cop.c:252-336, 395-450, 1975-2150, 2395-2555 -/
theorem delivered_prefix_accepted (c : Cop1) (hstart : Started c) (hframing : SameFraming c)
    (events : List Cop1Event)
    (hevents : ∀ e ∈ events, e.WellFormed c.fop.tf.mission.fixedOverheadLen) :
    (run cop1Step c events).delivered <+: (run cop1Step c events).fop.world.accepted := by
  have hW : c.fop.tf.copCfg.slideWnd.toNat ≤ 255 := by
    have := c.fop.tf.copCfg.slideWnd.toNat_lt
    omega
  obtain ⟨l, -, h⟩ := (cop1_simulates hW).run (matches_idle hstart hframing) hevents
  rw [h.delivered, h.sender.accepted]
  exact h.inv.delivered_prefix

/-- A sender and a receiver that have just been started, with a window of 3. -/
def startedLink : Cop1 :=
  { fop :=
      { tf :=
          { (default : FopFrame) with
            mission := { (default : TcMissionParams) with fixedOverheadLen := 5 }
            copCfg :=
              { (default : FopConfig) with
                state := .active, slideWnd := 3, txLim := 2 } }
        world :=
          { waitQueue := [], sentQueue := [], txQueue := [], timerRunning := false
            accepted := [] } }
    farm :=
      { (default : FarmFrame) with
        mission := { (default : TcMissionParams) with fixedOverheadLen := 5 }
        copCfg := { (default : FarmConfig) with w := 10, pw := 5, nw := 5 } }
    downlink := []
    delivered := [] }

/-- A request for one octet. -/
def octetEvent (x : UInt8) : Cop1Event :=
  .request default { (default : TcFdf) with data := [x], dataLen := 1 }

/-- Two requests, the first of them lost on the way, repeated and then taken. -/
theorem delivered_prefix_accepted_lost :
    let c := run cop1Step startedLink [octetEvent 1, .loseUp [false], octetEvent 2, .arrive false,
      .report, .clcw [], .arrive false]
    c.delivered <+: c.fop.world.accepted ∧ c.delivered = [[1]] ∧
      c.fop.world.accepted = [[1], [2]] := by
  refine ⟨delivered_prefix_accepted startedLink ?_ ⟨rfl, rfl, rfl⟩ _ ?_, rfl, rfl⟩
  · exact ⟨rfl, rfl, rfl, rfl, by decide, by decide, rfl, rfl, rfl, rfl, rfl, rfl, rfl⟩
  · decide

end Osdlp.Analysis
