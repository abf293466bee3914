import Osdlp.Analysis.ReceiveBounds
import Osdlp.Analysis.TcSlices
import Osdlp.Interface.TmReceiving
import Osdlp.Interface.TmStores

/-!
# Accepted configurations

`osdlp_tc_init` and `osdlp_tm_init` refuse a frame that has no room for its primary header, and
subtract the rest of what is not data in sixteen bits without a look.  Neither asks whether the
length fits the field of ten bits, or the remainders the pointer of eleven.  A configuration is
sound exactly if the frame has room for data and is not too long
(`configurationsSound_iff`).
-/

set_option autoImplicit false

namespace Osdlp.Analysis

open Osdlp.Model Osdlp.Interface Osdlp.Library

/-! ## Telecommands -/

/-- A sender that has requested nothing yet. -/
def freshSender {W : Type} (tf : FopFrame) (user : W) : FopSt (Recording W) :=
  { tf := tf, world := { user := user, requests := [] } }

/-- There is room for data, the parts of a frame add up to its length, no run divides by zero, and
the length of every frame that a run requests fits its field. -/
structure TcSound (tf : FopFrame) : Prop where
  room : 1 ≤ tf.mission.maxDataLen
  adds : tf.mission.overhead + tf.mission.maxDataLen = tf.mission.maxFrameLen
  divides : ∀ (W : Type) (user : W) (calls : List (TcUser W × TcCall)),
    (run tcStep (freshSender tf user) calls).tf.mission.maxDataLen ≠ 0
  frameLen : ∀ (W : Type) (user : W) (calls : List (TcUser W × TcCall)),
    ∀ r ∈ (run tcStep (freshSender tf user) calls).world.requests,
      tf.mission.overhead + r.frameData.dataLen - 1 < 2 ^ 10

section Telecommand

variable {W : Type} {s : FopSt (Recording W)}

theorem grows_recorded {α : Type} {m : FopM W α} (hm : Aside m) : Grows s (recorded m s).2 :=
  .of_same (hm (unrecorded s)).maxDataLen rfl

/-- Whatever is called, the requests are short. -/
theorem tcStep_grows (hpos : 1 ≤ s.tf.mission.maxDataLen) (e : TcUser W × TcCall) :
    Grows s (tcStep s e) := by
  obtain ⟨user, call⟩ := e
  cases call with
  | op op => exact grows_recorded (user.aside.copProgram user.depth op)
  | prepare hdr frameData => exact .of_same rfl rfl
  | setSlidingWindow newWnd =>
    exact grows_recorded ((aside_modifyFop _).bind fun _ => aside_answer _)
  | transmit sdu => exact tcTransmitLoop_grows user sdu _ _ hpos

/-- By induction on the calls. -/
theorem run_grows (hpos : 1 ≤ s.tf.mission.maxDataLen) (calls : List (TcUser W × TcCall)) :
    Grows s (run tcStep s calls) := by
  induction calls generalizing s with
  | nil => exact .of_same rfl rfl
  | cons e calls ih =>
    have hstep := tcStep_grows hpos e
    exact hstep.trans (ih (hstep.maxDataLen ▸ hpos))

end Telecommand

/-- An SDU of zeros. -/
def zeroSdu (n : UInt16) : Sdu where
  buffer := List.replicate n.toNat 0
  length := n.toUInt32
  held := by rw [List.length_replicate, UInt16.toNat_toUInt32]

theorem size_zeroSdu (n : UInt16) : (zeroSdu n).size = n.toNat := UInt16.toNat_toUInt32 n

/-- Some run requests a frame with `max_data_len` octets of data. -/
theorem run_requests_longest {tf : FopFrame} (hpos : 1 ≤ tf.mission.maxDataLen)
    (hlt : tf.mission.maxDataLen < 65536) (hended : tf.segStatus.flag = .ended) :
    ∃ (user : FifoWorld) (calls : List (TcUser FifoWorld × TcCall)),
      ∃ r ∈ (run tcStep (freshSender tf user) calls).world.requests,
        r.frameData.dataLen = tf.mission.maxDataLen := by
  let user : FifoWorld :=
    { waitQueue := [], sentQueue := [], txQueue := [], timerRunning := false, accepted := [] }
  let sdu := zeroSdu (UInt16.ofNat tf.mission.maxDataLen)
  have hsize : sdu.size = tf.mission.maxDataLen :=
    (size_zeroSdu _).trans (UInt16.toNat_ofNat_of_lt' hlt)
  have hfirst : nextRequest sdu sdu.size (freshSender tf user) ∈
      (recordedTransmit (queueUser [] 1) sdu (freshSender tf user)).2.world.requests :=
    recordedTransmit_first (queueUser [] 1) (by omega) (by omega) hpos hended rfl
  refine ⟨user, [(queueUser [] 1, .transmit sdu)], _, hfirst, ?_⟩
  rw [nextRequest_dataLen, hsize]
  show bytesAvail tf.mission tf.mission.maxDataLen = _
  unfold bytesAvail
  rw [Nat.div_self hpos, if_pos Nat.one_pos]

/-- SOURCE: osdlp_tc.c:30-88, 342-377 -/
theorem osdlpTcInit_sound_iff {m : TcMissionParams} {tf₀ tf : FopFrame} {a : TcInitArgs}
    {cop : FopConfig} (h : osdlpTcInit m tf₀ a cop = some tf) :
    TcSound tf ↔ a.fixedOverheadLen < a.maxFrameLen.toNat ∧ a.maxFrameLen.toNat ≤ 1024 := by
  have hmission : tf.mission = a.mission m ∧ tf.segStatus.flag = .ended := by
    unfold osdlpTcInit at h
    split_ifs at h
    obtain rfl := Option.some.inj h
    exact ⟨rfl, rfl⟩
  obtain ⟨hmission, hended⟩ := hmission
  have hoverhead : tf.mission.overhead = a.fixedOverheadLen := by
    rw [hmission]
    rfl
  have hframe : tf.mission.maxFrameLen = a.maxFrameLen.toNat := by
    rw [hmission]
    rfl
  have hdata : tf.mission.maxDataLen = u16 (a.maxFrameLen.toNat - a.fixedOverheadLen : ℤ) := by
    rw [hmission]
    rfl
  have hlen := a.maxFrameLen.toNat_lt
  have hwrap : tf.mission.maxDataLen < 65536 := by
    rw [hdata]
    unfold u16
    omega
  constructor
  · rintro ⟨hroom, hadds, -, hfits⟩
    rw [hoverhead, hframe] at hadds
    obtain ⟨user, calls, r, hr, hlongest⟩ := run_requests_longest hroom hwrap hended
    have hlast := hfits _ user calls r hr
    rw [hoverhead, hlongest] at hlast
    omega
  · rintro ⟨hroom, hshort⟩
    have hexact : tf.mission.maxDataLen = a.maxFrameLen.toNat - a.fixedOverheadLen := by
      rw [hdata, ← Nat.cast_sub hroom.le]
      exact u16_of_lt (by omega)
    have hpos : 1 ≤ tf.mission.maxDataLen := by omega
    refine ⟨hpos, by omega, ?_, ?_⟩
    · intro W user calls
      have hgrows := run_grows (s := freshSender tf user) hpos calls
      rw [hgrows.maxDataLen]
      exact Nat.ne_of_gt hpos
    · intro W user calls r hr
      obtain ⟨requests, hlog, hall⟩ := (run_grows (s := freshSender tf user) hpos calls).requests
      rw [hlog] at hr
      have hdataLen : r.frameData.dataLen ≤ tf.mission.maxDataLen := hall r hr
      omega

/-! ## Telemetry -/

/-- A sender with the remainders that it has stored as pointers. -/
structure TmStored where
  tx : TmSender
  stored : List ℕ

/-- What the user of a telemetry sender does. -/
inductive TmSenderCall
  | transmit (getPacketLen : GetPacketLen) (fuel : ℕ) (queueBack : Int) (dataIn : List UInt8)
      (length : UInt16)
  | transmitIdleFdu
  | dequeue
  | enablePacketStuffing
  | disablePacketStuffing
  | abortSegmentation

/-- The sender with another frame structure. -/
def TmStored.withTf (s : TmStored) (tf : TmTransferFrame) : TmStored :=
  { s with tx := { s.tx with tf := tf } }

/-- The state after a call; one that does not come back leaves it. -/
def tmSenderStep (s : TmStored) : TmSenderCall → TmStored
  | .transmit getPacketLen fuel queueBack dataIn length =>
    match tmTransmitStores getPacketLen fuel queueBack s.tx dataIn length.toNat with
    | none => s
    | some sent => { tx := sent.value.2, stored := s.stored ++ sent.log }
  | .transmitIdleFdu => { s with tx := (osdlpTmTransmitIdleFdu s.tx).2 }
  | .dequeue => { s with tx := { s.tx with queue := s.tx.queue.tail } }
  | .enablePacketStuffing => s.withTf (osdlpEnablePacketStuffing s.tx.tf)
  | .disablePacketStuffing => s.withTf (osdlpDisablePacketStuffing s.tx.tf)
  | .abortSegmentation => s.withTf (osdlpAbortSegmentation s.tx.tf)

/-- The step of a call that comes back. -/
theorem tmSenderStep_transmit {s : TmStored} {getPacketLen : GetPacketLen} {fuel : ℕ}
    {queueBack : Int} {dataIn : List UInt8} {length : UInt16} {sent : Traced ℕ (Int × TmSender)}
    (h : tmTransmitStores getPacketLen fuel queueBack s.tx dataIn length.toNat = some sent) :
    tmSenderStep s (.transmit getPacketLen fuel queueBack dataIn length) =
      { tx := sent.value.2, stored := s.stored ++ sent.log } := by
  simp only [tmSenderStep, h]

/-- A sender that has sent nothing yet, over a queue with these answers. -/
def freshTmSender (tf : TmTransferFrame) (answers : List Int) : TmStored :=
  { tx := { tf := tf, queue := [], answers := answers }, stored := [] }

/-- There is room for data, the parts of a frame add up to its length, no run divides by zero, and
every remainder that a run stores as a pointer is below the reserved values. -/
structure TmSound (tf : TmTransferFrame) : Prop where
  room : 1 ≤ tf.mission.maxDataLen
  shape : TmShape tf
  divides : ∀ (answers : List Int) (calls : List TmSenderCall),
    (run tmSenderStep (freshTmSender tf answers) calls).tx.tf.mission.maxDataLen ≠ 0
  pointers : ∀ (answers : List Int) (calls : List TmSenderCall),
    ∀ n ∈ (run tmSenderStep (freshTmSender tf answers) calls).stored, n < tmFirstHdrPtrOid.toNat

/-- The data field has `n` octets, and no remainder has as many. -/
structure StoresBelow (n : ℕ) (s : TmStored) : Prop where
  maxDataLen : s.tx.tf.mission.maxDataLen = n
  stored : ∀ k ∈ s.stored, k < n

/-- Every call stores remainders below the length of the data field. -/
theorem StoresBelow.step {n : ℕ} {s : TmStored} (h : StoresBelow n s) (call : TmSenderCall) :
    StoresBelow n (tmSenderStep s call) := by
  cases call with
  | transmit getPacketLen fuel queueBack dataIn length =>
    cases hsent : tmTransmitStores getPacketLen fuel queueBack s.tx dataIn length.toNat with
    | none =>
      simp only [tmSenderStep, hsent]
      exact h
    | some sent =>
      rw [tmSenderStep_transmit hsent]
      obtain ⟨hkept, hstores⟩ := tmTransmitStores_bounded hsent
      rw [h.maxDataLen] at hkept hstores
      refine ⟨hkept, fun k hk => ?_⟩
      rcases List.mem_append.mp hk with hold | hnew
      · exact h.stored k hold
      · exact hstores k hnew
  | transmitIdleFdu =>
    refine ⟨?_, h.stored⟩
    show (osdlpTmTransmitIdleFdu s.tx).2.tf.mission.maxDataLen = n
    unfold osdlpTmTransmitIdleFdu
    dsimp only
    split_ifs
    all_goals
      rw [osdlpTmTxQueueEnqueue_tf, packIntoUtil_maxDataLen]
      exact h.maxDataLen
  | dequeue | enablePacketStuffing | disablePacketStuffing | abortSegmentation =>
    exact ⟨h.maxDataLen, h.stored⟩

theorem StoresBelow.run {n : ℕ} {s : TmStored} (h : StoresBelow n s)
    (calls : List TmSenderCall) : StoresBelow n (run tmSenderStep s calls) :=
  run_inv h fun _ call _ h => h.step call

/-! ### The largest remainder -/

/-- A packet that begins with a frame and fills all of its data field but one octet. -/
theorem evalResidueLen_first {m : TmMissionParams} {frame : List UInt8} {len : UInt16}
    (hpos : 0 < m.maxDataLen) (hheader : m.maxDataLen ≤ len.toNat + m.headerLen)
    (hptr : tmFirstHdrPtr frame = 0)
    (hfirst : (region frame m.headerLen m.maxDataLen).getD 0 0 ≠ tmIdlePacket) :
    evalResidueLen (fun _ _ => some len) 1 m frame = some len.toNat := by
  rw [getD_region _ _ _ _ hpos] at hfirst
  have hlen : u16 ((0 : ℕ) + len.toNat : ℤ) = len.toNat := by
    have hlt := len.toNat_lt
    unfold u16
    omega
  unfold evalResidueLen
  rw [hptr]
  dsimp only
  rw [if_pos (by decide), show (0 : BitVec 11).toNat = 0 from rfl, if_neg hfirst]
  unfold evalResidueLoop
  rw [if_pos (Nat.zero_le _)]
  dsimp only
  rw [if_pos (show len.toNat + m.headerLen + 0 ≥ m.maxDataLen by omega), hlen]

/-- Behind all octets but one of a data field, a packet of the length of the field leaves a
remainder that is one octet shorter. -/
theorem tmTransmitStores_remainder {s : TmSender} {getPacketLen : GetPacketLen} {fuel n : ℕ}
    (hmax : s.tf.mission.maxDataLen = n) (hn : 2 ≤ n) (hlt : n < 65536) (hqueue : s.queue ≠ [])
    (hon : s.tf.mission.stuffState = .stuffingOn)
    (hclosed : s.tf.mission.util.loopState = .loopClosed)
    (hresidue : evalResidueLen getPacketLen fuel s.tf.mission (s.queue.getLastD []) = some (n - 1))
    (dataIn : List UInt8) :
    ∃ sent, tmTransmitStores getPacketLen fuel 0 s dataIn n = some sent ∧ n - 1 ∈ sent.log := by
  have htwo : numPacketsFor s.tf.mission (n + (n - 1)) = 2 := by
    unfold numPacketsFor
    rw [hmax, Nat.add_div_left _ (by omega), Nat.div_eq_of_lt (by omega), Nat.add_mod_left,
      Nat.mod_eq_of_lt (by omega), if_pos (.inr (by omega))]
  have hchunk : u16 ((n : ℤ) - u16 ((n : ℤ) - (n - 1 : ℕ))) = n - 1 := by
    unfold u16
    omega
  have hstuff : ∃ t, stuffLastFrame getPacketLen fuel 0 s dataIn n n = some (1, n - 1, t) := by
    have hleft : ∀ lastPkt,
        (handlePktStuffing s.tf.mission 2 lastPkt dataIn n (n - 1)).2 = n - 1 := by
      intro lastPkt
      unfold handlePktStuffing
      rw [if_neg (by decide), hmax]
      exact hchunk
    let stuffed := handlePktStuffing s.tf.mission 2 (s.queue.getLastD []) dataIn n (n - 1)
    refine ⟨{ s with queue := s.queue.dropLast ++ [stuffed.1] }, ?_⟩
    unfold stuffLastFrame
    dsimp only
    rw [if_neg (by decide), hresidue, Option.bind_eq_bind, Option.bind_some, if_neg (by omega),
      htwo, hleft]
    rfl
  obtain ⟨t, hstuffed⟩ := hstuff
  have htf := stuffLastFrame_tf hstuffed
  refine ⟨transmitLoopStores dataIn n 1 (n - 1) t, ?_, ?_⟩
  · have hopen : ¬ s.tf.mission.util.loopState = .loopOpen := by
      rw [hclosed]
      decide
    unfold tmTransmitStores
    dsimp only
    rw [if_pos ⟨hqueue, hon, hclosed⟩, if_neg hopen, hstuffed]
    rfl
  · unfold transmitLoopStores
    rw [Traced.log_bind, htf]
    refine List.mem_append_left _ ?_
    unfold storeFirstHdrPtr
    rw [if_neg (by omega), if_neg (by omega)]
    exact List.mem_singleton_self _

/-- Without stuffing, a packet that fills all but one octet of a data field is queued in a frame
that begins with it. -/
theorem tmTransmitStores_first {m : TmMissionParams} {s : TmSender} (getPacketLen : GetPacketLen)
    (hoff : m.stuffState = .stuffingOff) (hready : Ready m s.tf) (hqueue : s.queue = [])
    (hanswers : s.answers = []) (hn : 2 ≤ m.maxDataLen) :
    ∃ sent frame, tmTransmitStores getPacketLen 1 0 s (List.replicate (m.maxDataLen - 1) 0)
        (m.maxDataLen - 1) = some sent ∧ Ready m sent.value.2.tf ∧ sent.value.2.queue = [frame] ∧
      tmFirstHdrPtr frame = 0 ∧ (region frame m.headerLen m.maxDataLen).getD 0 0 = 0 := by
  let packet : List UInt8 := List.replicate (m.maxDataLen - 1) 0
  have hlen : packet.length = m.maxDataLen - 1 := List.length_replicate
  have hacc : Accepting s.answers := by
    rw [hanswers]
    exact fun ret hret => absurd hret List.not_mem_nil
  obtain ⟨s', hsent, hqueues⟩ := osdlpTmTransmit_queues getPacketLen 1 0 hoff hready hacc packet
  rw [← value_tmTransmitStores] at hsent
  obtain ⟨sent, hstores, hvalue⟩ := Option.map_eq_some_iff.mp hsent
  have hone : numPacketsFor m packet.length = 1 := by
    unfold numPacketsFor
    rw [hlen, Nat.div_eq_of_lt (by omega), if_pos (.inl rfl)]
  rw [hone] at hqueues
  obtain ⟨frames, happend, hcells, -⟩ := hqueues.frames
  rw [hqueue, List.nil_append] at happend
  obtain ⟨frame, hframes⟩ : ∃ frame, frames = [frame] := by
    refine List.length_eq_one_iff.mp ?_
    rw [← List.length_map (tmCell m), hcells]
    rfl
  rw [hframes] at hcells happend
  have hcell : tmCell m frame = packetCell m packet packet.length := (List.cons.inj hcells).1
  rw [hlen] at hstores
  refine ⟨sent, frame, hstores, ?_, ?_, ?_, ?_⟩
  · rw [hvalue]
    exact hqueues.ready
  · rw [hvalue]
    exact happend
  · refine (congrArg TmCell.ptr hcell).trans ?_
    show nextFirstHdrPtr m packet.length packet.length = 0
    unfold nextFirstHdrPtr
    rw [if_pos rfl]
  · have hfield : region frame m.headerLen m.maxDataLen = _ := congrArg TmCell.field hcell
    obtain ⟨n, hmax⟩ : ∃ n, m.maxDataLen = n + 2 := ⟨m.maxDataLen - 2, by omega⟩
    rw [hfield]
    simp [packetCell, packet, hmax, List.replicate_succ]

/-- Some run stores the largest remainder: a packet that leaves one octet of its frame, and one of
the length of a data field behind it. -/
theorem run_stores_largest {tf : TmTransferFrame} (hshape : TmShape tf)
    (hclosed : tf.mission.util.loopState = .loopClosed) (hn : 2 ≤ tf.mission.maxDataLen)
    (hlt : tf.mission.maxDataLen < 65536) :
    ∃ calls, tf.mission.maxDataLen - 1 ∈
      (run tmSenderStep (freshTmSender tf []) calls).stored := by
  let n := tf.mission.maxDataLen
  let len := UInt16.ofNat (n - 1)
  let full := UInt16.ofNat n
  have hlen : len.toNat = n - 1 := UInt16.toNat_ofNat_of_lt' (show n - 1 < 65536 by omega)
  have hfull : full.toNat = n := UInt16.toNat_ofNat_of_lt' hlt
  let hook : GetPacketLen := fun _ _ => some len
  -- the first packet goes out without stuffing
  let s₁ := tmSenderStep (freshTmSender tf []) .disablePacketStuffing
  have hready : Interface.Ready s₁.tx.tf.mission s₁.tx.tf :=
    ⟨⟨hshape.header, hshape.frame⟩, rfl, hclosed⟩
  obtain ⟨sent, frame, hsent, hsentReady, hqueue, hptr, hfirst⟩ :=
    tmTransmitStores_first hook rfl hready rfl rfl hn
  let first : TmSenderCall := .transmit hook 1 0 (List.replicate (n - 1) 0) len
  have hstep : tmSenderStep s₁ first =
      { tx := sent.value.2, stored := s₁.stored ++ sent.log } := by
    refine tmSenderStep_transmit ?_
    rw [hlen]
    exact hsent
  -- the second is stuffed behind it
  let s₃ := tmSenderStep { tx := sent.value.2, stored := s₁.stored ++ sent.log }
    .enablePacketStuffing
  have hmax : s₃.tx.tf.mission.maxDataLen = n := hsentReady.maxDataLen
  have hheader : s₃.tx.tf.mission.headerLen = tf.mission.headerLen := by
    show sent.value.2.tf.mission.headerLen = _
    rw [hsentReady.mission]
    rfl
  have hqueue₃ : s₃.tx.queue = [frame] := hqueue
  have hresidue : evalResidueLen hook 1 s₃.tx.tf.mission (s₃.tx.queue.getLastD []) =
      some (n - 1) := by
    have hge := hshape.headerLen_ge
    rw [hqueue₃, ← hlen]
    refine evalResidueLen_first (by omega) (by omega) hptr ?_
    rw [hmax, hheader]
    exact fun hidle => absurd (hfirst.symm.trans hidle) (by decide)
  obtain ⟨last, hlast, hmem⟩ := tmTransmitStores_remainder hmax hn hlt (by simp [hqueue₃]) rfl
    hsentReady.closed hresidue (List.replicate n 0)
  let second : TmSenderCall := .transmit hook 1 0 (List.replicate n 0) full
  refine ⟨[.disablePacketStuffing, first, .enablePacketStuffing, second], ?_⟩
  have hlastStep : tmSenderStep s₃ second =
      { tx := last.value.2, stored := s₃.stored ++ last.log } := by
    refine tmSenderStep_transmit ?_
    rw [hfull]
    exact hlast
  show n - 1 ∈ (tmSenderStep (tmSenderStep (tmSenderStep s₁ first) .enablePacketStuffing)
    second).stored
  rw [hstep, hlastStep]
  exact List.mem_append_right _ hmem

/-- The flag is the argument. -/
theorem osdlpTmInit_ocf {tf₀ tf : TmTransferFrame} {a : TmInitArgs}
    (h : osdlpTmInit tf₀ a = some tf) : tf.primaryHdr.ocf = a.ocfFlag := by
  unfold osdlpTmInit at h
  split_ifs at h
  all_goals exact congrArg (fun tf => tf.primaryHdr.ocf) (Option.some.inj h).symm

/-- SOURCE: osdlp_tm.c:24-94, 306-385 -/
theorem osdlpTmInit_sound_iff {tf₀ tf : TmTransferFrame} {a : TmInitArgs}
    (h : osdlpTmInit tf₀ a = some tf) :
    TmSound tf ↔ a.occupied < a.frameSize.toNat ∧ a.frameSize.toNat ≤ a.occupied + 2046 := by
  have hmission := osdlpTmInit_mission h
  have hdata : tf.mission.maxDataLen = u16 (a.frameSize.toNat - a.occupied : ℤ) := by
    rw [hmission]
    rfl
  have hsize := a.frameSize.toNat_lt
  have hwrap : tf.mission.maxDataLen < 65536 := by
    rw [hdata]
    unfold u16
    omega
  constructor
  · rintro ⟨hroom, hshape, -, hpointers⟩
    have hadds : a.frameSize.toNat = a.occupied + tf.mission.maxDataLen := by
      have hframe := hshape.frame
      have hheader : tf.mission.headerLen = a.occupiedHeader := by
        rw [hmission]
        rfl
      have hframeLen : tf.mission.frameLen = a.frameSize.toNat := by
        rw [hmission]
        rfl
      have hcrc : tf.mission.crcPresent = a.crcFlag := by
        rw [hmission]
        rfl
      rw [hheader, hframeLen, hcrc, osdlpTmInit_ocf h] at hframe
      unfold TmInitArgs.occupied tmOcfLength tmCrcLength
      omega
    refine ⟨by omega, ?_⟩
    by_contra hlong
    obtain ⟨calls, hstored⟩ := run_stores_largest hshape (by rw [hmission]; rfl) (by omega) hwrap
    have hlast := hpointers [] calls _ hstored
    have hoid : tmFirstHdrPtrOid.toNat = 2046 := rfl
    omega
  · rintro ⟨hroom, hshort⟩
    have hexact : tf.mission.maxDataLen = a.frameSize.toNat - a.occupied := by
      rw [hmission]
      exact TmInitArgs.mission_maxDataLen hroom.le
    have hbelow : ∀ answers, StoresBelow tf.mission.maxDataLen (freshTmSender tf answers) :=
      fun answers => ⟨rfl, fun k hk => absurd hk List.not_mem_nil⟩
    refine ⟨by omega, osdlpTmInit_shape hroom.le h, ?_, ?_⟩
    · intro answers calls
      rw [((hbelow answers).run calls).maxDataLen]
      omega
    · intro answers calls n hn
      have hlt := ((hbelow answers).run calls).stored n hn
      have hoid : tmFirstHdrPtrOid.toNat = 2046 := rfl
      omega

/-! ## Both -/

/-- **Accepted configurations.**  Whatever `osdlp_tc_init` or `osdlp_tm_init` accepts is sound
exactly if the frame has room for an octet of data, and is no longer than 1024 octets or than 2046
octets of data need.  SOURCE: osdlp_tc.c:30-88, osdlp_tm.c:24-94 -/
theorem configurationsSound_iff (m : TcMissionParams) (tf₀ tf : FopFrame) (a : TcInitArgs)
    (cop : FopConfig) (tm₀ tm : TmTransferFrame) (b : TmInitArgs) :
    (osdlpTcInit m tf₀ a cop = some tf →
      (TcSound tf ↔
        a.fixedOverheadLen < a.maxFrameLen.toNat ∧ a.maxFrameLen.toNat ≤ 1024)) ∧
    (osdlpTmInit tm₀ b = some tm →
      (TmSound tm ↔
        b.occupied < b.frameSize.toNat ∧ b.frameSize.toNat ≤ b.occupied + 2046)) :=
  ⟨osdlpTcInit_sound_iff, osdlpTmInit_sound_iff⟩

/-- A telemetry channel whose frames have sixteen octets of data. -/
def sixteenArgs : TmInitArgs :=
  { (default : TmInitArgs) with crcFlag := true, frameSize := 24, maxSduLen := 64 }

/-- A short telecommand frame and a telemetry frame of sixteen octets. -/
theorem configurationsSound_iff_small :
    TcSound shortFrameSender ∧ TmSound ((osdlpTmInit default sixteenArgs).getD default) := by
  obtain ⟨htc, htm⟩ := configurationsSound_iff default default shortFrameSender shortFrameArgs
    default default ((osdlpTmInit default sixteenArgs).getD default) sixteenArgs
  exact ⟨(htc rfl).mpr (by decide), (htm rfl).mpr (by decide)⟩

/-- With a segment header and a checksum, a frame of eight octets has no room for data, and a
telemetry frame of seven octets is not long enough for its checksum. -/
theorem not_configurationsSound_no_room :
    (∃ tf : FopFrame, osdlpTcInit default default
        { shortFrameArgs with crcFlag := true } default = some tf ∧
        tf.mission.maxDataLen = 0 ∧ ¬ TcSound tf) ∧
      ∃ tf, osdlpTmInit default { sixteenArgs with frameSize := 7 } = some tf ∧
        tf.mission.maxDataLen = 65535 ∧ ¬ TmSound tf := by
  refine ⟨⟨_, rfl, by decide, fun h => ?_⟩, _, rfl, by decide, fun h => ?_⟩
  · exact absurd h.room (by decide)
  · exact absurd h.shape.frame (by decide)

end Osdlp.Analysis
