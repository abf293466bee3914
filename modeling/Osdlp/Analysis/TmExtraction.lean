import Osdlp.Analysis.TmRoundTrip
import Osdlp.Interface.TmStuffing

/-!
# Extraction of stuffed packets

The frames of packets that are laid out back to back, idle frames in between, hand over the
packets that are not `Lost` (`receiveAll_stream`), so all of them exactly if none is
(`extracts_iff`).
-/

set_option autoImplicit false

namespace Osdlp.Analysis

open Osdlp.Model Osdlp.Interface Osdlp.Library

/-- The frame is not an idle frame. -/
def CarriesData (frame : List UInt8) : Prop := tmFirstHdrPtr frame ≠ tmFirstHdrPtrOid

instance : DecidablePred CarriesData := fun _ => inferInstanceAs (Decidable (_ ≠ _))

variable {m : TmMissionParams} {r : TmReceiver} {h start n fuel : ℕ} {frame : List UInt8}
  {packets : List (List UInt8)} {getPacketLen : GetPacketLen}

/-- An idle frame changes neither the utility buffer nor the receive queue.
SOURCE: osdlp_tm.c:763-765 -/
theorem osdlpTmReceive_idle (hheard : Heard r frame) (hidle : ¬ CarriesData frame) :
    osdlpTmReceive getPacketLen fuel 0 r frame =
      some (TmRxResult.oid.code, { r with tf := osdlpTmUnpack r.tf frame }) := by
  have hptr : (osdlpTmUnpack r.tf frame).primaryHdr.firstHdrPtr = tmFirstHdrPtrOid := not_not.mp hidle
  unfold Heard at hheard
  unfold osdlpTmReceive
  dsimp only
  rw [if_neg (by decide), if_neg (not_not.mpr hheard), if_pos hptr]

/-- A frame with data reaches the handlers.
SOURCE: osdlp_tm.c:748-772 -/
theorem osdlpTmReceive_stuffing (hlistens : Listens m r) (hon : m.stuffState = .stuffingOn)
    (hheard : Heard r frame) (hdata : CarriesData frame) {result : TmRxResult} {r' : TmReceiver}
    (hcall : handleRxStuffing getPacketLen fuel { r with tf := osdlpTmUnpack r.tf frame } =
      some (result, r')) :
    osdlpTmReceive getPacketLen fuel 0 r frame = some (-result.code, r') := by
  have hptr : ¬ (osdlpTmUnpack r.tf frame).primaryHdr.firstHdrPtr = tmFirstHdrPtrOid := hdata
  have hstuff : (osdlpTmUnpack r.tf frame).mission.stuffState = .stuffingOn := by
    show r.tf.mission.stuffState = _
    rw [hlistens]
    exact hon
  unfold Heard at hheard
  unfold osdlpTmReceive
  dsimp only
  rw [if_neg (by decide), if_neg (not_not.mpr hheard), if_neg hptr, hstuff]
  dsimp only
  rw [hcall]
  rfl

/-- Packets that have a header are not empty. -/
theorem nil_of_flatten_length (hpos : 0 < h) (hvalid : ∀ p ∈ packets, Stuffable m h p)
    (hlen : packets.flatten.length = 0) : packets = [] := by
  cases packets with
  | nil => rfl
  | cons packet packets =>
    have hheader := (hvalid packet List.mem_cons_self).header
    rw [List.flatten_cons, List.length_append] at hlen
    omega

/-- Frames that carry the stream from a position on, and idle frames, hand over the packets
that are not lost. -/
theorem receiveAll_stream (hon : m.stuffState = .stuffingOn) (hcrc : m.crcPresent = true)
    (hfits : TmFits m) (hpos : 0 < h) (hroom : h ≤ m.maxDataLen)
    (hhook : TellsFrom getPacketLen h packets) (hvalid : ∀ p ∈ packets, Stuffable m h p)
    (hfuel : m.maxDataLen ≤ fuel) {frames : List (List UInt8)}
    (hsound : ∀ f ∈ frames, Sound m f) (count : ℕ)
    (hcells : (frames.filter CarriesData).map (tmCell m) =
      (List.range count).map fun k => streamCell m.maxDataLen packets (n + k * m.maxDataLen))
    (hmany : packets.flatten.length ≤ n + count * m.maxDataLen)
    (hfew : n + count * m.maxDataLen < packets.flatten.length + m.maxDataLen)
    (hlistens : Listens m r) (hacc : Accepting r.answers)
    (hstands : 0 < count → Stands m h start r.tf.mission.util packets n)
    (hstart : (start + n) % m.maxDataLen = 0) (hdone : count = 0 → packets = []) :
    ∃ r' handed, receiveAll getPacketLen fuel r frames = some r' ∧ Delivers r r' handed ∧
      List.Forall₂ (· <+: ·) (surviving m h start packets) handed := by
  induction frames generalizing r packets start n count with
  | nil =>
    have hcount : count = 0 := by
      have hlen := congrArg List.length hcells
      simpa using hlen.symm
    obtain rfl := hdone hcount
    exact ⟨r, [], rfl, .refl r, .nil⟩
  | cons frame frames ih =>
    have hf := hsound frame List.mem_cons_self
    have hsound' : ∀ f ∈ frames, Sound m f := fun f hmem => hsound f (List.mem_cons_of_mem _ hmem)
    have hheard : Heard r frame := hlistens.crc hcrc hf
    by_cases hdata : CarriesData frame
    · rw [List.filter_cons_of_pos (by simpa using hdata), List.map_cons] at hcells
      obtain ⟨count, rfl⟩ : ∃ k, count = k + 1 := by
        cases count with
        | zero => exact absurd hcells (List.cons_ne_nil _ _)
        | succ k => exact ⟨k, rfl⟩
      rw [List.range_succ_eq_map, List.map_cons, List.map_map, Nat.zero_mul, Nat.add_zero] at hcells
      obtain ⟨hcell, hcells⟩ := List.cons.inj hcells
      rw [Nat.succ_mul] at hmany hfew
      have hholds := hlistens.holds hfits.frame hf
      rw [hcell] at hholds
      obtain ⟨result, r₁, hcall, hlistens₁, done, rest, n', handed, rfl, hdel, hhanded, hlen,
          hstands₁⟩ :=
        handleRxStuffing_advances (r := { r with tf := osdlpTmUnpack r.tf frame }) hfits hpos hroom
          hhook hvalid hfuel hacc hholds (hstands (Nat.succ_pos _)) hstart
      have hdel' : Delivers r r₁ handed := ⟨hdel.taken, hdel.accepting⟩
      rw [List.flatten_append, List.length_append] at hmany hfew
      -- behind the last packet the position in the stream is free to choose
      obtain ⟨n', hlen, hstands₁⟩ : ∃ n', n + m.maxDataLen = done.flatten.length + n' ∧
          (rest = [] ∨ Stands m h (start + done.flatten.length) r₁.tf.mission.util rest n') := by
        rcases hlen with ⟨hnil, hle⟩ | hlen
        · exact ⟨n + m.maxDataLen - done.flatten.length, by omega, .inl hnil⟩
        · exact ⟨n', hlen, .inr hstands₁⟩
      have hvalidRest : ∀ p ∈ rest, Stuffable m h p := fun p hp =>
        hvalid p (List.mem_append_right _ hp)
      obtain ⟨r', handed', hreceived, hdel'', hhanded'⟩ := ih
        ⟨fun p hp => hhook.tells p (List.mem_append_right _ hp), hhook.short⟩ hvalidRest hsound' count
        (by
          rw [hcells]
          refine List.map_congr_left fun k _ => ?_
          show streamCell _ _ (n + (k + 1) * m.maxDataLen) = _
          rw [← streamCell_append_add m.maxDataLen done rest, Nat.succ_mul]
          congr 1
          omega)
        (by omega) (by omega) hlistens₁ (hdel.accepting hacc).1
        (fun hcount => hstands₁.resolve_left (by
          rintro rfl
          have hmore : m.maxDataLen ≤ count * m.maxDataLen := Nat.le_mul_of_pos_left _ hcount
          rw [List.flatten_nil, List.length_nil] at hfew
          omega))
        (by
          rw [Nat.add_assoc, ← hlen, ← Nat.add_assoc, Nat.add_mod_right]
          exact hstart)
        (fun hzero => by
          subst hzero
          rw [Nat.zero_mul] at hmany
          rcases hstands₁ with hnil | rfl | ⟨packet, rest, rfl, hlt, -⟩
          · exact hnil
          · exact nil_of_flatten_length hpos hvalidRest (by omega)
          · rw [List.flatten_cons, List.length_append] at hmany
            omega)
      refine ⟨r', handed ++ handed', ?_, hdel'.trans hdel'', ?_⟩
      · unfold receiveAll
        rw [osdlpTmReceive_stuffing hlistens hon hheard hdata hcall]
        exact hreceived
      · rw [surviving_append]
        exact List.rel_append hhanded hhanded'
    · rw [List.filter_cons_of_neg (by simpa using hdata)] at hcells
      obtain ⟨r', handed, hreceived, hdel, hhanded⟩ := ih hhook hvalid hsound' count hcells hmany hfew
        (hlistens.unpack frame) hacc hstands hstart hdone
      refine ⟨r', handed, ?_, ⟨hdel.taken, hdel.accepting⟩, hhanded⟩
      unfold receiveAll
      rw [osdlpTmReceive_idle hheard hdata]
      exact hreceived

/-! ## None is lost -/

/-- Packets get lost and do not multiply. -/
theorem length_surviving_le (m : TmMissionParams) (h start : ℕ) (packets : List (List UInt8)) :
    (surviving m h start packets).length ≤ packets.length := by
  induction packets generalizing start with
  | nil => exact Nat.le_refl 0
  | cons packet packets ih =>
    have hrest := ih (start + packet.length)
    unfold surviving
    split_ifs
    · exact hrest.trans (Nat.le_succ _)
    · exact Nat.succ_le_succ hrest

/-- Where no packet is lost, all survive. -/
theorem surviving_eq_self (hnone : ∀ sent packet rest, packets = sent ++ packet :: rest →
    ¬ Lost m h (start + sent.flatten.length) packet) : surviving m h start packets = packets := by
  induction packets generalizing start with
  | nil => rfl
  | cons packet packets ih =>
    unfold surviving
    have hfirst : ¬ Lost m h start packet := hnone [] packet packets rfl
    rw [if_neg hfirst, ih]
    intro sent p rest heq
    have hsent := hnone (packet :: sent) p rest (by rw [heq]; rfl)
    rwa [List.flatten_cons, List.length_append, ← Nat.add_assoc] at hsent

/-- Where a packet is lost, fewer survive. -/
theorem length_surviving_lt {sent : List (List UInt8)} {packet : List UInt8}
    (rest : List (List UInt8)) (hlost : Lost m h (start + sent.flatten.length) packet) :
    (surviving m h start (sent ++ packet :: rest)).length < (sent ++ packet :: rest).length := by
  have hsent := length_surviving_le m h start sent
  have hrest := length_surviving_le m h (start + sent.flatten.length + packet.length) rest
  rw [surviving_append, List.length_append, List.length_append, List.length_cons]
  conv_lhs => rw [surviving, if_pos hlost]
  omega

/-- The stuffed packets are delivered, all of them and in order, exactly if none has both the
maximal length and a header that straddles two frames.
SOURCE: osdlp_tm.c:504-772 -/
theorem extracts_iff {a : TmInitArgs} {tf₀ rx : TmTransferFrame} (hrx : osdlpTmInit tf₀ a = some rx)
    (hcrc : a.crcFlag = true) (hon : a.stuffing = .stuffingOn) (hsize : a.frameSize.toNat ≤ 2048)
    (hpos : 0 < h) (hroom : a.occupied + h ≤ a.frameSize.toNat) {answers : List Int}
    (hacc : Accepting answers) (hhook : TellsFrom getPacketLen h packets)
    (hvalid : ∀ packet ∈ packets, Stuffable a.mission h packet) {frames : List (List UInt8)}
    (hsound : ∀ frame ∈ frames, Sound a.mission frame)
    (hcells : (frames.filter CarriesData).map (tmCell a.mission) =
      stuffedCells a.mission.maxDataLen packets) (hfuel : a.mission.maxDataLen ≤ fuel) :
    (∃ r', receiveAll getPacketLen fuel { tf := rx, delivered := [], answers := answers } frames =
        some r' ∧ List.Forall₂ (· <+: ·) packets r'.delivered) ↔
      ∀ sent packet rest, packets = sent ++ packet :: rest →
        ¬ Lost a.mission h sent.flatten.length packet := by
  obtain ⟨hfits, hmax⟩ := osdlpTmInit_fits hpos hsize hroom
  have hlistens : Listens a.mission { tf := rx, delivered := [], answers := answers } :=
    osdlpTmInit_listens hrx [] answers
  have hpos' := hfits.pos
  have hdiv := Nat.div_add_mod (packets.flatten.length + a.mission.maxDataLen - 1) a.mission.maxDataLen
  have hmod := Nat.mod_lt (packets.flatten.length + a.mission.maxDataLen - 1) hpos'
  rw [Nat.mul_comm] at hdiv
  obtain ⟨r', handed, hreceived, hdel, hhanded⟩ := receiveAll_stream (n := 0) hon hcrc
    hfits hpos hmax hhook hvalid hfuel hsound _
    (by simpa only [Nat.zero_add, stuffedCells] using hcells) (by omega) (by omega) hlistens hacc
    (fun _ => .inl rfl) (Nat.zero_mod _)
    (fun hzero => nil_of_flatten_length hpos hvalid (by rw [hzero, Nat.zero_mul] at hdiv; omega))
  have hdelivered : r'.delivered = handed := (hdel.accepting hacc).2
  constructor
  · rintro ⟨r'', hreceived', hall⟩ sent packet rest rfl hlost
    obtain rfl : r' = r'' := Option.some.inj (hreceived.symm.trans hreceived')
    rw [hdelivered] at hall
    rw [← Nat.zero_add sent.flatten.length] at hlost
    have hlt := length_surviving_lt rest hlost
    rw [hhanded.length_eq, ← hall.length_eq] at hlt
    exact Nat.lt_irrefl _ hlt
  · intro hnone
    refine ⟨r', hreceived, ?_⟩
    rw [surviving_eq_self fun sent packet rest heq => by
      rw [Nat.zero_add]
      exact hnone sent packet rest heq] at hhanded
    rw [hdelivered]
    exact hhanded

/-- Small frames with stuffing, for packets of ten octets at most. -/
def tenOctets : TmInitArgs := { smallFrames with stuffing := .stuffingOn, maxSduLen := 10 }

/-- A packet of five octets, and one of the maximal length behind it. -/
def fiveAndTen : List (List UInt8) := [[1, 5, 0, 0, 0], [1, 10, 2, 2, 2, 2, 2, 2, 2, 2]]

/-- The frames of these packets. -/
def fiveAndTenFrames : List (List UInt8) :=
  [[0, 0, 1, 1, 0x18, 0, 1, 5, 0, 0, 0, 1, 85, 39],
    [0, 0, 2, 2, 0x1F, 0xFF, 10, 2, 2, 2, 2, 2, 218, 186],
    [0, 0, 3, 3, 0x18, 3, 2, 2, 2, 0xE0, 0xE0, 0xE0, 140, 152]]

/-- The condition, for a header that straddles two frames. -/
theorem extracts_iff_five_and_ten :
    ∃ rx, osdlpTmInit default tenOctets = some rx ∧
      ((∃ r', receiveAll (lengthOctet 1) 6 { tf := rx, delivered := [], answers := [] }
          fiveAndTenFrames = some r' ∧ List.Forall₂ (· <+: ·) fiveAndTen r'.delivered) ↔
        ∀ sent packet rest, fiveAndTen = sent ++ packet :: rest →
          ¬ Lost tenOctets.mission 2 sent.flatten.length packet) := by
  refine ⟨_, rfl, ?_⟩
  exact extracts_iff (a := tenOctets) (h := 2)
    (show osdlpTmInit default tenOctets = some _ from rfl) rfl rfl (by decide) (by decide)
    (by decide) (by simp [Accepting]) (lengthOctet_tellsFrom (by decide)) (by decide) (by decide +kernel)
    (by decide +kernel) (by decide)

/-- The second packet has the maximal length, and its header straddles two frames: it is not
delivered. -/
theorem not_extracts_five_and_ten :
    let m := tenOctets.mission
    (∀ packet ∈ fiveAndTen, Stuffable m 2 packet) ∧ (∀ frame ∈ fiveAndTenFrames, Sound m frame) ∧
      TellsFrom (lengthOctet 1) 2 fiveAndTen ∧
      fiveAndTenFrames.map (tmCell m) = stuffedCells m.maxDataLen fiveAndTen ∧
      ∃ rx r', osdlpTmInit default tenOctets = some rx ∧
        receiveAll (lengthOctet 1) 6 { tf := rx, delivered := [], answers := [] }
          fiveAndTenFrames = some r' ∧
        r'.delivered = [[1, 5, 0, 0, 0]] ∧ ¬ List.Forall₂ (· <+: ·) fiveAndTen r'.delivered := by
  intro m
  refine ⟨by decide, by decide +kernel, lengthOctet_tellsFrom (by decide), by decide +kernel, ?_⟩
  have hreceived : ((osdlpTmInit default tenOctets).bind fun rx =>
      (receiveAll (lengthOctet 1) 6 { tf := rx, delivered := [], answers := [] }
        fiveAndTenFrames).map TmReceiver.delivered) = some [[1, 5, 0, 0, 0]] := by
    decide +kernel
  obtain ⟨rx, hrx, hmap⟩ := Option.bind_eq_some_iff.mp hreceived
  obtain ⟨r', hr', hdelivered⟩ := Option.map_eq_some_iff.mp hmap
  refine ⟨rx, r', hrx, hr', hdelivered, fun hall => ?_⟩
  have hlen := hall.length_eq
  rw [hdelivered] at hlen
  exact absurd hlen (by decide)

end Osdlp.Analysis
