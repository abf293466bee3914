import Osdlp.Interface.FopMoves

/-!
# A numbered sent queue

`Mirrors` says that the sent queue holds the type-A items numbered NN(R), …, V(S) − 1.
These are the facts about such a queue: how long it is, when the window has room, what the
removal of acknowledged frames leaves of it, and what a transmission adds.
-/

set_option autoImplicit false

namespace Osdlp.Interface

open Osdlp.Model Osdlp.Library

/-- Number and type of an item. -/
def itemKey (item : QueueItem) : UInt8 × TcBypass := (item.seqNum, item.type)

/-- The keys of type-A items with the given numbers. -/
def typeaKeys (numbers : List UInt8) : List (UInt8 × TcBypass) := numbers.map fun n => (n, .typeA)

/-- The sent queue holds the type-A items numbered NN(R), …, V(S) − 1, in this order. -/
def Mirrors (s : Fop) : Prop :=
  s.world.sentQueue.map itemKey =
    typeaKeys (consecutive s.tf.copCfg.nnr (seqDist s.tf.copCfg.nnr s.tf.copCfg.vs))

/-- Copies determine keys. -/
theorem map_itemKey_of_itemCopy {items items' : List QueueItem}
    (h : items'.map itemCopy = items.map itemCopy) : items'.map itemKey = items.map itemKey := by
  have hkey : itemKey = (fun c : List UInt8 × UInt8 × TcBypass => c.2) ∘ itemCopy := rfl
  rw [hkey, ← List.map_map, ← List.map_map, h]

/-- As many items as there are numbers from NN(R) to V(S). -/
theorem Mirrors.length {s : Fop} (h : Mirrors s) :
    s.world.sentQueue.length = seqDist s.tf.copCfg.nnr s.tf.copCfg.vs := by
  have hlen := congrArg List.length h
  simpa [typeaKeys] using hlen

/-- The queue is empty exactly when everything sent has been acknowledged. -/
theorem Mirrors.nil_iff {s : Fop} (h : Mirrors s) :
    s.world.sentQueue = [] ↔ s.tf.copCfg.nnr = s.tf.copCfg.vs := by
  rw [← List.length_eq_zero_iff, h.length, seqDist_eq_zero]

theorem mirrors_nil {s : Fop} (hq : s.world.sentQueue = [])
    (hvs : s.tf.copCfg.nnr = s.tf.copCfg.vs) :
    Mirrors s := by
  unfold Mirrors
  rw [hq, hvs, seqDist_self]
  rfl

/-- An empty queue mirrors exactly the counters that agree. -/
theorem mirrors_of_nil_iff {s : Fop} (hq : s.world.sentQueue = []) :
    Mirrors s ↔ s.tf.copCfg.nnr = s.tf.copCfg.vs :=
  ⟨fun h => h.nil_iff.mp hq, mirrors_nil hq⟩

/-- Mirroring only looks at the counters and at the keys of the queue. -/
theorem mirrors_congr {s s' : Fop} (hvs : s'.tf.copCfg.vs = s.tf.copCfg.vs)
    (hnnr : s'.tf.copCfg.nnr = s.tf.copCfg.nnr)
    (hq : s'.world.sentQueue.map itemKey = s.world.sentQueue.map itemKey) :
    Mirrors s' ↔ Mirrors s := by
  unfold Mirrors
  rw [hvs, hnnr, hq]

/-! ## Room in the window -/

/-- The test of the source is the test of the distance exactly if the end of the window goes round
with V(S).
SOURCE: osdlp_cop.c:387-393, 415-449 -/
theorem fopRoom_dist (fop : FopConfig) :
    (fopRoom fop = true ↔ seqDist fop.nnr fop.vs < fop.slideWnd.toNat) ↔
      (fop.vs.toNat < fop.nnr.toNat → 256 ≤ fop.nnr.toNat + fop.slideWnd.toNat) := by
  have hv := fop.vs.toNat_lt
  have hn := fop.nnr.toNat_lt
  have hw := fop.slideWnd.toNat_lt
  unfold fopRoom conditionFopInwindow
  rcases Nat.lt_or_ge fop.vs.toNat fop.nnr.toNat with hlt | hle
  · have hd := seqDist_of_lt hlt
    have hge : ¬ fop.vs ≥ fop.nnr := by
      rw [ge_iff_le, UInt8.le_iff_toNat_le]
      omega
    split_ifs with hwrap
    · simp only [hge, decide_false, Bool.false_or, decide_eq_true_eq]
      omega
    · simp only [decide_eq_true_eq]
      omega
  · have hd := seqDist_of_le hle
    have hge : fop.vs ≥ fop.nnr := UInt8.le_iff_toNat_le.mpr hle
    split_ifs with hwrap
    · simp only [hge, decide_true, Bool.true_or, true_iff]
      omega
    · simp only [decide_eq_true_eq]
      omega

/-- So it is as long as the window is not exceeded. -/
theorem fopRoom_iff {fop : FopConfig} (h : seqDist fop.nnr fop.vs ≤ fop.slideWnd.toNat) :
    fopRoom fop ↔ seqDist fop.nnr fop.vs < fop.slideWnd.toNat := by
  refine (fopRoom_dist fop).mpr fun hlt => ?_
  have hn := fop.nnr.toNat_lt
  rw [seqDist_of_lt hlt] at h
  omega

/-! ## Acknowledgement -/

/-- Acknowledging a number within the queue drops what lies before it, as far as the counter allows.
-/
theorem dropAcked_numbered {items : List QueueItem} {a n : UInt8} {left : ℕ}
    (hnum : items.map QueueItem.seqNum = consecutive a items.length)
    (hd : seqDist a n ≤ items.length) :
    dropAcked n left items = items.drop (min (seqDist a n) left) := by
  induction items generalizing a left with
  | nil => cases left <;> simp [dropAcked]
  | cons item items ih =>
    cases left with
    | zero =>
      rw [Nat.min_zero, List.drop_zero]
      rfl
    | succ left =>
      rw [List.map_cons, List.length_cons, consecutive, List.cons.injEq] at hnum
      obtain ⟨hhead, htail⟩ := hnum
      rw [dropAcked, hhead]
      by_cases han : a = n
      · rw [if_pos han, han, seqDist_self, Nat.zero_min, List.drop_zero]
      · have hpos : seqDist a n ≠ 0 := fun h => han (seqDist_eq_zero.mp h)
        have hnext : seqDist (a + 1) n = seqDist a n - 1 := seqDist_succ_left han
        rw [List.length_cons] at hd
        have hmin : min (seqDist a n) (left + 1) = min (seqDist a n - 1) left + 1 := by omega
        rw [if_neg han, ih htail (by omega), hnext, hmin, List.drop_succ_cons]

/-- The items are numbered consecutively from NN(R) on. -/
theorem Mirrors.seqNums {s : Fop} (h : Mirrors s) :
    s.world.sentQueue.map QueueItem.seqNum =
      consecutive s.tf.copCfg.nnr s.world.sentQueue.length := by
  have hnum := congrArg (List.map Prod.fst) h
  rw [List.map_map] at hnum
  rw [h.length]
  simpa [typeaKeys, Function.comp_def, itemKey] using hnum

/-- The first item is numbered NN(R). -/
theorem Mirrors.head {s : Fop} (h : Mirrors s) {item : QueueItem} {items : List QueueItem}
    (hq : s.world.sentQueue = item :: items) : item.seqNum = s.tf.copCfg.nnr := by
  have hnum := h.seqNums
  rw [hq, List.map_cons, List.length_cons, consecutive, List.cons.injEq] at hnum
  exact hnum.1

/-- Fewer than 256 consecutive numbers are different. -/
theorem Mirrors.nodup {s : Fop} (h : Mirrors s) :
    (s.world.sentQueue.map QueueItem.seqNum).Nodup := by
  rw [h.seqNums, h.length]
  exact nodup_consecutive _ (seqDist_lt _ _).le

/-- No command lies among the outstanding frames. -/
theorem Mirrors.typea {s : Fop} (h : Mirrors s) {item : QueueItem}
    (hmem : item ∈ s.world.sentQueue) : item.type = .typeA := by
  have hkey : itemKey item ∈ s.world.sentQueue.map itemKey := List.mem_map_of_mem hmem
  rw [h] at hkey
  obtain ⟨n, -, hn⟩ := List.mem_map.mp hkey
  exact (congrArg Prod.snd hn).symm

/-- What the removal of acknowledged frames leaves if the counter allows for all of them: N(R) as the
new NN(R), and the queue without what N(R) acknowledges. -/
theorem Mirrors.acked_of_le {s : Fop} (h : Mirrors s) {n : UInt8}
    (hrange : InRange s.tf.copCfg n)
    (hwnd : seqDist s.tf.copCfg.nnr n ≤ s.tf.copCfg.slideWnd.toNat + 1) :
    let s' := acked n (s.tf.copCfg.slideWnd.toNat + 1) s
    s'.world.sentQueue = s.world.sentQueue.drop (seqDist s.tf.copCfg.nnr n) ∧
      s'.tf.copCfg.nnr = n ∧ Mirrors s' := by
  have hd : seqDist s.tf.copCfg.nnr n ≤ s.world.sentQueue.length := by
    rw [h.length]
    exact hrange
  have hdrop := @dropAcked_numbered _ _ _ (s.tf.copCfg.slideWnd.toNat + 1) h.seqNums hd
  rw [Nat.min_eq_left hwnd] at hdrop
  have hkeys : (s.world.sentQueue.drop (seqDist s.tf.copCfg.nnr n)).map itemKey =
      typeaKeys (consecutive n (seqDist n s.tf.copCfg.vs)) := by
    rw [List.map_drop, h, typeaKeys, ← List.map_drop, consecutive_drop, add_seqDist,
      seqDist_sub hrange]
    rfl
  intro s'
  have hs' : s' = if s.world.sentQueue.drop (seqDist s.tf.copCfg.nnr n) = s.world.sentQueue
      then s else removed n (s.world.sentQueue.drop (seqDist s.tf.copCfg.nnr n)) s := by
    show Interface.acked n _ s = _
    unfold Interface.acked
    rw [hdrop]
  split_ifs at hs' with heq
  · have hzero : seqDist s.tf.copCfg.nnr n = 0 := by
      have hlen := congrArg List.length heq
      rw [List.length_drop] at hlen
      omega
    have hn : s.tf.copCfg.nnr = n := seqDist_eq_zero.mp hzero
    rw [hs']
    exact ⟨heq.symm, hn, h⟩
  · rw [hs']
    exact ⟨rfl, rfl, hkeys⟩

/-- So it is where no more than the window is outstanding. -/
theorem Mirrors.acked {s : Fop} (h : Mirrors s) {n : UInt8} (hrange : InRange s.tf.copCfg n)
    (hwnd : s.world.sentQueue.length ≤ s.tf.copCfg.slideWnd.toNat) :
    let s' := acked n (s.tf.copCfg.slideWnd.toNat + 1) s
    s'.world.sentQueue = s.world.sentQueue.drop (seqDist s.tf.copCfg.nnr n) ∧
      s'.tf.copCfg.nnr = n ∧ Mirrors s' := by
  refine h.acked_of_le hrange ?_
  rw [h.length] at hwnd
  exact (hrange.trans hwnd).trans (Nat.le_succ _)

/-! ## Transmission -/

theorem transmitted_vs (s : Fop) : (transmitted s).tf.copCfg.vs = s.tf.copCfg.vs + 1 :=
  toNat_succ_mod s.tf.copCfg.vs

/-- A transmission with room in the window keeps the queue numbered. -/
theorem Mirrors.transmitted {s : Fop} (h : Mirrors s)
    (hroom : seqDist s.tf.copCfg.nnr s.tf.copCfg.vs < 255) : Mirrors (transmitted s) := by
  unfold Mirrors
  rw [transmitted_vs]
  show (s.world.sentQueue ++ [_]).map itemKey = typeaKeys (consecutive s.tf.copCfg.nnr
    (seqDist s.tf.copCfg.nnr (s.tf.copCfg.vs + 1)))
  rw [seqDist_succ_right hroom, consecutive_concat, add_seqDist, List.map_append, h]
  simp [typeaKeys, itemKey, newItem]

end Osdlp.Interface
