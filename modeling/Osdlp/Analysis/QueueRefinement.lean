import Osdlp.Library.RingBuffer
import Osdlp.Library.Run
import Osdlp.Model.QueueUtil

/-!
# The queues of the tests are first-in first-out

After any operations since `init`, a queue of the tests answers as a list of items does that takes no
more of them than its capacity (`queue_refines`).  A full queue is the exception: `front` and `back`
take it for empty, and `enqueue_now` writes over its oldest item.
-/

set_option autoImplicit false

namespace Osdlp.Analysis

open Osdlp.Model Osdlp.Library

/-- The operations that change a queue. -/
inductive QueueOp
  | enqueue (pkt : List UInt8)
  | enqueueNow (pkt : List UInt8)
  | dequeue
  | resetQueue

/-- One operation. -/
def queueStep (que : Queue) : QueueOp → Queue
  | .enqueue pkt => (que.enqueue pkt).2
  | .enqueueNow pkt => (que.enqueueNow pkt).2
  | .dequeue => que.dequeue.2
  | .resetQueue => que.resetQueue

/-- What it makes of the list of items. -/
def itemsStep (capacity itemSize : ℕ) (items : List (List UInt8)) : QueueOp → List (List UInt8)
  | .enqueue pkt =>
    if items.length < capacity then items ++ [region pkt 0 itemSize] else items
  | .enqueueNow pkt =>
    if items.length < capacity then items ++ [region pkt 0 itemSize]
    else region pkt 0 itemSize :: items.tail
  | .dequeue => items.tail
  | .resetQueue => []

/-- The items lie in the slots from the head on. -/
structure Represents (capacity itemSize : ℕ) (que : Queue) (items : List (List UInt8)) : Prop where
  sameCapacity : que.capacity = capacity
  sameItemSize : que.itemSize = itemSize
  memSpace : que.memSpace.length = capacity * itemSize
  ring : InRing capacity que.item que.head items
  tail : que.tail = wrap capacity (que.head + items.length)
  inqueue : que.inqueue = items.length

/-- What a queue answers is what the list of its items does. -/
structure AnswersAs (capacity : ℕ) (que : Queue) (items : List (List UInt8)) : Prop where
  enqueue : ∀ pkt, (que.enqueue pkt).1 = if items.length < capacity then 0 else -1
  dequeue : que.dequeue.1 = items.head?
  full : que.full = decide (items.length = capacity)
  getElement : ∀ pos, que.getElement pos = items[pos]?
  front : que.front = if items.length = capacity then none else items.head?
  back : que.back = if items.length = capacity then none else items.getLast?

variable {capacity itemSize : ℕ} {que : Queue} {items : List (List UInt8)}

/-! ## One slot -/

/-- Slots do not overlap. -/
theorem slots_disjoint {slot slot' : ℕ} (h : slot' ≠ slot) (k : ℕ) :
    slot' * k + k ≤ slot * k ∨ slot * k + k ≤ slot' * k := by
  rcases Nat.lt_or_gt_of_ne h with hlt | hgt
  · left
    rw [← Nat.succ_mul]
    exact Nat.mul_le_mul_right k hlt
  · right
    rw [← Nat.succ_mul]
    exact Nat.mul_le_mul_right k hgt

theorem item_store_self (que : Queue) (slot : ℕ) (pkt : List UInt8) :
    (que.store slot pkt).item slot = region pkt 0 que.itemSize :=
  region_memWrite_self _ _ (length_region _ _ _)

/-- The slots that are not. -/
theorem item_store_of_ne (que : Queue) {slot slot' : ℕ} (h : slot' ≠ slot) (pkt : List UInt8) :
    (que.store slot pkt).item slot' = que.item slot' := by
  refine region_memWrite_of_disjoint ?_
  rw [length_region]
  exact slots_disjoint h que.itemSize

/-- A slot is inside the memory space. -/
theorem Represents.length_store (h : Represents capacity itemSize que items) {slot : ℕ}
    (hslot : slot < capacity) (pkt : List UInt8) :
    (que.store slot pkt).memSpace.length = capacity * itemSize := by
  have hin : slot * itemSize + itemSize ≤ capacity * itemSize := by
    rw [← Nat.succ_mul]
    exact Nat.mul_le_mul_right itemSize hslot
  unfold Queue.store
  rw [length_memWrite, length_region, h.memSpace, h.sameItemSize]
  omega

/-! ## One operation -/

/-- The tail is a slot of the ring. -/
theorem Represents.tail_lt (h : Represents capacity itemSize que items) : que.tail < capacity := by
  have hinside := h.ring.inside
  have hroom := h.ring.room
  rw [h.tail]
  exact wrap_lt (by omega)

/-- The next item goes into the slot at the tail. -/
theorem Represents.push (h : Represents capacity itemSize que items)
    (hroom : items.length < capacity) (pkt : List UInt8) :
    Represents capacity itemSize
      { que.store que.tail pkt with
        tail := if que.tail + 1 ≥ que.capacity then 0 else que.tail + 1
        inqueue := que.inqueue + 1 } (items ++ [region pkt 0 itemSize]) := by
  have hinside := h.ring.inside
  have htail := h.tail_lt
  have hnext : (if que.tail + 1 ≥ que.capacity then 0 else que.tail + 1) =
      wrap capacity (que.head + (items.length + 1)) := by
    rw [h.sameCapacity, h.tail]
    unfold wrap
    split_ifs <;> omega
  refine ⟨h.sameCapacity, h.sameItemSize, h.length_store htail pkt, ?_, ?_, ?_⟩
  · refine h.ring.push hroom ?_ fun i _ hne => ?_
    · rw [← h.tail, ← h.sameItemSize]
      exact item_store_self que que.tail pkt
    · rw [← h.tail] at hne
      exact item_store_of_ne que hne pkt
  · rw [List.length_append, List.length_singleton]
    exact hnext
  · rw [List.length_append, List.length_singleton]
    exact congrArg (· + 1) h.inqueue

/-- The oldest item is written over: in a full queue the tail is at the head. -/
theorem Represents.replaceHead (h : Represents capacity itemSize que items)
    (hfull : ¬ items.length < capacity) (pkt : List UInt8) :
    Represents capacity itemSize (que.store que.tail pkt)
      (region pkt 0 itemSize :: items.tail) := by
  have hinside := h.ring.inside
  have hroom := h.ring.room
  have htail : que.tail = que.head := by
    rw [h.tail]
    unfold wrap
    split_ifs <;> omega
  cases items with
  | nil => exact absurd hinside (by simp at hfull; omega)
  | cons item items =>
    refine ⟨h.sameCapacity, h.sameItemSize, h.length_store h.tail_lt pkt, ?_, h.tail, h.inqueue⟩
    refine h.ring.replaceHead ?_ fun i _ hne => ?_
    · rw [htail, ← h.sameItemSize]
      exact item_store_self que que.head pkt
    · rw [htail]
      exact item_store_of_ne que hne pkt

/-- SOURCE: test/queue_util.c:79-94 -/
theorem Represents.pop (h : Represents capacity itemSize que items) :
    que.dequeue.1 = items.head? ∧ Represents capacity itemSize que.dequeue.2 items.tail := by
  have hinside := h.ring.inside
  have hinqueue := h.inqueue
  unfold Queue.dequeue
  cases items with
  | nil =>
    rw [List.length_nil] at hinqueue
    rw [if_neg (by omega)]
    exact ⟨rfl, h⟩
  | cons item items =>
    have hfirst := h.ring.holds 0 (Nat.succ_pos _)
    rw [Nat.add_zero, wrap_of_lt hinside] at hfirst
    have hroom : items.length + 1 ≤ capacity := h.ring.room
    have hhead : (if que.head + 1 ≥ que.capacity then 0 else que.head + 1) =
        wrap capacity (que.head + 1) := by
      rw [h.sameCapacity, wrap_succ hinside]
    rw [List.length_cons] at hinqueue
    rw [if_pos (by omega), hhead]
    refine ⟨congrArg some hfirst, h.sameCapacity, h.sameItemSize, h.memSpace, h.ring.pop, ?_, ?_⟩
    · show que.tail = wrap capacity (wrap capacity (que.head + 1) + items.length)
      rw [h.tail, List.length_cons]
      unfold wrap
      split_ifs <;> omega
    · show que.inqueue - 1 = items.length
      omega

/-- Every operation is that on the list, by cases. -/
theorem Represents.step (h : Represents capacity itemSize que items) (op : QueueOp) :
    Represents capacity itemSize (queueStep que op) (itemsStep capacity itemSize items op) := by
  have hroom : que.inqueue < que.capacity ↔ items.length < capacity := by
    rw [h.inqueue, h.sameCapacity]
  cases op with
  | enqueue pkt =>
    unfold queueStep itemsStep Queue.enqueue
    dsimp only
    by_cases hsome : items.length < capacity
    · rw [if_pos hsome, if_pos (hroom.mpr hsome)]
      exact h.push hsome pkt
    · rw [if_neg hsome, if_neg fun hlt => hsome (hroom.mp hlt)]
      exact h
  | enqueueNow pkt =>
    unfold queueStep itemsStep Queue.enqueueNow
    dsimp only
    by_cases hsome : items.length < capacity
    · rw [if_pos hsome, if_pos (hroom.mpr hsome)]
      exact h.push hsome pkt
    · rw [if_neg hsome, if_neg fun hlt => hsome (hroom.mp hlt)]
      exact h.replaceHead hsome pkt
  | dequeue => exact h.pop.2
  | resetQueue =>
    have hpos : 0 < capacity := Nat.zero_lt_of_lt h.ring.inside
    exact ⟨h.sameCapacity, h.sameItemSize, h.memSpace, .nil _ hpos, (wrap_of_lt hpos).symm, rfl⟩

/-! ## What a queue answers -/

/-- The tail is at the head of an empty queue and of a full one. -/
theorem Represents.tail_eq_head (h : Represents capacity itemSize que items) :
    que.tail = que.head ↔ items.length = 0 ∨ items.length = capacity := by
  have hinside := h.ring.inside
  have hroom := h.ring.room
  rw [h.tail]
  unfold wrap
  split_ifs <;> omega

/-- SOURCE: test/queue_util.c:144-155 -/
theorem Represents.getElement (h : Represents capacity itemSize que items) (pos : ℕ) :
    que.getElement pos = items[pos]? := by
  have hroom := h.ring.room
  unfold Queue.getElement
  rw [h.sameCapacity, h.inqueue]
  by_cases hpos : pos < items.length
  · have hholds := h.ring.holds pos hpos
    unfold wrap at hholds
    rw [if_neg (by omega), List.getElem?_eq_getElem hpos, ← hholds]
    split_ifs <;> rfl
  · rw [if_pos (by omega), List.getElem?_eq_none (by omega)]

/-- SOURCE: test/queue_util.c:121-128 -/
theorem Represents.front (h : Represents capacity itemSize que items) :
    que.front = if items.length = capacity then none else items.head? := by
  unfold Queue.front
  by_cases hend : que.tail = que.head
  · rw [if_pos hend]
    rcases h.tail_eq_head.mp hend with hempty | hfull
    · rw [List.length_eq_zero_iff.mp hempty]
      simp
    · rw [if_pos hfull]
  · have hsome := mt h.tail_eq_head.mpr hend
    rw [if_neg hend, if_neg fun hfull => hsome (.inr hfull)]
    have hpos : 0 < items.length := by omega
    have hholds := h.ring.holds 0 hpos
    rw [Nat.add_zero, wrap_of_lt h.ring.inside] at hholds
    rw [hholds, List.head?_eq_getElem?, List.getElem?_eq_getElem hpos]

/-- SOURCE: test/queue_util.c:131-142 -/
theorem Represents.back (h : Represents capacity itemSize que items) :
    que.back = if items.length = capacity then none else items.getLast? := by
  unfold Queue.back
  by_cases hend : que.tail = que.head
  · rw [if_pos hend]
    rcases h.tail_eq_head.mp hend with hempty | hfull
    · rw [List.length_eq_zero_iff.mp hempty]
      simp
    · rw [if_pos hfull]
  · have hsome := mt h.tail_eq_head.mpr hend
    have hinside := h.ring.inside
    have hroom := h.ring.room
    rw [if_neg hend, if_neg fun hfull => hsome (.inr hfull)]
    have hholds := h.ring.holds (items.length - 1) (by omega)
    have hlast : (if que.tail > 0 then some (que.item (que.tail - 1))
        else some (que.item (que.capacity - 1))) =
          some (que.item (wrap capacity (que.head + (items.length - 1)))) := by
      rw [h.tail, h.sameCapacity, ← apply_ite some, ← apply_ite que.item]
      refine congrArg (fun slot => some (que.item slot)) ?_
      unfold wrap
      split_ifs <;> omega
    rw [hlast, hholds, List.getLast?_eq_getElem?, List.getElem?_eq_getElem]

/-- The answers are those of the list. -/
theorem Represents.answers (h : Represents capacity itemSize que items) :
    AnswersAs capacity que items where
  enqueue pkt := by
    unfold Queue.enqueue
    rw [h.inqueue, h.sameCapacity]
    split_ifs <;> rfl
  dequeue := h.pop.1
  full := by
    unfold Queue.full
    rw [h.inqueue, h.sameCapacity]
    exact decide_eq_decide.mpr eq_comm
  getElement := h.getElement
  front := h.front
  back := h.back

/-- **The queues of the tests.**  After any operations since `init`, a queue answers as the list of
its items, of which it holds no more than its capacity, and has written nothing outside its memory
space.  A full queue answers `front` and `back` as an empty one does.
SOURCE: test/queue_util.c:26-155 -/
theorem queue_refines (hcapacity : 0 < capacity) {memSpace : List UInt8}
    (hmem : memSpace.length = capacity * itemSize) (ops : List QueueOp) :
    let que := run queueStep (.init itemSize capacity memSpace) ops
    let items := run (itemsStep capacity itemSize) [] ops
    que.inqueue = items.length ∧ items.length ≤ capacity ∧
      que.memSpace.length = capacity * itemSize ∧ AnswersAs capacity que items := by
  have hstart : Represents capacity itemSize (.init itemSize capacity memSpace) [] :=
    ⟨rfl, rfl, hmem, .nil _ hcapacity, (wrap_of_lt hcapacity).symm, rfl⟩
  have hrun : ∀ (que : Queue) (items : List (List UInt8)),
      Represents capacity itemSize que items →
      Represents capacity itemSize (run queueStep que ops)
        (run (itemsStep capacity itemSize) items ops) := by
    induction ops with
    | nil => exact fun que items h => h
    | cons op ops ih => exact fun que items h => ih _ _ (h.step op)
  have h := hrun _ _ hstart
  exact ⟨h.inqueue, h.ring.room, h.memSpace, h.answers⟩

/-- Two slots of one octet, which have been filled and written over. -/
theorem queue_refines_two :
    let que := run queueStep (.init 1 2 [0, 0]) [.enqueue [1], .enqueue [2], .enqueueNow [3]]
    let items := run (itemsStep 2 1) [] [.enqueue [1], .enqueue [2], .enqueueNow [3]]
    (que.inqueue = items.length ∧ items.length ≤ 2 ∧ que.memSpace.length = 2 * 1 ∧
      AnswersAs 2 que items) ∧ items = [[3], [2]] ∧ que.front = none := by
  exact ⟨@queue_refines 2 1 (by decide) [0, 0] rfl _, by decide, by decide⟩

end Osdlp.Analysis
