import Osdlp.Library.Octets

/-!
# The queues of the tests

`struct queue` and its operations (test/queue_util.c), with which the tests implement the hooks.
The memory space is the list of its octets, and what is copied from or to an item are the first
`item_size` octets there.  A pointer into the memory space is the item that it points to.
-/

set_option autoImplicit false

namespace Osdlp.Model

open Osdlp.Library

/-- SOURCE: test/queue_util.h:26-33 -/
structure Queue where
  memSpace : List UInt8
  capacity : ℕ
  head : ℕ
  tail : ℕ
  inqueue : ℕ
  itemSize : ℕ
  deriving DecidableEq, Repr

/-- The item in a slot. -/
def Queue.item (que : Queue) (slot : ℕ) : List UInt8 :=
  region que.memSpace (slot * que.itemSize) que.itemSize

/-- `memcpy` into a slot. -/
def Queue.store (que : Queue) (slot : ℕ) (pkt : List UInt8) : Queue :=
  { que with
    memSpace := memWrite que.memSpace (slot * que.itemSize) (region pkt 0 que.itemSize) }

/-- `memSpace` is what `malloc` returns.
SOURCE: test/queue_util.c:26-41 -/
def Queue.init (itemSize numItems : ℕ) (memSpace : List UInt8) : Queue :=
  { memSpace := memSpace
    capacity := numItems
    head := 0
    tail := 0
    inqueue := 0
    itemSize := itemSize }

/-- SOURCE: test/queue_util.c:43-58 -/
def Queue.enqueue (que : Queue) (pkt : List UInt8) : Int × Queue :=
  if que.inqueue < que.capacity then
    (0,
      { que.store que.tail pkt with
        tail := if que.tail + 1 ≥ que.capacity then 0 else que.tail + 1
        inqueue := que.inqueue + 1 })
  else (-1, que)

/-- SOURCE: test/queue_util.c:60-77 -/
def Queue.enqueueNow (que : Queue) (pkt : List UInt8) : Int × Queue :=
  if que.inqueue < que.capacity then
    (0,
      { que.store que.tail pkt with
        tail := if que.tail + 1 ≥ que.capacity then 0 else que.tail + 1
        inqueue := que.inqueue + 1 })
  else (0, que.store que.tail pkt)

/-- The item is what is copied to the caller.
SOURCE: test/queue_util.c:79-94 -/
def Queue.dequeue (que : Queue) : Option (List UInt8) × Queue :=
  if que.inqueue > 0 then
    (some (que.item que.head),
      { que with
        head := if que.head + 1 ≥ que.capacity then 0 else que.head + 1
        inqueue := que.inqueue - 1 })
  else (none, que)

/-- SOURCE: test/queue_util.c:97-104 -/
def Queue.resetQueue (que : Queue) : Queue := { que with tail := 0, head := 0, inqueue := 0 }

/-- SOURCE: test/queue_util.c:114-118 -/
def Queue.full (que : Queue) : Bool := decide (que.capacity = que.inqueue)

/-- SOURCE: test/queue_util.c:121-128 -/
def Queue.front (que : Queue) : Option (List UInt8) :=
  if que.tail = que.head then none else some (que.item que.head)

/-- SOURCE: test/queue_util.c:131-142 -/
def Queue.back (que : Queue) : Option (List UInt8) :=
  if que.tail = que.head then none
  else if que.tail > 0 then some (que.item (que.tail - 1))
  else some (que.item (que.capacity - 1))

/-- SOURCE: test/queue_util.c:144-156 -/
def Queue.getElement (que : Queue) (pos : ℕ) : Option (List UInt8) :=
  if pos ≥ que.capacity ∨ pos ≥ que.inqueue then none
  else if que.head + pos < que.capacity then some (que.item (que.head + pos))
  else some (que.item (que.head + pos - que.capacity))

end Osdlp.Model
