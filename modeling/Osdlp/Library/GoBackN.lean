import Mathlib.Data.List.Basic
import Mathlib.Data.List.TakeDrop
import Mathlib.Logic.Relation

/-!
# Go-back-N over lossy first-in first-out channels

The abstract link.  A sender accepts payloads and gives the `i`-th one the index `i`; it
has transmitted the indices below `next` and knows that those below `base` have arrived.
A receiver holds the payloads it has taken, in order; the index it waits for is their
number.  Frames in flight are indices; what the receiver sees of an index `i` is only its
number `num i`, which is reused.  Reports in flight are values of the receiver's counter;
the sender acts on the one at the head, which is then lost.  Either channel may lose
whatever it holds, and neither reorders.

`delivered_prefix` is the purpose of the link: if `num` tells apart any two indices at
most `W` apart, and at most `W` frames are outstanding, then what has been delivered is a
prefix of what has been accepted.
-/

set_option autoImplicit false

namespace Osdlp.Library.GoBackN

variable {α β : Type*}

/-- Sender, receiver and the two channels between them. -/
structure Link (α : Type*) where
  accepted : List α
  base : ℕ
  next : ℕ
  delivered : List α
  uplink : List ℕ
  downlink : List ℕ

/-- The moves of the link, with window `W` and numbering `num`. -/
inductive Move (num : ℕ → β) (W : ℕ) : Link α → Link α → Prop
  | accept (l : Link α) (x : α) :
      Move num W l { l with accepted := l.accepted ++ [x] }
  | send (l : Link α) (hx : l.next < l.accepted.length) (hw : l.next < l.base + W) :
      Move num W l { l with next := l.next + 1, uplink := l.uplink ++ [l.next] }
  | resend (l : Link α) (i : ℕ) (hb : l.base ≤ i) (hn : i < l.next) :
      Move num W l { l with uplink := l.uplink ++ [i] }
  | loseUp (l : Link α) (u : List ℕ) (hu : u.Sublist l.uplink) :
      Move num W l { l with uplink := u }
  | deliver (l : Link α) (i : ℕ) (rest : List ℕ) (x : α) (hu : l.uplink = i :: rest)
      (hnum : num i = num l.delivered.length) (hx : l.accepted[i]? = some x) :
      Move num W l { l with uplink := rest, delivered := l.delivered ++ [x] }
  | report (l : Link α) :
      Move num W l { l with downlink := l.downlink ++ [l.delivered.length] }
  | loseDown (l : Link α) (d : List ℕ) (hd : d.Sublist l.downlink) :
      Move num W l { l with downlink := d }
  | ack (l : Link α) (r : ℕ) (rest : List ℕ) (hd : l.downlink = r :: rest) :
      Move num W l { l with base := r }

/-- The invariant: the counters are ordered and within the window; every index in flight
is close enough to the receiver's counter, now and after the frames ahead of it have been
taken; every report in flight lies between the sender's and the receiver's counter. -/
structure Inv (W : ℕ) (l : Link α) : Prop where
  base_le : l.base ≤ l.delivered.length
  le_next : l.delivered.length ≤ l.next
  next_le : l.next ≤ l.accepted.length
  window : l.next ≤ l.base + W
  taken : l.delivered = l.accepted.take l.delivered.length
  sent : ∀ i ∈ l.uplink, i < l.next
  near : ∀ i ∈ l.uplink, l.delivered.length ≤ i + W
  order : l.uplink.Pairwise fun i j => i < j + W
  reports : ∀ r ∈ l.downlink, l.base ≤ r ∧ r ≤ l.delivered.length
  mono : l.downlink.Pairwise (· ≤ ·)

/-- The idle link satisfies the invariant. -/
theorem inv_idle (W : ℕ) : Inv W (⟨[], 0, 0, [], [], []⟩ : Link α) := by
  constructor <;> simp

/-- More payloads do not matter for the indices in use. -/
theorem Inv.accept {W : ℕ} {l : Link α} (h : Inv W l) (x : α) :
    Inv W { l with accepted := l.accepted ++ [x] } where
  base_le := h.base_le
  le_next := h.le_next
  next_le := by simp only [List.length_append]; exact Nat.le_add_right_of_le h.next_le
  window := h.window
  taken := by
    have hle : l.delivered.length ≤ l.accepted.length := Nat.le_trans h.le_next h.next_le
    rw [List.take_append_of_le_length hle]
    exact h.taken
  sent := h.sent
  near := h.near
  order := h.order
  reports := h.reports
  mono := h.mono

/-- A frame whose index is still outstanding may be put on the uplink at any time. -/
theorem Inv.push {W : ℕ} {l : Link α} (h : Inv W l) {i : ℕ} (hb : l.base ≤ i)
    (hn : i < l.next) : Inv W { l with uplink := l.uplink ++ [i] } where
  base_le := h.base_le
  le_next := h.le_next
  next_le := h.next_le
  window := h.window
  taken := h.taken
  sent := by
    intro j hj
    rcases List.mem_append.mp hj with hj | hj
    · exact h.sent j hj
    · rw [List.mem_singleton.mp hj]; exact hn
  near := by
    have hle := h.le_next
    have hw := h.window
    intro j hj
    rcases List.mem_append.mp hj with hj | hj
    · exact h.near j hj
    · rw [List.mem_singleton.mp hj]
      show l.delivered.length ≤ i + W
      omega
  order := by
    refine List.pairwise_append.mpr ⟨h.order, List.pairwise_singleton _ _, ?_⟩
    intro j hj k hk
    rw [List.mem_singleton.mp hk]
    have := h.sent j hj
    have := h.window
    omega
  reports := h.reports
  mono := h.mono

/-- The window leaves room for the next index. -/
theorem Inv.send {W : ℕ} {l : Link α} (h : Inv W l) (hx : l.next < l.accepted.length)
    (hw : l.next < l.base + W) :
    Inv W { l with next := l.next + 1, uplink := l.uplink ++ [l.next] } := by
  have hroom : Inv W { l with next := l.next + 1 } :=
    { h with
      le_next := Nat.le_succ_of_le h.le_next
      next_le := hx
      window := hw
      sent := fun i hi => Nat.lt_succ_of_lt (h.sent i hi) }
  have hb : l.base ≤ l.next := Nat.le_trans h.base_le h.le_next
  exact hroom.push hb (Nat.lt_succ_self _)

/-- A loss leaves the order of the indices that are still in flight. -/
theorem Inv.loseUp {W : ℕ} {l : Link α} (h : Inv W l) {u : List ℕ}
    (hu : u.Sublist l.uplink) : Inv W { l with uplink := u } :=
  { h with
    sent := fun i hi => h.sent i (hu.subset hi)
    near := fun i hi => h.near i (hu.subset hi)
    order := h.order.sublist hu }

/-- Within the window a number determines the index: a frame that carries the number the
receiver waits for is the frame it waits for. -/
theorem Inv.head_eq {num : ℕ → β} {W : ℕ} {l : Link α}
    (hinj : ∀ i j, i ≤ j → j ≤ i + W → num i = num j → i = j) (h : Inv W l) {i : ℕ}
    (hi : i ∈ l.uplink) (hnum : num i = num l.delivered.length) :
    i = l.delivered.length := by
  rcases Nat.le_total i l.delivered.length with hle | hle
  · exact hinj i _ hle (h.near i hi) hnum
  · have hsent := h.sent i hi
    have hw := h.window
    have hb := h.base_le
    exact (hinj _ i hle (by omega) hnum.symm).symm

/-- The index taken is the one that was waited for, since its number tells it apart. -/
theorem Inv.deliver {num : ℕ → β} {W : ℕ} {l : Link α}
    (hinj : ∀ i j, i ≤ j → j ≤ i + W → num i = num j → i = j) (h : Inv W l) {i : ℕ}
    {rest : List ℕ} {x : α} (hu : l.uplink = i :: rest)
    (hnum : num i = num l.delivered.length) (hx : l.accepted[i]? = some x) :
    Inv W { l with uplink := rest, delivered := l.delivered ++ [x] } := by
  have hmem : i ∈ l.uplink := by simp [hu]
  have hi : i = l.delivered.length := h.head_eq hinj hmem hnum
  have horder := hu ▸ h.order
  have hlt := h.sent i hmem
  refine { h with base_le := ?_, le_next := ?_, taken := ?_, sent := ?_, near := ?_, order := ?_,
                  reports := ?_ }
  · simp only [List.length_append, List.length_singleton]
    exact Nat.le_add_right_of_le h.base_le
  · simp only [List.length_append, List.length_singleton]
    omega
  · simp only [List.length_append, List.length_singleton]
    rw [List.take_add_one, ← h.taken, ← hi, hx, Option.toList_some]
  · intro j hj
    exact h.sent j (by simp [hu, hj])
  · intro j hj
    have := (List.pairwise_cons.mp horder).1 j hj
    simp only [List.length_append, List.length_singleton]
    omega
  · exact (List.pairwise_cons.mp horder).2
  · intro r hr
    have := h.reports r hr
    simp only [List.length_append, List.length_singleton]
    omega

/-- The receiver reports its counter as it is. -/
theorem Inv.report {W : ℕ} {l : Link α} (h : Inv W l) :
    Inv W { l with downlink := l.downlink ++ [l.delivered.length] } := by
  refine { h with reports := ?_, mono := ?_ }
  · intro r hr
    rcases List.mem_append.mp hr with hr | hr
    · exact h.reports r hr
    · rw [List.mem_singleton.mp hr]; exact ⟨h.base_le, Nat.le_refl _⟩
  · refine List.pairwise_append.mpr ⟨h.mono, List.pairwise_singleton _ _, ?_⟩
    intro r hr s hs
    rw [List.mem_singleton.mp hs]
    exact (h.reports r hr).2

/-- A loss leaves the order of the reports that are still in flight. -/
theorem Inv.loseDown {W : ℕ} {l : Link α} (h : Inv W l) {d : List ℕ}
    (hd : d.Sublist l.downlink) : Inv W { l with downlink := d } :=
  { h with
    reports := fun r hr => h.reports r (hd.subset hr)
    mono := h.mono.sublist hd }

/-- The latest report may be repeated. -/
theorem Inv.repeatReport {W : ℕ} {l : Link α} (h : Inv W l) {reports : List ℕ} {r : ℕ}
    (hd : l.downlink = reports ++ [r]) (n : ℕ) :
    Inv W { l with downlink := reports ++ List.replicate n r ++ [r] } := by
  have hreports := h.reports
  have hmono := h.mono
  rw [hd] at hreports hmono
  obtain ⟨hold, -, hle⟩ := List.pairwise_append.mp hmono
  have hlast : ∀ s ∈ reports, s ≤ r := fun s hs => hle s hs r List.mem_cons_self
  rw [List.append_assoc, ← List.replicate_succ']
  refine { h with reports := ?_, mono := ?_ }
  · intro s hs
    rcases List.mem_append.mp hs with hs | hs
    · exact hreports s (List.mem_append_left _ hs)
    · rw [List.eq_of_mem_replicate hs]
      exact hreports r (by simp)
  · refine List.pairwise_append.mpr ⟨hold, ?_, ?_⟩
    · exact List.pairwise_replicate.mpr (.inr (Nat.le_refl r))
    · intro s hs t ht
      rw [List.eq_of_mem_replicate ht]
      exact hlast s hs

/-- A report lies between what the sender knows and what it has transmitted. -/
theorem Inv.ack {W : ℕ} {l : Link α} (h : Inv W l) {r : ℕ} {rest : List ℕ}
    (hd : l.downlink = r :: rest) : Inv W { l with base := r } := by
  have hmono := List.pairwise_cons.mp (hd ▸ h.mono)
  have hr := h.reports r (by simp [hd])
  have hw := h.window
  refine { h with base_le := hr.2, window := ?_, reports := ?_ }
  · show l.next ≤ r + W
    omega
  · intro s hs
    have hle := (h.reports s hs).2
    rcases List.mem_cons.mp (hd ▸ hs) with rfl | htail
    · exact ⟨Nat.le_refl _, hle⟩
    · exact ⟨hmono.1 s htail, hle⟩

/-- Every move keeps the invariant. -/
theorem Inv.move {num : ℕ → β} {W : ℕ} {l l' : Link α}
    (hinj : ∀ i j, i ≤ j → j ≤ i + W → num i = num j → i = j) (h : Inv W l)
    (hm : Move num W l l') : Inv W l' := by
  cases hm with
  | accept x => exact h.accept x
  | send hx hw => exact h.send hx hw
  | resend i hb hn => exact h.push hb hn
  | loseUp u hu => exact h.loseUp hu
  | deliver i rest x hu hnum hx => exact h.deliver hinj hu hnum hx
  | report => exact h.report
  | loseDown d hd => exact h.loseDown hd
  | ack r rest hd => exact h.ack hd

/-- Every sequence of moves keeps the invariant. -/
theorem Inv.moves {num : ℕ → β} {W : ℕ} {l l' : Link α}
    (hinj : ∀ i j, i ≤ j → j ≤ i + W → num i = num j → i = j) (h : Inv W l)
    (hm : Relation.ReflTransGen (Move num W) l l') : Inv W l' := by
  induction hm with
  | refl => exact h
  | tail _ hstep ih => exact ih.move hinj hstep

/-- The index that is sent next only grows. -/
theorem Move.next_le {num : ℕ → β} {W : ℕ} {l l' : Link α} (h : Move num W l l') :
    l.next ≤ l'.next := by
  cases h with
  | send => exact Nat.le_succ _
  | _ => exact Nat.le_refl _

/-- The sender does not take back what it has transmitted. -/
theorem next_le_of_moves {num : ℕ → β} {W : ℕ} {l l' : Link α}
    (h : Relation.ReflTransGen (Move num W) l l') : l.next ≤ l'.next := by
  induction h with
  | refl => exact Nat.le_refl _
  | tail _ hstep ih => exact Nat.le_trans ih hstep.next_le

/-- What has been delivered is a prefix of what has been accepted. -/
theorem Inv.delivered_prefix {W : ℕ} {l : Link α} (h : Inv W l) :
    l.delivered <+: l.accepted := by
  rw [h.taken]
  exact List.take_prefix _ _

end Osdlp.Library.GoBackN
