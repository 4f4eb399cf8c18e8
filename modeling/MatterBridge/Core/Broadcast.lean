import Mathlib.Data.List.Basic

/-!
# A bounded broadcast channel

The sender appends to one log, of which only the last `capacity` messages are
still buffered. A receiver is a position in that log. One that has fallen behind
the buffer is told how many messages it missed and continues at the oldest
buffered one; the messages in between are never delivered to it.
-/
namespace MatterBridge.Core

structure Broadcast (α : Type) where
  capacity : Nat
  /-- Every message sent so far, oldest first. -/
  sent : List α

inductive RecvError where
  | lagged (missed : Nat)
  | closed
  deriving DecidableEq, Repr

namespace Broadcast

variable {α : Type}

def new (capacity : Nat) : Broadcast α := ⟨capacity, []⟩

def send (b : Broadcast α) (a : α) : Broadcast α := { b with sent := b.sent ++ [a] }

/-- Position of the oldest buffered message. -/
def oldest (b : Broadcast α) : Nat := b.sent.length - b.capacity

/-- Messages the receiver at `next` has not seen yet, lost ones included. -/
def unread (b : Broadcast α) (next : Nat) : List α := b.sent.drop next

/-- Messages before the position. A receiver that never lagged has received just these. -/
def seen (b : Broadcast α) (next : Nat) : List α := b.sent.take next

/-- One receive at position `next`: `none` while no message is waiting. The
sending half stays alive as long as the bridge runs, so `closed` never occurs. -/
def recv (b : Broadcast α) (next : Nat) : Option (Except RecvError α × Nat) :=
  if next < b.oldest then some (.error (.lagged (b.oldest - next)), b.oldest)
  else b.sent[next]?.map fun a => (.ok a, next + 1)

@[simp] theorem sent_send (b : Broadcast α) (a : α) : (b.send a).sent = b.sent ++ [a] := rfl
@[simp] theorem capacity_send (b : Broadcast α) (a : α) : (b.send a).capacity = b.capacity := rfl
@[simp] theorem sent_new (n : Nat) : (new n : Broadcast α).sent = [] := rfl
@[simp] theorem capacity_new (n : Nat) : (new n : Broadcast α).capacity = n := rfl

/-- A received message is the first unread one. -/
theorem recv_ok {b : Broadcast α} {next next' : Nat} {a : α}
    (h : b.recv next = some (.ok a, next')) :
    b.unread next = a :: b.unread next' ∧ next' = next + 1 := by
  unfold recv at h
  split at h
  · cases h
  · obtain ⟨x, hx, he⟩ := Option.map_eq_some_iff.mp h
    cases he
    exact ⟨List.drop_eq_getElem?_toList_append.trans (by rw [hx]; rfl), rfl⟩

theorem seen_append_unread (b : Broadcast α) (next : Nat) :
    b.seen next ++ b.unread next = b.sent := List.take_append_drop next b.sent

theorem seen_of_unread_nil {b : Broadcast α} {next : Nat} (h : b.unread next = []) :
    b.seen next = b.sent := by
  have happ := b.seen_append_unread next
  rwa [h, List.append_nil] at happ

/-- Later messages do not change what lies before the position. -/
theorem seen_grow {b b' : Broadcast α} {next : Nat} {new : List α}
    (h : b'.sent = b.sent ++ new) (hn : next ≤ b.sent.length) : b'.seen next = b.seen next := by
  rw [seen, seen, h, List.take_append_of_le_length hn]

theorem recv_ok_seen {b : Broadcast α} {next next' : Nat} {a : α}
    (h : b.recv next = some (.ok a, next')) :
    b.seen next' = b.seen next ++ [a] ∧ next' ≤ b.sent.length := by
  obtain ⟨hu, rfl⟩ := recv_ok h
  have hx : b.sent[next]? = some a := by
    rw [← List.head?_drop]
    change (b.unread next).head? = _
    rw [hu]
    rfl
  obtain ⟨hlt, _⟩ := List.getElem?_eq_some_iff.mp hx
  refine ⟨?_, hlt⟩
  rw [seen, seen, List.take_add_one, hx]
  rfl

theorem mem_of_recv_ok {b : Broadcast α} {next next' : Nat} {a : α}
    (h : b.recv next = some (.ok a, next')) : a ∈ b.sent := by
  have hmem : a ∈ b.unread next := by
    rw [(recv_ok h).1]
    exact List.mem_cons_self
  exact List.mem_of_mem_drop hmem

theorem recv_lagged {b : Broadcast α} {next next' n : Nat}
    (h : b.recv next = some (.error (.lagged n), next')) :
    next < b.oldest ∧ next' = b.oldest ∧ n = b.oldest - next := by
  unfold recv at h
  split at h
  · cases h
    exact ⟨‹_›, rfl, rfl⟩
  · obtain ⟨x, _, he⟩ := Option.map_eq_some_iff.mp h
    cases he

/-- A receiver within the buffer gets the next message. -/
theorem recv_of_unread {b : Broadcast α} {next : Nat} {a : α} {rest : List α}
    (hl : b.oldest ≤ next) (h : b.unread next = a :: rest) :
    b.recv next = some (.ok a, next + 1) := by
  have hx : b.sent[next]? = some a := by
    rw [← List.head?_drop]
    change (b.unread next).head? = _
    rw [h]
    rfl
  rw [recv, if_neg (by omega), hx]
  rfl

theorem recv_ne_closed (b : Broadcast α) (next next' : Nat) :
    b.recv next ≠ some (.error .closed, next') := by
  intro h
  unfold recv at h
  split at h
  · cases h
  · obtain ⟨x, _, he⟩ := Option.map_eq_some_iff.mp h
    cases he

/-- Any receive, lagged or not, leaves less unread. -/
theorem length_unread_recv {b : Broadcast α} {next next' : Nat} {outcome : Except RecvError α}
    (h : b.recv next = some (outcome, next')) :
    (b.unread next').length + 1 ≤ (b.unread next).length := by
  rw [unread, unread, List.length_drop, List.length_drop]
  cases outcome with
  | ok a =>
    obtain ⟨_, hle⟩ := recv_ok_seen h
    obtain ⟨_, rfl⟩ := recv_ok h
    omega
  | error e =>
    cases e with
    | lagged n =>
      obtain ⟨hlt, hnext, _⟩ := recv_lagged h
      have hold : b.oldest ≤ b.sent.length := Nat.sub_le _ _
      omega
    | closed => exact absurd h (recv_ne_closed _ _ _)

theorem unread_ne_nil_of_recv {b : Broadcast α} {next next' : Nat}
    {outcome : Except RecvError α} (h : b.recv next = some (outcome, next')) :
    b.unread next ≠ [] := by
  intro hnil
  have hlen := length_unread_recv h
  rw [hnil, List.length_nil] at hlen
  omega

theorem length_unread_sent {b b' : Broadcast α} {new : List α} (h : b'.sent = b.sent ++ new)
    (next : Nat) : (b'.unread next).length ≤ (b.unread next).length + new.length := by
  rw [unread, unread, List.length_drop, List.length_drop, h, List.length_append]
  omega

/-- A receiver with something unread can receive: the next message or the news that it
fell behind. -/
theorem exists_recv {b : Broadcast α} {next : Nat} (h : b.unread next ≠ []) :
    (∃ a next', b.recv next = some (.ok a, next')) ∨
      ∃ n next', b.recv next = some (.error (.lagged n), next') := by
  by_cases hl : b.oldest ≤ next
  · obtain ⟨a, rest, ha⟩ := List.exists_cons_of_ne_nil h
    exact Or.inl ⟨a, next + 1, recv_of_unread hl ha⟩
  · exact Or.inr ⟨b.oldest - next, b.oldest, if_pos (by omega)⟩

theorem recv_ne_none {b : Broadcast α} {next : Nat} :
    b.recv next ≠ none ↔ b.unread next ≠ [] := by
  constructor
  · intro h
    obtain ⟨⟨outcome, next'⟩, hr⟩ := Option.ne_none_iff_exists'.mp h
    exact unread_ne_nil_of_recv hr
  · intro h
    rcases exists_recv h with ⟨a, next', hr⟩ | ⟨n, next', hr⟩
    · rw [hr]
      exact Option.some_ne_none _
    · rw [hr]
      exact Option.some_ne_none _

/-- A subscriber with no more unread than the buffer holds is not told that it lags. -/
theorem not_lagged {b : Broadcast α} {next next' n : Nat}
    (h : (b.unread next).length ≤ b.capacity) :
    b.recv next ≠ some (.error (.lagged n), next') := by
  intro hr
  obtain ⟨hlt, _⟩ := recv_lagged hr
  rw [unread, List.length_drop] at h
  unfold oldest at hlt
  omega

/-! ## Subscribers that miss nothing -/

/-- The subscriber at `next` is in the state `P` describes for the messages before it. -/
structure Follows (b : Broadcast α) (next : Nat) (P : List α → Prop) : Prop where
  within : next ≤ b.sent.length
  holds : P (b.seen next)

theorem Follows.sent {b b' : Broadcast α} {next : Nat} {P : List α → Prop} {new : List α}
    (h : b.Follows next P) (hs : b'.sent = b.sent ++ new) : b'.Follows next P where
  within := by
    have hw := h.within
    rw [hs, List.length_append]
    omega
  holds := by
    rw [seen_grow hs h.within]
    exact h.holds

theorem Follows.received {b : Broadcast α} {next next' : Nat} {a : α} {P Q : List α → Prop}
    (h : b.Follows next P) (hr : b.recv next = some (.ok a, next'))
    (hq : P (b.seen next) → Q (b.seen next ++ [a])) : b.Follows next' Q := by
  obtain ⟨hseen, hle⟩ := recv_ok_seen hr
  refine ⟨hle, ?_⟩
  rw [hseen]
  exact hq h.holds

theorem Follows.drained {b : Broadcast α} {next : Nat} {P : List α → Prop}
    (h : b.Follows next P) (hu : b.unread next = []) : P b.sent := by
  have hp := h.holds
  rwa [seen_of_unread_nil hu] at hp

end Broadcast

end MatterBridge.Core
