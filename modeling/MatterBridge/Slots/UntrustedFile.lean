import MatterBridge.Slots.Allocation
import MatterBridge.Slots.PrettyJson

/-!
# Loading a file nobody vouches for

`load` accepts any bytes. It drops the entries beyond the capacity; two entries with
one slot it keeps, and the allocator then goes on from a map that is not injective.
-/
namespace MatterBridge.Slots

open MatterBridge.Core

/-- No slot below the capacity is given to two cameras by the file, if it parses. -/
def DistinctSlots [SerdeJson] (file : SlotFile) (capacity : Nat) : Prop :=
  ∀ p, file.bind SerdeJson.fromStr = some p → ∀ id id' slot, slot < capacity →
    p.cameras.lookup id = some slot → p.cameras.lookup id' = some slot → id = id'

namespace SlotMap

/-- The map after the given calls of `assign`. -/
def assigns (m : SlotMap) (calls : List (String × Bool)) : SlotMap :=
  calls.foldl (fun m c => (m.assign c.1 c.2).slots) m

theorem assigns_append (m : SlotMap) (cs ds : List (String × Bool)) :
    m.assigns (cs ++ ds) = (m.assigns cs).assigns ds := List.foldl_append

theorem capacity_assigns (m : SlotMap) (calls : List (String × Bool)) :
    (m.assigns calls).capacity = m.capacity := by
  induction calls generalizing m with
  | nil => rfl
  | cons c cs ih => exact (ih (m.assign c.1 c.2).slots).trans (m.capacity_assign c.1 c.2)

theorem injective_assigns {m : SlotMap} (h : m.map.Injective) (calls : List (String × Bool)) :
    (m.assigns calls).map.Injective := by
  induction calls generalizing m with
  | nil => exact h
  | cons c cs ih => exact ih (injective_assign h c.1 c.2)

theorem lookup_assigns {m : SlotMap} {k : String} {slot : Nat}
    (h : m.map.lookup k = some slot) (calls : List (String × Bool)) :
    (m.assigns calls).map.lookup k = some slot := by
  induction calls generalizing m with
  | nil => exact h
  | cons c cs ih => exact ih (lookup_assign h)

/-- What the bridge relies on, in the map and over all later calls of `assign`. -/
structure Trustworthy (m : SlotMap) : Prop where
  inRange : m.InRange
  exclusive : m.map.Injective
  /-- No slot is returned for two cameras. -/
  apart : ∀ (before between : List (String × Bool)) (a b : String × Bool) slot, a.1 ≠ b.1 →
    ((m.assigns before).assign a.1 a.2).slot = some slot →
    ((m.assigns (before ++ a :: between)).assign b.1 b.2).slot ≠ some slot
  /-- A camera is refused only when every slot is held. -/
  complete : ∀ (before : List (String × Bool)) (c : String × Bool),
    ((m.assigns before).assign c.1 c.2).slot = none →
    ∀ slot < m.capacity, ∃ id, (m.assigns before).map.lookup id = some slot

theorem trustworthy_of_injective {m : SlotMap} (hr : m.InRange) (hx : m.map.Injective) :
    Trustworthy m where
  inRange := hr
  exclusive := hx
  apart before between a b slot hne ha hb := by
    let mid := (m.assigns before).assign a.1 a.2
    have hmid : m.assigns (before ++ a :: between) = mid.slots.assigns between := by
      rw [assigns_append]
      rfl
    have hheld : (m.assigns (before ++ a :: between)).map.lookup a.1 = some slot := by
      rw [hmid]
      exact lookup_assigns (lookup_of_slot ha) between
    have hinj := injective_assign (injective_assigns hx (before ++ a :: between)) b.1 b.2
    exact hne (hinj a.1 b.1 slot (lookup_assign hheld) (lookup_of_slot hb))
  complete before c hnone slot hslot := by
    refine held_of_refused hnone ?_
    rwa [capacity_assigns]

/-- **When a loaded map can be trusted.** For any bytes and any pool sizes, the map
`load` returns is in range and keeps cameras apart, now and over all later calls,
exactly when the file gives no slot below the capacity to two cameras. -/
theorem load_trustworthy_iff [SerdeJson] (file : SlotFile) (capacity withOccupancy : Nat) :
    Trustworthy (load file capacity withOccupancy) ↔ DistinctSlots file capacity := by
  have hlookup : ∀ p, file.bind SerdeJson.fromStr = some p → ∀ id slot,
      (load file capacity withOccupancy).map.lookup id = some slot ↔
        p.cameras.lookup id = some slot ∧ slot < capacity := by
    intro p hp id slot
    unfold load
    simp only [hp]
    rw [HashMap.lookup_retain_eq_some, decide_eq_true_eq]
  constructor
  · intro h p hp id id' slot hs hid hid'
    exact h.exclusive id id' slot ((hlookup p hp id slot).mpr ⟨hid, hs⟩)
      ((hlookup p hp id' slot).mpr ⟨hid', hs⟩)
  · intro h
    refine trustworthy_of_injective (inRange_load file capacity withOccupancy) ?_
    intro id id' slot hid hid'
    cases hp : file.bind SerdeJson.fromStr with
    | none =>
      unfold load at hid
      simp only [hp, Finmap.lookup_empty, reduceCtorEq] at hid
    | some p =>
      obtain ⟨hid, hs⟩ := (hlookup p hp id slot).mp hid
      exact h p hp id id' slot hs hid ((hlookup p hp id' slot).mp hid').1

/-- Two entries with one slot: each of the two cameras is given it. -/
theorem load_keeps_shared_slot :
    letI := PrettyJson.serdeJson
    let text := "\x7b\"cameras\": \x7b\"cam-a\": 0, \"cam-b\": 0\x7d\x7d"
    let m := load (some text.toUTF8.data.toList) 8 7
    (m.assign "cam-a" true).slot = some 0 ∧
      ((m.assign "cam-a" true).slots.assign "cam-b" true).slot = some 0 := by
  intro text m
  let _ := PrettyJson.serdeJson
  have hparse : (PrettyJson.lex text.toList).bind PrettyJson.parseFile =
      some [("cam-a", 0), ("cam-b", 0)] := by decide
  have hfile : PrettyJson.fromStr text.toUTF8.data.toList =
      some ⟨HashMap.collect [("cam-a", 0), ("cam-b", 0)]⟩ := by
    rw [PrettyJson.fromStr_text, hparse]
    rfl
  have hm : m = ⟨(HashMap.collect [("cam-a", 0), ("cam-b", 0)]).retain
      fun _ slot => decide (slot < 8), 8, 7⟩ := by
    show load (some text.toUTF8.data.toList) 8 7 = _
    unfold load
    rw [Option.bind_some, show SerdeJson.fromStr text.toUTF8.data.toList = _ from hfile]
  rw [hm]
  exact ⟨by decide, by decide⟩

end SlotMap

end MatterBridge.Slots
