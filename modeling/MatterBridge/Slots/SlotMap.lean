import MatterBridge.Core.HashMap

/-!
# The persistent slot allocator

`SlotMap` is one file's worth of state: the map, the pool sizes, and the file
next to the Matter storage. The JSON crate is a parameter of which only the
round trip is used; a hash map may print its entries in any order, so the printed
text also depends on a seed. A save may fail before the file is touched or
leave other bytes in it.
-/
namespace MatterBridge.Slots

open MatterBridge.Core

/-- On-disk schema. -/
structure PersistedSlots where
  cameras : HashMap String Nat

class SerdeJson where
  /-- Printed text; `seed` is the hasher state that fixes the iteration order. -/
  toStringPretty : PersistedSlots → Nat → List UInt8
  /-- `read_to_string` and `from_str` together: `none` on any decoding error. -/
  fromStr : List UInt8 → Option PersistedSlots
  round_trip : ∀ p seed, fromStr (toStringPretty p seed) = some p

/-- Content of the `.slots.json` file; `none` while there is no such file. -/
abbrev SlotFile := Option (List UInt8)

structure SlotMap where
  /-- camera id → slot index -/
  map : HashMap String Nat
  capacity : Nat
  /-- Slots below this bound are occupancy-capable. -/
  withOccupancy : Nat

/-- What `assign` returns, the map it leaves, and whether it runs `save`. -/
structure Assigned where
  slot : Option Nat
  slots : SlotMap
  saves : Bool

inductive SaveOutcome where
  | written (seed : Nat)
  | kept
  | torn (content : List UInt8)

namespace SlotMap

def load [SerdeJson] (file : SlotFile) (capacity withOccupancy : Nat) : SlotMap where
  map := match file.bind SerdeJson.fromStr with
    | some p => p.cameras.retain fun _ slot => decide (slot < capacity)
    | none => ∅
  capacity := capacity
  withOccupancy := withOccupancy

/-- First slot of `pool` that no camera holds. -/
def firstFree (m : SlotMap) (pool : List Nat) : Option Nat :=
  pool.find? fun slot => decide (slot ∉ m.map.values)

def occupancyPool (m : SlotMap) : List Nat := List.range m.withOccupancy

def plainPool (m : SlotMap) : List Nat :=
  List.range' m.withOccupancy (m.capacity - m.withOccupancy)

def assign (m : SlotMap) (cameraId : String) (wantsOccupancy : Bool) : Assigned :=
  match m.map.lookup cameraId with
  | some slot => ⟨some slot, m, false⟩
  | none =>
    let free :=
      if wantsOccupancy then (m.firstFree m.occupancyPool).or (m.firstFree m.plainPool)
      else (m.firstFree m.plainPool).or (m.firstFree m.occupancyPool)
    match free with
    | none => ⟨none, m, false⟩
    | some slot => ⟨some slot, { m with map := m.map.insert cameraId slot }, true⟩

/-- The map afterwards, and whether `save` runs. -/
def forget (m : SlotMap) (cameraId : String) : SlotMap × Bool :=
  if cameraId ∈ m.map then ({ m with map := m.map.erase cameraId }, true) else (m, false)

def save [SerdeJson] (m : SlotMap) (file : SlotFile) : SaveOutcome → SlotFile
  | .written seed => some (SerdeJson.toStringPretty ⟨m.map⟩ seed)
  | .kept => file
  | .torn content => some content

/-! ## What the operations can do -/

theorem firstFree_some {m : SlotMap} {pool : List Nat} {slot : Nat}
    (h : m.firstFree pool = some slot) : slot ∈ pool ∧ ∀ id, m.map.lookup id ≠ some slot := by
  refine ⟨List.mem_of_find?_eq_some h, fun id hid => ?_⟩
  have hfree := List.find?_some h
  simp only [decide_eq_true_eq] at hfree
  exact hfree (HashMap.mem_values.mpr ⟨id, hid⟩)

theorem mem_pools {m : SlotMap} {slot : Nat} (hfit : m.withOccupancy ≤ m.capacity) :
    slot ∈ m.occupancyPool ∨ slot ∈ m.plainPool ↔ slot < m.capacity := by
  simp only [occupancyPool, plainPool, List.mem_range, List.mem_range'_1]
  omega

/-- Every result of `assign`: the stored slot, no slot at all, or one new entry
whose slot nobody holds. -/
theorem assign_cases (m : SlotMap) (id : String) (wants : Bool) :
    (∃ slot, m.map.lookup id = some slot ∧ m.assign id wants = ⟨some slot, m, false⟩) ∨
    (m.map.lookup id = none ∧ m.assign id wants = ⟨none, m, false⟩) ∨
    (∃ slot, m.map.lookup id = none ∧ (∀ k, m.map.lookup k ≠ some slot) ∧
      (slot ∈ m.occupancyPool ∨ slot ∈ m.plainPool) ∧
      m.assign id wants = ⟨some slot, { m with map := m.map.insert id slot }, true⟩) := by
  cases hl : m.map.lookup id with
  | some slot => exact Or.inl ⟨slot, rfl, by simp only [assign, hl]⟩
  | none =>
    cases hf : (if wants then (m.firstFree m.occupancyPool).or (m.firstFree m.plainPool)
        else (m.firstFree m.plainPool).or (m.firstFree m.occupancyPool)) with
    | none => exact Or.inr (Or.inl ⟨rfl, by simp only [assign, hl, hf]⟩)
    | some slot =>
      have hfree : m.firstFree m.occupancyPool = some slot ∨
          m.firstFree m.plainPool = some slot := by
        split at hf
        · rcases Option.or_eq_some_iff.mp hf with h | ⟨_, h⟩
          · exact Or.inl h
          · exact Or.inr h
        · rcases Option.or_eq_some_iff.mp hf with h | ⟨_, h⟩
          · exact Or.inr h
          · exact Or.inl h
      refine Or.inr (Or.inr ⟨slot, rfl, ?_, ?_, by simp only [assign, hl, hf]⟩)
      · exact hfree.elim (fun h => (firstFree_some h).2) (fun h => (firstFree_some h).2)
      · exact hfree.imp (fun h => (firstFree_some h).1) (fun h => (firstFree_some h).1)

@[simp] theorem capacity_assign (m : SlotMap) (id : String) (wants : Bool) :
    (m.assign id wants).slots.capacity = m.capacity := by
  rcases m.assign_cases id wants with ⟨_, _, h⟩ | ⟨_, h⟩ | ⟨_, _, _, _, h⟩ <;> rw [h]

@[simp] theorem withOccupancy_assign (m : SlotMap) (id : String) (wants : Bool) :
    (m.assign id wants).slots.withOccupancy = m.withOccupancy := by
  rcases m.assign_cases id wants with ⟨_, _, h⟩ | ⟨_, h⟩ | ⟨_, _, _, _, h⟩ <;> rw [h]

theorem assign_unsaved {m : SlotMap} {id : String} {wants : Bool}
    (h : (m.assign id wants).saves = false) : (m.assign id wants).slots = m := by
  rcases m.assign_cases id wants with ⟨_, _, he⟩ | ⟨_, he⟩ | ⟨_, _, _, _, he⟩
  · rw [he]
  · rw [he]
  · rw [he] at h
    cases h

/-- An entry once made is never changed by a later `assign`. -/
theorem lookup_assign {m : SlotMap} {id k : String} {wants : Bool} {slot : Nat}
    (h : m.map.lookup k = some slot) : (m.assign id wants).slots.map.lookup k = some slot := by
  rcases m.assign_cases id wants with ⟨_, _, he⟩ | ⟨_, he⟩ | ⟨_, hn, _, _, he⟩
  · rw [he]
    exact h
  · rw [he]
    exact h
  · rw [he, HashMap.lookup_insert_eq]
    split
    · rename_i hk
      rw [hk, hn] at h
      cases h
    · exact h

theorem assign_known {m : SlotMap} {id : String} {wants : Bool} {slot : Nat}
    (h : m.map.lookup id = some slot) : m.assign id wants = ⟨some slot, m, false⟩ := by
  simp only [assign, h]

/-- A slot given to a camera is on record for it afterwards. -/
theorem lookup_of_slot {m : SlotMap} {id : String} {wants : Bool} {slot : Nat}
    (h : (m.assign id wants).slot = some slot) :
    (m.assign id wants).slots.map.lookup id = some slot := by
  rcases m.assign_cases id wants with ⟨s, hl, he⟩ | ⟨_, he⟩ | ⟨s, _, _, _, he⟩
  · rw [he] at h ⊢
    cases h
    exact hl
  · rw [he] at h
    cases h
  · rw [he] at h ⊢
    cases h
    exact Finmap.lookup_insert m.map

/-! ## Soundness of the map -/

/-- Every entry lies below the capacity. -/
def InRange (m : SlotMap) : Prop :=
  ∀ id slot, m.map.lookup id = some slot → slot < m.capacity

theorem InRange.assign {m : SlotMap} (h : m.InRange) (hfit : m.withOccupancy ≤ m.capacity)
    (id : String) (wants : Bool) : (m.assign id wants).slots.InRange := by
  rcases m.assign_cases id wants with ⟨_, _, he⟩ | ⟨_, he⟩ | ⟨slot, _, _, hp, he⟩
  · rwa [he]
  · rwa [he]
  · rw [he]
    intro k s hs
    rw [HashMap.lookup_insert_eq] at hs
    split at hs
    · obtain rfl := Option.some.inj hs
      exact (mem_pools hfit).mp hp
    · exact h k s hs

theorem InRange.forget {m : SlotMap} (h : m.InRange) (id : String) : (m.forget id).1.InRange := by
  rw [SlotMap.forget]
  split
  · intro k s hs
    rw [HashMap.lookup_erase_eq] at hs
    split at hs
    · cases hs
    · exact h k s hs
  · exact h

theorem injective_assign {m : SlotMap} (h : m.map.Injective) (id : String) (wants : Bool) :
    (m.assign id wants).slots.map.Injective := by
  rcases m.assign_cases id wants with ⟨_, _, he⟩ | ⟨_, he⟩ | ⟨_, _, hv, _, he⟩
  · rwa [he]
  · rwa [he]
  · rw [he]
    exact h.insert hv

theorem injective_forget {m : SlotMap} (h : m.map.Injective) (id : String) :
    (m.forget id).1.map.Injective := by
  rw [SlotMap.forget]
  split
  · exact h.erase id
  · exact h

theorem inRange_load [SerdeJson] (file : SlotFile) (capacity withOccupancy : Nat) :
    (load file capacity withOccupancy).InRange := by
  intro id slot h
  simp only [load] at h
  split at h
  · exact of_decide_eq_true (HashMap.lookup_retain_eq_some.mp h).2
  · rw [Finmap.lookup_empty] at h
    cases h

/-- Reading back what a successful save wrote gives the same map. -/
theorem load_written [SerdeJson] {m : SlotMap} (h : m.InRange) (seed withOccupancy : Nat) :
    (load (some (SerdeJson.toStringPretty ⟨m.map⟩ seed)) m.capacity withOccupancy).map = m.map := by
  simp only [load, Option.bind_some, SerdeJson.round_trip]
  apply Finmap.ext_lookup
  intro id
  cases hl : m.map.lookup id with
  | some slot =>
    exact HashMap.lookup_retain_eq_some.mpr ⟨hl, decide_eq_true (h id slot hl)⟩
  | none =>
    rw [← Option.not_isSome_iff_eq_none]
    intro hs
    obtain ⟨slot, hslot⟩ := Option.isSome_iff_exists.mp hs
    rw [(HashMap.lookup_retain_eq_some.mp hslot).1] at hl
    cases hl

end SlotMap

end MatterBridge.Slots
