import Mathlib.Order.Bounds.Basic
import MatterBridge.Slots.SlotMap

/-!
# What `assign` hands out

The two pools are intervals of slot numbers. A new camera gets the least free slot
of the pool it prefers, else the least free slot of the other one. Counting the
entries of a map with distinct slots in range shows that no slot is wasted: a
camera is refused only when there are as many entries as slots.
-/
namespace MatterBridge.Slots.SlotMap

open MatterBridge.Core

/-- No camera holds the slot. -/
def Free (m : SlotMap) (slot : Nat) : Prop := ∀ id, m.map.lookup id ≠ some slot

/-- The slots of the occupancy pool, or of the plain one. -/
def InPool (m : SlotMap) (occupancy : Bool) (slot : Nat) : Prop :=
  if occupancy then slot < m.withOccupancy else m.withOccupancy ≤ slot ∧ slot < m.capacity

def freeSlots (m : SlotMap) (occupancy : Bool) : Set Nat :=
  {slot | m.InPool occupancy slot ∧ m.Free slot}

/-- The slot a new camera is due. -/
def Due (m : SlotMap) (wantsOccupancy : Bool) (slot : Nat) : Prop :=
  IsLeast (m.freeSlots wantsOccupancy) slot ∨
    (m.freeSlots wantsOccupancy = ∅ ∧ IsLeast (m.freeSlots !wantsOccupancy) slot)

theorem notMem_values {m : SlotMap} {slot : Nat} : slot ∉ m.map.values ↔ m.Free slot := by
  rw [HashMap.mem_values]
  exact not_exists

theorem firstFree_range'_eq_some {m : SlotMap} {low n slot : Nat} :
    m.firstFree (List.range' low n) = some slot ↔
      IsLeast {k | (low ≤ k ∧ k < low + n) ∧ m.Free k} slot := by
  unfold firstFree
  rw [List.find?_range'_eq_some]
  simp only [decide_eq_true_eq, Bool.not_eq_true', decide_eq_false_iff_not, notMem_values,
    List.mem_range'_1]
  constructor
  · intro h
    obtain ⟨hfree, hmem, hleast⟩ := h
    refine ⟨⟨hmem, hfree⟩, fun k hk => ?_⟩
    by_contra hlt
    exact hleast k hk.1.1 (by omega) hk.2
  · intro h
    obtain ⟨⟨hmem, hfree⟩, hleast⟩ := h
    refine ⟨hfree, hmem, fun k hlow hlt hk => ?_⟩
    have hle := hleast ⟨⟨hlow, by omega⟩, hk⟩
    omega

theorem firstFree_range'_eq_none {m : SlotMap} {low n : Nat} :
    m.firstFree (List.range' low n) = none ↔ {k | (low ≤ k ∧ k < low + n) ∧ m.Free k} = ∅ := by
  unfold firstFree
  rw [List.find?_range'_eq_none, Set.eq_empty_iff_forall_notMem]
  simp only [Bool.not_eq_true', decide_eq_false_iff_not, notMem_values]
  constructor
  · intro h k hk
    exact h k hk.1.1 hk.1.2 hk.2
  · intro h k hlow hlt hk
    exact h k ⟨⟨hlow, hlt⟩, hk⟩

/-- The pool searched first by a camera that wants occupancy, or not. -/
def poolOf (m : SlotMap) (occupancy : Bool) : List Nat :=
  if occupancy then m.occupancyPool else m.plainPool

theorem poolOf_eq_range' (m : SlotMap) (occupancy : Bool) :
    ∃ low n, m.poolOf occupancy = List.range' low n ∧
      ∀ slot, m.InPool occupancy slot ↔ low ≤ slot ∧ slot < low + n := by
  cases occupancy with
  | true =>
    refine ⟨0, m.withOccupancy, List.range_eq_range', fun slot => ?_⟩
    show slot < m.withOccupancy ↔ _
    omega
  | false =>
    refine ⟨m.withOccupancy, m.capacity - m.withOccupancy, rfl, fun slot => ?_⟩
    show m.withOccupancy ≤ slot ∧ slot < m.capacity ↔ _
    omega

theorem firstFree_poolOf_eq_some {m : SlotMap} {occupancy : Bool} {slot : Nat} :
    m.firstFree (m.poolOf occupancy) = some slot ↔ IsLeast (m.freeSlots occupancy) slot := by
  obtain ⟨low, n, hpool, hmem⟩ := m.poolOf_eq_range' occupancy
  rw [hpool, firstFree_range'_eq_some]
  unfold freeSlots
  simp only [hmem]

theorem firstFree_poolOf_eq_none {m : SlotMap} {occupancy : Bool} :
    m.firstFree (m.poolOf occupancy) = none ↔ m.freeSlots occupancy = ∅ := by
  obtain ⟨low, n, hpool, hmem⟩ := m.poolOf_eq_range' occupancy
  rw [hpool, firstFree_range'_eq_none]
  unfold freeSlots
  simp only [hmem]

/-- The four searches of `assign`, as two over the pools in the preferred order. -/
theorem assign_unknown {m : SlotMap} {id : String} (wants : Bool) (h : m.map.lookup id = none) :
    m.assign id wants =
      match (m.firstFree (m.poolOf wants)).or (m.firstFree (m.poolOf !wants)) with
      | none => ⟨none, m, false⟩
      | some slot => ⟨some slot, { m with map := m.map.insert id slot }, true⟩ := by
  cases wants <;> simp only [assign, h, poolOf] <;> rfl

theorem assign_due {m : SlotMap} {id : String} {wants : Bool} {slot : Nat}
    (h : m.map.lookup id = none) (hd : m.Due wants slot) :
    m.assign id wants = ⟨some slot, { m with map := m.map.insert id slot }, true⟩ := by
  have hfirst : (m.firstFree (m.poolOf wants)).or (m.firstFree (m.poolOf !wants)) = some slot := by
    rcases hd with hleast | ⟨hempty, hleast⟩
    · rw [firstFree_poolOf_eq_some.mpr hleast]
      rfl
    · rw [firstFree_poolOf_eq_none.mpr hempty, firstFree_poolOf_eq_some.mpr hleast]
      rfl
  rw [assign_unknown wants h, hfirst]

theorem due_of_slot {m : SlotMap} {id : String} {wants : Bool} {slot : Nat}
    (h : m.map.lookup id = none) (hs : (m.assign id wants).slot = some slot) :
    m.Due wants slot := by
  rw [assign_unknown wants h] at hs
  cases hfirst : (m.firstFree (m.poolOf wants)).or (m.firstFree (m.poolOf !wants)) with
  | none =>
    rw [hfirst] at hs
    cases hs
  | some k =>
    rw [hfirst] at hs
    cases hs
    rcases Option.or_eq_some_iff.mp hfirst with hk | ⟨hnone, hk⟩
    · exact Or.inl (firstFree_poolOf_eq_some.mp hk)
    · exact Or.inr ⟨firstFree_poolOf_eq_none.mp hnone, firstFree_poolOf_eq_some.mp hk⟩

/-- Every slot below the capacity is in one of the pools. -/
theorem inPool_of_lt {m : SlotMap} {slot : Nat} (h : slot < m.capacity) (occupancy : Bool) :
    m.InPool occupancy slot ∨ m.InPool (!occupancy) slot := by
  have hpools : slot < m.withOccupancy ∨ m.withOccupancy ≤ slot ∧ slot < m.capacity := by omega
  cases occupancy with
  | true => exact hpools
  | false => exact hpools.symm

/-- A camera is refused only when every slot is held, whatever the map. -/
theorem held_of_refused {m : SlotMap} {id : String} {wants : Bool}
    (h : (m.assign id wants).slot = none) {slot : Nat} (hs : slot < m.capacity) :
    ∃ k, m.map.lookup k = some slot := by
  have hnew : m.map.lookup id = none := by
    cases hl : m.map.lookup id with
    | none => rfl
    | some k =>
      rw [assign_known hl] at h
      cases h
  by_contra hfree
  have hfree' : m.Free slot := not_exists.mp hfree
  rw [assign_unknown wants hnew] at h
  cases hfirst : (m.firstFree (m.poolOf wants)).or (m.firstFree (m.poolOf !wants)) with
  | some k =>
    rw [hfirst] at h
    cases h
  | none =>
    obtain ⟨hp, hq⟩ := Option.or_eq_none_iff.mp hfirst
    rcases m.inPool_of_lt hs wants with hin | hin
    · exact Set.eq_empty_iff_forall_notMem.mp (firstFree_poolOf_eq_none.mp hp) slot ⟨hin, hfree'⟩
    · exact Set.eq_empty_iff_forall_notMem.mp (firstFree_poolOf_eq_none.mp hq) slot ⟨hin, hfree'⟩

/-- Distinct slots in range: every slot is held exactly when there are as many
entries as slots. -/
theorem held_iff_card {m : SlotMap} (hr : m.InRange) (hx : m.map.Injective) :
    (∀ slot < m.capacity, ∃ id, m.map.lookup id = some slot) ↔
      m.map.keys.card = m.capacity := by
  have hsub : m.map.values ⊆ Finset.range m.capacity := by
    intro slot hslot
    obtain ⟨id, hid⟩ := HashMap.mem_values.mp hslot
    exact Finset.mem_range.mpr (hr id slot hid)
  rw [← hx.card_values]
  constructor
  · intro hall
    have heq : m.map.values = Finset.range m.capacity := by
      refine Finset.Subset.antisymm hsub fun slot hslot => ?_
      exact HashMap.mem_values.mpr (hall slot (Finset.mem_range.mp hslot))
    rw [heq, Finset.card_range]
  · intro hcard slot hslot
    have heq : m.map.values = Finset.range m.capacity := by
      refine Finset.eq_of_subset_of_card_le hsub ?_
      rw [hcard, Finset.card_range]
    exact HashMap.mem_values.mp (heq ▸ Finset.mem_range.mpr hslot)

/-- A full map refuses every new camera. -/
theorem refused_of_held {m : SlotMap} (hfit : m.withOccupancy ≤ m.capacity) {id : String}
    (h : m.map.lookup id = none) (hall : ∀ slot < m.capacity, ∃ k, m.map.lookup k = some slot)
    (wants : Bool) : m.assign id wants = ⟨none, m, false⟩ := by
  rcases m.assign_cases id wants with ⟨slot, hl, _⟩ | ⟨_, he⟩ | ⟨slot, _, hfree, hpool, _⟩
  · rw [h] at hl
    cases hl
  · exact he
  · obtain ⟨k, hk⟩ := hall slot ((mem_pools hfit).mp hpool)
    exact absurd hk (hfree k)

/-- **The specification of `assign`.** In a map with distinct slots in range: a known
camera keeps its slot; a new one gets the least free slot of the pool it prefers, or
of the other pool if that one is taken, and exactly this entry is added and saved;
it is refused exactly when there are as many entries as slots, and then nothing is
changed or saved. -/
theorem assign_spec {m : SlotMap} (hfit : m.withOccupancy ≤ m.capacity) (hr : m.InRange)
    (hx : m.map.Injective) (id : String) (wants : Bool) :
    (∀ slot, m.map.lookup id = some slot → m.assign id wants = ⟨some slot, m, false⟩) ∧
    (∀ slot, m.map.lookup id = none → ((m.assign id wants).slot = some slot ↔ m.Due wants slot)) ∧
    (∀ slot, m.map.lookup id = none → m.Due wants slot →
      m.assign id wants = ⟨some slot, { m with map := m.map.insert id slot }, true⟩) ∧
    ((m.assign id wants).slot = none ↔
      m.map.lookup id = none ∧ m.map.keys.card = m.capacity) ∧
    ((m.assign id wants).slot = none → m.assign id wants = ⟨none, m, false⟩) ∧
    (∀ slot, m.map.lookup id = none → (m.assign id true).slot = some slot →
      m.withOccupancy ≤ slot → ∀ k < m.withOccupancy, ∃ id', m.map.lookup id' = some k) := by
  have hnew : (m.assign id wants).slot = none → m.map.lookup id = none := by
    intro h
    cases hl : m.map.lookup id with
    | none => rfl
    | some slot =>
      rw [assign_known hl] at h
      cases h
  have hnone : (m.assign id wants).slot = none ↔
      m.map.lookup id = none ∧ m.map.keys.card = m.capacity := by
    rw [← held_iff_card hr hx]
    constructor
    · exact fun h => ⟨hnew h, fun slot hs => held_of_refused h hs⟩
    · intro h
      rw [refused_of_held hfit h.1 h.2 wants]
  refine ⟨fun slot => assign_known, fun slot hl => ⟨due_of_slot hl, fun hd => ?_⟩,
    fun slot hl hd => assign_due hl hd, hnone, fun h => ?_, fun slot hl hs hplain k hk => ?_⟩
  · rw [assign_due hl hd]
  · obtain ⟨hl, hcard⟩ := hnone.mp h
    exact refused_of_held hfit hl ((held_iff_card hr hx).mpr hcard) wants
  · by_contra hfree
    have hin : k ∈ m.freeSlots true := ⟨hk, not_exists.mp hfree⟩
    rcases due_of_slot hl hs with hleast | ⟨hempty, _⟩
    · have hlt : slot < m.withOccupancy := hleast.1.1
      omega
    · exact Set.eq_empty_iff_forall_notMem.mp hempty k hin

/-- Both pools partly taken: the motion camera spills into the plain pool. -/
theorem assign_spec_spill :
    let m : SlotMap := ⟨((∅ : HashMap _ _).insert "a" 0).insert "b" 2, 4, 1⟩
    m.Due true 1 ∧ m.assign "c" true = ⟨some 1, { m with map := m.map.insert "c" 1 }, true⟩ := by
  intro m
  have hlookup : ∀ id slot, m.map.lookup id = some slot → id = "b" ∧ slot = 2 ∨
      id = "a" ∧ slot = 0 := by
    intro id slot h
    simp only [m, HashMap.lookup_insert_eq, Finmap.lookup_empty] at h
    split at h
    · exact Or.inl ⟨‹_›, (Option.some.inj h).symm⟩
    · split at h
      · exact Or.inr ⟨‹_›, (Option.some.inj h).symm⟩
      · cases h
  have hr : m.InRange := by
    intro id slot h
    show slot < 4
    rcases hlookup id slot h with ⟨_, rfl⟩ | ⟨_, rfl⟩ <;> decide
  have hx : m.map.Injective := by
    intro id id' slot h h'
    rcases hlookup id slot h with ⟨rfl, rfl⟩ | ⟨rfl, rfl⟩ <;>
      rcases hlookup id' _ h' with ⟨rfl, h0⟩ | ⟨rfl, h0⟩ <;> first | rfl | cases h0
  obtain ⟨_, hiff, hadd, _, _, _⟩ := assign_spec (by decide) hr hx "c" true
  have hdue : m.Due true 1 := (hiff 1 rfl).mp (by decide)
  exact ⟨hdue, hadd 1 rfl hdue⟩

end MatterBridge.Slots.SlotMap
