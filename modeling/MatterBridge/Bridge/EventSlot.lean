import MatterBridge.Bridge.EventLoop

/-!
# The slot an event is about

Each handler works on at most one slot, known from the state before the event. These
facts need no order among the events: they hold for a loop that loads any slot file
and receives any events, lost ones included.
-/
namespace MatterBridge.Bridge

open MatterBridge.Core MatterBridge.Onvif MatterBridge.Slots

namespace BridgeLoop

/-- The slot the handler of `e` works on. -/
def eventSlot (s : BridgeLoop) : RegistryEvent → Option Nat
  | .added camera => (s.slotMap.assign camera.id camera.supportsMotion).slot
  | .updated camera => s.bridge.slotMap.lookup camera.id
  | .removed id => s.bridge.slotMap.lookup id

/-- Every slot number the loop may index with is in range. -/
structure InBounds (s : BridgeLoop) : Prop where
  capacity : s.slotMap.capacity = maxCameras
  pools : s.slotMap.withOccupancy = withOccupancyCameras
  inRange : s.slotMap.InRange
  bound : ∀ id slot, s.bridge.slotMap.lookup id = some slot → slot < maxCameras

/-- The loop as `start_onvif_bridge` starts it, over the loaded slot file. -/
def boot [SerdeJson] (file : SlotFile) : BridgeLoop :=
  start (SlotMap.load file maxCameras withOccupancyCameras)

theorem lookup_boot [SerdeJson] (file : SlotFile) (id : String) :
    (boot file).bridge.slotMap.lookup id = none := Finmap.lookup_empty id

theorem motionTasks_boot [SerdeJson] (file : SlotFile) (slot : Nat) :
    (boot file).motionTasks.lookup slot = none := Finmap.lookup_empty slot

theorem inBounds_boot [SerdeJson] (file : SlotFile) : (boot file).InBounds where
  capacity := rfl
  pools := rfl
  inRange := SlotMap.inRange_load file maxCameras withOccupancyCameras
  bound id slot h := by
    rw [lookup_boot] at h
    cases h

theorem InBounds.assign {s : BridgeLoop} (h : s.InBounds) (id : String) (wants : Bool) :
    (s.slotMap.assign id wants).slots.InRange :=
  h.inRange.assign (by rw [h.capacity, h.pools]; decide) id wants

theorem InBounds.lt_of_assign {s : BridgeLoop} (h : s.InBounds) {id : String} {wants : Bool}
    {slot : Nat} (hs : (s.slotMap.assign id wants).slot = some slot) : slot < maxCameras := by
  have hlt := h.assign id wants id slot (SlotMap.lookup_of_slot hs)
  rwa [SlotMap.capacity_assign, h.capacity] at hlt

theorem InBounds.lt {s : BridgeLoop} (h : s.InBounds) {e : RegistryEvent} {slot : Nat}
    (hs : s.eventSlot e = some slot) : slot < maxCameras := by
  cases e with
  | added camera => exact h.lt_of_assign hs
  | updated camera => exact h.bound camera.id slot hs
  | removed id => exact h.bound id slot hs

/-- A camera without a slot is refused, and refusal changes nothing. -/
theorem assign_refused {m : SlotMap} {id : String} {wants : Bool}
    (h : (m.assign id wants).slot = none) : m.assign id wants = ⟨none, m, false⟩ := by
  rcases m.assign_cases id wants with ⟨_, _, he⟩ | ⟨_, he⟩ | ⟨_, _, _, _, he⟩
  · rw [he] at h
    cases h
  · exact he
  · rw [he] at h
    cases h

theorem assign_granted {m : SlotMap} {id : String} {wants : Bool} {slot : Nat}
    (h : (m.assign id wants).slot = some slot) : m.assign id wants =
      ⟨some slot, (m.assign id wants).slots, (m.assign id wants).saves⟩ := by
  rw [← h]

variable [UnicodeTables]

/-- An event that is about no slot is ignored. -/
theorem handleEvent_ignored (cfg : LoopConfig) {s : BridgeLoop} {e : RegistryEvent}
    (h : s.eventSlot e = none) : s.handleEvent cfg e = some s := by
  cases e with
  | added camera => exact onAdded_refused cfg s camera (assign_refused h)
  | updated camera => exact onUpdated_unknown cfg s camera h
  | removed id => exact onRemoved_unknown s id h

/-- What a slot shows after an event about it. -/
def shown (cfg : LoopConfig) : RegistryEvent → CameraSlot
  | .added camera => populateCameraSlot .default camera (cfg.friendlyName camera)
  | .updated camera => populateCameraSlot .default camera (cfg.friendlyName camera)
  | .removed _ => .default

/-- The binding an event about `slot` leaves. -/
def rebind (m : HashMap String Nat) (slot : Nat) : RegistryEvent → HashMap String Nat
  | .added camera => m.insert camera.id slot
  | .updated _ => m
  | .removed id => m.erase id

/-- The allocator after an event. -/
def reassign (m : SlotMap) : RegistryEvent → SlotMap
  | .added camera => (m.assign camera.id camera.supportsMotion).slots
  | .updated _ => m
  | .removed _ => m

/-- An event about a slot in range is handled without a panic. It rewrites what this
slot shows and how its camera is bound. -/
theorem handleEvent_bound (cfg : LoopConfig) {s : BridgeLoop} {e : RegistryEvent} {slot : Nat}
    (hs : slot < maxCameras) (h : s.eventSlot e = some slot) :
    ∃ t, s.handleEvent cfg e = some t ∧ t.slotMap = reassign s.slotMap e ∧
      t.bridge.slotMap = rebind s.bridge.slotMap slot e ∧
      ∀ k, (t.row k).camera =
        if k = slot then (s.row k).camera.map fun _ => shown cfg e else (s.row k).camera := by
  cases e with
  | added camera =>
    obtain ⟨t, ht, hslots, hbridge, hrow, _⟩ :=
      onAdded_bound cfg s camera hs (assign_granted h)
    refine ⟨t, ht, hslots, hbridge, fun k => ?_⟩
    rw [hrow]
    split
    · rename_i hk
      rw [hk]
      rfl
    · rfl
  | updated camera =>
    obtain ⟨t, ht, hslots, hbridge, hrow, _⟩ := onUpdated_bound cfg s camera hs h
    refine ⟨t, ht, hslots, by rw [hbridge]; rfl, fun k => ?_⟩
    rw [hrow]
    split <;> rfl
  | removed id =>
    obtain ⟨t, ht, hslots, hbridge, hrow, _⟩ := onRemoved_bound s id hs h
    refine ⟨t, ht, hslots, hbridge, fun k => ?_⟩
    rw [hrow]
    split
    · rename_i hk
      rw [hk, s.camera_row hs]
      rfl
    · rfl

/-- The effect of an event on the tables, as far as its slot decides it. -/
theorem InBounds.handled {s t : BridgeLoop} (h : s.InBounds) {cfg : LoopConfig}
    {e : RegistryEvent} (ht : s.handleEvent cfg e = some t) :
    (s.eventSlot e = none ∧ t = s) ∨ ∃ slot, s.eventSlot e = some slot ∧
      t.slotMap = reassign s.slotMap e ∧ t.bridge.slotMap = rebind s.bridge.slotMap slot e ∧
      ∀ k, (t.row k).camera =
        if k = slot then (s.row k).camera.map fun _ => shown cfg e else (s.row k).camera := by
  cases he : s.eventSlot e with
  | none =>
    rw [handleEvent_ignored cfg he] at ht
    exact Or.inl ⟨rfl, (Option.some.inj ht).symm⟩
  | some slot =>
    obtain ⟨u, hu, heffect⟩ := handleEvent_bound cfg (h.lt he) he
    obtain rfl := Option.some.inj (hu.symm.trans ht)
    exact Or.inr ⟨slot, rfl, heffect⟩

omit [UnicodeTables] in
theorem reassign_ignored {s : BridgeLoop} {e : RegistryEvent} (h : s.eventSlot e = none) :
    reassign s.slotMap e = s.slotMap := by
  cases e with
  | added camera =>
    show (s.slotMap.assign camera.id camera.supportsMotion).slots = s.slotMap
    rw [assign_refused h]
  | updated camera => rfl
  | removed id => rfl

omit [UnicodeTables] in
/-- No event takes a camera's slot away. -/
theorem lookup_reassign {m : SlotMap} {id : String} {slot : Nat}
    (h : m.map.lookup id = some slot) (e : RegistryEvent) :
    (reassign m e).map.lookup id = some slot := by
  cases e with
  | added camera => exact SlotMap.lookup_assign h
  | updated camera => exact h
  | removed _ => exact h

theorem InBounds.slotMap_step {s t : BridgeLoop} (h : s.InBounds) {cfg : LoopConfig}
    {e : RegistryEvent} (ht : s.handleEvent cfg e = some t) :
    t.slotMap = reassign s.slotMap e := by
  rcases h.handled ht with ⟨hslot, rfl⟩ | ⟨_, _, hslots, _⟩
  · exact (reassign_ignored hslot).symm
  · exact hslots

theorem InBounds.bridge_step {s t : BridgeLoop} (h : s.InBounds) {cfg : LoopConfig}
    {e : RegistryEvent} (ht : s.handleEvent cfg e = some t) {slot : Nat}
    (hs : s.eventSlot e = some slot) : t.bridge.slotMap = rebind s.bridge.slotMap slot e := by
  rcases h.handled ht with ⟨hslot, _⟩ | ⟨slot', hslot, _, hbridge, _⟩
  · rw [hslot] at hs
    cases hs
  · obtain rfl := Option.some.inj (hslot.symm.trans hs)
    exact hbridge

/-- What the slots show afterwards. -/
theorem InBounds.slots_step {s t : BridgeLoop} (h : s.InBounds) {cfg : LoopConfig}
    {e : RegistryEvent} (ht : s.handleEvent cfg e = some t) {k : Nat} (hk : k < maxCameras) :
    t.slots[k] = if s.eventSlot e = some k then shown cfg e else s.slots[k] := by
  rcases h.handled ht with ⟨hslot, rfl⟩ | ⟨slot, hslot, _, _, hrow⟩
  · rw [hslot]
    rfl
  · have hcamera := hrow k
    rw [t.camera_row hk, s.camera_row hk] at hcamera
    rw [hslot]
    by_cases hks : k = slot
    · rw [if_pos hks] at hcamera
      rw [if_pos (congrArg some hks.symm)]
      exact Option.some.inj hcamera
    · rw [if_neg hks] at hcamera
      rw [if_neg fun heq => hks (Option.some.inj heq).symm]
      exact Option.some.inj hcamera

omit [UnicodeTables] in
theorem InBounds.reassign {s : BridgeLoop} (h : s.InBounds) (e : RegistryEvent) :
    (BridgeLoop.reassign s.slotMap e).capacity = maxCameras ∧
      (BridgeLoop.reassign s.slotMap e).withOccupancy = withOccupancyCameras ∧
      (BridgeLoop.reassign s.slotMap e).InRange := by
  cases e with
  | added camera =>
    exact ⟨(SlotMap.capacity_assign _ _ _).trans h.capacity,
      (SlotMap.withOccupancy_assign _ _ _).trans h.pools,
      h.assign camera.id camera.supportsMotion⟩
  | updated camera => exact ⟨h.capacity, h.pools, h.inRange⟩
  | removed id => exact ⟨h.capacity, h.pools, h.inRange⟩

omit [UnicodeTables] in
theorem InBounds.rebind {s : BridgeLoop} (h : s.InBounds) {slot : Nat} (hs : slot < maxCameras)
    (e : RegistryEvent) (id : String) (k : Nat)
    (hk : (BridgeLoop.rebind s.bridge.slotMap slot e).lookup id = some k) : k < maxCameras := by
  cases e with
  | added camera =>
    simp only [BridgeLoop.rebind, HashMap.lookup_insert_eq] at hk
    split at hk
    · rwa [← Option.some.inj hk]
    · exact h.bound id k hk
  | updated camera => exact h.bound id k hk
  | removed id' =>
    simp only [BridgeLoop.rebind, HashMap.lookup_erase_eq] at hk
    split at hk
    · cases hk
    · exact h.bound id k hk

theorem InBounds.step {s : BridgeLoop} (h : s.InBounds) (cfg : LoopConfig) (e : RegistryEvent) :
    ∃ t, s.handleEvent cfg e = some t ∧ t.InBounds := by
  cases he : s.eventSlot e with
  | none => exact ⟨s, handleEvent_ignored cfg he, h⟩
  | some slot =>
    have hlt := h.lt he
    obtain ⟨t, ht, hslots, hbridge, _⟩ := handleEvent_bound cfg hlt he
    obtain ⟨hcapacity, hpools, hrange⟩ := h.reassign e
    refine ⟨t, ht, ?_, ?_, ?_, ?_⟩
    · rw [hslots, hcapacity]
    · rw [hslots, hpools]
    · rwa [hslots]
    · rw [hbridge]
      exact h.rebind hlt e

theorem InBounds.kept {s t : BridgeLoop} (h : s.InBounds) {cfg : LoopConfig} {e : RegistryEvent}
    (ht : s.handleEvent cfg e = some t) : t.InBounds := by
  obtain ⟨u, hu, hb⟩ := h.step cfg e
  obtain rfl := Option.some.inj (hu.symm.trans ht)
  exact hb

/-- No list of events, expected or not, makes a handler panic. -/
theorem InBounds.run {s : BridgeLoop} (h : s.InBounds) (cfg : LoopConfig)
    (events : List RegistryEvent) : ∃ t, s.handleEvents cfg events = some t ∧ t.InBounds := by
  induction events using List.reverseRecOn with
  | nil => exact ⟨s, rfl, h⟩
  | append_singleton events e ih =>
    obtain ⟨t, ht, hb⟩ := ih
    obtain ⟨u, hu, hb'⟩ := hb.step cfg e
    refine ⟨u, ?_, hb'⟩
    rw [handleEvents_snoc, ht]
    exact hu

end BridgeLoop

end MatterBridge.Bridge
