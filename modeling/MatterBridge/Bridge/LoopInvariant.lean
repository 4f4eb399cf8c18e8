import MatterBridge.Bridge.EventLoop

/-!
# The event loop invariant

`LoopInvariant` is what a reader of the tables may rely on after every event. To
carry it over an event one also needs the replayed registry map, because it
decides which ids may be bound; `Inv` adds that map and the slot allocator. The
rows of all slots but one are framed, so each case argues about a single slot.
-/
namespace MatterBridge.Bridge

open MatterBridge.Core MatterBridge.Onvif MatterBridge.Slots

/-! ## Records delivered for a camera -/

def addedRecord? (id : String) : RegistryEvent → Option CameraDevice
  | .added camera => if camera.id = id then some camera else none
  | .updated _ => none
  | .removed _ => none

def deliveredRecord? (id : String) : RegistryEvent → Option CameraDevice
  | .added camera => if camera.id = id then some camera else none
  | .updated camera => if camera.id = id then some camera else none
  | .removed _ => none

/-- The record of the latest Added event for `id`. -/
def addedRecord (id : String) (events : List RegistryEvent) : Option CameraDevice :=
  (events.filterMap (addedRecord? id)).getLast?

/-- The latest record delivered for `id` by an Added or Updated event. -/
def latestRecord (id : String) (events : List RegistryEvent) : Option CameraDevice :=
  (events.filterMap (deliveredRecord? id)).getLast?

theorem addedRecord_snoc (id : String) (events : List RegistryEvent) (e : RegistryEvent) :
    addedRecord id (events ++ [e]) = (addedRecord? id e).or (addedRecord id events) := by
  rw [addedRecord, List.filterMap_append]
  cases h : addedRecord? id e <;> simp [addedRecord, h]

theorem latestRecord_snoc (id : String) (events : List RegistryEvent) (e : RegistryEvent) :
    latestRecord id (events ++ [e]) = (deliveredRecord? id e).or (latestRecord id events) := by
  rw [latestRecord, List.filterMap_append]
  cases h : deliveredRecord? id e <;> simp [latestRecord, h]

theorem addedRecord_snoc_ne {id : String} {e : RegistryEvent} (h : id ≠ e.cameraId)
    (events : List RegistryEvent) : addedRecord id (events ++ [e]) = addedRecord id events := by
  have hnone : addedRecord? id e = none := by
    cases e with
    | added camera => exact if_neg (Ne.symm h)
    | updated camera => rfl
    | removed _ => rfl
  rw [addedRecord_snoc, hnone, Option.none_or]

theorem latestRecord_snoc_ne {id : String} {e : RegistryEvent} (h : id ≠ e.cameraId)
    (events : List RegistryEvent) : latestRecord id (events ++ [e]) = latestRecord id events := by
  have hnone : deliveredRecord? id e = none := by
    cases e with
    | added camera => exact if_neg (Ne.symm h)
    | updated camera => exact if_neg (Ne.symm h)
    | removed _ => rfl
  rw [latestRecord_snoc, hnone, Option.none_or]

/-! ## The invariant -/

/-- The slot shows the camera's record. -/
structure Shows (slot : CameraSlot) (camera : CameraDevice) : Prop where
  uniqueId : slot.uniqueId = camera.id
  vendorName : slot.vendorName = camera.deviceInfo.manufacturer
  productName : slot.productName = camera.deviceInfo.model
  serialNumber : slot.serialNumber = camera.deviceInfo.serialNumber
  hardwareVersion : slot.hardwareVersionString = camera.deviceInfo.hardwareId
  softwareVersion : slot.softwareVersionString = camera.deviceInfo.firmwareVersion

/-- After handling `events`, all tables describe the same binding of cameras to slots. -/
structure LoopInvariant [UnicodeTables] (events : List RegistryEvent) (s : BridgeLoop) : Prop where
  injective : s.bridge.slotMap.Injective
  agrees : ∀ id slot, s.bridge.slotMap.lookup id = some slot →
    s.slotMap.map.lookup id = some slot
  streamNames : ∀ slot name, s.bridge.streamNames.lookup slot = some name ↔
    ∃ id, s.bridge.slotMap.lookup id = some slot ∧ name = sanitizeStreamName id
  occupied : ∀ slot (h : slot < maxCameras), s.slots[slot].occupied = true ↔
    ∃ id, s.bridge.slotMap.lookup id = some slot
  bound : ∀ id slot, s.bridge.slotMap.lookup id = some slot →
    ∃ (h : slot < maxCameras) (camera : CameraDevice), latestRecord id events = some camera ∧
      camera.id = id ∧ Shows s.slots[slot] camera
  free : ∀ slot (h : slot < maxCameras), (∀ id, s.bridge.slotMap.lookup id ≠ some slot) →
    s.slots[slot] = .default
  motionTasks : ∀ slot, slot ∈ s.motionTasks ↔ slot < withOccupancyCameras ∧
    ∃ id camera, s.bridge.slotMap.lookup id = some slot ∧ addedRecord id events = some camera ∧
      camera.supportsMotion = true ∧ camera.eventsUrl.isSome = true
  /-- No pump was overwritten: each running task can still be aborted. -/
  pumps : ∀ pump ∈ s.running, s.motionTasks.lookup pump.slot = some pump.handle

namespace BridgeLoop

/-- The pump table and the running tasks describe each other. -/
structure Handles (s : BridgeLoop) : Prop where
  recorded : ∀ pump ∈ s.running, s.motionTasks.lookup pump.slot = some pump.handle
  alive : ∀ slot handle, s.motionTasks.lookup slot = some handle →
    ∃ pump ∈ s.running, pump.slot = slot ∧ pump.handle = handle
  fresh : ∀ pump ∈ s.running, pump.handle < s.spawned
  exclusive : s.motionTasks.Injective

theorem Handles.same {s t : BridgeLoop} (h : s.Handles) (hs : SamePumps s t) : t.Handles where
  recorded := by rw [hs.running, hs.motionTasks]; exact h.recorded
  alive := by rw [hs.running, hs.motionTasks]; exact h.alive
  fresh := by rw [hs.running, hs.spawned]; exact h.fresh
  exclusive := by rw [hs.motionTasks]; exact h.exclusive

/-- A pump may be started on a slot that has none. -/
theorem Handles.startMotionPump {s : BridgeLoop} (h : s.Handles) (cfg : LoopConfig) {slot : Nat}
    (camera : CameraDevice) (hfree : s.motionTasks.lookup slot = none) :
    (s.startMotionPump cfg slot camera).Handles := by
  rw [BridgeLoop.startMotionPump]
  split
  · exact h
  · refine ⟨?_, ?_, ?_, ?_⟩
    · intro pump hp
      rcases List.mem_append.mp hp with hp | hp
      · have hrec := h.recorded pump hp
        have hne : pump.slot ≠ slot := by
          intro he
          rw [he, hfree] at hrec
          cases hrec
        exact (Finmap.lookup_insert_of_ne s.motionTasks hne).trans hrec
      · obtain rfl := List.mem_singleton.mp hp
        exact Finmap.lookup_insert s.motionTasks
    · intro k handle hk
      simp only [spawnMotionPump, HashMap.lookup_insert_eq] at hk
      split at hk
      · cases hk
        exact ⟨_, List.mem_append_right _ (List.mem_singleton_self _), (‹k = slot›).symm, rfl⟩
      · obtain ⟨pump, hp, hpump⟩ := h.alive k handle hk
        exact ⟨pump, List.mem_append_left _ hp, hpump⟩
    · intro pump hp
      rcases List.mem_append.mp hp with hp | hp
      · exact Nat.lt_succ_of_lt (h.fresh pump hp)
      · obtain rfl := List.mem_singleton.mp hp
        change s.spawned < s.spawned + 1
        omega
    · refine h.exclusive.insert fun k hk => ?_
      obtain ⟨pump, hp, _, hhandle⟩ := h.alive k _ hk
      have hlt := h.fresh pump hp
      omega

theorem Handles.abortMotionPump {s : BridgeLoop} (h : s.Handles) (slot : Nat) :
    (s.abortMotionPump slot).Handles := by
  rw [BridgeLoop.abortMotionPump]
  cases hl : s.motionTasks.lookup slot with
  | none => exact h
  | some handle =>
    have hkeep : ∀ pump ∈ s.running, pump.handle ≠ handle → pump.slot ≠ slot := by
      rintro pump hp hne rfl
      rw [h.recorded pump hp] at hl
      exact hne (Option.some.inj hl)
    refine ⟨?_, ?_, ?_, h.exclusive.erase slot⟩
    · intro pump hp
      obtain ⟨hp, hne⟩ := List.mem_filter.mp hp
      exact (Finmap.lookup_erase_ne (hkeep pump hp (of_decide_eq_true hne))).trans
        (h.recorded pump hp)
    · intro k n hk
      simp only [HashMap.lookup_erase_eq] at hk
      split at hk
      · cases hk
      · obtain ⟨pump, hp, hslot, hn⟩ := h.alive k n hk
        refine ⟨pump, List.mem_filter.mpr ⟨hp, decide_eq_true ?_⟩, hslot, hn⟩
        rintro rfl
        rw [hn] at hl
        exact ‹¬ k = slot› (h.exclusive k slot n hk hl)
    · exact fun pump hp => h.fresh pump (List.mem_filter.mp hp).1

end BridgeLoop

/-! ## The inductive invariant -/

/-- The allocator as the bridge loads it, with pairwise distinct slots in range. -/
structure BridgeSlots (m : SlotMap) : Prop where
  capacity : m.capacity = maxCameras
  pools : m.withOccupancy = withOccupancyCameras
  inRange : m.InRange
  exclusive : m.map.Injective

theorem BridgeSlots.lt {m : SlotMap} (h : BridgeSlots m) {id : String} {slot : Nat}
    (hid : m.map.lookup id = some slot) : slot < maxCameras := by
  have hlt := h.inRange id slot hid
  rwa [h.capacity] at hlt

theorem bridgeSlots_empty : BridgeSlots ⟨∅, maxCameras, withOccupancyCameras⟩ where
  capacity := rfl
  pools := rfl
  inRange id slot h := by simp at h
  exclusive := HashMap.injective_empty

theorem BridgeSlots.assign {m : SlotMap} (h : BridgeSlots m) (id : String) (wants : Bool) :
    BridgeSlots (m.assign id wants).slots where
  capacity := by rw [SlotMap.capacity_assign, h.capacity]
  pools := by rw [SlotMap.withOccupancy_assign, h.pools]
  inRange := h.inRange.assign (by rw [h.capacity, h.pools]; decide) id wants
  exclusive := SlotMap.injective_assign h.exclusive id wants

theorem pumpUrl_isSome {slot : Nat} {camera : CameraDevice} :
    (BridgeLoop.pumpUrl slot camera).isSome = true ↔
      slot < withOccupancyCameras ∧ camera.supportsMotion = true ∧
        camera.eventsUrl.isSome = true := by
  rw [BridgeLoop.pumpUrl]
  by_cases hs : slot < withOccupancyCameras <;> cases hm : camera.supportsMotion <;> simp [hs]

section

variable [UnicodeTables] {cfg : LoopConfig}

/-- The row of a slot that `id` is bound to. -/
structure BoundRow (cfg : LoopConfig) (events : List RegistryEvent) (id : String) (slot : Nat)
    (r : BridgeLoop.Row) : Prop where
  camera : ∃ c, latestRecord id events = some c ∧ c.id = id ∧
    r.camera = some (populateCameraSlot .default c (cfg.friendlyName c))
  streamName : r.streamName = some (sanitizeStreamName id)
  pump : ∃ c, addedRecord id events = some c ∧ r.pump.isSome = (BridgeLoop.pumpUrl slot c).isSome

/-- The row of a slot no camera is bound to; indices beyond the slots included. -/
structure FreeRow (r : BridgeLoop.Row) : Prop where
  camera : ∀ c, r.camera = some c → c = .default
  streamName : r.streamName = none
  pump : r.pump = none

theorem BoundRow.snoc_ne {events : List RegistryEvent} {id : String} {slot : Nat}
    {r : BridgeLoop.Row} (h : BoundRow cfg events id slot r) {e : RegistryEvent}
    (hne : id ≠ e.cameraId) : BoundRow cfg (events ++ [e]) id slot r where
  camera := by rw [latestRecord_snoc_ne hne]; exact h.camera
  streamName := h.streamName
  pump := by rw [addedRecord_snoc_ne hne]; exact h.pump

structure Inv (cfg : LoopConfig) (m : HashMap String CameraDevice) (events : List RegistryEvent)
    (s : BridgeLoop) : Prop where
  slots : BridgeSlots s.slotMap
  /-- Bound are the registered cameras that own a slot. -/
  bound_iff : ∀ id slot, s.bridge.slotMap.lookup id = some slot ↔
    id ∈ m ∧ s.slotMap.map.lookup id = some slot
  bound : ∀ id slot, s.bridge.slotMap.lookup id = some slot →
    BoundRow cfg events id slot (s.row slot)
  free : ∀ slot, (∀ id, s.bridge.slotMap.lookup id ≠ some slot) → FreeRow (s.row slot)
  handles : s.Handles

theorem Inv.lt {m : HashMap String CameraDevice} {events : List RegistryEvent} {s : BridgeLoop}
    (h : Inv cfg m events s) {id : String} {slot : Nat}
    (hs : s.bridge.slotMap.lookup id = some slot) : slot < maxCameras := by
  have hlt := h.slots.inRange id slot ((h.bound_iff id slot).mp hs).2
  rwa [h.slots.capacity] at hlt

theorem Inv.injective {m : HashMap String CameraDevice} {events : List RegistryEvent}
    {s : BridgeLoop} (h : Inv cfg m events s) : s.bridge.slotMap.Injective :=
  fun id id' slot hid hid' => h.slots.exclusive id id' slot ((h.bound_iff _ _).mp hid).2
    ((h.bound_iff _ _).mp hid').2

/-- A registered camera that is not bound owns no slot. -/
theorem Inv.slotless {m : HashMap String CameraDevice} {events : List RegistryEvent}
    {s : BridgeLoop} (h : Inv cfg m events s) {id : String} (hid : id ∈ m)
    (hs : s.bridge.slotMap.lookup id = none) : s.slotMap.map.lookup id = none := by
  cases hl : s.slotMap.map.lookup id with
  | none => rfl
  | some slot =>
    rw [(h.bound_iff id slot).mpr ⟨hid, hl⟩] at hs
    cases hs

/-- An event about a camera without a slot changes no table. -/
theorem Inv.skip {m : HashMap String CameraDevice} {events : List RegistryEvent} {s : BridgeLoop}
    (h : Inv cfg m events s) (e : RegistryEvent) (hn : s.slotMap.map.lookup e.cameraId = none) :
    Inv cfg (e.replay m) (events ++ [e]) s where
  slots := h.slots
  bound_iff id slot := by
    rw [h.bound_iff]
    by_cases hid : id = e.cameraId
    · subst hid
      simp [hn]
    · rw [RegistryEvent.mem_replay_ne hid]
  bound id slot hs := by
    have hne : id ≠ e.cameraId := by
      rintro rfl
      rw [((h.bound_iff _ slot).mp hs).2] at hn
      cases hn
    exact (h.bound id slot hs).snoc_ne hne
  free := h.free
  handles := h.handles

/-- The other cameras keep their rows when an event rewrites one slot that none
of them is bound to. -/
theorem Inv.bound_ne {m : HashMap String CameraDevice} {events : List RegistryEvent}
    {s t : BridgeLoop} (h : Inv cfg m events s) {e : RegistryEvent} {slot : Nat}
    (hmap : ∀ id, id ≠ e.cameraId → t.bridge.slotMap.lookup id = s.bridge.slotMap.lookup id)
    (hown : ∀ id, id ≠ e.cameraId → s.bridge.slotMap.lookup id ≠ some slot)
    (hrow : ∀ k, k ≠ slot → t.row k = s.row k) {id : String} {k : Nat} (hid : id ≠ e.cameraId)
    (hk : t.bridge.slotMap.lookup id = some k) :
    BoundRow cfg (events ++ [e]) id k (t.row k) := by
  rw [hmap id hid] at hk
  have hne : k ≠ slot := by
    rintro rfl
    exact hown id hid hk
  rw [hrow k hne]
  exact (h.bound id k hk).snoc_ne hid

theorem Inv.free_ne {m : HashMap String CameraDevice} {events : List RegistryEvent}
    {s t : BridgeLoop} (h : Inv cfg m events s) {e : RegistryEvent} {slot : Nat}
    (hmap : ∀ id, id ≠ e.cameraId → t.bridge.slotMap.lookup id = s.bridge.slotMap.lookup id)
    (hmine : ∀ k, s.bridge.slotMap.lookup e.cameraId = some k → k = slot)
    (hrow : ∀ k, k ≠ slot → t.row k = s.row k) {k : Nat} (hne : k ≠ slot)
    (hk : ∀ id, t.bridge.slotMap.lookup id ≠ some k) : FreeRow (t.row k) := by
  rw [hrow k hne]
  apply h.free
  intro id hs
  by_cases hid : id = e.cameraId
  · subst hid
    exact hne (hmine k hs)
  · rw [← hmap id hid] at hs
    exact hk id hs

/-- An Added event that gets `slot`: the slot was free, its camera owns it now. -/
theorem Inv.bind {m : HashMap String CameraDevice} {events : List RegistryEvent}
    {s : BridgeLoop} (h : Inv cfg m events s) {camera : CameraDevice} (hnew : camera.id ∉ m)
    {slot : Nat} {m' : SlotMap} {saves : Bool}
    (ha : s.slotMap.assign camera.id camera.supportsMotion = ⟨some slot, m', saves⟩)
    (hm' : BridgeSlots m') (hself : m'.map.lookup camera.id = some slot)
    (hother : ∀ id, id ≠ camera.id → m'.map.lookup id = s.slotMap.map.lookup id) :
    ∃ t, s.onAdded cfg camera = some t ∧
      Inv cfg (m.insert camera.id camera) (events ++ [.added camera]) t := by
  have hlt : slot < maxCameras := by
    have hr := hm'.inRange camera.id slot hself
    rwa [hm'.capacity] at hr
  have hown : ∀ id, s.bridge.slotMap.lookup id ≠ some slot := by
    intro id hs
    obtain ⟨hid, hslot⟩ := (h.bound_iff id slot).mp hs
    have hne : id ≠ camera.id := by
      rintro rfl
      exact hnew hid
    rw [← hother id hne] at hslot
    exact hne (hm'.exclusive id camera.id slot hslot hself)
  have hnone : ∀ k, s.bridge.slotMap.lookup camera.id ≠ some k := fun k hk =>
    hnew ((h.bound_iff camera.id k).mp hk).1
  have hfree := h.free slot hown
  obtain ⟨t, ht, hslots, hbridge, hrow, u, hu, rfl⟩ :=
    BridgeLoop.onAdded_bound cfg s camera hlt ha
  have hrow' : ∀ k, k ≠ slot → (u.startMotionPump cfg slot camera).row k = s.row k :=
    fun k hk => by rw [hrow, if_neg hk]
  have hmap : ∀ id, id ≠ (RegistryEvent.added camera).cameraId →
      (u.startMotionPump cfg slot camera).bridge.slotMap.lookup id =
        s.bridge.slotMap.lookup id := fun id hid =>
    (congrArg (Finmap.lookup id) hbridge).trans (Finmap.lookup_insert_of_ne _ hid)
  refine ⟨_, ht, by rwa [hslots], ?_, ?_, ?_, ?_⟩
  · intro id k
    rw [hbridge, hslots, HashMap.lookup_insert_eq, Finmap.mem_insert]
    split
    · rename_i hid
      subst hid
      simp [hself]
    · rename_i hid
      rw [h.bound_iff, hother id hid]
      simp [hid]
  · intro id k hk
    by_cases hid : id = camera.id
    · subst hid
      rw [hbridge, HashMap.lookup_insert_eq, if_pos rfl] at hk
      obtain rfl := Option.some.inj hk
      rw [hrow, if_pos rfl]
      refine ⟨⟨camera, ?_, rfl, ?_⟩, rfl, ⟨camera, ?_, ?_⟩⟩
      · simp [latestRecord_snoc, deliveredRecord?]
      · rw [BridgeLoop.boundRow, s.camera_row hlt]
        rfl
      · simp [addedRecord_snoc, addedRecord?]
      · rw [BridgeLoop.boundRow, hfree.pump]
        cases BridgeLoop.pumpUrl slot camera <;> rfl
    · exact h.bound_ne hmap (fun id _ => hown id) hrow' hid hk
  · intro k hk
    by_cases hne : k = slot
    · subst hne
      rw [hbridge] at hk
      exact absurd (Finmap.lookup_insert s.bridge.slotMap) (hk camera.id)
    · exact h.free_ne hmap (fun k' hk' => absurd hk' (hnone k')) hrow' hne hk
  · exact (h.handles.same hu).startMotionPump cfg camera (by rw [hu.motionTasks]; exact hfree.pump)

theorem Inv.added {m : HashMap String CameraDevice} {events : List RegistryEvent}
    {s : BridgeLoop} (h : Inv cfg m events s) {camera : CameraDevice} (hnew : camera.id ∉ m) :
    ∃ t, s.onAdded cfg camera = some t ∧
      Inv cfg (m.insert camera.id camera) (events ++ [.added camera]) t := by
  have hm' := h.slots.assign camera.id camera.supportsMotion
  rcases s.slotMap.assign_cases camera.id camera.supportsMotion with
    ⟨slot, hl, ha⟩ | ⟨hl, ha⟩ | ⟨slot, hl, _, _, ha⟩
  · exact h.bind hnew ha h.slots hl fun _ _ => rfl
  · exact ⟨s, BridgeLoop.onAdded_refused cfg s camera ha, h.skip (.added camera) hl⟩
  · rw [ha] at hm'
    exact h.bind hnew ha hm' (Finmap.lookup_insert s.slotMap.map) fun id hid =>
      Finmap.lookup_insert_of_ne s.slotMap.map hid

theorem Inv.updated {m : HashMap String CameraDevice} {events : List RegistryEvent}
    {s : BridgeLoop} (h : Inv cfg m events s) {camera : CameraDevice} (hold : camera.id ∈ m) :
    ∃ t, s.onUpdated cfg camera = some t ∧
      Inv cfg (m.insert camera.id camera) (events ++ [.updated camera]) t := by
  cases hl : s.bridge.slotMap.lookup camera.id with
  | none =>
    exact ⟨s, BridgeLoop.onUpdated_unknown cfg s camera hl,
      h.skip (.updated camera) (h.slotless hold hl)⟩
  | some slot =>
    have hlt := h.lt hl
    obtain ⟨t, ht, hslots, hbridge, hrow, hpumps⟩ :=
      BridgeLoop.onUpdated_bound cfg s camera hlt hl
    have hrow' : ∀ k, k ≠ slot → t.row k = s.row k := fun k hk => by rw [hrow, if_neg hk]
    have hmap : ∀ id, id ≠ (RegistryEvent.updated camera).cameraId →
        t.bridge.slotMap.lookup id = s.bridge.slotMap.lookup id := fun id _ => by rw [hbridge]
    refine ⟨t, ht, by rw [hslots]; exact h.slots, ?_, ?_, ?_, h.handles.same hpumps⟩
    · intro id k
      rw [hbridge, hslots, h.bound_iff, Finmap.mem_insert]
      constructor
      · exact fun hk => ⟨Or.inr hk.1, hk.2⟩
      · rintro ⟨rfl | hid, hk⟩
        · exact ⟨hold, hk⟩
        · exact ⟨hid, hk⟩
    · intro id k hk
      by_cases hid : id = camera.id
      · subst hid
        rw [hbridge, hl] at hk
        obtain rfl := Option.some.inj hk
        have hb := h.bound camera.id slot hl
        obtain ⟨old, _, _, hcam⟩ := hb.camera
        rw [hrow, if_pos rfl]
        refine ⟨⟨camera, ?_, rfl, ?_⟩, hb.streamName, ?_⟩
        · simp [latestRecord_snoc, deliveredRecord?]
        · rw [hcam]
          rfl
        · rw [addedRecord_snoc]
          exact hb.pump
      · exact h.bound_ne hmap (fun id hid hs => hid (h.injective id _ slot hs hl)) hrow' hid hk
    · intro k hk
      by_cases hne : k = slot
      · subst hne
        rw [hbridge] at hk
        exact absurd hl (hk camera.id)
      · refine h.free_ne hmap (fun k' hk' => ?_) hrow' hne hk
        exact Option.some.inj (hk'.symm.trans hl)

theorem Inv.removed {m : HashMap String CameraDevice} {events : List RegistryEvent}
    {s : BridgeLoop} (h : Inv cfg m events s) {id : String} (hold : id ∈ m) :
    ∃ t, s.onRemoved id = some t ∧ Inv cfg (m.erase id) (events ++ [.removed id]) t := by
  cases hl : s.bridge.slotMap.lookup id with
  | none =>
    exact ⟨s, BridgeLoop.onRemoved_unknown s id hl, h.skip (.removed id) (h.slotless hold hl)⟩
  | some slot =>
    have hlt := h.lt hl
    obtain ⟨t, ht, hslots, hbridge, hrow, u, hu, rfl⟩ := BridgeLoop.onRemoved_bound s id hlt hl
    have hrow' : ∀ k, k ≠ slot → (u.abortMotionPump slot).row k = s.row k :=
      fun k hk => by rw [hrow, if_neg hk]
    have hmap : ∀ k, k ≠ (RegistryEvent.removed id).cameraId →
        (u.abortMotionPump slot).bridge.slotMap.lookup k = s.bridge.slotMap.lookup k :=
      fun k hk => (congrArg (Finmap.lookup k) hbridge).trans (Finmap.lookup_erase_ne hk)
    refine ⟨_, ht, by rw [hslots]; exact h.slots, ?_, ?_, ?_,
      (h.handles.same hu).abortMotionPump slot⟩
    · intro k slot'
      rw [hbridge, hslots, HashMap.lookup_erase_eq, Finmap.mem_erase]
      split
      · rename_i hk
        simp [hk]
      · rename_i hk
        rw [h.bound_iff]
        simp [hk]
    · intro k slot' hk
      by_cases hid : k = id
      · subst hid
        rw [hbridge, HashMap.lookup_erase_eq, if_pos rfl] at hk
        cases hk
      · exact h.bound_ne hmap (fun k hk hs => hk (h.injective k _ slot hs hl)) hrow' hid hk
    · intro k hk
      by_cases hne : k = slot
      · rw [hrow, if_pos hne]
        exact ⟨fun c hc => (Option.some.inj hc).symm, rfl, rfl⟩
      · refine h.free_ne hmap (fun k' hk' => ?_) hrow' hne hk
        exact Option.some.inj (hk'.symm.trans hl)

/-- One announced event is handled without a panic and keeps the invariant. -/
theorem Inv.step {m : HashMap String CameraDevice} {events : List RegistryEvent}
    {s : BridgeLoop} (h : Inv cfg m events s) {e : RegistryEvent} (he : e.Follows m) :
    ∃ t, s.handleEvent cfg e = some t ∧ Inv cfg (e.replay m) (events ++ [e]) t := by
  cases e with
  | added camera => exact h.added he
  | updated camera => exact h.updated he
  | removed id => exact h.removed he

theorem inv_start {m : SlotMap} (hm : BridgeSlots m) : Inv cfg ∅ [] (BridgeLoop.start m) where
  slots := hm
  bound_iff id slot := by simp [BridgeLoop.start, Finmap.notMem_empty]
  bound id slot hs := by simp [BridgeLoop.start] at hs
  free slot _ := by
    refine ⟨fun c hc => ?_, by simp [BridgeLoop.row, BridgeLoop.start],
      by simp [BridgeLoop.row, BridgeLoop.start]⟩
    obtain ⟨_, rfl⟩ := Vector.getElem?_eq_some_iff.mp hc
    simp [BridgeLoop.start]
  handles := by
    refine ⟨by simp [BridgeLoop.start], ?_, by simp [BridgeLoop.start], HashMap.injective_empty⟩
    intro slot handle hl
    simp [BridgeLoop.start] at hl

theorem inv_of_announced (cfg : LoopConfig) {m : SlotMap} (hm : BridgeSlots m)
    {events : List RegistryEvent} {cameras : HashMap String CameraDevice}
    (h : Run Announce ∅ events cameras) :
    ∃ s, (BridgeLoop.start m).handleEvents cfg events = some s ∧ Inv cfg cameras events s := by
  refine h.history (fun events cameras => ∃ s,
    (BridgeLoop.start m).handleEvents cfg events = some s ∧ Inv cfg cameras events s)
    ⟨BridgeLoop.start m, rfl, inv_start hm⟩ ?_
  intro events cameras e cameras' h hstep
  obtain ⟨s, hs, hinv⟩ := h
  obtain ⟨he, rfl⟩ := hstep
  obtain ⟨t, ht, hinv'⟩ := hinv.step he
  refine ⟨t, ?_, hinv'⟩
  rw [BridgeLoop.handleEvents_snoc, hs]
  exact ht

/-- The row invariant, read table by table. -/
theorem Inv.loopInvariant {m : HashMap String CameraDevice} {events : List RegistryEvent}
    {s : BridgeLoop} (h : Inv cfg m events s) : LoopInvariant events s := by
  have hcases : ∀ slot, (∃ id, s.bridge.slotMap.lookup id = some slot) ∨ FreeRow (s.row slot) := by
    intro slot
    by_cases hs : ∃ id, s.bridge.slotMap.lookup id = some slot
    · exact Or.inl hs
    · exact Or.inr (h.free slot fun id hid => hs ⟨id, hid⟩)
  have hcamera : ∀ slot (hlt : slot < maxCameras) id, s.bridge.slotMap.lookup id = some slot →
      ∃ c, latestRecord id events = some c ∧ c.id = id ∧
        s.slots[slot] = populateCameraSlot .default c (cfg.friendlyName c) := by
    intro slot hlt id hid
    obtain ⟨c, hc, hcid, hcam⟩ := (h.bound id slot hid).camera
    rw [s.camera_row hlt] at hcam
    exact ⟨c, hc, hcid, Option.some.inj hcam⟩
  have hfree : ∀ slot (hlt : slot < maxCameras), FreeRow (s.row slot) → s.slots[slot] = .default :=
    fun slot hlt hf => hf.camera _ (s.camera_row hlt)
  refine ⟨h.injective, fun id slot hid => ((h.bound_iff id slot).mp hid).2, ?_, ?_, ?_, ?_, ?_,
    h.handles.recorded⟩
  · intro slot name
    constructor
    · intro hname
      rcases hcases slot with ⟨id, hid⟩ | hf
      · exact ⟨id, hid, Option.some.inj (hname.symm.trans (h.bound id slot hid).streamName)⟩
      · exact absurd (hf.streamName.symm.trans hname) (Option.some_ne_none name).symm
    · rintro ⟨id, hid, rfl⟩
      exact (h.bound id slot hid).streamName
  · intro slot hlt
    constructor
    · intro hocc
      rcases hcases slot with hid | hf
      · exact hid
      · rw [hfree slot hlt hf] at hocc
        cases hocc
    · rintro ⟨id, hid⟩
      obtain ⟨c, _, _, hcam⟩ := hcamera slot hlt id hid
      rw [hcam]
      rfl
  · intro id slot hid
    obtain ⟨c, hc, hcid, hcam⟩ := hcamera slot (h.lt hid) id hid
    refine ⟨h.lt hid, c, hc, hcid, ?_⟩
    rw [hcam]
    exact ⟨rfl, rfl, rfl, rfl, rfl, rfl⟩
  · exact fun slot hlt hnone => hfree slot hlt (h.free slot hnone)
  · intro slot
    have hmem : slot ∈ s.motionTasks ↔ (s.row slot).pump.isSome = true :=
      Finmap.lookup_isSome.symm
    rw [hmem]
    constructor
    · intro hpump
      rcases hcases slot with ⟨id, hid⟩ | hf
      · obtain ⟨c, hc, hiff⟩ := (h.bound id slot hid).pump
        rw [hiff, pumpUrl_isSome] at hpump
        exact ⟨hpump.1, id, c, hid, hc, hpump.2⟩
      · rw [hf.pump] at hpump
        cases hpump
    · rintro ⟨hlt, id, c, hid, hc, hmotion⟩
      obtain ⟨c', hc', hiff⟩ := (h.bound id slot hid).pump
      obtain rfl := Option.some.inj (hc.symm.trans hc')
      rw [hiff, pumpUrl_isSome]
      exact ⟨hlt, hmotion⟩

/-- **The event loop invariant.** Take any sequence of registry calls and any
prefix of the events they send, handled in order from empty tables and an
allocator with distinct slots in range: no handler panics, and all tables agree
on which camera is bound to which slot, with its latest record and its pump. -/
theorem loop_invariant {m : SlotMap} (hm : BridgeSlots m) (capacity : Nat)
    (ops : List RegistryOp) {handled rest : List RegistryEvent}
    (hlog : ((CameraRegistry.new capacity).applyAll ops).tx.sent = handled ++ rest) :
    ∃ s, (BridgeLoop.start m).handleEvents cfg handled = some s ∧ LoopInvariant handled s := by
  have hrun := CameraRegistry.new_log capacity ops
  rw [hlog] at hrun
  obtain ⟨cameras, hprefix, _⟩ := hrun.append_inv
  obtain ⟨s, hs, hinv⟩ := inv_of_announced cfg hm hprefix
  exact ⟨s, hs, hinv.loopInvariant⟩

end

/-- Two cameras arrive, the first leaves. -/
theorem loop_invariant_two_cameras :
    letI := asciiTables
    let events : List RegistryEvent := [.added (CameraDevice.bare "SN-1"),
      .added (CameraDevice.bare "SN-2"), .removed "SN-1"]
    ∃ s, (BridgeLoop.start ⟨∅, 8, 7⟩).handleEvents ⟨∅, "admin", "pass"⟩ events = some s ∧
      LoopInvariant events s := by
  intro events
  let _ := asciiTables
  have hm : BridgeSlots ⟨∅, 8, 7⟩ :=
    ⟨rfl, rfl, fun id slot h => by simp at h, HashMap.injective_empty⟩
  have hlog : ((CameraRegistry.new 64).applyAll [.addCamera (CameraDevice.bare "SN-1"),
      .addCamera (CameraDevice.bare "SN-2"), .removeCamera "SN-1"]).tx.sent = events ++ [] := rfl
  exact loop_invariant hm 64 _ hlog

end MatterBridge.Bridge
