import MatterBridge.Bridge.MotionStream
import MatterBridge.Bridge.PhantomOccupancy

/-!
# Whose motion a slot reports

Pumps write the flag of the slot they captured when they were started and may outlive
their camera's binding when a Removed event is lost. Slots are never given to another
camera, so even a forgotten pump reports to the slot of its own camera.
-/
namespace MatterBridge.Bridge

open MatterBridge.Core MatterBridge.Onvif MatterBridge.Slots MatterBridge.Matter

/-- What the pump of a camera is started with. -/
def motionPumpConfig (cfg : LoopConfig) (camera : CameraDevice) (eventsUrl : String) :
    MotionPumpConfig where
  host := camera.host
  port := camera.port
  username := cfg.onvifUsername
  password := cfg.onvifPassword
  eventsUrl := eventsUrl
  label := (cfg.friendlyName camera).getD (camera.deviceInfo.manufacturer ++ " " ++
    camera.deviceInfo.model ++ " @ " ++ camera.host)

theorem BridgeLoop.startMotionPump_eq (cfg : LoopConfig) (s : BridgeLoop) (slot : Nat)
    (camera : CameraDevice) : s.startMotionPump cfg slot camera =
      match BridgeLoop.pumpUrl slot camera with
      | none => s
      | some eventsUrl => s.spawnMotionPump slot (motionPumpConfig cfg camera eventsUrl) := rfl

namespace MotionLoop

/-- The motion states reported for a slot, oldest first. -/
def reported (slot : Nat) (labels : List Label) : List Bool :=
  labels.filterMap fun
    | .notify pump motion => if pump.slot = slot then some motion else none
    | .event _ => none

theorem reported_snoc_notify (slot : Nat) (labels : List Label) (pump : MotionPump)
    (motion : Bool) : reported slot (labels ++ [.notify pump motion]) =
      reported slot labels ++ if pump.slot = slot then [motion] else [] := by
  rw [reported, List.filterMap_append]
  by_cases h : pump.slot = slot
  · simp [reported, h]
  · simp [reported, h]

theorem reported_snoc_event (slot : Nat) (labels : List Label) (e : RegistryEvent) :
    reported slot (labels ++ [.event e]) = reported slot labels := by
  simp [reported]

/-- The pump was started for a camera that owns the pump's slot. -/
def StartedFor (cfg : LoopConfig) (labels : List Label) (m : SlotMap) (pump : MotionPump) : Prop :=
  ∃ camera eventsUrl, .event (.added camera) ∈ labels ∧ m.map.lookup camera.id = some pump.slot ∧
    BridgeLoop.pumpUrl pump.slot camera = some eventsUrl ∧
    pump.config = motionPumpConfig cfg camera eventsUrl

theorem StartedFor.mono {cfg : LoopConfig} {labels rest : List Label} {m m' : SlotMap}
    {pump : MotionPump} (h : StartedFor cfg labels m pump)
    (hm : ∀ id slot, m.map.lookup id = some slot → m'.map.lookup id = some slot) :
    StartedFor cfg (labels ++ rest) m' pump := by
  obtain ⟨camera, eventsUrl, hadded, hown, hurl, hconfig⟩ := h
  exact ⟨camera, eventsUrl, List.mem_append_left _ hadded, hm _ _ hown, hurl, hconfig⟩

/-- The camera a pump was started for, where no slot is shared. -/
theorem StartedFor.owner {cfg : LoopConfig} {labels : List Label} {m : SlotMap}
    {pump : MotionPump} (h : StartedFor cfg labels m pump) (hm : m.map.Injective) :
    ∃ camera eventsUrl, .event (.added camera) ∈ labels ∧
      (∀ id, m.map.lookup id = some pump.slot ↔ id = camera.id) ∧
      camera.supportsMotion = true ∧ camera.eventsUrl = some eventsUrl ∧
      pump.config = motionPumpConfig cfg camera eventsUrl := by
  obtain ⟨camera, eventsUrl, hadded, hown, hurl, hconfig⟩ := h
  unfold BridgeLoop.pumpUrl at hurl
  split at hurl
  · rename_i hmotion
    rw [Bool.and_eq_true] at hmotion
    refine ⟨camera, eventsUrl, hadded, fun id => ?_, hmotion.1, hurl, hconfig⟩
    constructor
    · exact fun hid => hm id camera.id pump.slot hid hown
    · rintro rfl
      exact hown
  · cases hurl

structure Owned (cfg : LoopConfig) (initial : Vector UInt32 withOccupancyCameras)
    (labels : List Label) (s : MotionLoop) : Prop where
  bounds : s.loop.InBounds
  exclusive : s.loop.slotMap.map.Injective
  running : ∀ pump ∈ s.loop.running, StartedFor cfg labels s.loop.slotMap pump
  notified : ∀ pump motion, .notify pump motion ∈ labels →
    StartedFor cfg labels s.loop.slotMap pump
  sensors : ∀ slot (h : slot < withOccupancyCameras), s.sensors[slot] =
    (reported slot labels).foldl OccupancySensor.onChange ⟨.new, .new initial[slot]⟩

theorem owned_start [SerdeJson] (cfg : LoopConfig) {file : SlotFile}
    (hfile : (SlotMap.load file maxCameras withOccupancyCameras).map.Injective)
    (initial : Vector UInt32 withOccupancyCameras) : Owned cfg initial [] (start file initial) where
  bounds := BridgeLoop.inBounds_boot file
  exclusive := hfile
  running pump hp := absurd hp List.not_mem_nil
  notified pump motion hn := absurd hn List.not_mem_nil
  sensors slot h := by
    simp only [start, Vector.getElem_map]
    rfl

section

variable [UnicodeTables] {cfg : LoopConfig} {initial : Vector UInt32 withOccupancyCameras}
  {labels : List MotionLoop.Label} {s : MotionLoop}

omit [UnicodeTables] in
theorem injective_reassign {m : SlotMap} (h : m.map.Injective) (e : RegistryEvent) :
    (BridgeLoop.reassign m e).map.Injective := by
  cases e with
  | added camera => exact SlotMap.injective_assign h camera.id camera.supportsMotion
  | updated camera => exact h
  | removed k => exact h

theorem Owned.event (h : Owned cfg initial labels s) {e : RegistryEvent} {t : BridgeLoop}
    (ht : s.loop.handleEvent cfg e = some t) :
    Owned cfg initial (labels ++ [.event e]) { s with loop := t } := by
  have hslots := h.bounds.slotMap_step ht
  have hgrow : ∀ id slot, s.loop.slotMap.map.lookup id = some slot →
      t.slotMap.map.lookup id = some slot := by
    intro id slot hid
    rw [hslots]
    exact BridgeLoop.lookup_reassign hid e
  refine ⟨h.bounds.kept ht, ?_, ?_, ?_, ?_⟩
  · show t.slotMap.map.Injective
    rw [hslots]
    exact injective_reassign h.exclusive e
  · intro pump hp
    have hold : pump ∈ s.loop.running → StartedFor cfg (labels ++ [.event e]) t.slotMap pump :=
      fun hp => (h.running pump hp).mono hgrow
    cases h.bounds.pumpEffect ht with
    | ignored _ => exact hold hp
    | kept _ hu => exact hold (by rwa [← hu.running])
    | @started camera slot u hslot hu =>
      simp only [BridgeLoop.startMotionPump_eq] at hp
      cases hurl : BridgeLoop.pumpUrl slot camera with
      | none =>
        rw [hurl] at hp
        exact hold (by rwa [← hu.running])
      | some eventsUrl =>
        rw [hurl] at hp
        rcases List.mem_append.mp hp with hp | hp
        · exact hold (by rwa [← hu.running])
        · obtain rfl := List.mem_singleton.mp hp
          refine ⟨camera, eventsUrl, List.mem_append_right _ (List.mem_singleton_self _), ?_, hurl,
            rfl⟩
          rw [hslots]
          exact SlotMap.lookup_of_slot hslot
    | @aborted id slot u hslot hu =>
      refine hold ?_
      rw [← hu.running]
      unfold BridgeLoop.abortMotionPump at hp
      split at hp
      · exact hp
      · exact (List.mem_filter.mp hp).1
  · intro pump motion hn
    rcases List.mem_append.mp hn with hn | hn
    · exact (h.notified pump motion hn).mono hgrow
    · cases List.mem_singleton.mp hn
  · intro slot hlt
    rw [reported_snoc_event]
    exact h.sensors slot hlt

theorem Owned.step (h : Owned cfg initial labels s) {l : MotionLoop.Label} {t : MotionLoop}
    (hs : Step cfg s l t) : Owned cfg initial (labels ++ [l]) t := by
  cases hs with
  | event ht => exact h.event ht
  | @notify pump motion hp hslot =>
    have hmine := h.running pump hp
    refine ⟨h.bounds, h.exclusive, fun p hp => (h.running p hp).mono fun _ _ => id, ?_, ?_⟩
    · intro p motion' hn
      rcases List.mem_append.mp hn with hn | hn
      · exact (h.notified p motion' hn).mono fun _ _ => id
      · cases List.mem_singleton.mp hn
        exact hmine.mono fun _ _ => id
    · intro slot hlt
      show (s.sensors.set pump.slot (s.sensors[pump.slot].onChange motion) hslot)[slot] = _
      rw [reported_snoc_notify]
      by_cases he : pump.slot = slot
      · subst he
        rw [Vector.getElem_set_self, if_pos rfl, List.foldl_append, ← h.sensors _ hlt]
        rfl
      · rw [Vector.getElem_set_ne hslot hlt he, if_neg he, List.append_nil]
        exact h.sensors slot hlt

/-- **Motion stays with its camera.** Over any events, lost ones included, and any pump
reports: a slot's occupancy is the last motion state reported for it, its data version has
advanced once for each change, and every report for the slot came from a pump that was
started for the one camera that owns it. -/
theorem motion_isolated [SerdeJson] {file : SlotFile}
    (hfile : (SlotMap.load file maxCameras withOccupancyCameras).map.Injective)
    (h : Run (Step cfg) (start file initial) labels s) {slot : Nat}
    (hslot : slot < withOccupancyCameras) :
    s.sensors[slot].motion.isDetected = (reported slot labels).getLastD false ∧
    s.sensors[slot].dataver.get =
      initial[slot] + UInt32.ofNat (changes false (reported slot labels)) ∧
    ∀ pump motion, .notify pump motion ∈ labels → pump.slot = slot →
      ∃ camera eventsUrl, .event (.added camera) ∈ labels ∧
        (∀ id, s.loop.slotMap.map.lookup id = some slot ↔ id = camera.id) ∧
        camera.supportsMotion = true ∧ camera.eventsUrl = some eventsUrl ∧
        pump.config = motionPumpConfig cfg camera eventsUrl := by
  have howned : Owned cfg initial labels s :=
    h.history (Owned cfg initial) (owned_start cfg hfile initial) fun _ _ _ _ ht => ht.step
  have hsensor := howned.sensors slot hslot
  obtain ⟨hflag, hver⟩ :=
    foldl_onChange (reported slot labels) ⟨.new, .new initial[slot]⟩
  refine ⟨?_, ?_, ?_⟩
  · rw [hsensor, hflag]
    rfl
  · rw [hsensor, hver]
    rfl
  · rintro pump motion hn rfl
    exact (howned.notified pump motion hn).owner howned.exclusive

end

/-- Two cameras at two slots: motion at the first door is not shown for the second. -/
theorem motion_isolated_two_doors :
    letI := asciiTables
    letI := PrettyJson.serdeJson
    let front : CameraDevice := { CameraDevice.bare "SN-1" with
      supportsMotion := true
      eventsUrl := some "http://10.0.0.5/onvif/events" }
    let back : CameraDevice := { front with id := "SN-2" }
    ∃ s, Run (Step ⟨∅, "admin", "pass"⟩) (start none (.replicate _ 7))
        [.event (.added front), .event (.added back), .notify ⟨0, 0, ⟨"10.0.0.5", 80, "admin",
          "pass", "http://10.0.0.5/onvif/events", "  @ 10.0.0.5"⟩⟩ true] s ∧
      s.sensors[0].motion.isDetected = true ∧ s.sensors[0].dataver.get = 8 ∧
      s.sensors[1].motion.isDetected = false ∧ s.sensors[1].dataver.get = 7 := by
  intro front back
  let _ := asciiTables
  let _ := PrettyJson.serdeJson
  let cfg : LoopConfig := ⟨∅, "admin", "pass"⟩
  let one : MotionLoop := { start none (.replicate _ 7) with
    loop := ((BridgeLoop.boot none).handleEvent cfg (.added front)).getD (BridgeLoop.boot none) }
  let two : MotionLoop := { one with
    loop := (one.loop.handleEvent cfg (.added back)).getD one.loop }
  have hfront : Step cfg (start none (.replicate _ 7)) (.event (.added front)) one := .event rfl
  have hback : Step cfg one (.event (.added back)) two := .event rfl
  let moving : MotionLoop := { two with
    sensors := two.sensors.set 0 (two.sensors[0].onChange true) (by decide) }
  have hnotify : Step cfg two (.notify ⟨0, 0, ⟨"10.0.0.5", 80, "admin", "pass",
      "http://10.0.0.5/onvif/events", "  @ 10.0.0.5"⟩⟩ true) moving :=
    .notify (by decide) (by decide)
  have hrun := Run.cons hfront (Run.cons hback (Run.one hnotify))
  have hfile : (SlotMap.load none maxCameras withOccupancyCameras).map.Injective :=
    HashMap.injective_empty
  have hmoved := motion_isolated hfile hrun (show 0 < withOccupancyCameras by decide)
  have hrest := motion_isolated hfile hrun (show 1 < withOccupancyCameras by decide)
  exact ⟨_, hrun, hmoved.1, hmoved.2.1, hrest.1, hrest.2.1⟩

end MotionLoop

end MatterBridge.Bridge
