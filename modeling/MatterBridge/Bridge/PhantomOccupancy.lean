import MatterBridge.Bridge.MotionPumps
import MatterBridge.Matter.Occupancy

/-!
# Occupancy without a pump

The motion flag of a slot outlives the pump that sets it. Removing a camera aborts its
pump and clears the slot's other tables, but nobody writes the flag again until the
next pump of that slot reports a change.
-/
namespace MatterBridge.Bridge

open MatterBridge.Core MatterBridge.Onvif MatterBridge.Slots MatterBridge.Matter

namespace BridgeLoop

/-- A recorded handle is the slot's own. Unlike `Handles` this holds in every run, also
when a slot of the file is shared and a recorded pump is overwritten. -/
structure Tasks (s : BridgeLoop) : Prop where
  fresh : ∀ pump ∈ s.running, pump.handle < s.spawned
  known : ∀ slot handle, s.motionTasks.lookup slot = some handle → handle < s.spawned
  owned : ∀ slot handle, s.motionTasks.lookup slot = some handle →
    ∀ pump ∈ s.running, pump.handle = handle → pump.slot = slot

theorem Tasks.same {s t : BridgeLoop} (h : s.Tasks) (hs : SamePumps s t) : t.Tasks where
  fresh := by rw [hs.running, hs.spawned]; exact h.fresh
  known := by rw [hs.motionTasks, hs.spawned]; exact h.known
  owned := by rw [hs.motionTasks, hs.running]; exact h.owned

theorem Tasks.startMotionPump {s : BridgeLoop} (h : s.Tasks) (cfg : LoopConfig) (slot : Nat)
    (camera : CameraDevice) : (s.startMotionPump cfg slot camera).Tasks := by
  rw [BridgeLoop.startMotionPump]
  split
  · exact h
  · refine ⟨?_, ?_, ?_⟩
    · intro pump hp
      show pump.handle < s.spawned + 1
      rcases List.mem_append.mp hp with hp | hp
      · have hlt := h.fresh pump hp
        omega
      · obtain rfl := List.mem_singleton.mp hp
        exact Nat.lt_succ_self _
    · intro k handle hk
      show handle < s.spawned + 1
      simp only [spawnMotionPump, HashMap.lookup_insert_eq] at hk
      split at hk
      · have he := Option.some.inj hk
        omega
      · have hlt := h.known k handle hk
        omega
    · intro k handle hk pump hp he
      simp only [spawnMotionPump, HashMap.lookup_insert_eq] at hk
      rcases List.mem_append.mp hp with hp | hp
      · split at hk
        · have hlt := h.fresh pump hp
          have hnew := Option.some.inj hk
          omega
        · exact h.owned k handle hk pump hp he
      · obtain rfl := List.mem_singleton.mp hp
        split at hk
        · exact (‹k = slot›).symm
        · have hlt := h.known k handle hk
          have hnew : s.spawned = handle := he
          omega

theorem Tasks.abortMotionPump {s : BridgeLoop} (h : s.Tasks) (slot : Nat) :
    (s.abortMotionPump slot).Tasks := by
  rw [BridgeLoop.abortMotionPump]
  split
  · exact h
  · refine ⟨fun pump hp => h.fresh pump (List.mem_filter.mp hp).1, ?_, ?_⟩
    · intro k handle hk
      simp only [HashMap.lookup_erase_eq] at hk
      split at hk
      · cases hk
      · exact h.known k handle hk
    · intro k handle hk pump hp
      simp only [HashMap.lookup_erase_eq] at hk
      split at hk
      · cases hk
      · exact h.owned k handle hk pump (List.mem_filter.mp hp).1

theorem PumpEffect.tasks {cfg : LoopConfig} {s t : BridgeLoop} {e : RegistryEvent}
    (h : PumpEffect cfg s e t) (hs : s.Tasks) : t.Tasks := by
  cases h with
  | ignored _ => exact hs
  | @started camera slot u _ hu => exact (hs.same hu).startMotionPump cfg slot camera
  | kept _ hu => exact hs.same hu
  | @aborted id slot u _ hu => exact (hs.same hu).abortMotionPump slot

/-- All pumps running for a slot are the one an abort would end. -/
def AllRecorded (s : BridgeLoop) (slot : Nat) : Prop :=
  ∀ pump ∈ s.pumpsOn slot, s.motionTasks.lookup slot = some pump.handle

theorem mem_running_abort {s : BridgeLoop} {slot handle : Nat}
    (hl : s.motionTasks.lookup slot = some handle) {pump : MotionPump} :
    pump ∈ (s.abortMotionPump slot).running ↔ pump ∈ s.running ∧ pump.handle ≠ handle := by
  unfold abortMotionPump
  rw [hl, List.mem_filter, decide_eq_true_eq]

/-- An abort leaves a slot without a pump if it had none, or only the recorded one. -/
theorem Tasks.pumpsOn_abort {s : BridgeLoop} (h : s.Tasks) (slot k : Nat) :
    (s.abortMotionPump slot).pumpsOn k = [] ↔
      s.pumpsOn k = [] ∨ (k = slot ∧ s.AllRecorded slot) := by
  simp only [List.eq_nil_iff_forall_not_mem, mem_pumpsOn]
  cases hl : s.motionTasks.lookup slot with
  | none =>
    have hsame : s.abortMotionPump slot = s := by
      unfold BridgeLoop.abortMotionPump
      rw [hl]
    rw [hsame]
    refine ⟨Or.inl, fun hor => hor.elim id fun hrec pump hp => ?_⟩
    have hr := hrec.2 pump (mem_pumpsOn.mpr ⟨hp.1, hp.2.trans hrec.1⟩)
    rw [hl] at hr
    cases hr
  | some handle =>
    simp only [mem_running_abort hl]
    constructor
    · intro hempty
      have hrecorded : ∀ pump ∈ s.running, pump.slot = k → pump.handle = handle := by
        intro pump hp hslot
        by_contra hne
        exact hempty pump ⟨⟨hp, hne⟩, hslot⟩
      by_cases hk : k = slot
      · refine Or.inr ⟨hk, fun pump hp => ?_⟩
        obtain ⟨hp, hslot⟩ := mem_pumpsOn.mp hp
        rw [hl, hrecorded pump hp (hslot.trans hk.symm)]
      · refine Or.inl fun pump hp => hk ?_
        rw [← hp.2]
        exact h.owned slot handle hl pump hp.1 (hrecorded pump hp.1 hp.2)
    · intro hor pump hp
      obtain ⟨⟨hp, hne⟩, hslot⟩ := hp
      rcases hor with hempty | ⟨hk, hrec⟩
      · exact hempty pump ⟨hp, hslot⟩
      · have hr := hrec pump (mem_pumpsOn.mpr ⟨hp, hslot.trans hk⟩)
        rw [hl] at hr
        exact hne (Option.some.inj hr).symm

theorem tasks_boot [SerdeJson] (file : SlotFile) : (boot file).Tasks where
  fresh _ hp := absurd hp List.not_mem_nil
  known slot handle hl := by
    rw [motionTasks_boot] at hl
    cases hl
  owned _ _ _ _ hp := absurd hp List.not_mem_nil

end BridgeLoop

/-! ## The loop and the flags -/

structure MotionLoop where
  loop : BridgeLoop
  /-- occupancy slot → motion flag and data version -/
  sensors : Vector OccupancySensor withOccupancyCameras

namespace MotionLoop

/-- The initial data versions are random numbers. -/
def start [SerdeJson] (file : SlotFile) (initial : Vector UInt32 withOccupancyCameras) :
    MotionLoop where
  loop := BridgeLoop.boot file
  sensors := initial.map fun version => ⟨.new, .new version⟩

inductive Label where
  | event (e : RegistryEvent)
  /-- A running pump reports its camera's motion state. -/
  | notify (pump : MotionPump) (motion : Bool)

inductive Step [UnicodeTables] (cfg : LoopConfig) : MotionLoop → Label → MotionLoop → Prop
  | event {s : MotionLoop} {e : RegistryEvent} {t : BridgeLoop} :
      s.loop.handleEvent cfg e = some t → Step cfg s (.event e) { s with loop := t }
  | notify {s : MotionLoop} {pump : MotionPump} {motion : Bool} (hp : pump ∈ s.loop.running)
      (hslot : pump.slot < withOccupancyCameras) : Step cfg s (.notify pump motion) { s with
        sensors := s.sensors.set pump.slot (s.sensors[pump.slot].onChange motion) hslot }

/-- Every occupancy slot without a running pump reports no motion. -/
def NoPhantom (s : MotionLoop) : Prop :=
  ∀ slot (h : slot < withOccupancyCameras), s.loop.pumpsOn slot = [] →
    s.sensors[slot].motion.isDetected = false

/-- A camera that leaves with its slot's last pump leaves at rest. -/
def LeavesAtRest (s : MotionLoop) : Label → Prop
  | .event (.removed id) => ∀ slot (h : slot < withOccupancyCameras),
    s.loop.bridge.slotMap.lookup id = some slot → s.loop.AllRecorded slot →
      s.sensors[slot].motion.isDetected = false
  | _ => True

structure Inv (s : MotionLoop) : Prop where
  bounds : s.loop.InBounds
  tasks : s.loop.Tasks

theorem Inv.step [UnicodeTables] {cfg : LoopConfig} {s t : MotionLoop} {l : Label} (h : s.Inv)
    (hstep : Step cfg s l t) : t.Inv := by
  cases hstep with
  | event ht => exact ⟨h.bounds.kept ht, (h.bounds.pumpEffect ht).tasks h.tasks⟩
  | notify hp hslot => exact ⟨h.bounds, h.tasks⟩

/-- An event with which no slot loses its last pump. -/
theorem NoPhantom.of_pumps {s : MotionLoop} (hp : s.NoPhantom) {t : BridgeLoop}
    (hmore : ∀ slot, t.pumpsOn slot = [] → s.loop.pumpsOn slot = []) :
    NoPhantom { s with loop := t } := fun slot hlt hempty => hp slot hlt (hmore slot hempty)

/-- A Removed event keeps the flags; some slot may have lost its last pump. -/
theorem Inv.aborted {s : MotionLoop} (h : s.Inv) (hp : s.NoPhantom) {id : String} {slot : Nat}
    (hslot : s.loop.bridge.slotMap.lookup id = some slot) {u : BridgeLoop}
    (hu : BridgeLoop.SamePumps s.loop u) : s.LeavesAtRest (.event (.removed id)) ↔
      NoPhantom { s with loop := u.abortMotionPump slot } := by
  have hempty : ∀ k, (u.abortMotionPump slot).pumpsOn k = [] ↔
      s.loop.pumpsOn k = [] ∨ (k = slot ∧ s.loop.AllRecorded slot) := by
    intro k
    unfold BridgeLoop.AllRecorded
    rw [(h.tasks.same hu).pumpsOn_abort, BridgeLoop.AllRecorded, hu.pumpsOn, hu.pumpsOn,
      hu.motionTasks]
  constructor
  · intro hok k hlt hk
    rcases (hempty k).mp hk with hk | ⟨rfl, hrec⟩
    · exact hp k hlt hk
    · exact hok k hlt hslot hrec
  · intro hafter k hlt hk hrec
    obtain rfl := Option.some.inj (hslot.symm.trans hk)
    exact hafter slot hlt ((hempty slot).mpr (Or.inr ⟨rfl, hrec⟩))

theorem Inv.atRest_iff [UnicodeTables] {cfg : LoopConfig} {s t : MotionLoop} {l : Label}
    (h : s.Inv) (hp : s.NoPhantom) (hstep : Step cfg s l t) : s.LeavesAtRest l ↔ t.NoPhantom := by
  cases hstep with
  | @event e _ ht =>
    cases h.bounds.pumpEffect ht with
    | ignored hslot =>
      refine ⟨fun _ => hp, fun _ => ?_⟩
      cases e with
      | added camera => trivial
      | updated camera => trivial
      | removed id =>
        intro slot _ hs
        exact absurd (hs.symm.trans hslot) (Option.some_ne_none slot)
    | @started camera slot u hslot hu =>
      refine ⟨fun _ => hp.of_pumps fun k hk => ?_, fun _ => trivial⟩
      have htargets := u.pumpsOn_startMotionPump cfg slot camera k
      rw [hk, hu.pumpsOn] at htargets
      exact List.map_eq_nil_iff.mp (List.append_eq_nil_iff.mp htargets.symm).1
    | @kept camera slot t hslot hu =>
      exact ⟨fun _ => hp.of_pumps fun k hk => by rwa [hu.pumpsOn] at hk, fun _ => trivial⟩
    | @aborted id slot u hslot hu => exact h.aborted hp hslot hu
  | @notify pump motion hmem hlt =>
    refine ⟨fun _ slot hslot hempty => ?_, fun _ => trivial⟩
    have hne : pump.slot ≠ slot := by
      intro he
      have hin := BridgeLoop.mem_pumpsOn.mpr ⟨hmem, he⟩
      rw [hempty] at hin
      cases hin
    simp only [Vector.getElem_set_ne hlt hslot hne]
    exact hp slot hslot hempty

theorem inv_start [SerdeJson] (file : SlotFile) (initial : Vector UInt32 withOccupancyCameras) :
    (start file initial).Inv :=
  ⟨BridgeLoop.inBounds_boot file, BridgeLoop.tasks_boot file⟩

theorem noPhantom_start [SerdeJson] (file : SlotFile)
    (initial : Vector UInt32 withOccupancyCameras) : (start file initial).NoPhantom := by
  intro slot h _
  simp [start, MotionState.new, MotionState.isDetected]

/-- **When no slot reports occupancy without a pump.** For every slot file, all initial
data versions and every interleaving of registry events with notifications of running
pumps: no occupancy slot without a pump reports motion in any state, exactly when every camera
whose removal ends the last pump of its slot is removed while the flag is down. -/
theorem no_phantom_iff [UnicodeTables] [SerdeJson] (cfg : LoopConfig) (file : SlotFile)
    (initial : Vector UInt32 withOccupancyCameras) (labels : List Label) (s : MotionLoop) :
    Run (Guarded (Step cfg) LeavesAtRest) (start file initial) labels s ↔
      Run (Keeping (Step cfg) NoPhantom) (start file initial) labels s :=
  Run.guarded_iff_keeping Inv (fun _ _ _ hi _ hstep _ => hi.step hstep)
    (fun _ _ _ hi hp hstep => hi.atRest_iff hp hstep) (inv_start file initial)
    (noPhantom_start file initial)

/-- A camera disappears in the middle of a motion event. -/
theorem removed_camera_stays_occupied :
    letI := asciiTables
    letI := PrettyJson.serdeJson
    let door : CameraDevice := { CameraDevice.bare "SN-1" with
      supportsMotion := true
      eventsUrl := some "http://10.0.0.5/onvif/events" }
    let pump : MotionPump := ⟨0, 0, ⟨"10.0.0.5", 80, "admin", "pass",
      "http://10.0.0.5/onvif/events", "  @ 10.0.0.5"⟩⟩
    ∃ s, Run (Step ⟨∅, "admin", "pass"⟩) (start none (.replicate _ 0))
        [.event (.added door), .notify pump true, .event (.removed "SN-1")] s ∧
      s.loop.running = [] ∧ s.loop.bridge.slotMap.lookup "SN-1" = none ∧
      s.sensors[0].motion.isDetected = true := by
  intro door pump
  let _ := asciiTables
  let _ := PrettyJson.serdeJson
  let cfg : LoopConfig := ⟨∅, "admin", "pass"⟩
  let bound : MotionLoop := { start none (.replicate _ 0) with
    loop := ((BridgeLoop.boot none).handleEvent cfg (.added door)).getD (BridgeLoop.boot none) }
  let moving : MotionLoop := { bound with
    sensors := bound.sensors.set 0 (bound.sensors[0].onChange true) (by decide) }
  let gone : MotionLoop := { moving with
    loop := (bound.loop.handleEvent cfg (.removed "SN-1")).getD bound.loop }
  have hadded : Step cfg (start none (.replicate _ 0)) (.event (.added door)) bound :=
    .event rfl
  have hnotify : Step cfg bound (.notify pump true) moving := .notify (by decide) (by decide)
  have hremoved : Step cfg moving (.event (.removed "SN-1")) gone := .event rfl
  refine ⟨gone, Run.cons hadded (Run.cons hnotify (Run.one hremoved)), by decide, by decide, ?_⟩
  have hflag : gone.sensors[0] = bound.sensors[0].onChange true := Vector.getElem_set_self _
  rw [hflag, OccupancySensor.isDetected_onChange]

end MotionLoop

end MatterBridge.Bridge
