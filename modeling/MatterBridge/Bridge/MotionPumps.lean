import MatterBridge.Bridge.EventSlot
import MatterBridge.Bridge.LoopInvariant
import MatterBridge.Slots.PrettyJson

/-!
# Which camera a motion pump watches

A pump captures the address and events URL of the record it was started with, and
only an Added event starts one. Until its camera is removed the pump thus belongs to
that record, while the slot shows the latest one.
-/
namespace MatterBridge.Bridge

open MatterBridge.Core MatterBridge.Onvif MatterBridge.Slots

/-- What a pump connects to. -/
structure PumpTarget where
  host : String
  port : UInt16
  eventsUrl : String
  deriving DecidableEq, Repr

def MotionPumpConfig.target (config : MotionPumpConfig) : PumpTarget :=
  ⟨config.host, config.port, config.eventsUrl⟩

/-- The target of the pump that a camera newly bound to `slot` gets. -/
def motionTarget (slot : Nat) (camera : CameraDevice) : Option PumpTarget :=
  (BridgeLoop.pumpUrl slot camera).map fun eventsUrl => ⟨camera.host, camera.port, eventsUrl⟩

theorem motionTarget_of_plain {slot : Nat} (h : ¬ slot < withOccupancyCameras)
    (camera : CameraDevice) : motionTarget slot camera = none := by
  unfold motionTarget BridgeLoop.pumpUrl
  simp only [h, decide_false, Bool.and_false, Bool.false_eq_true, if_false, Option.map_none]

namespace BridgeLoop

/-! ## What one event does to the pumps -/

/-- The effect of an event on the pump tasks. -/
inductive PumpEffect (cfg : LoopConfig) (s : BridgeLoop) : RegistryEvent → BridgeLoop → Prop
  | ignored {e : RegistryEvent} : s.eventSlot e = none → PumpEffect cfg s e s
  | started {camera : CameraDevice} {slot : Nat} {u : BridgeLoop} :
      s.eventSlot (.added camera) = some slot → SamePumps s u →
      PumpEffect cfg s (.added camera) (u.startMotionPump cfg slot camera)
  | kept {camera : CameraDevice} {slot : Nat} {t : BridgeLoop} :
      s.eventSlot (.updated camera) = some slot → SamePumps s t →
      PumpEffect cfg s (.updated camera) t
  | aborted {id : String} {slot : Nat} {u : BridgeLoop} :
      s.eventSlot (.removed id) = some slot → SamePumps s u →
      PumpEffect cfg s (.removed id) (u.abortMotionPump slot)

theorem InBounds.pumpEffect [UnicodeTables] {s t : BridgeLoop} (h : s.InBounds) {cfg : LoopConfig}
    {e : RegistryEvent} (ht : s.handleEvent cfg e = some t) : PumpEffect cfg s e t := by
  cases hs : s.eventSlot e with
  | none =>
    rw [handleEvent_ignored cfg hs] at ht
    obtain rfl := Option.some.inj ht
    exact .ignored hs
  | some slot =>
    have hlt := h.lt hs
    cases e with
    | added camera =>
      obtain ⟨t', ht', _, _, _, u, hu, rfl⟩ :=
        onAdded_bound cfg s camera hlt (assign_granted hs)
      obtain rfl := Option.some.inj (ht'.symm.trans ht)
      exact .started hs hu
    | updated camera =>
      obtain ⟨t', ht', _, _, _, hpumps⟩ := onUpdated_bound cfg s camera hlt hs
      obtain rfl := Option.some.inj (ht'.symm.trans ht)
      exact .kept hs hpumps
    | removed id =>
      obtain ⟨t', ht', _, _, _, u, hu, rfl⟩ := onRemoved_bound s id hlt hs
      obtain rfl := Option.some.inj (ht'.symm.trans ht)
      exact .aborted hs hu

/-- The pumps running for a slot. -/
def pumpsOn (s : BridgeLoop) (slot : Nat) : List MotionPump :=
  s.running.filter fun pump => decide (pump.slot = slot)

theorem mem_pumpsOn {s : BridgeLoop} {slot : Nat} {pump : MotionPump} :
    pump ∈ s.pumpsOn slot ↔ pump ∈ s.running ∧ pump.slot = slot := by
  unfold pumpsOn
  rw [List.mem_filter, decide_eq_true_eq]

theorem SamePumps.pumpsOn {s t : BridgeLoop} (h : SamePumps s t) (slot : Nat) :
    t.pumpsOn slot = s.pumpsOn slot := by
  unfold BridgeLoop.pumpsOn
  rw [h.running]

theorem pumpsOn_startMotionPump (cfg : LoopConfig) (s : BridgeLoop) (slot : Nat)
    (camera : CameraDevice) (k : Nat) :
    ((s.startMotionPump cfg slot camera).pumpsOn k).map (fun pump => pump.config.target) =
      (s.pumpsOn k).map (fun pump => pump.config.target) ++
        if k = slot then (motionTarget slot camera).toList else [] := by
  unfold startMotionPump motionTarget
  cases pumpUrl slot camera with
  | none => simp
  | some eventsUrl =>
    unfold pumpsOn spawnMotionPump
    by_cases hk : k = slot
    · simp [hk, MotionPumpConfig.target]
    · simp [hk, Ne.symm hk]

/-- Where every pump is on record, an abort ends the pumps of its slot and no others. -/
theorem Handles.pumpsOn_abort {s : BridgeLoop} (h : s.Handles) (slot k : Nat) :
    (s.abortMotionPump slot).pumpsOn k = if k = slot then [] else s.pumpsOn k := by
  unfold pumpsOn BridgeLoop.abortMotionPump
  cases hl : s.motionTasks.lookup slot with
  | none =>
    by_cases hk : k = slot
    · rw [if_pos hk]
      refine List.filter_eq_nil_iff.mpr fun pump hp hslot => ?_
      have hrec := h.recorded pump hp
      rw [of_decide_eq_true hslot, hk, hl] at hrec
      cases hrec
    · rw [if_neg hk]
  | some handle =>
    simp only [List.filter_filter]
    by_cases hk : k = slot
    · rw [if_pos hk]
      refine List.filter_eq_nil_iff.mpr fun pump hp hboth => ?_
      rw [Bool.and_eq_true, decide_eq_true_eq, decide_eq_true_eq] at hboth
      have hrec := h.recorded pump hp
      rw [hboth.1, hk, hl] at hrec
      exact hboth.2 (Option.some.inj hrec).symm
    · rw [if_neg hk]
      refine List.filter_congr fun pump hp => ?_
      by_cases hslot : pump.slot = k
      · have hne : pump.handle ≠ handle := by
          intro he
          have hrec := h.recorded pump hp
          rw [hslot, he] at hrec
          exact hk (h.exclusive k slot handle hrec hl)
        simp [hslot, hne]
      · simp [hslot]

/-- Only slots with the occupancy cluster have pumps. -/
theorem PumpEffect.occupancy {cfg : LoopConfig} {s t : BridgeLoop} {e : RegistryEvent}
    (h : PumpEffect cfg s e t) (hs : ∀ pump ∈ s.running, pump.slot < withOccupancyCameras) :
    ∀ pump ∈ t.running, pump.slot < withOccupancyCameras := by
  cases h with
  | ignored _ => exact hs
  | @started camera slot u _ hu =>
    rw [← hu.running] at hs
    unfold startMotionPump
    split
    · exact hs
    · rename_i eventsUrl hurl
      intro pump hp
      rcases List.mem_append.mp hp with hp | hp
      · exact hs pump hp
      · obtain rfl := List.mem_singleton.mp hp
        exact (pumpUrl_isSome.mp (Option.isSome_iff_exists.mpr ⟨eventsUrl, hurl⟩)).1
  | kept _ hu =>
    rw [hu.running]
    exact hs
  | aborted _ hu =>
    rw [← hu.running] at hs
    unfold abortMotionPump
    split
    · exact hs
    · exact fun pump hp => hs pump (List.mem_filter.mp hp).1

/-- No pump goes off the record while Added events find their slot without one. -/
theorem PumpEffect.handles {cfg : LoopConfig} {s t : BridgeLoop} {e : RegistryEvent}
    (h : PumpEffect cfg s e t) (hs : s.Handles) (hvacant : ∀ camera slot, e = .added camera →
      s.eventSlot e = some slot → s.pumpsOn slot = []) : t.Handles := by
  cases h with
  | ignored _ => exact hs
  | @started camera slot u hslot hu =>
    refine (hs.same hu).startMotionPump cfg camera ?_
    rw [hu.motionTasks]
    cases hl : s.motionTasks.lookup slot with
    | none => rfl
    | some handle =>
      obtain ⟨pump, hp, hpump, _⟩ := hs.alive slot handle hl
      have hmem : pump ∈ s.pumpsOn slot := List.mem_filter.mpr ⟨hp, decide_eq_true hpump⟩
      rw [hvacant camera slot rfl hslot] at hmem
      cases hmem
  | kept _ hu => exact hs.same hu
  | @aborted id slot u _ hu => exact (hs.same hu).abortMotionPump slot

theorem handles_boot [SerdeJson] (file : SlotFile) : (boot file).Handles where
  recorded _ hp := absurd hp List.not_mem_nil
  alive slot handle hl := by
    rw [motionTasks_boot] at hl
    cases hl
  fresh _ hp := absurd hp List.not_mem_nil
  exclusive := HashMap.injective_empty

end BridgeLoop

/-! ## Registry and loop together -/

/-- The registered cameras, as the handled events leave them, and the loop. -/
structure AnnouncedLoop where
  /-- camera id → latest record -/
  cameras : HashMap String CameraDevice
  loop : BridgeLoop

namespace AnnouncedLoop

def start [SerdeJson] (file : SlotFile) : AnnouncedLoop := ⟨∅, BridgeLoop.boot file⟩

def Step [UnicodeTables] (cfg : LoopConfig) (s : AnnouncedLoop) (e : RegistryEvent)
    (t : AnnouncedLoop) : Prop :=
  Announce s.cameras e t.cameras ∧ s.loop.handleEvent cfg e = some t.loop

/-- What the pumps running for a slot connect to. -/
def targets (s : AnnouncedLoop) (slot : Nat) : List PumpTarget :=
  (s.loop.pumpsOn slot).map fun pump => pump.config.target

/-- Each bound occupancy slot has the pump that its camera's latest record asks for. -/
def PumpsAgree (s : AnnouncedLoop) : Prop :=
  ∀ id slot camera, s.loop.bridge.slotMap.lookup id = some slot → slot < withOccupancyCameras →
    s.cameras.lookup id = some camera → s.targets slot = (motionTarget slot camera).toList

/-- An update leaves the camera's motion target alone, and a slot is only shared by
cameras without one. -/
def SameMotion (s : AnnouncedLoop) : RegistryEvent → Prop
  | .added camera => ∀ id slot old, s.loop.eventSlot (.added camera) = some slot →
    s.loop.bridge.slotMap.lookup id = some slot → s.cameras.lookup id = some old →
      motionTarget slot old = none ∧ motionTarget slot camera = none
  | .updated camera => ∀ slot old, s.loop.bridge.slotMap.lookup camera.id = some slot →
    s.cameras.lookup camera.id = some old → motionTarget slot camera = motionTarget slot old
  | .removed _ => True

/-- Bindings, records and pumps fit together. -/
structure Tables (s : AnnouncedLoop) : Prop where
  registered : ∀ id slot, s.loop.bridge.slotMap.lookup id = some slot →
    ∃ camera, s.cameras.lookup id = some camera
  idle : ∀ slot, (∀ id, s.loop.bridge.slotMap.lookup id ≠ some slot) → s.targets slot = []
  shared : ∀ a b slot, a ≠ b → s.loop.bridge.slotMap.lookup a = some slot →
    s.loop.bridge.slotMap.lookup b = some slot → s.targets slot = []

/-- What holds as long as the pumps agree. -/
structure Inv (s : AnnouncedLoop) : Prop extends Tables s where
  bounds : s.loop.InBounds
  handles : s.loop.Handles
  occupancy : ∀ pump ∈ s.loop.running, pump.slot < withOccupancyCameras

theorem targets_eq_nil {s : AnnouncedLoop} {slot : Nat} :
    s.targets slot = [] ↔ s.loop.pumpsOn slot = [] := List.map_eq_nil_iff

/-- A plain slot never has a pump. -/
theorem Inv.plain {s : AnnouncedLoop} (h : s.Inv) {slot : Nat}
    (hs : ¬ slot < withOccupancyCameras) : s.targets slot = [] := by
  refine targets_eq_nil.mpr (List.filter_eq_nil_iff.mpr fun pump hp hslot => ?_)
  have hlt := h.occupancy pump hp
  rw [of_decide_eq_true hslot] at hlt
  exact hs hlt

/-- A step that binds a camera to `slot`. -/
structure Binds (s : AnnouncedLoop) (camera : CameraDevice) (slot : Nat) (t : AnnouncedLoop) :
    Prop where
  bound : s.loop.eventSlot (.added camera) = some slot
  new : camera.id ∉ s.cameras
  cameras : t.cameras = s.cameras.insert camera.id camera
  bridge : t.loop.bridge.slotMap = s.loop.bridge.slotMap.insert camera.id slot
  targets : ∀ k, t.targets k =
    s.targets k ++ if k = slot then (motionTarget slot camera).toList else []

/-- A step that replaces the record of a bound camera. -/
structure Refreshes (s : AnnouncedLoop) (camera : CameraDevice) (t : AnnouncedLoop) : Prop where
  known : camera.id ∈ s.cameras
  cameras : t.cameras = s.cameras.insert camera.id camera
  bridge : t.loop.bridge.slotMap = s.loop.bridge.slotMap
  targets : ∀ k, t.targets k = s.targets k

/-- A step that unbinds a camera from `slot`. -/
structure Releases (s : AnnouncedLoop) (id : String) (slot : Nat) (t : AnnouncedLoop) :
    Prop where
  bound : s.loop.bridge.slotMap.lookup id = some slot
  cameras : t.cameras = s.cameras.erase id
  bridge : t.loop.bridge.slotMap = s.loop.bridge.slotMap.erase id
  targets : ∀ k, t.targets k = if k = slot then [] else s.targets k

theorem Binds.targets_self {s t : AnnouncedLoop} {camera : CameraDevice} {slot : Nat}
    (hb : s.Binds camera slot t) :
    t.targets slot = s.targets slot ++ (motionTarget slot camera).toList := by
  rw [hb.targets, if_pos rfl]

theorem Binds.targets_ne {s t : AnnouncedLoop} {camera : CameraDevice} {slot k : Nat}
    (hb : s.Binds camera slot t) (hk : k ≠ slot) : t.targets k = s.targets k := by
  rw [hb.targets, if_neg hk, List.append_nil]

theorem Binds.lookup_self {s t : AnnouncedLoop} {camera : CameraDevice} {slot : Nat}
    (hb : s.Binds camera slot t) : t.cameras.lookup camera.id = some camera ∧
      t.loop.bridge.slotMap.lookup camera.id = some slot := by
  rw [hb.cameras, hb.bridge]
  exact ⟨Finmap.lookup_insert _, Finmap.lookup_insert _⟩

theorem Binds.lookup_ne {s t : AnnouncedLoop} {camera : CameraDevice} {slot : Nat}
    (hb : s.Binds camera slot t) {id : String} (hid : id ≠ camera.id) :
    t.cameras.lookup id = s.cameras.lookup id ∧
      t.loop.bridge.slotMap.lookup id = s.loop.bridge.slotMap.lookup id := by
  rw [hb.cameras, hb.bridge]
  exact ⟨Finmap.lookup_insert_of_ne _ hid, Finmap.lookup_insert_of_ne _ hid⟩

/-- The new camera was not bound. -/
theorem Inv.ne_of_bound {s t : AnnouncedLoop} (h : s.Inv) {camera : CameraDevice} {slot : Nat}
    (hb : s.Binds camera slot t) {id : String} {k : Nat}
    (hid : s.loop.bridge.slotMap.lookup id = some k) : id ≠ camera.id := by
  intro he
  obtain ⟨old, hold⟩ := h.registered id k hid
  rw [he, Finmap.lookup_eq_none.mpr hb.new] at hold
  cases hold

/-- A slot on which an Added event leaves the pumps right had none before. -/
theorem Inv.vacant {s t : AnnouncedLoop} (h : s.Inv) {camera : CameraDevice} {slot : Nat}
    (hb : s.Binds camera slot t) (hagree : t.PumpsAgree) : s.targets slot = [] := by
  by_cases hlt : slot < withOccupancyCameras
  · obtain ⟨hcamera, hbound⟩ := hb.lookup_self
    have hmine := hagree camera.id slot camera hbound hlt hcamera
    rw [hb.targets_self] at hmine
    exact List.append_left_eq_self.mp hmine
  · exact h.plain hlt

/-- An Added event adds the pump of its record, which has to be the slot's only one. -/
theorem Inv.binds_iff {s t : AnnouncedLoop} (h : s.Inv) (hp : s.PumpsAgree)
    {camera : CameraDevice} {slot : Nat} (hb : s.Binds camera slot t) :
    s.SameMotion (.added camera) ↔ t.PumpsAgree := by
  obtain ⟨hcamera, hbound⟩ := hb.lookup_self
  constructor
  · intro hok id k record hid hk hrecord
    by_cases he : id = camera.id
    · subst he
      obtain rfl := Option.some.inj (hbound.symm.trans hid)
      obtain rfl := Option.some.inj (hcamera.symm.trans hrecord)
      have hempty : s.targets slot = [] := by
        by_cases hheld : ∃ id, s.loop.bridge.slotMap.lookup id = some slot
        · obtain ⟨id, hid⟩ := hheld
          obtain ⟨old, hold⟩ := h.registered id slot hid
          rw [hp id slot old hid hk hold, (hok id slot old hb.bound hid hold).1]
          rfl
        · exact h.idle slot fun id hid => hheld ⟨id, hid⟩
      rw [hb.targets_self, hempty, List.nil_append]
    · obtain ⟨hcameras, hslots⟩ := hb.lookup_ne he
      rw [hcameras] at hrecord
      rw [hslots] at hid
      by_cases hks : k = slot
      · subst hks
        rw [hb.targets_self, (hok id k record hb.bound hid hrecord).2,
          hp id k record hid hk hrecord]
        exact List.append_nil _
      · rw [hb.targets_ne hks, hp id k record hid hk hrecord]
  · intro hagree id k old hk hid hold
    obtain rfl := Option.some.inj (hb.bound.symm.trans hk)
    obtain ⟨hcameras, hslots⟩ := hb.lookup_ne (h.ne_of_bound hb hid)
    have hempty := h.vacant hb hagree
    by_cases hlt : slot < withOccupancyCameras
    · have hbefore := hp id slot old hid hlt hold
      have hafter := hagree id slot old (hslots.trans hid) hlt (hcameras.trans hold)
      rw [hb.targets_self, ← hbefore, hempty, List.nil_append] at hafter
      rw [hempty] at hbefore
      exact ⟨Option.toList_eq_nil_iff.mp hbefore.symm, Option.toList_eq_nil_iff.mp hafter⟩
    · exact ⟨motionTarget_of_plain hlt old, motionTarget_of_plain hlt camera⟩

/-- An Updated event changes the record and no pump. -/
theorem refreshes_iff {s t : AnnouncedLoop} (hp : s.PumpsAgree) {camera : CameraDevice}
    (hr : s.Refreshes camera t) : s.SameMotion (.updated camera) ↔ t.PumpsAgree := by
  constructor
  · intro hok id k record hid hk hrecord
    rw [hr.bridge] at hid
    rw [hr.cameras, HashMap.lookup_insert_eq] at hrecord
    rw [hr.targets]
    split at hrecord
    · rename_i he
      obtain rfl := Option.some.inj hrecord
      rw [he] at hid
      obtain ⟨old, hl⟩ := Option.isSome_iff_exists.mp (Finmap.lookup_isSome.mpr hr.known)
      rw [hp camera.id k old hid hk hl, hok k old hid hl]
    · exact hp id k record hid hk hrecord
  · intro hagree slot old hid hl
    by_cases hlt : slot < withOccupancyCameras
    · have hafter := hagree camera.id slot camera (by rw [hr.bridge]; exact hid) hlt
        (by rw [hr.cameras]; exact Finmap.lookup_insert _)
      rw [hr.targets, hp camera.id slot old hid hlt hl] at hafter
      have htarget := congrArg List.head? hafter
      rwa [Option.head?_toList, Option.head?_toList, eq_comm] at htarget
    · rw [motionTarget_of_plain hlt, motionTarget_of_plain hlt]

/-- A Removed event ends the pumps of a slot that no other camera has one for. -/
theorem Inv.agree_of_releases {s t : AnnouncedLoop} (h : s.Inv) (hp : s.PumpsAgree) {id : String}
    {slot : Nat} (hr : s.Releases id slot t) : t.PumpsAgree := by
  intro other k record hid hk hrecord
  rw [hr.bridge, HashMap.lookup_erase_eq] at hid
  rw [hr.cameras, HashMap.lookup_erase_eq] at hrecord
  split at hid
  · cases hid
  · rename_i hne
    rw [if_neg hne] at hrecord
    have hbefore := hp other k record hid hk hrecord
    rw [hr.targets]
    split
    · rename_i hks
      rw [← hbefore, h.shared other id k hne hid (hks ▸ hr.bound)]
    · exact hbefore

/-- An event about no slot is about an unbound camera. -/
theorem Inv.lookup_of_ignored {s t : AnnouncedLoop} (h : s.Inv) {e : RegistryEvent}
    (hslot : s.loop.eventSlot e = none) (hannounce : Announce s.cameras e t.cameras) {id : String}
    {slot : Nat} (hid : s.loop.bridge.slotMap.lookup id = some slot) :
    t.cameras.lookup id = s.cameras.lookup id := by
  obtain ⟨hfollows, hcameras⟩ := hannounce
  rw [hcameras]
  apply RegistryEvent.lookup_replay_ne
  intro he
  subst he
  cases e with
  | added camera =>
    obtain ⟨old, hold⟩ := h.registered camera.id slot hid
    exact hfollows (Finmap.lookup_isSome.mp (Option.isSome_iff_exists.mpr ⟨old, hold⟩))
  | updated camera => exact absurd (hid.symm.trans hslot) (Option.some_ne_none slot)
  | removed id => exact absurd (hid.symm.trans hslot) (Option.some_ne_none slot)

theorem sameMotion_of_ignored {s : AnnouncedLoop} {e : RegistryEvent}
    (hslot : s.loop.eventSlot e = none) : s.SameMotion e := by
  cases e with
  | added camera =>
    intro id slot old hs
    rw [hslot] at hs
    cases hs
  | updated camera =>
    intro slot old hs
    exact absurd (hs.symm.trans hslot) (Option.some_ne_none slot)
  | removed id => trivial

/-! ## One step -/

theorem Step.binds [UnicodeTables] {cfg : LoopConfig} {s t : AnnouncedLoop}
    {camera : CameraDevice} {slot : Nat} {u : BridgeLoop} (hb : s.loop.InBounds)
    (hstep : Step cfg s (.added camera) t) (hslot : s.loop.eventSlot (.added camera) = some slot)
    (hu : BridgeLoop.SamePumps s.loop u) (hloop : t.loop = u.startMotionPump cfg slot camera) :
    s.Binds camera slot t where
  bound := hslot
  new := hstep.1.1
  cameras := hstep.1.2
  bridge := hb.bridge_step hstep.2 hslot
  targets k := by
    unfold targets
    rw [hloop, BridgeLoop.pumpsOn_startMotionPump, hu.pumpsOn]

theorem Step.refreshes [UnicodeTables] {cfg : LoopConfig} {s t : AnnouncedLoop}
    {camera : CameraDevice} {slot : Nat} (hb : s.loop.InBounds)
    (hstep : Step cfg s (.updated camera) t)
    (hslot : s.loop.eventSlot (.updated camera) = some slot)
    (hu : BridgeLoop.SamePumps s.loop t.loop) : s.Refreshes camera t where
  known := hstep.1.1
  cameras := hstep.1.2
  bridge := hb.bridge_step hstep.2 hslot
  targets k := by
    unfold targets
    rw [hu.pumpsOn]

theorem Step.releases [UnicodeTables] {cfg : LoopConfig} {s t : AnnouncedLoop} {id : String}
    {slot : Nat} {u : BridgeLoop} (h : s.Inv) (hstep : Step cfg s (.removed id) t)
    (hslot : s.loop.eventSlot (.removed id) = some slot)
    (hu : BridgeLoop.SamePumps s.loop u) (hloop : t.loop = u.abortMotionPump slot) :
    s.Releases id slot t where
  bound := hslot
  cameras := hstep.1.2
  bridge := h.bounds.bridge_step hstep.2 hslot
  targets k := by
    unfold targets
    rw [hloop, (h.handles.same hu).pumpsOn_abort, hu.pumpsOn]
    split <;> rfl

theorem Inv.tables_of_binds {s t : AnnouncedLoop} (h : s.Inv) (hp : s.PumpsAgree)
    {camera : CameraDevice} {slot : Nat} (hb : s.Binds camera slot t) (hagree : t.PumpsAgree) :
    t.Tables := by
  have hother : ∀ {id k}, id ≠ camera.id → t.loop.bridge.slotMap.lookup id = some k →
      s.loop.bridge.slotMap.lookup id = some k := fun hne hid =>
    (hb.lookup_ne hne).2.symm.trans hid
  -- A slot the new camera shares has no pump before and none after.
  have hshared : ∀ id, id ≠ camera.id → t.loop.bridge.slotMap.lookup id = some slot →
      t.targets slot = [] := by
    intro id hne hid
    have hid := hother hne hid
    obtain ⟨old, hold⟩ := h.registered id slot hid
    have hnone := ((h.binds_iff hp hb).mpr hagree id slot old hb.bound hid hold).2
    rw [hb.targets_self, h.vacant hb hagree, hnone]
    rfl
  refine ⟨?_, ?_, ?_⟩
  · intro id k hid
    by_cases he : id = camera.id
    · subst he
      exact ⟨camera, hb.lookup_self.1⟩
    · rw [(hb.lookup_ne he).1]
      exact h.registered id k (hother he hid)
  · intro k hk
    have hne : k ≠ slot := by
      intro he
      subst he
      exact hk camera.id hb.lookup_self.2
    rw [hb.targets_ne hne]
    refine h.idle k fun id hid => hk id ?_
    exact (hb.lookup_ne (h.ne_of_bound hb hid)).2.trans hid
  · intro a c k hne ha hc
    by_cases hk : k = slot
    · subst hk
      by_cases he : a = camera.id
      · exact hshared c (fun hc => hne (he.trans hc.symm)) hc
      · exact hshared a he ha
    · have hself : ∀ {id}, t.loop.bridge.slotMap.lookup id = some k → id ≠ camera.id := by
        intro id hid he
        rw [he, hb.lookup_self.2] at hid
        exact hk (Option.some.inj hid).symm
      rw [hb.targets_ne hk]
      exact h.shared a c k hne (hother (hself ha) ha) (hother (hself hc) hc)

theorem Inv.tables_of_refreshes {s t : AnnouncedLoop} (h : s.Inv) {camera : CameraDevice}
    (hr : s.Refreshes camera t) : t.Tables := by
  refine ⟨?_, ?_, ?_⟩
  · intro id k hid
    rw [hr.cameras, HashMap.lookup_insert_eq]
    split
    · exact ⟨camera, rfl⟩
    · exact h.registered id k (by rw [← hr.bridge]; exact hid)
  · intro k hk
    rw [hr.targets]
    exact h.idle k (by rw [← hr.bridge]; exact hk)
  · intro a b k hne ha hb
    rw [hr.bridge] at ha hb
    rw [hr.targets]
    exact h.shared a b k hne ha hb

theorem Inv.tables_of_releases {s t : AnnouncedLoop} (h : s.Inv) {id : String} {slot : Nat}
    (hr : s.Releases id slot t) : t.Tables := by
  have hother : ∀ {other k}, t.loop.bridge.slotMap.lookup other = some k →
      other ≠ id ∧ s.loop.bridge.slotMap.lookup other = some k := by
    intro other k hk
    rw [hr.bridge, HashMap.lookup_erase_eq] at hk
    split at hk
    · cases hk
    · exact ⟨‹_›, hk⟩
  refine ⟨?_, ?_, ?_⟩
  · intro other k hk
    obtain ⟨hne, hold⟩ := hother hk
    rw [hr.cameras, HashMap.lookup_erase_eq, if_neg hne]
    exact h.registered other k hold
  · intro k hk
    rw [hr.targets]
    split
    · rfl
    · rename_i hks
      refine h.idle k fun other hold => hk other ?_
      rw [hr.bridge, HashMap.lookup_erase_eq, if_neg]
      · exact hold
      · intro he
        rw [he, hr.bound] at hold
        exact hks (Option.some.inj hold).symm
  · intro a b k hne ha hb
    rw [hr.targets]
    split
    · rfl
    · exact h.shared a b k hne (hother ha).2 (hother hb).2

theorem agree_of_same {s t : AnnouncedLoop} (hp : s.PumpsAgree)
    (hcameras : ∀ id slot, s.loop.bridge.slotMap.lookup id = some slot →
      t.cameras.lookup id = s.cameras.lookup id) (hloop : t.loop = s.loop) : t.PumpsAgree := by
  intro id slot record hid hk hrecord
  unfold targets
  rw [hloop] at hid ⊢
  rw [hcameras id slot hid] at hrecord
  exact hp id slot record hid hk hrecord

theorem Inv.tables_of_same {s t : AnnouncedLoop} (h : s.Inv)
    (hcameras : ∀ id slot, s.loop.bridge.slotMap.lookup id = some slot →
      t.cameras.lookup id = s.cameras.lookup id) (hloop : t.loop = s.loop) : t.Tables where
  registered := by
    rw [hloop]
    intro id slot hid
    rw [hcameras id slot hid]
    exact h.registered id slot hid
  idle := by
    unfold targets
    rw [hloop]
    exact h.idle
  shared := by
    unfold targets
    rw [hloop]
    exact h.shared

/-- One step: the guard says whether the pumps still agree, and the invariant survives
as long as they do. -/
theorem Inv.step [UnicodeTables] {cfg : LoopConfig} {s t : AnnouncedLoop} {e : RegistryEvent}
    (h : s.Inv) (hp : s.PumpsAgree) (hstep : Step cfg s e t) :
    (s.SameMotion e ↔ t.PumpsAgree) ∧ (t.PumpsAgree → t.Inv) := by
  have hbounds := h.bounds.kept hstep.2
  have heffect := h.bounds.pumpEffect hstep.2
  have hinv : ∀ htables : t.Tables, (∀ camera slot, e = .added camera →
      s.loop.eventSlot e = some slot → s.targets slot = []) → t.Inv := by
    intro htables hvacant
    refine ⟨htables, hbounds, heffect.handles h.handles fun camera slot he hslot => ?_,
      heffect.occupancy h.occupancy⟩
    exact targets_eq_nil.mp (hvacant camera slot he hslot)
  generalize hloop : t.loop = loop at heffect
  cases heffect with
  | ignored hslot =>
    have hcameras := fun id slot (hid : s.loop.bridge.slotMap.lookup id = some slot) =>
      h.lookup_of_ignored hslot hstep.1 hid
    refine ⟨⟨fun _ => agree_of_same hp hcameras hloop, fun _ => sameMotion_of_ignored hslot⟩,
      fun _ => hinv (h.tables_of_same hcameras hloop) ?_⟩
    intro camera slot _ hslot'
    exact absurd (hslot'.symm.trans hslot) (Option.some_ne_none slot)
  | @started camera slot u hslot hu =>
    have hb := Step.binds h.bounds hstep hslot hu hloop
    refine ⟨h.binds_iff hp hb, fun hagree => hinv (h.tables_of_binds hp hb hagree) ?_⟩
    intro camera' slot' he hslot'
    obtain rfl := Option.some.inj (hslot.symm.trans hslot')
    exact h.vacant hb hagree
  | @kept camera slot u hslot hu =>
    rw [← hloop] at hu
    have hr := Step.refreshes h.bounds hstep hslot hu
    refine ⟨refreshes_iff hp hr, fun _ => hinv (h.tables_of_refreshes hr) ?_⟩
    intro camera' slot' he
    cases he
  | @aborted id slot u hslot hu =>
    have hr := Step.releases h hstep hslot hu hloop
    refine ⟨⟨fun _ => h.agree_of_releases hp hr, fun _ => trivial⟩,
      fun _ => hinv (h.tables_of_releases hr) ?_⟩
    intro camera' slot' he
    cases he

theorem inv_start [SerdeJson] (file : SlotFile) : (start file).Inv where
  registered id slot hid :=
    absurd (hid.symm.trans (BridgeLoop.lookup_boot file id)) (Option.some_ne_none slot)
  idle _ _ := rfl
  shared _ _ _ _ _ _ := rfl
  bounds := BridgeLoop.inBounds_boot file
  handles := BridgeLoop.handles_boot file
  occupancy _ hp := absurd hp List.not_mem_nil

theorem pumpsAgree_start [SerdeJson] (file : SlotFile) : (start file).PumpsAgree := by
  intro id slot record hid
  exact absurd (hid.symm.trans (BridgeLoop.lookup_boot file id)) (Option.some_ne_none slot)

/-- **When updated cameras keep the right pump.** For every slot file and every sequence
of announced events: each bound occupancy slot has exactly the pump its camera's latest
record asks for in all states, exactly when every Updated event leaves the motion target of
its camera alone and no Added event shares a slot with a camera while either has one. -/
theorem pumps_agree_iff [UnicodeTables] [SerdeJson] (cfg : LoopConfig) (file : SlotFile)
    (events : List RegistryEvent) (s : AnnouncedLoop) :
    Run (Guarded (Step cfg) SameMotion) (start file) events s ↔
      Run (Keeping (Step cfg) PumpsAgree) (start file) events s :=
  Run.guarded_iff_keeping Inv (fun _ _ _ hi hp hstep => (hi.step hp hstep).2)
    (fun _ _ _ hi hp hstep => (hi.step hp hstep).1) (inv_start file) (pumpsAgree_start file)

/-- One camera under two static addresses: the scan finds it twice, and the pump stays
with the first address. -/
theorem moved_camera_keeps_pump :
    letI := asciiTables
    letI := PrettyJson.serdeJson
    let door : CameraDevice := { CameraDevice.bare "SN-1" with
      supportsMotion := true
      eventsUrl := some "http://10.0.0.5/onvif/events" }
    let moved : CameraDevice := { door with
      host := "10.0.0.9"
      eventsUrl := some "http://10.0.0.9/onvif/events" }
    let events := ((CameraRegistry.new 64).applyAll [.addCamera door, .addCamera moved]).tx.sent
    ∃ s, Run (Step ⟨∅, "admin", "pass"⟩) (start none) events s ∧
      s.loop.bridge.slotMap.lookup "SN-1" = some 0 ∧ s.cameras.lookup "SN-1" = some moved ∧
      s.targets 0 = [⟨"10.0.0.5", 80, "http://10.0.0.5/onvif/events"⟩] ∧
      motionTarget 0 moved = some ⟨"10.0.0.9", 80, "http://10.0.0.9/onvif/events"⟩ := by
  intro door moved events
  let _ := asciiTables
  let _ := PrettyJson.serdeJson
  let cfg : LoopConfig := ⟨∅, "admin", "pass"⟩
  let found : AnnouncedLoop := ⟨(∅ : HashMap String CameraDevice).insert "SN-1" door,
    ((BridgeLoop.boot none).handleEvent cfg (.added door)).getD (BridgeLoop.boot none)⟩
  let again : AnnouncedLoop := ⟨found.cameras.insert "SN-1" moved,
    (found.loop.handleEvent cfg (.updated moved)).getD found.loop⟩
  have hadded : Step cfg (start none) (.added door) found :=
    ⟨⟨Finmap.notMem_empty, rfl⟩, rfl⟩
  have hupdated : Step cfg found (.updated moved) again :=
    ⟨⟨Finmap.mem_insert.mpr (Or.inl rfl), rfl⟩, rfl⟩
  exact ⟨again, Run.cons hadded (Run.one hupdated), by decide, by decide, by decide, by decide⟩

end AnnouncedLoop

end MatterBridge.Bridge
