import MatterBridge.Core.Unicode
import MatterBridge.Onvif.Registry
import MatterBridge.Slots.SlotMap

/-!
# The bridge event loop

One registry event changes up to six tables: the persistent slot map, the shared
`slotMap` and `streamNames`, the camera slots, the motion tasks and the seed
queue. Every handler returns `none` where the source would panic on a slot index.
A `Row` collects what the tables hold for one slot; each handler writes at most
one row.
-/
namespace MatterBridge.Bridge

open MatterBridge.Core MatterBridge.Onvif MatterBridge.Slots

def maxCameras : Nat := 8

/-- How many of the slots include the OccupancySensing cluster. -/
def withOccupancyCameras : Nat := 7

structure CameraSlot where
  occupied : Bool
  nodeLabel : String
  vendorName : String
  productName : String
  serialNumber : String
  hardwareVersionString : String
  softwareVersionString : String
  uniqueId : String
  supportsPtz : Bool
  deriving DecidableEq, Repr

def CameraSlot.default : CameraSlot := ⟨false, "", "", "", "", "", "", "", false⟩

/-- The tables shared with the Matter thread. -/
structure MediaBridge where
  /-- camera id → slot index -/
  slotMap : HashMap String Nat
  /-- slot index → go2rtc stream name -/
  streamNames : HashMap Nat String

inductive VideoCodecEnum where
  | h264
  | hevc
  | vvc
  | av1
  deriving DecidableEq, Repr

inductive StreamUsageEnum where
  | liveView
  deriving DecidableEq, Repr

structure VideoStream where
  videoStreamId : UInt16
  streamUsage : StreamUsageEnum
  videoCodec : VideoCodecEnum
  minFrameRate : UInt16
  maxFrameRate : UInt16
  minWidth : UInt16
  minHeight : UInt16
  maxWidth : UInt16
  maxHeight : UInt16
  minBitRate : UInt32
  maxBitRate : UInt32
  keyFrameInterval : UInt16
  watermarkEnabled : Option Bool
  osdEnabled : Option Bool
  referenceCount : UInt8
  deriving DecidableEq, Repr

structure MotionPumpConfig where
  host : String
  port : UInt16
  username : String
  password : String
  eventsUrl : String
  label : String
  deriving DecidableEq, Repr

/-- A spawned pump task; `slot` is the motion state its callback captured. -/
structure MotionPump where
  handle : Nat
  slot : Nat
  config : MotionPumpConfig
  deriving DecidableEq, Repr

/-- The settings the loop reads. -/
structure LoopConfig where
  cameraNames : HashMap String String
  onvifUsername : String
  onvifPassword : String

structure BridgeLoop where
  slotMap : SlotMap
  bridge : MediaBridge
  slots : Vector CameraSlot maxCameras
  /-- slot index → handle of the pump task -/
  motionTasks : HashMap Nat Nat
  /-- Pump tasks spawned and not aborted. -/
  running : List MotionPump
  /-- Number of tasks spawned so far; the next handle. -/
  spawned : Nat
  seeded : Finset Nat
  /-- Seed messages sent, oldest first. -/
  seedTx : List (Nat × VideoStream)

def BridgeLoop.start (slotMap : SlotMap) : BridgeLoop where
  slotMap := slotMap
  bridge := ⟨∅, ∅⟩
  slots := Vector.replicate maxCameras .default
  motionTasks := ∅
  running := []
  spawned := 0
  seeded := ∅
  seedTx := []

def sanitizeStreamName [UnicodeTables] (id : String) : String :=
  String.ofList (id.toList.map fun c =>
    if UnicodeTables.isAlphanumeric c || c == '-' || c == '_' then c else '_')

/-- The configured name: by serial number, else by id, else by host. -/
def LoopConfig.friendlyName (cfg : LoopConfig) (camera : CameraDevice) : Option String :=
  ((cfg.cameraNames.lookup camera.deviceInfo.serialNumber).or
    (cfg.cameraNames.lookup camera.id)).or (cfg.cameraNames.lookup camera.host)

def populateCameraSlot (slot : CameraSlot) (camera : CameraDevice) (friendlyName : Option String) :
    CameraSlot :=
  { slot with
    occupied := true
    vendorName := camera.deviceInfo.manufacturer
    productName := camera.deviceInfo.model
    serialNumber := camera.deviceInfo.serialNumber
    hardwareVersionString := camera.deviceInfo.hardwareId
    softwareVersionString := camera.deviceInfo.firmwareVersion
    uniqueId := camera.id
    nodeLabel := friendlyName.getD
      (camera.deviceInfo.manufacturer ++ " " ++ camera.deviceInfo.model)
    supportsPtz := camera.supportsPtz }

def videoCodecOf (codec : String) : VideoCodecEnum :=
  match codec.toUpper with
  | "H265" | "HEVC" => .hevc
  | "VVC" => .vvc
  | "AV1" => .av1
  | _ => .h264

/-- `u32::saturating_mul`. -/
def saturatingMul (a b : UInt32) : UInt32 := UInt32.ofNat (min (a.toNat * b.toNat) (2 ^ 32 - 1))

/-- The stream `seed_av_streams` sends, if the first profile has a video encoder. -/
def videoStreamOf (camera : CameraDevice) : Option VideoStream := do
  let profile ← camera.profiles.head?
  let ve ← profile.videoEncoder
  return {
    videoStreamId := 0
    streamUsage := .liveView
    videoCodec := videoCodecOf ve.codec
    minFrameRate := 1
    maxFrameRate := max ve.frameRate 1
    minWidth := 320
    minHeight := 240
    maxWidth := ve.width
    maxHeight := ve.height
    minBitRate := 200000
    maxBitRate := max (saturatingMul ve.bitrate 1000) 500000
    keyFrameInterval := 2000
    watermarkEnabled := none
    osdEnabled := none
    referenceCount := 0 }

namespace BridgeLoop

/-- `seeded.insert(slot)` and, the first time, `seed_av_streams`. -/
def seedAvStreams (s : BridgeLoop) (slot : Nat) (camera : CameraDevice) : BridgeLoop :=
  if slot ∈ s.seeded then s
  else
    { s with
      seeded := insert slot s.seeded
      seedTx := s.seedTx ++ ((videoStreamOf camera).map fun stream => (slot, stream)).toList }

/-- `slots_owned[slot]`, locked and written; `none` is the index panic. -/
def writeSlot (s : BridgeLoop) (slot : Nat) (f : CameraSlot → CameraSlot) : Option BridgeLoop :=
  s.slots[slot]?.map fun c => { s with slots := s.slots.setIfInBounds slot (f c) }

def spawnMotionPump (s : BridgeLoop) (slot : Nat) (config : MotionPumpConfig) : BridgeLoop :=
  { s with
    running := s.running ++ [⟨s.spawned, slot, config⟩]
    spawned := s.spawned + 1
    motionTasks := s.motionTasks.insert slot s.spawned }

/-- The events URL of a camera that gets a pump on `slot`. -/
def pumpUrl (slot : Nat) (camera : CameraDevice) : Option String :=
  if camera.supportsMotion && decide (slot < withOccupancyCameras) then camera.eventsUrl else none

def startMotionPump (cfg : LoopConfig) (s : BridgeLoop) (slot : Nat) (camera : CameraDevice) :
    BridgeLoop :=
  match pumpUrl slot camera with
  | none => s
  | some eventsUrl => s.spawnMotionPump slot {
      host := camera.host
      port := camera.port
      username := cfg.onvifUsername
      password := cfg.onvifPassword
      eventsUrl := eventsUrl
      label := (cfg.friendlyName camera).getD (camera.deviceInfo.manufacturer ++ " " ++
        camera.deviceInfo.model ++ " @ " ++ camera.host) }

def onAdded [UnicodeTables] (cfg : LoopConfig) (s : BridgeLoop) (camera : CameraDevice) :
    Option BridgeLoop :=
  let assigned := s.slotMap.assign camera.id camera.supportsMotion
  let s := { s with slotMap := assigned.slots }
  match assigned.slot with
  | none => some s
  | some slot => do
    let s := { s with
      bridge := {
        slotMap := s.bridge.slotMap.insert camera.id slot
        streamNames := s.bridge.streamNames.insert slot (sanitizeStreamName camera.id) } }
    let s ← s.writeSlot slot fun c => populateCameraSlot c camera (cfg.friendlyName camera)
    return (s.seedAvStreams slot camera).startMotionPump cfg slot camera

def onUpdated (cfg : LoopConfig) (s : BridgeLoop) (camera : CameraDevice) : Option BridgeLoop :=
  match s.bridge.slotMap.lookup camera.id with
  | none => some s
  | some slot => s.writeSlot slot fun c => populateCameraSlot c camera (cfg.friendlyName camera)

/-- `motion_tasks.remove(&slot)` and `abort` of the handle found there. -/
def abortMotionPump (s : BridgeLoop) (slot : Nat) : BridgeLoop :=
  match s.motionTasks.lookup slot with
  | none => s
  | some handle =>
    { s with
      motionTasks := s.motionTasks.erase slot
      running := s.running.filter fun pump => decide (pump.handle ≠ handle) }

def onRemoved (s : BridgeLoop) (id : String) : Option BridgeLoop :=
  match s.bridge.slotMap.lookup id with
  | none => some s
  | some slot => do
    let s := { s with bridge := { s.bridge with slotMap := s.bridge.slotMap.erase id } }
    let s ← s.writeSlot slot fun _ => .default
    let s := { s with bridge := { s.bridge with streamNames := s.bridge.streamNames.erase slot } }
    return s.abortMotionPump slot

def handleEvent [UnicodeTables] (cfg : LoopConfig) (s : BridgeLoop) :
    RegistryEvent → Option BridgeLoop
  | .added camera => s.onAdded cfg camera
  | .updated camera => s.onUpdated cfg camera
  | .removed id => s.onRemoved id

/-- The loop over a list of received events. -/
def handleEvents [UnicodeTables] (cfg : LoopConfig) (s : BridgeLoop) (events : List RegistryEvent) :
    Option BridgeLoop :=
  events.foldlM (handleEvent cfg) s

theorem handleEvents_snoc [UnicodeTables] (cfg : LoopConfig) (s : BridgeLoop)
    (events : List RegistryEvent) (e : RegistryEvent) :
    s.handleEvents cfg (events ++ [e]) = (s.handleEvents cfg events).bind (handleEvent cfg · e) := by
  simp [handleEvents, List.foldlM_append]

/-! ## One slot's row -/

/-- What the tables hold for one slot. -/
structure Row where
  camera : Option CameraSlot
  streamName : Option String
  pump : Option Nat

def row (s : BridgeLoop) (slot : Nat) : Row :=
  ⟨s.slots[slot]?, s.bridge.streamNames.lookup slot, s.motionTasks.lookup slot⟩

/-- The row of a slot no camera is bound to. -/
def Row.free : Row := ⟨some .default, none, none⟩

theorem camera_row (s : BridgeLoop) {slot : Nat} (h : slot < maxCameras) :
    (s.row slot).camera = some s.slots[slot] := Vector.getElem?_eq_getElem h

theorem writeSlot_of_lt (s : BridgeLoop) {slot : Nat} (h : slot < maxCameras)
    (f : CameraSlot → CameraSlot) : ∃ t, s.writeSlot slot f = some t := by
  simp [writeSlot, h]

/-- A slot write changes the camera slots only. -/
theorem writeSlot_frame {s t : BridgeLoop} {slot : Nat} {f : CameraSlot → CameraSlot}
    (h : s.writeSlot slot f = some t) : t = { s with slots := t.slots } := by
  obtain ⟨c, _, rfl⟩ := Option.map_eq_some_iff.mp h
  rfl

theorem row_writeSlot {s t : BridgeLoop} {slot : Nat} {f : CameraSlot → CameraSlot}
    (h : s.writeSlot slot f = some t) (k : Nat) :
    t.row k = if k = slot then { s.row k with camera := (s.row k).camera.map f } else s.row k := by
  obtain ⟨c, hc, rfl⟩ := Option.map_eq_some_iff.mp h
  obtain ⟨hlt, rfl⟩ := Vector.getElem?_eq_some_iff.mp hc
  simp only [row, Vector.getElem?_setIfInBounds]
  by_cases hk : k = slot
  · subst hk
    simp [hlt]
  · rw [if_neg (Ne.symm hk), if_neg hk]

@[simp] theorem row_seedAvStreams (s : BridgeLoop) (slot : Nat) (camera : CameraDevice) (k : Nat) :
    (s.seedAvStreams slot camera).row k = s.row k := by
  rw [seedAvStreams]
  split <;> rfl

theorem row_startMotionPump (cfg : LoopConfig) (s : BridgeLoop) (slot : Nat)
    (camera : CameraDevice) (k : Nat) :
    (s.startMotionPump cfg slot camera).row k =
      if k = slot ∧ (pumpUrl slot camera).isSome then { s.row k with pump := some s.spawned }
      else s.row k := by
  rw [startMotionPump]
  cases hu : pumpUrl slot camera with
  | none => simp
  | some url =>
    simp only [row, spawnMotionPump, HashMap.lookup_insert_eq, Option.isSome_some, and_true]
    split <;> rfl

theorem row_abortMotionPump (s : BridgeLoop) (slot k : Nat) :
    (s.abortMotionPump slot).row k =
      if k = slot then { s.row k with pump := none } else s.row k := by
  rw [abortMotionPump]
  cases hl : s.motionTasks.lookup slot with
  | none =>
    by_cases hk : k = slot
    · subst hk
      simp [row, hl]
    · simp [hk]
  | some handle =>
    simp only [row, HashMap.lookup_erase_eq]
    split <;> rfl

/-- The pump tasks and their table are untouched. -/
structure SamePumps (s t : BridgeLoop) : Prop where
  motionTasks : t.motionTasks = s.motionTasks
  running : t.running = s.running
  spawned : t.spawned = s.spawned

theorem samePumps_seedAvStreams (s : BridgeLoop) (slot : Nat) (camera : CameraDevice) :
    SamePumps s (s.seedAvStreams slot camera) := by
  rw [seedAvStreams]
  split <;> exact ⟨rfl, rfl, rfl⟩

theorem samePumps_writeSlot {s t : BridgeLoop} {slot : Nat} {f : CameraSlot → CameraSlot}
    (h : s.writeSlot slot f = some t) : SamePumps s t := by
  rw [writeSlot_frame h]
  exact ⟨rfl, rfl, rfl⟩

theorem SamePumps.trans {s t u : BridgeLoop} (h : SamePumps s t) (h' : SamePumps t u) :
    SamePumps s u :=
  ⟨h'.motionTasks.trans h.motionTasks, h'.running.trans h.running, h'.spawned.trans h.spawned⟩

@[simp] theorem slotMap_seedAvStreams (s : BridgeLoop) (slot : Nat) (camera : CameraDevice) :
    (s.seedAvStreams slot camera).slotMap = s.slotMap := by
  rw [seedAvStreams]
  split <;> rfl

@[simp] theorem bridge_seedAvStreams (s : BridgeLoop) (slot : Nat) (camera : CameraDevice) :
    (s.seedAvStreams slot camera).bridge = s.bridge := by
  rw [seedAvStreams]
  split <;> rfl

@[simp] theorem slotMap_startMotionPump (cfg : LoopConfig) (s : BridgeLoop) (slot : Nat)
    (camera : CameraDevice) : (s.startMotionPump cfg slot camera).slotMap = s.slotMap := by
  rw [startMotionPump]
  split <;> rfl

@[simp] theorem bridge_startMotionPump (cfg : LoopConfig) (s : BridgeLoop) (slot : Nat)
    (camera : CameraDevice) : (s.startMotionPump cfg slot camera).bridge = s.bridge := by
  rw [startMotionPump]
  split <;> rfl

@[simp] theorem slotMap_abortMotionPump (s : BridgeLoop) (slot : Nat) :
    (s.abortMotionPump slot).slotMap = s.slotMap := by
  rw [abortMotionPump]
  split <;> rfl

@[simp] theorem bridge_abortMotionPump (s : BridgeLoop) (slot : Nat) :
    (s.abortMotionPump slot).bridge = s.bridge := by
  rw [abortMotionPump]
  split <;> rfl

/-! ## What one event does -/

/-- The row an Added event leaves at the slot it binds. -/
def boundRow [UnicodeTables] (cfg : LoopConfig) (s : BridgeLoop) (slot : Nat)
    (camera : CameraDevice) : Row where
  camera := (s.row slot).camera.map fun c => populateCameraSlot c camera (cfg.friendlyName camera)
  streamName := some (sanitizeStreamName camera.id)
  pump := if (pumpUrl slot camera).isSome then some s.spawned else (s.row slot).pump

theorem onAdded_refused [UnicodeTables] (cfg : LoopConfig) (s : BridgeLoop) (camera : CameraDevice)
    (h : s.slotMap.assign camera.id camera.supportsMotion = ⟨none, s.slotMap, false⟩) :
    s.onAdded cfg camera = some s := by
  simp only [onAdded, h]

theorem onAdded_bound [UnicodeTables] (cfg : LoopConfig) (s : BridgeLoop) (camera : CameraDevice)
    {slot : Nat} {m : SlotMap} {saves : Bool} (hs : slot < maxCameras)
    (h : s.slotMap.assign camera.id camera.supportsMotion = ⟨some slot, m, saves⟩) :
    ∃ t, s.onAdded cfg camera = some t ∧ t.slotMap = m ∧
      t.bridge.slotMap = s.bridge.slotMap.insert camera.id slot ∧
      (∀ k, t.row k = if k = slot then boundRow cfg s slot camera else s.row k) ∧
      ∃ u, SamePumps s u ∧ t = u.startMotionPump cfg slot camera := by
  let s₁ : BridgeLoop := { s with
    slotMap := m
    bridge := {
      slotMap := s.bridge.slotMap.insert camera.id slot
      streamNames := s.bridge.streamNames.insert slot (sanitizeStreamName camera.id) } }
  obtain ⟨u, hu⟩ := s₁.writeSlot_of_lt hs
    fun c => populateCameraSlot c camera (cfg.friendlyName camera)
  have hframe := writeSlot_frame hu
  have hsame : SamePumps s s₁ := ⟨rfl, rfl, rfl⟩
  have hpumps : SamePumps s (u.seedAvStreams slot camera) :=
    hsame.trans ((samePumps_writeSlot hu).trans (samePumps_seedAvStreams u slot camera))
  refine ⟨(u.seedAvStreams slot camera).startMotionPump cfg slot camera, ?_, ?_, ?_, ?_, _, hpumps,
    rfl⟩
  · simp only [onAdded, h]
    change (s₁.writeSlot slot _).bind _ = _
    rw [hu]
    rfl
  · rw [slotMap_startMotionPump, slotMap_seedAvStreams, hframe]
  · rw [bridge_startMotionPump, bridge_seedAvStreams, hframe]
  · intro k
    rw [row_startMotionPump, row_seedAvStreams, row_writeSlot hu, hpumps.spawned]
    have hrow : s₁.row k = if k = slot then
        { s.row k with streamName := some (sanitizeStreamName camera.id) } else s.row k := by
      simp only [row, s₁, HashMap.lookup_insert_eq]
      split <;> rfl
    rw [hrow]
    by_cases hk : k = slot
    · subst hk
      by_cases hu : (pumpUrl k camera).isSome <;> simp [boundRow, hu]
    · simp [hk]

theorem onUpdated_unknown (cfg : LoopConfig) (s : BridgeLoop) (camera : CameraDevice)
    (h : s.bridge.slotMap.lookup camera.id = none) : s.onUpdated cfg camera = some s := by
  simp only [onUpdated, h]

theorem onUpdated_bound (cfg : LoopConfig) (s : BridgeLoop) (camera : CameraDevice) {slot : Nat}
    (hs : slot < maxCameras) (h : s.bridge.slotMap.lookup camera.id = some slot) :
    ∃ t, s.onUpdated cfg camera = some t ∧ t.slotMap = s.slotMap ∧ t.bridge = s.bridge ∧
      (∀ k, t.row k = if k = slot then { s.row k with
        camera := (s.row k).camera.map fun c =>
          populateCameraSlot c camera (cfg.friendlyName camera) } else s.row k) ∧
      SamePumps s t := by
  obtain ⟨t, ht⟩ := s.writeSlot_of_lt hs
    fun c => populateCameraSlot c camera (cfg.friendlyName camera)
  have hframe := writeSlot_frame ht
  refine ⟨t, ?_, ?_, ?_, row_writeSlot ht, samePumps_writeSlot ht⟩
  · simp only [onUpdated, h]
    exact ht
  · rw [hframe]
  · rw [hframe]

theorem onRemoved_unknown (s : BridgeLoop) (id : String)
    (h : s.bridge.slotMap.lookup id = none) : s.onRemoved id = some s := by
  simp only [onRemoved, h]

theorem onRemoved_bound (s : BridgeLoop) (id : String) {slot : Nat}
    (hs : slot < maxCameras) (h : s.bridge.slotMap.lookup id = some slot) :
    ∃ t, s.onRemoved id = some t ∧ t.slotMap = s.slotMap ∧
      t.bridge.slotMap = s.bridge.slotMap.erase id ∧
      (∀ k, t.row k = if k = slot then .free else s.row k) ∧
      ∃ u, SamePumps s u ∧ t = u.abortMotionPump slot := by
  let s₁ : BridgeLoop := { s with
    bridge := { s.bridge with slotMap := s.bridge.slotMap.erase id } }
  obtain ⟨u, hu⟩ := s₁.writeSlot_of_lt hs fun _ => .default
  have hframe := writeSlot_frame hu
  let u₁ : BridgeLoop := { u with
    bridge := { u.bridge with streamNames := u.bridge.streamNames.erase slot } }
  have hsame : SamePumps s s₁ := ⟨rfl, rfl, rfl⟩
  have hsame' : SamePumps u u₁ := ⟨rfl, rfl, rfl⟩
  have hpumps : SamePumps s u₁ := hsame.trans ((samePumps_writeSlot hu).trans hsame')
  refine ⟨u₁.abortMotionPump slot, ?_, ?_, ?_, ?_, u₁, hpumps, rfl⟩
  · simp only [onRemoved, h]
    change (s₁.writeSlot slot _).bind _ = _
    rw [hu]
    rfl
  · rw [slotMap_abortMotionPump]
    change u.slotMap = _
    rw [hframe]
  · rw [bridge_abortMotionPump]
    change u.bridge.slotMap = _
    rw [hframe]
  · intro k
    have hrow : u₁.row k = if k = slot then { u.row k with streamName := none } else u.row k := by
      simp only [row, u₁, HashMap.lookup_erase_eq]
      split <;> rfl
    rw [row_abortMotionPump, hrow, row_writeSlot hu]
    by_cases hk : k = slot
    · subst hk
      have hin : s.slots[k]? = some s.slots[k] := s.camera_row hs
      simp [Row.free, row, s₁, hin]
    · simp only [if_neg hk]
      rfl

end BridgeLoop

end MatterBridge.Bridge
