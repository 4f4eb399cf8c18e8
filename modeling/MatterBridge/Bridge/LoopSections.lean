import MatterBridge.Core.Sections
import MatterBridge.Bridge.DataVersion
import MatterBridge.Bridge.Isolation

/-!
# The event loop at lock granularity

The loop handles an event on its own thread under several short locks, while the Matter
thread reads attributes and resolves stream names in between. Each handler is cut here
where the source takes or releases a lock, and whatever a controller can then see is
stated over every interleaving.
-/
namespace MatterBridge.Bridge

open MatterBridge.Core MatterBridge.Onvif MatterBridge.Slots
open BridgedHandler (AttributeId AttributeValue)

/-- What the bridge thread does between two points where others may read. -/
inductive LoopSection where
  | assignSlot (camera : CameraDevice)
  | bindSlot (id : String) (slot : Nat)
  | bindStreamName (id : String) (slot : Nat)
  | populateSlot (slot : Nat) (camera : CameraDevice)
  | seedStreams (slot : Nat) (camera : CameraDevice)
  | startPump (slot : Nat) (camera : CameraDevice)
  | unbindSlot (id : String)
  | clearSlot (slot : Nat)
  | unbindStreamName (slot : Nat)
  | abortPump (slot : Nat)

namespace LoopSection

variable [UnicodeTables]

def run (cfg : LoopConfig) (s : BridgeLoop) : LoopSection → Option BridgeLoop
  | .assignSlot camera =>
    some { s with slotMap := (s.slotMap.assign camera.id camera.supportsMotion).slots }
  | .bindSlot id slot =>
    some { s with bridge := { s.bridge with slotMap := s.bridge.slotMap.insert id slot } }
  | .bindStreamName id slot =>
    some { s with bridge := { s.bridge with
      streamNames := s.bridge.streamNames.insert slot (sanitizeStreamName id) } }
  | .populateSlot slot camera =>
    s.writeSlot slot fun c => populateCameraSlot c camera (cfg.friendlyName camera)
  | .seedStreams slot camera => some (s.seedAvStreams slot camera)
  | .startPump slot camera => some (s.startMotionPump cfg slot camera)
  | .unbindSlot id =>
    some { s with bridge := { s.bridge with slotMap := s.bridge.slotMap.erase id } }
  | .clearSlot slot => s.writeSlot slot fun _ => .default
  | .unbindStreamName slot =>
    some { s with bridge := { s.bridge with streamNames := s.bridge.streamNames.erase slot } }
  | .abortPump slot => some (s.abortMotionPump slot)

end LoopSection

/-- The sections of a handler. An Updated and a Removed event look their slot up first. -/
def loopPlan (s : BridgeLoop) : RegistryEvent → List LoopSection
  | .added camera =>
    match (s.slotMap.assign camera.id camera.supportsMotion).slot with
    | none => [.assignSlot camera]
    | some slot => [.assignSlot camera, .bindSlot camera.id slot, .bindStreamName camera.id slot,
        .populateSlot slot camera, .seedStreams slot camera, .startPump slot camera]
  | .updated camera =>
    match s.bridge.slotMap.lookup camera.id with
    | none => []
    | some slot => [.populateSlot slot camera]
  | .removed id =>
    match s.bridge.slotMap.lookup id with
    | none => []
    | some slot => [.unbindSlot id, .clearSlot slot, .unbindStreamName slot, .abortPump slot]

def loopProgram [UnicodeTables] (cfg : LoopConfig) :
    Program BridgeLoop LoopSection RegistryEvent where
  plan := loopPlan
  run := LoopSection.run cfg

/-- One look of the Matter thread at the shared tables. -/
inductive Glance where
  | read (slot : Nat) (attr : AttributeId) (value : AttributeValue)
  | offer (hooks : BridgeWebRtcHooks) (exchangeSdp : ExchangeSdp) (sdp : String)
      (outcome : Except WebRtcError String)

namespace Glance

/-- An attribute is read under one lock, and so is the stream name of an offer. -/
def Sees (s : BridgeLoop) : Glance → Prop
  | .read slot attr value =>
    ∃ h : slot < maxCameras, value = BridgedHandler.read s.slots[slot] attr
  | .offer hooks exchangeSdp sdp outcome =>
    outcome = hooks.forwardOffer (some s.bridge.streamNames) exchangeSdp sdp

end Glance

section

variable [UnicodeTables] {cfg : LoopConfig}

/-- The sections of an event, run in one go, are the handler. -/
theorem job_loopProgram (cfg : LoopConfig) (s : BridgeLoop) (e : RegistryEvent) :
    (loopProgram cfg).job s e = s.handleEvent cfg e := by
  cases e with
  | added camera =>
    simp only [Program.job, Program.runAll, loopProgram, loopPlan, BridgeLoop.handleEvent,
      BridgeLoop.onAdded]
    cases (s.slotMap.assign camera.id camera.supportsMotion).slot with
    | none => rfl
    | some slot => rfl
  | updated camera =>
    simp only [Program.job, Program.runAll, loopProgram, loopPlan, BridgeLoop.handleEvent,
      BridgeLoop.onUpdated]
    cases s.bridge.slotMap.lookup camera.id with
    | none => rfl
    | some slot => exact bind_pure _
  | removed id =>
    simp only [Program.job, Program.runAll, loopProgram, loopPlan, BridgeLoop.handleEvent,
      BridgeLoop.onRemoved]
    cases s.bridge.slotMap.lookup id with
    | none => rfl
    | some slot => rfl

theorem foldlM_job_loopProgram (cfg : LoopConfig) (s : BridgeLoop) (events : List RegistryEvent) :
    events.foldlM (loopProgram cfg).job s = s.handleEvents cfg events := by
  rw [BridgeLoop.handleEvents, funext fun s => funext (job_loopProgram cfg s)]

/-! ## What a controller sees -/

/-- Holds between any two sections: a slot that shows a camera carries this camera's stream
name, and no slot carries a name but that of the camera it is allocated to. -/
structure Serving (s : BridgeLoop) : Prop where
  slots : BridgeSlots s.slotMap
  names : ∀ k name, s.bridge.streamNames.lookup k = some name →
    ∃ id, s.slotMap.map.lookup id = some k ∧ name = sanitizeStreamName id
  shown : ∀ k (h : k < maxCameras), s.slots[k] ≠ .default →
    s.slotMap.map.lookup s.slots[k].uniqueId = some k ∧
      s.bridge.streamNames.lookup k = some (sanitizeStreamName s.slots[k].uniqueId)

namespace Serving

omit [UnicodeTables] in
theorem getElem_writeSlot {s t : BridgeLoop} {slot : Nat} {f : CameraSlot → CameraSlot}
    (h : s.writeSlot slot f = some t) {k : Nat} (hk : k < maxCameras) :
    t.slots[k] = if k = slot then f s.slots[k] else s.slots[k] := by
  have hrow := congrArg BridgeLoop.Row.camera (BridgeLoop.row_writeSlot h k)
  rw [t.camera_row hk] at hrow
  split at hrow
  · rename_i he
    rw [if_pos he]
    rw [s.camera_row hk] at hrow
    exact Option.some.inj hrow
  · rename_i he
    rw [if_neg he]
    rw [s.camera_row hk] at hrow
    exact Option.some.inj hrow

theorem assignSlot {s : BridgeLoop} (h : Serving s) (camera : CameraDevice) :
    Serving { s with slotMap := (s.slotMap.assign camera.id camera.supportsMotion).slots } where
  slots := h.slots.assign camera.id camera.supportsMotion
  names k name hk := by
    obtain ⟨id, hid, hname⟩ := h.names k name hk
    exact ⟨id, SlotMap.lookup_assign hid, hname⟩
  shown k hk hne := by
    obtain ⟨hid, hname⟩ := h.shown k hk hne
    exact ⟨SlotMap.lookup_assign hid, hname⟩

/-- The stream name is entered for the camera the slot is allocated to. -/
theorem bindStreamName {s : BridgeLoop} (h : Serving s) {id : String} {slot : Nat}
    (hid : s.slotMap.map.lookup id = some slot) :
    Serving { s with bridge := { s.bridge with
      streamNames := s.bridge.streamNames.insert slot (sanitizeStreamName id) } } where
  slots := h.slots
  names k name hk := by
    rw [HashMap.lookup_insert_eq] at hk
    split at hk
    · rename_i he
      rw [he]
      exact ⟨id, hid, (Option.some.inj hk).symm⟩
    · exact h.names k name hk
  shown k hk hne := by
    obtain ⟨hown, hname⟩ := h.shown k hk hne
    refine ⟨hown, ?_⟩
    show Finmap.lookup k _ = _
    rw [HashMap.lookup_insert_eq]
    split
    · rename_i he
      subst he
      rw [h.slots.exclusive _ id k hown hid]
    · exact hname

theorem populateSlot {s t : BridgeLoop} (h : Serving s) {camera : CameraDevice} {slot : Nat}
    (hid : s.slotMap.map.lookup camera.id = some slot)
    (hname : s.bridge.streamNames.lookup slot = some (sanitizeStreamName camera.id))
    {friendlyName : Option String}
    (ht : s.writeSlot slot (fun c => populateCameraSlot c camera friendlyName) = some t) :
    Serving t := by
  have hframe := BridgeLoop.writeSlot_frame ht
  have hslots : t.slotMap = s.slotMap := by rw [hframe]
  have hbridge : t.bridge = s.bridge := by rw [hframe]
  refine ⟨by rw [hslots]; exact h.slots, by rw [hslots, hbridge]; exact h.names, ?_⟩
  intro k hk hne
  have hget := getElem_writeSlot ht hk
  by_cases he : k = slot
  · subst he
    rw [if_pos rfl] at hget
    rw [hget, hslots, hbridge]
    exact ⟨hid, hname⟩
  · rw [if_neg he] at hget
    rw [hget] at hne ⊢
    rw [hslots, hbridge]
    exact h.shown k hk hne

theorem clearSlot {s t : BridgeLoop} (h : Serving s) {slot : Nat}
    (ht : s.writeSlot slot (fun _ => .default) = some t) : Serving t := by
  have hframe := BridgeLoop.writeSlot_frame ht
  have hslots : t.slotMap = s.slotMap := by rw [hframe]
  have hbridge : t.bridge = s.bridge := by rw [hframe]
  refine ⟨by rw [hslots]; exact h.slots, by rw [hslots, hbridge]; exact h.names, ?_⟩
  intro k hk hne
  have hget := getElem_writeSlot ht hk
  by_cases he : k = slot
  · rw [if_pos he] at hget
    exact absurd hget hne
  · rw [if_neg he] at hget
    rw [hget] at hne ⊢
    rw [hslots, hbridge]
    exact h.shown k hk hne

/-- The name goes after the slot has been cleared. -/
theorem unbindStreamName {s : BridgeLoop} (h : Serving s) {slot : Nat}
    (hclear : ∀ hk : slot < maxCameras, s.slots[slot] = .default) :
    Serving { s with bridge := { s.bridge with
      streamNames := s.bridge.streamNames.erase slot } } where
  slots := h.slots
  names k name hk := by
    rw [HashMap.lookup_erase_eq] at hk
    split at hk
    · cases hk
    · exact h.names k name hk
  shown k hk hne := by
    obtain ⟨hown, hname⟩ := h.shown k hk hne
    refine ⟨hown, ?_⟩
    show Finmap.lookup k _ = _
    rw [HashMap.lookup_erase_eq, if_neg ?_]
    · exact hname
    · rintro rfl
      exact hne (hclear hk)

theorem start {m : SlotMap} (hm : BridgeSlots m) : Serving (BridgeLoop.start m) where
  slots := hm
  names k name hk := by simp [BridgeLoop.start] at hk
  shown k hk hne := by simp [BridgeLoop.start] at hne

/-- The pump and seed tables are no business of `Serving`. -/
theorem frame {s t : BridgeLoop} (h : Serving s) (hslots : t.slotMap = s.slotMap)
    (hbridge : t.bridge = s.bridge) (hcams : t.slots = s.slots) : Serving t := by
  refine ⟨by rw [hslots]; exact h.slots, by rw [hslots, hbridge]; exact h.names, ?_⟩
  intro k hk hne
  have hget : t.slots[k] = s.slots[k] := by simp only [hcams]
  rw [hget] at hne ⊢
  rw [hslots, hbridge]
  exact h.shown k hk hne

theorem seedStreams {s : BridgeLoop} (h : Serving s) (slot : Nat) (camera : CameraDevice) :
    Serving (s.seedAvStreams slot camera) := by
  refine h.frame (BridgeLoop.slotMap_seedAvStreams ..) (BridgeLoop.bridge_seedAvStreams ..) ?_
  rw [BridgeLoop.seedAvStreams]
  split <;> rfl

theorem startPump {s : BridgeLoop} (h : Serving s) (cfg : LoopConfig) (slot : Nat)
    (camera : CameraDevice) :
    Serving (s.startMotionPump cfg slot camera) := by
  refine h.frame (BridgeLoop.slotMap_startMotionPump ..) (BridgeLoop.bridge_startMotionPump ..) ?_
  rw [BridgeLoop.startMotionPump]
  split <;> rfl

theorem abortPump {s : BridgeLoop} (h : Serving s) (slot : Nat) :
    Serving (s.abortMotionPump slot) := by
  refine h.frame (BridgeLoop.slotMap_abortMotionPump ..) (BridgeLoop.bridge_abortMotionPump ..) ?_
  rw [BridgeLoop.abortMotionPump]
  split <;> rfl

/-- An Added event that gets a slot enters the name before the slot shows the camera. -/
theorem along_bind {s : BridgeLoop} (h : Serving s) {camera : CameraDevice} {slot : Nat}
    (hslot : (s.slotMap.assign camera.id camera.supportsMotion).slot = some slot) :
    (loopProgram cfg).Along Serving (fun _ => True) [.assignSlot camera,
      .bindSlot camera.id slot, .bindStreamName camera.id slot, .populateSlot slot camera,
      .seedStreams slot camera, .startPump slot camera] s := by
  have hid := SlotMap.lookup_of_slot hslot
  let s₁ : BridgeLoop :=
    { s with slotMap := (s.slotMap.assign camera.id camera.supportsMotion).slots }
  have h₁ : Serving s₁ := h.assignSlot camera
  have hlt : slot < maxCameras := h₁.slots.lt hid
  let s₂ : BridgeLoop :=
    { s₁ with bridge := { s₁.bridge with slotMap := s₁.bridge.slotMap.insert camera.id slot } }
  have h₂ : Serving s₂ := ⟨h₁.slots, h₁.names, h₁.shown⟩
  let s₃ : BridgeLoop := { s₂ with bridge := { s₂.bridge with
    streamNames := s₂.bridge.streamNames.insert slot (sanitizeStreamName camera.id) } }
  have h₃ : Serving s₃ := h₂.bindStreamName hid
  have hname : s₃.bridge.streamNames.lookup slot = some (sanitizeStreamName camera.id) :=
    Finmap.lookup_insert _
  obtain ⟨s₄, ht⟩ := s₃.writeSlot_of_lt hlt
    fun c => populateCameraSlot c camera (cfg.friendlyName camera)
  have h₄ : Serving s₄ := h₃.populateSlot hid hname ht
  have h₅ := h₄.seedStreams slot camera
  have h₆ := h₅.startPump cfg slot camera
  exact .cons h rfl (.cons h₁ rfl (.cons h₂ rfl (.cons h₃ ht (.cons h₄ rfl (.cons h₅ rfl
    (.nil h₆ trivial))))))

/-- A Removed event clears the slot before its name goes. -/
theorem along_removed {s : BridgeLoop} (h : Serving s) {id : String} {slot : Nat}
    (hslot : slot < maxCameras) :
    (loopProgram cfg).Along Serving (fun _ => True) [.unbindSlot id, .clearSlot slot,
      .unbindStreamName slot, .abortPump slot] s := by
  let s₁ : BridgeLoop :=
    { s with bridge := { s.bridge with slotMap := s.bridge.slotMap.erase id } }
  have h₁ : Serving s₁ := ⟨h.slots, h.names, h.shown⟩
  obtain ⟨s₂, ht⟩ := s₁.writeSlot_of_lt hslot fun _ => .default
  have h₂ : Serving s₂ := h₁.clearSlot ht
  have hcleared : s₂.slots[slot] = .default := by
    rw [getElem_writeSlot ht hslot, if_pos rfl]
  have h₃ := h₂.unbindStreamName fun _ : slot < maxCameras => hcleared
  have h₄ := h₃.abortPump slot
  exact .cons h rfl (.cons h₁ ht (.cons h₂ rfl (.cons h₃ rfl (.nil h₄ trivial))))

theorem along {s : BridgeLoop} (h : Serving s) (hn : LoopNames Set.univ s) (e : RegistryEvent) :
    (loopProgram cfg).Along Serving (LoopNames Set.univ) (loopPlan s e) s := by
  obtain ⟨t, ht, hnames⟩ := hn.step cfg (Set.mem_univ e.cameraId)
  rw [← job_loopProgram] at ht
  refine Program.Along.ends ?_ ht hnames
  cases e with
  | added camera =>
    cases hslot : (s.slotMap.assign camera.id camera.supportsMotion).slot with
    | none =>
      rw [loopPlan, hslot]
      exact .cons h rfl (.nil (h.assignSlot camera) trivial)
    | some slot =>
      rw [loopPlan, hslot]
      exact h.along_bind hslot
  | updated camera =>
    cases hl : s.bridge.slotMap.lookup camera.id with
    | none =>
      rw [loopPlan, hl]
      exact .nil h trivial
    | some slot =>
      rw [loopPlan, hl]
      obtain ⟨_, hid, hname⟩ := hn.bound camera.id slot hl
      obtain ⟨u, hu⟩ := s.writeSlot_of_lt (h.slots.lt hid)
        fun c => populateCameraSlot c camera (cfg.friendlyName camera)
      exact .cons h hu (.nil (h.populateSlot hid hname hu) trivial)
  | removed id =>
    cases hl : s.bridge.slotMap.lookup id with
    | none =>
      rw [loopPlan, hl]
      exact .nil h trivial
    | some slot =>
      rw [loopPlan, hl]
      obtain ⟨_, hid, _⟩ := hn.bound id slot hl
      exact h.along_removed (h.slots.lt hid)

end Serving

/-! ## Main results -/

section

variable {m : SlotMap} {labels : List (Thread.Label RegistryEvent LoopSection Glance)}
  {t : Thread BridgeLoop LoopSection}

theorem serving_of_run (hm : BridgeSlots m)
    (h : Run (Thread.Step (loopProgram cfg) Glance.Sees) ⟨BridgeLoop.start m, []⟩ labels t) :
    (loopProgram cfg).Along Serving (LoopNames Set.univ) t.due t.shared :=
  Thread.along_of_run (fun _ e hP hI => hP.along hI e) (Serving.start hm) (loopNames_start hm) h

/-- The bridge after the first camera is shown and before its stream is seeded. -/
def unseeded : BridgeLoop :=
  { BridgeLoop.start ⟨(∅ : HashMap String Nat).insert "SN-1" 7, 8, 7⟩ with
    bridge := ⟨(∅ : HashMap String Nat).insert "SN-1" 7, (∅ : HashMap Nat String).insert 7 "SN-1"⟩
    slots := (Vector.replicate maxCameras .default).setIfInBounds 7
      (populateCameraSlot .default (.bare "SN-1") none) }

omit [UnicodeTables] in
theorem run_unseeded :
    letI := asciiTables
    Run (Thread.Step (loopProgram ⟨∅, "admin", "pass"⟩) Glance.Sees)
      ⟨BridgeLoop.start ⟨∅, 8, 7⟩, []⟩
      [.job (.added (.bare "SN-1")), .atom (.assignSlot (.bare "SN-1")),
        .atom (.bindSlot "SN-1" 7), .atom (.bindStreamName "SN-1" 7),
        .atom (.populateSlot 7 (.bare "SN-1"))]
      ⟨unseeded, [.seedStreams 7 (.bare "SN-1"), .startPump 7 (.bare "SN-1")]⟩ := by
  let _ := asciiTables
  have hname : sanitizeStreamName "SN-1" = "SN-1" := by decide
  refine Run.cons .job (Run.cons (.atom rfl) (Run.cons (.atom rfl) (Run.cons (.atom rfl)
    (Run.one (.atom ?_)))))
  rw [show (CameraDevice.bare "SN-1").id = "SN-1" from rfl, hname]
  rfl

/-- **The locks change nothing in the end.** From any point between two sections the handler
at work can finish, and the tables are then those of handlers that run in one go. -/
theorem loop_sections_refine {s : BridgeLoop} (hs : s.InBounds)
    {labels : List (Thread.Label RegistryEvent LoopSection Glance)}
    {t : Thread BridgeLoop LoopSection}
    (h : Run (Thread.Step (loopProgram cfg) Glance.Sees) ⟨s, []⟩ labels t) :
    ∃ u, s.handleEvents cfg (Thread.jobs labels) = some u ∧
      Run (Thread.Step (loopProgram cfg) Glance.Sees) t (t.due.map .atom) ⟨u, []⟩ := by
  obtain ⟨u, hu, _⟩ := hs.run cfg (Thread.jobs labels)
  have hdue := Thread.runAll_due h
  rw [foldlM_job_loopProgram, hu] at hdue
  exact ⟨u, hu, Thread.run_due hdue⟩

omit [UnicodeTables] in
theorem loop_sections_refine_unseeded :
    letI := asciiTables
    ∃ u, (BridgeLoop.start ⟨∅, 8, 7⟩).handleEvents ⟨∅, "admin", "pass"⟩
        [.added (.bare "SN-1")] = some u ∧
      Run (Thread.Step (loopProgram ⟨∅, "admin", "pass"⟩) Glance.Sees)
        ⟨unseeded, [.seedStreams 7 (.bare "SN-1"), .startPump 7 (.bare "SN-1")]⟩
        [.atom (.seedStreams 7 (.bare "SN-1")), .atom (.startPump 7 (.bare "SN-1"))] ⟨u, []⟩ := by
  let _ := asciiTables
  have hbounds : (BridgeLoop.start ⟨∅, 8, 7⟩).InBounds :=
    ⟨rfl, rfl, bridgeSlots_empty.inRange, fun id slot h => by simp [BridgeLoop.start] at h⟩
  exact loop_sections_refine hbounds run_unseeded

/-- **A slot that shows a camera is served.** Between any two locks of the bridge thread,
an offer on a slot that reads as reachable is forwarded to the stream of the camera whose
unique id the slot shows, whatever events the loop received. -/
theorem shown_slot_served (hm : BridgeSlots m)
    (h : Run (Thread.Step (loopProgram cfg) Glance.Sees) ⟨BridgeLoop.start m, []⟩ labels t)
    {k : Nat} (hk : k < maxCameras)
    (hreach : BridgedHandler.read t.shared.slots[k] .reachable = .bool true)
    {hooks : BridgeWebRtcHooks} (hslot : hooks.slot = k) (exchangeSdp : ExchangeSdp)
    (sdp : String) :
    hooks.forwardOffer (some t.shared.bridge.streamNames) exchangeSdp sdp =
      (exchangeSdp (sanitizeStreamName t.shared.slots[k].uniqueId) sdp).mapError
        fun _ => .failure := by
  have hserving := (serving_of_run hm h).here
  have hne : t.shared.slots[k] ≠ .default := by
    intro hdefault
    rw [hdefault] at hreach
    cases hreach
  have hname := (hserving.shown k hk hne).2
  rw [BridgeWebRtcHooks.forwardOffer, BridgeWebRtcHooks.lookupStreamName, Option.bind_some, hslot,
    hname]

omit [UnicodeTables] in
theorem shown_slot_served_unseeded :
    letI := asciiTables
    (BridgeWebRtcHooks.new 7).forwardOffer (some unseeded.bridge.streamNames)
      (fun name _ => .ok name) "offer" = .ok "SN-1" := by
  let _ := asciiTables
  have hreach : BridgedHandler.read unseeded.slots[7] .reachable = .bool true := by decide
  have hslot : (BridgeWebRtcHooks.new 7).slot = 7 := rfl
  exact shown_slot_served bridgeSlots_empty run_unseeded (by decide) hreach hslot _ _

end

end

end MatterBridge.Bridge
