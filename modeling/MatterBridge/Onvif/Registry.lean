import MatterBridge.Core.Broadcast
import MatterBridge.Core.HashMap
import MatterBridge.Core.Run
import MatterBridge.Onvif.Types

/-!
# The camera registry and its event log

`addCamera` and `removeCamera` change the map and send on the broadcast channel
inside one write lock, so each is one step. Subscribers rebuild the map by
replaying the log; `Announce` says which events the log may continue with.
-/
namespace MatterBridge.Onvif

open MatterBridge.Core

inductive RegistryEvent where
  | added (camera : CameraDevice)
  | removed (id : String)
  | updated (camera : CameraDevice)
  deriving DecidableEq, Repr

/-- The camera an event is about. -/
def RegistryEvent.cameraId : RegistryEvent → String
  | .added camera => camera.id
  | .removed id => id
  | .updated camera => camera.id

/-- The record an event delivers. -/
def RegistryEvent.record? : RegistryEvent → Option CameraDevice
  | .added camera => some camera
  | .removed _ => none
  | .updated camera => some camera

structure CameraRegistry where
  cameras : HashMap String CameraDevice
  tx : Broadcast RegistryEvent

namespace CameraRegistry

def new (capacity : Nat) : CameraRegistry := ⟨∅, Broadcast.new capacity⟩

def addCamera (r : CameraRegistry) (camera : CameraDevice) : CameraRegistry :=
  if camera.id ∈ r.cameras then
    { cameras := r.cameras.insert camera.id camera, tx := r.tx.send (.updated camera) }
  else
    { cameras := r.cameras.insert camera.id camera, tx := r.tx.send (.added camera) }

def removeCamera (r : CameraRegistry) (id : String) : CameraRegistry :=
  if id ∈ r.cameras then
    { cameras := r.cameras.erase id, tx := r.tx.send (.removed id) }
  else r

end CameraRegistry

/-- The two mutating calls of the registry. -/
inductive RegistryOp where
  | addCamera (camera : CameraDevice)
  | removeCamera (id : String)
  deriving DecidableEq, Repr

def RegistryOp.cameraId : RegistryOp → String
  | .addCamera camera => camera.id
  | .removeCamera id => id

/-- The call an event reports. -/
def RegistryEvent.op : RegistryEvent → RegistryOp
  | .added camera => .addCamera camera
  | .removed id => .removeCamera id
  | .updated camera => .addCamera camera

@[simp] theorem RegistryEvent.cameraId_op (e : RegistryEvent) : e.op.cameraId = e.cameraId := by
  cases e <;> rfl

namespace CameraRegistry

def apply (r : CameraRegistry) : RegistryOp → CameraRegistry
  | .addCamera camera => r.addCamera camera
  | .removeCamera id => r.removeCamera id

def applyAll (r : CameraRegistry) (ops : List RegistryOp) : CameraRegistry := ops.foldl apply r

end CameraRegistry

/-! ## Replaying the log -/

/-- What a subscriber does to its own copy of the map. -/
def RegistryEvent.replay (m : HashMap String CameraDevice) :
    RegistryEvent → HashMap String CameraDevice
  | .added camera => m.insert camera.id camera
  | .updated camera => m.insert camera.id camera
  | .removed id => m.erase id

/-- The events that may follow a log whose replay is `m`. -/
def RegistryEvent.Follows (m : HashMap String CameraDevice) : RegistryEvent → Prop
  | .added camera => camera.id ∉ m
  | .updated camera => camera.id ∈ m
  | .removed id => id ∈ m

def Announce (m : HashMap String CameraDevice) (e : RegistryEvent)
    (m' : HashMap String CameraDevice) : Prop :=
  e.Follows m ∧ m' = e.replay m

namespace CameraRegistry

/-- One call sends the events that turn the old map into the new one. -/
theorem apply_log (r : CameraRegistry) (op : RegistryOp) :
    ∃ es, (r.apply op).tx.sent = r.tx.sent ++ es ∧ es.length ≤ 1 ∧
      (∀ e ∈ es, e.op = op) ∧ Run Announce r.cameras es (r.apply op).cameras := by
  cases op with
  | addCamera camera =>
    simp only [apply, addCamera]
    split
    · exact ⟨[.updated camera], rfl, le_rfl, by simp [RegistryEvent.op], Run.one ⟨‹_›, rfl⟩⟩
    · exact ⟨[.added camera], rfl, le_rfl, by simp [RegistryEvent.op], Run.one ⟨‹_›, rfl⟩⟩
  | removeCamera id =>
    simp only [apply, removeCamera]
    split
    · exact ⟨[.removed id], rfl, le_rfl, by simp [RegistryEvent.op], Run.one ⟨‹_›, rfl⟩⟩
    · exact ⟨[], by simp, by simp, by simp, Run.refl⟩

theorem capacity_apply (r : CameraRegistry) (op : RegistryOp) :
    (r.apply op).tx.capacity = r.tx.capacity := by
  cases op with
  | addCamera camera =>
    simp only [apply, addCamera]
    split <;> rfl
  | removeCamera id =>
    simp only [apply, removeCamera]
    split <;> rfl

theorem capacity_applyAll (r : CameraRegistry) (ops : List RegistryOp) :
    (r.applyAll ops).tx.capacity = r.tx.capacity := by
  induction ops generalizing r with
  | nil => rfl
  | cons op ops ih => exact (ih (r.apply op)).trans (r.capacity_apply op)

/-- A sequence of calls extends the log by a faithful replay. -/
theorem applyAll_log (r : CameraRegistry) (ops : List RegistryOp) :
    ∃ es, (r.applyAll ops).tx.sent = r.tx.sent ++ es ∧
      (∀ e ∈ es, e.op ∈ ops) ∧ Run Announce r.cameras es (r.applyAll ops).cameras := by
  induction ops generalizing r with
  | nil => exact ⟨[], by simp [applyAll], by simp, Run.refl⟩
  | cons op ops ih =>
    obtain ⟨es, hsent, _, hid, hrun⟩ := r.apply_log op
    obtain ⟨fs, hsent', hid', hrun'⟩ := ih (r.apply op)
    refine ⟨es ++ fs, ?_, ?_, hrun.append hrun'⟩
    · change ((r.apply op).applyAll ops).tx.sent = _
      rw [hsent', hsent, List.append_assoc]
    · intro e he
      rcases List.mem_append.mp he with he | he
      · rw [hid e he]
        exact List.mem_cons_self
      · exact List.mem_cons_of_mem _ (hid' e he)

/-- From an empty registry the whole log replays to the current map. -/
theorem new_log (capacity : Nat) (ops : List RegistryOp) :
    Run Announce ∅ ((new capacity).applyAll ops).tx.sent ((new capacity).applyAll ops).cameras := by
  obtain ⟨es, hsent, _, hrun⟩ := (new capacity).applyAll_log ops
  rw [hsent]
  exact hrun

/-- Adding a registered camera over and over sends one update each time. -/
theorem applyAll_updates (r : CameraRegistry) {camera : CameraDevice}
    (h : camera.id ∈ r.cameras) (n : Nat) :
    (r.applyAll (List.replicate n (.addCamera camera))).tx.sent =
        r.tx.sent ++ List.replicate n (.updated camera) ∧
      ∀ id, id ≠ camera.id →
        (r.applyAll (List.replicate n (.addCamera camera))).cameras.lookup id =
          r.cameras.lookup id := by
  induction n generalizing r with
  | zero => exact ⟨(List.append_nil _).symm, fun _ _ => rfl⟩
  | succ n ih =>
    have hadd : r.addCamera camera = ⟨r.cameras.insert camera.id camera,
        r.tx.send (.updated camera)⟩ := if_pos h
    obtain ⟨hsent, hlookup⟩ := ih ⟨r.cameras.insert camera.id camera, r.tx.send (.updated camera)⟩
      (Finmap.mem_insert.mpr (Or.inl rfl))
    rw [List.replicate_succ]
    change ((r.addCamera camera).applyAll _).tx.sent = _ ∧ ∀ id, _ →
      ((r.addCamera camera).applyAll _).cameras.lookup id = _
    rw [hadd]
    refine ⟨?_, fun id hid => ?_⟩
    · rw [hsent, Broadcast.sent_send, List.append_assoc, List.replicate_succ]
      rfl
    · rw [hlookup id hid]
      exact Finmap.lookup_insert_of_ne r.cameras hid

end CameraRegistry

/-- Replaying one event changes the record of its own camera only. -/
theorem RegistryEvent.lookup_replay_ne {m : HashMap String CameraDevice} {e : RegistryEvent}
    {id : String} (h : id ≠ e.cameraId) : (e.replay m).lookup id = m.lookup id := by
  cases e with
  | added camera => exact Finmap.lookup_insert_of_ne m h
  | updated camera => exact Finmap.lookup_insert_of_ne m h
  | removed _ => exact Finmap.lookup_erase_ne h

theorem RegistryEvent.mem_replay_ne {m : HashMap String CameraDevice} {e : RegistryEvent}
    {id : String} (h : id ≠ e.cameraId) : id ∈ e.replay m ↔ id ∈ m := by
  rw [← Finmap.lookup_isSome, ← Finmap.lookup_isSome, lookup_replay_ne h]

/-- The event's own camera ends with the record the event delivers. -/
theorem RegistryEvent.lookup_replay_self (e : RegistryEvent) (m : HashMap String CameraDevice) :
    (e.replay m).lookup e.cameraId = e.record? := by
  cases e with
  | added camera => exact Finmap.lookup_insert m
  | updated camera => exact Finmap.lookup_insert m
  | removed id => exact Finmap.lookup_erase id m

theorem RegistryEvent.id_of_record {e : RegistryEvent} {camera : CameraDevice}
    (h : e.record? = some camera) : camera.id = e.cameraId := by
  cases e with
  | added c =>
    cases h
    rfl
  | updated c =>
    cases h
    rfl
  | removed id => cases h

/-- Every id an announced map holds was announced. -/
theorem announced_of_mem {events : List RegistryEvent} {m : HashMap String CameraDevice}
    (h : Run Announce ∅ events m) {id : String} (hid : id ∈ m) :
    ∃ e ∈ events, e.cameraId = id := by
  refine h.history (fun events m => ∀ id ∈ m, ∃ e ∈ events, e.cameraId = id)
    (fun id hid => absurd hid Finmap.notMem_empty) ?_ id hid
  intro events m e _ ih hstep id hid
  obtain ⟨_, rfl⟩ := hstep
  by_cases he : id = e.cameraId
  · exact ⟨e, List.mem_append_right _ (List.mem_singleton_self e), he.symm⟩
  · obtain ⟨e', he', hid'⟩ := ih id ((RegistryEvent.mem_replay_ne he).mp hid)
    exact ⟨e', List.mem_append_left _ he', hid'⟩

/-- Each event of a log is about a camera that was added in it. -/
theorem added_of_announced {events : List RegistryEvent} {m : HashMap String CameraDevice}
    (h : Run Announce ∅ events m) {e : RegistryEvent} (he : e ∈ events) :
    ∃ camera, .added camera ∈ events ∧ camera.id = e.cameraId := by
  have hj : (∀ e ∈ events, ∃ camera, .added camera ∈ events ∧ camera.id = e.cameraId) := by
    refine (h.history (fun events m => Run Announce ∅ events m ∧
      ∀ e ∈ events, ∃ camera, .added camera ∈ events ∧ camera.id = e.cameraId)
      ⟨Run.refl, by simp⟩ ?_).2
    intro events m e m' h hstep
    obtain ⟨hrun, ih⟩ := h
    refine ⟨hrun.snoc hstep, fun e' he' => ?_⟩
    have hold : ∀ e' ∈ events, ∃ camera, .added camera ∈ events ++ [e] ∧
        camera.id = e'.cameraId := fun e' he' => by
      obtain ⟨camera, hc, hid⟩ := ih e' he'
      exact ⟨camera, List.mem_append_left _ hc, hid⟩
    rcases List.mem_append.mp he' with he' | he'
    · exact hold e' he'
    · obtain rfl := List.mem_singleton.mp he'
      -- Only an Added event may name a camera the log has not named yet.
      have hknown : e'.cameraId ∈ m → ∃ camera, .added camera ∈ events ++ [e'] ∧
          camera.id = e'.cameraId := fun hm => by
        obtain ⟨e₀, he₀, hid⟩ := announced_of_mem hrun hm
        rw [← hid]
        exact hold e₀ he₀
      cases e' with
      | added camera => exact ⟨camera, List.mem_append_right _ (List.mem_singleton_self _), rfl⟩
      | updated camera => exact hknown hstep.1
      | removed id => exact hknown hstep.1
  exact hj e he

end MatterBridge.Onvif
