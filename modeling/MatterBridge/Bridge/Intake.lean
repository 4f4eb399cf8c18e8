import MatterBridge.Onvif.MissProtocol

/-!
# From scans to the registry

The discovery task sends its events through a FIFO channel; the bridge loop
takes them one at a time and applies them to the registry. Scans and deliveries
interleave freely. `drained` is the registry once the channel is empty, so a
delivery never changes it and only a scan does.
-/
namespace MatterBridge.Bridge

open MatterBridge.Core MatterBridge.Onvif

/-- The bridge loop's handling of one discovery event. -/
def onDiscovery (r : CameraRegistry) : DiscoveryEvent → CameraRegistry
  | .cameraFound camera => r.addCamera camera
  | .cameraLost id => r.removeCamera id
  | .cameraUnreachable _ => r
  | .error _ => r

/-- How the registry events `es` report the discovery events `events`. -/
structure Relays (events : List DiscoveryEvent) (es : List RegistryEvent) : Prop where
  about : ∀ e ∈ es, ∃ d ∈ events, d.cameraId? = some e.cameraId
  records : ∀ e ∈ es, ∀ camera, e.record? = some camera → .cameraFound camera ∈ events
  removals : ∀ id, .removed id ∈ es → .cameraLost id ∈ events
  found : ∀ camera, .cameraFound camera ∈ events → ∃ e ∈ es, e.cameraId = camera.id

theorem Relays.append {a b : List DiscoveryEvent} {es fs : List RegistryEvent} (h : Relays a es)
    (h' : Relays b fs) : Relays (a ++ b) (es ++ fs) where
  about e he := by
    rcases List.mem_append.mp he with he | he
    · obtain ⟨d, hd, hid⟩ := h.about e he
      exact ⟨d, List.mem_append_left _ hd, hid⟩
    · obtain ⟨d, hd, hid⟩ := h'.about e he
      exact ⟨d, List.mem_append_right _ hd, hid⟩
  records e he camera hc := by
    rcases List.mem_append.mp he with he | he
    · exact List.mem_append_left _ (h.records e he camera hc)
    · exact List.mem_append_right _ (h'.records e he camera hc)
  removals id he := by
    rcases List.mem_append.mp he with he | he
    · exact List.mem_append_left _ (h.removals id he)
    · exact List.mem_append_right _ (h'.removals id he)
  found camera hc := by
    rcases List.mem_append.mp hc with hc | hc
    · obtain ⟨e, he, hid⟩ := h.found camera hc
      exact ⟨e, List.mem_append_left _ he, hid⟩
    · obtain ⟨e, he, hid⟩ := h'.found camera hc
      exact ⟨e, List.mem_append_right _ he, hid⟩

/-- Applying one event extends the registry log by a report of it that replays
the change of the map. -/
theorem onDiscovery_log (r : CameraRegistry) (e : DiscoveryEvent) :
    ∃ es, (onDiscovery r e).tx.sent = r.tx.sent ++ es ∧ Relays [e] es ∧
      Run Announce r.cameras es (onDiscovery r e).cameras := by
  cases e with
  | cameraFound camera =>
    simp only [onDiscovery, CameraRegistry.addCamera]
    split
    · refine ⟨[.updated camera], rfl, ⟨?_, ?_, ?_, ?_⟩, Run.one ⟨‹_›, rfl⟩⟩ <;>
        simp [DiscoveryEvent.cameraId?, RegistryEvent.cameraId, RegistryEvent.record?]
    · refine ⟨[.added camera], rfl, ⟨?_, ?_, ?_, ?_⟩, Run.one ⟨‹_›, rfl⟩⟩ <;>
        simp [DiscoveryEvent.cameraId?, RegistryEvent.cameraId, RegistryEvent.record?]
  | cameraLost id =>
    simp only [onDiscovery, CameraRegistry.removeCamera]
    split
    · refine ⟨[.removed id], rfl, ⟨?_, ?_, ?_, ?_⟩, Run.one ⟨‹_›, rfl⟩⟩ <;>
        simp [DiscoveryEvent.cameraId?, RegistryEvent.cameraId, RegistryEvent.record?]
    · exact ⟨[], by simp, ⟨by simp, by simp, by simp, by simp⟩, Run.refl⟩
  | cameraUnreachable id =>
    exact ⟨[], by simp [onDiscovery], ⟨by simp, by simp, by simp, by simp⟩, Run.refl⟩
  | error message =>
    exact ⟨[], by simp [onDiscovery], ⟨by simp, by simp, by simp, by simp⟩, Run.refl⟩

theorem onDiscoveries_log (r : CameraRegistry) (events : List DiscoveryEvent) :
    ∃ es, (events.foldl onDiscovery r).tx.sent = r.tx.sent ++ es ∧ Relays events es ∧
      Run Announce r.cameras es (events.foldl onDiscovery r).cameras := by
  induction events generalizing r with
  | nil => exact ⟨[], by simp, ⟨by simp, by simp, by simp, by simp⟩, Run.refl⟩
  | cons e events ih =>
    obtain ⟨es, hsent, hrel, hrun⟩ := onDiscovery_log r e
    obtain ⟨fs, hsent', hrel', hrun'⟩ := ih (onDiscovery r e)
    exact ⟨es ++ fs, by rw [List.foldl_cons, hsent', hsent, List.append_assoc],
      hrel.append hrel', hrun.append hrun'⟩

structure Intake where
  disc : Discovery
  /-- Events sent and not yet taken by the bridge loop, oldest first. -/
  discoveryRx : List DiscoveryEvent
  registry : CameraRegistry

namespace Intake

/-- `CameraRegistry::new(64)`, as `main` builds it, before the first scan. -/
def start : Intake := ⟨Discovery.empty, [], CameraRegistry.new 64⟩

inductive Label where
  | scan (scan : Scan)
  | discovery

inductive Step : Intake → Label → Intake → Prop
  | scan {s : Intake} {scan : Scan} {d : Discovery} : ScanStep s.disc scan d →
      Step s (.scan scan) { s with disc := d, discoveryRx := s.discoveryRx ++ scan.events }
  | discovery {s : Intake} {e : DiscoveryEvent} {rest : List DiscoveryEvent} :
      s.discoveryRx = e :: rest →
      Step s .discovery { s with discoveryRx := rest, registry := onDiscovery s.registry e }

/-- The registry once every event in the channel has been applied. -/
def drained (s : Intake) : CameraRegistry := s.discoveryRx.foldl onDiscovery s.registry

theorem drained_of_empty {s : Intake} (h : s.discoveryRx = []) : s.drained = s.registry := by
  rw [drained, h]
  rfl

theorem Step.drained_discovery {s t : Intake} (h : Step s .discovery t) :
    t.drained = s.drained := by
  cases h with
  | discovery he =>
    rw [drained, drained, he]
    rfl

theorem Step.drained_scan {s t : Intake} {scan : Scan} (h : Step s (.scan scan) t) :
    t.drained = scan.events.foldl onDiscovery s.drained := by
  cases h with
  | scan _ => simp only [drained, List.foldl_append]

/-- The registry log only grows, by events that replay the change of the map. -/
theorem Step.log {s t : Intake} {l : Label} (h : Step s l t) :
    ∃ es, t.registry.tx.sent = s.registry.tx.sent ++ es ∧
      Run Announce s.registry.cameras es t.registry.cameras := by
  cases h with
  | scan _ => exact ⟨[], by simp, Run.refl⟩
  | @discovery e _ _ =>
    obtain ⟨es, hsent, _, hrun⟩ := onDiscovery_log s.registry e
    exact ⟨es, hsent, hrun⟩

theorem announced_of_run {labels : List Label} {s : Intake} (h : Run Step start labels s) :
    Run Announce ∅ s.registry.tx.sent s.registry.cameras := by
  refine h.invariant (fun s => Run Announce ∅ s.registry.tx.sent s.registry.cameras) ?_ Run.refl
  intro t l u ht hstep
  obtain ⟨es, hsent, hrun⟩ := hstep.log
  rw [hsent]
  exact ht.append hrun

end Intake

/-! ## The registry record of one camera -/

/-- What an event does to the registry record of the camera it is about. -/
def recordEffect (record : Option CameraDevice) : DiscoveryEvent → Option CameraDevice
  | .cameraFound camera => some camera
  | .cameraLost _ => none
  | .cameraUnreachable _ => record
  | .error _ => record

theorem lookup_onDiscovery (r : CameraRegistry) (e : DiscoveryEvent) (id : String) :
    (onDiscovery r e).cameras.lookup id =
      if e.cameraId? = some id then recordEffect (r.cameras.lookup id) e
      else r.cameras.lookup id := by
  cases e with
  | cameraFound camera =>
    have hc : (r.addCamera camera).cameras = r.cameras.insert camera.id camera := by
      rw [CameraRegistry.addCamera]
      split <;> rfl
    simp only [onDiscovery, hc, HashMap.lookup_insert_eq, DiscoveryEvent.cameraId?, recordEffect,
      Option.some.injEq, eq_comm]
  | cameraLost k =>
    have hc : (r.removeCamera k).cameras = r.cameras.erase k := by
      rw [CameraRegistry.removeCamera]
      split
      · rfl
      · exact (HashMap.erase_of_notMem ‹_›).symm
    simp only [onDiscovery, hc, HashMap.lookup_erase_eq, DiscoveryEvent.cameraId?, recordEffect,
      Option.some.injEq, eq_comm]
  | cameraUnreachable k => simp [onDiscovery, recordEffect]
  | error m => simp [onDiscovery, DiscoveryEvent.cameraId?]

theorem lookup_onDiscoveries (r : CameraRegistry) (events : List DiscoveryEvent) (id : String) :
    (events.foldl onDiscovery r).cameras.lookup id =
      (eventsFor id events).foldl recordEffect (r.cameras.lookup id) := by
  induction events generalizing r with
  | nil => rfl
  | cons e es ih =>
    rw [List.foldl_cons, ih, lookup_onDiscovery, eventsFor_cons]
    split <;> rfl

/-- The scans among the labels of a run. -/
def Intake.scansOf (labels : List Intake.Label) : List Scan :=
  labels.filterMap fun
    | .scan scan => some scan
    | .discovery => none

theorem Intake.scansOf_append (a b : List Intake.Label) :
    Intake.scansOf (a ++ b) = Intake.scansOf a ++ Intake.scansOf b := List.filterMap_append

/-- The scan history explains the maps, and the drained registry has the same ids. -/
structure Covers (hist : List Scan) (s : Intake) : Prop where
  tracks : ∀ id, Tracks id hist s.disc
  ids : ∀ id, (s.drained.cameras.lookup id).isSome = (s.disc.track id).record.isSome

theorem covers_start : Covers [] Intake.start where
  tracks := tracks_empty
  ids id := by
    simp [Intake.start, Intake.drained, CameraRegistry.new, Discovery.empty, Discovery.track]

theorem Covers.step {hist : List Scan} {s t : Intake} {l : Intake.Label} (h : Covers hist s)
    (hs : Intake.Step s l t) : Covers (hist ++ Intake.scansOf [l]) t := by
  cases l with
  | discovery =>
    have hd := hs.drained_discovery
    rw [show Intake.scansOf [.discovery] = [] from rfl, List.append_nil]
    cases hs with
    | discovery he => exact ⟨h.tracks, fun id => by rw [hd]; exact h.ids id⟩
  | scan scan =>
    have hd := hs.drained_scan
    rw [show Intake.scansOf [.scan scan] = [scan] from rfl]
    cases hs with
    | scan hscan =>
      refine ⟨fun id => (h.tracks id).step hscan, fun id => ?_⟩
      rw [hd, lookup_onDiscoveries]
      have hid := h.ids id
      rcases (h.tracks id).scan_cases hscan with ⟨first, rest, _, ht, he⟩ | ⟨_, _, ht, he⟩ |
        ⟨_, _, _, ht, he⟩ | ⟨_, hp, _, ht, he⟩
      · rw [he, ht]
        split
        · rw [List.foldl_nil, hid]
          assumption
        · rfl
      · rw [he, ht]
        exact hid
      · rw [he, ht]
        rfl
      · rw [he, ht]
        exact hid

theorem covers_of_run {labels : List Intake.Label} {s : Intake}
    (h : Run Intake.Step Intake.start labels s) : Covers (Intake.scansOf labels) s :=
  h.history (fun labels s => Covers (Intake.scansOf labels) s) covers_start
    (fun ls t l u hc hs => by
      have := hc.step hs
      rwa [← Intake.scansOf_append] at this)

/-- Draining the channel extends the log by a report of the queued events. -/
theorem Intake.drained_log (s : Intake) :
    ∃ es, s.drained.tx.sent = s.registry.tx.sent ++ es ∧ Relays s.discoveryRx es ∧
      Run Announce s.registry.cameras es s.drained.cameras :=
  onDiscoveries_log s.registry s.discoveryRx

theorem Intake.drained_announced {labels : List Intake.Label} {s : Intake}
    (h : Run Intake.Step Intake.start labels s) :
    Run Announce ∅ s.drained.tx.sent s.drained.cameras := by
  obtain ⟨es, hsent, _, hrun⟩ := s.drained_log
  rw [hsent]
  exact (Intake.announced_of_run h).append hrun

/-- Every record on its way through the registry was obtained by some scan. -/
theorem Intake.records_of_run {labels : List Intake.Label} {s : Intake}
    (h : Run Intake.Step Intake.start labels s) :
    ∀ e ∈ s.drained.tx.sent, ∀ camera, e.record? = some camera →
      ∃ scan ∈ Intake.scansOf labels, .ok camera ∈ scan.results := by
  refine h.history (fun labels s => ∀ e ∈ s.drained.tx.sent, ∀ camera, e.record? = some camera →
    ∃ scan ∈ Intake.scansOf labels, .ok camera ∈ scan.results) (by simp [start, drained,
      CameraRegistry.new]) ?_
  intro labels t l u ih hstep e he camera hc
  have hold : e ∈ t.drained.tx.sent → ∃ scan ∈ Intake.scansOf (labels ++ [l]),
      .ok camera ∈ scan.results := fun he => by
    obtain ⟨scan, hscan, hok⟩ := ih e he camera hc
    exact ⟨scan, by rw [scansOf_append]; exact List.mem_append_left _ hscan, hok⟩
  cases l with
  | discovery =>
    rw [hstep.drained_discovery] at he
    exact hold he
  | scan scan =>
    have hd := hstep.drained_scan
    obtain ⟨es, hsent, hrel, _⟩ := onDiscoveries_log t.drained scan.events
    rw [hd, hsent] at he
    rcases List.mem_append.mp he with he | he
    · exact hold he
    · refine ⟨scan, ?_, ?_⟩
      · rw [scansOf_append]
        exact List.mem_append_right _ (List.mem_singleton_self scan)
      · cases hstep with
        | scan hscan => exact hscan.ok_of_cameraFound (hrel.records e he camera hc)

/-- Every registry event is about a camera some scan obtained. -/
theorem Intake.obtained_of_run {labels : List Intake.Label} {s : Intake}
    (h : Run Intake.Step Intake.start labels s) {e : RegistryEvent} (he : e ∈ s.drained.tx.sent) :
    ∃ scan ∈ Intake.scansOf labels, ∃ camera, .ok camera ∈ scan.results ∧
      camera.id = e.cameraId := by
  obtain ⟨camera, hadded, hid⟩ := added_of_announced (Intake.drained_announced h) he
  obtain ⟨scan, hscan, hok⟩ := Intake.records_of_run h _ hadded camera rfl
  exact ⟨scan, hscan, camera, hok, hid⟩

end MatterBridge.Bridge
