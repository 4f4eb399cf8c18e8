import MatterBridge.Bridge.EventSlot
import MatterBridge.Slots.PrettyJson

/-!
# Seeding the preallocated video streams

The upstream cluster cannot remove a preallocated stream, so the loop seeds a slot at
most once: at the first binding of the run, whether or not that camera's first
profile has a video encoder. What is sent for a slot is thus a function of the first
camera bound to it.
-/
namespace MatterBridge.Bridge

open MatterBridge.Core MatterBridge.Onvif MatterBridge.Slots

/-- The first profile has a video encoder. -/
def hasVideoEncoder (camera : CameraDevice) : Bool :=
  (camera.profiles.head?.bind MediaProfile.videoEncoder).isSome

theorem isSome_videoStreamOf (camera : CameraDevice) :
    (videoStreamOf camera).isSome = hasVideoEncoder camera := by
  unfold videoStreamOf hasVideoEncoder
  cases camera.profiles.head? with
  | none => rfl
  | some profile => cases hv : profile.videoEncoder <;> simp [hv]

/-- The seeds sent for `slot`. -/
def seedsFor (slot : Nat) (seedTx : List (Nat × VideoStream)) : List VideoStream :=
  seedTx.filterMap fun seed => if seed.1 = slot then some seed.2 else none

namespace BridgeLoop

/-! ## The cameras bound to a slot -/

/-- The camera that `e` binds to `slot`, given the allocator before it. -/
def boundCamera? (slot : Nat) (m : SlotMap) : RegistryEvent → Option CameraDevice
  | .added camera =>
    if (m.assign camera.id camera.supportsMotion).slot = some slot then some camera else none
  | .updated _ => none
  | .removed _ => none

/-- The cameras bound to `slot`, oldest binding first. -/
def boundCameras (slot : Nat) : SlotMap → List RegistryEvent → List CameraDevice
  | _, [] => []
  | m, e :: events => (boundCamera? slot m e).toList ++ boundCameras slot (reassign m e) events

theorem boundCameras_snoc (slot : Nat) (m : SlotMap) (events : List RegistryEvent)
    (e : RegistryEvent) : boundCameras slot m (events ++ [e]) =
      boundCameras slot m events ++ (boundCamera? slot (events.foldl reassign m) e).toList := by
  induction events generalizing m with
  | nil => simp [boundCameras]
  | cons e' events ih =>
    show _ ++ boundCameras slot (reassign m e') (events ++ [e]) = _
    rw [ih, ← List.append_assoc]
    rfl

/-- The allocator never puts a second camera on a slot. -/
theorem shared_reassign {m : SlotMap} {e : RegistryEvent} {a b : String} {slot : Nat}
    (hne : a ≠ b) (ha : (reassign m e).map.lookup a = some slot)
    (hb : (reassign m e).map.lookup b = some slot) :
    m.map.lookup a = some slot ∧ m.map.lookup b = some slot := by
  cases e with
  | added camera =>
    simp only [reassign] at ha hb
    rcases m.assign_cases camera.id camera.supportsMotion with ⟨_, _, he⟩ | ⟨_, he⟩ |
      ⟨new, _, hfree, _, he⟩
    · rw [he] at ha hb
      exact ⟨ha, hb⟩
    · rw [he] at ha hb
      exact ⟨ha, hb⟩
    · rw [he] at ha hb
      simp only [HashMap.lookup_insert_eq] at ha hb
      split at ha
      · rename_i hid
        rw [if_neg fun h => hne (hid.trans h.symm)] at hb
        obtain rfl := Option.some.inj ha
        exact absurd hb (hfree b)
      · split at hb
        · obtain rfl := Option.some.inj hb
          exact absurd ha (hfree a)
        · exact ⟨ha, hb⟩
  | updated camera => exact ⟨ha, hb⟩
  | removed _ => exact ⟨ha, hb⟩

theorem shared_foldl {m : SlotMap} {events : List RegistryEvent} {a b : String} {slot : Nat}
    (hne : a ≠ b) (ha : (events.foldl reassign m).map.lookup a = some slot)
    (hb : (events.foldl reassign m).map.lookup b = some slot) :
    m.map.lookup a = some slot ∧ m.map.lookup b = some slot := by
  induction events generalizing m with
  | nil => exact ⟨ha, hb⟩
  | cons e events ih =>
    obtain ⟨ha, hb⟩ := ih ha hb
    exact shared_reassign hne ha hb

theorem boundCamera?_eq_some {slot : Nat} {m : SlotMap} {e : RegistryEvent}
    {camera : CameraDevice} (h : boundCamera? slot m e = some camera) :
    e = .added camera ∧ (m.assign camera.id camera.supportsMotion).slot = some slot := by
  cases e with
  | added c =>
    simp only [boundCamera?] at h
    split at h
    · obtain rfl := Option.some.inj h
      exact ⟨rfl, ‹_›⟩
    · cases h
  | updated c => cases h
  | removed id => cases h

/-- A bound camera was announced, and the allocator has it on record from then on. -/
theorem mem_boundCameras {slot : Nat} {m : SlotMap} {events : List RegistryEvent}
    {camera : CameraDevice} (h : camera ∈ boundCameras slot m events) :
    .added camera ∈ events ∧ (events.foldl reassign m).map.lookup camera.id = some slot := by
  induction events using List.reverseRecOn with
  | nil => cases h
  | append_singleton events e ih =>
    rw [boundCameras_snoc] at h
    rw [List.foldl_append]
    rcases List.mem_append.mp h with h | h
    · obtain ⟨hmem, hl⟩ := ih h
      exact ⟨List.mem_append_left _ hmem, lookup_reassign hl e⟩
    · obtain ⟨rfl, hs⟩ := boundCamera?_eq_some (Option.mem_toList.mp h)
      exact ⟨List.mem_append_right _ (List.mem_singleton_self _), SlotMap.lookup_of_slot hs⟩

/-- A camera that the file puts on `slot` is bound to it when it is announced. -/
theorem boundCameras_of_lookup {slot : Nat} {m : SlotMap} {events : List RegistryEvent}
    {camera : CameraDevice} (hl : m.map.lookup camera.id = some slot)
    (h : .added camera ∈ events) : camera ∈ boundCameras slot m events := by
  induction events generalizing m with
  | nil => cases h
  | cons e events ih =>
    rcases List.mem_cons.mp h with rfl | h
    · refine List.mem_append_left _ (Option.mem_toList.mpr ?_)
      show (if _ then _ else _) = _
      rw [SlotMap.assign_known hl]
      exact if_pos rfl
    · exact List.mem_append_right _ (ih (lookup_reassign hl e) h)

/-- No two announced cameras are on `slot` in the loaded map. -/
def OneCamera (slot : Nat) (m : SlotMap) (events : List RegistryEvent) : Prop :=
  ∀ a b, .added a ∈ events → .added b ∈ events → m.map.lookup a.id = some slot →
    m.map.lookup b.id = some slot → a.id = b.id

/-- Two cameras are bound to one slot only if the loaded map says so. -/
theorem oneCamera_iff (slot : Nat) (m : SlotMap) (events : List RegistryEvent) :
    OneCamera slot m events ↔ ∀ a ∈ boundCameras slot m events,
      ∀ b ∈ boundCameras slot m events, a.id = b.id := by
  constructor
  · intro h a ha b hb
    by_contra hne
    obtain ⟨ha, hla⟩ := mem_boundCameras ha
    obtain ⟨hb, hlb⟩ := mem_boundCameras hb
    obtain ⟨hla, hlb⟩ := shared_foldl hne hla hlb
    exact hne (h a b ha hb hla hlb)
  · intro h a b ha hb hla hlb
    exact h a (boundCameras_of_lookup hla ha) b (boundCameras_of_lookup hlb hb)

/-! ## Exactly-once seeding -/

/-- One seed if a camera bound to the slot has a video encoder and none otherwise, made
from a camera with the id that every binding of the slot has. -/
structure SeededOnce (bound : List CameraDevice) (seeds : List VideoStream) : Prop where
  count : seeds.length = if bound.any hasVideoEncoder then 1 else 0
  source : ∀ stream ∈ seeds, ∃ camera ∈ bound, videoStreamOf camera = some stream ∧
    ∀ c ∈ bound, c.id = camera.id

/-- No camera bound to the slot has a video encoder, or the first one has and the slot
belongs to one camera. -/
def FirstHasEncoder (slot : Nat) (m : SlotMap) (events : List RegistryEvent) : Prop :=
  (∀ camera ∈ boundCameras slot m events, hasVideoEncoder camera = false) ∨
    ((boundCameras slot m events).head?.any hasVideoEncoder = true ∧ OneCamera slot m events)

theorem seededOnce_of_none (bound : List CameraDevice) :
    SeededOnce bound [] ↔ ∀ camera ∈ bound, hasVideoEncoder camera = false := by
  constructor
  · intro hs camera hc
    have hcount := hs.count
    split at hcount
    · cases hcount
    · rename_i hany
      rw [List.any_eq_true] at hany
      exact Bool.eq_false_iff.mpr fun hv => hany ⟨camera, hc, hv⟩
  · intro hall
    refine ⟨(if_neg ?_).symm, fun _ hmem => absurd hmem List.not_mem_nil⟩
    rw [List.any_eq_true]
    intro hany
    obtain ⟨camera, hc, hv⟩ := hany
    rw [hall camera hc] at hv
    cases hv

theorem seededOnce_of_some {first : CameraDevice} (rest : List CameraDevice)
    {stream : VideoStream} (h : videoStreamOf first = some stream) :
    SeededOnce (first :: rest) [stream] ↔
      ∀ a ∈ first :: rest, ∀ b ∈ first :: rest, a.id = b.id := by
  have hmem : first ∈ first :: rest := List.mem_cons_self
  constructor
  · intro hs a ha b hb
    obtain ⟨camera, _, _, hids⟩ := hs.source stream (List.mem_singleton_self _)
    exact (hids a ha).trans (hids b hb).symm
  · intro hids
    refine ⟨(if_pos ?_).symm, fun seed hseed => ?_⟩
    · have hv : hasVideoEncoder first = true := by rw [← isSome_videoStreamOf, h]; rfl
      exact List.any_eq_true.mpr ⟨first, hmem, hv⟩
    · obtain rfl := List.mem_singleton.mp hseed
      exact ⟨first, hmem, h, fun c hc => hids c hc first hmem⟩

/-- The first binding decides. -/
theorem seededOnce_iff (slot : Nat) (m : SlotMap) (events : List RegistryEvent) :
    SeededOnce (boundCameras slot m events)
      ((boundCameras slot m events).head?.bind videoStreamOf).toList ↔
        FirstHasEncoder slot m events := by
  unfold FirstHasEncoder
  rw [oneCamera_iff]
  cases boundCameras slot m events with
  | nil =>
    exact ⟨fun _ => Or.inl fun _ h => absurd h List.not_mem_nil,
      fun _ => ⟨rfl, fun _ h => absurd h List.not_mem_nil⟩⟩
  | cons first rest =>
    have hsome := isSome_videoStreamOf first
    simp only [List.head?_cons, Option.bind_some, Option.any_some]
    cases hv : videoStreamOf first with
    | none =>
      rw [hv] at hsome
      have hfirst : hasVideoEncoder first = false := hsome.symm
      rw [hfirst]
      exact (seededOnce_of_none (first :: rest)).trans
        ⟨Or.inl, fun h => h.resolve_right fun h => Bool.false_ne_true h.1⟩
    | some stream =>
      rw [hv] at hsome
      have hfirst : hasVideoEncoder first = true := hsome.symm
      rw [hfirst]
      refine (seededOnce_of_some rest hv).trans ⟨fun h => Or.inr ⟨rfl, h⟩, fun h => ?_⟩
      refine (h.resolve_left fun hnone => ?_).2
      have hno := hnone first List.mem_cons_self
      rw [hfirst] at hno
      cases hno

/-! ## What one event sends -/

/-- The seeded set and the seed queue are untouched. -/
structure SameSeeds (s t : BridgeLoop) : Prop where
  seeded : t.seeded = s.seeded
  seedTx : t.seedTx = s.seedTx

theorem SameSeeds.trans {s t u : BridgeLoop} (h : SameSeeds s t) (h' : SameSeeds t u) :
    SameSeeds s u :=
  ⟨h'.seeded.trans h.seeded, h'.seedTx.trans h.seedTx⟩

theorem sameSeeds_writeSlot {s t : BridgeLoop} {slot : Nat} {f : CameraSlot → CameraSlot}
    (h : s.writeSlot slot f = some t) : SameSeeds s t := by
  rw [writeSlot_frame h]
  exact ⟨rfl, rfl⟩

theorem sameSeeds_startMotionPump (cfg : LoopConfig) (s : BridgeLoop) (slot : Nat)
    (camera : CameraDevice) : SameSeeds s (s.startMotionPump cfg slot camera) := by
  rw [startMotionPump]
  split <;> exact ⟨rfl, rfl⟩

theorem sameSeeds_abortMotionPump (s : BridgeLoop) (slot : Nat) :
    SameSeeds s (s.abortMotionPump slot) := by
  rw [abortMotionPump]
  split <;> exact ⟨rfl, rfl⟩

theorem mem_seeded_seedAvStreams (s : BridgeLoop) (slot : Nat) (camera : CameraDevice) (k : Nat) :
    k ∈ (s.seedAvStreams slot camera).seeded ↔ k = slot ∨ k ∈ s.seeded := by
  rw [seedAvStreams]
  split
  · rename_i hs
    constructor
    · exact Or.inr
    · intro h
      rcases h with rfl | h
      · exact hs
      · exact h
  · exact Finset.mem_insert

/-- Only the first seeding of a slot sends anything. -/
theorem seedsFor_seedAvStreams (s : BridgeLoop) (slot : Nat) (camera : CameraDevice) (k : Nat) :
    seedsFor k (s.seedAvStreams slot camera).seedTx = seedsFor k s.seedTx ++
      if k = slot ∧ slot ∉ s.seeded then (videoStreamOf camera).toList else [] := by
  rw [seedAvStreams]
  by_cases hs : slot ∈ s.seeded
  · rw [if_pos hs, if_neg fun h => h.2 hs, List.append_nil]
  · rw [if_neg hs]
    unfold seedsFor
    rw [List.filterMap_append]
    congr 1
    by_cases hk : k = slot
    · rw [if_pos ⟨hk, hs⟩]
      cases videoStreamOf camera with
      | none => rfl
      | some stream => simp [hk]
    · rw [if_neg fun h => hk h.1]
      cases videoStreamOf camera with
      | none => rfl
      | some stream => simp [Ne.symm hk]

section

variable [UnicodeTables] {cfg : LoopConfig}

theorem onAdded_seeds {s t : BridgeLoop} {camera : CameraDevice} {slot : Nat}
    (hs : (s.slotMap.assign camera.id camera.supportsMotion).slot = some slot)
    (ht : s.onAdded cfg camera = some t) : SameSeeds (s.seedAvStreams slot camera) t := by
  simp only [onAdded, hs, bind, Option.bind_eq_some_iff, pure, Option.some.injEq] at ht
  obtain ⟨u, hu, rfl⟩ := ht
  have hframe := sameSeeds_writeSlot hu
  refine SameSeeds.trans ?_ (sameSeeds_startMotionPump cfg _ slot camera)
  unfold seedAvStreams
  rw [hframe.seeded]
  split
  · exact ⟨hframe.seeded, hframe.seedTx⟩
  · refine ⟨rfl, ?_⟩
    show u.seedTx ++ _ = _
    rw [hframe.seedTx]

omit [UnicodeTables] in
theorem onUpdated_seeds {s t : BridgeLoop} {camera : CameraDevice}
    (ht : s.onUpdated cfg camera = some t) : SameSeeds s t := by
  unfold onUpdated at ht
  split at ht
  · obtain rfl := Option.some.inj ht
    exact ⟨rfl, rfl⟩
  · exact sameSeeds_writeSlot ht

omit [UnicodeTables] in
theorem onRemoved_seeds {s t : BridgeLoop} {id : String} (ht : s.onRemoved id = some t) :
    SameSeeds s t := by
  unfold onRemoved at ht
  split at ht
  · obtain rfl := Option.some.inj ht
    exact ⟨rfl, rfl⟩
  · rename_i slot _
    simp only [bind, Option.bind_eq_some_iff, pure, Option.some.injEq] at ht
    obtain ⟨u, hu, rfl⟩ := ht
    have hframe := sameSeeds_writeSlot hu
    have habort := sameSeeds_abortMotionPump { u with
      bridge := { u.bridge with streamNames := u.bridge.streamNames.erase slot } } slot
    exact ⟨habort.seeded.trans hframe.seeded, habort.seedTx.trans hframe.seedTx⟩

/-- An event seeds the slot it binds a camera to, and no other. -/
theorem handleEvent_seeds {s t : BridgeLoop} {e : RegistryEvent}
    (ht : s.handleEvent cfg e = some t) :
    (∃ camera slot, (∀ k, boundCamera? k s.slotMap e = if k = slot then some camera else none) ∧
      SameSeeds (s.seedAvStreams slot camera) t) ∨
    ((∀ k, boundCamera? k s.slotMap e = none) ∧ SameSeeds s t) := by
  cases e with
  | added camera =>
    cases hs : (s.slotMap.assign camera.id camera.supportsMotion).slot with
    | some slot =>
      refine Or.inl ⟨camera, slot, fun k => ?_, onAdded_seeds hs ht⟩
      simp only [boundCamera?, hs, Option.some.injEq, eq_comm]
    | none =>
      rw [handleEvent_ignored cfg (e := .added camera) hs] at ht
      obtain rfl := Option.some.inj ht
      refine Or.inr ⟨fun k => ?_, rfl, rfl⟩
      simp only [boundCamera?, hs, reduceCtorEq, if_false]
  | updated camera => exact Or.inr ⟨fun _ => rfl, onUpdated_seeds ht⟩
  | removed id => exact Or.inr ⟨fun _ => rfl, onRemoved_seeds ht⟩

/-! ## Over a run -/

/-- After `events`, the seeds are those of the first camera bound to each slot. -/
structure Seeding (m : SlotMap) (events : List RegistryEvent) (s : BridgeLoop) : Prop where
  bounds : s.InBounds
  allocator : s.slotMap = events.foldl reassign m
  seeded : ∀ slot, slot ∈ s.seeded ↔ boundCameras slot m events ≠ []
  sent : ∀ slot, seedsFor slot s.seedTx =
    ((boundCameras slot m events).head?.bind videoStreamOf).toList

theorem Seeding.step {m : SlotMap} {events : List RegistryEvent} {s : BridgeLoop}
    (h : Seeding m events s) (cfg : LoopConfig) (e : RegistryEvent) :
    ∃ t, s.handleEvent cfg e = some t ∧ Seeding m (events ++ [e]) t := by
  obtain ⟨t, ht, hb⟩ := h.bounds.step cfg e
  have hslots : t.slotMap = (events ++ [e]).foldl reassign m := by
    rw [h.bounds.slotMap_step ht, h.allocator, List.foldl_append]
    rfl
  suffices hnew : (∀ slot, slot ∈ t.seeded ↔ boundCameras slot m (events ++ [e]) ≠ []) ∧
      ∀ slot, seedsFor slot t.seedTx =
        ((boundCameras slot m (events ++ [e])).head?.bind videoStreamOf).toList from
    ⟨t, ht, hb, hslots, hnew.1, hnew.2⟩
  rcases handleEvent_seeds ht with ⟨camera, slot, hbind, hseeds⟩ | ⟨hbind, hseeds⟩
  · have hsnoc : ∀ k, boundCameras k m (events ++ [e]) =
        boundCameras k m events ++ (if k = slot then [camera] else []) := by
      intro k
      rw [boundCameras_snoc, ← h.allocator, hbind]
      split <;> rfl
    rw [hseeds.seeded, hseeds.seedTx]
    constructor
    · intro k
      rw [mem_seeded_seedAvStreams, h.seeded, hsnoc]
      by_cases hk : k = slot <;> simp [hk]
    · intro k
      simp only [seedsFor_seedAvStreams, h.sent, hsnoc, h.seeded]
      by_cases hk : k = slot
      · subst hk
        cases hl : boundCameras k m events <;> simp
      · simp [hk]
  · have hsnoc : ∀ k, boundCameras k m (events ++ [e]) = boundCameras k m events := by
      intro k
      rw [boundCameras_snoc, ← h.allocator, hbind]
      exact List.append_nil _
    rw [hseeds.seeded, hseeds.seedTx]
    simp only [hsnoc]
    exact ⟨h.seeded, h.sent⟩

theorem seeding_run [SerdeJson] (cfg : LoopConfig) (file : SlotFile)
    (events : List RegistryEvent) : ∃ s, (boot file).handleEvents cfg events = some s ∧
      Seeding (SlotMap.load file maxCameras withOccupancyCameras) events s := by
  induction events using List.reverseRecOn with
  | nil =>
    refine ⟨boot file, rfl, inBounds_boot file, rfl, fun slot => ?_, fun slot => rfl⟩
    simp [boot, start, boundCameras]
  | append_singleton events e ih =>
    obtain ⟨s, hs, h⟩ := ih
    obtain ⟨t, ht, h'⟩ := h.step cfg e
    refine ⟨t, ?_, h'⟩
    rw [handleEvents_snoc, hs]
    exact ht

/-- **When a slot is seeded exactly once.** For every slot file, every list of events and
every slot, no handler panics and at most one seed is sent. Its number is right, and it
belongs to the one camera of the slot, exactly when no camera bound to the slot has a
video encoder, or the first one has and the file puts no second announced camera there. -/
theorem seeded_once_iff [SerdeJson] (cfg : LoopConfig) (file : SlotFile)
    (events : List RegistryEvent) :
    let m := SlotMap.load file maxCameras withOccupancyCameras
    ∃ s, (boot file).handleEvents cfg events = some s ∧ ∀ slot,
      (seedsFor slot s.seedTx).length ≤ 1 ∧
      (SeededOnce (boundCameras slot m events) (seedsFor slot s.seedTx) ↔
        FirstHasEncoder slot m events) := by
  intro m
  obtain ⟨s, hs, h⟩ := seeding_run cfg file events
  refine ⟨s, hs, fun slot => ?_⟩
  rw [h.sent]
  refine ⟨?_, seededOnce_iff slot m events⟩
  cases (boundCameras slot m events).head?.bind videoStreamOf <;> simp

end

/-- A camera first connects while its encoder query fails, leaves, and comes back with a
good profile: nothing is ever seeded for its slot. -/
theorem reconnected_camera_unseeded :
    letI := asciiTables
    letI := PrettyJson.serdeJson
    let good : CameraDevice := { CameraDevice.bare "SN-1" with
      profiles := [⟨"t", "main", some ⟨"H264", 1920, 1080, 25, 4096, 0⟩, none, none⟩] }
    let bad : CameraDevice := { good with profiles := [⟨"t", "main", none, none, none⟩] }
    let events : List RegistryEvent := [.added bad, .removed "SN-1", .added good]
    let m := SlotMap.load none maxCameras withOccupancyCameras
    ∃ s, (boot none).handleEvents ⟨∅, "admin", "pass"⟩ events = some s ∧
      boundCameras 7 m events = [bad, good] ∧ hasVideoEncoder good = true ∧
      seedsFor 7 s.seedTx = [] := by
  intro good bad events m
  let _ := asciiTables
  let _ := PrettyJson.serdeJson
  obtain ⟨s, hs, h⟩ := seeding_run ⟨∅, "admin", "pass"⟩ none events
  have hbound : boundCameras 7 m events = [bad, good] := by decide
  refine ⟨s, hs, hbound, by decide, ?_⟩
  rw [h.sent, show boundCameras 7 _ events = _ from hbound]
  rfl

end BridgeLoop

end MatterBridge.Bridge
