import MatterBridge.Bridge.EventSlot
import MatterBridge.Bridge.Isolation

/-!
# The event loop under lag

The loop's tables are a product of one small machine for each camera: what a camera's slot
shows is a fold over the events received about that camera, whatever else was received or
lost. So a lag does harm only to the cameras whose events were in the gap, and each of
them is in order again with its next arrival or departure.
-/
namespace MatterBridge.Bridge

open MatterBridge.Core MatterBridge.Onvif MatterBridge.Slots MatterBridge.Media

/-- The contents of a slot that shows the record. -/
def CameraSlot.of (cfg : LoopConfig) (camera : CameraDevice) : CameraSlot :=
  populateCameraSlot .default camera (cfg.friendlyName camera)

/-- What one event does to what the slot of `id` shows; `none` is nothing. -/
def see (cfg : LoopConfig) (id : String) (face : Option CameraSlot) :
    RegistryEvent → Option CameraSlot
  | .added camera => if camera.id = id then some (.of cfg camera) else face
  | .updated camera => if camera.id = id then face.map fun _ => .of cfg camera else face
  | .removed k => if k = id then none else face

/-- What the slot of `id` shows after the events. -/
def face (cfg : LoopConfig) (id : String) (events : List RegistryEvent) : Option CameraSlot :=
  events.foldl (see cfg id) none

theorem face_snoc (cfg : LoopConfig) (id : String) (events : List RegistryEvent)
    (e : RegistryEvent) : face cfg id (events ++ [e]) = see cfg id (face cfg id events) e := by
  rw [face, List.foldl_append]
  rfl

theorem see_ne {id : String} {e : RegistryEvent} (h : id ≠ e.cameraId) (cfg : LoopConfig)
    (face : Option CameraSlot) : see cfg id face e = face := by
  cases e with
  | added camera => exact if_neg (Ne.symm h)
  | updated camera => exact if_neg (Ne.symm h)
  | removed k => exact if_neg (Ne.symm h)

theorem face_snoc_ne {id : String} {e : RegistryEvent} (h : id ≠ e.cameraId) (cfg : LoopConfig)
    (events : List RegistryEvent) : face cfg id (events ++ [e]) = face cfg id events := by
  rw [face_snoc, see_ne h]

/-- An arrival or a departure decides what is shown, whatever came before. -/
def Decides (id : String) : RegistryEvent → Prop
  | .added camera => camera.id = id
  | .updated _ => False
  | .removed k => k = id

theorem see_of_decides {id : String} {e : RegistryEvent} (h : Decides id e) (cfg : LoopConfig)
    (a b : Option CameraSlot) : see cfg id a e = see cfg id b e := by
  cases e with
  | added camera => simp only [see, if_pos (show camera.id = id from h)]
  | updated camera => exact h.elim
  | removed k => simp only [see, if_pos (show k = id from h)]

/-- Along a log that nothing is missing from, the face is that of the registered record. -/
theorem face_of_announced {cfg : LoopConfig} {events : List RegistryEvent}
    {m : HashMap String CameraDevice} (h : Run Announce ∅ events m) (id : String) :
    face cfg id events = (m.lookup id).map (CameraSlot.of cfg) := by
  refine h.history (fun events m => face cfg id events = (m.lookup id).map (CameraSlot.of cfg))
    rfl ?_
  intro events m e m' ih hstep
  obtain ⟨hfollows, rfl⟩ := hstep
  by_cases hid : id = e.cameraId
  · subst hid
    rw [face_snoc, ih, e.lookup_replay_self m]
    cases e with
    | added camera => exact if_pos rfl
    | updated camera =>
      obtain ⟨old, hold⟩ := Finmap.mem_iff.mp (show camera.id ∈ m from hfollows)
      simp only [RegistryEvent.cameraId, see, hold, if_pos, Option.map_some]
      rfl
    | removed k => exact if_pos rfl
  · rw [face_snoc_ne hid, ih, RegistryEvent.lookup_replay_ne hid]

section

variable [UnicodeTables]

/-- The row of a slot that belongs to `id`. -/
structure FaceRow (id : String) (face : Option CameraSlot) (r : BridgeLoop.Row) : Prop where
  camera : r.camera = some (face.getD .default)
  streamName : r.streamName = face.map fun _ => sanitizeStreamName id

/-- The tables after the loop received `events`, announced in order or not. -/
structure Faces (cfg : LoopConfig) (events : List RegistryEvent) (s : BridgeLoop) : Prop where
  slots : BridgeSlots s.slotMap
  bound : ∀ id k, s.bridge.slotMap.lookup id = some k ↔
    s.slotMap.map.lookup id = some k ∧ (face cfg id events).isSome = true
  owned : ∀ id k, s.slotMap.map.lookup id = some k → FaceRow id (face cfg id events) (s.row k)
  free : ∀ k, k < maxCameras → (∀ id, s.slotMap.map.lookup id ≠ some k) →
    (s.row k).camera = some .default ∧ (s.row k).streamName = none

variable {cfg : LoopConfig} {events : List RegistryEvent} {s : BridgeLoop}

theorem faces_start {m : SlotMap} (hm : BridgeSlots m) : Faces cfg [] (BridgeLoop.start m) where
  slots := hm
  bound id k := by simp [BridgeLoop.start, face]
  owned id k hk := by
    refine ⟨?_, rfl⟩
    rw [BridgeLoop.camera_row _ (hm.lt hk)]
    simp [BridgeLoop.start, face]
  free k hk _ := by
    refine ⟨?_, rfl⟩
    rw [BridgeLoop.camera_row _ hk]
    simp [BridgeLoop.start]

/-- An event that is ignored is about a camera whose slot shows nothing, or about one that
owns none. -/
theorem Faces.ignored (h : Faces cfg events s) {e : RegistryEvent}
    (hface : ∀ k, s.slotMap.map.lookup e.cameraId = some k →
      face cfg e.cameraId (events ++ [e]) = face cfg e.cameraId events) :
    Faces cfg (events ++ [e]) s := by
  have hsame : ∀ id k, s.slotMap.map.lookup id = some k →
      face cfg id (events ++ [e]) = face cfg id events := by
    intro id k hk
    by_cases hid : id = e.cameraId
    · subst hid
      exact hface k hk
    · exact face_snoc_ne hid cfg events
  refine ⟨h.slots, fun id k => ?_, fun id k hk => ?_, h.free⟩
  · rw [h.bound]
    constructor
    · rintro ⟨hk, hf⟩
      exact ⟨hk, by rwa [hsame id k hk]⟩
    · rintro ⟨hk, hf⟩
      exact ⟨hk, by rwa [hsame id k hk] at hf⟩
  · rw [hsame id k hk]
    exact h.owned id k hk

/-- An Added event that gets `slot`. -/
theorem Faces.granted (h : Faces cfg events s) {camera : CameraDevice} {slot : Nat}
    (hslot : (s.slotMap.assign camera.id camera.supportsMotion).slot = some slot) :
    ∃ t, s.onAdded cfg camera = some t ∧ Faces cfg (events ++ [.added camera]) t := by
  have hm' := h.slots.assign camera.id camera.supportsMotion
  have hself := SlotMap.lookup_of_slot hslot
  have hgrow : ∀ id k, s.slotMap.map.lookup id = some k →
      (s.slotMap.assign camera.id camera.supportsMotion).slots.map.lookup id = some k :=
    fun id k => SlotMap.lookup_assign
  have hother : ∀ id, id ≠ camera.id →
      (s.slotMap.assign camera.id camera.supportsMotion).slots.map.lookup id =
        s.slotMap.map.lookup id := by
    intro id hid
    rcases s.slotMap.assign_cases camera.id camera.supportsMotion with
      ⟨_, _, ha⟩ | ⟨_, ha⟩ | ⟨_, _, _, _, ha⟩
    · rw [ha]
    · rw [ha]
    · rw [ha]
      exact Finmap.lookup_insert_of_ne s.slotMap.map hid
  have hlt := hm'.lt hself
  obtain ⟨t, ht, hslots, hbridge, hrow, _⟩ :=
    BridgeLoop.onAdded_bound cfg s camera hlt (BridgeLoop.assign_granted hslot)
  have hface : face cfg camera.id (events ++ [.added camera]) = some (.of cfg camera) := by
    rw [face_snoc]
    exact if_pos rfl
  refine ⟨t, ht, by rwa [hslots], fun id k => ?_, fun id k hk => ?_, fun k hk hfree => ?_⟩
  · rw [hbridge, hslots, HashMap.lookup_insert_eq]
    by_cases hid : id = camera.id
    · subst hid
      rw [if_pos rfl, hself, hface]
      simp
    · rw [if_neg hid, hother id hid, face_snoc_ne hid]
      exact h.bound id k
  · rw [hslots] at hk
    by_cases hid : id = camera.id
    · subst hid
      obtain rfl := Option.some.inj (hk.symm.trans hself)
      rw [hface, hrow, if_pos rfl, BridgeLoop.boundRow, s.camera_row hlt]
      exact ⟨rfl, rfl⟩
    · -- Another camera's slot is another slot.
      have hne : k ≠ slot := by
        rintro rfl
        exact hid (hm'.exclusive id camera.id k hk hself)
      rw [hother id hid] at hk
      rw [face_snoc_ne hid, hrow, if_neg hne]
      exact h.owned id k hk
  · rw [hslots] at hfree
    have hne : k ≠ slot := by
      rintro rfl
      exact hfree camera.id hself
    rw [hrow, if_neg hne]
    exact h.free k hk fun id hid => hfree id (hgrow id k hid)

theorem Faces.added (h : Faces cfg events s) (camera : CameraDevice) :
    ∃ t, s.onAdded cfg camera = some t ∧ Faces cfg (events ++ [.added camera]) t := by
  cases hslot : (s.slotMap.assign camera.id camera.supportsMotion).slot with
  | some slot => exact h.granted hslot
  | none =>
    have hrefused := BridgeLoop.assign_refused hslot
    refine ⟨s, BridgeLoop.onAdded_refused cfg s camera hrefused, h.ignored fun k hk => ?_⟩
    -- A camera that is refused owns no slot.
    rcases s.slotMap.assign_cases camera.id camera.supportsMotion with
      ⟨_, _, ha⟩ | ⟨hl, _⟩ | ⟨_, _, _, _, ha⟩
    · rw [ha] at hrefused
      cases hrefused
    · exact absurd (hl.symm.trans hk) (by simp)
    · rw [ha] at hrefused
      cases hrefused

theorem Faces.updated (h : Faces cfg events s) (camera : CameraDevice) :
    ∃ t, s.onUpdated cfg camera = some t ∧ Faces cfg (events ++ [.updated camera]) t := by
  cases hl : s.bridge.slotMap.lookup camera.id with
  | none =>
    refine ⟨s, BridgeLoop.onUpdated_unknown cfg s camera hl, h.ignored fun k hk => ?_⟩
    have hdark : face cfg camera.id events = none := by
      rw [← Option.not_isSome_iff_eq_none]
      intro hsome
      have hbound := (h.bound camera.id k).mpr ⟨hk, hsome⟩
      rw [hl] at hbound
      cases hbound
    rw [RegistryEvent.cameraId, face_snoc, hdark]
    exact if_pos rfl
  | some slot =>
    obtain ⟨hown, hsome⟩ := (h.bound camera.id slot).mp hl
    obtain ⟨old, hold⟩ := Option.isSome_iff_exists.mp hsome
    obtain ⟨t, ht, hslots, hbridge, hrow, _⟩ :=
      BridgeLoop.onUpdated_bound cfg s camera (h.slots.lt hown) hl
    have hface : face cfg camera.id (events ++ [.updated camera]) = some (.of cfg camera) := by
      rw [face_snoc, hold]
      exact if_pos rfl
    refine ⟨t, ht, by rw [hslots]; exact h.slots, fun id k => ?_, fun id k hk => ?_,
      fun k hk hfree => ?_⟩
    · rw [hbridge, hslots, h.bound]
      by_cases hid : id = camera.id
      · subst hid
        rw [hface, hold]
        simp
      · rw [face_snoc_ne hid]
    · rw [hslots] at hk
      by_cases hid : id = camera.id
      · subst hid
        obtain rfl := Option.some.inj (hk.symm.trans hown)
        have hmine := h.owned camera.id k hk
        rw [hold] at hmine
        rw [hface, hrow, if_pos rfl]
        exact ⟨by rw [hmine.camera]; rfl, hmine.streamName⟩
      · have hne : k ≠ slot := by
          rintro rfl
          exact hid (h.slots.exclusive id camera.id k hk hown)
        rw [face_snoc_ne hid, hrow, if_neg hne]
        exact h.owned id k hk
    · rw [hslots] at hfree
      have hne : k ≠ slot := by
        rintro rfl
        exact hfree camera.id hown
      rw [hrow, if_neg hne]
      exact h.free k hk hfree

theorem Faces.removed (h : Faces cfg events s) (id : String) :
    ∃ t, s.onRemoved id = some t ∧ Faces cfg (events ++ [.removed id]) t := by
  have hface : face cfg id (events ++ [.removed id]) = none := by
    rw [face_snoc]
    exact if_pos rfl
  cases hl : s.bridge.slotMap.lookup id with
  | none =>
    refine ⟨s, BridgeLoop.onRemoved_unknown s id hl, h.ignored fun k hk => ?_⟩
    rw [RegistryEvent.cameraId, hface, eq_comm, ← Option.not_isSome_iff_eq_none]
    intro hsome
    have hbound := (h.bound id k).mpr ⟨hk, hsome⟩
    rw [hl] at hbound
    cases hbound
  | some slot =>
    obtain ⟨hown, _⟩ := (h.bound id slot).mp hl
    have hlt := h.slots.lt hown
    obtain ⟨t, ht, hslots, hbridge, hrow, _⟩ := BridgeLoop.onRemoved_bound s id hlt hl
    refine ⟨t, ht, by rw [hslots]; exact h.slots, fun id' k => ?_, fun id' k hk => ?_,
      fun k hk hfree => ?_⟩
    · rw [hbridge, hslots, HashMap.lookup_erase_eq]
      by_cases hid : id' = id
      · subst hid
        rw [if_pos rfl, hface]
        simp
      · rw [if_neg hid, face_snoc_ne hid]
        exact h.bound id' k
    · rw [hslots] at hk
      by_cases hid : id' = id
      · subst hid
        obtain rfl := Option.some.inj (hk.symm.trans hown)
        rw [hface, hrow, if_pos rfl]
        exact ⟨rfl, rfl⟩
      · have hne : k ≠ slot := by
          rintro rfl
          exact hid (h.slots.exclusive id' id k hk hown)
        rw [face_snoc_ne hid, hrow, if_neg hne]
        exact h.owned id' k hk
    · rw [hslots] at hfree
      have hne : k ≠ slot := by
        rintro rfl
        exact hfree id hown
      rw [hrow, if_neg hne]
      exact h.free k hk hfree

/-- One event, expected or not, is one step of the machine of its camera. -/
theorem Faces.step (h : Faces cfg events s) (e : RegistryEvent) :
    ∃ t, s.handleEvent cfg e = some t ∧ Faces cfg (events ++ [e]) t := by
  cases e with
  | added camera => exact h.added camera
  | updated camera => exact h.updated camera
  | removed id => exact h.removed id

/-- **The loop is one small machine for each camera.** Whatever events are received, in
whatever order, no handler panics, and what a camera's slot shows, its stream name and its
binding are a fold over the events about that camera alone. -/
theorem loop_faces (cfg : LoopConfig) {m : SlotMap} (hm : BridgeSlots m)
    (events : List RegistryEvent) :
    ∃ s, (BridgeLoop.start m).handleEvents cfg events = some s ∧ Faces cfg events s := by
  induction events using List.reverseRecOn with
  | nil => exact ⟨_, rfl, faces_start hm⟩
  | append_singleton events e ih =>
    obtain ⟨s, hs, hfaces⟩ := ih
    obtain ⟨t, ht, hfaces'⟩ := hfaces.step e
    refine ⟨t, ?_, hfaces'⟩
    rw [BridgeLoop.handleEvents_snoc, hs]
    exact ht

omit [UnicodeTables] in
/-- The first Added event of a camera was lost: its update shows nothing, its return does. -/
theorem loop_faces_after_loss :
    letI := asciiTables
    let cfg : LoopConfig := ⟨∅, "admin", "pass"⟩
    let camera := CameraDevice.bare "SN-1"
    face cfg "SN-1" [.updated camera] = none ∧
      ∃ s, (BridgeLoop.start ⟨∅, 8, 7⟩).handleEvents cfg [.updated camera, .added camera] =
          some s ∧ FaceRow "SN-1" (some (.of cfg camera)) (s.row 7) := by
  intro cfg camera
  let _ := asciiTables
  obtain ⟨s, hs, hfaces⟩ := loop_faces cfg bridgeSlots_empty [.updated camera, .added camera]
  have hown : s.slotMap.map.lookup "SN-1" = some 7 := by
    cases hs
    rfl
  exact ⟨rfl, s, hs, hfaces.owned "SN-1" 7 hown⟩

end

/-! ## The loop's subscription -/

/-- The loop and its place in the registry's events. -/
structure LoopRx where
  tx : Broadcast RegistryEvent
  next : Nat
  loop : BridgeLoop

namespace LoopRx

def start (m : SlotMap) (capacity : Nat) : LoopRx := ⟨.new capacity, 0, BridgeLoop.start m⟩

inductive Label where
  /-- The registry sends any number of events. -/
  | sent
  | received (e : RegistryEvent)
  | lagged (missed : Nat)

/-- The events the loop took in a run, in order. -/
def received (labels : List Label) : List RegistryEvent :=
  labels.filterMap fun
    | .received e => some e
    | .sent => none
    | .lagged _ => none

theorem received_append (a b : List Label) : received (a ++ b) = received a ++ received b :=
  List.filterMap_append

variable [UnicodeTables] {cfg : LoopConfig}

inductive Step (cfg : LoopConfig) : LoopRx → Label → LoopRx → Prop
  | sent {s : LoopRx} {tx : Broadcast RegistryEvent} {es : List RegistryEvent} :
      tx.sent = s.tx.sent ++ es → Step cfg s .sent { s with tx := tx }
  | received {s : LoopRx} {e : RegistryEvent} {next : Nat} {loop : BridgeLoop} :
      s.tx.recv s.next = some (.ok e, next) → s.loop.handleEvent cfg e = some loop →
      Step cfg s (.received e) { s with next := next, loop := loop }
  | lagged {s : LoopRx} {missed next : Nat} :
      s.tx.recv s.next = some (.error (.lagged missed), next) →
      Step cfg s (.lagged missed) { s with next := next }

variable {m : SlotMap} {capacity : Nat} {labels : List Label} {s t : LoopRx} {l : Label}

/-- Lost events or not, the loop shows what it received, and it received what was sent. -/
structure Shows (cfg : LoopConfig) (labels : List Label) (s : LoopRx) : Prop where
  faces : Faces cfg (received labels) s.loop
  sent : ∀ e ∈ received labels, e ∈ s.tx.sent

theorem Shows.step (h : Shows cfg labels s) (hs : Step cfg s l t) :
    Shows cfg (labels ++ [l]) t := by
  have happ := received_append labels [l]
  cases hs with
  | sent hsent =>
    rw [show received [.sent] = [] from rfl, List.append_nil] at happ
    refine ⟨by rw [happ]; exact h.faces, fun e he => ?_⟩
    rw [happ] at he
    rw [hsent]
    exact List.mem_append_left _ (h.sent e he)
  | @received e _ _ hrecv hloop =>
    obtain ⟨t', ht', hfaces⟩ := h.faces.step e
    rw [hloop, Option.some.injEq] at ht'
    subst ht'
    refine ⟨by rw [happ]; exact hfaces, fun e' he' => ?_⟩
    rw [happ] at he'
    rcases List.mem_append.mp he' with he' | he'
    · exact h.sent e' he'
    · rw [List.mem_singleton.mp he']
      exact Broadcast.mem_of_recv_ok hrecv
  | lagged _ =>
    rw [show received [.lagged _] = [] from rfl, List.append_nil] at happ
    exact ⟨by rw [happ]; exact h.faces, by rw [happ]; exact h.sent⟩

theorem shows_of_run (hm : BridgeSlots m) (h : Run (Step cfg) (start m capacity) labels s) :
    Shows cfg labels s :=
  h.history (Shows cfg) ⟨faces_start hm, fun _ he => absurd he List.not_mem_nil⟩
    fun _ _ _ _ hshows hstep => hshows.step hstep

/-- What the loop received about `id` shows the same as the log up to its position. -/
def InTouch (cfg : LoopConfig) (id : String) (labels : List Label) (s : LoopRx) : Prop :=
  s.tx.Follows s.next fun events => face cfg id (received labels) = face cfg id events

theorem InTouch.step {id : String} (h : InTouch cfg id labels s) (hs : Step cfg s l t)
    (hl : ∀ n, l ≠ .lagged n) : InTouch cfg id (labels ++ [l]) t := by
  rw [InTouch, received_append]
  cases hs with
  | sent hsent =>
    rw [show received [.sent] = [] from rfl, List.append_nil]
    exact h.sent hsent
  | @received e _ _ hrecv _ =>
    refine h.received hrecv fun hface => ?_
    rw [show received [.received e] = [e] from rfl, face_snoc, face_snoc, hface]
  | lagged _ => exact absurd rfl (hl _)

/-- In touch, the loop stays so until it lags. -/
theorem InTouch.run {id : String} {more : List Label} (h : InTouch cfg id labels s)
    (hmore : Run (Step cfg) s more t) (hlag : ∀ n, .lagged n ∉ more) :
    InTouch cfg id (labels ++ more) t := by
  have hguarded := hmore.guard (fun _ l => ∀ n, l ≠ .lagged n) fun l hl _ n hn => hlag n (hn ▸ hl)
  refine hguarded.history (fun more t => InTouch cfg id (labels ++ more) t) (by simpa using h) ?_
  intro more t l u ht hstep
  rw [← List.append_assoc]
  exact ht.step hstep.1 hstep.2

omit [UnicodeTables] in
theorem inTouch_start (m : SlotMap) (capacity : Nat) (id : String) :
    InTouch cfg id [] (start m capacity) := ⟨Nat.zero_le _, rfl⟩

/-- An arrival or departure puts the loop in touch, whatever it missed before. -/
theorem inTouch_of_decides {id : String} {e : RegistryEvent} (hs : Step cfg s (.received e) t)
    (he : Decides id e) : InTouch cfg id (labels ++ [.received e]) t := by
  cases hs with
  | received hrecv _ =>
    obtain ⟨hseen, hle⟩ := Broadcast.recv_ok_seen hrecv
    refine ⟨hle, ?_⟩
    rw [hseen, received_append, show received [.received e] = [e] from rfl, face_snoc, face_snoc]
    exact see_of_decides he cfg _ _

omit [UnicodeTables] in
/-- In touch and with everything received, the loop shows what is registered. -/
theorem InTouch.registered {id : String} {cameras : HashMap String CameraDevice}
    (h : InTouch cfg id labels s) (hlog : Run Announce ∅ s.tx.sent cameras)
    (hu : s.tx.unread s.next = []) :
    face cfg id (received labels) = (cameras.lookup id).map (CameraSlot.of cfg) := by
  rw [h.drained hu, face_of_announced hlog]

end LoopRx

namespace System

variable [UnicodeTables] [UrlCrate] {cfg : LoopConfig} {media : MediaConfig}
  {report : String → String}

/-- The loop's half of the bridge. -/
def rx (s : System) : LoopRx := ⟨s.registry.tx, s.next, s.loop⟩

def Label.rx? : Label → Option LoopRx.Label
  | .op _ => some .sent
  | .loop e => some (.received e)
  | .lagged missed => some (.lagged missed)
  | .media _ => none

theorem rx_run {labels : List Label} {s t : System}
    (h : Run (Step cfg media report) s labels t) :
    Run (LoopRx.Step cfg) s.rx (labels.filterMap Label.rx?) t.rx := by
  refine h.project System.rx Label.rx? fun s l t hs => ?_
  cases hs with
  | @op op =>
    obtain ⟨es, hsent, _⟩ := s.registry.apply_log op
    exact Or.inl ⟨_, rfl, .sent (s := s.rx) hsent⟩
  | loop hrecv hloop => exact Or.inl ⟨_, rfl, .received (s := s.rx) hrecv hloop⟩
  | lagged hrecv => exact Or.inl ⟨_, rfl, .lagged (s := s.rx) hrecv⟩
  | media _ => exact Or.inr ⟨rfl, rfl⟩

theorem announced_of_run {m : SlotMap} {table : StreamTable} {labels : List Label} {s : System}
    (h : Run (Step cfg media report) (start m table) labels s) :
    Run Announce ∅ s.registry.tx.sent s.registry.cameras := by
  refine h.invariant (fun s => Run Announce ∅ s.registry.tx.sent s.registry.cameras) ?_ Run.refl
  intro s l t hlog hstep
  cases hstep with
  | @op op =>
    obtain ⟨es, hsent, _, _, hrun⟩ := s.registry.apply_log op
    show Run Announce ∅ (s.registry.apply op).tx.sent _
    rw [hsent]
    exact hlog.append hrun
  | loop _ _ => exact hlog
  | lagged _ => exact hlog
  | media _ => exact hlog

/-- **Lag heals camera by camera.** Whatever the loop lost to lag before: once it has
received an arrival or departure of a camera and nothing was lost since, then in every
state in which it has received everything, the camera is bound exactly when it is
registered, and its slot shows the registry's record of it, or nothing. -/
theorem lag_heals {m : SlotMap} (hm : BridgeSlots m) {table : StreamTable}
    {before after : List Label} {e : RegistryEvent} {s : System} {id : String} {k : Nat}
    (h : Run (Step cfg media report) (start m table) (before ++ .loop e :: after) s)
    (he : Decides id e) (hlag : ∀ n, .lagged n ∉ after)
    (hdrained : s.registry.tx.unread s.next = [])
    (hown : s.loop.slotMap.map.lookup id = some k) :
    (s.loop.bridge.slotMap.lookup id = some k ↔ id ∈ s.registry.cameras) ∧
      FaceRow id ((s.registry.cameras.lookup id).map (CameraSlot.of cfg)) (s.loop.row k) := by
  have hfaces : Faces cfg _ s.loop := (LoopRx.shows_of_run hm (rx_run h)).faces
  have hsplit : (before ++ .loop e :: after).filterMap Label.rx? =
      before.filterMap Label.rx? ++ [.received e] ++ after.filterMap Label.rx? := by
    rw [List.filterMap_append, List.filterMap_cons, List.append_assoc]
    rfl
  have hrx := rx_run h
  rw [hsplit] at hrx hfaces
  obtain ⟨t, hbefore, hafter⟩ := hrx.append_inv
  obtain ⟨_, _, hreceived⟩ := hbefore.snoc_inv
  have hnone : ∀ n, .lagged n ∉ after.filterMap Label.rx? := by
    intro n hn
    obtain ⟨l, hl, hlagged⟩ := List.mem_filterMap.mp hn
    cases l <;> cases hlagged
    exact hlag n hl
  have htouch : LoopRx.InTouch cfg id (before.filterMap Label.rx? ++ [.received e]) t :=
    LoopRx.inTouch_of_decides hreceived he
  have hend := htouch.run hafter hnone
  have hface := hend.registered (announced_of_run h) hdrained
  refine ⟨?_, hface ▸ hfaces.owned id k hown⟩
  rw [hfaces.bound, hface, Option.isSome_map, Finmap.lookup_isSome]
  exact and_iff_right hown

omit [UnicodeTables] [UrlCrate] in
/-- A camera arrives and nothing else happens. -/
theorem lag_heals_one_arrival :
    letI := asciiTables
    letI := rtspUrls
    let cfg : LoopConfig := ⟨∅, "admin", "pass"⟩
    let camera := CameraDevice.bare "SN-1"
    ∃ s, Run (Step cfg ⟨"admin", "pass"⟩ id) (start ⟨∅, 8, 7⟩ ∅)
        [.op (.addCamera camera), .loop (.added camera)] s ∧
      FaceRow "SN-1" (some (.of cfg camera)) (s.loop.row 7) := by
  intro cfg camera
  let _ := asciiTables
  let _ := rtspUrls
  let registry := (CameraRegistry.new 64).addCamera camera
  obtain ⟨loop, hloop, _⟩ := loop_faces cfg bridgeSlots_empty [.added camera]
  have hevent : (BridgeLoop.start ⟨∅, 8, 7⟩).handleEvent cfg (.added camera) = some loop := hloop
  have hrun : Run (Step cfg ⟨"admin", "pass"⟩ id) (start ⟨∅, 8, 7⟩ ∅)
      ([.op (.addCamera camera)] ++ .loop (.added camera) :: [])
      ⟨registry, 1, loop, ⟨0, .receiving, ∅⟩⟩ :=
    Run.cons .op (Run.one (.loop (s := ⟨registry, 0, BridgeLoop.start ⟨∅, 8, 7⟩, _⟩) rfl hevent))
  have hown : loop.slotMap.map.lookup "SN-1" = some 7 := by
    cases hevent
    rfl
  exact ⟨_, hrun, (lag_heals bridgeSlots_empty hrun rfl (by simp) rfl hown).2⟩

end System

end MatterBridge.Bridge
