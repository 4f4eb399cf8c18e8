import MatterBridge.Bridge.Admission
import MatterBridge.Bridge.LaggedLoop
import MatterBridge.Bridge.SelectLoop

/-!
# Static mode, end to end

Every configured address is connected once, and then nothing ever changes again. What
the endpoints come to show is therefore a function of the connect results alone: whichever
way discovery, channel and loop interleave, each camera shows its last record, and the
endpoints went to the cameras that were connected first.
-/
namespace MatterBridge.Bridge

open MatterBridge.Core MatterBridge.Onvif MatterBridge.Slots

/-- The records the connects returned, in order. -/
def connected (results : List ConnectResult) : List CameraDevice :=
  results.filterMap Except.toOption

/-- The last record of a camera. -/
def lastConnected (id : String) (cameras : List CameraDevice) : Option CameraDevice :=
  cameras.reverse.find? fun camera => camera.id = id

theorem lastConnected_snoc (id : String) (cameras : List CameraDevice) (camera : CameraDevice) :
    lastConnected id (cameras ++ [camera]) =
      if camera.id = id then some camera else lastConnected id cameras := by
  rw [lastConnected, List.reverse_append, List.reverse_singleton, List.singleton_append,
    List.find?_cons]
  by_cases h : camera.id = id
  · simp [h]
  · simp [h, lastConnected]

/-! ## The registry -/

/-- A registry to which just these cameras have been added. -/
structure Holds (cameras : List CameraDevice) (r : CameraRegistry) : Prop where
  latest : ∀ id, r.cameras.lookup id = lastConnected id cameras
  log : Run Announce ∅ r.tx.sent r.cameras
  ids : r.tx.sent.map RegistryEvent.cameraId = cameras.map CameraDevice.id

theorem holds_new (capacity : Nat) : Holds [] (.new capacity) where
  latest id := Finmap.lookup_empty id
  log := Run.refl
  ids := rfl

theorem Holds.add {cameras : List CameraDevice} {r : CameraRegistry} (h : Holds cameras r)
    (camera : CameraDevice) : Holds (cameras ++ [camera]) (r.addCamera camera) := by
  have hcases : ∃ e, (r.addCamera camera).tx.sent = r.tx.sent ++ [e] ∧ e.record? = some camera ∧
      Announce r.cameras e (r.addCamera camera).cameras := by
    by_cases hmem : camera.id ∈ r.cameras
    · have hadd : r.addCamera camera = ⟨r.cameras.insert camera.id camera,
          r.tx.send (.updated camera)⟩ := if_pos hmem
      rw [hadd]
      exact ⟨.updated camera, rfl, rfl, hmem, rfl⟩
    · have hadd : r.addCamera camera = ⟨r.cameras.insert camera.id camera,
          r.tx.send (.added camera)⟩ := if_neg hmem
      rw [hadd]
      exact ⟨.added camera, rfl, rfl, hmem, rfl⟩
  obtain ⟨e, hsent, hrecord, hannounce⟩ := hcases
  have hid := RegistryEvent.id_of_record hrecord
  refine ⟨fun id => ?_, ?_, ?_⟩
  · rw [hannounce.2, lastConnected_snoc]
    by_cases he : camera.id = id
    · rw [if_pos he, ← he, hid, e.lookup_replay_self, hrecord]
    · rw [if_neg he, RegistryEvent.lookup_replay_ne fun h => he (hid.trans h.symm), h.latest]
  · rw [hsent]
    exact h.log.snoc hannounce
  · rw [hsent, List.map_append, List.map_append, h.ids, List.map_singleton, List.map_singleton, hid]

/-! ## The loop -/

section

variable [UnicodeTables] {cfg : LoopConfig}

/-- The loop after the events: what the slots show, and which cameras have one. -/
structure Follower (cfg : LoopConfig) (base : Finset String) (events : List RegistryEvent)
    (s : BridgeLoop) : Prop where
  faces : Faces cfg events s
  keys : s.slotMap.map.keys = enrolled maxCameras base (events.map RegistryEvent.cameraId)

omit [UnicodeTables] in
theorem keys_reassign {m : SlotMap} (hm : BridgeSlots m) {e : RegistryEvent}
    {base : Finset String} {ids : List String} (h : m.map.keys = enrolled maxCameras base ids)
    (hknown : (∃ camera, e = .added camera) ∨ e.cameraId ∈ came base ids) :
    (BridgeLoop.reassign m e).map.keys = enrolled maxCameras base (ids ++ [e.cameraId]) := by
  have hfit : m.withOccupancy ≤ m.capacity := by
    rw [hm.capacity, hm.pools]
    decide
  cases e with
  | added camera =>
    rw [enrolled_snoc, ← h, ← hm.capacity]
    exact SlotMap.keys_assign hfit hm.inRange hm.exclusive camera.id camera.supportsMotion
  | updated camera =>
    rw [enrolled_snoc_again (hknown.resolve_left (by simp))]
    exact h
  | removed id =>
    rw [enrolled_snoc_again (hknown.resolve_left (by simp))]
    exact h

theorem Follower.step {base : Finset String} {events : List RegistryEvent} {s : BridgeLoop}
    (h : Follower cfg base events s) {m m' : HashMap String CameraDevice}
    (hlog : Run Announce ∅ events m) {e : RegistryEvent} (he : Announce m e m') :
    ∃ t, s.handleEvent cfg e = some t ∧ Follower cfg base (events ++ [e]) t := by
  obtain ⟨t, ht, hfaces⟩ := h.faces.step e
  have hbounds : s.InBounds := ⟨h.faces.slots.capacity, h.faces.slots.pools, h.faces.slots.inRange,
    fun id slot hid => h.faces.slots.lt ((h.faces.bound id slot).mp hid).1⟩
  refine ⟨t, ht, hfaces, ?_⟩
  rw [hbounds.slotMap_step ht, List.map_append, List.map_singleton]
  refine keys_reassign h.faces.slots h.keys ?_
  have hagain : e.cameraId ∈ m → e.cameraId ∈ came base (events.map RegistryEvent.cameraId) := by
    intro hmem
    obtain ⟨e', he', hid⟩ := announced_of_mem hlog hmem
    exact Finset.mem_union_right base
      (List.mem_toFinset.mpr (hid ▸ List.mem_map_of_mem he'))
  cases e with
  | added camera => exact Or.inl ⟨camera, rfl⟩
  | updated camera => exact Or.inr (hagain he.1)
  | removed id => exact Or.inr (hagain he.1)

theorem follower_start {m : SlotMap} (hm : BridgeSlots m) :
    Follower cfg m.map.keys [] (BridgeLoop.start m) :=
  ⟨faces_start hm, rfl⟩

end

namespace SelectLoop

section

variable [UnicodeTables] {cfg : LoopConfig}

/-- The connects still to come. -/
def pending (s : SelectLoop) : List CameraDevice :=
  match s.task with
  | .scanning results => connected results
  | .auto => []
  | .finished => []

/-- Each connected camera is pending, in the channel or in the registry; the loop follows
the registry. -/
structure Account (cfg : LoopConfig) (results : List ConnectResult) (base : Finset String)
    (s : SelectLoop) : Prop where
  inv : Inv (.static results) s
  split : ∃ taken queued, connected results = taken ++ queued ++ s.pending ∧
    s.channel = queued.map .cameraFound ∧ Holds taken s.registry
  closed : s.discoveryDisabled = true → s.task = .finished ∧ s.channel = []
  loop : ∃ loop, s.loop = some loop ∧
    s.registry.tx.Follows s.next fun events => Follower cfg base events loop

omit [UnicodeTables] in
/-- In static mode what the loop has not taken fits the buffer. -/
theorem Inv.fits {results : List ConnectResult} {s : SelectLoop}
    (h : Inv (.static results) s) : s.task ≠ .auto ∧ s.registryDisabled = false ∧
      (s.registry.tx.unread s.next).length ≤ s.registry.tx.capacity := by
  obtain ⟨htask, hback, hdisabled, _⟩ := h.alive
  refine ⟨htask, hdisabled, ?_⟩
  unfold backlog at hback
  rw [h.capacity, registryCapacity]
  omega

/-- The next event the loop takes continues the log it has followed. -/
theorem Account.take {results : List ConnectResult} {base : Finset String} {s : SelectLoop}
    (h : Account cfg results base s) {e : RegistryEvent} {next : Nat}
    (hrecv : s.registry.tx.recv s.next = some (.ok e, next)) {loop : BridgeLoop}
    (hloop : s.loop = some loop) :
    ∃ t, loop.handleEvent cfg e = some t ∧
      s.registry.tx.Follows next fun events => Follower cfg base events t := by
  obtain ⟨loop', hloop', hfollows⟩ := h.loop
  obtain rfl := Option.some.inj (hloop.symm.trans hloop')
  obtain ⟨_, _, _, _, hholds⟩ := h.split
  have hsent : s.registry.tx.sent =
      (s.registry.tx.seen s.next ++ [e]) ++ s.registry.tx.unread next := by
    rw [← (Broadcast.recv_ok_seen hrecv).1, Broadcast.seen_append_unread]
  have hlog := hholds.log
  rw [hsent] at hlog
  obtain ⟨_, hseen, _⟩ := hlog.append_inv
  obtain ⟨_, hbefore, hannounce⟩ := hseen.snoc_inv
  obtain ⟨t, ht, hnext⟩ := hfollows.holds.step hbefore hannounce
  exact ⟨t, ht, hfollows.received hrecv fun _ => hnext⟩

theorem Account.step {results : List ConnectResult} {base : Finset String} {s t : SelectLoop}
    {l : Label} (h : Account cfg results base s) (hs : Step cfg s l t) :
    Account cfg results base t := by
  have hinv := h.inv.step hs
  obtain ⟨taken, queued, hsplit, hchan, hholds⟩ := h.split
  cases hs with
  | @connected camera rest hscan _ hroom =>
    have hpending : s.pending = camera :: connected rest := by
      rw [pending, hscan]
      rfl
    refine ⟨hinv, ⟨taken, queued ++ [camera], ?_, ?_, hholds⟩, fun hd => ?_, h.loop⟩
    · rw [hsplit, hpending]
      simp [pending]
    · rw [List.map_append, ← hchan]
      rfl
    · have hclosed := (h.closed hd).1
      rw [hscan] at hclosed
      cases hclosed
  | @connectFailed message rest hscan =>
    have hpending : s.pending = connected rest := by
      rw [pending, hscan]
      rfl
    refine ⟨hinv, ⟨taken, queued, ?_, hchan, hholds⟩, fun hd => ?_, h.loop⟩
    · rw [hsplit, hpending]
      rfl
    · have hclosed := (h.closed hd).1
      rw [hscan] at hclosed
      cases hclosed
  | finish hscan =>
    have hpending : s.pending = [] := by
      rw [pending, hscan]
      rfl
    refine ⟨hinv, ⟨taken, queued, ?_, hchan, hholds⟩, fun hd => ⟨rfl, (h.closed hd).2⟩, h.loop⟩
    rw [hsplit, hpending]
    rfl
  | scanned hauto _ _ => exact absurd hauto h.inv.fits.1
  | @discovery e rest loop hloop hopen hcons =>
    rw [hchan] at hcons
    cases queued with
    | nil => cases hcons
    | cons camera queued =>
      obtain ⟨rfl, rfl⟩ := List.cons.inj hcons
      obtain ⟨loop', hloop', hfollows⟩ := h.loop
      obtain ⟨es, hsent, _⟩ := s.registry.apply_log (.addCamera camera)
      refine ⟨hinv, ⟨taken ++ [camera], queued, ?_, rfl, hholds.add camera⟩, fun hd => ?_,
        loop', hloop', hfollows.sent hsent⟩
      · rw [hsplit]
        simp [pending]
      · cases hd
  | discoveryClosed _ _ hempty hfin =>
    exact ⟨hinv, ⟨taken, queued, hsplit, hchan, hholds⟩, fun _ => ⟨hfin, hempty⟩, h.loop⟩
  | @registry e next loop hloop _ hrecv =>
    obtain ⟨t, ht, hfollows⟩ := h.take hrecv hloop
    exact ⟨hinv, ⟨taken, queued, hsplit, hchan, hholds⟩, fun hd => absurd hd Bool.false_ne_true,
      t, ht, hfollows⟩
  | registryLagged _ _ hrecv => exact absurd hrecv (Broadcast.not_lagged h.inv.fits.2.2)

/-! ## Every schedule ends -/

/-- Four steps for a connect still to come, and one to finish. -/
def taskWork : DiscoveryTask → Nat
  | .scanning results => 4 * results.length + 1
  | .auto => 0
  | .finished => 0

/-- Three more for a queued record, two for an event the loop has not taken, one for
noticing that discovery has ended. -/
def work (s : SelectLoop) : Nat :=
  taskWork s.task + 3 * s.channel.length + 2 * (s.registry.tx.unread s.next).length +
    if s.discoveryDisabled then 0 else 1

theorem Account.work_step {results : List ConnectResult} {base : Finset String} {s t : SelectLoop}
    {l : Label} (h : Account cfg results base s) (hs : Step cfg s l t) :
    t.work + 1 ≤ s.work := by
  cases hs with
  | @connected camera rest hscan _ hroom =>
    simp only [work, taskWork, hscan, List.length_append, List.length_cons, List.length_nil]
    omega
  | @connectFailed message rest hscan =>
    simp only [work, taskWork, hscan, List.length_cons]
    omega
  | finish hscan =>
    simp only [work, taskWork, hscan, List.length_nil]
    omega
  | scanned hauto _ _ => exact absurd hauto h.inv.fits.1
  | @discovery e rest loop hloop hopen hcons =>
    have hgrow := (length_onDiscovery s.registry e).1
    simp only [work, hcons, hopen, List.length_cons, Broadcast.unread, List.length_drop]
    omega
  | discoveryClosed _ hopen _ _ =>
    simp only [work, hopen, if_true, Bool.false_eq_true, if_false]
    omega
  | @registry e next loop hloop _ hrecv =>
    have hless := Broadcast.length_unread_recv hrecv
    simp only [work, Bool.false_eq_true, if_false]
    split <;> omega
  | registryLagged _ _ hrecv => exact absurd hrecv (Broadcast.not_lagged h.inv.fits.2.2)

/-- Nothing is left to do: every connect was made and every event was handled. -/
structure Settled (s : SelectLoop) : Prop where
  task : s.task = .finished
  channel : s.channel = []
  unread : s.registry.tx.unread s.next = []
  noticed : s.discoveryDisabled = true

/-- A branch that is ready can be taken. -/
theorem idle_of_stuck {s : SelectLoop} {loop : BridgeLoop} (hloop : s.loop = some loop)
    (hstuck : ∀ l t, ¬ Step cfg s l t) : s.Idle := by
  constructor
  · rintro ⟨hopen, hor⟩
    cases hchan : s.channel with
    | cons e rest => exact hstuck _ _ (.discovery hloop hopen hchan)
    | nil =>
      have hfin := hor.resolve_left (not_not_intro hchan)
      exact hstuck _ _ (.discoveryClosed hloop hopen hchan hfin)
  · rintro ⟨hopen, hready⟩
    rcases Broadcast.exists_recv (Broadcast.recv_ne_none.mp hready) with
      ⟨e, next, hrecv⟩ | ⟨missed, next, hrecv⟩
    · exact hstuck _ _ (.registry hloop hopen hrecv)
    · exact hstuck _ _ (.registryLagged hloop hopen hrecv)

/-- While something is left, some step can be taken. -/
theorem Account.settled_iff {results : List ConnectResult} {base : Finset String} {s : SelectLoop}
    (h : Account cfg results base s) : (∀ l t, ¬ Step cfg s l t) ↔ s.Settled := by
  obtain ⟨htask, hregistry, _⟩ := h.inv.fits
  obtain ⟨loop, hloop, _⟩ := h.loop
  constructor
  · intro hstuck
    have hidle := idle_of_stuck hloop hstuck
    have hempty : s.channel = [] := by
      by_contra hne
      by_cases hd : s.discoveryDisabled = true
      · exact hne (h.closed hd).2
      · exact hidle.1 ⟨by simpa using hd, Or.inl hne⟩
    have hfin : s.task = .finished := by
      cases hscan : s.task with
      | auto => exact absurd hscan htask
      | finished => rfl
      | scanning results =>
        cases results with
        | nil => exact absurd (.finish hscan) (hstuck _ _)
        | cons r rest =>
          cases r with
          | error message => exact absurd (.connectFailed hscan) (hstuck _ _)
          | ok camera =>
            have hroom : s.channel.length < channelCapacity := by
              rw [hempty]
              decide
            exact absurd (.connected hscan hidle hroom) (hstuck _ _)
    have hnoticed : s.discoveryDisabled = true := by
      by_contra hd
      exact hidle.1 ⟨by simpa using hd, Or.inr hfin⟩
    refine ⟨hfin, hempty, ?_, hnoticed⟩
    by_contra hne
    exact hidle.2 ⟨hregistry, Broadcast.recv_ne_none.mpr hne⟩
  · intro hsettled l t hs
    cases hs with
    | connected hscan _ _ => rw [hsettled.task] at hscan; cases hscan
    | connectFailed hscan => rw [hsettled.task] at hscan; cases hscan
    | finish hscan => rw [hsettled.task] at hscan; cases hscan
    | scanned hauto _ _ => exact htask hauto
    | discovery _ _ hcons => rw [hsettled.channel] at hcons; cases hcons
    | discoveryClosed _ hopen _ _ => rw [hsettled.noticed] at hopen; cases hopen
    | registry _ _ hrecv =>
      have hnext := (Broadcast.recv_ok hrecv).1
      rw [hsettled.unread] at hnext
      cases hnext
    | registryLagged _ _ hrecv => exact Broadcast.not_lagged h.inv.fits.2.2 hrecv

variable [SerdeJson]

theorem account_start (results : List ConnectResult) {file : SlotFile}
    (hfile : (SlotMap.load file maxCameras withOccupancyCameras).map.Injective) :
    Account cfg results (SlotMap.load file maxCameras withOccupancyCameras).map.keys
      (start (.static results) file) where
  inv := inv_start _ file
  split := ⟨[], [], rfl, rfl, holds_new registryCapacity⟩
  closed hd := absurd hd Bool.false_ne_true
  loop := ⟨BridgeLoop.boot file, rfl, Nat.zero_le _,
    follower_start ⟨rfl, rfl, SlotMap.inRange_load file _ _, hfile⟩⟩

/-- **Static mode settles on a function of the connects.** With a slot file that gives no
slot to two cameras, every schedule ends, within four steps for each configured address and
two more, and only once nothing is left to do. Then the registry has the last record of each
camera, the endpoints belong to the cameras of the slot file and those connected first, and
each of them shows its camera's last record, or nothing. -/
theorem static_mode_settles {results : List ConnectResult} {file : SlotFile}
    (hfile : (SlotMap.load file maxCameras withOccupancyCameras).map.Injective)
    {labels : List Label} {s : SelectLoop}
    (h : Run (Step cfg) (start (.static results) file) labels s) :
    labels.length ≤ 4 * results.length + 2 ∧ ((∀ l t, ¬ Step cfg s l t) ↔ s.Settled) ∧
    (s.Settled → ∃ loop, s.loop = some loop ∧
      loop.slotMap.map.keys = enrolled maxCameras
        (SlotMap.load file maxCameras withOccupancyCameras).map.keys
        ((connected results).map CameraDevice.id) ∧
      ∀ id, s.registry.cameras.lookup id = lastConnected id (connected results) ∧
        ∀ k, loop.slotMap.map.lookup id = some k →
          (loop.bridge.slotMap.lookup id = some k ↔
            (lastConnected id (connected results)).isSome) ∧
          FaceRow id ((lastConnected id (connected results)).map (CameraSlot.of cfg))
            (loop.row k)) := by
  obtain ⟨hacc, hlen⟩ := h.history (fun labels s => Account cfg results
      (SlotMap.load file maxCameras withOccupancyCameras).map.keys s ∧
        labels.length + s.work ≤ 4 * results.length + 2)
    ⟨account_start results hfile, by simp [work, start, DiscoveryMode.task, taskWork,
      CameraRegistry.new, Broadcast.unread]⟩ fun labels t l u ht hstep => by
      have hless := ht.1.work_step hstep
      refine ⟨ht.1.step hstep, ?_⟩
      have hle := ht.2
      rw [List.length_append, List.length_singleton]
      omega
  refine ⟨by omega, hacc.settled_iff, fun hsettled => ?_⟩
  obtain ⟨taken, queued, hsplit, hchan, hholds⟩ := hacc.split
  obtain ⟨loop, hloop, hfollows⟩ := hacc.loop
  have hqueued : queued = [] := by
    rw [hsettled.channel] at hchan
    exact List.map_eq_nil_iff.mp hchan.symm
  have hpending : s.pending = [] := by
    rw [pending, hsettled.task]
  rw [hqueued, hpending, List.append_nil, List.append_nil] at hsplit
  have hfollower := hfollows.drained hsettled.unread
  refine ⟨loop, hloop, ?_, fun id => ⟨hsplit ▸ hholds.latest id, fun k hk => ?_⟩⟩
  · rw [hfollower.keys, hholds.ids, hsplit]
  · have hface : face cfg id s.registry.tx.sent =
        (lastConnected id (connected results)).map (CameraSlot.of cfg) := by
      rw [face_of_announced hholds.log, hholds.latest, hsplit]
    refine ⟨?_, hface ▸ hfollower.faces.owned id k hk⟩
    rw [hfollower.faces.bound, hface, Option.isSome_map]
    exact and_iff_right hk

omit [UnicodeTables] [SerdeJson] in
/-- One address, connected, handled and noticed to be the last. -/
theorem static_mode_settles_one_camera :
    letI := asciiTables
    letI := PrettyJson.serdeJson
    let cfg : LoopConfig := ⟨∅, "admin", "pass"⟩
    let camera := CameraDevice.bare "SN-1"
    ∃ s loop, Run (Step cfg) (start (.static [.ok camera]) none) [.connected,
        .discovery (.cameraFound camera), .registry (.added camera), .finish, .discoveryClosed] s ∧
      s.loop = some loop ∧ FaceRow "SN-1" (some (.of cfg camera)) (loop.row 7) := by
  intro cfg camera
  let _ := asciiTables
  let _ := PrettyJson.serdeJson
  let started := start (.static [.ok camera]) none
  let queued : SelectLoop := { started with
    task := .scanning []
    channel := [.cameraFound camera] }
  let registered : SelectLoop := { queued with
    channel := []
    registry := onDiscovery started.registry (.cameraFound camera) }
  let handled : SelectLoop := { registered with
    next := 1
    loop := (BridgeLoop.boot none).handleEvent cfg (.added camera) }
  let finished : SelectLoop := { handled with task := .finished }
  have hidle : started.Idle := ⟨by simp [started, start, DiscoveryReady, DiscoveryMode.task],
    fun h => h.2 rfl⟩
  have hconnected : Step cfg started .connected queued := .connected rfl hidle (by decide)
  have htaken : Step cfg queued (.discovery (.cameraFound camera)) registered :=
    .discovery rfl rfl rfl
  have hadded : Step cfg registered (.registry (.added camera)) handled := .registry rfl rfl rfl
  have hfinish : Step cfg handled .finish finished := .finish rfl
  have hhandled : ∃ loop, (BridgeLoop.boot none).handleEvent cfg (.added camera) = some loop ∧
      loop.slotMap.map.lookup "SN-1" = some 7 := ⟨_, rfl, rfl⟩
  obtain ⟨loop, hloop, hslot⟩ := hhandled
  have hclosed : Step cfg finished .discoveryClosed { finished with discoveryDisabled := true } :=
    .discoveryClosed hloop rfl rfl rfl
  have hrun := Run.cons hconnected (Run.cons htaken (Run.cons hadded (Run.cons hfinish
    (Run.one hclosed))))
  obtain ⟨_, _, hshown⟩ := static_mode_settles HashMap.injective_empty hrun
  obtain ⟨loop', hloop', _, hall⟩ := hshown ⟨rfl, rfl, rfl, rfl⟩
  obtain rfl := Option.some.inj (hloop.symm.trans hloop')
  exact ⟨_, loop, hrun, hloop, ((hall "SN-1").2 7 hslot).2⟩

end

end SelectLoop

end MatterBridge.Bridge
