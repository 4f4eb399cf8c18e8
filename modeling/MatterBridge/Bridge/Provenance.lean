import MatterBridge.Bridge.Config
import MatterBridge.Bridge.DataVersion
import MatterBridge.Bridge.LaggedLoop
import MatterBridge.Bridge.Reachability
import MatterBridge.Onvif.Client

/-!
# Where the shown information comes from

What a controller reads of a camera in auto mode was said by one device in one connect: the
first that found the camera while it was not tracked. Later connects refresh the discovered
map and nothing else, so the information stands until the camera is lost.
-/
namespace MatterBridge.Bridge

open MatterBridge.Core MatterBridge.Onvif MatterBridge.Slots
open BridgedHandler (AttributeId AttributeValue)

/-! ## The scan that brought a camera in -/

/-- The camera has been tracked since `scan` and was not before. -/
structure Began (id : String) (before : List Scan) (scan : Scan) (after : List Scan) : Prop where
  untracked : ¬ RecentlyFound id before
  tracked : ∀ later, later <+: after → RecentlyFound id (before ++ scan :: later)

/-- `camera` is the record that began the present time of being tracked. -/
def Introduced (id : String) (camera : CameraDevice) (hist : List Scan) : Prop :=
  ∃ before scan after, hist = before ++ scan :: after ∧ Began id before scan after ∧
    ∃ rest, recordsFor id scan.results = camera :: rest

theorem Introduced.snoc {id : String} {camera : CameraDevice} {hist : List Scan} {scan : Scan}
    (h : Introduced id camera hist) (hr : RecentlyFound id (hist ++ [scan])) :
    Introduced id camera (hist ++ [scan]) := by
  obtain ⟨before, first, after, rfl, hbegan, hrecords⟩ := h
  refine ⟨before, first, after ++ [scan], by simp, ⟨hbegan.untracked, ?_⟩, hrecords⟩
  intro later hlater
  rcases List.prefix_concat_iff.mp hlater with rfl | hlater
  · simpa using hr
  · exact hbegan.tracked later hlater

/-- Found while it was not tracked. -/
theorem introduced_found {id : String} {hist : List Scan} {scan : Scan} {first : CameraDevice}
    {rest : List CameraDevice} (hn : ¬ RecentlyFound id hist)
    (hr : recordsFor id scan.results = first :: rest) :
    Introduced id first (hist ++ [scan]) := by
  refine ⟨hist, scan, [], rfl, ⟨hn, ?_⟩, rest, hr⟩
  intro later hlater
  rw [List.prefix_nil.mp hlater]
  exact present_snoc_seen (Scan.found_of_records hr) (by decide)

/-- The registry has the record that began each camera's present time of being tracked. -/
theorem introduced_step {hist : List Scan} {s t : Intake} {l : Intake.Label} (hc : Covers hist s)
    (h : ∀ id camera, s.drained.cameras.lookup id = some camera → Introduced id camera hist)
    (hs : Intake.Step s l t) : ∀ id camera, t.drained.cameras.lookup id = some camera →
      Introduced id camera (hist ++ Intake.scansOf [l]) := by
  intro id camera hl
  cases l with
  | discovery =>
    rw [hs.drained_discovery] at hl
    rw [show Intake.scansOf [.discovery] = [] from rfl, List.append_nil]
    exact h id camera hl
  | scan scan =>
    rw [hs.drained_scan, lookup_onDiscoveries] at hl
    rw [show Intake.scansOf [.scan scan] = [scan] from rfl]
    have hknown := hc.ids id
    have htracked := (hc.tracks id).record
    cases hs with
    | scan hscan =>
      rcases (hc.tracks id).scan_cases hscan with ⟨first, rest, hr, _, he⟩ | ⟨_, hd, _, he⟩ |
        ⟨_, _, _, _, he⟩ | ⟨hr, hp, hm, _, he⟩
      · rw [he] at hl
        split at hl
        · exact (h id camera hl).snoc
            (present_snoc_seen (Scan.found_of_records hr) (by decide))
        · rename_i hd
          obtain rfl : first = camera := Option.some.inj hl
          exact introduced_found (fun hp => hd (htracked.mpr hp)) hr
      · -- A camera that is not tracked is not registered either.
        rw [he, List.foldl_nil] at hl
        rw [hl, hd] at hknown
        cases hknown
      · rw [he] at hl
        cases hl
      · rw [he] at hl
        exact (h id camera hl).snoc
          ((present_snoc_unseen (Scan.not_found_of_records hr)).mpr ⟨hp, hm⟩)

theorem introduced_of_run {labels : List Intake.Label} {s : Intake}
    (h : Run Intake.Step Intake.start labels s) {id : String} {camera : CameraDevice}
    (hl : s.drained.cameras.lookup id = some camera) :
    Introduced id camera (Intake.scansOf labels) := by
  refine (h.history (fun labels s => Covers (Intake.scansOf labels) s ∧
    ∀ id camera, s.drained.cameras.lookup id = some camera →
      Introduced id camera (Intake.scansOf labels)) ⟨covers_start, ?_⟩ ?_).2 id camera hl
  · intro id camera hl
    simp [Intake.start, Intake.drained, CameraRegistry.new] at hl
  · intro labels t l u hinv hstep
    obtain ⟨hc, hi⟩ := hinv
    rw [Intake.scansOf_append]
    exact ⟨hc.step hstep, introduced_step hc hi hstep⟩

/-! ## One scan and what it meets -/

/-- What comes from outside in one scan: the XAddrs of the devices that answered the probe,
the order of the merged map and the replies of every device. -/
structure Sweep (parse : String → Option ParsedUrl) (staticCameras : List String) where
  found : List (List String)
  order : (seenDevices (probe parse found) (parseStaticCameras staticCameras)).Enumeration
  replies : DeviceAddress → DeviceReplies

namespace Sweep

variable {parse : String → Option ParsedUrl} {staticCameras : List String}

def devices (sweep : Sweep parse staticCameras) : List DeviceAddress :=
  mergeDevices (probe parse sweep.found) (parseStaticCameras staticCameras) sweep.order

def connect (sweep : Sweep parse staticCameras) (device : DeviceAddress) : ConnectResult :=
  connectCamera device.hostname device.port (sweep.replies device)

/-- The connect results of the scan. -/
def results (sweep : Sweep parse staticCameras) : List ConnectResult :=
  sweep.devices.map sweep.connect

/-- The address is configured, or probed and its host is not configured. -/
def Named (sweep : Sweep parse staticCameras) (device : DeviceAddress) : Prop :=
  device ∈ parseStaticCameras staticCameras ∨
    device ∈ probe parse sweep.found ∧
      ∀ other ∈ parseStaticCameras staticCameras, other.hostname ≠ device.hostname

theorem named_of_mem {sweep : Sweep parse staticCameras} {device : DeviceAddress}
    (h : device ∈ sweep.devices) : sweep.Named device := by
  rcases Option.or_eq_some_iff.mp (mem_mergeDevices.mp h) with hs | ⟨hs, hp⟩
  · exact Or.inl (hostname_of_firstWith hs).1
  · refine Or.inr ⟨(hostname_of_firstWith hp).1, fun other ho hh => ?_⟩
    have hsome := firstWith_isSome.mpr ⟨other, ho, hh⟩
    rw [hs] at hsome
    cases hsome

/-- The device at `device` was connected to and said `info` of itself. -/
structure Answered (sweep : Sweep parse staticCameras) (device : DeviceAddress)
    (info : DeviceInfo) : Prop where
  named : sweep.Named device
  connected : ∃ camera, sweep.connect device = .ok camera
  said : (sweep.replies device).deviceInformation = .ok info

/-- Of the devices that are tried in this scan and connect as `id`, this one is the first. -/
def First (sweep : Sweep parse staticCameras) (id : String) (device : DeviceAddress) : Prop :=
  ∃ before after, sweep.devices = before ++ device :: after ∧
    ∀ other ∈ before, ∀ camera, sweep.connect other = .ok camera → camera.id ≠ id

end Sweep

/-- The settings the bridge loop is started with. -/
def Config.loop (config : Config) : LoopConfig :=
  ⟨config.onvif.cameraNames, config.onvif.username, config.onvif.password⟩

/-- What an endpoint tells of a device at `device` that said `info` of itself. -/
def identity (names : HashMap String String) (device : DeviceAddress) (info : DeviceInfo) :
    AttributeId → AttributeValue
  | .reachable => .bool true
  | .uniqueId => .utf8 (deriveCameraId info.serialNumber device.hostname device.port)
  | .vendorName => .utf8 info.manufacturer
  | .productName => .utf8 info.model
  | .nodeLabel => .utf8 (((names.lookup info.serialNumber).or
      (names.lookup (deriveCameraId info.serialNumber device.hostname device.port))).or
      (names.lookup device.hostname) |>.getD (info.manufacturer ++ " " ++ info.model))
  | .serialNumber => .utf8 info.serialNumber
  | .hardwareVersionString => .utf8 info.hardwareId
  | .softwareVersionString => .utf8 info.firmwareVersion

/-- A record made by a connect shows the identity of the device that answered. -/
theorem read_of_connect {cfg : LoopConfig} {device : DeviceAddress} {replies : DeviceReplies}
    {camera : CameraDevice} (h : connectCamera device.hostname device.port replies = .ok camera)
    (attr : AttributeId) : BridgedHandler.read (.of cfg camera) attr =
      identity cfg.cameraNames device camera.deviceInfo attr := by
  obtain ⟨_, hhost, hid⟩ := connectCamera_identity h
  cases attr with
  | uniqueId => exact congrArg AttributeValue.utf8 hid
  | nodeLabel =>
    rw [identity, ← hid, ← hhost]
    rfl
  | _ => rfl

/-- The endpoint that shows `shown` tells what the device at `device` said in this scan, and
by that the camera is `id`. -/
structure Sweep.Told {parse : String → Option ParsedUrl} {staticCameras : List String}
    (sweep : Sweep parse staticCameras) (names : HashMap String String) (id : String)
    (shown : CameraSlot) (device : DeviceAddress) (info : DeviceInfo) : Prop
    extends sweep.Answered device info where
  id : deriveCameraId info.serialNumber device.hostname device.port = id
  reads : ∀ attr, BridgedHandler.read shown attr = identity names device info attr

theorem Sweep.told_of_connect {parse : String → Option ParsedUrl} {staticCameras : List String}
    {sweep : Sweep parse staticCameras} {device : DeviceAddress} {camera : CameraDevice}
    (hd : device ∈ sweep.devices) (hc : sweep.connect device = .ok camera) (cfg : LoopConfig) :
    sweep.Told cfg.cameraNames camera.id (.of cfg camera) device camera.deviceInfo where
  named := named_of_mem hd
  connected := ⟨camera, hc⟩
  said := (connectCamera_identity hc).1
  id := (connectCamera_identity hc).2.2.symm
  reads := read_of_connect hc

/-- The first record of a camera comes from the first device that connected as it. -/
theorem Sweep.first_of_records {parse : String → Option ParsedUrl} {staticCameras : List String}
    {sweep : Sweep parse staticCameras} {id : String} {first : CameraDevice}
    {rest : List CameraDevice} (h : recordsFor id sweep.results = first :: rest) :
    ∃ device, sweep.First id device ∧ sweep.connect device = .ok first ∧ first.id = id := by
  rw [results, recordsFor, List.filterMap_map, List.filterMap_eq_cons_iff] at h
  obtain ⟨before, device, after, hsplit, hbefore, hdevice, _⟩ := h
  refine ⟨device, ⟨before, after, hsplit, fun other ho camera hc hid => ?_⟩, ?_⟩
  · have hnone := hbefore other ho
    rw [Function.comp_apply, hc] at hnone
    exact absurd hid (by simpa using hnone)
  · cases hc : sweep.connect device with
    | error message =>
      rw [Function.comp_apply, hc] at hdevice
      cases hdevice
    | ok camera =>
      rw [Function.comp_apply, hc] at hdevice
      simp only [Option.ite_none_right_eq_some, Option.some.injEq] at hdevice
      obtain ⟨hid, rfl⟩ := hdevice
      exact ⟨rfl, hid⟩

theorem Sweep.First.mem {parse : String → Option ParsedUrl} {staticCameras : List String}
    {sweep : Sweep parse staticCameras} {id : String} {device : DeviceAddress}
    (h : sweep.First id device) : device ∈ sweep.devices := by
  obtain ⟨before, after, hsplit, _⟩ := h
  rw [hsplit]
  exact List.mem_append_right _ List.mem_cons_self

/-! ## What the slots show -/

/-- What shows a face came in with an event about the camera. -/
theorem face_eq_some {cfg : LoopConfig} {id : String} {events : List RegistryEvent}
    {shown : CameraSlot} (h : face cfg id events = some shown) :
    ∃ e ∈ events, ∃ camera, e.record? = some camera ∧ camera.id = id ∧ shown = .of cfg camera := by
  induction events using List.reverseRecOn with
  | nil => cases h
  | append_singleton events e ih =>
    rw [face_snoc] at h
    have hold : face cfg id events = some shown → ∃ e' ∈ events ++ [e], ∃ camera,
        e'.record? = some camera ∧ camera.id = id ∧ shown = .of cfg camera := by
      intro hs
      obtain ⟨e', he', hc⟩ := ih hs
      exact ⟨e', List.mem_append_left _ he', hc⟩
    have hnew : ∀ camera, e.record? = some camera → camera.id = id → shown = .of cfg camera →
        ∃ e' ∈ events ++ [e], ∃ camera, e'.record? = some camera ∧ camera.id = id ∧
          shown = .of cfg camera :=
      fun camera hr hid hs =>
        ⟨e, List.mem_append_right _ (List.mem_singleton_self e), camera, hr, hid, hs⟩
    cases e with
    | added camera =>
      simp only [see] at h
      split at h
      · exact hnew camera rfl ‹_› (Option.some.inj h).symm
      · exact hold h
    | updated camera =>
      simp only [see] at h
      split at h
      · obtain ⟨_, _, hs⟩ := Option.map_eq_some_iff.mp h
        exact hnew camera rfl ‹_› hs.symm
      · exact hold h
    | removed k =>
      simp only [see] at h
      split at h
      · cases h
      · exact hold h

namespace Auto

variable [UnicodeTables] {cfg : LoopConfig} {m : SlotMap} {labels : List Label} {s t : Auto}

/-- The loop's half of the bridge. -/
def rx (s : Auto) : LoopRx := ⟨s.intake.registry.tx, s.next, s.loop⟩

def Label.rx? : Label → Option LoopRx.Label
  | .intake _ => some .sent
  | .registry e => some (.received e)
  | .lagged missed => some (.lagged missed)

theorem rx_run (h : Run (Step cfg) s labels t) :
    Run (LoopRx.Step cfg) s.rx (labels.filterMap Label.rx?) t.rx := by
  refine h.project Auto.rx Label.rx? fun s l t hs => ?_
  cases hs with
  | intake hi =>
    obtain ⟨es, hsent, _⟩ := hi.log
    exact Or.inl ⟨_, rfl, .sent (s := s.rx) hsent⟩
  | registry hrecv hloop => exact Or.inl ⟨_, rfl, .received (s := s.rx) hrecv hloop⟩
  | lagged hrecv => exact Or.inl ⟨_, rfl, .lagged (s := s.rx) hrecv⟩

theorem shows_of_run (hm : BridgeSlots m) (h : Run (Step cfg) (start m) labels s) :
    LoopRx.Shows cfg (labels.filterMap Label.rx?) s.rx :=
  LoopRx.shows_of_run hm (rx_run h)

/-- A slot that shows something shows a record that some scan obtained, of its owner. -/
theorem obtained_of_shown (hm : BridgeSlots m) (h : Run (Step cfg) (start m) labels s)
    {slot : Nat} (hslot : slot < maxCameras) (hne : s.loop.slots[slot] ≠ .default) :
    ∃ scan ∈ scansOf labels, ∃ camera, .ok camera ∈ scan.results ∧
      s.loop.slotMap.map.lookup camera.id = some slot ∧ s.loop.slots[slot] = .of cfg camera := by
  have hshows := shows_of_run hm h
  have hfaces : Faces cfg _ s.loop := hshows.faces
  have hrow := s.loop.camera_row hslot
  by_cases howned : ∃ id, s.loop.slotMap.map.lookup id = some slot
  · obtain ⟨id, hown⟩ := howned
    have hshown := (hfaces.owned id slot hown).camera
    rw [hrow, Option.some.injEq] at hshown
    cases hface : face cfg id (LoopRx.received (labels.filterMap Label.rx?)) with
    | none =>
      rw [hface] at hshown
      exact absurd hshown hne
    | some shown =>
      obtain ⟨e, he, camera, hrecord, rfl, rfl⟩ := face_eq_some hface
      obtain ⟨es, hsent, _⟩ := s.intake.drained_log
      have hdrained : e ∈ s.intake.drained.tx.sent := by
        rw [hsent]
        exact List.mem_append_left _ (hshows.sent e he)
      obtain ⟨scan, hscan, hok⟩ := Intake.records_of_run (intake_run h) e hdrained camera hrecord
      rw [hface] at hshown
      exact ⟨scan, hscan, camera, hok, hown, hshown⟩
  · have hfree := (hfaces.free slot hslot fun id hid => howned ⟨id, hid⟩).1
    rw [hrow, Option.some.injEq] at hfree
    exact absurd hfree hne

/-- In a settled state of a run without lag a slot shows its owner's registry record. -/
theorem shown_of_settled (hm : BridgeSlots m) (h : Run (Step cfg) (start m) labels s)
    (hlag : ∀ n, .lagged n ∉ labels) (hs : Settled s) {slot : Nat} (hslot : slot < maxCameras)
    {id : String} (hown : s.loop.slotMap.map.lookup id = some slot) :
    s.loop.slots[slot] =
      ((s.intake.registry.cameras.lookup id).map (CameraSlot.of cfg)).getD .default := by
  have hnone : ∀ n, .lagged n ∉ labels.filterMap Label.rx? := by
    intro n hn
    obtain ⟨l, hl, hlagged⟩ := List.mem_filterMap.mp hn
    cases l <;> cases hlagged
    exact hlag n hl
  have htouch : LoopRx.InTouch cfg id (labels.filterMap Label.rx?) s.rx :=
    (LoopRx.inTouch_start m 64 id).run (rx_run h) hnone
  have hfaces : Faces cfg _ s.loop := (shows_of_run hm h).faces
  have hshown := (hfaces.owned id slot hown).camera
  rw [htouch.registered (Intake.announced_of_run (intake_run h)) hs.registry] at hshown
  exact Option.some.inj ((s.loop.camera_row hslot).symm.trans hshown)

variable {parse : String → Option ParsedUrl} {config : Config}

/-- **What an endpoint tells, its device said when it was found.** At any moment of any run,
lagged or not, an endpoint tells nothing or what one device said of itself in one connect of
one scan, all attributes together. In a settled state of a run without lag the scan is the
one since which the camera has been tracked, and the device the first of that scan to answer
as this camera; an endpoint whose camera is not tracked tells nothing. -/
theorem shown_as_found (hm : BridgeSlots m) (h : Run (Step config.loop) (start m) labels s)
    (hsweeps : ∀ scan ∈ scansOf labels, ∃ sweep : Sweep parse config.onvif.staticCameras,
      scan.results = sweep.results) {slot : Nat} (hslot : slot < maxCameras) :
    (s.loop.slots[slot] ≠ .default → ∃ scan ∈ scansOf labels,
      ∃ sweep : Sweep parse config.onvif.staticCameras, scan.results = sweep.results ∧
        ∃ id device info, s.loop.slotMap.map.lookup id = some slot ∧
          sweep.Told config.onvif.cameraNames id s.loop.slots[slot] device info) ∧
    ((∀ n, .lagged n ∉ labels) → Settled s → ∀ id, s.loop.slotMap.map.lookup id = some slot →
      (¬ RecentlyFound id (scansOf labels) → s.loop.slots[slot] = .default) ∧
      (RecentlyFound id (scansOf labels) → ∃ before scan after,
        scansOf labels = before ++ scan :: after ∧ Began id before scan after ∧
        ∃ sweep : Sweep parse config.onvif.staticCameras, scan.results = sweep.results ∧
          ∃ device info, sweep.First id device ∧
            sweep.Told config.onvif.cameraNames id s.loop.slots[slot] device info)) := by
  constructor
  · intro hne
    obtain ⟨scan, hscan, camera, hok, hown, hshown⟩ := obtained_of_shown hm h hslot hne
    obtain ⟨sweep, hresults⟩ := hsweeps scan hscan
    rw [hresults] at hok
    obtain ⟨device, hd, hc⟩ := List.mem_map.mp hok
    rw [hshown]
    exact ⟨scan, hscan, sweep, hresults, camera.id, device, camera.deviceInfo, hown,
      Sweep.told_of_connect hd hc config.loop⟩
  · intro hlag hs id hown
    have hshown := shown_of_settled hm h hlag hs hslot hown
    have hregistered := registered_iff h hs id
    rw [← present_iff] at hregistered
    constructor
    · intro hlost
      have hout : id ∉ s.intake.registry.cameras := fun hmem => hlost (hregistered.mp hmem)
      rw [hshown, Finmap.lookup_eq_none.mpr hout]
      rfl
    · intro hfound
      obtain ⟨camera, hcamera⟩ := Finmap.mem_iff.mp (hregistered.mpr hfound)
      have hdrained : s.intake.drained.cameras.lookup id = some camera := by
        rw [Intake.drained_of_empty hs.discovery]
        exact hcamera
      obtain ⟨before, scan, after, hhist, hbegan, rest, hrecords⟩ :=
        introduced_of_run (intake_run h) hdrained
      have hhist' : scansOf labels = before ++ scan :: after := hhist
      obtain ⟨sweep, hresults⟩ := hsweeps scan (by rw [hhist']; simp)
      rw [hresults] at hrecords
      obtain ⟨device, hfirst, hc, rfl⟩ := Sweep.first_of_records hrecords
      rw [hshown, hcamera]
      exact ⟨before, scan, after, hhist', hbegan, sweep, hresults, device, camera.deviceInfo,
        hfirst, Sweep.told_of_connect hfirst.mem hc config.loop⟩

/-- A device that answers every call. -/
def porch : DeviceReplies where
  systemDateAndTime := .ok ()
  capabilities := .ok ⟨some "http://10.0.0.5/media", none, none⟩
  eventTopics := .ok []
  deviceInformation := .ok ⟨"Acme", "Eye", "1.2", "SN-1", "rev-b"⟩
  profiles := .ok []
  videoEncoders := .ok []
  audioEncoders := .ok []
  streamUri _ := .error "no profile"

def porchConfig : Config :=
  { Config.default with onvif := { Config.default.onvif with
      staticCameras := ["10.0.0.5:80"]
      cameraNames := (∅ : HashMap String String).insert "10.0.0.5" "Porch" } }

def porchCamera : CameraDevice :=
  { CameraDevice.bare "SN-1" with deviceInfo := ⟨"Acme", "Eye", "1.2", "SN-1", "rev-b"⟩ }

/-- The probe finds nothing and the one configured device answers. -/
def porchSweep : Sweep (fun _ => none) porchConfig.onvif.staticCameras where
  found := []
  order := .ofKeys ["10.0.0.5"] (List.nodup_singleton _) (by decide)
  replies _ := porch

omit [UnicodeTables] in
/-- The first scan finds the configured device, and both of its events are taken. -/
theorem shown_as_found_first_scan :
    letI := asciiTables
    ∃ labels s, Run (Step porchConfig.loop) (start ⟨∅, 8, 7⟩) labels s ∧
      ∃ (sweep : Sweep (fun _ => none) porchConfig.onvif.staticCameras) (device : DeviceAddress)
        (info : DeviceInfo), sweep.First "SN-1" device ∧
          sweep.Told porchConfig.onvif.cameraNames "SN-1" s.loop.slots[7] device info := by
  let _ := asciiTables
  let camera := porchCamera
  have hresults : porchSweep.results = [.ok camera] := rfl
  let scan : Scan := ⟨[.ok camera], [.cameraFound camera]⟩
  let disc : Discovery := ⟨(∅ : HashMap _ _).insert "SN-1" camera, ∅⟩
  let sent : Intake := ⟨disc, [.cameraFound camera], CameraRegistry.new 64⟩
  let intake : Intake := ⟨disc, [], (CameraRegistry.new 64).addCamera camera⟩
  let loop := ((BridgeLoop.start ⟨∅, 8, 7⟩).handleEvent porchConfig.loop (.added camera)).get rfl
  have hrun : Run (Step porchConfig.loop) (start ⟨∅, 8, 7⟩)
      [.intake (.scan scan), .intake .discovery, .registry (.added camera)] ⟨intake, 1, loop⟩ :=
    Run.cons (t := ⟨sent, 0, BridgeLoop.start ⟨∅, 8, 7⟩⟩)
      (.intake (s := start ⟨∅, 8, 7⟩) (.scan (.first camera)))
      (Run.cons (t := ⟨intake, 0, BridgeLoop.start ⟨∅, 8, 7⟩⟩)
        (.intake (s := ⟨sent, 0, BridgeLoop.start ⟨∅, 8, 7⟩⟩) (.discovery (s := sent) rfl))
        (Run.one (.registry (s := ⟨intake, 0, BridgeLoop.start ⟨∅, 8, 7⟩⟩) rfl
          (Option.some_get _).symm)))
  have hsweeps : ∀ scan' ∈ scansOf
      [.intake (.scan scan), .intake .discovery, .registry (.added camera)],
      ∃ sweep : Sweep (fun _ => none) porchConfig.onvif.staticCameras,
        scan'.results = sweep.results := by
    intro scan' hscan
    rw [List.mem_singleton.mp hscan]
    exact ⟨porchSweep, hresults.symm⟩
  have hfound : RecentlyFound "SN-1" [scan] :=
    present_iff.mpr ⟨scan, List.mem_singleton_self scan, rfl⟩
  have hslot : 7 < maxCameras := by decide
  obtain ⟨_, _, _, _, _, sweep, _, device, info, hfirst, htold⟩ :=
    ((shown_as_found bridgeSlots_empty hrun hsweeps hslot).2 (by simp) ⟨rfl, rfl⟩ "SN-1" rfl).2
      hfound
  exact ⟨_, _, hrun, sweep, device, info, hfirst, htold⟩

end Auto

end MatterBridge.Bridge
