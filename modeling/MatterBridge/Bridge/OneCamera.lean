import MatterBridge.Bridge.EndpointIdentity
import MatterBridge.Bridge.MotionDelivery
import MatterBridge.Bridge.Node

/-!
# One endpoint, one camera

All of the bridge that a controller can talk to: the event loop at lock granularity over the
slot file, the motion pumps, and behind each endpoint of the node the device information,
the occupancy cells and the WebRTC hooks of one slot. Whatever a controller learns on an
endpoint, it learns about one camera.
-/
namespace MatterBridge.Bridge

open MatterBridge.Core MatterBridge.Onvif MatterBridge.Slots MatterBridge.Matter
open BridgedHandler (AttributeId AttributeValue)

/-! ## Pumps and the slots they were started for -/

/-- The pump was started for one of the `records`, of the camera that has the pump's slot. -/
def PumpOwned (cfg : LoopConfig) (records : Set CameraDevice) (m : SlotMap) (pump : MotionPump) :
    Prop :=
  ∃ camera ∈ records, ∃ eventsUrl, m.map.lookup camera.id = some pump.slot ∧
    BridgeLoop.pumpUrl pump.slot camera = some eventsUrl ∧
    pump.config = motionPumpConfig cfg camera eventsUrl

def PumpsOwned (cfg : LoopConfig) (records : Set CameraDevice) (s : BridgeLoop) : Prop :=
  ∀ pump ∈ s.running, PumpOwned cfg records s.slotMap pump

/-- Records and allocations only become more. -/
theorem PumpOwned.mono {cfg : LoopConfig} {records records' : Set CameraDevice} {m m' : SlotMap}
    {pump : MotionPump} (h : PumpOwned cfg records m pump) (hrecords : records ⊆ records')
    (hm : ∀ id slot, m.map.lookup id = some slot → m'.map.lookup id = some slot) :
    PumpOwned cfg records' m' pump := by
  obtain ⟨camera, hrecord, eventsUrl, hown, hurl, hconfig⟩ := h
  exact ⟨camera, hrecords hrecord, eventsUrl, hm _ _ hown, hurl, hconfig⟩

theorem PumpsOwned.mono {cfg : LoopConfig} {records records' : Set CameraDevice}
    (hrecords : records ⊆ records') (s : BridgeLoop) (h : PumpsOwned cfg records s) :
    PumpsOwned cfg records' s :=
  fun pump hp => (h pump hp).mono hrecords fun _ _ hid => hid

section

variable [UnicodeTables] {cfg : LoopConfig}

/-- A pump that runs after a section ran before it or was started by it. -/
theorem LoopSection.mem_running {s t : BridgeLoop} {a : LoopSection} (h : a.run cfg s = some t)
    {pump : MotionPump} (hp : pump ∈ t.running) : pump ∈ s.running ∨
      ∃ slot camera eventsUrl, a = .startPump slot camera ∧ pump.slot = slot ∧
        BridgeLoop.pumpUrl slot camera = some eventsUrl ∧
        pump.config = motionPumpConfig cfg camera eventsUrl := by
  cases a with
  | populateSlot slot camera =>
    rw [BridgeLoop.writeSlot_frame h] at hp
    exact Or.inl hp
  | clearSlot slot =>
    rw [BridgeLoop.writeSlot_frame h] at hp
    exact Or.inl hp
  | seedStreams slot camera =>
    obtain rfl := Option.some.inj h
    rw [(s.samePumps_seedAvStreams slot camera).running] at hp
    exact Or.inl hp
  | startPump slot camera =>
    obtain rfl := Option.some.inj h
    rw [BridgeLoop.startMotionPump_eq] at hp
    cases hurl : BridgeLoop.pumpUrl slot camera with
    | none =>
      rw [hurl] at hp
      exact Or.inl hp
    | some eventsUrl =>
      rw [hurl] at hp
      rcases List.mem_append.mp hp with hp | hp
      · exact Or.inl hp
      · obtain rfl := List.mem_singleton.mp hp
        exact Or.inr ⟨slot, camera, eventsUrl, rfl, rfl, hurl, rfl⟩
  | abortPump slot =>
    obtain rfl := Option.some.inj h
    unfold BridgeLoop.abortMotionPump at hp
    split at hp
    · exact Or.inl hp
    · exact Or.inl (List.mem_filter.mp hp).1
  | _ =>
    obtain rfl := Option.some.inj h
    exact Or.inl hp

theorem PumpsOwned.run {records : Set CameraDevice} {s t : BridgeLoop} {a : LoopSection}
    (h : PumpsOwned cfg records s) (hready : a.Ready records s) (ht : a.run cfg s = some t) :
    PumpsOwned cfg records t := by
  intro pump hp
  rcases LoopSection.mem_running ht hp with hold | ⟨slot, camera, eventsUrl, rfl, rfl, hurl, hconfig⟩
  · exact (h pump hold).mono (le_refl _) fun _ _ hid => LoopSection.lookup_run ht hid
  · exact ⟨camera, hready.1, eventsUrl, LoopSection.lookup_run ht hready.2, hurl, hconfig⟩

end

/-! ## The bridge as a controller meets it -/

structure WholeBridge where
  /-- The event loop and the slot file. -/
  life : Lifetimes
  /-- pump handle → what the pump awaits -/
  phases : HashMap Nat PumpPhase
  polling : Option Polling
  cells : Vector Occupancy withOccupancyCameras
  hooks : Vector HookState maxCameras

namespace WholeBridge

/-- What the pumps work on. -/
def motion (s : WholeBridge) : MotionSystem :=
  ⟨s.life.thread.shared, s.phases, s.polling, s.cells⟩

inductive Label where
  /-- The loop takes an event or runs a section; `outcome` is the fate of a save. -/
  | loop (l : Thread.Label RegistryEvent LoopSection Glance) (outcome : SaveOutcome)
  | pump (l : MotionSystem.Label)
  /-- A controller reads an attribute of the bridged device information. -/
  | read (ep : UInt16) (attr : AttributeId) (value : AttributeValue)
  /-- The Matter thread works on the occupancy cluster. -/
  | occupancy (ep : UInt16) (l : Occupancy.Label)
  /-- The Matter thread works on the WebRTC provider. -/
  | webRtc (ep : UInt16) (l : HookState.Label)
  | restart

/-- A step of the loop itself. -/
def OfLoop : Thread.Label RegistryEvent LoopSection Glance → Prop
  | .job _ => True
  | .atom _ => True
  | .look _ => False

/-- A step of a pump. -/
def OfPump : MotionSystem.Label → Prop
  | .event _ => False
  | .awaited _ _ => True
  | .ignored _ => True
  | .set _ _ => True
  | .bump _ => True
  | .suspended _ => True
  | .matter _ _ => False

/-- An offer finds the stream names as they are. -/
def Finds (names : HashMap Nat String) : HookState.Label → Prop
  | .offer o _ => o.streamNames = some names
  | _ => True

variable [SerdeJson]

def boot (file : SlotFile) (initial : Vector UInt32 withOccupancyCameras) : WholeBridge where
  life := Lifetimes.boot file
  phases := ∅
  polling := none
  cells := initial.map Occupancy.start
  hooks := Vector.ofFn fun slot => HookState.start slot

variable [UnicodeTables]

/-- The event loop and the pumps share a thread and switch at awaits; the Matter thread is
free. A restart draws new data versions. -/
inductive Step (cfg : LoopConfig) : WholeBridge → Label → WholeBridge → Prop
  | loop {s : WholeBridge} {l : Thread.Label RegistryEvent LoopSection Glance}
      {outcome : SaveOutcome} {life : Lifetimes} : s.polling = none → OfLoop l →
      Lifetimes.Step cfg s.life (.thread l outcome) life →
      Step cfg s (.loop l outcome) { s with life := life }
  | pump {s : WholeBridge} {l : MotionSystem.Label} {t : MotionSystem} :
      s.life.thread.due = [] → OfPump l → MotionSystem.Step cfg s.motion l t →
      Step cfg s (.pump l) { s with
        phases := t.phases
        polling := t.polling
        cells := t.cells }
  | read {s : WholeBridge} {ep : UInt16} {slot : Nat} (hslot : slot < maxCameras)
      {attr : AttributeId} {value : AttributeValue} :
      route ep .bridgedDeviceBasicInformation = .bridged slot →
      value = BridgedHandler.read s.life.thread.shared.slots[slot] attr →
      Step cfg s (.read ep attr value) s
  | occupancy {s : WholeBridge} {ep : UInt16} {slot : Nat} (hslot : slot < withOccupancyCameras)
      {l : Occupancy.Label} {cell : Occupancy} : route ep .occupancySensing = .occupancy slot →
      l.fromMatter = true → Occupancy.Step s.cells[slot] l cell →
      Step cfg s (.occupancy ep l) { s with cells := s.cells.set slot cell hslot }
  | webRtc {s : WholeBridge} {ep : UInt16} {slot : Nat} (hslot : slot < maxCameras)
      {l : HookState.Label} {hook : HookState} : route ep .webRtcTransportProvider = .webRtc slot →
      Finds s.life.thread.shared.bridge.streamNames l → HookState.Step s.hooks[slot] l hook →
      Step cfg s (.webRtc ep l) { s with hooks := s.hooks.set slot hook hslot }
  | restart {s : WholeBridge} {initial : Vector UInt32 withOccupancyCameras} :
      Step cfg s .restart (boot s.life.file initial)

/-- A restart finds the map that was in memory. -/
def Recovers (s : WholeBridge) : Label → Prop
  | .restart => s.life.Recovers .restart
  | _ => True

section

variable {cfg : LoopConfig} {labels : List Label} {s t : WholeBridge} {l : Label}

/-! ## Routes -/

/-- The request has reached a handler of the bridge. -/
def Routed : Label → Prop
  | .read ep _ _ => ∃ slot, route ep .bridgedDeviceBasicInformation = .bridged slot
  | .webRtc ep _ => ∃ slot, route ep .webRtcTransportProvider = .webRtc slot
  | _ => True

theorem Step.routed (h : Step cfg s l t) : Routed l := by
  cases h with
  | loop _ _ _ => trivial
  | pump _ _ _ => trivial
  | @read _ slot _ _ _ hroute _ => exact ⟨slot, hroute⟩
  | occupancy _ _ _ _ => trivial
  | @webRtc _ slot _ _ _ hroute _ _ => exact ⟨slot, hroute⟩
  | restart => trivial

/-- What an offer on a slot learns of the loop's tables. -/
def glance (slot : Nat) (o : Offer) : Glance :=
  .offer (.new slot) o.exchangeSdp o.sdp
    ((BridgeWebRtcHooks.new slot).forwardOffer o.streamNames o.exchangeSdp o.sdp)

/-- What a step is to the loop and the slot file. -/
def share : Label → Option Lifetimes.Label
  | .loop l outcome => some (.thread l outcome)
  | .pump _ => none
  | .read ep attr value =>
    match route ep .bridgedDeviceBasicInformation with
    | .bridged slot => some (.thread (.look (.read slot attr value)) .kept)
    | _ => none
  | .occupancy _ _ => none
  | .webRtc ep (.offer o _) =>
    match route ep .webRtcTransportProvider with
    | .webRtc slot => some (.thread (.look (glance slot o)) .kept)
    | _ => none
  | .webRtc _ _ => none
  | .restart => some .restart

theorem look_step {life : Lifetimes} {g : Glance} (hg : g.Sees life.thread.shared) :
    Guarded (Lifetimes.Step cfg) Lifetimes.Recovers life (.thread (.look g) .kept) life :=
  ⟨Lifetimes.Step.thread (s := life) (.look hg), trivial⟩

/-- Seen from the loop, the rest of the bridge only looks. -/
theorem life_run {file : SlotFile} {initial : Vector UInt32 withOccupancyCameras}
    (h : Run (Guarded (Step cfg) Recovers) (boot file initial) labels s) :
    Run (Guarded (Lifetimes.Step cfg) Lifetimes.Recovers) (Lifetimes.boot file)
      (labels.filterMap share) s.life := by
  refine h.project WholeBridge.life share fun s l t hs => ?_
  obtain ⟨hstep, hrecovers⟩ := hs
  cases hstep with
  | loop _ _ hlife => exact .inl ⟨_, rfl, hlife, trivial⟩
  | pump _ _ _ => exact .inr ⟨rfl, rfl⟩
  | @read ep slot hslot attr value hroute hvalue =>
    refine .inl ⟨_, ?_, look_step (g := .read slot attr value) ⟨hslot, hvalue⟩⟩
    rw [share, hroute]
  | occupancy _ _ _ _ => exact .inr ⟨rfl, rfl⟩
  | @webRtc ep slot hslot l hook hroute hfinds _ =>
    cases l with
    | offer o outcome =>
      have hnames : o.streamNames = some s.life.thread.shared.bridge.streamNames := hfinds
      have hsees : (glance slot o).Sees s.life.thread.shared := by
        rw [glance, hnames]
        rfl
      refine .inl ⟨_, ?_, look_step hsees⟩
      rw [share, hroute]
    | endSession _ => exact .inr ⟨rfl, rfl⟩
    | pop _ => exact .inr ⟨rfl, rfl⟩
    | take _ _ _ _ => exact .inr ⟨rfl, rfl⟩
  | restart => exact .inl ⟨_, rfl, .restart, hrecovers⟩

/-! ## Pumps -/

/-- The records the loop has been told of as added, in any lifetime. -/
def announced (labels : List Label) : Set CameraDevice :=
  {camera | ∃ outcome, .loop (.job (.added camera)) outcome ∈ labels}

omit [SerdeJson] [UnicodeTables] in
theorem announced_subset (labels : List Label) (l : Label) :
    announced labels ⊆ announced (labels ++ [l]) :=
  fun _ ⟨outcome, hmem⟩ => ⟨outcome, List.mem_append_left _ hmem⟩

structure Pumps (cfg : LoopConfig) (labels : List Label) (s : WholeBridge) : Prop where
  running : (loopProgram cfg).Keeps (PumpsOwned cfg (announced labels)) s.life.thread.due
    s.life.thread.shared
  polling : ∀ pump messages, s.polling = some ⟨pump, messages⟩ →
    PumpOwned cfg (announced labels) s.life.thread.shared.slotMap pump
  reported : ∀ pump motion, .pump (.set pump motion) ∈ labels →
    PumpOwned cfg (announced labels) s.life.thread.shared.slotMap pump

/-- No step takes a camera's slot away. -/
theorem Step.lookup (h : Guarded (Step cfg) Recovers s l t) {id : String} {slot : Nat}
    (hid : s.life.thread.shared.slotMap.map.lookup id = some slot) :
    t.life.thread.shared.slotMap.map.lookup id = some slot := by
  obtain ⟨hstep, hrecovers⟩ := h
  cases hstep with
  | loop _ _ hlife =>
    cases hlife with
    | thread hthread =>
      obtain ⟨⟨⟨shared, due⟩, file⟩, phases, polling, cells, hooks⟩ := s
      cases hthread with
      | job => exact hid
      | atom hrun => exact LoopSection.lookup_run hrun hid
      | look _ => exact hid
  | restart =>
    show (SlotMap.load s.life.file maxCameras withOccupancyCameras).map.lookup id = some slot
    rw [show (SlotMap.load s.life.file maxCameras withOccupancyCameras).map = _ from hrecovers]
    exact hid
  | pump _ _ _ => exact hid
  | read _ _ _ => exact hid
  | occupancy _ _ _ _ => exact hid
  | webRtc _ _ _ _ => exact hid

omit [SerdeJson] in
/-- A pump's step polls pumps that run or are polled, and only these report. -/
theorem polled_of_pump {u : MotionSystem} {k : MotionSystem.Label}
    (h : MotionSystem.Step cfg s.motion k u) (hk : OfPump k) :
    (∀ pump messages, u.polling = some ⟨pump, messages⟩ →
      pump ∈ s.life.thread.shared.running ∨ ∃ rest, s.polling = some ⟨pump, rest⟩) ∧
    ∀ pump motion, k = .set pump motion → ∃ rest, s.polling = some ⟨pump, rest⟩ := by
  cases h with
  | event _ _ => cases hk
  | matter _ _ _ => cases hk
  | awaited _ hrunning _ =>
    refine ⟨fun pump messages hp => ?_, fun pump motion he => by cases he⟩
    cases hp
    exact Or.inl hrunning
  | ignored hp _ _ =>
    refine ⟨fun pump messages hnext => ?_, fun pump motion he => by cases he⟩
    cases hnext
    exact Or.inr ⟨_, hp⟩
  | set _ hp _ _ =>
    refine ⟨fun pump messages hnext => ?_, fun pump motion he => ?_⟩
    · cases hnext
      exact Or.inr ⟨_, hp⟩
    · cases he
      exact ⟨_, hp⟩
  | bump _ _ _ =>
    exact ⟨fun pump messages hp => Or.inr ⟨_, hp⟩, fun pump motion he => by cases he⟩
  | suspended _ _ =>
    refine ⟨fun pump messages hp => ?_, fun pump motion he => by cases he⟩
    cases hp

theorem Pumps.step (h : Pumps cfg labels s) (hs : Guarded (Step cfg) Recovers s l t) :
    Pumps cfg (labels ++ [l]) t := by
  have hmore := announced_subset labels l
  have hgrow : ∀ {pump}, PumpOwned cfg (announced labels) s.life.thread.shared.slotMap pump →
      PumpOwned cfg (announced (labels ++ [l])) t.life.thread.shared.slotMap pump :=
    fun hp => hp.mono hmore fun _ _ hid => Step.lookup hs hid
  have hrunning := h.running.mono (PumpsOwned.mono hmore)
  have hpolling : ∀ pump messages, s.polling = some ⟨pump, messages⟩ →
      PumpOwned cfg (announced (labels ++ [l])) s.life.thread.shared.slotMap pump :=
    fun pump messages hp => (h.polling pump messages hp).mono hmore fun _ _ hid => hid
  have hreported : (∀ pump motion, l = .pump (.set pump motion) →
        PumpOwned cfg (announced labels) s.life.thread.shared.slotMap pump) →
      ∀ pump motion, .pump (.set pump motion) ∈ labels ++ [l] →
        PumpOwned cfg (announced (labels ++ [l])) t.life.thread.shared.slotMap pump := by
    intro hnew pump motion hmem
    rcases List.mem_append.mp hmem with hmem | hmem
    · exact hgrow (h.reported pump motion hmem)
    · exact hgrow (hnew pump motion (List.mem_singleton.mp hmem).symm)
  obtain ⟨hstep, hrecovers⟩ := hs
  cases hstep with
  | @loop k outcome _ hidle _ hlife =>
    refine ⟨?_, fun pump messages hp => ?_, hreported fun _ _ he => by cases he⟩
    · cases hlife with
      | thread hthread =>
        refine Thread.keeps_step (fun _ e hk hQ => ?_) hrunning hthread
        refine LoopSection.keeps_job (fun _ _ _ => PumpsOwned.run) hQ ?_
        rintro camera rfl
        exact ⟨outcome, List.mem_append_right _ (by rw [hk]; exact List.mem_singleton_self _)⟩
    · rw [show s.polling = some _ from hp] at hidle
      cases hidle
  | @pump k u hdue hk hpump =>
    obtain ⟨hpolled, hset⟩ := polled_of_pump hpump hk
    refine ⟨hrunning, fun pump messages hp => ?_, hreported fun pump motion he => ?_⟩
    · rcases hpolled pump messages hp with hruns | ⟨rest, hpolls⟩
      · exact hrunning.here pump hruns
      · exact hpolling pump rest hpolls
    · cases he
      obtain ⟨rest, hpolls⟩ := hset pump motion rfl
      exact h.polling pump rest hpolls
  | read _ _ _ => exact ⟨hrunning, hpolling, hreported fun _ _ he => by cases he⟩
  | occupancy _ _ _ _ => exact ⟨hrunning, hpolling, hreported fun _ _ he => by cases he⟩
  | webRtc _ _ _ _ => exact ⟨hrunning, hpolling, hreported fun _ _ he => by cases he⟩
  | restart =>
    refine ⟨fun pump hp => absurd hp List.not_mem_nil, fun pump messages hp => ?_,
      hreported fun _ _ he => by cases he⟩
    cases hp

theorem pumps_of_run {file : SlotFile} {initial : Vector UInt32 withOccupancyCameras}
    (h : Run (Guarded (Step cfg) Recovers) (boot file initial) labels s) : Pumps cfg labels s := by
  have hstart : Pumps cfg [] (boot file initial) := by
    refine ⟨fun pump hp => absurd hp List.not_mem_nil, fun pump messages hp => ?_,
      fun pump motion hmem => absurd hmem List.not_mem_nil⟩
    cases hp
  exact h.history (Pumps cfg) hstart fun _ _ _ _ ih hs => ih.step hs

/-! ## Occupancy -/

/-- The cluster says that the room is occupied, or has told a read so. -/
def SaysOccupied (cell : Occupancy) : Prop :=
  cell.motion.isDetected = true ∨ ∃ read request dv, ReadRequest.ForOccupancy request ∧
    cell.reads.lookup read = some (.replied request dv (.set (occupancyBits true)))

omit [SerdeJson] [UnicodeTables] in
theorem detected_of_read {motion : MotionState} {dv : UInt32} {request : ReadRequest}
    (hocc : request.ForOccupancy)
    (h : OccupancyHandler.read motion dv request = .set (occupancyBits true)) :
    motion.isDetected = true := by
  unfold OccupancyHandler.read at h
  simp only [hocc.1, hocc.2, Bool.false_eq_true, if_false, Attributes.fromRepr, if_true] at h
  split at h
  · cases h
  · exact Occupancy.occupancyBits_inj (ReadReply.set.inj h)

omit [SerdeJson] [UnicodeTables] in
/-- Only a swap makes a cluster say so. -/
theorem SaysOccupied.before {cell next : Occupancy} {k : Occupancy.Label}
    (h : SaysOccupied next) (hs : Occupancy.Step cell k next) :
    SaysOccupied cell ∨ ∃ handle, k = .set handle true := by
  cases hs with
  | @set handle motion _ =>
    rcases h with h | h
    · obtain rfl : motion = true := h
      exact Or.inr ⟨handle, rfl⟩
    · exact Or.inl (Or.inr h)
  | bump _ => exact Or.inl h
  | bumpDataver => exact Or.inl h
  | get _ =>
    refine Or.inl (h.imp_right ?_)
    rintro ⟨read, request, dv, hocc, hl⟩
    rw [HashMap.lookup_insert_eq] at hl
    split at hl
    · cases hl
    · exact ⟨read, request, dv, hocc, hl⟩
  | reply _ =>
    rcases h with h | ⟨read, request, dv, hocc, hl⟩
    · exact Or.inl (Or.inl h)
    · rw [HashMap.lookup_insert_eq] at hl
      split at hl
      · simp only [Option.some.injEq, ReadPhase.replied.injEq] at hl
        obtain ⟨rfl, rfl, hreply⟩ := hl
        exact Or.inl (Or.inl (detected_of_read hocc hreply))
      · exact Or.inl (Or.inr ⟨read, request, dv, hocc, hl⟩)

omit [SerdeJson] [UnicodeTables] in
theorem not_saysOccupied_start (version : UInt32) : ¬ SaysOccupied (.start version) := by
  rintro (hflag | ⟨_, _, _, _, hl⟩)
  · cases hflag
  · rw [show (Occupancy.start version).reads = ∅ from rfl, Finmap.lookup_empty] at hl
    cases hl

/-- A pump of the slot has reported motion. -/
def Raised (labels : List Label) (slot : Nat) : Prop :=
  ∃ pump : MotionPump, pump.slot = slot ∧ .pump (.set pump true) ∈ labels

def OccupiedByPump (labels : List Label) (s : WholeBridge) : Prop :=
  ∀ slot (h : slot < withOccupancyCameras), SaysOccupied s.cells[slot] → Raised labels slot

theorem OccupiedByPump.step (h : OccupiedByPump labels s) (hs : Step cfg s l t) :
    OccupiedByPump (labels ++ [l]) t := by
  intro slot hslot hsays
  have hold : SaysOccupied s.cells[slot] → Raised (labels ++ [l]) slot := by
    intro hsays
    obtain ⟨pump, hpump, hmem⟩ := h slot hslot hsays
    exact ⟨pump, hpump, List.mem_append_left _ hmem⟩
  cases hs with
  | loop _ _ _ => exact hold hsays
  | read _ _ _ => exact hold hsays
  | webRtc _ _ _ _ => exact hold hsays
  | @pump k u _ hk hstep =>
    rcases hstep.cell hslot with ⟨k', hshare, hcell⟩ | ⟨_, hsame⟩
    · rcases hsays.before hcell with hbefore | ⟨handle, rfl⟩
      · exact hold hbefore
      · cases k with
        | set pump motion =>
          simp only [MotionSystem.share, Option.ite_none_right_eq_some, Option.some.injEq,
            Occupancy.Label.set.injEq] at hshare
          obtain ⟨hpump, _, rfl⟩ := hshare
          exact ⟨pump, hpump, List.mem_append_right _ (List.mem_singleton_self _)⟩
        | bump pump => simp [MotionSystem.share] at hshare
        | matter k l => cases hk
        | _ => cases hshare
    · exact hold (hsame ▸ hsays)
  | @occupancy ep k hk k' cell _ hmatter hcell =>
    by_cases he : k = slot
    · subst he
      have hnext : SaysOccupied cell := by
        have hself : (s.cells.set k cell hk)[k] = cell := Vector.getElem_set_self _
        exact hself ▸ hsays
      rcases hnext.before hcell with hbefore | ⟨handle, rfl⟩
      · exact hold hbefore
      · cases hmatter
    · have hsame : (s.cells.set k cell hk)[slot] = s.cells[slot] := Vector.getElem_set_ne hk hslot he
      exact hold (hsame ▸ hsays)
  | @restart initial =>
    have hfresh : (initial.map Occupancy.start)[slot] = .start initial[slot] :=
      Vector.getElem_map _ _
    rw [show (boot s.life.file initial).cells[slot] = _ from hfresh] at hsays
    exact absurd hsays (not_saysOccupied_start _)

/-! ## Sessions -/

/-- The hooks of each slot have taken part in a run of their own since the last restart. -/
def Sessions (labels : List Label) (s : WholeBridge) : Prop :=
  ∀ slot (h : slot < maxCameras), ∃ own, HookState.Sound slot own s.hooks[slot] ∧
    ∀ k ∈ own, .webRtc (endpointOf slot) k ∈ labels

/-- The answer is go2rtc's to an offer made on the slot for the session. -/
def Offered (labels : List Label) (slot : Nat) (session : UInt16) (answer : String) : Prop :=
  ∃ o outcome, .webRtc (endpointOf slot) (.offer o (.ok outcome)) ∈ labels ∧
    o.sessionId = session ∧ o.answer slot = some answer

theorem Sessions.step (h : Sessions labels s) (hs : Step cfg s l t) :
    Sessions (labels ++ [l]) t := by
  intro slot hslot
  have hold : ∃ own, HookState.Sound slot own s.hooks[slot] ∧
      ∀ k ∈ own, .webRtc (endpointOf slot) k ∈ labels ++ [l] := by
    obtain ⟨own, hsound, hown⟩ := h slot hslot
    exact ⟨own, hsound, fun k hk => List.mem_append_left _ (hown k hk)⟩
  cases hs with
  | loop _ _ _ => exact hold
  | pump _ _ _ => exact hold
  | read _ _ _ => exact hold
  | occupancy _ _ _ _ => exact hold
  | @webRtc ep k hk l hook hroute _ hhook =>
    by_cases he : k = slot
    · subst he
      obtain ⟨own, hsound, hown⟩ := hold
      have hep : ep = endpointOf k := (slot_of_route hroute rfl).1
      subst hep
      refine ⟨own ++ [l], ?_, fun k' hk' => ?_⟩
      · show HookState.Sound k _ (s.hooks.set k hook hk)[k]
        rw [Vector.getElem_set_self]
        exact hsound.step hhook
      · rcases List.mem_append.mp hk' with hk' | hk'
        · exact hown k' hk'
        · rw [List.mem_singleton.mp hk']
          exact List.mem_append_right _ (List.mem_singleton_self _)
    · have hsame : (s.hooks.set k hook hk)[slot] = s.hooks[slot] := Vector.getElem_set_ne hk hslot he
      rw [← hsame] at hold
      exact hold
  | @restart initial =>
    refine ⟨[], ?_, fun k hk => absurd hk List.not_mem_nil⟩
    have hfresh : (boot s.life.file initial).hooks[slot] = .start slot := Vector.getElem_ofFn _
    rw [hfresh]
    exact HookState.sound_start slot

/-- What has been taken for a session was offered for it. -/
structure Taken (labels : List Label) (s : WholeBridge) : Prop where
  sessions : Sessions labels s
  taken : ∀ ep session sdpOut n written,
    .webRtc ep (.take session sdpOut (.ok n) written) ∈ labels →
      ∃ slot answer, ep = endpointOf slot ∧ slot < maxCameras ∧
        Offered labels slot session answer ∧ written = bytesOf answer ++ sdpOut.drop n

omit [SerdeJson] [UnicodeTables] in
theorem Offered.snoc {slot : Nat} {session : UInt16} {answer : String}
    (h : Offered labels slot session answer) (l : Label) :
    Offered (labels ++ [l]) slot session answer := by
  obtain ⟨o, outcome, hmem, hsession, hanswer⟩ := h
  exact ⟨o, outcome, List.mem_append_left _ hmem, hsession, hanswer⟩

theorem Taken.step (h : Taken labels s) (hs : Step cfg s l t) : Taken (labels ++ [l]) t := by
  refine ⟨h.sessions.step hs, fun ep session sdpOut n written hmem => ?_⟩
  rcases List.mem_append.mp hmem with hmem | hmem
  · obtain ⟨slot, answer, hep, hslot, hoffered, hwritten⟩ :=
      h.taken ep session sdpOut n written hmem
    exact ⟨slot, answer, hep, hslot, hoffered.snoc l, hwritten⟩
  · obtain rfl := List.mem_singleton.mp hmem
    cases hs with
    | @webRtc _ slot hslot _ hook hroute _ hhook =>
      obtain ⟨own, hsound, hown⟩ := h.sessions slot hslot
      have hep : ep = endpointOf slot := (slot_of_route hroute rfl).1
      cases hhook with
      | take _ htake =>
        rcases HookState.takeAnswerSdp_cases hsound.opened htake with
          ⟨_, houtcome, _⟩ | ⟨answer, hl, _, hok⟩
        · cases houtcome
        · obtain ⟨_, o, outcome, _, rfl, hsession, hanswer, _⟩ := hsound.latest session answer hl
          refine ⟨slot, answer, hep, hslot, ⟨o, outcome, ?_, hsession, hanswer⟩, (hok n rfl).2⟩
          exact List.mem_append_left _ (hown _ (by simp))

theorem taken_of_run {file : SlotFile} {initial : Vector UInt32 withOccupancyCameras}
    (h : Run (Step cfg) (boot file initial) labels s) : Taken labels s := by
  have hstart : Taken [] (boot file initial) := by
    refine ⟨fun slot hslot => ⟨[], ?_, fun k hk => absurd hk List.not_mem_nil⟩,
      fun _ _ _ _ _ hmem => absurd hmem List.not_mem_nil⟩
    rw [show (boot file initial).hooks[slot] = .start slot from Vector.getElem_ofFn _]
    exact HookState.sound_start slot
  exact h.history Taken hstart fun _ _ _ _ ih hs => ih.step hs

theorem occupied_of_run {file : SlotFile} {initial : Vector UInt32 withOccupancyCameras}
    (h : Run (Step cfg) (boot file initial) labels s) : OccupiedByPump labels s := by
  refine h.history OccupiedByPump (fun slot hslot hsays => ?_) fun _ _ _ _ ih hs => ih.step hs
  have hfresh : (initial.map Occupancy.start)[slot] = .start initial[slot] := Vector.getElem_map _ _
  rw [show (boot file initial).cells[slot] = _ from hfresh] at hsays
  exact absurd hsays (not_saysOccupied_start _)

omit [SerdeJson] [UnicodeTables] in
theorem forwardOffer_of_answer {o : Offer} {slot : Nat} {answer : String}
    (h : o.answer slot = some answer) :
    (BridgeWebRtcHooks.new slot).forwardOffer o.streamNames o.exchangeSdp o.sdp = .ok answer := by
  obtain ⟨name, hname, hexchange⟩ := Option.bind_eq_some_iff.mp h
  rw [BridgeWebRtcHooks.forwardOffer, BridgeWebRtcHooks.lookupStreamName,
    show (BridgeWebRtcHooks.new slot).slot = slot from rfl, hname]
  cases hx : o.exchangeSdp name o.sdp with
  | error e =>
    rw [hx] at hexchange
    cases hexchange
  | ok sdp =>
    rw [hx] at hexchange
    obtain rfl := Option.some.inj hexchange
    simp [hx, Except.mapError]

/-- **One endpoint, one camera.** Over any number of restarts, each of which finds the map that
was in memory, a controller that has read a unique id on an endpoint, at whatever moment: reads
no other unique id there, and this one on no other endpoint; takes on this endpoint only answers
that go2rtc gave for the stream of that camera, to an offer of the same session made there; and
motion that the endpoint shows has been reported by a pump started for a record of that camera
that was announced. Requests reach the bridge for the clusters the node advertises, and for no
others. -/
theorem one_endpoint_one_camera {file : SlotFile} {initial : Vector UInt32 withOccupancyCameras}
    (hfile : (SlotMap.load file maxCameras withOccupancyCameras).map.Injective)
    (h : Run (Guarded (Step cfg) Recovers) (boot file initial) labels s) {ep : UInt16} {id : String}
    (hne : id ≠ "") (hread : .read ep .uniqueId (.utf8 id) ∈ labels) :
    (∀ id', id' ≠ "" → .read ep .uniqueId (.utf8 id') ∈ labels → id' = id) ∧
    (∀ ep', .read ep' .uniqueId (.utf8 id) ∈ labels → ep' = ep) ∧
    (∀ session sdpOut n written, .webRtc ep (.take session sdpOut (.ok n) written) ∈ labels →
      ∃ o outcome answer, .webRtc ep (.offer o (.ok outcome)) ∈ labels ∧ o.sessionId = session ∧
        o.exchangeSdp (sanitizeStreamName id) o.sdp = .ok answer ∧
        written = bytesOf answer ++ sdpOut.drop n) ∧
    (∀ pump motion, .pump (.set pump motion) ∈ labels → endpointOf pump.slot = ep →
      ∃ camera ∈ announced labels, ∃ eventsUrl, camera.id = id ∧ camera.supportsMotion = true ∧
        camera.eventsUrl = some eventsUrl ∧ pump.config = motionPumpConfig cfg camera eventsUrl) ∧
    (∀ slot (hslot : slot < withOccupancyCameras), endpointOf slot = ep →
      SaysOccupied s.cells[slot] → Raised labels slot) ∧
    ∀ ep cl, route ep cl ≠ .system ↔ (ep, cl) ∈ advertised := by
  have hlife := Lifetimes.inv_of_run hfile (life_run h)
  have hslots := hlife.along.here.slots
  have hrouted := h.unguard.forall_labels fun _ _ _ hs => hs.routed
  have htells : ∀ ep id, id ≠ "" → .read ep .uniqueId (.utf8 id) ∈ labels →
      ∃ slot, ep = endpointOf slot ∧ slot < maxCameras ∧
        s.life.thread.shared.slotMap.map.lookup id = some slot := by
    intro ep id hne hmem
    obtain ⟨slot, hroute⟩ := hrouted _ hmem
    obtain ⟨hep, hlt⟩ := slot_of_route hroute rfl
    refine ⟨slot, hep, hlt, hlife.tells (.read slot .uniqueId (.utf8 id)) ?_ rfl id rfl hne⟩
    refine ⟨.kept, List.mem_filterMap.mpr ⟨_, hmem, ?_⟩⟩
    rw [share, hroute]
  obtain ⟨slot, rfl, hlt, hid⟩ := htells ep id hne hread
  refine ⟨?_, ?_, ?_, ?_, fun k hk _ hsays => occupied_of_run h.unguard k hk hsays,
    fun _ _ => route_ne_system_iff⟩
  · intro id' hne' hread'
    obtain ⟨k, hk, hklt, hid'⟩ := htells _ id' hne' hread'
    obtain rfl := endpointOf_inj hlt hklt hk
    exact hslots.exclusive id' id slot hid' hid
  · intro ep' hread'
    obtain ⟨k, rfl, _, hid'⟩ := htells ep' id hne hread'
    rw [Option.some.inj (hid'.symm.trans hid)]
  · intro session sdpOut n written hmem
    obtain ⟨k, answer, hk, hklt, ⟨o, outcome, hoffer, hsession, hanswer⟩, hwritten⟩ :=
      (taken_of_run h.unguard).taken _ session sdpOut n written hmem
    obtain rfl := endpointOf_inj hlt hklt hk
    refine ⟨o, outcome, answer, hoffer, hsession, ?_, hwritten⟩
    obtain ⟨k, hroute⟩ := hrouted _ hoffer
    obtain ⟨hk, hklt⟩ := slot_of_route hroute rfl
    obtain rfl := endpointOf_inj hlt hklt hk
    have hlook : Lifetimes.Looked (labels.filterMap share) (glance slot o) := by
      refine ⟨.kept, List.mem_filterMap.mpr ⟨_, hoffer, ?_⟩⟩
      rw [share, hroute]
    have hforward := forwardOffer_of_answer hanswer
    rcases hlife.tells _ hlook with hrefused | ⟨id', hid', hforwarded⟩
    · rw [hforward] at hrefused
      cases hrefused
    · obtain rfl := hslots.exclusive id' id slot hid' hid
      rw [hforward] at hforwarded
      cases hx : o.exchangeSdp (sanitizeStreamName id') o.sdp with
      | error e =>
        rw [hx] at hforwarded
        cases hforwarded
      | ok sdp =>
        rw [hx] at hforwarded
        cases hforwarded
        rfl
  · intro pump motion hset hep
    obtain ⟨camera, hannounced, eventsUrl, hown, hurl, hconfig⟩ :=
      (pumps_of_run h).reported pump motion hset
    have hklt : pump.slot < maxCameras := hslots.lt hown
    obtain hk := endpointOf_inj hklt hlt hep
    rw [hk] at hown
    unfold BridgeLoop.pumpUrl at hurl
    split at hurl
    · rename_i hmotion
      rw [Bool.and_eq_true] at hmotion
      exact ⟨camera, hannounced, eventsUrl, hslots.exclusive camera.id id slot hown hid,
        hmotion.1, hurl, hconfig⟩
    · cases hurl

/-- What the loop does alone it does in the whole bridge. -/
theorem run_loop {u v : Thread BridgeLoop LoopSection}
    {ls : List (Thread.Label RegistryEvent LoopSection Glance)}
    (h : Run (Thread.Step (loopProgram cfg) Glance.Sees) u ls v) (hls : ∀ l ∈ ls, OfLoop l)
    (hidle : s.polling = none) (hs : s.life.thread = u) : ∃ file,
      Run (Guarded (Step cfg) Recovers) s (ls.map (.loop · .kept)) { s with life := ⟨v, file⟩ } := by
  induction h with
  | refl =>
    subst hs
    exact ⟨s.life.file, Run.refl⟩
  | @snoc ls v w l _ hstep ih =>
    obtain ⟨file, hrun⟩ := ih fun l hl => hls l (List.mem_append_left _ hl)
    have hloop : OfLoop l := hls l (List.mem_append_right _ (List.mem_singleton_self l))
    rw [List.map_append]
    have hlife : Lifetimes.Step cfg ⟨v, file⟩ (.thread l .kept)
        ⟨w, Lifetimes.saved ⟨v, file⟩ .kept l⟩ := .thread (s := ⟨v, file⟩) hstep
    exact ⟨_, hrun.snoc ⟨.loop hidle hloop hlife, trivial⟩⟩

end

omit [SerdeJson] [UnicodeTables] in
/-- A camera without motion gets the last endpoint. A controller reads its id there and makes
an offer before the stream is seeded, then takes the answer into an eight-byte buffer. -/
theorem one_endpoint_one_camera_session :
    letI := asciiTables
    letI := PrettyJson.serdeJson
    let sdpOut : List UInt8 := List.replicate 8 0
    let written := bytesOf "SN-1" ++ [0, 0, 0, 0]
    ∃ labels s, Run (Guarded (Step ⟨∅, "admin", "pass"⟩) Recovers) (boot none (.replicate _ 7))
        labels s ∧ .webRtc 9 (.take 5 sdpOut (.ok 4) written) ∈ labels ∧
      ∃ o outcome answer, .webRtc 9 (.offer o (.ok outcome)) ∈ labels ∧ o.sessionId = 5 ∧
        o.exchangeSdp (sanitizeStreamName "SN-1") o.sdp = .ok answer ∧
        written = bytesOf answer ++ sdpOut.drop 4 := by
  intro sdpOut written
  let _ := asciiTables
  let _ := PrettyJson.serdeJson
  let cfg : LoopConfig := ⟨∅, "admin", "pass"⟩
  let first : WholeBridge := boot none (.replicate _ 7)
  obtain ⟨file, hbound⟩ := run_loop (s := first) run_unseeded (by simp [OfLoop]) rfl rfl
  let bound : WholeBridge := { first with
    life := ⟨⟨unseeded, [.seedStreams 7 (.bare "SN-1"), .startPump 7 (.bare "SN-1")]⟩, file⟩ }
  let offer : Offer := ⟨5, "offer", some unseeded.bridge.streamNames, fun name _ => .ok name⟩
  let answers : HashMap UInt16 String := (∅ : HashMap UInt16 String).insert 5 "SN-1"
  let offered : HookState := ⟨⟨7, ⟨answers, false⟩, ⟨[.answer 5], false⟩⟩, []⟩
  let popped : HookState := ⟨⟨7, ⟨answers, false⟩, ⟨[], false⟩⟩, [.answer 5]⟩
  let taken : HookState := ⟨⟨7, ⟨answers.erase 5, false⟩, ⟨[], false⟩⟩, []⟩
  have hshown : AttributeValue.utf8 "SN-1" = BridgedHandler.read unseeded.slots[7] .uniqueId := by
    decide
  have hread : Guarded (Step cfg) Recovers bound (.read 9 .uniqueId (.utf8 "SN-1")) bound :=
    ⟨.read (by decide) (by decide) hshown, trivial⟩
  have hoffer : HookState.Step bound.hooks[7] (.offer offer (.ok ⟨some 1, none⟩)) offered := by
    rw [show bound.hooks[7] = .start 7 from Vector.getElem_ofFn _]
    exact .offer rfl
  have hpop : HookState.Step (bound.hooks.set 7 offered)[7] (.pop (.answer 5)) popped := by
    rw [Vector.getElem_set_self]
    exact .pop rfl
  have htake : HookState.Step ((bound.hooks.set 7 offered).set 7 popped)[7]
      (.take 5 sdpOut (.ok 4) written) taken := by
    rw [Vector.getElem_set_self]
    exact .take (s := popped) List.mem_cons_self rfl
  have hroute : route 9 .webRtcTransportProvider = .webRtc 7 := by decide
  have hnames : Finds unseeded.bridge.streamNames (.offer offer (.ok ⟨some 1, none⟩)) := rfl
  have hwork : Finds unseeded.bridge.streamNames (.pop (.answer 5)) := trivial
  have hanswer : Finds unseeded.bridge.streamNames (.take 5 sdpOut (.ok 4) written) := trivial
  have hrun := hbound.append (Run.cons hread
    (Run.cons ⟨.webRtc (by decide) hroute hnames hoffer, trivial⟩
      (Run.cons ⟨.webRtc (by decide) hroute hwork hpop, trivial⟩
        (Run.one ⟨.webRtc (by decide) hroute hanswer htake, trivial⟩))))
  have hone := one_endpoint_one_camera HashMap.injective_empty hrun (show "SN-1" ≠ "" by decide)
    (List.mem_append_right _ List.mem_cons_self)
  exact ⟨_, _, hrun, by simp, hone.2.2.1 5 sdpOut 4 written (by simp)⟩

end WholeBridge

end MatterBridge.Bridge
