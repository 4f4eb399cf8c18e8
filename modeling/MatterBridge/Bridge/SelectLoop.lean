import MatterBridge.Bridge.EventSlot
import MatterBridge.Bridge.Intake
import MatterBridge.Slots.PrettyJson

/-!
# Scheduling of the bridge loop

Every turn of the loop waits on two branches, the discovery channel and the registry
subscription, and takes whichever is ready. A branch whose pattern fails is disabled
for the rest of the turn; with both disabled `select!` panics. The discovery branch
can fail only once static discovery has finished, the registry branch only by lag.

Discovery and the loop are tasks of one current-thread runtime. A connect waits for the
network, and before its answer is looked at the loop, which the event sent last has woken,
is polled until neither branch is ready. So a found camera is sent to a loop that waits.
-/
namespace MatterBridge.Bridge

open MatterBridge.Core MatterBridge.Onvif MatterBridge.Slots

/-- `mpsc::channel(64)` between discovery and the loop. -/
def channelCapacity : Nat := 64

/-- `CameraRegistry::new(64)` in `main`. -/
def registryCapacity : Nat := 64

/-- The discovery mode. In static mode every configured address is connected once, and
the results come from outside. -/
inductive DiscoveryMode where
  | static (results : List ConnectResult)
  | auto

inductive DiscoveryTask where
  /-- `scan_static_only`, with the results of the connects still to come. -/
  | scanning (results : List ConnectResult)
  /-- `run_auto_loop`, which never returns. -/
  | auto
  /-- `scan_static_only` has returned and dropped the sender. -/
  | finished

def DiscoveryMode.task : DiscoveryMode → DiscoveryTask
  | .static results => .scanning results
  | .auto => .auto

structure SelectLoop where
  task : DiscoveryTask
  /-- Events in the discovery channel, oldest first. -/
  channel : List DiscoveryEvent
  registry : CameraRegistry
  /-- Position of the loop's subscription. -/
  next : Nat
  /-- The branches that failed in this turn. -/
  discoveryDisabled : Bool
  registryDisabled : Bool
  /-- `none` once a handler has panicked. -/
  loop : Option BridgeLoop

namespace SelectLoop

def start [SerdeJson] (mode : DiscoveryMode) (file : SlotFile) : SelectLoop where
  task := mode.task
  channel := []
  registry := CameraRegistry.new registryCapacity
  next := 0
  discoveryDisabled := false
  registryDisabled := false
  loop := some (BridgeLoop.boot file)

/-- `discovery_rx.recv()` is polled in this turn and would answer. -/
def DiscoveryReady (s : SelectLoop) : Prop :=
  s.discoveryDisabled = false ∧ (s.channel ≠ [] ∨ s.task = .finished)

/-- `registry_rx.recv()` is polled in this turn and would answer. -/
def RegistryReady (s : SelectLoop) : Prop :=
  s.registryDisabled = false ∧ s.registry.tx.recv s.next ≠ none

/-- The loop waits. -/
def Idle (s : SelectLoop) : Prop := ¬ s.DiscoveryReady ∧ ¬ s.RegistryReady

/-- The event is sent right after a connect was answered. Those about cameras that a scan
did not find follow one another without an await in between. -/
def AfterConnect : DiscoveryEvent → Prop
  | .cameraFound _ => True
  | .cameraLost _ => False
  | .cameraUnreachable _ => False
  | .error _ => False

inductive Label where
  | connected
  | connectFailed
  | finish
  | scanned (e : DiscoveryEvent)
  | discovery (e : DiscoveryEvent)
  | discoveryClosed
  | registry (e : RegistryEvent)
  | registryLagged (missed : Nat)

variable [UnicodeTables]

/-- Senders wait while the channel is full. A branch that is taken ends the turn. The
branches are taken in any order. -/
inductive Step (cfg : LoopConfig) : SelectLoop → Label → SelectLoop → Prop
  | connected {s : SelectLoop} {camera : CameraDevice} {rest : List ConnectResult} :
      s.task = .scanning (.ok camera :: rest) → s.Idle → s.channel.length < channelCapacity →
      Step cfg s .connected { s with
        task := .scanning rest
        channel := s.channel ++ [.cameraFound camera] }
  -- a failed connect and the return of the scan send nothing and need not wait
  | connectFailed {s : SelectLoop} {message : String} {rest : List ConnectResult} :
      s.task = .scanning (.error message :: rest) →
      Step cfg s .connectFailed { s with task := .scanning rest }
  | finish {s : SelectLoop} : s.task = .scanning [] →
      Step cfg s .finish { s with task := .finished }
  | scanned {s : SelectLoop} {e : DiscoveryEvent} : s.task = .auto →
      (AfterConnect e → s.Idle) → s.channel.length < channelCapacity →
      Step cfg s (.scanned e) { s with channel := s.channel ++ [e] }
  | discovery {s : SelectLoop} {e : DiscoveryEvent} {rest : List DiscoveryEvent}
      {loop : BridgeLoop} : s.loop = some loop → s.discoveryDisabled = false →
      s.channel = e :: rest →
      Step cfg s (.discovery e) { s with
        channel := rest
        registry := onDiscovery s.registry e
        discoveryDisabled := false
        registryDisabled := false }
  | discoveryClosed {s : SelectLoop} {loop : BridgeLoop} : s.loop = some loop →
      s.discoveryDisabled = false → s.channel = [] → s.task = .finished →
      Step cfg s .discoveryClosed { s with discoveryDisabled := true }
  | registry {s : SelectLoop} {e : RegistryEvent} {next : Nat} {loop : BridgeLoop} :
      s.loop = some loop → s.registryDisabled = false →
      s.registry.tx.recv s.next = some (.ok e, next) →
      Step cfg s (.registry e) { s with
        next := next
        loop := loop.handleEvent cfg e
        discoveryDisabled := false
        registryDisabled := false }
  | registryLagged {s : SelectLoop} {missed next : Nat} {loop : BridgeLoop} :
      s.loop = some loop → s.registryDisabled = false →
      s.registry.tx.recv s.next = some (.error (.lagged missed), next) →
      Step cfg s (.registryLagged missed) { s with next := next, registryDisabled := true }

/-- The thread panics: no branch is left in this turn, or a handler has panicked. -/
def Panics (s : SelectLoop) : Prop :=
  (s.discoveryDisabled = true ∧ s.registryDisabled = true) ∨ s.loop = none

end SelectLoop

/-! ## The registry's growth -/

theorem length_addCamera (r : CameraRegistry) (camera : CameraDevice) :
    (r.addCamera camera).tx.sent.length = r.tx.sent.length + 1 ∧
      (r.addCamera camera).tx.capacity = r.tx.capacity := by
  unfold CameraRegistry.addCamera
  split <;> exact ⟨List.length_append, rfl⟩

/-- One discovery event makes the registry send at most one. -/
theorem length_onDiscovery (r : CameraRegistry) (e : DiscoveryEvent) :
    (onDiscovery r e).tx.sent.length ≤ r.tx.sent.length + 1 ∧
      (onDiscovery r e).tx.capacity = r.tx.capacity := by
  cases e with
  | cameraFound camera =>
    obtain ⟨hlen, hcap⟩ := length_addCamera r camera
    exact ⟨by show (r.addCamera camera).tx.sent.length ≤ _; omega, hcap⟩
  | cameraLost id =>
    show (r.removeCamera id).tx.sent.length ≤ _ ∧ (r.removeCamera id).tx.capacity = _
    unfold CameraRegistry.removeCamera
    split
    · exact ⟨List.length_append.le, rfl⟩
    · exact ⟨Nat.le_succ _, rfl⟩
  | cameraUnreachable id => exact ⟨Nat.le_succ _, rfl⟩
  | error message => exact ⟨Nat.le_succ _, rfl⟩

namespace SelectLoop

/-- Events sent to the loop that it has not handled yet. -/
def backlog (s : SelectLoop) : Nat :=
  s.channel.length + (s.registry.tx.unread s.next).length

/-- What keeps one of the two branches alive. In static mode a camera is sent to a loop
that waits, so there is never more than its one event on the way. -/
def Alive (mode : DiscoveryMode) (s : SelectLoop) : Prop :=
  match mode with
  | .static _ => s.task ≠ .auto ∧ s.backlog ≤ 1 ∧ s.registryDisabled = false ∧
      (s.discoveryDisabled = true → s.task = .finished)
  | .auto => s.task = .auto ∧ s.discoveryDisabled = false

structure Inv (mode : DiscoveryMode) (s : SelectLoop) : Prop where
  alive : Alive mode s
  capacity : s.registry.tx.capacity = registryCapacity
  loop : ∃ loop, s.loop = some loop ∧ loop.InBounds

theorem inv_start [SerdeJson] (mode : DiscoveryMode) (file : SlotFile) :
    Inv mode (start mode file) where
  alive := by
    cases mode with
    | static results =>
      exact ⟨by simp [start, DiscoveryMode.task], Nat.zero_le 1, rfl, fun h => by cases h⟩
    | auto => exact ⟨rfl, rfl⟩
  capacity := rfl
  loop := ⟨_, rfl, BridgeLoop.inBounds_boot file⟩

/-- A loop that waits has taken everything sent to it. -/
theorem Idle.backlog {s : SelectLoop} (h : s.Idle) (hd : s.discoveryDisabled = false)
    (hr : s.registryDisabled = false) : s.backlog = 0 := by
  obtain ⟨hdiscovery, hregistry⟩ := h
  have hchan : s.channel = [] := by
    by_contra hne
    exact hdiscovery ⟨hd, Or.inl hne⟩
  have hunread : s.registry.tx.unread s.next = [] := by
    by_contra hne
    exact hregistry ⟨hr, Broadcast.recv_ne_none.mpr hne⟩
  rw [SelectLoop.backlog, hchan, hunread]
  rfl

variable [UnicodeTables]

/-- In auto mode discovery never ends, so its branch never fails. -/
theorem Alive.step_auto {cfg : LoopConfig} {s t : SelectLoop} {l : Label} (h : Alive .auto s)
    (hs : Step cfg s l t) : Alive .auto t := by
  obtain ⟨htask, hdisabled⟩ := h
  cases hs with
  | connected hscan _ _ => rw [htask] at hscan; cases hscan
  | connectFailed hscan => rw [htask] at hscan; cases hscan
  | finish hscan => rw [htask] at hscan; cases hscan
  | scanned _ _ _ => exact ⟨htask, hdisabled⟩
  | discovery _ _ _ => exact ⟨htask, rfl⟩
  | discoveryClosed _ _ _ hfin => rw [htask] at hfin; cases hfin
  | registry _ _ _ => exact ⟨htask, rfl⟩
  | registryLagged _ _ _ => exact ⟨htask, hdisabled⟩

/-- In static mode the one event on its way passes from the channel to the registry's log
and from there to the loop, which therefore never lags. -/
theorem Alive.step_static {cfg : LoopConfig} {results : List ConnectResult} {s t : SelectLoop}
    {l : Label} (h : Alive (.static results) s)
    (hcap : s.registry.tx.capacity = registryCapacity) (hs : Step cfg s l t) :
    Alive (.static results) t := by
  obtain ⟨htask, hback, hregistry, hclosed⟩ := h
  cases hs with
  | connected hscan hidle _ =>
    have hopen : s.discoveryDisabled = false := by
      by_contra hd
      have hfin := hclosed (by simpa using hd)
      rw [hscan] at hfin
      cases hfin
    have hnone := hidle.backlog hopen hregistry
    refine ⟨by simp, ?_, hregistry, fun hd => ?_⟩
    · unfold backlog at hnone ⊢
      simp only [List.length_append, List.length_singleton]
      omega
    · rw [hopen] at hd
      cases hd
  | connectFailed hscan =>
    refine ⟨by simp, hback, hregistry, fun hd => ?_⟩
    have hfin := hclosed hd
    rw [hscan] at hfin
    cases hfin
  | finish hscan => exact ⟨by simp, hback, hregistry, fun _ => rfl⟩
  | scanned hauto _ _ => exact absurd hauto htask
  | @discovery e rest _ _ _ hchan =>
    refine ⟨htask, ?_, rfl, fun hd => absurd hd Bool.false_ne_true⟩
    have hgrow := (length_onDiscovery s.registry e).1
    unfold backlog Broadcast.unread at hback ⊢
    simp only [hchan, List.length_cons, List.length_drop] at hback ⊢
    omega
  | discoveryClosed _ _ _ hfin => exact ⟨htask, hback, hregistry, fun _ => hfin⟩
  | registry _ _ hrecv =>
    have hless := Broadcast.length_unread_recv hrecv
    refine ⟨htask, ?_, rfl, fun hd => absurd hd Bool.false_ne_true⟩
    unfold backlog at hback ⊢
    simp only
    omega
  | registryLagged _ _ hrecv =>
    refine absurd hrecv (Broadcast.not_lagged ?_)
    unfold backlog at hback
    rw [hcap, registryCapacity]
    omega

theorem Inv.step {cfg : LoopConfig} {mode : DiscoveryMode} {s t : SelectLoop} {l : Label}
    (h : Inv mode s) (hs : Step cfg s l t) : Inv mode t := by
  refine ⟨?_, ?_, ?_⟩
  · cases mode with
    | auto => exact h.alive.step_auto hs
    | static results => exact h.alive.step_static h.capacity hs
  · cases hs with
    | discovery _ _ _ => exact (length_onDiscovery s.registry _).2.trans h.capacity
    | _ => exact h.capacity
  · obtain ⟨loop, hloop, hbounds⟩ := h.loop
    cases hs with
    | @registry e _ loop' hsome _ _ =>
      rw [hloop, Option.some.injEq] at hsome
      subst hsome
      exact hbounds.step cfg e
    | _ => exact ⟨loop, hloop, hbounds⟩

omit [UnicodeTables] in
theorem Inv.not_panics {mode : DiscoveryMode} {s : SelectLoop} (h : Inv mode s) : ¬ s.Panics := by
  intro hp
  obtain ⟨loop, hloop, _⟩ := h.loop
  rcases hp with ⟨hdiscovery, hregistry⟩ | hnone
  · have halive := h.alive
    cases mode with
    | static results =>
      rw [halive.2.2.1] at hregistry
      cases hregistry
    | auto =>
      rw [halive.2] at hdiscovery
      cases hdiscovery
  · rw [hloop] at hnone
    cases hnone

/-- **The bridge loop survives every schedule.** In both modes, for any number of configured
cameras, any results of connecting them, every slot file and every order of the ready
branches, no reachable turn has both patterns failing and no handler panics. -/
theorem survives [SerdeJson] (cfg : LoopConfig) (mode : DiscoveryMode) (file : SlotFile)
    {labels : List Label} {s : SelectLoop} (h : Run (Step cfg) (start mode file) labels s) :
    ¬ s.Panics :=
  (h.invariant (Inv mode) (fun _ _ _ hi hstep => hi.step hstep) (inv_start mode file)).not_panics

omit [UnicodeTables] in
/-- The scan has returned before the loop takes its one camera, and the closed channel is
noticed before the registry's event is taken. -/
theorem survives_closed_channel :
    letI := asciiTables
    letI := PrettyJson.serdeJson
    let cfg : LoopConfig := ⟨∅, "admin", "pass"⟩
    let camera := CameraDevice.bare "SN-1"
    ∃ s, Run (Step cfg) (start (.static [.ok camera]) none)
        [.connected, .finish, .discovery (.cameraFound camera), .discoveryClosed] s ∧
      s.registry.tx.unread s.next = [.added camera] ∧ ¬ s.Panics := by
  intro cfg camera
  let _ := asciiTables
  let _ := PrettyJson.serdeJson
  let started := start (.static [.ok camera]) none
  let queued : SelectLoop := { started with
    task := .scanning []
    channel := [.cameraFound camera] }
  let finished : SelectLoop := { queued with task := .finished }
  let registered : SelectLoop := { finished with
    channel := []
    registry := onDiscovery started.registry (.cameraFound camera) }
  have hidle : started.Idle := ⟨by simp [started, start, DiscoveryReady, DiscoveryMode.task],
    fun h => h.2 rfl⟩
  have hconnected : Step cfg started .connected queued := .connected rfl hidle (by decide)
  have hfinish : Step cfg queued .finish finished := .finish rfl
  have htaken : Step cfg finished (.discovery (.cameraFound camera)) registered :=
    .discovery rfl rfl rfl
  have hclosed : Step cfg registered .discoveryClosed
      { registered with discoveryDisabled := true } := .discoveryClosed rfl rfl rfl rfl
  have hrun := Run.cons hconnected (Run.cons hfinish (Run.cons htaken (Run.one hclosed)))
  exact ⟨_, hrun, rfl, survives cfg _ none hrun⟩

end SelectLoop

end MatterBridge.Bridge
