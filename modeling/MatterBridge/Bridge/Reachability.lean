import MatterBridge.Bridge.Intake
import MatterBridge.Bridge.LoopInvariant

/-!
# From scans to reachability

Discovery, registry and event loop in auto mode: `Auto` runs the intake and the
loop's registry subscription side by side. The intake half of a run is a run of
`Intake`, so the scan history decides what is registered; the loop half has
handled a prefix of the registry log, so its tables follow.
-/
namespace MatterBridge.Bridge

open MatterBridge.Core MatterBridge.Onvif MatterBridge.Slots

structure Auto where
  intake : Intake
  /-- Position of the loop's subscription in the registry log. -/
  next : Nat
  loop : BridgeLoop

namespace Auto

def start (m : SlotMap) : Auto := ⟨Intake.start, 0, BridgeLoop.start m⟩

inductive Label where
  | intake (l : Intake.Label)
  | registry (e : RegistryEvent)
  | lagged (missed : Nat)

def Label.intake? : Label → Option Intake.Label
  | .intake l => some l
  | .registry _ => none
  | .lagged _ => none

variable [UnicodeTables] {cfg : LoopConfig}

inductive Step (cfg : LoopConfig) : Auto → Label → Auto → Prop
  | intake {s : Auto} {l : Intake.Label} {intake : Intake} : Intake.Step s.intake l intake →
      Step cfg s (.intake l) { s with intake := intake }
  | registry {s : Auto} {e : RegistryEvent} {next : Nat} {loop : BridgeLoop} :
      s.intake.registry.tx.recv s.next = some (.ok e, next) →
      s.loop.handleEvent cfg e = some loop →
      Step cfg s (.registry e) { s with next := next, loop := loop }
  | lagged {s : Auto} {missed next : Nat} :
      s.intake.registry.tx.recv s.next = some (.error (.lagged missed), next) →
      Step cfg s (.lagged missed) { s with next := next }

/-- `BridgedHandler::reachable` of one endpoint. -/
def reachable (s : Auto) (slot : Nat) : Bool :=
  (s.loop.slots[slot]?.map CameraSlot.occupied).getD false

def uniqueId (s : Auto) (slot : Nat) : String :=
  (s.loop.slots[slot]?.map CameraSlot.uniqueId).getD ""

/-- The scans among the labels of a run. -/
def scansOf (labels : List Label) : List Scan :=
  Intake.scansOf (labels.filterMap Label.intake?)

/-- Every event sent so far has been taken from both channels. -/
structure Settled (s : Auto) : Prop where
  discovery : s.intake.discoveryRx = []
  registry : s.intake.registry.tx.unread s.next = []

theorem intake_run {m : SlotMap} {labels : List Label} {s : Auto}
    (h : Run (Step cfg) (start m) labels s) :
    Run Intake.Step Intake.start (labels.filterMap Label.intake?) s.intake := by
  refine h.project Auto.intake Label.intake? ?_
  intro s l t hstep
  cases hstep with
  | intake hi => exact Or.inl ⟨_, rfl, hi⟩
  | registry _ _ => exact Or.inr ⟨rfl, rfl⟩
  | lagged _ => exact Or.inr ⟨rfl, rfl⟩

/-- The loop has handled exactly the registry log up to its position. -/
def InStep (cfg : LoopConfig) (m : SlotMap) (s : Auto) : Prop :=
  s.intake.registry.tx.Follows s.next fun events =>
    (BridgeLoop.start m).handleEvents cfg events = some s.loop

theorem InStep.step {m : SlotMap} {s t : Auto} {l : Label} (h : InStep cfg m s)
    (hs : Step cfg s l t) (hl : ∀ n, l ≠ .lagged n) : InStep cfg m t := by
  cases hs with
  | intake hi =>
    obtain ⟨es, hsent, _⟩ := hi.log
    exact h.sent hsent
  | registry hrecv hloop =>
    refine h.received hrecv fun hhandled => ?_
    rw [BridgeLoop.handleEvents_snoc, hhandled]
    exact hloop
  | lagged _ => exact absurd rfl (hl _)

theorem inStep_of_run {m : SlotMap} {labels : List Label} {s : Auto}
    (h : Run (Step cfg) (start m) labels s) (hlag : ∀ n, .lagged n ∉ labels) :
    InStep cfg m s := by
  refine (h.guard (fun _ l => ∀ n, l ≠ .lagged n) ?_).invariant (InStep cfg m)
    (fun t l u ht hstep => ht.step hstep.1 hstep.2) ⟨Nat.zero_le _, rfl⟩
  intro l hl _ n hn
  exact hlag n (hn ▸ hl)

/-- In a settled state the loop's tables describe the registry's current map. -/
theorem inv_of_settled {m : SlotMap} (hm : BridgeSlots m) {labels : List Label} {s : Auto}
    (h : Run (Step cfg) (start m) labels s) (hlag : ∀ n, .lagged n ∉ labels) (hs : Settled s) :
    Inv cfg s.intake.registry.cameras s.intake.registry.tx.sent s.loop := by
  have hhandled := (inStep_of_run h hlag).drained hs.registry
  obtain ⟨loop, hloop, hinv⟩ :=
    inv_of_announced cfg hm (Intake.announced_of_run (intake_run h))
  rw [hloop, Option.some.injEq] at hhandled
  rwa [← hhandled]

/-- Registered are the cameras found in one of the last three scans. -/
theorem registered_iff {m : SlotMap} {labels : List Label} {s : Auto}
    (h : Run (Step cfg) (start m) labels s) (hs : Settled s) (id : String) :
    id ∈ s.intake.registry.cameras ↔
      ∃ scan ∈ (scansOf labels).reverse.take missThreshold, scan.found id = true := by
  have hc := covers_of_run (intake_run h)
  rw [← Intake.drained_of_empty hs.discovery, ← Finmap.lookup_isSome, hc.ids id,
    (hc.tracks id).record]
  exact present_iff

/-- **Reachability reflects discovery.** In every settled state of every run
without lag: an endpoint whose slot belongs to a camera is reachable exactly when
that camera was found in one of the last three scans, and then shows its id; an
endpoint whose slot belongs to no camera is unreachable. -/
theorem reachable_iff_recently_found {m : SlotMap} (hm : BridgeSlots m) {labels : List Label}
    {s : Auto} (h : Run (Step cfg) (start m) labels s) (hlag : ∀ n, .lagged n ∉ labels)
    (hs : Settled s) (slot : Nat) :
    (∀ id, s.loop.slotMap.map.lookup id = some slot →
      (s.reachable slot = true ↔
        ∃ scan ∈ (scansOf labels).reverse.take missThreshold, scan.found id = true) ∧
      (s.reachable slot = true → s.uniqueId slot = id)) ∧
    ((∀ id, s.loop.slotMap.map.lookup id ≠ some slot) → s.reachable slot = false) := by
  have hinv := inv_of_settled hm h hlag hs
  have htables := hinv.loopInvariant
  have hreach : s.reachable slot = true ↔ ∃ id, s.loop.bridge.slotMap.lookup id = some slot := by
    by_cases hlt : slot < maxCameras
    · have hslot : s.reachable slot = s.loop.slots[slot].occupied := by
        simp [reachable, hlt]
      rw [hslot]
      exact htables.occupied slot hlt
    · have hslot : s.reachable slot = false := by simp [reachable, hlt]
      simp only [hslot, Bool.false_eq_true, false_iff]
      rintro ⟨id, hid⟩
      exact hlt (hinv.lt hid)
  constructor
  · intro id hid
    have hbound : s.reachable slot = true ↔ s.loop.bridge.slotMap.lookup id = some slot := by
      rw [hreach]
      constructor
      · rintro ⟨id', hid'⟩
        have hown := ((hinv.bound_iff id' slot).mp hid').2
        rwa [hinv.slots.exclusive id' id slot hown hid] at hid'
      · exact fun hb => ⟨id, hb⟩
    refine ⟨?_, fun hr => ?_⟩
    · rw [hbound, hinv.bound_iff, ← registered_iff h hs id]
      exact and_iff_left hid
    · obtain ⟨hlt, camera, _, hcid, hshows⟩ := htables.bound id slot (hbound.mp hr)
      have hslot : s.uniqueId slot = s.loop.slots[slot].uniqueId := by simp [uniqueId, hlt]
      rw [hslot, hshows.uniqueId, hcid]
  · intro hnone
    rw [← Bool.not_eq_true, hreach]
    rintro ⟨id, hid⟩
    exact hnone id ((hinv.bound_iff id slot).mp hid).2

omit [UnicodeTables] in
/-- One scan finds one camera, and both of its events are taken. -/
theorem reachable_iff_recently_found_first_scan :
    letI := asciiTables
    let camera := CameraDevice.bare "SN-1"
    ∃ s, Run (Step ⟨∅, "admin", "pass"⟩) (start ⟨∅, 8, 7⟩)
        [.intake (.scan ⟨[.ok camera], [.cameraFound camera]⟩), .intake .discovery,
          .registry (.added camera)] s ∧
      s.reachable 7 = true ∧ s.uniqueId 7 = "SN-1" := by
  intro camera
  let _ := asciiTables
  let cfg : LoopConfig := ⟨∅, "admin", "pass"⟩
  let m : SlotMap := ⟨∅, 8, 7⟩
  have hm : BridgeSlots m := ⟨rfl, rfl, fun id slot h => by simp [m] at h, HashMap.injective_empty⟩
  let disc : Discovery := ⟨(∅ : HashMap _ _).insert "SN-1" camera, ∅⟩
  let sent : Intake := ⟨disc, [.cameraFound camera], CameraRegistry.new 64⟩
  let intake : Intake := ⟨disc, [], (CameraRegistry.new 64).addCamera camera⟩
  let loop := ((BridgeLoop.start m).handleEvent cfg (.added camera)).get rfl
  have hrun : Run (Step cfg) (start m)
      [.intake (.scan ⟨[.ok camera], [.cameraFound camera]⟩), .intake .discovery,
        .registry (.added camera)] ⟨intake, 1, loop⟩ := by
    refine Run.cons (t := ⟨sent, 0, BridgeLoop.start m⟩) (.intake (s := start m) (.scan ?_))
      (Run.cons (t := ⟨intake, 0, BridgeLoop.start m⟩)
        (.intake (s := ⟨sent, 0, BridgeLoop.start m⟩) (.discovery (s := sent) rfl)) (Run.one ?_))
    · exact .first camera
    · exact .registry (s := ⟨intake, 0, BridgeLoop.start m⟩) rfl (Option.some_get _).symm
  have hreach := reachable_iff_recently_found hm hrun (by simp) ⟨rfl, rfl⟩ 7
  have hslot : loop.slotMap.map.lookup "SN-1" = some 7 := rfl
  have htrue : (⟨intake, 1, loop⟩ : Auto).reachable 7 = true := by
    rw [(hreach.1 "SN-1" hslot).1]
    exact ⟨_, List.mem_cons_self, rfl⟩
  exact ⟨_, hrun, htrue, (hreach.1 "SN-1" hslot).2 htrue⟩

end Auto

end MatterBridge.Bridge
