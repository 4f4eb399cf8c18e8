import MatterBridge.Bridge.EventSlot
import MatterBridge.Slots.PrettyJson

/-!
# Data versions of the bridged device information

A slot's basic information cluster reads its attributes from the `CameraSlot` that the
bridge thread writes, and its data version from a `Dataver` that only the Matter framework
moves. Clients skip a read when the version is one they have seen, so the two should
move together. What `Dataver::changed` does to the version is a parameter.
-/
namespace MatterBridge.Bridge

open MatterBridge.Core MatterBridge.Onvif MatterBridge.Slots

namespace BridgedHandler

/-- The attributes the handler advertises. -/
inductive AttributeId where
  | reachable
  | uniqueId
  | vendorName
  | productName
  | nodeLabel
  | serialNumber
  | hardwareVersionString
  | softwareVersionString
  deriving DecidableEq, Repr

inductive AttributeValue where
  | bool (value : Bool)
  | utf8 (value : String)
  deriving DecidableEq, Repr

def read (state : CameraSlot) : AttributeId → AttributeValue
  | .reachable => .bool state.occupied
  | .uniqueId => .utf8 state.uniqueId
  | .vendorName => .utf8 state.vendorName
  | .productName => .utf8 state.productName
  | .nodeLabel => .utf8 state.nodeLabel
  | .serialNumber => .utf8 state.serialNumber
  | .hardwareVersionString => .utf8 state.hardwareVersionString
  | .softwareVersionString => .utf8 state.softwareVersionString

end BridgedHandler

open BridgedHandler (AttributeId AttributeValue)

/-- A read of one attribute, with the data version reported along with its value. -/
structure AttributeRead where
  slot : Nat
  attr : AttributeId
  dataver : UInt32
  value : AttributeValue
  deriving DecidableEq, Repr

structure BasicInformation where
  loop : BridgeLoop
  /-- slot index → data version of the slot's handler -/
  datavers : Vector UInt32 maxCameras
  /-- The reads made so far, oldest first. -/
  reads : List AttributeRead

namespace BasicInformation

/-- The initial data versions are random numbers. -/
def start [SerdeJson] (file : SlotFile) (initial : Vector UInt32 maxCameras) : BasicInformation :=
  ⟨BridgeLoop.boot file, initial, []⟩

/-- What a read made now returns. -/
def readNow (s : BasicInformation) (slot : Nat) (h : slot < maxCameras) (attr : AttributeId) :
    AttributeRead :=
  ⟨slot, attr, s.datavers[slot], BridgedHandler.read s.loop.slots[slot] attr⟩

inductive Label where
  | event (e : RegistryEvent)
  /-- `dataver_changed`, called by the framework after a write or a command. -/
  | dataverChanged (slot : Nat)
  | read (slot : Nat) (attr : AttributeId)

inductive Step [UnicodeTables] (cfg : LoopConfig) (changed : UInt32 → UInt32) :
    BasicInformation → Label → BasicInformation → Prop
  | event {s : BasicInformation} {e : RegistryEvent} {t : BridgeLoop} :
      s.loop.handleEvent cfg e = some t → Step cfg changed s (.event e) { s with loop := t }
  | dataverChanged {s : BasicInformation} {slot : Nat} (h : slot < maxCameras) :
      Step cfg changed s (.dataverChanged slot) { s with
        datavers := s.datavers.set slot (changed s.datavers[slot]) h }
  | read {s : BasicInformation} {slot : Nat} {attr : AttributeId} (h : slot < maxCameras) :
      Step cfg changed s (.read slot attr) { s with
        reads := s.reads ++ [s.readNow slot h attr] }

/-- Reads of one attribute that report one version report one value: those made so far,
and each of them with the one that could be made now. -/
structure Coherent (s : BasicInformation) : Prop where
  past : ∀ a ∈ s.reads, ∀ b ∈ s.reads, a.slot = b.slot → a.attr = b.attr →
    a.dataver = b.dataver → a.value = b.value
  next : ∀ a ∈ s.reads, ∀ h : a.slot < maxCameras, a.dataver = s.datavers[a.slot] →
    a.value = (s.readNow a.slot h a.attr).value

/-- An event changes no attribute that was read at the current version of its slot, and
the version of a slot never returns to one at which another value was read. -/
def Unseen (cfg : LoopConfig) (changed : UInt32 → UInt32) (s : BasicInformation) : Label → Prop
  | .event e => ∀ a ∈ s.reads, ∀ h : a.slot < maxCameras, s.loop.eventSlot e = some a.slot →
    a.dataver = s.datavers[a.slot] →
      BridgedHandler.read (BridgeLoop.shown cfg e) a.attr =
        BridgedHandler.read s.loop.slots[a.slot] a.attr
  | .dataverChanged slot => ∀ a ∈ s.reads, ∀ h : a.slot < maxCameras, a.slot = slot →
    a.dataver = changed s.datavers[a.slot] →
      a.value = BridgedHandler.read s.loop.slots[a.slot] a.attr
  | .read _ _ => True

theorem unseen_event_iff [UnicodeTables] {cfg : LoopConfig} {changed : UInt32 → UInt32}
    {s : BasicInformation} (hb : s.loop.InBounds) (hc : s.Coherent) {e : RegistryEvent}
    {t : BridgeLoop} (ht : s.loop.handleEvent cfg e = some t) :
    s.Unseen cfg changed (.event e) ↔ Coherent { s with loop := t } := by
  constructor
  · intro hok
    refine ⟨hc.past, fun a ha h hver => ?_⟩
    show a.value = BridgedHandler.read t.slots[a.slot] a.attr
    rw [hb.slots_step ht h, hc.next a ha h hver]
    split
    · rename_i he
      exact (hok a ha h he hver).symm
    · rfl
  · intro hafter a ha h he hver
    have hnow : a.value = BridgedHandler.read t.slots[a.slot] a.attr := hafter.next a ha h hver
    rw [hb.slots_step ht h, if_pos he, hc.next a ha h hver] at hnow
    exact hnow.symm

theorem unseen_changed_iff {cfg : LoopConfig} {changed : UInt32 → UInt32} {s : BasicInformation}
    (hc : s.Coherent) {slot : Nat} (hslot : slot < maxCameras) :
    s.Unseen cfg changed (.dataverChanged slot) ↔ Coherent { s with
      datavers := s.datavers.set slot (changed s.datavers[slot]) hslot } := by
  constructor
  · intro hok
    refine ⟨hc.past, fun a ha h hver => ?_⟩
    by_cases hs : a.slot = slot
    · refine hok a ha h hs ?_
      simp only [hs, Vector.getElem_set_self] at hver
      simp only [hver, hs]
    · rw [Vector.getElem_set_ne hslot h (Ne.symm hs)] at hver
      exact hc.next a ha h hver
  · intro hafter a ha h hs hver
    refine hafter.next a ha h ?_
    simp only [hs, Vector.getElem_set_self]
    simp only [hver, hs]

/-- A read records what could be read. -/
theorem Coherent.read {s : BasicInformation} (hc : s.Coherent) {slot : Nat}
    (hslot : slot < maxCameras) (attr : AttributeId) :
    Coherent { s with reads := s.reads ++ [s.readNow slot hslot attr] } := by
  have hnew : ∀ a ∈ s.reads, a.slot = slot → a.attr = attr →
      a.dataver = s.datavers[slot] → a.value = (s.readNow slot hslot attr).value := by
    intro a ha hs hattr hver
    subst hs
    subst hattr
    exact hc.next a ha hslot hver
  refine ⟨fun a ha b hb hs hattr hver => ?_, fun a ha h hver => ?_⟩
  · rcases List.mem_append.mp ha with ha | ha <;> rcases List.mem_append.mp hb with hb | hb
    · exact hc.past a ha b hb hs hattr hver
    · obtain rfl := List.mem_singleton.mp hb
      exact hnew a ha hs hattr hver
    · obtain rfl := List.mem_singleton.mp ha
      exact (hnew b hb hs.symm hattr.symm hver.symm).symm
    · rw [List.mem_singleton.mp ha, List.mem_singleton.mp hb]
  · rcases List.mem_append.mp ha with ha | ha
    · exact hc.next a ha h hver
    · obtain rfl := List.mem_singleton.mp ha
      rfl

section

variable [UnicodeTables] {cfg : LoopConfig} {changed : UInt32 → UInt32}

theorem Step.inBounds {s t : BasicInformation} {l : Label} (hb : s.loop.InBounds)
    (hstep : Step cfg changed s l t) : t.loop.InBounds := by
  cases hstep with
  | event ht => exact hb.kept ht
  | dataverChanged h => exact hb
  | read h => exact hb

theorem Step.coherent_iff {s t : BasicInformation} {l : Label} (hb : s.loop.InBounds)
    (hc : s.Coherent) (hstep : Step cfg changed s l t) : s.Unseen cfg changed l ↔ t.Coherent := by
  cases hstep with
  | event ht => exact unseen_event_iff hb hc ht
  | dataverChanged h => exact unseen_changed_iff hc h
  | @read slot attr h => exact ⟨fun _ => hc.read h attr, fun _ => trivial⟩

/-- **When the data version tells the truth.** For every slot file, all initial versions,
whatever `Dataver::changed` does, and every interleaving of registry events, version changes
and reads: reads that report the same version agree in all states, exactly when no event
changes an attribute that was read at the current version of its slot, and no version
comes back after another value was read at it. -/
theorem version_coherent_iff [SerdeJson] (file : SlotFile) (initial : Vector UInt32 maxCameras)
    (labels : List Label) (s : BasicInformation) :
    Run (Guarded (Step cfg changed) (Unseen cfg changed)) (start file initial) labels s ↔
      Run (Keeping (Step cfg changed) Coherent) (start file initial) labels s := by
  have hempty : Coherent (start file initial) :=
    ⟨fun _ ha => absurd ha List.not_mem_nil, fun _ ha => absurd ha List.not_mem_nil⟩
  exact Run.guarded_iff_keeping (fun s => s.loop.InBounds)
    (fun _ _ _ hb _ hstep _ => hstep.inBounds hb)
    (fun _ _ _ hb hc hstep => hstep.coherent_iff hb hc) (BridgeLoop.inBounds_boot file) hempty

end

/-- A camera is read as reachable and removed: at the same version it now reads as
unreachable. -/
theorem removed_camera_keeps_version :
    letI := asciiTables
    letI := PrettyJson.serdeJson
    ∃ s, Run (Step ⟨∅, "admin", "pass"⟩ (· + 1)) (start none (.replicate _ 7))
        [.event (.added (CameraDevice.bare "SN-1")), .read 7 .reachable,
          .event (.removed "SN-1"), .read 7 .reachable] s ∧
      s.reads = [⟨7, .reachable, 7, .bool true⟩, ⟨7, .reachable, 7, .bool false⟩] := by
  let _ := asciiTables
  let _ := PrettyJson.serdeJson
  let cfg : LoopConfig := ⟨∅, "admin", "pass"⟩
  let online : BridgeLoop := ((BridgeLoop.boot none).handleEvent cfg
    (.added (CameraDevice.bare "SN-1"))).getD (BridgeLoop.boot none)
  let offline : BridgeLoop := (online.handleEvent cfg (.removed "SN-1")).getD online
  let found : BasicInformation := { start none (.replicate _ 7) with loop := online }
  let seen : BasicInformation := { found with
    reads := [found.readNow 7 (by decide) .reachable] }
  let gone : BasicInformation := { seen with loop := offline }
  have hadded : Step cfg (· + 1) (start none (.replicate _ 7))
      (.event (.added (CameraDevice.bare "SN-1"))) found := .event rfl
  have hseen : Step cfg (· + 1) found (.read 7 .reachable) seen := .read (by decide)
  have hremoved : Step cfg (· + 1) seen (.event (.removed "SN-1")) gone := .event rfl
  refine ⟨_, Run.cons hadded (Run.cons hseen (Run.cons hremoved (Run.one (.read ?_)))), ?_⟩
  · decide
  · rfl

end BasicInformation

end MatterBridge.Bridge
