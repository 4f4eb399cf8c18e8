import MatterBridge.Core.FirstCome
import MatterBridge.Bridge.EndpointIdentity
import MatterBridge.Slots.Allocation

/-!
# Which cameras get an endpoint

There are eight slots and no event gives one back, so the order in which cameras arrive
decides, once and for all lifetimes of the slot file, which of them a controller ever sees.
-/
namespace MatterBridge.Slots.SlotMap

open MatterBridge.Core

/-- What `assign` does to the set of cameras with a slot, whichever pool they prefer. -/
theorem keys_assign {m : SlotMap} (hfit : m.withOccupancy ≤ m.capacity) (hr : m.InRange)
    (hx : m.map.Injective) (id : String) (wants : Bool) :
    (m.assign id wants).slots.map.keys = enroll m.capacity m.map.keys id := by
  rcases m.assign_cases id wants with ⟨slot, hl, he⟩ | ⟨hl, he⟩ | ⟨slot, hl, hfree, hpool, he⟩
  · have hmem : id ∈ m.map.keys := Finmap.mem_keys.mpr (Finmap.mem_of_lookup_eq_some hl)
    rw [he, enroll, Finset.insert_eq_self.mpr hmem, ite_self]
  · have hrefused : (m.assign id wants).slot = none := by rw [he]
    have hcard := (held_iff_card hr hx).mp fun slot hs => held_of_refused hrefused hs
    rw [he, enroll, if_neg (by omega)]
  · have hroom : m.map.keys.card < m.capacity := by
      have hlt := (mem_pools hfit).mp hpool
      have hne : m.map.keys.card ≠ m.capacity := by
        intro hcard
        obtain ⟨k, hk⟩ := (held_iff_card hr hx).mpr hcard slot hlt
        exact hfree k hk
      have hle : m.map.keys.card ≤ m.capacity := by
        rw [← hx.card_values, ← Finset.card_range m.capacity]
        refine Finset.card_le_card fun slot hslot => ?_
        obtain ⟨k, hk⟩ := HashMap.mem_values.mp hslot
        exact Finset.mem_range.mpr (hr k slot hk)
      omega
    rw [he, enroll, if_pos hroom]
    ext k
    rw [Finmap.mem_keys, Finmap.mem_insert, Finset.mem_insert, Finmap.mem_keys]

end MatterBridge.Slots.SlotMap

namespace MatterBridge.Bridge

open MatterBridge.Core MatterBridge.Onvif MatterBridge.Slots

namespace Lifetimes

/-- The cameras that asked for a slot, in any lifetime, oldest first. -/
def arrived (labels : List Label) : List String :=
  labels.filterMap fun
    | .thread (.atom (.assignSlot camera)) _ => some camera.id
    | _ => none

theorem arrived_append (a b : List Label) : arrived (a ++ b) = arrived a ++ arrived b :=
  List.filterMap_append

section

variable [SerdeJson] [UnicodeTables] {cfg : LoopConfig}

/-- The cameras with a slot are those the first-come rule takes in. -/
theorem keys_step {labels : List Label} {s t : Lifetimes} {l : Label} {base : Finset String}
    (hinv : Inv cfg labels s) (hs : Step cfg s l t) (hl : s.Recovers l)
    (h : s.thread.shared.slotMap.map.keys = enrolled maxCameras base (arrived labels)) :
    t.thread.shared.slotMap.map.keys = enrolled maxCameras base (arrived (labels ++ [l])) := by
  obtain ⟨⟨shared, due⟩, file⟩ := s
  have hslots : BridgeSlots shared.slotMap := hinv.along.here.slots
  have hfit : shared.slotMap.withOccupancy ≤ shared.slotMap.capacity := by
    rw [hslots.capacity, hslots.pools]
    decide
  have hsame : arrived [l] = [] → t.thread.shared.slotMap.map = shared.slotMap.map →
      t.thread.shared.slotMap.map.keys = enrolled maxCameras base (arrived (labels ++ [l])) := by
    intro hnone hmap
    rw [arrived_append, hnone, List.append_nil, ← h, hmap]
  cases hs with
  | restart => exact hsame rfl hl
  | @thread l outcome t ht =>
    cases ht with
    | job => exact hsame rfl rfl
    | look _ => exact hsame rfl rfl
    | @atom u v a rest hrun =>
      have hmap := LoopSection.slotMap_run hrun
      cases a with
      | assignSlot camera =>
        have harrived : arrived (labels ++ [.thread (.atom (.assignSlot camera)) outcome]) =
            arrived labels ++ [camera.id] := arrived_append ..
        rw [harrived, enrolled_snoc, ← h]
        show v.slotMap.map.keys = enroll maxCameras shared.slotMap.map.keys camera.id
        rw [hmap, LoopSection.allocated, SlotMap.keys_assign hfit hslots.inRange
          hslots.exclusive, hslots.capacity]
      | _ => exact hsame rfl (congrArg SlotMap.map hmap)

theorem keys_of_run {file : SlotFile}
    (hfile : (SlotMap.load file maxCameras withOccupancyCameras).map.Injective)
    {labels : List Label} {s : Lifetimes}
    (h : Run (Guarded (Step cfg) Recovers) (boot file) labels s) :
    s.thread.shared.slotMap.map.keys = enrolled maxCameras
      (SlotMap.load file maxCameras withOccupancyCameras).map.keys (arrived labels) := by
  have hboth : Inv cfg labels s ∧ s.thread.shared.slotMap.map.keys = enrolled maxCameras
      (SlotMap.load file maxCameras withOccupancyCameras).map.keys (arrived labels) :=
    h.history (fun labels s => Inv cfg labels s ∧ s.thread.shared.slotMap.map.keys =
        enrolled maxCameras (SlotMap.load file maxCameras withOccupancyCameras).map.keys
          (arrived labels))
      ⟨inv_of_run hfile Run.refl, rfl⟩ fun _ _ _ _ ht hstep =>
        ⟨ht.1.step hstep.1 hstep.2, keys_step ht.1 hstep.1 hstep.2 ht.2⟩
  exact hboth.2

/-- **Endpoints go to the cameras that came first.** Over any number of lifetimes: a camera
has an endpoint exactly if the slot file had it at the start, or it arrived at a moment when
the cameras of the file and those that had arrived before, removed or not, were fewer than
eight; and no other camera's id is ever read from any endpoint. -/
theorem first_come_first_served {file : SlotFile}
    (hfile : (SlotMap.load file maxCameras withOccupancyCameras).map.Injective)
    {labels : List Label} {s : Lifetimes}
    (h : Run (Guarded (Step cfg) Recovers) (boot file) labels s) (id : String) :
    ((∃ slot, s.thread.shared.slotMap.map.lookup id = some slot) ↔
      id ∈ (SlotMap.load file maxCameras withOccupancyCameras).map ∨
        ∃ before after, arrived labels = before ++ id :: after ∧
          (came (SlotMap.load file maxCameras withOccupancyCameras).map.keys before).card <
            maxCameras) ∧
    ∀ slot, id ≠ "" → Looked labels (.read slot .uniqueId (.utf8 id)) →
      ∃ slot, s.thread.shared.slotMap.map.lookup id = some slot := by
  constructor
  · rw [← Option.isSome_iff_exists, Finmap.lookup_isSome, ← Finmap.mem_keys, keys_of_run hfile h,
      mem_enrolled, Finmap.mem_keys]
  · intro slot hne hread
    exact ⟨slot, (inv_of_run hfile h).tells _ hread rfl id rfl hne⟩

omit [SerdeJson] [UnicodeTables] in
/-- The first camera of a new installation, and a restart before it is announced. -/
theorem first_come_first_served_restart :
    letI := asciiTables
    letI := PrettyJson.serdeJson
    let camera := CameraDevice.bare "SN-1"
    ∃ s file, Run (Guarded (Step ⟨∅, "admin", "pass"⟩) Recovers) (boot none)
        [.thread (.job (.added camera)) .kept, .thread (.atom (.assignSlot camera)) (.written 0),
          .restart] s ∧ s = boot file ∧
      ∃ slot, s.thread.shared.slotMap.map.lookup "SN-1" = some slot := by
  intro camera
  let _ := asciiTables
  let _ := PrettyJson.serdeJson
  let cfg : LoopConfig := ⟨∅, "admin", "pass"⟩
  let assigned : SlotMap := ⟨(∅ : HashMap String Nat).insert "SN-1" 7, 8, 7⟩
  let file : SlotFile := some (SerdeJson.toStringPretty ⟨assigned.map⟩ 0)
  let due : List LoopSection := [.bindSlot "SN-1" 7, .bindStreamName "SN-1" 7,
    .populateSlot 7 camera, .seedStreams 7 camera, .startPump 7 camera]
  have hjob : Guarded (Step cfg) Recovers (boot none) (.thread (.job (.added camera)) .kept)
      ⟨⟨BridgeLoop.start ⟨∅, 8, 7⟩, .assignSlot camera :: due⟩, none⟩ :=
    ⟨.thread (s := boot none) .job, trivial⟩
  have hassign : Guarded (Step cfg) Recovers
      ⟨⟨BridgeLoop.start ⟨∅, 8, 7⟩, .assignSlot camera :: due⟩, none⟩
      (.thread (.atom (.assignSlot camera)) (.written 0))
      ⟨⟨BridgeLoop.start assigned, due⟩, file⟩ :=
    ⟨.thread (.atom rfl), trivial⟩
  have hrecovers : (SlotMap.load file maxCameras withOccupancyCameras).map = assigned.map :=
    SlotMap.load_written (bridgeSlots_empty.assign "SN-1" false).inRange 0 7
  have hrestart : Guarded (Step cfg) Recovers ⟨⟨BridgeLoop.start assigned, due⟩, file⟩ .restart
      (boot file) := ⟨.restart, hrecovers⟩
  have hrun := Run.cons hjob (Run.cons hassign (Run.one hrestart))
  have hserved := (first_come_first_served HashMap.injective_empty hrun "SN-1").1
  exact ⟨_, file, hrun, rfl, hserved.mpr (Or.inr ⟨[], [], rfl, by decide⟩)⟩

end

end Lifetimes

end MatterBridge.Bridge
