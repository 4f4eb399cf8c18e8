import MatterBridge.Bridge.LoopSections

/-!
# The identity of an endpoint

A controller stores endpoint numbers, so a slot must never come to stand for another
camera, not within one lifetime of the bridge and not after a restart. Here the bridge
thread runs at lock granularity over a slot file, the Matter thread looks on, and the power
may go at any moment, also between two sections of a handler.
-/
namespace MatterBridge.Bridge

open MatterBridge.Core MatterBridge.Onvif MatterBridge.Slots
open BridgedHandler (AttributeId AttributeValue)

section

variable [UnicodeTables] {cfg : LoopConfig}

/-- What a look tells about the allocation for the rest of the run. -/
def Glance.Tells : Glance → BridgeLoop → Prop
  | .read slot attr value, s => attr = .uniqueId → ∀ id, value = .utf8 id → id ≠ "" →
      s.slotMap.map.lookup id = some slot
  | .offer hooks exchangeSdp sdp outcome, s => outcome = .error .invalidInState ∨
      ∃ id, s.slotMap.map.lookup id = some hooks.slot ∧
        outcome = (exchangeSdp (sanitizeStreamName id) sdp).mapError fun _ => .failure

omit [UnicodeTables] in
theorem CameraSlot.ne_default_of_uniqueId {c : CameraSlot} (h : c.uniqueId ≠ "") :
    c ≠ .default := by
  rintro rfl
  exact h rfl

theorem Serving.tells {s : BridgeLoop} (h : Serving s) {g : Glance} (hg : g.Sees s) :
    g.Tells s := by
  cases g with
  | read slot attr value =>
    rintro rfl id rfl hne
    obtain ⟨hlt, hv⟩ := hg
    obtain rfl : id = s.slots[slot].uniqueId := by
      simpa only [BridgedHandler.read, BridgedHandler.AttributeValue.utf8.injEq] using hv
    exact (h.shown slot hlt (CameraSlot.ne_default_of_uniqueId hne)).1
  | offer hooks exchangeSdp sdp outcome =>
    have ho : outcome = hooks.forwardOffer (some s.bridge.streamNames) exchangeSdp sdp := hg
    rw [BridgeWebRtcHooks.forwardOffer, BridgeWebRtcHooks.lookupStreamName, Option.bind_some] at ho
    cases hl : s.bridge.streamNames.lookup hooks.slot with
    | none =>
      rw [hl] at ho
      exact Or.inl ho
    | some name =>
      rw [hl] at ho
      obtain ⟨id, hid, rfl⟩ := h.names hooks.slot name hl
      exact Or.inr ⟨id, hid, ho⟩

/-- The allocator after a section: one section writes it. -/
def LoopSection.allocated (m : SlotMap) : LoopSection → SlotMap
  | .assignSlot camera => (m.assign camera.id camera.supportsMotion).slots
  | _ => m

theorem LoopSection.slotMap_run {s t : BridgeLoop} {a : LoopSection} (h : a.run cfg s = some t) :
    t.slotMap = a.allocated s.slotMap := by
  cases a with
  | populateSlot slot camera =>
    rw [BridgeLoop.writeSlot_frame h]
    rfl
  | clearSlot slot =>
    rw [BridgeLoop.writeSlot_frame h]
    rfl
  | seedStreams slot camera =>
    obtain rfl := Option.some.inj h
    exact BridgeLoop.slotMap_seedAvStreams ..
  | startPump slot camera =>
    obtain rfl := Option.some.inj h
    exact BridgeLoop.slotMap_startMotionPump ..
  | abortPump slot =>
    obtain rfl := Option.some.inj h
    exact BridgeLoop.slotMap_abortMotionPump ..
  | _ =>
    obtain rfl := Option.some.inj h
    rfl

/-- No section takes a camera's slot away. -/
theorem LoopSection.lookup_run {s t : BridgeLoop} {a : LoopSection} (h : a.run cfg s = some t)
    {id : String} {slot : Nat} (hid : s.slotMap.map.lookup id = some slot) :
    t.slotMap.map.lookup id = some slot := by
  rw [LoopSection.slotMap_run h]
  cases a with
  | assignSlot camera => exact SlotMap.lookup_assign hid
  | _ => exact hid

/-- What works for a camera works on the slot the camera has, with one of its `records`. -/
def LoopSection.Ready (records : Set CameraDevice) (s : BridgeLoop) : LoopSection → Prop
  | .seedStreams slot camera => camera ∈ records ∧ s.slotMap.map.lookup camera.id = some slot
  | .startPump slot camera => camera ∈ records ∧ s.slotMap.map.lookup camera.id = some slot
  | _ => True

theorem LoopSection.Ready.run {records : Set CameraDevice} {s t : BridgeLoop} {a b : LoopSection}
    (h : Ready records s b) (ht : a.run cfg s = some t) : Ready records t b := by
  cases b with
  | seedStreams slot camera => exact ⟨h.1, LoopSection.lookup_run ht h.2⟩
  | startPump slot camera => exact ⟨h.1, LoopSection.lookup_run ht h.2⟩
  | _ => trivial

/-- What no ready section undoes holds throughout a list of them. -/
theorem LoopSection.keeps_of_ready {records : Set CameraDevice} {Q : BridgeLoop → Prop}
    (hQ : ∀ s t a, Q s → Ready records s a → LoopSection.run cfg s a = some t → Q t)
    {s : BridgeLoop} (h : Q s) {sections : List LoopSection}
    (hready : ∀ a ∈ sections, Ready records s a) :
    (loopProgram cfg).Keeps Q sections s := by
  induction sections generalizing s with
  | nil => exact h
  | cons a rest ih =>
    refine ⟨h, fun t ht => ih (hQ s t a h (hready a List.mem_cons_self) ht) fun b hb => ?_⟩
    exact (hready b (List.mem_cons_of_mem a hb)).run ht

/-- The sections of an event are ready in their turn. -/
theorem LoopSection.keeps_job {records : Set CameraDevice} {Q : BridgeLoop → Prop}
    (hQ : ∀ s t a, Q s → Ready records s a → LoopSection.run cfg s a = some t → Q t)
    {s : BridgeLoop} (h : Q s) {e : RegistryEvent}
    (he : ∀ camera, e = .added camera → camera ∈ records) :
    (loopProgram cfg).Keeps Q (loopPlan s e) s := by
  cases e with
  | added camera =>
    rw [loopPlan]
    cases hslot : (s.slotMap.assign camera.id camera.supportsMotion).slot with
    | none => exact keeps_of_ready hQ h (by simp [Ready])
    | some slot =>
      refine ⟨h, fun t (ht : LoopSection.run cfg s (.assignSlot camera) = some t) => ?_⟩
      have hid : t.slotMap.map.lookup camera.id = some slot := by
        rw [LoopSection.slotMap_run ht]
        exact SlotMap.lookup_of_slot hslot
      exact keeps_of_ready hQ (hQ s t (.assignSlot camera) h trivial ht)
        (by simp [Ready, hid, he camera rfl])
  | updated camera =>
    rw [loopPlan]
    cases s.bridge.slotMap.lookup camera.id with
    | none => exact keeps_of_ready hQ h (by simp)
    | some slot => exact keeps_of_ready hQ h (by simp [Ready])
  | removed id =>
    rw [loopPlan]
    cases s.bridge.slotMap.lookup id with
    | none => exact keeps_of_ready hQ h (by simp)
    | some slot => exact keeps_of_ready hQ h (by simp [Ready])

/-- What a look tells is about the allocator's map alone. -/
theorem Glance.Tells.congr {s t : BridgeLoop} {g : Glance} (hg : g.Tells s)
    (h : s.slotMap.map = t.slotMap.map) : g.Tells t := by
  cases g with
  | read slot attr value =>
    intro hattr id hv hne
    rw [← h]
    exact hg hattr id hv hne
  | offer hooks exchangeSdp sdp outcome =>
    refine hg.imp_right ?_
    rw [← h]
    exact id

theorem Glance.Tells.run {s t : BridgeLoop} {a : LoopSection} {g : Glance} (hg : g.Tells s)
    (h : a.run cfg s = some t) : g.Tells t := by
  cases g with
  | read slot attr value =>
    intro hattr id hv hne
    exact LoopSection.lookup_run h (hg hattr id hv hne)
  | offer hooks exchangeSdp sdp outcome =>
    exact hg.imp_right fun ⟨id, hid, ho⟩ => ⟨id, LoopSection.lookup_run h hid, ho⟩

end

/-! ## Lifetimes -/

/-- The bridge thread and the slot file. -/
structure Lifetimes where
  thread : Thread BridgeLoop LoopSection
  file : SlotFile

namespace Lifetimes

inductive Label where
  /-- A step of the bridge thread; `outcome` is the fate of the save it may run. -/
  | thread (l : Thread.Label RegistryEvent LoopSection Glance) (outcome : SaveOutcome)
  | restart

variable [SerdeJson]

def boot (file : SlotFile) : Lifetimes := ⟨⟨BridgeLoop.boot file, []⟩, file⟩

/-- The file after a step: only a fresh allocation is saved. -/
def saved (s : Lifetimes) (outcome : SaveOutcome) :
    Thread.Label RegistryEvent LoopSection Glance → SlotFile
  | .atom (.assignSlot camera) =>
    let a := s.thread.shared.slotMap.assign camera.id camera.supportsMotion
    if a.saves then a.slots.save s.file outcome else s.file
  | _ => s.file

variable [UnicodeTables]

inductive Step (cfg : LoopConfig) : Lifetimes → Label → Lifetimes → Prop
  | thread {s : Lifetimes} {l : Thread.Label RegistryEvent LoopSection Glance}
      {outcome : SaveOutcome} {t : Thread BridgeLoop LoopSection} :
      Thread.Step (loopProgram cfg) Glance.Sees s.thread l t →
      Step cfg s (.thread l outcome) ⟨t, s.saved outcome l⟩
  | restart {s : Lifetimes} : Step cfg s .restart (boot s.file)

omit [UnicodeTables] in
/-- A restart finds the map that was in memory. -/
def Recovers (s : Lifetimes) : Label → Prop
  | .thread _ _ => True
  | .restart => (SlotMap.load s.file maxCameras withOccupancyCameras).map =
      s.thread.shared.slotMap.map

/-- The looks made so far, in any lifetime. -/
def Looked (labels : List Label) (g : Glance) : Prop :=
  ∃ outcome, .thread (.look g) outcome ∈ labels

structure Inv (cfg : LoopConfig) (labels : List Label) (s : Lifetimes) : Prop where
  along : (loopProgram cfg).Along Serving (LoopNames Set.univ) s.thread.due s.thread.shared
  tells : ∀ g, Looked labels g → g.Tells s.thread.shared

variable {cfg : LoopConfig}

theorem inv_boot {file : SlotFile}
    (h : (SlotMap.load file maxCameras withOccupancyCameras).map.Injective) :
    (loopProgram cfg).Along Serving (LoopNames Set.univ) (boot file).thread.due
      (boot file).thread.shared := by
  have hm : BridgeSlots (SlotMap.load file maxCameras withOccupancyCameras) :=
    ⟨rfl, rfl, SlotMap.inRange_load file _ _, h⟩
  exact .nil (Serving.start hm) (loopNames_start hm)

theorem Inv.step {labels : List Label} {s t : Lifetimes} {l : Label} (h : Inv cfg labels s)
    (hs : Step cfg s l t) (hl : s.Recovers l) : Inv cfg (labels ++ [l]) t := by
  cases hs with
  | @thread l outcome t ht =>
    refine ⟨Thread.along_step (fun _ e hP hI => Serving.along hP hI e) h.along ht, ?_⟩
    have hlooks := Thread.looks_step (Q := Glance.Tells) (fun _ _ hP hg => hP.tells hg)
      (fun _ _ _ _ hrun hg => Glance.Tells.run hg hrun) h.along h.tells ht
    rintro g ⟨outcome', hg⟩
    refine hlooks g ?_
    rcases List.mem_append.mp hg with hg | hg
    · exact Or.inl ⟨outcome', hg⟩
    · cases List.mem_singleton.mp hg
      exact Or.inr rfl
  | restart =>
    have hmap : (boot s.file).thread.shared.slotMap.map = s.thread.shared.slotMap.map := hl
    have hslots := h.along.here.slots
    refine ⟨inv_boot ?_, ?_⟩
    · rw [show (SlotMap.load s.file maxCameras withOccupancyCameras).map = _ from hl]
      exact hslots.exclusive
    · rintro g ⟨outcome, hg⟩
      rcases List.mem_append.mp hg with hg | hg
      · exact (h.tells g ⟨outcome, hg⟩).congr hmap.symm
      · cases List.mem_singleton.mp hg

theorem inv_of_run {file : SlotFile}
    (hfile : (SlotMap.load file maxCameras withOccupancyCameras).map.Injective)
    {labels : List Label} {s : Lifetimes}
    (h : Run (Guarded (Step cfg) Recovers) (boot file) labels s) : Inv cfg labels s :=
  h.history (Inv cfg) ⟨inv_boot hfile, fun g ⟨_, hg⟩ => by simp at hg⟩
    fun _ _ _ _ ht hstep => ht.step hstep.1 hstep.2

/-- **An endpoint keeps its identity.** Over any number of restarts, each of which finds the
map that was in memory: a controller that reads a unique id from a slot, at whatever moment
of whatever lifetime, reads no other there, and each offer it makes on the slot, before or
after, is rejected or goes to that camera's stream. -/
theorem endpoint_identity {file : SlotFile}
    (hfile : (SlotMap.load file maxCameras withOccupancyCameras).map.Injective)
    {labels : List Label} {s : Lifetimes}
    (h : Run (Guarded (Step cfg) Recovers) (boot file) labels s) {slot : Nat} {id : String}
    (hne : id ≠ "") (hread : Looked labels (.read slot .uniqueId (.utf8 id))) :
    (∀ id', id' ≠ "" → Looked labels (.read slot .uniqueId (.utf8 id')) → id' = id) ∧
      ∀ hooks exchangeSdp sdp outcome, hooks.slot = slot →
        Looked labels (.offer hooks exchangeSdp sdp outcome) →
          outcome = .error .invalidInState ∨
            outcome = (exchangeSdp (sanitizeStreamName id) sdp).mapError fun _ => .failure := by
  have hinv := inv_of_run hfile h
  have hslots := hinv.along.here.slots
  have hid := hinv.tells _ hread rfl id rfl hne
  refine ⟨fun id' hne' hread' => ?_, fun hooks exchangeSdp sdp outcome hslot hoffer => ?_⟩
  · exact hslots.exclusive id' id slot (hinv.tells _ hread' rfl id' rfl hne') hid
  · refine (hinv.tells _ hoffer).imp_right ?_
    rintro ⟨id', hid', rfl⟩
    rw [hslot] at hid'
    rw [hslots.exclusive id' id slot hid' hid]

/-- Steps that allocate no slot leave the file alone. -/
theorem run_thread {t u : Thread BridgeLoop LoopSection}
    {labels : List (Thread.Label RegistryEvent LoopSection Glance)}
    (h : Run (Thread.Step (loopProgram cfg) Glance.Sees) t labels u)
    (hlabels : ∀ camera, .atom (.assignSlot camera) ∉ labels) (file : SlotFile) :
    Run (Guarded (Step cfg) Recovers) ⟨t, file⟩ (labels.map (.thread · .kept)) ⟨u, file⟩ := by
  induction h with
  | refl => exact Run.refl
  | @snoc ls v w l _ hstep ih =>
    have hfile : saved ⟨v, file⟩ .kept l = file := by
      cases l with
      | atom a =>
        cases a with
        | assignSlot camera => exact absurd (by simp) (hlabels camera)
        | _ => rfl
      | job e => rfl
      | look g => rfl
    rw [List.map_append]
    refine (ih fun camera hmem => hlabels camera (List.mem_append_left _ hmem)).snoc ⟨?_, trivial⟩
    have hone : Step cfg ⟨v, file⟩ (.thread l .kept) ⟨w, saved ⟨v, file⟩ .kept l⟩ := .thread hstep
    rwa [hfile] at hone

omit [SerdeJson] [UnicodeTables] in
/-- A unique id is read, the bridge restarts, and an offer comes before the camera is back. -/
theorem endpoint_identity_after_restart :
    letI := asciiTables
    let outcome : Except WebRtcError String := .error .invalidInState
    outcome = .error .invalidInState ∨
      outcome = (Except.ok (sanitizeStreamName "SN-1") : Except String String).mapError
        fun _ => .failure := by
  let _ := asciiTables
  let _ := PrettyJson.serdeJson
  let camera := CameraDevice.bare "SN-1"
  let cfg : LoopConfig := ⟨∅, "admin", "pass"⟩
  let assigned : SlotMap := ⟨(∅ : HashMap String Nat).insert "SN-1" 7, 8, 7⟩
  let file : SlotFile := some (SerdeJson.toStringPretty ⟨assigned.map⟩ 0)
  let due : List LoopSection := [.bindSlot "SN-1" 7, .bindStreamName "SN-1" 7,
    .populateSlot 7 camera, .seedStreams 7 camera, .startPump 7 camera]
  have hjob : Guarded (Step cfg) Recovers (boot none) (.thread (.job (.added camera)) .kept)
      ⟨⟨BridgeLoop.start ⟨∅, 8, 7⟩, .assignSlot camera :: due⟩, none⟩ :=
    ⟨.thread (s := boot none) .job, trivial⟩
  have hassign : Guarded (Step cfg) Recovers
      ⟨⟨BridgeLoop.start ⟨∅, 8, 7⟩, .assignSlot camera :: due⟩, none⟩
      (.thread (.atom (.assignSlot camera)) (.written 0))
      ⟨⟨BridgeLoop.start assigned, due⟩, file⟩ :=
    ⟨.thread (.atom rfl), trivial⟩
  have hname : sanitizeStreamName "SN-1" = "SN-1" := by decide
  have hread : Glance.Sees unseeded (.read 7 .uniqueId (.utf8 "SN-1")) := ⟨by decide, by decide⟩
  have hbind : Run (Thread.Step (loopProgram cfg) Glance.Sees) ⟨BridgeLoop.start assigned, due⟩
      [.atom (.bindSlot "SN-1" 7), .atom (.bindStreamName "SN-1" 7), .atom (.populateSlot 7 camera),
        .look (.read 7 .uniqueId (.utf8 "SN-1"))]
      ⟨unseeded, [.seedStreams 7 camera, .startPump 7 camera]⟩ := by
    refine Run.cons (.atom rfl) (Run.cons (.atom rfl) (Run.cons (.atom ?_) (Run.one (.look hread))))
    rw [hname]
    rfl
  have hshown := run_thread hbind (by simp) file
  have hrecovers : (SlotMap.load file maxCameras withOccupancyCameras).map = assigned.map :=
    SlotMap.load_written (bridgeSlots_empty.assign "SN-1" false).inRange 0 7
  have hrestart : Guarded (Step cfg) Recovers ⟨⟨unseeded, [.seedStreams 7 camera,
      .startPump 7 camera]⟩, file⟩ .restart (boot file) := ⟨.restart, hrecovers⟩
  have hoffer : Guarded (Step cfg) Recovers (boot file)
      (.thread (.look (.offer (.new 7) (fun name _ => .ok name) "offer" (.error .invalidInState)))
        .kept) (boot file) := ⟨.thread (s := boot file) (.look rfl), trivial⟩
  have hrun := ((Run.cons hjob (Run.cons hassign hshown)).snoc hrestart).snoc hoffer
  have hidentity := endpoint_identity HashMap.injective_empty hrun (show "SN-1" ≠ "" by decide)
    (show Looked _ (.read 7 .uniqueId (.utf8 "SN-1")) from ⟨.kept, by simp⟩)
  exact hidentity.2 (.new 7) (fun name _ => .ok name) "offer" (.error .invalidInState) rfl
    ⟨.kept, by simp⟩

end Lifetimes

end MatterBridge.Bridge
