import MatterBridge.Bridge.OneCamera
import MatterBridge.Bridge.Seeding

/-!
# The seed driver

Seeds cross from the bridge thread to the Matter thread in an unbounded channel. A driver
there takes them in order and offers each to the camera stream handler of its slot, between
whatever commands controllers give that handler. The handler is upstream's; here it is a
parameter that may refuse any stream.
-/
namespace MatterBridge.Bridge

open MatterBridge.Core MatterBridge.Onvif MatterBridge.Slots
open BridgedHandler (AttributeId AttributeValue)

/-- What becomes of the stream table of an endpoint. -/
structure CameraAvStreamHandler (H C : Type) where
  /-- The id of the new stream; `none` is an error. -/
  addPreallocatedVideo : H → VideoStream → H × Option UInt16
  command : H → C → H

/-- What a handler is called for. -/
inductive StreamCall (C : Type) where
  | addPreallocatedVideo (stream : VideoStream)
  | command (c : C)

def CameraAvStreamHandler.call {H C : Type} (av : CameraAvStreamHandler H C) (h : H) :
    StreamCall C → H
  | .addPreallocatedVideo stream => (av.addPreallocatedVideo h stream).1
  | .command c => av.command h c

/-! ## What sections send -/

/-- The stream was made from one of the `records`, of the camera that has the slot. -/
def SeedOwned (records : Set CameraDevice) (m : SlotMap) (slot : Nat) (stream : VideoStream) :
    Prop :=
  ∃ camera ∈ records, m.map.lookup camera.id = some slot ∧ videoStreamOf camera = some stream

def SeedsOwned (records : Set CameraDevice) (s : BridgeLoop) : Prop :=
  ∀ slot stream, (slot, stream) ∈ s.seedTx → SeedOwned records s.slotMap slot stream

theorem SeedOwned.mono {records records' : Set CameraDevice} {m m' : SlotMap} {slot : Nat}
    {stream : VideoStream} (h : SeedOwned records m slot stream) (hrecords : records ⊆ records')
    (hm : ∀ id slot, m.map.lookup id = some slot → m'.map.lookup id = some slot) :
    SeedOwned records' m' slot stream := by
  obtain ⟨camera, hrecord, hid, hstream⟩ := h
  exact ⟨camera, hrecords hrecord, hm _ _ hid, hstream⟩

theorem SeedsOwned.mono {records records' : Set CameraDevice} (hrecords : records ⊆ records')
    (s : BridgeLoop) (h : SeedsOwned records s) : SeedsOwned records' s :=
  fun slot stream hmem => (h slot stream hmem).mono hrecords fun _ _ hid => hid

section

variable [UnicodeTables] {cfg : LoopConfig}

/-- Only the seeding section sends. -/
theorem LoopSection.seeds_run {s t : BridgeLoop} {a : LoopSection} (h : a.run cfg s = some t) :
    ((∀ slot camera, a ≠ .seedStreams slot camera) ∧ BridgeLoop.SameSeeds s t) ∨
      ∃ slot camera, a = .seedStreams slot camera ∧ t = s.seedAvStreams slot camera := by
  cases a with
  | populateSlot slot camera => exact Or.inl ⟨nofun, BridgeLoop.sameSeeds_writeSlot h⟩
  | clearSlot slot => exact Or.inl ⟨nofun, BridgeLoop.sameSeeds_writeSlot h⟩
  | seedStreams slot camera => exact Or.inr ⟨slot, camera, rfl, (Option.some.inj h).symm⟩
  | startPump slot camera =>
    obtain rfl := Option.some.inj h
    exact Or.inl ⟨nofun, BridgeLoop.sameSeeds_startMotionPump cfg s slot camera⟩
  | abortPump slot =>
    obtain rfl := Option.some.inj h
    exact Or.inl ⟨nofun, BridgeLoop.sameSeeds_abortMotionPump s slot⟩
  | _ =>
    obtain rfl := Option.some.inj h
    exact Or.inl ⟨nofun, rfl, rfl⟩

omit [UnicodeTables] in
theorem mem_seedTx_seedAvStreams {s : BridgeLoop} {slot k : Nat} {camera : CameraDevice}
    {stream : VideoStream} (h : (k, stream) ∈ (s.seedAvStreams slot camera).seedTx) :
    (k, stream) ∈ s.seedTx ∨ k = slot ∧ videoStreamOf camera = some stream := by
  rw [BridgeLoop.seedAvStreams] at h
  split at h
  · exact Or.inl h
  · rcases List.mem_append.mp h with h | h
    · exact Or.inl h
    · cases hv : videoStreamOf camera with
      | none => simp [hv] at h
      | some made =>
        obtain ⟨rfl, rfl⟩ : k = slot ∧ stream = made := by simpa [hv] using h
        exact Or.inr ⟨rfl, rfl⟩

theorem SeedsOwned.run {records : Set CameraDevice} {s t : BridgeLoop} {a : LoopSection}
    (h : SeedsOwned records s) (hready : a.Ready records s) (ht : a.run cfg s = some t) :
    SeedsOwned records t := by
  intro slot stream hmem
  have hgrow : SeedOwned records s.slotMap slot stream → SeedOwned records t.slotMap slot stream :=
    fun hold => hold.mono (le_refl _) fun _ _ hid => LoopSection.lookup_run ht hid
  rcases LoopSection.seeds_run ht with ⟨_, hsame⟩ | ⟨k, camera, rfl, rfl⟩
  · rw [hsame.seedTx] at hmem
    exact hgrow (h slot stream hmem)
  · rcases mem_seedTx_seedAvStreams hmem with hmem | ⟨rfl, hstream⟩
    · exact hgrow (h slot stream hmem)
    · exact hgrow ⟨camera, hready.1, hready.2, hstream⟩

end

/-- The seeds sent are those of the first record that each slot was seeded with. -/
structure FirstSeeds (given : Nat → List CameraDevice) (s : BridgeLoop) : Prop where
  seeded : ∀ slot, slot ∈ s.seeded ↔ given slot ≠ []
  sent : ∀ slot, seedsFor slot s.seedTx = ((given slot).head?.bind videoStreamOf).toList

theorem FirstSeeds.frame {given : Nat → List CameraDevice} {s t : BridgeLoop}
    (h : FirstSeeds given s) (hsame : BridgeLoop.SameSeeds s t) : FirstSeeds given t := by
  refine ⟨fun slot => ?_, fun slot => ?_⟩
  · rw [hsame.seeded]
    exact h.seeded slot
  · rw [hsame.seedTx]
    exact h.sent slot

theorem FirstSeeds.seedAvStreams {given : Nat → List CameraDevice} {s : BridgeLoop}
    (h : FirstSeeds given s) (slot : Nat) (camera : CameraDevice) :
    FirstSeeds (fun k => given k ++ if k = slot then [camera] else [])
      (s.seedAvStreams slot camera) := by
  refine ⟨fun k => ?_, fun k => ?_⟩
  · rw [BridgeLoop.mem_seeded_seedAvStreams, h.seeded]
    by_cases hk : k = slot <;> simp [hk]
  · simp only [BridgeLoop.seedsFor_seedAvStreams, h.sent, h.seeded]
    by_cases hk : k = slot
    · subst hk
      cases hgiven : given k with
      | nil => simp
      | cons first rest => simp
    · simp [hk]

/-! ## The bridge with its driver -/

structure SeededBridge (H : Type) where
  whole : WholeBridge
  /-- How many of the seeds sent the driver has received. -/
  received : Nat
  handlers : Vector H maxCameras

namespace SeededBridge

variable {H C : Type}

/-- All seeds sent in this lifetime. -/
def sent (s : SeededBridge H) : List (Nat × VideoStream) := s.whole.life.thread.shared.seedTx

inductive Label (C : Type) where
  | bridge (l : WholeBridge.Label)
  /-- The driver offers a stream to a handler, which answers. -/
  | seeded (slot : Nat) (stream : VideoStream) (id : Option UInt16)
  /-- The driver finds no handler for a slot. -/
  | outOfRange (slot : Nat)
  | command (ep : UInt16) (c : C)

/-- A step of the bridge around the driver. -/
def Label.bridge? : Label C → Option WholeBridge.Label
  | .bridge l => some l
  | _ => none

variable [SerdeJson]

def boot (file : SlotFile) (initial : Vector UInt32 withOccupancyCameras)
    (handlers : Vector H maxCameras) : SeededBridge H :=
  ⟨WholeBridge.boot file initial, 0, handlers⟩

variable [UnicodeTables]

/-- A restart loses the channel and makes new handlers. -/
inductive Step (cfg : LoopConfig) (av : CameraAvStreamHandler H C) :
    SeededBridge H → Label C → SeededBridge H → Prop
  | bridge {s : SeededBridge H} {l : WholeBridge.Label} {whole : WholeBridge} :
      WholeBridge.Step cfg s.whole l whole → l ≠ .restart →
      Step cfg av s (.bridge l) { s with whole := whole }
  | restart {s : SeededBridge H} {whole : WholeBridge} {handlers : Vector H maxCameras} :
      WholeBridge.Step cfg s.whole .restart whole →
      Step cfg av s (.bridge .restart) ⟨whole, 0, handlers⟩
  | seeded {s : SeededBridge H} {slot : Nat} {stream : VideoStream} (hslot : slot < maxCameras) :
      s.sent[s.received]? = some (slot, stream) →
      Step cfg av s (.seeded slot stream (av.addPreallocatedVideo s.handlers[slot] stream).2)
        { s with
          received := s.received + 1
          handlers := s.handlers.set slot (av.addPreallocatedVideo s.handlers[slot] stream).1 hslot }
  | outOfRange {s : SeededBridge H} {slot : Nat} {stream : VideoStream} :
      s.sent[s.received]? = some (slot, stream) → maxCameras ≤ slot →
      Step cfg av s (.outOfRange slot) { s with received := s.received + 1 }
  | command {s : SeededBridge H} {ep : UInt16} {slot : Nat} {c : C} (hslot : slot < maxCameras) :
      route ep .cameraAvStreamManagement = .camAv slot →
      Step cfg av s (.command ep c)
        { s with handlers := s.handlers.set slot (av.command s.handlers[slot] c) hslot }

/-- A restart finds the map that was in memory. -/
def Recovers (s : SeededBridge H) : Label C → Prop
  | .bridge l => WholeBridge.Recovers s.whole l
  | _ => True

section

variable {cfg : LoopConfig} {av : CameraAvStreamHandler H C} {labels : List (Label C)}
  {s t : SeededBridge H} {l : Label C} {file : SlotFile}
  {initial : Vector UInt32 withOccupancyCameras} {handlers : Vector H maxCameras}

/-- The driver takes nothing from the bridge but seeds. -/
theorem whole_run (h : Run (Guarded (Step cfg av) Recovers) s labels t) :
    Run (Guarded (WholeBridge.Step cfg) WholeBridge.Recovers) s.whole
      (labels.filterMap Label.bridge?) t.whole := by
  refine h.project SeededBridge.whole Label.bridge? fun s l t hs => ?_
  obtain ⟨hstep, hrecovers⟩ := hs
  cases hstep with
  | bridge hwhole _ => exact .inl ⟨_, rfl, hwhole, hrecovers⟩
  | restart hwhole => exact .inl ⟨_, rfl, hwhole, hrecovers⟩
  | seeded _ _ => exact .inr ⟨rfl, rfl⟩
  | outOfRange _ _ => exact .inr ⟨rfl, rfl⟩
  | command _ _ => exact .inr ⟨rfl, rfl⟩

/-! ## Whose streams are seeded -/

/-- The records the loop has been told of as added, in any lifetime. -/
def announced (labels : List (Label C)) : Set CameraDevice :=
  {camera | ∃ outcome, .bridge (.loop (.job (.added camera)) outcome) ∈ labels}

omit [SerdeJson] [UnicodeTables] in
theorem announced_subset (labels : List (Label C)) (l : Label C) :
    announced labels ⊆ announced (labels ++ [l]) :=
  fun _ ⟨outcome, hmem⟩ => ⟨outcome, List.mem_append_left _ hmem⟩

structure Owned (cfg : LoopConfig) (labels : List (Label C)) (s : SeededBridge H) : Prop where
  sent : (loopProgram cfg).Keeps (SeedsOwned (announced labels)) s.whole.life.thread.due
    s.whole.life.thread.shared
  seeded : ∀ slot stream id, .seeded slot stream id ∈ labels →
    SeedOwned (announced labels) s.whole.life.thread.shared.slotMap slot stream

theorem Owned.step (h : Owned cfg labels s) (hs : Guarded (Step cfg av) Recovers s l t) :
    Owned cfg (labels ++ [l]) t := by
  obtain ⟨hstep, hrecovers⟩ := hs
  have hmore := announced_subset labels l
  have hsent := h.sent.mono (SeedsOwned.mono hmore)
  have hseeded : (∀ id slot, s.whole.life.thread.shared.slotMap.map.lookup id = some slot →
        t.whole.life.thread.shared.slotMap.map.lookup id = some slot) →
      (∀ slot stream id, l = .seeded slot stream id →
        SeedOwned (announced labels) s.whole.life.thread.shared.slotMap slot stream) →
      ∀ slot stream id, .seeded slot stream id ∈ labels ++ [l] →
        SeedOwned (announced (labels ++ [l])) t.whole.life.thread.shared.slotMap slot stream := by
    intro hgrow hnew slot stream id hmem
    rcases List.mem_append.mp hmem with hmem | hmem
    · exact (h.seeded slot stream id hmem).mono hmore hgrow
    · exact (hnew slot stream id (List.mem_singleton.mp hmem).symm).mono hmore hgrow
  cases hstep with
  | bridge hwhole _ =>
    refine ⟨?_, hseeded (fun _ _ hid => WholeBridge.Step.lookup ⟨hwhole, hrecovers⟩ hid) nofun⟩
    cases hwhole with
    | @loop k outcome _ _ _ hlife =>
      cases hlife with
      | thread hthread =>
        refine Thread.keeps_step (fun _ e hk hQ => ?_) hsent hthread
        refine LoopSection.keeps_job (fun _ _ _ => SeedsOwned.run) hQ ?_
        rintro camera rfl
        exact ⟨outcome, List.mem_append_right _ (by rw [hk]; exact List.mem_singleton_self _)⟩
    | restart => contradiction
    | _ => exact hsent
  | restart hwhole =>
    refine ⟨?_, hseeded (fun _ _ hid => WholeBridge.Step.lookup ⟨hwhole, hrecovers⟩ hid) nofun⟩
    cases hwhole with
    | restart => exact fun slot stream hmem => absurd hmem List.not_mem_nil
  | seeded _ hnext =>
    refine ⟨hsent, hseeded (fun _ _ hid => hid) fun slot stream id hl => ?_⟩
    cases hl
    exact h.sent.here _ _ (List.mem_of_getElem? hnext)
  | outOfRange _ _ => exact ⟨hsent, hseeded (fun _ _ hid => hid) nofun⟩
  | command _ _ => exact ⟨hsent, hseeded (fun _ _ hid => hid) nofun⟩

theorem owned_of_run
    (h : Run (Guarded (Step cfg av) Recovers) (boot file initial handlers) labels s) :
    Owned cfg labels s := by
  have hstart : Owned cfg ([] : List (Label C)) (boot file initial handlers) := by
    refine ⟨fun slot stream hmem => absurd hmem List.not_mem_nil, fun _ _ _ hmem => ?_⟩
    exact absurd hmem List.not_mem_nil
  exact h.history (Owned cfg) hstart fun _ _ _ _ ih hs => ih.step hs

/-- The driver finds a handler for every seed. -/
theorem not_outOfRange (hfile : (SlotMap.load file maxCameras withOccupancyCameras).map.Injective)
    (h : Run (Guarded (Step cfg av) Recovers) (boot file initial handlers) labels s) :
    ∀ slot, .outOfRange slot ∉ labels := by
  induction h with
  | refl => exact fun _ => List.not_mem_nil
  | @snoc labels s t l hrun hstep ih =>
    intro slot hmem
    rcases List.mem_append.mp hmem with hmem | hmem
    · exact ih slot hmem
    · obtain rfl := List.mem_singleton.mp hmem
      cases hstep.1 with
      | outOfRange hnext hlarge =>
        obtain ⟨camera, _, hid, _⟩ := (owned_of_run hrun).sent.here _ _ (List.mem_of_getElem? hnext)
        have hslots := (Lifetimes.inv_of_run hfile
          (WholeBridge.life_run (whole_run hrun))).along.here.slots
        exact absurd (hslots.lt hid) (Nat.not_lt_of_le hlarge)

/-! ## What a handler is called for in one lifetime -/

/-- The streams the driver has offered, oldest first, with their slots. -/
def offered (labels : List (Label C)) : List (Nat × VideoStream) :=
  labels.filterMap fun
    | .seeded slot stream _ => some (slot, stream)
    | _ => none

/-- The calls of the handler of `slot`. -/
def calls (slot : Nat) (labels : List (Label C)) : List (StreamCall C) :=
  labels.filterMap fun
    | .seeded k stream _ => if k = slot then some (.addPreallocatedVideo stream) else none
    | .command ep c =>
      if route ep .cameraAvStreamManagement = .camAv slot then some (.command c) else none
    | _ => none

/-- The records that the seeding of `slot` was given. -/
def records (slot : Nat) (labels : List (Label C)) : List CameraDevice :=
  labels.filterMap fun
    | .bridge (.loop (.atom (.seedStreams k camera)) _) => if k = slot then some camera else none
    | _ => none

/-- A step of the bridge seeds one slot or none. -/
theorem seeds_of_whole {u v : WholeBridge} {k : WholeBridge.Label}
    (h : WholeBridge.Step cfg u k v) (hk : k ≠ .restart) :
    ((∀ slot, records slot ([.bridge k] : List (Label C)) = []) ∧
      BridgeLoop.SameSeeds u.life.thread.shared v.life.thread.shared) ∨
    ∃ slot camera outcome, k = .loop (.atom (.seedStreams slot camera)) outcome ∧
      v.life.thread.shared = u.life.thread.shared.seedAvStreams slot camera := by
  cases h with
  | loop _ _ hlife =>
    cases hlife with
    | thread hthread =>
      obtain ⟨⟨⟨shared, due⟩, file⟩, phases, polling, cells, hooks⟩ := u
      cases hthread with
      | job => exact Or.inl ⟨fun _ => rfl, rfl, rfl⟩
      | @atom _ _ a _ hrun =>
        rcases LoopSection.seeds_run hrun with ⟨hno, hsame⟩ | ⟨slot, camera, rfl, rfl⟩
        · refine Or.inl ⟨fun slot => ?_, hsame⟩
          cases a with
          | seedStreams slot camera => exact absurd rfl (hno slot camera)
          | _ => rfl
        · exact Or.inr ⟨slot, camera, _, rfl, rfl⟩
      | look _ => exact Or.inl ⟨fun _ => rfl, rfl, rfl⟩
  | restart => exact absurd rfl hk
  | _ => exact Or.inl ⟨fun _ => rfl, rfl, rfl⟩

/-- The books of a lifetime. -/
structure Books (av : CameraAvStreamHandler H C) (handlers : Vector H maxCameras)
    (labels : List (Label C)) (s : SeededBridge H) : Prop where
  seeds : FirstSeeds (records · labels) s.whole.life.thread.shared
  offered : offered labels = s.sent.take s.received
  received : s.received ≤ s.sent.length
  handlers : ∀ slot (h : slot < maxCameras),
    s.handlers[slot] = (calls slot labels).foldl av.call handlers[slot]

omit [SerdeJson] [UnicodeTables] in
theorem records_snoc (slot : Nat) (labels : List (Label C)) (l : Label C) :
    records slot (labels ++ [l]) = records slot labels ++ records slot [l] := List.filterMap_append

omit [SerdeJson] [UnicodeTables] in
theorem offered_snoc (labels : List (Label C)) (l : Label C) :
    offered (labels ++ [l]) = offered labels ++ offered [l] := List.filterMap_append

omit [SerdeJson] [UnicodeTables] in
theorem calls_snoc (slot : Nat) (labels : List (Label C)) (l : Label C) :
    calls slot (labels ++ [l]) = calls slot labels ++ calls slot [l] := List.filterMap_append

/-- The bridge may send more, and the driver does not notice. -/
theorem Books.whole (h : Books av handlers labels s) {k : WholeBridge.Label} {whole : WholeBridge}
    (hs : WholeBridge.Step cfg s.whole k whole) (hk : k ≠ .restart) :
    Books av handlers (labels ++ [.bridge k]) { s with whole := whole } := by
  have hoffered : SeededBridge.offered (labels ++ [.bridge k]) = s.sent.take s.received := by
    rw [offered_snoc, ← h.offered]
    exact List.append_nil _
  have hhandlers : ∀ slot (hslot : slot < maxCameras),
      s.handlers[slot] = (calls slot (labels ++ [.bridge k])).foldl av.call handlers[slot] := by
    intro slot hslot
    rw [calls_snoc, h.handlers slot hslot]
    exact congrArg (List.foldl _ _) (List.append_nil _).symm
  rcases seeds_of_whole (C := C) hs hk with ⟨hnone, hsame⟩ | ⟨slot, camera, outcome, rfl, hseed⟩
  · have hrecords : (records · (labels ++ [.bridge k])) = (records · labels) := by
      funext slot
      rw [records_snoc, hnone, List.append_nil]
    have hsent : ({ s with whole := whole } : SeededBridge H).sent = s.sent := hsame.seedTx
    refine ⟨by rw [hrecords]; exact h.seeds.frame hsame, ?_, ?_, hhandlers⟩
    · rw [hsent]
      exact hoffered
    · rw [hsent]
      exact h.received
  · have hrecords : (records · (labels ++
        [.bridge (.loop (.atom (.seedStreams slot camera)) outcome)])) =
        fun k => records k labels ++ if k = slot then [camera] else [] := by
      funext k
      rw [records_snoc]
      by_cases hk : slot = k
      · simp [records, hk]
      · simp [records, hk, Ne.symm hk]
    obtain ⟨more, hmore⟩ : ∃ more,
        ({ s with whole := whole } : SeededBridge H).sent = s.sent ++ more := by
      rw [sent, hseed, BridgeLoop.seedAvStreams]
      split
      · exact ⟨[], (List.append_nil _).symm⟩
      · exact ⟨_, rfl⟩
    refine ⟨?_, ?_, ?_, hhandlers⟩
    · rw [hrecords]
      show FirstSeeds _ whole.life.thread.shared
      rw [hseed]
      exact h.seeds.seedAvStreams slot camera
    · rw [hmore, List.take_append_of_le_length h.received]
      exact hoffered
    · rw [hmore, List.length_append]
      exact h.received.trans (Nat.le_add_right _ _)

omit [SerdeJson] [UnicodeTables] in
/-- One handler is called. -/
theorem Books.handlers_set (h : Books av handlers labels s) {k : Nat} (hk : k < maxCameras)
    {made : H} {own : StreamCall C} (hmade : made = av.call s.handlers[k] own)
    (hown : ∀ slot, slot < maxCameras → calls slot [l] = if k = slot then [own] else [])
    (slot : Nat) (hslot : slot < maxCameras) :
    (s.handlers.set k made hk)[slot] =
      (calls slot (labels ++ [l])).foldl av.call handlers[slot] := by
  rw [calls_snoc, List.foldl_append, ← h.handlers slot hslot, hown slot hslot]
  by_cases he : k = slot
  · subst he
    rw [Vector.getElem_set_self, if_pos rfl, hmade]
    rfl
  · rw [Vector.getElem_set_ne hk hslot he, if_neg he]
    rfl

theorem Books.step (h : Books av handlers labels s) (hs : Step cfg av s l t)
    (hrestart : l ≠ .bridge .restart) (hrange : ∀ slot, l ≠ .outOfRange slot) :
    Books av handlers (labels ++ [l]) t := by
  have hrecords : (∀ slot, records slot [l] = []) →
      (records · (labels ++ [l])) = (records · labels) := by
    intro hnone
    funext slot
    rw [records_snoc, hnone, List.append_nil]
  cases hs with
  | bridge hwhole hk => exact h.whole hwhole hk
  | restart _ => exact absurd rfl hrestart
  | @seeded slot stream hslot hnext =>
    obtain ⟨hlt, hget⟩ := List.getElem?_eq_some_iff.mp hnext
    have hmade : (av.addPreallocatedVideo s.handlers[slot] stream).1 =
        av.call s.handlers[slot] (.addPreallocatedVideo stream) := rfl
    refine ⟨?_, ?_, hlt, h.handlers_set hslot hmade fun k _ => ?_⟩
    · rw [hrecords fun _ => rfl]
      exact h.seeds
    · show _ = s.sent.take (s.received + 1)
      rw [offered_snoc, h.offered, List.take_add_one, hnext]
      rfl
    · by_cases he : slot = k <;> simp [calls, he]
  | outOfRange _ _ => exact absurd rfl (hrange _)
  | @command ep slot c hslot hroute =>
    have hmade : av.command s.handlers[slot] c = av.call s.handlers[slot] (.command c) := rfl
    refine ⟨?_, ?_, h.received, h.handlers_set hslot hmade fun k hk => ?_⟩
    · rw [hrecords fun _ => rfl]
      exact h.seeds
    · rw [offered_snoc, h.offered]
      exact List.append_nil _
    · simp only [calls, List.filterMap_cons, List.filterMap_nil, hroute, NodeHandler.camAv.injEq]
      by_cases he : slot = k <;> simp [he]

theorem books_of_run (h : Run (Step cfg av) (boot file initial handlers) labels s)
    (hrestart : .bridge .restart ∉ labels) (hrange : ∀ slot, .outOfRange slot ∉ labels) :
    Books av handlers labels s := by
  have hstart : Books av handlers [] (boot file initial handlers) := by
    refine ⟨⟨fun slot => ?_, fun slot => rfl⟩, rfl, le_refl 0, fun _ _ => rfl⟩
    exact iff_of_false (Finset.notMem_empty slot) fun hne => hne rfl
  have hguarded := h.guard (fun _ l => l ≠ .bridge .restart ∧ ∀ slot, l ≠ .outOfRange slot)
    fun l hl _ => ⟨fun he => hrestart (he ▸ hl), fun slot he => hrange slot (he ▸ hl)⟩
  exact hguarded.history (Books av handlers) hstart
    fun _ _ _ _ ih hs => ih.step hs.1 hs.2.1 hs.2.2

/-- **An endpoint is seeded for its own camera, once.** The driver finds a handler for every
seed. Over any number of restarts, each of which finds the map that was in memory, a stream
that is offered to an endpoint was made from an announced record of the camera whose unique id
is ever read there. Within a lifetime each endpoint is offered, or has still in the channel, the
stream of the first record its slot was seeded with and nothing else, and its handler has been
called for that and for the commands of controllers alone. -/
theorem seeded_for_own_camera
    (hfile : (SlotMap.load file maxCameras withOccupancyCameras).map.Injective)
    (h : Run (Guarded (Step cfg av) Recovers) (boot file initial handlers) labels s) :
    (∀ slot, .outOfRange slot ∉ labels) ∧
    (∀ slot stream result id, .seeded slot stream result ∈ labels → id ≠ "" →
      .bridge (.read (endpointOf slot) .uniqueId (.utf8 id)) ∈ labels →
        ∃ camera ∈ announced labels, camera.id = id ∧ videoStreamOf camera = some stream) ∧
    (.bridge .restart ∉ labels → ∀ slot (hslot : slot < maxCameras),
      seedsFor slot (offered labels ++ s.sent.drop s.received) =
        ((records slot labels).head?.bind videoStreamOf).toList ∧
      s.handlers[slot] = (calls slot labels).foldl av.call handlers[slot]) := by
  have hrange := not_outOfRange hfile h
  refine ⟨hrange, fun slot stream result id hseeded hne hread => ?_, fun hrestart slot hslot => ?_⟩
  · have hwhole := whole_run h
    have hlife := Lifetimes.inv_of_run hfile (WholeBridge.life_run hwhole)
    obtain ⟨camera, hannounced, hid, hstream⟩ :=
      (owned_of_run h).seeded slot stream result hseeded
    have hmem : .read (endpointOf slot) .uniqueId (.utf8 id) ∈ labels.filterMap Label.bridge? :=
      List.mem_filterMap.mpr ⟨_, hread, rfl⟩
    obtain ⟨k, hroute⟩ := (hwhole.unguard.forall_labels fun _ _ _ hs => hs.routed) _ hmem
    obtain ⟨hep, hklt⟩ := slot_of_route hroute rfl
    obtain rfl := endpointOf_inj (hlife.along.here.slots.lt hid) hklt hep
    have hlook : Lifetimes.Looked ((labels.filterMap Label.bridge?).filterMap WholeBridge.share)
        (.read slot .uniqueId (.utf8 id)) := by
      refine ⟨.kept, List.mem_filterMap.mpr ⟨_, hmem, ?_⟩⟩
      rw [WholeBridge.share, hroute]
    have hown := hlife.tells _ hlook rfl id rfl hne
    exact ⟨camera, hannounced, hlife.along.here.slots.exclusive camera.id id slot hid hown, hstream⟩
  · have hbooks := books_of_run h.unguard hrestart hrange
    refine ⟨?_, hbooks.handlers slot hslot⟩
    rw [hbooks.offered, List.take_append_drop]
    exact hbooks.seeds.sent slot

/-- What the bridge does alone it does beside the driver. -/
theorem run_bridge {u v : WholeBridge} {ls : List WholeBridge.Label}
    (h : Run (Guarded (WholeBridge.Step cfg) WholeBridge.Recovers) u ls v)
    (hls : .restart ∉ ls) (received : Nat) :
    Run (Guarded (Step cfg av) Recovers) ⟨u, received, handlers⟩ (ls.map .bridge)
      ⟨v, received, handlers⟩ := by
  induction h with
  | refl => exact Run.refl
  | @snoc ls v w l _ hstep ih =>
    have hl : l ≠ .restart := by
      rintro rfl
      exact hls (List.mem_append_right _ (List.mem_singleton_self _))
    rw [List.map_append]
    refine (ih fun hmem => hls (List.mem_append_left _ hmem)).snoc ⟨?_, hstep.2⟩
    exact .bridge (s := ⟨v, received, handlers⟩) hstep.1 hl

end

omit [SerdeJson] [UnicodeTables] in
/-- A camera with an encoder gets the last endpoint; a controller reads its id there, and then
the driver comes to its seed. -/
theorem seeded_for_own_camera_encoder :
    letI := asciiTables
    letI := PrettyJson.serdeJson
    let table : CameraAvStreamHandler (List VideoStream) Unit :=
      ⟨fun streams stream => (streams ++ [stream], some streams.length.toUInt16),
        fun streams _ => streams⟩
    ∃ labels s stream, Run (Guarded (Step ⟨∅, "admin", "pass"⟩ table) Recovers)
        (boot none (.replicate _ 7) (.replicate _ [])) labels s ∧
      .seeded 7 stream (some 0) ∈ labels ∧
      ∃ camera ∈ announced labels, camera.id = "SN-1" ∧ videoStreamOf camera = some stream := by
  intro table
  let _ := asciiTables
  let _ := PrettyJson.serdeJson
  let cfg : LoopConfig := ⟨∅, "admin", "pass"⟩
  let camera : CameraDevice := { CameraDevice.bare "SN-1" with
    profiles := [⟨"t", "main", some ⟨"H264", 1920, 1080, 25, 4096, 0⟩, none, none⟩] }
  let first : WholeBridge := WholeBridge.boot none (.replicate _ 7)
  obtain ⟨shared, hshared, hshown, stream, hsent⟩ : ∃ t,
      (BridgeLoop.boot none).handleEvent cfg (.added camera) = some t ∧
      .utf8 "SN-1" = BridgedHandler.read t.slots[7] .uniqueId ∧
      ∃ stream, t.seedTx[0]? = some (7, stream) := ⟨_, rfl, by decide, _, rfl⟩
  have hsections := (job_loopProgram cfg (BridgeLoop.boot none) (.added camera)).trans hshared
  have hthread : Run (Thread.Step (loopProgram cfg) Glance.Sees) ⟨BridgeLoop.boot none, []⟩
      (.job (.added camera) :: _) ⟨shared, []⟩ := Run.cons .job (Thread.run_due hsections)
  obtain ⟨file, hloop⟩ := WholeBridge.run_loop (s := first) hthread
    (by simp [WholeBridge.OfLoop]) rfl rfl
  let bound : WholeBridge := { first with life := ⟨⟨shared, []⟩, file⟩ }
  have hread : Guarded (WholeBridge.Step cfg) WholeBridge.Recovers bound
      (.read 9 .uniqueId (.utf8 "SN-1")) bound := ⟨.read (by decide) (by decide) hshown, trivial⟩
  have hbridge : Run (Guarded (Step cfg table) Recovers) ⟨first, 0, .replicate _ []⟩ _
      ⟨bound, 0, .replicate _ []⟩ := run_bridge (hloop.snoc hread) (by simp) 0
  have hseeded : Step cfg table ⟨bound, 0, .replicate _ []⟩ (.seeded 7 stream (some 0)) _ :=
    .seeded (s := ⟨bound, 0, .replicate _ []⟩) (by decide) hsent
  have hrun := hbridge.snoc ⟨hseeded, trivial⟩
  exact ⟨_, _, stream, hrun, List.mem_append_right _ (List.mem_singleton_self _),
    (seeded_for_own_camera HashMap.injective_empty hrun).2.1 7 stream (some 0) "SN-1"
      (List.mem_append_right _ (List.mem_singleton_self _)) (by decide)
      (by simp [show endpointOf 7 = 9 from rfl])⟩

end SeededBridge

end MatterBridge.Bridge
