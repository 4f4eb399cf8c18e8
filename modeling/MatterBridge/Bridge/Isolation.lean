import MatterBridge.Bridge.Hooks
import MatterBridge.Bridge.LoopInvariant
import MatterBridge.Media.StreamManager
import Mathlib.Data.Set.Function

/-!
# Stream isolation

The bridge loop, the stream manager and the WebRTC hooks meet in the go2rtc
stream name, which each side derives from the camera id with its own copy of the
sanitizer. Cameras are kept apart exactly as far as the sanitizer keeps their
ids apart. Events may be lost to lag here; the loop never gives one camera's
slot to another, so its tables stay in order all the same.
-/
namespace MatterBridge.Bridge

open MatterBridge.Core MatterBridge.Onvif MatterBridge.Slots MatterBridge.Media

theorem sanitizeStreamName_eq [UnicodeTables] (id : String) :
    Media.sanitizeStreamName id = sanitizeStreamName id := rfl

/-- An offer is answered by no stream but the one its endpoint names. -/
theorem BridgeWebRtcHooks.onOffer_congr {h : BridgeWebRtcHooks} {names : StreamNames}
    {exchangeSdp exchangeSdp' : ExchangeSdp}
    (hsame : ∀ name, h.lookupStreamName names = some name → exchangeSdp name = exchangeSdp' name)
    (sessionId : UInt16) (sdp : String) :
    h.onOffer names exchangeSdp sessionId sdp = h.onOffer names exchangeSdp' sessionId sdp := by
  have hforward : h.forwardOffer names exchangeSdp sdp = h.forwardOffer names exchangeSdp' sdp := by
    rw [forwardOffer, forwardOffer]
    cases hl : h.lookupStreamName names with
    | none => rfl
    | some name => simp only [hsame name hl]
  rw [onOffer, onOffer, hforward]

/-! ## The names in the loop's table -/

section

variable [UnicodeTables] {K : Set String}

/-- Every bound slot carries the name of its own camera, one of the ids `K`. -/
structure LoopNames (K : Set String) (s : BridgeLoop) : Prop where
  slots : BridgeSlots s.slotMap
  bound : ∀ id slot, s.bridge.slotMap.lookup id = some slot →
    id ∈ K ∧ s.slotMap.map.lookup id = some slot ∧
      s.bridge.streamNames.lookup slot = some (sanitizeStreamName id)

theorem LoopNames.lt {s : BridgeLoop} (h : LoopNames K s) {id : String} {slot : Nat}
    (hs : s.slotMap.map.lookup id = some slot) : slot < maxCameras := by
  have hlt := h.slots.inRange id slot hs
  rwa [h.slots.capacity] at hlt

theorem loopNames_start {m : SlotMap} (hm : BridgeSlots m) : LoopNames K (BridgeLoop.start m) where
  slots := hm
  bound id slot hs := by simp [BridgeLoop.start] at hs

/-- An Added event that gets a slot, new or remembered. -/
theorem LoopNames.bind {s : BridgeLoop} (h : LoopNames K s) (cfg : LoopConfig)
    {camera : CameraDevice} (hK : camera.id ∈ K) {slot : Nat}
    (hslot : (s.slotMap.assign camera.id camera.supportsMotion).slot = some slot) :
    ∃ t, s.onAdded cfg camera = some t ∧
      t.slotMap = (s.slotMap.assign camera.id camera.supportsMotion).slots ∧
      t.bridge.slotMap = s.bridge.slotMap.insert camera.id slot ∧ LoopNames K t := by
  have hm' := h.slots.assign camera.id camera.supportsMotion
  have hself := SlotMap.lookup_of_slot hslot
  have hkeep : ∀ id k, s.slotMap.map.lookup id = some k →
      (s.slotMap.assign camera.id camera.supportsMotion).slots.map.lookup id = some k :=
    fun id k => SlotMap.lookup_assign
  generalize ha : s.slotMap.assign camera.id camera.supportsMotion = assigned at *
  obtain ⟨slot', m', saves⟩ := assigned
  obtain rfl : slot' = some slot := hslot
  have hlt : slot < maxCameras := by
    have hr := hm'.inRange camera.id slot hself
    rwa [hm'.capacity] at hr
  obtain ⟨t, ht, hslots, hbridge, hrow, _⟩ := BridgeLoop.onAdded_bound cfg s camera hlt ha
  refine ⟨t, ht, hslots, hbridge, by rwa [hslots], ?_⟩
  intro id k hk
  rw [hbridge, HashMap.lookup_insert_eq] at hk
  rw [hslots]
  have hname : t.bridge.streamNames.lookup k = (t.row k).streamName := rfl
  rw [hname, hrow]
  split at hk
  · rename_i hid
    subst hid
    obtain rfl := Option.some.inj hk
    rw [if_pos rfl]
    exact ⟨hK, hself, rfl⟩
  · rename_i hid
    obtain ⟨hidK, hold, hidname⟩ := h.bound id k hk
    have hne : k ≠ slot := fun he =>
      hid (hm'.exclusive id camera.id slot (he ▸ hkeep id k hold) hself)
    rw [if_neg hne]
    exact ⟨hidK, hkeep id k hold, hidname⟩

/-- Whatever event comes next, expected or not, it is handled and leaves the names in order. -/
theorem LoopNames.step {s : BridgeLoop} (h : LoopNames K s) (cfg : LoopConfig)
    {e : RegistryEvent} (hK : e.cameraId ∈ K) :
    ∃ t, s.handleEvent cfg e = some t ∧ LoopNames K t := by
  cases e with
  | added camera =>
    rcases s.slotMap.assign_cases camera.id camera.supportsMotion with
      ⟨slot, _, ha⟩ | ⟨_, ha⟩ | ⟨slot, _, _, _, ha⟩
    · obtain ⟨t, ht, _, _, hnames⟩ := h.bind cfg hK (congrArg Assigned.slot ha)
      exact ⟨t, ht, hnames⟩
    · exact ⟨s, BridgeLoop.onAdded_refused cfg s camera ha, h⟩
    · obtain ⟨t, ht, _, _, hnames⟩ := h.bind cfg hK (congrArg Assigned.slot ha)
      exact ⟨t, ht, hnames⟩
  | updated camera =>
    cases hl : s.bridge.slotMap.lookup camera.id with
    | none => exact ⟨s, BridgeLoop.onUpdated_unknown cfg s camera hl, h⟩
    | some slot =>
      obtain ⟨t, ht, hslots, hbridge, _⟩ := BridgeLoop.onUpdated_bound cfg s camera
        (h.lt (h.bound camera.id slot hl).2.1) hl
      refine ⟨t, ht, by rw [hslots]; exact h.slots, ?_⟩
      rw [hslots, hbridge]
      exact h.bound
  | removed id =>
    cases hl : s.bridge.slotMap.lookup id with
    | none => exact ⟨s, BridgeLoop.onRemoved_unknown s id hl, h⟩
    | some slot =>
      have hmine := (h.bound id slot hl).2.1
      obtain ⟨t, ht, hslots, hbridge, hrow, _⟩ :=
        BridgeLoop.onRemoved_bound s id (h.lt hmine) hl
      refine ⟨t, ht, by rw [hslots]; exact h.slots, ?_⟩
      intro k slot' hk
      rw [hbridge, HashMap.lookup_erase_eq] at hk
      split at hk
      · cases hk
      · rename_i hne
        obtain ⟨hkK, hown, hname⟩ := h.bound k slot' hk
        have hslot : slot' ≠ slot := fun he =>
          hne (h.slots.exclusive k id slot (he ▸ hown) hmine)
        have hkeep : t.bridge.streamNames.lookup slot' = (t.row slot').streamName := rfl
        rw [hslots, hkeep, hrow, if_neg hslot]
        exact ⟨hkK, hown, hname⟩

end

/-! ## The whole bridge -/

/-- The registry with its two subscribers and go2rtc. -/
structure System where
  registry : CameraRegistry
  /-- Position of the loop's subscription. -/
  next : Nat
  loop : BridgeLoop
  media : MediaSync

namespace System

def start (m : SlotMap) (table : StreamTable) : System :=
  ⟨CameraRegistry.new 64, 0, BridgeLoop.start m, ⟨0, .receiving, table⟩⟩

inductive Label where
  | op (op : RegistryOp)
  | loop (e : RegistryEvent)
  | lagged (missed : Nat)
  | media (l : MediaSync.Label)

/-- The registry calls of the run are about cameras with ids in `K`. -/
def Over (K : Set String) (labels : List Label) : Prop :=
  ∀ op, .op op ∈ labels → op.cameraId ∈ K

variable [UnicodeTables] [UrlCrate]

inductive Step (cfg : LoopConfig) (media : MediaConfig) (report : String → String) :
    System → Label → System → Prop
  | op {s : System} {op : RegistryOp} :
      Step cfg media report s (.op op) { s with registry := s.registry.apply op }
  | loop {s : System} {e : RegistryEvent} {next : Nat} {loop : BridgeLoop} :
      s.registry.tx.recv s.next = some (.ok e, next) → s.loop.handleEvent cfg e = some loop →
      Step cfg media report s (.loop e) { s with next := next, loop := loop }
  | lagged {s : System} {missed next : Nat} :
      s.registry.tx.recv s.next = some (.error (.lagged missed), next) →
      Step cfg media report s (.lagged missed) { s with next := next }
  | media {s : System} {l : MediaSync.Label} {m : MediaSync} :
      MediaSync.Step media report s.registry.tx s.media l m →
      Step cfg media report s (.media l) { s with media := m }

/-- No camera of `K` gets in another's way. -/
structure Isolated (media : MediaConfig) (report : String → String) (K : Set String) (s : System) :
    Prop where
  /-- Slots bound to different cameras carry different names. -/
  names : ∀ a b i j name, a ≠ b → s.loop.bridge.slotMap.lookup a = some i →
    s.loop.bridge.slotMap.lookup b = some j → s.loop.bridge.streamNames.lookup i = some name →
    s.loop.bridge.streamNames.lookup j ≠ some name
  /-- An offer on one camera's endpoint has the same outcome whatever another's stream answers. -/
  offers : ∀ a slot, s.loop.bridge.slotMap.lookup a = some slot → ∀ b ∈ K, b ≠ a →
    ∀ hooks : BridgeWebRtcHooks, hooks.slot = slot → ∀ exchangeSdp exchangeSdp' : ExchangeSdp,
      (∀ name, name ≠ Media.sanitizeStreamName b → exchangeSdp name = exchangeSdp' name) →
      ∀ sessionId sdp,
        hooks.onOffer (some s.loop.bridge.streamNames) exchangeSdp sessionId sdp =
          hooks.onOffer (some s.loop.bridge.streamNames) exchangeSdp' sessionId sdp
  /-- The calls of one camera's event leave every other camera's stream as it was. -/
  streams : ∀ e next, s.registry.tx.recv s.media.next = some (.ok e, next) →
    ∀ calls m, Run (MediaSync.Step media report s.registry.tx)
      ⟨next, onEvent media e, s.media.table⟩ (List.map .call calls) m →
    ∀ b ∈ K, b ≠ e.cameraId →
      m.table.lookup (Media.sanitizeStreamName b) =
        s.media.table.lookup (Media.sanitizeStreamName b)

/-- What every reachable state has, whatever was lost to lag. -/
structure Known (K : Set String) (s : System) : Prop where
  log : ∀ e ∈ s.registry.tx.sent, e.cameraId ∈ K
  names : LoopNames K s.loop

variable {cfg : LoopConfig} {media : MediaConfig} {report : String → String} {K : Set String}

theorem Known.step {s t : System} {l : Label} (h : Known K s) (hs : Step cfg media report s l t)
    (hl : ∀ op, l = .op op → op.cameraId ∈ K) : Known K t := by
  cases hs with
  | @op op =>
    obtain ⟨es, hsent, _, hop, _⟩ := s.registry.apply_log op
    refine ⟨fun e he => ?_, h.names⟩
    rw [show (s.registry.apply op).tx.sent = _ from hsent] at he
    rcases List.mem_append.mp he with he | he
    · exact h.log e he
    · rw [← e.cameraId_op, hop e he]
      exact hl op rfl
  | @loop e next loop hrecv hloop =>
    have hmem := Broadcast.mem_of_recv_ok hrecv
    obtain ⟨t, ht, hnames⟩ := h.names.step cfg (h.log e hmem)
    rw [hloop] at ht
    cases ht
    exact ⟨h.log, hnames⟩
  | lagged _ => exact ⟨h.log, h.names⟩
  | media _ => exact ⟨h.log, h.names⟩

theorem known_of_run {m : SlotMap} (hm : BridgeSlots m) {table : StreamTable}
    {labels : List Label} {s : System} (h : Run (Step cfg media report) (start m table) labels s)
    (hK : Over K labels) : Known K s := by
  refine (h.guard (fun _ l => ∀ op, l = .op op → op.cameraId ∈ K) ?_).invariant (Known K)
    (fun _ _ _ ht hstep => ht.step hstep.1 hstep.2)
    ⟨by simp [start, CameraRegistry.new], loopNames_start hm⟩
  intro l hl _ op hop
  subst hop
  exact hK op hl

/-- Calls about one stream leave every other stream alone. -/
theorem calls_frame {tx : Broadcast RegistryEvent} {s t : MediaSync} {calls : List Delivery}
    {name : String} (h : Run (MediaSync.Step media report tx) s (calls.map .call) t)
    (hn : s.phase.name? ≠ some name) : t.table.lookup name = s.table.lookup name := by
  have hj : t.phase.name? ≠ some name ∧ t.table.lookup name = s.table.lookup name := by
    refine (h.guard (fun _ l => ∃ d, l = .call d) ?_).invariant
      (fun t => t.phase.name? ≠ some name ∧ t.table.lookup name = s.table.lookup name) ?_ ⟨hn, rfl⟩
    · intro l hl _
      obtain ⟨d, _, rfl⟩ := List.mem_map.mp hl
      exact ⟨d, rfl⟩
    · intro t l u ht hstep
      obtain ⟨hphase, htable⟩ := ht
      obtain ⟨hstep, d, rfl⟩ := hstep
      cases hstep with
      | @call request _ hq =>
        refine ⟨fun h => hphase (Phase.name_respond h), ?_⟩
        exact (lookup_exchange_ne report t.table
          (fun ht => hphase (Phase.target_of_request hq ht)) d).trans htable
  exact hj.2

theorem Known.isolated {s : System} (h : Known K s) (hinj : Set.InjOn sanitizeStreamName K) :
    Isolated media report K s where
  names a b i j name hab ha hb hi hj := by
    obtain ⟨haK, _, hai⟩ := h.names.bound a i ha
    obtain ⟨hbK, _, hbj⟩ := h.names.bound b j hb
    rw [hai] at hi
    rw [hbj, ← hi, Option.some.injEq] at hj
    exact hab (hinj hbK haK hj).symm
  offers a slot ha b hb hba hooks hslot exchangeSdp exchangeSdp' hsame sessionId sdp := by
    obtain ⟨haK, _, hname⟩ := h.names.bound a slot ha
    refine hooks.onOffer_congr (fun name hl => hsame name ?_) sessionId sdp
    rintro rfl
    rw [BridgeWebRtcHooks.lookupStreamName, Option.bind_some, hslot, hname, Option.some.injEq,
      sanitizeStreamName_eq] at hl
    exact hba (hinj hb haK hl.symm)
  streams e next hrecv calls m hrun b hb hbe := by
    have hmem := Broadcast.mem_of_recv_ok hrecv
    exact calls_frame (s := ⟨next, onEvent media e, s.media.table⟩) hrun
      fun hn => hbe (hinj hb (h.log e hmem) (name_onEvent hn))

/-- Two cameras arrive at a bridge that remembers no slots. -/
theorem two_cameras (cfg : LoopConfig) (media : MediaConfig) (report : String → String)
    (table : StreamTable) {a b : String} (hab : a ≠ b) :
    ∃ labels s, Run (Step cfg media report) (start ⟨∅, 8, 7⟩ table) labels s ∧
      Over {a, b} labels ∧ s.loop.bridge.slotMap.lookup a = some 7 ∧
      s.loop.bridge.slotMap.lookup b = some 0 ∧
      s.loop.bridge.streamNames.lookup 7 = some (sanitizeStreamName a) ∧
      s.loop.bridge.streamNames.lookup 0 = some (sanitizeStreamName b) := by
  let cameraA := CameraDevice.bare a
  let cameraB := CameraDevice.bare b
  let one := (CameraRegistry.new 64).addCamera cameraA
  let both := one.addCamera cameraB
  have hnew : b ∉ one.cameras := fun h => by
    rcases Finmap.mem_insert.mp h with he | he
    · exact hab he.symm
    · exact Finmap.notMem_empty he
  have hsent : both.tx = ⟨64, [.added cameraA, .added cameraB]⟩ := by
    rw [show both = _ from if_neg hnew]
    rfl
  -- The first camera gets the plain slot, the second the lowest of the others.
  have hstart : LoopNames {a, b} (BridgeLoop.start ⟨∅, 8, 7⟩) :=
    loopNames_start ⟨rfl, rfl, fun id slot h => by simp at h, HashMap.injective_empty⟩
  have hassignA : (SlotMap.assign ⟨∅, 8, 7⟩ a false) =
      ⟨some 7, ⟨(∅ : HashMap _ _).insert a 7, 8, 7⟩, true⟩ := rfl
  obtain ⟨t, ht, hslots, hboundA, hnamesA⟩ := hstart.bind cfg (Or.inl rfl : cameraA.id ∈ _)
    (congrArg Assigned.slot hassignA)
  have hassignB : (t.slotMap.assign b false).slot = some 0 := by
    have hfree : ((∅ : HashMap String Nat).insert a 7).lookup b = none := by
      rw [Finmap.lookup_insert_of_ne _ hab.symm]
      rfl
    rw [hslots.trans (congrArg Assigned.slots hassignA)]
    simp only [SlotMap.assign, hfree]
    rfl
  obtain ⟨u, hu, _, hboundB, hnamesB⟩ := hnamesA.bind cfg (Or.inr rfl : cameraB.id ∈ _)
    hassignB
  have hlookupA : u.bridge.slotMap.lookup a = some 7 := by
    have hkeep := Finmap.lookup_insert_of_ne (b := 0) t.bridge.slotMap hab
    rw [hboundB]
    refine hkeep.trans ?_
    rw [hboundA]
    exact Finmap.lookup_insert _
  have hlookupB : u.bridge.slotMap.lookup b = some 0 := by
    rw [hboundB]
    exact Finmap.lookup_insert _
  refine ⟨[.op (.addCamera cameraA), .op (.addCamera cameraB), .loop (.added cameraA),
    .loop (.added cameraB)], ⟨both, 2, u, ⟨0, .receiving, table⟩⟩, ?_, ?_, hlookupA, hlookupB,
    (hnamesB.bound a 7 hlookupA).2.2, (hnamesB.bound b 0 hlookupB).2.2⟩
  · have hfirst : both.tx.recv 0 = some (.ok (.added cameraA), 1) := by
      rw [hsent]
      rfl
    have hsecond : both.tx.recv 1 = some (.ok (.added cameraB), 2) := by
      rw [hsent]
      rfl
    exact Run.cons .op (Run.cons .op
      (Run.cons (.loop (s := ⟨both, 0, BridgeLoop.start ⟨∅, 8, 7⟩, _⟩) hfirst ht)
        (Run.one (.loop (s := ⟨both, 1, t, _⟩) hsecond hu))))
  · intro op hop
    simp only [List.mem_cons, Label.op.injEq, reduceCtorEq, List.not_mem_nil, or_false] at hop
    rcases hop with rfl | rfl
    · exact Or.inl rfl
    · exact Or.inr rfl

/-- **Stream isolation, with its exact condition.** The cameras of a set are kept
apart in every reachable state, over every allocator and every table, exactly
when no two of their ids have the same sanitized name. -/
theorem stream_isolation_iff (cfg : LoopConfig) (media : MediaConfig) (report : String → String)
    (K : Set String) :
    (∀ m table labels s, BridgeSlots m → Run (Step cfg media report) (start m table) labels s →
      Over K labels → Isolated media report K s) ↔ Set.InjOn sanitizeStreamName K := by
  constructor
  · intro hall a ha b hb hname
    by_contra hab
    obtain ⟨labels, s, hrun, hover, hlookupA, hlookupB, hnameA, hnameB⟩ :=
      two_cameras cfg media report ∅ hab
    have hm : BridgeSlots ⟨∅, 8, 7⟩ :=
      ⟨rfl, rfl, fun id slot h => by simp at h, HashMap.injective_empty⟩
    have hover' : Over K labels := fun op hop => by
      rcases hover op hop with he | he
      · exact he ▸ ha
      · exact he ▸ hb
    rw [← hname] at hnameB
    exact (hall _ _ labels s hm hrun hover').names a b 7 0 _ hab hlookupA hlookupB hnameA hnameB
  · intro hinj m table labels s hm hrun hover
    exact (known_of_run hm hrun hover).isolated hinj

omit [UnicodeTables] [UrlCrate] in
/-- Two serial numbers that differ in one punctuation mark share a stream. -/
theorem stream_shared_by_two_cameras :
    letI := asciiTables
    letI := rtspUrls
    let a := deriveCameraId "SN-1/A" "10.0.0.5" 80
    let b := deriveCameraId "SN-1.A" "10.0.0.6" 80
    a ≠ b ∧ ∃ labels s, Run (Step ⟨∅, "admin", "pass"⟩ ⟨"admin", "pass"⟩ id)
        (start ⟨∅, 8, 7⟩ ∅) labels s ∧ Over {a, b} labels ∧
      s.loop.bridge.slotMap.lookup a = some 7 ∧ s.loop.bridge.slotMap.lookup b = some 0 ∧
      s.loop.bridge.streamNames.lookup 7 = some "SN-1_A" ∧
      s.loop.bridge.streamNames.lookup 0 = some "SN-1_A" := by
  intro a b
  let _ := asciiTables
  let _ := rtspUrls
  have hab : a ≠ b := by decide
  obtain ⟨labels, s, hrun, hover, ha, hb, hnameA, hnameB⟩ :=
    two_cameras ⟨∅, "admin", "pass"⟩ ⟨"admin", "pass"⟩ id ∅ hab
  have hsameA : sanitizeStreamName a = "SN-1_A" := by decide
  have hsameB : sanitizeStreamName b = "SN-1_A" := by decide
  rw [hsameA] at hnameA
  rw [hsameB] at hnameB
  exact ⟨hab, labels, s, hrun, hover, ha, hb, hnameA, hnameB⟩

end System

end MatterBridge.Bridge
