import MatterBridge.Bridge.EventSlot
import MatterBridge.Bridge.Isolation
import MatterBridge.Bridge.Reachability
import MatterBridge.Media.EventStep

/-!
# From a scan to a live view

All of the bridge in auto mode: discovery and its channel, the registry with its two
subscribers, and go2rtc behind the stream manager. A controller's offer passes the tables
of the one subscriber and ends at a stream that the other has registered, so the two have
to agree once everything has settled.
-/
namespace MatterBridge.Bridge

open MatterBridge.Core MatterBridge.Onvif MatterBridge.Slots MatterBridge.Media

/-! ## The stream of one camera -/

section

variable [UnicodeTables] [UrlCrate] {cfg : MediaConfig} {report : String → String}

/-- The stream `name` is registered with a URL, or with one that is listed as that URL. -/
def Registered (report : String → String) (table : StreamTable) (name url : String) : Prop :=
  ∃ stored, table.lookup name = some stored ∧ (stored = url ∨ report stored = url)

theorem registered_applyEvent {table : StreamTable} {e : RegistryEvent} {camera : CameraDevice}
    (he : e.record? = some camera) (hu : camera.streamUri ≠ "") :
    Registered report (applyEvent cfg report table e) (Media.sanitizeStreamName camera.id)
      (cfg.rtspUrl camera) := by
  rcases lookup_applyEvent_reported he hu with hl | ⟨stored, hl, _, hr⟩
  · exact ⟨_, hl, Or.inl rfl⟩
  · exact ⟨stored, hl, Or.inr hr⟩

/-- What a whole log leaves of the stream of `id`, if no other camera shares its name and
its records have a stream. -/
structure StreamOf (cfg : MediaConfig) (report : String → String) (events : List RegistryEvent)
    (m : HashMap String CameraDevice) (table : StreamTable) (id : String) : Prop where
  present : ∀ camera, m.lookup id = some camera →
    Registered report table (Media.sanitizeStreamName id) (cfg.rtspUrl camera)
  absent : id ∉ m → (∃ e ∈ events, e.cameraId = id) → Media.sanitizeStreamName id ∉ table

theorem StreamOf.step {events : List RegistryEvent} {m : HashMap String CameraDevice}
    {table : StreamTable} {id : String} (h : StreamOf cfg report events m table id)
    {e : RegistryEvent}
    (hname : Media.sanitizeStreamName e.cameraId = Media.sanitizeStreamName id → e.cameraId = id)
    (huri : ∀ camera, e.record? = some camera → camera.id = id → camera.streamUri ≠ "") :
    StreamOf cfg report (events ++ [e]) (e.replay m) (applyEvent cfg report table e) id := by
  by_cases hid : e.cameraId = id
  · subst hid
    constructor
    · intro camera hl
      rw [e.lookup_replay_self m] at hl
      rw [← RegistryEvent.id_of_record hl]
      exact registered_applyEvent hl (huri camera hl (RegistryEvent.id_of_record hl))
    · intro hout _
      rw [← Finmap.lookup_eq_none, e.lookup_replay_self m] at hout
      rw [← Finmap.lookup_eq_none]
      cases e with
      | added camera => cases hout
      | updated camera => cases hout
      | removed k => exact lookup_applyEvent_removed cfg _ table k
  · have hne : Media.sanitizeStreamName id ≠ Media.sanitizeStreamName e.cameraId :=
      fun hn => hid (hname hn.symm)
    have hsame : (applyEvent cfg report table e).lookup (Media.sanitizeStreamName id) =
        table.lookup (Media.sanitizeStreamName id) := lookup_applyEvent_ne hne
    constructor
    · intro camera hl
      rw [RegistryEvent.lookup_replay_ne (Ne.symm hid)] at hl
      obtain ⟨stored, hs, hr⟩ := h.present camera hl
      exact ⟨stored, hsame.trans hs, hr⟩
    · intro hout habout
      rw [RegistryEvent.mem_replay_ne (Ne.symm hid)] at hout
      rw [← Finmap.lookup_eq_none, hsame, Finmap.lookup_eq_none]
      refine h.absent hout ?_
      obtain ⟨e', he', hid'⟩ := habout
      rcases List.mem_append.mp he' with he' | he'
      · exact ⟨e', he', hid'⟩
      · rw [List.mem_singleton.mp he'] at hid'
        exact absurd hid' hid

/-- The log gives `id` a stream of its own. -/
structure OwnStream (events : List RegistryEvent) (id : String) : Prop where
  name : ∀ e ∈ events,
    Media.sanitizeStreamName e.cameraId = Media.sanitizeStreamName id → e.cameraId = id
  uri : ∀ e ∈ events, ∀ camera, e.record? = some camera → camera.id = id →
    camera.streamUri ≠ ""

theorem streamOf_announced {events : List RegistryEvent} {m : HashMap String CameraDevice}
    {id : String} (h : Run Announce ∅ events m) (hid : OwnStream events id) (table : StreamTable) :
    StreamOf cfg report events m (events.foldl (applyEvent cfg report) table) id := by
  have hall : OwnStream events id →
      StreamOf cfg report events m (events.foldl (applyEvent cfg report) table) id := by
    refine h.history (fun events m => OwnStream events id →
      StreamOf cfg report events m (events.foldl (applyEvent cfg report) table) id) ?_ ?_
    · exact fun _ => ⟨fun camera hl => by simp at hl, fun _ habout => by simp at habout⟩
    · intro events m e m' ih hstep hid
      obtain ⟨_, rfl⟩ := hstep
      have he : e ∈ events ++ [e] := List.mem_append_right _ (List.mem_singleton_self e)
      have hbefore : OwnStream events id := ⟨fun e' he' => hid.name e' (List.mem_append_left _ he'),
        fun e' he' => hid.uri e' (List.mem_append_left _ he')⟩
      rw [List.foldl_append]
      exact (ih hbefore).step (hid.name e he) (hid.uri e he)
  exact hall hid

end

/-! ## The system -/

structure LiveView where
  auto : Auto
  media : MediaSync

namespace LiveView

/-- Before the first scan, with whatever streams go2rtc holds. -/
def start (m : SlotMap) (table : StreamTable) : LiveView :=
  ⟨Auto.start m, ⟨0, .receiving, table⟩⟩

inductive Label where
  | auto (l : Auto.Label)
  | media (l : MediaSync.Label)

def Label.auto? : Label → Option Auto.Label
  | .auto l => some l
  | .media _ => none

/-- The scans among the labels of a run. -/
def scansOf (labels : List Label) : List Scan := Auto.scansOf (labels.filterMap Label.auto?)

/-- No subscriber lags, every call is delivered and go2rtc stays up. -/
def Label.Undisturbed : Label → Prop
  | .auto (.lagged _) => False
  | .auto _ => True
  | .media (.lagged _) => False
  | .media l => l.Reliable

/-- Every event sent so far has been handled, by the loop and by the manager. -/
structure Settled (s : LiveView) : Prop where
  auto : s.auto.Settled
  idle : s.media.phase = .receiving
  unread : s.auto.intake.registry.tx.unread s.media.next = []

variable [UnicodeTables] [UrlCrate] {cfg : LoopConfig} {media : MediaConfig}
  {report : String → String}

inductive Step (cfg : LoopConfig) (media : MediaConfig) (report : String → String) :
    LiveView → Label → LiveView → Prop
  | auto {s : LiveView} {l : Auto.Label} {auto : Auto} : Auto.Step cfg s.auto l auto →
      Step cfg media report s (.auto l) { s with auto := auto }
  | media {s : LiveView} {l : MediaSync.Label} {m : MediaSync} :
      MediaSync.Step media report s.auto.intake.registry.tx s.media l m →
      Step cfg media report s (.media l) { s with media := m }

theorem auto_run {s t : LiveView} {labels : List Label}
    (h : Run (Step cfg media report) s labels t) :
    Run (Auto.Step cfg) s.auto (labels.filterMap Label.auto?) t.auto := by
  refine h.project LiveView.auto Label.auto? ?_
  intro s l t hstep
  cases hstep with
  | auto ha => exact Or.inl ⟨_, rfl, ha⟩
  | media _ => exact Or.inr ⟨rfl, rfl⟩

omit [UrlCrate] in
/-- A step of the first half extends the registry log. -/
theorem log_step {s t : Auto} {l : Auto.Label} (h : Auto.Step cfg s l t) :
    ∃ es, t.intake.registry.tx.sent = s.intake.registry.tx.sent ++ es := by
  cases h with
  | intake hi =>
    obtain ⟨es, hsent, _⟩ := hi.log
    exact ⟨es, hsent⟩
  | registry _ _ => exact ⟨[], by simp⟩
  | lagged _ => exact ⟨[], by simp⟩

/-- The manager has applied exactly the registry log up to its position. -/
def InStep (media : MediaConfig) (report : String → String) (table : StreamTable)
    (s : LiveView) : Prop :=
  s.auto.intake.registry.tx.Follows s.media.next fun events =>
    s.media.finished report = events.foldl (applyEvent media report) table

theorem InStep.step {table : StreamTable} {s t : LiveView} {l : Label}
    (h : InStep media report table s) (hs : Step cfg media report s l t) (hl : l.Undisturbed) :
    InStep media report table t := by
  cases hs with
  | auto ha =>
    obtain ⟨es, hsent⟩ := log_step ha
    exact h.sent hsent
  | media hm =>
    cases hm with
    | received hp hrecv =>
      refine h.received hrecv fun happ => ?_
      rw [MediaSync.finished, hp] at happ
      rw [List.foldl_append, ← happ]
      rfl
    | lagged _ _ => exact hl.elim
    | closed _ hrecv => exact absurd hrecv (Broadcast.recv_ne_closed _ _ _)
    | @call request d hq =>
      obtain rfl : d = .delivered := hl
      exact ⟨h.within, (MediaSync.finished_call report s.media hq).trans h.holds⟩
    | restart => exact hl.elim

theorem inStep_of_run {m : SlotMap} {table : StreamTable} {labels : List Label} {s : LiveView}
    (h : Run (Step cfg media report) (start m table) labels s)
    (hquiet : ∀ l ∈ labels, l.Undisturbed) : InStep media report table s :=
  (h.guard (fun _ => Label.Undisturbed) fun l hl _ => hquiet l hl).invariant
    (InStep media report table) (fun _ _ _ ht hstep => ht.step hstep.1 hstep.2)
    ⟨Nat.zero_le _, rfl⟩

omit [UnicodeTables] [UrlCrate] in
/-- A camera that some scan found has an event in the registry log, sent or to come. -/
theorem announced_of_found {labels : List Intake.Label} {s : Intake}
    (h : Run Intake.Step Intake.start labels s) {id : String}
    (hfound : ∃ scan ∈ Intake.scansOf labels, scan.found id = true) :
    ∃ e ∈ s.drained.tx.sent, e.cameraId = id := by
  refine (h.history (fun labels s => Run Intake.Step Intake.start labels s ∧
    ((∃ scan ∈ Intake.scansOf labels, scan.found id = true) →
      ∃ e ∈ s.drained.tx.sent, e.cameraId = id)) ⟨Run.refl, by simp [Intake.scansOf]⟩ ?_).2 hfound
  rintro labels t l u ⟨hrun, ih⟩ hstep
  have hrun' := hrun.snoc hstep
  refine ⟨hrun', fun hfound => ?_⟩
  rw [Intake.scansOf_append] at hfound
  obtain ⟨scan, hscan, hid⟩ := hfound
  have hgrow : ∃ es, u.drained.tx.sent = t.drained.tx.sent ++ es := by
    cases l with
    | discovery => exact ⟨[], by rw [hstep.drained_discovery, List.append_nil]⟩
    | scan scan =>
      obtain ⟨es, hsent, _⟩ := onDiscoveries_log t.drained scan.events
      exact ⟨es, by rw [hstep.drained_scan, hsent]⟩
  rcases List.mem_append.mp hscan with hscan | hscan
  · obtain ⟨e, he, hid⟩ := ih ⟨scan, hscan, hid⟩
    obtain ⟨es, hsent⟩ := hgrow
    exact ⟨e, by rw [hsent]; exact List.mem_append_left _ he, hid⟩
  · -- The camera is tracked after the scan, so the drained registry has it.
    have hcovers := covers_of_run hrun'
    have hlast : Intake.scansOf (labels ++ [l]) = Intake.scansOf labels ++ [scan] := by
      rw [Intake.scansOf_append]
      cases l with
      | discovery => simp [Intake.scansOf] at hscan
      | scan scan' =>
        rw [List.mem_singleton.mp hscan]
        rfl
    have hpresent : (u.disc.track id).record.isSome = true := by
      rw [(hcovers.tracks id).record, hlast]
      refine present_iff.mpr ⟨scan, ?_, hid⟩
      rw [List.reverse_append]
      exact List.mem_cons_self
    rw [← hcovers.ids id] at hpresent
    exact announced_of_mem (Intake.drained_announced hrun') (Finmap.lookup_isSome.mp hpresent)

/-! ## The first scan -/

theorem run_auto {a a' : Auto} {labels : List Auto.Label} (h : Run (Auto.Step cfg) a labels a')
    (m : MediaSync) :
    Run (Step cfg media report) ⟨a, m⟩ (labels.map .auto) ⟨a', m⟩ := by
  induction h with
  | refl => exact Run.refl
  | snoc _ hstep ih =>
    rw [List.map_append]
    exact ih.snoc (.auto hstep)

theorem run_media {a : Auto} {m m' : MediaSync} {labels : List MediaSync.Label}
    (h : Run (MediaSync.Step media report a.intake.registry.tx) m labels m') :
    Run (Step cfg media report) ⟨a, m⟩ (labels.map .media) ⟨a, m'⟩ := by
  induction h with
  | refl => exact Run.refl
  | snoc _ hstep ih =>
    rw [List.map_append]
    exact ih.snoc (.media hstep)

def firstCamera : CameraDevice :=
  { CameraDevice.bare "SN-1" with streamUri := "rtsp://10.0.0.5/live" }

def firstScan : Scan := ⟨[.ok firstCamera], [.cameraFound firstCamera]⟩

/-- One scan has found one camera. -/
def scanned : LiveView :=
  ⟨⟨⟨⟨(∅ : HashMap _ _).insert "SN-1" firstCamera, ∅⟩, [.cameraFound firstCamera],
    CameraRegistry.new 64⟩, 0, BridgeLoop.start ⟨∅, 8, 7⟩⟩, ⟨0, .receiving, ∅⟩⟩

/-- The labels that settle the first scan. -/
def settling : List Label :=
  [.auto (.intake .discovery), .auto (.registry (.added firstCamera))] ++
    [.media (.received (.added firstCamera)), .media (.call .delivered), .media (.call .delivered)]

omit [UnicodeTables] [UrlCrate] in
theorem run_scanned :
    letI := asciiTables
    letI := rtspUrls
    Run (Step ⟨∅, "admin", "pass"⟩ ⟨"admin", "pass"⟩ id) (start ⟨∅, 8, 7⟩ ∅)
      [.auto (.intake (.scan firstScan))] scanned := by
  let _ := asciiTables
  let _ := rtspUrls
  exact run_auto (Run.one (.intake (s := Auto.start ⟨∅, 8, 7⟩) (.scan (.first firstCamera)))) _

omit [UnicodeTables] [UrlCrate] in
theorem run_settling :
    letI := asciiTables
    letI := rtspUrls
    ∃ s, Run (Step ⟨∅, "admin", "pass"⟩ ⟨"admin", "pass"⟩ id) scanned settling s ∧ Settled s ∧
      s.auto.loop.slotMap.map.lookup "SN-1" = some 7 := by
  let _ := asciiTables
  let _ := rtspUrls
  let cfg : LoopConfig := ⟨∅, "admin", "pass"⟩
  let intake : Intake := ⟨scanned.auto.intake.disc, [],
    (CameraRegistry.new 64).addCamera firstCamera⟩
  let loop := ((BridgeLoop.start ⟨∅, 8, 7⟩).handleEvent cfg (.added firstCamera)).get rfl
  have hauto : Run (Auto.Step cfg) scanned.auto
      [.intake .discovery, .registry (.added firstCamera)] ⟨intake, 1, loop⟩ :=
    Run.cons (t := ⟨intake, 0, scanned.auto.loop⟩)
      (.intake (s := scanned.auto) (.discovery (s := scanned.auto.intake) rfl))
      (Run.one (.registry (s := ⟨intake, 0, scanned.auto.loop⟩) rfl (Option.some_get _).symm))
  have hmedia : Run (MediaSync.Step ⟨"admin", "pass"⟩ id intake.registry.tx) ⟨0, .receiving, ∅⟩
      _ _ := MediaSync.run_added _ id rfl (by decide) Finmap.notMem_empty
  exact ⟨_, (run_auto hauto _).append (run_media (a := ⟨intake, 1, loop⟩) hmedia),
    ⟨⟨rfl, rfl⟩, rfl, rfl⟩, rfl⟩

/-! ## Offers in settled states -/

/-- What the hooks of an endpoint do with an offer. -/
def forwardOffer (s : LiveView) (hooks : BridgeWebRtcHooks) (exchangeSdp : ExchangeSdp)
    (sdp : String) : Except WebRtcError String :=
  hooks.forwardOffer (some s.auto.loop.bridge.streamNames) exchangeSdp sdp

/-- No camera that some scan obtained shares its stream name with `id`, and the records of
`id` have a stream. -/
structure Streamable (scans : List Scan) (id : String) : Prop where
  name : ∀ scan ∈ scans, ∀ camera, .ok camera ∈ scan.results →
    Media.sanitizeStreamName camera.id = Media.sanitizeStreamName id → camera.id = id
  uri : ∀ scan ∈ scans, ∀ camera, .ok camera ∈ scan.results → camera.id = id →
    camera.streamUri ≠ ""

/-- In a settled state the table has applied the whole registry log. -/
theorem streamOf_settled {m : SlotMap} {table : StreamTable} {labels : List Label} {s : LiveView}
    (h : Run (Step cfg media report) (start m table) labels s)
    (hquiet : ∀ l ∈ labels, l.Undisturbed) (hs : Settled s) {id : String}
    (hid : Streamable (scansOf labels) id) :
    StreamOf media report s.auto.intake.registry.tx.sent s.auto.intake.registry.cameras
      s.media.table id := by
  have hintake := Auto.intake_run (auto_run h)
  have htable := (inStep_of_run h hquiet).drained hs.unread
  rw [MediaSync.finished, hs.idle] at htable
  have hdrained := Intake.drained_of_empty hs.auto.discovery
  rw [show s.media.table = _ from htable]
  refine streamOf_announced (Intake.announced_of_run hintake) ⟨?_, ?_⟩ table
  · intro e he hname
    obtain ⟨scan, hscan, camera, hok, hcamera⟩ :=
      Intake.obtained_of_run hintake (by rwa [hdrained] : e ∈ s.auto.intake.drained.tx.sent)
    rw [← hcamera] at hname ⊢
    exact hid.name scan hscan camera hok hname
  · intro e he camera hr hcamera
    obtain ⟨scan, hscan, hok⟩ := Intake.records_of_run hintake e
      (by rwa [hdrained] : e ∈ s.auto.intake.drained.tx.sent) camera hr
    exact hid.uri scan hscan camera hok hcamera

omit [UrlCrate] in
theorem reachable_of_bound {events : List RegistryEvent} {s : Auto} {id : String} {slot : Nat}
    (h : BoundRow cfg events id slot (s.loop.row slot)) : s.reachable slot = true := by
  obtain ⟨camera, _, _, hcamera⟩ := h.camera
  show ((s.loop.row slot).camera.map CameraSlot.occupied).getD false = true
  rw [hcamera]
  rfl

omit [UnicodeTables] [UrlCrate] in
theorem reachable_of_free {s : Auto} {slot : Nat} (h : FreeRow (s.loop.row slot)) :
    s.reachable slot = false := by
  show ((s.loop.row slot).camera.map CameraSlot.occupied).getD false = false
  cases hc : (s.loop.row slot).camera with
  | none => rfl
  | some camera =>
    rw [h.camera camera hc]
    rfl

omit [UnicodeTables] [UrlCrate] in
/-- The stream name decides what becomes of an offer. -/
theorem forwardOffer_of_name {s : LiveView} {hooks : BridgeWebRtcHooks} {name : Option String}
    (h : (s.auto.loop.row hooks.slot).streamName = name) (exchangeSdp : ExchangeSdp)
    (sdp : String) : s.forwardOffer hooks exchangeSdp sdp =
      match name with
      | none => .error .invalidInState
      | some name => (exchangeSdp name sdp).mapError fun _ => .failure := by
  have hl : s.auto.loop.bridge.streamNames.lookup hooks.slot = name := h
  rw [forwardOffer, BridgeWebRtcHooks.forwardOffer, BridgeWebRtcHooks.lookupStreamName,
    Option.bind_some, hl]
  cases name with
  | none => rfl
  | some name => rfl

/-- **Live view reflects discovery.** In every settled state of every undisturbed run, on
the endpoint whose slot belongs to a camera: if the camera was found in one of the last
three scans, its endpoint is reachable and offers go to its stream, which go2rtc has with
the URL of the latest record; if not, the endpoint is unreachable, offers are rejected, and
a camera that was ever found has no stream left. -/
theorem live_view {m : SlotMap} (hm : BridgeSlots m) {table : StreamTable} {labels : List Label}
    {s : LiveView} (h : Run (Step cfg media report) (start m table) labels s)
    (hquiet : ∀ l ∈ labels, l.Undisturbed) (hs : Settled s) {id : String} {slot : Nat}
    (hown : s.auto.loop.slotMap.map.lookup id = some slot)
    (hid : Streamable (scansOf labels) id) {hooks : BridgeWebRtcHooks} (hslot : hooks.slot = slot)
    (exchangeSdp : ExchangeSdp) (sdp : String) :
    ((∃ scan ∈ (scansOf labels).reverse.take missThreshold, scan.found id = true) →
      s.auto.reachable slot = true ∧
      s.forwardOffer hooks exchangeSdp sdp =
        (exchangeSdp (Media.sanitizeStreamName id) sdp).mapError (fun _ => .failure) ∧
      ∃ camera, s.auto.intake.registry.cameras.lookup id = some camera ∧
        Registered report s.media.table (Media.sanitizeStreamName id) (media.rtspUrl camera)) ∧
    (¬ (∃ scan ∈ (scansOf labels).reverse.take missThreshold, scan.found id = true) →
      s.auto.reachable slot = false ∧
      s.forwardOffer hooks exchangeSdp sdp = .error .invalidInState ∧
      ((∃ scan ∈ scansOf labels, scan.found id = true) →
        Media.sanitizeStreamName id ∉ s.media.table)) := by
  have hauto := auto_run h
  have hlag : ∀ n, .lagged n ∉ labels.filterMap Label.auto? := by
    intro n hn
    obtain ⟨l, hl, he⟩ := List.mem_filterMap.mp hn
    cases l with
    | auto l =>
      obtain rfl := Option.some.inj he
      exact hquiet _ hl
    | media _ => cases he
  have hinv := Auto.inv_of_settled hm hauto hlag hs.auto
  have hregistered := Auto.registered_iff hauto hs.auto id
  have hstream := streamOf_settled h hquiet hs hid
  subst hslot
  constructor
  · intro hfound
    have hmem : id ∈ s.auto.intake.registry.cameras := hregistered.mpr hfound
    have hrow := hinv.bound id hooks.slot ((hinv.bound_iff id hooks.slot).mpr ⟨hmem, hown⟩)
    obtain ⟨camera, hcamera⟩ := Finmap.mem_iff.mp hmem
    exact ⟨reachable_of_bound hrow, forwardOffer_of_name hrow.streamName exchangeSdp sdp,
      camera, hcamera, hstream.present camera hcamera⟩
  · intro hlost
    have hout : id ∉ s.auto.intake.registry.cameras := fun hmem => hlost (hregistered.mp hmem)
    have hfree : FreeRow (s.auto.loop.row hooks.slot) := by
      refine hinv.free hooks.slot fun id' hid' => hout ?_
      obtain ⟨hmem, hown'⟩ := (hinv.bound_iff id' hooks.slot).mp hid'
      rwa [hinv.slots.exclusive id' id hooks.slot hown' hown] at hmem
    refine ⟨reachable_of_free hfree, forwardOffer_of_name hfree.streamName exchangeSdp sdp, ?_⟩
    intro hfound
    refine hstream.absent hout ?_
    rw [← Intake.drained_of_empty hs.auto.discovery]
    exact announced_of_found (Auto.intake_run hauto) hfound

omit [UnicodeTables] [UrlCrate] in
/-- The camera of the first scan has a live view. -/
theorem live_view_first_scan :
    letI := asciiTables
    letI := rtspUrls
    ∃ s, Run (Step ⟨∅, "admin", "pass"⟩ ⟨"admin", "pass"⟩ id) (start ⟨∅, 8, 7⟩ ∅)
        (.auto (.intake (.scan firstScan)) :: settling) s ∧
      s.auto.reachable 7 = true ∧
      s.forwardOffer (.new 7) (fun name _ => .ok name) "offer" = .ok "SN-1" := by
  let _ := asciiTables
  let _ := rtspUrls
  obtain ⟨s, hrun, hs, hown⟩ := run_settling
  have hall := run_scanned.append hrun
  have hquiet : ∀ l ∈ .auto (.intake (.scan firstScan)) :: settling, l.Undisturbed := by
    simp [settling, Label.Undisturbed, MediaSync.Label.Reliable]
  have hid : Streamable [firstScan] "SN-1" := by
    constructor <;> intro scan hscan camera hok <;> rw [List.mem_singleton.mp hscan] at hok <;>
      simp only [firstScan, List.mem_singleton, Except.ok.injEq] at hok <;> subst hok
    · exact fun _ => rfl
    · exact fun _ => by decide
  have hslot : (BridgeWebRtcHooks.new 7).slot = 7 := rfl
  have hview := (live_view bridgeSlots_empty hall hquiet hs hown hid hslot
    (fun name _ => .ok name) "offer").1 ⟨firstScan, List.mem_singleton_self _, rfl⟩
  exact ⟨s, hall, hview.1, hview.2.1⟩

end LiveView

end MatterBridge.Bridge
