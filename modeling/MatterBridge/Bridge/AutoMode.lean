import MatterBridge.Bridge.LiveView
import MatterBridge.Bridge.SelectLoop
import MatterBridge.Core.Pipeline
import MatterBridge.Onvif.ScanTask

/-!
# Auto mode, one await at a time

`LiveView` takes a scan in one step. In the source the discovery task waits for every
connect and for room in the channel before every event, while the loop already takes the
first events of the scan; and a lag turns the registry branch of `select!` off until the next
discovery event. Both are modelled here, and every such run is a run of `LiveView`.
-/
namespace MatterBridge.Bridge

open MatterBridge.Core MatterBridge.Onvif MatterBridge.Slots MatterBridge.Media

/-- What is on the receiving side of the discovery channel. -/
structure Receiver where
  registry : CameraRegistry
  /-- Position of the loop's subscription. -/
  next : Nat
  /-- The registry branch has failed in this turn of `select!`. -/
  registryDisabled : Bool
  loop : BridgeLoop
  media : MediaSync

namespace Receiver

inductive Label where
  | discovery (e : DiscoveryEvent)
  | registry (e : RegistryEvent)
  | lagged (missed : Nat)
  | media (l : MediaSync.Label)

/-- The discovery event a step takes from the channel. -/
def Label.discovery? : Label → Option DiscoveryEvent
  | .discovery e => some e
  | _ => none

/-- In auto mode discovery never ends, so only the registry branch can fail; the discovery
branch ends the turn. -/
inductive Step [UnicodeTables] [UrlCrate] (cfg : LoopConfig) (media : MediaConfig)
    (report : String → String) : Receiver → Label → Receiver → Prop
  | discovery {s : Receiver} {e : DiscoveryEvent} :
      Step cfg media report s (.discovery e) { s with
        registry := onDiscovery s.registry e
        registryDisabled := false }
  | registry {s : Receiver} {e : RegistryEvent} {next : Nat} {loop : BridgeLoop} :
      s.registryDisabled = false → s.registry.tx.recv s.next = some (.ok e, next) →
      s.loop.handleEvent cfg e = some loop →
      Step cfg media report s (.registry e) { s with next := next, loop := loop }
  | lagged {s : Receiver} {missed next : Nat} : s.registryDisabled = false →
      s.registry.tx.recv s.next = some (.error (.lagged missed), next) →
      Step cfg media report s (.lagged missed) { s with next := next, registryDisabled := true }
  | media {s : Receiver} {l : MediaSync.Label} {m : MediaSync} :
      MediaSync.Step media report s.registry.tx s.media l m →
      Step cfg media report s (.media l) { s with media := m }

end Receiver

namespace AutoMode

abbrev State := Pipeline.State ScanTask Receiver DiscoveryEvent

abbrev Label := Pipeline.Label ScanTask.Label Receiver.Label

/-- Before the first scan, with whatever streams go2rtc holds. -/
def start (m : SlotMap) (table : StreamTable) : State where
  producer := ScanTask.start
  queue := []
  consumer := ⟨CameraRegistry.new registryCapacity, 0, false, BridgeLoop.start m,
    ⟨0, .receiving, table⟩⟩

variable [UnicodeTables] [UrlCrate] {cfg : LoopConfig} {media : MediaConfig}
  {report : String → String}

/-- The discovery task, `mpsc::channel(64)` and the rest of the bridge. -/
def pipeline (cfg : LoopConfig) (media : MediaConfig) (report : String → String) :
    Pipeline ScanTask ScanTask.Label Receiver Receiver.Label DiscoveryEvent where
  produce := ScanTask.Step
  item := ScanTask.Label.event?
  idle := ScanTask.Asleep
  consume := Receiver.Step cfg media report
  takes := Receiver.Label.discovery?
  capacity := channelCapacity

abbrev Step (cfg : LoopConfig) (media : MediaConfig) (report : String → String) :
    State → Label → State → Prop := (pipeline cfg media report).Step

/-! ## The first scan -/

/-- The task has woken up to try one device. -/
def woken : State :=
  { start ⟨∅, 8, 7⟩ ∅ with
    producer := { ScanTask.start with phase := .connecting [⟨"10.0.0.5", 80⟩] } }

/-- The camera is found and in the registry, and the scan goes on. -/
def midScan : State where
  producer :=
    { phase := .connecting []
      discovered := (∅ : HashMap String CameraDevice).insert "SN-1" LiveView.firstCamera
      missedScans := ∅
      foundIds := {"SN-1"}
      sending := none }
  queue := []
  consumer := { woken.consumer with
    registry := (CameraRegistry.new 64).addCamera LiveView.firstCamera }

theorem run_woken : Run (Step cfg media report) (start ⟨∅, 8, 7⟩ ∅)
    [.produce (.wake [⟨"10.0.0.5", 80⟩])] woken :=
  Run.one (.produce (s := start ⟨∅, 8, 7⟩ ∅) (.wake rfl rfl) nofun)

theorem run_midScan : Run (Step cfg media report) woken
    [.produce (.connect (.ok LiveView.firstCamera)),
      .produce (.send (.cameraFound LiveView.firstCamera)),
      .consume (.discovery (.cameraFound LiveView.firstCamera))] midScan := by
  let camera := LiveView.firstCamera
  let found : State := { woken with
    producer := { midScan.producer with sending := some (.cameraFound camera) } }
  let sent : State := { woken with
    producer := midScan.producer
    queue := [.cameraFound camera] }
  have hconnect : Step cfg media report woken (.produce (.connect (.ok camera))) found :=
    .produce (s := woken) (.connect rfl rfl) nofun
  have hsend : Step cfg media report found (.produce (.send (.cameraFound camera))) sent :=
    .produce (s := found) (.send rfl) fun _ => Nat.zero_lt_succ 63
  have htake : Step cfg media report sent (.consume (.discovery (.cameraFound camera))) midScan :=
    .consume (s := sent) .discovery rfl
  exact Run.cons hconnect (Run.cons hsend (Run.one htake))

/-! ## Scans are atomic -/

/-- The state between two scans, or with the scan in progress done. -/
def view (s : State) : LiveView where
  auto := ⟨⟨s.producer.toDiscovery, s.queue, s.consumer.registry⟩, s.consumer.next, s.consumer.loop⟩
  media := s.consumer.media

/-- The connects and events of one scan. -/
def scanOf (ls : List ScanTask.Label) : Scan :=
  ⟨ls.filterMap ScanTask.Label.result?, ls.filterMap ScanTask.Label.event?⟩

def viewLabel : Pipeline.Label (List ScanTask.Label) Receiver.Label → LiveView.Label
  | .produce ls => .auto (.intake (.scan (scanOf ls)))
  | .consume (.discovery _) => .auto (.intake .discovery)
  | .consume (.registry e) => .auto (.registry e)
  | .consume (.lagged n) => .auto (.lagged n)
  | .consume (.media l) => .media l

/-- A scan begins with the task's waking up and ends before it wakes up again. -/
def IsScan (ls : List ScanTask.Label) : Prop :=
  ∃ devices rest, ls = .wake devices :: rest ∧ ∀ devices', .wake devices' ∉ rest

/-- A whole scan of the task is one scan of `LiveView`. -/
theorem view_step {s t : State} {l : Pipeline.Label (List ScanTask.Label) Receiver.Label}
    (h : (pipeline cfg media report).AtomicStep s l t) :
    LiveView.Step cfg media report (view s) (viewLabel l) (view t) := by
  cases h with
  | job hjob =>
    obtain ⟨l, rest, u, rfl, hidle, hstep, hfin⟩ := hjob
    cases hstep with
    | wake hp hn =>
      have hscan := ScanTask.scanStep_of_job (.wake hp hn) hfin.1 hfin.2
      exact .auto (.intake (.scan hscan))
    | connect hp _ => rw [hidle.phase] at hp; cases hp
    | walk _ hp _ => rw [hidle.phase] at hp; cases hp
    | check hp _ => rw [hidle.phase] at hp; cases hp
    | sleep hp _ => rw [hidle.phase] at hp; cases hp
    | send he => rw [hidle.sent] at he; cases he
  | consume hstep hqueue =>
    cases hstep with
    | discovery => exact .auto (.intake (.discovery hqueue))
    | registry _ hrecv hloop =>
      obtain rfl : s.queue = _ := hqueue
      exact .auto (.registry hrecv hloop)
    | lagged _ hrecv =>
      obtain rfl : s.queue = _ := hqueue
      exact .auto (.lagged hrecv)
    | media hm =>
      obtain rfl : s.queue = _ := hqueue
      exact .media hm

theorem view_run {s t : State}
    {labels : List (Pipeline.Label (List ScanTask.Label) Receiver.Label)}
    (h : Run (pipeline cfg media report).AtomicStep s labels t) :
    Run (LiveView.Step cfg media report) (view s) (labels.map viewLabel) (view t) := by
  rw [← List.filterMap_eq_map]
  exact h.project view (some ∘ viewLabel) fun _ _ _ hstep => Or.inl ⟨_, rfl, view_step hstep⟩

omit [UnicodeTables] [UrlCrate] in
theorem scansOf_view (labels : List (Pipeline.Label (List ScanTask.Label) Receiver.Label)) :
    LiveView.scansOf (labels.map viewLabel) =
      (labels.filterMap Pipeline.Label.produce?).map scanOf := by
  simp only [LiveView.scansOf, Auto.scansOf, Intake.scansOf, List.filterMap_filterMap,
    List.filterMap_map, List.map_filterMap]
  refine List.filterMap_congr fun l _ => ?_
  cases l with
  | produce ls => rfl
  | consume k => cases k <;> rfl

/-- A job of the task is one scan. -/
theorem isScan_of_job {t u : ScanTask} {ls : List ScanTask.Label}
    (h : (pipeline cfg media report).Job t ls u) : IsScan ls := by
  obtain ⟨l, rest, v, rfl, hidle, hstep, hfin⟩ := h
  have hrest : ∀ l ∈ rest, ∀ devices, l ≠ .wake devices := by
    refine hfin.1.forall_labels fun s l t hguarded devices he => ?_
    obtain ⟨hs, hawake⟩ := hguarded
    subst he
    cases hs with
    | wake hp hn => exact hawake ⟨hp, hn⟩
  cases hstep with
  | @wake devices _ _ => exact ⟨devices, rest, rfl, fun devices' hm => hrest _ hm devices' rfl⟩
  | connect hp _ => rw [hidle.phase] at hp; cases hp
  | walk _ hp _ => rw [hidle.phase] at hp; cases hp
  | check hp _ => rw [hidle.phase] at hp; cases hp
  | sleep hp _ => rw [hidle.phase] at hp; cases hp
  | send he => rw [hidle.sent] at he; cases he

/-- No subscriber lags, every call is delivered and go2rtc stays up. -/
def Undisturbed : Label → Prop
  | .produce _ => True
  | .consume (.lagged _) => False
  | .consume (.media (.lagged _)) => False
  | .consume (.media l) => l.Reliable
  | .consume _ => True

omit [UnicodeTables] [UrlCrate] in
theorem undisturbed_view {l : Pipeline.Label (List ScanTask.Label) Receiver.Label}
    (h : ∀ k, l = .consume k → Undisturbed (.consume k)) : (viewLabel l).Undisturbed := by
  cases l with
  | produce ls => trivial
  | consume k =>
    have hk := h k rfl
    cases k with
    | media l => cases l <;> exact hk
    | _ => exact hk

/-- **Scans are atomic.** Every state of every run, with the scan in progress done in any way
it may end, is the state of a `LiveView` run whose scans are those of the task, with the same
loop, registry and manager, and in the channel just the events still to come besides. Some
way to end it there always is. -/
theorem scans_atomic {m : SlotMap} {table : StreamTable} {labels : List Label} {s : State}
    (h : Run (Step cfg media report) (start m table) labels s) :
    (∀ ls t, Run (Guarded ScanTask.Step fun t _ => ¬ t.Asleep) s.producer ls t → t.Asleep →
      ∃ (scans : List (List ScanTask.Label)) (views : List LiveView.Label),
        scans.flatten = labels.filterMap Pipeline.Label.produce? ++ ls ∧
        (∀ scan ∈ scans, IsScan scan) ∧ LiveView.scansOf views = scans.map scanOf ∧
        ((∀ l ∈ labels, Undisturbed l) → ∀ l ∈ views, l.Undisturbed) ∧
        Run (LiveView.Step cfg media report) (LiveView.start m table) views
          ⟨⟨⟨t.toDiscovery, s.queue ++ ls.filterMap ScanTask.Label.event?, s.consumer.registry⟩,
            s.consumer.next, s.consumer.loop⟩, s.consumer.media⟩) ∧
    ∃ ls t, Run (Guarded ScanTask.Step fun t _ => ¬ t.Asleep) s.producer ls t ∧ t.Asleep := by
  refine ⟨fun ls t hrun hasleep => ?_, ScanTask.exists_finish s.producer⟩
  have hstart : ScanTask.start.Asleep := ⟨rfl, rfl⟩
  have hfin : (pipeline cfg media report).Finishes s.producer ls t := ⟨hrun, hasleep⟩
  obtain ⟨atomic, hall⟩ := Pipeline.atomic_of_run h hstart hfin
  refine ⟨atomic.filterMap Pipeline.Label.produce?, atomic.map viewLabel, hall.jobs, ?_,
    scansOf_view atomic, ?_, view_run hall.run⟩
  · intro scan hscan
    obtain ⟨l, hl, hproduce⟩ := List.mem_filterMap.mp hscan
    have hjob : ∀ ls, l = .produce ls → IsScan ls := by
      refine hall.run.forall_labels (P := fun l => ∀ ls, l = .produce ls → IsScan ls) ?_ l hl
      intro s l t hstep ls he
      subst he
      cases hstep with
      | job hjob => exact isScan_of_job hjob
    cases l with
    | produce ls => exact hjob scan (congrArg Pipeline.Label.produce (Option.some.inj hproduce))
    | consume k => cases hproduce
  · intro hquiet view hview
    obtain ⟨l, hl, rfl⟩ := List.mem_map.mp hview
    refine undisturbed_view fun k hk => hquiet _ ?_
    subst hk
    -- What the receiver did it did in the original run.
    have hconsumed : k ∈ labels.filterMap Pipeline.Label.consume? := by
      rw [← hall.consumed]
      exact List.mem_filterMap.mpr ⟨_, hl, rfl⟩
    obtain ⟨l', hl', he⟩ := List.mem_filterMap.mp hconsumed
    cases l' with
    | produce l => cases he
    | consume k' =>
      rw [← Option.some.inj he]
      exact hl'

omit [UnicodeTables] [UrlCrate] in
/-- In the middle of the first scan, which may end without another event. -/
theorem scans_atomic_mid_scan :
    letI := asciiTables
    letI := rtspUrls
    ∃ views : List LiveView.Label,
      Run (LiveView.Step ⟨∅, "admin", "pass"⟩ ⟨"admin", "pass"⟩ id) (LiveView.start ⟨∅, 8, 7⟩ ∅)
        views ⟨⟨⟨midScan.producer.toDiscovery, [], midScan.consumer.registry⟩, 0,
          BridgeLoop.start ⟨∅, 8, 7⟩⟩, ⟨0, .receiving, ∅⟩⟩ := by
  let _ := asciiTables
  let _ := rtspUrls
  let walking : ScanTask := { midScan.producer with phase := .checking ["SN-1"] }
  let ended : ScanTask := { midScan.producer with phase := .checking [] }
  let order : midScan.producer.discovered.Enumeration :=
    .ofKeys ["SN-1"] (List.nodup_singleton _) (by decide)
  have hwalk : ScanTask.Step midScan.producer .walk walking := .walk order rfl rfl
  have hcheck : ScanTask.Step walking .check ended := by
    have hfound : walking.check "SN-1" = walking := if_pos (Finset.mem_singleton_self "SN-1")
    have hstep : ScanTask.Step walking .check { walking.check "SN-1" with phase := .checking [] } :=
      .check rfl rfl
    rwa [hfound] at hstep
  have hsleep : ScanTask.Step ended .sleep { ended with phase := .sleeping } := .sleep rfl rfl
  have hfinish : Run (Guarded ScanTask.Step fun t _ => ¬ t.Asleep) midScan.producer
      [.walk, .check, .sleep] { ended with phase := .sleeping } :=
    Run.cons ⟨hwalk, fun h => by cases h.phase⟩
      (Run.cons ⟨hcheck, fun h => by cases h.phase⟩
        (Run.one ⟨hsleep, fun h => by cases h.phase⟩))
  obtain ⟨_, views, _, _, _, _, hrun⟩ :=
    (scans_atomic (run_woken.append run_midScan)).1 _ _ hfinish ⟨rfl, rfl⟩
  exact ⟨views, hrun⟩

/-! ## Every schedule comes to rest -/

/-- No new scan begins and go2rtc stays up; connects and calls may fail, and subscribers may
lag. -/
def Quiet : Label → Prop
  | .produce (.wake _) => False
  | .produce _ => True
  | .consume (.media .restart) => False
  | .consume _ => True

/-- The receiver's share: one step for each registry event the loop has not taken, at most
four for each that the manager has not. -/
def receiverWork (r : Receiver) : Nat :=
  (r.registry.tx.unread r.next).length + 4 * (r.registry.tx.unread r.media.next).length +
    r.media.phase.remaining

/-- What is left to do: a queued discovery event takes at most six steps. -/
def work (s : State) : Nat := s.producer.work + 6 * s.queue.length + receiverWork s.consumer

omit [UnicodeTables] [UrlCrate] in
theorem onDiscovery_sends (r : CameraRegistry) (e : DiscoveryEvent) :
    ∃ es, (onDiscovery r e).tx.sent = r.tx.sent ++ es ∧ es.length ≤ 1 := by
  cases e with
  | cameraFound camera =>
    obtain ⟨es, hsent, hlen, _⟩ := r.apply_log (.addCamera camera)
    exact ⟨es, hsent, hlen⟩
  | cameraLost id =>
    obtain ⟨es, hsent, hlen, _⟩ := r.apply_log (.removeCamera id)
    exact ⟨es, hsent, hlen⟩
  | cameraUnreachable id => exact ⟨[], by simp [onDiscovery], Nat.zero_le _⟩
  | error message => exact ⟨[], by simp [onDiscovery], Nat.zero_le _⟩

theorem remaining_onEvent (media : MediaConfig) (e : RegistryEvent) :
    (onEvent media e).remaining ≤ 3 := by
  cases e with
  | added camera =>
    simp only [onEvent]
    split <;> simp [Phase.remaining]
  | updated camera =>
    simp only [onEvent]
    split <;> simp [Phase.remaining]
  | removed id => simp [onEvent, Phase.remaining]

/-- Failed calls and lag are progress too. -/
theorem receiverWork_step {r r' : Receiver} {k : Receiver.Label}
    (hs : Receiver.Step cfg media report r k r') (hk : k ≠ .media .restart) :
    receiverWork r' + 1 ≤ receiverWork r + 6 * k.discovery?.toList.length := by
  cases hs with
  | @discovery e =>
    obtain ⟨es, hsent, hlen⟩ := onDiscovery_sends r.registry e
    have hloop := Broadcast.length_unread_sent hsent r.next
    have hmedia := Broadcast.length_unread_sent hsent r.media.next
    simp only [receiverWork, Receiver.Label.discovery?, Option.toList_some, List.length_singleton]
    omega
  | registry _ hrecv _ =>
    have hloop := Broadcast.length_unread_recv hrecv
    simp only [receiverWork, Receiver.Label.discovery?, Option.toList_none, List.length_nil]
    omega
  | lagged _ hrecv =>
    have hloop := Broadcast.length_unread_recv hrecv
    simp only [receiverWork, Receiver.Label.discovery?, Option.toList_none, List.length_nil]
    omega
  | media hm =>
    simp only [receiverWork, Receiver.Label.discovery?, Option.toList_none, List.length_nil]
    cases hm with
    | @received e _ hp hrecv =>
      have hmedia := Broadcast.length_unread_recv hrecv
      have hrem := remaining_onEvent media e
      simp only
      omega
    | lagged hp hrecv =>
      have hmedia := Broadcast.length_unread_recv hrecv
      simp only
      omega
    | closed _ hrecv => exact absurd hrecv (Broadcast.recv_ne_closed _ _ _)
    | @call request d hq =>
      have hrem := Phase.remaining_respond hq (exchange report r.media.table request d).2
      simp only
      omega
    | restart => exact absurd rfl hk

/-- Every step other than a new scan or a restart is progress. -/
theorem work_step {s t : State} {l : Label} (hs : Step cfg media report s l t) (hl : Quiet l) :
    work t + 1 ≤ work s := by
  refine Pipeline.work_step hs ?_ ?_
  · rintro l' t' rfl hproduce
    refine ScanTask.work_step hproduce fun devices he => ?_
    subst he
    exact hl
  · rintro k r rfl hconsume
    refine receiverWork_step hconsume fun he => ?_
    subst he
    exact hl

/-- The loop's tables stay in bounds and the manager keeps running. -/
structure Alive (s : State) : Prop where
  loop : s.consumer.loop.InBounds
  media : s.consumer.media.phase ≠ .exited

theorem Alive.step {s t : State} {l : Label} (h : Alive s) (hs : Step cfg media report s l t) :
    Alive t := by
  cases hs with
  | produce _ _ => exact ⟨h.loop, h.media⟩
  | consume hc _ =>
    cases hc with
    | discovery => exact ⟨h.loop, h.media⟩
    | registry _ _ hloop => exact ⟨h.loop.kept hloop, h.media⟩
    | lagged _ _ => exact ⟨h.loop, h.media⟩
    | media hm =>
      refine ⟨h.loop, ?_⟩
      cases hm with
      | received _ _ => exact onEvent_ne_exited _ _
      | lagged _ _ => exact h.media
      | closed _ hrecv => exact absurd hrecv (Broadcast.recv_ne_closed _ _ _)
      | call hq => exact Phase.respond_ne_exited hq _
      | restart => exact h.media

theorem alive_of_run {m : SlotMap} (hm : (BridgeLoop.start m).InBounds) {table : StreamTable}
    {labels : List Label} {s : State} (h : Run (Step cfg media report) (start m table) labels s) :
    Alive s :=
  h.invariant Alive (fun _ _ _ ht hstep => ht.step hstep) ⟨hm, by simp [start]⟩

/-- Nothing is left to do, but for registry events behind a branch that a lag turned off. -/
structure AtRest (s : State) : Prop where
  asleep : s.producer.Asleep
  queue : s.queue = []
  registry : s.consumer.registryDisabled = false →
    s.consumer.registry.tx.unread s.consumer.next = []
  idle : s.consumer.media.phase = .receiving
  media : s.consumer.registry.tx.unread s.consumer.media.next = []

/-- Where something is left to do, some step does it: the sender finds room in the end. -/
theorem Alive.atRest {s : State} (h : Alive s)
    (hstuck : ∀ l t, Quiet l → ¬ Step cfg media report s l t) : AtRest s := by
  have hqueue : s.queue = [] := by
    by_contra hne
    obtain ⟨e, rest, he⟩ := List.exists_cons_of_ne_nil hne
    have hdiscovery : Receiver.Step cfg media report s.consumer (.discovery e) _ := .discovery
    exact hstuck (.consume (.discovery e)) _ trivial (.consume hdiscovery he)
  have hasleep : s.producer.Asleep := by
    by_contra hawake
    obtain ⟨l, t, hstep, hl⟩ := ScanTask.exists_step hawake
    have hquiet : Quiet (.produce l) := by
      cases l with
      | wake devices => exact hl devices rfl
      | _ => trivial
    refine hstuck _ _ hquiet (.produce hstep fun _ => ?_)
    rw [hqueue]
    exact Nat.zero_lt_succ 63
  have hown : ∀ k r, k.discovery? = none → Quiet (.consume k) →
      ¬ Receiver.Step cfg media report s.consumer k r := by
    intro k r hk hquiet hstep
    have htakes : s.queue = ((pipeline cfg media report).takes k).toList ++ s.queue := by
      show s.queue = k.discovery?.toList ++ s.queue
      rw [hk]
      rfl
    exact hstuck _ _ hquiet (.consume hstep htakes)
  have hidle : s.consumer.media.phase = .receiving := by
    cases hq : s.consumer.media.phase.request with
    | none => exact Phase.receiving_of_request_none hq h.media
    | some request => exact absurd (.media (.call hq)) (hown (.media (.call .delivered)) _ rfl trivial)
  refine ⟨hasleep, hqueue, fun hon => ?_, hidle, ?_⟩
  · by_contra hne
    rcases Broadcast.exists_recv hne with ⟨e, next, hrecv⟩ | ⟨n, next, hrecv⟩
    · obtain ⟨loop, hevent, _⟩ := h.loop.step cfg e
      exact hown (.registry e) _ rfl trivial (.registry hon hrecv hevent)
    · exact hown (.lagged n) _ rfl trivial (.lagged hon hrecv)
  · by_contra hne
    rcases Broadcast.exists_recv hne with ⟨e, next, hrecv⟩ | ⟨n, next, hrecv⟩
    · exact hown (.media (.received e)) _ rfl trivial (.media (.received hidle hrecv))
    · exact hown (.media (.lagged n)) _ rfl trivial (.media (.lagged hidle hrecv))

/-- At rest nothing moves until the next scan. -/
theorem AtRest.stuck {s t : State} {l : Label} (h : AtRest s) (hl : Quiet l) :
    ¬ Step cfg media report s l t := by
  intro hstep
  cases hstep with
  | produce hp _ =>
    have hphase := h.asleep.phase
    cases hp with
    | wake _ _ => exact hl
    | connect hp _ => rw [hphase] at hp; cases hp
    | walk _ hp _ => rw [hphase] at hp; cases hp
    | check hp _ => rw [hphase] at hp; cases hp
    | sleep hp _ => rw [hphase] at hp; cases hp
    | send he => rw [h.asleep.sent] at he; cases he
  | consume hc hqueue =>
    cases hc with
    | discovery =>
      rw [h.queue] at hqueue
      cases hqueue
    | registry hon hrecv _ => exact Broadcast.unread_ne_nil_of_recv hrecv (h.registry hon)
    | lagged hon hrecv => exact Broadcast.unread_ne_nil_of_recv hrecv (h.registry hon)
    | media hm =>
      cases hm with
      | received _ hrecv => exact Broadcast.unread_ne_nil_of_recv hrecv h.media
      | lagged _ hrecv => exact Broadcast.unread_ne_nil_of_recv hrecv h.media
      | closed _ hrecv => exact Broadcast.unread_ne_nil_of_recv hrecv h.media
      | call hq =>
        rw [h.idle] at hq
        cases hq
      | restart => exact hl

/-- Only a lag turns the registry branch off. -/
theorem enabled_of_run {m : SlotMap} {table : StreamTable} {labels : List Label} {s : State}
    (h : Run (Step cfg media report) (start m table) labels s)
    (hlag : ∀ n, .consume (.lagged n) ∉ labels) : s.consumer.registryDisabled = false := by
  have hguarded := h.guard (fun _ l => ∀ n, l ≠ .consume (.lagged n))
    fun l hl _ n hn => hlag n (hn ▸ hl)
  refine hguarded.invariant (fun s => s.consumer.registryDisabled = false) ?_ rfl
  intro s l t hon hstep
  obtain ⟨hs, hl⟩ := hstep
  cases hs with
  | produce _ _ => exact hon
  | consume hc _ =>
    cases hc with
    | discovery => rfl
    | registry _ _ _ => exact hon
    | lagged _ _ => exact absurd rfl (hl _)
    | media _ => exact hon

/-- **Every schedule comes to rest.** From any slot map that loading may return, also one that
gives a slot to two cameras: while no new scan begins, whatever the order of the steps, and
though connects and calls fail and subscribers lag, the bridge takes no more steps than there
is work left, and it can take none exactly when it is at rest: the scan has ended and sent all
its events, and all that was sent is handled, unless a lag has turned the loop's registry branch
off. No lag, and all is handled. -/
theorem every_schedule_rests {m : SlotMap} (hm : (BridgeLoop.start m).InBounds)
    {table : StreamTable}
    {before after : List Label} {s t : State}
    (h : Run (Step cfg media report) (start m table) before s)
    (h' : Run (Step cfg media report) s after t) (hquiet : ∀ l ∈ after, Quiet l) :
    after.length + work t ≤ work s ∧
      (AtRest t ↔ ∀ l u, Quiet l → ¬ Step cfg media report t l u) ∧
      ((∀ n, .consume (.lagged n) ∉ before ++ after) → AtRest t → (view t).Settled) := by
  have hguarded := h'.guard (fun _ l => Quiet l) fun l hl _ => hquiet l hl
  refine ⟨hguarded.bounded work fun _ _ _ hstep => work_step hstep.1 hstep.2,
    ⟨fun hrest l u hl => hrest.stuck hl, (alive_of_run hm (h.append h')).atRest⟩, ?_⟩
  intro hlag hrest
  have hon := enabled_of_run (h.append h') hlag
  exact ⟨⟨hrest.queue, hrest.registry hon⟩, hrest.idle, hrest.media⟩

omit [UnicodeTables] [UrlCrate] in
/-- The first scan tries one device. -/
theorem every_schedule_rests_first_scan :
    letI := asciiTables
    letI := rtspUrls
    Run (Step ⟨∅, "admin", "pass"⟩ ⟨"admin", "pass"⟩ id) woken
        [.produce (.connect (.ok LiveView.firstCamera)),
          .produce (.send (.cameraFound LiveView.firstCamera)),
          .consume (.discovery (.cameraFound LiveView.firstCamera))] midScan ∧
      3 + work midScan ≤ work woken := by
  let _ := asciiTables
  let _ := rtspUrls
  have hmid : Run (Step ⟨∅, "admin", "pass"⟩ ⟨"admin", "pass"⟩ id) woken _ midScan := run_midScan
  have hm : (BridgeLoop.start ⟨∅, 8, 7⟩).InBounds :=
    ⟨rfl, rfl, bridgeSlots_empty.inRange, fun _ _ hl => by simp [BridgeLoop.start] at hl⟩
  exact ⟨hmid, (every_schedule_rests hm run_woken hmid (by simp [Quiet])).1⟩

end AutoMode

end MatterBridge.Bridge
