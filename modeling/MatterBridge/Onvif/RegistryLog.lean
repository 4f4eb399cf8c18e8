import Mathlib.Computability.Language
import MatterBridge.Onvif.Registry

/-!
# The registry log under concurrent callers

Any number of callers share one registry. A call takes the write lock, changes the
map, sends its event and drops the lock; between these statements other callers wait
and the subscriber goes on receiving. The calls behave as if they were made one after
the other in the order in which they took the lock, so the log replays to the map.
-/
namespace MatterBridge.Onvif

open MatterBridge.Core
open scoped Computability

/-- Where the caller that holds the write lock stands. -/
inductive CriticalSection where
  | entered (op : RegistryOp)
  /-- The map is changed and the event is not sent yet. -/
  | changed (event : RegistryEvent)
  | leaving
  deriving DecidableEq

/-- The map after the call's write, and what is left of the critical section. -/
def RegistryOp.write (m : HashMap String CameraDevice) :
    RegistryOp → HashMap String CameraDevice × CriticalSection
  | .addCamera camera => (m.insert camera.id camera,
      .changed (if camera.id ∈ m then .updated camera else .added camera))
  | .removeCamera id => if id ∈ m then (m.erase id, .changed (.removed id)) else (m, .leaving)

structure SharedRegistry where
  registry : CameraRegistry
  /-- The caller in its critical section. -/
  lock : Option (Nat × CriticalSection)
  /-- Position of the subscriber, which is present from creation. -/
  next : Nat
  /-- The events it has received, oldest first. -/
  received : List RegistryEvent

namespace SharedRegistry

def start (capacity : Nat) : SharedRegistry := ⟨CameraRegistry.new capacity, none, 0, []⟩

inductive Label where
  | lock (caller : Nat) (op : RegistryOp)
  | write (caller : Nat)
  | send (caller : Nat)
  | unlock (caller : Nat)
  | receive (e : RegistryEvent)
  | lagged (missed : Nat)

inductive Step : SharedRegistry → Label → SharedRegistry → Prop
  | lock {s : SharedRegistry} {caller : Nat} {op : RegistryOp} : s.lock = none →
      Step s (.lock caller op) { s with lock := some (caller, .entered op) }
  | write {s : SharedRegistry} {caller : Nat} {op : RegistryOp} :
      s.lock = some (caller, .entered op) →
      Step s (.write caller) { s with
        registry := { s.registry with cameras := (op.write s.registry.cameras).1 }
        lock := some (caller, (op.write s.registry.cameras).2) }
  | send {s : SharedRegistry} {caller : Nat} {e : RegistryEvent} :
      s.lock = some (caller, .changed e) →
      Step s (.send caller) { s with
        registry := { s.registry with tx := s.registry.tx.send e }
        lock := some (caller, .leaving) }
  | unlock {s : SharedRegistry} {caller : Nat} : s.lock = some (caller, .leaving) →
      Step s (.unlock caller) { s with lock := none }
  | receive {s : SharedRegistry} {e : RegistryEvent} {next : Nat} :
      s.registry.tx.recv s.next = some (.ok e, next) →
      Step s (.receive e) { s with next := next, received := s.received ++ [e] }
  | lagged {s : SharedRegistry} {missed next : Nat} :
      s.registry.tx.recv s.next = some (.error (.lagged missed), next) →
      Step s (.lagged missed) { s with next := next }

/-- No call is between its write to the map and its send. -/
def Quiet (s : SharedRegistry) : Prop := ∀ caller e, s.lock ≠ some (caller, .changed e)

/-- Everything the subscriber has received or still has to receive. -/
def heard (s : SharedRegistry) : List RegistryEvent := s.received ++ s.registry.tx.unread s.next

/-- The calls of a run, in the order in which they took the lock. -/
def callsOf (labels : List Label) : List RegistryOp :=
  labels.filterMap fun
    | .lock _ op => some op
    | .write _ => none
    | .send _ => none
    | .unlock _ => none
    | .receive _ => none
    | .lagged _ => none

theorem callsOf_snoc (labels : List Label) (l : Label) :
    callsOf (labels ++ [l]) = callsOf labels ++ callsOf [l] := List.filterMap_append

/-- A call's write and send together do what the call does in one step. -/
theorem write_cases (op : RegistryOp) (r : CameraRegistry) :
    (∃ e, e.Follows r.cameras ∧ op.write r.cameras = (e.replay r.cameras, .changed e) ∧
      r.apply op = ⟨e.replay r.cameras, r.tx.send e⟩) ∨
    (op.write r.cameras = (r.cameras, .leaving) ∧ r.apply op = r) := by
  cases op with
  | addCamera camera =>
    unfold RegistryOp.write CameraRegistry.apply CameraRegistry.addCamera
    by_cases h : camera.id ∈ r.cameras
    · exact Or.inl ⟨.updated camera, h, by simp [h, RegistryEvent.replay],
        by simp [h, RegistryEvent.replay]⟩
    · exact Or.inl ⟨.added camera, h, by simp [h, RegistryEvent.replay],
        by simp [h, RegistryEvent.replay]⟩
  | removeCamera id =>
    unfold RegistryOp.write CameraRegistry.apply CameraRegistry.removeCamera
    by_cases h : id ∈ r.cameras
    · exact Or.inl ⟨.removed id, h, by simp [h, RegistryEvent.replay],
        by simp [h, RegistryEvent.replay]⟩
    · exact Or.inr ⟨by simp [h], by simp [h]⟩

/-- The registry `r` while the calls `ops` have been made one at a time on `r₀`,
the last of them as far as the lock says. -/
inductive Linear (r₀ : CameraRegistry) : List RegistryOp → Option (Nat × CriticalSection) →
    CameraRegistry → Prop
  | free {ops : List RegistryOp} : Linear r₀ ops none (r₀.applyAll ops)
  | entered {ops : List RegistryOp} {caller : Nat} {op : RegistryOp} :
      Linear r₀ (ops ++ [op]) (some (caller, .entered op)) (r₀.applyAll ops)
  | changed {ops : List RegistryOp} {caller : Nat} {op : RegistryOp} {e : RegistryEvent} :
      e.Follows (r₀.applyAll ops).cameras →
      (r₀.applyAll ops).apply op =
        ⟨e.replay (r₀.applyAll ops).cameras, (r₀.applyAll ops).tx.send e⟩ →
      Linear r₀ (ops ++ [op]) (some (caller, .changed e))
        ⟨e.replay (r₀.applyAll ops).cameras, (r₀.applyAll ops).tx⟩
  | leaving {ops : List RegistryOp} {caller : Nat} :
      Linear r₀ ops (some (caller, .leaving)) (r₀.applyAll ops)

theorem applyAll_snoc (r : CameraRegistry) (ops : List RegistryOp) (op : RegistryOp) :
    r.applyAll (ops ++ [op]) = (r.applyAll ops).apply op := by
  unfold CameraRegistry.applyAll
  rw [List.foldl_append]
  rfl

theorem Linear.step {r₀ : CameraRegistry} {ops : List RegistryOp} {s t : SharedRegistry}
    {l : Label} (h : Linear r₀ ops s.lock s.registry) (hs : Step s l t) :
    Linear r₀ (ops ++ callsOf [l]) t.lock t.registry := by
  cases hs with
  | @lock caller op hlock =>
    show Linear r₀ (ops ++ [op]) (some (caller, .entered op)) s.registry
    rw [hlock] at h
    generalize s.registry = r at h
    cases h with
    | free => exact .entered
  | @write caller op hlock =>
    show Linear r₀ (ops ++ []) (some (caller, (op.write s.registry.cameras).2))
      ⟨(op.write s.registry.cameras).1, s.registry.tx⟩
    rw [hlock] at h
    rw [List.append_nil]
    generalize s.registry = r at h
    cases h with
    | @entered ops _ _ =>
      rcases write_cases op (r₀.applyAll ops) with ⟨e, hfollows, hwrite, happly⟩ | ⟨hwrite, happly⟩
      · rw [hwrite]
        exact .changed hfollows happly
      · rw [hwrite]
        show Linear r₀ _ _ (r₀.applyAll ops)
        rw [← happly, ← applyAll_snoc]
        exact .leaving
  | @send caller e hlock =>
    show Linear r₀ (ops ++ []) (some (caller, .leaving))
      ⟨s.registry.cameras, s.registry.tx.send e⟩
    rw [hlock] at h
    rw [List.append_nil]
    generalize s.registry = r at h
    cases h with
    | changed hfollows happly =>
      show Linear r₀ _ _ ⟨_, _⟩
      rw [← happly, ← applyAll_snoc]
      exact .leaving
  | @unlock caller hlock =>
    show Linear r₀ (ops ++ []) none s.registry
    rw [hlock] at h
    rw [List.append_nil]
    generalize s.registry = r at h
    cases h with
    | leaving => exact .free
  | receive _ =>
    rw [show callsOf [_] = [] from rfl, List.append_nil]
    exact h
  | lagged _ =>
    rw [show callsOf [_] = [] from rfl, List.append_nil]
    exact h

theorem linear_of_run {capacity : Nat} {labels : List Label} {s : SharedRegistry}
    (h : Run Step (start capacity) labels s) :
    Linear (CameraRegistry.new capacity) (callsOf labels) s.lock s.registry := by
  refine h.history (fun labels s =>
    Linear (CameraRegistry.new capacity) (callsOf labels) s.lock s.registry) .free ?_
  intro labels t l u ih hstep
  rw [callsOf_snoc]
  exact ih.step hstep

/-- The log is announced, and replays to the map unless a call is about to send. -/
theorem Linear.announced {capacity : Nat} {ops : List RegistryOp} {s : SharedRegistry}
    (h : Linear (CameraRegistry.new capacity) ops s.lock s.registry) :
    ∃ m, Run Announce ∅ s.registry.tx.sent m ∧ (s.Quiet → m = s.registry.cameras) := by
  obtain ⟨registry, lock, next, received⟩ := s
  cases h with
  | free => exact ⟨_, CameraRegistry.new_log capacity _, fun _ => rfl⟩
  | entered => exact ⟨_, CameraRegistry.new_log capacity _, fun _ => rfl⟩
  | @changed _ caller _ e _ _ =>
    exact ⟨_, CameraRegistry.new_log capacity _, fun hq => absurd rfl (hq caller e)⟩
  | leaving => exact ⟨_, CameraRegistry.new_log capacity _, fun _ => rfl⟩

/-- A subscriber that never lagged has received the log up to its position. -/
theorem received_of_run {capacity : Nat} {labels : List Label} {s : SharedRegistry}
    (h : Run Step (start capacity) labels s) (hlag : ∀ n, .lagged n ∉ labels) :
    s.registry.tx.Follows s.next (fun seen => s.received = seen) := by
  refine (h.guard (fun _ l => ∀ n, l ≠ .lagged n) ?_).invariant
    (fun s => s.registry.tx.Follows s.next (fun seen => s.received = seen)) ?_
    ⟨Nat.zero_le _, rfl⟩
  · intro l hl _ n hn
    exact hlag n (hn ▸ hl)
  · intro t l u ih hstep
    obtain ⟨hstep, hl⟩ := hstep
    cases hstep with
    | lock _ => exact ih
    | write _ => exact ⟨ih.within, ih.holds⟩
    | send _ => exact ih.sent rfl
    | unlock _ => exact ih
    | receive hrecv => exact ih.received hrecv fun hseen => by rw [hseen]
    | lagged _ => exact absurd rfl (hl _)

end SharedRegistry

/-! ## What an announced log looks like -/

/-- The map a subscriber has after the events. -/
def replayAll (events : List RegistryEvent) : HashMap String CameraDevice :=
  events.foldl RegistryEvent.replay ∅

theorem replayAll_of_announced {events : List RegistryEvent} {m : HashMap String CameraDevice}
    (h : Run Announce ∅ events m) : m = replayAll events := by
  refine h.history (fun events m => m = replayAll events) rfl ?_
  intro events m e m' ih hstep
  unfold replayAll at ih ⊢
  rw [List.foldl_append, ← ih]
  exact hstep.2

/-- Each event of an announced log fits the events before it. -/
theorem follows_of_announced {pre post : List RegistryEvent} {e : RegistryEvent}
    {m : HashMap String CameraDevice} (h : Run Announce ∅ (pre ++ e :: post) m) :
    e.Follows (replayAll pre) := by
  rw [List.append_cons] at h
  obtain ⟨m₁, hpre, _⟩ := h.append_inv
  obtain ⟨m₀, hpre, hstep⟩ := hpre.snoc_inv
  rw [← replayAll_of_announced hpre]
  exact hstep.1

inductive EventKind where
  | added
  | updated
  | removed
  deriving DecidableEq, Repr

def RegistryEvent.kind : RegistryEvent → EventKind
  | .added _ => .added
  | .updated _ => .updated
  | .removed _ => .removed

/-- The kinds of the events about one id, oldest first. -/
def kindsFor (id : String) (events : List RegistryEvent) : List EventKind :=
  (events.filter fun e => e.cameraId = id).map RegistryEvent.kind

/-- From one Added to the next Removed. -/
def round : Language EventKind :=
  {[EventKind.added]} * ({[EventKind.updated]} : Language EventKind)∗ * {[EventKind.removed]}

theorem kstar_snoc {α : Type} {l : Language α} {x y : List α} (hx : x ∈ l∗) (hy : y ∈ l) :
    x ++ y ∈ l∗ := by
  have hle : l∗ * l ≤ l∗ := kstar_mul_le_kstar
  exact hle (Language.append_mem_mul hx hy)

theorem kindsFor_snoc (id : String) (events : List RegistryEvent) (e : RegistryEvent) :
    kindsFor id (events ++ [e]) =
      kindsFor id events ++ if e.cameraId = id then [e.kind] else [] := by
  unfold kindsFor
  rw [List.filter_append, List.map_append]
  by_cases h : e.cameraId = id <;> simp [h]

/-- The events so far about an id, in terms of whether it is registered. -/
structure Rounds (id : String) (events : List RegistryEvent)
    (m : HashMap String CameraDevice) : Prop where
  complete : id ∉ m → kindsFor id events ∈ round∗
  running : id ∈ m → ∃ w ∈ round∗, ∃ u ∈ ({[EventKind.updated]} : Language EventKind)∗,
    kindsFor id events = w ++ EventKind.added :: u

theorem rounds_of_announced (id : String) {events : List RegistryEvent}
    {m : HashMap String CameraDevice} (h : Run Announce ∅ events m) : Rounds id events m := by
  refine h.history (fun events m => Rounds id events m) ⟨fun _ => Language.nil_mem_kstar _,
    fun hid => absurd hid Finmap.notMem_empty⟩ ?_
  intro events m e m' ih hstep
  obtain ⟨hfollows, rfl⟩ := hstep
  by_cases hid : e.cameraId = id
  · subst hid
    have hkinds : kindsFor e.cameraId (events ++ [e]) = kindsFor e.cameraId events ++ [e.kind] := by
      rw [kindsFor_snoc, if_pos rfl]
    cases e with
    | added camera =>
      refine ⟨fun hn => absurd (Finmap.mem_insert.mpr (Or.inl rfl)) hn, fun _ => ?_⟩
      exact ⟨_, ih.complete hfollows, [], Language.nil_mem_kstar _, hkinds⟩
    | updated camera =>
      refine ⟨fun hn => absurd (Finmap.mem_insert.mpr (Or.inl rfl)) hn, fun _ => ?_⟩
      obtain ⟨w, hw, u, hu, he⟩ := ih.running hfollows
      refine ⟨w, hw, u ++ [.updated], kstar_snoc hu (Set.mem_singleton _), ?_⟩
      rw [hkinds, he, List.append_assoc]
      rfl
    | removed id =>
      refine ⟨fun _ => ?_, fun hm => absurd rfl (Finmap.mem_erase.mp hm).1⟩
      obtain ⟨w, hw, u, hu, he⟩ := ih.running hfollows
      have hround : [EventKind.added] ++ u ++ [EventKind.removed] ∈ round :=
        Language.append_mem_mul (Language.append_mem_mul rfl hu) rfl
      rw [hkinds, he, List.append_assoc]
      exact kstar_snoc hw hround
  · have hkinds : kindsFor id (events ++ [e]) = kindsFor id events := by
      rw [kindsFor_snoc, if_neg hid, List.append_nil]
    have hmem := RegistryEvent.mem_replay_ne (m := m) (e := e) (Ne.symm hid)
    exact ⟨fun hn => hkinds ▸ ih.complete (mt hmem.mpr hn),
      fun hm => hkinds ▸ ih.running (hmem.mp hm)⟩

/-- The events about one id are a prefix of a word of complete rounds. -/
theorem Rounds.exists_rest {id : String} {events : List RegistryEvent}
    {m : HashMap String CameraDevice} (h : Rounds id events m) :
    ∃ rest, kindsFor id events ++ rest ∈ round∗ := by
  by_cases hid : id ∈ m
  · obtain ⟨w, hw, u, hu, he⟩ := h.running hid
    refine ⟨[.removed], ?_⟩
    have hround : [EventKind.added] ++ u ++ [EventKind.removed] ∈ round :=
      Language.append_mem_mul (Language.append_mem_mul rfl hu) rfl
    rw [he, List.append_assoc]
    exact kstar_snoc hw hround
  · exact ⟨[], by rw [List.append_nil]; exact h.complete hid⟩

namespace SharedRegistry

/-- **The registry's events are a faithful log.** Any number of callers, any
interleaving, and a subscriber that is present from creation and never lagged: outside
the instants between a write and its send, its events replay to exactly the registry's
map; each event fits the events before it; a removal of an unknown id changes and sends
nothing; and the events about one id are a prefix of `(Added Updated* Removed)*`. -/
theorem registry_log_faithful {capacity : Nat} {labels : List Label} {s : SharedRegistry}
    (h : Run Step (start capacity) labels s) (hlag : ∀ n, .lagged n ∉ labels) :
    (s.Quiet → replayAll s.heard = s.registry.cameras) ∧
    (∀ pre e post, s.heard = pre ++ e :: post → e.Follows (replayAll pre)) ∧
    (∀ caller id t, s.lock = some (caller, .entered (.removeCamera id)) →
      id ∉ s.registry.cameras → Step s (.write caller) t →
      t.registry = s.registry ∧ t.lock = some (caller, .leaving)) ∧
    (∀ id, ∃ rest, kindsFor id s.heard ++ rest ∈ round∗) := by
  obtain ⟨m, hlog, hm⟩ := (linear_of_run h).announced
  have hheard : s.heard = s.registry.tx.sent := by
    unfold heard
    rw [(received_of_run h hlag).holds]
    exact s.registry.tx.seen_append_unread s.next
  rw [← hheard] at hlog
  refine ⟨fun hq => ?_, fun pre e post he => ?_, fun caller id t hlock hid hstep => ?_,
    fun id => (rounds_of_announced id hlog).exists_rest⟩
  · rw [← hm hq]
    exact (replayAll_of_announced hlog).symm
  · rw [he] at hlog
    exact follows_of_announced hlog
  · cases hstep with
    | write hlock' =>
      rw [hlock] at hlock'
      cases hlock'
      have hwrite : (RegistryOp.removeCamera id).write s.registry.cameras =
          (s.registry.cameras, .leaving) := if_neg hid
      rw [hwrite]
      exact ⟨rfl, rfl⟩

/-- One caller adds a camera; another one holds the lock to remove an unknown id. -/
theorem registry_log_faithful_two_callers :
    let camera := CameraDevice.bare "SN-1"
    ∃ s, Run Step (start 64) [.lock 1 (.addCamera camera), .write 1, .send 1,
        .receive (.added camera), .unlock 1, .lock 2 (.removeCamera "SN-2")] s ∧
      s.heard = [.added camera] ∧ replayAll s.heard = s.registry.cameras ∧
      ∃ rest, kindsFor "SN-1" s.heard ++ rest ∈ round∗ := by
  intro camera
  let registry := (CameraRegistry.new 64).addCamera camera
  let s : SharedRegistry := ⟨registry, some (2, .entered (.removeCamera "SN-2")), 1,
    [.added camera]⟩
  have h : Run Step (start 64) [.lock 1 (.addCamera camera), .write 1, .send 1,
      .receive (.added camera), .unlock 1, .lock 2 (.removeCamera "SN-2")] s := by
    refine Run.cons (.lock rfl) (Run.cons (.write rfl) (Run.cons (t := ⟨registry,
      some (1, .leaving), 0, []⟩) (.send (e := .added camera) rfl) (Run.cons (.receive rfl)
        (Run.cons (.unlock rfl) (Run.one (.lock rfl))))))
  obtain ⟨hreplay, _, _, hrounds⟩ := registry_log_faithful h (by simp)
  exact ⟨s, h, rfl, hreplay (by simp [Quiet, s]), hrounds "SN-1"⟩

end SharedRegistry

end MatterBridge.Onvif
