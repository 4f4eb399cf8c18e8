import MatterBridge.Onvif.Addresses
import MatterBridge.Onvif.MissProtocol

/-!
# The discovery task, one await at a time

`run_auto_loop` as the runtime sees it: it sleeps, connects to one device after another,
walks the discovered map and waits for a place in the channel before each event. A scan that
ran to its end, whatever came between its steps, is `scanOnce`.
-/
namespace MatterBridge.Onvif

open MatterBridge.Core

inductive ScanPhase where
  /-- Between two scans. -/
  | sleeping
  /-- In the connect loop; the devices still to be tried. -/
  | connecting (devices : List DeviceAddress)
  /-- In the miss loop; the rest of `ids_to_check`. -/
  | checking (ids : List String)

structure ScanTask extends Discovery where
  phase : ScanPhase
  foundIds : Finset String
  /-- The event that waits in `tx.send`. -/
  sending : Option DiscoveryEvent

namespace ScanTask

/-- As `run_auto_loop` starts; the first scan comes at once. -/
def start : ScanTask := { Discovery.empty with phase := .sleeping, foundIds := ∅, sending := none }

/-- The connect loop's body for one result. -/
def connect (t : ScanTask) : ConnectResult → ScanTask
  | .ok camera =>
    { t with
      discovered := t.discovered.insert camera.id camera
      missedScans := t.missedScans.erase camera.id
      foundIds := insert camera.id t.foundIds
      sending := if camera.id ∈ t.discovered then none else some (.cameraFound camera) }
  | .error _ => t

/-- The miss loop's body for one id. -/
def check (t : ScanTask) (id : String) : ScanTask :=
  if id ∈ t.foundIds then t
  else
    let misses := (t.missedScans.lookup id).getD 0 + 1
    if misses ≥ missThreshold then
      { t with
        discovered := t.discovered.erase id
        missedScans := t.missedScans.erase id
        sending := some (.cameraLost id) }
    else
      { t with
        missedScans := t.missedScans.insert id misses
        sending := some (.cameraUnreachable id) }

inductive Label where
  /-- The probe has returned and is merged with the static list. -/
  | wake (devices : List DeviceAddress)
  | connect (result : ConnectResult)
  | walk
  | check
  | sleep
  | send (e : DiscoveryEvent)

def Label.result? : Label → Option ConnectResult
  | .connect result => some result
  | _ => none

def Label.event? : Label → Option DiscoveryEvent
  | .send e => some e
  | _ => none

inductive Step : ScanTask → Label → ScanTask → Prop
  | wake {t : ScanTask} {devices : List DeviceAddress} : t.phase = .sleeping → t.sending = none →
      Step t (.wake devices) { t with phase := .connecting devices, foundIds := ∅ }
  | connect {t : ScanTask} {device : DeviceAddress} {devices : List DeviceAddress}
      {result : ConnectResult} : t.phase = .connecting (device :: devices) → t.sending = none →
      Step t (.connect result) { t.connect result with phase := .connecting devices }
  | walk {t : ScanTask} (order : t.discovered.Enumeration) : t.phase = .connecting [] →
      t.sending = none → Step t .walk { t with phase := .checking order.keys }
  | check {t : ScanTask} {id : String} {ids : List String} : t.phase = .checking (id :: ids) →
      t.sending = none → Step t .check { t.check id with phase := .checking ids }
  | sleep {t : ScanTask} : t.phase = .checking [] → t.sending = none →
      Step t .sleep { t with phase := .sleeping }
  | send {t : ScanTask} {e : DiscoveryEvent} : t.sending = some e →
      Step t (.send e) { t with sending := none }

/-- Between two scans. -/
structure Asleep (t : ScanTask) : Prop where
  phase : t.phase = .sleeping
  sent : t.sending = none

/-! ## A scan that ran to its end -/

/-- The scan so far, when it has handed over `sent`. -/
def sofar (t : ScanTask) (sent : List DiscoveryEvent) : ScanState :=
  { t.toDiscovery with foundIds := t.foundIds, sent := sent ++ t.sending.toList }

theorem sofar_connect {t : ScanTask} (h : t.sending = none) (sent : List DiscoveryEvent)
    (result : ConnectResult) : (t.connect result).sofar sent = (t.sofar sent).connect result := by
  cases result with
  | error message => rfl
  | ok camera =>
    simp only [connect, sofar, ScanState.connect, h, Option.toList_none, List.append_nil]
    split <;> simp

theorem sofar_check {t : ScanTask} (h : t.sending = none) (sent : List DiscoveryEvent)
    (id : String) : (t.check id).sofar sent = (t.sofar sent).check id := by
  simp only [check, ScanState.check, sofar, h]
  split
  · simp [h]
  · split <;> simp

/-- Where a scan over `d` is when it has got `results` and handed over `events`. -/
def Along (d : Discovery) (results : List ConnectResult) (events : List DiscoveryEvent)
    (t : ScanTask) : Prop :=
  match t.phase with
  | .connecting _ => t.sofar events = connectAll d results
  | .checking ids => ∃ (order : (connectAll d results).discovered.Enumeration)
      (checked : List String), order.keys = checked ++ ids ∧
        t.sofar events = checked.foldl ScanState.check (connectAll d results)
  | .sleeping => t.sending = none ∧ ScanStep d ⟨results, events⟩ t.toDiscovery

variable {d : Discovery} {results : List ConnectResult} {events : List DiscoveryEvent}
  {t u : ScanTask}

theorem Along.connecting (h : Along d results events t) {devices : List DeviceAddress}
    (hp : t.phase = .connecting devices) : t.sofar events = connectAll d results := by
  rw [Along, hp] at h
  exact h

theorem Along.checking (h : Along d results events t) {ids : List String}
    (hp : t.phase = .checking ids) :
    ∃ (order : (connectAll d results).discovered.Enumeration) (checked : List String),
      order.keys = checked ++ ids ∧
        t.sofar events = checked.foldl ScanState.check (connectAll d results) := by
  rw [Along, hp] at h
  exact h

theorem Along.step {l : Label} (h : Along d results events t) (hs : Step t l u)
    (hawake : ¬ t.Asleep) :
    Along d (results ++ l.result?.toList) (events ++ l.event?.toList) u := by
  cases hs with
  | wake hp hn => exact absurd ⟨hp, hn⟩ hawake
  | @connect device devices result hp hn =>
    show sofar (t.connect result) (events ++ []) = connectAll d (results ++ [result])
    rw [List.append_nil, sofar_connect hn, h.connecting hp, connectAll, connectAll,
      List.foldl_append]
    rfl
  | walk order hp hn =>
    have hsofar := h.connecting hp
    have hdisc : t.discovered = (connectAll d results).discovered :=
      congrArg (fun s => s.discovered) hsofar
    show Along d (results ++ []) (events ++ []) _
    rw [List.append_nil, List.append_nil]
    exact ⟨⟨order.keys, order.nodup, fun k => by rw [order.complete, hdisc]⟩, [], rfl, hsofar⟩
  | @check id ids hp hn =>
    obtain ⟨order, checked, hkeys, hsofar⟩ := h.checking hp
    show Along d (results ++ []) (events ++ []) _
    rw [List.append_nil, List.append_nil]
    refine ⟨order, checked ++ [id], by rw [hkeys, List.append_assoc]; rfl, ?_⟩
    show sofar (t.check id) events = _
    rw [sofar_check hn, hsofar, List.foldl_append]
    rfl
  | sleep hp hn =>
    obtain ⟨order, checked, hkeys, hsofar⟩ := h.checking hp
    show Along d (results ++ []) (events ++ []) _
    rw [List.append_nil, List.append_nil]
    rw [List.append_nil] at hkeys
    rw [← hkeys, ← scanOnce] at hsofar
    refine ⟨hn, order, ?_, ?_⟩
    · rw [← hsofar]
      rfl
    · rw [← hsofar, sofar, hn]
      exact List.append_nil events
  | @send e he =>
    -- The event changes hands, and the scan stays where it is.
    have hsame : sofar { t with sending := none } (events ++ [e]) = t.sofar events := by
      simp [sofar, he]
    show Along d (results ++ []) (events ++ [e]) _
    rw [List.append_nil]
    cases hp : t.phase with
    | sleeping =>
      rw [Along, hp, he] at h
      cases h.1
    | connecting devices =>
      exact hsame.trans (h.connecting hp)
    | checking ids =>
      obtain ⟨order, checked, hkeys, hsofar⟩ := h.checking hp
      exact ⟨order, checked, hkeys, hsame.trans hsofar⟩

/-- **A scan that ran to its end is `scanOnce`** over the results of its connects, and
hands over its events in order. -/
theorem scanStep_of_job {devices : List DeviceAddress} {v : ScanTask} {ls : List Label}
    (hwake : Step t (.wake devices) u)
    (h : Run (Guarded Step fun t _ => ¬ t.Asleep) u ls v) (hasleep : v.Asleep) :
    ScanStep t.toDiscovery ⟨ls.filterMap Label.result?, ls.filterMap Label.event?⟩
      v.toDiscovery := by
  have halong : Along t.toDiscovery (ls.filterMap Label.result?) (ls.filterMap Label.event?) v := by
    refine h.history (fun ls v => Along t.toDiscovery (ls.filterMap Label.result?)
      (ls.filterMap Label.event?) v) ?_ ?_
    · cases hwake with
      | wake hp hn =>
        show sofar { t with phase := .connecting devices, foundIds := ∅ } [] = _
        simp [sofar, hn, connectAll, ScanState.start]
    · intro ls v l w hv hstep
      have hw := hv.step hstep.1 hstep.2
      rw [List.filterMap_append, List.filterMap_append]
      cases l <;> exact hw
  rw [Along, hasleep.phase] at halong
  exact halong.2

/-! ## How long a scan can take -/

/-- Steps left in the present scan, and the six that the rest of the bridge may need for
each event of it: at most one event for each device and for each camera in the map. -/
def work (t : ScanTask) : Nat :=
  7 * t.sending.toList.length + match t.phase with
    | .sleeping => 0
    | .connecting devices => 16 * devices.length + 8 * t.discovered.keys.card + 2
    | .checking ids => 8 * ids.length + 1

theorem sending_le (sending : Option DiscoveryEvent) : sending.toList.length ≤ 1 := by
  cases sending <;> simp

theorem work_step {l : Label} (hs : Step t l u) (hl : ∀ devices, l ≠ .wake devices) :
    work u + 6 * l.event?.toList.length + 1 ≤ work t := by
  cases hs with
  | wake _ _ => exact absurd rfl (hl _)
  | @connect device devices result hp hn =>
    have hsend := sending_le (t.connect result).sending
    have hcard : (t.connect result).discovered.keys.card ≤ t.discovered.keys.card + 1 := by
      cases result with
      | error message => exact Nat.le_succ _
      | ok camera => exact HashMap.card_keys_insert_le _ _ _
    simp only [work, hp, hn, List.length_cons, Label.event?, Option.toList_none, List.length_nil]
    omega
  | walk order hp hn =>
    have hlen := order.length_keys
    simp only [work, hp, hn, Label.event?, Option.toList_none, List.length_nil]
    omega
  | @check id ids hp hn =>
    have hsend := sending_le (t.check id).sending
    simp only [work, hp, hn, List.length_cons, Label.event?, Option.toList_none, List.length_nil]
    omega
  | sleep hp hn =>
    simp only [work, hp, hn, Label.event?, Option.toList_none, List.length_nil]
    omega
  | send he =>
    simp only [work, he, Label.event?, Option.toList_some, List.length_singleton,
      Option.toList_none, List.length_nil]
    omega

/-- A scan in progress always has a next step: a connect ends, one way or the other. -/
theorem exists_step (h : ¬ t.Asleep) : ∃ l u, Step t l u ∧ ∀ devices, l ≠ .wake devices := by
  cases hs : t.sending with
  | some e => exact ⟨_, _, .send hs, fun _ he => by cases he⟩
  | none =>
    cases hp : t.phase with
    | sleeping => exact absurd ⟨hp, hs⟩ h
    | connecting devices =>
      cases devices with
      | nil =>
        obtain ⟨order⟩ := HashMap.Enumeration.exists t.discovered
        exact ⟨_, _, .walk order hp hs, fun _ he => by cases he⟩
      | cons device devices =>
        have hstep : Step t (.connect (.error "refused")) _ := .connect hp hs
        exact ⟨_, _, hstep, fun _ he => by cases he⟩
    | checking ids =>
      cases ids with
      | nil => exact ⟨_, _, .sleep hp hs, fun _ he => by cases he⟩
      | cons id ids => exact ⟨_, _, .check hp hs, fun _ he => by cases he⟩

/-- So every scan in progress can end. -/
theorem exists_finish (t : ScanTask) :
    ∃ ls u, Run (Guarded Step fun t _ => ¬ t.Asleep) t ls u ∧ u.Asleep := by
  induction hk : t.work using Nat.strong_induction_on generalizing t with
  | h k ih =>
    by_cases hawake : t.Asleep
    · exact ⟨[], t, Run.refl, hawake⟩
    · obtain ⟨l, u, hstep, hl⟩ := exists_step hawake
      have hlt := work_step hstep hl
      obtain ⟨ls, v, hrun, hv⟩ := ih u.work (by omega) u rfl
      exact ⟨l :: ls, v, Run.cons ⟨hstep, hawake⟩ hrun, hv⟩

end ScanTask

end MatterBridge.Onvif
