import MatterBridge.Core.HashMap
import MatterBridge.Core.Silence
import MatterBridge.Onvif.Registry

/-!
# One discovery scan

`scanOnce` connects to every address in turn, then walks the discovered map to
count misses. The connect results and the order of that walk come from outside.
Seen from one camera the scan is the small machine `track`: it depends on that
camera's own entries and results only, and not on any order across cameras.
-/
namespace MatterBridge.Onvif

open MatterBridge.Core

/-- Consecutive missed scans before a camera is considered lost. -/
def missThreshold : Nat := 3

inductive DiscoveryEvent where
  | cameraFound (camera : CameraDevice)
  | cameraLost (id : String)
  | cameraUnreachable (id : String)
  | error (message : String)
  deriving DecidableEq, Repr

def DiscoveryEvent.cameraId? : DiscoveryEvent → Option String
  | .cameraFound camera => some camera.id
  | .cameraLost id => some id
  | .cameraUnreachable id => some id
  | .error _ => none

/-- What one `connect_camera` call returned. -/
abbrev ConnectResult := Except String CameraDevice

/-- The maps that live across scans. -/
structure Discovery where
  discovered : HashMap String CameraDevice
  missedScans : HashMap String Nat

def Discovery.empty : Discovery := ⟨∅, ∅⟩

/-- The state inside one scan: the maps, the ids found so far, the events sent. -/
structure ScanState extends Discovery where
  foundIds : Finset String
  sent : List DiscoveryEvent

namespace ScanState

def start (d : Discovery) : ScanState := { d with foundIds := ∅, sent := [] }

/-- The connect loop's body. A failed connect is only logged. -/
def connect (s : ScanState) : ConnectResult → ScanState
  | .ok camera =>
    { discovered := s.discovered.insert camera.id camera
      missedScans := s.missedScans.erase camera.id
      foundIds := insert camera.id s.foundIds
      sent := if camera.id ∈ s.discovered then s.sent else s.sent ++ [.cameraFound camera] }
  | .error _ => s

/-- The miss loop's body for one id of the discovered map. -/
def check (s : ScanState) (id : String) : ScanState :=
  if id ∈ s.foundIds then s
  else
    let misses := (s.missedScans.lookup id).getD 0 + 1
    if misses ≥ missThreshold then
      { s with
        discovered := s.discovered.erase id
        missedScans := s.missedScans.erase id
        sent := s.sent ++ [.cameraLost id] }
    else
      { s with
        missedScans := s.missedScans.insert id misses
        sent := s.sent ++ [.cameraUnreachable id] }

end ScanState

/-- The state after the connect loop. -/
def connectAll (d : Discovery) (results : List ConnectResult) : ScanState :=
  results.foldl ScanState.connect (ScanState.start d)

/-- One scan; `order` is the order in which the miss loop meets the ids. -/
def scanOnce (d : Discovery) (results : List ConnectResult)
    (order : (connectAll d results).discovered.Enumeration) : ScanState :=
  order.keys.foldl ScanState.check (connectAll d results)

/-! ## One camera's share of a scan -/

/-- The records a scan obtained for one id, in connect order. -/
def recordsFor (id : String) (results : List ConnectResult) : List CameraDevice :=
  results.filterMap fun
    | .ok camera => if camera.id = id then some camera else none
    | .error _ => none

theorem mem_recordsFor {id : String} {results : List ConnectResult} {camera : CameraDevice} :
    camera ∈ recordsFor id results ↔ .ok camera ∈ results ∧ camera.id = id := by
  rw [recordsFor, List.mem_filterMap]
  constructor
  · rintro ⟨r, hr, hc⟩
    cases r with
    | error => cases hc
    | ok c =>
      simp only [Option.ite_none_right_eq_some, Option.some.injEq] at hc
      obtain ⟨hid, rfl⟩ := hc
      exact ⟨hr, hid⟩
  · rintro ⟨hr, hid⟩
    exact ⟨.ok camera, hr, if_pos hid⟩

/-- The events about one id. -/
def eventsFor (id : String) (events : List DiscoveryEvent) : List DiscoveryEvent :=
  events.filter fun e => e.cameraId? = some id

theorem eventsFor_cons (id : String) (e : DiscoveryEvent) (es : List DiscoveryEvent) :
    eventsFor id (e :: es) =
      if e.cameraId? = some id then e :: eventsFor id es else eventsFor id es := by
  rw [eventsFor, List.filter_cons]
  simp only [decide_eq_true_eq]
  rfl

/-- One camera's entries in the two maps. -/
structure Track where
  record : Option CameraDevice
  misses : Option Nat
  deriving DecidableEq, Repr

def Discovery.track (d : Discovery) (id : String) : Track :=
  ⟨d.discovered.lookup id, d.missedScans.lookup id⟩

/-- A tracked camera that no connect of this scan reached. -/
def Track.miss (t : Track) (id : String) : Track × List DiscoveryEvent :=
  if t.misses.getD 0 + 1 ≥ missThreshold then (⟨none, none⟩, [.cameraLost id])
  else ({ t with misses := some (t.misses.getD 0 + 1) }, [.cameraUnreachable id])

/-- One scan as seen by one camera. -/
def Track.scan (t : Track) (id : String) (records : List CameraDevice) :
    Track × List DiscoveryEvent :=
  match records with
  | first :: rest =>
    (⟨some (rest.getLastD first), none⟩, if t.record.isSome then [] else [.cameraFound first])
  | [] => if t.record.isSome then t.miss id else (t, [])

namespace ScanState

theorem connect_lookup (s : ScanState) (r : ConnectResult) (id : String) :
    (s.connect r).toDiscovery.track id = match recordsFor id [r] with
      | [] => s.toDiscovery.track id
      | camera :: _ => ⟨some camera, none⟩ := by
  cases r with
  | error => rfl
  | ok camera =>
    by_cases h : camera.id = id
    · subst h
      simp [connect, recordsFor, Discovery.track, Finmap.lookup_insert, Finmap.lookup_erase]
    · have h' : id ≠ camera.id := fun he => h he.symm
      simp [connect, recordsFor, Discovery.track, h, Finmap.lookup_insert_of_ne _ h',
        Finmap.lookup_erase_ne h']

theorem connect_found (s : ScanState) (r : ConnectResult) (id : String) :
    id ∈ (s.connect r).foundIds ↔ id ∈ s.foundIds ∨ recordsFor id [r] ≠ [] := by
  cases r with
  | error => simp [connect, recordsFor]
  | ok camera =>
    by_cases h : camera.id = id
    · simp [connect, recordsFor, h]
    · have h' : id ≠ camera.id := fun he => h he.symm
      simp [connect, recordsFor, h, h']

theorem connect_sent (s : ScanState) (r : ConnectResult) (id : String) :
    eventsFor id (s.connect r).sent = eventsFor id s.sent ++
      if (s.discovered.lookup id).isSome then []
      else (recordsFor id [r]).map DiscoveryEvent.cameraFound := by
  cases r with
  | error => simp [connect, recordsFor]
  | ok camera =>
    by_cases h : camera.id = id
    · subst h
      by_cases hd : camera.id ∈ s.discovered
      · simp [connect, hd, Finmap.lookup_isSome]
      · simp [connect, recordsFor, hd, Finmap.lookup_isSome, eventsFor,
          DiscoveryEvent.cameraId?]
    · simp only [connect, recordsFor, List.filterMap_cons, h, if_false, List.filterMap_nil,
        List.map_nil, ite_self, List.append_nil]
      split
      · rfl
      · simp [eventsFor, DiscoveryEvent.cameraId?, h]

end ScanState

theorem recordsFor_cons (id : String) (r : ConnectResult) (rs : List ConnectResult) :
    recordsFor id (r :: rs) = recordsFor id [r] ++ recordsFor id rs := by
  rw [← List.singleton_append, recordsFor, List.filterMap_append]
  rfl

theorem recordsFor_singleton (id : String) (r : ConnectResult) :
    recordsFor id [r] = [] ∨ ∃ camera, recordsFor id [r] = [camera] := by
  cases r with
  | error => exact Or.inl rfl
  | ok camera =>
    by_cases h : camera.id = id
    · exact Or.inr ⟨camera, by simp [recordsFor, h]⟩
    · exact Or.inl (by simp [recordsFor, h])

namespace ScanState

/-- The connect loop: the last record found for `id` is kept, the first one is
announced if the camera was not tracked. -/
theorem connects_track (s : ScanState) (results : List ConnectResult) (id : String) :
    (results.foldl connect s).toDiscovery.track id = match recordsFor id results with
      | [] => s.toDiscovery.track id
      | first :: rest => ⟨some (rest.getLastD first), none⟩ := by
  induction results generalizing s with
  | nil => rfl
  | cons r rs ih =>
    rw [List.foldl_cons, ih, recordsFor_cons, connect_lookup]
    rcases recordsFor_singleton id r with h | ⟨camera, h⟩
    · simp only [h, List.nil_append]
    · simp only [h, List.singleton_append]
      cases recordsFor id rs with
      | nil => rfl
      | cons first rest => simp only [List.getLastD_cons]

theorem connects_found (s : ScanState) (results : List ConnectResult) (id : String) :
    id ∈ (results.foldl connect s).foundIds ↔ id ∈ s.foundIds ∨ recordsFor id results ≠ [] := by
  induction results generalizing s with
  | nil => simp [recordsFor]
  | cons r rs ih =>
    rw [List.foldl_cons, ih, recordsFor_cons, connect_found, or_assoc]
    simp only [ne_eq, List.append_eq_nil_iff]
    tauto

theorem connects_sent (s : ScanState) (results : List ConnectResult) (id : String) :
    eventsFor id (results.foldl connect s).sent = eventsFor id s.sent ++
      if (s.discovered.lookup id).isSome then []
      else ((recordsFor id results).take 1).map DiscoveryEvent.cameraFound := by
  induction results generalizing s with
  | nil => simp [recordsFor]
  | cons r rs ih =>
    have hd : (s.connect r).discovered.lookup id = match recordsFor id [r] with
        | [] => s.discovered.lookup id
        | camera :: _ => some camera := by
      have h := congrArg Track.record (connect_lookup s r id)
      rw [show (s.connect r).discovered.lookup id =
        ((s.connect r).toDiscovery.track id).record from rfl, h]
      cases recordsFor id [r] <;> rfl
    rw [List.foldl_cons, ih, recordsFor_cons, connect_sent, List.append_assoc, hd]
    rcases recordsFor_singleton id r with h | ⟨camera, h⟩
    · simp [h]
    · cases (s.discovered.lookup id).isSome <;> simp [h]

@[simp] theorem foundIds_check (s : ScanState) (k : String) :
    (s.check k).foundIds = s.foundIds := by
  simp only [check]
  split
  · rfl
  · split <;> rfl

theorem check_of_found {s : ScanState} {k : String} (h : k ∈ s.foundIds) : s.check k = s :=
  if_pos h

theorem check_ne (s : ScanState) {id k : String} (h : id ≠ k) :
    (s.check k).toDiscovery.track id = s.toDiscovery.track id ∧
      eventsFor id (s.check k).sent = eventsFor id s.sent := by
  have h' : ¬ k = id := fun he => h he.symm
  simp only [check]
  split
  · exact ⟨rfl, rfl⟩
  · split <;>
      simp [Discovery.track, Finmap.lookup_erase_ne h, Finmap.lookup_insert_of_ne _ h, eventsFor,
        DiscoveryEvent.cameraId?, h']

theorem check_miss {s : ScanState} {id : String} (h : id ∉ s.foundIds) :
    (s.check id).toDiscovery.track id = ((s.toDiscovery.track id).miss id).1 ∧
      eventsFor id (s.check id).sent =
        eventsFor id s.sent ++ ((s.toDiscovery.track id).miss id).2 := by
  by_cases hm : missThreshold ≤ (s.missedScans.lookup id).getD 0 + 1
  · simp [check, h, hm, Track.miss, Discovery.track, Finmap.lookup_erase, eventsFor,
      DiscoveryEvent.cameraId?]
  · simp [check, h, hm, Track.miss, Discovery.track, Finmap.lookup_insert, eventsFor,
      DiscoveryEvent.cameraId?]

/-- The miss loop leaves a camera alone that it does not meet or that was found. -/
theorem checks_skip (s : ScanState) (keys : List String) {id : String}
    (h : id ∉ keys ∨ id ∈ s.foundIds) :
    (keys.foldl check s).toDiscovery.track id = s.toDiscovery.track id ∧
      eventsFor id (keys.foldl check s).sent = eventsFor id s.sent := by
  induction keys generalizing s with
  | nil => exact ⟨rfl, rfl⟩
  | cons k ks ih =>
    rw [List.foldl_cons]
    have hks : id ∉ ks ∨ id ∈ (s.check k).foundIds := by
      rw [foundIds_check]
      exact h.imp_left (fun hn hm => hn (List.mem_cons_of_mem _ hm))
    obtain ⟨ht, he⟩ := ih (s.check k) hks
    by_cases hk : id = k
    · subst hk
      have hf := h.resolve_left (fun hn => hn List.mem_cons_self)
      rw [check_of_found hf] at ht he ⊢
      exact ⟨ht, he⟩
    · obtain ⟨ht', he'⟩ := s.check_ne hk
      exact ⟨ht.trans ht', he.trans he'⟩

/-- It counts one miss for each unfound camera it meets, whatever the order. -/
theorem checks_miss (s : ScanState) {keys : List String} (hn : keys.Nodup) {id : String}
    (hid : id ∈ keys) (hf : id ∉ s.foundIds) :
    (keys.foldl check s).toDiscovery.track id = ((s.toDiscovery.track id).miss id).1 ∧
      eventsFor id (keys.foldl check s).sent =
        eventsFor id s.sent ++ ((s.toDiscovery.track id).miss id).2 := by
  induction keys generalizing s with
  | nil => cases hid
  | cons k ks ih =>
    obtain ⟨hk, hks⟩ := List.nodup_cons.mp hn
    rw [List.foldl_cons]
    by_cases he : id = k
    · subst he
      obtain ⟨ht, hs⟩ := check_miss hf
      obtain ⟨ht', hs'⟩ := (s.check id).checks_skip ks (Or.inl hk)
      exact ⟨ht'.trans ht, hs'.trans hs⟩
    · have hid' := (List.mem_cons.mp hid).resolve_left he
      obtain ⟨ht, hs⟩ := s.check_ne he
      obtain ⟨ht', hs'⟩ := ih (s.check k) hks hid' (by rwa [foundIds_check])
      rw [ht', hs', ht, hs]
      exact ⟨rfl, rfl⟩

end ScanState

/-- **A scan treats cameras independently.** What it does to one camera's
entries, and the events it sends about it, are `Track.scan` of that camera's
old entries and records, whatever the other cameras do and in whatever order
the miss loop runs. -/
theorem scanOnce_track (d : Discovery) (results : List ConnectResult)
    (order : (connectAll d results).discovered.Enumeration) (id : String) :
    ((scanOnce d results order).toDiscovery.track id, eventsFor id (scanOnce d results order).sent)
      = (d.track id).scan id (recordsFor id results) := by
  have hf : id ∈ (connectAll d results).foundIds ↔ recordsFor id results ≠ [] := by
    have h := ScanState.connects_found (ScanState.start d) results id
    simp only [ScanState.start, Finset.notMem_empty, false_or] at h
    exact h
  have hc : (connectAll d results).toDiscovery.track id = match recordsFor id results with
      | [] => d.track id
      | first :: rest => ⟨some (rest.getLastD first), none⟩ :=
    ScanState.connects_track (ScanState.start d) results id
  have hs : eventsFor id (connectAll d results).sent =
      if (d.discovered.lookup id).isSome then []
      else ((recordsFor id results).take 1).map DiscoveryEvent.cameraFound :=
    ScanState.connects_sent (ScanState.start d) results id
  have hmem : id ∈ order.keys ↔
      ((connectAll d results).toDiscovery.track id).record.isSome = true := by
    rw [order.complete, ← Finmap.lookup_isSome]
    rfl
  rw [Prod.ext_iff]
  cases hr : recordsFor id results with
  | cons first rest =>
    obtain ⟨ht, he⟩ := ScanState.checks_skip (connectAll d results) order.keys
      (Or.inr (hf.mpr (by rw [hr]; exact List.cons_ne_nil _ _)))
    rw [hr] at hc hs
    exact ⟨ht.trans hc, he.trans hs⟩
  | nil =>
    rw [hr] at hc hs hf
    rw [hc] at hmem
    cases hd : (d.track id).record with
    | none =>
      obtain ⟨ht, he⟩ := ScanState.checks_skip (connectAll d results) order.keys
        (Or.inl (fun h => by simp [hd] at hmem; exact hmem h))
      refine ⟨ht.trans (hc.trans ?_), he.trans (hs.trans ?_)⟩
      · simp [Track.scan, hd]
      · simp [Track.scan, hd]
    | some camera =>
      obtain ⟨ht, he⟩ := ScanState.checks_miss (connectAll d results) order.nodup
        (hmem.mpr (by rw [hd]; rfl)) (fun h => hf.mp h rfl)
      rw [hc] at ht he
      rw [hs] at he
      refine ⟨ht.trans ?_, he.trans ?_⟩
      · simp [Track.scan, hd]
      · simp [Track.scan, hd]

end MatterBridge.Onvif
