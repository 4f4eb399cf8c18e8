import MatterBridge.Bridge.Intake

/-!
# When the registry holds the freshest record

A scan stores every record it obtains in `discovered` but announces a camera
only when it was not tracked before. The registry therefore follows the
discovered map exactly as long as no scan obtains a changed record for a camera
that is already announced.
-/
namespace MatterBridge.Bridge

open MatterBridge.Core MatterBridge.Onvif

/-- For every camera the scan found, the last record obtained is the one already
announced: the tracked record, or else the first record of this scan. -/
def RecordsKept (d : Discovery) (scan : Scan) : Prop :=
  ∀ id first rest, recordsFor id scan.results = first :: rest →
    rest.getLastD first = (d.discovered.lookup id).getD first

/-- Every scan meets `RecordsKept`; deliveries need no condition. -/
def Intake.KeepsRecords (s : Intake) : Intake.Label → Prop
  | .scan scan => RecordsKept s.disc scan
  | .discovery => True

/-- The drained registry agrees with the discovered map. -/
def Synced (s : Intake) : Prop := s.drained.cameras = s.disc.discovered

/-- From a synced state one scan stays synced exactly when it keeps the records. -/
theorem synced_scan_iff {hist : List Scan} {s t : Intake} {scan : Scan} (hc : Covers hist s)
    (hs : Intake.Step s (.scan scan) t) (h : Synced s) : Synced t ↔ RecordsKept s.disc scan := by
  have hd := hs.drained_scan
  cases hs with
  | @scan _ d' hscan =>
    have hl : ∀ id, (scan.events.foldl onDiscovery s.drained).cameras.lookup id =
        (eventsFor id scan.events).foldl recordEffect (s.disc.track id).record := by
      intro id
      rw [lookup_onDiscoveries, h]
      rfl
    -- Camera by camera, only a found camera can differ: first announced against last stored.
    have hone : ∀ id, (eventsFor id scan.events).foldl recordEffect (s.disc.track id).record =
        (d'.track id).record ↔ ∀ first rest, recordsFor id scan.results = first :: rest →
          rest.getLastD first = ((s.disc.track id).record).getD first := by
      intro id
      rcases (hc.tracks id).scan_cases hscan with ⟨first, rest, hr, ht, he⟩ | ⟨hr, _, ht, he⟩ |
        ⟨hr, _, _, ht, he⟩ | ⟨hr, hp, _, ht, he⟩
      · rw [he, ht, hr]
        cases hrec : (s.disc.track id).record with
        | none =>
          simp only [Option.isSome_none, Bool.false_eq_true, if_false, List.foldl_cons,
            List.foldl_nil, recordEffect, Option.some.injEq, Option.getD_none]
          constructor
          · rintro hf first' rest' hcons
            cases hcons
            exact hf.symm
          · exact fun hf => (hf first rest rfl).symm
        | some old =>
          simp only [Option.isSome_some, if_true, List.foldl_nil, Option.some.injEq,
            Option.getD_some]
          constructor
          · rintro hf first' rest' hcons
            cases hcons
            exact hf.symm
          · exact fun hf => (hf first rest rfl).symm
      · rw [he, ht, hr]
        simp
      · rw [he, ht, hr]
        simp [recordEffect]
      · rw [he, ht, hr]
        simp [recordEffect]
    constructor
    · intro hsync id
      apply (hone id).mp
      rw [← hl, ← hd, hsync]
      rfl
    · intro hk
      apply Finmap.ext_lookup
      intro id
      rw [hd, hl]
      exact (hone id).mpr (hk id)

theorem synced_discovery {s t : Intake} (hs : Intake.Step s .discovery t) (h : Synced s) :
    Synced t := by
  have hd := hs.drained_discovery
  cases hs with
  | discovery he =>
    rw [Synced, hd]
    exact h

theorem synced_of_run {labels : List Intake.Label} {s : Intake}
    (h : Run (Guarded Intake.Step Intake.KeepsRecords) Intake.start labels s) : Synced s := by
  have hj : Covers (Intake.scansOf labels) s ∧ Synced s := by
    refine h.history (fun labels s => Covers (Intake.scansOf labels) s ∧ Synced s)
      ⟨covers_start, rfl⟩ ?_
    intro labels s l t h hstep
    obtain ⟨hc, hsync⟩ := h
    obtain ⟨hs, hk⟩ := hstep
    refine ⟨by rw [Intake.scansOf_append]; exact hc.step hs, ?_⟩
    cases l with
    | scan scan => exact (synced_scan_iff hc hs hsync).mpr hk
    | discovery => exact synced_discovery hs hsync
  exact hj.2

/-- Deliveries alone do not change whether the drained registry is in step. -/
theorem synced_deliveries {n : Nat} {s t : Intake}
    (h : Run Intake.Step s (List.replicate n .discovery) t) : Synced t ↔ Synced s := by
  induction n generalizing t with
  | zero => rw [h.nil_eq]
  | succ n ih =>
    rw [List.replicate_succ'] at h
    obtain ⟨u, hu, hstep⟩ := h.snoc_inv
    rw [← ih hu]
    have hd := hstep.drained_discovery
    cases hstep with
    | discovery he => rw [Synced, Synced, hd]

/-- **Freshness, with its exact condition.** In every run whose scans all keep
the announced records, the registry equals the discovered map whenever the
channel is empty; and the next scan leaves them equal, once its events are
delivered, exactly when it keeps the announced records too. -/
theorem registry_freshest {labels : List Intake.Label} {s : Intake}
    (h : Run (Guarded Intake.Step Intake.KeepsRecords) Intake.start labels s) :
    (s.discoveryRx = [] → s.registry.cameras = s.disc.discovered) ∧
    ∀ (scan : Scan) (t u : Intake) (n : Nat), Intake.Step s (.scan scan) t →
      Run Intake.Step t (List.replicate n .discovery) u → u.discoveryRx = [] →
      (u.registry.cameras = u.disc.discovered ↔ RecordsKept s.disc scan) := by
  have hsync := synced_of_run h
  constructor
  · intro he
    rw [← Intake.drained_of_empty he]
    exact hsync
  · intro scan t u n hstep hdel he
    rw [← Intake.drained_of_empty he]
    exact (synced_deliveries hdel).trans
      (synced_scan_iff (covers_of_run h.unguard) hstep hsync)

/-- One scan that finds a new camera keeps the records and can be delivered. -/
theorem registry_freshest_first_scan :
    let camera := CameraDevice.bare "SN-1"
    let s : Intake := ⟨⟨(∅ : HashMap _ _).insert "SN-1" camera, ∅⟩, [],
      (CameraRegistry.new 64).addCamera camera⟩
    s.registry.cameras = s.disc.discovered := by
  intro camera s
  let sent : Intake := { s with
    discoveryRx := [.cameraFound camera], registry := CameraRegistry.new 64 }
  have scan : Intake.Step Intake.start (.scan ⟨[.ok camera], [.cameraFound camera]⟩) sent :=
    .scan (.first camera)
  have deliver : Intake.Step sent .discovery s :=
    .discovery (s := sent) rfl
  have kept : RecordsKept Intake.start.disc ⟨[.ok camera], [.cameraFound camera]⟩ := by
    intro id first rest h
    simp only [recordsFor, List.filterMap_cons, List.filterMap_nil] at h
    split at h
    · cases h
    · cases h
      rfl
  exact (registry_freshest (Run.cons ⟨scan, kept⟩ (Run.one ⟨deliver, trivial⟩))).1 rfl

/-- A camera comes back at a new address while it is still tracked: the second
scan stores the new record and sends nothing. -/
theorem registry_keeps_stale_record :
    let camera := CameraDevice.bare "SN-1"
    let moved := { camera with host := "10.0.0.9" }
    ∃ s, Run Intake.Step Intake.start
        [.scan ⟨[.ok camera], [.cameraFound camera]⟩, .discovery, .scan ⟨[.ok moved], []⟩] s ∧
      s.discoveryRx = [] ∧ s.registry.cameras ≠ s.disc.discovered := by
  intro camera moved
  let tracked : Discovery := ⟨(∅ : HashMap _ _).insert "SN-1" camera, ∅⟩
  refine ⟨⟨⟨(∅ : HashMap _ _).insert "SN-1" moved, ∅⟩, [],
    (CameraRegistry.new 64).addCamera camera⟩, ?_, rfl, by decide⟩
  let sent : Intake := ⟨tracked, [.cameraFound camera], CameraRegistry.new 64⟩
  refine Run.cons (t := sent) ?_
    (Run.cons (t := ⟨tracked, [], (CameraRegistry.new 64).addCamera camera⟩) ?_ (Run.one ?_))
  · exact .scan (.first camera)
  · exact .discovery (s := sent) rfl
  · exact .scan (ScanStep.again (rfl : moved.id = camera.id))

end MatterBridge.Bridge
