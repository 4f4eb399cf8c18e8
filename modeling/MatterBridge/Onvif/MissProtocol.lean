import MatterBridge.Core.Run
import MatterBridge.Onvif.Discovery
import Mathlib.Data.List.Chain

/-!
# The miss-threshold protocol over whole scan histories

A history is the list of scans so far, each with its connect results and the
events it sent. The miss counter of a tracked camera is its silence in that
history, and a camera is tracked exactly while it is present at the threshold.
-/
namespace MatterBridge.Onvif

open MatterBridge.Core

/-- One finished scan. -/
structure Scan where
  results : List ConnectResult
  events : List DiscoveryEvent

/-- `scanOnce` under some order of the miss loop. -/
def ScanStep (d : Discovery) (scan : Scan) (d' : Discovery) : Prop :=
  ∃ order, (scanOnce d scan.results order).toDiscovery = d' ∧
    (scanOnce d scan.results order).sent = scan.events

/-- The scan reached a device that answered with this id. -/
def Scan.found (id : String) (scan : Scan) : Bool := !(recordsFor id scan.results).isEmpty

/-- Consecutive scans since the camera was last found. -/
abbrev missesOf (id : String) (hist : List Scan) : Nat := silence (Scan.found id) hist

/-- Found in one of the last `missThreshold` scans. -/
abbrev RecentlyFound (id : String) (hist : List Scan) : Prop :=
  Present (Scan.found id) missThreshold hist

theorem ScanStep.track {d d' : Discovery} {scan : Scan} (h : ScanStep d scan d') (id : String) :
    (d'.track id, eventsFor id scan.events) = (d.track id).scan id (recordsFor id scan.results) := by
  obtain ⟨order, rfl, he⟩ := h
  rw [← he]
  exact scanOnce_track d scan.results order id

/-- The maps hold what the history of one camera says. -/
structure Tracks (id : String) (hist : List Scan) (d : Discovery) : Prop where
  record : (d.track id).record.isSome = true ↔ RecentlyFound id hist
  misses : ∀ n, (d.track id).misses = some n ↔
    RecentlyFound id hist ∧ n = missesOf id hist ∧ 1 ≤ n

/-- Reading the counter of a tracked camera, an absent entry counting as zero. -/
theorem Tracks.counter {id : String} {hist : List Scan} {d : Discovery} (h : Tracks id hist d)
    (ht : RecentlyFound id hist) : (d.track id).misses.getD 0 = missesOf id hist := by
  cases hm : (d.track id).misses with
  | some n => exact ((h.misses n).mp hm).2.1
  | none =>
    by_cases hz : missesOf id hist = 0
    · exact hz.symm
    · have hs := (h.misses (missesOf id hist)).mpr ⟨ht, rfl, Nat.one_le_iff_ne_zero.mpr hz⟩
      rw [hm] at hs
      cases hs

theorem tracks_empty (id : String) : Tracks id [] Discovery.empty where
  record := by simp [Discovery.track, Discovery.empty, Finmap.lookup_empty, not_present_nil]
  misses n := by simp [Discovery.track, Discovery.empty, Finmap.lookup_empty, not_present_nil]

/-- The three ways one scan can treat one camera, with the events of each. -/
theorem Tracks.scan_cases {id : String} {hist : List Scan} {d d' : Discovery} {scan : Scan}
    (h : Tracks id hist d) (hs : ScanStep d scan d') :
    (∃ first rest, recordsFor id scan.results = first :: rest ∧
      d'.track id = ⟨some (rest.getLastD first), none⟩ ∧
      eventsFor id scan.events =
        if (d.track id).record.isSome then [] else [.cameraFound first]) ∨
    (recordsFor id scan.results = [] ∧ (d.track id).record = none ∧ d'.track id = d.track id ∧
      eventsFor id scan.events = []) ∨
    (recordsFor id scan.results = [] ∧ RecentlyFound id hist ∧
      missThreshold ≤ missesOf id hist + 1 ∧ d'.track id = ⟨none, none⟩ ∧
      eventsFor id scan.events = [.cameraLost id]) ∨
    (recordsFor id scan.results = [] ∧ RecentlyFound id hist ∧
      missesOf id hist + 1 < missThreshold ∧
      d'.track id = ⟨(d.track id).record, some (missesOf id hist + 1)⟩ ∧
      eventsFor id scan.events = [.cameraUnreachable id]) := by
  obtain ⟨ht, he⟩ := Prod.ext_iff.mp (hs.track id)
  simp only at ht he
  cases hr : recordsFor id scan.results with
  | cons first rest =>
    rw [hr] at ht he
    exact Or.inl ⟨first, rest, rfl, ht, he⟩
  | nil =>
    rw [hr] at ht he
    cases hd : (d.track id).record with
    | none =>
      simp only [Track.scan, hd, Option.isSome_none, Bool.false_eq_true, if_false] at ht he
      exact Or.inr (Or.inl ⟨rfl, rfl, ht, he⟩)
    | some camera =>
      have hp := h.record.mp (by rw [hd]; rfl)
      simp only [Track.scan, hd, Option.isSome_some, if_true, Track.miss, h.counter hp] at ht he
      by_cases hm : missThreshold ≤ missesOf id hist + 1
      · rw [if_pos hm] at ht he
        exact Or.inr (Or.inr (Or.inl ⟨rfl, hp, hm, ht, he⟩))
      · rw [if_neg hm] at ht he
        exact Or.inr (Or.inr (Or.inr ⟨rfl, hp, Nat.lt_of_not_le hm, ht, he⟩))

theorem Scan.found_of_records {id : String} {scan : Scan} {first : CameraDevice}
    {rest : List CameraDevice} (h : recordsFor id scan.results = first :: rest) :
    scan.found id = true := by
  rw [found, h]
  rfl

theorem Scan.not_found_of_records {id : String} {scan : Scan}
    (h : recordsFor id scan.results = []) : scan.found id = false := by
  rw [found, h]
  rfl

theorem Tracks.step {id : String} {hist : List Scan} {d d' : Discovery} {scan : Scan}
    (h : Tracks id hist d) (hs : ScanStep d scan d') : Tracks id (hist ++ [scan]) d' := by
  rcases h.scan_cases hs with ⟨first, rest, hr, ht, _⟩ | ⟨hr, hd, ht, _⟩ | ⟨hr, hp, hm, ht, _⟩ |
    ⟨hr, hp, hm, ht, _⟩
  · have hf := Scan.found_of_records hr
    have hp : RecentlyFound id (hist ++ [scan]) := present_snoc_seen hf (by decide)
    constructor
    · rw [ht]
      exact ⟨fun _ => hp, fun _ => rfl⟩
    · intro n
      have hz : missesOf id (hist ++ [scan]) = 0 := silence_snoc_seen hf
      rw [ht, hz]
      constructor
      · intro hn
        cases hn
      · rintro ⟨_, rfl, hn⟩
        cases hn
  · have hf := Scan.not_found_of_records hr
    have hn : ¬ RecentlyFound id hist := fun hp => by
      have := h.record.mpr hp
      rw [hd] at this
      cases this
    have hn' : ¬ RecentlyFound id (hist ++ [scan]) := fun hp =>
      hn ((present_snoc_unseen hf).mp hp).1
    constructor
    · rw [ht, hd]
      exact ⟨fun hx => (by cases hx), fun hp => absurd hp hn'⟩
    · intro n
      rw [ht, h.misses n]
      exact ⟨fun hx => absurd hx.1 hn, fun hx => absurd hx.1 hn'⟩
  · have hf := Scan.not_found_of_records hr
    have hn' : ¬ RecentlyFound id (hist ++ [scan]) := fun hx =>
      absurd ((present_snoc_unseen hf).mp hx).2 (Nat.not_lt.mpr hm)
    constructor
    · rw [ht]
      exact ⟨fun hx => (by cases hx), fun hp => absurd hp hn'⟩
    · intro n
      rw [ht]
      exact ⟨fun hx => (by cases hx), fun hx => absurd hx.1 hn'⟩
  · have hf := Scan.not_found_of_records hr
    have hp' : RecentlyFound id (hist ++ [scan]) := (present_snoc_unseen hf).mpr ⟨hp, hm⟩
    constructor
    · rw [ht]
      exact ⟨fun _ => hp', fun _ => h.record.mpr hp⟩
    · intro n
      have hz : missesOf id (hist ++ [scan]) = missesOf id hist + 1 := silence_snoc_unseen hf
      rw [ht, hz]
      simp only [Option.some.injEq]
      constructor
      · rintro rfl
        exact ⟨hp', rfl, Nat.le_add_left 1 _⟩
      · rintro ⟨_, rfl, _⟩
        rfl

/-- Every reachable pair of maps is explained by the scan history alone. -/
theorem tracks_of_run {hist : List Scan} {d : Discovery}
    (h : Run ScanStep Discovery.empty hist d) (id : String) : Tracks id hist d :=
  h.history (fun hist d => Tracks id hist d) (tracks_empty id) (fun _ _ _ _ ht hs => ht.step hs)

/-! ## What the receiver sees -/

/-- A scan of one address over maps that hold at most its camera. -/
theorem ScanStep.single {d : Discovery} {camera : CameraDevice}
    (hd : ∀ id, id ∈ d.discovered → id = camera.id) :
    ScanStep d
      ⟨[.ok camera], if camera.id ∈ d.discovered then [] else [.cameraFound camera]⟩
      ⟨d.discovered.insert camera.id camera, d.missedScans.erase camera.id⟩ := by
  have hkeys : ∀ id, id ∈ [camera.id] ↔ id ∈ d.discovered.insert camera.id camera := by
    intro id
    rw [List.mem_singleton, Finmap.mem_insert]
    exact ⟨Or.inl, fun h => h.elim (fun he => he) (hd id)⟩
  have hfound : camera.id ∈ (connectAll d [.ok camera]).foundIds := Finset.mem_insert_self _ _
  refine ⟨⟨[camera.id], List.nodup_singleton _, hkeys⟩, ?_, ?_⟩
  · rw [scanOnce, List.foldl_cons, List.foldl_nil, ScanState.check, if_pos hfound]
    rfl
  · rw [scanOnce, List.foldl_cons, List.foldl_nil, ScanState.check, if_pos hfound]
    simp [connectAll, ScanState.connect, ScanState.start]

theorem ScanStep.first (camera : CameraDevice) :
    ScanStep Discovery.empty ⟨[.ok camera], [.cameraFound camera]⟩
      ⟨(∅ : HashMap _ _).insert camera.id camera, ∅⟩ :=
  ScanStep.single (d := Discovery.empty) fun _ h => absurd h Finmap.notMem_empty

/-- A tracked camera is found again: its record is replaced and nothing is sent. -/
theorem ScanStep.again {old camera : CameraDevice} (h : camera.id = old.id) :
    ScanStep ⟨(∅ : HashMap _ _).insert old.id old, ∅⟩ ⟨[.ok camera], []⟩
      ⟨(∅ : HashMap _ _).insert camera.id camera, ∅⟩ := by
  rw [← h]
  have htracked : camera.id ∈ (∅ : HashMap String CameraDevice).insert camera.id old :=
    Finmap.mem_insert.mpr (Or.inl rfl)
  have honly : ∀ id, id ∈ (∅ : HashMap String CameraDevice).insert camera.id old → id = camera.id :=
    fun id hid =>
      (Finmap.mem_insert.mp hid).elim (fun he => he) fun hid => absurd hid Finmap.notMem_empty
  have hstep := ScanStep.single (d := ⟨(∅ : HashMap _ _).insert camera.id old, ∅⟩) honly
  rwa [if_pos htracked, Finmap.insert_insert] at hstep

/-- The reports one scan sends about one camera, `hist` being the scans before it. -/
structure Reports (id : String) (hist : List Scan) (d : Discovery) (scan : Scan)
    (d' : Discovery) : Prop where
  single : (eventsFor id scan.events).length ≤ 1
  found : (∃ camera, eventsFor id scan.events = [.cameraFound camera]) ↔
    scan.found id = true ∧ id ∉ d.discovered
  unreachable : .cameraUnreachable id ∈ scan.events ↔
    id ∈ d.discovered ∧ scan.found id = false ∧ missesOf id hist + 1 < missThreshold
  lost : .cameraLost id ∈ scan.events ↔
    id ∈ d.discovered ∧ scan.found id = false ∧ missesOf id hist + 1 = missThreshold
  dropped : .cameraLost id ∈ scan.events → id ∉ d'.discovered
  quiet : id ∉ d.discovered → scan.found id = false → eventsFor id scan.events = []

/-- The miss counters between scans. -/
structure Counters (id : String) (hist : List Scan) (d : Discovery) : Prop where
  tracked : id ∈ d.discovered ↔ RecentlyFound id hist
  subset : id ∈ d.missedScans → id ∈ d.discovered
  count : ∀ n, d.missedScans.lookup id = some n →
    n = missesOf id hist ∧ 1 ≤ n ∧ n < missThreshold
  uncounted : id ∈ d.discovered → id ∉ d.missedScans → missesOf id hist = 0

/-- CameraFound is `true`, CameraLost is `false`; other events say nothing about tracking. -/
def DiscoveryEvent.tracking? : DiscoveryEvent → Option Bool
  | .cameraFound _ => some true
  | .cameraLost _ => some false
  | _ => none

/-- The CameraFound and CameraLost events of one camera over a history. -/
def lifecycle (id : String) (hist : List Scan) : List Bool :=
  hist.flatMap fun scan => (eventsFor id scan.events).filterMap DiscoveryEvent.tracking?

/-- Strict alternation that starts with CameraFound. -/
def Alternates (l : List Bool) : Prop := l.IsChain (· ≠ ·) ∧ l.head? ≠ some false

theorem mem_eventsFor {id : String} {events : List DiscoveryEvent} {e : DiscoveryEvent}
    (h : e.cameraId? = some id) : e ∈ events ↔ e ∈ eventsFor id events := by
  simp [eventsFor, h]

/-- A camera is only announced with a record the scan obtained. -/
theorem ScanStep.ok_of_cameraFound {d d' : Discovery} {scan : Scan} (h : ScanStep d scan d')
    {camera : CameraDevice} (hc : .cameraFound camera ∈ scan.events) :
    .ok camera ∈ scan.results := by
  obtain ⟨_, he⟩ := Prod.ext_iff.mp (h.track camera.id)
  simp only at he
  rw [mem_eventsFor rfl, he] at hc
  cases hr : recordsFor camera.id scan.results with
  | nil =>
    rw [hr, Track.scan] at hc
    split at hc
    · rw [Track.miss] at hc
      split at hc <;> simp at hc
    · cases hc
  | cons first rest =>
    have hfirst : first ∈ recordsFor camera.id scan.results := by
      rw [hr]
      exact List.mem_cons_self
    rw [hr, Track.scan] at hc
    split at hc
    · cases hc
    · obtain rfl : camera = first := by simpa using hc
      exact (mem_recordsFor.mp hfirst).1

theorem Discovery.mem_discovered (d : Discovery) (id : String) :
    id ∈ d.discovered ↔ (d.track id).record.isSome = true := Finmap.lookup_isSome.symm

theorem Tracks.reports {id : String} {hist : List Scan} {d d' : Discovery} {scan : Scan}
    (h : Tracks id hist d) (hs : ScanStep d scan d') : Reports id hist d scan d' := by
  have hu : .cameraUnreachable id ∈ scan.events ↔
      .cameraUnreachable id ∈ eventsFor id scan.events := mem_eventsFor rfl
  have hl : .cameraLost id ∈ scan.events ↔
      .cameraLost id ∈ eventsFor id scan.events := mem_eventsFor rfl
  have hd := d.mem_discovered id
  have hd' := d'.mem_discovered id
  have hlt : RecentlyFound id hist → missesOf id hist < missThreshold := fun hp => hp.2
  rcases h.scan_cases hs with ⟨first, rest, hr, ht, he⟩ | ⟨hr, hn, ht, he⟩ | ⟨hr, hp, hm, ht, he⟩ |
    ⟨hr, hp, hm, ht, he⟩
  · have hf := Scan.found_of_records hr
    by_cases hi : (d.track id).record.isSome = true
    · rw [if_pos hi] at he
      constructor <;> simp [hu, hl, he, hf, hd, hi]
    · rw [if_neg hi] at he
      constructor <;> simp [hu, hl, he, hf, hd, hi]
  · have hf := Scan.not_found_of_records hr
    have hi : ¬ (d.track id).record.isSome = true := by rw [hn]; exact Bool.false_ne_true
    constructor <;> simp [hu, hl, he, hf, hd, hi]
  · have hf := Scan.not_found_of_records hr
    have hi := h.record.mpr hp
    have heq : missesOf id hist + 1 = missThreshold := Nat.le_antisymm (hlt hp) hm
    constructor <;> simp [hu, hl, he, hf, hd, hi, heq, hd', ht]
  · have hf := Scan.not_found_of_records hr
    have hi := h.record.mpr hp
    constructor <;> simp [hu, hl, he, hf, hd, hi, hm, Nat.ne_of_lt hm]

theorem Tracks.counters {id : String} {hist : List Scan} {d : Discovery}
    (h : Tracks id hist d) : Counters id hist d where
  tracked := (d.mem_discovered id).trans h.record
  subset hm := by
    obtain ⟨n, hn⟩ := Finmap.mem_iff.mp hm
    exact (d.mem_discovered id).mpr (h.record.mpr ((h.misses n).mp hn).1)
  count n hn := by
    obtain ⟨hp, rfl, hpos⟩ := (h.misses n).mp hn
    exact ⟨rfl, hpos, hp.2⟩
  uncounted hd hm := by
    have hp := h.record.mp ((d.mem_discovered id).mp hd)
    have hc := h.counter hp
    have hnone : (d.track id).misses = none := Finmap.lookup_eq_none.mpr hm
    rw [hnone] at hc
    exact hc.symm

theorem lifecycle_snoc (id : String) (hist : List Scan) (scan : Scan) :
    lifecycle id (hist ++ [scan]) =
      lifecycle id hist ++ (eventsFor id scan.events).filterMap DiscoveryEvent.tracking? := by
  simp [lifecycle]

/-- Alternation, together with the tracking state its last event announces. -/
structure Alternating (id : String) (hist : List Scan) (d : Discovery) : Prop where
  alternates : Alternates (lifecycle id hist)
  last : (lifecycle id hist).getLast? = some true ↔ (d.track id).record.isSome = true

theorem Alternates.snoc {l : List Bool} {b : Bool} (h : Alternates l)
    (hl : l.getLast? = some true ↔ b = false) : Alternates (l ++ [b]) := by
  constructor
  · refine List.isChain_append.mpr ⟨h.1, List.isChain_singleton b, ?_⟩
    intro x hx y hy
    obtain rfl : b = y := by simpa using hy
    rw [Option.mem_def] at hx
    cases x <;> cases b <;> simp_all
  · cases l with
    | nil => cases b <;> simp_all
    | cons a l => simpa using h.2

theorem Alternating.step {id : String} {hist : List Scan} {d d' : Discovery} {scan : Scan}
    (ha : Alternating id hist d) (h : Tracks id hist d) (hs : ScanStep d scan d') :
    Alternating id (hist ++ [scan]) d' := by
  rcases h.scan_cases hs with ⟨first, rest, hr, ht, he⟩ | ⟨hr, hn, ht, he⟩ | ⟨hr, hp, hm, ht, he⟩ |
    ⟨hr, hp, hm, ht, he⟩
  · by_cases hi : (d.track id).record.isSome = true
    · rw [if_pos hi] at he
      have hc : lifecycle id (hist ++ [scan]) = lifecycle id hist := by
        rw [lifecycle_snoc, he]
        exact List.append_nil _
      exact ⟨by rw [hc]; exact ha.alternates, by rw [hc, ha.last, ht, hi]; simp⟩
    · rw [if_neg hi] at he
      have hc : lifecycle id (hist ++ [scan]) = lifecycle id hist ++ [true] := by
        rw [lifecycle_snoc, he]
        rfl
      refine ⟨?_, by rw [hc, ht]; simp⟩
      rw [hc]
      exact ha.alternates.snoc (by rw [ha.last]; simpa using hi)
  · have hc : lifecycle id (hist ++ [scan]) = lifecycle id hist := by
      rw [lifecycle_snoc, he]
      exact List.append_nil _
    exact ⟨by rw [hc]; exact ha.alternates, by rw [hc, ha.last, ht]⟩
  · have hc : lifecycle id (hist ++ [scan]) = lifecycle id hist ++ [false] := by
      rw [lifecycle_snoc, he]
      rfl
    refine ⟨?_, by rw [hc, ht]; simp⟩
    rw [hc]
    exact ha.alternates.snoc (by rw [ha.last, h.record]; simpa using hp)
  · have hc : lifecycle id (hist ++ [scan]) = lifecycle id hist := by
      rw [lifecycle_snoc, he]
      exact List.append_nil _
    exact ⟨by rw [hc]; exact ha.alternates, by rw [hc, ha.last, ht]⟩

theorem alternating_of_run {hist : List Scan} {d : Discovery}
    (h : Run ScanStep Discovery.empty hist d) (id : String) : Alternating id hist d := by
  have hj : Tracks id hist d ∧ Alternating id hist d := by
    refine h.history (fun hist d => Tracks id hist d ∧ Alternating id hist d) ?_ ?_
    · refine ⟨tracks_empty id, ⟨List.isChain_nil, by simp [lifecycle]⟩, ?_⟩
      simp [lifecycle, Discovery.track, Discovery.empty, Finmap.lookup_empty]
    · intro hist d scan d' h hs
      obtain ⟨ht, ha⟩ := h
      exact ⟨ht.step hs, ha.step ht hs⟩
  exact hj.2

/-- **The miss-threshold protocol.** After any history of scans, every further
scan reports exactly the found, unreachable and lost events its misses call for,
the counters are the silences of the tracked cameras, and CameraFound and
CameraLost alternate. -/
theorem miss_threshold_protocol {hist : List Scan} {d : Discovery}
    (h : Run ScanStep Discovery.empty hist d) (id : String) :
    (∀ scan d', ScanStep d scan d' → Reports id hist d scan d') ∧
      Counters id hist d ∧ Alternates (lifecycle id hist) :=
  ⟨fun _ _ hs => (tracks_of_run h id).reports hs, (tracks_of_run h id).counters,
    (alternating_of_run h id).alternates⟩

/-- A camera found once and then missed once: tracked, with one miss counted. -/
theorem miss_threshold_protocol_one_miss :
    let camera := CameraDevice.bare "SN-1"
    let hist : List Scan :=
      [⟨[.ok camera], [.cameraFound camera]⟩, ⟨[.error "refused"], [.cameraUnreachable "SN-1"]⟩]
    Counters "SN-1" hist ⟨(∅ : HashMap _ _).insert "SN-1" camera, (∅ : HashMap _ _).insert "SN-1" 1⟩
      ∧ Alternates (lifecycle "SN-1" hist) := by
  let camera := CameraDevice.bare "SN-1"
  let tracked : Discovery := ⟨(∅ : HashMap _ _).insert "SN-1" camera, ∅⟩
  let missed : Discovery := { tracked with missedScans := (∅ : HashMap _ _).insert "SN-1" 1 }
  have first : ScanStep Discovery.empty ⟨[.ok camera], [.cameraFound camera]⟩ tracked :=
    ScanStep.first camera
  have second : ScanStep tracked ⟨[.error "refused"], [.cameraUnreachable "SN-1"]⟩ missed :=
    ⟨.ofKeys ["SN-1"] (List.nodup_singleton _) (by decide), rfl, rfl⟩
  exact (miss_threshold_protocol (Run.cons first (Run.one second)) "SN-1").2

end MatterBridge.Onvif
