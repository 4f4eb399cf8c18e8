import MatterBridge.Core.Str
import MatterBridge.Onvif.Discovery

/-!
# The addresses a scan connects to

Static mode connects to the configured list as it stands. Auto mode merges it
with the probed devices in a map keyed by hostname, where the first entry stays;
the map's iteration order is the order of the connects. Both loops log what they
try, which is what the two modes are compared on.
-/
namespace MatterBridge.Onvif

open MatterBridge.Core

/-- A host:port pair for an ONVIF device. -/
@[ext]
structure DeviceAddress where
  hostname : String
  port : UInt16
  deriving DecidableEq, Repr

def parsePort (text : String) : Option UInt16 := (Str.parseUnsigned 16 text).map UInt16.ofNat

/-- One entry of the static list; `parts[0]` exists since `splitn` gives a part. -/
def parseStaticCamera (entry : String) : DeviceAddress :=
  let parts := Str.splitn 2 ':' entry
  { hostname := parts.head?.getD ""
    port := (parts[1]?.bind parsePort).getD 80 }

def parseStaticCameras (entries : List String) : List DeviceAddress :=
  (entries.filter fun s => s ≠ "").map parseStaticCamera

example : parseStaticCameras ["10.0.0.5:2020", "", "10.0.0.6", "10.0.0.7:x"] =
    [⟨"10.0.0.5", 2020⟩, ⟨"10.0.0.6", 80⟩, ⟨"10.0.0.7", 80⟩] := by decide

theorem parsePort_toString (port : UInt16) : parsePort (toString port.toNat) = some port := by
  rw [parsePort, Str.parseUnsigned_toString port.toNat_lt, Option.map_some, UInt16.ofNat_toNat]

/-- A written address is read back. -/
theorem parseStaticCamera_text {device : DeviceAddress} (h : ':' ∉ device.hostname.toList) :
    parseStaticCamera (device.hostname ++ ":" ++ toString device.port.toNat) = device := by
  have hsplit : Str.splitOnce ':' (device.hostname ++ ":" ++ toString device.port.toNat) =
      some (device.hostname, toString device.port.toNat) :=
    Str.splitOnce_append h (by simp)
  simp only [parseStaticCamera, Str.splitn, hsplit, List.head?_cons, List.getElem?_cons_succ,
    List.getElem?_cons_zero, Option.bind_some, parsePort_toString, Option.getD_some]

/-- What the URL crate reads from a URL that parses. -/
structure ParsedUrl where
  hostStr : Option String
  port : Option UInt16

/-- The addresses of the probed devices, read from the first XAddr of each; `parse` is
`Url::parse`. -/
def probe (parse : String → Option ParsedUrl) (found : List (List String)) : List DeviceAddress :=
  found.filterMap fun xaddrs => do
    let xaddr ← xaddrs.head?
    let url ← parse xaddr
    return { hostname := url.hostStr.getD "", port := url.port.getD 80 }

/-! ## Merging -/

/-- The `seen` map of `merge_devices` once both lists are in. -/
def seenDevices (probed staticDevices : List DeviceAddress) : HashMap String DeviceAddress :=
  let seen := staticDevices.foldl
    (fun seen device => HashMap.orInsert seen device.hostname device) ∅
  probed.foldl (fun seen device => HashMap.orInsert seen device.hostname device) seen

/-- `order` is the order in which `into_values` walks the map. -/
def mergeDevices (probed staticDevices : List DeviceAddress)
    (order : (seenDevices probed staticDevices).Enumeration) : List DeviceAddress :=
  order.keys.filterMap (seenDevices probed staticDevices).lookup

/-- The first device of a list with the hostname. -/
def firstWith (hostname : String) (devices : List DeviceAddress) : Option DeviceAddress :=
  devices.find? fun device => device.hostname = hostname

theorem hostname_of_firstWith {hostname : String} {devices : List DeviceAddress}
    {device : DeviceAddress} (h : firstWith hostname devices = some device) :
    device ∈ devices ∧ device.hostname = hostname := by
  have hh := List.find?_some h
  exact ⟨List.mem_of_find?_eq_some h, of_decide_eq_true hh⟩

theorem firstWith_isSome {hostname : String} {devices : List DeviceAddress} :
    (firstWith hostname devices).isSome ↔ ∃ device ∈ devices, device.hostname = hostname := by
  rw [firstWith, List.find?_isSome]
  simp only [decide_eq_true_eq]

/-- Static entries take priority, and the first of each list wins. -/
theorem lookup_seenDevices (probed staticDevices : List DeviceAddress) (hostname : String) :
    (seenDevices probed staticDevices).lookup hostname =
      (firstWith hostname staticDevices).or (firstWith hostname probed) := by
  rw [seenDevices, HashMap.lookup_foldl_orInsert, HashMap.lookup_foldl_orInsert,
    Finmap.lookup_empty, Option.none_or]
  rfl

theorem hostname_of_seenDevices {probed staticDevices : List DeviceAddress} {hostname : String}
    {device : DeviceAddress}
    (h : (seenDevices probed staticDevices).lookup hostname = some device) :
    device.hostname = hostname := by
  rw [lookup_seenDevices] at h
  rcases Option.or_eq_some_iff.mp h with h | ⟨_, h⟩
  · exact (hostname_of_firstWith h).2
  · exact (hostname_of_firstWith h).2

/-- Membership does not depend on the iteration order. -/
theorem mem_mergeDevices {probed staticDevices : List DeviceAddress}
    {order : (seenDevices probed staticDevices).Enumeration} {device : DeviceAddress} :
    device ∈ mergeDevices probed staticDevices order ↔
      (firstWith device.hostname staticDevices).or (firstWith device.hostname probed) =
        some device := by
  rw [mergeDevices, List.mem_filterMap, ← lookup_seenDevices]
  constructor
  · rintro ⟨hostname, _, hl⟩
    rwa [hostname_of_seenDevices hl]
  · intro hl
    refine ⟨device.hostname, (order.complete _).mpr ?_, hl⟩
    exact Finmap.lookup_isSome.mp (by rw [hl]; rfl)

theorem hostnames_mergeDevices (probed staticDevices : List DeviceAddress)
    (order : (seenDevices probed staticDevices).Enumeration) :
    (mergeDevices probed staticDevices order).map DeviceAddress.hostname = order.keys := by
  have hkeys : ∀ k ∈ order.keys, ((seenDevices probed staticDevices).lookup k).map
      DeviceAddress.hostname = some k := by
    intro k hk
    obtain ⟨device, hd⟩ := Option.isSome_iff_exists.mp
      (Finmap.lookup_isSome.mpr ((order.complete k).mp hk))
    rw [hd, Option.map_some, hostname_of_seenDevices hd]
  rw [mergeDevices, List.map_filterMap]
  calc order.keys.filterMap _ = order.keys.filterMap some := List.filterMap_congr hkeys
    _ = order.keys := List.filterMap_some

/-- Distinct hostnames make the order of the devices irrelevant. -/
theorem firstWith_perm {devices devices' : List DeviceAddress} (h : devices.Perm devices')
    (hn : (devices.map DeviceAddress.hostname).Nodup) (hostname : String) :
    firstWith hostname devices' = firstWith hostname devices := by
  have hn' := (h.map DeviceAddress.hostname).nodup_iff.mp hn
  apply Option.ext
  intro device
  rw [firstWith, firstWith, HashMap.find?_key_eq_some hn', HashMap.find?_key_eq_some hn, h.mem_iff]

/-- The probed devices on hosts the static list does not name. -/
def unconfigured (staticDevices probed : List DeviceAddress) : List DeviceAddress :=
  probed.filter fun device => device.hostname ∉ staticDevices.map DeviceAddress.hostname

/-- On other hosts only the unconfigured probed devices matter. -/
theorem firstWith_unconfigured {staticDevices : List DeviceAddress} {hostname : String}
    (h : firstWith hostname staticDevices = none) (probed : List DeviceAddress) :
    firstWith hostname probed = firstWith hostname (unconfigured staticDevices probed) := by
  have hout : hostname ∉ staticDevices.map DeviceAddress.hostname := by
    intro hm
    obtain ⟨device, hd, hh⟩ := List.mem_map.mp hm
    have hsome := firstWith_isSome.mpr ⟨device, hd, hh⟩
    rw [h] at hsome
    cases hsome
  rw [unconfigured, firstWith, firstWith, List.find?_filter]
  congr 1
  funext device
  by_cases hh : device.hostname = hostname
  · simp only [hh, hout, not_false_eq_true, and_self, decide_true]
  · simp [hh]

/-- **The merge is first-wins with static priority.** No hostname occurs twice,
the hostnames are those of either list, and each entry is the first static one of
its hostname or else the first probed one, in every iteration order. Reordering
probed devices with distinct hostnames changes nothing, and neither does anything
probed on a configured host. -/
theorem mergeDevices_spec (probed staticDevices : List DeviceAddress)
    (order : (seenDevices probed staticDevices).Enumeration) :
    ((mergeDevices probed staticDevices order).map DeviceAddress.hostname).Nodup ∧
    (∀ hostname, hostname ∈ (mergeDevices probed staticDevices order).map DeviceAddress.hostname ↔
      ∃ device, (device ∈ probed ∨ device ∈ staticDevices) ∧ device.hostname = hostname) ∧
    (∀ hostname device, device ∈ mergeDevices probed staticDevices order ∧
        device.hostname = hostname ↔
      (firstWith hostname staticDevices).or (firstWith hostname probed) = some device) ∧
    (∀ probed' order', probed.Perm probed' → (probed.map DeviceAddress.hostname).Nodup →
      ∀ device, device ∈ mergeDevices probed' staticDevices order' ↔
        device ∈ mergeDevices probed staticDevices order) ∧
    (∀ probed' order', unconfigured staticDevices probed' = unconfigured staticDevices probed →
      ∀ device, device ∈ mergeDevices probed' staticDevices order' ↔
        device ∈ mergeDevices probed staticDevices order) := by
  refine ⟨?_, ?_, ?_, ?_, ?_⟩
  · rw [hostnames_mergeDevices]
    exact order.nodup
  · intro hostname
    rw [hostnames_mergeDevices, order.complete, ← Finmap.lookup_isSome, lookup_seenDevices,
      Option.isSome_or, Bool.or_eq_true, firstWith_isSome, firstWith_isSome]
    simp only [or_and_right, exists_or]
    exact or_comm
  · intro hostname device
    rw [mem_mergeDevices]
    constructor
    · rintro ⟨hd, rfl⟩
      exact hd
    · intro hd
      have hh : device.hostname = hostname :=
        hostname_of_seenDevices ((lookup_seenDevices probed staticDevices hostname).trans hd)
      exact ⟨by rwa [hh], hh⟩
  · intro probed' order' hp hn device
    rw [mem_mergeDevices, mem_mergeDevices, firstWith_perm hp hn]
  · intro probed' order' hu device
    rw [mem_mergeDevices, mem_mergeDevices]
    cases hs : firstWith device.hostname staticDevices with
    | none => rw [firstWith_unconfigured hs probed', firstWith_unconfigured hs probed, hu]
    | some d => rw [Option.some_or, Option.some_or]

/-! ## The two modes -/

/-- The events of the static loop: a failed connect is only logged. -/
def sendFound (sent : List DiscoveryEvent) : ConnectResult → List DiscoveryEvent
  | .ok camera => sent ++ [.cameraFound camera]
  | .error _ => sent

/-- Static mode: the addresses tried, in order, and the events sent. -/
def scanStaticOnly (connect : DeviceAddress → ConnectResult) (staticCameras : List String) :
    List DeviceAddress × List DiscoveryEvent :=
  let devices := parseStaticCameras staticCameras
  if devices = [] then ([], [])
  else devices.foldl (fun s device => (s.1 ++ [device], sendFound s.2 (connect device))) ([], [])

/-- The connect loop of one scan in auto mode, with the addresses tried. -/
def scanDevices (connect : DeviceAddress → ConnectResult) (d : Discovery)
    (devices : List DeviceAddress) : List DeviceAddress × ScanState :=
  devices.foldl (fun s device => (s.1 ++ [device], s.2.connect (connect device)))
    ([], ScanState.start d)

theorem foldl_attempted {S : Type} (step : S → DeviceAddress → S) (devices tried : List DeviceAddress)
    (s : S) :
    devices.foldl (fun s device => (s.1 ++ [device], step s.2 device)) (tried, s) =
      (tried ++ devices, devices.foldl step s) := by
  induction devices generalizing tried s with
  | nil => simp
  | cons device devices ih =>
    rw [List.foldl_cons, ih, List.foldl_cons, List.append_assoc, List.singleton_append]

/-- No failed connect ends the static loop. -/
theorem attempted_scanStaticOnly (connect : DeviceAddress → ConnectResult)
    (staticCameras : List String) :
    (scanStaticOnly connect staticCameras).1 = parseStaticCameras staticCameras := by
  simp only [scanStaticOnly]
  split
  · rename_i h
    exact h.symm
  · rw [foldl_attempted (fun sent device => sendFound sent (connect device)), List.nil_append]

/-- The loop tries every device and ends where `connectAll` does. -/
theorem scanDevices_eq (connect : DeviceAddress → ConnectResult) (d : Discovery)
    (devices : List DeviceAddress) :
    scanDevices connect d devices = (devices, connectAll d (devices.map connect)) := by
  rw [scanDevices, foldl_attempted (fun s device => ScanState.connect s (connect device)),
    List.nil_append, connectAll, List.foldl_map]

/-- The connect loop of `scan_once` for what the probe returned. -/
def scanAuto (connect : DeviceAddress → ConnectResult) (d : Discovery)
    (probed : List DeviceAddress) (staticCameras : List String)
    (order : (seenDevices probed (parseStaticCameras staticCameras)).Enumeration) :
    List DeviceAddress × ScanState :=
  scanDevices connect d (mergeDevices probed (parseStaticCameras staticCameras) order)

/-- **Auto mode tries every configured address exactly when no host is configured
with two ports**, whatever was probed. -/
theorem auto_covers_static_iff (connect : DeviceAddress → ConnectResult) (d : Discovery)
    (probed : List DeviceAddress) (staticCameras : List String)
    (order : (seenDevices probed (parseStaticCameras staticCameras)).Enumeration) :
    (∀ a ∈ (scanStaticOnly connect staticCameras).1,
      a ∈ (scanAuto connect d probed staticCameras order).1) ↔
    ∀ a ∈ parseStaticCameras staticCameras, ∀ b ∈ parseStaticCameras staticCameras,
      a.hostname = b.hostname → a.port = b.port := by
  rw [attempted_scanStaticOnly, scanAuto, scanDevices_eq]
  simp only [mem_mergeDevices]
  constructor
  · intro h a ha b hb hh
    have hab : some a = some b := by rw [← h a ha, ← h b hb, hh]
    rw [Option.some.inj hab]
  · intro h a ha
    obtain ⟨b, hb⟩ := Option.isSome_iff_exists.mp (firstWith_isSome.mpr ⟨a, ha, rfl⟩)
    obtain ⟨hm, hh⟩ := hostname_of_firstWith hb
    have hba : b = a := DeviceAddress.ext hh (h b hm a ha hh)
    rw [hb, Option.some_or, hba]

/-- Two cameras forwarded through one address: auto mode never tries the second. -/
theorem auto_misses_second_port :
    ∃ staticCameras : List String, ∃ a : DeviceAddress,
      staticCameras = ["203.0.113.7:8001", "203.0.113.7:8002"] ∧ a = ⟨"203.0.113.7", 8002⟩ ∧
      ∀ connect d, a ∈ (scanStaticOnly connect staticCameras).1 ∧
        ∀ order, a ∉ (scanAuto connect d [] staticCameras order).1 := by
  refine ⟨_, _, rfl, rfl, fun connect d => ⟨?_, fun order => ?_⟩⟩
  · rw [attempted_scanStaticOnly]
    decide
  · rw [scanAuto, scanDevices_eq]
    simp only [mem_mergeDevices]
    decide

end MatterBridge.Onvif
