import MatterBridge.Bridge.Config
import Mathlib.Tactic.TFAE

/-!
# The configurations an environment can give

`Config.fromEnv` accepts every environment. What it makes of one is a configuration whose
lists fit their formats, and each such configuration can be written down and read again; a
configuration that cannot be written down is read from no environment at all.
-/
namespace MatterBridge.Bridge

open MatterBridge.Core MatterBridge.Onvif

/-- An entry the static list can carry. -/
structure ListableEntry (entry : String) : Prop where
  no_comma : ',' ∉ entry.toList
  trimmed : Str.TrimmedText entry

namespace Config

/-- The lists fit their formats. -/
structure Representable (c : Config) : Prop where
  staticCameras : ∀ entry ∈ c.onvif.staticCameras, ListableEntry entry
  cameraNames : ∀ key name, c.onvif.cameraNames.lookup key = some name →
    ListableKey key ∧ ListableName name

/-! ## What is read fits -/

theorem listable_of_parseCameraName {entry key name : String} (hcomma : ',' ∉ entry.toList)
    (h : parseCameraName entry = some (key, name)) : ListableKey key ∧ ListableName name := by
  rw [parseCameraName] at h
  split at h
  · cases h
  · obtain ⟨⟨left, right⟩, hparts, hpair⟩ := Option.map_eq_some_iff.mp h
    cases hpair
    obtain ⟨hequals, hleft, hright⟩ := Str.splitOnce_eq_some hparts
    have hentry : ',' ∉ (Str.trim entry).toList := fun hm => hcomma (Str.mem_of_mem_trim hm)
    refine ⟨⟨fun hm => ?_, fun hm => ?_, Str.trimmedText_trim left⟩,
      ⟨fun hm => ?_, Str.trimmedText_trim right⟩⟩
    · exact hentry (hleft _ (Str.mem_of_mem_trim hm))
    · exact hequals (Str.mem_of_mem_trim hm)
    · exact hentry (hright _ (Str.mem_of_mem_trim hm))

theorem listable_of_splitStaticCameras {s entry : String} (h : entry ∈ splitStaticCameras s) :
    ListableEntry entry := by
  rw [splitStaticCameras] at h
  split at h
  · cases h
  · obtain ⟨part, hpart, rfl⟩ := List.mem_map.mp h
    refine ⟨fun hm => ?_, Str.trimmedText_trim part⟩
    exact Str.notMem_of_mem_split hpart (Str.mem_of_mem_trim hm)

theorem representable_fromEnv (env : Env) : (fromEnv env).Representable where
  staticCameras _ h := listable_of_splitStaticCameras h
  cameraNames key name h := by
    have hlookup : (parseCameraNames ((env "ONVIF_CAMERA_NAMES").getD "")).lookup key =
        some name := h
    rw [parseCameraNames, HashMap.lookup_collect, Option.map_eq_some_iff] at hlookup
    obtain ⟨pair, hfound, rfl⟩ := hlookup
    obtain rfl : pair.1 = key := by simpa using List.find?_some hfound
    have hmem := List.mem_reverse.mp (List.mem_of_find?_eq_some hfound)
    obtain ⟨part, hpart, hparse⟩ := List.mem_filterMap.mp hmem
    exact listable_of_parseCameraName (Str.notMem_of_mem_split hpart) hparse

/-! ## What fits can be written -/

/-- A list whose one entry is empty differs from the empty list by a blank. -/
def staticCamerasText (entries : List String) : String :=
  if entries = [""] then " " else ",".intercalate entries

def cameraNamesText (names : HashMap String String) (order : names.Enumeration) : String :=
  ",".intercalate (order.keys.map fun key => key ++ "=" ++ (names.lookup key).getD "")

def discoveryModeText : DiscoveryMode → String
  | .auto => "auto"
  | .static => "static"

def go2rtcModeText : Go2RtcMode → String
  | .localProcess => "local"
  | .external => "external"

/-- The configuration as the lines of an environment file. -/
def lines (c : Config) (order : c.onvif.cameraNames.Enumeration) : List (String × String) :=
  [("ONVIF_USERNAME", c.onvif.username),
    ("ONVIF_PASSWORD", c.onvif.password),
    ("ONVIF_DISCOVERY_INTERVAL", toString c.onvif.discoveryIntervalMs.toNat),
    ("ONVIF_DISCOVERY_MODE", discoveryModeText c.onvif.discoveryMode),
    ("ONVIF_STATIC_CAMERAS", staticCamerasText c.onvif.staticCameras),
    ("ONVIF_CAMERA_NAMES", cameraNamesText c.onvif.cameraNames order),
    ("GO2RTC_MODE", go2rtcModeText c.go2rtc.mode),
    ("GO2RTC_PATH", c.go2rtc.path),
    ("GO2RTC_HOST", c.go2rtc.host),
    ("GO2RTC_API_PORT", toString c.go2rtc.apiPort.toNat),
    ("GO2RTC_WEBRTC_PORT", toString c.go2rtc.webrtcPort.toNat),
    ("MATTER_PORT", toString c.matter.port.toNat),
    ("MATTER_PASSCODE", toString c.matter.passcode.toNat),
    ("MATTER_DISCRIMINATOR", toString c.matter.discriminator.toNat),
    ("MATTER_STORAGE_PATH", c.matter.storagePath),
    ("LOG_LEVEL", c.logLevel)]

def toEnv (c : Config) (order : c.onvif.cameraNames.Enumeration) : Env :=
  fun name => (c.lines order).lookup name

theorem splitStaticCameras_text {entries : List String} (h : ∀ e ∈ entries, ListableEntry e) :
    splitStaticCameras (staticCamerasText entries) = entries := by
  rw [staticCamerasText]
  split
  · rename_i hblank
    rw [hblank]
    decide
  · rename_i hblank
    by_cases hne : entries = []
    · rw [hne]
      rfl
    · have hsplit : Str.split ',' (",".intercalate entries) = entries :=
        Str.split_intercalate (fun e he => (h e he).no_comma) hne
      have htrim : entries.map Str.trim = entries.map id :=
        List.map_congr_left fun e he => Str.trim_eq_self (h e he).trimmed
      rw [splitStaticCameras, if_neg ?_, hsplit]
      · exact htrim.trans (List.map_id entries)
      · intro hempty
        rw [hempty] at hsplit
        exact hblank (hsplit.symm.trans (by decide))

theorem nameListing_text {names : HashMap String String}
    (h : ∀ key name, names.lookup key = some name → ListableKey key ∧ ListableName name)
    {keys : List String} (hkeys : ∀ key ∈ keys, key ∈ names) :
    NameListing (keys.map fun key => (key, (names.lookup key).getD ""))
      (keys.map fun key => key ++ "=" ++ (names.lookup key).getD "") := by
  have hself : ∀ text, Str.PaddedText text text :=
    fun text => .of_eq "" "" (by simp) (by decide) (by decide)
  induction keys with
  | nil => exact .nil
  | cons key rest ih =>
    obtain ⟨name, hname⟩ := Finmap.mem_iff.mp (hkeys key List.mem_cons_self)
    obtain ⟨hkey, hvalue⟩ := h key name hname
    simp only [List.map_cons, hname, Option.getD_some]
    exact .entry hkey hvalue (hself key) (hself name) (hself _)
      (ih fun k hk => hkeys k (List.mem_cons_of_mem key hk))

theorem parseCameraNames_text {names : HashMap String String}
    (h : ∀ key name, names.lookup key = some name → ListableKey key ∧ ListableName name)
    (order : names.Enumeration) : parseCameraNames (cameraNamesText names order) = names := by
  rw [cameraNamesText,
    (nameListing_text h fun key hkey => (order.complete key).mp hkey).parseCameraNames]
  apply Finmap.ext_lookup
  intro key
  apply Option.ext
  intro name
  rw [HashMap.lookup_collect_eq_some (by simpa [Function.comp_def] using order.nodup)]
  constructor
  · intro hmem
    obtain ⟨k, hk, hpair⟩ := List.mem_map.mp hmem
    obtain ⟨value, hvalue⟩ := Finmap.mem_iff.mp ((order.complete k).mp hk)
    cases hpair
    rw [hvalue]
    rfl
  · intro hlookup
    have hkey := (order.complete key).mpr (Finmap.mem_of_lookup_eq_some hlookup)
    refine List.mem_map.mpr ⟨key, hkey, ?_⟩
    rw [hlookup]
    rfl

theorem parseVar_toString {env : Env} {name : String} {bits n : Nat}
    (henv : env name = some (toString n)) (hn : n < 2 ^ bits) :
    parseVar env name bits = some n := by
  rw [parseVar, henv, Option.bind_some, Str.parseUnsigned_toString hn]

theorem discoveryMode_text (mode : DiscoveryMode) :
    (if Str.toAsciiLowercase (discoveryModeText mode) = "static" then DiscoveryMode.static
      else .auto) = mode := by
  cases mode <;> decide

theorem go2rtcMode_text (mode : Go2RtcMode) :
    (if Str.toAsciiLowercase (go2rtcModeText mode) = "local" then Go2RtcMode.localProcess
      else .external) = mode := by
  cases mode <;> decide

section

variable {c : Config} (order : c.onvif.cameraNames.Enumeration)

theorem onvif_toEnv (h : c.Representable) : (fromEnv (c.toEnv order)).onvif = c.onvif := by
  have hinterval : parseVar (c.toEnv order) "ONVIF_DISCOVERY_INTERVAL" 64 =
      some c.onvif.discoveryIntervalMs.toNat :=
    parseVar_toString rfl c.onvif.discoveryIntervalMs.toNat_lt
  have hcameras : splitStaticCameras ((c.toEnv order "ONVIF_STATIC_CAMERAS").getD "") =
      c.onvif.staticCameras := splitStaticCameras_text h.staticCameras
  have hnames : parseCameraNames ((c.toEnv order "ONVIF_CAMERA_NAMES").getD "") =
      c.onvif.cameraNames := parseCameraNames_text h.cameraNames order
  have hmode : (if Str.toAsciiLowercase ((c.toEnv order "ONVIF_DISCOVERY_MODE").getD "") = "static"
      then DiscoveryMode.static else .auto) = c.onvif.discoveryMode :=
    discoveryMode_text c.onvif.discoveryMode
  simp only [fromEnv, hinterval, hcameras, hnames, hmode, Option.map_some, Option.getD_some,
    UInt64.ofNat_toNat]
  rfl

theorem go2rtc_toEnv : (fromEnv (c.toEnv order)).go2rtc = c.go2rtc := by
  have hapi : parseVar (c.toEnv order) "GO2RTC_API_PORT" 16 = some c.go2rtc.apiPort.toNat :=
    parseVar_toString rfl c.go2rtc.apiPort.toNat_lt
  have hwebrtc : parseVar (c.toEnv order) "GO2RTC_WEBRTC_PORT" 16 =
      some c.go2rtc.webrtcPort.toNat := parseVar_toString rfl c.go2rtc.webrtcPort.toNat_lt
  have hmode : (if Str.toAsciiLowercase ((c.toEnv order "GO2RTC_MODE").getD "") = "local"
      then Go2RtcMode.localProcess else .external) = c.go2rtc.mode := go2rtcMode_text c.go2rtc.mode
  simp only [fromEnv, hapi, hwebrtc, hmode, Option.map_some, Option.getD_some, UInt16.ofNat_toNat]
  rfl

theorem matter_toEnv : (fromEnv (c.toEnv order)).matter = c.matter := by
  have hport : parseVar (c.toEnv order) "MATTER_PORT" 16 = some c.matter.port.toNat :=
    parseVar_toString rfl c.matter.port.toNat_lt
  have hpasscode : parseVar (c.toEnv order) "MATTER_PASSCODE" 32 = some c.matter.passcode.toNat :=
    parseVar_toString rfl c.matter.passcode.toNat_lt
  have hdiscriminator : parseVar (c.toEnv order) "MATTER_DISCRIMINATOR" 16 =
      some c.matter.discriminator.toNat := parseVar_toString rfl c.matter.discriminator.toNat_lt
  simp only [fromEnv, hport, hpasscode, hdiscriminator, Option.map_some, Option.getD_some,
    UInt16.ofNat_toNat, UInt32.ofNat_toNat]
  rfl

/-- Written down, a representable configuration is read back. -/
theorem fromEnv_toEnv (h : c.Representable) : fromEnv (c.toEnv order) = c := by
  calc fromEnv (c.toEnv order)
      = ⟨(fromEnv (c.toEnv order)).onvif, (fromEnv (c.toEnv order)).go2rtc,
          (fromEnv (c.toEnv order)).matter, c.logLevel⟩ := rfl
    _ = c := by rw [onvif_toEnv order h, go2rtc_toEnv, matter_toEnv]

end

/-- **What an environment can say.** -/
theorem representable_tfae (c : Config) :
    List.TFAE [c.Representable, ∃ env, fromEnv env = c, ∀ order, fromEnv (c.toEnv order) = c] := by
  tfae_have 1 → 3 := fun h order => fromEnv_toEnv order h
  tfae_have 3 → 2 := fun h => by
    obtain ⟨order⟩ := HashMap.Enumeration.exists c.onvif.cameraNames
    exact ⟨c.toEnv order, h order⟩
  tfae_have 2 → 1 := by
    rintro ⟨env, rfl⟩
    exact representable_fromEnv env
  tfae_finish

end Config

end MatterBridge.Bridge
