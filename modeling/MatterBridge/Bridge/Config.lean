import MatterBridge.Onvif.Addresses

/-!
# Configuration from the environment

`Config.fromEnv` never fails: what does not parse falls back to its default. Two
variables hold comma-separated lists, read in two stages. Each list format is
given here by an inductive relation between values and texts, with padding,
blank entries and noise wherever the format allows them.
-/
namespace MatterBridge.Bridge

open MatterBridge.Core MatterBridge.Onvif

inductive Config.DiscoveryMode where
  | auto
  | static
  deriving DecidableEq, Repr

inductive Config.Go2RtcMode where
  | localProcess
  | external
  deriving DecidableEq, Repr

structure OnvifConfig where
  username : String
  password : String
  discoveryIntervalMs : UInt64
  discoveryMode : Config.DiscoveryMode
  staticCameras : List String
  /-- Friendly names by serial number, camera id or host. -/
  cameraNames : HashMap String String

structure Go2RtcConfig where
  mode : Config.Go2RtcMode
  path : String
  host : String
  apiPort : UInt16
  webrtcPort : UInt16

structure MatterConfig where
  port : UInt16
  passcode : UInt32
  discriminator : UInt16
  storagePath : String

structure Config where
  onvif : OnvifConfig
  go2rtc : Go2RtcConfig
  matter : MatterConfig
  logLevel : String

/-- `env::var`, with its error dropped. -/
abbrev Env := String → Option String

namespace Config

def default : Config where
  onvif := ⟨"admin", "admin", 60000, .auto, [], ∅⟩
  go2rtc := ⟨.external, "./bin/go2rtc", "localhost", 1984, 8555⟩
  matter := ⟨5540, 20202021, 3840, ".matter-storage"⟩
  logLevel := "info"

def parseVar (env : Env) (name : String) (bits : Nat) : Option Nat :=
  (env name).bind (Str.parseUnsigned bits)

/-- The entries of `ONVIF_STATIC_CAMERAS`. -/
def splitStaticCameras (s : String) : List String :=
  if s = "" then [] else (Str.split ',' s).map Str.trim

/-- One entry of `ONVIF_CAMERA_NAMES`. -/
def parseCameraName (entry : String) : Option (String × String) :=
  if Str.trim entry = "" then none
  else (Str.splitOnce '=' (Str.trim entry)).map fun parts => (Str.trim parts.1, Str.trim parts.2)

def parseCameraNames (s : String) : HashMap String String :=
  HashMap.collect ((Str.split ',' s).filterMap parseCameraName)

def fromEnv (env : Env) : Config where
  onvif := {
    username := (env "ONVIF_USERNAME").getD default.onvif.username
    password := (env "ONVIF_PASSWORD").getD default.onvif.password
    discoveryIntervalMs := ((parseVar env "ONVIF_DISCOVERY_INTERVAL" 64).map UInt64.ofNat).getD
      default.onvif.discoveryIntervalMs
    -- `to_lowercase`: no character outside ASCII lowercases to a letter of these words.
    discoveryMode :=
      if Str.toAsciiLowercase ((env "ONVIF_DISCOVERY_MODE").getD "") = "static" then .static
      else .auto
    staticCameras := splitStaticCameras ((env "ONVIF_STATIC_CAMERAS").getD "")
    cameraNames := parseCameraNames ((env "ONVIF_CAMERA_NAMES").getD "") }
  go2rtc := {
    mode :=
      if Str.toAsciiLowercase ((env "GO2RTC_MODE").getD "") = "local" then .localProcess
      else .external
    path := (env "GO2RTC_PATH").getD default.go2rtc.path
    host := (env "GO2RTC_HOST").getD default.go2rtc.host
    apiPort := ((parseVar env "GO2RTC_API_PORT" 16).map UInt16.ofNat).getD default.go2rtc.apiPort
    webrtcPort := ((parseVar env "GO2RTC_WEBRTC_PORT" 16).map UInt16.ofNat).getD
      default.go2rtc.webrtcPort }
  matter := {
    port := ((parseVar env "MATTER_PORT" 16).map UInt16.ofNat).getD default.matter.port
    passcode := ((parseVar env "MATTER_PASSCODE" 32).map UInt32.ofNat).getD default.matter.passcode
    discriminator := ((parseVar env "MATTER_DISCRIMINATOR" 16).map UInt16.ofNat).getD
      default.matter.discriminator
    storagePath := (env "MATTER_STORAGE_PATH").getD default.matter.storagePath }
  logLevel := (env "LOG_LEVEL").getD default.logLevel

end Config

/-! ## The static camera list -/

/-- A host the list format can carry. -/
structure ListableHost (host : String) : Prop where
  nonempty : host ≠ ""
  no_comma : ',' ∉ host.toList
  no_colon : ':' ∉ host.toList
  trimmed : Str.TrimmedText host

/-- `texts` are the entries of a list of devices, padded and with blanks between them. -/
inductive StaticListing : List DeviceAddress → List String → Prop
  | nil : StaticListing [] []
  | blank {devices : List DeviceAddress} {text : String} {texts : List String} :
      Str.Blank text → StaticListing devices texts → StaticListing devices (text :: texts)
  | camera {device : DeviceAddress} {devices : List DeviceAddress} {text : String}
      {texts : List String} : ListableHost device.hostname →
      Str.PaddedText (device.hostname ++ ":" ++ toString device.port.toNat) text →
      StaticListing devices texts → StaticListing (device :: devices) (text :: texts)

theorem ListableHost.trimmed_address {host : String} (h : ListableHost host) (port : UInt16) :
    Str.TrimmedText (host ++ ":" ++ toString port.toNat) := by
  have hhost : host.toList ≠ [] := fun he => h.nonempty (String.toList_eq_nil_iff.mp he)
  have hport : Trimmed Str.isWhitespace (':' :: (toString port.toNat).toList) := by
    apply Trimmed.of_all
    intro c hc
    rcases List.mem_cons.mp hc with rfl | hc
    · decide
    · exact Str.isWhitespace_of_mem_toString hc
  have hlist : (host ++ ":" ++ toString port.toNat).toList =
      host.toList ++ ':' :: (toString port.toNat).toList := by simp
  rw [Str.TrimmedText, hlist]
  exact Trimmed.append hhost (List.cons_ne_nil _ _) h.trimmed hport

theorem ListableHost.no_comma_address {host : String} (h : ListableHost host) (port : UInt16) :
    ',' ∉ (host ++ ":" ++ toString port.toNat).toList := by
  intro hm
  have hmem : ',' ∈ host.toList ∨ ',' = ':' ∨ ',' ∈ (toString port.toNat).toList := by
    simpa using hm
  rcases hmem with hm | hm | hm
  · exact h.no_comma hm
  · exact absurd hm (by decide)
  · have hdigits : (toString port.toNat).toList = Nat.toDigits 10 port.toNat := Nat.toList_repr
    rw [hdigits] at hm
    have hd := Nat.isDigit_of_mem_toDigits (by decide) (by decide) hm
    exact absurd hd (by decide)

theorem StaticListing.no_comma {devices : List DeviceAddress} {texts : List String}
    (h : StaticListing devices texts) : ∀ text ∈ texts, ',' ∉ text.toList := by
  induction h with
  | nil => simp
  | blank hb _ ih => exact List.forall_mem_cons.mpr ⟨hb.notMem (by decide), ih⟩
  | camera hh hp _ ih =>
    refine List.forall_mem_cons.mpr ⟨fun hm => ?_, ih⟩
    exact hh.no_comma_address _ (hp.mem (by decide) hm)

theorem parseStaticCameras_cons_empty (entries : List String) :
    parseStaticCameras ("" :: entries) = parseStaticCameras entries := rfl

theorem parseStaticCameras_cons {entry : String} (h : entry ≠ "") (entries : List String) :
    parseStaticCameras (entry :: entries) = parseStaticCamera entry :: parseStaticCameras entries := by
  have hkeep : decide (entry ≠ "") = true := decide_eq_true h
  rw [parseStaticCameras, List.filter_cons, if_pos hkeep, List.map_cons, ← parseStaticCameras]

/-- The entries of a listing, trimmed, are read as its devices. -/
theorem StaticListing.parse {devices : List DeviceAddress} {texts : List String}
    (h : StaticListing devices texts) : parseStaticCameras (texts.map Str.trim) = devices := by
  induction h with
  | nil => rfl
  | blank hb _ ih => rw [List.map_cons, Str.trim_blank hb, parseStaticCameras_cons_empty, ih]
  | @camera device _ text _ hh hp _ ih =>
    have htrim := Str.trim_padded hp (hh.trimmed_address device.port)
    have hne : device.hostname ++ ":" ++ toString device.port.toNat ≠ "" := by simp
    rw [List.map_cons, htrim, parseStaticCameras_cons hne, parseStaticCamera_text hh.no_colon, ih]

/-- An unset list splits into one empty entry, which is dropped anyway. -/
theorem parseStaticCameras_split (s : String) :
    parseStaticCameras (Config.splitStaticCameras s) =
      parseStaticCameras ((Str.split ',' s).map Str.trim) := by
  rw [Config.splitStaticCameras]
  split
  · rename_i h
    rw [h]
    decide
  · rfl

/-- **The static list round trip.** However a list of devices is padded and
interspersed with blanks, it is read back with its hosts and ports in order. -/
theorem static_cameras_round_trip {devices : List DeviceAddress} {texts : List String}
    (h : StaticListing devices texts) {env : Env}
    (he : env "ONVIF_STATIC_CAMERAS" = some (",".intercalate texts)) :
    parseStaticCameras (Config.fromEnv env).onvif.staticCameras = devices := by
  have hentries : (Config.fromEnv env).onvif.staticCameras =
      Config.splitStaticCameras (",".intercalate texts) := by
    rw [Config.fromEnv, he, Option.getD_some]
  rw [hentries, parseStaticCameras_split]
  by_cases hne : texts = []
  · subst hne
    cases h
    decide
  · rw [show "," = String.singleton ',' from rfl, Str.split_intercalate h.no_comma hne]
    exact h.parse

theorem static_cameras_round_trip_padded :
    parseStaticCameras (Config.fromEnv fun name => if name = "ONVIF_STATIC_CAMERAS"
      then some " 10.0.0.5:2020,,\t,cam.lan:80 " else none).onvif.staticCameras =
      [⟨"10.0.0.5", 2020⟩, ⟨"cam.lan", 80⟩] := by
  have haddress : ListableHost "10.0.0.5" :=
    ⟨by decide, by decide, by decide, ⟨by simp; decide, by simp; decide⟩⟩
  have hname : ListableHost "cam.lan" :=
    ⟨by decide, by decide, by decide, ⟨by simp; decide, by simp; decide⟩⟩
  have hlisting : StaticListing [⟨"10.0.0.5", 2020⟩, ⟨"cam.lan", 80⟩]
      [" 10.0.0.5:2020", "", "\t", "cam.lan:80 "] :=
    .camera haddress (.of_eq " " "" (by decide) (by decide) (by decide)) <|
    .blank (by decide) <| .blank (by decide) <|
    .camera hname (.of_eq "" " " (by decide) (by decide) (by decide)) .nil
  exact static_cameras_round_trip hlisting ((if_pos rfl).trans (congrArg some (by decide)))

/-! ## The camera names -/

/-- A serial number, host or camera id the map format can carry. -/
structure ListableKey (key : String) : Prop where
  no_comma : ',' ∉ key.toList
  no_equals : '=' ∉ key.toList
  trimmed : Str.TrimmedText key

structure ListableName (name : String) : Prop where
  no_comma : ',' ∉ name.toList
  trimmed : Str.TrimmedText name

/-- `texts` list the pairs, padded around entries, keys and names, with blank
entries and entries without an equals sign between them. -/
inductive NameListing : List (String × String) → List String → Prop
  | nil : NameListing [] []
  | blank {entries : List (String × String)} {text : String} {texts : List String} :
      Str.Blank text → NameListing entries texts → NameListing entries (text :: texts)
  | malformed {entries : List (String × String)} {text : String} {texts : List String} :
      ',' ∉ text.toList → '=' ∉ text.toList → NameListing entries texts →
      NameListing entries (text :: texts)
  | entry {key name left right text : String} {entries : List (String × String)}
      {texts : List String} : ListableKey key → ListableName name →
      Str.PaddedText key left → Str.PaddedText name right →
      Str.PaddedText (left ++ "=" ++ right) text → NameListing entries texts →
      NameListing ((key, name) :: entries) (text :: texts)

theorem NameListing.no_comma {entries : List (String × String)} {texts : List String}
    (h : NameListing entries texts) : ∀ text ∈ texts, ',' ∉ text.toList := by
  induction h with
  | nil => simp
  | blank hb _ ih => exact List.forall_mem_cons.mpr ⟨hb.notMem (by decide), ih⟩
  | malformed hc _ _ ih => exact List.forall_mem_cons.mpr ⟨hc, ih⟩
  | entry hk hn hl hr ht _ ih =>
    refine List.forall_mem_cons.mpr ⟨fun hm => ?_, ih⟩
    have hmem := ht.mem (by decide) hm
    simp only [String.toList_append, List.mem_append] at hmem
    rcases hmem with (hmem | hmem) | hmem
    · exact hk.no_comma (hl.mem (by decide) hmem)
    · exact absurd hmem (by decide)
    · exact hn.no_comma (hr.mem (by decide) hmem)

/-- Noise is skipped without ending the parse. -/
theorem parseCameraName_of_no_equals {text : String} (h : '=' ∉ text.toList) :
    Config.parseCameraName text = none := by
  rw [Config.parseCameraName]
  split
  · rfl
  · rw [Str.splitOnce_of_notMem fun hm => h (Str.mem_of_mem_trim hm), Option.map_none]

/-- An entry is read as its key and name, whatever the padding. -/
theorem parseCameraName_entry {key name left right text : String} (hk : ListableKey key)
    (hn : ListableName name) (hl : Str.PaddedText key left) (hr : Str.PaddedText name right)
    (ht : Str.PaddedText (left ++ "=" ++ right) text) :
    Config.parseCameraName text = some (key, name) := by
  obtain ⟨before, after, htext, hb, ha⟩ := ht
  have hequals : Str.isWhitespace '=' = false := by decide
  have htext' : text.toList = (before ++ left.toList) ++ '=' :: (right.toList ++ after) := by
    simpa using htext
  have hleft : Padded Str.isWhitespace key.toList (before ++ left.toList) :=
    hl.trans ⟨before, [], by simp, hb, by simp⟩
  have hright : Padded Str.isWhitespace name.toList (right.toList ++ after) :=
    hr.trans ⟨[], after, by simp, by simp, ha⟩
  -- The outer trim reaches into both halves but not across the equals sign.
  obtain ⟨after', hkey, ha'⟩ := hleft.dropWhile hk.trimmed
  obtain ⟨before', hname, hb'⟩ := hright.rdropWhile hn.trimmed
  have htrim : (Str.trim text).toList = (key.toList ++ after') ++ '=' :: (before' ++ name.toList) := by
    rw [Str.trim, String.toList_ofList, htext', trim_append_cons hequals, hkey, hname]
  have hkeyPad : Padded Str.isWhitespace key.toList (key.toList ++ after') :=
    ⟨[], after', by simp, by simp, ha'⟩
  have hnamePad : Padded Str.isWhitespace name.toList (before' ++ name.toList) :=
    ⟨before', [], by simp, hb', by simp⟩
  have hsplit : Str.splitOnce '=' (Str.trim text) =
      some (String.ofList (key.toList ++ after'), String.ofList (before' ++ name.toList)) := by
    apply Str.splitOnce_append
    · rw [String.toList_ofList]
      exact fun hm => hk.no_equals (hkeyPad.mem hequals hm)
    · rw [htrim, String.toList_ofList, String.toList_ofList]
  have hne : Str.trim text ≠ "" := by
    intro he
    rw [he] at htrim
    simp at htrim
  rw [Config.parseCameraName, if_neg hne, hsplit, Option.map_some,
    Str.trim_padded (by rwa [Str.PaddedText, String.toList_ofList]) hk.trimmed,
    Str.trim_padded (by rwa [Str.PaddedText, String.toList_ofList]) hn.trimmed]

theorem NameListing.parse {entries : List (String × String)} {texts : List String}
    (h : NameListing entries texts) : texts.filterMap Config.parseCameraName = entries := by
  induction h with
  | nil => rfl
  | blank hb _ ih =>
    rw [List.filterMap_cons_none (parseCameraName_of_no_equals (hb.notMem (by decide))), ih]
  | malformed _ he _ ih => rw [List.filterMap_cons_none (parseCameraName_of_no_equals he), ih]
  | entry hk hn hl hr ht _ ih =>
    rw [List.filterMap_cons_some (parseCameraName_entry hk hn hl hr ht), ih]

/-- A listing parses to the map in which the last entry of each key wins. -/
theorem NameListing.parseCameraNames {entries : List (String × String)} {texts : List String}
    (h : NameListing entries texts) :
    Config.parseCameraNames (",".intercalate texts) = HashMap.collect entries := by
  by_cases hne : texts = []
  · subst hne
    have hentries : (Str.split ',' (",".intercalate [])).filterMap Config.parseCameraName = [] := by
      decide
    cases h
    rw [Config.parseCameraNames, hentries]
  · rw [Config.parseCameraNames, show "," = String.singleton ',' from rfl,
      Str.split_intercalate h.no_comma hne, h.parse]

/-- **The camera names round trip.** A listing of a map, in any order, with padding
and noise and after any earlier entries for keys of the map, is read as the map. -/
theorem camera_names_round_trip {names : HashMap String String}
    {earlier listing : List (String × String)} {texts : List String}
    (h : NameListing (earlier ++ listing) texts) (hkeys : (listing.map Prod.fst).Nodup)
    (hlisting : ∀ key name, (key, name) ∈ listing ↔ names.lookup key = some name)
    (hearlier : ∀ e ∈ earlier, e.1 ∈ names) {env : Env}
    (he : env "ONVIF_CAMERA_NAMES" = some (",".intercalate texts)) :
    (Config.fromEnv env).onvif.cameraNames = names := by
  have hnames : names = HashMap.collect listing := by
    apply Finmap.ext_lookup
    intro key
    apply Option.ext
    intro name
    rw [HashMap.lookup_collect_eq_some hkeys, hlisting]
  have hagain : ∀ e ∈ earlier, e.1 ∈ listing.map Prod.fst := by
    intro e hm
    obtain ⟨name, hn⟩ := Option.isSome_iff_exists.mp (Finmap.lookup_isSome.mpr (hearlier e hm))
    exact List.mem_map.mpr ⟨(e.1, name), (hlisting e.1 name).mpr hn, rfl⟩
  calc (Config.fromEnv env).onvif.cameraNames
      = Config.parseCameraNames (",".intercalate texts) := by
        rw [Config.fromEnv, he, Option.getD_some]
    _ = HashMap.collect (earlier ++ listing) := h.parseCameraNames
    _ = HashMap.collect listing := HashMap.collect_append hagain
    _ = names := hnames.symm

theorem camera_names_round_trip_renamed :
    (Config.fromEnv fun name => if name = "ONVIF_CAMERA_NAMES"
      then some "SN1=Old,,junk, 10.0.0.5 = Door=Front,SN1=Yard\t" else none).onvif.cameraNames =
      HashMap.collect [("10.0.0.5", "Door=Front"), ("SN1", "Yard")] := by
  have hserial : ListableKey "SN1" := ⟨by decide, by decide, ⟨by simp; decide, by simp; decide⟩⟩
  have hhost : ListableKey "10.0.0.5" :=
    ⟨by decide, by decide, ⟨by simp; decide, by simp; decide⟩⟩
  have hold : ListableName "Old" := ⟨by decide, ⟨by simp; decide, by simp; decide⟩⟩
  have hdoor : ListableName "Door=Front" := ⟨by decide, ⟨by simp; decide, by simp; decide⟩⟩
  have hyard : ListableName "Yard" := ⟨by decide, ⟨by simp; decide, by simp; decide⟩⟩
  have hkey : Str.PaddedText "10.0.0.5" "10.0.0.5 " :=
    .of_eq "" " " (by decide) (by decide) (by decide)
  have hname : Str.PaddedText "Door=Front" " Door=Front" :=
    .of_eq " " "" (by decide) (by decide) (by decide)
  have hplain : ∀ s, Str.PaddedText s s :=
    fun s => .of_eq "" "" (by simp) (by decide) (by decide)
  have hlisting : NameListing ([("SN1", "Old")] ++ [("10.0.0.5", "Door=Front"), ("SN1", "Yard")])
      ["SN1=Old", "", "junk", " 10.0.0.5 = Door=Front", "SN1=Yard\t"] :=
    .entry hserial hold (hplain "SN1") (hplain "Old") (hplain _) <|
    .blank (by decide) <| .malformed (by decide) (by decide) <|
    .entry hhost hdoor hkey hname (.of_eq " " "" (by decide) (by decide) (by decide)) <|
    .entry hserial hyard (hplain "SN1") (hplain "Yard")
      (.of_eq "" "\t" (by decide) (by decide) (by decide)) .nil
  have hkeys : (([("10.0.0.5", "Door=Front"), ("SN1", "Yard")] : List (String × String)).map
      Prod.fst).Nodup := by decide
  have hyardIn : (HashMap.collect [("10.0.0.5", "Door=Front"), ("SN1", "Yard")]).lookup "SN1" =
      some "Yard" := (HashMap.lookup_collect_eq_some hkeys).mpr (by decide)
  refine camera_names_round_trip hlisting hkeys
    (fun key name => (HashMap.lookup_collect_eq_some hkeys).symm) ?_
    ((if_pos rfl).trans (congrArg some (by decide)))
  intro e he
  obtain rfl := List.mem_singleton.mp he
  exact Finmap.lookup_isSome.mp (by rw [hyardIn]; rfl)

end MatterBridge.Bridge
