import MatterBridge.Core.Str
import MatterBridge.Onvif.Discovery

/-!
# Connecting to one camera

`connect_camera` asks a device for its capabilities and builds the record the
rest of the bridge works with. The replies come from outside; four of them end
the connect when they fail, the others fall back. Widths, heights and frame
rates are cast from 32 to 16 bits.
-/
namespace MatterBridge.Onvif

open MatterBridge.Core

structure RateControl where
  frameRateLimit : UInt32
  bitrateLimit : UInt32
  deriving DecidableEq, Repr

structure VideoEncoderReply where
  /-- The codec as `Debug` prints it. -/
  encoding : String
  width : UInt32
  height : UInt32
  rateControl : Option RateControl
  quality : UInt32
  deriving DecidableEq, Repr

structure AudioEncoderReply where
  encoding : String
  bitrate : UInt32
  sampleRate : UInt32
  deriving DecidableEq, Repr

structure ProfileReply where
  token : String
  name : String
  deriving DecidableEq, Repr

/-- The service URLs a device names. -/
structure Capabilities where
  mediaUrl : Option String
  eventsUrl : Option String
  ptzUrl : Option String
  deriving DecidableEq, Repr

/-- What a device answers to the calls of one connect. -/
structure DeviceReplies where
  systemDateAndTime : Except String Unit
  capabilities : Except String Capabilities
  /-- The topics of `GetEventProperties`. -/
  eventTopics : Except String (List String)
  deviceInformation : Except String DeviceInfo
  profiles : Except String (List ProfileReply)
  videoEncoders : Except String (List VideoEncoderReply)
  audioEncoders : Except String (List AudioEncoderReply)
  /-- The stream URI of a profile token. -/
  streamUri : String → Except String String

def VideoEncoderReply.toConfig (vc : VideoEncoderReply) : VideoEncoderConfig where
  codec := vc.encoding
  width := vc.width.toUInt16
  height := vc.height.toUInt16
  frameRate := (vc.rateControl.map fun rc => rc.frameRateLimit.toUInt16).getD 30
  bitrate := (vc.rateControl.map fun rc => rc.bitrateLimit).getD 4000
  quality := vc.quality

def AudioEncoderReply.toConfig (ac : AudioEncoderReply) : AudioEncoderConfig where
  codec := ac.encoding
  bitrate := ac.bitrate
  sampleRate := ac.sampleRate

/-- A topic of the kind that makes a camera count as motion-capable. -/
def advertisesMotion (topic : String) : Bool :=
  let lc := Str.toAsciiLowercase topic
  Str.endsWith lc "motionalarm" || Str.contains lc "cellmotiondetector/motion"

namespace DeviceReplies

def videoConfigs (device : DeviceReplies) : List VideoEncoderReply :=
  device.videoEncoders.toOption.getD []

def audioConfigs (device : DeviceReplies) : List AudioEncoderReply :=
  device.audioEncoders.toOption.getD []

/-- Every profile gets the first encoder of the device. -/
def mediaProfile (device : DeviceReplies) (p : ProfileReply) : MediaProfile where
  token := p.token
  name := p.name
  videoEncoder := device.videoConfigs.head?.map VideoEncoderReply.toConfig
  audioEncoder := device.audioConfigs.head?.map AudioEncoderReply.toConfig
  ptzConfigToken := none

/-- The events service is asked only if the device names one. -/
def supportsMotion (device : DeviceReplies) (caps : Capabilities) : Bool :=
  match caps.eventsUrl, device.eventTopics with
  | some _, .ok topics => topics.any advertisesMotion
  | _, _ => false

def primaryStreamUri (device : DeviceReplies) (rawProfiles : List ProfileReply) : String :=
  match rawProfiles with
  | [] => ""
  | first :: _ => (device.streamUri first.token).toOption.getD ""

end DeviceReplies

/-- The error text of a call that ends the connect. -/
def required {α : Type} (call : String) (reply : Except String α) : Except String α :=
  reply.mapError fun e => call ++ " failed: " ++ e

def connectCamera (host : String) (port : UInt16) (device : DeviceReplies) : ConnectResult := do
  required "GetSystemDateAndTime" device.systemDateAndTime
  let caps ← required "GetCapabilities" device.capabilities
  match caps.mediaUrl with
  | none => .error "No media service URL in capabilities"
  | some _ =>
    let info ← required "GetDeviceInformation" device.deviceInformation
    let rawProfiles ← required "GetProfiles" device.profiles
    return {
      id := deriveCameraId info.serialNumber host port
      host := host
      port := port
      deviceInfo := info
      profiles := rawProfiles.map device.mediaProfile
      streamUri := device.primaryStreamUri rawProfiles
      eventsUrl := caps.eventsUrl
      supportsMotion := device.supportsMotion caps
      supportsPtz := caps.ptzUrl.isSome }

theorem bind_eq_ok {ε α β : Type} {x : Except ε α} {f : α → Except ε β} {b : β} :
    x >>= f = .ok b ↔ ∃ a, x = .ok a ∧ f a = .ok b := by
  cases x with
  | error e => simp [bind, Except.bind]
  | ok a => simp [bind, Except.bind]

theorem required_eq_ok {α : Type} {call : String} {reply : Except String α} {a : α} :
    required call reply = .ok a ↔ reply = .ok a := by
  cases reply with
  | error e => simp [required, Except.mapError]
  | ok b => simp [required, Except.mapError]

/-- What a successful connect has obtained and how its record is made of it. -/
theorem connectCamera_ok {host : String} {port : UInt16} {device : DeviceReplies}
    {camera : CameraDevice} (h : connectCamera host port device = .ok camera) :
    ∃ caps info rawProfiles, device.capabilities = .ok caps ∧
      device.deviceInformation = .ok info ∧ device.profiles = .ok rawProfiles ∧
      camera.id = deriveCameraId info.serialNumber host port ∧
      camera.profiles = rawProfiles.map device.mediaProfile ∧
      camera.eventsUrl = caps.eventsUrl ∧ camera.supportsMotion = device.supportsMotion caps := by
  obtain ⟨_, _, h⟩ := bind_eq_ok.mp h
  obtain ⟨caps, hcaps, h⟩ := bind_eq_ok.mp h
  split at h
  · cases h
  · obtain ⟨info, hinfo, h⟩ := bind_eq_ok.mp h
    obtain ⟨rawProfiles, hprofiles, h⟩ := bind_eq_ok.mp h
    cases h
    exact ⟨caps, info, rawProfiles, required_eq_ok.mp hcaps, required_eq_ok.mp hinfo,
      required_eq_ok.mp hprofiles, rfl, rfl, rfl, rfl⟩

/-- The identity in the record is what the device said of itself, at the address called. -/
theorem connectCamera_identity {host : String} {port : UInt16} {device : DeviceReplies}
    {camera : CameraDevice} (h : connectCamera host port device = .ok camera) :
    device.deviceInformation = .ok camera.deviceInfo ∧ camera.host = host ∧
      camera.id = deriveCameraId camera.deviceInfo.serialNumber host port := by
  obtain ⟨_, _, h⟩ := bind_eq_ok.mp h
  obtain ⟨caps, _, h⟩ := bind_eq_ok.mp h
  split at h
  · cases h
  · obtain ⟨info, hinfo, h⟩ := bind_eq_ok.mp h
    obtain ⟨rawProfiles, _, h⟩ := bind_eq_ok.mp h
    cases h
    exact ⟨required_eq_ok.mp hinfo, rfl, rfl⟩

/-- A motion-capable camera has named an events service and a motion topic. -/
theorem topic_of_supportsMotion {host : String} {port : UInt16} {device : DeviceReplies}
    {camera : CameraDevice} (h : connectCamera host port device = .ok camera)
    (hm : camera.supportsMotion = true) :
    camera.eventsUrl.isSome ∧
      ∃ topics, device.eventTopics = .ok topics ∧ ∃ topic ∈ topics, advertisesMotion topic = true := by
  obtain ⟨caps, _, _, _, _, _, _, _, hurl, hmotion⟩ := connectCamera_ok h
  rw [hmotion, DeviceReplies.supportsMotion] at hm
  rw [hurl]
  split at hm
  · rename_i topics hu ht
    exact ⟨by rw [hu]; rfl, topics, ht, List.any_eq_true.mp hm⟩
  · cases hm

end MatterBridge.Onvif
