/-!
# ONVIF camera records

The records `connect_camera` builds, with every field of the source. The `f32`
encoder quality is only copied, never computed with, so it is carried as its
bit pattern.
-/
namespace MatterBridge.Onvif

structure DeviceInfo where
  manufacturer : String
  model : String
  firmwareVersion : String
  serialNumber : String
  hardwareId : String
  deriving DecidableEq, Repr

structure VideoEncoderConfig where
  codec : String
  width : UInt16
  height : UInt16
  frameRate : UInt16
  bitrate : UInt32
  /-- Bit pattern of the source's `f32`. -/
  quality : UInt32
  deriving DecidableEq, Repr

structure AudioEncoderConfig where
  codec : String
  bitrate : UInt32
  sampleRate : UInt32
  deriving DecidableEq, Repr

structure MediaProfile where
  token : String
  name : String
  videoEncoder : Option VideoEncoderConfig
  audioEncoder : Option AudioEncoderConfig
  ptzConfigToken : Option String
  deriving DecidableEq, Repr

structure CameraDevice where
  /-- Serial number, or `host:port` when the device reports none. -/
  id : String
  host : String
  port : UInt16
  deviceInfo : DeviceInfo
  profiles : List MediaProfile
  /-- Primary RTSP stream URI; empty when `GetStreamUri` failed. -/
  streamUri : String
  eventsUrl : Option String
  supportsMotion : Bool
  supportsPtz : Bool
  deriving DecidableEq, Repr

/-- The id `connect_camera` derives from what the device reports. -/
def deriveCameraId (serialNumber host : String) (port : UInt16) : String :=
  if serialNumber = "" ∨ serialNumber = "N/A" ∨ serialNumber = "0" then
    host ++ ":" ++ toString port.toNat
  else serialNumber

/-- A device that reported nothing but its id. -/
def CameraDevice.bare (id : String) : CameraDevice where
  id := id
  host := "10.0.0.5"
  port := 80
  deviceInfo := ⟨"", "", "", id, ""⟩
  profiles := []
  streamUri := ""
  eventsUrl := none
  supportsMotion := false
  supportsPtz := false

end MatterBridge.Onvif
