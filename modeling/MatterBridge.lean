import MatterBridge.Core.HashMap
import MatterBridge.Core.Run
import MatterBridge.Core.Broadcast
import MatterBridge.Core.Silence
import MatterBridge.Core.Str
import MatterBridge.Core.Unicode
import MatterBridge.Onvif.Types
import MatterBridge.Onvif.Registry
import MatterBridge.Onvif.Discovery
import MatterBridge.Onvif.MissProtocol
import MatterBridge.Onvif.Addresses
import MatterBridge.Bridge.Intake
import MatterBridge.Bridge.Freshness
import MatterBridge.Slots.SlotMap
import MatterBridge.Slots.PrettyJson
import MatterBridge.Slots.Lifetimes
import MatterBridge.Bridge.EventLoop
import MatterBridge.Bridge.LoopInvariant
import MatterBridge.Bridge.Hooks
import MatterBridge.Bridge.Reachability
import MatterBridge.Media.Go2Rtc
import MatterBridge.Media.StreamManager
import MatterBridge.Media.Convergence
import MatterBridge.Media.EventStep
import MatterBridge.Bridge.Healing
import MatterBridge.Bridge.Isolation
import MatterBridge.Matter.Occupancy
import MatterBridge.Slots.Allocation
import MatterBridge.Slots.TornSave
import MatterBridge.Slots.UntrustedFile
import MatterBridge.Onvif.RegistryLog
import MatterBridge.Bridge.EventSlot
import MatterBridge.Bridge.SelectLoop
import MatterBridge.Bridge.Seeding
import MatterBridge.Bridge.MotionPumps
import MatterBridge.Bridge.PhantomOccupancy
import MatterBridge.Bridge.DataVersion
import MatterBridge.Bridge.Config
import MatterBridge.Bridge.AnswerRetry
import MatterBridge.Bridge.MotionStream
import MatterBridge.Bridge.SeededStreams
import MatterBridge.Bridge.LoopSections
import MatterBridge.Core.Sections
import MatterBridge.Bridge.LiveView
import MatterBridge.Bridge.LaggedLoop
import MatterBridge.Bridge.EndpointIdentity
import MatterBridge.Bridge.MotionIsolation
import MatterBridge.Core.Percent
import MatterBridge.Media.Wire
import MatterBridge.Bridge.Admission
import MatterBridge.Bridge.StaticMode
import MatterBridge.Bridge.Provenance
import MatterBridge.Core.Pipeline
import MatterBridge.Onvif.ScanTask
import MatterBridge.Bridge.AutoMode
import MatterBridge.Bridge.MotionDelivery
import MatterBridge.Bridge.Node
import MatterBridge.Bridge.OneCamera
import MatterBridge.Onvif.Subscription
import MatterBridge.Bridge.SeedDriver
import MatterBridge.Bridge.Environment
import MatterBridge.Bridge.StartUp
