import MatterBridge.Bridge.EventLoop

/-!
# The Matter node and its handlers

The node declares which clusters each endpoint has, and a chain of matchers decides which
handler answers for a cluster of an endpoint. Both are written out by hand in the source, one
line for each camera endpoint; here they are compared.
-/
namespace MatterBridge.Bridge

inductive Cluster where
  | descriptor
  | groups
  | bridgedDeviceBasicInformation
  | cameraAvStreamManagement
  | webRtcTransportProvider
  | occupancySensing
  /-- A cluster of the root endpoint, by its number. -/
  | system (id : UInt32)
  deriving DecidableEq, Repr

inductive DeviceType where
  | aggregator
  | matterCamera
  | bridgedNode
  | rootNode
  deriving DecidableEq, Repr

structure Endpoint where
  id : UInt16
  deviceTypes : List DeviceType
  clusters : List Cluster
  deriving DecidableEq, Repr

def aggregatorEp : UInt16 := 1

def cameraEpStart : UInt16 := 2

/-- The endpoints of camera slots with and without the OccupancySensing cluster. -/
def cameraEndpoints (withOccupancy plain : List UInt16) : List Endpoint :=
  [⟨aggregatorEp, [.aggregator], [.descriptor]⟩] ++
    withOccupancy.map (fun id => ⟨id, [.matterCamera, .bridgedNode],
      [.descriptor, .groups, .bridgedDeviceBasicInformation, .cameraAvStreamManagement,
        .webRtcTransportProvider, .occupancySensing]⟩) ++
    plain.map (fun id => ⟨id, [.matterCamera, .bridgedNode],
      [.descriptor, .groups, .bridgedDeviceBasicInformation, .cameraAvStreamManagement,
        .webRtcTransportProvider]⟩)

/-- The node's endpoints after the root. -/
def node : List Endpoint := cameraEndpoints [2, 3, 4, 5, 6, 7, 8] [9]

/-- The handler instances; the number is the index into the array the instance comes from. -/
inductive NodeHandler where
  | system
  | aggregator
  | descriptor
  | groups
  | bridged (slot : Nat)
  | camAv (slot : Nat)
  | webRtc (slot : Nat)
  | occupancy (slot : Nat)
  deriving DecidableEq, Repr

/-- The camera slot whose state the handler works on. -/
def NodeHandler.slot? : NodeHandler → Option Nat
  | .system => none
  | .aggregator => none
  | .descriptor => none
  | .groups => none
  | .bridged slot => some slot
  | .camAv slot => some slot
  | .webRtc slot => some slot
  | .occupancy slot => some slot

structure EpClMatcher where
  endpoint : Option UInt16
  cluster : Option Cluster
  deriving DecidableEq, Repr

def EpClMatcher.matches (m : EpClMatcher) (ep : UInt16) (cl : Cluster) : Bool :=
  m.endpoint.all (· == ep) && m.cluster.all (· == cl)

abbrev HandlerChain := List (EpClMatcher × NodeHandler)

/-- The handler chained last is asked first. -/
def HandlerChain.chain (c : HandlerChain) (matcher : EpClMatcher) (handler : NodeHandler) :
    HandlerChain := (matcher, handler) :: c

def chainCameraBase (c : HandlerChain) (ep : UInt16) (idx : Nat) : HandlerChain :=
  ((((c.chain ⟨some ep, some .descriptor⟩ .descriptor).chain
    ⟨some ep, some .groups⟩ .groups).chain
    ⟨some ep, some .bridgedDeviceBasicInformation⟩ (.bridged idx)).chain
    ⟨some ep, some .cameraAvStreamManagement⟩ (.camAv idx)).chain
    ⟨some ep, some .webRtcTransportProvider⟩ (.webRtc idx)

def chainCameraEpWithOccupancy (c : HandlerChain) (ep : UInt16) (idx : Nat) : HandlerChain :=
  (chainCameraBase c ep idx).chain ⟨some ep, some .occupancySensing⟩ (.occupancy idx)

def dataModel : HandlerChain :=
  let c := HandlerChain.chain [] ⟨some aggregatorEp, some .descriptor⟩ .aggregator
  let c := chainCameraEpWithOccupancy c 2 0
  let c := chainCameraEpWithOccupancy c 3 1
  let c := chainCameraEpWithOccupancy c 4 2
  let c := chainCameraEpWithOccupancy c 5 3
  let c := chainCameraEpWithOccupancy c 6 4
  let c := chainCameraEpWithOccupancy c 7 5
  let c := chainCameraEpWithOccupancy c 8 6
  chainCameraBase c 9 7

/-- The first handler whose matcher accepts; the system handlers come last. -/
def route (ep : UInt16) (cl : Cluster) : NodeHandler :=
  ((dataModel.find? fun entry => entry.1.matches ep cl).map Prod.snd).getD .system

/-! ## What is advertised is handled -/

/-- The endpoint that stands for a camera slot. -/
def endpointOf (slot : Nat) : UInt16 := cameraEpStart + UInt16.ofNat slot

/-- The entries of the chain as pairs of an endpoint and a cluster. -/
def handled : List (UInt16 × Cluster) :=
  dataModel.filterMap fun entry =>
    entry.1.endpoint.bind fun ep => entry.1.cluster.map fun cl => (ep, cl)

def advertised : List (UInt16 × Cluster) :=
  node.flatMap fun endpoint => endpoint.clusters.map fun cl => (endpoint.id, cl)

/-- The two tables agree. -/
theorem handled_perm_advertised : handled.Perm advertised := by decide

/-- Every handler with a slot is chained at the endpoint of that slot. -/
theorem slots_dataModel : dataModel.all (fun entry =>
    entry.2.slot?.all fun slot =>
      entry.1.endpoint == some (endpointOf slot) && decide (slot < maxCameras)) = true := by
  decide

/-- An entry names its endpoint and its cluster and brings a handler of its own. -/
theorem full_dataModel : dataModel.all (fun entry => entry.1.endpoint.isSome &&
    entry.1.cluster.isSome && decide (entry.2 ≠ .system)) = true := by
  decide

theorem mem_of_route {ep : UInt16} {cl : Cluster} (h : route ep cl ≠ .system) :
    ∃ matcher, (matcher, route ep cl) ∈ dataModel ∧ matcher.matches ep cl = true := by
  unfold route at h ⊢
  cases hf : dataModel.find? fun entry => entry.1.matches ep cl with
  | none =>
    rw [hf] at h
    exact absurd rfl h
  | some entry =>
    have hmatch : entry.1.matches ep cl = true := by simpa using List.find?_some hf
    exact ⟨entry.1, List.mem_of_find?_eq_some hf, hmatch⟩

/-- The bridge's handlers answer for the advertised clusters and no others. -/
theorem route_ne_system_iff {ep : UInt16} {cl : Cluster} :
    route ep cl ≠ .system ↔ (ep, cl) ∈ advertised := by
  have hfull : ∀ entry ∈ dataModel, (∃ m c, entry.1 = ⟨some m, some c⟩) ∧ entry.2 ≠ .system := by
    rintro ⟨⟨endpoint, cluster⟩, handler⟩ hmem
    have hentry := List.all_eq_true.mp full_dataModel _ hmem
    simp only [Bool.and_eq_true, decide_eq_true_eq] at hentry
    obtain ⟨m, rfl⟩ := Option.isSome_iff_exists.mp hentry.1.1
    obtain ⟨c, rfl⟩ := Option.isSome_iff_exists.mp hentry.1.2
    exact ⟨⟨m, c, rfl⟩, hentry.2⟩
  rw [← handled_perm_advertised.mem_iff, handled, List.mem_filterMap]
  constructor
  · intro h
    obtain ⟨matcher, hmem, hmatch⟩ := mem_of_route h
    obtain ⟨⟨m, c, rfl⟩, _⟩ := hfull _ hmem
    simp only [EpClMatcher.matches, Option.all_some, Bool.and_eq_true, beq_iff_eq] at hmatch
    refine ⟨_, hmem, ?_⟩
    rw [← hmatch.1, ← hmatch.2]
    rfl
  · rintro ⟨entry, hmem, hentry⟩
    obtain ⟨⟨m, c, hmatcher⟩, _⟩ := hfull entry hmem
    have hmatch : entry.1.matches ep cl = true := by
      rw [hmatcher] at hentry ⊢
      cases hentry
      simp [EpClMatcher.matches]
    rw [route]
    cases hf : dataModel.find? fun entry => entry.1.matches ep cl with
    | none => exact absurd hmatch (List.find?_eq_none.mp hf entry hmem)
    | some found => exact (hfull found (List.mem_of_find?_eq_some hf)).2

/-- Two handlers of one endpoint work on the same slot. -/
theorem slot_of_route {ep : UInt16} {cl : Cluster} {handler : NodeHandler} {slot : Nat}
    (h : route ep cl = handler) (hs : handler.slot? = some slot) :
    ep = endpointOf slot ∧ slot < maxCameras := by
  subst h
  have hne : route ep cl ≠ .system := by
    intro he
    rw [he] at hs
    cases hs
  obtain ⟨matcher, hmem, hmatch⟩ := mem_of_route hne
  have hentry := List.all_eq_true.mp slots_dataModel _ hmem
  rw [hs, Option.all_some, Bool.and_eq_true, beq_iff_eq, decide_eq_true_eq] at hentry
  refine ⟨?_, hentry.2⟩
  rw [EpClMatcher.matches, hentry.1, Option.all_some, Bool.and_eq_true, beq_iff_eq] at hmatch
  exact hmatch.1.symm

theorem endpointOf_inj {slot k : Nat} (hs : slot < maxCameras) (hk : k < maxCameras)
    (h : endpointOf slot = endpointOf k) : slot = k := by
  have hnat := congrArg UInt16.toNat h
  have hbound : maxCameras = 8 := rfl
  simp only [endpointOf, cameraEpStart, UInt16.toNat_add, UInt16.toNat_ofNat'] at hnat
  have htwo : (2 : UInt16).toNat = 2 := rfl
  omega

end MatterBridge.Bridge
