import Mathlib.Data.Finset.Basic
import MatterBridge.Core.HashMap
import MatterBridge.Core.Run

/-!
# The occupancy cluster of one slot

The motion flag and the data version are two atomics, and nothing updates both at
once. A pump notification swaps the flag and bumps the version afterwards, if the
value changed; a read loads the version first and the flag afterwards. Pumps,
framework bumps and reads interleave freely, one atomic operation a step.
-/
namespace MatterBridge.Matter

open MatterBridge.Core

structure MotionState where
  detected : Bool
  deriving DecidableEq, Repr

namespace MotionState

def new : MotionState := ⟨false⟩

def isDetected (m : MotionState) : Bool := m.detected

/-- The flag afterwards, and whether the value changed. -/
def set (m : MotionState) (v : Bool) : MotionState × Bool := (⟨v⟩, m.detected != v)

theorem set_eq_self {m : MotionState} {v : Bool} (h : (m.set v).2 = false) : (m.set v).1 = m := by
  have hv : m.detected = v := by simpa only [set, bne_eq_false_iff_eq] using h
  rw [← hv]
  rfl

end MotionState

structure OccupancyDataver where
  version : UInt32
  deriving DecidableEq, Repr

namespace OccupancyDataver

def new (initial : UInt32) : OccupancyDataver := ⟨initial⟩

def get (d : OccupancyDataver) : UInt32 := d.version

def bump (d : OccupancyDataver) : OccupancyDataver := ⟨d.version + 1⟩

end OccupancyDataver

/-- The two cells a motion pump and the handler of its slot share. -/
structure OccupancySensor where
  motion : MotionState
  dataver : OccupancyDataver
  deriving DecidableEq, Repr

/-- The callback the loop gives a pump. -/
def OccupancySensor.onChange (s : OccupancySensor) (motion : Bool) : OccupancySensor :=
  if (s.motion.set motion).2 then ⟨(s.motion.set motion).1, s.dataver.bump⟩
  else ⟨(s.motion.set motion).1, s.dataver⟩

theorem OccupancySensor.isDetected_onChange (s : OccupancySensor) (motion : Bool) :
    (s.onChange motion).motion.isDetected = motion := by
  rw [onChange]
  split <;> rfl

inductive Attributes where
  | occupancy
  | occupancySensorType
  | occupancySensorTypeBitmap
  deriving DecidableEq, Repr

def Attributes.fromRepr (attrId : UInt32) : Option Attributes :=
  if attrId = 0 then some .occupancy
  else if attrId = 1 then some .occupancySensorType
  else if attrId = 2 then some .occupancySensorTypeBitmap
  else none

def sensorTypePir : UInt8 := 0

def sensorTypeBitmapPir : UInt8 := 1

structure ReadRequest where
  attrId : UInt32
  /-- One of the global attributes, answered from the cluster's metadata. -/
  isSystem : Bool
  /-- The data version the client has already seen. -/
  filter : Option UInt32
  deriving DecidableEq, Repr

inductive ReadReply where
  /-- `with_dataver` gave no writer: the client is up to date. -/
  | skipped
  | system (attrId : UInt32)
  | set (value : UInt8)
  | unsupported
  deriving DecidableEq, Repr

def occupancyBits (motion : Bool) : UInt8 := if motion then 1 else 0

/-- `OccupancyHandler::read` once it has loaded the version `dv`. -/
def OccupancyHandler.read (motion : MotionState) (dv : UInt32) (request : ReadRequest) :
    ReadReply :=
  if request.filter = some dv then .skipped
  else if request.isSystem then .system request.attrId
  else match Attributes.fromRepr request.attrId with
    | some .occupancy => .set (occupancyBits motion.isDetected)
    | some .occupancySensorType => .set sensorTypePir
    | some .occupancySensorTypeBitmap => .set sensorTypeBitmapPir
    | none => .unsupported

/-- The request asks for the Occupancy attribute. -/
def ReadRequest.ForOccupancy (request : ReadRequest) : Prop :=
  request.isSystem = false ∧ request.attrId = 0

inductive ReadPhase where
  | loaded (request : ReadRequest) (dv : UInt32)
  | replied (request : ReadRequest) (dv : UInt32) (reply : ReadReply)

structure Occupancy where
  motion : MotionState
  dataver : OccupancyDataver
  /-- Pumps between their `set` and their `bump`. -/
  bumping : Finset Nat
  /-- The reads that have loaded the version. -/
  reads : HashMap Nat ReadPhase

namespace Occupancy

/-- `initial` is a random number. -/
def start (initial : UInt32) : Occupancy := ⟨.new, .new initial, ∅, ∅⟩

inductive Label where
  /-- A pump's callback swaps the flag. -/
  | set (pump : Nat) (motion : Bool)
  /-- The same callback bumps the version. -/
  | bump (pump : Nat)
  /-- `Handler::bump_dataver`, called by the framework. -/
  | bumpDataver
  | get (read : Nat) (request : ReadRequest)
  | reply (read : Nat)
  deriving DecidableEq

inductive Step : Occupancy → Label → Occupancy → Prop
  | set {s : Occupancy} {pump : Nat} {motion : Bool} : pump ∉ s.bumping →
      Step s (.set pump motion) { s with
        motion := (s.motion.set motion).1
        bumping := if (s.motion.set motion).2 then insert pump s.bumping else s.bumping }
  | bump {s : Occupancy} {pump : Nat} : pump ∈ s.bumping →
      Step s (.bump pump) { s with
        dataver := s.dataver.bump
        bumping := s.bumping.erase pump }
  | bumpDataver {s : Occupancy} : Step s .bumpDataver { s with dataver := s.dataver.bump }
  | get {s : Occupancy} {read : Nat} {request : ReadRequest} : read ∉ s.reads →
      Step s (.get read request) { s with
        reads := s.reads.insert read (.loaded request s.dataver.get) }
  | reply {s : Occupancy} {read : Nat} {request : ReadRequest} {dv : UInt32} :
      s.reads.lookup read = some (.loaded request dv) →
      Step s (.reply read) { s with
        reads := s.reads.insert read
          (.replied request dv (OccupancyHandler.read s.motion dv request)) }

/-- No pump is between its set and its bump. -/
def Quiescent (s : Occupancy) : Prop := s.bumping = ∅

def Label.isBump : Label → Bool
  | .set _ _ => false
  | .bump _ => true
  | .bumpDataver => true
  | .get _ _ => false
  | .reply _ => false

/-- Number of bumps among the steps of a run. -/
def bumps (labels : List Label) : Nat := labels.countP Label.isBump

theorem bumps_snoc (labels : List Label) (l : Label) :
    bumps (labels ++ [l]) = bumps labels + if l.isBump then 1 else 0 := by
  unfold bumps
  rw [List.countP_append, List.countP_singleton]

/-- The version counts the bumps modulo its width. -/
theorem Step.version {s t : Occupancy} {l : Label} (h : Step s l t) :
    t.dataver.get = s.dataver.get + UInt32.ofNat (if l.isBump then 1 else 0) := by
  cases h with
  | bump _ => rfl
  | bumpDataver => rfl
  | set _ => exact (UInt32.add_zero _).symm
  | get _ => exact (UInt32.add_zero _).symm
  | reply _ => exact (UInt32.add_zero _).symm

/-- What a read that loaded version `dv` has seen, `n` bumps later. A reply given
before the first of these bumps is still what the handler would say, unless a pump
has swapped the flag and owes a bump. -/
inductive Seen (i : Nat) (request : ReadRequest) (dv : UInt32) (n : Nat) (s : Occupancy) : Prop
  | loaded : s.reads.lookup i = some (.loaded request dv) → Seen i request dv n s
  | replied {reply : ReadReply} : s.reads.lookup i = some (.replied request dv reply) →
      (n = 0 → s.Quiescent → reply = OccupancyHandler.read s.motion dv request) →
      Seen i request dv n s

theorem Seen.step {i : Nat} {request : ReadRequest} {dv : UInt32} {n : Nat} {s t : Occupancy}
    {l : Label} (h : Seen i request dv n s) (hs : Step s l t) :
    Seen i request dv (n + if l.isBump then 1 else 0) t := by
  cases hs with
  | @set pump motion _ =>
    cases h with
    | loaded hl => exact .loaded hl
    | replied hl hagree =>
      refine .replied hl fun hn hq => ?_
      have hold : (s.motion.set motion).2 = false := by
        by_contra hc
        rw [Bool.not_eq_false] at hc
        have hq' : insert pump s.bumping = ∅ := by simpa only [Quiescent, hc, if_true] using hq
        exact Finset.insert_ne_empty pump s.bumping hq'
      have hq' : s.Quiescent := by
        simpa only [Quiescent, hold, Bool.false_eq_true, if_false] using hq
      show _ = OccupancyHandler.read (s.motion.set motion).1 dv request
      rw [MotionState.set_eq_self hold]
      exact hagree hn hq'
  | bump _ =>
    cases h with
    | loaded hl => exact .loaded hl
    | replied hl _ => exact .replied hl fun hn => absurd hn (Nat.succ_ne_zero n)
  | bumpDataver =>
    cases h with
    | loaded hl => exact .loaded hl
    | replied hl _ => exact .replied hl fun hn => absurd hn (Nat.succ_ne_zero n)
  | @get read _ hfresh =>
    have hne : ∀ {phase}, s.reads.lookup i = some phase → i ≠ read := by
      intro phase hp he
      rw [← he, ← Finmap.lookup_isSome, hp] at hfresh
      exact hfresh rfl
    cases h with
    | loaded hl => exact .loaded ((Finmap.lookup_insert_of_ne s.reads (hne hl)).trans hl)
    | replied hl hagree =>
      exact .replied ((Finmap.lookup_insert_of_ne s.reads (hne hl)).trans hl) hagree
  | @reply read _ _ hread =>
    by_cases hi : i = read
    · subst hi
      cases h with
      | loaded hl =>
        rw [hl] at hread
        cases hread
        exact .replied (Finmap.lookup_insert s.reads) fun _ _ => rfl
      | replied hl _ =>
        rw [hl] at hread
        cases hread
    · cases h with
      | loaded hl => exact .loaded ((Finmap.lookup_insert_of_ne s.reads hi).trans hl)
      | replied hl hagree =>
        exact .replied ((Finmap.lookup_insert_of_ne s.reads hi).trans hl) hagree

/-- The version and the read, any number of steps after the load. -/
theorem seen_of_run {i : Nat} {request : ReadRequest} {dv : UInt32} {labels : List Label}
    {s t : Occupancy} (hs : s.reads.lookup i = some (.loaded request dv)) (hv : s.dataver.get = dv)
    (h : Run Step s labels t) :
    t.dataver.get = dv + UInt32.ofNat (bumps labels) ∧ Seen i request dv (bumps labels) t := by
  refine h.history (fun labels t => t.dataver.get = dv + UInt32.ofNat (bumps labels) ∧
    Seen i request dv (bumps labels) t) ⟨?_, .loaded hs⟩ ?_
  · rw [hv]
    exact (UInt32.add_zero dv).symm
  · intro labels t l u ih hstep
    obtain ⟨hver, hseen⟩ := ih
    rw [bumps_snoc]
    refine ⟨?_, hseen.step hstep⟩
    rw [hstep.version, hver, UInt32.ofNat_add, UInt32.add_assoc]

/-- Fewer bumps than the version has values bring it back only if there were none. -/
theorem no_bumps_of_version {dv : UInt32} {n : Nat} (h : dv + UInt32.ofNat n = dv)
    (hn : n < 2 ^ 32) : n = 0 := by
  have hnat := congrArg UInt32.toNat h
  rw [UInt32.toNat_add, UInt32.toNat_ofNat_of_lt' hn] at hnat
  have hlt := dv.toNat_lt
  omega

theorem occupancyBits_inj {v w : Bool} (h : occupancyBits v = occupancyBits w) : v = w := by
  cases v <;> cases w <;> first | rfl | exact absurd h (by decide)

/-- **Data-version coherence.** A read of the Occupancy attribute returned version
`d` and value `v`. In every later quiescent state whose version is `d`, fewer than
`2 ^ 32` bumps after the read loaded it, the motion flag is `v`, whatever pumps,
framework bumps and other reads did before, in between and since. -/
theorem dataver_coherent {initial : UInt32} {before after : List Label} {i : Nat}
    {request : ReadRequest} {s : Occupancy}
    (h : Run Step (start initial) (before ++ .get i request :: after) s) (hq : s.Quiescent)
    (hocc : request.ForOccupancy) {d : UInt32} {v : Bool}
    (hread : s.reads.lookup i = some (.replied request d (.set (occupancyBits v))))
    (hd : s.dataver.get = d) (hlt : bumps after < 2 ^ 32) : s.motion.isDetected = v := by
  rw [List.append_cons] at h
  obtain ⟨s₂, hload, hafter⟩ := h.append_inv
  obtain ⟨s₁, _, hget⟩ := hload.snoc_inv
  cases hget with
  | get _ =>
    obtain ⟨hver, hseen⟩ := seen_of_run (Finmap.lookup_insert s₁.reads) rfl hafter
    cases hseen with
    | loaded hl =>
      rw [hl] at hread
      cases hread
    | replied hl hagree =>
      rw [hl] at hread
      cases hread
      have hnone := no_bumps_of_version (hver.symm.trans hd) hlt
      have hreply := hagree hnone hq
      unfold OccupancyHandler.read at hreply
      simp only [hocc.1, hocc.2, Bool.false_eq_true, if_false, Attributes.fromRepr,
        if_true] at hreply
      split at hreply
      · cases hreply
      · exact (occupancyBits_inj (ReadReply.set.inj hreply)).symm

/-- The flag rises and is read; a second notification of the same value follows. -/
theorem dataver_coherent_repeated_motion :
    ∃ s, Run Step (start 41) [.set 0 true, .bump 0, .get 7 ⟨0, false, none⟩, .reply 7,
        .set 0 true] s ∧ s.dataver.get = 42 ∧ s.motion.isDetected = true := by
  let request : ReadRequest := ⟨0, false, none⟩
  let up : Occupancy := ⟨⟨true⟩, ⟨42⟩, ∅, ∅⟩
  let loaded : Occupancy := { up with reads := (∅ : HashMap _ _).insert 7 (.loaded request 42) }
  let s : Occupancy := { up with reads := loaded.reads.insert 7 (.replied request 42 (.set 1)) }
  have hrun : Run Step (start 41) ([.set 0 true, .bump 0] ++ .get 7 request ::
      [.reply 7, .set 0 true]) s :=
    Run.cons (.set (by decide)) (Run.cons (.bump (by decide)) (Run.cons (t := loaded)
      (.get (s := up) (by decide)) (Run.cons (t := s) (.reply (s := loaded) rfl)
        (Run.one (.set (s := s) (by decide))))))
  exact ⟨s, hrun, rfl, dataver_coherent hrun rfl ⟨rfl, rfl⟩ (v := true) rfl rfl (by decide)⟩

end Occupancy

end MatterBridge.Matter
