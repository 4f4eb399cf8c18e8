import MatterBridge.Core.Run
import MatterBridge.Slots.PrettyJson
import MatterBridge.Slots.SlotMap

/-!
# Slots across restarts

`Storage` is an allocator together with the file it saves to. A restart drops
the allocator and loads the file again, possibly with other pool sizes. While
saves fail, memory and file diverge, so the safety invariant speaks about both.
-/
namespace MatterBridge.Slots

open MatterBridge.Core

namespace SlotMap

/-- `now` has kept every entry of `old`, and whoever came later uses other slots. -/
structure Extends (old now : SlotMap) : Prop where
  kept : ∀ k slot, old.map.lookup k = some slot → now.map.lookup k = some slot
  apart : ∀ k k' slot, old.map.lookup k = some slot → k' ∉ old.map →
    now.map.lookup k' ≠ some slot

theorem Extends.refl {old now : SlotMap} (h : now.map = old.map) : Extends old now where
  kept k slot hk := by rw [h, hk]
  apart k k' slot _ hk' := by
    rw [h, Finmap.lookup_eq_none.mpr hk']
    exact Option.some_ne_none slot ∘ Eq.symm

theorem Extends.assign {old now : SlotMap} (h : Extends old now) (id : String) (wants : Bool) :
    Extends old (now.assign id wants).slots := by
  refine ⟨fun k slot hk => SlotMap.lookup_assign (h.kept k slot hk), ?_⟩
  intro k k' slot hk hk'
  rcases now.assign_cases id wants with ⟨_, _, he⟩ | ⟨_, he⟩ | ⟨new, _, hv, _, he⟩
  · rw [he]
    exact h.apart k k' slot hk hk'
  · rw [he]
    exact h.apart k k' slot hk hk'
  · rw [he, HashMap.lookup_insert_eq]
    split
    · -- A fresh slot is nobody's, in particular not a remembered camera's.
      intro hnew
      rw [Option.some.inj hnew] at hv
      exact hv k (h.kept k slot hk)
    · exact h.apart k k' slot hk hk'

end SlotMap

variable [SerdeJson]

/-- A failed save leaves the old file, or a file that does not parse. -/
def SaveOutcome.Clean : SaveOutcome → Prop
  | .written _ => True
  | .kept => True
  | .torn content => SerdeJson.fromStr content = none

structure Storage where
  slots : SlotMap
  file : SlotFile

/-- One `assign` call and the fate of the save it may run. -/
structure Call where
  id : String
  wants : Bool
  outcome : SaveOutcome

namespace Storage

def boot (file : SlotFile) (capacity withOccupancy : Nat) : Storage :=
  ⟨SlotMap.load file capacity withOccupancy, file⟩

def restart (s : Storage) (capacity withOccupancy : Nat) : Storage :=
  boot s.file capacity withOccupancy

/-- The slot returned, and the storage afterwards. -/
def call (s : Storage) (c : Call) : Option Nat × Storage :=
  let a := s.slots.assign c.id c.wants
  (a.slot, ⟨a.slots, if a.saves then a.slots.save s.file c.outcome else s.file⟩)

def calls (s : Storage) (cs : List Call) : Storage := cs.foldl (fun s c => (s.call c).2) s

def forget (s : Storage) (id : String) (outcome : SaveOutcome) : Storage :=
  ⟨(s.slots.forget id).1,
    if (s.slots.forget id).2 then (s.slots.forget id).1.save s.file outcome else s.file⟩

/-- The fate of the most recent save of a run, if the run saved at all. -/
def lastSave (s : Storage) : List Call → Option SaveOutcome
  | [] => none
  | c :: cs => (lastSave (s.call c).2 cs).or
      (if (s.slots.assign c.id c.wants).saves then some c.outcome else none)

/-- Loading the file with the same capacity gives the map in memory. -/
def Current (s : Storage) : Prop :=
  ∀ withOccupancy, (SlotMap.load s.file s.slots.capacity withOccupancy).map = s.slots.map

/-- The most recent save succeeded; a run without any save starts from a loaded map. -/
def Saved (s : Storage) (cs : List Call) : Prop :=
  match s.lastSave cs with
  | some outcome => ∃ seed, outcome = .written seed
  | none => s.Current

@[simp] theorem calls_nil (s : Storage) : s.calls [] = s := rfl

@[simp] theorem calls_cons (s : Storage) (c : Call) (cs : List Call) :
    s.calls (c :: cs) = (s.call c).2.calls cs := rfl

theorem calls_append (s : Storage) (cs ds : List Call) :
    s.calls (cs ++ ds) = (s.calls cs).calls ds := List.foldl_append

/-! ## One run, then a restart -/

theorem saved_step {s : Storage} (hr : s.slots.InRange)
    (hfit : s.slots.withOccupancy ≤ s.slots.capacity) {c : Call} {cs : List Call}
    (h : s.Saved (c :: cs)) : (s.call c).2.Saved cs := by
  unfold Saved at h ⊢
  rw [lastSave] at h
  cases hl : (s.call c).2.lastSave cs with
  | some outcome =>
    rw [hl] at h
    exact h
  | none =>
    rw [hl, Option.none_or] at h
    change (s.call c).2.Current
    intro withOccupancy
    cases hs : (s.slots.assign c.id c.wants).saves with
    | true =>
      -- The last save of the run wrote the whole map, whatever the file held before.
      simp only [hs, if_true] at h
      obtain ⟨seed, hseed⟩ := h
      simp only [call, hs, if_true, hseed, SlotMap.save]
      exact SlotMap.load_written (hr.assign hfit c.id c.wants) seed withOccupancy
    | false =>
      simp only [hs, Bool.false_eq_true, if_false] at h
      simp only [call, hs, Bool.false_eq_true, if_false, SlotMap.assign_unsaved hs]
      exact h withOccupancy

theorem current_of_saved {s : Storage} {cs : List Call} (hr : s.slots.InRange)
    (hfit : s.slots.withOccupancy ≤ s.slots.capacity) (h : s.Saved cs) :
    (s.calls cs).Current := by
  induction cs generalizing s with
  | nil => exact h
  | cons c cs ih =>
    refine ih (hr.assign hfit c.id c.wants) ?_ (saved_step hr hfit h)
    simpa [call] using hfit

/-- A slot once recorded for a camera stays on record. -/
theorem lookup_calls {s : Storage} {k : String} {slot : Nat}
    (h : s.slots.map.lookup k = some slot) (cs : List Call) :
    (s.calls cs).slots.map.lookup k = some slot := by
  induction cs generalizing s with
  | nil => exact h
  | cons c cs ih => exact ih (SlotMap.lookup_assign h)

theorem extends_calls {old : SlotMap} {s : Storage} (h : SlotMap.Extends old s.slots)
    (cs : List Call) : SlotMap.Extends old (s.calls cs).slots := by
  induction cs generalizing s with
  | nil => exact h
  | cons c cs ih => exact ih (h.assign c.id c.wants)

/-- **Endpoints survive a restart.** After a run whose last save succeeded, a
restart with the same capacity and any further calls: every slot the run handed
out, or had loaded, is returned again to its camera, and a camera the run did not
know never gets one of those slots. -/
theorem endpoints_survive_restart {s : Storage} (hr : s.slots.InRange)
    (hfit : s.slots.withOccupancy ≤ s.slots.capacity) {before : List Call} (hs : s.Saved before)
    (withOccupancy : Nat) (after : List Call) (c : Call) :
    let old := (s.calls before).slots
    let now := ((s.calls before).restart old.capacity withOccupancy).calls after
    (∀ pre b post slot, before = pre ++ b :: post → ((s.calls pre).call b).1 = some slot →
      old.map.lookup b.id = some slot) ∧
    (∀ slot, old.map.lookup c.id = some slot → (now.call c).1 = some slot) ∧
    (c.id ∉ old.map → ∀ k slot, old.map.lookup k = some slot → (now.call c).1 ≠ some slot) := by
  intro old now
  have hext : SlotMap.Extends old now.slots :=
    extends_calls (SlotMap.Extends.refl (current_of_saved hr hfit hs withOccupancy)) after
  refine ⟨?_, ?_, ?_⟩
  · rintro pre b post slot rfl hslot
    change (s.calls (pre ++ b :: post)).slots.map.lookup b.id = some slot
    rw [calls_append, calls_cons]
    exact lookup_calls (SlotMap.lookup_of_slot hslot) post
  · intro slot hslot
    change (now.slots.assign c.id c.wants).slot = some slot
    rw [SlotMap.assign_known (hext.kept _ _ hslot)]
  · intro hnew k slot hk hslot
    exact (hext.assign c.id c.wants).apart k c.id slot hk hnew (SlotMap.lookup_of_slot hslot)

omit [SerdeJson] in
/-- A torn first save, a successful second one, a restart, and a newcomer before
the first camera is back. -/
theorem endpoints_survive_restart_newcomer :
    letI := PrettyJson.serdeJson
    let old := (boot none 2 1).calls
      [⟨"cam-a", true, .torn []⟩, ⟨"cam-b", true, .written 0⟩]
    (((old.restart 2 1).calls [⟨"cam-c", true, .kept⟩]).call ⟨"cam-a", false, .kept⟩).1 =
      some 0 := by
  let _ := PrettyJson.serdeJson
  have hs : (boot none 2 1).Saved [⟨"cam-a", true, .torn []⟩, ⟨"cam-b", true, .written 0⟩] :=
    (⟨0, rfl⟩ : ∃ seed, SaveOutcome.written 0 = .written seed)
  exact (endpoints_survive_restart (SlotMap.inRange_load none 2 1) (by decide) hs 1
    [⟨"cam-c", true, .kept⟩] ⟨"cam-a", false, .kept⟩).2.1 0 (by decide)

/-! ## All lifetimes -/

inductive Label where
  | restart (capacity withOccupancy : Nat)
  | assign (c : Call)
  | forget (id : String) (outcome : SaveOutcome)

inductive Step : Storage → Label → Storage → Prop
  | restart {s : Storage} {capacity withOccupancy : Nat} : withOccupancy ≤ capacity →
      Step s (.restart capacity withOccupancy) (s.restart capacity withOccupancy)
  | assign {s : Storage} {c : Call} : c.outcome.Clean → Step s (.assign c) (s.call c).2
  | forget {s : Storage} {id : String} {outcome : SaveOutcome} : outcome.Clean →
      Step s (.forget id outcome) (s.forget id outcome)

/-- Distinct slots below the capacity, in memory and, as far as it parses, on disk. -/
structure Sound (s : Storage) : Prop where
  fits : s.slots.withOccupancy ≤ s.slots.capacity
  inRange : s.slots.InRange
  exclusive : s.slots.map.Injective
  onDisk : ∀ p, s.file.bind SerdeJson.fromStr = some p → p.cameras.Injective

theorem injective_load {file : SlotFile} (capacity withOccupancy : Nat)
    (h : ∀ p, file.bind SerdeJson.fromStr = some p → p.cameras.Injective) :
    (SlotMap.load file capacity withOccupancy).map.Injective := by
  simp only [SlotMap.load]
  split
  · rename_i p hp
    exact (h p hp).retain _
  · exact HashMap.injective_empty

theorem sound_boot {file : SlotFile} {capacity withOccupancy : Nat}
    (hfit : withOccupancy ≤ capacity)
    (h : ∀ p, file.bind SerdeJson.fromStr = some p → p.cameras.Injective) :
    Sound (boot file capacity withOccupancy) where
  fits := hfit
  inRange := SlotMap.inRange_load file capacity withOccupancy
  exclusive := injective_load capacity withOccupancy h
  onDisk := h

/-- A clean save of an injective map leaves an injective file. -/
theorem injective_save {m : SlotMap} {file : SlotFile} {outcome : SaveOutcome}
    (hc : outcome.Clean) (hm : m.map.Injective)
    (h : ∀ p, file.bind SerdeJson.fromStr = some p → p.cameras.Injective) :
    ∀ p, (m.save file outcome).bind SerdeJson.fromStr = some p → p.cameras.Injective := by
  intro p hp
  cases outcome with
  | written seed =>
    simp only [SlotMap.save, Option.bind_some, SerdeJson.round_trip, Option.some.injEq] at hp
    rwa [← hp]
  | kept => exact h p hp
  | torn content =>
    have hnone : SerdeJson.fromStr content = none := hc
    simp only [SlotMap.save, Option.bind_some, hnone, reduceCtorEq] at hp

theorem Sound.step {s t : Storage} {l : Label} (h : Sound s) (hs : Step s l t) : Sound t := by
  cases hs with
  | restart hfit => exact sound_boot hfit h.onDisk
  | @assign c hc =>
    have hinj := SlotMap.injective_assign h.exclusive c.id c.wants
    refine ⟨by simpa [call] using h.fits, h.inRange.assign h.fits c.id c.wants, hinj, ?_⟩
    simp only [call]
    split
    · exact injective_save hc hinj h.onDisk
    · exact h.onDisk
  | @forget id outcome hc =>
    have hinj := SlotMap.injective_forget h.exclusive id
    refine ⟨?_, h.inRange.forget id, hinj, ?_⟩
    · simp only [forget, SlotMap.forget]
      split <;> exact h.fits
    · simp only [forget]
      split
      · exact injective_save hc hinj h.onDisk
      · exact h.onDisk

/-- **Slots are exclusive over all lifetimes.** Starting without a file, no
sequence of restarts, assignments and forgets, with saves that succeed, leave the
old file or leave an unreadable one, ever maps a slot outside the capacity or
maps two cameras to one slot. -/
theorem slots_exclusive {capacity withOccupancy : Nat} (hfit : withOccupancy ≤ capacity)
    {labels : List Label} {s : Storage}
    (h : Run Step (boot none capacity withOccupancy) labels s) :
    (∀ id slot, s.slots.map.lookup id = some slot → slot < s.slots.capacity) ∧
    (∀ id id' slot, s.slots.map.lookup id = some slot → s.slots.map.lookup id' = some slot →
      id = id') := by
  have hsound : Sound s := h.invariant Sound (fun _ _ _ hs hstep => hs.step hstep)
    (sound_boot hfit (by simp))
  exact ⟨hsound.inRange, hsound.exclusive⟩

omit [SerdeJson] in
/-- A torn save, a restart with a smaller pool, and another camera on the same slot. -/
theorem slots_exclusive_after_shrink :
    letI := PrettyJson.serdeJson
    let torn := ((boot none 8 7).call ⟨"cam-a", true, .torn []⟩).2
    let s := ((torn.restart 2 1).call ⟨"cam-b", true, .kept⟩).2
    s.slots.map.lookup "cam-b" = some 0 ∧ 0 < s.slots.capacity := by
  intro torn s
  let _ := PrettyJson.serdeJson
  have h : Run Step (boot none 8 7) [.assign ⟨"cam-a", true, .torn []⟩, .restart 2 1,
      .assign ⟨"cam-b", true, .kept⟩] s :=
    Run.cons (.assign (rfl : PrettyJson.fromStr [] = none))
      (Run.cons (.restart (by decide)) (Run.one (.assign trivial)))
  have hslot : s.slots.map.lookup "cam-b" = some 0 := rfl
  exact ⟨hslot, (slots_exclusive (by decide) h).1 "cam-b" 0 hslot⟩

end Storage

end MatterBridge.Slots
