import MatterBridge.Slots.PrettyJson
import MatterBridge.Slots.SlotMap

/-!
# A save that stops halfway

`save` overwrites the file in place: it truncates the file, then writes the bytes in
order. A full disk or a power loss may stop it anywhere. A file cut short does not
decode, and `load` takes such a file for a missing one.
-/
namespace MatterBridge.Slots

open MatterBridge.Core

/-- Where a save stops. -/
inductive SaveStop where
  /-- The directory or the file could not be opened. -/
  | untouched
  /-- The file was truncated and this many bytes were written. -/
  | written (bytes : Nat)
  deriving DecidableEq, Repr

/-- What a stopped save of `text` does to the file. -/
def SaveStop.outcome (text : List UInt8) : SaveStop → SaveOutcome
  | .untouched => .kept
  | .written bytes => .torn (text.take bytes)

/-- The save stopped before it truncated the file, or not at all. -/
def SaveStop.Harmless (text : List UInt8) : SaveStop → Prop
  | .untouched => True
  | .written bytes => text.length ≤ bytes

variable [SerdeJson]

/-- A printed object that is cut short is a syntax error. -/
def SerdeJson.RejectsTruncated : Prop :=
  ∀ p seed n, n < (SerdeJson.toStringPretty p seed).length →
    SerdeJson.fromStr ((SerdeJson.toStringPretty p seed).take n) = none

namespace SlotMap

theorem load_undecodable {file : SlotFile} (h : file.bind SerdeJson.fromStr = none)
    (capacity withOccupancy : Nat) : (load file capacity withOccupancy).map = ∅ := by
  unfold load
  rw [h]

/-- What is loaded after a save of `new` over a file that held `old` stopped. -/
theorem load_stopped (htrunc : SerdeJson.RejectsTruncated) {old new : SlotMap}
    (hold : old.InRange) (hnew : new.InRange) (hcap : new.capacity = old.capacity)
    (oldSeed seed withOccupancy : Nat) (stop : SaveStop) :
    (load (new.save (some (SerdeJson.toStringPretty ⟨old.map⟩ oldSeed))
        (stop.outcome (SerdeJson.toStringPretty ⟨new.map⟩ seed))) old.capacity withOccupancy).map =
      match stop with
      | .untouched => old.map
      | .written bytes =>
        if (SerdeJson.toStringPretty ⟨new.map⟩ seed).length ≤ bytes then new.map else ∅ := by
  cases stop with
  | untouched => exact load_written hold oldSeed withOccupancy
  | written bytes =>
    show (load (some ((SerdeJson.toStringPretty ⟨new.map⟩ seed).take bytes)) _ _).map = _
    by_cases hlen : (SerdeJson.toStringPretty ⟨new.map⟩ seed).length ≤ bytes
    · rw [List.take_of_length_le hlen, ← hcap, load_written hnew]
      exact (if_pos hlen).symm
    · have hnone : (some ((SerdeJson.toStringPretty ⟨new.map⟩ seed).take bytes)).bind
          SerdeJson.fromStr = none := htrunc ⟨new.map⟩ seed bytes (by omega)
      rw [load_undecodable hnone]
      exact (if_neg hlen).symm

/-- **A stopped save keeps a mapping, with its exact condition.** The file held the
saved map, a new camera is assigned, and the save of the new map stops somewhere.
Loading the file gives the old or the new mapping exactly when the save stopped before
it truncated the file, or wrote every byte, or there was no mapping to lose. -/
theorem stopped_save_iff (htrunc : SerdeJson.RejectsTruncated) {m : SlotMap} (hr : m.InRange)
    (hfit : m.withOccupancy ≤ m.capacity) {id : String} {wants : Bool}
    (hnew : (m.assign id wants).saves = true) (oldSeed seed withOccupancy : Nat)
    (stop : SaveStop) :
    let new := (m.assign id wants).slots
    let text := SerdeJson.toStringPretty ⟨new.map⟩ seed
    let file := new.save (some (SerdeJson.toStringPretty ⟨m.map⟩ oldSeed)) (stop.outcome text)
    let loaded := (load file m.capacity withOccupancy).map
    (loaded = m.map ∨ loaded = new.map) ↔ stop.Harmless text ∨ m.map = ∅ := by
  intro new text file loaded
  have hload := load_stopped htrunc hr (hr.assign hfit id wants) (m.capacity_assign id wants)
    oldSeed seed withOccupancy stop
  have hne : new.map ≠ ∅ := by
    rcases m.assign_cases id wants with ⟨_, _, he⟩ | ⟨_, he⟩ | ⟨slot, _, _, _, he⟩
    · rw [he] at hnew
      cases hnew
    · rw [he] at hnew
      cases hnew
    · show (m.assign id wants).slots.map ≠ ∅
      rw [he]
      intro hempty
      have hself : (m.map.insert id slot).lookup id = some slot := Finmap.lookup_insert m.map
      rw [show m.map.insert id slot = ∅ from hempty, Finmap.lookup_empty] at hself
      cases hself
  cases stop with
  | untouched => exact ⟨fun _ => Or.inl trivial, fun _ => Or.inl hload⟩
  | written bytes =>
    by_cases hlen : text.length ≤ bytes
    · have hloaded : loaded = new.map := hload.trans (if_pos hlen)
      exact ⟨fun _ => Or.inl hlen, fun _ => Or.inr hloaded⟩
    · have hloaded : loaded = ∅ := hload.trans (if_neg hlen)
      rw [hloaded]
      constructor
      · intro h
        rcases h with hold | hempty
        · exact Or.inr hold.symm
        · exact absurd hempty.symm hne
      · intro h
        rcases h with hall | hold
        · exact absurd hall hlen
        · exact Or.inl hold.symm

omit [SerdeJson] in
/-- The first save of all stops after one byte: the empty mapping is still there. -/
theorem stopped_save_iff_first_save :
    letI := PrettyJson.serdeJson
    let m : SlotMap := ⟨∅, 8, 7⟩
    let new := (m.assign "cam-a" true).slots
    let file := new.save (some (SerdeJson.toStringPretty ⟨m.map⟩ 0))
      (SaveStop.outcome (SerdeJson.toStringPretty ⟨new.map⟩ 0) (.written 1))
    (load file 8 7).map = m.map ∨ (load file 8 7).map = new.map := by
  let _ := PrettyJson.serdeJson
  have hr : SlotMap.InRange ⟨∅, 8, 7⟩ := fun id slot h => by simp at h
  exact (stopped_save_iff (m := ⟨∅, 8, 7⟩) PrettyJson.fromStr_take hr (by decide)
    (by decide : (SlotMap.assign ⟨∅, 8, 7⟩ "cam-a" true).saves = true) 0 0 7 (.written 1)).mpr
    (Or.inr rfl)

omit [SerdeJson] in
/-- One camera is on file; the save for the second one stops right after the truncation. -/
theorem stopped_save_loses_mapping :
    letI := PrettyJson.serdeJson
    let m : SlotMap := ⟨(∅ : HashMap _ _).insert "cam-a" 0, 8, 7⟩
    let new := (m.assign "cam-b" true).slots
    let file := new.save (some (SerdeJson.toStringPretty ⟨m.map⟩ 0))
      (SaveStop.outcome (SerdeJson.toStringPretty ⟨new.map⟩ 0) (.written 0))
    (load (some (SerdeJson.toStringPretty ⟨m.map⟩ 0)) 8 7).map = m.map ∧
      (m.assign "cam-b" true).saves = true ∧
      (load file 8 7).map ≠ m.map ∧ (load file 8 7).map ≠ new.map := by
  intro m new file
  let _ := PrettyJson.serdeJson
  have hr : m.InRange := by
    intro id slot h
    show slot < 8
    simp only [m, HashMap.lookup_insert_eq, Finmap.lookup_empty] at h
    split at h
    · rw [← Option.some.inj h]
      decide
    · cases h
  have hloaded : (load file 8 7).map.lookup "cam-a" = none := rfl
  have hold : m.map.lookup "cam-a" = some 0 := rfl
  have hnew : new.map.lookup "cam-a" = some 0 := rfl
  refine ⟨load_written hr 0 7, by decide, fun he => ?_, fun he => ?_⟩
  · rw [he, hold] at hloaded
    cases hloaded
  · rw [he, hnew] at hloaded
    cases hloaded

end SlotMap

end MatterBridge.Slots
