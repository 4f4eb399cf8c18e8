import MatterBridge.Bridge.MotionIsolation

/-!
# From a notification to a read

The event loop and the pumps are tasks of one thread and switch at awaits only, so a
batch of notifications is worked off before any event can abort its pump. The Matter
thread reads and bumps between any two atomic operations.
-/
namespace MatterBridge.Bridge

open MatterBridge.Core MatterBridge.Onvif MatterBridge.Slots MatterBridge.Matter

theorem changes_snoc {α : Type} [DecidableEq α] (a b : α) (values : List α) :
    changes a (values ++ [b]) = changes a values + if values.getLastD a ≠ b then 1 else 0 := by
  induction values generalizing a with
  | nil =>
    rw [List.nil_append, changes_cons]
    rfl
  | cons v values ih =>
    rw [List.cons_append, changes_cons, ih, changes_cons, List.getLastD_cons]
    omega

theorem readings_append (messages rest : List NotificationMessage) :
    readings (messages ++ rest) = readings messages ++ readings rest := List.filterMap_append

end MatterBridge.Bridge

/-! ## What the cells of one slot show -/

namespace MatterBridge.Matter.Occupancy

open MatterBridge.Core MatterBridge.Bridge

/-- The values pumps have swapped in, oldest first. -/
def values (labels : List Label) : List Bool :=
  labels.filterMap fun
    | .set _ motion => some motion
    | .bump _ => none
    | .bumpDataver => none
    | .get _ _ => none
    | .reply _ => none

/-- The step is one of the Matter thread. -/
def Label.fromMatter : Label → Bool
  | .set _ _ => false
  | .bump _ => false
  | .bumpDataver => true
  | .get _ _ => true
  | .reply _ => true

def Label.isFrameworkBump : Label → Bool
  | .bumpDataver => true
  | _ => false

def frameworkBumps (labels : List Label) : Nat := labels.countP Label.isFrameworkBump

/-- The flag is the last value, and each change of it has been followed by a bump or
still owes one. -/
structure Counted (labels : List Label) (s : Occupancy) : Prop where
  flag : s.motion = ⟨(values labels).getLastD false⟩
  owed : bumps labels + s.bumping.card = changes false (values labels) + frameworkBumps labels

theorem Counted.step {labels : List Label} {s t : Occupancy} {l : Label} (h : Counted labels s)
    (hs : Step s l t) : Counted (labels ++ [l]) t := by
  have howed := h.owed
  have hbumps := bumps_snoc labels l
  have hframework : frameworkBumps (labels ++ [l]) =
      frameworkBumps labels + if l.isFrameworkBump then 1 else 0 := by
    rw [frameworkBumps, List.countP_append, List.countP_singleton, ← frameworkBumps]
  cases hs with
  | @set pump motion hfree =>
    have hvalues : values (labels ++ [.set pump motion]) = values labels ++ [motion] := by
      rw [values, List.filterMap_append]
      rfl
    have hchanged : (s.motion.set motion).2 = ((values labels).getLastD false != motion) := by
      rw [h.flag]
      rfl
    refine ⟨?_, ?_⟩
    · rw [hvalues, List.getLastD_concat]
      rfl
    · rw [hvalues, changes_snoc, hbumps, hframework]
      simp only [Label.isBump, Label.isFrameworkBump, Bool.false_eq_true, if_false,
        Nat.add_zero]
      by_cases hchange : (values labels).getLastD false = motion
      · have hsame : (s.motion.set motion).2 = false := by
          rw [hchanged, hchange, bne_self_eq_false]
        simp only [hsame, hchange, ne_eq, not_true, Bool.false_eq_true, if_false]
        omega
      · have hnew : (s.motion.set motion).2 = true := hchanged.trans (bne_iff_ne.mpr hchange)
        simp only [hnew, hchange, ne_eq, not_false_eq_true, if_true,
          Finset.card_insert_of_notMem hfree]
        omega
  | @bump pump hpump =>
    have hvalues : values (labels ++ [.bump pump]) = values labels := by simp [values]
    refine ⟨hvalues ▸ h.flag, ?_⟩
    have hcard : (s.bumping.erase pump).card + 1 = s.bumping.card :=
      Finset.card_erase_add_one hpump
    rw [hvalues, hbumps, hframework]
    simp only [Label.isBump, Label.isFrameworkBump, Bool.false_eq_true, if_false, if_true]
    omega
  | bumpDataver =>
    have hvalues : values (labels ++ [.bumpDataver]) = values labels := by simp [values]
    refine ⟨hvalues ▸ h.flag, ?_⟩
    rw [hvalues, hbumps, hframework]
    simp only [Label.isBump, Label.isFrameworkBump, if_true]
    omega
  | @get read request _ =>
    have hvalues : values (labels ++ [.get read request]) = values labels := by simp [values]
    refine ⟨hvalues ▸ h.flag, ?_⟩
    rw [hvalues, hbumps, hframework]
    exact howed
  | @reply read _ _ _ =>
    have hvalues : values (labels ++ [.reply read]) = values labels := by simp [values]
    refine ⟨hvalues ▸ h.flag, ?_⟩
    rw [hvalues, hbumps, hframework]
    exact howed

theorem counted_of_run {initial : UInt32} {labels : List Label} {s : Occupancy}
    (h : Run Step (start initial) labels s) : Counted labels s :=
  h.history Counted ⟨rfl, rfl⟩ fun _ _ _ _ hc hs => hc.step hs

theorem version_of_run {initial : UInt32} {labels : List Label} {s : Occupancy}
    (h : Run Step (start initial) labels s) :
    s.dataver.get = initial + UInt32.ofNat (bumps labels) := by
  refine h.history (fun labels s => s.dataver.get = initial + UInt32.ofNat (bumps labels))
    (UInt32.add_zero _).symm ?_
  intro labels s l t ih hs
  rw [hs.version, ih, bumps_snoc, UInt32.ofNat_add, UInt32.add_assoc]

/-- A read has been answered with the flag of that moment. -/
def Answered (labels : List Label) (s : Occupancy) : Prop :=
  ∀ read request dv reply, s.reads.lookup read = some (.replied request dv reply) →
    ∃ before after, labels = before ++ .reply read :: after ∧
      reply = OccupancyHandler.read ⟨(values before).getLastD false⟩ dv request

theorem Answered.of_reads {labels : List Label} {s t : Occupancy} (h : Answered labels s)
    (l : Label) (hreads : t.reads = s.reads) : Answered (labels ++ [l]) t := by
  intro read request dv reply hl
  rw [hreads] at hl
  obtain ⟨before, after, rfl, hreply⟩ := h read request dv reply hl
  exact ⟨before, after ++ [l], by simp, hreply⟩

theorem Answered.step {labels : List Label} {s t : Occupancy} {l : Label} (h : Answered labels s)
    (hc : Counted labels s) (hs : Step s l t) : Answered (labels ++ [l]) t := by
  cases hs with
  | set _ => exact h.of_reads _ rfl
  | bump _ => exact h.of_reads _ rfl
  | bumpDataver => exact h.of_reads _ rfl
  | @get i request _ =>
    intro read request' dv reply hl
    rw [HashMap.lookup_insert_eq] at hl
    split at hl
    · cases hl
    · obtain ⟨before, after, rfl, hreply⟩ := h read request' dv reply hl
      exact ⟨before, after ++ [.get i request], by simp, hreply⟩
  | @reply i request dv _ =>
    intro read request' dv' reply hl
    rw [HashMap.lookup_insert_eq] at hl
    split at hl
    · rename_i he
      cases hl
      subst he
      exact ⟨labels, [], rfl, by rw [← hc.flag]⟩
    · obtain ⟨before, after, rfl, hreply⟩ := h read request' dv' reply hl
      exact ⟨before, after ++ [.reply i], by simp, hreply⟩

theorem answered_of_run {initial : UInt32} {labels : List Label} {s : Occupancy}
    (h : Run Step (start initial) labels s) : Answered labels s := by
  have hboth : Counted labels s ∧ Answered labels s := by
    refine h.history (fun labels s => Counted labels s ∧ Answered labels s)
      ⟨⟨rfl, rfl⟩, fun read _ _ _ hl => ?_⟩ fun _ _ _ _ ih hs => ⟨ih.1.step hs, ih.2.step ih.1 hs⟩
    rw [show (start initial).reads = ∅ from rfl, Finmap.lookup_empty] at hl
    cases hl
  exact hboth.2

end MatterBridge.Matter.Occupancy

namespace MatterBridge.Bridge

open MatterBridge.Core MatterBridge.Onvif MatterBridge.Slots MatterBridge.Matter

/-! ## Pumps, loop and Matter thread -/

/-- A pump working off a batch. -/
structure Polling where
  pump : MotionPump
  /-- The messages it has not looked at. -/
  messages : List NotificationMessage

structure MotionSystem where
  loop : BridgeLoop
  /-- pump handle → what the pump awaits; `connecting` at first -/
  phases : HashMap Nat PumpPhase
  /-- The pump the bridge thread is in, if it is in one. -/
  polling : Option Polling
  /-- occupancy slot → its cells and the reads of them -/
  cells : Vector Occupancy withOccupancyCameras

namespace MotionSystem

/-- The initial data versions are random numbers. -/
def start [SerdeJson] (file : SlotFile) (initial : Vector UInt32 withOccupancyCameras) :
    MotionSystem where
  loop := BridgeLoop.boot file
  phases := ∅
  polling := none
  cells := initial.map Occupancy.start

theorem cells_start [SerdeJson] (file : SlotFile) (initial : Vector UInt32 withOccupancyCameras)
    {slot : Nat} (hslot : slot < withOccupancyCameras) :
    (start file initial).cells[slot] = .start initial[slot] := Vector.getElem_map _ _

def phase (s : MotionSystem) (handle : Nat) : PumpPhase := (s.phases.lookup handle).getD .connecting

/-- The pump's last callback has returned. -/
def Returned (s : MotionSystem) (pump : MotionPump) : Prop :=
  ∀ h : pump.slot < withOccupancyCameras, pump.handle ∉ s.cells[pump.slot].bumping

inductive Label where
  | event (e : RegistryEvent)
  /-- The call the pump awaits has ended. -/
  | awaited (pump : MotionPump) (l : Pump.Label)
  /-- The pump passes over a message. -/
  | ignored (pump : MotionPump)
  /-- The pump's callback swaps the flag. -/
  | set (pump : MotionPump) (motion : Bool)
  /-- The same callback bumps the version. -/
  | bump (pump : MotionPump)
  /-- The pump awaits its next call. -/
  | suspended (pump : MotionPump)
  /-- A step of the Matter thread on the cells of a slot. -/
  | matter (slot : Nat) (l : Occupancy.Label)

inductive Step [UnicodeTables] (cfg : LoopConfig) : MotionSystem → Label → MotionSystem → Prop
  | event {s : MotionSystem} {e : RegistryEvent} {t : BridgeLoop} : s.polling = none →
      s.loop.handleEvent cfg e = some t → Step cfg s (.event e) { s with loop := t }
  | awaited {s : MotionSystem} {pump : MotionPump} {l : Pump.Label} {next : PumpPhase} :
      s.polling = none → pump ∈ s.loop.running →
      Pump.Step (fun _ _ => ()) ⟨s.phase pump.handle, ()⟩ l ⟨next, ()⟩ →
      Step cfg s (.awaited pump l) { s with
        phases := s.phases.insert pump.handle next
        polling := some ⟨pump, l.messages⟩ }
  | ignored {s : MotionSystem} {pump : MotionPump} {msg : NotificationMessage}
      {rest : List NotificationMessage} : s.polling = some ⟨pump, msg :: rest⟩ →
      s.Returned pump → msg.reading = none →
      Step cfg s (.ignored pump) { s with polling := some ⟨pump, rest⟩ }
  | set {s : MotionSystem} {pump : MotionPump} {msg : NotificationMessage}
      {rest : List NotificationMessage} {motion : Bool} {cell : Occupancy}
      (hslot : pump.slot < withOccupancyCameras) : s.polling = some ⟨pump, msg :: rest⟩ →
      msg.reading = some motion →
      Occupancy.Step s.cells[pump.slot] (.set pump.handle motion) cell →
      Step cfg s (.set pump motion) { s with
        cells := s.cells.set pump.slot cell hslot
        polling := some ⟨pump, rest⟩ }
  | bump {s : MotionSystem} {pump : MotionPump} {rest : List NotificationMessage}
      {cell : Occupancy} (hslot : pump.slot < withOccupancyCameras) :
      s.polling = some ⟨pump, rest⟩ → Occupancy.Step s.cells[pump.slot] (.bump pump.handle) cell →
      Step cfg s (.bump pump) { s with cells := s.cells.set pump.slot cell hslot }
  | suspended {s : MotionSystem} {pump : MotionPump} : s.polling = some ⟨pump, []⟩ →
      s.Returned pump → Step cfg s (.suspended pump) { s with polling := none }
  | matter {s : MotionSystem} {slot : Nat} {l : Occupancy.Label} {cell : Occupancy}
      (hslot : slot < withOccupancyCameras) : l.fromMatter = true →
      Occupancy.Step s.cells[slot] l cell →
      Step cfg s (.matter slot l) { s with cells := s.cells.set slot cell hslot }

/-! ## What a run means for one slot and for one pump -/

/-- What a step does to the cells of a slot. -/
def share (slot : Nat) : Label → Option Occupancy.Label
  | .event _ => none
  | .awaited _ _ => none
  | .ignored _ => none
  | .set pump motion => if pump.slot = slot then some (.set pump.handle motion) else none
  | .bump pump => if pump.slot = slot then some (.bump pump.handle) else none
  | .suspended _ => none
  | .matter k l => if k = slot then some l else none

def onSlot (slot : Nat) (labels : List Label) : List Occupancy.Label := labels.filterMap (share slot)

/-- The call of a pump that a step ends. -/
def call (handle : Nat) : Label → Option Pump.Label
  | .awaited pump l => if pump.handle = handle then some l else none
  | _ => none

def calls (handle : Nat) (labels : List Label) : List Pump.Label := labels.filterMap (call handle)

/-- The values a pump has swapped in. -/
def reportedBy (handle : Nat) (labels : List Label) : List Bool :=
  labels.filterMap fun
    | .set pump motion => if pump.handle = handle then some motion else none
    | _ => none

/-- The messages a pump still has to look at. -/
def left (s : MotionSystem) (handle : Nat) : List NotificationMessage :=
  match s.polling with
  | none => []
  | some polling => if polling.pump.handle = handle then polling.messages else []

/-- The registry events of a run. -/
def events (labels : List Label) : List MotionLoop.Label :=
  labels.filterMap fun
    | .event e => some (.event e)
    | _ => none

section

variable [UnicodeTables] {cfg : LoopConfig} {initial : Vector UInt32 withOccupancyCameras}
  {labels : List Label} {s t : MotionSystem} {l : Label}

/-- The cells of a slot change as its share of the step says. -/
theorem Step.cell (h : Step cfg s l t) {slot : Nat} (hslot : slot < withOccupancyCameras) :
    (∃ l', share slot l = some l' ∧ Occupancy.Step s.cells[slot] l' t.cells[slot]) ∨
      (share slot l = none ∧ t.cells[slot] = s.cells[slot]) := by
  cases h with
  | event _ _ => exact .inr ⟨rfl, rfl⟩
  | awaited _ _ _ => exact .inr ⟨rfl, rfl⟩
  | ignored _ _ _ => exact .inr ⟨rfl, rfl⟩
  | suspended _ _ => exact .inr ⟨rfl, rfl⟩
  | @set pump _ _ _ _ hp _ _ hcell =>
    by_cases he : pump.slot = slot
    · subst he
      exact .inl ⟨_, if_pos rfl, by rwa [Vector.getElem_set_self]⟩
    · exact .inr ⟨if_neg he, Vector.getElem_set_ne hp hslot he⟩
  | @bump pump _ _ hp _ hcell =>
    by_cases he : pump.slot = slot
    · subst he
      exact .inl ⟨_, if_pos rfl, by rwa [Vector.getElem_set_self]⟩
    · exact .inr ⟨if_neg he, Vector.getElem_set_ne hp hslot he⟩
  | @matter k _ _ hk _ hcell =>
    by_cases he : k = slot
    · subst he
      exact .inl ⟨_, if_pos rfl, by rwa [Vector.getElem_set_self]⟩
    · exact .inr ⟨if_neg he, Vector.getElem_set_ne hk hslot he⟩

/-- Seen from one slot, the system is an occupancy cluster. -/
theorem cell_run [SerdeJson] {file : SlotFile} (h : Run (Step cfg) (start file initial) labels s)
    {slot : Nat} (hslot : slot < withOccupancyCameras) :
    Run Occupancy.Step (.start initial[slot]) (onSlot slot labels) s.cells[slot] := by
  have hrun := h.project (fun s => s.cells[slot]) (share slot) fun _ _ _ hs => hs.cell hslot
  rwa [cells_start file initial hslot] at hrun

/-- Seen from one pump, the system is the pump. -/
theorem pump_run [SerdeJson] {file : SlotFile} (h : Run (Step cfg) (start file initial) labels s)
    (handle : Nat) : Run (Pump.Step fun _ _ => ()) ⟨.connecting, ()⟩ (calls handle labels)
      ⟨s.phase handle, ()⟩ := by
  refine h.project (fun s => (⟨s.phase handle, ()⟩ : Pump Unit)) (call handle) fun s l t hs => ?_
  cases hs with
  | @awaited pump l next _ _ hcall =>
    by_cases he : pump.handle = handle
    · subst he
      refine .inl ⟨l, if_pos rfl, ?_⟩
      have hnext : ({ s with
          phases := s.phases.insert pump.handle next
          polling := some ⟨pump, l.messages⟩ } : MotionSystem).phase pump.handle = next := by
        rw [phase, Finmap.lookup_insert, Option.getD_some]
      rwa [hnext]
    · refine .inr ⟨if_neg he, ?_⟩
      simp only [phase, Finmap.lookup_insert_of_ne s.phases (Ne.symm he)]
  | event _ _ => exact .inr ⟨rfl, rfl⟩
  | ignored _ _ _ => exact .inr ⟨rfl, rfl⟩
  | set _ _ _ _ => exact .inr ⟨rfl, rfl⟩
  | bump _ _ _ => exact .inr ⟨rfl, rfl⟩
  | suspended _ _ => exact .inr ⟨rfl, rfl⟩
  | matter _ _ _ => exact .inr ⟨rfl, rfl⟩

/-! ## Nothing lost on the way -/

/-- The readings of a pump's messages are the values it has swapped in and those of the
messages it still has to look at. -/
def InOrder (labels : List Label) (s : MotionSystem) : Prop :=
  ∀ handle, reportedBy handle labels ++ readings (s.left handle) =
    readings (Pump.delivered (calls handle labels))

omit [UnicodeTables] in
theorem left_of_idle (h : s.polling = none) (handle : Nat) : s.left handle = [] := by
  rw [left, h]

omit [UnicodeTables] in
theorem left_of_polling {pump : MotionPump} {messages : List NotificationMessage}
    (h : s.polling = some ⟨pump, messages⟩) (handle : Nat) :
    s.left handle = if pump.handle = handle then messages else [] := by
  rw [left, h]

omit [UnicodeTables] in
/-- A step that ends no call and reports nothing. -/
theorem InOrder.silent (h : InOrder labels s) (hreport : ∀ handle, reportedBy handle [l] = [])
    (hcall : ∀ handle, call handle l = none)
    (hleft : ∀ handle, readings (t.left handle) = readings (s.left handle)) :
    InOrder (labels ++ [l]) t := by
  intro handle
  have hreported : reportedBy handle (labels ++ [l]) = reportedBy handle labels := by
    have hsplit : reportedBy handle (labels ++ [l]) =
        reportedBy handle labels ++ reportedBy handle [l] := List.filterMap_append
    rw [hsplit, hreport, List.append_nil]
  have hcalls : calls handle (labels ++ [l]) = calls handle labels := by
    rw [calls, List.filterMap_append, List.filterMap_cons_none (hcall handle)]
    exact List.append_nil _
  rw [hreported, hcalls, hleft]
  exact h handle

theorem InOrder.step (h : InOrder labels s) (hs : Step cfg s l t) : InOrder (labels ++ [l]) t := by
  cases hs with
  | event _ _ => exact h.silent (fun _ => rfl) (fun _ => rfl) fun _ => rfl
  | bump _ _ _ => exact h.silent (fun _ => rfl) (fun _ => rfl) fun _ => rfl
  | matter _ _ _ => exact h.silent (fun _ => rfl) (fun _ => rfl) fun _ => rfl
  | @suspended pump hp _ =>
    refine h.silent (fun _ => rfl) (fun _ => rfl) fun handle => ?_
    rw [left_of_polling hp, left_of_idle rfl]
    split <;> rfl
  | @ignored pump msg rest hp _ hread =>
    refine h.silent (fun _ => rfl) (fun _ => rfl) fun handle => ?_
    rw [left_of_polling hp, left_of_polling rfl]
    split
    · rw [readings, readings, List.filterMap_cons_none hread]
    · rfl
  | @awaited pump l next hidle _ _ =>
    intro handle
    have hbefore := h handle
    rw [left_of_idle hidle] at hbefore
    have hreported : reportedBy handle (labels ++ [.awaited pump l]) = reportedBy handle labels := by
      simp [reportedBy]
    have hdelivered : Pump.delivered (calls handle (labels ++ [.awaited pump l])) =
        Pump.delivered (calls handle labels) ++ if pump.handle = handle then l.messages else [] := by
      rw [calls, List.filterMap_append, Pump.delivered, List.flatMap_append]
      by_cases he : pump.handle = handle
      · simp [call, he, calls, Pump.delivered]
      · simp [call, he, calls, Pump.delivered]
    rw [hreported, hdelivered, left_of_polling rfl, readings_append, ← hbefore]
    simp [readings]
  | @set pump msg rest motion cell _ hp hread _ =>
    intro handle
    have hbefore := h handle
    rw [left_of_polling hp] at hbefore
    have hcalls : calls handle (labels ++ [.set pump motion]) = calls handle labels := by
      simp [calls, call]
    rw [hcalls, ← hbefore, left_of_polling rfl]
    by_cases he : pump.handle = handle
    · simp [reportedBy, readings, he, hread]
    · simp [reportedBy, readings, he]

theorem inOrder_of_run [SerdeJson] {file : SlotFile}
    (h : Run (Step cfg) (start file initial) labels s) : InOrder labels s :=
  h.history InOrder (fun _ => rfl) fun _ _ _ _ ih hs => ih.step hs

/-! ## Bumps are owed by the pump at work -/

/-- Who may owe a bump at a slot. -/
def debtor (s : MotionSystem) (slot : Nat) : Finset Nat :=
  match s.polling with
  | none => ∅
  | some polling => if polling.pump.slot = slot then {polling.pump.handle} else ∅

/-- Only the pump the bridge thread is in owes a bump. -/
def Settling (s : MotionSystem) : Prop :=
  ∀ slot (h : slot < withOccupancyCameras), s.cells[slot].bumping ⊆ s.debtor slot

omit [UnicodeTables] in
theorem debtor_of_polling {pump : MotionPump} {messages : List NotificationMessage}
    (h : s.polling = some ⟨pump, messages⟩) (slot : Nat) :
    s.debtor slot = if pump.slot = slot then {pump.handle} else ∅ := by
  rw [debtor, h]

omit [UnicodeTables] in
/-- Once the callback has returned, nothing is owed. -/
theorem Settling.quiescent (h : s.Settling) {pump : MotionPump}
    {messages : List NotificationMessage} (hp : s.polling = some ⟨pump, messages⟩)
    (hreturned : s.Returned pump) {slot : Nat} (hslot : slot < withOccupancyCameras) :
    s.cells[slot].Quiescent := by
  have hsub := h slot hslot
  rw [debtor_of_polling hp] at hsub
  split at hsub
  · rename_i he
    subst he
    rcases Finset.subset_singleton_iff.mp hsub with hempty | hone
    · exact hempty
    · exact absurd (hone ▸ Finset.mem_singleton_self _) (hreturned hslot)
  · exact Finset.subset_empty.mp hsub

theorem Settling.step (h : s.Settling) (hs : Step cfg s l t) : t.Settling := by
  intro slot hslot
  cases hs with
  | event _ _ => exact h slot hslot
  | awaited hidle _ _ =>
    have hsub := h slot hslot
    rw [debtor, hidle] at hsub
    exact hsub.trans (Finset.empty_subset _)
  | ignored hp _ _ =>
    have hsub := h slot hslot
    rw [debtor_of_polling hp] at hsub
    rwa [debtor_of_polling rfl]
  | suspended hp hreturned =>
    show s.cells[slot].bumping ⊆ ∅
    rw [h.quiescent hp hreturned hslot]
  | @set pump msg rest motion cell hlt hp _ hcell =>
    have hsub := h slot hslot
    rw [debtor_of_polling hp] at hsub
    rw [debtor_of_polling rfl]
    by_cases he : pump.slot = slot
    · subst he
      rw [if_pos rfl] at hsub ⊢
      rw [Vector.getElem_set_self]
      cases hcell with
      | set _ =>
        show (if (s.cells[pump.slot].motion.set motion).2 then
          insert pump.handle s.cells[pump.slot].bumping else s.cells[pump.slot].bumping) ⊆
            {pump.handle}
        split
        · exact Finset.insert_subset (Finset.mem_singleton_self _) hsub
        · exact hsub
    · rwa [Vector.getElem_set_ne hlt hslot he]
  | @bump pump rest cell hlt hp hcell =>
    have hsub := h slot hslot
    show (s.cells.set pump.slot cell hlt)[slot].bumping ⊆ s.debtor slot
    by_cases he : pump.slot = slot
    · subst he
      rw [Vector.getElem_set_self]
      cases hcell with
      | bump _ => exact (Finset.erase_subset _ _).trans hsub
    · rwa [Vector.getElem_set_ne hlt hslot he]
  | @matter k l cell hlt hmatter hcell =>
    have hsub := h slot hslot
    show (s.cells.set k cell hlt)[slot].bumping ⊆ s.debtor slot
    by_cases he : k = slot
    · subst he
      rw [Vector.getElem_set_self]
      cases hcell with
      | set _ => cases hmatter
      | bump _ => cases hmatter
      | bumpDataver => exact hsub
      | get _ => exact hsub
      | reply _ => exact hsub
    · rwa [Vector.getElem_set_ne hlt hslot he]

theorem settling_of_run [SerdeJson] {file : SlotFile}
    (h : Run (Step cfg) (start file initial) labels s) : s.Settling := by
  refine h.invariant Settling (fun _ _ _ ih hs => ih.step hs) fun slot hslot => ?_
  rw [cells_start file initial hslot]
  exact Finset.empty_subset _

/-! ## Whose messages they are -/

/-- The loop's pumps, the pump at work and those that have reported were started for the
camera that owns their slot. -/
structure Attributed (cfg : LoopConfig) (initial : Vector UInt32 withOccupancyCameras)
    (labels : List Label) (s : MotionSystem) : Prop where
  owned : ∃ sensors, MotionLoop.Owned cfg initial (events labels) ⟨s.loop, sensors⟩
  polling : ∀ pump messages, s.polling = some ⟨pump, messages⟩ → pump ∈ s.loop.running
  reported : ∀ pump motion, .set pump motion ∈ labels →
    MotionLoop.StartedFor cfg (events labels) s.loop.slotMap pump

omit [UnicodeTables] in
theorem Attributed.still (h : Attributed cfg initial labels s) (hloop : t.loop = s.loop)
    (hevents : events (labels ++ [l]) = events labels)
    (hpolling : ∀ pump messages, t.polling = some ⟨pump, messages⟩ → pump ∈ s.loop.running)
    (hset : ∀ pump motion, l = .set pump motion → pump ∈ s.loop.running) :
    Attributed cfg initial (labels ++ [l]) t := by
  obtain ⟨sensors, howned⟩ := h.owned
  refine ⟨⟨sensors, ?_⟩, ?_, ?_⟩
  · rw [hevents, hloop]
    exact howned
  · rw [hloop]
    exact hpolling
  · intro pump motion hmem
    rw [hevents, hloop]
    rcases List.mem_append.mp hmem with hmem | hmem
    · exact h.reported pump motion hmem
    · exact howned.running pump (hset pump motion (List.mem_singleton.mp hmem).symm)

theorem Attributed.step (h : Attributed cfg initial labels s) (hs : Step cfg s l t) :
    Attributed cfg initial (labels ++ [l]) t := by
  cases hs with
  | @event e u hidle ht =>
    obtain ⟨sensors, howned⟩ := h.owned
    have hevents : events (labels ++ [.event e]) = events labels ++ [.event e] := by
      simp [events]
    have hgrow : ∀ id slot, s.loop.slotMap.map.lookup id = some slot →
        u.slotMap.map.lookup id = some slot := by
      intro id slot hid
      rw [howned.bounds.slotMap_step ht]
      exact BridgeLoop.lookup_reassign hid _
    refine ⟨⟨sensors, ?_⟩, ?_, ?_⟩
    · rw [hevents]
      exact howned.event ht
    · intro pump messages hp
      rw [show s.polling = some _ from hp] at hidle
      cases hidle
    · intro pump motion hmem
      rw [hevents]
      rcases List.mem_append.mp hmem with hmem | hmem
      · exact (h.reported pump motion hmem).mono hgrow
      · cases List.mem_singleton.mp hmem
  | @awaited pump l next _ hrunning _ =>
    refine h.still rfl (by simp [events]) (fun _ _ hp => ?_) (fun _ _ he => by cases he)
    cases hp
    exact hrunning
  | @ignored pump msg rest hp _ _ =>
    refine h.still rfl (by simp [events]) (fun _ _ hpolling => ?_) (fun _ _ he => by cases he)
    cases hpolling
    exact h.polling _ _ hp
  | @set pump msg rest motion cell _ hp _ _ =>
    refine h.still rfl (by simp [events]) (fun _ _ hpolling => ?_) (fun _ _ he => ?_)
    · cases hpolling
      exact h.polling _ _ hp
    · cases he
      exact h.polling _ _ hp
  | bump _ _ _ => exact h.still rfl (by simp [events]) h.polling (fun _ _ he => by cases he)
  | suspended _ _ =>
    refine h.still rfl (by simp [events]) (fun _ _ hp => ?_) (fun _ _ he => by cases he)
    cases hp
  | matter _ _ _ => exact h.still rfl (by simp [events]) h.polling (fun _ _ he => by cases he)

theorem attributed_of_run [SerdeJson] {file : SlotFile}
    (hfile : (SlotMap.load file maxCameras withOccupancyCameras).map.Injective)
    (h : Run (Step cfg) (start file initial) labels s) : Attributed cfg initial labels s := by
  have hstart : Attributed cfg initial [] (start file initial) := by
    refine ⟨⟨_, MotionLoop.owned_start cfg hfile initial⟩, ?_, ?_⟩
    · intro pump messages hp
      cases hp
    · intro pump motion hmem
      cases hmem
  exact h.history (Attributed cfg initial) hstart fun _ _ _ _ ih hs => ih.step hs

/-- **From a notification to a read.** Over any interleaving of registry events (lost ones
included), pumps and the Matter thread, at every occupancy slot: the flag is the last value
swapped in; between two batches the version has advanced once for each change and each bump of
the framework; a pump, seen alone, runs its connects, renewals and batches as if nothing else
ran, and has swapped in the readings of all messages it was sent, in order, up to those it has
not looked at; every read was answered with the flag of its moment; and all
values come from pumps started for the camera that owns the slot. -/
theorem motion_end_to_end [SerdeJson] {file : SlotFile}
    (hfile : (SlotMap.load file maxCameras withOccupancyCameras).map.Injective)
    (h : Run (Step cfg) (start file initial) labels s) {slot : Nat}
    (hslot : slot < withOccupancyCameras) :
    s.cells[slot].motion.isDetected = (Occupancy.values (onSlot slot labels)).getLastD false ∧
    (s.polling = none → s.cells[slot].dataver.get = initial[slot] + UInt32.ofNat
      (changes false (Occupancy.values (onSlot slot labels)) +
        Occupancy.frameworkBumps (onSlot slot labels))) ∧
    (∀ handle, Run (Pump.Step fun _ _ => ()) ⟨.connecting, ()⟩ (calls handle labels)
        ⟨s.phase handle, ()⟩ ∧
      reportedBy handle labels ++ readings (s.left handle) =
        readings (Pump.delivered (calls handle labels))) ∧
    (∀ read request dv reply, s.cells[slot].reads.lookup read = some (.replied request dv reply) →
      ∃ before after, onSlot slot labels = before ++ .reply read :: after ∧
        reply = OccupancyHandler.read ⟨(Occupancy.values before).getLastD false⟩ dv request) ∧
    ∀ pump motion, .set pump motion ∈ labels → pump.slot = slot →
      ∃ camera eventsUrl, .event (.added camera) ∈ labels ∧
        (∀ id, s.loop.slotMap.map.lookup id = some slot ↔ id = camera.id) ∧
        camera.supportsMotion = true ∧ camera.eventsUrl = some eventsUrl ∧
        pump.config = motionPumpConfig cfg camera eventsUrl := by
  have hcell := cell_run h hslot
  have hcounted := Occupancy.counted_of_run hcell
  have hattributed := attributed_of_run hfile h
  refine ⟨?_, ?_, fun handle => ⟨pump_run h handle, inOrder_of_run h handle⟩,
    Occupancy.answered_of_run hcell, ?_⟩
  · rw [hcounted.flag]
    rfl
  · intro hidle
    have hquiet := settling_of_run h slot hslot
    rw [debtor, hidle] at hquiet
    have howed := hcounted.owed
    rw [Finset.subset_empty.mp hquiet, Finset.card_empty, Nat.add_zero] at howed
    rw [Occupancy.version_of_run hcell, howed]
  · rintro pump motion hset rfl
    obtain ⟨_, howned⟩ := hattributed.owned
    obtain ⟨camera, eventsUrl, hadded, howner⟩ :=
      (hattributed.reported pump motion hset).owner howned.exclusive
    obtain ⟨l, hl, he⟩ := List.mem_filterMap.mp hadded
    cases l <;> cases he
    exact ⟨camera, eventsUrl, hl, howner⟩

end

/-- A read between the swap and the bump of a first motion message. -/
theorem motion_end_to_end_read_before_bump :
    letI := asciiTables
    letI := PrettyJson.serdeJson
    let front : CameraDevice := { CameraDevice.bare "SN-1" with
      supportsMotion := true
      eventsUrl := some "http://10.0.0.5/onvif/events" }
    let pump : MotionPump := ⟨0, 0, ⟨"10.0.0.5", 80, "admin", "pass",
      "http://10.0.0.5/onvif/events", "  @ 10.0.0.5"⟩⟩
    let moving : NotificationMessage := ⟨"tns1:RuleEngine/CellMotionDetector/Motion",
      (∅ : HashMap _ _).insert "IsMotion" "true"⟩
    ∃ s, Run (Step ⟨∅, "admin", "pass"⟩) (start none (.replicate _ 7))
        [.event (.added front), .awaited pump .connected, .suspended pump,
          .awaited pump .subscribed, .suspended pump, .awaited pump (.pulled [moving] false),
          .set pump true, .matter 0 (.get 3 ⟨0, false, none⟩), .matter 0 (.reply 3),
          .bump pump, .suspended pump] s ∧
      s.cells[0].motion.isDetected = true ∧ s.cells[0].dataver.get = 8 ∧
      s.cells[1].dataver.get = 7 := by
  intro front pump moving
  let _ := asciiTables
  let _ := PrettyJson.serdeJson
  let cfg : LoopConfig := ⟨∅, "admin", "pass"⟩
  let bound : MotionSystem := { start none (.replicate _ 7) with
    loop := ((BridgeLoop.boot none).handleEvent cfg (.added front)).getD (BridgeLoop.boot none) }
  have hfront : Step cfg (start none (.replicate _ 7)) (.event (.added front)) bound :=
    .event rfl rfl
  have hfile : (SlotMap.load none maxCameras withOccupancyCameras).map.Injective :=
    HashMap.injective_empty
  have hcells : bound.cells[0] = .start 7 := cells_start none _ (by decide)
  have hreturned : bound.Returned pump := by
    intro _ howes
    rw [show bound.cells[pump.slot] = .start 7 from hcells] at howes
    cases howes
  let request : ReadRequest := ⟨0, false, none⟩
  let up : Occupancy := ⟨⟨true⟩, ⟨7⟩, {0}, ∅⟩
  let loaded : Occupancy := { up with reads := (∅ : HashMap _ _).insert 3 (.loaded request 7) }
  let replied : Occupancy := { up with
    reads := loaded.reads.insert 3 (.replied request 7 (.set 1)) }
  let bumped : Occupancy := ⟨⟨true⟩, ⟨8⟩, ∅, replied.reads⟩
  have hset : Occupancy.Step bound.cells[0] (.set 0 true) up := by
    rw [hcells]
    exact .set (by decide)
  let moved : Vector Occupancy withOccupancyCameras := bound.cells.set 0 up (by decide)
  have hget : Occupancy.Step moved[0] (.get 3 request) loaded := by
    rw [Vector.getElem_set_self]
    exact .get (s := up) (by decide)
  let read : Vector Occupancy withOccupancyCameras := moved.set 0 loaded (by decide)
  have hreply : Occupancy.Step read[0] (.reply 3) replied := by
    rw [Vector.getElem_set_self]
    exact .reply (s := loaded) (Finmap.lookup_insert _)
  let answered : Vector Occupancy withOccupancyCameras := read.set 0 replied (by decide)
  have hbump : Occupancy.Step answered[0] (.bump 0) bumped := by
    rw [Vector.getElem_set_self]
    exact .bump (s := replied) (by decide)
  have hdone : ∀ h : pump.slot < withOccupancyCameras,
      pump.handle ∉ (answered.set 0 bumped (by decide))[pump.slot].bumping := by
    intro _ howes
    rw [show (answered.set 0 bumped (by decide))[pump.slot] = bumped from
      Vector.getElem_set_self _] at howes
    cases howes
  obtain ⟨s, hrun, hidle⟩ : ∃ s, Run (Step cfg) (start none (.replicate _ 7))
      [.event (.added front), .awaited pump .connected, .suspended pump,
        .awaited pump .subscribed, .suspended pump, .awaited pump (.pulled [moving] false),
        .set pump true, .matter 0 (.get 3 request), .matter 0 (.reply 3),
        .bump pump, .suspended pump] s ∧ s.polling = none :=
    ⟨_, Run.cons hfront <| Run.cons (.awaited rfl (by decide) (.connected rfl)) <|
      Run.cons (.suspended rfl hreturned) <|
      Run.cons (.awaited rfl (by decide) (.subscribed rfl)) <|
      Run.cons (.suspended rfl hreturned) <|
      Run.cons (.awaited rfl (by decide) (.pulled rfl)) <|
      Run.cons (.set (by decide) rfl (by decide) hset) <|
      Run.cons (.matter (by decide) rfl hget) <| Run.cons (.matter (by decide) rfl hreply) <|
      Run.cons (.bump (by decide) rfl hbump) <| Run.one (.suspended rfl hdone), rfl⟩
  have hmoved := motion_end_to_end hfile hrun (show 0 < withOccupancyCameras by decide)
  have hrest := motion_end_to_end hfile hrun (show 1 < withOccupancyCameras by decide)
  exact ⟨s, hrun, hmoved.1, hmoved.2.1 hidle, hrest.2.1 hidle⟩

end MotionSystem

end MatterBridge.Bridge
