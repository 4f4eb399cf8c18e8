import MatterBridge.Matter.Occupancy
import MatterBridge.Onvif.Motion

/-!
# A motion stream and its sensor

A pump that alone writes the flag and the data version of its slot. The flag
follows the last reading and the version counts the changes, so neither depends
on how the stream was cut into batches, subscriptions and reconnects.
-/
namespace MatterBridge.Bridge

open MatterBridge.Core MatterBridge.Onvif MatterBridge.Matter

/-- How often a sequence differs from the value before, starting from `a`. -/
def changes {α : Type} [DecidableEq α] (a : α) (values : List α) : Nat :=
  ((a :: values).zip values).countP fun pair => pair.1 ≠ pair.2

theorem changes_cons {α : Type} [DecidableEq α] (a b : α) (values : List α) :
    changes a (b :: values) = changes b values + if a ≠ b then 1 else 0 := by
  rw [changes, changes, List.zip_cons_cons, List.countP_cons]
  simp only [decide_eq_true_eq]

/-- One callback sets the flag and bumps the version if the value changed. -/
theorem dataver_onChange (s : OccupancySensor) (motion : Bool) :
    (s.onChange motion).dataver.get =
      s.dataver.get + UInt32.ofNat (if s.motion.isDetected ≠ motion then 1 else 0) := by
  rw [OccupancySensor.onChange]
  by_cases h : s.motion.isDetected = motion
  · have hset : (s.motion.set motion).2 = false := by
      simpa [MotionState.set, MotionState.isDetected] using h
    rw [hset, if_neg Bool.false_ne_true, if_neg (not_not.mpr h)]
    exact (UInt32.add_zero _).symm
  · have hset : (s.motion.set motion).2 = true := by
      simpa [MotionState.set, MotionState.isDetected] using h
    rw [hset, if_pos rfl, if_pos h]
    rfl

/-- The flag ends as the last value and the version counts the changes. -/
theorem foldl_onChange (values : List Bool) (s : OccupancySensor) :
    (values.foldl OccupancySensor.onChange s).motion.isDetected =
        values.getLastD s.motion.isDetected ∧
      (values.foldl OccupancySensor.onChange s).dataver.get =
        s.dataver.get + UInt32.ofNat (changes s.motion.isDetected values) := by
  induction values generalizing s with
  | nil => exact ⟨rfl, (UInt32.add_zero _).symm⟩
  | cons v values ih =>
    obtain ⟨hflag, hver⟩ := ih (s.onChange v)
    rw [s.isDetected_onChange] at hflag hver
    rw [List.foldl_cons, hflag, hver, dataver_onChange, changes_cons, UInt32.add_assoc,
      ← UInt32.ofNat_add, Nat.add_comm (changes v values), List.getLastD_cons]
    exact ⟨rfl, rfl⟩

/-- **Motion stream semantics.** Over any run of a pump the flag ends as the last
reading of the delivered messages, or as it was if there is none, and the version
has advanced by the number of changes; runs that deliver the same messages end in
the same state. A camera counts as motion-capable for topics that all pass the
filter. -/
theorem motion_stream_semantics {b₀ : Bool} {d₀ : UInt32} {labels : List Pump.Label}
    {q : Pump OccupancySensor}
    (h : Run (Pump.Step OccupancySensor.onChange) ⟨.connecting, ⟨⟨b₀⟩, ⟨d₀⟩⟩⟩ labels q) :
    q.state.motion.isDetected = (readings (Pump.delivered labels)).getLastD b₀ ∧
    q.state.dataver.get.toNat =
      (d₀.toNat + changes b₀ (readings (Pump.delivered labels))) % 2 ^ 32 ∧
    (∀ labels' q', Run (Pump.Step OccupancySensor.onChange) ⟨.connecting, ⟨⟨b₀⟩, ⟨d₀⟩⟩⟩ labels' q' →
      Pump.delivered labels' = Pump.delivered labels → q'.state = q.state) ∧
    (∀ msg : NotificationMessage, advertisesMotion msg.topic = true →
      msg.reading = decodeMotionState msg.data) ∧
    (∀ host port device camera, connectCamera host port device = .ok camera →
      camera.supportsMotion = true → ∃ topics topic, device.eventTopics = .ok topics ∧
        topic ∈ topics ∧ advertisesMotion topic = true) := by
  have hstate := Pump.state_of_run h
  obtain ⟨hflag, hver⟩ := foldl_onChange (readings (Pump.delivered labels)) ⟨⟨b₀⟩, ⟨d₀⟩⟩
  refine ⟨?_, ?_, ?_, ?_, ?_⟩
  · rw [hstate]
    exact hflag
  · rw [hstate, hver, UInt32.toNat_add, UInt32.toNat_ofNat', Nat.add_mod_mod]
    rfl
  · intro labels' q' h' hsame
    rw [hstate, Pump.state_of_run h', hsame]
  · intro msg htopic
    exact if_pos (isMotionTopic_of_advertisesMotion htopic)
  · intro host port device camera hconnect hmotion
    obtain ⟨_, topics, htopics, topic, hmem, htopic⟩ := topic_of_supportsMotion hconnect hmotion
    exact ⟨topics, topic, htopics, hmem, htopic⟩

/-- Motion starts on one subscription and ends on the next. -/
def reconnectingStream : List Pump.Label :=
  [.connected, .subscribed,
    .pulled [⟨"tns1:RuleEngine/CellMotionDetector/Motion",
      (∅ : HashMap _ _).insert "IsMotion" "true"⟩] true,
    .failed, .slept, .connected, .subscribed,
    .pulled [⟨"tns1:Device/Trigger/DigitalInput", (∅ : HashMap _ _).insert "State" "1"⟩,
      ⟨"tns1:VideoSource/MotionAlarm", (∅ : HashMap _ _).insert "State" " 0 "⟩] false]

theorem motion_stream_reconnect :
    ∃ q, Run (Pump.Step OccupancySensor.onChange) ⟨.connecting, ⟨⟨false⟩, ⟨0xFFFFFFFF⟩⟩⟩
        reconnectingStream q ∧
      q.state.motion.isDetected = false ∧ q.state.dataver.get.toNat = 1 := by
  obtain ⟨q, hrun⟩ : ∃ q, Run (Pump.Step OccupancySensor.onChange)
      ⟨.connecting, ⟨⟨false⟩, ⟨0xFFFFFFFF⟩⟩⟩ reconnectingStream q :=
    ⟨_, Run.cons (.connected rfl) <| Run.cons (.subscribed rfl) <| Run.cons (.pulled rfl) <|
      Run.cons (.failed PumpPhase.noConfusion) <| Run.cons (.slept rfl) <|
      Run.cons (.connected rfl) <| Run.cons (.subscribed rfl) <| Run.one (.pulled rfl)⟩
  obtain ⟨hflag, hver, _⟩ := motion_stream_semantics hrun
  exact ⟨q, hrun, hflag.trans (by decide), hver.trans (by decide)⟩

end MatterBridge.Bridge
