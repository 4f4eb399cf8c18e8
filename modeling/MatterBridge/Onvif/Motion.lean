import MatterBridge.Core.Run
import MatterBridge.Core.Str
import MatterBridge.Onvif.Client

/-!
# The motion pump

The pump connects, subscribes and pulls batches of notifications until a call
fails, then sleeps and starts over. Renewals fall between batches, whenever the
clock says so. Whatever the interleaving, the callback sees the readings of the
delivered messages in order.
-/
namespace MatterBridge.Onvif

open MatterBridge.Core

structure NotificationMessage where
  topic : String
  data : HashMap String String

/-- Substrings that mark a notification as motion-related. -/
def motionTopicMarkers : List String := ["cellmotiondetector/motion", "motionalarm"]

def isMotionTopic (topic : String) : Bool :=
  motionTopicMarkers.any fun m => Str.contains (Str.toAsciiLowercase topic) m

def parseBool (s : String) : Bool :=
  let v := Str.toAsciiLowercase (Str.trim s)
  v == "true" || v == "1"

def decodeMotionState (data : HashMap String String) : Option Bool :=
  (["IsMotion", "State", "Value", "isMotion", "state"].findSome? fun key =>
    data.lookup key).map parseBool

/-- The value a message carries, if its topic passes and a state key is present. -/
def NotificationMessage.reading (msg : NotificationMessage) : Option Bool :=
  if isMotionTopic msg.topic then decodeMotionState msg.data else none

/-- The body of the message loop. -/
def handleMessage {S : Type} (onChange : S → Bool → S) (s : S) (msg : NotificationMessage) : S :=
  if isMotionTopic msg.topic then
    match decodeMotionState msg.data with
    | some state => onChange s state
    | none => s
  else s

/-- What the pump waits for. -/
inductive PumpPhase where
  | connecting
  | subscribing
  | pulling
  | renewing
  | sleeping
  deriving DecidableEq, Repr

/-- The pump and the state its callback writes. -/
structure Pump (S : Type) where
  phase : PumpPhase
  state : S

namespace Pump

variable {S : Type}

inductive Label where
  | connected
  | subscribed
  /-- A batch arrived; `renew` tells whether the renewal interval has elapsed. -/
  | pulled (messages : List NotificationMessage) (renew : Bool)
  | renewed
  /-- The awaited call failed. -/
  | failed
  /-- The backoff is over. -/
  | slept

inductive Step (onChange : S → Bool → S) : Pump S → Label → Pump S → Prop
  | connected {p : Pump S} : p.phase = .connecting →
      Step onChange p .connected { p with phase := .subscribing }
  | subscribed {p : Pump S} : p.phase = .subscribing →
      Step onChange p .subscribed { p with phase := .pulling }
  | pulled {p : Pump S} {messages : List NotificationMessage} {renew : Bool} :
      p.phase = .pulling →
      Step onChange p (.pulled messages renew)
        { phase := if renew then .renewing else .pulling
          state := messages.foldl (handleMessage onChange) p.state }
  | renewed {p : Pump S} : p.phase = .renewing →
      Step onChange p .renewed { p with phase := .pulling }
  | failed {p : Pump S} : p.phase ≠ .sleeping →
      Step onChange p .failed { p with phase := .sleeping }
  | slept {p : Pump S} : p.phase = .sleeping →
      Step onChange p .slept { p with phase := .connecting }

/-- The messages a step delivers. -/
def Label.messages : Label → List NotificationMessage
  | .connected => []
  | .subscribed => []
  | .pulled messages _ => messages
  | .renewed => []
  | .failed => []
  | .slept => []

/-- The messages of a run, batch after batch. -/
def delivered (labels : List Label) : List NotificationMessage := labels.flatMap Label.messages

end Pump

/-- The readings of a sequence of messages. -/
def readings (messages : List NotificationMessage) : List Bool :=
  messages.filterMap NotificationMessage.reading

/-- A message calls back with its reading or not at all. -/
theorem handleMessage_eq {S : Type} (onChange : S → Bool → S) (s : S) (msg : NotificationMessage) :
    handleMessage onChange s msg = match msg.reading with
      | some state => onChange s state
      | none => s := by
  rw [handleMessage, NotificationMessage.reading]
  split <;> rfl

theorem foldl_handleMessage {S : Type} (onChange : S → Bool → S)
    (messages : List NotificationMessage) (s : S) :
    messages.foldl (handleMessage onChange) s = (readings messages).foldl onChange s := by
  induction messages generalizing s with
  | nil => rfl
  | cons msg messages ih =>
    rw [List.foldl_cons, ih, handleMessage_eq, readings, readings]
    cases h : msg.reading with
    | none => rw [List.filterMap_cons_none h]
    | some state => rw [List.filterMap_cons_some h, List.foldl_cons]

theorem Pump.Step.state {S : Type} {onChange : S → Bool → S} {p q : Pump S} {l : Pump.Label}
    (h : Pump.Step onChange p l q) : q.state = (readings l.messages).foldl onChange p.state := by
  cases h with
  | pulled _ => exact foldl_handleMessage onChange _ p.state
  | connected _ => rfl
  | subscribed _ => rfl
  | renewed _ => rfl
  | failed _ => rfl
  | slept _ => rfl

/-- However the messages were split into batches and subscriptions, the callback
has seen the readings of all of them in order. -/
theorem Pump.state_of_run {S : Type} {onChange : S → Bool → S} {p q : Pump S}
    {labels : List Pump.Label} (h : Run (Pump.Step onChange) p labels q) :
    q.state = (readings (Pump.delivered labels)).foldl onChange p.state := by
  refine h.history (fun labels q =>
    q.state = (readings (Pump.delivered labels)).foldl onChange p.state) rfl ?_
  intro labels q l r ih hstep
  have happend : readings (Pump.delivered (labels ++ [l])) =
      readings (Pump.delivered labels) ++ readings l.messages := by
    rw [Pump.delivered, List.flatMap_append, List.flatMap_singleton, readings,
      List.filterMap_append]
    rfl
  rw [hstep.state, ih, happend, List.foldl_append]

/-- A topic that makes a camera motion-capable passes the pump's filter. -/
theorem isMotionTopic_of_advertisesMotion {topic : String} (h : advertisesMotion topic = true) :
    isMotionTopic topic = true := by
  rw [isMotionTopic, List.any_eq_true]
  rcases Bool.or_eq_true_iff.mp h with h | h
  · exact ⟨"motionalarm", by simp [motionTopicMarkers], Str.contains_of_endsWith h⟩
  · exact ⟨"cellmotiondetector/motion", by simp [motionTopicMarkers], h⟩

end MatterBridge.Onvif
