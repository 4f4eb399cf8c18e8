import MatterBridge.Onvif.Motion

/-!
# The subscription behind a motion pump

A device forgets a subscription sixty seconds after it was made or renewed. The pump looks
at its own clock between two pulls and renews when forty-five have passed since the last
answer. The clock is common and counts milliseconds; what a request and its answer take on
the way comes from outside, and the device acts when the request arrives.
-/
namespace MatterBridge.Onvif

open MatterBridge.Core

/-- `SUBSCRIPTION_LIFETIME`. -/
def subscriptionLifetime : Nat := 60000

/-- `RENEW_INTERVAL`. -/
def renewInterval : Nat := 45000

/-- `RECONNECT_BACKOFF`. -/
def reconnectBackoff : Nat := 5000

/-- The way of a request to the device and of the answer back; a long poll is under `back`. -/
structure Trip where
  there : Nat
  back : Nat

def Trip.total (trip : Trip) : Nat := trip.there + trip.back

/-- A pump with the times it and the device go by. -/
structure TimedPump (S : Type) where
  pump : Pump S
  now : Nat
  lastRenew : Nat
  /-- When the device forgets the subscription. -/
  expires : Nat

namespace TimedPump

variable {S : Type}

def start (state : S) : TimedPump S := ⟨⟨.connecting, state⟩, 0, 0, 0⟩

inductive Label where
  | connected (trip : Trip)
  | subscribed (trip : Trip)
  | pulled (messages : List NotificationMessage) (renew : Bool) (trip : Trip)
  | renewed (trip : Trip)
  /-- A pull or a renewal that finds the subscription forgotten. -/
  | pullRefused (trip : Trip)
  | renewRefused (trip : Trip)
  /-- The awaited call failed for another reason. -/
  | failed (elapsed : Nat)
  | slept (elapsed : Nat)

/-- The step of the pump itself. -/
def Label.untimed : Label → Pump.Label
  | .connected _ => .connected
  | .subscribed _ => .subscribed
  | .pulled messages renew _ => .pulled messages renew
  | .renewed _ => .renewed
  | .pullRefused _ => .failed
  | .renewRefused _ => .failed
  | .failed _ => .failed
  | .slept _ => .slept

/-- The subscription was forgotten while the pump still used it. -/
def Label.Refused : Label → Prop
  | .pullRefused _ => True
  | .renewRefused _ => True
  | _ => False

inductive Step (onChange : S → Bool → S) : TimedPump S → Label → TimedPump S → Prop
  | connected {s : TimedPump S} {trip : Trip} : s.pump.phase = .connecting →
      Step onChange s (.connected trip) { s with
        pump := { s.pump with phase := .subscribing }
        now := s.now + trip.total }
  | subscribed {s : TimedPump S} {trip : Trip} : s.pump.phase = .subscribing →
      Step onChange s (.subscribed trip)
        { pump := { s.pump with phase := .pulling }
          now := s.now + trip.total
          lastRenew := s.now + trip.total
          expires := s.now + trip.there + subscriptionLifetime }
  | pulled {s : TimedPump S} {messages : List NotificationMessage} {renew : Bool} {trip : Trip} :
      s.pump.phase = .pulling → s.now + trip.there < s.expires →
      renew = decide (renewInterval ≤ s.now + trip.total - s.lastRenew) →
      Step onChange s (.pulled messages renew trip) { s with
        pump :=
          { phase := if renew then .renewing else .pulling
            state := messages.foldl (handleMessage onChange) s.pump.state }
        now := s.now + trip.total }
  | renewed {s : TimedPump S} {trip : Trip} : s.pump.phase = .renewing →
      s.now + trip.there < s.expires →
      Step onChange s (.renewed trip)
        { pump := { s.pump with phase := .pulling }
          now := s.now + trip.total
          lastRenew := s.now + trip.total
          expires := s.now + trip.there + subscriptionLifetime }
  | pullRefused {s : TimedPump S} {trip : Trip} : s.pump.phase = .pulling →
      s.expires ≤ s.now + trip.there →
      Step onChange s (.pullRefused trip) { s with
        pump := { s.pump with phase := .sleeping }
        now := s.now + trip.total }
  | renewRefused {s : TimedPump S} {trip : Trip} : s.pump.phase = .renewing →
      s.expires ≤ s.now + trip.there →
      Step onChange s (.renewRefused trip) { s with
        pump := { s.pump with phase := .sleeping }
        now := s.now + trip.total }
  | failed {s : TimedPump S} {elapsed : Nat} : s.pump.phase ≠ .sleeping →
      Step onChange s (.failed elapsed) { s with
        pump := { s.pump with phase := .sleeping }
        now := s.now + elapsed }
  | slept {s : TimedPump S} {elapsed : Nat} : s.pump.phase = .sleeping →
      reconnectBackoff ≤ elapsed →
      Step onChange s (.slept elapsed) { s with
        pump := { s.pump with phase := .connecting }
        now := s.now + elapsed }

/-- Without its times a step is a step of the pump. -/
theorem Step.untimed {onChange : S → Bool → S} {s t : TimedPump S} {l : Label}
    (h : Step onChange s l t) : Pump.Step onChange s.pump l.untimed t.pump := by
  cases h with
  | connected hp => exact .connected hp
  | subscribed hp => exact .subscribed hp
  | pulled hp _ _ => exact .pulled hp
  | renewed hp _ => exact .renewed hp
  | pullRefused hp _ => exact .failed (by rw [hp]; exact PumpPhase.noConfusion)
  | renewRefused hp _ => exact .failed (by rw [hp]; exact PumpPhase.noConfusion)
  | failed hp => exact .failed hp
  | slept hp _ => exact .slept hp

theorem untimed_run {onChange : S → Bool → S} {s t : TimedPump S} {labels : List Label}
    (h : Run (Step onChange) s labels t) :
    Run (Pump.Step onChange) s.pump (labels.map Label.untimed) t.pump := by
  rw [← List.filterMap_eq_map]
  exact h.project TimedPump.pump (some ∘ Label.untimed) fun _ _ _ hstep =>
    Or.inl ⟨_, rfl, hstep.untimed⟩

/-- No pull takes longer than `pull`, no subscribing or renewing longer than `call`. -/
def Label.Prompt (pull call : Nat) : Label → Prop
  | .connected _ => True
  | .subscribed trip => trip.total ≤ call
  | .pulled _ _ trip => trip.total ≤ pull
  | .renewed trip => trip.total ≤ call
  | .pullRefused trip => trip.total ≤ pull
  | .renewRefused trip => trip.total ≤ call
  | .failed _ => True
  | .slept _ => True

/-- The prompt steps. -/
abbrev PromptStep (onChange : S → Bool → S) (pull call : Nat) :
    TimedPump S → Label → TimedPump S → Prop :=
  Guarded (Step onChange) fun _ l => l.Prompt pull call

/-! ## In time -/

/-- How late it can be for the pump, and how soon the device forgets. -/
structure InTime (pull call : Nat) (s : TimedPump S) : Prop where
  pulling : s.pump.phase = .pulling → s.now < s.lastRenew + renewInterval
  renewing : s.pump.phase = .renewing → s.now < s.lastRenew + renewInterval + pull
  expires : s.pump.phase = .pulling ∨ s.pump.phase = .renewing →
    s.lastRenew + subscriptionLifetime ≤ s.expires + call

theorem inTime_of_unsubscribed {pull call : Nat} {s : TimedPump S}
    (hp : s.pump.phase ≠ .pulling) (hr : s.pump.phase ≠ .renewing) : InTime pull call s where
  pulling h := absurd h hp
  renewing h := absurd h hr
  expires h := absurd h (not_or.mpr ⟨hp, hr⟩)

theorem InTime.step {onChange : S → Bool → S} {pull call : Nat} {s t : TimedPump S} {l : Label}
    (h : InTime pull call s) (hs : PromptStep onChange pull call s l t) : InTime pull call t := by
  obtain ⟨hstep, hl⟩ := hs
  have hnew : ∀ trip : Trip, trip.total ≤ call →
      s.now + trip.total + subscriptionLifetime ≤
        s.now + trip.there + subscriptionLifetime + call := by
    intro trip ht
    omega
  cases hstep with
  | subscribed _ => exact ⟨fun _ => Nat.lt_add_of_pos_right (by decide), nofun, fun _ => hnew _ hl⟩
  | renewed _ _ => exact ⟨fun _ => Nat.lt_add_of_pos_right (by decide), nofun, fun _ => hnew _ hl⟩
  | @pulled messages renew trip hp _ hrenew =>
    have hearlier := h.pulling hp
    have htrip : trip.total ≤ pull := hl
    refine ⟨fun hpull => ?_, fun _ => ?_, fun _ => h.expires (Or.inl hp)⟩
    · -- The pump has looked at the clock and goes on pulling.
      cases renew with
      | true => cases hpull
      | false =>
        have hclock := of_decide_eq_false hrenew.symm
        simp only
        omega
    · simp only
      omega
  | connected _ => exact inTime_of_unsubscribed nofun nofun
  | pullRefused _ _ => exact inTime_of_unsubscribed nofun nofun
  | renewRefused _ _ => exact inTime_of_unsubscribed nofun nofun
  | failed _ => exact inTime_of_unsubscribed nofun nofun
  | slept _ _ => exact inTime_of_unsubscribed nofun nofun

/-- In time, no request comes too late. -/
theorem InTime.not_refused {onChange : S → Bool → S} {pull call : Nat} {s t : TimedPump S}
    {l : Label} (h : InTime pull call s) (hs : PromptStep onChange pull call s l t)
    (hfits : renewInterval + pull + 2 * call ≤ subscriptionLifetime) : ¬ l.Refused := by
  intro hrefused
  obtain ⟨hstep, hl⟩ := hs
  cases hstep with
  | @pullRefused trip hp hlate =>
    have htrip : trip.there + trip.back ≤ pull := hl
    have hnow := h.pulling hp
    have hexpires := h.expires (Or.inl hp)
    omega
  | @renewRefused trip hp hlate =>
    have htrip : trip.there + trip.back ≤ call := hl
    have hnow := h.renewing hp
    have hexpires := h.expires (Or.inr hp)
    omega
  | _ => exact hrefused

theorem inTime_start (pull call : Nat) (state : S) : InTime pull call (start state) :=
  inTime_of_unsubscribed PumpPhase.noConfusion PumpPhase.noConfusion

/-! ## Too late -/

section

variable (onChange : S → Bool → S) (state : S) {pull : Nat} (call : Nat)

/-- Pulls of a millisecond each, as long as the clock does not show the renewal interval. -/
theorem run_pulls (hpull : 0 < pull) {now lastRenew expires : Nat} (hnow : lastRenew ≤ now)
    (k : Nat) (hk : now + k < lastRenew + renewInterval) (hexpires : now + k ≤ expires) :
    ∃ labels, Run (PromptStep onChange pull call) ⟨⟨.pulling, state⟩, now, lastRenew, expires⟩
      labels ⟨⟨.pulling, state⟩, now + k, lastRenew, expires⟩ := by
  induction k with
  | zero => exact ⟨[], Run.refl⟩
  | succ k ih =>
    obtain ⟨labels, hrun⟩ := ih (by omega) (by omega)
    have hrenew : false = decide (renewInterval ≤ now + k + (0 + 1) - lastRenew) :=
      (decide_eq_false (by omega)).symm
    have hpulled : Step onChange ⟨⟨.pulling, state⟩, now + k, lastRenew, expires⟩
        (.pulled [] false ⟨0, 1⟩) ⟨⟨.pulling, state⟩, now + k + (0 + 1), lastRenew, expires⟩ :=
      .pulled (s := ⟨⟨.pulling, state⟩, now + k, lastRenew, expires⟩) rfl
        (show now + k + 0 < expires by omega) hrenew
    exact ⟨_, hrun.snoc ⟨hpulled, hpull⟩⟩

/-- Subscribed, with an answer that takes as long as it may. -/
theorem run_subscribed (pull : Nat) :
    ∃ labels, Run (PromptStep onChange pull call) (start state) labels
      ⟨⟨.pulling, state⟩, call, call, subscriptionLifetime⟩ := by
  let connected : TimedPump S := ⟨⟨.subscribing, state⟩, 0, 0, 0⟩
  have hconnected : Step onChange (start state) (.connected ⟨0, 0⟩) connected :=
    .connected (s := start state) rfl
  have hsubscribed : Step onChange connected (.subscribed ⟨0, call⟩)
      ⟨⟨.pulling, state⟩, 0 + (0 + call), 0 + (0 + call), 0 + 0 + subscriptionLifetime⟩ :=
    .subscribed (s := connected) rfl
  have hprompt : (Label.subscribed ⟨0, call⟩).Prompt pull call := (Nat.zero_add call).le
  simp only [Nat.zero_add] at hsubscribed
  exact ⟨_, Run.cons ⟨hconnected, trivial⟩ (Run.one ⟨hsubscribed, hprompt⟩)⟩

/-- If the times do not fit, some prompt run uses a subscription that is forgotten. -/
theorem exists_refused (hpull : 0 < pull)
    (hlate : subscriptionLifetime < renewInterval + pull + 2 * call) :
    ∃ labels s, Run (PromptStep onChange pull call) (start state) labels s ∧
      ∃ l ∈ labels, l.Refused := by
  obtain ⟨before, hbefore⟩ := run_subscribed onChange state call pull
  by_cases hearly : call + (renewInterval - 1) < subscriptionLifetime
  · -- The last pull begins just before the clock shows the interval.
    obtain ⟨pulls, hpulls⟩ := run_pulls onChange state call hpull (le_refl call)
      (renewInterval - 1) (Nat.add_lt_add_left (by decide) call) hearly.le
    let late : Nat := call + (renewInterval - 1)
    have hrenew : true = decide (renewInterval ≤ late + (0 + pull) - call) := by
      refine (decide_eq_true ?_).symm
      have hinterval : 0 < renewInterval := by decide
      omega
    have hpulled : Step onChange ⟨⟨.pulling, state⟩, late, call, subscriptionLifetime⟩
        (.pulled [] true ⟨0, pull⟩)
        ⟨⟨.renewing, state⟩, late + (0 + pull), call, subscriptionLifetime⟩ :=
      .pulled (s := ⟨⟨.pulling, state⟩, late, call, subscriptionLifetime⟩) rfl hearly hrenew
    have hexpired : subscriptionLifetime ≤ late + (0 + pull) + call := by
      have hinterval : 0 < renewInterval := by decide
      omega
    have hrefused : Step onChange
        ⟨⟨.renewing, state⟩, late + (0 + pull), call, subscriptionLifetime⟩
        (.renewRefused ⟨call, 0⟩) _ := .renewRefused rfl hexpired
    have hend := ((hbefore.append hpulls).snoc ⟨hpulled, (Nat.zero_add pull).le⟩).snoc
      ⟨hrefused, (Nat.add_zero call).le⟩
    exact ⟨_, _, hend, _, List.mem_append_right _ (List.mem_singleton_self _), trivial⟩
  · -- Already a pull comes too late.
    obtain ⟨now, pulls, hpulls, hnow⟩ : ∃ now pulls, Run (PromptStep onChange pull call)
        ⟨⟨.pulling, state⟩, call, call, subscriptionLifetime⟩ pulls
        ⟨⟨.pulling, state⟩, now, call, subscriptionLifetime⟩ ∧ subscriptionLifetime ≤ now := by
      by_cases hcall : subscriptionLifetime ≤ call
      · exact ⟨call, [], Run.refl, hcall⟩
      · have hinterval : 0 < renewInterval := by decide
        obtain ⟨pulls, hpulls⟩ : ∃ pulls, Run (PromptStep onChange pull call)
            ⟨⟨.pulling, state⟩, call, call, subscriptionLifetime⟩ pulls
            ⟨⟨.pulling, state⟩, call + (subscriptionLifetime - call), call, subscriptionLifetime⟩ :=
          run_pulls onChange state call hpull (le_refl call) _ (by omega) (by omega)
        exact ⟨_, pulls, hpulls, by omega⟩
    have hrefused : Step onChange ⟨⟨.pulling, state⟩, now, call, subscriptionLifetime⟩
        (.pullRefused ⟨0, 0⟩) _ := .pullRefused rfl hnow
    have hend := (hbefore.append hpulls).snoc ⟨hrefused, Nat.zero_le pull⟩
    exact ⟨_, _, hend, _, List.mem_append_right _ (List.mem_singleton_self _), trivial⟩

end

/-- **The subscription outlives its use exactly when the times fit.** The pump never pulls
from or renews a subscription that the device has forgotten, if and only if a renewal
interval, a pull and two calls fit into the lifetime; and whatever the times are, without
them a run is a run of the pump. -/
theorem never_refused_iff {onChange : S → Bool → S} {pull call : Nat} (hpull : 0 < pull)
    (state : S) :
    ((∀ labels s, Run (PromptStep onChange pull call) (start state) labels s →
        ∀ l ∈ labels, ¬ l.Refused) ↔
      renewInterval + pull + 2 * call ≤ subscriptionLifetime) ∧
    ∀ labels s, Run (Step onChange) (start state) labels s →
      Run (Pump.Step onChange) ⟨.connecting, state⟩ (labels.map Label.untimed) s.pump := by
  refine ⟨⟨fun hnever => ?_, fun hfits labels s h => ?_⟩, fun _ _ h => untimed_run h⟩
  · by_contra hlate
    obtain ⟨labels, s, hrun, l, hl, hrefused⟩ :=
      exists_refused onChange state call hpull (Nat.lt_of_not_le hlate)
    exact hnever labels s hrun l hl hrefused
  · have hall : InTime pull call s ∧ ∀ l ∈ labels, ¬ l.Refused := by
      refine h.history (fun labels s => InTime pull call s ∧ ∀ l ∈ labels, ¬ l.Refused)
        ⟨inTime_start pull call state, fun _ hl => absurd hl List.not_mem_nil⟩ ?_
      intro labels s l t hs hstep
      refine ⟨hs.1.step hstep, fun l' hl' => ?_⟩
      rcases List.mem_append.mp hl' with hl' | hl'
      · exact hs.2 l' hl'
      · rw [List.mem_singleton.mp hl']
        exact hs.1.not_refused hstep hfits
    exact hall.2

/-- A long poll of five seconds with four for the network, and calls of three: the times fit. -/
theorem never_refused_nine_seconds :
    renewInterval + 9000 + 2 * 3000 ≤ subscriptionLifetime ∧
    ∀ labels s,
      Run (PromptStep (fun (_ : Bool) motion => motion) 9000 3000) (start false) labels s →
      ∀ l ∈ labels, ¬ l.Refused :=
  ⟨by decide, (never_refused_iff (by decide) false).1.mpr (by decide)⟩

end TimedPump

end MatterBridge.Onvif
