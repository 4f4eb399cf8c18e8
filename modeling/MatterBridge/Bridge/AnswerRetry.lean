import MatterBridge.Bridge.Hooks

/-!
# Failed takes

`take_answer_sdp` can fail in three places. Two of them come before the answer
is removed from the map and one after it, so an answer that does not fit the
output buffer is lost with the error that reports it.
-/
namespace MatterBridge.Bridge

open MatterBridge.Core

namespace BridgeWebRtcHooks

/-- The three ways a take fails. -/
theorem takeAnswerSdp_error {h h' : BridgeWebRtcHooks} {sessionId : UInt16}
    {sdpOut written : List UInt8} {e : WebRtcError}
    (ht : h.takeAnswerSdp sessionId sdpOut = (.error e, written, h')) :
    (h.answers.poisoned = true ∧ e = .failure ∧ h' = h) ∨
    (h.answers.value.lookup sessionId = none ∧ e = .invalidInState ∧ h' = h) ∨
    (h.answers.poisoned = false ∧ e = .resourceExhausted ∧
      h' = { h with answers := { h.answers with value := h.answers.value.erase sessionId } } ∧
      ∃ answer, h.answers.value.lookup sessionId = some answer ∧
        sdpOut.length < (bytesOf answer).length) := by
  by_cases hp : h.answers.poisoned = true
  · rw [takeAnswerSdp, if_pos hp] at ht
    cases ht
    exact Or.inl ⟨hp, rfl, rfl⟩
  · cases hl : h.answers.value.lookup sessionId with
    | none =>
      rw [HookState.takeAnswerSdp_missing hp hl] at ht
      cases ht
      exact Or.inr (Or.inl ⟨rfl, rfl, rfl⟩)
    | some answer =>
      rcases Nat.lt_or_ge sdpOut.length (bytesOf answer).length with hlong | hfit
      · rw [HookState.takeAnswerSdp_overlong hp hl hlong] at ht
        cases ht
        exact Or.inr (Or.inr ⟨eq_false_of_ne_true hp, rfl, rfl, answer, rfl, hlong⟩)
      · rw [HookState.takeAnswerSdp_fits hp hl hfit] at ht
        cases ht

/-- If the take fails, the buffered answers of all sessions are as before. -/
def KeepsAnswers (h : BridgeWebRtcHooks) (sessionId : UInt16) (sdpOut : List UInt8) : Prop :=
  ∀ e written h', h.takeAnswerSdp sessionId sdpOut = (.error e, written, h') →
    h'.answers.value = h.answers.value

/-- If the take fails, a retry with room for the session's answer returns it. -/
def RetryReturns (h : BridgeWebRtcHooks) (sessionId : UInt16) (sdpOut : List UInt8) : Prop :=
  ∀ e written h', h.takeAnswerSdp sessionId sdpOut = (.error e, written, h') →
    ∀ answer, h.answers.value.lookup sessionId = some answer →
      ∀ larger : List UInt8, (bytesOf answer).length ≤ larger.length →
        ∃ h'', h'.takeAnswerSdp sessionId larger = (.ok (bytesOf answer).length,
          bytesOf answer ++ larger.drop (bytesOf answer).length, h'')

theorem keepsAnswers_iff (h : BridgeWebRtcHooks) (sessionId : UInt16) (sdpOut : List UInt8) :
    KeepsAnswers h sessionId sdpOut ↔
      ¬ (h.answers.poisoned = false ∧ ∃ answer, h.answers.value.lookup sessionId = some answer ∧
        sdpOut.length < (bytesOf answer).length) := by
  constructor
  · rintro hkeep ⟨hp, answer, hl, hlong⟩
    have hsame : h.answers.value.erase sessionId = h.answers.value :=
      hkeep _ _ _ (HookState.takeAnswerSdp_overlong (ne_true_of_eq_false hp) hl hlong)
    have hgone : (h.answers.value.erase sessionId).lookup sessionId = none :=
      Finmap.lookup_erase sessionId h.answers.value
    rw [hsame, hl] at hgone
    cases hgone
  · intro hno e written h' ht
    rcases takeAnswerSdp_error ht with ⟨_, _, rfl⟩ | ⟨_, _, rfl⟩ | ⟨hp, _, _, hlong⟩
    · rfl
    · rfl
    · exact absurd ⟨hp, hlong⟩ hno

/-- **When a failed take is atomic.** The answers survive a failure unless the
session's answer is longer than the buffer. A retry gets the answer as well
exactly if the answer, when there is one, fits in the first place; a poisoned
lock fails every retry. -/
theorem take_atomic_iff (h : BridgeWebRtcHooks) (sessionId : UInt16) (sdpOut : List UInt8) :
    (KeepsAnswers h sessionId sdpOut ↔
      ¬ (h.answers.poisoned = false ∧ ∃ answer, h.answers.value.lookup sessionId = some answer ∧
        sdpOut.length < (bytesOf answer).length)) ∧
    (KeepsAnswers h sessionId sdpOut ∧ RetryReturns h sessionId sdpOut ↔
      ∀ answer, h.answers.value.lookup sessionId = some answer →
        h.answers.poisoned = false ∧ (bytesOf answer).length ≤ sdpOut.length) := by
  refine ⟨keepsAnswers_iff h sessionId sdpOut, ?_⟩
  constructor
  · rintro ⟨hkeep, hretry⟩ answer hl
    cases hp : h.answers.poisoned with
    | true =>
      have hfail : ∀ out, h.takeAnswerSdp sessionId out = (.error .failure, out, h) :=
        fun _ => if_pos hp
      obtain ⟨_, hok⟩ := hretry _ _ _ (hfail sdpOut) answer hl (bytesOf answer) le_rfl
      rw [hfail] at hok
      cases hok
    | false =>
      refine ⟨rfl, Nat.not_lt.mp fun hlong => ?_⟩
      exact (keepsAnswers_iff h sessionId sdpOut).mp hkeep ⟨hp, answer, hl, hlong⟩
  · intro hfits
    have hok : ∀ answer, h.answers.value.lookup sessionId = some answer → ∀ e written h',
        h.takeAnswerSdp sessionId sdpOut ≠ (.error e, written, h') := by
      intro answer hl e written h' ht
      obtain ⟨hp, hfit⟩ := hfits answer hl
      rw [HookState.takeAnswerSdp_fits (ne_true_of_eq_false hp) hl hfit] at ht
      cases ht
    refine ⟨(keepsAnswers_iff h sessionId sdpOut).mpr ?_, ?_⟩
    · rintro ⟨_, answer, hl, hlong⟩
      exact Nat.not_le.mpr hlong (hfits answer hl).2
    · intro e written h' ht answer hl
      exact absurd ht (hok answer hl e written h')

/-- go2rtc's answer is one byte longer than the buffer: it is gone, and a retry
finds nothing whatever its room. -/
theorem take_drops_overlong_answer :
    ∃ h h' : BridgeWebRtcHooks,
      ((BridgeWebRtcHooks.new 0).onOffer (some ((∅ : HashMap Nat String).insert 0 "SN-1"))
        (fun _ _ => .ok "v=0") 7 "offer").2 = h ∧
      h.answers.value.lookup 7 = some "v=0" ∧
      h.takeAnswerSdp 7 [0, 0] = (.error .resourceExhausted, [0, 0], h') ∧
      h'.answers.value.lookup 7 = none ∧
      ∀ larger, (h'.takeAnswerSdp 7 larger).1 = .error .invalidInState := by
  refine ⟨⟨0, ⟨(∅ : HashMap UInt16 String).insert 7 "v=0", false⟩, ⟨[.answer 7], false⟩⟩,
    ⟨0, ⟨((∅ : HashMap UInt16 String).insert 7 "v=0").erase 7, false⟩, ⟨[.answer 7], false⟩⟩,
    rfl, rfl, rfl, rfl, fun _ => rfl⟩

end BridgeWebRtcHooks

end MatterBridge.Bridge
