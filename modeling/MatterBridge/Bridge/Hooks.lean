import MatterBridge.Core.HashMap
import MatterBridge.Core.Run

/-!
# The WebRTC hooks of one camera endpoint

An accepted offer leaves two traces: the answer text in a map and a work item in
a queue, linked by the session id alone. The handler pops work items and later
takes the answer for each; sessions may end, and their ids come back, at any
point in between.
-/
namespace MatterBridge.Bridge

open MatterBridge.Core

inductive WebRtcError where
  | invalidInState
  | failure
  | resourceExhausted
  deriving DecidableEq, Repr

structure AnswerOutcome where
  videoStreamId : Option UInt16
  audioStreamId : Option UInt16
  deriving DecidableEq, Repr

inductive OutboundWork where
  | answer (sessionId : UInt16)
  deriving DecidableEq, Repr

structure Mutex (α : Type) where
  value : α
  poisoned : Bool

/-- An unbounded channel of which the hooks own both ends. -/
structure Outbound where
  work : List OutboundWork
  closed : Bool

structure BridgeWebRtcHooks where
  slot : Nat
  answers : Mutex (HashMap UInt16 String)
  outbound : Outbound

/-- The shared `stream_names` as one call finds it; `none` when its lock is poisoned. -/
abbrev StreamNames := Option (HashMap Nat String)

/-- What go2rtc replies to an offer: stream name and SDP offer to SDP answer. -/
abbrev ExchangeSdp := String → String → Except String String

def bytesOf (s : String) : List UInt8 := s.toUTF8.data.toList

namespace BridgeWebRtcHooks

def new (slot : Nat) : BridgeWebRtcHooks where
  slot := slot
  answers := ⟨∅, false⟩
  outbound := ⟨[], false⟩

def lookupStreamName (h : BridgeWebRtcHooks) (streamNames : StreamNames) : Option String :=
  streamNames.bind fun m => m.lookup h.slot

/-- Forward an offer to the stream of this endpoint. -/
def forwardOffer (h : BridgeWebRtcHooks) (streamNames : StreamNames) (exchangeSdp : ExchangeSdp)
    (sdp : String) : Except WebRtcError String :=
  match h.lookupStreamName streamNames with
  | none => .error .invalidInState
  | some streamName => (exchangeSdp streamName sdp).mapError fun _ => .failure

def onOffer (h : BridgeWebRtcHooks) (streamNames : StreamNames) (exchangeSdp : ExchangeSdp)
    (sessionId : UInt16) (sdp : String) : Except WebRtcError AnswerOutcome × BridgeWebRtcHooks :=
  match h.forwardOffer streamNames exchangeSdp sdp with
  | .error e => (.error e, h)
  | .ok answer =>
    let h :=
      if h.answers.poisoned then h
      else { h with answers := { h.answers with value := h.answers.value.insert sessionId answer } }
    if h.outbound.closed then (.error .failure, h)
    else (.ok ⟨some 1, none⟩,
      { h with outbound := { h.outbound with work := h.outbound.work ++ [.answer sessionId] } })

def onEndSession (h : BridgeWebRtcHooks) (sessionId : UInt16) : BridgeWebRtcHooks :=
  if h.answers.poisoned then h
  else { h with answers := { h.answers with value := h.answers.value.erase sessionId } }

/-- `none` while the queue is empty: the source then waits. -/
def nextOutbound (h : BridgeWebRtcHooks) : Option (OutboundWork × BridgeWebRtcHooks) :=
  match h.outbound.work with
  | [] => none
  | work :: rest => some (work, { h with outbound := { h.outbound with work := rest } })

/-- The result, the output buffer afterwards, and the hooks afterwards. -/
def takeAnswerSdp (h : BridgeWebRtcHooks) (sessionId : UInt16) (sdpOut : List UInt8) :
    Except WebRtcError Nat × List UInt8 × BridgeWebRtcHooks :=
  if h.answers.poisoned then (.error .failure, sdpOut, h)
  else
    match h.answers.value.lookup sessionId with
    | none => (.error .invalidInState, sdpOut, h)
    | some sdp =>
      let h := { h with answers := { h.answers with value := h.answers.value.erase sessionId } }
      let bytes := bytesOf sdp
      if bytes.length > sdpOut.length then (.error .resourceExhausted, sdpOut, h)
      else (.ok bytes.length, bytes ++ sdpOut.drop bytes.length, h)

end BridgeWebRtcHooks

/-! ## Runs of the hooks -/

/-- The arguments and surroundings of one `on_offer` call. -/
structure Offer where
  sessionId : UInt16
  sdp : String
  streamNames : StreamNames
  exchangeSdp : ExchangeSdp

/-- The answer go2rtc gives to the offer, if it is forwarded and succeeds. -/
def Offer.answer (o : Offer) (slot : Nat) : Option String :=
  (o.streamNames.bind fun m => m.lookup slot).bind fun streamName =>
    (o.exchangeSdp streamName o.sdp).toOption

/-- The hooks and the work items popped but not yet taken. -/
structure HookState where
  hooks : BridgeWebRtcHooks
  popped : List OutboundWork

namespace HookState

def start (slot : Nat) : HookState := ⟨.new slot, []⟩

inductive Label where
  | offer (o : Offer) (outcome : Except WebRtcError AnswerOutcome)
  | endSession (sessionId : UInt16)
  | pop (work : OutboundWork)
  | take (sessionId : UInt16) (sdpOut : List UInt8) (outcome : Except WebRtcError Nat)
      (written : List UInt8)

inductive Step : HookState → Label → HookState → Prop
  | offer {s : HookState} {o : Offer} {outcome : Except WebRtcError AnswerOutcome}
      {hooks : BridgeWebRtcHooks} :
      s.hooks.onOffer o.streamNames o.exchangeSdp o.sessionId o.sdp = (outcome, hooks) →
      Step s (.offer o outcome) { s with hooks := hooks }
  | endSession {s : HookState} {sessionId : UInt16} :
      Step s (.endSession sessionId) { s with hooks := s.hooks.onEndSession sessionId }
  | pop {s : HookState} {work : OutboundWork} {hooks : BridgeWebRtcHooks} :
      s.hooks.nextOutbound = some (work, hooks) →
      Step s (.pop work) ⟨hooks, work :: s.popped⟩
  | take {s : HookState} {sessionId : UInt16} {sdpOut written : List UInt8}
      {outcome : Except WebRtcError Nat} {hooks : BridgeWebRtcHooks} :
      .answer sessionId ∈ s.popped →
      s.hooks.takeAnswerSdp sessionId sdpOut = (outcome, written, hooks) →
      Step s (.take sessionId sdpOut outcome written)
        ⟨hooks, s.popped.erase (.answer sessionId)⟩

/-- The step replaces or drops what is buffered for the session. -/
def Label.Touches (sessionId : UInt16) : Label → Prop
  | .offer o (.ok _) => o.sessionId = sessionId
  | .offer _ (.error _) => False
  | .endSession id => id = sessionId
  | .pop _ => False
  | .take id _ _ _ => id = sessionId

/-- `answer` is go2rtc's answer to the most recent successful offer of the session,
and since then the session has neither ended nor had an answer taken. -/
def LastAnswer (slot : Nat) (sessionId : UInt16) (labels : List Label) (answer : String) : Prop :=
  ∃ old o outcome since, labels = old ++ .offer o (.ok outcome) :: since ∧
    o.sessionId = sessionId ∧ o.answer slot = some answer ∧
    ∀ l ∈ since, ¬ Label.Touches sessionId l

theorem LastAnswer.snoc {slot : Nat} {sessionId : UInt16} {labels : List Label} {answer : String}
    (h : LastAnswer slot sessionId labels answer) {l : Label}
    (hl : ¬ Label.Touches sessionId l) : LastAnswer slot sessionId (labels ++ [l]) answer := by
  obtain ⟨old, o, outcome, since, rfl, hid, ho, hsince⟩ := h
  refine ⟨old, o, outcome, since ++ [l], by simp, hid, ho, fun k hk => ?_⟩
  rcases List.mem_append.mp hk with hk | hk
  · exact hsince k hk
  · rw [List.mem_singleton.mp hk]
    exact hl

theorem lastAnswer_offer {slot : Nat} {o : Offer} {answer : String}
    (h : o.answer slot = some answer) (labels : List Label) (outcome : AnswerOutcome) :
    LastAnswer slot o.sessionId (labels ++ [.offer o (.ok outcome)]) answer :=
  ⟨labels, o, outcome, [], rfl, rfl, h, by simp⟩

/-- The lock is not poisoned and the queue is not closed; no operation changes that. -/
structure Open (h : BridgeWebRtcHooks) : Prop where
  unpoisoned : h.answers.poisoned = false
  unclosed : h.outbound.closed = false

theorem Open.not_poisoned {h : BridgeWebRtcHooks} (ho : Open h) : ¬ h.answers.poisoned = true := by
  rw [ho.unpoisoned]
  exact Bool.false_ne_true

theorem answer_of_forwardOffer {h : BridgeWebRtcHooks} {o : Offer} {answer : String}
    (hf : h.forwardOffer o.streamNames o.exchangeSdp o.sdp = .ok answer) :
    o.answer h.slot = some answer := by
  unfold BridgeWebRtcHooks.forwardOffer BridgeWebRtcHooks.lookupStreamName at hf
  unfold Offer.answer
  cases hn : o.streamNames.bind fun m => m.lookup h.slot with
  | none =>
    rw [hn] at hf
    cases hf
  | some streamName =>
    rw [hn] at hf
    cases hx : o.exchangeSdp streamName o.sdp with
    | error e => simp [hx, Except.mapError] at hf
    | ok sdp =>
      simp only [hx, Except.mapError, Except.ok.injEq] at hf
      simp [hx, hf, Except.toOption]

/-- An offer either fails and changes nothing, or buffers go2rtc's answer and
queues one work item. -/
theorem onOffer_cases {h : BridgeWebRtcHooks} (ho : Open h) (o : Offer) :
    (∃ e, h.onOffer o.streamNames o.exchangeSdp o.sessionId o.sdp = (.error e, h)) ∨
    (∃ answer, o.answer h.slot = some answer ∧
      h.onOffer o.streamNames o.exchangeSdp o.sessionId o.sdp = (.ok ⟨some 1, none⟩,
        { h with
          answers := { h.answers with value := h.answers.value.insert o.sessionId answer }
          outbound := { h.outbound with work := h.outbound.work ++ [.answer o.sessionId] } })) := by
  cases hf : h.forwardOffer o.streamNames o.exchangeSdp o.sdp with
  | error e => exact Or.inl ⟨e, by simp only [BridgeWebRtcHooks.onOffer, hf]⟩
  | ok answer =>
    refine Or.inr ⟨answer, answer_of_forwardOffer hf, ?_⟩
    simp only [BridgeWebRtcHooks.onOffer, hf, ho.unpoisoned, ho.unclosed, Bool.false_eq_true,
      if_false]

theorem takeAnswerSdp_missing {h : BridgeWebRtcHooks} (hp : ¬ h.answers.poisoned = true)
    {sessionId : UInt16} (hl : h.answers.value.lookup sessionId = none) (sdpOut : List UInt8) :
    h.takeAnswerSdp sessionId sdpOut = (.error .invalidInState, sdpOut, h) := by
  simp only [BridgeWebRtcHooks.takeAnswerSdp, if_neg hp, hl]

/-- A buffered answer that fits is written. -/
theorem takeAnswerSdp_fits {h : BridgeWebRtcHooks} (hp : ¬ h.answers.poisoned = true)
    {sessionId : UInt16} {answer : String} (hl : h.answers.value.lookup sessionId = some answer)
    {sdpOut : List UInt8} (hfit : (bytesOf answer).length ≤ sdpOut.length) :
    h.takeAnswerSdp sessionId sdpOut = (.ok (bytesOf answer).length,
      bytesOf answer ++ sdpOut.drop (bytesOf answer).length,
      { h with answers := { h.answers with value := h.answers.value.erase sessionId } }) := by
  simp only [BridgeWebRtcHooks.takeAnswerSdp, if_neg hp, hl, if_neg (Nat.not_lt.mpr hfit)]

/-- One that does not is removed all the same. -/
theorem takeAnswerSdp_overlong {h : BridgeWebRtcHooks} (hp : ¬ h.answers.poisoned = true)
    {sessionId : UInt16} {answer : String} (hl : h.answers.value.lookup sessionId = some answer)
    {sdpOut : List UInt8} (hlong : sdpOut.length < (bytesOf answer).length) :
    h.takeAnswerSdp sessionId sdpOut = (.error .resourceExhausted, sdpOut,
      { h with answers := { h.answers with value := h.answers.value.erase sessionId } }) := by
  simp only [BridgeWebRtcHooks.takeAnswerSdp, if_neg hp, hl, if_pos hlong]

/-- A take for a session with a buffered answer removes that answer, whether it
fits or not; what a successful one writes is the answer. -/
theorem takeAnswerSdp_cases {h h' : BridgeWebRtcHooks} (ho : Open h) {sessionId : UInt16}
    {sdpOut written : List UInt8} {outcome : Except WebRtcError Nat}
    (ht : h.takeAnswerSdp sessionId sdpOut = (outcome, written, h')) :
    (h.answers.value.lookup sessionId = none ∧ outcome = .error .invalidInState ∧ h' = h) ∨
    (∃ answer, h.answers.value.lookup sessionId = some answer ∧
      h' = { h with answers := { h.answers with value := h.answers.value.erase sessionId } } ∧
      ∀ n, outcome = .ok n → n = (bytesOf answer).length ∧
        written = bytesOf answer ++ sdpOut.drop n) := by
  cases hl : h.answers.value.lookup sessionId with
  | none =>
    rw [takeAnswerSdp_missing ho.not_poisoned hl] at ht
    cases ht
    exact Or.inl ⟨rfl, rfl, rfl⟩
  | some answer =>
    rcases Nat.lt_or_ge sdpOut.length (bytesOf answer).length with hlong | hfit
    · rw [takeAnswerSdp_overlong ho.not_poisoned hl hlong] at ht
      cases ht
      exact Or.inr ⟨answer, rfl, rfl, fun n hn => by cases hn⟩
    · rw [takeAnswerSdp_fits ho.not_poisoned hl hfit] at ht
      cases ht
      refine Or.inr ⟨answer, rfl, rfl, fun n hn => ?_⟩
      cases hn
      exact ⟨rfl, rfl⟩

/-- Every buffered answer is the latest of its session and has a work item that
is still queued, or popped and not taken. -/
structure Sound (slot : Nat) (labels : List Label) (s : HookState) : Prop where
  slot_eq : s.hooks.slot = slot
  opened : Open s.hooks
  latest : ∀ id answer, s.hooks.answers.value.lookup id = some answer →
    LastAnswer slot id labels answer
  work : ∀ id answer, s.hooks.answers.value.lookup id = some answer →
    .answer id ∈ s.hooks.outbound.work ∨ .answer id ∈ s.popped

theorem sound_start (slot : Nat) : Sound slot [] (start slot) where
  slot_eq := rfl
  opened := ⟨rfl, rfl⟩
  latest id answer hl := by simp [start, BridgeWebRtcHooks.new] at hl
  work id answer hl := by simp [start, BridgeWebRtcHooks.new] at hl

/-- Removing one session's answer touches no other session. -/
theorem lookup_erase_some {m : HashMap UInt16 String} {k id : UInt16} {answer : String}
    (h : (m.erase k).lookup id = some answer) : id ≠ k ∧ m.lookup id = some answer := by
  rw [HashMap.lookup_erase_eq] at h
  split at h
  · cases h
  · exact ⟨‹_›, h⟩

theorem Sound.offer {slot : Nat} {labels : List Label} {s : HookState} (h : Sound slot labels s)
    {o : Offer} {outcome : Except WebRtcError AnswerOutcome} {hooks : BridgeWebRtcHooks}
    (ho : s.hooks.onOffer o.streamNames o.exchangeSdp o.sessionId o.sdp = (outcome, hooks)) :
    Sound slot (labels ++ [.offer o outcome]) { s with hooks := hooks } := by
  rcases onOffer_cases h.opened o with ⟨e, he⟩ | ⟨answer, ha, he⟩
  · rw [he] at ho
    cases ho
    exact ⟨h.slot_eq, h.opened, fun id a hl => (h.latest id a hl).snoc not_false, h.work⟩
  · rw [he] at ho
    cases ho
    rw [h.slot_eq] at ha
    refine ⟨h.slot_eq, ⟨h.opened.unpoisoned, h.opened.unclosed⟩, ?_, ?_⟩
    · intro id a hl
      simp only [HashMap.lookup_insert_eq] at hl
      split at hl
      · rename_i hid
        cases hl
        rw [hid]
        exact lastAnswer_offer ha labels _
      · rename_i hid
        exact (h.latest id a hl).snoc fun htouch => hid htouch.symm
    · intro id a hl
      simp only [HashMap.lookup_insert_eq] at hl
      split at hl
      · rename_i hid
        rw [hid]
        exact Or.inl (List.mem_append_right _ (List.mem_singleton_self _))
      · exact (h.work id a hl).imp_left (List.mem_append_left _)

theorem Sound.endSession {slot : Nat} {labels : List Label} {s : HookState}
    (h : Sound slot labels s) (sessionId : UInt16) :
    Sound slot (labels ++ [.endSession sessionId])
      { s with hooks := s.hooks.onEndSession sessionId } := by
  rw [BridgeWebRtcHooks.onEndSession, if_neg h.opened.not_poisoned]
  refine ⟨h.slot_eq, ⟨h.opened.unpoisoned, h.opened.unclosed⟩, fun id a hl => ?_, fun id a hl => ?_⟩
  · obtain ⟨hne, hl⟩ := lookup_erase_some hl
    exact (h.latest id a hl).snoc fun htouch => hne htouch.symm
  · exact h.work id a (lookup_erase_some hl).2

theorem Sound.pop {slot : Nat} {labels : List Label} {s : HookState}
    (h : Sound slot labels s) {work : OutboundWork} {hooks : BridgeWebRtcHooks}
    (hp : s.hooks.nextOutbound = some (work, hooks)) :
    Sound slot (labels ++ [.pop work]) ⟨hooks, work :: s.popped⟩ := by
  unfold BridgeWebRtcHooks.nextOutbound at hp
  split at hp
  · cases hp
  · rename_i work' rest hw
    cases hp
    refine ⟨h.slot_eq, ⟨h.opened.unpoisoned, h.opened.unclosed⟩, ?_, fun id a hl => ?_⟩
    · exact fun id a hl => (h.latest id a hl).snoc not_false
    · -- The popped item moves from the queue to the items to be taken.
      rcases h.work id a hl with hq | hq
      · rw [hw] at hq
        rcases List.mem_cons.mp hq with rfl | hq
        · exact Or.inr List.mem_cons_self
        · exact Or.inl hq
      · exact Or.inr (List.mem_cons_of_mem _ hq)

theorem Sound.take {slot : Nat} {labels : List Label} {s : HookState}
    (h : Sound slot labels s) {sessionId : UInt16} {sdpOut written : List UInt8}
    {outcome : Except WebRtcError Nat} {hooks : BridgeWebRtcHooks}
    (ht : s.hooks.takeAnswerSdp sessionId sdpOut = (outcome, written, hooks)) :
    Sound slot (labels ++ [.take sessionId sdpOut outcome written])
      ⟨hooks, s.popped.erase (.answer sessionId)⟩ := by
  -- After a take nothing is buffered for the session, so its item is not missed.
  have hgone : (hooks.slot = slot ∧ Open hooks ∧ hooks.outbound = s.hooks.outbound) ∧
      ∀ id a, hooks.answers.value.lookup id = some a →
        id ≠ sessionId ∧ s.hooks.answers.value.lookup id = some a := by
    rcases takeAnswerSdp_cases h.opened ht with ⟨hl, _, rfl⟩ | ⟨answer, _, rfl, _⟩
    · refine ⟨⟨h.slot_eq, h.opened, rfl⟩, fun id a ha => ⟨?_, ha⟩⟩
      rintro rfl
      rw [hl] at ha
      cases ha
    · exact ⟨⟨h.slot_eq, ⟨h.opened.unpoisoned, h.opened.unclosed⟩, rfl⟩,
        fun id a ha => lookup_erase_some ha⟩
  obtain ⟨⟨hslot, hopen, hqueue⟩, hrest⟩ := hgone
  refine ⟨hslot, hopen, fun id a ha => ?_, fun id a ha => ?_⟩
  · obtain ⟨hne, ha⟩ := hrest id a ha
    exact (h.latest id a ha).snoc fun htouch => hne htouch.symm
  · obtain ⟨hne, ha⟩ := hrest id a ha
    have hitem : OutboundWork.answer id ≠ .answer sessionId := by
      intro he
      cases he
      exact hne rfl
    change .answer id ∈ hooks.outbound.work ∨ _
    rw [hqueue]
    exact (h.work id a ha).imp_right (List.mem_erase_of_ne hitem).mpr

theorem Sound.step {slot : Nat} {labels : List Label} {s t : HookState} {l : Label}
    (h : Sound slot labels s) (hs : Step s l t) : Sound slot (labels ++ [l]) t := by
  cases hs with
  | offer ho => exact h.offer ho
  | endSession => exact h.endSession _
  | pop hp => exact h.pop hp
  | take _ ht => exact h.take ht

theorem sound_of_run {slot : Nat} {labels : List Label} {s : HookState}
    (h : Run Step (start slot) labels s) : Sound slot labels s :=
  h.history (Sound slot) (sound_start slot) fun _ _ _ _ hs hstep => hs.step hstep

/-- **The answer lifecycle.** After any run of the hooks of one endpoint: a
successful take writes the answer to the session's most recent successful offer,
which no end or earlier take has touched; every buffered answer has a work item
queued or popped, so none is left when all work is done; a failed offer changes
nothing and a successful one buffers its answer with one work item. -/
theorem answer_lifecycle {slot : Nat} {labels : List Label} {s : HookState}
    (h : Run Step (start slot) labels s) :
    (∀ sessionId sdpOut n written t, Step s (.take sessionId sdpOut (.ok n) written) t →
      ∃ answer, LastAnswer slot sessionId labels answer ∧ n = (bytesOf answer).length ∧
        written = bytesOf answer ++ sdpOut.drop n) ∧
    (∀ sessionId, sessionId ∈ s.hooks.answers.value →
      .answer sessionId ∈ s.hooks.outbound.work ∨ .answer sessionId ∈ s.popped) ∧
    (s.hooks.outbound.work = [] → s.popped = [] → s.hooks.answers.value = ∅) ∧
    (∀ o e t, Step s (.offer o (.error e)) t →
      t.hooks.answers.value = s.hooks.answers.value ∧ t.hooks.outbound.work = s.hooks.outbound.work) ∧
    (∀ o outcome t, Step s (.offer o (.ok outcome)) t →
      ∃ answer, o.answer slot = some answer ∧
        t.hooks.answers.value = s.hooks.answers.value.insert o.sessionId answer ∧
        t.hooks.outbound.work = s.hooks.outbound.work ++ [.answer o.sessionId]) := by
  have hsound := sound_of_run h
  have hwork : ∀ sessionId, sessionId ∈ s.hooks.answers.value →
      .answer sessionId ∈ s.hooks.outbound.work ∨ .answer sessionId ∈ s.popped := by
    intro sessionId hm
    obtain ⟨answer, ha⟩ := Finmap.mem_iff.mp hm
    exact hsound.work sessionId answer ha
  refine ⟨?_, hwork, ?_, ?_, ?_⟩
  · intro sessionId sdpOut n written t ht
    cases ht with
    | take _ ht =>
      rcases takeAnswerSdp_cases hsound.opened ht with ⟨_, ho, _⟩ | ⟨answer, hl, _, hok⟩
      · cases ho
      · exact ⟨answer, hsound.latest sessionId answer hl, hok n rfl⟩
  · intro hempty hpopped
    apply Finmap.ext_lookup
    intro id
    rw [Finmap.lookup_empty, Finmap.lookup_eq_none]
    intro hm
    have hitem := hwork id hm
    rw [hempty, hpopped] at hitem
    simp at hitem
  · intro o e t ht
    cases ht with
    | offer ho =>
      rcases onOffer_cases hsound.opened o with ⟨_, he⟩ | ⟨_, _, he⟩
      · rw [he] at ho
        cases ho
        exact ⟨rfl, rfl⟩
      · rw [he] at ho
        cases ho
  · intro o outcome t ht
    cases ht with
    | offer ho =>
      rcases onOffer_cases hsound.opened o with ⟨_, he⟩ | ⟨answer, ha, he⟩
      · rw [he] at ho
        cases ho
      · rw [he] at ho
        cases ho
        rw [hsound.slot_eq] at ha
        exact ⟨answer, ha, rfl, rfl⟩

/-- One offer, one pop, and a take into an eight-byte buffer. -/
theorem answer_lifecycle_one_session :
    let o : Offer := ⟨7, "offer", some ((∅ : HashMap Nat String).insert 0 "SN-1"),
      fun streamName _ => .ok streamName⟩
    ∃ answer, LastAnswer 0 7 [.offer o (.ok ⟨some 1, none⟩), .pop (.answer 7)] answer ∧
      4 = (bytesOf answer).length ∧
      bytesOf "SN-1" ++ [0, 0, 0, 0] = bytesOf answer ++ (List.replicate 8 0).drop 4 := by
  intro o
  let hooks : BridgeWebRtcHooks :=
    ⟨0, ⟨(∅ : HashMap UInt16 String).insert 7 "SN-1", false⟩, ⟨[.answer 7], false⟩⟩
  let popped : BridgeWebRtcHooks := { hooks with outbound := ⟨[], false⟩ }
  have hrun : Run Step (start 0) [.offer o (.ok ⟨some 1, none⟩), .pop (.answer 7)]
      ⟨popped, [.answer 7]⟩ :=
    Run.cons (t := ⟨hooks, []⟩) (.offer (s := start 0) rfl)
      (Run.one (.pop (s := ⟨hooks, []⟩) rfl))
  have htake : Step ⟨popped, [.answer 7]⟩
      (.take 7 (List.replicate 8 0) (.ok 4) (bytesOf "SN-1" ++ [0, 0, 0, 0]))
      ⟨{ popped with answers := ⟨popped.answers.value.erase 7, false⟩ }, []⟩ :=
    .take (s := ⟨popped, [.answer 7]⟩) List.mem_cons_self rfl
  exact (answer_lifecycle hrun).1 7 _ 4 _ _ htake

end HookState

end MatterBridge.Bridge
