import MatterBridge.Bridge.Intake
import MatterBridge.Media.StreamManager

/-!
# Whether a scan restores a lost stream

Discovery, registry and stream manager in auto mode, with a go2rtc that may lose
calls or restart. The manager only acts on registry events, and a scan sends none
for a camera it already tracks, so a stream that got lost comes back only with an
event that was already on its way or with the camera's next announcement.
-/
namespace MatterBridge.Bridge

open MatterBridge.Core MatterBridge.Onvif MatterBridge.Media

/-! ## What registry events do to one stream -/

section

variable [UnicodeTables] [UrlCrate] {cfg : MediaConfig} {report : String → String}

end

/-! ## The system -/

structure AutoMedia where
  intake : Intake
  media : MediaSync

namespace AutoMedia

/-- Before the first scan, with whatever streams go2rtc holds. -/
def start (table : StreamTable) : AutoMedia := ⟨Intake.start, ⟨0, .receiving, table⟩⟩

inductive Label where
  | intake (l : Intake.Label)
  | media (l : MediaSync.Label)

def Label.intake? : Label → Option Intake.Label
  | .intake l => some l
  | .media _ => none

/-- The registry event a step hands to the manager. -/
def Label.received? : Label → Option RegistryEvent
  | .media (.received e) => some e
  | _ => none

/-- The scans among the labels of a run. -/
def scansOf (labels : List Label) : List Scan :=
  Intake.scansOf (labels.filterMap Label.intake?)

theorem scansOf_append (a b : List Label) : scansOf (a ++ b) = scansOf a ++ scansOf b := by
  rw [scansOf, List.filterMap_append, Intake.scansOf_append, scansOf, scansOf]

/-- The registry events the manager took in a run, in order. -/
def handled (labels : List Label) : List RegistryEvent := labels.filterMap Label.received?

theorem handled_snoc (labels : List Label) (l : Label) :
    handled (labels ++ [l]) = handled labels ++ l.received?.toList := by
  rw [handled, List.filterMap_append]
  cases hl : l.received? <;> simp [handled, hl]

/-- What may happen between a scan and the state it leaves behind: deliveries,
and the manager at work while go2rtc stays up and every call succeeds. Messages
from position `p` of the registry log on are not lost to lag. -/
def Undisturbed (p : Nat) (s : AutoMedia) : Label → Prop
  | .intake (.scan _) => False
  | .intake .discovery => True
  | .media (.lagged _) => s.intake.registry.tx.oldest ≤ p
  | .media l => l.Reliable

/-- Every event sent so far has been handled. -/
structure Settled (s : AutoMedia) : Prop where
  discovery : s.intake.discoveryRx = []
  idle : s.media.phase = .receiving
  registry : s.intake.registry.tx.unread s.media.next = []

variable [UnicodeTables] [UrlCrate] {cfg : MediaConfig} {report : String → String}

inductive Step (cfg : MediaConfig) (report : String → String) : AutoMedia → Label → AutoMedia → Prop
  | intake {s : AutoMedia} {l : Intake.Label} {intake : Intake} : Intake.Step s.intake l intake →
      Step cfg report s (.intake l) { s with intake := intake }
  | media {s : AutoMedia} {l : MediaSync.Label} {media : MediaSync} :
      MediaSync.Step cfg report s.intake.registry.tx s.media l media →
      Step cfg report s (.media l) { s with media := media }

theorem intake_run {s t : AutoMedia} {labels : List Label} (h : Run (Step cfg report) s labels t) :
    Run Intake.Step s.intake (labels.filterMap Label.intake?) t.intake := by
  refine h.project AutoMedia.intake Label.intake? ?_
  intro s l t hstep
  cases hstep with
  | intake hi => exact Or.inl ⟨_, rfl, hi⟩
  | media _ => exact Or.inr ⟨rfl, rfl⟩

/-- The manager never reads beyond the log. -/
theorem Step.within {s t : AutoMedia} {l : Label} (hs : Step cfg report s l t)
    (h : s.media.next ≤ s.intake.registry.tx.sent.length) :
    t.media.next ≤ t.intake.registry.tx.sent.length := by
  cases hs with
  | intake hi =>
    obtain ⟨es, hsent, _⟩ := hi.log
    rw [hsent, List.length_append]
    change s.media.next ≤ _
    omega
  | media hm =>
    cases hm with
    | received _ hrecv => exact (Broadcast.recv_ok_seen hrecv).2
    | lagged _ hrecv =>
      obtain ⟨_, rfl, _⟩ := Broadcast.recv_lagged hrecv
      change s.intake.registry.tx.oldest ≤ s.intake.registry.tx.sent.length
      unfold Broadcast.oldest
      omega
    | closed _ hrecv => exact absurd hrecv (Broadcast.recv_ne_closed _ _ _)
    | call _ => exact h
    | restart => exact h

/-! ## After a scan -/

/-- Between a scan and a later state: the queues only drain, the manager has
applied what it was handed, and it was handed everything from `p` on. -/
structure Worked (cfg : MediaConfig) (report : String → String) (p : Nat) (s : AutoMedia)
    (labels : List Label) (t : AutoMedia) : Prop where
  within : t.media.next ≤ t.intake.registry.tx.sent.length
  drained : t.intake.drained = s.intake.drained
  applied : t.media.finished report =
    (handled labels).foldl (applyEvent cfg report) (s.media.finished report)
  complete : p ≤ t.media.next →
    ∃ older, handled labels = older ++ (t.intake.registry.tx.seen t.media.next).drop p
  sent : ∀ e ∈ handled labels, e ∈ t.intake.registry.tx.sent
  counted : (handled labels).length + s.media.next ≤ t.media.next

/-- Taking one more event keeps the handled events complete from `p` on. -/
theorem Worked.complete_received {p : Nat} {s t : AutoMedia} {labels : List Label}
    (h : Worked cfg report p s labels t) {e : RegistryEvent} {next : Nat}
    (hrecv : t.intake.registry.tx.recv t.media.next = some (.ok e, next)) (hle : p ≤ next) :
    ∃ older, handled labels ++ [e] = older ++ (t.intake.registry.tx.seen next).drop p := by
  have hlen : (t.intake.registry.tx.seen t.media.next).length = t.media.next :=
    List.length_take_of_le h.within
  obtain ⟨hseen, _⟩ := Broadcast.recv_ok_seen hrecv
  obtain ⟨_, hnext⟩ := Broadcast.recv_ok hrecv
  rw [hseen]
  rcases Nat.lt_or_ge t.media.next p with hlt | hge
  · -- The position reaches `p` just now, so everything handled is older.
    refine ⟨handled labels ++ [e], ?_⟩
    rw [List.drop_eq_nil_of_le, List.append_nil]
    rw [List.length_append, hlen, List.length_singleton, ← hnext]
    omega
  · obtain ⟨older, hold⟩ := h.complete hge
    refine ⟨older, ?_⟩
    rw [hold, List.append_assoc, List.drop_append_of_le_length (hlen.symm ▸ hge)]

/-- A step that hands the manager nothing and moves it, if at all, no later than `p`. -/
theorem Worked.unheard {p : Nat} {s t u : AutoMedia} {labels : List Label} {l : Label}
    {es : List RegistryEvent} (h : Worked cfg report p s labels t) (hl : l.received? = none)
    (hwithin : u.media.next ≤ u.intake.registry.tx.sent.length)
    (hdrained : u.intake.drained = t.intake.drained)
    (hsent : u.intake.registry.tx.sent = t.intake.registry.tx.sent ++ es)
    (hfinished : u.media.finished report = t.media.finished report)
    (hnext : u.media.next = t.media.next ∨ t.media.next ≤ u.media.next ∧ u.media.next ≤ p) :
    Worked cfg report p s (labels ++ [l]) u := by
  have hhandled : handled (labels ++ [l]) = handled labels := by
    rw [handled_snoc, hl, Option.toList_none, List.append_nil]
  have hcounted := h.counted
  refine ⟨hwithin, hdrained.trans h.drained, ?_, ?_, ?_, ?_⟩
  · rw [hhandled, hfinished]
    exact h.applied
  · intro hle
    rw [hhandled]
    rcases hnext with hstay | ⟨_, hskip⟩
    · rw [hstay] at hle ⊢
      rw [Broadcast.seen_grow hsent h.within]
      exact h.complete hle
    · -- The manager continues no later than `p`, so nothing from there on is missing.
      refine ⟨handled labels, ?_⟩
      rw [List.drop_eq_nil_of_le, List.append_nil]
      exact (List.length_take_le _ _).trans hskip
  · rw [hhandled, hsent]
    exact fun e he => List.mem_append_left es (h.sent e he)
  · rw [hhandled]
    omega

theorem Worked.step {p : Nat} {s t u : AutoMedia} {labels : List Label} {l : Label}
    (h : Worked cfg report p s labels t) (hs : Step cfg report t l u) (hok : Undisturbed p t l) :
    Worked cfg report p s (labels ++ [l]) u := by
  have hwithin := hs.within h.within
  cases hs with
  | @intake l' intake hi =>
    obtain ⟨es, hsent, _⟩ := hi.log
    cases l' with
    | scan scan => exact hok.elim
    | discovery => exact h.unheard rfl hwithin hi.drained_discovery hsent rfl (Or.inl rfl)
  | media hm =>
    cases hm with
    | @received e next hp hrecv =>
      have hhandled : handled (labels ++ [.media (.received e)]) = handled labels ++ [e] :=
        handled_snoc labels _
      have hcounted := h.counted
      obtain ⟨_, hnext⟩ := Broadcast.recv_ok hrecv
      refine ⟨hwithin, h.drained, ?_, ?_, ?_, ?_⟩
      · have happ := h.applied
        rw [MediaSync.finished, hp] at happ
        rw [hhandled, List.foldl_append, ← happ]
        rfl
      · rw [hhandled]
        exact h.complete_received hrecv
      · intro e' he'
        rw [hhandled] at he'
        rcases List.mem_append.mp he' with he' | he'
        · exact h.sent e' he'
        · obtain rfl := List.mem_singleton.mp he'
          exact Broadcast.mem_of_recv_ok hrecv
      · rw [hhandled, List.length_append, List.length_singleton]
        change _ ≤ next
        omega
    | @lagged missed next hp hrecv =>
      obtain ⟨hlt, hnext, _⟩ := Broadcast.recv_lagged hrecv
      have hskip : t.media.next ≤ next ∧ next ≤ p := by
        change t.intake.registry.tx.oldest ≤ p at hok
        omega
      exact h.unheard rfl hwithin rfl (List.append_nil _).symm rfl (Or.inr hskip)
    | closed _ hrecv => exact absurd hrecv (Broadcast.recv_ne_closed _ _ _)
    | @call request d hq =>
      obtain rfl : d = .delivered := hok
      exact h.unheard rfl hwithin rfl (List.append_nil _).symm
        (MediaSync.finished_call report t.media hq) (Or.inl rfl)
    | restart => exact hok.elim

/-- The registry events on their way to the manager, those still to be sent for
queued discovery events included. -/
def pending (s : AutoMedia) : List RegistryEvent := s.intake.drained.tx.unread s.media.next

/-- Steps of the manager while discovery and registry are quiet. -/
theorem run_media {intake : Intake} {media media' : MediaSync} {labels : List MediaSync.Label}
    (h : Run (MediaSync.Step cfg report intake.registry.tx) media labels media') :
    Run (Step cfg report) ⟨intake, media⟩ (labels.map .media) ⟨intake, media'⟩ := by
  induction h with
  | refl => exact Run.refl
  | snoc _ hstep ih =>
    rw [List.map_append]
    exact ih.snoc (.media hstep)

end AutoMedia

end MatterBridge.Bridge
