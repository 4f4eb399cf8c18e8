import MatterBridge.Core.Run

/-!
# A producer, a bounded queue and a consumer

The producer does one job after another and hands over its items one at a time, each when
the queue has room for it, so the consumer may take the first items of a job while the
producer still works on it. What the consumer sees is nevertheless what it would see if
every job were done in one step at its start: the state of a run is that of such a run, for
each way the present job may end.
-/
namespace MatterBridge.Core

/-- Producer states `τ` and labels `ℓ`, consumer states `ρ` and labels `κ`, items `ε`. -/
structure Pipeline (τ ℓ ρ κ ε : Type) where
  produce : τ → ℓ → τ → Prop
  /-- The item a producer step hands over. -/
  item : ℓ → Option ε
  /-- Between two jobs. -/
  idle : τ → Prop
  consume : ρ → κ → ρ → Prop
  /-- The item a consumer step takes. -/
  takes : κ → Option ε
  capacity : Nat

namespace Pipeline

variable {τ ℓ ρ κ ε : Type}

structure State (τ ρ ε : Type) where
  producer : τ
  /-- Oldest first. -/
  queue : List ε
  consumer : ρ

inductive Label (ℓ κ : Type) where
  | produce (l : ℓ)
  | consume (k : κ)

def Label.produce? : Label ℓ κ → Option ℓ
  | .produce l => some l
  | .consume _ => none

def Label.consume? : Label ℓ κ → Option κ
  | .produce _ => none
  | .consume k => some k

variable (p : Pipeline τ ℓ ρ κ ε)

/-- An item waits until the queue has room. -/
inductive Step : State τ ρ ε → Label ℓ κ → State τ ρ ε → Prop
  | produce {s : State τ ρ ε} {l : ℓ} {t : τ} : p.produce s.producer l t →
      ((p.item l).isSome → s.queue.length < p.capacity) →
      Step s (.produce l) { s with producer := t, queue := s.queue ++ (p.item l).toList }
  | consume {s : State τ ρ ε} {k : κ} {r : ρ} {rest : List ε} : p.consume s.consumer k r →
      s.queue = (p.takes k).toList ++ rest →
      Step s (.consume k) { s with queue := rest, consumer := r }

/-! ## Jobs in one step -/

/-- The rest of the present job; nothing, between two jobs. -/
def Finishes (t : τ) (ls : List ℓ) (t' : τ) : Prop :=
  Run (Guarded p.produce fun t _ => ¬ p.idle t) t ls t' ∧ p.idle t'

/-- A whole job, from its first step. -/
def Job (t : τ) (ls : List ℓ) (t' : τ) : Prop :=
  ∃ l rest u, ls = l :: rest ∧ p.idle t ∧ p.produce t l u ∧ p.Finishes u rest t'

/-- The items that some labels of the producer hand over. -/
def items (ls : List ℓ) : List ε := ls.filterMap p.item

theorem items_cons (l : ℓ) (ls : List ℓ) : p.items (l :: ls) = (p.item l).toList ++ p.items ls := by
  rw [items, List.filterMap_cons]
  cases p.item l <;> rfl

/-- Every job in one step, without a bound on the queue. -/
inductive AtomicStep : State τ ρ ε → Label (List ℓ) κ → State τ ρ ε → Prop
  | job {s : State τ ρ ε} {ls : List ℓ} {t : τ} : p.Job s.producer ls t →
      AtomicStep s (.produce ls) { s with producer := t, queue := s.queue ++ p.items ls }
  | consume {s : State τ ρ ε} {k : κ} {r : ρ} {rest : List ε} : p.consume s.consumer k r →
      s.queue = (p.takes k).toList ++ rest →
      AtomicStep s (.consume k) { s with queue := rest, consumer := r }

/-- A producer that has finished stays where it is. -/
theorem Finishes.nil_of_idle {t t' : τ} {ls : List ℓ} (h : p.Finishes t ls t') (ht : p.idle t) :
    ls = [] ∧ t' = t := by
  refine h.1.history (fun ls u => ls = [] ∧ u = t) ⟨rfl, rfl⟩ fun ls u l v hstay hstep => ?_
  obtain ⟨_, rfl⟩ := hstay
  exact absurd ht hstep.2

variable {p}

/-- What the one-step jobs have seen of a run whose present job ends with `ls`. -/
structure Explained (s₀ : State τ ρ ε) (labels : List (Label ℓ κ)) (s : State τ ρ ε)
    (ls : List ℓ) (t : τ) (atomic : List (Label (List ℓ) κ)) : Prop where
  run : Run p.AtomicStep s₀ atomic ⟨t, s.queue ++ p.items ls, s.consumer⟩
  jobs : (atomic.filterMap Label.produce?).flatten = labels.filterMap Label.produce? ++ ls
  consumed : atomic.filterMap Label.consume? = labels.filterMap Label.consume?

theorem Explained.produced {s₀ s : State τ ρ ε} {labels : List (Label ℓ κ)} {l : ℓ} {t : τ}
    (hstep : p.produce s.producer l t)
    (ih : ∀ ls t', p.Finishes s.producer ls t' → ∃ atomic, Explained (p := p) s₀ labels s ls t' atomic)
    {ls : List ℓ} {t' : τ} (hfin : p.Finishes t ls t') :
    ∃ atomic, Explained (p := p) s₀ (labels ++ [.produce l])
      { s with producer := t, queue := s.queue ++ (p.item l).toList } ls t' atomic := by
  have hqueue : s.queue ++ p.items (l :: ls) = s.queue ++ (p.item l).toList ++ p.items ls := by
    rw [items_cons, List.append_assoc]
  have hlabels : labels.filterMap Label.produce? ++ l :: ls =
      (labels ++ [Label.produce l]).filterMap Label.produce? ++ ls := by
    rw [List.filterMap_append, List.append_assoc]
    rfl
  have hsame : (labels ++ [Label.produce l]).filterMap Label.consume? =
      labels.filterMap Label.consume? := by
    rw [List.filterMap_append]
    exact List.append_nil _
  by_cases hidle : p.idle s.producer
  · -- The first step of a job: all of it is done now.
    obtain ⟨atomic, hall⟩ := ih [] s.producer ⟨Run.refl, hidle⟩
    have hrun := hall.run
    have hjob : p.Job s.producer (l :: ls) t' := ⟨l, ls, t, rfl, hidle, hstep, hfin⟩
    rw [show p.items [] = [] from rfl, List.append_nil] at hrun
    refine ⟨atomic ++ [.produce (l :: ls)], ?_, ?_, ?_⟩
    · show Run p.AtomicStep s₀ _ ⟨t', s.queue ++ (p.item l).toList ++ p.items ls, s.consumer⟩
      rw [← hqueue]
      exact hrun.snoc (.job hjob)
    · rw [List.filterMap_append, List.flatten_append, hall.jobs, List.append_nil, ← hlabels]
      simp [Label.produce?]
    · rw [hsame, List.filterMap_append, ← hall.consumed]
      exact List.append_nil _
  · -- A later step: it was done with the first.
    have hrest : p.Finishes s.producer (l :: ls) t' :=
      ⟨Run.cons ⟨hstep, hidle⟩ hfin.1, hfin.2⟩
    obtain ⟨atomic, hall⟩ := ih (l :: ls) t' hrest
    refine ⟨atomic, ?_, ?_, ?_⟩
    · show Run p.AtomicStep s₀ _ ⟨t', s.queue ++ (p.item l).toList ++ p.items ls, s.consumer⟩
      rw [← hqueue]
      exact hall.run
    · rw [hall.jobs, hlabels]
    · rw [hall.consumed, hsame]

/-- **Jobs are atomic.** However its steps and the consumer's interleave, and for each way
the present job may end, the consumer is where it would be had every job so far been done
in one step, and the queue holds what that run's queue holds but for the items to come. -/
theorem atomic_of_run {s₀ s : State τ ρ ε} {labels : List (Label ℓ κ)}
    (h : Run p.Step s₀ labels s) (hidle : p.idle s₀.producer) {ls : List ℓ} {t : τ}
    (hfin : p.Finishes s.producer ls t) :
    ∃ atomic, Explained (p := p) s₀ labels s ls t atomic := by
  induction h generalizing ls t with
  | refl =>
    obtain ⟨rfl, rfl⟩ := hfin.nil_of_idle p hidle
    exact ⟨[], by simpa [items] using Run.refl, rfl, rfl⟩
  | @snoc labels s u l _ hstep ih =>
    cases hstep with
    | produce hproduce _ => exact Explained.produced hproduce (fun _ _ => ih) hfin
    | @consume k r rest hconsume hqueue =>
      obtain ⟨atomic, hall⟩ := ih hfin
      refine ⟨atomic ++ [.consume k], ?_, ?_, ?_⟩
      · refine hall.run.snoc (.consume hconsume ?_)
        simp only [hqueue, List.append_assoc]
      · rw [List.filterMap_append, List.filterMap_append, List.flatten_append, hall.jobs]
        simp [List.filterMap_cons, Label.produce?]
      · rw [List.filterMap_append, List.filterMap_append, hall.consumed]
        rfl

/-! ## Bounded work -/

/-- If a step of the producer costs its own work, an item it hands over included, and a
step of the consumer at most the item it takes, then every step uses up work. -/
theorem work_step {μ : τ → Nat} {ν : ρ → Nat} {cost : Nat} {s t : State τ ρ ε}
    {l : Label ℓ κ} (hs : p.Step s l t)
    (hproduce : ∀ l' t', l = .produce l' → p.produce s.producer l' t' →
      μ t' + cost * (p.item l').toList.length + 1 ≤ μ s.producer)
    (hconsume : ∀ k r, l = .consume k → p.consume s.consumer k r →
      ν r + 1 ≤ ν s.consumer + cost * (p.takes k).toList.length) :
    μ t.producer + cost * t.queue.length + ν t.consumer + 1 ≤
      μ s.producer + cost * s.queue.length + ν s.consumer := by
  cases hs with
  | produce hp _ =>
    have hwork := hproduce _ _ rfl hp
    simp only [List.length_append, Nat.mul_add]
    omega
  | consume hc hqueue =>
    have hwork := hconsume _ _ rfl hc
    have hlen := congrArg (fun q => cost * List.length q) hqueue
    simp only [List.length_append, Nat.mul_add] at hlen
    simp only
    omega

end Pipeline

end MatterBridge.Core
