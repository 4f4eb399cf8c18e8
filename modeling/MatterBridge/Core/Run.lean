import Mathlib.Data.List.Induction

/-!
# Runs of labelled step relations

A run lists its labels oldest first and grows at the end, so an invariant may
mention the whole history. Every safety result of this development is one step
lemma followed by `Run.history` or `Run.invariant`.
-/
namespace MatterBridge.Core

variable {σ τ ℓ : Type}

inductive Run (step : σ → ℓ → σ → Prop) (s : σ) : List ℓ → σ → Prop
  | refl : Run step s [] s
  | snoc {ls : List ℓ} {t u : σ} {l : ℓ} : Run step s ls t → step t l u → Run step s (ls ++ [l]) u

/-- The steps of `step` whose pre-state and label also satisfy `ok`. -/
def Guarded (step : σ → ℓ → σ → Prop) (ok : σ → ℓ → Prop) (s : σ) (l : ℓ) (t : σ) : Prop :=
  step s l t ∧ ok s l

/-- The steps of `step` that end in a state satisfying `P`. -/
def Keeping (step : σ → ℓ → σ → Prop) (P : σ → Prop) (s : σ) (l : ℓ) (t : σ) : Prop :=
  step s l t ∧ P t

namespace Run

variable {step : σ → ℓ → σ → Prop} {s t u : σ} {l : ℓ} {ls ms : List ℓ}

/-- A property of the history and the state that every step extends. -/
theorem history (J : List ℓ → σ → Prop) (h0 : J [] s)
    (hs : ∀ ls t l u, J ls t → step t l u → J (ls ++ [l]) u) (h : Run step s ls t) : J ls t := by
  induction h with
  | refl => exact h0
  | snoc _ hstep ih => exact hs _ _ _ _ ih hstep

theorem invariant (I : σ → Prop) (hs : ∀ t l u, I t → step t l u → I u) (h0 : I s)
    (h : Run step s ls t) : I t :=
  history (fun _ => I) h0 (fun _ t l u => hs t l u) h

/-- What every step says of its label holds of all labels of a run. -/
theorem forall_labels {P : ℓ → Prop} (hs : ∀ s l t, step s l t → P l) (h : Run step s ls t) :
    ∀ l ∈ ls, P l := by
  refine h.history (fun ls _ => ∀ l ∈ ls, P l) (fun l hl => absurd hl List.not_mem_nil) ?_
  intro ls s l t ih hstep k hk
  rcases List.mem_append.mp hk with hk | hk
  · exact ih k hk
  · rw [List.mem_singleton.mp hk]
    exact hs s l t hstep

theorem append (h : Run step s ls t) (h' : Run step t ms u) : Run step s (ls ++ ms) u := by
  induction h' with
  | refl => simpa using h
  | snoc _ hstep ih =>
    rw [← List.append_assoc]
    exact ih.snoc hstep

theorem one (h : step s l t) : Run step s [l] t := refl.snoc h

theorem cons (h : step s l t) (h' : Run step t ls u) : Run step s (l :: ls) u :=
  (one h).append h'

theorem nil_eq (h : Run step s [] t) : t = s := by
  generalize he : ([] : List ℓ) = ls at h
  cases h with
  | refl => rfl
  | snoc => simp at he

theorem snoc_inv (h : Run step s (ls ++ [l]) u) : ∃ t, Run step s ls t ∧ step t l u := by
  generalize he : ls ++ [l] = ks at h
  cases h with
  | refl => simp at he
  | snoc hr hstep =>
    obtain ⟨hls, hl⟩ := List.append_inj' he rfl
    cases hls
    cases hl
    exact ⟨_, hr, hstep⟩

/-- A run cut at any point of its history. -/
theorem append_inv (h : Run step s (ls ++ ms) u) : ∃ t, Run step s ls t ∧ Run step t ms u := by
  induction ms using List.reverseRecOn generalizing u with
  | nil => exact ⟨u, by simpa using h, refl⟩
  | append_singleton ms m ih =>
    rw [← List.append_assoc] at h
    obtain ⟨v, hv, hstep⟩ := h.snoc_inv
    obtain ⟨t, ht, hv⟩ := ih hv
    exact ⟨t, ht, hv.snoc hstep⟩

theorem mono {step' : σ → ℓ → σ → Prop} (hs : ∀ s l t, step s l t → step' s l t)
    (h : Run step s ls t) : Run step' s ls t := by
  induction h with
  | refl => exact refl
  | snoc _ hstep ih => exact ih.snoc (hs _ _ _ hstep)

theorem unguard {ok : σ → ℓ → Prop} (h : Run (Guarded step ok) s ls t) : Run step s ls t :=
  h.mono (fun _ _ _ h => h.1)

/-- A run in which every label passes the guard in any state is a guarded run. -/
theorem guard (ok : σ → ℓ → Prop) (h : Run step s ls t) (hok : ∀ l ∈ ls, ∀ s, ok s l) :
    Run (Guarded step ok) s ls t := by
  induction h with
  | refl => exact refl
  | snoc _ hstep ih =>
    refine (ih fun l hl => hok l (List.mem_append_left _ hl)).snoc ⟨hstep, hok _ ?_ _⟩
    exact List.mem_append_right _ (List.mem_singleton_self _)

/-- If in the states satisfying `I` a step keeps `P` exactly when it meets the guard, then
the runs that meet the guard are those that satisfy `P` in every state. The steps that
lose `P` need not keep `I`. -/
theorem guarded_iff_keeping {ok : σ → ℓ → Prop} {P : σ → Prop} (I : σ → Prop)
    (hI : ∀ s l t, I s → P s → step s l t → P t → I t)
    (hs : ∀ s l t, I s → P s → step s l t → (ok s l ↔ P t)) (h0 : I s) (hP : P s) :
    Run (Guarded step ok) s ls t ↔ Run (Keeping step P) s ls t := by
  constructor
  · intro h
    have hall : Run (Keeping step P) s ls t ∧ I t ∧ P t := by
      induction h with
      | refl => exact ⟨refl, h0, hP⟩
      | snoc _ hstep ih =>
        obtain ⟨hrun, hi, hp⟩ := ih
        have hp' := (hs _ _ _ hi hp hstep.1).mp hstep.2
        exact ⟨hrun.snoc ⟨hstep.1, hp'⟩, hI _ _ _ hi hp hstep.1 hp', hp'⟩
    exact hall.1
  · intro h
    have hall : Run (Guarded step ok) s ls t ∧ I t ∧ P t := by
      induction h with
      | refl => exact ⟨refl, h0, hP⟩
      | snoc _ hstep ih =>
        obtain ⟨hrun, hi, hp⟩ := ih
        have hok := (hs _ _ _ hi hp hstep.1).mpr hstep.2
        exact ⟨hrun.snoc ⟨hstep.1, hok⟩, hI _ _ _ hi hp hstep.1 hstep.2, hstep.2⟩
    exact hall.1

/-- A measure that every step decreases bounds the length of a run. -/
theorem bounded (μ : σ → Nat) (hs : ∀ s l t, step s l t → μ t + 1 ≤ μ s)
    (h : Run step s ls t) : ls.length + μ t ≤ μ s := by
  induction h with
  | refl => simp
  | @snoc ls t u l _ hstep ih =>
    have hlt := hs _ _ _ hstep
    rw [List.length_append, List.length_singleton]
    omega

/-- A run of a composed system, seen at one component. `f` gives the component's
share of a label; where it has none the component stands still. -/
theorem project {ℓ' : Type} {step' : τ → ℓ' → τ → Prop} (π : σ → τ) (f : ℓ → Option ℓ')
    (hs : ∀ s l t, step s l t →
      (∃ l', f l = some l' ∧ step' (π s) l' (π t)) ∨ (f l = none ∧ π t = π s))
    (h : Run step s ls t) : Run step' (π s) (ls.filterMap f) (π t) := by
  induction h with
  | refl => exact refl
  | @snoc ls _ _ l _ hstep ih =>
    rw [List.filterMap_append]
    rcases hs _ _ _ hstep with ⟨l', hl, hstep'⟩ | ⟨hl, hstay⟩
    · rw [List.filterMap_cons_some hl]
      exact ih.snoc hstep'
    · rw [List.filterMap_cons_none hl, hstay]
      simpa using ih

end Run

end MatterBridge.Core
