import MatterBridge.Core.Run

/-!
# Jobs run as atomic sections

A thread takes jobs one at a time and runs each as a list of sections over a shared
state. A section is atomic; between two of them other threads may look at the state.
What a job does when its sections run in one go is its big step; the results here carry
facts from the big steps to every point between two sections.
-/
namespace MatterBridge.Core

variable {σ α ι ο : Type}

/-- The sections of each job, and what each does; `none` is a panic. -/
structure Program (σ α ι : Type) where
  plan : σ → ι → List α
  run : σ → α → Option σ

namespace Program

variable (p : Program σ α ι)

def runAll (s : σ) (sections : List α) : Option σ := sections.foldlM p.run s

/-- The big step of a job. -/
def job (s : σ) (j : ι) : Option σ := p.runAll s (p.plan s j)

theorem runAll_cons (s : σ) (a : α) (rest : List α) :
    p.runAll s (a :: rest) = (p.run s a).bind fun t => p.runAll t rest := by
  rw [runAll, List.foldlM_cons]
  rfl

/-- `P` holds before, between and after the sections, none of them panics, and `I` holds
at the end. -/
def Along (P I : σ → Prop) : List α → σ → Prop
  | [], s => P s ∧ I s
  | a :: rest, s => P s ∧ ∃ t, p.run s a = some t ∧ Along P I rest t

variable {p}

theorem Along.cons {P I : σ → Prop} {a : α} {rest : List α} {s t : σ} (hs : P s)
    (ht : p.run s a = some t) (h : p.Along P I rest t) : p.Along P I (a :: rest) s :=
  ⟨hs, t, ht, h⟩

theorem Along.nil {P I : σ → Prop} {s : σ} (hs : P s) (h : I s) : p.Along P I [] s := ⟨hs, h⟩

theorem Along.here {P I : σ → Prop} {sections : List α} {s : σ} (h : p.Along P I sections s) :
    P s := by
  cases sections with
  | nil => exact h.1
  | cons a rest => exact h.1

theorem Along.after {P I : σ → Prop} {a : α} {rest : List α} {s t : σ}
    (h : p.Along P I (a :: rest) s) (ht : p.run s a = some t) : p.Along P I rest t := by
  obtain ⟨_, u, hu, hrest⟩ := h
  obtain rfl := Option.some.inj (hu.symm.trans ht)
  exact hrest

/-- What the big step establishes holds after the last section. -/
theorem Along.ends {P I : σ → Prop} {sections : List α} {s t : σ}
    (h : p.Along P (fun _ => True) sections s) (ht : p.runAll s sections = some t) (hI : I t) :
    p.Along P I sections s := by
  induction sections generalizing s with
  | nil =>
    obtain rfl : s = t := Option.some.inj ht
    exact .nil h.here hI
  | cons a rest ih =>
    rw [runAll_cons] at ht
    obtain ⟨u, hu, ht⟩ := Option.bind_eq_some_iff.mp ht
    exact .cons h.here hu (ih (h.after hu) ht)

/-- `Q` holds before, between and after the sections, as far as none panics. -/
def Keeps (p : Program σ α ι) (Q : σ → Prop) : List α → σ → Prop
  | [], s => Q s
  | a :: rest, s => Q s ∧ ∀ t, p.run s a = some t → Keeps p Q rest t

theorem Keeps.here {Q : σ → Prop} {sections : List α} {s : σ} (h : p.Keeps Q sections s) :
    Q s := by
  cases sections with
  | nil => exact h
  | cons a rest => exact h.1

theorem Keeps.mono {Q R : σ → Prop} (hQ : ∀ s, Q s → R s) {sections : List α} {s : σ}
    (h : p.Keeps Q sections s) : p.Keeps R sections s := by
  induction sections generalizing s with
  | nil => exact hQ s h
  | cons a rest ih => exact ⟨hQ s h.1, fun t ht => ih (h.2 t ht)⟩

theorem Keeps.after {Q : σ → Prop} {a : α} {rest : List α} {s t : σ}
    (h : p.Keeps Q (a :: rest) s) (ht : p.run s a = some t) : p.Keeps Q rest t := h.2 t ht

end Program

/-- The shared state and the sections still due of the job at hand. -/
structure Thread (σ α : Type) where
  shared : σ
  due : List α

namespace Thread

inductive Label (ι α ο : Type) where
  | job (j : ι)
  | atom (a : α)
  /-- Another thread looks at the shared state. -/
  | look (o : ο)

inductive Step (p : Program σ α ι) (sees : σ → ο → Prop) :
    Thread σ α → Label ι α ο → Thread σ α → Prop
  | job {s : σ} {j : ι} : Step p sees ⟨s, []⟩ (.job j) ⟨s, p.plan s j⟩
  | atom {s t : σ} {a : α} {rest : List α} :
      p.run s a = some t → Step p sees ⟨s, a :: rest⟩ (.atom a) ⟨t, rest⟩
  | look {t : Thread σ α} {o : ο} : sees t.shared o → Step p sees t (.look o) t

/-- The jobs taken in a run, oldest first. -/
def jobs (labels : List (Label ι α ο)) : List ι :=
  labels.filterMap fun
    | .job j => some j
    | _ => none

theorem jobs_snoc_job (labels : List (Label ι α ο)) (j : ι) :
    jobs (labels ++ [.job j]) = jobs labels ++ [j] := List.filterMap_append

theorem jobs_snoc_atom (labels : List (Label ι α ο)) (a : α) :
    jobs (labels ++ [.atom a]) = jobs labels := by
  simp [jobs]

theorem jobs_snoc_look (labels : List (Label ι α ο)) (o : ο) :
    jobs (labels ++ [.look o]) = jobs labels := by
  simp [jobs]

variable {p : Program σ α ι} {sees : σ → ο → Prop} {s : σ} {labels : List (Label ι α ο)}
  {t : Thread σ α}

/-- Finishing the job at hand gives the state that the big steps of all jobs give. -/
theorem runAll_due (h : Run (Step p sees) ⟨s, []⟩ labels t) :
    p.runAll t.shared t.due = (jobs labels).foldlM p.job s := by
  refine h.history (fun labels t => p.runAll t.shared t.due = (jobs labels).foldlM p.job s) rfl ?_
  intro labels t l u ih hstep
  cases hstep with
  | @job s' j =>
    have hidle : (jobs labels).foldlM p.job s = some s' := ih.symm
    rw [jobs_snoc_job, List.foldlM_append, hidle]
    simp only [List.foldlM_cons, List.foldlM_nil]
    exact (bind_pure (p.job s' j)).symm
  | atom hrun =>
    rw [Program.runAll_cons, hrun, Option.bind_some] at ih
    rw [jobs_snoc_atom, ← ih]
  | look _ => rw [jobs_snoc_look, ← ih]

/-- Sections that do not panic can be run to the end. -/
theorem run_due {sections : List α} {u : σ} (h : p.runAll s sections = some u) :
    Run (Step p sees) ⟨s, sections⟩ (sections.map .atom) ⟨u, []⟩ := by
  induction sections generalizing s with
  | nil =>
    obtain rfl : s = u := Option.some.inj h
    exact Run.refl
  | cons a rest ih =>
    rw [Program.runAll_cons] at h
    obtain ⟨t, ht, hrest⟩ := Option.bind_eq_some_iff.mp h
    exact Run.cons (Step.atom ht) (ih hrest)

/-- What a job keeps from section to section the step of the thread that takes it keeps. -/
theorem keeps_step {Q : σ → Prop} {t u : Thread σ α} {l : Label ι α ο}
    (hjob : ∀ s j, l = .job j → Q s → p.Keeps Q (p.plan s j) s) (h : p.Keeps Q t.due t.shared)
    (hstep : Step p sees t l u) : p.Keeps Q u.due u.shared := by
  cases hstep with
  | job => exact hjob _ _ rfl h
  | atom hrun => exact h.after hrun
  | look _ => exact h

section

variable {P I : σ → Prop}

/-- What a look established and no section undoes goes on to hold. `K` are the looks so far. -/
theorem looks_step {K : ο → Prop} {Q : ο → σ → Prop} (hsees : ∀ s o, P s → sees s o → Q o s)
    (hkeep : ∀ s a t o, p.run s a = some t → Q o s → Q o t) {t u : Thread σ α}
    {l : Label ι α ο} (h : p.Along P I t.due t.shared) (hlooks : ∀ o, K o → Q o t.shared)
    (hstep : Step p sees t l u) : ∀ o, K o ∨ l = .look o → Q o u.shared := by
  rintro o (ho | rfl)
  · cases hstep with
    | job => exact hlooks o ho
    | atom hrun => exact hkeep _ _ _ o hrun (hlooks o ho)
    | look _ => exact hlooks o ho
  · cases hstep with
    | look hlook => exact hsees _ o h.here hlook

variable (hjob : ∀ s j, P s → I s → p.Along P I (p.plan s j) s)

include hjob

theorem along_step {t u : Thread σ α} {l : Label ι α ο} (h : p.Along P I t.due t.shared)
    (hstep : Step p sees t l u) : p.Along P I u.due u.shared := by
  cases hstep with
  | job =>
    obtain ⟨hP, hI⟩ := h
    exact hjob _ _ hP hI
  | atom hrun => exact h.after hrun
  | look _ => exact h

/-- An invariant that holds whenever the thread is idle, with one that also holds between
any two sections. -/
theorem along_of_run (hP : P s) (hI : I s) (h : Run (Step p sees) ⟨s, []⟩ labels t) :
    p.Along P I t.due t.shared := by
  have h0 : p.Along P I [] s := ⟨hP, hI⟩
  exact h.invariant (fun t => p.Along P I t.due t.shared) (fun _ _ _ => along_step hjob) h0

end

end Thread

end MatterBridge.Core
