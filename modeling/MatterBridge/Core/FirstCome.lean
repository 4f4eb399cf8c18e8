import Mathlib.Data.Finset.Card
import Mathlib.Data.List.Induction

/-!
# First come, first served

Arrivals are taken into a set one at a time, as long as it has fewer than `n` members,
and nobody leaves. Who is in is decided by the arrivals before: an element is taken in at
an arrival that fewer than `n` different elements precede.
-/
namespace MatterBridge.Core

variable {α : Type} [DecidableEq α] {n : Nat} {base : Finset α} {arrivals : List α} {a : α}

def enroll (n : Nat) (enrolled : Finset α) (a : α) : Finset α :=
  if enrolled.card < n then insert a enrolled else enrolled

def enrolled (n : Nat) (base : Finset α) (arrivals : List α) : Finset α :=
  arrivals.foldl (enroll n) base

theorem enrolled_snoc (n : Nat) (base : Finset α) (arrivals : List α) (a : α) :
    enrolled n base (arrivals ++ [a]) = enroll n (enrolled n base arrivals) a := by
  rw [enrolled, List.foldl_append]
  rfl

theorem subset_enroll (n : Nat) (s : Finset α) (a : α) : s ⊆ enroll n s a := by
  unfold enroll
  split
  · exact Finset.subset_insert a s
  · exact Finset.Subset.refl s

theorem enroll_subset (n : Nat) (s : Finset α) (a : α) : enroll n s a ⊆ insert a s := by
  unfold enroll
  split
  · exact Finset.Subset.refl _
  · exact Finset.subset_insert a s

/-- Everyone who came. -/
def came (base : Finset α) (arrivals : List α) : Finset α := base ∪ arrivals.toFinset

theorem came_snoc (base : Finset α) (arrivals : List α) (a : α) :
    came base (arrivals ++ [a]) = insert a (came base arrivals) := by
  ext b
  simp only [came, List.toFinset_append, List.toFinset_cons, List.toFinset_nil, Finset.mem_union,
    Finset.mem_insert, Finset.notMem_empty, or_false]
  tauto

theorem enrolled_subset_came : enrolled n base arrivals ⊆ came base arrivals := by
  induction arrivals using List.reverseRecOn with
  | nil => exact Finset.subset_union_left
  | append_singleton arrivals a ih =>
    rw [enrolled_snoc, came_snoc]
    exact (enroll_subset n _ a).trans (Finset.insert_subset_insert a ih)

/-- While there is room, everyone who came is in. -/
theorem enrolled_eq_came (h : (enrolled n base arrivals).card < n) :
    enrolled n base arrivals = came base arrivals := by
  induction arrivals using List.reverseRecOn with
  | nil => exact (Finset.union_empty base).symm
  | append_singleton arrivals a ih =>
    have hroom : (enrolled n base arrivals).card < n := by
      have hle := Finset.card_le_card (subset_enroll n (enrolled n base arrivals) a)
      rw [enrolled_snoc] at h
      omega
    rw [enrolled_snoc, came_snoc, ← ih hroom, enroll, if_pos hroom]

/-- There is room exactly while fewer than `n` have come: no place is wasted. -/
theorem card_enrolled_lt : (enrolled n base arrivals).card < n ↔ (came base arrivals).card < n := by
  constructor
  · intro h
    rwa [enrolled_eq_came h] at h
  · intro hlt
    have hle : (enrolled n base arrivals).card ≤ (came base arrivals).card :=
      Finset.card_le_card enrolled_subset_came
    omega

/-- Who comes again changes nothing, in or not. -/
theorem enrolled_snoc_again (h : a ∈ came base arrivals) :
    enrolled n base (arrivals ++ [a]) = enrolled n base arrivals := by
  rw [enrolled_snoc, enroll]
  split
  · rename_i hroom
    rw [← enrolled_eq_came hroom] at h
    exact Finset.insert_eq_self.mpr h
  · rfl

/-- **Who is in**: the members at the start, and whoever came when fewer than `n` had. -/
theorem mem_enrolled : a ∈ enrolled n base arrivals ↔ a ∈ base ∨
    ∃ before after, arrivals = before ++ a :: after ∧ (came base before).card < n := by
  induction arrivals using List.reverseRecOn with
  | nil => simp [enrolled]
  | append_singleton arrivals b ih =>
    have hsplit : (∃ before after, arrivals ++ [b] = before ++ a :: after ∧
        (came base before).card < n) ↔
        (∃ before after, arrivals = before ++ a :: after ∧ (came base before).card < n) ∨
          a = b ∧ (came base arrivals).card < n := by
      constructor
      · rintro ⟨before, after, he, hlt⟩
        rcases List.eq_nil_or_concat after with rfl | ⟨after, c, rfl⟩
        · obtain ⟨rfl, hab⟩ := List.append_inj' he rfl
          exact Or.inr ⟨(List.cons.inj hab).1.symm, hlt⟩
        · rw [List.concat_eq_append, ← List.cons_append, ← List.append_assoc] at he
          exact Or.inl ⟨before, after, (List.append_inj' he rfl).1, hlt⟩
      · rintro (⟨before, after, rfl, hlt⟩ | ⟨rfl, hlt⟩)
        · exact ⟨before, after ++ [b], by simp, hlt⟩
        · exact ⟨arrivals, [], rfl, hlt⟩
    rw [hsplit, ← or_assoc, ← ih, enrolled_snoc, enroll]
    split
    · rename_i hroom
      rw [Finset.mem_insert, or_comm, and_iff_left (card_enrolled_lt.mp hroom)]
    · rename_i hfull
      have hcame := fun hlt => hfull (card_enrolled_lt.mpr hlt)
      exact (or_iff_left fun h => hcame h.2).symm

end MatterBridge.Core
