import Mathlib.Data.List.TakeWhile

/-!
# Counting rounds of silence

A subject is observed in rounds, oldest first. Its silence is the number of
rounds since it was last seen. A detector with threshold `k` considers it
present while it was seen at all and its silence stays below `k`; that is the
same as having been seen in one of the last `k` rounds.
-/
namespace MatterBridge.Core

variable {ρ : Type} {seen : ρ → Bool}

def silence (seen : ρ → Bool) (rounds : List ρ) : Nat :=
  (rounds.reverse.takeWhile (fun r => !seen r)).length

/-- Seen at least once, and fewer than `k` rounds ago. -/
def Present (seen : ρ → Bool) (k : Nat) (rounds : List ρ) : Prop :=
  silence seen rounds < rounds.length ∧ silence seen rounds < k

theorem silence_snoc_seen {rounds : List ρ} {r : ρ} (h : seen r = true) :
    silence seen (rounds ++ [r]) = 0 := by
  simp [silence, h]

theorem silence_snoc_unseen {rounds : List ρ} {r : ρ} (h : seen r = false) :
    silence seen (rounds ++ [r]) = silence seen rounds + 1 := by
  simp [silence, h]

theorem not_present_nil (k : Nat) : ¬ Present seen k [] := fun h => Nat.not_lt_zero _ h.1

theorem present_snoc_seen {rounds : List ρ} {r : ρ} {k : Nat} (h : seen r = true) (hk : 0 < k) :
    Present seen k (rounds ++ [r]) := by
  constructor
  · rw [silence_snoc_seen h]
    simp
  · rwa [silence_snoc_seen h]

theorem present_snoc_unseen {rounds : List ρ} {r : ρ} {k : Nat} (h : seen r = false) :
    Present seen k (rounds ++ [r]) ↔ Present seen k rounds ∧ silence seen rounds + 1 < k := by
  unfold Present
  rw [silence_snoc_unseen h, List.length_append, List.length_singleton]
  omega

private theorem takeWhile_lt_iff (p : ρ → Bool) (l : List ρ) (k : Nat) :
    (l.takeWhile p).length < l.length ∧ (l.takeWhile p).length < k ↔
      ∃ r ∈ l.take k, p r = false := by
  induction l generalizing k with
  | nil => simp
  | cons a l ih =>
    cases k with
    | zero => simp
    | succ k =>
      cases ha : p a with
      | false => simp [ha]
      | true =>
        rw [List.takeWhile_cons_of_pos ha, List.take_succ_cons]
        simp only [List.length_cons, Nat.succ_lt_succ_iff, List.mem_cons, exists_eq_or_imp, ha,
          Bool.true_eq_false, false_or]
        exact ih k

/-- Present at threshold `k` means seen in one of the last `k` rounds. -/
theorem present_iff {rounds : List ρ} {k : Nat} :
    Present seen k rounds ↔ ∃ r ∈ rounds.reverse.take k, seen r = true := by
  have h := takeWhile_lt_iff (fun r => !seen r) rounds.reverse k
  simp only [List.length_reverse, Bool.not_eq_false'] at h
  exact h

end MatterBridge.Core
