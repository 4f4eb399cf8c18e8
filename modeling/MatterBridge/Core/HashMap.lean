import Mathlib.Data.Finmap
import Mathlib.Data.Finset.Image

/-!
# Finite maps without an iteration order

A hash map is Mathlib's extensional `Finmap`, so two maps with the same lookups
are equal and no definition can depend on an iteration order. Code that walks
the keys takes an explicit enumeration instead: every order is allowed.
-/
namespace MatterBridge.Core

abbrev HashMap (K V : Type) := Finmap (fun _ : K => V)

namespace HashMap

variable {K V : Type} [DecidableEq K]

theorem lookup_insert_eq (m : HashMap K V) (k k' : K) (v : V) :
    (m.insert k v).lookup k' = if k' = k then some v else m.lookup k' := by
  split
  · rename_i h
    subst h
    exact Finmap.lookup_insert m
  · exact Finmap.lookup_insert_of_ne m ‹_›

theorem lookup_erase_eq (m : HashMap K V) (k k' : K) :
    (m.erase k).lookup k' = if k' = k then none else m.lookup k' := by
  split
  · rename_i h
    subst h
    exact Finmap.lookup_erase k' m
  · exact Finmap.lookup_erase_ne ‹_›

theorem insert_erase (m : HashMap K V) (k : K) (v : V) :
    (m.erase k).insert k v = m.insert k v := by
  apply Finmap.ext_lookup
  intro k'
  rw [lookup_insert_eq, lookup_insert_eq, lookup_erase_eq]
  split <;> rfl

theorem erase_of_notMem {m : HashMap K V} {k : K} (h : k ∉ m) : m.erase k = m := by
  apply Finmap.ext_lookup
  intro k'
  rw [lookup_erase_eq]
  split
  · rename_i he
    rw [he, Finmap.lookup_eq_none.mpr h]
  · rfl

/-- The values in use, as the code collects them into a `HashSet`. -/
def values [DecidableEq V] (m : HashMap K V) : Finset V :=
  (m.entries.map Sigma.snd).toFinset

theorem mem_values [DecidableEq V] {m : HashMap K V} {v : V} :
    v ∈ values m ↔ ∃ k, m.lookup k = some v := by
  simp only [values, Multiset.mem_toFinset, Multiset.mem_map, Finmap.lookup_eq_some_iff]
  constructor
  · rintro ⟨⟨k, w⟩, hm, rfl⟩
    exact ⟨k, hm⟩
  · rintro ⟨k, hm⟩
    exact ⟨⟨k, v⟩, hm, rfl⟩

theorem card_keys_insert_le (m : HashMap K V) (k : K) (v : V) :
    (m.insert k v).keys.card ≤ m.keys.card + 1 := by
  have hkeys : (m.insert k v).keys ⊆ insert k m.keys := by
    intro k' hk
    rw [Finmap.mem_keys, Finmap.mem_insert] at hk
    rw [Finset.mem_insert, Finmap.mem_keys]
    exact hk
  exact (Finset.card_le_card hkeys).trans (Finset.card_insert_le k m.keys)

/-- Keep the entries whose key and value pass `p`. -/
def retain (p : K → V → Bool) (m : HashMap K V) : HashMap K V where
  entries := m.entries.filter (fun e => p e.1 e.2)
  nodupKeys := by
    rw [← Multiset.nodup_keys]
    exact Multiset.nodup_of_le (Multiset.map_le_map (Multiset.filter_le _ _))
      (Multiset.nodup_keys.mpr m.nodupKeys)

theorem lookup_retain_eq_some {p : K → V → Bool} {m : HashMap K V} {k : K} {v : V} :
    (retain p m).lookup k = some v ↔ m.lookup k = some v ∧ p k v = true := by
  rw [Finmap.lookup_eq_some_iff, Finmap.lookup_eq_some_iff]
  exact Multiset.mem_filter

/-- No value is shared by two keys. -/
def Injective (m : HashMap K V) : Prop :=
  ∀ k k' v, m.lookup k = some v → m.lookup k' = some v → k = k'

theorem injective_empty : Injective (∅ : HashMap K V) := by
  intro k k' v h
  rw [Finmap.lookup_empty] at h
  cases h

theorem Injective.retain {m : HashMap K V} (h : Injective m) (p : K → V → Bool) :
    Injective (retain p m) := fun k k' v hk hk' =>
  h k k' v (lookup_retain_eq_some.mp hk).1 (lookup_retain_eq_some.mp hk').1

theorem Injective.erase {m : HashMap K V} (h : Injective m) (k : K) : Injective (m.erase k) := by
  intro a b v ha hb
  rw [lookup_erase_eq] at ha hb
  split at ha
  · cases ha
  · split at hb
    · cases hb
    · exact h a b v ha hb

/-- A fresh value keeps the map injective. -/
theorem Injective.insert {m : HashMap K V} (h : Injective m) {k : K} {v : V}
    (hv : ∀ k', m.lookup k' ≠ some v) : Injective (m.insert k v) := by
  intro a b w ha hb
  rw [lookup_insert_eq] at ha hb
  split at ha <;> split at hb
  · rename_i hak hbk
    rw [hak, hbk]
  · obtain rfl := Option.some.inj ha
    exact absurd hb (hv b)
  · obtain rfl := Option.some.inj hb
    exact absurd ha (hv a)
  · exact h a b w ha hb

/-- Without shared values there are as many values as keys. -/
theorem Injective.card_values [DecidableEq V] {m : HashMap K V} (h : Injective m) :
    (values m).card = m.keys.card := by
  have hnodup : (m.entries.map Sigma.snd).Nodup := by
    refine Multiset.Nodup.map_on ?_ m.nodup_entries
    intro a ha b hb he
    obtain ⟨k, v⟩ := a
    obtain ⟨k', v'⟩ := b
    obtain rfl : v = v' := he
    obtain rfl := h k k' v (Finmap.lookup_eq_some_iff.mpr ha) (Finmap.lookup_eq_some_iff.mpr hb)
    rfl
  calc (values m).card = (m.entries.map Sigma.snd).card :=
        Multiset.toFinset_card_of_nodup hnodup
    _ = m.entries.card := Multiset.card_map _ _
    _ = (m.entries.map Sigma.fst).card := (Multiset.card_map _ _).symm
    _ = m.keys.card := rfl

/-- `map.entry(k).or_insert(v)`. -/
def orInsert (m : HashMap K V) (k : K) (v : V) : HashMap K V := if k ∈ m then m else m.insert k v

theorem lookup_orInsert_eq (m : HashMap K V) (k k' : K) (v : V) :
    (orInsert m k v).lookup k' = (m.lookup k').or (if k = k' then some v else none) := by
  rw [orInsert]
  split
  · rename_i h
    split
    · rename_i he
      subst he
      obtain ⟨w, hw⟩ := Option.isSome_iff_exists.mp (Finmap.lookup_isSome.mpr h)
      rw [hw, Option.some_or]
    · rw [Option.or_none]
  · rename_i h
    rw [lookup_insert_eq]
    split
    · rename_i he
      rw [if_pos he.symm, he, Finmap.lookup_eq_none.mpr h, Option.none_or]
    · rename_i he
      rw [if_neg fun h' => he h'.symm, Option.or_none]

/-- Inserting a list where keys are absent: old entries stay, then the first one wins. -/
theorem lookup_foldl_orInsert (key : V → K) (values : List V) (m : HashMap K V) (k : K) :
    (values.foldl (fun m v => orInsert m (key v) v) m).lookup k =
      (m.lookup k).or (values.find? fun v => key v = k) := by
  induction values generalizing m with
  | nil => rw [List.foldl_nil, List.find?_nil, Option.or_none]
  | cons v values ih =>
    rw [List.foldl_cons, ih, lookup_orInsert_eq, List.find?_cons, Option.or_assoc]
    by_cases h : key v = k
    · simp [h]
    · simp [h]

/-- In a list with distinct keys the first item with a key is the only one. -/
theorem find?_key_eq_some {A : Type} {key : A → K} {items : List A} (hn : (items.map key).Nodup)
    {k : K} {a : A} : (items.find? fun b => key b = k) = some a ↔ a ∈ items ∧ key a = k := by
  constructor
  · intro h
    have hk := List.find?_some h
    exact ⟨List.mem_of_find?_eq_some h, of_decide_eq_true hk⟩
  · rintro ⟨ha, hk⟩
    have hsome : (items.find? fun b => key b = k).isSome := by
      rw [List.find?_isSome]
      exact ⟨a, ha, decide_eq_true hk⟩
    obtain ⟨b, hb⟩ := Option.isSome_iff_exists.mp hsome
    have hkb := List.find?_some hb
    have hkeys : key b = key a := (of_decide_eq_true hkb).trans hk.symm
    rw [hb, List.inj_on_of_nodup_map hn (List.mem_of_find?_eq_some hb) ha hkeys]

/-- Collecting pairs into a map. -/
def collect (entries : List (K × V)) : HashMap K V :=
  entries.foldl (fun m e => m.insert e.1 e.2) ∅

/-- The last pair with a key wins. -/
theorem lookup_collect (entries : List (K × V)) (k : K) :
    (collect entries).lookup k = (entries.reverse.find? fun e => e.1 = k).map Prod.snd := by
  induction entries using List.reverseRecOn with
  | nil => exact Finmap.lookup_empty k
  | append_singleton entries e ih =>
    rw [collect, List.foldl_append, List.foldl_cons, List.foldl_nil, ← collect, lookup_insert_eq,
      ih, List.reverse_append, List.reverse_singleton, List.singleton_append, List.find?_cons]
    by_cases h : e.1 = k
    · simp [h]
    · rw [if_neg fun he => h he.symm, decide_eq_false h]

/-- Pairs with distinct keys are the graph of their map. -/
theorem lookup_collect_eq_some {entries : List (K × V)} (hn : (entries.map Prod.fst).Nodup)
    {k : K} {v : V} : (collect entries).lookup k = some v ↔ (k, v) ∈ entries := by
  have hn' : (entries.reverse.map Prod.fst).Nodup := by
    rw [List.map_reverse]
    exact List.nodup_reverse.mpr hn
  rw [lookup_collect, Option.map_eq_some_iff]
  simp only [find?_key_eq_some hn', List.mem_reverse]
  constructor
  · rintro ⟨⟨k', v'⟩, ⟨hm, rfl⟩, rfl⟩
    exact hm
  · intro hm
    exact ⟨(k, v), ⟨hm, rfl⟩, rfl⟩

/-- Earlier pairs are overwritten when their keys come again. -/
theorem collect_append {earlier entries : List (K × V)}
    (h : ∀ e ∈ earlier, e.1 ∈ entries.map Prod.fst) :
    collect (earlier ++ entries) = collect entries := by
  apply Finmap.ext_lookup
  intro k
  rw [lookup_collect, lookup_collect, List.reverse_append, List.find?_append]
  cases hf : entries.reverse.find? fun e => e.1 = k with
  | some e => rw [Option.some_or]
  | none =>
    rw [Option.none_or]
    congr 1
    rw [List.find?_eq_none]
    intro e he hk
    obtain ⟨e', he', hk'⟩ := List.mem_map.mp (h e (List.mem_reverse.mp he))
    have hnone := List.find?_eq_none.mp hf e' (List.mem_reverse.mpr he')
    exact hnone (decide_eq_true (hk'.trans (of_decide_eq_true hk)))

/-- An enumeration of the keys: one of the orders in which the map may be walked. -/
structure Enumeration (m : HashMap K V) where
  keys : List K
  nodup : keys.Nodup
  complete : ∀ k, k ∈ keys ↔ k ∈ m

def Enumeration.ofKeys {m : HashMap K V} (keys : List K) (hn : keys.Nodup)
    (hk : keys.toFinset = m.keys) : m.Enumeration where
  keys := keys
  nodup := hn
  complete k := by rw [← Finmap.mem_keys, ← hk, List.mem_toFinset]

theorem Enumeration.length_keys {m : HashMap K V} (order : m.Enumeration) :
    order.keys.length = m.keys.card := by
  rw [← List.toFinset_card_of_nodup order.nodup]
  congr 1
  ext k
  rw [List.mem_toFinset, order.complete, Finmap.mem_keys]

omit [DecidableEq K] in
theorem Enumeration.exists (m : HashMap K V) : Nonempty m.Enumeration :=
  ⟨⟨m.keys.toList, Finset.nodup_toList _, fun k => by rw [Finset.mem_toList, Finmap.mem_keys]⟩⟩

end HashMap

end MatterBridge.Core
