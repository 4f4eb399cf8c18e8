import MatterBridge.Core.Str
import Mathlib.Tactic.IntervalCases

/-!
# Percent encoding and query strings

A query is a list of keys and values. Writers print the UTF-8 bytes of both, every byte
outside the unreserved characters as an escape; readers split at `&` and at the first `=`
and decode. A printed query reads back as the list it was printed from, whatever the
texts contain, since the separators never occur in an encoded text.
-/
namespace MatterBridge.Core

namespace Percent

/-! ## Bytes and escapes -/

/-- The unreserved characters: letters, digits and `-_.~`. -/
def isUnreserved (c : Char) : Bool :=
  decide ('0' ≤ c ∧ c ≤ '9') || decide ('A' ≤ c ∧ c ≤ 'Z') || decide ('a' ≤ c ∧ c ≤ 'z') ||
    c == '-' || c == '_' || c == '.' || c == '~'

def hexDigit (n : Nat) : Char := Char.ofNat (if n < 10 then 48 + n else 55 + n)

/-- Both cases of a hex digit. -/
def hexValue (c : Char) : Option Nat :=
  if '0' ≤ c ∧ c ≤ '9' then some (c.toNat - 48)
  else if 'A' ≤ c ∧ c ≤ 'F' then some (c.toNat - 55)
  else if 'a' ≤ c ∧ c ≤ 'f' then some (c.toNat - 87)
  else none

def encodeByte (b : UInt8) : List Char :=
  if isUnreserved (Char.ofNat b.toNat) then [Char.ofNat b.toNat]
  else ['%', hexDigit (b.toNat / 16), hexDigit (b.toNat % 16)]

def encodeBytes (bytes : List UInt8) : List Char := bytes.flatMap encodeByte

/-- A form decoder: a plus sign stands for a blank, other characters for themselves. -/
def decodeBytes : List Char → Option (List UInt8)
  | [] => some []
  | '%' :: hi :: lo :: rest =>
    match hexValue hi, hexValue lo with
    | some hi, some lo => (decodeBytes rest).map (UInt8.ofNat (hi * 16 + lo) :: ·)
    | _, _ => none
  | c :: rest =>
    if c = '%' ∨ 128 ≤ c.toNat then none
    else (decodeBytes rest).map (UInt8.ofNat (if c = '+' then 32 else c.toNat) :: ·)

theorem hexValue_hexDigit {n : Nat} (h : n < 16) : hexValue (hexDigit n) = some n := by
  interval_cases n <;> decide

theorem isUnreserved_hexDigit {n : Nat} (h : n < 16) : isUnreserved (hexDigit n) = true := by
  interval_cases n <;> decide

theorem toNat_of_isUnreserved {c : Char} (h : isUnreserved c = true) :
    c.toNat < 128 ∧ c ≠ '+' ∧ c ≠ '%' := by
  have hranges : ((((((48 ≤ c.toNat ∧ c.toNat ≤ 57) ∨ (65 ≤ c.toNat ∧ c.toNat ≤ 90)) ∨
      (97 ≤ c.toNat ∧ c.toNat ≤ 122)) ∨ c = '-') ∨ c = '_') ∨ c = '.') ∨ c = '~' := by
    simpa [isUnreserved, Char.le_def, UInt32.le_iff_toNat_le] using h
  rcases hranges with ((((h | h) | rfl) | rfl) | rfl) | rfl
  · refine ⟨by omega, ?_, ?_⟩ <;> rintro rfl <;> simp at h
  · refine ⟨by omega, ?_, ?_⟩ <;> rintro rfl <;> simp at h
  all_goals decide

theorem decodeBytes_unreserved {c : Char} (h : isUnreserved c = true) (rest : List Char) :
    decodeBytes (c :: rest) = (decodeBytes rest).map (UInt8.ofNat c.toNat :: ·) := by
  obtain ⟨hlt, hplus, hpercent⟩ := toNat_of_isUnreserved h
  have hkept : ¬ (c = '%' ∨ 128 ≤ c.toNat) := by
    rintro (he | hle)
    · exact hpercent he
    · omega
  rw [decodeBytes, if_neg hkept, if_neg hplus]
  exact fun _ _ _ he _ => hpercent he

theorem decodeBytes_escape {hi lo : Nat} (hhi : hi < 16) (hlo : lo < 16) (rest : List Char) :
    decodeBytes ('%' :: hexDigit hi :: hexDigit lo :: rest) =
      (decodeBytes rest).map (UInt8.ofNat (hi * 16 + lo) :: ·) := by
  rw [decodeBytes, hexValue_hexDigit hhi, hexValue_hexDigit hlo]

/-- An encoded byte decodes to itself, whatever follows it. -/
theorem decodeBytes_encodeByte (b : UInt8) (rest : List Char) :
    decodeBytes (encodeByte b ++ rest) = (decodeBytes rest).map (b :: ·) := by
  have hb : b.toNat < 256 := b.toNat_lt
  unfold encodeByte
  split
  · rename_i h
    have hvalid : (Char.ofNat b.toNat).toNat = b.toNat := by
      rw [Char.ofNat, dif_pos (Or.inl (by omega))]
      rfl
    rw [List.singleton_append, decodeBytes_unreserved h, hvalid, UInt8.ofNat_toNat]
  · have hwhole : b.toNat / 16 * 16 + b.toNat % 16 = b.toNat := by omega
    rw [List.cons_append, List.cons_append, List.singleton_append,
      decodeBytes_escape (by omega) (by omega), hwhole, UInt8.ofNat_toNat]

theorem decodeBytes_encodeBytes (bytes : List UInt8) :
    decodeBytes (encodeBytes bytes) = some bytes := by
  induction bytes with
  | nil => rfl
  | cons b bytes ih =>
    rw [encodeBytes, List.flatMap_cons, decodeBytes_encodeByte]
    rw [encodeBytes] at ih
    rw [ih]
    rfl

theorem mem_encodeBytes {bytes : List UInt8} {c : Char} (h : c ∈ encodeBytes bytes) :
    isUnreserved c = true ∨ c = '%' := by
  obtain ⟨b, _, hc⟩ := List.mem_flatMap.mp h
  have hb : b.toNat < 256 := b.toNat_lt
  unfold encodeByte at hc
  split at hc
  · rename_i hkept
    rw [List.mem_singleton.mp hc]
    exact Or.inl hkept
  · simp only [List.mem_cons, List.not_mem_nil, or_false] at hc
    rcases hc with rfl | rfl | rfl
    · exact Or.inr rfl
    · exact Or.inl (isUnreserved_hexDigit (by omega))
    · exact Or.inl (isUnreserved_hexDigit (by omega))

/-! ## Texts -/

def encode (s : String) : String := String.ofList (encodeBytes s.toUTF8.data.toList)

/-- Fails on a broken escape, and where the bytes are not UTF-8. -/
def decode (s : String) : Option String :=
  (decodeBytes s.toList).bind fun bytes => String.fromUTF8? ⟨bytes.toArray⟩

/-- `raw` is a way to write `text` that cannot be taken for a separator. -/
structure Spells (raw text : String) : Prop where
  plain : ∀ c ∈ raw.toList, isUnreserved c = true ∨ c = '%'
  decoded : decode raw = some text

theorem spells_encode (s : String) : Spells (encode s) s where
  plain c hc := by
    rw [encode, String.toList_ofList] at hc
    exact mem_encodeBytes hc
  decoded := by
    rw [decode, encode, String.toList_ofList, decodeBytes_encodeBytes]
    exact dif_pos s.isValidUTF8

theorem spells_plain {s : String} (hall : s.toList.all isUnreserved = true)
    (hdecoded : decode s = some s) : Spells s s where
  plain c hc := Or.inl (List.all_eq_true.mp hall c hc)
  decoded := hdecoded

theorem Spells.notMem {raw text : String} (h : Spells raw text) {c : Char}
    (hc : isUnreserved c = false) (hp : c ≠ '%') : c ∉ raw.toList := by
  intro hm
  rcases h.plain c hm with hu | he
  · rw [hc] at hu
    cases hu
  · exact hp he

/-! ## Queries -/

/-- The parts at `&`; a part without `=` is a key with an empty value. -/
def readPair (s : String) : Option (String × String) :=
  match Str.splitOnce '=' s with
  | some (key, value) => do return (← decode key, ← decode value)
  | none => do return (← decode s, "")

def readQuery (s : String) : Option (List (String × String)) :=
  ((Str.split '&' s).filter (· ≠ "")).mapM readPair

def joinPair (raw : String × String) : String := raw.1 ++ "=" ++ raw.2

/-- A query with keys and values as they are written. -/
def joinQuery (raws : List (String × String)) : String := "&".intercalate (raws.map joinPair)

/-- `raw` writes the pair. -/
def SpellsPair (raw pair : String × String) : Prop :=
  Spells raw.1 pair.1 ∧ Spells raw.2 pair.2

theorem toList_joinPair (raw : String × String) :
    (joinPair raw).toList = raw.1.toList ++ '=' :: raw.2.toList := by
  simp [joinPair]

theorem joinPair_ne_empty (raw : String × String) : joinPair raw ≠ "" := by
  intro h
  have hl := congrArg String.toList h
  simp [toList_joinPair] at hl

theorem SpellsPair.readPair {raw pair : String × String} (h : SpellsPair raw pair) :
    readPair (joinPair raw) = some pair := by
  have hsplit : Str.splitOnce '=' (joinPair raw) = some raw :=
    Str.splitOnce_append (h.1.notMem (by decide) (by decide)) (toList_joinPair raw)
  rw [Percent.readPair, hsplit]
  simp only [h.1.decoded, h.2.decoded]
  rfl

theorem SpellsPair.notMem {raw pair : String × String} (h : SpellsPair raw pair) {c : Char}
    (hc : isUnreserved c = false) (hp : c ≠ '%') (he : c ≠ '=') : c ∉ (joinPair raw).toList := by
  rw [toList_joinPair]
  intro hm
  rcases List.mem_append.mp hm with hm | hm
  · exact h.1.notMem hc hp hm
  · rcases List.mem_cons.mp hm with hm | hm
    · exact he hm
    · exact h.2.notMem hc hp hm

theorem mapM_readPair {raws query : List (String × String)}
    (h : List.Forall₂ SpellsPair raws query) :
    (raws.map joinPair).mapM readPair = some query := by
  induction h with
  | nil => rfl
  | cons hpair _ ih =>
    rw [List.map_cons, List.mapM_cons, hpair.readPair, ih]
    rfl

/-- What is neither unreserved nor an escape occurs in a pair only as its separator. -/
theorem notMem_of_written {raws query : List (String × String)}
    (h : List.Forall₂ SpellsPair raws query) {c : Char} (hc : isUnreserved c = false)
    (hp : c ≠ '%') (he : c ≠ '=') : ∀ t ∈ raws.map joinPair, c ∉ t.toList := by
  induction h with
  | nil => exact fun t ht => absurd ht List.not_mem_nil
  | cons hpair _ ih =>
    intro t ht
    rcases List.mem_cons.mp ht with rfl | ht
    · exact hpair.notMem hc hp he
    · exact ih t ht

theorem hash_notMem_joinQuery {raws query : List (String × String)}
    (h : List.Forall₂ SpellsPair raws query) : '#' ∉ (joinQuery raws).toList :=
  Str.notMem_intercalate (by decide) (notMem_of_written h (by decide) (by decide) (by decide))

/-- **A query reads as what it was written from**, whatever the keys and values are. -/
theorem readQuery_joinQuery {raws query : List (String × String)}
    (h : List.Forall₂ SpellsPair raws query) : readQuery (joinQuery raws) = some query := by
  by_cases hr : raws = []
  · subst hr
    cases h
    rfl
  · have hsplit : Str.split '&' (joinQuery raws) = raws.map joinPair :=
      Str.split_intercalate (notMem_of_written h (by decide) (by decide) (by decide))
        (by simpa using hr)
    have hfull : (raws.map joinPair).filter (· ≠ "") = raws.map joinPair := by
      refine List.filter_eq_self.mpr fun t ht => decide_eq_true ?_
      obtain ⟨raw, _, rfl⟩ := List.mem_map.mp ht
      exact joinPair_ne_empty raw
    rw [readQuery, hsplit, hfull, mapM_readPair h]

end Percent

end MatterBridge.Core
