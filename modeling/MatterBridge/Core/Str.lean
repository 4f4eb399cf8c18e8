import Mathlib.Algebra.Group.Nat.Defs
import Mathlib.Data.List.DropRight
import Mathlib.Data.List.Infix

/-!
# The string functions of the standard library

What programs use of Rust's `str` to read a configuration text: trimming,
splitting at a character, substring tests and unsigned parsing. Each comes with
the rule that undoes a writer: a padded text trims to its core, joined texts
split into their parts, and a decimal numeral parses to its number.
-/
namespace MatterBridge.Core

/-! ## Padding in lists -/

section Padding

variable {α : Type} {p : α → Bool}

/-- The list is `core` with elements of `p` on either side. -/
def Padded (p : α → Bool) (core l : List α) : Prop :=
  ∃ before after, l = before ++ core ++ after ∧ (∀ x ∈ before, p x) ∧ ∀ x ∈ after, p x

/-- No element of `p` stands at either end. -/
structure Trimmed (p : α → Bool) (l : List α) : Prop where
  first : ∀ x ∈ l.head?, p x = false
  last : ∀ x ∈ l.getLast?, p x = false

theorem Padded.reverse {core l : List α} (h : Padded p core l) :
    Padded p core.reverse l.reverse := by
  obtain ⟨before, after, rfl, hb, ha⟩ := h
  refine ⟨after.reverse, before.reverse, by simp, ?_, ?_⟩
  · exact fun x hx => ha x (List.mem_reverse.mp hx)
  · exact fun x hx => hb x (List.mem_reverse.mp hx)

theorem Trimmed.reverse {l : List α} (h : Trimmed p l) : Trimmed p l.reverse where
  first := by rw [List.head?_reverse]; exact h.last
  last := by rw [List.getLast?_reverse]; exact h.first

theorem Padded.trans {core l m : List α} (h : Padded p core l) (h' : Padded p l m) :
    Padded p core m := by
  obtain ⟨before, after, rfl, hb, ha⟩ := h
  obtain ⟨before', after', rfl, hb', ha'⟩ := h'
  refine ⟨before' ++ before, after ++ after', by simp only [List.append_assoc], ?_, ?_⟩
  · exact fun x hx => (List.mem_append.mp hx).elim (hb' x) (hb x)
  · exact fun x hx => (List.mem_append.mp hx).elim (ha x) (ha' x)

/-- An element outside `p` comes from the core. -/
theorem Padded.mem {core l : List α} (h : Padded p core l) {x : α} (hx : p x = false)
    (hm : x ∈ l) : x ∈ core := by
  obtain ⟨before, after, rfl, hb, ha⟩ := h
  have hpad : ∀ side : List α, (∀ y ∈ side, p y) → x ∉ side := by
    intro side hside hmem
    have hp := hside x hmem
    rw [hx] at hp
    cases hp
  rcases List.mem_append.mp hm with hm | hm
  · exact (List.mem_append.mp hm).resolve_left (hpad before hb)
  · exact absurd hm (hpad after ha)

theorem Trimmed.of_all {l : List α} (h : ∀ x ∈ l, p x = false) : Trimmed p l where
  first x hx := h x (List.mem_of_mem_head? hx)
  last x hx := h x (List.mem_of_mem_getLast? hx)

theorem Trimmed.append {l m : List α} (hl : l ≠ []) (hm : m ≠ []) (h : Trimmed p l)
    (h' : Trimmed p m) : Trimmed p (l ++ m) where
  first x hx := by
    rw [List.head?_append_of_ne_nil l hl] at hx
    exact h.first x hx
  last x hx := by
    rw [List.getLast?_append_of_ne_nil l hm] at hx
    exact h'.last x hx

theorem Trimmed.dropWhile_append {l : List α} (h : Trimmed p l) (hl : l ≠ []) (l' : List α) :
    (l ++ l').dropWhile p = l ++ l' := by
  cases l with
  | nil => exact absurd rfl hl
  | cons x xs =>
    have hx : ¬ p x = true := by rw [h.first x rfl]; exact Bool.false_ne_true
    exact List.dropWhile_cons_of_neg hx

/-- Trimming on the left leaves a list that is padded on the right only. -/
theorem Padded.dropWhile {core l : List α} (h : Padded p core l) (ht : Trimmed p core) :
    ∃ after, l.dropWhile p = core ++ after ∧ ∀ x ∈ after, p x := by
  obtain ⟨before, after, rfl, hb, ha⟩ := h
  rw [List.append_assoc, List.dropWhile_append_of_pos hb]
  by_cases hc : core = []
  · refine ⟨[], ?_, by simp⟩
    rw [hc]
    exact List.dropWhile_eq_nil_iff.mpr ha
  · exact ⟨after, ht.dropWhile_append hc after, ha⟩

theorem Padded.rdropWhile {core l : List α} (h : Padded p core l) (ht : Trimmed p core) :
    ∃ before, l.rdropWhile p = before ++ core ∧ ∀ x ∈ before, p x := by
  obtain ⟨after, he, ha⟩ := h.reverse.dropWhile ht.reverse
  refine ⟨after.reverse, ?_, fun x hx => ha x (List.mem_reverse.mp hx)⟩
  rw [List.rdropWhile, he, List.reverse_append, List.reverse_reverse]

/-- Trimming both ends of a padded list gives its core. -/
theorem Padded.trim {core l : List α} (h : Padded p core l) (ht : Trimmed p core) :
    (l.dropWhile p).rdropWhile p = core := by
  obtain ⟨after, he, ha⟩ := h.dropWhile ht
  rw [List.rdropWhile, he, List.reverse_append, List.dropWhile_append_of_pos]
  · by_cases hc : core = []
    · simp [hc]
    · rw [← List.append_nil core.reverse, ht.reverse.dropWhile_append (by simpa using hc)]
      simp
  · exact fun x hx => ha x (List.mem_reverse.mp hx)

/-- An element outside `p` keeps the two sides of it apart. -/
theorem trim_append_cons {x : α} (hx : p x = false) (l l' : List α) :
    ((l ++ x :: l').dropWhile p).rdropWhile p = l.dropWhile p ++ x :: l'.rdropWhile p := by
  have hleft : (l ++ x :: l').dropWhile p = l.dropWhile p ++ x :: l' := by
    rw [List.dropWhile_append]
    split
    · rename_i hn
      rw [List.isEmpty_iff.mp hn, List.nil_append]
      exact List.dropWhile_cons_of_neg (by rw [hx]; exact Bool.false_ne_true)
    · rfl
  rw [hleft, List.rdropWhile, List.rdropWhile, List.reverse_append, List.reverse_cons,
    List.append_assoc, List.dropWhile_append]
  split
  · rename_i hn
    rw [List.isEmpty_iff.mp hn, List.singleton_append,
      List.dropWhile_cons_of_neg (by rw [hx]; exact Bool.false_ne_true)]
    simp
  · simp

theorem head_of_dropWhile {l : List α} {x : α} (h : x ∈ (l.dropWhile p).head?) : p x = false := by
  have hnot := List.head?_dropWhile_not p l
  rw [Option.mem_def.mp h] at hnot
  exact hnot

/-- What is left between the ends is trimmed. -/
theorem trimmed_trim (l : List α) : Trimmed p ((l.dropWhile p).rdropWhile p) where
  first x hx := by
    obtain ⟨rest, hrest⟩ := List.head?_eq_some_iff.mp (Option.mem_def.mp hx)
    obtain ⟨after, hafter⟩ := List.rdropWhile_prefix p (l.dropWhile p)
    refine head_of_dropWhile (l := l) ?_
    rw [← hafter, hrest]
    rfl
  last x hx := by
    rw [List.rdropWhile, List.getLast?_reverse] at hx
    exact head_of_dropWhile hx

end Padding

/-! ## Strings -/

namespace Str

/-- `char::is_whitespace`: the Unicode property `White_Space`. -/
def isWhitespace (c : Char) : Bool :=
  let n := c.toNat
  decide (9 ≤ n ∧ n ≤ 13) || n == 0x20 || n == 0x85 || n == 0xA0 || n == 0x1680 ||
    decide (0x2000 ≤ n ∧ n ≤ 0x200A) || n == 0x2028 || n == 0x2029 || n == 0x202F ||
    n == 0x205F || n == 0x3000

def trim (s : String) : String :=
  String.ofList ((s.toList.dropWhile isWhitespace).rdropWhile isWhitespace)

def split (sep : Char) (s : String) : List String := (s.toList.splitOn sep).map String.ofList

/-- The parts before and after the first `sep`. -/
def splitOnce (sep : Char) (s : String) : Option (String × String) :=
  if sep ∈ s.toList then
    some (String.ofList (s.toList.takeWhile (· ≠ sep)),
      String.ofList (s.toList.dropWhile (· ≠ sep)).tail)
  else none

/-- At most `n` parts, the last one with everything that is left. -/
def splitn (n : Nat) (sep : Char) (s : String) : List String :=
  match n with
  | 0 => []
  | 1 => [s]
  | n + 2 =>
    match splitOnce sep s with
    | none => [s]
    | some (first, rest) => first :: splitn (n + 1) sep rest

def contains (s pattern : String) : Bool := decide (pattern.toList <:+: s.toList)

def endsWith (s pattern : String) : Bool := decide (pattern.toList <:+ s.toList)

def toAsciiLowercase (s : String) : String := String.ofList (s.toList.map Char.toLower)

/-- `str::parse` for an unsigned type of the given width: an optional plus sign
and at least one decimal digit. -/
def parseUnsigned (bits : Nat) (s : String) : Option Nat :=
  let digits := match s.toList with
    | '+' :: rest => rest
    | chars => chars
  if digits.isEmpty = false ∧ digits.all Char.isDigit ∧ Nat.ofDigitChars 10 digits 0 < 2 ^ bits then
    some (Nat.ofDigitChars 10 digits 0)
  else none

/-- The text is whitespace only. -/
def Blank (s : String) : Prop := ∀ c ∈ s.toList, isWhitespace c

instance (s : String) : Decidable (Blank s) :=
  List.decidableBAll (fun c => isWhitespace c = true) s.toList

/-- The text is `core` with whitespace on either side. -/
def PaddedText (core s : String) : Prop := Padded isWhitespace core.toList s.toList

theorem PaddedText.of_eq {core s : String} (before after : String)
    (h : s = before ++ core ++ after) (hb : Blank before) (ha : Blank after) :
    PaddedText core s :=
  ⟨before.toList, after.toList, by rw [h, String.toList_append, String.toList_append], hb, ha⟩

/-- The text neither starts nor ends with whitespace. -/
def TrimmedText (s : String) : Prop := Trimmed isWhitespace s.toList

theorem Blank.notMem {s : String} (h : Blank s) {c : Char} (hc : isWhitespace c = false) :
    c ∉ s.toList := by
  intro hm
  have hw := h c hm
  rw [hc] at hw
  cases hw

theorem trim_blank {s : String} (h : Blank s) : trim s = "" := by
  have hd : s.toList.dropWhile isWhitespace = [] := List.dropWhile_eq_nil_iff.mpr h
  rw [trim, hd]
  rfl

theorem trim_padded {core s : String} (h : PaddedText core s) (ht : TrimmedText core) :
    trim s = core := by
  rw [trim, Padded.trim h ht, String.ofList_toList]

theorem mem_of_mem_trim {s : String} {c : Char} (h : c ∈ (trim s).toList) : c ∈ s.toList := by
  rw [trim, String.toList_ofList] at h
  have hprefix := (List.rdropWhile_prefix isWhitespace (s.toList.dropWhile isWhitespace)).subset h
  exact (List.dropWhile_suffix isWhitespace).subset hprefix

theorem isWhitespace_of_isDigit {c : Char} (h : c.isDigit = true) : isWhitespace c = false := by
  have hd : 48 ≤ c.toNat ∧ c.toNat ≤ 57 := by
    simpa [Char.isDigit, UInt32.le_iff_toNat_le] using h
  simp only [isWhitespace, Bool.or_eq_false_iff, decide_eq_false_iff_not, beq_eq_false_iff_ne]
  omega

theorem isWhitespace_of_mem_toString {n : Nat} {c : Char} (h : c ∈ (toString n).toList) :
    isWhitespace c = false := by
  have hdigits : (toString n).toList = Nat.toDigits 10 n := Nat.toList_repr
  rw [hdigits] at h
  exact isWhitespace_of_isDigit (Nat.isDigit_of_mem_toDigits (by decide) (by decide) h)

/-- Joined texts split into the texts again. -/
theorem split_intercalate {sep : Char} {texts : List String}
    (h : ∀ t ∈ texts, sep ∉ t.toList) (hne : texts ≠ []) :
    split sep ((String.singleton sep).intercalate texts) = texts := by
  rw [split, String.toList_intercalate, String.toList_singleton, List.splitOn_intercalate]
  · simp
  · intro l hl
    obtain ⟨t, ht, rfl⟩ := List.mem_map.mp hl
    exact h t ht
  · simpa using hne

theorem notMem_intercalate {sep : String} {c : Char} (hs : c ∉ sep.toList) {texts : List String}
    (h : ∀ t ∈ texts, c ∉ t.toList) : c ∉ (sep.intercalate texts).toList := by
  induction texts with
  | nil => simp
  | cons t rest ih =>
    have ht := h t List.mem_cons_self
    have hrest := ih fun u hu => h u (List.mem_cons_of_mem t hu)
    cases rest with
    | nil => rwa [String.intercalate_singleton]
    | cons u rest =>
      rw [String.intercalate_cons_cons, String.toList_append, String.toList_append]
      simp only [List.mem_append, not_or]
      exact ⟨⟨ht, hs⟩, hrest⟩

theorem splitOnce_append {sep : Char} {a b s : String} (ha : sep ∉ a.toList)
    (hs : s.toList = a.toList ++ sep :: b.toList) : splitOnce sep s = some (a, b) := by
  have hall : ∀ c ∈ a.toList, decide (c ≠ sep) = true := by
    intro c hc
    exact decide_eq_true fun he => ha (he ▸ hc)
  rw [splitOnce, if_pos (by rw [hs]; simp), hs, List.takeWhile_append_of_pos hall,
    List.dropWhile_append_of_pos hall]
  simp

theorem splitOnce_of_notMem {sep : Char} {s : String} (h : sep ∉ s.toList) :
    splitOnce sep s = none := if_neg h

theorem contains_of_endsWith {s pattern : String} (h : endsWith s pattern = true) :
    contains s pattern = true :=
  decide_eq_true (of_decide_eq_true h : _ <:+ _).isInfix

theorem trimmedText_trim (s : String) : TrimmedText (trim s) := by
  rw [TrimmedText, trim, String.toList_ofList]
  exact trimmed_trim s.toList

theorem trim_eq_self {s : String} (h : TrimmedText s) : trim s = s :=
  trim_padded (.of_eq "" "" (by simp) (by decide) (by decide)) h

theorem notMem_of_mem_splitOn {β : Type} [DecidableEq β] {sep : β} {l part : List β}
    (h : part ∈ l.splitOn sep) : sep ∉ part := by
  induction l generalizing part with
  | nil =>
    rw [List.splitOn_nil, List.mem_singleton] at h
    rw [h]
    exact List.not_mem_nil
  | cons x rest ih =>
    rw [List.splitOn_cons_eq_if_modifyHead] at h
    split at h
    · rcases List.mem_cons.mp h with rfl | h
      · exact List.not_mem_nil
      · exact ih h
    · rename_i hx
      obtain ⟨first, others, hsplit⟩ := List.exists_cons_of_ne_nil (List.splitOn_ne_nil sep rest)
      rw [hsplit] at h ih
      rcases List.mem_cons.mp h with rfl | h
      · intro hm
        rcases List.mem_cons.mp hm with he | hm
        · exact hx (beq_iff_eq.mpr he.symm)
        · exact ih List.mem_cons_self hm
      · exact ih (List.mem_cons_of_mem first h)

/-- No part contains the separator. -/
theorem notMem_of_mem_split {sep : Char} {s part : String} (h : part ∈ split sep s) :
    sep ∉ part.toList := by
  obtain ⟨l, hl, rfl⟩ := List.mem_map.mp h
  rw [String.toList_ofList]
  exact notMem_of_mem_splitOn hl

/-- The first part has no separator, and neither part has a character of its own. -/
theorem splitOnce_eq_some {sep : Char} {s a b : String} (h : splitOnce sep s = some (a, b)) :
    sep ∉ a.toList ∧ (∀ c ∈ a.toList, c ∈ s.toList) ∧ ∀ c ∈ b.toList, c ∈ s.toList := by
  rw [splitOnce] at h
  split at h
  · cases h
    simp only [String.toList_ofList]
    refine ⟨fun hm => ?_, fun c hc => (List.takeWhile_prefix _).subset hc, fun c hc => ?_⟩
    · have hne := List.mem_takeWhile_imp (p := fun c => decide (c ≠ sep)) hm
      exact of_decide_eq_true hne rfl
    · exact (List.dropWhile_suffix _).subset (List.mem_of_mem_tail hc)
  · cases h

/-- The decimal numeral of a number that fits parses to it. -/
theorem parseUnsigned_toString {bits n : Nat} (h : n < 2 ^ bits) :
    parseUnsigned bits (toString n) = some n := by
  have hdigits : (toString n).toList = Nat.toDigits 10 n := Nat.toList_repr
  have hall : (Nat.toDigits 10 n).all Char.isDigit = true :=
    List.all_eq_true.mpr fun c hc => Nat.isDigit_of_mem_toDigits (by decide) (by decide) hc
  have hsign : (match Nat.toDigits 10 n with
      | '+' :: rest => rest
      | chars => chars) = Nat.toDigits 10 n := by
    split
    · rename_i rest he
      rw [he, List.all_cons] at hall
      exact absurd hall (by simp)
    · rfl
  rw [parseUnsigned, hdigits, hsign, Nat.ofDigitChars_ten_toDigits]
  exact if_pos ⟨List.isEmpty_eq_false_iff.mpr Nat.toDigits_ne_nil, hall, h⟩

end Str

end MatterBridge.Core
