import Mathlib.Data.Finset.Sort
import Mathlib.Data.String.Basic
import MatterBridge.Slots.SlotMap

/-!
# The slot file as text

A concrete printer and reader for the one JSON shape the slot file has: an object
with the field `cameras`, in the two-space layout of the pretty printer. Keys are
printed in sorted order whatever the seed. In strings only the quote and the
backslash are escaped; a control character is copied.
-/
namespace MatterBridge.Slots.PrettyJson

open MatterBridge.Core

abbrev Entry := String × Nat

def quote : Char := Char.ofNat 34

def backslash : Char := Char.ofNat 92

/-! ## Printing -/

def escape : List Char → List Char
  | [] => []
  | c :: cs => if c = quote ∨ c = backslash then backslash :: c :: escape cs else c :: escape cs

def printEntry (e : Entry) : List Char :=
  "    ".toList ++ quote :: escape e.1.toList ++ quote :: ": ".toList ++ Nat.toDigits 10 e.2

def printEntries : List Entry → List Char
  | [] => []
  | [e] => printEntry e
  | e :: f :: es => printEntry e ++ ",\n".toList ++ printEntries (f :: es)

def header : List Char := "\x7b\n  \"cameras\": \x7b".toList

def footer : List Char := "\x7d\n\x7d".toList

def printFile (es : List Entry) : List Char :=
  header ++ (if es = [] then [] else '\n' :: printEntries es ++ '\n' :: "  ".toList) ++ footer

def entriesOf (m : HashMap String Nat) : List Entry :=
  m.keys.sort.filterMap fun k => (m.lookup k).map fun slot => (k, slot)

/-! ## Reading -/

inductive Token where
  | lbrace
  | rbrace
  | colon
  | comma
  | str (s : String)
  | num (n : Nat)
  deriving DecidableEq

inductive Mode where
  | between
  | string (acc : List Char)
  | escaped (acc : List Char)
  | number (n : Nat)

structure Lexer where
  mode : Mode
  out : List Token

def punctuation (c : Char) : Option (List Token) :=
  if c = ' ' ∨ c = '\n' ∨ c = '\r' ∨ c = '\t' then some []
  else if c = Char.ofNat 123 then some [.lbrace]
  else if c = Char.ofNat 125 then some [.rbrace]
  else if c = ':' then some [.colon]
  else if c = ',' then some [.comma]
  else none

def startToken (out : List Token) (c : Char) : Option Lexer :=
  if c = quote then some ⟨.string [], out⟩
  else if c.isDigit then some ⟨.number (c.toNat - 48), out⟩
  else (punctuation c).map fun ts => ⟨.between, out ++ ts⟩

def Lexer.step (s : Lexer) (c : Char) : Option Lexer :=
  match s.mode with
  | .between => startToken s.out c
  | .string acc =>
    if c = quote then some ⟨.between, s.out ++ [.str (String.ofList acc)]⟩
    else if c = backslash then some ⟨.escaped acc, s.out⟩
    else some ⟨.string (acc ++ [c]), s.out⟩
  | .escaped acc =>
    if c = quote ∨ c = backslash then some ⟨.string (acc ++ [c]), s.out⟩ else none
  | .number n =>
    if c.isDigit then some ⟨.number (10 * n + (c.toNat - 48)), s.out⟩
    else startToken (s.out ++ [.num n]) c

/-- Token list of a text that ends outside strings and numbers. -/
def lex (cs : List Char) : Option (List Token) :=
  match cs.foldlM Lexer.step ⟨.between, []⟩ with
  | some ⟨.between, out⟩ => some out
  | _ => none

def parseEntries : List Token → Option (List Entry)
  | .str k :: .colon :: .num n :: .comma :: rest => (parseEntries rest).map ((k, n) :: ·)
  | [.str k, .colon, .num n, .rbrace, .rbrace] => some [(k, n)]
  | _ => none

def parseFile : List Token → Option (List Entry)
  | .lbrace :: .str field :: .colon :: .lbrace :: rest =>
    if field ≠ "cameras" then none
    else if rest = [.rbrace, .rbrace] then some []
    else parseEntries rest
  | _ => none

def toStringPretty (p : PersistedSlots) (_seed : Nat) : List UInt8 :=
  (String.ofList (printFile (entriesOf p.cameras))).toUTF8.data.toList

/-- A repeated key keeps its last value, as in the crate. -/
def fromStr (bytes : List UInt8) : Option PersistedSlots := do
  let text ← String.fromUTF8? ⟨bytes.toArray⟩
  let tokens ← lex text.toList
  let es ← parseFile tokens
  return ⟨HashMap.collect es⟩

/-! ## Round trip -/

theorem lex_escape (acc : List Char) (out : List Token) (cs rest : List Char) :
    (escape cs ++ rest).foldlM Lexer.step ⟨.string acc, out⟩ =
      rest.foldlM Lexer.step ⟨.string (acc ++ cs), out⟩ := by
  induction cs generalizing acc with
  | nil => simp [escape]
  | cons c cs ih =>
    rw [escape]
    have happ : acc ++ c :: cs = acc ++ [c] ++ cs := by simp
    have hb : backslash ≠ quote := by decide
    split
    · rename_i hc
      simp only [List.cons_append, List.foldlM_cons, Lexer.step, if_neg hb, if_true, if_pos hc,
        Option.bind_eq_bind, Option.bind_some]
      rw [ih, happ]
    · rename_i hc
      rw [not_or] at hc
      simp only [List.cons_append, List.foldlM_cons, Lexer.step, if_neg hc.1, if_neg hc.2,
        Option.bind_eq_bind, Option.bind_some]
      rw [ih, happ]

theorem lex_digits (n : Nat) (out : List Token) (ds rest : List Char)
    (hd : ∀ c ∈ ds, c.isDigit = true) :
    (ds ++ rest).foldlM Lexer.step ⟨.number n, out⟩ =
      rest.foldlM Lexer.step ⟨.number (Nat.ofDigitChars 10 ds n), out⟩ := by
  induction ds generalizing n with
  | nil => simp
  | cons d ds ih =>
    have hdig := hd d List.mem_cons_self
    simp only [List.cons_append, List.foldlM_cons, Lexer.step, hdig, if_true, Option.bind_eq_bind,
      Option.bind_some, Nat.ofDigitChars_cons]
    rw [ih _ fun c hc => hd c (List.mem_cons_of_mem _ hc)]
    rfl

/-- A printed number is one number token, still open at its end. -/
theorem lex_number (n : Nat) (out : List Token) (rest : List Char) :
    (Nat.toDigits 10 n ++ rest).foldlM Lexer.step ⟨.between, out⟩ =
      rest.foldlM Lexer.step ⟨.number n, out⟩ := by
  have hd : ∀ c ∈ Nat.toDigits 10 n, c.isDigit = true := fun c hc =>
    Nat.isDigit_of_mem_toDigits (by decide) (by decide) hc
  have hv : Nat.ofDigitChars 10 (Nat.toDigits 10 n) 0 = n := Nat.ofDigitChars_ten_toDigits
  cases hds : Nat.toDigits 10 n with
  | nil => exact absurd hds Nat.toDigits_ne_nil
  | cons d ds =>
    rw [hds] at hd hv
    have hdig := hd d List.mem_cons_self
    have hq : d ≠ quote := by
      rintro rfl
      exact absurd hdig (by decide)
    simp only [List.cons_append, List.foldlM_cons, Lexer.step, startToken, if_neg hq, hdig, if_true,
      Option.bind_eq_bind, Option.bind_some]
    rw [lex_digits _ _ _ _ fun c hc => hd c (List.mem_cons_of_mem _ hc)]
    rw [Nat.ofDigitChars_cons] at hv
    simp only [Nat.mul_zero, Nat.zero_add] at hv
    rw [show d.toNat - 48 = d.toNat - '0'.toNat from rfl, hv]

theorem printEntry_append (e : Entry) (rest : List Char) : printEntry e ++ rest =
    "    ".toList ++ quote :: (escape e.1.toList ++
      (quote :: ": ".toList ++ (Nat.toDigits 10 e.2 ++ rest))) := by
  unfold printEntry
  simp only [List.append_assoc, List.cons_append]

theorem lex_entry (e : Entry) (out : List Token) (rest : List Char) :
    (printEntry e ++ rest).foldlM Lexer.step ⟨.between, out⟩ =
      rest.foldlM Lexer.step ⟨.number e.2, out ++ [.str e.1, .colon]⟩ := by
  have hpad : ∀ cs : List Char, ("    ".toList ++ quote :: cs).foldlM Lexer.step ⟨.between, out⟩ =
      cs.foldlM Lexer.step ⟨.string [], out⟩ := by
    intro cs
    simp [Lexer.step, startToken, punctuation, quote]
  have hsep : ∀ cs : List Char,
      (quote :: ": ".toList ++ cs).foldlM Lexer.step ⟨.string e.1.toList, out⟩ =
        cs.foldlM Lexer.step ⟨.between, out ++ [.str e.1, .colon]⟩ := by
    intro cs
    simp [Lexer.step, startToken, punctuation, quote]
  rw [printEntry_append, hpad, lex_escape, List.nil_append, hsep, lex_number]

def entryTokens : List Entry → List Token
  | [] => []
  | [e] => [.str e.1, .colon, .num e.2]
  | e :: f :: es => .str e.1 :: .colon :: .num e.2 :: .comma :: entryTokens (f :: es)

/-- The line break after the last entry closes its number. -/
theorem lex_entries {es : List Entry} (hne : es ≠ []) (out : List Token) (rest : List Char) :
    (printEntries es ++ '\n' :: rest).foldlM Lexer.step ⟨.between, out⟩ =
      rest.foldlM Lexer.step ⟨.between, out ++ entryTokens es⟩ := by
  induction es generalizing out with
  | nil => exact absurd rfl hne
  | cons e es ih =>
    cases es with
    | nil =>
      rw [printEntries, lex_entry]
      simp [Lexer.step, startToken, punctuation, quote, entryTokens]
    | cons f es =>
      rw [printEntries, List.append_assoc, List.append_assoc, lex_entry]
      have hcomma : ∀ cs : List Char, (",\n".toList ++ cs).foldlM Lexer.step
          ⟨.number e.2, out ++ [.str e.1, .colon]⟩ =
          cs.foldlM Lexer.step ⟨.between, out ++ [.str e.1, .colon, .num e.2, .comma]⟩ := by
        intro cs
        simp [Lexer.step, startToken, punctuation, quote]
      rw [hcomma, ih (List.cons_ne_nil f es)]
      simp [entryTokens]

theorem parse_entries {es : List Entry} (hne : es ≠ []) :
    parseEntries (entryTokens es ++ [.rbrace, .rbrace]) = some es := by
  induction es with
  | nil => exact absurd rfl hne
  | cons e es ih =>
    cases es with
    | nil => rfl
    | cons f es =>
      simp only [entryTokens, List.cons_append, parseEntries, ih (List.cons_ne_nil f es),
        Option.map_some]

/-- Reading the printed entries gives them back. -/
theorem parse_printFile (es : List Entry) : (lex (printFile es)).bind parseFile = some es := by
  by_cases hne : es = []
  · subst hne
    decide
  · have hhead : ∀ cs : List Char,
        (header ++ '\n' :: cs).foldlM Lexer.step ⟨.between, []⟩ =
          cs.foldlM Lexer.step ⟨.between, [.lbrace, .str "cameras", .colon, .lbrace]⟩ := by
      intro cs
      rw [List.foldlM_append]
      rfl
    have htail : ∀ out : List Token, ("  ".toList ++ footer).foldlM Lexer.step ⟨.between, out⟩ =
        some ⟨.between, out ++ [.rbrace, .rbrace]⟩ := by
      intro out
      simp [footer, Lexer.step, startToken, punctuation, quote]
    have htext : printFile es =
        header ++ '\n' :: (printEntries es ++ '\n' :: ("  ".toList ++ footer)) := by
      rw [printFile, if_neg hne]
      simp only [List.append_assoc, List.cons_append]
    have hentries := parse_entries hne
    have hrest : entryTokens es ++ [.rbrace, .rbrace] ≠ [.rbrace, .rbrace] := by
      intro he
      rw [he] at hentries
      cases hentries
    rw [lex, htext, hhead, lex_entries hne, htail, List.append_assoc]
    simp only [List.cons_append, List.nil_append, Option.bind_some, parseFile, ne_eq,
      not_true_eq_false, if_false, if_neg hrest]
    exact hentries

theorem nodup_entriesOf (m : HashMap String Nat) : ((entriesOf m).map Prod.fst).Nodup := by
  rw [entriesOf, List.map_filterMap]
  refine (Finset.sort_nodup m.keys _).filterMap fun a a' key ha ha' => ?_
  simp only [Option.map_map, Option.mem_def, Option.map_eq_some_iff] at ha ha'
  obtain ⟨_, _, rfl⟩ := ha
  obtain ⟨_, _, h⟩ := ha'
  exact h.symm

theorem collect_entriesOf (m : HashMap String Nat) : HashMap.collect (entriesOf m) = m := by
  apply Finmap.ext_lookup
  intro k
  apply Option.ext
  intro slot
  rw [HashMap.lookup_collect_eq_some (nodup_entriesOf m), entriesOf, List.mem_filterMap]
  constructor
  · rintro ⟨key, _, hkey⟩
    obtain ⟨_, hl, he⟩ := Option.map_eq_some_iff.mp hkey
    cases he
    exact hl
  · intro hl
    refine ⟨k, ?_, by rw [hl]; rfl⟩
    rw [Finset.mem_sort, Finmap.mem_keys, ← Finmap.lookup_isSome, hl]
    rfl

theorem fromStr_text (text : String) : fromStr text.toUTF8.data.toList =
    ((lex text.toList).bind parseFile).map fun es => ⟨HashMap.collect es⟩ := by
  have hutf : String.fromUTF8? ⟨text.toUTF8.data.toList.toArray⟩ = some text := by
    simp only [Array.toArray_toList]
    exact dif_pos (String.isValidUTF8 _)
  unfold fromStr
  rw [hutf]
  show (lex text.toList).bind _ = _
  cases lex text.toList with
  | none => rfl
  | some tokens =>
    show (parseFile tokens).bind _ = (parseFile tokens).map _
    cases parseFile tokens <;> rfl

theorem round_trip (p : PersistedSlots) (seed : Nat) : fromStr (toStringPretty p seed) = some p := by
  unfold toStringPretty
  rw [fromStr_text, String.toList_ofList, parse_printFile, Option.map_some, collect_entriesOf]

/-- The slot file as the crate prints and reads it. -/
abbrev serdeJson : SerdeJson where
  toStringPretty := toStringPretty
  fromStr := fromStr
  round_trip := round_trip

/-! ## Truncated texts

Only the last character of a printed file closes the outer object, so every shorter
text is one closing brace short. -/

theorem startToken_out {out : List Token} {c : Char} {s : Lexer} (h : startToken out c = some s) :
    out <+: s.out := by
  unfold startToken at h
  split at h
  · cases h
    exact List.prefix_rfl
  · split at h
    · cases h
      exact List.prefix_rfl
    · obtain ⟨ts, _, rfl⟩ := Option.map_eq_some_iff.mp h
      exact List.prefix_append out ts

/-- The lexer never takes a token back. -/
theorem step_out {s t : Lexer} {c : Char} (h : s.step c = some t) : s.out <+: t.out := by
  obtain ⟨mode, out⟩ := s
  unfold Lexer.step at h
  cases mode with
  | between => exact startToken_out h
  | string acc =>
    simp only at h
    split at h
    · cases h
      exact List.prefix_append _ _
    · split at h <;> cases h <;> exact List.prefix_rfl
  | escaped acc =>
    simp only at h
    split at h
    · cases h
      exact List.prefix_rfl
    · cases h
  | number n =>
    simp only at h
    split at h
    · cases h
      exact List.prefix_rfl
    · exact (List.prefix_append _ _).trans (startToken_out h)

theorem lex_out {cs : List Char} {s t : Lexer} (h : cs.foldlM Lexer.step s = some t) :
    s.out <+: t.out := by
  induction cs generalizing s with
  | nil =>
    cases h
    exact List.prefix_rfl
  | cons c cs ih =>
    obtain ⟨u, hu, ht⟩ := Option.bind_eq_some_iff.mp h
    exact (step_out hu).trans (ih ht)

theorem startToken_brace (out : List Token) :
    startToken out (Char.ofNat 125) = some ⟨.between, out ++ [.rbrace]⟩ := rfl

/-- A closing brace outside strings is a token of its own. -/
theorem count_brace {s : Lexer} {ts : List Token}
    (h : s.step (Char.ofNat 125) = some ⟨.between, ts⟩) :
    ts.count .rbrace = s.out.count .rbrace + 1 := by
  obtain ⟨mode, out⟩ := s
  unfold Lexer.step at h
  cases mode with
  | between =>
    rw [startToken_brace] at h
    cases h
    simp
  | string acc =>
    have hq : Char.ofNat 125 ≠ quote := by decide
    have hb : Char.ofNat 125 ≠ backslash := by decide
    simp [hq, hb] at h
  | escaped acc =>
    have hq : Char.ofNat 125 ≠ quote := by decide
    have hb : Char.ofNat 125 ≠ backslash := by decide
    simp [hq, hb] at h
  | number n =>
    have hd : (Char.ofNat 125).isDigit = false := by decide
    simp only [hd, Bool.false_eq_true, if_false] at h
    rw [startToken_brace] at h
    cases h
    simp

theorem count_parseEntries {ts : List Token} {es : List Entry} (h : parseEntries ts = some es) :
    ts.count .rbrace = 2 := by
  induction ts using parseEntries.induct generalizing es with
  | case1 k n rest ih =>
    rw [parseEntries] at h
    obtain ⟨fs, hfs, _⟩ := Option.map_eq_some_iff.mp h
    simpa using ih hfs
  | case2 k n => rfl
  | case3 ts hlist hlast =>
    rw [parseEntries] at h
    · cases h
    · exact hlist
    · exact hlast

/-- A text that reads as a file closes two objects. -/
theorem count_parseFile {ts : List Token} {es : List Entry} (h : parseFile ts = some es) :
    ts.count .rbrace = 2 := by
  unfold parseFile at h
  split at h
  · split at h
    · cases h
    · split at h
      · rename_i hrest
        rw [hrest]
        rfl
      · have hcount := count_parseEntries h
        simpa using hcount
  · cases h

theorem printFile_brace (es : List Entry) : ∃ cs, printFile es = cs ++ [Char.ofNat 125] := by
  have hfooter : footer = "\x7d\n".toList ++ [Char.ofNat 125] := rfl
  unfold printFile
  rw [hfooter, ← List.append_assoc]
  exact ⟨_, rfl⟩

/-- No proper prefix of a printed file reads as a file. -/
theorem parse_prefix {es : List Entry} {cs : List Char} (h : cs <+: printFile es)
    (hne : cs ≠ printFile es) : (lex cs).bind parseFile = none := by
  obtain ⟨full, hfull⟩ := printFile_brace es
  obtain ⟨ds, hds⟩ := h
  -- The text before the last brace, with the given prefix at its front.
  obtain ⟨mid, hmid⟩ : ∃ mid, full = cs ++ mid := by
    cases ds using List.reverseRecOn with
    | nil =>
      rw [List.append_nil] at hds
      exact absurd hds hne
    | append_singleton mid d =>
      rw [hfull, ← List.append_assoc] at hds
      exact ⟨mid, (List.append_inj' hds rfl).1.symm⟩
  obtain ⟨ts, hlex, hparse⟩ := Option.bind_eq_some_iff.mp (parse_printFile es)
  unfold lex at hlex
  rw [hfull, hmid, List.foldlM_append, List.foldlM_append] at hlex
  cases hc : cs.foldlM Lexer.step ⟨.between, []⟩ with
  | none =>
    unfold lex
    rw [hc]
    rfl
  | some s =>
    rw [hc] at hlex
    cases hm : mid.foldlM Lexer.step s with
    | none => simp [hm] at hlex
    | some t =>
      have hlast : t.step (Char.ofNat 125) = some ⟨.between, ts⟩ := by
        cases hb : t.step (Char.ofNat 125) with
        | none => simp [hm, hb] at hlex
        | some u =>
          obtain ⟨mode, out⟩ := u
          cases mode <;> simp [hm, hb] at hlex
          rw [hlex]
      have hshort : s.out.count .rbrace < 2 := by
        have hle := (lex_out hm).sublist.count_le Token.rbrace
        have htotal := count_brace hlast
        have htwo := count_parseFile hparse
        omega
      unfold lex
      rw [hc]
      obtain ⟨mode, out⟩ := s
      cases mode with
      | between =>
        show parseFile out = none
        by_contra hsome
        obtain ⟨fs, hfs⟩ := Option.ne_none_iff_exists'.mp hsome
        have htwo := count_parseFile hfs
        simp only at hshort
        omega
      | string => rfl
      | escaped => rfl
      | number => rfl

/-- A file cut short anywhere does not decode, inside a character or not. -/
theorem fromStr_take (p : PersistedSlots) (seed : Nat) {n : Nat}
    (hn : n < (toStringPretty p seed).length) : fromStr ((toStringPretty p seed).take n) = none := by
  have hbytes : (⟨((toStringPretty p seed).take n).toArray⟩ : ByteArray) ++
      ⟨((toStringPretty p seed).drop n).toArray⟩ =
        (printFile (entriesOf p.cameras)).utf8Encode := by
    apply ByteArray.ext
    rw [ByteArray.data_append, List.append_toArray, List.take_append_drop]
    simp [toStringPretty]
  unfold fromStr
  cases ht : String.fromUTF8? ⟨((toStringPretty p seed).take n).toArray⟩ with
  | none => rfl
  | some text =>
    have hdata : text.toList.utf8Encode = ⟨((toStringPretty p seed).take n).toArray⟩ := by
      unfold String.fromUTF8? at ht
      split at ht
      · cases ht
        exact String.utf8Encode_toList
      · cases ht
    have hprefix : text.toList <+: printFile (entriesOf p.cameras) :=
      List.isPrefix_of_utf8Encode_append_eq_utf8Encode _ (by rw [hdata, hbytes])
    have hne : text.toList ≠ printFile (entriesOf p.cameras) := by
      intro he
      rw [he] at hdata
      have hsize := congrArg (fun b : ByteArray => b.data.toList.length) hdata
      simp [toStringPretty] at hsize hn
      omega
    have hnone := parse_prefix hprefix hne
    cases hl : lex text.toList with
    | none => simp [hl]
    | some ts =>
      rw [hl, Option.bind_some] at hnone
      simp [hl, hnone]

end MatterBridge.Slots.PrettyJson
