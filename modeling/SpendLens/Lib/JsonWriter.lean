/-
# Writing JSON text

The text of a value without numbers, as a program library writes it: in ASCII, with a blank behind
every comma and every colon.

`readString_flatMap_quoteChar` is the step of the reader on a written string, over every character,
and `loads_dumps` the round trip: a written text is read back as its value, whatever is in it.
-/
import SpendLens.Lib.JsonText

namespace Json

/-! ## The writer -/

mutual
/-- The text of a value; numbers are not written. -/
def dumps : Json → Option (List Char)
  | null => some "null".toList
  | bool true => some "true".toList
  | bool false => some "false".toList
  | str s => some (quote s.toList)
  | arr xs => (dumpElems xs).map ('[' :: ·)
  | obj kvs => (dumpEntries kvs).map ('\x7b' :: ·)
  | _ => none
/-- The elements of an array and its end. -/
def dumpElems : List Json → Option (List Char)
  | [] => some [']']
  | x :: xs => do
      let first ← dumps x
      let rest ← dumpElems xs
      return first ++ ((if xs.isEmpty then [] else [',', ' ']) ++ rest)
/-- The entries of an object and its end. -/
def dumpEntries : List (String × Json) → Option (List Char)
  | [] => some ['\x7d']
  | (k, v) :: kvs => do
      let first ← dumps v
      let rest ← dumpEntries kvs
      return quote k.toList ++ (':' :: ' ' :: (first ++
        ((if kvs.isEmpty then [] else [',', ' ']) ++ rest)))
end

mutual
/-- How deep a value is nested. -/
def nesting : Json → ℕ
  | arr xs => nestingElems xs + 1
  | obj kvs => nestingEntries kvs + 1
  | _ => 0
def nestingElems : List Json → ℕ
  | [] => 0
  | x :: xs => max (nesting x) (nestingElems xs)
def nestingEntries : List (String × Json) → ℕ
  | [] => 0
  | (_, v) :: kvs => max (nesting v) (nestingEntries kvs)
end

/-! ## Code units -/

theorem hexVal_hexDigit {n : ℕ} (h : n < 16) : hexVal (hexDigit n) = some n := by
  have hall : ∀ k < 16, hexVal (hexDigit k) = some k := by decide
  exact hall n h

/-- The four digits of a code unit. -/
def unitDigits (n : ℕ) : List Char :=
  [hexDigit (n / 4096 % 16), hexDigit (n / 256 % 16), hexDigit (n / 16 % 16), hexDigit (n % 16)]

theorem escapeUnit_eq (n : ℕ) : escapeUnit n = '\\' :: 'u' :: unitDigits n := rfl

/-- Four digits give back the code unit. -/
theorem hex4_unitDigits {n : ℕ} (h : n < 0x10000) (cs : List Char) :
    hex4 (unitDigits n ++ cs) = some (n, cs) := by
  have hsum : ((n / 4096 % 16 * 16 + n / 256 % 16) * 16 + n / 16 % 16) * 16 + n % 16 = n := by
    omega
  have hdigit : ∀ k, hexVal (hexDigit (k % 16)) = some (k % 16) :=
    fun k => hexVal_hexDigit (Nat.mod_lt k (by decide))
  show hex4 (_ :: _ :: _ :: _ :: cs) = _
  simp only [hex4, hdigit, Option.bind_eq_bind, Option.bind_some, Option.pure_def, hsum]

/-- A character is no surrogate. -/
theorem isHigh_toNat (c : Char) : TextEncoding.isHigh c.toNat = false := by
  have hvalid : c.toNat.isValidChar := c.valid
  simp only [TextEncoding.isHigh, Bool.and_eq_false_iff, decide_eq_false_iff_not]
  unfold Nat.isValidChar at hvalid
  omega

/-- A code unit that begins no pair is a character by itself. -/
theorem readEscape_of_hex4 {n : ℕ} {ds cs : List Char} (hread : hex4 ds = some (n, cs))
    (hhigh : TextEncoding.isHigh n = false) :
    readEscape ('u' :: ds) = some (TextEncoding.scalar n, cs) := by
  rw [readEscape, hread]
  simp only [Option.bind_eq_bind, Option.bind_some, hhigh, Bool.false_eq_true, if_false,
    Option.pure_def]
  split
  · rfl
  · rfl

/-- The escape of a character of the basic plane. -/
theorem readEscape_unit {c : Char} (h : c.toNat < 0x10000) (cs : List Char) :
    readEscape ('u' :: (unitDigits c.toNat ++ cs)) = some (c, cs) := by
  rw [readEscape_of_hex4 (hex4_unitDigits h cs) (isHigh_toNat c), TextEncoding.scalar_toNat]

/-- Two code units that are a pair are one character. -/
theorem readEscape_of_pair {n m : ℕ} {ds es cs : List Char}
    (hread : hex4 ds = some (n, '\\' :: 'u' :: es)) (hhigh : TextEncoding.isHigh n = true)
    (hnext : hex4 es = some (m, cs)) (hlow : TextEncoding.isLow m = true) :
    readEscape ('u' :: ds) =
      some (TextEncoding.scalar (TextEncoding.joinSurrogates n m), cs) := by
  rw [readEscape, hread]
  simp only [Option.bind_eq_bind, Option.bind_some, hhigh, if_true, hnext, hlow, Option.pure_def]

/-- The two escapes of a character beyond it. -/
theorem readEscape_surrogates {c : Char} (h : 0x10000 ≤ c.toNat) (cs : List Char) :
    readEscape ('u' :: (unitDigits (0xD800 + (c.toNat - 0x10000) / 1024) ++
      (escapeUnit (0xDC00 + (c.toNat - 0x10000) % 1024) ++ cs))) = some (c, cs) := by
  have hlt : c.toNat < 0x110000 := by
    have hvalid : c.toNat.isValidChar := c.valid
    unfold Nat.isValidChar at hvalid
    omega
  have hhigh : TextEncoding.isHigh (0xD800 + (c.toNat - 0x10000) / 1024) = true := by
    simp only [TextEncoding.isHigh, Bool.and_eq_true, decide_eq_true_eq]
    omega
  have hlow : TextEncoding.isLow (0xDC00 + (c.toNat - 0x10000) % 1024) = true := by
    simp only [TextEncoding.isLow, Bool.and_eq_true, decide_eq_true_eq]
    omega
  have hjoin : TextEncoding.joinSurrogates (0xD800 + (c.toNat - 0x10000) / 1024)
      (0xDC00 + (c.toNat - 0x10000) % 1024) = c.toNat := by
    unfold TextEncoding.joinSurrogates
    omega
  rw [escapeUnit_eq, List.cons_append, List.cons_append,
    readEscape_of_pair (hex4_unitDigits (by omega) _) hhigh (hex4_unitDigits (by omega) cs) hlow,
    hjoin, TextEncoding.scalar_toNat]

/-! ## Strings -/

/-- **One written character is read back**, whatever follows it. -/
theorem readString_quoteChar (c : Char) (n : ℕ) (cs : List Char) :
    readString (n + 1) (quoteChar c ++ cs) =
      (readString n cs).map (fun q => (c :: q.1, q.2)) := by
  -- a character that is escaped by one letter
  have hletter : ∀ (x d : Char), quoteChar d = ['\\', x] →
      (∀ cs, readEscape (x :: cs) = some (d, cs)) →
      readString (n + 1) (quoteChar d ++ cs) =
        (readString n cs).map (fun q => (d :: q.1, q.2)) := by
    intro x d hquote hread
    rw [hquote]
    show (readEscape (x :: cs)).bind _ = _
    rw [hread]
    rfl
  by_cases hc : c ∈ ['"', '\\', '\n', '\r', '\t', '\x0c', '\x08']
  · simp only [List.mem_cons, List.not_mem_nil, or_false] at hc
    rcases hc with rfl | rfl | rfl | rfl | rfl | rfl | rfl
    · exact hletter '"' _ rfl (fun _ => rfl)
    · exact hletter '\\' _ rfl (fun _ => rfl)
    · exact hletter 'n' _ rfl (fun _ => rfl)
    · exact hletter 'r' _ rfl (fun _ => rfl)
    · exact hletter 't' _ rfl (fun _ => rfl)
    · exact hletter 'f' _ rfl (fun _ => rfl)
    · exact hletter 'b' _ rfl (fun _ => rfl)
  · simp only [List.mem_cons, List.not_mem_nil, or_false, not_or] at hc
    obtain ⟨h₁, h₂, h₃, h₄, h₅, h₆, h₇⟩ := hc
    rw [quoteChar, if_neg h₁, if_neg h₂, if_neg h₃, if_neg h₄, if_neg h₅, if_neg h₆, if_neg h₇]
    split
    · -- printable ASCII stands as it is
      rename_i hplain
      show readString (n + 1) (c :: cs) = _
      rw [readString, if_neg h₁, if_neg h₂, if_neg (by omega)]
    · split
      · rename_i hbasic
        show (readEscape ('u' :: (unitDigits c.toNat ++ cs))).bind _ = _
        rw [readEscape_unit hbasic]
        rfl
      · rename_i hbeyond
        show readString (n + 1) ((escapeUnit _ ++ escapeUnit _) ++ cs) = _
        rw [List.append_assoc, escapeUnit_eq]
        show (readEscape ('u' :: (unitDigits _ ++ _))).bind _ = _
        rw [readEscape_surrogates (by omega)]
        rfl

/-- A written string in front of its closing quote. -/
theorem readString_flatMap_quoteChar (cs rest : List Char) :
    ∀ n, cs.length < n → readString n (cs.flatMap quoteChar ++ '"' :: rest) = some (cs, rest) := by
  induction cs with
  | nil =>
      intro n hn
      obtain ⟨m, rfl⟩ : ∃ m, n = m + 1 := ⟨n - 1, by simp at hn; omega⟩
      rfl
  | cons c cs ih =>
      intro n hn
      obtain ⟨m, rfl⟩ : ∃ m, n = m + 1 := ⟨n - 1, by simp at hn; omega⟩
      have hm : cs.length < m := by simpa using hn
      rw [List.flatMap_cons, List.append_assoc, readString_quoteChar, ih m hm]
      rfl

theorem length_le_flatMap_quoteChar (cs : List Char) :
    cs.length ≤ (cs.flatMap quoteChar).length := by
  induction cs with
  | nil => exact Nat.le_refl 0
  | cons c cs ih =>
      have hpos : 0 < (quoteChar c).length := by
        unfold quoteChar
        repeat' split
        all_goals simp [escapeUnit]
      rw [List.flatMap_cons, List.length_append, List.length_cons]
      omega

/-- A written string is read back with its quotes. -/
theorem readString_quote (cs rest : List Char) :
    readString ((cs.flatMap quoteChar ++ '"' :: rest).length + 1)
      (cs.flatMap quoteChar ++ '"' :: rest) = some (cs, rest) := by
  apply readString_flatMap_quoteChar
  have hle := length_le_flatMap_quoteChar cs
  rw [List.length_append]
  omega

theorem quote_append (cs rest : List Char) :
    quote cs ++ rest = '"' :: (cs.flatMap quoteChar ++ '"' :: rest) := by
  show '"' :: (cs.flatMap quoteChar ++ ['"'] ++ rest) = _
  rw [List.append_assoc]
  rfl

/-! ## What a written text begins with -/

/-- The text goes on with something, and not with a blank, a byte order mark or the end of an array
or an object. -/
def Begins (text : List Char) : Prop :=
  ∃ c cs, text = c :: cs ∧ isBlank c = false ∧ c ≠ ']' ∧ c ≠ '\x7d' ∧ c ≠ '\uFEFF'

theorem Begins.append {text : List Char} (h : Begins text) (rest : List Char) :
    Begins (text ++ rest) := by
  obtain ⟨c, cs, rfl, hc⟩ := h
  exact ⟨c, cs ++ rest, rfl, hc⟩

theorem Begins.skipBlank {text : List Char} (h : Begins text) : skipBlank text = text := by
  obtain ⟨c, cs, rfl, hc, -⟩ := h
  exact List.dropWhile_cons_of_neg (by rw [hc]; exact Bool.false_ne_true)

theorem Begins.length_pos {text : List Char} (h : Begins text) : 0 < text.length := by
  obtain ⟨c, cs, rfl, -⟩ := h
  exact Nat.succ_pos _

theorem begins_quote (cs : List Char) : Begins (quote cs) :=
  ⟨'"', _, rfl, by decide⟩

theorem begins_dumps {v : Json} {text : List Char} (h : dumps v = some text) : Begins text := by
  have hone : ∀ (c : Char) (cs : List Char),
      isBlank c = false ∧ c ≠ ']' ∧ c ≠ '\x7d' ∧ c ≠ '\uFEFF' → Begins (c :: cs) :=
    fun c cs hc => ⟨c, cs, rfl, hc⟩
  unfold dumps at h
  split at h
  · obtain rfl := Option.some.inj h
    exact hone 'n' _ (by decide)
  · obtain rfl := Option.some.inj h
    exact hone 't' _ (by decide)
  · obtain rfl := Option.some.inj h
    exact hone 'f' _ (by decide)
  · obtain rfl := Option.some.inj h
    exact begins_quote _
  · obtain ⟨cs, -, rfl⟩ := Option.map_eq_some_iff.1 h
    exact hone '[' _ (by decide)
  · obtain ⟨cs, -, rfl⟩ := Option.map_eq_some_iff.1 h
    exact hone '\x7b' _ (by decide)
  · cases h

/-- The parts of the text of the elements of an array. -/
theorem dumpElems_cons {x : Json} {xs : List Json} {text : List Char}
    (h : dumpElems (x :: xs) = some text) : ∃ first rest, dumps x = some first ∧
      dumpElems xs = some rest ∧
      text = first ++ ((if xs.isEmpty then [] else [',', ' ']) ++ rest) := by
  rw [dumpElems] at h
  obtain ⟨first, hfirst, h⟩ := Option.bind_eq_some_iff.1 h
  obtain ⟨rest, hrest, h⟩ := Option.bind_eq_some_iff.1 h
  exact ⟨first, rest, hfirst, hrest, (Option.some.inj h).symm⟩

/-- The parts of the text of the entries of an object. -/
theorem dumpEntries_cons {k : String} {v : Json} {kvs : List (String × Json)}
    {text : List Char} (h : dumpEntries ((k, v) :: kvs) = some text) :
    ∃ first rest, dumps v = some first ∧ dumpEntries kvs = some rest ∧
      text = quote k.toList ++ (':' :: ' ' :: (first ++
        ((if kvs.isEmpty then [] else [',', ' ']) ++ rest))) := by
  rw [dumpEntries] at h
  obtain ⟨first, hfirst, h⟩ := Option.bind_eq_some_iff.1 h
  obtain ⟨rest, hrest, h⟩ := Option.bind_eq_some_iff.1 h
  exact ⟨first, rest, hfirst, hrest, (Option.some.inj h).symm⟩

/-- An object is written if its values are. -/
theorem exists_dumps_obj {kvs : List (String × Json)}
    (h : ∀ kv ∈ kvs, ∃ text, dumps kv.2 = some text) : ∃ text, dumps (obj kvs) = some text := by
  have hentries : ∃ text, dumpEntries kvs = some text := by
    induction kvs with
    | nil => exact ⟨_, rfl⟩
    | cons kv kvs ih =>
        obtain ⟨first, hfirst⟩ := h kv List.mem_cons_self
        obtain ⟨rest, hrest⟩ := ih (fun kv' hkv' => h kv' (List.mem_cons_of_mem _ hkv'))
        exact ⟨_, by rw [dumpEntries, hfirst, hrest]; rfl⟩
  obtain ⟨text, htext⟩ := hentries
  exact ⟨_, by rw [dumps, htext]; rfl⟩

theorem begins_dumpElems {x : Json} {xs : List Json} {text : List Char}
    (h : dumpElems (x :: xs) = some text) : Begins text := by
  obtain ⟨first, rest, hfirst, -, rfl⟩ := dumpElems_cons h
  exact (begins_dumps hfirst).append _

theorem begins_dumpEntries {kv : String × Json} {kvs : List (String × Json)}
    {text : List Char} (h : dumpEntries (kv :: kvs) = some text) : Begins text := by
  obtain ⟨first, rest, -, -, rfl⟩ := dumpEntries_cons h
  exact (begins_quote _).append _

/-! ## Steps of the reader -/

theorem readValue_nil_arr (n depth : ℕ) (rest : List Char) :
    readValue (n + 1) (depth + 1) ('[' :: ']' :: rest) = .ok (arr [], rest) := by
  unfold readValue
  rfl

theorem readValue_nil_obj (n depth : ℕ) (rest : List Char) :
    readValue (n + 1) (depth + 1) ('\x7b' :: '\x7d' :: rest) = .ok (obj [], rest) := by
  unfold readValue
  rfl

/-- An array whose elements can be read. -/
theorem readValue_arr {n depth : ℕ} {text rest : List Char} {xs : List Json}
    (hbegins : Begins text) (h : readElems n depth text = .ok (xs, rest)) :
    readValue (n + 1) (depth + 1) ('[' :: text) = .ok (arr xs, rest) := by
  obtain ⟨c, cs, rfl, -, hend, -⟩ := id hbegins
  conv_lhs => unfold readValue
  simp only [hbegins.skipBlank]
  split
  · rename_i heq
    cases heq
  · rename_i heq
    exact absurd (List.cons.inj heq).1 hend
  · rename_i hdepth _
    obtain rfl := Nat.succ.inj hdepth
    rw [h]
    rfl

/-- An object whose entries can be read. -/
theorem readValue_entries {n depth : ℕ} {text rest : List Char} {kvs : List (String × Json)}
    (hbegins : Begins text) (h : readEntries n depth text = .ok (kvs, rest)) :
    readValue (n + 1) (depth + 1) ('\x7b' :: text) = .ok (obj kvs, rest) := by
  obtain ⟨c, cs, rfl, -, -, hend, -⟩ := id hbegins
  conv_lhs => unfold readValue
  simp only [hbegins.skipBlank]
  split
  · rename_i heq
    cases heq
  · rename_i heq
    exact absurd (List.cons.inj heq).1 hend
  · rename_i hdepth _
    obtain rfl := Nat.succ.inj hdepth
    rw [h]
    rfl

theorem readElems_last {n depth : ℕ} {text rest : List Char} {x : Json}
    (h : readValue n depth text = .ok (x, ']' :: rest)) :
    readElems (n + 1) depth text = .ok ([x], rest) := by
  rw [readElems, h]
  rfl

theorem readElems_next {n depth : ℕ} {text after rest : List Char} {x : Json} {xs : List Json}
    (h : readValue n depth text = .ok (x, ',' :: ' ' :: after)) (hbegins : Begins after)
    (hafter : readElems n depth after = .ok (xs, rest)) :
    readElems (n + 1) depth text = .ok (x :: xs, rest) := by
  have hcomma : skipBlank (',' :: ' ' :: after) = ',' :: ' ' :: after := rfl
  have hblank : skipBlank (' ' :: after) = after := hbegins.skipBlank
  rw [readElems, h]
  simp only [hcomma, hblank, hafter]
  rfl

/-- What the reader makes of the text behind the value of an entry. -/
def readAfterEntry (n depth : ℕ) (k : List Char) (v : Json) (after : List Char) :
    Except ReadError (List (String × Json) × List Char) :=
  match skipBlank after with
  | '\x7d' :: rest => .ok ([(String.ofList k, v)], rest)
  | ',' :: rest =>
      (readEntries n depth (skipBlank rest)).map (fun p => ((String.ofList k, v) :: p.1, p.2))
  | _ => .error .malformed

/-- The entries of an object, once the value of the first one can be read. -/
theorem readEntries_eq {n depth : ℕ} {text after : List Char} {v : Json} (k : List Char)
    (hbegins : Begins text) (h : readValue n depth text = .ok (v, after)) :
    readEntries (n + 1) depth (quote k ++ ':' :: ' ' :: text) =
      readAfterEntry n depth k v after := by
  have hcolon : skipBlank (':' :: ' ' :: text) = ':' :: ' ' :: text := rfl
  have hblank : skipBlank (' ' :: text) = text := hbegins.skipBlank
  rw [quote_append]
  conv_lhs => unfold readEntries
  simp only [readString_quote, hcolon, hblank, h]
  rfl

theorem readEntries_end {n depth : ℕ} {text rest : List Char} {v : Json} (k : List Char)
    (hbegins : Begins text) (h : readValue n depth text = .ok (v, '\x7d' :: rest)) :
    readEntries (n + 1) depth (quote k ++ ':' :: ' ' :: text) =
      .ok ([(String.ofList k, v)], rest) := by
  rw [readEntries_eq k hbegins h]
  rfl

theorem readEntries_next {n depth : ℕ} {text after rest : List Char} {v : Json}
    {kvs : List (String × Json)} (k : List Char) (hbegins : Begins text)
    (h : readValue n depth text = .ok (v, ',' :: ' ' :: after)) (hnext : Begins after)
    (hafter : readEntries n depth after = .ok (kvs, rest)) :
    readEntries (n + 1) depth (quote k ++ ':' :: ' ' :: text) =
      .ok ((String.ofList k, v) :: kvs, rest) := by
  have hcomma : skipBlank (',' :: ' ' :: after) = ',' :: ' ' :: after := rfl
  have hblank : skipBlank (' ' :: after) = after := hnext.skipBlank
  rw [readEntries_eq k hbegins h, readAfterEntry, hcomma]
  simp only [hblank, hafter]
  rfl

/-! ## The round trip -/

mutual
/-- **A written value is read back** in front of anything, with enough steps and nesting. -/
theorem readValue_dumps {v : Json} {text : List Char} (h : dumps v = some text) (rest : List Char)
    {n depth : ℕ} (hn : text.length ≤ n) (hdepth : nesting v ≤ depth) :
    readValue n depth (text ++ rest) = .ok (v, rest) := by
  obtain ⟨m, rfl⟩ : ∃ m, n = m + 1 :=
    ⟨n - 1, by have hpos := (begins_dumps h).length_pos; omega⟩
  match v with
  | null =>
      obtain rfl := Option.some.inj h
      rfl
  | bool true =>
      obtain rfl := Option.some.inj h
      rfl
  | bool false =>
      obtain rfl := Option.some.inj h
      rfl
  | str s =>
      obtain rfl := Option.some.inj h
      rw [quote_append, readValue]
      simp only [readString_quote, String.ofList_toList]
  | arr [] =>
      obtain rfl := Option.some.inj h
      obtain ⟨d, rfl⟩ : ∃ d, depth = d + 1 := ⟨depth - 1, by simp [nesting] at hdepth; omega⟩
      exact readValue_nil_arr m d rest
  | arr (x :: xs) =>
      obtain ⟨text, htext, rfl⟩ := Option.map_eq_some_iff.1 h
      obtain ⟨d, rfl⟩ : ∃ d, depth = d + 1 := ⟨depth - 1, by simp [nesting] at hdepth; omega⟩
      exact readValue_arr ((begins_dumpElems htext).append rest)
        (readElems_dumpElems htext rest (Nat.le_of_succ_le_succ hn)
          (Nat.le_of_succ_le_succ hdepth))
  | obj [] =>
      obtain rfl := Option.some.inj h
      obtain ⟨d, rfl⟩ : ∃ d, depth = d + 1 := ⟨depth - 1, by simp [nesting] at hdepth; omega⟩
      exact readValue_nil_obj m d rest
  | obj ((k, w) :: kvs) =>
      obtain ⟨text, htext, rfl⟩ := Option.map_eq_some_iff.1 h
      obtain ⟨d, rfl⟩ : ∃ d, depth = d + 1 := ⟨depth - 1, by simp [nesting] at hdepth; omega⟩
      exact readValue_entries ((begins_dumpEntries htext).append rest)
        (readEntries_dumpEntries htext rest (Nat.le_of_succ_le_succ hn)
          (Nat.le_of_succ_le_succ hdepth))
termination_by sizeOf v
/-- The elements of an array are read back with its end. -/
theorem readElems_dumpElems {x : Json} {xs : List Json} {text : List Char}
    (h : dumpElems (x :: xs) = some text) (rest : List Char) {n depth : ℕ}
    (hn : text.length ≤ n) (hdepth : nestingElems (x :: xs) ≤ depth) :
    readElems n depth (text ++ rest) = .ok (x :: xs, rest) := by
  match xs with
  | [] =>
      obtain ⟨first, after, hfirst, hafter, rfl⟩ := dumpElems_cons h
      obtain rfl := Option.some.inj hafter
      rw [List.length_append] at hn
      obtain ⟨m, rfl⟩ : ∃ m, n = m + 1 := ⟨n - 1, by simp at hn; omega⟩
      have hfuel : first.length ≤ m := by simp at hn; omega
      rw [List.append_assoc]
      exact readElems_last (readValue_dumps hfirst _ hfuel (max_le_iff.1 hdepth).1)
  | y :: ys =>
      obtain ⟨first, after, hfirst, hafter, rfl⟩ := dumpElems_cons h
      have hpos := (begins_dumps hfirst).length_pos
      rw [List.length_append] at hn
      obtain ⟨m, rfl⟩ : ∃ m, n = m + 1 := ⟨n - 1, by omega⟩
      have hfuel : first.length ≤ m ∧ after.length ≤ m := by simp at hn; omega
      rw [List.append_assoc]
      exact readElems_next (readValue_dumps hfirst _ hfuel.1 (max_le_iff.1 hdepth).1)
        ((begins_dumpElems hafter).append rest)
        (readElems_dumpElems hafter rest hfuel.2 (max_le_iff.1 hdepth).2)
termination_by sizeOf (x :: xs)
/-- The entries of an object are read back with its end. -/
theorem readEntries_dumpEntries {k : String} {v : Json} {kvs : List (String × Json)}
    {text : List Char} (h : dumpEntries ((k, v) :: kvs) = some text) (rest : List Char)
    {n depth : ℕ} (hn : text.length ≤ n) (hdepth : nestingEntries ((k, v) :: kvs) ≤ depth) :
    readEntries n depth (text ++ rest) = .ok ((k, v) :: kvs, rest) := by
  have hkey : String.ofList k.toList = k := String.ofList_toList
  have hshape : ∀ first sep after : List Char,
      quote k.toList ++ (':' :: ' ' :: (first ++ (sep ++ after))) ++ rest =
        quote k.toList ++ ':' :: ' ' :: (first ++ (sep ++ (after ++ rest))) := by
    intro first sep after
    simp only [List.append_assoc, List.cons_append]
  match kvs with
  | [] =>
      obtain ⟨first, after, hfirst, hafter, rfl⟩ := dumpEntries_cons h
      obtain rfl := Option.some.inj hafter
      rw [List.length_append] at hn
      obtain ⟨m, rfl⟩ : ∃ m, n = m + 1 := ⟨n - 1, by simp at hn; omega⟩
      have hfuel : first.length ≤ m := by simp at hn; omega
      have hread := readEntries_end k.toList ((begins_dumps hfirst).append _)
        (readValue_dumps hfirst ('\x7d' :: rest) hfuel (max_le_iff.1 hdepth).1)
      rw [hkey] at hread
      rw [hshape]
      exact hread
  | (k', v') :: kvs =>
      obtain ⟨first, after, hfirst, hafter, rfl⟩ := dumpEntries_cons h
      rw [List.length_append] at hn
      obtain ⟨m, rfl⟩ : ∃ m, n = m + 1 := ⟨n - 1, by simp at hn; omega⟩
      have hfuel : first.length ≤ m ∧ after.length ≤ m := by simp at hn; omega
      have hread := readEntries_next k.toList ((begins_dumps hfirst).append _)
        (readValue_dumps hfirst (',' :: ' ' :: (after ++ rest)) hfuel.1 (max_le_iff.1 hdepth).1)
        ((begins_dumpEntries hafter).append rest)
        (readEntries_dumpEntries hafter rest hfuel.2 (max_le_iff.1 hdepth).2)
      rw [hkey] at hread
      rw [hshape]
      exact hread
termination_by sizeOf ((k, v) :: kvs)
end

/-- **A written text is read back as its value.** -/
theorem loads_dumps {v : Json} {text : List Char} (h : dumps v = some text) {depth : ℕ}
    (hdepth : nesting v ≤ depth) : loads depth text = .ok v := by
  have hbegins := begins_dumps h
  have hmark : text.head? ≠ some '\uFEFF' := by
    obtain ⟨c, cs, rfl, -, -, -, hc⟩ := hbegins
    exact fun heq => hc (Option.some.inj heq)
  have hread := readValue_dumps h [] (Nat.le_succ text.length) hdepth
  rw [List.append_nil] at hread
  rw [loads, if_neg hmark, hbegins.skipBlank, hread]
  rfl

/-- What is beyond ASCII is escaped, beyond the basic plane as a pair. -/
example : (dumps (obj [("k\n", arr [str "é", str "😀", null]), ("", obj [])])).map String.ofList =
    some "\x7b\"k\\n\": [\"\\u00e9\", \"\\ud83d\\ude00\", null], \"\": \x7b\x7d\x7d" := by
  decide +kernel

end Json
