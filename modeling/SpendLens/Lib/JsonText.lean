/-
# JSON text

A reader of JSON text, as a program library has it: it takes some names for numbers,
lets control characters in strings be an error, joins surrogate pairs, and gives up on
integers of too many digits and on nesting that is too deep.  `quote` writes a string
in ASCII.

`readString_plain` is the step lemma of the reader on text that needs no escapes; what a
program writes as `{"k":"…"}` is read back by `readEntries_string`.
-/
import SpendLens.Lib.Json
import SpendLens.Lib.TextEncoding
import Mathlib.Data.List.DropRight
import Mathlib.Data.Rat.Defs
import Mathlib.Algebra.Order.Ring.Rat

namespace Json

/-- Why a text is refused. -/
inductive ReadError where
  | malformed
  | tooManyDigits
  | tooDeep
  deriving DecidableEq, Repr

/-! ## Strings -/

def isBlank (c : Char) : Bool := c = ' ' || c = '\t' || c = '\n' || c = '\r'

def skipBlank (cs : List Char) : List Char := cs.dropWhile isBlank

/-- The value of a hexadecimal digit. -/
def hexVal (c : Char) : Option ℕ :=
  if '0' ≤ c ∧ c ≤ '9' then some (c.toNat - 48)
  else if 'a' ≤ c ∧ c ≤ 'f' then some (c.toNat - 87)
  else if 'A' ≤ c ∧ c ≤ 'F' then some (c.toNat - 55)
  else none

/-- The number of four hexadecimal digits. -/
def hex4 : List Char → Option (ℕ × List Char)
  | a :: b :: c :: d :: cs => do
      let a ← hexVal a
      let b ← hexVal b
      let c ← hexVal c
      let d ← hexVal d
      return (((a * 16 + b) * 16 + c) * 16 + d, cs)
  | _ => none

/-- The character of an escape, behind the backslash. -/
def readEscape : List Char → Option (Char × List Char)
  | '"' :: cs => some ('"', cs)
  | '\\' :: cs => some ('\\', cs)
  | '/' :: cs => some ('/', cs)
  | 'b' :: cs => some ('\x08', cs)
  | 'f' :: cs => some ('\x0c', cs)
  | 'n' :: cs => some ('\n', cs)
  | 'r' :: cs => some ('\r', cs)
  | 't' :: cs => some ('\t', cs)
  | 'u' :: cs => do
      let (n, rest) ← hex4 cs
      match rest with
      | '\\' :: 'u' :: rest' =>
          if TextEncoding.isHigh n then
            let (m, rest'') ← hex4 rest'
            if TextEncoding.isLow m then
              return (TextEncoding.scalar (TextEncoding.joinSurrogates n m), rest'')
            else return (TextEncoding.scalar n, rest)
          else return (TextEncoding.scalar n, rest)
      | _ => return (TextEncoding.scalar n, rest)
  | _ => none

/-- The rest of a string and what follows its closing quote; the first argument
bounds the number of characters. -/
def readString : ℕ → List Char → Option (List Char × List Char)
  | 0, _ => none
  | _ + 1, [] => none
  | n + 1, c :: cs =>
      if c = '"' then some ([], cs)
      else if c = '\\' then
        (readEscape cs).bind (fun p => (readString n p.2).map (fun q => (p.1 :: q.1, q.2)))
      else if c.toNat < 32 then none
      else (readString n cs).map (fun q => (c :: q.1, q.2))

/-! ## Numbers -/

def spanDigits (cs : List Char) : List Char × List Char := cs.span Char.isDigit

def digitsVal (ds : List Char) : ℕ := ds.foldl (fun acc d => acc * 10 + (d.toNat - 48)) 0

/-- The most digits an integer may have. -/
def maxDigits : ℕ := 4300

/-- The value of a numeral with a fraction or an exponent; one that is out of range is
infinite or zero. -/
def floatVal (neg : Bool) (ip fp : List Char) (exp : ℤ) : Json :=
  let coef := digitsVal (ip ++ fp)
  let e := exp - fp.length
  if coef = 0 then float 0
  else if 310 < e + (ip ++ fp).length then special (if neg then "-Infinity" else "Infinity")
  else if e + (ip ++ fp).length < -330 then float 0
  else float ((if neg then -1 else 1) * coef * (10 : ℚ) ^ e)

/-- An optional fraction. -/
def readFraction : List Char → Option (List Char) × List Char
  | '.' :: cs =>
      if (spanDigits cs).1.isEmpty then (none, '.' :: cs)
      else (some (spanDigits cs).1, (spanDigits cs).2)
  | cs => (none, cs)

/-- An optional exponent. -/
def readExponent : List Char → Option ℤ × List Char
  | [] => (none, [])
  | c :: cs =>
      if c = 'e' ∨ c = 'E' then
        let (neg, body) :=
          match cs with
          | '-' :: rest => (true, rest)
          | '+' :: rest => (false, rest)
          | _ => (false, cs)
        if (spanDigits body).1.isEmpty then (none, c :: cs)
        else
          let n : ℤ := digitsVal (spanDigits body).1
          (some (if neg then -n else n), (spanDigits body).2)
      else (none, c :: cs)

/-- A number behind its sign. -/
def readUnsigned (neg : Bool) (cs : List Char) : Except ReadError (Json × List Char) :=
  let (ip, rest) :=
    match cs with
    | '0' :: rest => (['0'], rest)
    | _ => spanDigits cs
  if ip.isEmpty then .error .malformed
  else
    let (fraction, rest) := readFraction rest
    let (exponent, rest) := readExponent rest
    if fraction.isNone && exponent.isNone then
      if maxDigits < ip.length then .error .tooManyDigits
      else
        let n : ℤ := digitsVal ip
        .ok (int (if neg then -n else n), rest)
    else .ok (floatVal neg ip (fraction.getD []) (exponent.getD 0), rest)

/-- A number, or a name that is taken for one. -/
def readNumber (cs : List Char) : Except ReadError (Json × List Char) :=
  if "-Infinity".toList.isPrefixOf cs then .ok (special "-Infinity", cs.drop 9)
  else
    match cs with
    | '-' :: cs => readUnsigned true cs
    | _ => readUnsigned false cs

/-- The names that are values. -/
def names : List (String × Json) :=
  [("null", null), ("true", bool true), ("false", bool false), ("NaN", special "NaN"),
    ("Infinity", special "Infinity")]

/-! ## Values -/

mutual
/-- A value and what follows it.  The first argument bounds the number of steps, the
second the nesting. -/
def readValue : ℕ → ℕ → List Char → Except ReadError (Json × List Char)
  | 0, _, _ => .error .malformed
  | n + 1, depth, cs =>
      match cs with
      | '"' :: cs =>
          match readString (cs.length + 1) cs with
          | some (s, rest) => .ok (str (String.ofList s), rest)
          | none => .error .malformed
      | '\x7b' :: cs =>
          match depth, skipBlank cs with
          | 0, _ => .error .tooDeep
          | _ + 1, '\x7d' :: rest => .ok (obj [], rest)
          | depth + 1, cs => (readEntries n depth cs).map (fun p => (obj p.1, p.2))
      | '[' :: cs =>
          match depth, skipBlank cs with
          | 0, _ => .error .tooDeep
          | _ + 1, ']' :: rest => .ok (arr [], rest)
          | depth + 1, cs => (readElems n depth cs).map (fun p => (arr p.1, p.2))
      | _ =>
          match names.find? (fun p => p.1.toList.isPrefixOf cs) with
          | some p => .ok (p.2, cs.drop p.1.length)
          | none => readNumber cs
/-- The elements of an array up to its end. -/
def readElems : ℕ → ℕ → List Char → Except ReadError (List Json × List Char)
  | 0, _, _ => .error .malformed
  | n + 1, depth, cs =>
      match readValue n depth cs with
      | .error e => .error e
      | .ok (v, rest) =>
          match skipBlank rest with
          | ']' :: rest => .ok ([v], rest)
          | ',' :: rest => (readElems n depth (skipBlank rest)).map (fun p => (v :: p.1, p.2))
          | _ => .error .malformed
/-- The entries of an object up to its end. -/
def readEntries : ℕ → ℕ → List Char → Except ReadError (List (String × Json) × List Char)
  | 0, _, _ => .error .malformed
  | n + 1, depth, cs =>
      match cs with
      | '"' :: cs =>
          match readString (cs.length + 1) cs with
          | none => .error .malformed
          | some (key, rest) =>
              match skipBlank rest with
              | ':' :: rest =>
                  match readValue n depth (skipBlank rest) with
                  | .error e => .error e
                  | .ok (v, rest) =>
                      match skipBlank rest with
                      | '\x7d' :: rest => .ok ([(String.ofList key, v)], rest)
                      | ',' :: rest =>
                          (readEntries n depth (skipBlank rest)).map
                            (fun p => ((String.ofList key, v) :: p.1, p.2))
                      | _ => .error .malformed
              | _ => .error .malformed
      | _ => .error .malformed
end

/-- Read a text that is one value, nested at most `depth` deep. -/
def loads (depth : ℕ) (cs : List Char) : Except ReadError Json :=
  if cs.head? = some '\uFEFF' then .error .malformed
  else
    match readValue (cs.length + 1) depth (skipBlank cs) with
    | .error e => .error e
    | .ok (v, rest) => if (skipBlank rest).isEmpty then .ok v else .error .malformed

/-! ## Writing strings -/

def hexDigit (n : ℕ) : Char := if n < 10 then Char.ofNat (48 + n) else Char.ofNat (87 + n)

/-- The escape of a code unit. -/
def escapeUnit (n : ℕ) : List Char :=
  ['\\', 'u', hexDigit (n / 4096 % 16), hexDigit (n / 256 % 16), hexDigit (n / 16 % 16),
    hexDigit (n % 16)]

/-- A character in a string, in ASCII. -/
def quoteChar (c : Char) : List Char :=
  if c = '"' then ['\\', '"']
  else if c = '\\' then ['\\', '\\']
  else if c = '\n' then ['\\', 'n']
  else if c = '\r' then ['\\', 'r']
  else if c = '\t' then ['\\', 't']
  else if c = '\x0c' then ['\\', 'f']
  else if c = '\x08' then ['\\', 'b']
  else if 32 ≤ c.toNat ∧ c.toNat < 127 then [c]
  else if c.toNat < 0x10000 then escapeUnit c.toNat
  else
    let n := c.toNat - 0x10000
    escapeUnit (0xD800 + n / 1024) ++ escapeUnit (0xDC00 + n % 1024)

/-- A string, quoted. -/
def quote (cs : List Char) : List Char := '"' :: cs.flatMap quoteChar ++ ['"']

/-! ## Plain text -/

/-- A printable ASCII character that is written as it is. -/
def isPlain (c : Char) : Bool := 32 ≤ c.toNat && c.toNat < 127 && c ≠ '"' && c ≠ '\\'

theorem quoteChar_of_isPlain {c : Char} (h : isPlain c = true) : quoteChar c = [c] := by
  simp only [isPlain, Bool.and_eq_true, decide_eq_true_eq] at h
  obtain ⟨⟨⟨h₁, h₂⟩, h₃⟩, h₄⟩ := h
  have hctrl : ∀ d : Char, d.toNat < 32 → c ≠ d := by
    rintro d hd rfl
    omega
  unfold quoteChar
  rw [if_neg h₃, if_neg h₄, if_neg (hctrl '\n' (by decide)), if_neg (hctrl '\r' (by decide)),
    if_neg (hctrl '\t' (by decide)), if_neg (hctrl '\x0c' (by decide)),
    if_neg (hctrl '\x08' (by decide)), if_pos ⟨h₁, h₂⟩]

theorem quote_of_isPlain {cs : List Char} (h : ∀ c ∈ cs, isPlain c = true) :
    quote cs = '"' :: (cs ++ ['"']) := by
  have hid : cs.flatMap quoteChar = cs := by
    rw [List.flatMap_congr (fun c hc => quoteChar_of_isPlain (h c hc)), List.flatMap_singleton']
  rw [quote, hid, List.cons_append]

/-- Plain text in front of a closing quote is read as it stands. -/
theorem readString_plain {cs : List Char} (h : ∀ c ∈ cs, isPlain c = true) (rest : List Char) :
    ∀ n, cs.length < n → readString n (cs ++ '"' :: rest) = some (cs, rest) := by
  induction cs with
  | nil =>
      intro n hn
      obtain ⟨m, rfl⟩ : ∃ m, n = m + 1 := ⟨n - 1, by simp at hn; omega⟩
      rfl
  | cons c cs ih =>
      intro n hn
      obtain ⟨m, rfl⟩ : ∃ m, n = m + 1 := ⟨n - 1, by simp at hn; omega⟩
      have hc := h c List.mem_cons_self
      simp only [isPlain, Bool.and_eq_true, decide_eq_true_eq] at hc
      obtain ⟨⟨⟨h₁, h₂⟩, h₃⟩, h₄⟩ := hc
      have hm : cs.length < m := by simpa using hn
      rw [List.cons_append, readString, if_neg h₃, if_neg h₄, if_neg (by omega),
        ih (fun d hd => h d (List.mem_cons_of_mem _ hd)) m hm]
      rfl

/-- A plain string value. -/
theorem readValue_plain {cs : List Char} (h : ∀ c ∈ cs, isPlain c = true) (rest : List Char)
    (n depth : ℕ) :
    readValue (n + 1) depth ('"' :: (cs ++ '"' :: rest)) = .ok (str (String.ofList cs), rest) := by
  unfold readValue
  simp only
  rw [readString_plain h rest _ (by rw [List.length_append]; omega)]

/-- An object that begins with a key. -/
theorem readValue_obj (cs : List Char) (n depth : ℕ) :
    readValue (n + 1) (depth + 1) ('\x7b' :: '"' :: cs) =
      (readEntries n depth ('"' :: cs)).map (fun p => (obj p.1, p.2)) := by
  conv_lhs => unfold readValue
  rfl

/-- The last entry of an object of plain strings. -/
theorem readEntries_last {k v : List Char} (hk : ∀ c ∈ k, isPlain c = true)
    (hv : ∀ c ∈ v, isPlain c = true) (rest : List Char) (n depth : ℕ) :
    readEntries (n + 2) depth
        ('"' :: (k ++ '"' :: ':' :: '"' :: (v ++ '"' :: '\x7d' :: rest))) =
      .ok ([(String.ofList k, str (String.ofList v))], rest) := by
  unfold readEntries
  simp only
  rw [readString_plain hk _ _ (by rw [List.length_append]; omega)]
  simp only
  have h₁ : skipBlank (':' :: '"' :: (v ++ '"' :: '\x7d' :: rest)) =
      ':' :: '"' :: (v ++ '"' :: '\x7d' :: rest) := rfl
  have h₂ : skipBlank ('"' :: (v ++ '"' :: '\x7d' :: rest)) =
      '"' :: (v ++ '"' :: '\x7d' :: rest) := rfl
  have h₃ : skipBlank ('\x7d' :: rest) = '\x7d' :: rest := rfl
  simp only [h₁, h₂, readValue_plain hv, h₃]

/-- An entry of an object of plain strings that is not the last. -/
theorem readEntries_string {k v : List Char} (hk : ∀ c ∈ k, isPlain c = true)
    (hv : ∀ c ∈ v, isPlain c = true) (rest : List Char) (n depth : ℕ) :
    readEntries (n + 2) depth
        ('"' :: (k ++ '"' :: ':' :: '"' :: (v ++ '"' :: ',' :: '"' :: rest))) =
      (readEntries (n + 1) depth ('"' :: rest)).map
        (fun p => ((String.ofList k, str (String.ofList v)) :: p.1, p.2)) := by
  conv_lhs => unfold readEntries
  simp only
  rw [readString_plain hk _ _ (by rw [List.length_append]; omega)]
  simp only
  have h₁ : skipBlank (':' :: '"' :: (v ++ '"' :: ',' :: '"' :: rest)) =
      ':' :: '"' :: (v ++ '"' :: ',' :: '"' :: rest) := rfl
  have h₂ : skipBlank ('"' :: (v ++ '"' :: ',' :: '"' :: rest)) =
      '"' :: (v ++ '"' :: ',' :: '"' :: rest) := rfl
  have h₃ : skipBlank (',' :: '"' :: rest) = ',' :: '"' :: rest := rfl
  have h₄ : skipBlank ('"' :: rest) = '"' :: rest := rfl
  simp only [h₁, h₂, readValue_plain hv, h₃, h₄]

end Json
