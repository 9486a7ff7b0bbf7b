/-
# Text as the services see it

The string operations of the language that the code relies on.  White space is a
fixed set of code points.  Case mapping and the alphabetic, digit and word classes
are tables of the Unicode database; they are a parameter `Unicode` that carries
the few facts about them the development uses.  `Unicode.ascii` is the instance
that evaluates examples.
-/
import Mathlib.Data.List.DropRight
import Mathlib.Data.String.Basic
import Mathlib.Tactic.Common

namespace SpendLens

/-! ## White space -/

/-- `str.isspace` for one character. -/
def isSpace (c : Char) : Bool :=
  let n := c.toNat
  (9 ≤ n && n ≤ 13) || (28 ≤ n && n ≤ 32) || n = 0x85 || n = 0xa0 || n = 0x1680 ||
    (0x2000 ≤ n && n ≤ 0x200a) || n = 0x2028 || n = 0x2029 || n = 0x202f || n = 0x205f ||
    n = 0x3000

/-- `str.strip`, on characters. -/
def stripChars (cs : List Char) : List Char :=
  (cs.dropWhile isSpace).rdropWhile isSpace

/-- `str.strip`. -/
def strip (s : String) : String := String.ofList (stripChars s.toList)

@[simp] theorem toList_strip (s : String) : (strip s).toList = stripChars s.toList :=
  String.toList_ofList

theorem length_stripChars_le (cs : List Char) : (stripChars cs).length ≤ cs.length := by
  have h₁ := (List.rdropWhile_prefix isSpace (cs.dropWhile isSpace)).length_le
  have h₂ := (List.dropWhile_suffix (l := cs) isSpace).length_le
  exact h₁.trans h₂

/-- A stripped text begins with no white space. -/
theorem head_stripChars {cs : List Char} {c : Char} (h : (stripChars cs).head? = some c) :
    isSpace c = false := by
  obtain ⟨t, ht⟩ := List.rdropWhile_prefix isSpace (cs.dropWhile isSpace)
  have hhead : (cs.dropWhile isSpace).head? = some c := by
    rw [← ht, List.head?_append]
    rw [stripChars] at h
    rw [h]
    rfl
  have := List.head?_dropWhile_not isSpace cs
  rw [hhead] at this
  simpa using this

/-- A text that neither begins nor ends with white space is its own strip. -/
theorem stripChars_eq_self {cs : List Char} (hhead : ∀ c, cs.head? = some c → isSpace c = false)
    (hlast : ∀ c, cs.getLast? = some c → isSpace c = false) : stripChars cs = cs := by
  have h₁ : cs.dropWhile isSpace = cs := by
    cases cs with
    | nil => rfl
    | cons c cs => rw [List.dropWhile_cons_of_neg]; simp [hhead c rfl]
  rw [stripChars, h₁, List.rdropWhile_eq_self_iff]
  intro hne hsp
  have := hlast _ (List.getLast?_eq_some_getLast hne)
  rw [hsp] at this
  cases this

/-- Stripping again changes nothing. -/
theorem stripChars_idem (cs : List Char) : stripChars (stripChars cs) = stripChars cs := by
  apply stripChars_eq_self
  · intro c hc
    exact head_stripChars hc
  · intro c hc
    rcases List.eq_nil_or_concat (stripChars cs) with hnil | ⟨l, d, hd⟩
    · rw [hnil] at hc
      cases hc
    · have hne : (cs.dropWhile isSpace).rdropWhile isSpace ≠ [] := by
        rw [stripChars] at hd
        rw [hd]
        simp
      have hlast := List.rdropWhile_last_not isSpace _ hne
      rw [stripChars, List.getLast?_eq_some_getLast hne, Option.some.injEq] at hc
      rw [hc] at hlast
      simpa using hlast

theorem strip_idem (s : String) : strip (strip s) = strip s := by
  rw [strip, toList_strip, stripChars_idem]
  rfl

/-- Line boundaries of `str.splitlines`. -/
def isLineBreak (c : Char) : Bool :=
  let n := c.toNat
  (10 ≤ n && n ≤ 13) || (28 ≤ n && n ≤ 30) || n = 0x85 || n = 0x2028 || n = 0x2029

/-- `str.splitlines`; `line` is the current line, backwards.  A carriage return
and the line feed after it are one boundary. -/
def splitlinesFrom (line : List Char) : List Char → List (List Char)
  | [] => if line.isEmpty then [] else [line.reverse]
  | '\r' :: '\n' :: cs => line.reverse :: splitlinesFrom [] cs
  | c :: cs =>
      if isLineBreak c then line.reverse :: splitlinesFrom [] cs
      else splitlinesFrom (c :: line) cs

/-- `str.splitlines`. -/
def splitlines (s : String) : List String := (splitlinesFrom [] s.toList).map String.ofList

/-! ## Case and character classes -/

/-- What the development takes from the Unicode database. -/
structure Unicode where
  /-- The full lower-case mapping of a character. -/
  lowerChar : Char → List Char
  /-- The full upper-case mapping of a character. -/
  upperChar : Char → List Char
  /-- `str.isalpha` for one character. -/
  isAlpha : Char → Bool
  /-- `str.isdigit` for one character. -/
  isDigit : Char → Bool
  /-- The value of a decimal digit; `\d` and the numeral parsers accept these. -/
  decimal : Char → Option ℕ
  /-- `\w`. -/
  isWord : Char → Bool
  /-- The properties that decide which lower-case sigma a capital one becomes. -/
  cased : Char → Bool
  caseIgnorable : Char → Bool
  lowerChar_ascii : ∀ c, c.toNat < 128 → lowerChar c = [c.toLower]
  upperChar_ascii : ∀ c, c.toNat < 128 → upperChar c = [c.toUpper]
  upperChar_upper : ∀ c, ∀ d ∈ upperChar c, upperChar d = [d]
  isAlpha_not_space : ∀ c, isAlpha c = true → isSpace c = false
  decimal_ascii : ∀ c, c.toNat < 128 →
    decimal c = if c.isDigit then some (c.toNat - '0'.toNat) else none
  decimal_lt : ∀ c n, decimal c = some n → n < 10
  decimal_not_space : ∀ c, (decimal c).isSome = true → isSpace c = false

/-- A fact about the members of a list, checked one by one. -/
theorem forall_mem_of_all {α : Type} {P : α → Prop} [DecidablePred P] {l : List α}
    (h : l.all (fun x => decide (P x)) = true) : ∀ x ∈ l, P x := by
  intro x hx
  exact of_decide_eq_true (List.all_eq_true.1 h x hx)

namespace Unicode

/-- A fact about the characters of ASCII, checked one by one. -/
theorem forall_ascii {P : Char → Prop} (h : ∀ n : Fin 128, P (Char.ofNat n)) (c : Char)
    (hc : c.toNat < 128) : P c := by
  have := h ⟨c.toNat, hc⟩
  rwa [Char.ofNat_toNat] at this

theorem toNat_lt_of_isAlpha {c : Char} (h : c.isAlpha = true) : c.toNat < 128 := by
  have h : (decide (c.val ≥ 'A'.val ∧ c.val ≤ 'Z'.val) ||
      decide (c.val ≥ 'a'.val) && decide (c.val ≤ 'z'.val)) = true := h
  simp only [Bool.or_eq_true, Bool.and_eq_true, decide_eq_true_eq, UInt32.le_iff_toNat_le,
    ge_iff_le] at h
  have h₀ : c.toNat = c.val.toNat := rfl
  have h₁ : 'Z'.val.toNat = 90 := rfl
  have h₂ : 'z'.val.toNat = 122 := rfl
  omega

theorem toNat_lt_of_isDigit {c : Char} (h : c.isDigit = true) : c.toNat < 128 := by
  simp only [Char.isDigit, Bool.and_eq_true, decide_eq_true_eq, UInt32.le_iff_toNat_le,
    ge_iff_le] at h
  have h₀ : c.toNat = c.val.toNat := rfl
  have h₁ : '9'.val.toNat = 57 := rfl
  omega

theorem toUpper_toUpper (c : Char) : c.toUpper.toUpper = c.toUpper := by
  by_cases h : c.toNat < 128
  · exact forall_ascii (P := fun c => c.toUpper.toUpper = c.toUpper) (by decide) c h
  · have hself : c.toUpper = c := by
      refine dif_neg (fun hc => ?_)
      have h₁ : c.toNat = c.val.toNat := rfl
      have h₂ : 'z'.val.toNat = 122 := rfl
      have h₃ := hc.2
      rw [UInt32.le_iff_toNat_le] at h₃
      omega
    rw [hself, hself]

/-- The case mappings and classes of ASCII, nothing else. -/
def ascii : Unicode where
  lowerChar c := [c.toLower]
  upperChar c := [c.toUpper]
  isAlpha c := c.isAlpha
  isDigit c := c.isDigit
  decimal c := if c.isDigit then some (c.toNat - '0'.toNat) else none
  isWord c := c.isAlphanum || c = '_'
  cased c := c.isAlpha
  caseIgnorable c := c = '.' || c = '\'' || c = ':'
  lowerChar_ascii _ _ := rfl
  upperChar_ascii _ _ := rfl
  upperChar_upper c d hd := by
    rw [List.mem_singleton] at hd
    rw [hd, toUpper_toUpper]
  isAlpha_not_space c hc :=
    forall_ascii (P := fun c => c.isAlpha = true → isSpace c = false) (by decide) c
      (toNat_lt_of_isAlpha hc) hc
  decimal_ascii _ _ := rfl
  decimal_lt c n hn := by
    by_cases hc : c.isDigit = true
    · rw [if_pos hc, Option.some.injEq] at hn
      have key := forall_ascii (P := fun c => c.isDigit = true → c.toNat - '0'.toNat < 10)
        (by decide) c (toNat_lt_of_isDigit hc) hc
      omega
    · rw [if_neg hc] at hn
      cases hn
  decimal_not_space c hc := by
    by_cases hd : c.isDigit = true
    · exact forall_ascii (P := fun c => c.isDigit = true → isSpace c = false) (by decide) c
        (toNat_lt_of_isDigit hd) hd
    · rw [if_neg hd] at hc
      cases hc

variable (U : Unicode)

/-- Does a capital sigma after `before` (backwards) and in front of `after` end a word? -/
def finalSigma (before after : List Char) : Bool :=
  ((before.dropWhile U.caseIgnorable).head?.any U.cased) &&
    !((after.dropWhile U.caseIgnorable).head?.any U.cased)

/-- `str.lower`, on characters; `before` is what has been read, backwards. -/
def lowerFrom (before : List Char) : List Char → List Char
  | [] => []
  | c :: cs =>
      (if c = 'Σ' then [if U.finalSigma before cs then 'ς' else 'σ'] else U.lowerChar c) ++
        lowerFrom (c :: before) cs

/-- `str.lower`. -/
def lower (s : String) : String := String.ofList (U.lowerFrom [] s.toList)

/-- `str.upper`. -/
def upper (s : String) : String := String.ofList (s.toList.flatMap U.upperChar)

/-- `str.isalpha`: some character, and all of them letters. -/
def isAlphaStr (s : String) : Bool := !s.toList.isEmpty && s.toList.all U.isAlpha

/-- Lower-case ASCII text is its own lower case, whatever follows it. -/
theorem lowerFrom_append_of_ascii {cs : List Char}
    (h : ∀ c ∈ cs, c.toNat < 128 ∧ c.toLower = c) (before rest : List Char) :
    U.lowerFrom before (cs ++ rest) = cs ++ U.lowerFrom (cs.reverse ++ before) rest := by
  induction cs generalizing before with
  | nil => rfl
  | cons c cs ih =>
      obtain ⟨hlt, hlow⟩ := h c List.mem_cons_self
      have hsigma : c ≠ 'Σ' := by
        rintro rfl
        exact absurd hlt (by decide)
      rw [List.cons_append, lowerFrom, if_neg hsigma, U.lowerChar_ascii c hlt, hlow,
        ih (fun d hd => h d (List.mem_cons_of_mem _ hd)), List.singleton_append, List.reverse_cons,
        List.append_assoc, List.singleton_append]
      rfl

/-- Lower-case ASCII text is its own lower case. -/
theorem lower_of_ascii {s : String} (h : ∀ c ∈ s.toList, c.toNat < 128 ∧ c.toLower = c) :
    U.lower s = s := by
  have key := U.lowerFrom_append_of_ascii h [] []
  rw [List.append_nil, lowerFrom, List.append_nil] at key
  rw [lower, key, String.ofList_toList]

/-- ASCII text is lower-cased character by character. -/
theorem lowerFrom_ascii {cs : List Char} (h : ∀ c ∈ cs, c.toNat < 128) (before : List Char) :
    U.lowerFrom before cs = cs.map Char.toLower := by
  induction cs generalizing before with
  | nil => rfl
  | cons c cs ih =>
      have hlt : c.toNat < 128 := h c List.mem_cons_self
      have hsigma : c ≠ 'Σ' := by
        rintro rfl
        exact absurd hlt (by decide)
      rw [lowerFrom, if_neg hsigma, U.lowerChar_ascii c hlt,
        ih (fun d hd => h d (List.mem_cons_of_mem _ hd)), List.map_cons, List.singleton_append]

/-- Upper case is stable. -/
theorem upper_upper (s : String) : U.upper (U.upper s) = U.upper s := by
  have key : ∀ cs : List Char,
      (cs.flatMap U.upperChar).flatMap U.upperChar = cs.flatMap U.upperChar := by
    intro cs
    rw [List.flatMap_assoc]
    apply List.flatMap_congr
    intro c _
    have : ∀ ds : List Char, (∀ d ∈ ds, U.upperChar d = [d]) → ds.flatMap U.upperChar = ds := by
      intro ds hds
      rw [List.flatMap_congr hds, List.flatMap_singleton']
    exact this _ (U.upperChar_upper c)
  rw [upper, upper, String.toList_ofList, key]

/-- An alphabetic text is its own strip. -/
theorem strip_of_isAlphaStr {s : String} (h : U.isAlphaStr s = true) : strip s = s := by
  rw [isAlphaStr, Bool.and_eq_true, List.all_eq_true] at h
  rw [strip, stripChars_eq_self, String.ofList_toList]
  · intro c hc
    exact U.isAlpha_not_space c (h.2 c (List.mem_of_mem_head? hc))
  · intro c hc
    exact U.isAlpha_not_space c (h.2 c (List.mem_of_mem_getLast? hc))

end Unicode

end SpendLens
