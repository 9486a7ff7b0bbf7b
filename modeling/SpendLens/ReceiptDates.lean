/-
# The date of a receipt

The parser asks each pattern for its first match only, and reads that match with formats that know
no point behind an abbreviated month.  So a date is missed where a match that is no date comes
first, or where the month is written with its point.
-/
import SpendLens.ReceiptParser

namespace SpendLens

namespace ReceiptParser

open Regex

/-! ## The dates of a text -/

variable (U : Unicode)

/-- The matches of a date pattern, in the order of the text. -/
def dateTexts (pattern : Regex Char) (text : List Char) : List (List Char) :=
  (findAll U.isWord pattern text).map (fun m => (m.2.group? 1).getD [])

/-- A decimal digit of any script, as one of ASCII. -/
def plainDigit (c : Char) : Char :=
  match U.decimal c with
  | some n => Nat.digitChar n
  | none => c

/-- Is a word an abbreviation of a month name, of three letters or more? -/
def abbreviates (word : List Char) (name : String) : Bool :=
  3 ≤ word.length && word.length ≤ name.length &&
    (word.zip name.toList).all (fun p => sameLetter p.2 p.1)

/-- A date with its month spelled out, and without the point of the abbreviation. -/
def spelledOut (text : List Char) : List Char :=
  match monthNames.find? (abbreviates (text.takeWhile isLatin)) with
  | none => text
  | some name =>
      match text.dropWhile isLatin with
      | '.' :: rest => name.toList ++ rest
      | rest => name.toList ++ rest

/-- The calendar date a match denotes: the one that is read from it as it stands, or with its
month spelled out and its digits in ASCII. -/
def denotes (text : List Char) : Option Date :=
  (tryParseDate U text).or (tryParseDate U ((spelledOut text).map (plainDigit U)))

/-- The first match that denotes a date, of the first pattern that has one. -/
def expectedDate (text : List Char) : Option Date :=
  (datePatterns U).findSome? (fun pattern => (dateTexts U pattern text).findSome? (denotes U))

/-- **Date extraction finds a date when there is one.** -/
def FindsDate (text : List Char) : Prop := extractDate U text = expectedDate U text

/-- No match of the pattern denotes a date. -/
def NoDate (text : List Char) (pattern : Regex Char) : Prop :=
  ∀ t ∈ dateTexts U pattern text, denotes U t = none

/-- What the formats read off the first match of a pattern. -/
def firstRead (text : List Char) (pattern : Regex Char) : Option Date :=
  (dateTexts U pattern text).head?.bind (tryParseDate U)

/-- There is no date, or the first pattern with one has its first match read as it stands, or the
first match that is read, of a later pattern, happens to be the same date. -/
def FirstMatchReads (text : List Char) : Prop :=
  (∀ pattern ∈ datePatterns U, NoDate U text pattern) ∨
    ∃ earlier pattern later, datePatterns U = earlier ++ pattern :: later ∧
      (∀ q ∈ earlier, NoDate U text q) ∧
      ∃ date, (dateTexts U pattern text).findSome? (denotes U) = some date ∧
        (firstRead U text pattern ≠ none ∨ later.findSome? (firstRead U text) = some date)

variable {U}

/-! ## First matches -/

/-- Two searches through a list, of which the first finds less than the second, find the same. -/
theorem findSome?_eq_iff {α β : Type} {f g : α → Option β} (hfg : ∀ a b, f a = some b → g a = some b)
    (l : List α) :
    l.findSome? f = l.findSome? g ↔ (∀ a ∈ l, g a = none) ∨
      ∃ l₁ a l₂, l = l₁ ++ a :: l₂ ∧ (∀ x ∈ l₁, g x = none) ∧
        ∃ b, g a = some b ∧ (f a ≠ none ∨ l₂.findSome? f = some b) := by
  have hnone : ∀ a, g a = none → f a = none := by
    intro a ha
    cases hf : f a with
    | none => rfl
    | some b =>
        rw [hfg a b hf] at ha
        cases ha
  cases hg : l.findSome? g with
  | none =>
      have hall := List.findSome?_eq_none_iff.1 hg
      refine iff_of_true ?_ (Or.inl hall)
      exact List.findSome?_eq_none_iff.2 (fun a ha => hnone a (hall a ha))
  | some b =>
      obtain ⟨l₁, a, l₂, rfl, ha, hl₁⟩ := List.findSome?_eq_some_iff.1 hg
      have hskip : (l₁ ++ a :: l₂).findSome? f = (f a).or (l₂.findSome? f) := by
        rw [List.findSome?_append,
          List.findSome?_eq_none_iff.2 (fun x hx => hnone x (hl₁ x hx)), List.findSome?_cons]
        cases f a <;> rfl
      have hread : ∀ a b', g a = some b → f a = some b' → b' = b := by
        intro a b' hga hfa
        rw [hfg a b' hfa] at hga
        exact Option.some.inj hga
      constructor
      · intro h
        rw [hskip] at h
        refine Or.inr ⟨l₁, a, l₂, rfl, hl₁, b, ha, ?_⟩
        cases hf : f a with
        | none =>
            rw [hf] at h
            exact Or.inr h
        | some b' => exact Or.inl (Option.some_ne_none b')
      · rintro (hall | ⟨l₁', a', l₂', heq, hl₁', b', ha', hfirst⟩)
        · rw [hall a (by simp)] at ha
          cases ha
        · have hb : (l₁' ++ a' :: l₂').findSome? g = some b' := by
            rw [List.findSome?_append, List.findSome?_eq_none_iff.2 hl₁', Option.none_or,
              List.findSome?_cons, ha']
          rw [← heq, hg] at hb
          obtain rfl := Option.some.inj hb
          rw [heq, List.findSome?_append,
            List.findSome?_eq_none_iff.2 (fun x hx => hnone x (hl₁' x hx)), Option.none_or,
            List.findSome?_cons]
          cases hf : f a' with
          | some c => exact congrArg some (hread a' c ha' hf)
          | none => exact hfirst.resolve_left (fun h => h hf)

/-! ## The search of the parser -/

variable (U) in
theorem tryParseDate_nil : tryParseDate U [] = none := rfl

/-- The search of a pattern reads the first match. -/
theorem extractDate_eq (text : List Char) :
    extractDate U text = (datePatterns U).findSome? (firstRead U text) := by
  rw [extractDate]
  refine congrArg (fun f => (datePatterns U).findSome? f) (funext (fun pattern => ?_))
  show _ = (dateTexts U pattern text).head?.bind (tryParseDate U)
  rw [dateTexts, List.head?_map, head?_findAll]
  cases search U.isWord pattern text with
  | none => rfl
  | some m =>
      show (m.2.group? 1).bind (tryParseDate U) = tryParseDate U ((m.2.group? 1).getD [])
      cases m.2.group? 1 with
      | none => exact (tryParseDate_nil U).symm
      | some t => rfl

theorem head?_denotes {text : List Char} {pattern : Regex Char} {date : Date}
    (h : firstRead U text pattern = some date) :
    (dateTexts U pattern text).findSome? (denotes U) = some date := by
  rw [firstRead] at h
  obtain ⟨t, ht, hread⟩ := Option.bind_eq_some_iff.1 h
  obtain ⟨rest, hrest⟩ := List.head?_eq_some_iff.1 ht
  rw [hrest, List.findSome?_cons, denotes, hread]
  rfl

theorem noDate_iff {text : List Char} {pattern : Regex Char} :
    NoDate U text pattern ↔ (dateTexts U pattern text).findSome? (denotes U) = none :=
  List.findSome?_eq_none_iff.symm

/-- **When the parser finds the date of a text.**  Exactly when there is none, or when the first
pattern with a date has its first match read, or when what is read off a later pattern happens to
be the same date. -/
theorem findsDate_iff (text : List Char) : FindsDate U text ↔ FirstMatchReads U text := by
  have hiff := findSome?_eq_iff (f := firstRead U text)
    (g := fun pattern => (dateTexts U pattern text).findSome? (denotes U))
    (fun pattern date h => head?_denotes h) (datePatterns U)
  rw [← extractDate_eq text] at hiff
  rw [FindsDate, expectedDate, hiff, FirstMatchReads]
  simp only [noDate_iff]

/-- A match that is no date, before one that is; and months with a point. -/
theorem not_findsDate_samples :
    ¬ FindsDate Unicode.ascii "2026-13-01 2026-04-25".toList ∧
      ¬ FindsDate Unicode.ascii "Jan. 5, 2026".toList ∧
      ¬ FindsDate Unicode.ascii "Sept. 5, 2026".toList := by
  unfold FindsDate
  decide

end ReceiptParser

end SpendLens
