/-
# The total of a receipt

A total keyword is asked for between word boundaries, which keeps `total` out of `subtotal`, but not
out of the other two spellings of the word.  A line with one of those counts as a line with the
total, and as the subtotal is printed first its amount wins.
-/
import SpendLens.ReceiptParser

namespace SpendLens

namespace ReceiptParser

open Regex

/-! ## Keywords on a line -/

/-- Where a text stands on a line. -/
structure Occurrence where
  before : List Char
  text : List Char
  after : List Char

/-- The line of an occurrence. -/
def Occurrence.line (o : Occurrence) : List Char := o.before ++ o.text ++ o.after

variable (U : Unicode)

/-- Where a keyword stands on a line. -/
def keywordsOn (keyword : String) (line : List Char) : List Occurrence :=
  (findAll U.isWord (keywordRe keyword) line).map (fun m =>
    { before := line.take (line.length - m.1.rest.length)
      text := m.1.upto m.2
      after := m.2.rest })

/-- Does a text start with a lower-case literal, ignoring case? -/
def startsWith : List Char → List Char → Bool
  | [], _ => true
  | _ :: _, [] => false
  | a :: literal, c :: text => sameLetter a c && startsWith literal text

/-- Is an occurrence part of a word, the first `i` letters of which stand before it? -/
def Occurrence.isPartOf (o : Occurrence) (word : List Char) : Bool :=
  (List.range word.length).any (fun i =>
    i ≤ o.before.length && i + o.text.length ≤ word.length &&
      startsWith word (o.before.drop (o.before.length - i) ++ (o.text ++ o.after)))

/-- The spellings of the subtotal. -/
def subtotalWords : List (List Char) :=
  ["subtotal".toList, "sub total".toList, "sub-total".toList]

/-- Is every total keyword on a line part of the word subtotal? -/
def isSubtotal (line : List Char) : Bool :=
  totalKeywords.all (fun keyword => (keywordsOn U keyword line).all (fun o =>
    subtotalWords.any o.isPartOf))

/-- The lines that are no subtotal lines. -/
def properLines (lines : List (List Char)) : List (List Char) :=
  lines.filter (fun line => !isSubtotal U line)

/-- Has a line a keyword and an amount? -/
def HasTotal (keyword : String) (line : List Char) : Prop :=
  hasKeyword U keyword line = true ∧ amounts U line ≠ []

/-- **A subtotal never wins over a total.**  If some line that is no subtotal line has a keyword
and an amount, then the total is the right-most amount of the first such line for the keyword of
the highest priority. -/
def TotalBeatsSubtotal (lines : List (List Char)) : Prop :=
  ∀ amount, totalKeywords.findSome? (keywordAmount U (properLines U lines)) = some amount →
    extractTotal U lines = (toDecimal U amount).map some

/-- No line but a subtotal line has a keyword and an amount, or a keyword other than `total` decides,
or the first line with `total` and an amount is no subtotal line, or it has by chance the same
amount as the first line that is none. -/
def NoSubtotalFirst (lines : List (List Char)) : Prop :=
  (∀ line ∈ properLines U lines, ∀ keyword ∈ totalKeywords, ¬ HasTotal U keyword line) ∨
    (∃ line ∈ lines, ∃ keyword ∈ totalKeywords, keyword ≠ "total" ∧ HasTotal U keyword line) ∨
    ∃ earlier line later amount, lines = earlier ++ line :: later ∧
      (∀ l ∈ earlier, ¬ HasTotal U "total" l) ∧ hasKeyword U "total" line = true ∧
      (amounts U line).getLast? = some amount ∧
      (isSubtotal U line = false ∨ ∃ amount',
        keywordAmount U (properLines U later) "total" = some amount' ∧
          toDecimal U amount' = toDecimal U amount)

variable {U}

/-! ## Letters, ignoring case -/

/-- A literal is spelled by the texts that are equal to it, ignoring case. -/
theorem spells_letters {cs w : List Char}
    (h : Spells (Regex.all (cs.map (fun c => .one (sameLetter c)))) w) :
    w.length = cs.length ∧ startsWith cs w = true := by
  induction cs generalizing w with
  | nil =>
      obtain rfl : w = [] := h
      exact ⟨rfl, rfl⟩
  | cons c cs ih =>
      rw [List.map_cons, spells_all_cons] at h
      obtain ⟨u, v, rfl, ⟨d, hd, rfl⟩, hv⟩ := h
      obtain ⟨hlen, hstart⟩ := ih hv
      refine ⟨?_, ?_⟩
      · rw [List.singleton_append, List.length_cons, List.length_cons, hlen]
      · rw [List.singleton_append, startsWith, hd, hstart]
        rfl

/-- A keyword is spelled by its occurrences. -/
theorem keyword_of_mem {keyword : String} {line : List Char} {o : Occurrence}
    (h : o ∈ keywordsOn U keyword line) :
    o.text.length = keyword.toList.length ∧ startsWith keyword.toList o.text = true := by
  obtain ⟨m, hm, rfl⟩ := List.mem_map.1 h
  obtain ⟨-, -, hresult⟩ := findAll_sound hm
  obtain ⟨w, hw, hspell⟩ := spells_of_mem_results hresult
  rw [keywordRe, spells_all_cons] at hspell
  obtain ⟨u, v, rfl, hu, hv⟩ := hspell
  obtain rfl : u = [] := hu
  obtain ⟨u, v', rfl, hu, hv'⟩ := spells_all_cons.1 hv
  obtain rfl : v' = [] := hv'
  rw [List.nil_append, List.append_nil] at hw
  have htext : m.1.upto m.2 = u := hw.upto
  simp only [htext]
  exact spells_letters hu

/-- A keyword that is found stands somewhere. -/
theorem keywordsOn_ne_nil {keyword : String} {line : List Char}
    (h : hasKeyword U keyword line = true) : keywordsOn U keyword line ≠ [] := by
  rw [hasKeyword, ← head?_findAll, List.isSome_head?] at h
  intro hnil
  rw [keywordsOn, List.map_eq_nil_iff] at hnil
  rw [hnil] at h
  exact h rfl

/-! ## Keywords other than `total` -/

/-- The keywords that are no part of the word subtotal. -/
def longerKeywords : List String := ["grand total", "amount due", "total due", "balance due"]

theorem totalKeywords_eq : totalKeywords = longerKeywords ++ ["total"] := rfl

/-- What passes for the first letter of a longer keyword passes for no `s`. -/
theorem sameLetter_s {a c : Char} (ha : a ∈ ['g', 'a', 't', 'b']) (h : sameLetter a c = true) :
    sameLetter 's' c = false := by
  have hother : a ≠ 's' ∧ a ≠ 'k' ∧ a ≠ 'i' := by
    have key : ∀ a ∈ ['g', 'a', 't', 'b'], a ≠ 's' ∧ a ≠ 'k' ∧ a ≠ 'i' :=
      forall_mem_of_all (by decide)
    exact key a ha
  have hlower : c.toLower = a := by
    simpa [sameLetter, hother.1, hother.2.1, hother.2.2] using h
  have hlong : c ≠ 'ſ' := by
    rintro rfl
    rw [← hlower] at ha
    exact absurd ha (by decide)
  have hs : c.toLower ≠ 's' := by
    rw [hlower]
    exact hother.1
  simp [sameLetter, hs, hlong]

/-- The first letter and the length of a longer keyword. -/
theorem longerKeyword_shape {keyword : String} (h : keyword ∈ longerKeywords) :
    9 ≤ keyword.toList.length ∧ ∃ a cs, a ∈ ['g', 'a', 't', 'b'] ∧ keyword.toList = a :: cs := by
  have hcases : keyword = "grand total" ∨ keyword = "amount due" ∨ keyword = "total due" ∨
      keyword = "balance due" := by
    simpa [longerKeywords] using h
  rcases hcases with rfl | rfl | rfl | rfl
  · exact ⟨by decide, 'g', "rand total".toList, by decide, rfl⟩
  · exact ⟨by decide, 'a', "mount due".toList, by decide, rfl⟩
  · exact ⟨by decide, 't', "otal due".toList, by decide, rfl⟩
  · exact ⟨by decide, 'b', "alance due".toList, by decide, rfl⟩

/-- The first letter and the length of a spelling of the subtotal. -/
theorem subtotalWord_shape {word : List Char} (h : word ∈ subtotalWords) :
    word.length ≤ 9 ∧ ∃ cs, word = 's' :: cs := by
  have hcases : word = "subtotal".toList ∨ word = "sub total".toList ∨
      word = "sub-total".toList := by
    simpa [subtotalWords] using h
  rcases hcases with rfl | rfl | rfl
  · exact ⟨by decide, "ubtotal".toList, rfl⟩
  · exact ⟨by decide, "ub total".toList, rfl⟩
  · exact ⟨by decide, "ub-total".toList, rfl⟩

/-- A longer keyword is no part of the word subtotal: it is as long, and starts otherwise. -/
theorem not_isPartOf {keyword : String} (hk : keyword ∈ longerKeywords) {line : List Char}
    {o : Occurrence} (ho : o ∈ keywordsOn U keyword line) :
    subtotalWords.any o.isPartOf = false := by
  obtain ⟨hlen, hstart⟩ := keyword_of_mem ho
  obtain ⟨hlong, a, cs, ha, hkeyword⟩ := longerKeyword_shape hk
  rw [List.any_eq_false]
  intro word hword hpart
  obtain ⟨hshort, ds, rfl⟩ := subtotalWord_shape hword
  obtain ⟨i, -, hi⟩ := List.any_eq_true.1 hpart
  simp only [Bool.and_eq_true, decide_eq_true_eq] at hi
  obtain ⟨⟨-, hfit⟩, hspelled⟩ := hi
  obtain rfl : i = 0 := by omega
  rw [Nat.sub_zero, List.drop_length, List.nil_append] at hspelled
  cases htext : o.text with
  | nil =>
      rw [htext] at hlen
      rw [← hlen] at hlong
      exact absurd hlong (by decide)
  | cons c text =>
      rw [htext, hkeyword, startsWith, Bool.and_eq_true] at hstart
      rw [htext, List.cons_append, startsWith, Bool.and_eq_true,
        sameLetter_s ha hstart.1] at hspelled
      cases hspelled.1

/-- A line with a longer keyword is no subtotal line. -/
theorem not_isSubtotal {keyword : String} (hk : keyword ∈ longerKeywords) {line : List Char}
    (h : hasKeyword U keyword line = true) : isSubtotal U line = false := by
  obtain ⟨o, ho⟩ := List.exists_mem_of_ne_nil _ (keywordsOn_ne_nil h)
  rw [isSubtotal, List.all_eq_false]
  refine ⟨keyword, ?_, ?_⟩
  · rw [totalKeywords_eq]
    exact List.mem_append_left _ hk
  · rw [Bool.not_eq_true, List.all_eq_false]
    exact ⟨o, ho, by rw [not_isPartOf hk ho]; decide⟩

/-! ## The deciding line -/

/-- The amount of a line for a keyword. -/
def lineAmount (U : Unicode) (keyword : String) (line : List Char) : Option (List Char) :=
  if hasKeyword U keyword line then (amounts U line).getLast? else none

theorem lineAmount_eq_none_iff {keyword : String} {line : List Char} :
    lineAmount U keyword line = none ↔ ¬ HasTotal U keyword line := by
  rw [lineAmount, HasTotal]
  by_cases h : hasKeyword U keyword line = true
  · rw [if_pos h, List.getLast?_eq_none_iff, not_and, not_not]
    exact ⟨fun hnil _ => hnil, fun hnil => hnil h⟩
  · rw [if_neg h]
    exact iff_of_true rfl (fun hboth => h hboth.1)

theorem keywordAmount_eq {keyword : String} {lines : List (List Char)} :
    keywordAmount U lines keyword = lines.findSome? (lineAmount U keyword) := rfl

/-- The amounts of the lines that are no subtotal lines. -/
theorem keywordAmount_proper {keyword : String} {lines : List (List Char)} :
    keywordAmount U (properLines U lines) keyword =
      lines.findSome? (fun line => if isSubtotal U line then none else lineAmount U keyword line) := by
  rw [keywordAmount_eq, properLines]
  induction lines with
  | nil => rfl
  | cons line lines ih =>
      cases h : isSubtotal U line with
      | true =>
          rw [List.filter_cons_of_neg (by rw [h]; decide), ih, List.findSome?_cons, if_pos h]
      | false =>
          rw [List.filter_cons_of_pos (by rw [h]; rfl), List.findSome?_cons, List.findSome?_cons,
            if_neg (by rw [h]; decide), ih]

/-- For a longer keyword the subtotal lines make no difference. -/
theorem keywordAmount_longer {keyword : String} (hk : keyword ∈ longerKeywords)
    (lines : List (List Char)) :
    keywordAmount U (properLines U lines) keyword = keywordAmount U lines keyword := by
  rw [keywordAmount_proper, keywordAmount_eq]
  refine congrArg (fun f => lines.findSome? f) (funext (fun line => ?_))
  cases h : isSubtotal U line with
  | false => rfl
  | true =>
      symm
      rw [if_pos rfl, lineAmount, if_neg]
      intro hkeyword
      rw [not_isSubtotal hk hkeyword] at h
      cases h

/-- The keyword path: a longer keyword decides, or else `total` does. -/
theorem keywordPath_eq (lines : List (List Char)) :
    totalKeywords.findSome? (keywordAmount U lines) =
      (longerKeywords.findSome? (keywordAmount U lines)).or (keywordAmount U lines "total") := by
  rw [totalKeywords_eq, List.findSome?_append, List.findSome?_cons, List.findSome?_nil]
  cases keywordAmount U lines "total" <;> rfl

theorem longer_proper (lines : List (List Char)) :
    longerKeywords.findSome? (keywordAmount U (properLines U lines)) =
      longerKeywords.findSome? (keywordAmount U lines) := by
  have key : ∀ keywords : List String, (∀ k ∈ keywords, k ∈ longerKeywords) →
      keywords.findSome? (keywordAmount U (properLines U lines)) =
        keywords.findSome? (keywordAmount U lines) := by
    intro keywords
    induction keywords with
    | nil => exact fun _ => rfl
    | cons k keywords ih =>
        intro h
        rw [List.findSome?_cons, List.findSome?_cons,
          keywordAmount_longer (h k List.mem_cons_self),
          ih (fun l hl => h l (List.mem_cons_of_mem _ hl))]
  exact key longerKeywords (fun k hk => hk)

/-- No keyword of a list decides exactly when no line has one and an amount. -/
theorem keywords_eq_none_iff {keywords : List String} {lines : List (List Char)} :
    keywords.findSome? (keywordAmount U lines) = none ↔
      ∀ line ∈ lines, ∀ keyword ∈ keywords, ¬ HasTotal U keyword line := by
  rw [List.findSome?_eq_none_iff]
  constructor
  · intro h line hline keyword hk
    exact lineAmount_eq_none_iff.1 (List.findSome?_eq_none_iff.1 (h keyword hk) line hline)
  · intro h keyword hk
    exact List.findSome?_eq_none_iff.2 (fun line hline =>
      lineAmount_eq_none_iff.2 (h line hline keyword hk))

/-- What the parser returns where a keyword decides. -/
theorem extractTotal_of_keyword {lines : List (List Char)} {amount : List Char}
    (h : totalKeywords.findSome? (keywordAmount U lines) = some amount) :
    extractTotal U lines = (toDecimal U amount).map some := by
  rw [extractTotal, h]

theorem map_some_injective {x y : Except PyExc Decimal} (h : x.map some = y.map some) : x = y := by
  cases x <;> cases y <;> simp_all [Except.map]

/-! ## The first line with `total` -/

section split

variable {earlier later : List (List Char)} {line amount : List Char}

theorem keywordAmount_split (hearlier : ∀ l ∈ earlier, ¬ HasTotal U "total" l)
    (hline : lineAmount U "total" line = some amount) :
    keywordAmount U (earlier ++ line :: later) "total" = some amount := by
  have hskip : earlier.findSome? (lineAmount U "total") = none :=
    List.findSome?_eq_none_iff.2 (fun l hl => lineAmount_eq_none_iff.2 (hearlier l hl))
  rw [keywordAmount_eq, List.findSome?_append, hskip, Option.none_or, List.findSome?_cons, hline]

theorem keywordAmount_proper_split (hearlier : ∀ l ∈ earlier, ¬ HasTotal U "total" l)
    (hline : lineAmount U "total" line = some amount) :
    keywordAmount U (properLines U (earlier ++ line :: later)) "total" =
      if isSubtotal U line then keywordAmount U (properLines U later) "total" else some amount := by
  have hskip : earlier.findSome? (fun l => if isSubtotal U l then none else
      lineAmount U "total" l) = none := by
    refine List.findSome?_eq_none_iff.2 (fun l hl => ?_)
    rw [lineAmount_eq_none_iff.2 (hearlier l hl), ite_self]
  rw [keywordAmount_proper, keywordAmount_proper, List.findSome?_append, hskip, Option.none_or,
    List.findSome?_cons]
  cases isSubtotal U line with
  | true => rfl
  | false =>
      rw [if_neg (by decide), hline]
      rfl

end split

theorem lineAmount_eq_some_iff {keyword : String} {line amount : List Char} :
    lineAmount U keyword line = some amount ↔
      hasKeyword U keyword line = true ∧ (amounts U line).getLast? = some amount := by
  rw [lineAmount]
  by_cases h : hasKeyword U keyword line = true
  · rw [if_pos h]
    exact ⟨fun hlast => ⟨h, hlast⟩, fun hboth => hboth.2⟩
  · rw [if_neg h]
    exact iff_of_false nofun (fun hboth => h hboth.1)

/-- Where only `total` can decide, the two amounts have one value exactly when the first line with
an amount is no subtotal line, or the first proper line after it has the same amount. -/
theorem sameTotal_iff {lines : List (List Char)} {amount proper : List Char}
    (h : keywordAmount U lines "total" = some amount)
    (hproper : keywordAmount U (properLines U lines) "total" = some proper) :
    toDecimal U amount = toDecimal U proper ↔
      ∃ earlier line later amount, lines = earlier ++ line :: later ∧
        (∀ l ∈ earlier, ¬ HasTotal U "total" l) ∧ hasKeyword U "total" line = true ∧
        (amounts U line).getLast? = some amount ∧
        (isSubtotal U line = false ∨ ∃ amount',
          keywordAmount U (properLines U later) "total" = some amount' ∧
            toDecimal U amount' = toDecimal U amount) := by
  constructor
  · intro hsame
    obtain ⟨earlier, line, later, rfl, hline, hearlier⟩ := List.findSome?_eq_some_iff.1 h
    have hearlier : ∀ l ∈ earlier, ¬ HasTotal U "total" l := fun l hl =>
      lineAmount_eq_none_iff.1 (hearlier l hl)
    have hline : lineAmount U "total" line = some amount := hline
    obtain ⟨hkeyword, hlast⟩ := lineAmount_eq_some_iff.1 hline
    refine ⟨earlier, line, later, amount, rfl, hearlier, hkeyword, hlast, ?_⟩
    rw [keywordAmount_proper_split hearlier hline] at hproper
    cases hsub : isSubtotal U line with
    | false => exact Or.inl rfl
    | true =>
        rw [hsub, if_pos rfl] at hproper
        exact Or.inr ⟨proper, hproper, hsame.symm⟩
  · rintro ⟨earlier, line, later, amount', rfl, hearlier, hkeyword, hlast, hwhich⟩
    have hline := lineAmount_eq_some_iff.2 ⟨hkeyword, hlast⟩
    rw [keywordAmount_split hearlier hline] at h
    obtain rfl := Option.some.inj h
    rw [keywordAmount_proper_split hearlier hline] at hproper
    cases hsub : isSubtotal U line with
    | false =>
        rw [hsub, if_neg (by decide)] at hproper
        rw [Option.some.inj hproper]
    | true =>
        rw [hsub, if_pos rfl] at hproper
        rcases hwhich with hnot | ⟨amount'', hlater, hsame⟩
        · rw [hsub] at hnot
          cases hnot
        · rw [hproper] at hlater
          rw [Option.some.inj hlater, hsame]

/-! ## When the total wins -/

theorem mem_longerKeywords_iff {keyword : String} :
    keyword ∈ longerKeywords ↔ keyword ∈ totalKeywords ∧ keyword ≠ "total" := by
  rw [totalKeywords_eq, List.mem_append, List.mem_singleton]
  constructor
  · intro h
    refine ⟨Or.inl h, ?_⟩
    rintro rfl
    exact absurd h (by decide)
  · rintro ⟨h, hne⟩
    exact h.resolve_right hne

/-- **When no subtotal wins over the total.**  Exactly when a longer keyword decides, when the first
line with `total` and an amount is no subtotal line, or when the amounts are the same by chance. -/
theorem totalBeatsSubtotal_iff (lines : List (List Char)) :
    TotalBeatsSubtotal U lines ↔ NoSubtotalFirst U lines := by
  have hlonger : (∃ line ∈ lines, ∃ keyword ∈ totalKeywords, keyword ≠ "total" ∧
      HasTotal U keyword line) ↔ longerKeywords.findSome? (keywordAmount U lines) ≠ none := by
    rw [ne_eq, keywords_eq_none_iff]
    simp only [not_forall, not_not, exists_prop, mem_longerKeywords_iff, and_assoc]
  rw [TotalBeatsSubtotal, NoSubtotalFirst, ← keywords_eq_none_iff, hlonger]
  cases hl : longerKeywords.findSome? (keywordAmount U lines) with
  | some a =>
      refine iff_of_true ?_ (Or.inr (Or.inl (Option.some_ne_none a)))
      intro amount hamount
      rw [keywordPath_eq, longer_proper, hl] at hamount
      have hsame : totalKeywords.findSome? (keywordAmount U lines) = some amount := by
        rw [keywordPath_eq, hl]
        exact hamount
      exact extractTotal_of_keyword hsame
  | none =>
      have hpath : totalKeywords.findSome? (keywordAmount U lines) =
          keywordAmount U lines "total" := by
        rw [keywordPath_eq, hl, Option.none_or]
      have hproper : totalKeywords.findSome? (keywordAmount U (properLines U lines)) =
          keywordAmount U (properLines U lines) "total" := by
        rw [keywordPath_eq, longer_proper, hl, Option.none_or]
      rw [hproper]
      cases hp : keywordAmount U (properLines U lines) "total" with
      | none => exact iff_of_true nofun (Or.inl rfl)
      | some proper =>
          obtain ⟨amount, hamount⟩ : ∃ amount, keywordAmount U lines "total" = some amount := by
            rw [← Option.ne_none_iff_exists']
            intro hnone
            have hall := List.findSome?_eq_none_iff.1 hnone
            have hfiltered : keywordAmount U (properLines U lines) "total" = none :=
              List.findSome?_eq_none_iff.2 (fun l hl => hall l (List.mem_of_mem_filter hl))
            rw [hfiltered] at hp
            cases hp
          have hvalue : (∀ amount', some proper = some amount' →
              extractTotal U lines = (toDecimal U amount').map some) ↔
              toDecimal U amount = toDecimal U proper := by
            rw [extractTotal_of_keyword (hpath.trans hamount)]
            constructor
            · intro h
              exact map_some_injective (h proper rfl)
            · rintro h amount' ⟨⟩
              rw [h]
          rw [hvalue, sameTotal_iff hamount hp]
          simp only [reduceCtorEq, ne_eq, not_true_eq_false, false_or]

/-- `total` is found in two spellings of the subtotal, which is printed first. -/
theorem not_totalBeatsSubtotal_samples :
    ¬ TotalBeatsSubtotal Unicode.ascii ["Sub total 10.00".toList, "Total 12.00".toList] ∧
      ¬ TotalBeatsSubtotal Unicode.ascii ["SUB-TOTAL $10.00".toList, "TOTAL $12.00".toList] := by
  refine ⟨fun h => ?_, fun h => ?_⟩
  · exact absurd (h "12.00".toList (by decide)) (by decide)
  · exact absurd (h "12.00".toList (by decide)) (by decide)

end ReceiptParser

end SpendLens
