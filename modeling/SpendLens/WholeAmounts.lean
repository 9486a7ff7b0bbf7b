/-
# Whole amounts

The expression for amounts has no boundary on its left and a word boundary on its right, which a
point passes for.  So what it finds may be the end of a longer number, or a piece of a date.  An
amount is whole when it is neither; the total is one exactly when the amount the parser settles on
is, or when the text has a whole one of the same value.
-/
import SpendLens.DecimalText
import SpendLens.Lib.Fallible
import SpendLens.ReceiptTotals

namespace SpendLens

namespace ReceiptParser

open Regex

/-! ## Amounts on a line -/

variable (U : Unicode)

/-- Where an amount stands on a line. -/
def amountsOn (line : List Char) : List Occurrence :=
  (findAll U.isWord (amountRe U) line).map (fun m =>
    let text := (m.2.group? 1).getD []
    { before := line.take (line.length - (text.length + m.2.rest.length))
      text := text
      after := m.2.rest })

/-- `\d` -/
def isDigitChar (c : Char) : Bool := (U.decimal c).isSome

/-- Does a text end in a digit, or in a digit and a comma or point? -/
def endsInNumeral (text : List Char) : Bool :=
  match text.reverse with
  | [] => false
  | c :: cs => isDigitChar U c || ((c = ',' || c = '.') && cs.head?.any (isDigitChar U))

/-- Does a text start with a point and a digit? -/
def startsWithDecimals : List Char → Bool
  | '.' :: c :: _ => isDigitChar U c
  | _ => false

/-- Does a numeral stand on its own, not inside a longer one? -/
def Occurrence.isWhole (o : Occurrence) : Bool :=
  !endsInNumeral U o.before && !startsWithDecimals U o.after

/-- Is an occurrence one of an amount: digits in groups, a point, two digits and a boundary? -/
def Occurrence.IsAmount (o : Occurrence) : Prop :=
  Spells (amountDigits U) o.text ∧
    (⟨o.text.getLast?, o.after, []⟩ : Place Char).isBoundary U.isWord = true

/-- Some line has a whole amount of a value. -/
def HasWhole (lines : List (List Char)) (value : Except PyExc Decimal) : Prop :=
  ∃ o : Occurrence, o.line ∈ lines ∧ o.IsAmount U ∧ o.isWhole U = true ∧
    toDecimal U o.text = value

/-- **An extracted total is a whole number on the receipt.** -/
def TotalIsWhole (text : String) : Prop :=
  ∀ receipt v, parseReceiptText U text = .ok receipt → receipt.total = some v →
    HasWhole U (receiptLines text) (.ok v)

/-! ## The amount the parser settles on -/

/-- The right-most amount of the first line with a keyword and an amount. -/
def keywordOccurrence (lines : List (List Char)) (keyword : String) : Option Occurrence :=
  lines.findSome? (fun line => if hasKeyword U keyword line then (amountsOn U line).getLast? else none)

/-- Is an amount one of the largest of some? -/
def IsLargest (os : List Occurrence) (o : Occurrence) : Prop :=
  o ∈ os ∧ ∀ o' ∈ os, ∃ d' d, toDecimal U o'.text = .ok d' ∧ toDecimal U o.text = .ok d ∧
    d'.le d = true

/-- An amount that can be read decides: the right-most one of the first line for the keyword of the
highest priority, or without one a largest one of the receipt. -/
def Decides (lines : List (List Char)) (o : Occurrence) : Prop :=
  (∃ d, toDecimal U o.text = .ok d) ∧
    match totalKeywords.findSome? (keywordOccurrence U lines) with
    | some o' => o = o'
    | none => IsLargest U (lines.flatMap (amountsOn U)) o

/-- The amount that decides is whole, or there is by chance a whole one of the same value. -/
def DecidesWhole (text : String) : Prop :=
  ∀ o, Decides U (receiptLines text) o →
    o.isWhole U = true ∨ HasWhole U (receiptLines text) (toDecimal U o.text)

variable {U}

/-! ## What an amount looks like -/

/-- Punctuation is only matched by itself. -/
theorem eq_of_sameLetter {a c : Char} (ha : a ∈ [',', '.']) (h : sameLetter a c = true) : c = a := by
  have hother : ∀ a ∈ [',', '.'], a ≠ 's' ∧ a ≠ 'k' ∧ a ≠ 'i' := forall_mem_of_all (by decide)
  obtain ⟨hs, hk, hi⟩ := hother a ha
  have hlower : c.toLower = a := by
    simpa [sameLetter, hs, hk, hi] using h
  by_cases hc : c.toNat < 128
  · have hpunctuation : c.toLower = ',' ∨ c.toLower = '.' := by
      rw [hlower]
      simpa using ha
    have key := Unicode.forall_ascii
      (P := fun c => c.toLower = ',' ∨ c.toLower = '.' → c = c.toLower) (by decide) c hc
    rw [key hpunctuation, hlower]
  · have hself : c.toLower = c := by
      refine dif_neg (fun hupper => ?_)
      have h₁ : c.toNat = c.val.toNat := rfl
      have h₂ : 'Z'.val.toNat = 90 := rfl
      have h₃ := hupper.2
      rw [UInt32.le_iff_toNat_le] at h₃
      omega
    rw [← hlower, hself]

/-- The parts of an amount: digits, groups of digits behind commas, a point and two digits. -/
theorem amountDigits_parts {w : List Char} (h : Spells (amountDigits U) w) :
    ∃ first groups decimals, w = first ++ (groups ++ '.' :: decimals) ∧ first ≠ [] ∧
      (∀ c ∈ first, isDigitChar U c = true) ∧
      (∀ c ∈ groups, isDigitChar U c = true ∨ c = ',') ∧
      decimals.length = 2 ∧ ∀ c ∈ decimals, isDigitChar U c = true := by
  rw [amountDigits, spells_all_cons] at h
  obtain ⟨first, w₁, rfl, ⟨u, v, rfl, hu, hv⟩, h₁⟩ := h
  obtain ⟨groups, w₂, rfl, ⟨ws, rfl, hws⟩, h₂⟩ := spells_all_cons.1 h₁
  obtain ⟨point, w, rfl, ⟨c, hc, rfl⟩, h⟩ := spells_all_cons.1 h₂
  obtain ⟨hulen, hudigit⟩ := spells_times_one.1 hu
  obtain ⟨-, hvdigit⟩ := spells_upTo_one.1 hv
  obtain ⟨hdlen, hddigit⟩ := spells_times_one.1 h
  obtain rfl := eq_of_sameLetter (by decide) hc
  refine ⟨u ++ v, ws.flatten, w, rfl, ?_, ?_, ?_, hdlen, hddigit⟩
  · rintro hnil
    rw [(List.append_eq_nil_iff.1 hnil).1] at hulen
    cases hulen
  · intro d hd
    exact (List.mem_append.1 hd).elim (hudigit d) (hvdigit d)
  · intro d hd
    obtain ⟨g, hg, hdg⟩ := List.mem_flatten.1 hd
    have hgroup := hws g hg
    rw [spells_all_cons] at hgroup
    obtain ⟨comma, ds, rfl, ⟨e, he, rfl⟩, hds⟩ := hgroup
    rcases List.mem_append.1 hdg with hcomma | hdigit
    · rw [List.mem_singleton.1 hcomma]
      exact Or.inr (eq_of_sameLetter (by decide) he)
    · exact Or.inl ((spells_times_one.1 hds).2 d hdigit)

/-- A match is an amount of its line. -/
theorem amountsOn_sound {line : List Char} {o : Occurrence} (h : o ∈ amountsOn U line) :
    o.line = line ∧ o.IsAmount U := by
  obtain ⟨⟨c, d⟩, hm, rfl⟩ := List.mem_map.1 h
  obtain ⟨⟨pre, hpre⟩, -, hresult⟩ := findAll_sound hm
  rw [amountRe, mem_results_all_cons] at hresult
  obtain ⟨e₁, h₁, hresult⟩ := hresult
  obtain ⟨e₂, h₂, hresult⟩ := mem_results_all_cons.1 hresult
  obtain ⟨e₃, h₃, hresult⟩ := mem_results_all_cons.1 hresult
  obtain ⟨e, he, rfl⟩ := mem_results_group.1 h₃
  obtain ⟨hboundary, rfl⟩ := mem_results_boundary.1 hresult
  obtain ⟨u, hu, -⟩ := spells_of_mem_results h₁
  obtain ⟨v, hv, -⟩ := spells_of_mem_results h₂
  obtain ⟨w, hw, hspell⟩ := spells_of_mem_results he
  have htext : e₂.upto e = w := hw.upto
  have hline : line = (pre ++ (u ++ v)) ++ (w ++ e.rest) := by
    rw [hpre.text, hu.rest, hv.rest, hw.rest]
    simp only [List.append_assoc]
  have hlast : w.getLast?.or e₂.before = w.getLast? := by
    obtain ⟨first, groups, decimals, rfl, -⟩ := amountDigits_parts hspell
    rw [List.getLast?_append, List.getLast?_append, List.getLast?_cons]
    rfl
  simp only [Place.group?, List.lookup_cons_self, Option.getD_some, htext]
  refine ⟨?_, hspell, ?_⟩
  · have hlength : line.length - (w.length + e.rest.length) = (pre ++ (u ++ v)).length := by
      rw [hline]
      simp only [List.length_append]
      omega
    have hbefore : line.take (line.length - (w.length + e.rest.length)) = pre ++ (u ++ v) := by
      rw [hlength, hline]
      exact List.take_left' rfl
    rw [Occurrence.line, hbefore, hline, List.append_assoc]
  · rw [Place.isBoundary] at hboundary ⊢
    rw [← hlast, ← hw.before]
    exact hboundary

/-! ## The value of an amount -/

/-- A numeral with digits, a point and two digits is a number of cents. -/
theorem parseFinite_cents {ns ms : List ℕ} (hns : ∀ n ∈ ns, n < 10) (hms : ∀ n ∈ ms, n < 10)
    (hlen : ms.length = 2) {d : Decimal}
    (h : Decimal.parseFinite false (ns.map Date.digitChar ++ '.' :: ms.map Date.digitChar) =
      some d) :
    ∃ n, d = .fin false n (-2) := by
  have hwhole := Decimal.spanDigits_map hns ('.' :: ms.map Date.digitChar) (by rintro c ⟨⟩; decide)
  have hcents := Decimal.spanDigits_map hms [] nofun
  rw [List.append_nil] at hcents
  simp only [Decimal.parseFinite, hwhole, hcents, Decimal.parseExp, hlen, Option.bind_some] at h
  split at h
  · cases h
  · split at h
    · exact ⟨_, (Option.some.inj h).symm⟩
    · cases h

/-- The numbers of decimal digits of any script. -/
def digitsOf (U : Unicode) (cs : List Char) : List ℕ := cs.map (fun c => (U.decimal c).getD 0)

theorem digitsOf_lt {cs : List Char} (h : ∀ c ∈ cs, isDigitChar U c = true) :
    ∀ n ∈ digitsOf U cs, n < 10 := by
  intro n hn
  obtain ⟨c, hc, rfl⟩ := List.mem_map.1 hn
  obtain ⟨v, hv⟩ := Option.isSome_iff_exists.1 (h c hc)
  rw [hv]
  exact U.decimal_lt c v hv

theorem length_digitsOf (cs : List Char) : (digitsOf U cs).length = cs.length := List.length_map _

/-- Decimal digits of any script, written in ASCII. -/
theorem map_digits {f : Char → Char} (hf : ∀ c v, U.decimal c = some v → f c = Date.digitChar v)
    {cs : List Char} (h : ∀ c ∈ cs, isDigitChar U c = true) :
    cs.map f = (digitsOf U cs).map Date.digitChar := by
  rw [digitsOf, List.map_map]
  refine List.map_congr_left (fun c hc => ?_)
  obtain ⟨v, hv⟩ := Option.isSome_iff_exists.1 (h c hc)
  rw [hf c v hv, Function.comp_apply, hv, Option.getD_some]

theorem isDigitChar_ascii {c : Char} (hc : c.toNat < 128) (hdigit : c.isDigit = false) :
    isDigitChar U c = false := by
  rw [isDigitChar, U.decimal_ascii c hc, if_neg (by rw [hdigit]; decide)]
  rfl

/-- What `Decimal` makes of digits, a point and two digits. -/
theorem parse_cents {ds decimals : List Char} (hne : ds ≠ [])
    (hds : ∀ c ∈ ds, isDigitChar U c = true) (hlen : decimals.length = 2)
    (hdecimals : ∀ c ∈ decimals, isDigitChar U c = true) {d : Decimal}
    (h : Decimal.parse? U (String.ofList (ds ++ '.' :: decimals)) = some d) :
    ∃ n, d = .fin false n (-2) := by
  have hchars : ∀ c ∈ ds ++ '.' :: decimals, isSpace c = false ∧ c ≠ '_' := by
    intro c hc
    have hcases : isDigitChar U c = true ∨ c = '.' := by
      rcases List.mem_append.1 hc with hc | hc
      · exact Or.inl (hds c hc)
      · rcases List.mem_cons.1 hc with rfl | hc
        · exact Or.inr rfl
        · exact Or.inl (hdecimals c hc)
    rcases hcases with hdigit | rfl
    · refine ⟨U.decimal_not_space c hdigit, ?_⟩
      rintro rfl
      rw [isDigitChar_ascii (by decide) (by decide)] at hdigit
      cases hdigit
    · exact ⟨by decide, by decide⟩
  have hstrip : stripChars (ds ++ '.' :: decimals) = ds ++ '.' :: decimals :=
    trim_eq_self (fun c hc => (hchars c hc).1)
  have hkeep : (ds ++ '.' :: decimals).filter (fun c => c ≠ '_') = ds ++ '.' :: decimals :=
    List.filter_eq_self.2 (fun c hc => decide_eq_true (hchars c hc).2)
  have hpoint : U.decimal '.' = none := by
    rw [U.decimal_ascii '.' (by decide), if_neg (by decide)]
  have hns := digitsOf_lt hds
  have hms := digitsOf_lt hdecimals
  rw [Decimal.parse?, String.toList_ofList, hstrip, hkeep, List.map_append, List.map_cons,
    map_digits (fun c v hv => by rw [hv]) hds, map_digits (fun c v hv => by rw [hv]) hdecimals,
    hpoint] at h
  cases hdigits : digitsOf U ds with
  | nil =>
      rw [digitsOf, List.map_eq_nil_iff] at hdigits
      exact absurd hdigits hne
  | cons n ns =>
      rw [hdigits] at h hns
      have hn := hns n List.mem_cons_self
      obtain ⟨-, -, hletters⟩ := Decimal.digitChar_head hn
      rw [List.map_cons, List.cons_append] at h
      simp only [Decimal.takeSign_digit hn, Decimal.parseNan_digit hn] at h
      split at h
      · rename_i hinf
        have hi : (Date.digitChar n).toLower ≠ 'i' := fun heq => hletters (by rw [heq]; decide)
        rcases hinf with hinf | hinf
        · exact absurd (List.cons.inj hinf).1 hi
        · exact absurd (List.cons.inj hinf).1 hi
      · exact parseFinite_cents hns hms ((length_digitsOf decimals).trans hlen) h

/-- **The value of an amount is a number of cents.** -/
theorem toDecimal_cents {w : List Char} (h : Spells (amountDigits U) w) {d : Decimal}
    (hd : toDecimal U w = .ok d) : ∃ n, d = .fin false n (-2) := by
  obtain ⟨first, groups, decimals, rfl, hne, hfirst, hgroups, hlen, hdecimals⟩ :=
    amountDigits_parts h
  have hcomma : ∀ c, isDigitChar U c = true → c ≠ ',' := by
    rintro c hc rfl
    rw [isDigitChar_ascii (by decide) (by decide)] at hc
    cases hc
  have hkeep : ∀ cs : List Char, (∀ c ∈ cs, isDigitChar U c = true) →
      cs.filter (fun c => c ≠ ',') = cs :=
    fun cs hcs => List.filter_eq_self.2 (fun c hc => decide_eq_true (hcomma c (hcs c hc)))
  have hfilter : (first ++ (groups ++ '.' :: decimals)).filter (fun c => c ≠ ',') =
      (first ++ groups.filter (fun c => c ≠ ',')) ++ '.' :: decimals := by
    rw [List.filter_append, List.filter_append, List.filter_cons_of_pos (by decide),
      hkeep first hfirst, hkeep decimals hdecimals, List.append_assoc]
  rw [toDecimal, hfilter] at hd
  split at hd
  · rename_i d' hparse
    obtain rfl := Except.ok.inj hd
    refine parse_cents ?_ ?_ hlen hdecimals hparse
    · exact fun hnil => hne (List.append_eq_nil_iff.1 hnil).1
    · intro c hc
      rcases List.mem_append.1 hc with hc | hc
      · exact hfirst c hc
      · obtain ⟨hmem, hnot⟩ := List.mem_filter.1 hc
        exact (hgroups c hmem).resolve_right (of_decide_eq_true hnot)
  · cases hd

/-! ## The largest amount -/

/-- Is a decimal a number of cents that is not negative? -/
def IsCents (d : Decimal) : Prop := ∃ n, d = .fin false n (-2)

theorem le_cents {m n : ℕ} :
    (Decimal.fin false m (-2)).le (.fin false n (-2)) = true ↔ m ≤ n := by
  have hpos : (0 : ℚ) < (10 : ℚ) ^ (-2 : ℤ) := by positivity
  simp only [Decimal.le, Decimal.value?, Decimal.magnitude, Bool.false_eq_true, if_false,
    decide_eq_true_eq]
  rw [mul_le_mul_iff_of_pos_right hpos, Nat.cast_le]

theorem IsCents.le_antisymm {d e : Decimal} (hd : IsCents d) (he : IsCents e)
    (hde : d.le e = true) (hed : e.le d = true) : d = e := by
  obtain ⟨m, rfl⟩ := hd
  obtain ⟨n, rfl⟩ := he
  rw [Nat.le_antisymm (le_cents.1 hde) (le_cents.1 hed)]

theorem IsCents.le_trans {c d e : Decimal} (hc : IsCents c) (hd : IsCents d) (he : IsCents e)
    (hcd : c.le d = true) (hde : d.le e = true) : c.le e = true := by
  obtain ⟨l, rfl⟩ := hc
  obtain ⟨m, rfl⟩ := hd
  obtain ⟨n, rfl⟩ := he
  exact le_cents.2 ((le_cents.1 hcd).trans (le_cents.1 hde))

theorem IsCents.le_total {d e : Decimal} (hd : IsCents d) (he : IsCents e)
    (h : ¬ d.le e = true) : e.le d = true := by
  obtain ⟨m, rfl⟩ := hd
  obtain ⟨n, rfl⟩ := he
  rw [le_cents] at h
  exact le_cents.2 (Nat.le_of_lt (Nat.lt_of_not_le h))

theorem IsCents.le_refl {d : Decimal} (hd : IsCents d) : d.le d = true := by
  obtain ⟨m, rfl⟩ := hd
  exact le_cents.2 (Nat.le_refl m)

/-- A running maximum is one of the numbers and not below any of them. -/
theorem foldl_max_spec {ds : List Decimal} {best : Decimal} (hbest : IsCents best)
    (hds : ∀ d ∈ ds, IsCents d) :
    ds.foldl (fun best d => if d.le best then best else d) best ∈ best :: ds ∧
      ∀ d ∈ best :: ds,
        d.le (ds.foldl (fun best d => if d.le best then best else d) best) = true := by
  induction ds generalizing best with
  | nil =>
      refine ⟨List.mem_cons_self, fun d hd => ?_⟩
      rw [List.mem_singleton.1 hd]
      exact hbest.le_refl
  | cons e ds ih =>
      have he := hds e List.mem_cons_self
      have hrest : ∀ d ∈ ds, IsCents d := fun d hd => hds d (List.mem_cons_of_mem _ hd)
      rw [List.foldl_cons]
      by_cases hle : e.le best = true
      · rw [if_pos hle]
        obtain ⟨hmem, hmax⟩ := ih hbest hrest
        have hcents := List.forall_mem_cons.2 ⟨hbest, hrest⟩ _ hmem
        have hmember := hmax best List.mem_cons_self
        refine ⟨?_, List.forall_mem_cons.2 ⟨hmember, List.forall_mem_cons.2 ⟨?_, ?_⟩⟩⟩
        · rcases List.mem_cons.1 hmem with h | h
          · exact List.mem_cons.2 (Or.inl h)
          · exact List.mem_cons_of_mem _ (List.mem_cons_of_mem _ h)
        · exact he.le_trans hbest hcents hle hmember
        · exact fun d hd => hmax d (List.mem_cons_of_mem _ hd)
      · rw [if_neg hle]
        obtain ⟨hmem, hmax⟩ := ih he hrest
        have hcents := List.forall_mem_cons.2 ⟨he, hrest⟩ _ hmem
        have hmember := hmax e List.mem_cons_self
        refine ⟨List.mem_cons_of_mem _ hmem, List.forall_mem_cons.2 ⟨?_, hmax⟩⟩
        exact hbest.le_trans he hcents (he.le_total hbest hle) hmember

/-- The largest of some amounts is the one that is not below any of them. -/
theorem largest_eq_some_iff {ds : List Decimal} (hds : ∀ d ∈ ds, IsCents d) {v : Decimal} :
    largest ds = some v ↔ v ∈ ds ∧ ∀ d ∈ ds, d.le v = true := by
  cases ds with
  | nil => exact iff_of_false nofun (fun h => List.not_mem_nil h.1)
  | cons e ds =>
      obtain ⟨hmem, hmax⟩ := foldl_max_spec (hds e List.mem_cons_self)
        (fun d hd => hds d (List.mem_cons_of_mem _ hd))
      rw [largest, Option.some.injEq]
      constructor
      · rintro rfl
        exact ⟨hmem, hmax⟩
      · rintro ⟨hv, hall⟩
        exact (hds _ hmem).le_antisymm (hds v hv) (hall _ hmem) (hmax v hv)

/-! ## The amount that decides -/

theorem amounts_eq (line : List Char) : amounts U line = (amountsOn U line).map Occurrence.text := by
  rw [amounts, amountsOn, List.map_map]
  rfl

theorem keywordAmount_eq_occurrence (lines : List (List Char)) (keyword : String) :
    keywordAmount U lines keyword = (keywordOccurrence U lines keyword).map Occurrence.text := by
  rw [keywordOccurrence, List.map_findSome?]
  refine congrArg (fun f => lines.findSome? f) (funext (fun line => ?_))
  rw [Function.comp_apply, amounts_eq, List.getLast?_map]
  by_cases h : hasKeyword U keyword line = true
  · rw [if_pos h, if_pos h]
  · rw [if_neg h, if_neg h]
    rfl

theorem keywordPath_eq_occurrence (lines : List (List Char)) :
    totalKeywords.findSome? (keywordAmount U lines) =
      (totalKeywords.findSome? (keywordOccurrence U lines)).map Occurrence.text := by
  rw [List.map_findSome?]
  exact congrArg (fun f => totalKeywords.findSome? f)
    (funext (fun keyword => keywordAmount_eq_occurrence lines keyword))

/-- The amount that decides is one of a line. -/
theorem mem_of_decides {lines : List (List Char)} {o : Occurrence} (h : Decides U lines o) :
    ∃ line ∈ lines, o ∈ amountsOn U line := by
  obtain ⟨-, hwhich⟩ := h
  split at hwhich
  · rename_i o' hkeyword
    subst hwhich
    obtain ⟨keyword, -, hfirst⟩ := List.exists_of_findSome?_eq_some hkeyword
    obtain ⟨line, hline, hlast⟩ := List.exists_of_findSome?_eq_some hfirst
    split at hlast
    · exact ⟨line, hline, List.mem_of_getLast? hlast⟩
    · cases hlast
  · exact List.mem_flatMap.1 hwhich.1

/-- The value of an amount that can be read. -/
def worth (U : Unicode) (w : List Char) : Decimal := ((toDecimal U w).toOption).getD (.ofCents 0)

theorem worth_of_ok {w : List Char} {d : Decimal} (h : toDecimal U w = .ok d) : d = worth U w := by
  rw [worth, h]
  rfl

/-- Where no keyword decides, the total is the value of a largest amount. -/
theorem largest_eq_ok_iff {os : List Occurrence} (hos : ∀ o ∈ os, o.IsAmount U) {v : Decimal} :
    ((os.map Occurrence.text).mapM (toDecimal U)).map largest = .ok (some v) ↔
      ∃ o, IsLargest U os o ∧ toDecimal U o.text = .ok v := by
  have hread : ∀ ds, (os.map Occurrence.text).mapM (toDecimal U) = .ok ds ↔
      (∀ w ∈ os.map Occurrence.text, toDecimal U w = .ok (worth U w)) ∧
        ds = (os.map Occurrence.text).map (worth U) :=
    fun ds => Fallible.mapM_eq_ok_iff (fun _ _ h => worth_of_ok h)
  have hcents : (∀ o ∈ os, toDecimal U o.text = .ok (worth U o.text)) →
      ∀ d ∈ (os.map Occurrence.text).map (worth U), IsCents d := by
    intro hall d hd
    obtain ⟨w, hw, rfl⟩ := List.mem_map.1 hd
    obtain ⟨o, ho, rfl⟩ := List.mem_map.1 hw
    exact toDecimal_cents (hos o ho).1 (hall o ho)
  rw [Fallible.map_eq_ok]
  constructor
  · rintro ⟨ds, hds, hlargest⟩
    obtain ⟨hall, rfl⟩ := (hread ds).1 hds
    rw [List.forall_mem_map] at hall
    obtain ⟨hv, hmax⟩ := (largest_eq_some_iff (hcents hall)).1 hlargest
    rw [List.forall_mem_map, List.forall_mem_map] at hmax
    obtain ⟨w, hw, rfl⟩ := List.mem_map.1 hv
    obtain ⟨o, ho, rfl⟩ := List.mem_map.1 hw
    refine ⟨o, ⟨ho, fun o' ho' => ?_⟩, hall o ho⟩
    exact ⟨worth U o'.text, worth U o.text, hall o' ho', hall o ho, hmax o' ho'⟩
  · rintro ⟨o, ⟨ho, hmax⟩, hv⟩
    have hall : ∀ o ∈ os, toDecimal U o.text = .ok (worth U o.text) := by
      intro o' ho'
      obtain ⟨d', d, hd', -⟩ := hmax o' ho'
      rw [hd', ← worth_of_ok hd']
    refine ⟨_, (hread _).2 ⟨List.forall_mem_map.2 hall, rfl⟩, ?_⟩
    rw [largest_eq_some_iff (hcents hall), worth_of_ok hv, List.forall_mem_map,
      List.forall_mem_map]
    refine ⟨List.mem_map_of_mem (List.mem_map_of_mem ho), ?_⟩
    intro o' ho'
    obtain ⟨d', d, hd', hd, hle⟩ := hmax o' ho'
    rw [worth_of_ok hd', worth_of_ok hd] at hle
    exact hle

/-- **What the parser returns is the value of the amount that decides.** -/
theorem extractTotal_eq_some_iff {lines : List (List Char)} {v : Decimal} :
    extractTotal U lines = .ok (some v) ↔ ∃ o, Decides U lines o ∧ toDecimal U o.text = .ok v := by
  rw [extractTotal, keywordPath_eq_occurrence]
  simp only [Decides]
  cases totalKeywords.findSome? (keywordOccurrence U lines) with
  | some o =>
      rw [Option.map_some]
      simp only [Fallible.map_eq_ok, Option.some.injEq]
      constructor
      · rintro ⟨d, hd, rfl⟩
        exact ⟨o, ⟨⟨d, hd⟩, rfl⟩, hd⟩
      · rintro ⟨o', ⟨-, rfl⟩, hv⟩
        exact ⟨v, hv, rfl⟩
  | none =>
      have hamounts : lines.flatMap (amounts U) =
          (lines.flatMap (amountsOn U)).map Occurrence.text := by
        rw [List.map_flatMap]
        exact congrArg (fun f => lines.flatMap f) (funext amounts_eq)
      have hall : ∀ o ∈ lines.flatMap (amountsOn U), o.IsAmount U := by
        intro o ho
        obtain ⟨line, -, hmem⟩ := List.mem_flatMap.1 ho
        exact (amountsOn_sound hmem).2
      rw [Option.map_none, hamounts]
      show ((_ : Except PyExc (List Decimal)).map largest = _) ↔ _
      rw [largest_eq_ok_iff hall]
      constructor
      · rintro ⟨o, ho, hv⟩
        exact ⟨o, ⟨⟨v, hv⟩, ho⟩, hv⟩
      · rintro ⟨o, ⟨-, ho⟩, hv⟩
        exact ⟨o, ho, hv⟩

/-- The property, for the total alone. -/
theorem hasWhole_of_total {text : String} {v : Decimal} (h : TotalIsWhole U text)
    (htotal : extractTotal U (receiptLines text) = .ok (some v)) :
    HasWhole U (receiptLines text) (.ok v) :=
  h _ v (by rw [parseReceiptText, htotal]; rfl) rfl

/-- **When the total is a whole number on the receipt.**  Exactly when the amount that decides is
whole, or when a whole amount of the same value stands somewhere else. -/
theorem totalIsWhole_iff (text : String) : TotalIsWhole U text ↔ DecidesWhole U text := by
  constructor
  · intro h o ho
    obtain ⟨v, hv⟩ := ho.1
    rw [hv]
    exact Or.inr (hasWhole_of_total h (extractTotal_eq_some_iff.2 ⟨o, ho, hv⟩))
  · intro h receipt v hparse hv
    obtain ⟨total, htotal, rfl⟩ := Fallible.map_eq_ok.1 hparse
    obtain rfl : total = some v := hv
    obtain ⟨o, ho, hvalue⟩ := extractTotal_eq_some_iff.1 htotal
    rw [← hvalue]
    rcases h o ho with hwhole | hsame
    · obtain ⟨line, hline, hmem⟩ := mem_of_decides ho
      obtain ⟨heq, hamount⟩ := amountsOn_sound hmem
      exact ⟨o, by rw [heq]; exact hline, hamount, hwhole, rfl⟩
    · exact hsame

/-- The places of all texts on a line. -/
def splits (line : List Char) : List Occurrence :=
  (List.range (line.length + 1)).flatMap (fun i =>
    (List.range (line.length + 1)).map (fun j =>
      { before := line.take i, text := (line.drop i).take j, after := (line.drop i).drop j }))

theorem mem_splits (o : Occurrence) : o ∈ splits o.line := by
  rw [splits, List.mem_flatMap]
  have hlength : o.line.length = o.before.length + o.text.length + o.after.length := by
    rw [Occurrence.line, List.length_append, List.length_append]
  refine ⟨o.before.length, List.mem_range.2 (by omega), ?_⟩
  rw [List.mem_map]
  refine ⟨o.text.length, List.mem_range.2 (by omega), ?_⟩
  have htake : o.line.take o.before.length = o.before := by
    rw [Occurrence.line, List.append_assoc]
    exact List.take_left' rfl
  have hdrop : o.line.drop o.before.length = o.text ++ o.after := by
    rw [Occurrence.line, List.append_assoc]
    exact List.drop_left' rfl
  rw [htake, hdrop, List.take_left' rfl, List.drop_left' rfl]

/-- A value has no whole amount on a line when no text there has it. -/
theorem not_hasWhole_of_splits {line : List Char} {value : Except PyExc Decimal}
    (h : (splits line).all (fun o => !o.isWhole U || toDecimal U o.text ≠ value) = true) :
    ¬ HasWhole U [line] value := by
  rintro ⟨o, hline, -, hwhole, hvalue⟩
  have hmem := mem_splits o
  rw [List.mem_singleton.1 hline] at hmem
  have key := List.all_eq_true.1 h o hmem
  rw [hwhole, hvalue] at key
  simp at key

/-- The end of a longer number, and a piece of a date. -/
theorem not_totalIsWhole_samples :
    ¬ TotalIsWhole Unicode.ascii "Total 12345.67" ∧ ¬ TotalIsWhole Unicode.ascii "25.04.2026" := by
  refine ⟨fun h => ?_, fun h => ?_⟩
  · have hlines : receiptLines "Total 12345.67" = ["Total 12345.67".toList] := by decide
    have hwhole := hasWhole_of_total (v := .fin false 234567 (-2)) h (by rw [hlines]; decide)
    rw [hlines] at hwhole
    exact not_hasWhole_of_splits (by decide +kernel) hwhole
  · have hlines : receiptLines "25.04.2026" = ["25.04.2026".toList] := by decide
    have hwhole := hasWhole_of_total (v := .fin false 2504 (-2)) h (by rw [hlines]; decide)
    rw [hlines] at hwhole
    exact not_hasWhole_of_splits (by decide +kernel) hwhole

end ReceiptParser

end SpendLens
