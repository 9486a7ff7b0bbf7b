/-
# Booking a parsed receipt

A parsed receipt is stored as JSON, read back by the second task, and becomes an expense.  Neither
the parser nor the reader of the model's replies bounds what it extracts, and the columns of the
expense do: a merchant has 255 characters, and an amount ten digits before its point.
-/
import SpendLens.WholeAmounts

namespace SpendLens

namespace Booking

/-! ## Parsed receipts -/

/-- What a receipt is parsed from: its text, or the object the vision model replies with. -/
inductive Source where
  | text (ocr : String)
  | reply (entries : List (String × Json))

/-- `parse_receipt_text` and `_payload_to_parsed_receipt`. -/
def Source.parse (U : Unicode) : Source → Except PyExc ParsedReceipt
  | text ocr => ReceiptParser.parseReceiptText U ocr
  | reply entries => payloadToParsedReceipt U (.obj entries)

/-- A finite decimal that has ten digits before its point once it is rounded to cents. -/
def FitsAmount (d : Decimal) : Prop :=
  ∃ neg coef exp, d = .fin neg coef exp ∧ roundCents (Decimal.magnitude coef exp) < 10 ^ 12

/-- A merchant and an amount that fit the columns of an expense. -/
structure Fits (merchant : String) (amount : Decimal) : Prop where
  merchant : 1 ≤ merchant.length ∧ merchant.length ≤ 255
  amount : FitsAmount amount

/-- What `_coerce_payload` makes of the stored receipt fits the columns. -/
def Books (env : Env) (receipt : ParsedReceipt) : Prop :=
  ∀ w, ∃ merchant amount date,
    (Prog.run (alone env) (coercePayload env receipt.toJsonable) w).1 =
      .ok (.str merchant, amount, date) ∧ Fits merchant amount

/-- **Every parsed receipt can be booked.** -/
def CanBeBooked (env : Env) (source : Source) : Prop :=
  ∃ receipt, source.parse env.unicode = .ok receipt ∧ Books env receipt

/-! ## What fits -/

/-- An amount on a receipt of less than ten thousand millions. -/
def Payable (U : Unicode) (amount : List Char) : Prop :=
  ∃ n, ReceiptParser.toDecimal U amount = .ok (.fin false n (-2)) ∧ n < 10 ^ 12

/-- The amount of the deciding line, or every amount where no line decides. -/
def PayableTotal (U : Unicode) (lines : List (List Char)) : Prop :=
  match ReceiptParser.totalKeywords.findSome? (ReceiptParser.keywordAmount U lines) with
  | some amount => Payable U amount
  | none => ∀ line ∈ lines, ∀ amount ∈ ReceiptParser.amounts U line, Payable U amount

/-- The line that passes for the merchant has at most 255 characters, and the amounts that can
become the total are below ten thousand millions; of a reply, its merchant and its total. -/
def Source.Modest (U : Unicode) : Source → Prop
  | text ocr =>
      (∀ line, ReceiptParser.extractMerchant U (ReceiptParser.receiptLines ocr) = some line →
        line.length ≤ 255) ∧ PayableTotal U (ReceiptParser.receiptLines ocr)
  | reply entries =>
      (∀ name, (Json.obj entries).get? "merchant" = some (.str name) →
        (strip name).length ≤ 255) ∧
        ∀ total d, (Json.obj entries).get? "total" = some (.str total) →
          Decimal.parse? U total = some d → FitsAmount d

/-! ## The way through the stored payload -/

variable {env : Env}

theorem coerceTotal_toJsonable {U : Unicode} {receipt : ParsedReceipt}
    (h : ∀ d, receipt.total = some d → d.Representable) :
    coerceTotal U (receipt.toJsonable.get? "total") = .ok (receipt.total.getD (.ofCents 0)) := by
  have hget : receipt.toJsonable.get? "total" =
      some (receipt.total.elim .null (fun d => .str d.str)) := rfl
  rw [hget]
  cases htotal : receipt.total with
  | none => rfl
  | some d =>
      show Except.ok (if d.str = "" then _ else _) = _
      have hparse := Decimal.parse?_str U (h d htotal)
      have hne : d.str ≠ "" := by
        intro hempty
        have hnone : Decimal.parse? U "" = none := rfl
        rw [hempty, hnone] at hparse
        cases hparse
      rw [if_neg hne, hparse]

/-- **What the second task reads**: the merchant or its placeholder, the amount or zero, and the
date or today's. -/
theorem run_coercePayload (env : Env) {receipt : ParsedReceipt}
    (h : ∀ d, receipt.total = some d → d.Representable) (w : World Unit) :
    (Prog.run (alone env) (coercePayload env receipt.toJsonable) w).1 =
      .ok (.str ((receipt.merchant.filter (fun m => m ≠ "")).getD "Unknown"),
        receipt.total.getD (.ofCents 0), receipt.transactionDate.getD (env.today w.calls)) := by
  have hmerchant : ((receipt.toJsonable.get? "merchant").filter Json.truthy).getD
      (.str "Unknown") = .str ((receipt.merchant.filter (fun m => m ≠ "")).getD "Unknown") := by
    have hget : receipt.toJsonable.get? "merchant" = some (receipt.merchant.elim .null .str) := rfl
    rw [hget]
    cases receipt.merchant with
    | none => rfl
    | some m =>
        by_cases hm : m = ""
        · subst hm
          rfl
        · have htruthy : Json.truthy (.str m) = true := decide_eq_true hm
          have hkeep : decide (m ≠ "") = true := decide_eq_true hm
          show ((some (Json.str m)).filter Json.truthy).getD _ = _
          rw [Option.filter_some, if_pos htruthy, Option.filter_some, if_pos hkeep]
          rfl
  have hdate : (((receipt.toJsonable.get? "transaction_date").filter Json.truthy).bind
      Json.str?).bind Date.fromisoformat = receipt.transactionDate := by
    have hget : receipt.toJsonable.get? "transaction_date" =
        some (receipt.transactionDate.elim .null (fun d => .str d.isoformat)) := rfl
    rw [hget]
    cases receipt.transactionDate with
    | none => rfl
    | some d =>
        have hne : d.isoformat ≠ "" := by
          intro hempty
          have hread := Date.fromisoformat_isoformat d
          have hnone : Date.fromisoformat "" = none := rfl
          rw [hempty, hnone] at hread
          cases hread
        have htruthy : Json.truthy (.str d.isoformat) = true := decide_eq_true hne
        show (((some (Json.str d.isoformat)).filter Json.truthy).bind Json.str?).bind _ = _
        rw [Option.filter_some, if_pos htruthy]
        exact Date.fromisoformat_isoformat d
  rw [coercePayload, coerceTotal_toJsonable h, hmerchant, hdate]
  cases receipt.transactionDate with
  | none => rfl
  | some d => rfl

theorem fitsAmount_zero : FitsAmount (.ofCents 0) := by
  refine ⟨false, 0, -2, rfl, ?_⟩
  rw [roundCents_cents]
  decide

/-- **When a parsed receipt fits.** -/
theorem books_iff {receipt : ParsedReceipt} (h : ∀ d, receipt.total = some d → d.Representable) :
    Books env receipt ↔ (∀ m, receipt.merchant = some m → m.length ≤ 255) ∧
      ∀ d, receipt.total = some d → FitsAmount d := by
  have hfits : Books env receipt ↔
      Fits ((receipt.merchant.filter (fun m => m ≠ "")).getD "Unknown")
        (receipt.total.getD (.ofCents 0)) := by
    constructor
    · intro hbooks
      obtain ⟨merchant, amount, date, hrun, hboth⟩ := hbooks (World.ofDb (Db.ofUsers []))
      have hrun' := run_coercePayload env h (World.ofDb (Db.ofUsers []))
      rw [hrun'] at hrun
      obtain ⟨hm, ha⟩ := Prod.mk.inj (Except.ok.inj hrun)
      rw [Json.str.inj hm, (Prod.mk.inj ha).1]
      exact hboth
    · intro hboth w
      exact ⟨_, _, _, run_coercePayload env h w, hboth⟩
  rw [hfits]
  constructor
  · rintro ⟨hmerchant, hamount⟩
    refine ⟨fun m hm => ?_, fun d hd => ?_⟩
    · by_cases hempty : m = ""
      · rw [hempty]
        decide
      · rw [hm, Option.filter_some, if_pos (decide_eq_true hempty)] at hmerchant
        exact hmerchant.2
    · rw [hd] at hamount
      exact hamount
  · rintro ⟨hmerchant, hamount⟩
    refine ⟨?_, ?_⟩
    · cases hm : receipt.merchant with
      | none => decide
      | some m =>
          by_cases hempty : m = ""
          · rw [hempty]
            decide
          · rw [Option.filter_some, if_pos (decide_eq_true hempty)]
            refine ⟨?_, hmerchant m hm⟩
            rw [Option.getD_some]
            have := String.length_eq_zero_iff.not.2 hempty
            omega
    · cases hd : receipt.total with
      | none => exact fitsAmount_zero
      | some d => exact hamount d hd

/-! ## Texts -/

section texts

open ReceiptParser

variable {U : Unicode}

theorem fitsAmount_cents {n : ℕ} : FitsAmount (.fin false n (-2)) ↔ n < 10 ^ 12 := by
  constructor
  · rintro ⟨neg, coef, exp, heq, hround⟩
    obtain ⟨-, rfl, rfl⟩ := Decimal.fin.inj heq
    rwa [roundCents_cents] at hround
  · intro h
    exact ⟨false, n, -2, rfl, by rwa [roundCents_cents]⟩

/-- Every amount that is matched on a line is a number of cents, if it can be read. -/
theorem isCents_of_mem {line amount : List Char} (h : amount ∈ amounts U line) {d : Decimal}
    (hd : toDecimal U amount = .ok d) : IsCents d := by
  rw [amounts_eq] at h
  obtain ⟨o, ho, rfl⟩ := List.mem_map.1 h
  exact toDecimal_cents (amountsOn_sound ho).2.1 hd

theorem payable_iff {line amount : List Char} (h : amount ∈ amounts U line) :
    Payable U amount ↔ ∃ d, toDecimal U amount = .ok d ∧ FitsAmount d := by
  constructor
  · rintro ⟨n, hn, hlt⟩
    exact ⟨_, hn, fitsAmount_cents.2 hlt⟩
  · rintro ⟨d, hd, hfits⟩
    obtain ⟨n, rfl⟩ := isCents_of_mem h hd
    exact ⟨n, hd, fitsAmount_cents.1 hfits⟩

/-- The amount of a deciding line is one of its amounts. -/
theorem mem_of_keywordPath {lines : List (List Char)} {amount : List Char}
    (h : totalKeywords.findSome? (keywordAmount U lines) = some amount) :
    ∃ line ∈ lines, amount ∈ amounts U line := by
  obtain ⟨keyword, -, hfirst⟩ := List.exists_of_findSome?_eq_some h
  obtain ⟨line, hline, hlast⟩ := List.exists_of_findSome?_eq_some hfirst
  exact ⟨line, hline, List.mem_of_getLast? (lineAmount_eq_some_iff.1 hlast).2⟩

/-- The largest of some amounts fits exactly if all of them are payable. -/
theorem fitsLargest_iff {ws : List (List Char)} (hws : ∀ w ∈ ws, ∃ line, w ∈ amounts U line) :
    (∃ total, (ws.mapM (toDecimal U)).map largest = .ok total ∧
      ∀ d, total = some d → FitsAmount d) ↔ ∀ w ∈ ws, Payable U w := by
  have hread : ∀ ds, ws.mapM (toDecimal U) = .ok ds ↔
      (∀ w ∈ ws, toDecimal U w = .ok (worth U w)) ∧ ds = ws.map (worth U) :=
    fun ds => Fallible.mapM_eq_ok_iff (fun _ _ h => worth_of_ok h)
  have hcents : (∀ w ∈ ws, toDecimal U w = .ok (worth U w)) →
      ∀ d ∈ ws.map (worth U), IsCents d := by
    intro hall d hd
    obtain ⟨w, hw, rfl⟩ := List.mem_map.1 hd
    obtain ⟨line, hline⟩ := hws w hw
    exact isCents_of_mem hline (hall w hw)
  constructor
  · rintro ⟨total, htotal, hfits⟩ w hw
    obtain ⟨ds, hds, rfl⟩ := Fallible.map_eq_ok.1 htotal
    obtain ⟨hall, rfl⟩ := (hread ds).1 hds
    obtain ⟨line, hline⟩ := hws w hw
    have hmem : worth U w ∈ ws.map (worth U) := List.mem_map_of_mem hw
    cases hlargest : largest (ws.map (worth U)) with
    | none =>
        -- only an empty list has no largest member
        cases hvalues : ws.map (worth U) with
        | nil =>
            rw [hvalues] at hmem
            cases hmem
        | cons d ds =>
            rw [hvalues] at hlargest
            cases hlargest
    | some v =>
        obtain ⟨hv, hmax⟩ := (largest_eq_some_iff (hcents hall)).1 hlargest
        obtain ⟨n, rfl⟩ := hcents hall v hv
        obtain ⟨m, hm⟩ := hcents hall _ hmem
        have hle := hmax _ hmem
        rw [hm, le_cents] at hle
        refine ⟨m, by rw [hall w hw, hm], ?_⟩
        exact lt_of_le_of_lt hle (fitsAmount_cents.1 (hfits _ hlargest))
  · intro hpay
    have hall : ∀ w ∈ ws, toDecimal U w = .ok (worth U w) := by
      intro w hw
      obtain ⟨n, hn, -⟩ := hpay w hw
      rw [hn, ← worth_of_ok hn]
    refine ⟨_, Fallible.map_eq_ok.2 ⟨_, (hread _).2 ⟨hall, rfl⟩, rfl⟩, fun d hd => ?_⟩
    obtain ⟨hmem, -⟩ := (largest_eq_some_iff (hcents hall)).1 hd
    obtain ⟨w, hw, rfl⟩ := List.mem_map.1 hmem
    obtain ⟨n, hn, hlt⟩ := hpay w hw
    rw [← worth_of_ok hn]
    exact fitsAmount_cents.2 hlt

/-- **The total of a text fits** exactly if the amounts that can become it are payable. -/
theorem fitsTotal_iff (lines : List (List Char)) :
    (∃ total, extractTotal U lines = .ok total ∧ ∀ d, total = some d → FitsAmount d) ↔
      PayableTotal U lines := by
  rw [extractTotal, PayableTotal]
  cases hkeyword : totalKeywords.findSome? (keywordAmount U lines) with
  | some amount =>
      obtain ⟨line, -, hline⟩ := mem_of_keywordPath hkeyword
      simp only
      rw [payable_iff hline]
      constructor
      · rintro ⟨total, htotal, hfits⟩
        obtain ⟨d, hd, rfl⟩ := Fallible.map_eq_ok.1 htotal
        exact ⟨d, hd, hfits d rfl⟩
      · rintro ⟨d, hd, hfits⟩
        refine ⟨some d, Fallible.map_eq_ok.2 ⟨d, hd, rfl⟩, ?_⟩
        rintro d' ⟨⟩
        exact hfits
  | none =>
      simp only
      rw [fitsLargest_iff]
      · simp only [List.mem_flatMap]
        constructor
        · exact fun h line hline w hw => h w ⟨line, hline, hw⟩
        · rintro h w ⟨line, hline, hw⟩
          exact h line hline w hw
      · intro w hw
        obtain ⟨line, -, hmem⟩ := List.mem_flatMap.1 hw
        exact ⟨line, hmem⟩

end texts

/-! ## When a receipt can be booked -/

theorem representable_of_toDecimal {U : Unicode} {amount : List Char} {d : Decimal}
    (h : ReceiptParser.toDecimal U amount = .ok d) : d.Representable := by
  rw [ReceiptParser.toDecimal] at h
  split at h
  · rename_i d' hparse
    obtain rfl := Except.ok.inj h
    exact Decimal.representable_of_parse hparse
  · cases h

theorem representable_of_extractTotal {U : Unicode} {lines : List (List Char)} {d : Decimal}
    (h : ReceiptParser.extractTotal U lines = .ok (some d)) : d.Representable := by
  obtain ⟨o, -, hd⟩ := ReceiptParser.extractTotal_eq_some_iff.1 h
  exact representable_of_toDecimal hd

theorem canBeBooked_text (env : Env) (ocr : String) :
    CanBeBooked env (.text ocr) ↔ (Source.text ocr).Modest env.unicode := by
  obtain ⟨lines, hlines⟩ : ∃ lines, lines = ReceiptParser.receiptLines ocr := ⟨_, rfl⟩
  have hparse : ∀ receipt, (Source.text ocr).parse env.unicode = .ok receipt ↔
      ∃ total, ReceiptParser.extractTotal env.unicode lines = .ok total ∧
        { merchant := (ReceiptParser.extractMerchant env.unicode lines).map String.ofList
          total := total
          transactionDate := ReceiptParser.extractDate env.unicode ocr.toList } = receipt := by
    intro receipt
    rw [Source.parse, ReceiptParser.parseReceiptText, ← hlines, Fallible.map_eq_ok]
  have hmerchant : (∀ m, (ReceiptParser.extractMerchant env.unicode lines).map String.ofList =
      some m → m.length ≤ 255) ↔
      ∀ line, ReceiptParser.extractMerchant env.unicode lines = some line → line.length ≤ 255 := by
    cases ReceiptParser.extractMerchant env.unicode lines with
    | none => exact iff_of_true (by rintro m ⟨⟩) (by rintro line ⟨⟩)
    | some line =>
        constructor
        · rintro h line' ⟨⟩
          exact String.length_ofList ▸ h _ rfl
        · rintro h m ⟨⟩
          rw [String.length_ofList]
          exact h line rfl
  rw [CanBeBooked, Source.Modest, ← hlines, ← fitsTotal_iff, ← hmerchant]
  constructor
  · rintro ⟨receipt, hreceipt, hbooks⟩
    obtain ⟨total, htotal, rfl⟩ := (hparse receipt).1 hreceipt
    obtain ⟨hshort, hfits⟩ := (books_iff (by
      rintro d rfl
      exact representable_of_extractTotal htotal)).1 hbooks
    exact ⟨hshort, total, htotal, hfits⟩
  · rintro ⟨hshort, total, htotal, hfits⟩
    refine ⟨_, (hparse _).2 ⟨total, htotal, rfl⟩, (books_iff ?_).2 ⟨hshort, hfits⟩⟩
    rintro d rfl
    exact representable_of_extractTotal htotal

theorem canBeBooked_reply (env : Env) (entries : List (String × Json)) :
    CanBeBooked env (.reply entries) ↔ (Source.reply entries).Modest env.unicode := by
  have htotal : ∀ d, (((Json.obj entries).get? "total").bind Json.str?).bind
      (Decimal.parse? env.unicode) = some d ↔
      ∃ total, (Json.obj entries).get? "total" = some (.str total) ∧
        Decimal.parse? env.unicode total = some d := by
    intro d
    cases (Json.obj entries).get? "total" with
    | none => simp
    | some v => cases v <;> simp [Json.str?]
  have hmerchant : (∀ m, toOptionalStr ((Json.obj entries).get? "merchant") = some m →
      m.length ≤ 255) ↔
      ∀ name, (Json.obj entries).get? "merchant" = some (.str name) →
        (strip name).length ≤ 255 := by
    cases (Json.obj entries).get? "merchant" with
    | none => exact iff_of_true (by rintro m ⟨⟩) (by rintro name ⟨⟩)
    | some v =>
        cases v with
        | str name =>
            show (∀ m, (if strip name = "" then none else some (strip name)) = some m → _) ↔ _
            by_cases hempty : strip name = ""
            · rw [if_pos hempty]
              refine iff_of_true (by rintro m ⟨⟩) ?_
              rintro name' ⟨⟩
              rw [hempty]
              decide
            · rw [if_neg hempty]
              constructor
              · rintro h name' ⟨⟩
                exact h _ rfl
              · rintro h m ⟨⟩
                exact h name rfl
        | _ => exact iff_of_true (by rintro m ⟨⟩) (by rintro name ⟨⟩)
  have hrepresentable : ∀ d, (((Json.obj entries).get? "total").bind Json.str?).bind
      (Decimal.parse? env.unicode) = some d → d.Representable := by
    intro d hd
    obtain ⟨total, -, hparse⟩ := (htotal d).1 hd
    exact Decimal.representable_of_parse hparse
  have hbooks : CanBeBooked env (.reply entries) ↔ Books env
      { merchant := toOptionalStr ((Json.obj entries).get? "merchant")
        total := (((Json.obj entries).get? "total").bind Json.str?).bind
          (Decimal.parse? env.unicode)
        transactionDate := (((Json.obj entries).get? "transaction_date").bind Json.str?).bind
          (strptimeDate env.unicode) } := by
    constructor
    · rintro ⟨receipt, hreceipt, hbooks⟩
      obtain rfl := Except.ok.inj hreceipt
      exact hbooks
    · exact fun hbooks => ⟨_, rfl, hbooks⟩
  rw [hbooks, books_iff hrepresentable, Source.Modest]
  refine and_congr hmerchant ?_
  constructor
  · exact fun h total d hget hparse => h d ((htotal d).2 ⟨total, hget, hparse⟩)
  · intro h d hd
    obtain ⟨total, hget, hparse⟩ := (htotal d).1 hd
    exact h total d hget hparse

end Booking

end SpendLens
