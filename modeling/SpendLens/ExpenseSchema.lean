/-
# The wire contracts of expenses

What a client may send and what a row has to satisfy to be returned.  A validated
value is a fixed point of its own validator, and the validated payloads carry that
as fields.  `Readable` is the validation `ExpenseOut` applies to a row: the same
checks, on the columns.
-/
import SpendLens.Schema

namespace SpendLens

/-! ## Field checks -/

def amountMin : Decimal := .fin false 1 (-2)

def amountMax : Decimal := .fin false 999999999999 (-2)

def currencyCodeLen : ℕ := 3

/-- At most two decimal places, trailing zeros not counted. -/
def twoPlaces : Decimal → Bool
  | .fin _ coef exp => -2 ≤ exp || decide (10 ^ (-2 - exp).toNat ∣ coef)
  | _ => false

/-- The checks on an amount; infinities and NaN fail them. -/
def amountOk (d : Decimal) : Bool := amountMin.le d && d.le amountMax && twoPlaces d

/-- The checks on a currency, and the code they leave. -/
def validateCurrency (U : Unicode) (v : String) : Option String :=
  if v.length = currencyCodeLen then
    let v := U.upper (strip v)
    if v.length ≠ currencyCodeLen || !U.isAlphaStr v then none else some v
  else none

/-- The checks on a merchant name, and the name they leave. -/
def stripMerchant (v : String) : Option String :=
  if 1 ≤ v.length ∧ v.length ≤ 255 then
    let v := strip v
    if v.isEmpty then none else some v
  else none

/-- The check on a description. -/
def descriptionOk (v : Option String) : Bool := v.all (fun s => s.length ≤ 1024)

/-- A validated merchant name passes its validation unchanged. -/
theorem stripMerchant_idem {v m : String} (h : stripMerchant v = some m) :
    stripMerchant m = some m := by
  unfold stripMerchant at h
  split at h
  · rename_i hlen
    simp only at h
    split at h
    · cases h
    · rename_i hne
      rw [Option.some.injEq] at h
      subst h
      have hle : (strip v).length ≤ v.length := by
        rw [← String.length_toList, toList_strip, ← String.length_toList]
        exact length_stripChars_le v.toList
      have hpos : 1 ≤ (strip v).length := by
        rw [String.isEmpty_iff] at hne
        by_contra hlt
        exact hne (String.length_eq_zero_iff.1 (by omega))
      unfold stripMerchant
      rw [if_pos ⟨hpos, by omega⟩, strip_idem]
      simp only
      rw [if_neg hne]
  · cases h

/-- A validated currency passes its validation unchanged. -/
theorem validateCurrency_idem {U : Unicode} {v c : String} (h : validateCurrency U v = some c) :
    validateCurrency U c = some c := by
  unfold validateCurrency at h
  split at h
  · simp only at h
    split at h
    · cases h
    · rename_i hc
      rw [Option.some.injEq] at h
      subst h
      have halpha : U.isAlphaStr (U.upper (strip v)) = true := by
        by_contra hno
        simp [hno] at hc
      have hlen : (U.upper (strip v)).length = currencyCodeLen := by
        by_contra hno
        simp [hno] at hc
      unfold validateCurrency
      rw [if_pos hlen, U.strip_of_isAlphaStr halpha, U.upper_upper]
      simp only
      rw [if_neg hc]
  · cases h

/-! ## Payloads -/

/-- The validated fields shared by the create and read projections. -/
structure ExpenseBase (U : Unicode) where
  merchantName : String
  amount : Decimal
  currency : String
  category : ExpenseCategory
  expenseDate : Date
  description : Option String
  merchantName_ok : stripMerchant merchantName = some merchantName
  amount_ok : amountOk amount = true
  currency_ok : validateCurrency U currency = some currency
  description_ok : descriptionOk description = true

/-- The constructor of `ExpenseBase`, with its validation. -/
def ExpenseBase.validate (U : Unicode) (merchantName : String) (amount : Decimal)
    (currency : String) (category : ExpenseCategory) (expenseDate : Date)
    (description : Option String) : Except PyExc (ExpenseBase U) :=
  match hm : stripMerchant merchantName with
  | none => .error (.validationError "merchant_name")
  | some m =>
      if ha : amountOk amount = true then
        match hc : validateCurrency U currency with
        | none => .error (.validationError "currency")
        | some c =>
            if hd : descriptionOk description = true then
              .ok ⟨m, amount, c, category, expenseDate, description, stripMerchant_idem hm, ha,
                validateCurrency_idem hc, hd⟩
            else .error (.validationError "description")
      else .error (.validationError "amount")

/-- The payload of `POST /expenses`. -/
abbrev ExpenseCreate (U : Unicode) := ExpenseBase U

/-- A partial update after `model_dump(exclude_unset=True)`: a field that is not set
does not appear, an explicit `None` does. -/
structure ExpensePatch where
  merchantName : Option (Option String)
  amount : Option (Option Decimal)
  currency : Option (Option String)
  category : Option (Option ExpenseCategory)
  expenseDate : Option (Option Date)
  description : Option (Option String)
  deriving DecidableEq

/-- The assignments of a patch, in the order of its fields. -/
def ExpensePatch.columns (p : ExpensePatch) : List ExpenseColumn :=
  (p.merchantName.map ExpenseColumn.merchantName).toList ++
    (p.amount.map ExpenseColumn.amount).toList ++
    (p.currency.map ExpenseColumn.currency).toList ++
    (p.category.map ExpenseColumn.category).toList ++
    (p.expenseDate.map ExpenseColumn.expenseDate).toList ++
    (p.description.map ExpenseColumn.description).toList

/-- The validated payload of `PATCH /expenses/{id}`. -/
structure ExpenseUpdate (U : Unicode) extends ExpensePatch where
  merchantName_ok : ∀ v, merchantName = some (some v) → stripMerchant v = some v
  amount_ok : ∀ d, amount = some (some d) → amountOk d = true
  currency_ok : ∀ v, currency = some (some v) → validateCurrency U v = some v
  description_ok : ∀ v, description = some v → descriptionOk v = true

/-! ## Returned rows -/

/-- The public projection of a row. -/
structure ExpenseOut (U : Unicode) extends ExpenseBase U where
  id : UUID
  userId : UUID
  source : ExpenseSource
  receiptId : Option UUID
  createdAt : Timestamp
  updatedAt : Timestamp

/-- `ExpenseOut.model_validate`. -/
def expenseOut (U : Unicode) (e : Expense) : Except PyExc (ExpenseOut U) :=
  (ExpenseBase.validate U e.merchantName e.amount.toDecimal e.currency e.category e.expenseDate
    e.description).map
    (fun b => ⟨b, e.id, e.userId, e.source, e.receiptId, e.createdAt, e.updatedAt⟩)

/-- Every check of the read projection holds of the row. -/
structure Readable (U : Unicode) (e : Expense) : Prop where
  merchantName : (stripMerchant e.merchantName).isSome
  amount : amountOk e.amount.toDecimal = true
  currency : (validateCurrency U e.currency).isSome
  description : descriptionOk e.description = true

/-- The four checks are what `ExpenseOut` applies. -/
theorem readable_iff (U : Unicode) (e : Expense) :
    Readable U e ↔ ∃ out, expenseOut U e = .ok out := by
  constructor
  · rintro ⟨hm, ha, hc, hd⟩
    obtain ⟨m, hm⟩ := Option.isSome_iff_exists.1 hm
    obtain ⟨c, hc⟩ := Option.isSome_iff_exists.1 hc
    unfold expenseOut ExpenseBase.validate
    split
    · rename_i hm'
      rw [hm] at hm'
      cases hm'
    · rw [dif_pos ha]
      split
      · rename_i hc'
        rw [hc] at hc'
        cases hc'
      · rw [dif_pos hd]
        exact ⟨_, rfl⟩
  · rintro ⟨out, h⟩
    unfold expenseOut ExpenseBase.validate at h
    split at h
    · cases h
    · rename_i m hm
      split at h
      · rename_i ha
        split at h
        · cases h
        · rename_i c hc
          split at h
          · rename_i hd
            exact ⟨by rw [hm]; rfl, ha, by rw [hc]; rfl, hd⟩
          · cases h
      · cases h

instance (U : Unicode) (e : Expense) : Decidable (Readable U e) :=
  decidable_of_iff ((stripMerchant e.merchantName).isSome ∧ amountOk e.amount.toDecimal = true ∧
      (validateCurrency U e.currency).isSome ∧ descriptionOk e.description = true)
    ⟨fun h => ⟨h.1, h.2.1, h.2.2.1, h.2.2.2⟩,
      fun h => ⟨h.merchantName, h.amount, h.currency, h.description⟩⟩

/-! ## Amounts -/

theorem value_ofCents (n : ℤ) : (Decimal.ofCents n).value? = some ((n : ℚ) / 100) := by
  have hpow : (10 : ℚ) ^ (-2 : ℤ) = 1 / 100 := by norm_num
  rw [Decimal.ofCents, Decimal.value?, Decimal.magnitude, hpow, Option.some.injEq]
  by_cases hn : n < 0
  · have habs : ((n.natAbs : ℕ) : ℚ) = -(n : ℚ) := by
      rw [Nat.cast_natAbs, abs_of_neg hn, Int.cast_neg]
    rw [if_pos (by simpa using hn), habs]
    ring
  · have habs : ((n.natAbs : ℕ) : ℚ) = (n : ℚ) := by
      rw [Nat.cast_natAbs, abs_of_nonneg (not_lt.1 hn)]
    rw [if_neg (by simpa using hn), habs]
    ring

/-- Finite decimals are compared by their values. -/
theorem le_iff_of_value {a b : Decimal} {x y : ℚ} (ha : a.value? = some x)
    (hb : b.value? = some y) : a.le b = true ↔ x ≤ y := by
  cases a with
  | inf neg => cases ha
  | nan neg sig p => cases ha
  | fin neg coef exp =>
      cases b with
      | inf neg => cases hb
      | nan neg sig p => cases hb
      | fin neg' coef' exp' =>
          unfold Decimal.le
          simp only [ha, hb, decide_eq_true_eq]

/-- A stored amount is readable exactly from one cent to the maximum. -/
theorem amountOk_cents (n : ℤ) :
    amountOk (Numeric.cents n).toDecimal = true ↔ 1 ≤ n ∧ n ≤ 999999999999 := by
  have hplaces : twoPlaces (Decimal.ofCents n) = true := by
    simp [Decimal.ofCents, twoPlaces]
  have hmin : amountMin.le (Decimal.ofCents n) = true ↔ 1 ≤ n := by
    change (Decimal.ofCents 1).le (Decimal.ofCents n) = true ↔ 1 ≤ n
    rw [le_iff_of_value (value_ofCents 1) (value_ofCents n),
      div_le_div_iff_of_pos_right (by norm_num)]
    exact Int.cast_le
  have hmax : (Decimal.ofCents n).le amountMax = true ↔ n ≤ 999999999999 := by
    change (Decimal.ofCents n).le (Decimal.ofCents 999999999999) = true ↔ n ≤ 999999999999
    rw [le_iff_of_value (value_ofCents n) (value_ofCents 999999999999),
      div_le_div_iff_of_pos_right (by norm_num)]
    exact Int.cast_le
  rw [amountOk, Numeric.toDecimal, hplaces, Bool.and_true, Bool.and_eq_true, hmin, hmax]

/-- An amount that passes the checks is a number without a sign, between one cent and the
maximum. -/
theorem exists_of_amountOk {d : Decimal} (h : amountOk d = true) :
    ∃ coef exp, d = .fin false coef exp ∧ 1 / 100 ≤ Decimal.magnitude coef exp ∧
      Decimal.magnitude coef exp ≤ 999999999999 / 100 ∧ twoPlaces d = true := by
  rw [amountOk, Bool.and_eq_true, Bool.and_eq_true] at h
  obtain ⟨⟨hmin, hmax⟩, hplaces⟩ := h
  cases d with
  | inf neg => cases hplaces
  | nan neg sig p => cases hplaces
  | fin neg coef exp =>
      have hval : (Decimal.fin neg coef exp).value? =
          some (if neg then -Decimal.magnitude coef exp else Decimal.magnitude coef exp) := rfl
      have hmin := (le_iff_of_value (value_ofCents 1) hval).1 hmin
      have hmax := (le_iff_of_value hval (value_ofCents 999999999999)).1 hmax
      have hnonneg : 0 ≤ Decimal.magnitude coef exp := by
        rw [Decimal.magnitude]
        exact mul_nonneg (Nat.cast_nonneg _) (zpow_nonneg (by norm_num) _)
      have hneg : neg = false := by
        by_contra hc
        rw [Bool.not_eq_false] at hc
        rw [hc, if_pos rfl] at hmin
        norm_num at hmin
        linarith
      subst hneg
      rw [if_neg Bool.false_ne_true] at hmin hmax
      refine ⟨coef, exp, rfl, ?_, ?_, hplaces⟩
      · norm_num at hmin ⊢
        exact hmin
      · norm_num at hmax ⊢
        exact hmax

/-- Storing an amount that passes the checks keeps it passing them. -/
theorem amountOk_of_toNumeric {d : Decimal} {a : Numeric} (h : amountOk d = true)
    (ha : d.toNumeric = some a) : amountOk a.toDecimal = true := by
  obtain ⟨coef, exp, rfl, hmin, hmax, -⟩ := exists_of_amountOk h
  have hlow : 1 ≤ ⌊Decimal.magnitude coef exp * 100 + 1 / 2⌋ := by
    rw [Int.le_floor]
    norm_num at hmin ⊢
    linarith
  have hhigh : ⌊Decimal.magnitude coef exp * 100 + 1 / 2⌋ < 1000000000000 := by
    rw [Int.floor_lt]
    norm_num at hmax ⊢
    linarith
  simp only [Decimal.toNumeric] at ha
  split at ha
  · cases ha
  · split at ha
    · rw [Option.some.injEq] at ha
      rw [← ha, if_neg Bool.false_ne_true, amountOk_cents, roundCents]
      omega
    · cases ha

end SpendLens
