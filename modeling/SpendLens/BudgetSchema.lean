/-
# The wire contracts of budgets

The payloads of the budget endpoints with their field checks.  An amount is checked
as the client wrote it; what the column makes of it is another matter.
-/
import SpendLens.Patches

namespace SpendLens

/-! ## Field checks -/

def maxBudgetAmount : Decimal := .fin false 999999999 (-2)

/-- The checks on an amount, `gt=0` and `le=MAX_BUDGET_AMOUNT`; infinities and NaN fail
them. -/
def budgetAmountOk (d : Decimal) : Bool := d.value?.any (fun q => 0 < q) && d.le maxBudgetAmount

/-- The checks on a threshold, `ge=1` and `le=200`. -/
def thresholdOk (pct : ℤ) : Bool := 1 ≤ pct && pct ≤ 200

/-! ## Payloads -/

/-- The validated payload of `POST /budgets`. -/
structure BudgetCreate where
  category : ExpenseCategory
  amount : Decimal
  period : BudgetPeriod := .monthly
  alertThresholdPct : ℤ := 80
  active : Bool := true
  amount_ok : budgetAmountOk amount = true
  alertThresholdPct_ok : thresholdOk alertThresholdPct = true

/-- A partial update after `model_dump(exclude_unset=True)`: a field that is not set
does not appear, an explicit `None` does. -/
structure BudgetPatch where
  category : Option (Option ExpenseCategory) := none
  amount : Option (Option Decimal) := none
  period : Option (Option BudgetPeriod) := none
  alertThresholdPct : Option (Option ℤ) := none
  active : Option (Option Bool) := none
  deriving DecidableEq

/-- The assignments of a patch, in the order of its fields. -/
def BudgetPatch.columns (p : BudgetPatch) : List BudgetColumn :=
  (p.category.map BudgetColumn.category).toList ++
    (p.amount.map BudgetColumn.amount).toList ++
    (p.period.map BudgetColumn.period).toList ++
    (p.alertThresholdPct.map BudgetColumn.alertThresholdPct).toList ++
    (p.active.map BudgetColumn.active).toList

/-- The validated payload of `PATCH /budgets/{id}`. -/
structure BudgetUpdate extends BudgetPatch where
  amount_ok : ∀ d, amount = some (some d) → budgetAmountOk d = true
  alertThresholdPct_ok : ∀ n, alertThresholdPct = some (some n) → thresholdOk n = true

/-- The default threshold passes its own check. -/
theorem thresholdOk_default : thresholdOk 80 = true := by
  decide

/-- So does a threshold that is not set. -/
theorem thresholdOk_of_unset (n : ℤ) (h : (none : Option (Option ℤ)) = some (some n)) :
    thresholdOk n = true := by
  cases h

/-! ## Accepted amounts -/

/-- What the checks say about a number without a sign. -/
theorem budgetAmountOk_iff {coef : ℕ} {exp : ℤ} :
    budgetAmountOk (.fin false coef exp) = true ↔
      0 < Decimal.magnitude coef exp ∧ Decimal.magnitude coef exp ≤ 999999999 / 100 := by
  have hmax : Decimal.magnitude 999999999 (-2) = 999999999 / 100 := by
    rw [Decimal.magnitude]
    norm_num
  rw [budgetAmountOk, Bool.and_eq_true, Decimal.value?, if_neg Bool.false_ne_true, Option.any_some,
    decide_eq_true_eq]
  refine and_congr_right (fun _ => ?_)
  simp only [Decimal.le, maxBudgetAmount, Decimal.value?, Bool.false_eq_true, if_false,
    decide_eq_true_eq, hmax]

/-- An accepted amount is a number without a sign. -/
theorem exists_of_budgetAmountOk {d : Decimal} (h : budgetAmountOk d = true) :
    ∃ coef exp, d = .fin false coef exp := by
  have hpos := (Bool.and_eq_true_iff.1 h).1
  cases d with
  | inf neg => cases hpos
  | nan neg sig p => cases hpos
  | fin neg coef exp =>
      cases neg with
      | false => exact ⟨coef, exp, rfl⟩
      | true =>
          have hmag : 0 ≤ Decimal.magnitude coef exp :=
            mul_nonneg (Nat.cast_nonneg _) (zpow_nonneg (by norm_num) _)
          rw [Decimal.value?, Option.any_some, if_pos rfl, decide_eq_true_eq] at hpos
          linarith

/-- The column takes an accepted amount, unless it has too many decimal places. -/
theorem storeAmount_of_budgetAmountOk {d : Decimal} (h : budgetAmountOk d = true) :
    storeAmount (some d) = if scaleOk d = true then .ok (storedAmount d) else .error .dataError := by
  obtain ⟨coef, exp, rfl⟩ := exists_of_budgetAmountOk h
  have hle : Decimal.magnitude coef exp ≤ 999999999999 / 100 := by
    have hmax := (budgetAmountOk_iff.1 h).2
    linarith
  exact storeAmount_of_le hle

/-- An accepted amount is stored as nothing exactly below half a cent. -/
theorem roundCents_pos_iff {q : ℚ} : 0 < roundCents q ↔ 1 / 200 ≤ q := by
  have hfloor : 1 ≤ ⌊q * 100 + 1 / 2⌋ ↔ 1 / 200 ≤ q := by
    rw [Int.le_floor, Int.cast_one]
    constructor <;> intro h <;> linarith
  rw [← hfloor, roundCents]
  omega

end SpendLens
