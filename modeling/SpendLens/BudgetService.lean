/-
# Budgets: the rows, and spend against budget

Budgets are created and changed under the unique index on user, category and period,
and every integrity failure of the database is reported as a conflict on it.

The status of every active monthly budget: its spend is accumulated row by row in
the program, its ratio is a decimal quotient of 28 digits converted to a binary64
number.  A ratio that is NaN is `none`.
-/
import SpendLens.BudgetSchema
import SpendLens.Insights
import SpendLens.Lib.Rounding

namespace SpendLens

open Grouping Rounding

/-! ## Rows -/

/-- Is this the budget, and is it the user's? -/
def isBudget (userId budgetId : UUID) (b : Budget) : Bool := b.id = budgetId && b.userId = userId

/-- A budget the user owns. -/
def getBudget (userId budgetId : UUID) : Service Budget := do
  let rows ← sql (.selectBudgets [] (isBudget userId budgetId))
  match ← scalarOneOrNone rows with
  | none => throw (.budgetNotFound budgetId)
  | some budget => return budget

def refreshBudget (id : UUID) : Service Budget := do
  let rows ← sql (.selectBudgets [] (fun b => b.id = id))
  refreshed rows

/-- `flush` and `commit`; an integrity failure of either is taken for a conflict. -/
def saveBudget (flush : Service Unit) : Service Unit :=
  tryCatch (do flush; commit) (fun e =>
    match e with
    | .integrityError => do
        rollback
        throw .budgetAlreadyExists
    | e => throw e)

/-- Insert a budget. -/
def createBudget (userId : UUID) (payload : BudgetCreate) : Service Budget := do
  let id ← uuid4
  saveBudget (sql (.insertBudget
    { id := id, userId := userId, category := payload.category, amount := payload.amount,
      period := payload.period, alertThresholdPct := payload.alertThresholdPct,
      active := payload.active }))
  refreshBudget id

/-- Partial-update a budget. -/
def updateBudget (userId budgetId : UUID) (patch : BudgetPatch) : Service Budget := do
  let budget ← getBudget userId budgetId
  saveBudget (flushColumns BudgetColumn.changes (fun cols => sql (.updateBudget budget.id cols))
    budget patch.columns)
  refreshBudget budget.id

/-- Hard-delete a budget. -/
def deleteBudget (userId budgetId : UUID) : Service Unit := do
  let budget ← getBudget userId budgetId
  sql (.deleteBudget budget.id)
  commit

/-! ## Listing -/

/-- The position of a category in the enumeration type of the database. -/
def ExpenseCategory.position (c : ExpenseCategory) : ℕ :=
  values.findIdx (fun p => p.1 = c)

/-- The `WHERE` clause of `listBudgets`. -/
def isBudgetOf (userId : UUID) (includeInactive : Bool) (b : Budget) : Bool :=
  b.userId = userId && (includeInactive || b.active)

/-- `ORDER BY category` -/
def byCategory (a b : Budget) : Bool := a.category.position ≤ b.category.position

/-- The user's budgets, sorted by category. -/
def listBudgets (order : RowOrder) (userId : UUID) (includeInactive : Bool) :
    Service (List Budget) := do
  let found ← sql (.selectBudgets [] (isBudgetOf userId includeInactive))
  return (order.arrange found).mergeSort byCategory

/-! ## Status -/

/-- One row of the budget-status response. -/
structure BudgetStatus where
  budgetId : UUID
  category : ExpenseCategory
  period : BudgetPeriod
  amount : Numeric
  spent : Numeric
  remaining : Numeric
  ratio : Option ℚ
  alertThresholdPct : ℤ
  alertTriggered : Bool
  periodStart : Date
  periodEnd : Date
  deriving DecidableEq

structure BudgetStatusReport where
  today : Date
  items : List BudgetStatus
  deriving DecidableEq

/-- `float(…)` of a number. -/
def toFloat (q : ℚ) : ℚ := roundSig 2 53 q

/-- `spent / amount` as a number of 28 digits, as a float and clamped at zero; the
comparison that guards the division raises on a NaN. -/
def spendRatio (spent amount : Numeric) : Except PyExc (Option ℚ) :=
  match amount.positive? with
  | none => .error .invalidOperation
  | some false => .ok (some 0)
  | some true =>
      .ok ((spent.quotient amount).map (fun q => max (toFloat (roundSig 10 28 q)) 0))

/-- `ratio * 100 >= threshold_pct` -/
def alertReached (ratio : Option ℚ) (thresholdPct : ℤ) : Bool :=
  ratio.any (fun r => (thresholdPct : ℚ) ≤ toFloat (r * 100))

/-- The status of one budget. -/
def statusOf (spentByCategory : Dict ExpenseCategory Numeric) (periodStart periodEnd : Date)
    (budget : Budget) : Except PyExc BudgetStatus :=
  let spent := spentByCategory.getD budget.category 0
  (spendRatio spent budget.amount).map (fun ratio =>
    { budgetId := budget.id
      category := budget.category
      period := budget.period
      amount := budget.amount
      spent := spent
      remaining := budget.amount - spent
      ratio := ratio
      alertThresholdPct := budget.alertThresholdPct
      alertTriggered := alertReached ratio budget.alertThresholdPct
      periodStart := periodStart
      periodEnd := periodEnd })

/-- The budgets with the window of this report. -/
def isMonthly (b : Budget) : Bool := b.period = .monthly

/-- Spend against budget for every active monthly budget of the user. -/
def budgetStatus (order : RowOrder) (userId : UUID) (today : Date) :
    Service BudgetStatusReport := do
  let budgets ← listBudgets order userId false
  let monthly := budgets.filter isMonthly
  if monthly.isEmpty then return ⟨today, []⟩
  else
    let (periodStart, periodEnd) ← Prog.ofExcept (monthBounds today)
    let categories := monthly.map Budget.category
    let rows ← sql (.selectExpenses [] (fun e =>
      isSpentIn userId periodStart periodEnd e && categories.contains e.category))
    let spentByCategory :=
      Dict.accumulate Expense.category Expense.amount (order.arrange rows)
    let items ← Prog.ofExcept (monthly.mapM (statusOf spentByCategory periodStart periodEnd))
    return ⟨today, items⟩

/-- A ratio is never negative. -/
theorem spendRatio_nonneg {spent amount : Numeric} {r : ℚ}
    (h : spendRatio spent amount = .ok (some r)) : 0 ≤ r := by
  unfold spendRatio at h
  split at h
  · cases h
  · cases h
    exact le_refl 0
  · cases hq : spent.quotient amount with
    | none =>
        rw [hq] at h
        cases h
    | some q =>
        rw [hq] at h
        cases h
        exact le_max_right _ _

/-- A budget that is a number has a ratio, if only NaN. -/
theorem spendRatio_ok {spent amount : Numeric} (h : amount ≠ .nan) :
    ∃ r, spendRatio spent amount = .ok r := by
  unfold spendRatio
  cases amount with
  | nan => exact absurd rfl h
  | cents n =>
      rw [Numeric.positive?]
      cases decide (0 < n) with
      | false => exact ⟨_, rfl⟩
      | true => exact ⟨_, rfl⟩

end SpendLens
