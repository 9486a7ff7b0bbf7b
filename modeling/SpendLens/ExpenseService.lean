/-
# Expenses: queries and writes

Reading, listing, patching and deleting expenses.  A patch is applied to the row as
it was loaded: the `UPDATE` carries the fields that differ from it, and a correction
is recorded when the category does and the patched row names a merchant.
-/
import SpendLens.Categorisation
import SpendLens.ExpenseSchema
import SpendLens.Pagination

namespace SpendLens

/-! ## Filters -/

def defaultPageSize : ℤ := 25

def maxPageSize : ℤ := 100

/-- `LIKE` on characters: `%` is any text, `_` any character, and a backslash takes
the next character literally. -/
def likeMatch (fold : Char → Char) : List Char → List Char → Bool
  | [], cs => cs.isEmpty
  | '%' :: p, cs => cs.tails.any (fun t => likeMatch fold p t)
  | '_' :: p, cs =>
      match cs with
      | [] => false
      | _ :: cs => likeMatch fold p cs
  | ['\\'], _ => false
  | '\\' :: a :: p, cs =>
      match cs with
      | [] => false
      | c :: cs => fold a = fold c && likeMatch fold p cs
  | a :: p, cs =>
      match cs with
      | [] => false
      | c :: cs => fold a = fold c && likeMatch fold p cs

/-- Query filters for `listExpenses`, all optional, all ANDed. -/
structure ExpenseFilters where
  category : Option ExpenseCategory
  merchantQuery : Option String
  dateFrom : Option Date
  dateTo : Option Date
  minAmount : Option Decimal
  maxAmount : Option Decimal
  deriving DecidableEq

/-- The search text, if there is one. -/
def ExpenseFilters.query? (f : ExpenseFilters) : Option String :=
  f.merchantQuery.filter (fun q => !q.isEmpty)

/-- The parameters the database may refuse. -/
def ExpenseFilters.params (f : ExpenseFilters) : List Param :=
  (f.query?.map Param.text).toList ++ (f.minAmount.map Param.numeric).toList ++
    (f.maxAmount.map Param.numeric).toList

/-- The `WHERE` clauses of the filters.  An amount is cast to the type of the column
before it is compared. -/
def applyFilters (env : Env) (f : ExpenseFilters) (e : Expense) : Bool :=
  f.category.all (fun c => e.category = c) &&
    f.query?.all (fun q =>
      likeMatch env.foldCase (('%' :: q.toList) ++ ['%']) e.merchantName.toList) &&
    f.dateFrom.all (fun d => d ≤ e.expenseDate) &&
    f.dateTo.all (fun d => e.expenseDate ≤ d) &&
    f.minAmount.all (fun a => a.toNumeric.all (fun n => n.le e.amount)) &&
    f.maxAmount.all (fun a => a.toNumeric.all (fun n => e.amount.le n))

/-! ## Reading -/

/-- The entity tag of a row. -/
def computeEtag (env : Env) (e : Expense) : String :=
  "W/\"" ++ env.sha256Hex32 (uuidStr e.id ++ ":" ++ env.isoTimestamp e.updatedAt) ++ "\""

/-- Is this the expense, and is it the user's? -/
def isExpenseOf (userId expenseId : UUID) (e : Expense) : Bool :=
  e.id = expenseId && e.userId = userId

/-- An expense the user owns. -/
def getExpense (userId expenseId : UUID) : Service Expense := do
  let rows ← sql (.selectExpenses [] (isExpenseOf userId expenseId))
  match ← scalarOneOrNone rows with
  | none => throw (.expenseNotFound expenseId)
  | some expense => return expense

def refreshExpense (id : UUID) : Service Expense := do
  let rows ← sql (.selectExpenses [] (fun e => e.id = id))
  refreshed rows

section asks

variable {guar : Op → Prop}

/-- Both only select. -/
theorem asks_getExpense (hselect : ∀ params p, guar (.sql (.selectExpenses params p)))
    (userId expenseId : UUID) : (getExpense userId expenseId).Asks guar := by
  refine Prog.Asks.step (hselect _ _) (fun rows => Prog.Asks.bind (asks_scalarOneOrNone rows) ?_)
  rintro (_ | expense)
  · exact Prog.Asks.raise
  · exact Prog.Asks.ret

theorem asks_refreshExpense (hselect : ∀ params p, guar (.sql (.selectExpenses params p)))
    (id : UUID) : (refreshExpense id).Asks guar :=
  Prog.Asks.step (hselect _ _) asks_refreshed

end asks

/-- Rows that come after a position in the list. -/
def afterCursor (cursor : Option ExpenseCursor) (e : Expense) : Bool :=
  cursor.all (fun c =>
    e.expenseDate < c.expenseDate || (e.expenseDate = c.expenseDate && e.id < c.id))

/-- `ORDER BY expense_date DESC, id DESC`. -/
def newestFirst (a b : Expense) : Bool :=
  b.expenseDate < a.expenseDate || (b.expenseDate = a.expenseDate && b.id ≤ a.id)

structure ExpensePage where
  items : List Expense
  nextCursor : Option ExpenseCursor

/-- The page made of the fetched rows, one row more than a page if there is a next one. -/
def pageOf (pageSize : ℕ) (rows : List Expense) : ExpensePage :=
  if pageSize < rows.length then
    { items := rows.take pageSize
      nextCursor := rows[pageSize - 1]?.map (fun last => ⟨last.expenseDate, last.id⟩) }
  else ⟨rows, none⟩

/-- A page of the user's expenses, newest first. -/
def listExpenses (env : Env) (userId : UUID) (filters : ExpenseFilters)
    (cursor : Option ExpenseCursor) (pageSize : ℤ) : Service ExpensePage := do
  let pageSize := (max 1 (min pageSize maxPageSize)).toNat
  let rows ← sql (.selectExpenses filters.params (fun e =>
    e.userId = userId && applyFilters env filters e && afterCursor cursor e))
  return pageOf pageSize ((rows.mergeSort newestFirst).take (pageSize + 1))

/-! ## Writing -/

/-- Insert a manual expense and return the refreshed row. -/
def createExpense (U : Unicode) (userId : UUID) (payload : ExpenseCreate U) :
    Service Expense := do
  let id ← uuid4
  sql (.insertExpense
    { id := id, userId := userId, merchantName := payload.merchantName, amount := payload.amount,
      currency := payload.currency, category := payload.category,
      expenseDate := payload.expenseDate, description := payload.description,
      receiptId := none, source := .manual })
  commit
  refreshExpense id

/-- The correction a patch teaches, from the row it was applied to: the merchant the
patched row names, and the new category. -/
def ExpensePatch.correction (p : ExpensePatch) (e : Expense) : Option (String × ExpenseCategory) :=
  match p.category, p.merchantName.getD (some e.merchantName) with
  | some (some category), some merchant =>
      if category ≠ e.category ∧ ¬merchant.isEmpty then some (merchant, category) else none
  | _, _ => none

/-- Upsert the correction of a merchant. -/
def recordCorrection (env : Env) (userId : UUID) (merchant : String) (category : ExpenseCategory) :
    Service Unit :=
  sql (.upsertCorrection userId (normaliseMerchant env.unicode merchant) category)

/-- Write a patch to the loaded row.  The upsert flushes the row first, so that a patch
that nulls the category has failed before a correction is due. -/
def applyPatch (env : Env) (userId : UUID) (expense : Expense) (patch : ExpensePatch) :
    Service Unit := do
  flushColumns ExpenseColumn.changes (fun cols => sql (.updateExpense expense.id cols)) expense
    patch.columns
  match patch.correction expense with
  | some (merchant, category) => recordCorrection env userId merchant category
  | none => return ()

/-- Does the request carry a stale `If-Match`? -/
def isStale (env : Env) (ifMatch : Option String) (e : Expense) : Bool :=
  ifMatch.any (fun tag => tag ≠ computeEtag env e)

/-- Partial-update an expense. -/
def updateExpense (env : Env) (userId expenseId : UUID) (patch : ExpensePatch)
    (ifMatch : Option String) : Service Expense := do
  let expense ← getExpense userId expenseId
  if isStale env ifMatch expense then throw (.etagMismatch expenseId)
  else
    applyPatch env userId expense patch
    commit
    refreshExpense expense.id

/-- Delete an expense the user owns. -/
def deleteExpense (env : Env) (userId expenseId : UUID) (ifMatch : Option String) :
    Service Unit := do
  let expense ← getExpense userId expenseId
  if isStale env ifMatch expense then throw (.etagMismatch expenseId)
  else
    sql (.deleteExpense expense.id)
    commit

/-! ## The list endpoint -/

/-- The position a request asks for; an empty cursor is none. -/
def decodeCursor (env : Env) (cursor : Option String) : Service (Option ExpenseCursor) :=
  match cursor.filter (fun c => !c.isEmpty) with
  | none => .ret none
  | some c =>
      match ExpenseCursor.decode env c with
      | .ok position => .ret (some position)
      | .error e => .raise e

/-- One page by the text of a cursor. -/
def listPage (env : Env) (userId : UUID) (filters : ExpenseFilters) (cursor : Option String)
    (pageSize : ℤ) : Service (List Expense × Option String) := do
  let decoded ← decodeCursor env cursor
  let page ← listExpenses env userId filters decoded pageSize
  return (page.items, page.nextCursor.map ExpenseCursor.encode)

end SpendLens
