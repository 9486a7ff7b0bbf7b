/-
# The tables

The rows of the six tables the services work on, with the columns some modelled
function reads or writes.  `Expense.receiptId`, `Receipt.external…` and the
budget key carry unique indexes; the two tables with an upsert are keyed by its
conflict target.  An ORM update is a list of column assignments; what the
database does with one (it may refuse it) is the column's `store`, and whether
the ORM counts it as a change of the loaded row is its `changes`.
-/
import SpendLens.Lib.RowLocks
import SpendLens.Lib.Json
import SpendLens.PyDecimal

namespace SpendLens

/-! ## Scalars -/

/-- A 128-bit identifier. -/
abbrev UUID := Fin (2 ^ 128)

instance neZero_uuid : NeZero (2 ^ 128 : ℕ) := ⟨by decide⟩

/-- A point in time, in microseconds. -/
abbrev Timestamp := ℕ

inductive ExpenseCategory where
  | foodDining | groceries | transportation | shopping | entertainment | utilities
  | healthcare | housing | travel | education | personal | other
  deriving DecidableEq, Repr

namespace ExpenseCategory

/-- Every category, in declaration order, with its stored value. -/
def values : List (ExpenseCategory × String) :=
  [(foodDining, "food_dining"), (groceries, "groceries"), (transportation, "transportation"),
    (shopping, "shopping"), (entertainment, "entertainment"), (utilities, "utilities"),
    (healthcare, "healthcare"), (housing, "housing"), (travel, "travel"),
    (education, "education"), (personal, "personal"), (other, "other")]

def value (c : ExpenseCategory) : String := ((values.find? (fun p => p.1 = c)).map Prod.snd).getD ""

/-- `ExpenseCategory(text)`; `none` is `ValueError`. -/
def of? (s : String) : Option ExpenseCategory := (values.find? (fun p => p.2 = s)).map Prod.fst

theorem of?_value (c : ExpenseCategory) : of? c.value = some c := by
  cases c <;> decide

end ExpenseCategory

inductive ExpenseSource where
  | manual | receipt | imported
  deriving DecidableEq, Repr

inductive ReceiptStatus where
  | uploaded | processing | parsed | categorised | failed
  deriving DecidableEq, Repr

/-- The stored value of a status. -/
def ReceiptStatus.value : ReceiptStatus → String
  | .uploaded => "uploaded"
  | .processing => "processing"
  | .parsed => "parsed"
  | .categorised => "categorised"
  | .failed => "failed"

inductive OcrMethod where
  | tesseract | gpt4v
  deriving DecidableEq, Repr

inductive BudgetPeriod where
  | monthly
  deriving DecidableEq, Repr

/-! ## Rows -/

structure User where
  id : UUID
  inboxToken : String
  deriving DecidableEq

structure Receipt where
  id : UUID
  userId : UUID
  storageKey : String
  mimeType : String
  fileSizeBytes : ℕ
  status : ReceiptStatus
  ocrMethod : Option OcrMethod
  ocrConfidence : Option ℤ
  rawText : Option String
  parsedPayload : Option Json
  errorMessage : Option String
  externalMessageId : Option String
  createdAt : Timestamp
  updatedAt : Timestamp

structure Expense where
  id : UUID
  userId : UUID
  merchantName : String
  amount : Numeric
  currency : String
  category : ExpenseCategory
  expenseDate : Date
  description : Option String
  receiptId : Option UUID
  source : ExpenseSource
  createdAt : Timestamp
  updatedAt : Timestamp
  deriving DecidableEq

structure Budget where
  id : UUID
  userId : UUID
  category : ExpenseCategory
  amount : Numeric
  period : BudgetPeriod
  alertThresholdPct : ℤ
  active : Bool
  createdAt : Timestamp
  updatedAt : Timestamp
  deriving DecidableEq

structure CategoryCorrection where
  userId : UUID
  merchantName : String
  category : ExpenseCategory
  occurrenceCount : ℕ
  deriving DecidableEq

structure GmailConnection where
  id : UUID
  userId : UUID
  googleEmail : String
  encryptedRefreshToken : String
  lastHistoryId : Option String
  createdAt : Timestamp
  updatedAt : Timestamp
  deriving DecidableEq

/-- `uq_correction_user_merchant`, the conflict target of the upsert. -/
def CategoryCorrection.key (c : CategoryCorrection) : UUID × String := (c.userId, c.merchantName)

/-- `uq_receipts_user_external_message_id`, a partial index. -/
def Receipt.messageKey (r : Receipt) : Option (UUID × String) :=
  r.externalMessageId.map (fun m => (r.userId, m))

/-- `uq_budget_per_category_period`. -/
def Budget.periodKey (b : Budget) : Option (UUID × ExpenseCategory × BudgetPeriod) :=
  some (b.userId, b.category, b.period)

/-- `uq_gmail_user_account`. -/
def GmailConnection.accountKey (c : GmailConnection) : Option (UUID × String) :=
  some (c.userId, c.googleEmail)

/-! ## Exceptions -/

/-- The exceptions the services raise or let through. -/
inductive PyExc where
  -- domain errors
  | unknownInboxToken (token : String)
  | unsupportedMediaType (msg : String)
  | payloadTooLarge (msg : String)
  | receiptNotFound (id : UUID)
  | receiptNotRetryable (status : String)
  | expenseNotFound (id : UUID)
  | etagMismatch (id : UUID)
  | budgetNotFound (id : UUID)
  | budgetAlreadyExists
  | gmailConnectionNotFound (id : UUID)
  | pipelineError (msg : String)
  | pdfRasterError (msg : String)
  | gmailSyncError (msg : String)
  | gmailNotConfigured
  | oauthStateError (msg : String)
  | tokenExchangeError (msg : String)
  | secretBoxNotConfigured
  | secretBoxError (msg : String)
  | invalidSignature (msg : String)
  | pushVerificationError (msg : String)
  -- language and library errors
  | valueError (msg : String)
  | binasciiError (msg : String)
  | typeError
  | attributeError
  | overflowError
  | invalidOperation
  | jsonDecodeError
  | unicodeDecodeError
  | recursionError
  | invalidCursor
  | validationError (field : String)
  | openAIError
  | httpError
  | storageError
  | brokerError
  -- database and ORM errors
  | integrityError
  | dataError
  | dbapiError
  | pendingRollback
  | staleData
  | invalidRequest
  | multipleResultsFound
  | workerLost
  deriving DecidableEq, Repr

/-! ## Column assignments -/

/-- Text Postgres can store: no NUL character. -/
def textOk (s : String) : Bool := s.toList.all (fun c => c ≠ '\x00')

/-- Store a text in a `NOT NULL` column of at most `n` characters. -/
def storeText (n : ℕ) (v : Option String) : Except PyExc String :=
  match v with
  | none => .error .integrityError
  | some s => if textOk s && s.length ≤ n then .ok s else .error .dataError

/-- Store a value in a `NOT NULL` column that holds every value. -/
def storeSome {α : Type} : Option α → Except PyExc α
  | none => .error .integrityError
  | some a => .ok a

/-- Store a decimal in a `NOT NULL Numeric(12, 2)` column. -/
def storeAmount (v : Option Decimal) : Except PyExc Numeric :=
  match v with
  | none => .error .integrityError
  | some d =>
      match d.toNumeric with
      | none => .error .dataError
      | some a => .ok a

/-- Store a nullable text of at most `n` characters. -/
def storeOptText (n : ℕ) : Option String → Except PyExc (Option String)
  | none => .ok none
  | some s => if textOk s && s.length ≤ n then .ok (some s) else .error .dataError

/-- An assignment to a column of an expense; an explicit `None` is a value. -/
inductive ExpenseColumn where
  | merchantName (v : Option String)
  | amount (v : Option Decimal)
  | currency (v : Option String)
  | category (v : Option ExpenseCategory)
  | expenseDate (v : Option Date)
  | description (v : Option String)
  | receiptId (v : Option UUID)
  deriving DecidableEq

namespace ExpenseColumn

/-- Write the column of a stored row. -/
def store (e : Expense) : ExpenseColumn → Except PyExc Expense
  | merchantName v => (storeText 255 v).map (fun s => { e with merchantName := s })
  | amount v => (storeAmount v).map (fun a => { e with amount := a })
  | currency v => (storeText 3 v).map (fun s => { e with currency := s })
  | category v => (storeSome v).map (fun c => { e with category := c })
  | expenseDate v => (storeSome v).map (fun d => { e with expenseDate := d })
  | description v => (storeOptText 1024 v).map (fun s => { e with description := s })
  | receiptId v => .ok { e with receiptId := v }

/-- Does the assignment change the loaded row, in the eyes of the ORM? -/
def changes (e : Expense) : ExpenseColumn → Bool
  | merchantName v => v ≠ some e.merchantName
  | amount v => !(v.any (fun d => d.eq e.amount.toDecimal))
  | currency v => v ≠ some e.currency
  | category v => v ≠ some e.category
  | expenseDate v => v ≠ some e.expenseDate
  | description v => v ≠ e.description
  | receiptId v => v ≠ e.receiptId

end ExpenseColumn

/-- An assignment to a column of a receipt. -/
inductive ReceiptColumn where
  | status (v : ReceiptStatus)
  | ocrMethod (v : OcrMethod)
  | ocrConfidence (v : ℤ)
  | rawText (v : String)
  | parsedPayload (v : Json)
  | errorMessage (v : Option String)

namespace ReceiptColumn

/-- Write the column of a stored row; a `JSONB` column refuses `\u0000`. -/
def store (r : Receipt) : ReceiptColumn → Except PyExc Receipt
  | status v => .ok { r with status := v }
  | ocrMethod v => .ok { r with ocrMethod := some v }
  | ocrConfidence v =>
      if v.natAbs < 10 ^ 5 then .ok { r with ocrConfidence := some v } else .error .dataError
  | rawText v => if textOk v then .ok { r with rawText := some v } else .error .dataError
  | parsedPayload v =>
      if v.allText textOk then .ok { r with parsedPayload := some v } else .error .dataError
  | errorMessage v =>
      if v.all textOk then .ok { r with errorMessage := v } else .error .dataError

/-- Does the assignment change the loaded row, in the eyes of the ORM? -/
def changes (r : Receipt) : ReceiptColumn → Bool
  | status v => v ≠ r.status
  | ocrMethod v => some v ≠ r.ocrMethod
  | ocrConfidence v => some v ≠ r.ocrConfidence
  | rawText v => some v ≠ r.rawText
  | parsedPayload v => !(r.parsedPayload.any (fun u => v.beq u))
  | errorMessage v => v ≠ r.errorMessage

end ReceiptColumn

/-- An assignment to a column of a budget; an explicit `None` is a value. -/
inductive BudgetColumn where
  | category (v : Option ExpenseCategory)
  | amount (v : Option Decimal)
  | period (v : Option BudgetPeriod)
  | alertThresholdPct (v : Option ℤ)
  | active (v : Option Bool)
  deriving DecidableEq

namespace BudgetColumn

/-- Write the column of a stored row. -/
def store (b : Budget) : BudgetColumn → Except PyExc Budget
  | category v => (storeSome v).map (fun c => { b with category := c })
  | amount v => (storeAmount v).map (fun a => { b with amount := a })
  | period v => (storeSome v).map (fun p => { b with period := p })
  | alertThresholdPct v => (storeSome v).map (fun n => { b with alertThresholdPct := n })
  | active v => (storeSome v).map (fun x => { b with active := x })

/-- Does the assignment change the loaded row, in the eyes of the ORM? -/
def changes (b : Budget) : BudgetColumn → Bool
  | category v => v ≠ some b.category
  | amount v => !(v.any (fun d => d.eq b.amount.toDecimal))
  | period v => v ≠ some b.period
  | alertThresholdPct v => v ≠ some b.alertThresholdPct
  | active v => v ≠ some b.active

end BudgetColumn

/-- Write several columns. -/
def storeAll {Row Column : Type} (store : Row → Column → Except PyExc Row) (row : Row) :
    List Column → Except PyExc Row
  | [] => .ok row
  | c :: cs =>
      match store row c with
      | .error e => .error e
      | .ok row => storeAll store row cs

end SpendLens
