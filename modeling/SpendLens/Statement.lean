/-
# The operations the services ask for

`Op` is everything a service does outside its own memory: SQL statements,
transaction control, object storage, the task queue, fresh identifiers, clocks and
the answers of foreign libraries and services.  `exec` answers one operation of one
session.  Whatever is not decided by the state (faults, identifiers, clocks,
foreign answers) comes from an `Env`, indexed by the number of operations answered
so far, so that a statement about every `Env` is a statement about everything the
surroundings may do.

A statement that fails, by its own fault or by one of the surroundings, rolls its
transaction back and leaves the session unusable until `rollback`.  A fault may
strike before an operation takes effect or after; for a statement the two are
the same, for a commit or a call to another system they are not.
-/
import SpendLens.Schema
import SpendLens.Lib.Interleaving

namespace SpendLens

/-! ## Identifiers as text -/

def hexDigit (n : ℕ) : Char := if n < 10 then Char.ofNat (48 + n) else Char.ofNat (87 + n)

/-- The last `k` hexadecimal digits of a number. -/
def hexChars : ℕ → ℕ → List Char
  | 0, _ => []
  | k + 1, n => hexDigit (n / 16 ^ k % 16) :: hexChars k n

/-- `str` of an identifier, on characters. -/
def uuidChars (id : UUID) : List Char :=
  let h := hexChars 32 id.val
  h.take 8 ++ '-' :: (h.drop 8).take 4 ++ '-' :: (h.drop 12).take 4 ++ '-' ::
    (h.drop 16).take 4 ++ '-' :: h.drop 20

/-- `str` of an identifier. -/
def uuidStr (id : UUID) : String := String.ofList (uuidChars id)

/-! ## Foreign libraries and services -/

/-- An image in the memory of the imaging library. -/
structure Image where
  mode : String
  data : List UInt8
  deriving DecidableEq

/-- `OcrResult`. -/
structure OcrResult where
  text : String
  meanConfidence : ℚ
  deriving DecidableEq

/-- An HTTP answer; the body is read as JSON on demand. -/
structure Response where
  statusCode : ℕ
  text : String
  json : Except PyExc Json

/-- An encryption key in use.  A ciphertext is base64url text; `none` is
`InvalidToken`. -/
structure Fernet where
  encrypt : String → String
  decrypt : String → Option String
  textOk_encrypt : ∀ plaintext, textOk (encrypt plaintext) = true

/-- Calls whose answers the surroundings decide. -/
inductive Ext where
  | imageOpen (body : List UInt8)
  | convertFromBytes (body : List UInt8)
  | imageConvert (img : Image) (mode : String)
  | imageSave (img : Image) (format : String)
  | runTesseract (img : Image)
  | chatCompletion (model : String) (system : String) (user : List String)
  | httpPost (url : String) (data headers : List (String × String))
  | httpGet (url : String) (params headers : List (String × String))
  deriving DecidableEq

@[reducible] def Ext.Res : Ext → Type
  | imageOpen _ => Image
  | convertFromBytes _ => List Image
  | imageConvert _ _ => Image
  | imageSave _ _ => List UInt8
  | runTesseract _ => OcrResult
  | chatCompletion _ _ _ => Option String
  | httpPost _ _ _ => Response
  | httpGet _ _ _ => Response

/-- A failure of an operation, before or after it took effect. -/
inductive Fault where
  | none
  | before
  | after
  deriving DecidableEq, Repr

/-- `Settings`, the fields the modelled code reads. -/
structure Settings where
  environment : String
  jwtSecret : String
  s3Bucket : String
  openaiApiKey : Option String
  openaiModelCategorise : String
  openaiModelVision : String
  ocrConfidenceThreshold : ℚ
  inboxEmailDomain : String
  gmailOauthClientId : Option String
  gmailOauthClientSecret : Option String
  gmailOauthRedirectUri : String
  gmailTokenEncryptionKey : Option String

/-- Everything the surroundings decide. -/
structure Env where
  settings : Settings
  unicode : Unicode
  /-- The failure that strikes an operation. -/
  fault : ℕ → Fault
  uuid4 : ℕ → UUID
  clock : ℕ → Timestamp
  today : ℕ → Date
  utcnow : ℕ → Date
  external : ℕ → (x : Ext) → Except PyExc x.Res
  /-- The truncated HMAC of a user id under a secret. -/
  userPrefix : UUID → String → String
  /-- The truncated hash of an ETag's text. -/
  sha256Hex32 : String → String
  /-- `isoformat` of a point in time. -/
  isoTimestamp : Timestamp → String
  /-- `hmac.new(key, message, sha256).hexdigest()`. -/
  hmacSha256 : String → String → String
  hmacSha256_hex : ∀ key message, ∀ c ∈ (hmacSha256 key message).toList,
    c.isDigit ∨ 'a' ≤ c ∧ c ≤ 'f'
  /-- `Fernet(key)`, or the text of its `ValueError`. -/
  fernet : String → Except String Fernet
  /-- `str` of a JSON value that is no string. -/
  reprJson : Json → String
  /-- The nesting at which the JSON reader exhausts the stack. -/
  jsonDepth : ℕ
  jsonDepth_pos : 0 < jsonDepth
  /-- Case folding in the locale of the database. -/
  foldCase : Char → Char

/-! ## The database -/

/-- The tables, each with the uncommitted writes of the sessions `Tx`. -/
structure Db (Tx : Type) where
  users : List User
  receipts : Store Tx Receipt UUID Receipt.id
  expenses : Store Tx Expense UUID Expense.id
  budgets : Store Tx Budget UUID Budget.id
  corrections : Store Tx CategoryCorrection (UUID × String) CategoryCorrection.key
  connections : Store Tx GmailConnection UUID GmailConnection.id

/-- A task in the queue. -/
inductive Task where
  | processReceipt (id : UUID)
  | categoriseReceipt (id : UUID)
  | gmailHistorySync (connectionId : UUID) (pushHistoryId : String)
  deriving DecidableEq, Repr

/-- The state all sessions share. -/
structure World (Tx : Type) where
  db : Db Tx
  blobs : List (String × List UInt8)
  queue : List Task
  /-- How many operations have been answered. -/
  calls : ℕ
  /-- Sessions whose transaction has failed and was not rolled back yet. -/
  failed : Tx → Bool

/-- A bind parameter Postgres may refuse. -/
inductive Param where
  | text (s : String)
  | numeric (d : Decimal)
  deriving DecidableEq

def Param.ok : Param → Bool
  | text s => textOk s
  | numeric d => d.toNumeric.isSome

/-- A row about to be inserted; the database sets the timestamps. -/
structure NewExpense where
  id : UUID
  userId : UUID
  merchantName : String
  amount : Decimal
  currency : String
  category : ExpenseCategory
  expenseDate : Date
  description : Option String
  receiptId : Option UUID
  source : ExpenseSource
  deriving DecidableEq

structure NewBudget where
  id : UUID
  userId : UUID
  category : ExpenseCategory
  amount : Decimal
  period : BudgetPeriod
  alertThresholdPct : ℤ
  active : Bool
  deriving DecidableEq

/-- SQL statements.  A `SELECT` carries its `WHERE` clause as a predicate; order,
limit and aggregation are applied to its rows. -/
inductive Stmt where
  | selectUsers (params : List Param) (p : User → Bool)
  | selectReceipts (params : List Param) (p : Receipt → Bool)
  | selectExpenses (params : List Param) (p : Expense → Bool)
  | selectBudgets (params : List Param) (p : Budget → Bool)
  | selectCorrections (params : List Param) (p : CategoryCorrection → Bool)
  | selectConnections (params : List Param) (p : GmailConnection → Bool)
  | insertReceipt (r : Receipt)
  | updateReceipt (id : UUID) (cols : List ReceiptColumn)
  | deleteReceipt (id : UUID)
  | insertExpense (e : NewExpense)
  | updateExpense (id : UUID) (cols : List ExpenseColumn)
  | deleteExpense (id : UUID)
  | insertBudget (b : NewBudget)
  | updateBudget (id : UUID) (cols : List BudgetColumn)
  | deleteBudget (id : UUID)
  | upsertCorrection (userId : UUID) (merchant : String) (category : ExpenseCategory)
  | upsertConnection (id userId : UUID) (googleEmail encrypted : String)
  | updateConnection (id : UUID) (lastHistoryId : String)
  | deleteConnection (id : UUID)

@[reducible] def Stmt.Res : Stmt → Type
  | selectUsers _ _ => List User
  | selectReceipts _ _ => List Receipt
  | selectExpenses _ _ => List Expense
  | selectBudgets _ _ => List Budget
  | selectCorrections _ _ => List CategoryCorrection
  | selectConnections _ _ => List GmailConnection
  | upsertConnection _ _ _ _ => GmailConnection
  | _ => Unit

namespace Db

variable {Tx : Type} [DecidableEq Tx]

/-- Publish the writes of a session in every table. -/
def commit (db : Db Tx) (t : Tx) : Db Tx :=
  { db with
    receipts := db.receipts.commit t
    expenses := db.expenses.commit t
    budgets := db.budgets.commit t
    corrections := db.corrections.commit t
    connections := db.connections.commit t }

/-- Discard the writes of a session in every table. -/
def rollback (db : Db Tx) (t : Tx) : Db Tx :=
  { db with
    receipts := db.receipts.rollback t
    expenses := db.expenses.rollback t
    budgets := db.budgets.rollback t
    corrections := db.corrections.rollback t
    connections := db.connections.rollback t }

end Db

section tables

variable {Tx V K X : Type} {key : V → K} [DecidableEq Tx] [DecidableEq K] [DecidableEq X]

/-- `SELECT … WHERE p`, refused if a parameter is. -/
def select (s : Store Tx V K key) (t : Tx) (params : List Param) (p : V → Bool) :
    Except PyExc (List V) :=
  if params.all Param.ok then .ok ((s.view t).rows.filter p) else .error .dataError

/-- `INSERT` under a primary key and a unique index `f`: it waits for an open
transaction that holds one of the entries and fails on an existing one. -/
def insert (s : Store Tx V K key) (t : Tx) (f : V → Option X) (v : V) :
    Option (Except PyExc Unit × Store Tx V K key) :=
  if s.locked t (key v) || (f v).any (fun x => s.contended t f x) then none
  else if ((s.view t).get (key v)).isSome || (f v).any (fun x => s.duplicate t f x) then
    some (.error .integrityError, s)
  else some (.ok (), s.stage t (.put v))

/-- An ORM `UPDATE` by primary key: no such row is `StaleDataError`, a row another
transaction has written is waited for, and `store` may refuse. -/
def update (s : Store Tx V K key) (t : Tx) (k : K) (store : V → Except PyExc V) :
    Option (Except PyExc Unit × Store Tx V K key) :=
  match (s.view t).get k with
  | none => some (.error .staleData, s)
  | some v =>
      if s.locked t k then none
      else
        match store v with
        | .error e => some (.error e, s)
        | .ok v' => some (.ok (), s.stage t (.put v'))

/-- `DELETE` by primary key; deleting nothing is no error. -/
def delete (s : Store Tx V K key) (t : Tx) (k : K) :
    Option (Except PyExc Unit × Store Tx V K key) :=
  match (s.view t).get k with
  | none => some (.ok (), s)
  | some _ => if s.locked t k then none else some (.ok (), s.stage t (.del k))

end tables

/-- The timestamps the database gives a new row. -/
def Receipt.stamp (r : Receipt) (now : Timestamp) : Receipt :=
  { r with createdAt := now, updatedAt := now }

/-- The row the database makes of a new expense, or why it refuses it. -/
def NewExpense.store (e : NewExpense) (now : Timestamp) : Except PyExc Expense := do
  let merchantName ← storeText 255 (some e.merchantName)
  let amount ← storeAmount (some e.amount)
  let currency ← storeText 3 (some e.currency)
  let description ← storeOptText 1024 e.description
  return { e with
    merchantName := merchantName, amount := amount, currency := currency
    description := description, createdAt := now, updatedAt := now }

namespace Stmt

variable {Tx : Type} [DecidableEq Tx]

/-- Answer one statement at time `now`; `none` while it waits for a lock. -/
def exec (now : Timestamp) (t : Tx) (db : Db Tx) :
    (s : Stmt) → Option (Except PyExc s.Res × Db Tx)
  | selectUsers params p =>
      some (if params.all Param.ok then .ok (db.users.filter p) else .error .dataError, db)
  | selectReceipts params p => some (select db.receipts t params p, db)
  | selectExpenses params p => some (select db.expenses t params p, db)
  | selectBudgets params p => some (select db.budgets t params p, db)
  | selectCorrections params p => some (select db.corrections t params p, db)
  | selectConnections params p => some (select db.connections t params p, db)
  | insertReceipt r =>
      if r.externalMessageId.all (fun m => textOk m && m.length ≤ 255) then
        (insert db.receipts t Receipt.messageKey (r.stamp now)).map
          (fun x => (x.1, { db with receipts := x.2 }))
      else some (.error .dataError, db)
  | updateReceipt id cols =>
      (update db.receipts t id (fun r =>
        (storeAll ReceiptColumn.store r cols).map
          (fun r' => { r' with id := r.id, updatedAt := now }))).map
        (fun x => (x.1, { db with receipts := x.2 }))
  | deleteReceipt id =>
      match (db.receipts.view t).get id with
      | none => some (.ok (), db)
      | some _ =>
          -- `ON DELETE SET NULL` on `expenses.receipt_id`
          let linked := (db.expenses.view t).rows.filter (fun e => e.receiptId = some id)
          if db.receipts.locked t id || linked.any (fun e => db.expenses.locked t e.id) then none
          else
            some (.ok (), { db with
              receipts := db.receipts.stage t (.del id)
              expenses := db.expenses.stageAll t
                (linked.map (fun e => .put { e with receiptId := none })) })
  | insertExpense e =>
      match e.store now with
      | .error e => some (.error e, db)
      | .ok row =>
          -- the foreign key to a visible receipt
          if row.receiptId.all (fun r => ((db.receipts.view t).get r).isSome) then
            (insert db.expenses t Expense.receiptId row).map
              (fun x => (x.1, { db with expenses := x.2 }))
          else some (.error .integrityError, db)
  | updateExpense id cols =>
      (update db.expenses t id (fun e =>
        (storeAll ExpenseColumn.store e cols).map
          (fun e' => { e' with id := e.id, updatedAt := now }))).map
        (fun x => (x.1, { db with expenses := x.2 }))
  | deleteExpense id =>
      (delete db.expenses t id).map (fun x => (x.1, { db with expenses := x.2 }))
  | insertBudget b =>
      match storeAmount (some b.amount) with
      | .ok amount =>
          (insert db.budgets t Budget.periodKey
            ⟨b.id, b.userId, b.category, amount, b.period, b.alertThresholdPct, b.active, now,
              now⟩).map (fun x => (x.1, { db with budgets := x.2 }))
      | .error e => some (.error e, db)
  | updateBudget id cols =>
      match (db.budgets.view t).get id with
      | none => some (.error .staleData, db)
      | some b =>
          match storeAll BudgetColumn.store b cols with
          | .error e => some (.error e, db)
          | .ok b' =>
              if db.budgets.locked t id ||
                  (b'.periodKey ≠ b.periodKey &&
                    b'.periodKey.any (fun x => db.budgets.contended t Budget.periodKey x)) then
                none
              else if b'.periodKey ≠ b.periodKey &&
                  b'.periodKey.any (fun x => db.budgets.duplicate t Budget.periodKey x) then
                some (.error .integrityError, db)
              else
                some (.ok (), { db with
                  budgets := db.budgets.stage t (.put { b' with id := b.id, updatedAt := now }) })
  | deleteBudget id =>
      (delete db.budgets t id).map (fun x => (x.1, { db with budgets := x.2 }))
  | upsertCorrection userId merchant category =>
      if textOk merchant && merchant.length ≤ 255 then
        if db.corrections.locked t (userId, merchant) then none
        else
          let count := ((db.corrections.view t).get (userId, merchant)).elim 0
            CategoryCorrection.occurrenceCount
          some (.ok (), { db with
            corrections := db.corrections.stage t
              (.put ⟨userId, merchant, category, count + 1⟩) })
      else some (.error .dataError, db)
  | upsertConnection id userId googleEmail encrypted =>
      if textOk googleEmail && googleEmail.length ≤ 255 && textOk encrypted then
        if db.connections.contended t GmailConnection.accountKey (userId, googleEmail) then none
        else
          match (db.connections.view t).rows.find?
              (fun c => c.accountKey = some (userId, googleEmail)) with
          | some c =>
              if db.connections.locked t c.id then none
              else
                -- the `SET` clause of the upsert does not touch `updated_at`
                let c' := { c with encryptedRefreshToken := encrypted }
                some (.ok c', { db with connections := db.connections.stage t (.put c') })
          | none =>
              -- the foreign key to the user
              if db.users.any (fun u => u.id = userId) then
                let c : GmailConnection := ⟨id, userId, googleEmail, encrypted, none, now, now⟩
                (insert db.connections t GmailConnection.accountKey c).map
                  (fun x => (x.1.map (fun _ => c), { db with connections := x.2 }))
              else some (.error .integrityError, db)
      else some (.error .dataError, db)
  | updateConnection id lastHistoryId =>
      (update db.connections t id (fun c =>
        (storeText 64 (some lastHistoryId)).map
          (fun h => { c with lastHistoryId := some h, updatedAt := now }))).map
        (fun x => (x.1, { db with connections := x.2 }))
  | deleteConnection id =>
      (delete db.connections t id).map (fun x => (x.1, { db with connections := x.2 }))

end Stmt

/-! ## Operations -/

/-- One operation of a session. -/
inductive Op where
  | sql (s : Stmt)
  | commit
  | rollback
  | putObject (key : String) (body : List UInt8) (mime : String)
  | getObject (key : String)
  | deleteObject (key : String)
  | delay (task : Task)
  | uuid4
  | today
  | utcnow
  | ext (x : Ext)

@[reducible] def Op.Res : Op → Type
  | sql s => s.Res
  | commit => Unit
  | rollback => Unit
  | putObject _ _ _ => Unit
  | getObject _ => List UInt8
  | deleteObject _ => Unit
  | delay _ => Unit
  | uuid4 => UUID
  | today => Date
  | utcnow => Date
  | ext x => x.Res

/-- A service: a program over these operations. -/
abbrev Service (α : Type) : Type := Prog Op.Res PyExc α

namespace World

variable {Tx : Type} [DecidableEq Tx]

/-- One more operation has been answered. -/
def tick (w : World Tx) : World Tx := { w with calls := w.calls + 1 }

/-- Roll a transaction back because it failed. -/
def abort (w : World Tx) (t : Tx) : World Tx :=
  { w with db := w.db.rollback t, failed := fun i => if i = t then true else w.failed i }

/-- The end of a session, regular or not. -/
def close (w : World Tx) (t : Tx) : World Tx :=
  { w with db := w.db.rollback t, failed := fun i => if i = t then false else w.failed i }

/-- An effect outside the database, under a fault that shows as `e`. -/
def effect (w : World Tx) (f : Fault) (e : PyExc) (w' : World Tx) :
    Except PyExc Unit × World Tx :=
  match f with
  | .none => (.ok (), w'.tick)
  | .before => (.error e, w.tick)
  | .after => (.error e, w'.tick)

omit [DecidableEq Tx] in
theorem effect_of_none {w v : World Tx} {f : Fault} {e : PyExc} (h : f = .none) :
    w.effect f e v = (.ok (), v.tick) := by
  rw [h]
  rfl

omit [DecidableEq Tx] in
/-- A struck effect raises, and either took place or did not. -/
theorem effect_of_ne {w v : World Tx} {f : Fault} {e : PyExc} (h : f ≠ .none) :
    ∃ w', w.effect f e v = (.error e, w') ∧ (w' = w.tick ∨ w' = v.tick) := by
  cases f with
  | none => exact absurd rfl h
  | before => exact ⟨_, rfl, Or.inl rfl⟩
  | after => exact ⟨_, rfl, Or.inr rfl⟩

end World

/-- Answer one operation of session `t`; `none` while it waits for a lock. -/
def exec {Tx : Type} [DecidableEq Tx] (env : Env) (t : Tx) :
    (o : Op) → World Tx → Option (Except PyExc o.Res × World Tx)
  | .sql s, w =>
      if w.failed t then some (.error .pendingRollback, w.tick)
      else if env.fault w.calls ≠ .none then some (.error .dbapiError, (w.abort t).tick)
      else
        match s.exec (env.clock w.calls) t w.db with
        | none => none
        | some (.error e, _) => some (.error e, (w.abort t).tick)
        | some (.ok r, db) => some (.ok r, { w with db := db }.tick)
  | .commit, w =>
      if w.failed t then some (.error .pendingRollback, w.tick)
      else
        match env.fault w.calls with
        | .none => some (.ok (), { w with db := w.db.commit t }.tick)
        | .before => some (.error .dbapiError, (w.abort t).tick)
        | .after => some (.error .dbapiError, ({ w with db := w.db.commit t }.abort t).tick)
  | .rollback, w => some (.ok (), (w.close t).tick)
  | .putObject key body _, w =>
      some (w.effect (env.fault w.calls) .storageError
        { w with blobs := (key, body) :: w.blobs })
  | .getObject key, w =>
      match env.fault w.calls, w.blobs.lookup key with
      | .none, some body => some (.ok body, w.tick)
      | _, _ => some (.error .storageError, w.tick)
  | .deleteObject key, w =>
      some (w.effect (env.fault w.calls) .storageError
        { w with blobs := w.blobs.filter (fun b => b.1 ≠ key) })
  | .delay task, w =>
      some (w.effect (env.fault w.calls) .brokerError { w with queue := w.queue ++ [task] })
  | .uuid4, w => some (.ok (env.uuid4 w.calls), w.tick)
  | .today, w => some (.ok (env.today w.calls), w.tick)
  | .utcnow, w => some (.ok (env.utcnow w.calls), w.tick)
  | .ext x, w => some (env.external w.calls x, w.tick)

/-- The sessions `Tx` on one backend. -/
def backend {Tx : Type} [DecidableEq Tx] (env : Env) : Machine Tx Op.Res PyExc (World Tx) Empty where
  exec := exec env
  close t w := w.close t
  event e _ := e.elim
  crashed := .workerLost

/-! ## Programs -/

/-- Perform one SQL statement. -/
def sql (s : Stmt) : Service s.Res := Prog.perform (Op.sql s)

/-- `scalar_one_or_none`. -/
def scalarOneOrNone {α : Type} : List α → Service (Option α)
  | [] => .ret none
  | [a] => .ret (some a)
  | _ => .raise .multipleResultsFound

def commit : Service Unit := Prog.perform Op.commit

def rollback : Service Unit := Prog.perform Op.rollback

def uuid4 : Service UUID := Prog.perform Op.uuid4

/-- The `UPDATE` of a flush: the assignments that change the loaded row, if any. -/
def flushColumns {Row Column : Type} (changes : Row → Column → Bool)
    (stmt : List Column → Service Unit) (row : Row) (cols : List Column) : Service Unit :=
  let cols := cols.filter (changes row)
  if cols.isEmpty then .ret () else stmt cols

/-- The row of `session.refresh`. -/
def refreshed {α : Type} : List α → Service α
  | a :: _ => .ret a
  | [] => .raise .invalidRequest

section asks

variable {α : Type} {guar : Op → Prop}

/-- The row that is found is one of the rows. -/
theorem respects_scalarOneOrNone {rely : (o : Op) → Except PyExc o.Res → Prop}
    {exc : PyExc → Prop} (rows : List α) (hexc : exc .multipleResultsFound) :
    (scalarOneOrNone rows : Service (Option α)).Respects guar rely
      (fun found => ∀ a, found = some a → a ∈ rows) exc := by
  unfold scalarOneOrNone
  split
  · refine Prog.Respects.ret fun a ha => ?_
    cases ha
  · refine Prog.Respects.ret fun a ha => ?_
    cases ha
    exact List.mem_singleton_self _
  · exact Prog.Respects.raise hexc

theorem asks_scalarOneOrNone (rows : List α) :
    (scalarOneOrNone rows : Service (Option α)).Asks guar := by
  have hrows : (scalarOneOrNone rows : Service (Option α)).Respects guar (fun _ _ => True)
      (fun found => ∀ a, found = some a → a ∈ rows) (fun _ => True) :=
    respects_scalarOneOrNone rows trivial
  exact hrows.mono (fun _ h => h) (fun _ _ => trivial) (fun _ h => h)

theorem asks_refreshed (rows : List α) : (refreshed rows : Service α).Asks guar := by
  unfold refreshed
  split
  · exact Prog.Asks.ret
  · exact Prog.Asks.raise

/-- A flush asks for its statement on the columns that change, if for anything. -/
theorem asks_flushColumns {Row Column : Type} {changes : Row → Column → Bool}
    {stmt : List Column → Service Unit} {row : Row} {cols : List Column}
    (h : (stmt (cols.filter (changes row))).Asks guar) :
    (flushColumns changes stmt row cols).Asks guar := by
  show Prog.Asks guar (if _ then _ else _)
  split
  · exact Prog.Asks.ret
  · exact h

end asks

/-! ## A session running alone -/

/-- A session running alone. -/
def alone (env : Env) : (o : Op) → World Unit → Except PyExc o.Res × World Unit :=
  (backend env).alone ()

section alone

variable {V K X : Type} {key : V → K} [DecidableEq K] [DecidableEq X]

theorem locked_unit (s : Store Unit V K key) (k : K) : s.locked () k = false := by
  simp [Store.locked]

theorem contended_unit (s : Store Unit V K key) (f : V → Option X) (x : X) :
    s.contended () f x = false := by
  simp [Store.contended]

variable (env : Env) {w : World Unit}

theorem alone_uuid4 : alone env .uuid4 w = (.ok (env.uuid4 w.calls), w.tick) := rfl

theorem alone_utcnow : alone env .utcnow w = (.ok (env.utcnow w.calls), w.tick) := rfl

theorem alone_putObject {k : String} {body : List UInt8} {mime : String} :
    alone env (.putObject k body mime) w =
      w.effect (env.fault w.calls) .storageError { w with blobs := (k, body) :: w.blobs } := rfl

theorem alone_deleteObject {k : String} :
    alone env (.deleteObject k) w = w.effect (env.fault w.calls) .storageError
      { w with blobs := w.blobs.filter (fun b => b.1 ≠ k) } := rfl

theorem alone_delay {task : Task} :
    alone env (.delay task) w = w.effect (env.fault w.calls) .brokerError
      { w with queue := w.queue ++ [task] } := rfl

theorem alone_commit (hf : w.failed () = false) (h : env.fault w.calls = .none) :
    alone env .commit w = (.ok (), { w with db := w.db.commit () }.tick) := by
  simp [alone, Machine.alone, backend, exec, hf, h]

theorem alone_commit_before (hf : w.failed () = false) (h : env.fault w.calls = .before) :
    alone env .commit w = (.error .dbapiError, (w.abort ()).tick) := by
  simp [alone, Machine.alone, backend, exec, hf, h]

theorem alone_commit_after (hf : w.failed () = false) (h : env.fault w.calls = .after) :
    alone env .commit w =
      (.error .dbapiError, ({ w with db := w.db.commit () }.abort ()).tick) := by
  simp [alone, Machine.alone, backend, exec, hf, h]

/-- A statement that is struck by a fault. -/
theorem alone_sql_fault {s : Stmt} (hf : w.failed () = false) (h : env.fault w.calls ≠ .none) :
    alone env (.sql s) w = (.error .dbapiError, (w.abort ()).tick) := by
  simp [alone, Machine.alone, backend, exec, hf, h]

/-- A statement that is not. -/
theorem alone_sql_ok {s : Stmt} {r : s.Res} {db : Db Unit} (hf : w.failed () = false)
    (h : env.fault w.calls = .none) (hs : s.exec (env.clock w.calls) () w.db = some (.ok r, db)) :
    alone env (.sql s) w = (.ok r, { w with db := db }.tick) := by
  simp [alone, Machine.alone, backend, exec, hf, h, hs]

theorem alone_sql_error {s : Stmt} {e : PyExc} {db : Db Unit} (hf : w.failed () = false)
    (h : env.fault w.calls = .none)
    (hs : s.exec (env.clock w.calls) () w.db = some (.error e, db)) :
    alone env (.sql s) w = (.error e, (w.abort ()).tick) := by
  simp [alone, Machine.alone, backend, exec, hf, h, hs]

end alone

/-! ## Quiet surroundings -/

theorem isDate_firstOfApril : IsDate 2026 4 1 := by decide

/-- Surroundings without faults, with numbered identifiers and timestamps, in which
every foreign service is down. -/
def Env.quiet : Env where
  settings :=
    { environment := "production", jwtSecret := "secret", s3Bucket := "receipts",
      openaiApiKey := none, openaiModelCategorise := "gpt-4o-mini", openaiModelVision := "gpt-4o",
      ocrConfidenceThreshold := 60, inboxEmailDomain := "inbox.spendlens.local",
      gmailOauthClientId := none, gmailOauthClientSecret := none,
      gmailOauthRedirectUri := "http://localhost:8000/api/v1/integrations/gmail/callback",
      gmailTokenEncryptionKey := none }
  unicode := Unicode.ascii
  fault _ := .none
  uuid4 n := Fin.ofNat _ (1000 + n)
  clock n := 1000 + n
  today _ := ⟨2026, 4, 1, isDate_firstOfApril⟩
  utcnow _ := ⟨2026, 4, 1, isDate_firstOfApril⟩
  external _ _ := .error .httpError
  userPrefix _ _ := "b83f6f2a8d9c1e7a"
  sha256Hex32 s := s
  isoTimestamp t := toString t
  hmacSha256 _ _ := "00"
  hmacSha256_hex _ _ := forall_mem_of_all (by decide)
  fernet _ := .error "Fernet key must be 32 url-safe base64-encoded bytes."
  reprJson _ := "None"
  jsonDepth := 1000
  jsonDepth_pos := by decide
  foldCase := Char.toLower

/-- A database with some users and nothing else. -/
def Db.ofUsers {Tx : Type} (users : List User) : Db Tx where
  users := users
  receipts := Store.ofTable Table.empty
  expenses := Store.ofTable Table.empty
  budgets := Store.ofTable Table.empty
  corrections := Store.ofTable Table.empty
  connections := Store.ofTable Table.empty

/-- The state all sessions start from. -/
def World.ofDb {Tx : Type} (db : Db Tx) : World Tx where
  db := db
  blobs := []
  queue := []
  calls := 0
  failed _ := false

end SpendLens
