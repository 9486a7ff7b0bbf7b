/-
# Rows that can be read back

The endpoints and the pipeline write into one table, and `ExpenseOut` validates every row that
is returned.  What a client sends has passed the same checks.  What `categorise_receipt` inserts
has passed none: a receipt without a readable total becomes an expense of 0.00, and from then on
the owner's list fails.  Where the total comes to a cent at least and the merchant is not blank,
every row stays readable and no read fails on one.
-/
import SpendLens.DateParameters
import SpendLens.ReceiptExpense

namespace SpendLens

namespace ExpenseReadability

/-! ## The reading endpoints -/

/-- `GET /expenses/{id}`. -/
def get (env : Env) (userId expenseId : UUID) : Service (ExpenseOut env.unicode) := do
  let expense ← getExpense userId expenseId
  Prog.ofExcept (expenseOut env.unicode expense)

/-- `GET /expenses`: every row of the page is validated. -/
def list (env : Env) (userId : UUID) (q : DateParams.ListQuery) :
    Service (List (ExpenseOut env.unicode) × Option String) := do
  let (items, nextCursor) ← DateParams.listEndpoint env userId q
  let items ← Prog.ofExcept (items.mapM (expenseOut env.unicode))
  return (items, nextCursor)

/-! ## Calls -/

/-- What runs: the requests that write expenses, with payloads the schemas have accepted, those
about receipts, the two tasks, the two reads, and everything that writes no expense. -/
inductive ExpenseCall (U : Unicode) where
  | post (userId : UUID) (payload : ExpenseCreate U)
  | patch (userId expenseId : UUID) (payload : ExpenseUpdate U) (ifMatch : Option String)
  | delete (userId expenseId : UUID) (ifMatch : Option String)
  | receipt (call : ReceiptCall)
  | retry (userId receiptId : UUID)
  | process (receiptId : UUID)
  | categorise (receiptId : UUID)
  | get (userId expenseId : UUID)
  | list (userId : UUID) (q : DateParams.ListQuery)
  | other (program : Service Unit)

namespace ExpenseCall

def run (env : Env) (readers : Readers) : ExpenseCall env.unicode → Service Unit
  | post userId payload => do
      let _ ← createExpense env.unicode userId payload
      return ()
  | patch userId expenseId payload ifMatch => do
      let _ ← updateExpense env userId expenseId payload.toExpensePatch ifMatch
      return ()
  | delete userId expenseId ifMatch => deleteExpense env userId expenseId ifMatch
  | receipt call => call.run env
  | retry userId receiptId => do
      let _ ← retryReceipt env userId receiptId
      return ()
  | process receiptId => processReceipt env readers receiptId
  | categorise receiptId => categoriseReceipt env receiptId
  | get userId expenseId => do
      let _ ← ExpenseReadability.get env userId expenseId
      return ()
  | list userId q => do
      let _ ← ExpenseReadability.list env userId q
      return ()
  | other program => program

variable {U : Unicode}

/-- Is it a `categorise_receipt`? -/
def books : ExpenseCall U → Bool
  | categorise _ => true
  | _ => false

/-- Is it one of the reads? -/
def reads : ExpenseCall U → Bool
  | get _ _ | list _ _ => true
  | _ => false

end ExpenseCall

/-- A row has failed the validation. -/
def IsValidationError : PyExc → Prop
  | .validationError _ => True
  | _ => False

/-- **Every stored expense is readable**: each row passes the validation of `ExpenseOut`, and no
read has failed on one. -/
structure StaysReadable {ι : Type} {env : Env} (calls : ι → ExpenseCall env.unicode)
    (c : Config ι Op.Res PyExc Unit (World ι)) : Prop where
  rows : ∀ e ∈ c.shared.db.expenses.committed.rows, ∃ out, expenseOut env.unicode e = .ok out
  reads : ∀ i, (calls i).reads = true → ∀ e, c.threads i = .raise e → ¬IsValidationError e

/-! ## Payloads that make readable rows -/

/-- The merchant a payload is booked under. -/
def payloadMerchant (payload : Json) : Json :=
  ((payload.get? "merchant").filter Json.truthy).getD (.str "Unknown")

/-- One cent at least. -/
def positive : Numeric → Bool
  | .cents n => 1 ≤ n
  | _ => false

/-- Where the database takes the merchant and the total of a payload, the merchant is not blank
and the total comes to a cent at least. -/
def bookable (U : Unicode) (payload : Json) : Bool :=
  match payloadMerchant payload, coerceTotal U (payload.get? "total") with
  | .str merchant, .ok amount =>
      match storeText 255 (some merchant), storeAmount (some amount) with
      | .ok m, .ok a => !(strip m).isEmpty && positive a
      | _, _ => true
  | _, _ => true

/-- Is the parsed receipt that a `categorise_receipt` is about to read bookable? -/
def readsBookable {ι : Type} {U : Unicode} [DecidableEq ι] (calls : ι → ExpenseCall U) (i : ι)
    (o : Op) (w : World ι) : Bool :=
  match o with
  | .sql (.selectReceipts _ p) =>
      !(calls i).books || ((w.db.receipts.view i).rows.filter p).all (fun r =>
        r.status ≠ .parsed || bookable U (r.parsedPayload.getD (.obj [])))
  | _ => true

/-! ## Writes of readable rows -/

section writes

variable {U : Unicode}

/-- The checks of the read projection on one column. -/
def ColumnOk (U : Unicode) : ExpenseColumn → Prop
  | .merchantName (some v) => (stripMerchant v).isSome
  | .amount (some d) => amountOk d = true
  | .currency (some v) => (validateCurrency U v).isSome
  | .description v => descriptionOk v = true
  | _ => True

/-- New rows are readable, and so are the columns that are assigned. -/
def WritesReadable (U : Unicode) : Op → Prop
  | .sql (.insertExpense e) => ∀ now row, e.store now = .ok row → Readable U row
  | .sql (.updateExpense _ cols) => ∀ c ∈ cols, ColumnOk U c
  | _ => True

/-- Everything but insertions and updates of expenses. -/
def LeavesExpenses : Op → Prop
  | .sql (.insertExpense _) => False
  | .sql (.updateExpense _ _) => False
  | _ => True

theorem LeavesExpenses.readable {o : Op} (h : LeavesExpenses o) : WritesReadable U o := by
  cases o with
  | sql s => cases s <;> trivial
  | _ => trivial

theorem WritesReadable.of_handlesReceipts {o : Op} (h : HandlesReceipts o) :
    WritesReadable U o := by
  cases o with
  | sql s =>
      cases s with
      | insertExpense e => exact h.elim
      | updateExpense id cols =>
          intro c hc
          rw [show cols = [.receiptId none] from h, List.mem_singleton] at hc
          subst hc
          trivial
      | _ => trivial
  | _ => trivial

theorem LeavesExpenses.of_quiet {o : Op} (h : Quiet o) : LeavesExpenses o := by
  cases o with
  | sql s => cases s <;> trivial
  | _ => trivial

/-- A stored optional text is the text. -/
theorem storeOptText_ok {n : ℕ} {a b : Option String} (h : storeOptText n a = .ok b) : b = a := by
  unfold storeOptText at h
  split at h
  · cases h
    rfl
  · split at h
    · cases h
      rfl
    · cases h

/-- Assigning columns that pass their checks keeps a row readable. -/
theorem readable_storeAll {e e' : Expense} {cols : List ExpenseColumn}
    (hcols : ∀ c ∈ cols, ColumnOk U c) (h : storeAll ExpenseColumn.store e cols = .ok e')
    (he : Readable U e) : Readable U e' := by
  refine storeAll_preserves (P := Readable U) (fun c hc v v' hv hstore => ?_) h he
  have hok := hcols c hc
  cases c with
  | merchantName x =>
      obtain ⟨m, hm, rfl⟩ := Fallible.map_eq_ok.1 hstore
      cases x with
      | none => cases hm
      | some s =>
          obtain rfl := storeText_ok hm
          exact ⟨hok, hv.amount, hv.currency, hv.description⟩
  | amount x =>
      obtain ⟨a, ha, rfl⟩ := Fallible.map_eq_ok.1 hstore
      cases x with
      | none => cases ha
      | some d =>
          exact ⟨hv.merchantName, amountOk_of_toNumeric hok (storeAmount_ok.1 ha), hv.currency,
            hv.description⟩
  | currency x =>
      obtain ⟨s, hs, rfl⟩ := Fallible.map_eq_ok.1 hstore
      cases x with
      | none => cases hs
      | some v =>
          obtain rfl := storeText_ok hs
          exact ⟨hv.merchantName, hv.amount, hok, hv.description⟩
  | description x =>
      obtain ⟨s, hs, rfl⟩ := Fallible.map_eq_ok.1 hstore
      have hsx : s = x := storeOptText_ok hs
      subst hsx
      exact ⟨hv.merchantName, hv.amount, hv.currency, hok⟩
  | category x | expenseDate x =>
      obtain ⟨a, -, rfl⟩ := Fallible.map_eq_ok.1 hstore
      exact ⟨hv.merchantName, hv.amount, hv.currency, hv.description⟩
  | receiptId x =>
      cases hstore
      exact ⟨hv.merchantName, hv.amount, hv.currency, hv.description⟩

/-- What the database makes of a new expense, column by column. -/
theorem store_eq_ok {e : NewExpense} {now : Timestamp} {row : Expense} (h : e.store now = .ok row) :
    storeText 255 (some e.merchantName) = .ok row.merchantName ∧
      storeAmount (some e.amount) = .ok row.amount ∧ row.currency = e.currency ∧
      row.description = e.description := by
  unfold NewExpense.store at h
  obtain ⟨m, hm, h⟩ := Fallible.bind_eq_ok.1 h
  obtain ⟨a, ha, h⟩ := Fallible.bind_eq_ok.1 h
  obtain ⟨c, hc, h⟩ := Fallible.bind_eq_ok.1 h
  obtain ⟨d, hd, h⟩ := Fallible.bind_eq_ok.1 h
  cases h
  exact ⟨hm, ha, storeText_ok hc, storeOptText_ok hd⟩

/-- A row made of a validated payload is readable. -/
theorem readable_of_payload {e : NewExpense} {now : Timestamp} {row : Expense}
    (payload : ExpenseCreate U) (hmerchant : e.merchantName = payload.merchantName)
    (hamount : e.amount = payload.amount) (hcurrency : e.currency = payload.currency)
    (hdescription : e.description = payload.description) (h : e.store now = .ok row) :
    Readable U row := by
  obtain ⟨hm, ha, hc, hd⟩ := store_eq_ok h
  have hmrow : row.merchantName = e.merchantName := storeText_ok hm
  refine ⟨?_, ?_, ?_, ?_⟩
  · rw [hmrow, hmerchant, payload.merchantName_ok]
    rfl
  · exact amountOk_of_toNumeric (hamount ▸ payload.amount_ok) (storeAmount_ok.1 ha)
  · rw [hc, hcurrency, payload.currency_ok]
    rfl
  · rw [hd, hdescription]
    exact payload.description_ok

/-- The columns of a validated patch pass their checks. -/
theorem columnOk_of_patch (patch : ExpenseUpdate U) {c : ExpenseColumn} (hc : c ∈ patch.columns) :
    ColumnOk U c := by
  simp only [ExpensePatch.columns, List.mem_append, Option.mem_toList, Option.map_eq_some_iff] at hc
  rcases hc with ((((⟨v, hv, rfl⟩ | ⟨v, hv, rfl⟩) | ⟨v, hv, rfl⟩) | ⟨v, hv, rfl⟩) |
    ⟨v, hv, rfl⟩) | ⟨v, hv, rfl⟩
  · cases v with
    | none => trivial
    | some s =>
        show (stripMerchant s).isSome = true
        rw [patch.merchantName_ok s hv]
        rfl
  · cases v with
    | none => trivial
    | some d => exact patch.amount_ok d hv
  · cases v with
    | none => trivial
    | some s =>
        show (validateCurrency U s).isSome = true
        rw [patch.currency_ok s hv]
        rfl
  · cases v <;> trivial
  · cases v <;> trivial
  · exact patch.description_ok v hv

end writes

/-! ## The currency of the pipeline -/

/-- The currency the pipeline gives every expense is a code. -/
theorem isSome_validateCurrency_usd {U : Unicode}
    (halpha : ∀ c : Char, c.isAlpha = true → U.isAlpha c = true) :
    (validateCurrency U "USD").isSome := by
  have hupper : U.upper "USD" = "USD" := by
    have hchars : ("USD".toList.flatMap U.upperChar) = "USD".toList := by
      show U.upperChar 'U' ++ (U.upperChar 'S' ++ (U.upperChar 'D' ++ [])) = _
      rw [U.upperChar_ascii 'U' (by decide), U.upperChar_ascii 'S' (by decide),
        U.upperChar_ascii 'D' (by decide)]
      decide
    rw [Unicode.upper, hchars, String.ofList_toList]
  have hletters : U.isAlphaStr "USD" = true := by
    show (U.isAlpha 'U' && (U.isAlpha 'S' && (U.isAlpha 'D' && true))) = true
    rw [halpha 'U' (by decide), halpha 'S' (by decide), halpha 'D' (by decide)]
    rfl
  have hcode : validateCurrency U "USD" = some "USD" := by
    unfold validateCurrency
    rw [if_pos (by decide), U.strip_of_isAlphaStr hletters, hupper]
    simp only [hletters]
    decide
  rw [hcode]
  rfl

/-- A bookable payload makes readable rows. -/
theorem readable_of_bookable {U : Unicode} (husd : (validateCurrency U "USD").isSome)
    {id : UUID} {receipt : Receipt} {merchant : String} {amount : Decimal}
    {category : ExpenseCategory} {expenseDate : Date} {payload : Json}
    (hbookable : bookable U payload = true) (hmerchant : payloadMerchant payload = .str merchant)
    (hamount : coerceTotal U (payload.get? "total") = .ok amount) {now : Timestamp} {row : Expense}
    (h : (receiptExpense id receipt merchant amount category expenseDate).store now = .ok row) :
    Readable U row := by
  obtain ⟨hm, ha, hc, hd⟩ := store_eq_ok h
  have hm : storeText 255 (some merchant) = .ok row.merchantName := hm
  have ha : storeAmount (some amount) = .ok row.amount := ha
  rw [bookable, hmerchant, hamount] at hbookable
  simp only [hm, ha, Bool.and_eq_true, Bool.not_eq_true'] at hbookable
  refine ⟨?_, ?_, ?_, ?_⟩
  · have hfits : textOk merchant = true ∧ merchant.length ≤ 255 := by
      by_contra hno
      rw [storeText, if_neg (by simpa using hno)] at hm
      cases hm
    have hrow : row.merchantName = merchant := storeText_ok hm
    have hblank : (strip merchant).isEmpty = false := hrow ▸ hbookable.1
    have hpos : 1 ≤ merchant.length := by
      by_contra hlt
      have hempty : merchant = "" := String.length_eq_zero_iff.1 (by omega)
      rw [hempty] at hblank
      cases hblank
    rw [hrow, stripMerchant, if_pos ⟨hpos, hfits.2⟩]
    simp only [hblank]
    rfl
  · cases hrow : row.amount with
    | nan =>
        rw [hrow] at hbookable
        cases hbookable.2
    | cents n =>
        rw [hrow] at hbookable
        have hle : 1 ≤ n := of_decide_eq_true hbookable.2
        have hbound := Decimal.toNumeric_bound (storeAmount_ok.1 (hrow ▸ ha))
        exact (amountOk_cents n).2 ⟨hle, by omega⟩
  · rw [hc]
    exact husd
  · rw [hd]
    rfl

/-! ## Programs that keep rows readable -/

section programs

variable {env : Env}

/-- The answers the calls rely on: the expenses they read are readable, and the parsed receipt
that is to be booked is bookable. -/
def Answered (U : Unicode) (books : Bool) : (o : Op) → Except PyExc o.Res → Prop
  | .sql (.selectExpenses _ _), .ok rows => ∀ e ∈ rows, Readable U e
  | .sql (.selectExpenses _ _), .error e => ¬IsValidationError e
  | .sql (.selectReceipts _ _), .ok rows => books = true → ∀ r ∈ rows, r.status = .parsed →
      bookable U (r.parsedPayload.getD (.obj [])) = true
  | _, _ => True

/-- A program that writes readable rows only. -/
abbrev WritesOnlyReadable (U : Unicode) {α : Type} (p : Service α) : Prop :=
  p.Asks (WritesReadable U)

/-- A program that, reading readable rows, fails on none. -/
abbrev Reading (U : Unicode) {α : Type} (p : Service α) (post : α → Prop) : Prop :=
  p.Respects (WritesReadable U) (Answered U false) post (fun e => ¬IsValidationError e)

/-- A program that books what it reads. -/
abbrev Booking (U : Unicode) {α : Type} (p : Service α) (post : α → Prop) : Prop :=
  p.Respects (WritesReadable U) (Answered U true) post (fun _ => True)

/-- The expenses that are read are readable. -/
theorem reading_selectExpenses {U : Unicode} (params : List Param) (p : Expense → Bool) :
    Reading U (sql (.selectExpenses params p)) (fun rows => ∀ e ∈ rows, Readable U e) := by
  refine (Prog.respects_call _ _).2 ⟨trivial, fun r hr => ?_⟩
  cases r with
  | ok rows => exact Prog.Respects.ret hr
  | error e => exact Prog.Respects.raise hr

/-- The receipt that is to be booked is bookable. -/
theorem booking_selectReceipts {U : Unicode} (params : List Param) (p : Receipt → Bool) :
    Booking U (sql (.selectReceipts params p)) (fun rows => ∀ r ∈ rows, r.status = .parsed →
      bookable U (r.parsedPayload.getD (.obj [])) = true) := by
  refine (Prog.respects_call _ _).2 ⟨trivial, fun r hr => ?_⟩
  cases r with
  | ok rows => exact Prog.Respects.ret (hr rfl)
  | error e => exact Prog.Respects.raise trivial

/-- Whatever else is asked for is answered with anything. -/
theorem booking_perform {U : Unicode} {o : Op} (h : WritesReadable U o) :
    Booking U (Prog.perform o) (fun _ => True) :=
  Prog.Asks.relying (Prog.Asks.perform h)

/-- A new expense is readable. -/
theorem writesOnlyReadable_createExpense {U : Unicode} (userId : UUID) (payload : ExpenseCreate U) :
    WritesOnlyReadable U (createExpense U userId payload) :=
  Prog.Asks.step trivial (fun _ => Prog.Asks.step
    (fun _ _ h => readable_of_payload payload rfl rfl rfl rfl h)
    (fun _ => Prog.Asks.step trivial (fun _ => asks_refreshExpense (fun _ _ => trivial) _)))

/-- A patch writes columns that pass their checks. -/
theorem writesOnlyReadable_updateExpense (userId id : UUID) (patch : ExpenseUpdate env.unicode)
    (ifMatch : Option String) :
    WritesOnlyReadable env.unicode
      (updateExpense env userId id patch.toExpensePatch ifMatch) := by
  refine Prog.Asks.bind (asks_getExpense (fun _ _ => trivial) userId id) (fun expense => ?_)
  show WritesOnlyReadable env.unicode (if _ then _ else _)
  split
  · exact Prog.Asks.raise
  · have hcols : WritesReadable env.unicode (.sql (.updateExpense expense.id
        (patch.columns.filter (ExpenseColumn.changes expense)))) :=
      fun c hc => columnOk_of_patch patch (List.mem_of_mem_filter hc)
    have hflush : WritesOnlyReadable env.unicode (flushColumns ExpenseColumn.changes
        (fun cols => sql (.updateExpense expense.id cols)) expense patch.columns) :=
      asks_flushColumns (Prog.Asks.perform hcols)
    refine Prog.Asks.bind (Prog.Asks.bind hflush (fun _ => ?_)) (fun _ =>
      Prog.Asks.step trivial (fun _ => asks_refreshExpense (fun _ _ => trivial) expense.id))
    cases patch.correction expense with
    | none => exact Prog.Asks.ret
    | some c => exact Prog.Asks.perform trivial

/-- Deleting an expense writes no other. -/
theorem writesOnlyReadable_deleteExpense {U : Unicode} (userId id : UUID)
    (ifMatch : Option String) : WritesOnlyReadable U (deleteExpense env userId id ifMatch) := by
  refine Prog.Asks.bind (asks_getExpense (fun _ _ => trivial) userId id) (fun expense => ?_)
  show WritesOnlyReadable U (if _ then _ else _)
  split
  · exact Prog.Asks.raise
  · exact Prog.Asks.step trivial (fun _ => Prog.Asks.perform trivial)

/-- `GET /expenses/{id}` fails on no readable row. -/
theorem reading_get (userId expenseId : UUID) :
    Reading env.unicode (get env userId expenseId) (fun _ => True) := by
  have hfound : Reading env.unicode (getExpense userId expenseId) (Readable env.unicode) := by
    refine Prog.Respects.bind (reading_selectExpenses _ _)
      (fun rows hrows => Prog.Respects.bind (respects_scalarOneOrNone rows id) ?_)
    rintro (_ | expense) hfound
    · exact Prog.Respects.raise id
    · exact Prog.Respects.ret (hrows expense (hfound expense rfl))
  refine Prog.Respects.bind hfound (fun expense hexpense =>
    Prog.Respects.ofExcept (fun _ _ => trivial) (fun e he => ?_))
  obtain ⟨out, hout⟩ := (readable_iff env.unicode expense).1 hexpense
  rw [hout] at he
  cases he

theorem not_validationError_parseBound {value : Option String} {e : PyExc}
    (h : DateParams.parseBound value = .error e) : ¬IsValidationError e := by
  unfold DateParams.parseBound at h
  split at h
  · cases h
  · split at h
    · cases h
    · cases h
      exact id

theorem reading_decodeCursor (cursor : Option String) :
    Reading env.unicode (decodeCursor env cursor) (fun _ => True) := by
  have hjson : ∀ v e, ExpenseCursor.ofJson env v = .error e → ¬IsValidationError e := by
    intro v e h
    unfold ExpenseCursor.ofJson at h
    repeat' split at h
    all_goals first | cases h; exact id | cases h
  have hdecode : ∀ raw e, ExpenseCursor.decode env raw = .error e → ¬IsValidationError e := by
    intro raw e h
    unfold ExpenseCursor.decode at h
    simp only at h
    repeat' split at h
    all_goals first | exact hjson _ _ h | cases h; exact id
  unfold decodeCursor
  split
  · exact Prog.Respects.ret trivial
  · split
    · exact Prog.Respects.ret trivial
    · rename_i e he
      exact Prog.Respects.raise (hdecode _ _ he)

/-- The rows of a page are among the fetched ones. -/
theorem mem_of_mem_pageOf {n : ℕ} {rows : List Expense} {e : Expense}
    (h : e ∈ (pageOf n rows).items) : e ∈ rows := by
  unfold pageOf at h
  split at h
  · exact List.mem_of_mem_take h
  · exact h

/-- `GET /expenses` fails on no readable row. -/
theorem reading_list (userId : UUID) (q : DateParams.ListQuery) :
    Reading env.unicode (list env userId q) (fun _ => True) := by
  have hpage : Reading env.unicode (DateParams.listEndpoint env userId q)
      (fun page => ∀ e ∈ page.1, Readable env.unicode e) := by
    refine Prog.Respects.bind (Prog.Respects.ofExcept (fun _ _ => trivial)
      (fun _ => not_validationError_parseBound)) (fun parsedFrom _ => Prog.Respects.bind
      (Prog.Respects.ofExcept (fun _ _ => trivial) (fun _ => not_validationError_parseBound))
      (fun parsedTo _ => Prog.Respects.bind (reading_decodeCursor q.cursor) (fun decoded _ => ?_)))
    have hlist : ∀ filters, Reading env.unicode (listExpenses env userId filters decoded q.pageSize)
        (fun page => ∀ e ∈ page.items, Readable env.unicode e) := by
      intro filters
      refine Prog.Respects.bind (reading_selectExpenses _ _)
        (fun rows hrows => Prog.Respects.ret (fun e he => ?_))
      exact hrows e (List.mem_mergeSort.1 (List.mem_of_mem_take (mem_of_mem_pageOf he)))
    exact Prog.Respects.bind (hlist _) (fun page hpage => Prog.Respects.ret hpage)
  refine Prog.Respects.bind hpage (fun page hitems => Prog.Respects.bind
    (Prog.Respects.ofExcept (fun _ _ => trivial) (fun e he => ?_))
    (fun _ _ => Prog.Respects.ret trivial))
  obtain ⟨row, hrow, hfail⟩ := Fallible.mapM_eq_error he
  obtain ⟨out, hout⟩ := (readable_iff env.unicode row).1 (hitems row hrow)
  rw [hout] at hfail
  cases hfail

/-- Reading the payload gives its merchant and its total. -/
theorem booking_coercePayload (payload : Json) :
    Booking env.unicode (coercePayload env payload) (fun fields =>
      fields.1 = payloadMerchant payload ∧
        coerceTotal env.unicode (payload.get? "total") = .ok fields.2.1) := by
  unfold coercePayload
  dsimp only
  split
  · exact Prog.Respects.raise trivial
  · rename_i amount hamount
    split
    · exact Prog.Respects.ret ⟨rfl, hamount⟩
    · exact Prog.Respects.bind (booking_perform trivial)
        (fun _ _ => Prog.Respects.ret ⟨rfl, hamount⟩)

/-- A merchant that is categorised is a text. -/
theorem booking_categoriseJson (userId : UUID) (merchant : Json) :
    Booking env.unicode (categoriseJson env userId merchant)
      (fun chosen => merchant = .str chosen.1) := by
  unfold categoriseJson
  split
  · exact Prog.Respects.bind (Prog.Asks.relying (Prog.Asks.mono
      (consults_categoriseMerchant env userId _).quiet
      (fun _ ho => (LeavesExpenses.of_quiet ho).readable))) (fun _ _ => Prog.Respects.ret rfl)
  · exact Prog.Respects.raise trivial

/-- **`categorise_receipt`** makes a readable row of a bookable payload. -/
theorem booking_categoriseReceipt (husd : (validateCurrency env.unicode "USD").isSome)
    (receiptId : UUID) : Booking env.unicode (categoriseReceipt env receiptId) (fun _ => True) := by
  refine Prog.Respects.bind (booking_selectReceipts _ _)
    (fun rows hrows => Prog.Respects.bind (respects_scalarOneOrNone rows trivial) ?_)
  rintro (_ | receipt) hfound
  · exact Prog.Respects.ret trivial
  · have hselect : WritesReadable env.unicode
        (.sql (.selectExpenses [] (fun e => e.receiptId = some receiptId))) := trivial
    refine Prog.Respects.bind (booking_perform hselect) (fun linked _ => Prog.Respects.bind
      (respects_scalarOneOrNone linked trivial) ?_)
    rintro (_ | existing) -
    · show Booking env.unicode (if _ then _ else _) _
      split
      · exact Prog.Respects.ret trivial
      · rename_i hstatus
        have hbookable := hrows receipt (hfound receipt rfl) (not_not.1 hstatus)
        refine Prog.Respects.bind (booking_coercePayload _) ?_
        rintro ⟨merchant, amount, expenseDate⟩ ⟨hmerchant, hamount⟩
        refine Prog.Respects.bind (booking_categoriseJson receipt.userId merchant) ?_
        rintro ⟨text, category⟩ htext
        refine Prog.Asks.relying (Prog.Asks.step trivial (fun _ => Prog.Asks.step trivial
          (fun id => Prog.Asks.step (fun now row hrow => ?_) (fun _ => Prog.Asks.perform trivial))))
        exact readable_of_bookable husd hbookable (hmerchant.symm.trans htext) hamount hrow
    · show Booking env.unicode (if _ then _ else _) _
      split
      · exact Prog.Asks.relying (Prog.Asks.mono (receiptsOnly_saveColumns receipt _)
          (fun _ ho => WritesReadable.of_handlesReceipts ho.handlesReceipts))
      · exact Prog.Respects.ret trivial

/-- **Every call keeps rows readable**, and the reads fail on none. -/
theorem respects_run (husd : (validateCurrency env.unicode "USD").isSome) (readers : Readers)
    (call : ExpenseCall env.unicode)
    (hother : ∀ p, call = .other p → p.Asks LeavesExpenses) :
    (call.run env readers).Respects (WritesReadable env.unicode) (Answered env.unicode call.books)
      (fun _ => True) (fun e => call.reads = true → ¬IsValidationError e) := by
  -- of a call that reads nothing back, any exception will do
  have hwrites : ∀ {p : Service Unit} {b : Bool}, WritesOnlyReadable env.unicode p →
      p.Respects (WritesReadable env.unicode) (Answered env.unicode b) (fun _ => True)
        (fun e => false = true → ¬IsValidationError e) :=
    fun hp => (Prog.Asks.relying hp).mono (fun _ ho => ho) (fun _ _ => trivial)
      (fun _ _ h => Bool.noConfusion h)
  cases call with
  | post userId payload =>
      exact hwrites (Prog.Asks.bind (writesOnlyReadable_createExpense userId payload)
        (fun _ => Prog.Asks.ret))
  | patch userId id payload ifMatch =>
      exact hwrites (Prog.Asks.bind (writesOnlyReadable_updateExpense userId id payload ifMatch)
        (fun _ => Prog.Asks.ret))
  | delete userId id ifMatch =>
      exact hwrites (writesOnlyReadable_deleteExpense userId id ifMatch)
  | receipt call =>
      exact hwrites (Prog.Asks.mono (handlesOnly_receiptCall env call)
        (fun _ => WritesReadable.of_handlesReceipts))
  | retry userId receiptId =>
      exact hwrites (Prog.Asks.bind (Prog.Asks.mono (receiptsOnly_retryReceipt env userId receiptId)
        (fun _ ho => WritesReadable.of_handlesReceipts ho.handlesReceipts))
        (fun _ => Prog.Asks.ret))
  | process receiptId =>
      exact hwrites (Prog.Asks.mono (receiptsOnly_processReceipt env readers receiptId)
        (fun _ ho => WritesReadable.of_handlesReceipts ho.handlesReceipts))
  | categorise receiptId =>
      exact (booking_categoriseReceipt husd receiptId).mono (fun _ ho => ho) (fun _ _ => trivial)
        (fun _ _ h => Bool.noConfusion h)
  | get userId id =>
      exact (Prog.Respects.bind (reading_get userId id) (fun _ _ => Prog.Respects.ret trivial)).mono
        (fun _ ho => ho) (fun _ h => h) (fun _ he _ => he)
  | list userId q =>
      exact (Prog.Respects.bind (reading_list userId q) (fun _ _ => Prog.Respects.ret trivial)).mono
        (fun _ ho => ho) (fun _ h => h) (fun _ he _ => he)
  | other p =>
      exact hwrites (Prog.Asks.mono (hother p rfl) (fun _ ho => ho.readable))

end programs

/-! ## Every run keeps rows readable -/

section runs

variable {ι : Type} [DecidableEq ι] {env : Env} {w w' : World ι} {i : ι}

/-- A `SELECT` fails on no row. -/
theorem not_validationError_select {params : List Param} {p : Expense → Bool} {e : PyExc}
    (h : exec env i (.sql (.selectExpenses params p)) w = some (.error e, w')) :
    ¬IsValidationError e := by
  simp only [exec, Stmt.exec, select] at h
  split at h
  · cases h
    exact id
  · split at h
    · cases h
      exact id
    · split at h
      · cases h
      · rename_i heq
        cases h
        split at heq
        · cases heq
        · cases heq
          exact id
      · cases h

/-- What a call asks for keeps every row readable, staged or committed. -/
theorem exec_readable {o : Op} {r : Except PyExc o.Res} (ho : WritesReadable env.unicode o)
    (h : exec env i o w = some (r, w')) (hall : w.db.expenses.All (Readable env.unicode)) :
    w'.db.expenses.All (Readable env.unicode) := by
  refine exec_db (I := fun db => db.expenses.All (Readable env.unicode)) (fun _ hdb => hdb.commit i)
    (fun _ hdb => hdb.rollback i) h (fun s a db hs hexec => ?_) hall
  subst hs
  rcases Stmt.exec_expenses hexec with heq | hw
  · rw [heq]
    exact hall
  · generalize db.expenses = st at hw
    cases hw with
    | insert e row hrow hlock hnew hfree => exact hall.put i (ho _ row hrow)
    | update id cols v v' hget hlock hstore =>
        have hv : Readable env.unicode v' := readable_storeAll ho hstore (hall.view hget)
        exact hall.put i ⟨hv.merchantName, hv.amount, hv.currency, hv.description⟩
    | delete id v hget hlock => exact hall.del i id
    | unlink id linked hlinked hlock =>
        -- the link of a row is no part of its validation
        refine hall.stageAll i (fun x hx v hv => ?_)
        obtain ⟨e, he, rfl⟩ := List.mem_map.1 hx
        cases hv
        rw [hlinked, List.mem_filter] at he
        have hread := hall.of_mem_view he.1
        exact ⟨hread.merchantName, hread.amount, hread.currency, hread.description⟩

/-- What a call asks for is answered as it relies on. -/
theorem exec_answered {calls : ι → ExpenseCall env.unicode} {o : Op} {r : Except PyExc o.Res}
    (hok : readsBookable calls i o w = true) (h : exec env i o w = some (r, w'))
    (hall : w.db.expenses.All (Readable env.unicode)) :
    Answered env.unicode (calls i).books o r := by
  cases o with
  | sql s =>
      cases s with
      | selectExpenses params p =>
          cases r with
          | error e => exact not_validationError_select h
          | ok rows =>
              intro e he
              rw [exec_selectExpenses h, List.mem_filter] at he
              exact hall.of_mem_view he.1
      | selectReceipts params p =>
          cases r with
          | error e => trivial
          | ok rows =>
              intro hbooks v hv hparsed
              rw [exec_selectReceipts h] at hv
              have hok : (!(calls i).books || ((w.db.receipts.view i).rows.filter p).all (fun r =>
                  r.status ≠ .parsed || bookable env.unicode (r.parsedPayload.getD (.obj [])))) =
                  true := hok
              rw [hbooks, Bool.not_true, Bool.false_or, List.all_eq_true] at hok
              have hrow := hok v hv
              rw [Bool.or_eq_true, decide_eq_true_eq] at hrow
              exact hrow.resolve_left (fun hne => hne hparsed)
      | _ => trivial
  | _ => trivial

/-- The calls on one backend. -/
def serving (readers : Readers) (calls : ι → ExpenseCall env.unicode) (w : World ι) :
    Config ι Op.Res PyExc Unit (World ι) :=
  ⟨fun i => (calls i).run env readers, w⟩

theorem keeps_readable (calls : ι → ExpenseCall env.unicode) :
    (backend env).Keeps (fun (_ : ι → Unit) w => w.db.expenses.All (Readable env.unicode))
      (fun _ _ o => WritesReadable env.unicode o)
      (fun i _ o r _ => Answered env.unicode (calls i).books o r) (fun _ _ (_ : Unit) => True)
      (fun i _ e => (calls i).reads = true → ¬IsValidationError e)
      (fun i o w => readsBookable calls i o w = true) True where
  step hall ho hok hx := ⟨(), exec_answered hok hx hall, exec_readable ho hx hall⟩
  ret hall hpost := ⟨(), hpost, hall.rollback _⟩
  raise hall he := ⟨(), he, hall.rollback _⟩
  kill _ hall := ⟨(), fun _ => id, hall.rollback _⟩
  event := fun {_ _ e} _ => e.elim

/-- **Stored expenses stay readable**, in every run in which each parsed receipt that a
`categorise_receipt` reads is bookable. -/
theorem staysReadable_run (halpha : ∀ c : Char, c.isAlpha = true → env.unicode.isAlpha c = true)
    {readers : Readers} {calls : ι → ExpenseCall env.unicode} {w : World ι}
    {as : List (Machine.Action ι Empty)} (hpending : w.db.expenses.pending = [])
    (hstart : ∀ e ∈ w.db.expenses.committed.rows, Readable env.unicode e)
    (hother : ∀ i p, calls i = .other p → p.Asks LeavesExpenses)
    (hsteps : (backend env).Along
      (Machine.OpOk (fun i o w => readsBookable calls i o w = true) True)
      (serving readers calls w) as) :
    StaysReadable calls ((backend env).run (serving readers calls w) as) := by
  have hall : w.db.expenses.All (Readable env.unicode) := Store.all_of_pending_nil hpending hstart
  obtain ⟨g, hrows, hthreads⟩ := (keeps_readable calls).run hsteps
    ⟨fun _ => (), hall, fun i => (respects_run (isSome_validateCurrency_usd halpha) readers (calls i)
      (hother i)).follows (fun _ _ ho => ho) (fun _ _ _ _ h => h) (fun _ _ h => h) (fun _ _ h => h)⟩
  refine ⟨fun e he => (readable_iff env.unicode e).1 (hrows.1 e.id e (Table.get_of_mem he)),
    fun i hreads e he => ?_⟩
  have hend := hthreads i
  rw [he, Prog.follows_raise] at hend
  exact hend hreads

end runs

/-! ## A receipt with a total, and one without -/

/-- The database with a parsed receipt that has this payload. -/
def payloadWorld (payload : Json) : World Bool :=
  World.ofDb { Db.ofUsers [⟨7, "0123456789abcdef0123456789abcdef"⟩] with
    receipts := Store.ofTable
      ⟨[{ sampleReceipt with status := .parsed, parsedPayload := some payload }],
        List.nodup_singleton _⟩ }

/-- The receipt is booked, and its expense is read. -/
def bookedAndRead : Bool → ExpenseCall Env.quiet.unicode
  | false => .categorise 1005
  | true => .get 7 1005

def coffeePayload : Json := .obj [("merchant", .str "Cafe"), ("total", .str "3.50")]

/-- With a total, it can be read. -/
theorem staysReadable_run_sample :
    StaysReadable bookedAndRead ((backend Env.quiet).run
      (serving blindReaders bookedAndRead (payloadWorld coffeePayload))
      (List.replicate 9 (.step false) ++ List.replicate 2 (.step true))) := by
  have hpasses : (backend Env.quiet).passes (readsBookable bookedAndRead)
      (serving blindReaders bookedAndRead (payloadWorld coffeePayload))
      (List.replicate 9 (.step false) ++ List.replicate 2 (.step true)) = true := by
    decide +kernel
  exact staysReadable_run (fun _ h => h) rfl (fun e he => absurd he List.not_mem_nil)
    (fun i p h => by cases i <;> cases h) (Machine.along_of_passes (fun _ _ _ h => h) hpasses)

/-- Without one, the expense of 0.00 cannot. -/
theorem not_staysReadable_without_total :
    ¬StaysReadable bookedAndRead ((backend Env.quiet).run
      (serving blindReaders bookedAndRead (payloadWorld (.obj [("total", .null)])))
      (List.replicate 9 (.step false) ++ List.replicate 2 (.step true))) := by
  have hrow : ∃ e ∈ ((backend Env.quiet).run
      (serving blindReaders bookedAndRead (payloadWorld (.obj [("total", .null)])))
      (List.replicate 9 (.step false) ++
        List.replicate 2 (.step true))).shared.db.expenses.committed.rows,
      ¬Readable Env.quiet.unicode e := by
    decide +kernel
  obtain ⟨e, he, hnot⟩ := hrow
  exact fun h => hnot ((readable_iff _ e).2 (h.rows e he))

end ExpenseReadability

end SpendLens
