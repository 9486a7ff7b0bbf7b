/-
# Saving the edit form

The form of an expense holds texts.  What it sends has a key for every field but an empty
description, whose key is left out, and a field whose key is left out is one the server does not
touch.  So the form saves what it shows, except that it cannot clear a description.
-/
import SpendLens.ExpensePatches

namespace SpendLens

namespace EditForm

/-! ## The form -/

/-- The white space and the line terminators of JavaScript. -/
def isJsSpace (c : Char) : Bool :=
  let n := c.toNat
  (9 ≤ n && n ≤ 13) || n = 32 || n = 0xa0 || n = 0x1680 || (0x2000 ≤ n && n ≤ 0x200a) ||
    n = 0x2028 || n = 0x2029 || n = 0x202f || n = 0x205f || n = 0x3000 || n = 0xfeff

/-- `String.prototype.trim`. -/
def jsTrim (s : String) : String :=
  String.ofList ((s.toList.dropWhile isJsSpace).rdropWhile isJsSpace)

/-- What the inputs hold. -/
structure FormState where
  merchantName : String
  amount : String
  currency : String
  category : ExpenseCategory
  expenseDate : String
  description : String

/-- `ExpenseCreatePayload`; a description that is nothing has no key. -/
structure Payload where
  merchantName : String
  amount : String
  currency : String
  category : ExpenseCategory
  expenseDate : String
  description : Option String

/-- The payload of `handleSubmit`. -/
def FormState.payload (U : Unicode) (form : FormState) : Payload where
  merchantName := jsTrim form.merchantName
  amount := form.amount
  currency := U.upper form.currency
  category := form.category
  expenseDate := form.expenseDate
  description := if jsTrim form.description = "" then none else some (jsTrim form.description)

/-! ## The request -/

/-- How the server reads the text of a date: an ISO date, and more. -/
structure DateReader where
  read : String → Option Date
  read_isoformat : ∀ d : Date, read d.isoformat = some d

/-- The validation of the body as an `ExpenseUpdate`, of which the keys that are there are set. -/
def validateUpdate (U : Unicode) (dates : DateReader) (body : Payload) :
    Except PyExc (ExpenseUpdate U) :=
  match hm : stripMerchant body.merchantName with
  | none => .error (.validationError "merchant_name")
  | some m =>
      match Decimal.parse? U body.amount with
      | none => .error (.validationError "amount")
      | some d =>
          if ha : amountOk d = true then
            match hc : validateCurrency U body.currency with
            | none => .error (.validationError "currency")
            | some c =>
                match dates.read body.expenseDate with
                | none => .error (.validationError "expense_date")
                | some day =>
                    if hd : descriptionOk body.description = true then
                      .ok
                        { merchantName := some (some m)
                          amount := some (some d)
                          currency := some (some c)
                          category := some (some body.category)
                          expenseDate := some (some day)
                          description := body.description.map some
                          merchantName_ok := by
                            rintro v h
                            obtain rfl := Option.some.inj (Option.some.inj h)
                            exact stripMerchant_idem hm
                          amount_ok := by
                            rintro v h
                            obtain rfl := Option.some.inj (Option.some.inj h)
                            exact ha
                          currency_ok := by
                            rintro v h
                            obtain rfl := Option.some.inj (Option.some.inj h)
                            exact validateCurrency_idem hc
                          description_ok := by
                            rintro v h
                            obtain ⟨s, hs, rfl⟩ := Option.map_eq_some_iff.1 h
                            rw [← hs]
                            exact hd }
                    else .error (.validationError "description")
          else .error (.validationError "amount")

/-- Submitting the form of an expense: `PATCH /expenses/{id}`, without an `If-Match`. -/
def submitEdit (env : Env) (dates : DateReader) (userId expenseId : UUID) (form : FormState) :
    Service (ExpenseOut env.unicode) := do
  let update ← Prog.ofExcept (validateUpdate env.unicode dates (form.payload env.unicode))
  patchExpense env userId expenseId update none

/-- **A row is as in the form**: what the texts say, the merchant trimmed and the currency in
capitals; the description is the trimmed one, and null or empty if that is. -/
structure SavedAs (U : Unicode) (dates : DateReader) (form : FormState) (row : Expense) : Prop where
  merchantName : row.merchantName = strip (jsTrim form.merchantName)
  amount : ∃ d, Decimal.parse? U form.amount = some d ∧ d.eq row.amount.toDecimal = true
  currency : row.currency = U.upper form.currency
  category : row.category = form.category
  expenseDate : dates.read form.expenseDate = some row.expenseDate
  description : row.description = some (jsTrim form.description) ∨
    jsTrim form.description = "" ∧ row.description = none

/-! ## What the server makes of the body -/

variable {U : Unicode} {dates : DateReader}

/-- The fields of a validated body. -/
theorem validateUpdate_eq_ok {body : Payload} {update : ExpenseUpdate U}
    (h : validateUpdate U dates body = .ok update) :
    ∃ m d c day, stripMerchant body.merchantName = some m ∧
      Decimal.parse? U body.amount = some d ∧ validateCurrency U body.currency = some c ∧
      dates.read body.expenseDate = some day ∧
      update.toExpensePatch = ⟨some (some m), some (some d), some (some c),
        some (some body.category), some (some day), body.description.map some⟩ := by
  unfold validateUpdate at h
  split at h
  · cases h
  · rename_i m hm
    split at h
    · cases h
    · rename_i d hd
      split at h
      · split at h
        · cases h
        · rename_i c hc
          split at h
          · cases h
          · rename_i day hday
            split at h
            · obtain rfl := Except.ok.inj h
              exact ⟨m, d, c, day, hm, hd, hc, hday, rfl⟩
            · cases h
      · cases h

theorem stripMerchant_eq_some {v m : String} (h : stripMerchant v = some m) : m = strip v := by
  unfold stripMerchant at h
  split at h
  · dsimp only at h
    split at h
    · cases h
    · exact (Option.some.inj h).symm
  · cases h

/-- What is stripped is part of the text. -/
theorem stripChars_sublist (cs : List Char) : (stripChars cs).Sublist cs :=
  (List.rdropWhile_prefix isSpace _).sublist.trans (List.dropWhile_suffix isSpace).sublist

/-- A currency in capitals is stored as it is: had it blanks, it would be too short. -/
theorem validateCurrency_upper {v c : String} (h : validateCurrency U (U.upper v) = some c) :
    c = U.upper v := by
  obtain ⟨code, hcode⟩ : ∃ code, code = U.upper v := ⟨_, rfl⟩
  have hfixed : ∀ d ∈ code.toList, U.upperChar d = [d] := by
    intro d hd
    rw [hcode, Unicode.upper, String.toList_ofList] at hd
    obtain ⟨x, -, hx⟩ := List.mem_flatMap.1 hd
    exact U.upperChar_upper x d hx
  have hstrip : U.upper (strip code) = strip code := by
    rw [Unicode.upper, toList_strip,
      List.flatMap_congr (fun d hd => hfixed d ((stripChars_sublist _).subset hd)),
      List.flatMap_singleton']
    rfl
  rw [← hcode] at h ⊢
  unfold validateCurrency at h
  split at h
  · rename_i hlength
    dsimp only at h
    split at h
    · cases h
    · rename_i hok
      obtain rfl := Option.some.inj h
      have hthree : (strip code).length = code.length := by
        rw [hlength, ← hstrip]
        by_contra hne
        exact hok (by rw [decide_eq_true hne]; rfl)
      have hchars : stripChars code.toList = code.toList := by
        apply (stripChars_sublist code.toList).eq_of_length
        rw [← toList_strip, String.length_toList, String.length_toList]
        exact hthree
      rw [hstrip, strip, hchars, String.ofList_toList]
  · cases h

/-! ## What a request that succeeds has done -/

section run

variable {env : Env} {T : ExpenseTable} {w w' : World Unit}

/-- An answered operation of a session that runs alone. -/
theorem exec_of_alone_ok {o : Op} {r : o.Res} (h : alone env o w = (.ok r, w')) :
    exec env () o w = some (.ok r, w') := by
  have hexec : alone env o w = (exec env () o w).getD (.error .workerLost, w) := rfl
  rw [hexec] at h
  cases hr : exec env () o w with
  | none =>
      rw [hr] at h
      cases h
  | some x =>
      rw [hr, Option.getD_some] at h
      rw [h]

/-- A statement that returns has been executed. -/
theorem run_sql_eq_ok {s : Stmt} {r : s.Res} (h : Prog.run (alone env) (sql s) w = (.ok r, w')) :
    ∃ db, s.exec (env.clock w.calls) () w.db = some (.ok r, db) ∧
      w' = { w with db := db }.tick := by
  rw [sql, Prog.run_perform] at h
  obtain ⟨-, hr, -⟩ | ⟨-, ⟨e, hr⟩, -⟩ | ⟨a, db, -, hr, hexec, hw⟩ :=
    exec_sql_cases (exec_of_alone_ok h)
  · cases hr
  · cases hr
  · obtain rfl := Except.ok.inj hr
    exact ⟨db, hexec, hw⟩

/-- A commit that returns has published what was written. -/
theorem run_commit_eq_ok (h : Prog.run (alone env) commit w = (.ok (), w')) :
    w'.db = w.db.commit () := by
  rw [commit, Prog.run_perform] at h
  obtain ⟨-, hr, -⟩ | ⟨-, -, hw⟩ | ⟨-, hr, -⟩ | ⟨-, hr, -⟩ := exec_commit_cases (exec_of_alone_ok h)
  · cases hr
  · rw [hw]
    rfl
  · cases hr
  · cases hr

/-- A query leaves the database. -/
theorem run_select_eq_ok {params : List Param} {p : Expense → Bool} {rows : List Expense}
    (h : Prog.run (alone env) (sql (.selectExpenses params p)) w = (.ok rows, w')) :
    w'.db = w.db ∧ rows = (w.db.expenses.view ()).rows.filter p := by
  obtain ⟨db, hexec, hw⟩ := run_sql_eq_ok h
  obtain ⟨hrows, hdb⟩ := Prod.mk.inj (Option.some.inj hexec)
  refine ⟨by rw [hw, ← hdb]; rfl, ?_⟩
  rw [select] at hrows
  split at hrows
  · exact (Except.ok.inj hrows).symm
  · cases hrows

/-- Loading an expense returns the row under its identifier. -/
theorem run_getExpense_eq_ok (hw : w.db.expenses = Store.ofTable T) {e a : Expense}
    (he : e ∈ T.rows) {userId : UUID}
    (h : Prog.run (alone env) (getExpense userId e.id) w = (.ok a, w')) :
    a = e ∧ w'.db = w.db := by
  obtain ⟨rows, u, hselect, h⟩ := Prog.run_bind_eq_ok _ h
  obtain ⟨hdb, hrows⟩ := run_select_eq_ok hselect
  obtain ⟨found, v, hone, h⟩ := Prog.run_bind_eq_ok _ h
  have hmem : ∀ x ∈ rows, x = e := by
    intro x hx
    rw [hrows, hw] at hx
    obtain ⟨hx, hof⟩ := List.mem_filter.1 hx
    simp only [isExpenseOf, Bool.and_eq_true, decide_eq_true_eq] at hof
    exact Table.eq_of_mem_of_key hx he hof.1
  match rows with
  | [] =>
      obtain ⟨hfound, -⟩ := Prod.mk.inj hone
      obtain rfl := Except.ok.inj hfound
      cases h
  | [x] =>
      obtain ⟨hfound, rfl⟩ := Prod.mk.inj hone
      obtain rfl := Except.ok.inj hfound
      obtain ⟨ha, rfl⟩ := Prod.mk.inj h
      rw [← Except.ok.inj ha]
      exact ⟨hmem x (List.mem_singleton_self x), hdb⟩
  | _ :: _ :: _ => cases hone

/-- The flush of a patch has led to a row, which a commit publishes. -/
theorem run_flushExpense_eq_ok (hw : w.db.expenses = Store.ofTable T) {e : Expense}
    (he : e ∈ T.rows) {patch : ExpensePatch}
    (h : Prog.run (alone env) (flushColumns ExpenseColumn.changes
      (fun cols => sql (.updateExpense e.id cols)) e patch.columns) w = (.ok (), w')) :
    ∃ row stamp, resultingExpense e patch = .ok row ∧ w'.db.expenses.commit () =
      Store.ofTable (T.put { row with id := e.id, updatedAt := stamp }) := by
  rw [← storeAll_expenseColumns]
  unfold flushColumns at h
  dsimp only at h
  split at h
  · rename_i hempty
    rw [List.isEmpty_iff.1 hempty]
    obtain ⟨-, rfl⟩ := Prod.mk.inj h
    -- nothing is written, and the table has the row already
    refine ⟨e, e.updatedAt, rfl, ?_⟩
    rw [hw, Table.put_of_mem he]
    rfl
  · obtain ⟨db, hexec, rfl⟩ := run_sql_eq_ok h
    rw [exec_updateExpense _ hw he] at hexec
    split at hexec
    · cases hexec
    · rename_i row hrow
      obtain ⟨-, rfl⟩ := Prod.mk.inj (Option.some.inj hexec)
      exact ⟨row, _, hrow, rfl⟩

/-- A patch that is applied, up to its commit. -/
theorem run_applyPatch_eq_ok (hw : w.db.expenses = Store.ofTable T) {e : Expense}
    (he : e ∈ T.rows) {userId : UUID} {patch : ExpensePatch}
    (h : Prog.run (alone env) (applyPatch env userId e patch) w = (.ok (), w')) :
    ∃ row stamp, resultingExpense e patch = .ok row ∧ w'.db.expenses.commit () =
      Store.ofTable (T.put { row with id := e.id, updatedAt := stamp }) := by
  obtain ⟨_, u, hflush, h⟩ := Prog.run_bind_eq_ok _ h
  obtain ⟨row, stamp, hrow, hput⟩ := run_flushExpense_eq_ok hw he hflush
  refine ⟨row, stamp, hrow, ?_⟩
  rw [← hput]
  split at h
  · obtain ⟨db, hexec, rfl⟩ := run_sql_eq_ok h
    obtain hsame | hwrite := Stmt.exec_expenses hexec
    · show db.expenses.commit () = _
      rw [hsame]
    · cases hwrite
  · obtain ⟨-, rfl⟩ := Prod.mk.inj h
    rfl

/-- **A request that succeeds has stored the row its patch leads to.** -/
theorem run_patchExpense_eq_ok (hw : w.db.expenses = Store.ofTable T) {e : Expense}
    (he : e ∈ T.rows) {userId : UUID} {patch : ExpenseUpdate env.unicode}
    {out : ExpenseOut env.unicode}
    (h : Prog.run (alone env) (patchExpense env userId e.id patch none) w = (.ok out, w')) :
    ∃ row stamp, resultingExpense e patch.toExpensePatch = .ok row ∧ w'.db.expenses =
      Store.ofTable (T.put { row with id := e.id, updatedAt := stamp }) := by
  obtain ⟨fresh, v, hupdate, h⟩ := Prog.run_bind_eq_ok _ h
  have hout : w' = v := by
    cases hexpense : expenseOut env.unicode fresh with
    | error err =>
        rw [hexpense] at h
        cases h
    | ok out' =>
        rw [hexpense] at h
        exact (Prod.mk.inj h).2.symm
  obtain ⟨a, u, hget, hupdate⟩ := Prog.run_bind_eq_ok _ hupdate
  obtain ⟨rfl, hdb⟩ := run_getExpense_eq_ok hw he hget
  have hu : u.db.expenses = Store.ofTable T := by rw [hdb, hw]
  -- a request without an `If-Match` is not stale
  obtain ⟨_, u₁, happly, hupdate⟩ := Prog.run_bind_eq_ok _ hupdate
  obtain ⟨row, stamp, hrow, hput⟩ := run_applyPatch_eq_ok hu he happly
  obtain ⟨_, u₂, hcommit, hrefresh⟩ := Prog.run_bind_eq_ok _ hupdate
  obtain ⟨rows, u₃, hselect, hrefresh⟩ := Prog.run_bind_eq_ok _ hrefresh
  have hv : v = u₃ := by
    cases rows with
    | nil => cases hrefresh
    | cons x rows => exact (Prod.mk.inj hrefresh).2.symm
  refine ⟨row, stamp, hrow, ?_⟩
  rw [hout, hv, (run_select_eq_ok hselect).1, run_commit_eq_ok hcommit]
  exact hput

/-- **A submission that succeeds has stored a row that its validated body leads to.** -/
theorem run_submitEdit_eq_ok (hw : w.db.expenses = Store.ofTable T) {e : Expense} (he : e ∈ T.rows)
    {userId : UUID} {form : FormState} {out : ExpenseOut env.unicode}
    (h : Prog.run (alone env) (submitEdit env dates userId e.id form) w = (.ok out, w')) :
    ∃ (update : ExpenseUpdate env.unicode) (row : Expense),
      validateUpdate env.unicode dates (form.payload env.unicode) = .ok update ∧
        ExpensePatchedFrom e update.toExpensePatch row ∧
        w'.db.expenses.committed.get e.id = some row := by
  obtain ⟨update, v, hvalid, hpatch⟩ := Prog.run_bind_eq_ok _ h
  cases hread : validateUpdate env.unicode dates (form.payload env.unicode) with
  | error err =>
      rw [hread] at hvalid
      cases hvalid
  | ok update' =>
      rw [hread] at hvalid
      obtain ⟨hsame, rfl⟩ := Prod.mk.inj hvalid
      obtain rfl := Except.ok.inj hsame
      obtain ⟨row, stamp, hrow, hput⟩ := run_patchExpense_eq_ok hw he hpatch
      refine ⟨update', { row with id := e.id, updatedAt := stamp }, rfl,
        { patchedFrom_of_resulting hrow with id := rfl }, ?_⟩
      rw [hput]
      show (T.put _).get e.id = _
      rw [Table.get_put, if_pos rfl]

end run

/-! ## What the form saves -/

/-- The row of a validated body is as in the form, up to its description. -/
theorem savedAs_iff_description {form : FormState} {update : ExpenseUpdate U} {e row : Expense}
    (hvalid : validateUpdate U dates (form.payload U) = .ok update)
    (hpatched : ExpensePatchedFrom e update.toExpensePatch row) :
    SavedAs U dates form row ↔ row.description = some (jsTrim form.description) ∨
      jsTrim form.description = "" ∧ row.description = none := by
  obtain ⟨m, d, c, day, hm, hd, hc, hday, hfields⟩ := validateUpdate_eq_ok hvalid
  rw [hfields] at hpatched
  have hmerchant : some row.merchantName = some m := hpatched.merchantName
  have hcurrency : some row.currency = some c := hpatched.currency
  have hcategory : some row.category = some form.category := hpatched.category
  have hdate : some row.expenseDate = some day := hpatched.expenseDate
  obtain ⟨d', hd', hamount⟩ := hpatched.amount
  obtain rfl := Option.some.inj hd'
  refine ⟨fun h => h.description, fun h => ⟨?_, ⟨d, hd, hamount⟩, ?_, ?_, ?_, h⟩⟩
  · rw [Option.some.inj hmerchant]
    exact stripMerchant_eq_some hm
  · rw [Option.some.inj hcurrency]
    exact validateCurrency_upper hc
  · exact Option.some.inj hcategory
  · rw [hdate]
    exact hday

/-- A description that is blank in the form stays what it was. -/
theorem description_of_patched {form : FormState} {update : ExpenseUpdate U} {e row : Expense}
    (hvalid : validateUpdate U dates (form.payload U) = .ok update)
    (hpatched : ExpensePatchedFrom e update.toExpensePatch row) :
    row.description = if jsTrim form.description = "" then e.description
      else some (jsTrim form.description) := by
  obtain ⟨m, d, c, day, -, -, -, -, hfields⟩ := validateUpdate_eq_ok hvalid
  rw [hpatched.description, hfields]
  show (Option.map some (if jsTrim form.description = "" then none
    else some (jsTrim form.description))).getD _ = _
  split
  · rfl
  · rfl

theorem savedAs_iff {form : FormState} {update : ExpenseUpdate U} {e row : Expense}
    (hvalid : validateUpdate U dates (form.payload U) = .ok update)
    (hpatched : ExpensePatchedFrom e update.toExpensePatch row) :
    SavedAs U dates form row ↔
      jsTrim form.description ≠ "" ∨ e.description = none ∨ e.description = some "" := by
  rw [savedAs_iff_description hvalid hpatched, description_of_patched hvalid hpatched]
  by_cases hblank : jsTrim form.description = ""
  · rw [if_pos hblank, hblank]
    simp only [ne_eq, not_true_eq_false, false_or, true_and]
    exact or_comm
  · rw [if_neg hblank]
    exact iff_of_true (Or.inl rfl) (Or.inl hblank)

/-- **When the edit form saves what it shows.**  Every submission that succeeds has stored the row
as it is in the form, unless the description is blank in the form and was not in the row. -/
theorem saves_iff {env : Env} {T : ExpenseTable} {w w' : World Unit} {userId : UUID}
    {form : FormState} {out : ExpenseOut env.unicode} {e : Expense}
    (hw : w.db.expenses = Store.ofTable T) (he : e ∈ T.rows)
    (hsuccess : Prog.run (alone env) (submitEdit env dates userId e.id form) w = (.ok out, w')) :
    (∃ row, w'.db.expenses.committed.get e.id = some row ∧
        SavedAs env.unicode dates form row) ↔
      jsTrim form.description ≠ "" ∨ e.description = none ∨ e.description = some "" := by
  obtain ⟨update, row, hvalid, hpatched, hget⟩ := run_submitEdit_eq_ok hw he hsuccess
  rw [← savedAs_iff hvalid hpatched]
  constructor
  · rintro ⟨row', hrow', hsaved⟩
    rw [hget] at hrow'
    rw [Option.some.inj hrow']
    exact hsaved
  · exact fun h => ⟨row, hget, h⟩

/-! ### A note on a coffee -/

/-- The dates of the inputs, and what else `date.fromisoformat` reads. -/
def isoDates : DateReader := ⟨Date.fromisoformat, Date.fromisoformat_isoformat⟩

def notedCoffee : Expense := { coffee with description := some "with Ann" }

def notedTable : ExpenseTable := ⟨[notedCoffee], by decide⟩

def notedWorld : World Unit :=
  World.ofDb { Db.ofUsers [⟨7, "t"⟩] with expenses := Store.ofTable notedTable }

/-- The form of the coffee, with some description. -/
def coffeeForm (description : String) : FormState :=
  ⟨" Blue Bottle", "4.50", "usd", .other, "2026-04-01", description⟩

/-- The submission of the form of the coffee. -/
def submitted (description : String) : Except PyExc (ExpenseOut Env.quiet.unicode) × World Unit :=
  Prog.run (alone Env.quiet)
    (submitEdit Env.quiet isoDates 7 notedCoffee.id (coffeeForm description)) notedWorld

theorem exists_submitted {description : String} (h : (submitted description).1.isOk = true) :
    ∃ out w', submitted description = (.ok out, w') := by
  rcases hrun : submitted description with ⟨r, w'⟩
  rw [hrun] at h
  cases r with
  | error err => cases h
  | ok out => exact ⟨out, w', rfl⟩

theorem saves_iff_sample : ∃ out w', submitted " to go " = (.ok out, w') ∧
    ((∃ row, w'.db.expenses.committed.get notedCoffee.id = some row ∧
        SavedAs Env.quiet.unicode isoDates (coffeeForm " to go ") row) ↔
      jsTrim " to go " ≠ "" ∨ notedCoffee.description = none ∨
        notedCoffee.description = some "") := by
  obtain ⟨out, w', hrun⟩ := @exists_submitted " to go " (by decide +kernel)
  have hw : notedWorld.db.expenses = Store.ofTable notedTable := rfl
  have hmem : notedCoffee ∈ notedTable.rows := List.mem_singleton_self notedCoffee
  exact ⟨out, w', hrun, saves_iff hw hmem hrun⟩

/-- Clearing the description succeeds, and the note is still there. -/
theorem not_savedAs_cleared : ∃ out w' row, submitted "" = (.ok out, w') ∧
    w'.db.expenses.committed.get notedCoffee.id = some row ∧
      row.description = some "with Ann" ∧
        ¬SavedAs Env.quiet.unicode isoDates (coffeeForm "") row := by
  obtain ⟨out, w', hrun⟩ := @exists_submitted "" (by decide +kernel)
  have hw : notedWorld.db.expenses = Store.ofTable notedTable := rfl
  have hmem : notedCoffee ∈ notedTable.rows := List.mem_singleton_self notedCoffee
  have hblank : jsTrim (coffeeForm "").description = "" := by decide +kernel
  have hnote : notedCoffee.description = some "with Ann" := rfl
  have hsubmit : Prog.run (alone Env.quiet)
      (submitEdit Env.quiet isoDates 7 notedCoffee.id (coffeeForm "")) notedWorld =
    (.ok out, w') := hrun
  obtain ⟨update, row, hvalid, hpatched, hget⟩ := run_submitEdit_eq_ok hw hmem hsubmit
  have hrow : row.description = some "with Ann" := by
    rw [description_of_patched hvalid hpatched, if_pos hblank, hnote]
  refine ⟨out, w', row, hrun, hget, hrow, fun hsaved => ?_⟩
  obtain h | ⟨-, h⟩ := hsaved.description
  · rw [hrow, hblank] at h
    exact absurd (Option.some.inj h) (by decide)
  · rw [hrow] at h
    cases h

end EditForm

end SpendLens
