/-
# Tenants do not see each other

A call of a user runs as if the tables held nobody else's rows: its answer, its exception and
what it writes depend on the user's own share alone, and the rows of the others stay as they are.
In particular the identifier of somebody else's row is answered like one that does not exist.
-/
import SpendLens.Anomalies
import SpendLens.BudgetService
import SpendLens.ExpenseService
import SpendLens.GmailConnections
import SpendLens.ReceiptService
import SpendLens.TenantShares

namespace SpendLens

namespace Tenancy

variable {env : Env} {userId : UUID}

/-! ## Programs that stay within the share -/

section programs

variable {α β : Type} {mine : Kind → UUID → Prop} {post : (Kind → UUID → Prop) → α → Prop}
  {post' : (Kind → UUID → Prop) → β → Prop}

/-- The program asks for nothing but what is the user's, where `mine` are identifiers of his; at
its end the value it returns and what it has learned satisfy `post`. -/
abbrev Stays (userId : UUID) (post : (Kind → UUID → Prop) → α → Prop) (mine : Kind → UUID → Prop)
    (p : Service α) : Prop :=
  p.Follows (May userId) Next post (fun _ _ => True) mine

theorem Stays.ret {a : α} (h : post mine a) : Stays userId post mine (.ret a) :=
  (Prog.follows_ret a).2 h

theorem Stays.raise (e : PyExc) : Stays userId post mine (.raise e : Service α) :=
  (Prog.follows_raise e).2 trivial

theorem Stays.bind {p : Service α} {f : α → Service β}
    (hp : Stays userId (fun mine' a => Stays userId post' mine' (f a)) mine p) :
    Stays userId post' mine (p.bind f) :=
  Prog.Follows.bind hp

/-- One operation in front of what it is needed for. -/
theorem Stays.step {o : Op} {f : o.Res → Service α} (hmay : May userId mine o)
    (hf : ∀ a mine', Next mine o (.ok a) mine' → Stays userId post mine' (f a)) :
    Stays userId post mine ((Prog.perform o).bind f) :=
  Stays.bind (Prog.Follows.perform hmay hf (fun _ _ _ => trivial))

/-- One operation at the end. -/
theorem Stays.perform {o : Op} {post : (Kind → UUID → Prop) → o.Res → Prop}
    (hmay : May userId mine o) (hr : ∀ a mine', Next mine o (.ok a) mine' → post mine' a) :
    Stays userId post mine (Prog.perform o) :=
  Prog.Follows.perform hmay hr (fun _ _ _ => trivial)

theorem Stays.handle {p : Service α} {h : PyExc → Service α} (hp : Stays userId post mine p)
    (hh : ∀ mine' e, Stays userId post mine' (h e)) : Stays userId post mine (p.handle h) :=
  Prog.Follows.handle (hp.mono (fun _ _ ha => ha) (fun mine' e _ => hh mine' e))

/-- A computation of its own asks for nothing. -/
theorem Stays.ofExcept {r : Except PyExc β} {f : β → Service α}
    (hf : ∀ b, r = .ok b → Stays userId post mine (f b)) :
    Stays userId post mine ((Prog.ofExcept r).bind f) := by
  cases r with
  | error e => exact Stays.raise e
  | ok b => exact hf b rfl

/-- A row that is found is one of the rows. -/
theorem Stays.found {rows : List β} {f : Option β → Service α}
    (hnone : Stays userId post mine (f none))
    (hsome : ∀ a ∈ rows, Stays userId post mine (f (some a))) :
    Stays userId post mine ((scalarOneOrNone rows).bind f) := by
  rcases rows with _ | ⟨a, _ | ⟨a', rows⟩⟩
  · exact hnone
  · exact hsome a List.mem_cons_self
  · exact Stays.raise _

theorem Stays.refreshed {rows : List α} (h : ∀ a ∈ rows, post mine a) :
    Stays userId post mine (refreshed rows) := by
  cases rows with
  | nil => exact Stays.raise _
  | cons a rows => exact Stays.ret (h a List.mem_cons_self)

/-- An update of a row of the user's, if there is anything to write. -/
theorem Stays.flush {Row Column : Type} {changes : Row → Column → Bool}
    {stmt : List Column → Service Unit} {row : Row} {cols : List Column} {f : Unit → Service α}
    (hstmt : ∀ cols', (∀ c ∈ cols', c ∈ cols) → Stays userId post mine ((stmt cols').bind f))
    (hf : Stays userId post mine (f ())) :
    Stays userId post mine ((flushColumns changes stmt row cols).bind f) := by
  unfold flushColumns
  simp only
  split
  · exact hf
  · exact hstmt _ (fun c hc => (List.mem_filter.1 hc).1)

end programs

/-! ## Expenses -/

section expenses

variable {mine : Kind → UUID → Prop}

theorem stays_getExpense (expenseId : UUID) :
    Stays userId (fun mine' e => mine' .expense e.id) mine (getExpense userId expenseId) := by
  have hwithin : Within userId mine (.selectExpenses [] (isExpenseOf userId expenseId)) := by
    intro e he
    rw [isExpenseOf, Bool.and_eq_true, decide_eq_true_eq, decide_eq_true_eq] at he
    exact Or.inl he.2
  refine Stays.step hwithin (fun rows mine' hnext => Stays.found (Stays.raise _) ?_)
  exact fun e he => Stays.ret (hnext.2 e he).2

theorem stays_refreshExpense {id : UUID} (hid : mine .expense id) :
    Stays userId (fun _ _ => True) mine (refreshExpense id) := by
  have hwithin : Within userId mine (.selectExpenses [] (fun e => e.id = id)) := by
    intro e he
    obtain rfl := of_decide_eq_true he
    exact Or.inr (Or.inl hid)
  exact Stays.step hwithin (fun rows mine' _ => Stays.refreshed (fun _ _ => trivial))

theorem stays_createExpense (payload : ExpenseCreate env.unicode) :
    Stays userId (fun _ _ => True) mine (createExpense env.unicode userId payload) := by
  refine Stays.step trivial (fun id mine₁ h₁ => ?_)
  refine Stays.step ⟨rfl, h₁.2 .expense, rfl⟩ (fun _ mine₂ h₂ => ?_)
  refine Stays.step trivial (fun _ mine₃ h₃ => ?_)
  exact stays_refreshExpense (h₃.1 _ _ (h₂.1 _ _ (h₁.2 .expense)))

/-- A patch names no receipt. -/
theorem receiptId_not_mem_columns (patch : ExpensePatch) (k : Option UUID) :
    ExpenseColumn.receiptId k ∉ patch.columns := by
  simp [ExpensePatch.columns]

/-- A patch writes the row, and then the correction. -/
theorem stays_applyPatch {e : Expense} (he : mine .expense e.id) (patch : ExpensePatch) :
    Stays userId (fun mine' _ => mine' .expense e.id) mine (applyPatch env userId e patch) := by
  have hcorrect : ∀ mine' : Kind → UUID → Prop, mine' .expense e.id →
      Stays userId (fun mine' _ => mine' .expense e.id) mine'
        ((patch.correction e).elim (.ret ())
          (fun mc => recordCorrection env userId mc.1 mc.2)) := by
    intro mine' he'
    cases patch.correction e with
    | none => exact Stays.ret he'
    | some mc =>
        have hmay : May userId mine' (.sql (.upsertCorrection userId
            (normaliseMerchant env.unicode mc.1) mc.2)) := rfl
        exact Stays.perform hmay (fun _ _ hnext => hnext.1 _ _ he')
  have htail : (applyPatch env userId e patch) =
      (flushColumns ExpenseColumn.changes (fun cols => sql (.updateExpense e.id cols)) e
        patch.columns).bind (fun _ => (patch.correction e).elim (.ret ())
          (fun mc => recordCorrection env userId mc.1 mc.2)) := by
    unfold applyPatch
    cases patch.correction e <;> rfl
  rw [htail]
  refine Stays.flush (fun cols hcols => ?_) (hcorrect mine he)
  refine Stays.step ⟨he, fun k hk => ?_⟩ (fun _ mine' h' => hcorrect mine' (h'.1 _ _ he))
  exact receiptId_not_mem_columns patch _ (hcols _ hk)

theorem stays_updateExpense (expenseId : UUID) (patch : ExpensePatch) (ifMatch : Option String) :
    Stays userId (fun _ _ => True) mine (updateExpense env userId expenseId patch ifMatch) := by
  refine Stays.bind ((stays_getExpense expenseId).mono (fun mine₁ e h₁ => ?_) (fun _ _ h => h))
  show Stays userId _ mine₁ (if _ then _ else _)
  split
  · exact Stays.raise _
  · refine Stays.bind ((stays_applyPatch h₁ patch).mono (fun mine₂ _ h₂ => ?_) (fun _ _ h => h))
    exact Stays.step trivial (fun _ mine₃ h₃ => stays_refreshExpense (h₃.1 _ _ h₂))

theorem stays_deleteExpense (expenseId : UUID) (ifMatch : Option String) :
    Stays userId (fun _ _ => True) mine (deleteExpense env userId expenseId ifMatch) := by
  refine Stays.bind ((stays_getExpense expenseId).mono (fun mine₁ e h₁ => ?_) (fun _ _ h => h))
  show Stays userId _ mine₁ (if _ then _ else _)
  split
  · exact Stays.raise _
  · refine Stays.step h₁ (fun _ mine₂ _ => ?_)
    exact Stays.perform (o := .commit) trivial (fun _ _ _ => trivial)

theorem stays_listExpenses (filters : ExpenseFilters) (cursor : Option ExpenseCursor)
    (pageSize : ℤ) :
    Stays userId (fun _ _ => True) mine (listExpenses env userId filters cursor pageSize) := by
  refine Stays.step (fun e he => ?_) (fun rows mine' _ => Stays.ret trivial)
  rw [Bool.and_eq_true, Bool.and_eq_true] at he
  exact Or.inl (of_decide_eq_true he.1.1)

theorem stays_listPage (filters : ExpenseFilters) (cursor : Option String) (pageSize : ℤ) :
    Stays userId (fun _ _ => True) mine (listPage env userId filters cursor pageSize) := by
  have hpage : ∀ c, Stays userId (fun _ _ => True) mine
      ((listExpenses env userId filters c pageSize).bind fun page =>
        .ret (page.items, page.nextCursor.map ExpenseCursor.encode)) := by
    intro c
    refine Stays.bind ((stays_listExpenses filters c pageSize).mono ?_ (fun _ _ h => h))
    exact fun _ _ _ => Stays.ret trivial
  show Stays userId _ mine (Prog.bind (decodeCursor env cursor) _)
  unfold decodeCursor
  split
  · exact hpage _
  · split
    · exact hpage _
    · exact Stays.raise _

end expenses

/-! ## Receipts -/

section receipts

variable {mine : Kind → UUID → Prop}

theorem stays_getReceipt (receiptId : UUID) :
    Stays userId (fun mine' _ => mine' .receipt receiptId) mine (getReceipt userId receiptId) := by
  have hkey : ∀ r : Receipt, (decide (r.id = receiptId) && decide (r.userId = userId)) = true →
      r.id = receiptId ∧ r.userId = userId := by
    intro r hr
    rw [Bool.and_eq_true, decide_eq_true_eq, decide_eq_true_eq] at hr
    exact hr
  refine Stays.step (fun r hr => Or.inl (hkey r hr).2) (fun rows mine' hnext => ?_)
  refine Stays.found (Stays.raise _) (fun r hr => Stays.ret ?_)
  obtain ⟨hp, hmine⟩ := hnext.2 r hr
  obtain rfl := (hkey r hp).1
  exact hmine

theorem stays_refreshReceipt {id : UUID} (hid : mine .receipt id) :
    Stays userId (fun _ _ => True) mine (refreshReceipt id) := by
  have hwithin : Within userId mine (.selectReceipts [] (fun r => r.id = id)) := by
    intro r hr
    obtain rfl := of_decide_eq_true hr
    exact Or.inr hid
  exact Stays.step hwithin (fun rows mine' _ => Stays.refreshed (fun _ _ => trivial))

theorem stays_enqueueProcessing (receiptId : UUID) :
    Stays userId (fun _ _ => True) mine (enqueueProcessing env receiptId) := by
  unfold enqueueProcessing
  split
  · exact Stays.ret trivial
  · exact Stays.perform (o := .delay _) trivial (fun _ _ _ => trivial)

/-- Reading a receipt back and handing it over. -/
theorem stays_handOver {id : UUID} (hid : mine .receipt id) :
    Stays userId (fun _ _ => True) mine ((refreshReceipt id).bind fun receipt =>
      (enqueueProcessing env receipt.id).bind fun _ => .ret receipt) := by
  refine Stays.bind ((stays_refreshReceipt hid).mono (fun mine₁ r _ => ?_) (fun _ _ h => h))
  refine Stays.bind ((stays_enqueueProcessing r.id).mono ?_ (fun _ _ h => h))
  exact fun _ _ _ => Stays.ret trivial

theorem stays_saveReceipt (key mimeType : String) (size : ℕ) (externalMessageId : Option String) :
    Stays userId (fun mine' id => mine' .receipt id) mine
      (saveReceipt userId key mimeType size externalMessageId) := by
  have hwipe : ∀ (mine' : Kind → UUID → Prop) (e : PyExc),
      Stays userId (fun mine' id => mine' .receipt id) mine'
        ((Prog.perform (Op.deleteObject key)).bind fun _ => (.raise e : Service UUID)) :=
    fun _ e => Stays.step trivial (fun _ _ _ => Stays.raise e)
  refine Stays.handle ?_ hwipe
  refine Stays.step trivial (fun id mine₁ h₁ => ?_)
  refine Stays.step ⟨rfl, h₁.2 .receipt⟩ (fun _ mine₂ h₂ => ?_)
  exact Stays.step trivial (fun _ mine₃ h₃ => Stays.ret (h₃.1 _ _ (h₂.1 _ _ (h₁.2 .receipt))))

theorem stays_buildReceiptKey (mimeType secret : String) :
    Stays userId (fun _ _ => True) mine (buildReceiptKey env userId mimeType secret) := by
  unfold buildReceiptKey
  split
  · exact Stays.raise _
  · exact Stays.step (o := .utcnow) trivial
      (fun _ _ _ => Stays.step (o := .uuid4) trivial (fun _ _ _ => Stays.ret trivial))

theorem stays_createReceipt (body : List UInt8) (externalMessageId : Option String) :
    Stays userId (fun _ _ => True) mine (createReceipt env userId body externalMessageId) := by
  unfold createReceipt
  split
  · exact Stays.raise _
  · split
    · exact Stays.raise _
    · split
      · exact Stays.raise _
      · unfold persistReceipt
        refine Stays.bind ((stays_buildReceiptKey _ _).mono (fun mine₁ key _ => ?_) (fun _ _ h => h))
        refine Stays.step (o := .putObject _ _ _) trivial (fun _ mine₂ _ => ?_)
        refine Stays.bind ((stays_saveReceipt _ _ _ _).mono ?_ (fun _ _ h => h))
        exact fun mine₃ id h₃ => stays_handOver h₃

theorem stays_listReceipts (limit : ℤ) :
    Stays userId (fun _ _ => True) mine (listReceipts userId limit) :=
  Stays.step (fun _ hr => Or.inl (of_decide_eq_true hr)) (fun _ _ _ => Stays.ret trivial)

/-- The linked expenses are unlinked one after the other. -/
theorem stays_unlink {linked : List Expense} {f : Unit → Service Unit}
    (hlinked : ∀ e ∈ linked, mine .expense e.id)
    (hf : ∀ mine', (∀ kind k, mine kind k → mine' kind k) →
      Stays userId (fun _ _ => True) mine' (f ())) :
    Stays userId (fun _ _ => True) mine
      (Prog.bind (linked.forM (fun e => sql (.updateExpense e.id [.receiptId none]))) f) := by
  induction linked generalizing mine with
  | nil => exact hf mine (fun _ _ h => h)
  | cons e linked ih =>
      show Stays userId _ mine (Prog.bind (Prog.bind (sql _) (fun _ => linked.forM _)) f)
      rw [Prog.bind_assoc]
      refine Stays.step ⟨hlinked e List.mem_cons_self, fun k => ?_⟩ (fun _ mine' h' => ?_)
      · simp
      · refine ih (fun e' he' => h'.1 _ _ (hlinked e' (List.mem_cons_of_mem _ he'))) ?_
        exact fun mine'' h'' => hf mine'' (fun kind k hk => h'' kind k (h'.1 kind k hk))

theorem stays_deleteReceipt (receiptId : UUID) :
    Stays userId (fun _ _ => True) mine (deleteReceipt userId receiptId) := by
  refine Stays.bind ((stays_getReceipt receiptId).mono (fun mine₁ r h₁ => ?_) (fun _ _ h => h))
  have hwithin : Within userId mine₁ (.selectExpenses [] (fun e => e.receiptId = some receiptId)) :=
    fun e he => Or.inr (Or.inr ⟨receiptId, of_decide_eq_true he, h₁⟩)
  refine Stays.step hwithin (fun linked mine₂ h₂ => ?_)
  refine stays_unlink (fun e he => (h₂.2 e he).2) (fun mine₃ h₃ => ?_)
  refine Stays.step (h₃ _ _ (h₂.1 _ _ h₁)) (fun _ mine₄ _ => Stays.step trivial (fun _ mine₅ _ => ?_))
  refine Stays.handle (Stays.perform (o := .deleteObject r.storageKey) trivial ?_) ?_
  · exact fun _ _ _ => trivial
  · exact fun _ _ => Stays.ret trivial

theorem stays_retryReceipt (receiptId : UUID) :
    Stays userId (fun _ _ => True) mine (retryReceipt env userId receiptId) := by
  refine Stays.bind ((stays_getReceipt receiptId).mono (fun mine₁ r h₁ => ?_) (fun _ _ h => h))
  show Stays userId _ mine₁ (if _ then _ else _)
  have hdone : ∀ mine' : Kind → UUID → Prop, mine' .receipt receiptId →
      Stays userId (fun _ _ => True) mine' (commit.bind fun _ =>
        (refreshReceipt receiptId).bind fun receipt =>
          (enqueueProcessing env receipt.id).bind fun _ => .ret receipt) :=
    fun mine' h' => Stays.step trivial (fun _ mine'' h'' => stays_handOver (h''.1 _ _ h'))
  split
  · exact Stays.raise _
  · refine Stays.flush (fun cols _ => ?_) (hdone mine₁ h₁)
    exact Stays.step h₁ (fun _ mine₂ h₂ => hdone mine₂ (h₂.1 _ _ h₁))

end receipts

/-! ## Budgets -/

section budgets

variable {mine : Kind → UUID → Prop}

theorem stays_getBudget (budgetId : UUID) :
    Stays userId (fun mine' b => mine' .budget b.id) mine (getBudget userId budgetId) := by
  have hwithin : Within userId mine (.selectBudgets [] (isBudget userId budgetId)) := by
    intro b hb
    rw [isBudget, Bool.and_eq_true, decide_eq_true_eq, decide_eq_true_eq] at hb
    exact Or.inl hb.2
  refine Stays.step hwithin (fun rows mine' hnext => Stays.found (Stays.raise _) ?_)
  exact fun b hb => Stays.ret (hnext.2 b hb).2

theorem stays_refreshBudget {id : UUID} (hid : mine .budget id) :
    Stays userId (fun _ _ => True) mine (refreshBudget id) := by
  have hwithin : Within userId mine (.selectBudgets [] (fun b => b.id = id)) := by
    intro b hb
    obtain rfl := of_decide_eq_true hb
    exact Or.inr hid
  exact Stays.step hwithin (fun rows mine' _ => Stays.refreshed (fun _ _ => trivial))

/-- Saving keeps what is known; a conflict is rolled back. -/
theorem stays_saveBudget {id : UUID} {flush : Service Unit}
    (hflush : Stays userId (fun mine' _ => mine' .budget id) mine flush) :
    Stays userId (fun mine' _ => mine' .budget id) mine (saveBudget flush) := by
  refine Stays.handle (Stays.bind (hflush.mono (fun mine₁ _ h₁ => ?_) (fun _ _ h => h))) ?_
  · exact Stays.perform (o := .commit) trivial (fun _ _ h₂ => h₂.1 _ _ h₁)
  · intro mine' e
    split
    · exact Stays.step (o := .rollback) trivial (fun _ _ _ => Stays.raise _)
    · exact Stays.raise _

theorem stays_createBudget (payload : BudgetCreate) :
    Stays userId (fun _ _ => True) mine (createBudget userId payload) := by
  refine Stays.step (o := .uuid4) trivial (fun id mine₁ h₁ => ?_)
  have hinsert : ∀ b : NewBudget, b.userId = userId → b.id = id →
      Stays userId (fun mine' _ => mine' .budget id) mine₁ (sql (.insertBudget b)) := by
    rintro b huser rfl
    refine Stays.perform (o := .sql (.insertBudget b)) ⟨huser, h₁.2 .budget⟩ ?_
    exact fun _ _ h₂ => h₂.1 _ _ (h₁.2 .budget)
  refine Stays.bind ((stays_saveBudget (hinsert _ rfl rfl)).mono ?_ (fun _ _ h => h))
  exact fun mine₂ _ h₂ => stays_refreshBudget h₂

theorem stays_updateBudget (budgetId : UUID) (patch : BudgetPatch) :
    Stays userId (fun _ _ => True) mine (updateBudget userId budgetId patch) := by
  refine Stays.bind ((stays_getBudget budgetId).mono (fun mine₁ b h₁ => ?_) (fun _ _ h => h))
  have hflush : Stays userId (fun mine' _ => mine' .budget b.id) mine₁
      (flushColumns BudgetColumn.changes (fun cols => sql (.updateBudget b.id cols)) b
        patch.columns) := by
    unfold flushColumns
    simp only
    split
    · exact Stays.ret h₁
    · exact Stays.perform (o := .sql (.updateBudget b.id _)) h₁ (fun _ _ h₂ => h₂.1 _ _ h₁)
  refine Stays.bind ((stays_saveBudget hflush).mono ?_ (fun _ _ h => h))
  exact fun mine₂ _ h₂ => stays_refreshBudget h₂

theorem stays_deleteBudget (budgetId : UUID) :
    Stays userId (fun _ _ => True) mine (deleteBudget userId budgetId) := by
  refine Stays.bind ((stays_getBudget budgetId).mono (fun mine₁ b h₁ => ?_) (fun _ _ h => h))
  refine Stays.step h₁ (fun _ mine₂ _ => ?_)
  exact Stays.perform (o := .commit) trivial (fun _ _ _ => trivial)

theorem stays_listBudgets (order : RowOrder) (includeInactive : Bool) :
    Stays userId (fun _ _ => True) mine (listBudgets order userId includeInactive) := by
  refine Stays.step (fun b hb => ?_) (fun _ _ _ => Stays.ret trivial)
  rw [isBudgetOf, Bool.and_eq_true] at hb
  exact Or.inl (of_decide_eq_true hb.1)

end budgets

/-! ## Insights -/

section insights

variable {mine : Kind → UUID → Prop} {order : RowOrder}

theorem within_isSpentIn (start stop : Date) {p : Expense → Bool}
    (hp : ∀ e, p e = true → isSpentIn userId start stop e = true) :
    Within userId mine (.selectExpenses [] p) := by
  intro e he
  have hspent := hp e he
  rw [isSpentIn, Bool.and_eq_true, Bool.and_eq_true] at hspent
  exact Or.inl (of_decide_eq_true hspent.1.1)

theorem stays_budgetStatus (today : Date) :
    Stays userId (fun _ _ => True) mine (budgetStatus order userId today) := by
  refine Stays.bind ((stays_listBudgets order false).mono (fun mine₁ budgets _ => ?_)
    (fun _ _ h => h))
  show Stays userId _ mine₁ (if _ then _ else _)
  split
  · exact Stays.ret trivial
  · refine Stays.ofExcept (fun bounds _ => ?_)
    refine Stays.step (within_isSpentIn bounds.1 bounds.2 (fun e he => ?_)) (fun rows mine₂ _ => ?_)
    · exact (Bool.and_eq_true _ _ ▸ he).1
    · exact Stays.ofExcept (fun _ _ => Stays.ret trivial)

theorem stays_monthlyBreakdown (month : Date) :
    Stays userId (fun _ _ => True) mine (monthlyBreakdown order userId month) := by
  refine Stays.ofExcept (fun bounds _ => ?_)
  exact Stays.step (within_isSpentIn _ _ (fun _ he => he)) (fun _ _ _ => Stays.ret trivial)

theorem stays_categoryTrends (zone : Zone) (anchor : Date) (months : ℤ) :
    Stays userId (fun _ _ => True) mine (categoryTrends order zone userId anchor months) := by
  refine Stays.ofExcept (fun windowStart _ => Stays.ofExcept (fun bounds _ => ?_))
  refine Stays.ofExcept (fun bucketDates _ => ?_)
  refine Stays.step (within_isSpentIn _ _ (fun _ he => he)) (fun _ _ _ => ?_)
  exact Stays.ofExcept (fun _ _ => Stays.ret trivial)

theorem stays_detectAnomalies (today : Date) (baselineDays lookbackDays : ℤ) (zThreshold : ℚ) :
    Stays userId (fun _ _ => True) mine
      (detectAnomalies order userId today baselineDays lookbackDays zThreshold) := by
  refine Stays.ofExcept (fun baselineStart _ => Stays.ofExcept (fun lookbackStart _ => ?_))
  refine Stays.step (fun e he => Or.inl (of_decide_eq_true he)) (fun _ _ _ => ?_)
  exact Stays.ofExcept (fun _ _ => Stays.ret trivial)

end insights

/-! ## Gmail connections -/

section connections

variable {mine : Kind → UUID → Prop}

theorem stays_getConnection (connectionId : UUID) :
    Stays userId (fun mine' c => mine' .connection c.id) mine
      (getConnection userId connectionId) := by
  have hwithin : Within userId mine (.selectConnections [] (isConnectionOf userId connectionId)) := by
    intro c hc
    rw [isConnectionOf, Bool.and_eq_true, decide_eq_true_eq, decide_eq_true_eq] at hc
    exact Or.inl hc.2
  refine Stays.step hwithin (fun rows mine' hnext => Stays.found (Stays.raise _) ?_)
  exact fun c hc => Stays.ret (hnext.2 c hc).2

theorem stays_listConnections :
    Stays userId (fun _ _ => True) mine (listConnections userId) :=
  Stays.step (fun _ hc => Or.inl (of_decide_eq_true hc)) (fun _ _ _ => Stays.ret trivial)

theorem stays_upsertConnection (googleEmail refreshToken : String) :
    Stays userId (fun _ _ => True) mine
      (upsertConnection env userId googleEmail refreshToken) := by
  refine Stays.ofExcept (fun encrypted _ => ?_)
  refine Stays.step (o := .uuid4) trivial (fun id mine₁ h₁ => ?_)
  refine Stays.step (o := .sql (.upsertConnection id userId googleEmail encrypted))
    ⟨rfl, h₁.2 .connection⟩ (fun c mine₂ h₂ => ?_)
  refine Stays.step (o := .commit) trivial (fun _ mine₃ h₃ => ?_)
  have hwithin : Within userId mine₃ (.selectConnections [] (fun c' => c'.id = c.id)) := by
    intro c' hc'
    rw [of_decide_eq_true hc']
    exact Or.inr (h₃.1 _ _ h₂.2)
  exact Stays.step hwithin (fun _ _ _ => Stays.refreshed (fun _ _ => trivial))

theorem stays_deleteConnection (connectionId : UUID) :
    Stays userId (fun _ _ => True) mine (deleteConnection userId connectionId) := by
  refine Stays.bind ((stays_getConnection connectionId).mono (fun mine₁ c h₁ => ?_)
    (fun _ _ h => h))
  refine Stays.step (o := .sql (.deleteConnection c.id)) h₁ (fun _ mine₂ _ => ?_)
  exact Stays.step (o := .commit) trivial (fun _ _ _ => Stays.ret trivial)

theorem stays_disconnect (connectionId : UUID) :
    Stays userId (fun _ _ => True) mine (disconnect env userId connectionId) := by
  refine Stays.bind ((stays_getConnection connectionId).mono (fun mine₁ c _ => ?_) (fun _ _ h => h))
  refine Stays.ofExcept (fun token _ => ?_)
  refine Stays.bind ((stays_deleteConnection connectionId).mono (fun mine₂ _ _ => ?_)
    (fun _ _ h => h))
  cases token with
  | none => exact Stays.ret trivial
  | some refreshToken =>
      have hrevoke : Stays userId (fun _ _ => True) mine₂ (revokeRefreshToken refreshToken) := by
        unfold revokeRefreshToken
        refine (Prog.follows_call _ _).2 ⟨trivial, fun r mine₃ _ => ?_⟩
        split
        · exact Stays.ret trivial
        · exact Stays.ret trivial
        · exact Stays.raise _
      exact Stays.bind (hrevoke.mono (fun _ _ _ => Stays.ret trivial) (fun _ _ h => h))

end connections

/-! ## The calls of a user -/

/-- What a user may call. -/
inductive Call (U : Unicode) where
  | createExpense (payload : ExpenseCreate U)
  | getExpense (expenseId : UUID)
  | listPage (filters : ExpenseFilters) (cursor : Option String) (pageSize : ℤ)
  | updateExpense (expenseId : UUID) (patch : ExpensePatch) (ifMatch : Option String)
  | deleteExpense (expenseId : UUID) (ifMatch : Option String)
  | createReceipt (body : List UInt8) (externalMessageId : Option String)
  | getReceipt (receiptId : UUID)
  | listReceipts (limit : ℤ)
  | deleteReceipt (receiptId : UUID)
  | retryReceipt (receiptId : UUID)
  | createBudget (payload : BudgetCreate)
  | getBudget (budgetId : UUID)
  | listBudgets (includeInactive : Bool)
  | updateBudget (budgetId : UUID) (patch : BudgetPatch)
  | deleteBudget (budgetId : UUID)
  | budgetStatus (today : Date)
  | monthlyBreakdown (month : Date)
  | categoryTrends (anchor : Date) (months : ℤ)
  | detectAnomalies (today : Date) (baselineDays lookbackDays : ℤ) (zThreshold : ℚ)
  | upsertConnection (googleEmail refreshToken : String)
  | getConnection (connectionId : UUID)
  | listConnections
  | disconnect (connectionId : UUID)

/-- What a call answers with. -/
@[reducible] def Call.Res {U : Unicode} : Call U → Type
  | createExpense _ | getExpense _ | updateExpense _ _ _ => Expense
  | listPage _ _ _ => List Expense × Option String
  | createReceipt _ _ | getReceipt _ | retryReceipt _ => Receipt
  | listReceipts _ => List Receipt
  | createBudget _ | getBudget _ | updateBudget _ _ => Budget
  | listBudgets _ => List Budget
  | budgetStatus _ => BudgetStatusReport
  | monthlyBreakdown _ => MonthlyBreakdown
  | categoryTrends _ _ => CategoryTrends
  | detectAnomalies _ _ _ _ => AnomalyReport
  | upsertConnection _ _ | getConnection _ => GmailConnection
  | listConnections => List GmailConnection
  | deleteExpense _ _ | deleteReceipt _ | deleteBudget _ | disconnect _ => Unit

/-- The service behind a call, on a database that hands unordered rows over in `order` and whose
clocks are in `zone`. -/
def Call.program (env : Env) (order : RowOrder) (zone : Zone) (userId : UUID) :
    (call : Call env.unicode) → Service call.Res
  | createExpense payload => SpendLens.createExpense env.unicode userId payload
  | getExpense expenseId => SpendLens.getExpense userId expenseId
  | listPage filters cursor pageSize => SpendLens.listPage env userId filters cursor pageSize
  | updateExpense expenseId patch ifMatch =>
      SpendLens.updateExpense env userId expenseId patch ifMatch
  | deleteExpense expenseId ifMatch => SpendLens.deleteExpense env userId expenseId ifMatch
  | createReceipt body externalMessageId =>
      SpendLens.createReceipt env userId body externalMessageId
  | getReceipt receiptId => SpendLens.getReceipt userId receiptId
  | listReceipts limit => SpendLens.listReceipts userId limit
  | deleteReceipt receiptId => SpendLens.deleteReceipt userId receiptId
  | retryReceipt receiptId => SpendLens.retryReceipt env userId receiptId
  | createBudget payload => SpendLens.createBudget userId payload
  | getBudget budgetId => SpendLens.getBudget userId budgetId
  | listBudgets includeInactive => SpendLens.listBudgets order userId includeInactive
  | updateBudget budgetId patch => SpendLens.updateBudget userId budgetId patch
  | deleteBudget budgetId => SpendLens.deleteBudget userId budgetId
  | budgetStatus today => SpendLens.budgetStatus order userId today
  | monthlyBreakdown month => SpendLens.monthlyBreakdown order userId month
  | categoryTrends anchor months => SpendLens.categoryTrends order zone userId anchor months
  | detectAnomalies today baselineDays lookbackDays zThreshold =>
      SpendLens.detectAnomalies order userId today baselineDays lookbackDays zThreshold
  | upsertConnection googleEmail refreshToken =>
      SpendLens.upsertConnection env userId googleEmail refreshToken
  | getConnection connectionId => SpendLens.getConnection userId connectionId
  | listConnections => SpendLens.listConnections userId
  | disconnect connectionId => SpendLens.disconnect env userId connectionId

/-- **No call forgets whose rows it is about.** -/
theorem stays_program (env : Env) (order : RowOrder) (zone : Zone) (userId : UUID)
    (call : Call env.unicode) (mine : Kind → UUID → Prop) :
    Stays userId (fun _ _ => True) mine (call.program env order zone userId) := by
  cases call with
  | createExpense payload => exact stays_createExpense payload
  | getExpense expenseId =>
      exact (stays_getExpense expenseId).mono (fun _ _ _ => trivial) (fun _ _ h => h)
  | listPage filters cursor pageSize => exact stays_listPage filters cursor pageSize
  | updateExpense expenseId patch ifMatch => exact stays_updateExpense expenseId patch ifMatch
  | deleteExpense expenseId ifMatch => exact stays_deleteExpense expenseId ifMatch
  | createReceipt body externalMessageId => exact stays_createReceipt body externalMessageId
  | getReceipt receiptId =>
      exact (stays_getReceipt receiptId).mono (fun _ _ _ => trivial) (fun _ _ h => h)
  | listReceipts limit => exact stays_listReceipts limit
  | deleteReceipt receiptId => exact stays_deleteReceipt receiptId
  | retryReceipt receiptId => exact stays_retryReceipt receiptId
  | createBudget payload => exact stays_createBudget payload
  | getBudget budgetId =>
      exact (stays_getBudget budgetId).mono (fun _ _ _ => trivial) (fun _ _ h => h)
  | listBudgets includeInactive => exact stays_listBudgets order includeInactive
  | updateBudget budgetId patch => exact stays_updateBudget budgetId patch
  | deleteBudget budgetId => exact stays_deleteBudget budgetId
  | budgetStatus today => exact stays_budgetStatus today
  | monthlyBreakdown month => exact stays_monthlyBreakdown month
  | categoryTrends anchor months => exact stays_categoryTrends zone anchor months
  | detectAnomalies today baselineDays lookbackDays zThreshold =>
      exact stays_detectAnomalies today baselineDays lookbackDays zThreshold
  | upsertConnection googleEmail refreshToken =>
      exact stays_upsertConnection googleEmail refreshToken
  | getConnection connectionId =>
      exact (stays_getConnection connectionId).mono (fun _ _ _ => trivial) (fun _ _ h => h)
  | listConnections => exact stays_listConnections
  | disconnect connectionId => exact stays_disconnect connectionId

/-! ## Two worlds with the same share -/

/-- One request: the answer, and the world the closed session leaves. -/
def serve (env : Env) (order : RowOrder) (zone : Zone) (userId : UUID) (call : Call env.unicode)
    (w : World Unit) : Except PyExc call.Res × World Unit :=
  let x := Prog.run (alone env) (call.program env order zone userId) w
  (x.1, x.2.close ())

/-- A row that is stored has the identifier, or refers to a receipt of it. -/
def InUse (db : Db Unit) : Kind → UUID → Prop
  | .receipt, k => k ∈ db.receipts.committed.rows.map Receipt.id ∨
      some k ∈ db.expenses.committed.rows.map Expense.receiptId
  | .expense, k => k ∈ db.expenses.committed.rows.map Expense.id
  | .budget, k => k ∈ db.budgets.committed.rows.map Budget.id
  | .connection, k => k ∈ db.connections.committed.rows.map GmailConnection.id

instance (db : Db Unit) : (kind : Kind) → (k : UUID) → Decidable (InUse db kind k)
  | .receipt, k => inferInstanceAs (Decidable (k ∈ _ ∨ some k ∈ _))
  | .expense, k => inferInstanceAs (Decidable (k ∈ _))
  | .budget, k => inferInstanceAs (Decidable (k ∈ _))
  | .connection, k => inferInstanceAs (Decidable (k ∈ _))

/-- **A world between two requests**: no transaction is open, an expense has the owner of its
receipt, and no identifier that is drawn before operation `stop` is in use. -/
structure Separated (env : Env) (stop : ℕ) (w : World Unit) : Prop where
  quiescent : Quiescent w.db
  session : w.failed () = false
  linked : ∀ e ∈ w.db.expenses.committed.rows, ∀ r ∈ w.db.receipts.committed.rows,
    e.receiptId = some r.id → e.userId = r.userId
  fresh : ∀ n, w.calls ≤ n → n < stop → ∀ kind, ¬InUse w.db kind (env.uuid4 n)

theorem Separated.mono {stop stop' : ℕ} {w : World Unit} (h : Separated env stop w)
    (hle : stop' ≤ stop) : Separated env stop' w :=
  ⟨h.quiescent, h.session, h.linked, fun n hn hstop => h.fresh n hn (by omega)⟩

section worlds

variable {others : Others} {stop : ℕ} {w v : World Unit} {order : RowOrder} {zone : Zone}

theorem alone_eq_of_some {o : Op} {x : Except PyExc o.Res × World Unit}
    (h : exec env () o w = some x) : alone env o w = x := by
  show (exec env () o w).getD _ = x
  rw [h]
  rfl

theorem alone_eq_of_none {o : Op} (h : exec env () o w = none) :
    alone env o w = (.error .workerLost, w) := by
  show (exec env () o w).getD _ = _
  rw [h]
  rfl

/-- Operations are counted. -/
theorem calls_of_alone {o : Op} {w : World Unit} (h : (alone env o w).2.calls ≤ stop) :
    w.calls ≤ stop ∧ ∀ x, exec env () o w = some x → w.calls < stop := by
  cases hx : exec env () o w with
  | none =>
      rw [alone_eq_of_none hx] at h
      exact ⟨h, fun x hsome => by cases hsome⟩
  | some x =>
      rw [alone_eq_of_some hx, exec_calls (r := x.1) hx] at h
      exact ⟨by omega, fun _ _ => by omega⟩

/-- A request served in the shared world and in a world of the user's own. -/
theorem serve_isolated (h : Isolated env userId others stop w v) (call : Call env.unicode)
    (hstop : (serve env order zone userId call w).2.calls ≤ stop) :
    (serve env order zone userId call v).1 = (serve env order zone userId call w).1 ∧
      Isolated env userId others stop (serve env order zone userId call w).2
        (serve env order zone userId call v).2 := by
  have hstep : ∀ (mine : Kind → UUID → Prop) (o : Op) (w v : World Unit), May userId mine o →
      (alone env o w).2.calls ≤ stop →
      ((∀ kind k, mine kind k → Free others kind k) ∧ Isolated env userId others stop w v) →
      (alone env o v).1 = (alone env o w).1 ∧
        ∃ mine', Next mine o (alone env o w).1 mine' ∧
          (∀ kind k, mine' kind k → Free others kind k) ∧
            Isolated env userId others stop (alone env o w).2 (alone env o v).2 := by
    rintro mine o w v ho hstop ⟨hmine, h⟩
    rcases exec_isolated h (ho.mono hmine) (calls_of_alone hstop).2 with
      ⟨hw, hv⟩ | ⟨r, w', v', hw, hv, hlearned, h'⟩
    · rw [alone_eq_of_none hw, alone_eq_of_none hv]
      exact ⟨rfl, mine, ⟨fun _ _ hk => hk, learned_error o _ mine⟩, hmine, h⟩
    · rw [alone_eq_of_some hw, alone_eq_of_some hv]
      exact ⟨rfl, Free others, ⟨hmine, hlearned⟩, fun _ _ hk => hk, h'⟩
  obtain ⟨hanswer, q, -, hrel⟩ := Prog.Follows.run_sim
    (R := fun mine w v => (∀ kind k, mine kind k → Free others kind k) ∧
      Isolated env userId others stop w v) (L := fun w => w.calls ≤ stop)
    (stays_program env order zone userId call (fun _ _ => False)) (fun _ _ h => (calls_of_alone h).1)
    hstep hstop
    ⟨fun _ _ hk => hk.elim, h⟩
  exact ⟨hanswer, hrel.close ()⟩

/-- Between two requests the user's share evolves on its own. -/
theorem isolated_start (h : Separated env stop w) (userId : UUID) :
    Isolated env userId (othersOf userId w.db) stop w { w with db := only userId w.db } := by
  refine ⟨rfl, rfl, rfl, h.quiescent.apart userId, ?_, fun n hn hstop kind => ?_⟩
  · refine Store.all_of_pending_nil h.quiescent.receipts (fun r hr hmine e he hlink => ?_)
    have hother : decide (e.userId = userId) = false := (h.quiescent.apart userId).expenses.other he
    exact of_decide_eq_false hother ((h.linked e (List.mem_filter.1 he).1 r hr hlink).trans hmine)
  · -- what nobody uses the others do not use
    have hkeys : ∀ {V : Type} {key : V → UUID} {own : V → Bool} {T : Table V UUID key},
        env.uuid4 n ∉ T.rows.map key → Table.Unused key (T.rest own) (env.uuid4 n) :=
      fun hk u hu hkey => hk (List.mem_map.2 ⟨u, (List.mem_filter.1 hu).1, hkey⟩)
    have hfresh := h.fresh n hn hstop kind
    cases kind with
    | receipt =>
        rw [InUse, not_or] at hfresh
        refine ⟨hkeys hfresh.1, fun e he hlink => hfresh.2 ?_⟩
        exact List.mem_map.2 ⟨e, (List.mem_filter.1 he).1, hlink⟩
    | expense => exact hkeys hfresh
    | budget => exact hkeys hfresh
    | connection => exact hkeys hfresh

/-- The user has the same rows in both worlds, and the same is to come. -/
structure Alike (userId : UUID) (w v : World Unit) : Prop where
  share : only userId w.db = only userId v.db
  calls : w.calls = v.calls

/-- **Tenants do not see each other.**  Two databases in which a user has the same rows answer
each of his calls alike and leave him with the same rows again, and the rows of the others stay
as they are. -/
theorem noninterference (call : Call env.unicode)
    (hw : Separated env (serve env order zone userId call w).2.calls w)
    (hv : Separated env (serve env order zone userId call v).2.calls v) (h : Alike userId w v) :
    (serve env order zone userId call w).1 = (serve env order zone userId call v).1 ∧
      Alike userId (serve env order zone userId call w).2 (serve env order zone userId call v).2 ∧
      othersOf userId (serve env order zone userId call w).2.db = othersOf userId w.db ∧
      othersOf userId (serve env order zone userId call v).2.db = othersOf userId v.db := by
  have hown := isolated_start hw userId
  -- the user's own world is the same for both
  have hown' : Isolated env userId (othersOf userId v.db)
      (serve env order zone userId call v).2.calls v { w with db := only userId w.db } := by
    have hsession : w.failed = v.failed := by
      funext i
      exact hw.session.trans hv.session.symm
    have hstart := isolated_start hv userId
    exact ⟨h.share, h.calls, hsession, hstart.apart, hstart.unlinked, hstart.fresh⟩
  obtain ⟨hanswer, hdone⟩ := serve_isolated hown call le_rfl
  obtain ⟨hanswer', hdone'⟩ := serve_isolated hown' call le_rfl
  refine ⟨hanswer.symm.trans hanswer', ⟨?_, ?_⟩, hdone.apart.othersOf_eq, hdone'.apart.othersOf_eq⟩
  · exact hdone.db.symm.trans hdone'.db
  · exact hdone.calls.symm.trans hdone'.calls

/-! ## Somebody else's receipt -/

/-- A receipt of the user, with an expense of it. -/
def sampleReceipt (userId id : UUID) : Receipt where
  id := id
  userId := userId
  storageKey := "receipts/" ++ uuidStr id
  mimeType := "image/png"
  fileSizeBytes := 3
  status := .categorised
  ocrMethod := some .tesseract
  ocrConfidence := some 9100
  rawText := some ""
  parsedPayload := none
  errorMessage := none
  externalMessageId := none
  createdAt := 0
  updatedAt := 0

theorem isDate_lastOfMarch : IsDate 2026 3 31 := by decide

def sampleExpense (userId id receiptId : UUID) : Expense where
  id := id
  userId := userId
  merchantName := "Corner Shop"
  amount := .cents 1250
  currency := "USD"
  category := .groceries
  expenseDate := ⟨2026, 3, 31, isDate_lastOfMarch⟩
  description := none
  receiptId := some receiptId
  source := .receipt
  createdAt := 0
  updatedAt := 0

/-- Two users with a receipt each. -/
def crowded : World Unit :=
  World.ofDb { Db.ofUsers [⟨7, "token"⟩, ⟨9, "nekot"⟩] with
    receipts := Store.ofTable ⟨[sampleReceipt 7 10, sampleReceipt 9 20], by decide⟩
    expenses := Store.ofTable ⟨[sampleExpense 9 21 20, sampleExpense 7 11 10], by decide⟩ }

/-- The same database without the rows of the second one. -/
def lonely : World Unit :=
  World.ofDb { Db.ofUsers [⟨7, "token"⟩, ⟨9, "nekot"⟩] with
    receipts := Store.ofTable ⟨[sampleReceipt 7 10], by decide⟩
    expenses := Store.ofTable ⟨[sampleExpense 7 11 10], by decide⟩ }

theorem separated_crowded : Separated Env.quiet 100 crowded := by
  refine ⟨⟨rfl, rfl, rfl, rfl, rfl⟩, rfl, forall_mem_of_all ?_, fun n _ hn kind => ?_⟩
  · decide +kernel
  · have hall : ∀ n < 100, ∀ kind ∈ [Kind.receipt, .expense, .budget, .connection],
        ¬InUse crowded.db kind (Env.quiet.uuid4 n) := by decide +kernel
    exact hall n hn kind (by cases kind <;> decide)

theorem separated_lonely : Separated Env.quiet 100 lonely := by
  refine ⟨⟨rfl, rfl, rfl, rfl, rfl⟩, rfl, forall_mem_of_all ?_, fun n _ hn kind => ?_⟩
  · decide +kernel
  · have hall : ∀ n < 100, ∀ kind ∈ [Kind.receipt, .expense, .budget, .connection],
        ¬InUse lonely.db kind (Env.quiet.uuid4 n) := by decide +kernel
    exact hall n hn kind (by cases kind <;> decide)

/-- A user who asks for the deletion of somebody else's receipt is told what he is told when there
is no such receipt, and nothing happens. -/
theorem noninterference_sample :
    (serve Env.quiet .asStored .utc 7 (.deleteReceipt 20) crowded).1 =
        (serve Env.quiet .asStored .utc 7 (.deleteReceipt 20) lonely).1 ∧
      Alike 7 (serve Env.quiet .asStored .utc 7 (.deleteReceipt 20) crowded).2
        (serve Env.quiet .asStored .utc 7 (.deleteReceipt 20) lonely).2 ∧
      othersOf 7 (serve Env.quiet .asStored .utc 7 (.deleteReceipt 20) crowded).2.db =
        othersOf 7 crowded.db ∧
      othersOf 7 (serve Env.quiet .asStored .utc 7 (.deleteReceipt 20) lonely).2.db =
        othersOf 7 lonely.db :=
  noninterference (.deleteReceipt 20) (separated_crowded.mono (by decide +kernel))
    (separated_lonely.mono (by decide +kernel)) ⟨rfl, rfl⟩

end worlds

end Tenancy

end SpendLens
