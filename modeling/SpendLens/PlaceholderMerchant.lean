/-
# The placeholder merchant

A receipt whose merchant could not be read becomes an expense of the merchant `Unknown`.
Nothing is to be learned from such an expense and nothing guessed for such a receipt.  A
correction for the placeholder breaks this, and so does a model that has an opinion on
it; as long as no patch records the one and the model abstains, it holds in every history of
patches, tasks and other requests.
-/
import SpendLens.ReceiptTasks
import SpendLens.ExpenseService
import SpendLens.Steps
import SpendLens.Lib.EventRuns

namespace SpendLens

namespace Placeholder

/-! ## Histories -/

/-- Any operation that records no correction. -/
def RecordsNothing : Op → Prop
  | .sql (.upsertCorrection _ _ _) => False
  | _ => True

/-- What happens in a history: a user patches an expense, a receipt is categorised, or a
program runs that records no correction. -/
inductive Call where
  | patch (userId expenseId : UUID) (p : ExpensePatch) (ifMatch : Option String)
  | categorise (receiptId : UUID)
  | other (p : Service Unit)
      (hp : p.Asks RecordsNothing)

def Call.program (env : Env) : Call → Service Unit
  | .patch userId expenseId p ifMatch =>
      (updateExpense env userId expenseId p ifMatch).bind fun _ => .ret ()
  | .categorise receiptId => categoriseReceipt env receiptId
  | .other p _ => p

/-- One call, in a session of its own. -/
def serve (env : Env) (w : World Unit) (call : Call) : World Unit :=
  (Prog.run (alone env) (call.program env) w).2.close ()

/-! ## Neither learned from nor guessed -/

/-- The parser has found no merchant. -/
def NoMerchant (r : Receipt) : Prop :=
  ((r.parsedPayload.getD (.obj [])).get? "merchant").filter Json.truthy = none

/-- After the patch the expense still carries the placeholder. -/
def StillPlaceholder (e : Expense) (patch : ExpensePatch) : Prop :=
  patch.merchantName.getD (some e.merchantName) = some "Unknown"

/-- The category the chain chooses for a merchant, when these corrections have been learned. -/
def chosenCategory (env : Env) (corrections : Store Unit CategoryCorrection (UUID × String)
    CategoryCorrection.key) (v : World Unit) (userId : UUID) (merchant : Option String) :
    Except PyExc ExpenseCategory :=
  (Prog.run (alone env) (categoriseMerchant env userId merchant)
    { v with db := { v.db with corrections := corrections } }).1

/-- **One call keeps the placeholder apart**: an expense it creates for a receipt of the user
without a merchant is filed under `other`, and a patch by the user of an expense that still
carries the placeholder changes no choice, for whomever and whichever merchant. -/
structure KeepsApart (env : Env) (userId : UUID) (w : World Unit) (call : Call) : Prop where
  guessesNothing : ∀ receiptId, call = .categorise receiptId →
    ∀ r ∈ w.db.receipts.committed.rows, r.id = receiptId → r.userId = userId → NoMerchant r →
      ∀ e ∈ (serve env w call).db.expenses.committed.rows, e.receiptId = some receiptId →
        e ∉ w.db.expenses.committed.rows → e.category = .other
  learnsNothing : ∀ expenseId patch ifMatch, call = .patch userId expenseId patch ifMatch →
    ∀ e ∈ w.db.expenses.committed.rows, e.id = expenseId → StillPlaceholder e patch →
      ∀ v userId' merchant, chosenCategory env (serve env w call).db.corrections v userId' merchant =
        chosenCategory env w.db.corrections v userId' merchant

/-- A patch by the user teaches nothing about the placeholder, in any spelling. -/
def TeachesElsewhere (env : Env) (userId : UUID) (w : World Unit) (call : Call) : Prop :=
  ∀ expenseId patch ifMatch, call = .patch userId expenseId patch ifMatch →
    ∀ e ∈ w.db.expenses.committed.rows, e.id = expenseId → e.userId = userId →
      ∀ m c, patch.correction e = some (m, c) → normaliseMerchant env.unicode m ≠ "unknown"

/-- Asked about the placeholder, the model has no opinion, or says `other`. -/
def LlmAbstains (env : Env) : Prop :=
  ∀ n content, env.external n
      (.chatCompletion env.settings.openaiModelCategorise systemPrompt ["Unknown"]) = .ok content →
    (ExpenseCategory.of? (env.unicode.lower (strip (content.getD "")))).getD .other = .other

/-- Nothing is under way, and the user has taught nothing about the placeholder. -/
structure Unlearned (userId : UUID) (w : World Unit) : Prop where
  idle : w.db.rollback () = w.db
  nothing : ∀ c ∈ w.db.corrections.committed.rows, ¬ (c.userId = userId ∧ c.merchantName = "unknown")

/-! ## Operations -/

section

variable {env : Env} {o : Op} {w w' : World Unit}

/-- What holds of every answer of the backend, and of a session that is lost, holds of a
session running alone. -/
theorem alone_of_exec {Q : Except PyExc o.Res → World Unit → Prop}
    (hlost : exec env () o w = none → Q (.error .workerLost) w)
    (hstep : ∀ r w', exec env () o w = some (r, w') → Q r w') :
    Q (alone env o w).1 (alone env o w).2 := by
  have hexec : alone env o w = (exec env () o w).getD (.error .workerLost, w) := rfl
  rw [hexec]
  cases hr : exec env () o w with
  | none => exact hlost hr
  | some x => exact hstep x.1 x.2 hr

/-- The corrections are those there were and those that are recorded. -/
theorem exec_corrections {P : CategoryCorrection → Prop} {r : Except PyExc o.Res}
    (h : exec env () o w = some (r, w'))
    (hnew : ∀ userId m c, o = .sql (.upsertCorrection userId m c) → ∀ n, P ⟨userId, m, c, n⟩)
    (hall : w.db.corrections.All P) : w'.db.corrections.All P := by
  refine exec_db (I := fun db => db.corrections.All P) (fun _ hdb => hdb.commit ())
    (fun _ hdb => hdb.rollback ()) h (fun s a db hs hexec => ?_) hall
  by_cases hw : s.writesCorrections = true
  · cases s with
    | upsertCorrection userId m c =>
        simp only [Stmt.exec] at hexec
        split at hexec
        · split at hexec
          · cases hexec
          · cases hexec
            exact hall.put () (hnew userId m c hs _)
        · cases hexec
    | _ => cases hw
  · rw [(Stmt.exec_frame hexec).corrections (Bool.not_eq_true _ ▸ hw)]
    exact hall

/-- No correction of the user is about the placeholder. -/
def NotLearned (userId : UUID) (c : CategoryCorrection) : Prop :=
  ¬ (c.userId = userId ∧ c.merchantName = "unknown")

/-- An operation that records no correction of the user about the placeholder. -/
def Harmless (userId : UUID) : Op → Prop
  | .sql (.upsertCorrection userId' m _) => ¬ (userId' = userId ∧ m = "unknown")
  | _ => True

theorem harmless_of_recordsNothing (userId : UUID) (h : RecordsNothing o) : Harmless userId o := by
  cases o with
  | sql s =>
      cases s with
      | upsertCorrection userId' m c => exact h.elim
      | _ => trivial
  | _ => trivial

/-- Harmless programs leave nothing learned. -/
theorem run_harmless {α : Type} {userId : UUID} {p : Service α} (hp : p.Asks (Harmless userId))
    (h : w.db.corrections.All (NotLearned userId)) :
    (Prog.run (alone env) p w).2.db.corrections.All (NotLearned userId) := by
  have hstep : ∀ (o : Op) (s : World Unit), Harmless userId o →
      s.db.corrections.All (NotLearned userId) →
        True ∧ (alone env o s).2.db.corrections.All (NotLearned userId) := by
    intro o s ho hs
    refine ⟨trivial, alone_of_exec (Q := fun _ w' => w'.db.corrections.All (NotLearned userId))
      (fun _ => hs) fun r w' hexec => exec_corrections hexec ?_ hs⟩
    rintro userId' m c rfl n
    exact ho
  exact hp.run hstep h

/-- Programs that record nothing leave the corrections as they are. -/
theorem run_recordsNothing {α : Type} {p : Service α} (hp : p.Asks RecordsNothing)
    {C : Table CategoryCorrection (UUID × String) CategoryCorrection.key}
    (h : w.db.corrections = Store.ofTable C) :
    (Prog.run (alone env) p w).2.db.corrections = Store.ofTable C := by
  have hstep : ∀ (o : Op) (s : World Unit), RecordsNothing o → s.db.corrections = Store.ofTable C →
      True ∧ (alone env o s).2.db.corrections = Store.ofTable C := by
    intro o s ho hs
    refine ⟨trivial, alone_of_exec (Q := fun _ w' => w'.db.corrections = Store.ofTable C)
      (fun _ => hs) fun r w' hexec => ?_⟩
    refine exec_db (I := fun db => db.corrections = Store.ofTable C) (fun db hdb => ?_)
      (fun db hdb => ?_) hexec (fun st a db hst hstmt => ?_) hs
    · show db.corrections.commit () = Store.ofTable C
      rw [hdb]
      rfl
    · show db.corrections.rollback () = Store.ofTable C
      rw [hdb]
      rfl
    · have hw : st.writesCorrections = false := by
        subst hst
        cases st with
        | upsertCorrection userId m c => exact ho.elim
        | _ => rfl
      rw [(Stmt.exec_frame hstmt).corrections hw]
      exact hs
  exact hp.run hstep h

/-- The receipt, if it is among the rows, is the user's and has no merchant. -/
def Blank (userId receiptId : UUID) (r : Receipt) : Prop :=
  r.id = receiptId → r.userId = userId ∧ NoMerchant r

/-- An expense of the receipt is an old one or filed under `other`. -/
def Filed (receiptId : UUID) (old : List Expense) (e : Expense) : Prop :=
  e.receiptId = some receiptId → e ∈ old ∨ e.category = .other

/-- What a categorisation of the receipt asks for, when it files it under `other`. -/
def Files (receiptId : UUID) : Op → Prop
  | .sql (.insertExpense e) => e.receiptId = some receiptId → e.category = .other
  | .sql (.updateReceipt _ cols) => ∀ c ∈ cols, c = .status .categorised
  | .sql s => s.writesReceipts = false ∧ s.writesExpenses = false ∧ s.writesCorrections = false
  | _ => True

/-- What it is answered. -/
def Answered (env : Env) (userId receiptId : UUID) : (o : Op) → Except PyExc o.Res → Prop
  | .sql (.selectReceipts _ p), .ok rows => ∀ r ∈ rows, p r = true ∧ Blank userId receiptId r
  | .sql (.selectCorrections _ p), .ok rows => ∀ c ∈ rows, p c = true ∧ NotLearned userId c
  | .ext x, r => ∃ n, r = env.external n x
  | _, _ => True

variable {userId receiptId : UUID} {old : List Expense}

/-- Marking a receipt leaves it without a merchant. -/
theorem blank_of_storeAll {cols : List ReceiptColumn} {v v' : Receipt}
    (hcols : ∀ c ∈ cols, c = .status .categorised)
    (hstore : storeAll ReceiptColumn.store v cols = .ok v') (hv : Blank userId receiptId v) :
    Blank userId receiptId v' := by
  refine storeAll_preserves (P := Blank userId receiptId) (fun c hc r r' hr hone => ?_) hstore hv
  obtain rfl := hcols c hc
  cases hone
  exact hr

theorem exec_blank {r : Except PyExc o.Res} (h : exec env () o w = some (r, w'))
    (ho : Files receiptId o) (hall : w.db.receipts.All (Blank userId receiptId)) :
    w'.db.receipts.All (Blank userId receiptId) := by
  refine exec_db (I := fun db => db.receipts.All (Blank userId receiptId))
    (fun _ hdb => hdb.commit ()) (fun _ hdb => hdb.rollback ()) h (fun s a db hs hexec => ?_) hall
  subst hs
  rcases Stmt.exec_receipts hexec with heq | hw
  · rw [heq]
    exact hall
  · generalize db.receipts = st at hw
    cases hw with
    | insert v hlock hnew hfree => exact absurd ho.1 Bool.noConfusion
    | update id cols v v' hget hlock hstore =>
        have hkeep := blank_of_storeAll ho hstore (hall.view hget)
        have hid : v'.id = v.id := (storeAll_receipt hstore).1
        exact hall.put () fun hv => hkeep (hid.trans hv)
    | delete id v hget hlock => exact absurd ho.1 Bool.noConfusion

theorem exec_filed {r : Except PyExc o.Res} (h : exec env () o w = some (r, w'))
    (ho : Files receiptId o) (hall : w.db.expenses.All (Filed receiptId old)) :
    w'.db.expenses.All (Filed receiptId old) := by
  refine exec_db (I := fun db => db.expenses.All (Filed receiptId old))
    (fun _ hdb => hdb.commit ()) (fun _ hdb => hdb.rollback ()) h (fun s a db hs hexec => ?_) hall
  subst hs
  rcases Stmt.exec_expenses hexec with heq | hw
  · rw [heq]
    exact hall
  · generalize db.expenses = st at hw
    cases hw with
    | insert e row hrow hlock hnew hfree =>
        obtain ⟨-, hlink, hcategory⟩ := NewExpense.store_ok hrow
        exact hall.put () fun hr => Or.inr (hcategory.trans (ho (hlink.symm.trans hr)))
    | update id cols v v' hget hlock hstore => exact absurd ho.2.1 Bool.noConfusion
    | delete id v hget hlock => exact absurd ho.2.1 Bool.noConfusion
    | unlink id linked hlinked hlock => exact absurd ho.1 Bool.noConfusion

theorem exec_answered {r : Except PyExc o.Res} (h : exec env () o w = some (r, w'))
    (hreceipts : w.db.receipts.All (Blank userId receiptId))
    (hcorrections : w.db.corrections.All (NotLearned userId)) :
    Answered env userId receiptId o r := by
  cases o with
  | sql s =>
      rcases exec_sql_cases h with ⟨-, rfl, -⟩ | ⟨-, ⟨e, rfl⟩, -⟩ | ⟨a, db, -, rfl, hs, -⟩
      · cases s <;> trivial
      · cases s <;> trivial
      · cases s with
        | selectReceipts params p =>
            simp only [Stmt.exec, Option.some.injEq, Prod.mk.injEq] at hs
            intro v hv
            rw [select_ok hs.1, List.mem_filter] at hv
            exact ⟨hv.2, hreceipts.of_mem_view hv.1⟩
        | selectCorrections params p =>
            simp only [Stmt.exec, Option.some.injEq, Prod.mk.injEq] at hs
            intro v hv
            rw [select_ok hs.1, List.mem_filter] at hv
            exact ⟨hv.2, hcorrections.of_mem_view hv.1⟩
        | _ => trivial
  | ext x =>
      cases h
      exact ⟨w.calls, rfl⟩
  | _ => cases r <;> trivial

/-- A program that files the receipt under `other` creates no other expense for it. -/
theorem run_filed {α : Type} {p : Service α} {post : α → Prop} {exc : PyExc → Prop}
    (hp : p.Respects (Files receiptId) (Answered env userId receiptId) post exc)
    (hreceipts : w.db.receipts.All (Blank userId receiptId))
    (hcorrections : w.db.corrections.All (NotLearned userId))
    (hexpenses : w.db.expenses.All (Filed receiptId old)) :
    (Prog.run (alone env) p w).2.db.expenses.All (Filed receiptId old) := by
  have hstep : ∀ (o : Op) (s : World Unit), Files receiptId o →
      (s.db.receipts.All (Blank userId receiptId) ∧ s.db.corrections.All (NotLearned userId) ∧
        s.db.expenses.All (Filed receiptId old)) →
      Answered env userId receiptId o (alone env o s).1 ∧
        ((alone env o s).2.db.receipts.All (Blank userId receiptId) ∧
          (alone env o s).2.db.corrections.All (NotLearned userId) ∧
          (alone env o s).2.db.expenses.All (Filed receiptId old)) := by
    rintro o s ho ⟨hr, hc, he⟩
    refine alone_of_exec (Q := fun r w' => Answered env userId receiptId o r ∧
      (w'.db.receipts.All (Blank userId receiptId) ∧ w'.db.corrections.All (NotLearned userId) ∧
        w'.db.expenses.All (Filed receiptId old))) (fun hnone => ⟨?_, hr, hc, he⟩)
      fun r w' hexec => ?_
    · cases o with
      | sql st => cases st <;> trivial
      | ext x => cases hnone
      | _ => trivial
    · refine ⟨exec_answered hexec hr hc, exec_blank hexec ho hr, exec_corrections hexec ?_ hc,
        exec_filed hexec ho he⟩
      rintro userId' m c rfl
      exact absurd ho.2.2 Bool.noConfusion
  exact (hp.run hstep ⟨hreceipts, hcorrections, hexpenses⟩).2.2

end

/-! ## Patches -/

section

variable {env : Env} {guar : Op → Prop} {userId expenseId : UUID} {patch : ExpensePatch}

/-- `update_expense` behind the load of its row. -/
def updateLoaded (env : Env) (userId expenseId : UUID) (patch : ExpensePatch)
    (ifMatch : Option String) (expense : Expense) : Service Expense :=
  if isStale env ifMatch expense then throw (.etagMismatch expenseId)
  else do
    applyPatch env userId expense patch
    commit
    refreshExpense expense.id

/-- What is left of a patch asks for an upsert only if a correction is due. -/
theorem asks_updateLoaded (hread : ∀ o, RecordsNothing o → guar o) {e : Expense}
    (hrecord : ∀ m c, patch.correction e = some (m, c) →
      guar (.sql (.upsertCorrection userId (normaliseMerchant env.unicode m) c)))
    (ifMatch : Option String) :
    (updateLoaded env userId expenseId patch ifMatch e).Asks guar := by
  unfold updateLoaded
  split
  · exact Prog.Respects.raise trivial
  · refine Prog.Asks.bind (Prog.Asks.bind ?_ fun _ => ?_) fun _ =>
      Prog.Asks.bind (Prog.Asks.perform (hread _ trivial)) fun _ => ?_
    · exact asks_flushColumns (Prog.Asks.perform (hread _ trivial))
    · cases hc : patch.correction e with
      | none => exact Prog.Respects.ret trivial
      | some mc => exact Prog.Asks.perform (hrecord mc.1 mc.2 hc)
    · exact asks_refreshExpense (fun _ _ => hread _ trivial) e.id

variable {w w' : World Unit}

/-- The rows a session running alone is answered. -/
theorem alone_selectExpenses {params : List Param} {p : Expense → Bool} {rows : List Expense}
    (h : alone env (.sql (.selectExpenses params p)) w = (.ok rows, w')) :
    rows = (w.db.expenses.view ()).rows.filter p := by
  have hexec : alone env (.sql (.selectExpenses params p)) w =
      (exec env () (.sql (.selectExpenses params p)) w).getD (.error .workerLost, w) := rfl
  rw [hexec] at h
  cases hr : exec env () (.sql (.selectExpenses params p)) w with
  | none =>
      rw [hr] at h
      cases h
  | some x =>
      rw [hr, Option.getD_some] at h
      subst h
      exact exec_selectExpenses hr

/-- An expense that is found is a row of the user's. -/
theorem run_getExpense_ok {e : Expense}
    (h : Prog.run (alone env) (getExpense userId expenseId) w = (.ok e, w')) :
    e ∈ (w.db.expenses.view ()).rows ∧ e.id = expenseId ∧ e.userId = userId := by
  rw [getExpense, Prog.bind_eq, sql, Prog.run_bind, Prog.run_perform] at h
  rcases hselect : alone env (.sql (.selectExpenses [] (isExpenseOf userId expenseId))) w with ⟨r, v⟩
  rw [hselect] at h
  cases r with
  | error err => cases h
  | ok rows =>
      have hrows := alone_selectExpenses hselect
      cases rows with
      | nil => cases h
      | cons a rest =>
          cases rest with
          | cons b rest => cases h
          | nil =>
              cases h
              have hmem : e ∈ (w.db.expenses.view ()).rows.filter (isExpenseOf userId expenseId) := by
                rw [← hrows]
                exact List.mem_singleton_self e
              obtain ⟨hin, hp⟩ := List.mem_filter.1 hmem
              have hkey : e.id = expenseId ∧ e.userId = userId := by
                simpa [isExpenseOf] using hp
              exact ⟨hin, hkey⟩

/-- What every read leaves, and what is left behind a row that is found leaves, a patch
leaves. -/
theorem run_updateExpense {I : World Unit → Prop} (ifMatch : Option String)
    (hget : I (Prog.run (alone env) (getExpense userId expenseId) w).2)
    (hloaded : ∀ e v, e ∈ (w.db.expenses.view ()).rows → e.id = expenseId → e.userId = userId →
      I v → I (Prog.run (alone env) (updateLoaded env userId expenseId patch ifMatch e) v).2) :
    I (Prog.run (alone env) (updateExpense env userId expenseId patch ifMatch) w).2 := by
  have hsplit : updateExpense env userId expenseId patch ifMatch =
      (getExpense userId expenseId).bind (updateLoaded env userId expenseId patch ifMatch) := rfl
  rw [hsplit, Prog.run_bind]
  rcases hrun : Prog.run (alone env) (getExpense userId expenseId) w with ⟨r, v⟩
  rw [hrun] at hget
  cases r with
  | error err => exact hget
  | ok e =>
      obtain ⟨hmem, hid, huser⟩ := run_getExpense_ok hrun
      exact hloaded e v hmem hid huser hget

/-- A patch leaves what its `update_expense` leaves. -/
theorem run_patch (ifMatch : Option String) :
    (Prog.run (alone env) (Call.program env (.patch userId expenseId patch ifMatch)) w).2 =
      (Prog.run (alone env) (updateExpense env userId expenseId patch ifMatch) w).2 := by
  rw [Call.program, Prog.run_bind]
  rcases Prog.run (alone env) (updateExpense env userId expenseId patch ifMatch) w with ⟨r, v⟩
  cases r <;> rfl

end

/-! ## The placeholder, normalised -/

theorem normaliseMerchant_placeholder (U : Unicode) : normaliseMerchant U "Unknown" = "unknown" := by
  have hstrip : strip "Unknown" = "Unknown" := by decide
  have hlower : "Unknown".toList.map Char.toLower = "unknown".toList := by decide
  rw [normaliseMerchant, hstrip, Unicode.lower,
    U.lowerFrom_ascii (forall_mem_of_all (by decide)), hlower, String.ofList_toList]

/-- No rule is about the placeholder. -/
theorem lookupRule_placeholder (U : Unicode) : lookupRule U "unknown" = none := by
  have hlower : U.lower "unknown" = "unknown" := U.lower_of_ascii (forall_mem_of_all (by decide))
  have hnone : rules.find? (fun r => contains r.1 "unknown") = none :=
    List.find?_eq_none.2 (forall_mem_of_all (by decide +kernel))
  rw [lookupRule, hlower, hnone]
  rfl

/-- A patch that leaves the placeholder teaches about it, if anything. -/
theorem correction_placeholder {e : Expense} {patch : ExpensePatch} {m : String}
    {c : ExpenseCategory} (h : StillPlaceholder e patch) (hc : patch.correction e = some (m, c)) :
    m = "Unknown" := by
  unfold ExpensePatch.correction at hc
  rw [h] at hc
  split at hc
  · rename_i hmerchant
    split at hc
    · cases hc
      exact (Option.some.inj hmerchant).symm
    · cases hc
  · cases hc

/-! ## Categorising -/

section

variable {env : Env} {receiptId : UUID}

theorem asks_saveColumns (receipt : Receipt) (cols : List ReceiptColumn) :
    (saveColumns receipt cols).Asks RecordsNothing :=
  Prog.Asks.bind (asks_flushColumns (Prog.Asks.perform trivial)) fun _ => Prog.Asks.perform trivial

theorem asks_coercePayload (payload : Json) : (coercePayload env payload).Asks RecordsNothing := by
  unfold coercePayload
  simp only
  split
  · exact Prog.Respects.raise trivial
  · split
    · exact Prog.Respects.ret trivial
    · exact Prog.Asks.bind (Prog.Asks.perform trivial) fun _ => Prog.Respects.ret trivial

theorem asks_categoriseWithLlm (merchant model : String) :
    (categoriseWithLlm env merchant model).Asks RecordsNothing := by
  unfold categoriseWithLlm
  split
  · exact Prog.Respects.ret trivial
  · split
    · exact Prog.Respects.ret trivial
    · refine (Prog.respects_call _ _).2 ⟨trivial, fun r _ => ?_⟩
      split
      · exact Prog.Respects.ret trivial
      · exact Prog.Respects.ret trivial
      · exact Prog.Respects.raise trivial

theorem asks_categoriseMerchant (userId : UUID) (merchant : Option String) :
    (categoriseMerchant env userId merchant).Asks RecordsNothing := by
  unfold categoriseMerchant
  split
  · exact Prog.Respects.ret trivial
  · split
    · exact Prog.Respects.ret trivial
    · refine Prog.Asks.bind (Prog.Asks.perform trivial) fun rows =>
        Prog.Asks.bind (asks_scalarOneOrNone rows) fun found => ?_
      cases found with
      | some correction => exact Prog.Respects.ret trivial
      | none =>
          simp only [categoriseByRule]
          split
          · exact Prog.Respects.ret trivial
          · split
            · exact Prog.Asks.bind (asks_categoriseWithLlm _ _) fun _ => Prog.Respects.ret trivial
            · exact Prog.Respects.ret trivial

theorem asks_insertReceiptExpense (receipt : Receipt) (merchant : String) (amount : Decimal)
    (category : ExpenseCategory) (expenseDate : Date) :
    (insertReceiptExpense receipt merchant amount category expenseDate).Asks RecordsNothing :=
  Prog.Asks.bind (Prog.Asks.perform trivial) fun _ =>
    Prog.Asks.bind (Prog.Asks.perform trivial) fun _ =>
      Prog.Asks.bind (Prog.Asks.perform trivial) fun _ => Prog.Asks.perform trivial

/-- No task records a correction. -/
theorem asks_categoriseReceipt : (categoriseReceipt env receiptId).Asks RecordsNothing := by
  refine Prog.Asks.bind (Prog.Asks.perform trivial) fun rows =>
    Prog.Asks.bind (asks_scalarOneOrNone rows) fun found => ?_
  cases found with
  | none => exact Prog.Respects.ret trivial
  | some receipt =>
      refine Prog.Asks.bind (Prog.Asks.perform trivial) fun linked =>
        Prog.Asks.bind (asks_scalarOneOrNone linked) fun existing => ?_
      cases existing with
      | some _ =>
          simp only
          split
          · exact asks_saveColumns _ _
          · exact Prog.Respects.ret trivial
      | none =>
          simp only
          split
          · exact Prog.Respects.ret trivial
          · refine Prog.Asks.bind (asks_coercePayload _) fun fields => Prog.Asks.bind ?_ fun chosen =>
              asks_insertReceiptExpense _ _ _ _ _
            unfold categoriseJson
            split
            · exact Prog.Asks.bind (asks_categoriseMerchant _ _) fun _ => Prog.Respects.ret trivial
            · exact Prog.Respects.raise trivial

end

/-! ## A receipt without a merchant -/

section

variable {env : Env} {userId receiptId : UUID}

theorem files_updateReceipt {id : UUID} {cols : List ReceiptColumn}
    (h : ∀ c ∈ cols, c = .status .categorised) : Files receiptId (.sql (.updateReceipt id cols)) := h

theorem files_insertExpense {e : NewExpense} (h : e.category = .other) :
    Files receiptId (.sql (.insertExpense e)) := fun _ => h

theorem respects_sql {s : Stmt} {Q : s.Res → Prop} (h : Files receiptId (.sql s))
    (hQ : ∀ a, Answered env userId receiptId (.sql s) (.ok a) → Q a) :
    (sql s).Respects (Files receiptId) (Answered env userId receiptId) Q (fun _ => True) :=
  Prog.Respects.perform h hQ fun _ _ => trivial

theorem respects_op {o : Op} (h : Files receiptId o) :
    (Prog.perform o : Service o.Res).Respects (Files receiptId) (Answered env userId receiptId)
      (fun _ => True) (fun _ => True) :=
  Prog.Respects.perform h (fun _ _ => trivial) fun _ _ => trivial

theorem respects_saveCategorised (receipt : Receipt) :
    (saveColumns receipt [.status .categorised]).Respects (Files receiptId)
      (Answered env userId receiptId) (fun _ => True) (fun _ => True) := by
  have hflush : (flushColumns ReceiptColumn.changes (fun cs => sql (.updateReceipt receipt.id cs))
      receipt [.status .categorised]).Respects (Files receiptId) (Answered env userId receiptId)
      (fun _ => True) (fun _ => True) := by
    unfold flushColumns
    simp only
    split
    · exact Prog.Respects.ret trivial
    · refine respects_op (files_updateReceipt fun c hc => ?_)
      exact List.mem_singleton.1 (List.mem_filter.1 hc).1
  exact Prog.Respects.bind hflush fun _ _ => respects_op (o := .commit) trivial

/-- The payload of such a receipt names the placeholder. -/
theorem respects_coercePayload {r : Receipt} (hr : NoMerchant r) :
    (coercePayload env (r.parsedPayload.getD (.obj []))).Respects (Files receiptId)
      (Answered env userId receiptId) (fun fields => fields.1 = .str "Unknown")
      (fun _ => True) := by
  have hmerchant : (((r.parsedPayload.getD (.obj [])).get? "merchant").filter Json.truthy).getD
      (.str "Unknown") = .str "Unknown" := by rw [hr, Option.getD_none]
  unfold coercePayload
  simp only [hmerchant]
  split
  · exact Prog.Respects.raise trivial
  · split
    · exact Prog.Respects.ret rfl
    · exact Prog.Respects.bind (respects_op (o := .today) trivial) fun _ _ => Prog.Respects.ret rfl

/-- The model that abstains says nothing, or `other`. -/
theorem respects_categoriseWithLlm (habstain : LlmAbstains env) :
    (categoriseWithLlm env "Unknown" env.settings.openaiModelCategorise).Respects
      (Files receiptId) (Answered env userId receiptId) (fun llm => llm.getD .other = .other)
      (fun _ => True) := by
  unfold categoriseWithLlm
  split
  · exact Prog.Respects.ret rfl
  · split
    · exact Prog.Respects.ret rfl
    · refine (Prog.respects_call _ _).2 ⟨trivial, fun r hr => ?_⟩
      obtain ⟨n, hn⟩ := hr
      split
      · rename_i content
        exact Prog.Respects.ret (habstain n content hn.symm)
      · exact Prog.Respects.ret rfl
      · exact Prog.Respects.raise trivial

/-- Nothing learned, no rule, no opinion: the placeholder is filed under `other`. -/
theorem respects_categoriseMerchant (habstain : LlmAbstains env) :
    (categoriseMerchant env userId (some "Unknown")).Respects (Files receiptId)
      (Answered env userId receiptId) (fun category => category = .other) (fun _ => True) := by
  unfold categoriseMerchant
  have hnonempty : "Unknown".isEmpty = false := by decide
  simp only [hnonempty, normaliseMerchant_placeholder, Bool.false_eq_true, if_false]
  refine Prog.Respects.bind (respects_sql (Q := fun rows => rows = []) ⟨rfl, rfl, rfl⟩
    fun rows hrows => List.eq_nil_iff_forall_not_mem.2 fun c hc => ?_) fun rows hrows => ?_
  · obtain ⟨hp, hlearned⟩ := hrows c hc
    rw [normaliseMerchant_placeholder] at hp
    exact hlearned (by simpa [isCorrection] using hp)
  · subst hrows
    show (categoriseByRule env "Unknown" "unknown").Respects (Files receiptId)
      (Answered env userId receiptId) (fun category => category = .other) (fun _ => True)
    simp only [categoriseByRule, lookupRule_placeholder]
    split
    · exact Prog.Respects.bind (respects_categoriseWithLlm habstain) fun _ hllm =>
        Prog.Respects.ret hllm
    · exact Prog.Respects.ret rfl

theorem respects_categoriseJson (habstain : LlmAbstains env) :
    (categoriseJson env userId (.str "Unknown")).Respects (Files receiptId)
      (Answered env userId receiptId) (fun chosen => chosen.2 = .other) (fun _ => True) :=
  Prog.Respects.bind (respects_categoriseMerchant habstain) fun _ hcategory =>
    Prog.Respects.ret hcategory

theorem respects_insertReceiptExpense (receipt : Receipt) (merchant : String) (amount : Decimal)
    {category : ExpenseCategory} (hcategory : category = .other) (expenseDate : Date) :
    (insertReceiptExpense receipt merchant amount category expenseDate).Respects (Files receiptId)
      (Answered env userId receiptId) (fun _ => True) (fun _ => True) := by
  refine Prog.Respects.bind (respects_op (files_updateReceipt fun c hc => List.mem_singleton.1 hc))
    fun _ _ => ?_
  refine Prog.Respects.bind (respects_op (o := .uuid4) trivial) fun id _ => ?_
  exact Prog.Respects.bind (respects_op (files_insertExpense hcategory)) fun _ _ =>
    respects_op (o := .commit) trivial

/-- **A receipt without a merchant is filed under `other`**, by a model that abstains and a chain
that has learned nothing. -/
theorem respects_categoriseReceipt (habstain : LlmAbstains env) :
    (categoriseReceipt env receiptId).Respects (Files receiptId) (Answered env userId receiptId)
      (fun _ => True) (fun _ => True) := by
  refine Prog.Respects.bind (respects_sql
    (Q := fun rows => ∀ r ∈ rows, r.userId = userId ∧ NoMerchant r) ⟨rfl, rfl, rfl⟩
    fun rows hrows r hr => ?_) fun rows hrows => ?_
  · obtain ⟨hid, hblank⟩ := hrows r hr
    exact hblank (of_decide_eq_true hid)
  refine Prog.Respects.bind (respects_scalarOneOrNone rows trivial) fun found hfound => ?_
  cases found with
  | none => exact Prog.Respects.ret trivial
  | some receipt =>
      obtain ⟨rfl, hblank⟩ := hrows receipt (hfound receipt rfl)
      refine Prog.Respects.bind (respects_sql (Q := fun _ => True) ⟨rfl, rfl, rfl⟩
        fun _ _ => trivial) fun linked _ => ?_
      refine Prog.Respects.bind (respects_scalarOneOrNone linked trivial) fun existing _ => ?_
      cases existing with
      | some _ =>
          simp only
          split
          · exact respects_saveCategorised receipt
          · exact Prog.Respects.ret trivial
      | none =>
          simp only
          split
          · exact Prog.Respects.ret trivial
          · refine Prog.Respects.bind (respects_coercePayload hblank) fun fields hfields => ?_
            obtain ⟨merchant, amount, expenseDate⟩ := fields
            cases hfields
            refine Prog.Respects.bind (respects_categoriseJson habstain) fun chosen hchosen => ?_
            exact respects_insertReceiptExpense receipt chosen.1 amount hchosen expenseDate

end

/-! ## Between sessions -/

theorem pending_of_idle {V K : Type} {key : V → K} [DecidableEq K] {s : Store Unit V K key}
    (h : s.rollback () = s) : s.pending = [] := by
  have hpending := congrArg Store.pending h
  rw [← hpending]
  simp [Store.rollback]

/-- With nothing staged, what holds of the committed rows holds of all. -/
theorem all_of_idle {V K : Type} {key : V → K} [DecidableEq K] {s : Store Unit V K key}
    {P : V → Prop} (h : s.rollback () = s) (hP : ∀ v ∈ s.committed.rows, P v) : s.All P :=
  Store.all_of_pending_nil (pending_of_idle h) hP

theorem rollback_rollback (db : Db Unit) : (db.rollback ()).rollback () = db.rollback () := by
  simp [Db.rollback, Store.rollback]

/-- Between two sessions nothing is staged, and nothing has been learned. -/
structure Between (userId : UUID) (w : World Unit) : Prop where
  idle : w.db.rollback () = w.db
  corrections : w.db.corrections.All (NotLearned userId)

variable {env : Env} {w : World Unit} {userId : UUID}

theorem Between.expenses (h : Between userId w) :
    w.db.expenses = Store.ofTable w.db.expenses.committed :=
  Store.eq_ofTable (pending_of_idle (congrArg Db.expenses h.idle))

theorem Between.mem_committed (h : Between userId w) {e : Expense}
    (he : e ∈ (w.db.expenses.view ()).rows) : e ∈ w.db.expenses.committed.rows := by
  rw [h.expenses] at he
  exact he

theorem Unlearned.between (h : Unlearned userId w) : Between userId w :=
  ⟨h.idle, all_of_idle (congrArg Db.corrections h.idle) h.nothing⟩

/-- **One call leaves nothing learned**, if it teaches elsewhere. -/
theorem between_serve {call : Call} (h : Between userId w)
    (hteach : TeachesElsewhere env userId w call) : Between userId (serve env w call) := by
  refine ⟨rollback_rollback _, Store.All.rollback ?_ ()⟩
  have hread : ∀ o, RecordsNothing o → Harmless userId o := fun o => harmless_of_recordsNothing userId
  cases call with
  | patch userId' expenseId patch ifMatch =>
      rw [run_patch]
      refine run_updateExpense (I := fun v => v.db.corrections.All (NotLearned userId)) ifMatch
        (run_harmless (asks_getExpense (fun _ _ => hread _ trivial) _ _) h.corrections)
        (fun e v he hid huser hv => ?_)
      refine run_harmless (asks_updateLoaded hread (fun m c hc => ?_) ifMatch) hv
      rintro ⟨rfl, hm⟩
      exact hteach expenseId patch ifMatch rfl e (h.mem_committed he) hid huser m c hc hm
  | categorise receiptId => exact run_harmless (asks_categoriseReceipt.mono hread) h.corrections
  | other p hp => exact run_harmless (hp.mono hread) h.corrections

/-- **A patch that leaves the placeholder leaves the corrections as they are**, if it teaches
elsewhere. -/
theorem Between.corrections_patch {expenseId : UUID} {patch : ExpensePatch} {e : Expense}
    (h : Between userId w) (ifMatch : Option String)
    (hteach : TeachesElsewhere env userId w (.patch userId expenseId patch ifMatch))
    (he : e ∈ w.db.expenses.committed.rows) (hid : e.id = expenseId)
    (hstill : StillPlaceholder e patch) :
    (serve env w (.patch userId expenseId patch ifMatch)).db.corrections = w.db.corrections := by
  have hidle := Store.eq_ofTable (pending_of_idle (congrArg Db.corrections h.idle))
  have hrun : (Prog.run (alone env) (updateExpense env userId expenseId patch ifMatch)
      w).2.db.corrections = Store.ofTable w.db.corrections.committed := by
    refine run_updateExpense (I := fun v => v.db.corrections =
        Store.ofTable w.db.corrections.committed) ifMatch
      (run_recordsNothing (asks_getExpense (fun _ _ => trivial) _ _) hidle)
      (fun e' v he' hid' huser hv => ?_)
    refine run_recordsNothing (asks_updateLoaded (fun _ => id) (fun m c hc => ?_) ifMatch) hv
    -- the row it has loaded is the row that still carries the placeholder
    have heq : e' = e := Table.eq_of_mem_of_key (h.mem_committed he') he (hid'.trans hid.symm)
    subst heq
    have hm : m = "Unknown" := correction_placeholder hstill hc
    subst hm
    exact (hteach expenseId patch ifMatch rfl e' he hid huser "Unknown" c hc
      (normaliseMerchant_placeholder env.unicode)).elim
  show ((Prog.run (alone env) (Call.program env (.patch userId expenseId patch ifMatch))
    w).2.close ()).db.corrections = w.db.corrections
  rw [run_patch, hidle]
  show (Prog.run (alone env) (updateExpense env userId expenseId patch ifMatch)
    w).2.db.corrections.rollback () = _
  rw [hrun]
  rfl

/-- **A categorisation guesses nothing**, with a model that abstains. -/
theorem Between.filed_categorise {receiptId : UUID} {r : Receipt} (h : Between userId w)
    (habstain : LlmAbstains env) (hr : r ∈ w.db.receipts.committed.rows) (hid : r.id = receiptId)
    (huser : r.userId = userId) (hblank : NoMerchant r) :
    (serve env w (.categorise receiptId)).db.expenses.All
      (Filed receiptId w.db.expenses.committed.rows) := by
  have hreceipts : w.db.receipts.All (Blank userId receiptId) := by
    refine all_of_idle (congrArg Db.receipts h.idle) fun r' hr' hid' => ?_
    have heq : r' = r := Table.eq_of_mem_of_key hr' hr (hid'.trans hid.symm)
    subst heq
    exact ⟨huser, hblank⟩
  have hexpenses : w.db.expenses.All (Filed receiptId w.db.expenses.committed.rows) :=
    all_of_idle (congrArg Db.expenses h.idle) fun e he _ => Or.inl he
  exact (run_filed (respects_categoriseReceipt habstain) hreceipts h.corrections hexpenses).rollback ()

/-! ## Every history -/

/-- **An unreadable merchant is neither learned from nor guessed**: it is so in every history in
which no patch by the user teaches about the placeholder and the model abstains on it. -/
theorem keepsApart_along (habstain : LlmAbstains env) (h : Unlearned userId w) {calls : List Call}
    (hteach : EventRuns.Along (serve env) (TeachesElsewhere env userId) w calls) :
    EventRuns.Along (serve env) (KeepsApart env userId) w calls := by
  have hgood : ∀ v call, Between userId v → TeachesElsewhere env userId v call →
      KeepsApart env userId v call := by
    intro v call hv hcall
    constructor
    · rintro receiptId rfl r hr hid huser hblank e he hlink hnew
      have hfiled := hv.filed_categorise habstain hr hid huser hblank
      exact (hfiled.1 e.id e (Table.get_of_mem he) hlink).resolve_left hnew
    · rintro expenseId patch ifMatch rfl e he hid hstill v' userId' merchant
      rw [hv.corrections_patch ifMatch hcall he hid hstill]
  exact EventRuns.along_of_step hgood (fun v call => between_serve) h.between hteach

/-! ## A correction for the placeholder -/

/-- Two receipts nobody could read, the first one already categorised. -/
def sampleReceipt (id : UUID) (status : ReceiptStatus) : Receipt where
  id := id
  userId := 7
  storageKey := "receipts/" ++ uuidStr id
  mimeType := "image/png"
  fileSizeBytes := 3
  status := status
  ocrMethod := some .tesseract
  ocrConfidence := some 9100
  rawText := some ""
  parsedPayload := some (ParsedReceipt.toJsonable ⟨none, none, none⟩)
  errorMessage := none
  externalMessageId := none
  createdAt := 0
  updatedAt := 0

theorem isDate_newYear : IsDate 2026 1 1 := by decide

def sampleExpense : Expense where
  id := 1
  userId := 7
  merchantName := "Unknown"
  amount := .cents 0
  currency := "USD"
  category := .other
  expenseDate := ⟨2026, 1, 1, isDate_newYear⟩
  description := none
  receiptId := some 10
  source := .receipt
  createdAt := 0
  updatedAt := 0

def sampleWorld : World Unit :=
  World.ofDb { Db.ofUsers [⟨7, "token"⟩] with
    expenses := Store.ofTable ⟨[sampleExpense], by decide⟩
    receipts := Store.ofTable ⟨[sampleReceipt 10 .categorised, sampleReceipt 11 .parsed],
      by decide⟩ }

/-- The patch that files an expense under a category, and may name its merchant. -/
def toCategory (c : ExpenseCategory) (merchant : Option (Option String)) : ExpensePatch where
  merchantName := merchant
  amount := none
  currency := none
  category := some (some c)
  expenseDate := none
  description := none

/-- A history in which the user names the merchant. -/
theorem keepsApart_along_sample :
    EventRuns.Along (serve Env.quiet) (KeepsApart Env.quiet 7) sampleWorld
      [.patch 7 1 (toCategory .groceries (some (some "Corner Shop"))) none, .categorise 11] := by
  refine keepsApart_along (fun n content hn => ?_) ⟨rfl, fun c hc => ?_⟩ ⟨?_, ?_, trivial⟩
  · cases hn
  · cases hc
  · rintro expenseId patch ifMatch hcall e he - - m c hc
    cases hcall
    obtain rfl := List.mem_singleton.1 he
    cases hc
    decide
  · rintro expenseId patch ifMatch hcall
    cases hcall

/-- The user files the first expense under groceries and leaves its merchant: the second receipt
lands there too. -/
theorem not_keepsApart_of_groceries :
    ¬ EventRuns.Along (serve Env.quiet) (KeepsApart Env.quiet 7) sampleWorld
      [.patch 7 1 (toCategory .groceries none) none, .categorise 11] := by
  have hbefore : ((serve Env.quiet sampleWorld
      (.patch 7 1 (toCategory .groceries none) none)).db.expenses.committed.rows.all
        (fun e => e.receiptId = some 10)) = true := by
    decide +kernel
  have hreceipt : ((serve Env.quiet sampleWorld
      (.patch 7 1 (toCategory .groceries none) none)).db.receipts.committed.rows.any
        (fun r => r.id = 11 && r.userId = 7 &&
          (((r.parsedPayload.getD (.obj [])).get? "merchant").filter Json.truthy).isNone)) = true := by
    decide +kernel
  have hafter : ((serve Env.quiet (serve Env.quiet sampleWorld
      (.patch 7 1 (toCategory .groceries none) none)) (.categorise 11)).db.expenses.committed.rows.any
        (fun e => e.receiptId = some 11 && e.category = .groceries)) = true := by
    decide +kernel
  rintro ⟨-, hguess, -⟩
  obtain ⟨r, hr, hkey⟩ := List.any_eq_true.1 hreceipt
  obtain ⟨e, he, hcategory⟩ := List.any_eq_true.1 hafter
  simp only [Bool.and_eq_true, decide_eq_true_eq, Option.isNone_iff_eq_none] at hkey hcategory
  have hnew := fun hold => of_decide_eq_true (List.all_eq_true.1 hbefore e hold)
  have hother := hguess.guessesNothing 11 rfl r hr hkey.1.1 hkey.1.2 hkey.2 e he hcategory.1
    (fun hold => ?_)
  · rw [hcategory.2] at hother
    cases hother
  · have hten := hnew hold
    rw [hcategory.1] at hten
    exact absurd hten (by decide)

end Placeholder

end SpendLens
