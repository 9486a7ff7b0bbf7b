/-
# One database, many tenants

All users share the tables.  What a session of one of them asks for concerns the rows of that
user: asked of the user's share of the tables it is answered the same and does the same, and the
rows of everybody else stay as they are.
-/
import SpendLens.Lib.Fallible
import SpendLens.Lib.Shares
import SpendLens.Steps

namespace SpendLens

namespace Tenancy

variable {Tx : Type}

/-! ## The share of a user -/

/-- The users, and the rows of everybody but one of them. -/
structure Others where
  users : List User
  receipts : List Receipt
  expenses : List Expense
  budgets : List Budget
  corrections : List CategoryCorrection
  connections : List GmailConnection

/-- The database as the user's requests see it. -/
def only (userId : UUID) (db : Db Tx) : Db Tx where
  users := db.users
  receipts := db.receipts.only (fun r => r.userId = userId)
  expenses := db.expenses.only (fun e => e.userId = userId)
  budgets := db.budgets.only (fun b => b.userId = userId)
  corrections := db.corrections.only (fun c => c.userId = userId)
  connections := db.connections.only (fun c => c.userId = userId)

/-- The others have these rows, and all that is being written is the user's. -/
structure Apart (userId : UUID) (others : Others) (db : Db Tx) : Prop where
  users : db.users = others.users
  receipts : db.receipts.Apart (fun r => r.userId = userId) others.receipts
  expenses : db.expenses.Apart (fun e => e.userId = userId) others.expenses
  budgets : db.budgets.Apart (fun b => b.userId = userId) others.budgets
  corrections : db.corrections.Apart (fun c => c.userId = userId) others.corrections
  connections : db.connections.Apart (fun c => c.userId = userId) others.connections

/-- The rows of everybody but the user, as they are stored. -/
def othersOf (userId : UUID) (db : Db Tx) : Others where
  users := db.users
  receipts := db.receipts.committed.rest (fun r => r.userId = userId)
  expenses := db.expenses.committed.rest (fun e => e.userId = userId)
  budgets := db.budgets.committed.rest (fun b => b.userId = userId)
  corrections := db.corrections.committed.rest (fun c => c.userId = userId)
  connections := db.connections.committed.rest (fun c => c.userId = userId)

theorem Apart.othersOf_eq {userId : UUID} {others : Others} {db : Db Tx}
    (h : Apart userId others db) : othersOf userId db = others := by
  rw [othersOf, h.users, h.receipts.rest, h.expenses.rest, h.budgets.rest, h.corrections.rest,
    h.connections.rest]

/-- No transaction is open. -/
structure Quiescent (db : Db Tx) : Prop where
  receipts : db.receipts.pending = []
  expenses : db.expenses.pending = []
  budgets : db.budgets.pending = []
  corrections : db.corrections.pending = []
  connections : db.connections.pending = []

/-- Then everybody is apart from everybody else. -/
theorem Quiescent.apart {db : Db Tx} (h : Quiescent db) (userId : UUID) :
    Apart userId (othersOf userId db) db where
  users := rfl
  receipts := Store.apart_of_pending_nil h.receipts
  expenses := Store.apart_of_pending_nil h.expenses
  budgets := Store.apart_of_pending_nil h.budgets
  corrections := Store.apart_of_pending_nil h.corrections
  connections := Store.apart_of_pending_nil h.connections

/-- What a user has is among what another one has not. -/
theorem Quiescent.only_eq {userId otherId : UUID} (hne : otherId ≠ userId) {db db' : Db Tx}
    (hdb : Quiescent db) (hdb' : Quiescent db') (h : othersOf otherId db = othersOf otherId db') :
    only userId db = only userId db' := by
  have hother : ∀ {V : Type} (owner : V → UUID) (v : V), decide (owner v = userId) = true →
      decide (owner v = otherId) = false := by
    intro V owner v hv
    rw [decide_eq_false_iff_not, of_decide_eq_true hv]
    exact hne.symm
  injection h with husers hreceipts hexpenses hbudgets hcorrections hconnections
  rw [only, only, husers,
    Store.only_eq_of_rest_eq (hother Receipt.userId) hdb.receipts hdb'.receipts hreceipts,
    Store.only_eq_of_rest_eq (hother Expense.userId) hdb.expenses hdb'.expenses hexpenses,
    Store.only_eq_of_rest_eq (hother Budget.userId) hdb.budgets hdb'.budgets hbudgets,
    Store.only_eq_of_rest_eq (hother CategoryCorrection.userId) hdb.corrections hdb'.corrections
      hcorrections,
    Store.only_eq_of_rest_eq (hother GmailConnection.userId) hdb.connections hdb'.connections
      hconnections]

/-- The only session there is has closed. -/
theorem quiescent_rollback (db : Db Unit) : Quiescent (db.rollback ()) := by
  have hnone : ∀ {V K : Type} {key : V → K} (s : Store Unit V K key),
      (s.rollback ()).pending = [] :=
    fun s => List.filter_eq_nil_iff.2 (fun p _ hp => of_decide_eq_true hp rfl)
  exact ⟨hnone _, hnone _, hnone _, hnone _, hnone _⟩

/-- The tables whose rows have identifiers. -/
inductive Kind where
  | receipt
  | expense
  | budget
  | connection
  deriving DecidableEq

/-- Nobody else's row has the identifier, or, if it is one of a receipt, refers to it. -/
def Free (others : Others) : Kind → UUID → Prop
  | .receipt, k => Table.Unused Receipt.id others.receipts k ∧
      ∀ e ∈ others.expenses, e.receiptId ≠ some k
  | .expense, k => Table.Unused Expense.id others.expenses k
  | .budget, k => Table.Unused Budget.id others.budgets k
  | .connection, k => Table.Unused GmailConnection.id others.connections k

/-- A statement that reads and writes the user's rows only, where `mine` are identifiers that no
row of the others has. -/
def Within (userId : UUID) (mine : Kind → UUID → Prop) : Stmt → Prop
  | .selectUsers _ _ => True
  | .selectReceipts _ p => ∀ r, p r = true → r.userId = userId ∨ mine .receipt r.id
  | .selectExpenses _ p => ∀ e, p e = true → e.userId = userId ∨ mine .expense e.id ∨
      ∃ k, e.receiptId = some k ∧ mine .receipt k
  | .selectBudgets _ p => ∀ b, p b = true → b.userId = userId ∨ mine .budget b.id
  | .selectCorrections _ p => ∀ c, p c = true → c.userId = userId
  | .selectConnections _ p => ∀ c, p c = true → c.userId = userId ∨ mine .connection c.id
  | .insertReceipt r => r.userId = userId ∧ mine .receipt r.id
  | .updateReceipt id _ => mine .receipt id
  | .deleteReceipt id => mine .receipt id
  | .insertExpense e => e.userId = userId ∧ mine .expense e.id ∧ e.receiptId = none
  | .updateExpense id cols => mine .expense id ∧ ∀ k, ExpenseColumn.receiptId (some k) ∉ cols
  | .deleteExpense id => mine .expense id
  | .insertBudget b => b.userId = userId ∧ mine .budget b.id
  | .updateBudget id _ => mine .budget id
  | .deleteBudget id => mine .budget id
  | .upsertCorrection userId' _ _ => userId' = userId
  | .upsertConnection id userId' _ _ => userId' = userId ∧ mine .connection id
  | .updateConnection id _ => mine .connection id
  | .deleteConnection id => mine .connection id

theorem Within.mono {userId : UUID} {mine mine' : Kind → UUID → Prop} {s : Stmt}
    (h : Within userId mine s) (hmine : ∀ kind k, mine kind k → mine' kind k) :
    Within userId mine' s := by
  cases s with
  | selectUsers params p => trivial
  | selectReceipts params p | selectBudgets params p | selectConnections params p =>
      exact fun v hv => (h v hv).imp_right (hmine _ _)
  | selectExpenses params p =>
      exact fun e he => (h e he).imp_right
        (Or.imp (hmine _ _) (fun ⟨k, hk, hm⟩ => ⟨k, hk, hmine _ _ hm⟩))
  | selectCorrections params p => exact h
  | insertReceipt r => exact ⟨h.1, hmine _ _ h.2⟩
  | insertExpense e => exact ⟨h.1, hmine _ _ h.2.1, h.2.2⟩
  | insertBudget b => exact ⟨h.1, hmine _ _ h.2⟩
  | updateExpense id cols => exact ⟨hmine _ _ h.1, h.2⟩
  | upsertCorrection userId' merchant category => exact h
  | upsertConnection id userId' googleEmail encrypted => exact ⟨h.1, hmine _ _ h.2⟩
  | updateReceipt id cols | deleteReceipt id | deleteExpense id | updateBudget id cols
  | deleteBudget id | updateConnection id lastHistoryId | deleteConnection id =>
      exact hmine _ _ h

/-! ## The operations of a table -/

section tables

variable [DecidableEq Tx] {V K X : Type} {key : V → K} [DecidableEq K] [DecidableEq X]
  {own : V → Bool} {others : List V} {s : Store Tx V K key} {t : Tx}

/-- A `SELECT` of rows of the user. -/
theorem select_only (h : s.Apart own others) {params : List Param} {p : V → Bool}
    (hp : ∀ v ∈ (s.view t).rows, p v = true → own v = true) :
    select (s.only own) t params p = select s t params p := by
  rw [select, select, h.filter_view t hp]

/-- An `INSERT` under a key of the user's. -/
theorem insert_only (h : s.Apart own others) {f : V → Option X} {v : V}
    (hk : Table.Unused key others (key v))
    (hf : ∀ x, f v = some x → ∀ u, f u = some x → own u = true) :
    insert (s.only own) t f v = (insert s t f v).map (fun x => (x.1, x.2.only own)) := by
  rw [insert, insert, Store.locked_only, h.get_view t hk, h.contended_only, h.duplicate_only t hf]
  split
  · rfl
  · split
    · rfl
    · rfl

theorem insert_apart (h : s.Apart own others) {f : V → Option X} {v : V} (hv : own v = true)
    (hk : Table.Unused key others (key v)) {x : Except PyExc Unit × Store Tx V K key}
    (hx : insert s t f v = some x) : x.2.Apart own others := by
  unfold insert at hx
  split at hx
  · cases hx
  · split at hx
    · cases hx
      exact h
    · cases hx
      exact h.stage t ⟨hk, fun u hu => by cases hu; exact hv⟩

/-- An `UPDATE` under a key of the user's. -/
theorem update_only (h : s.Apart own others) {k : K} {store : V → Except PyExc V}
    (hk : Table.Unused key others k) :
    update (s.only own) t k store = (update s t k store).map (fun x => (x.1, x.2.only own)) := by
  rw [update, update, h.get_view t hk, Store.locked_only]
  split
  · rfl
  · split
    · rfl
    · split
      · rfl
      · rfl

theorem update_apart (h : s.Apart own others) {k : K} {store : V → Except PyExc V}
    (hk : Table.Unused key others k)
    (hstore : ∀ v v', key v = k → own v = true → store v = .ok v' → key v' = k ∧ own v' = true)
    {x : Except PyExc Unit × Store Tx V K key} (hx : update s t k store = some x) :
    x.2.Apart own others := by
  unfold update at hx
  split at hx
  · cases hx
    exact h
  · rename_i v hv
    split at hx
    · cases hx
    · split at hx
      · cases hx
        exact h
      · rename_i v' hv'
        cases hx
        obtain ⟨hkey, hown⟩ := hstore v v' (Table.key_of_get hv) (h.own_of_get hk hv) hv'
        refine h.stage t ⟨?_, fun u hu => by cases hu; exact hown⟩
        show Table.Unused key others (key v')
        rw [hkey]
        exact hk

/-- A `DELETE` under a key of the user's. -/
theorem delete_only (h : s.Apart own others) {k : K} (hk : Table.Unused key others k) :
    delete (s.only own) t k = (delete s t k).map (fun x => (x.1, x.2.only own)) := by
  rw [delete, delete, h.get_view t hk, Store.locked_only]
  split
  · rfl
  · split
    · rfl
    · rfl

theorem delete_apart (h : s.Apart own others) {k : K} (hk : Table.Unused key others k)
    {x : Except PyExc Unit × Store Tx V K key} (hx : delete s t k = some x) :
    x.2.Apart own others := by
  unfold delete at hx
  split at hx
  · cases hx
    exact h
  · split at hx
    · cases hx
    · cases hx
      exact h.stage t ⟨hk, fun u hu => by cases hu⟩

end tables

/-! ## Statements -/

section statements

variable [DecidableEq Tx] {userId : UUID} {others : Others} {now : Timestamp} {t : Tx} {db : Db Tx}

/-- The expenses of a receipt of the user's are the user's. -/
theorem Apart.own_of_link (h : Apart userId others db) {e : Expense} {k : UUID}
    (he : e ∈ (db.expenses.view t).rows) (hlink : e.receiptId = some k)
    (hfree : Free others .receipt k) : e.userId = userId := by
  by_contra hother
  refine hfree.2 e ?_ hlink
  rw [← h.expenses.rest_view t]
  refine List.mem_filter.2 ⟨he, ?_⟩
  show (!decide (e.userId = userId)) = true
  rw [decide_eq_false hother]
  rfl

omit [DecidableEq Tx] in
/-- Corrections are keyed by their user. -/
theorem Apart.unused_correction (h : Apart userId others db) (merchant : String) :
    Table.Unused CategoryCorrection.key others.corrections (userId, merchant) := by
  intro c hc hkey
  have hother : decide (c.userId = userId) = false := h.corrections.other hc
  exact of_decide_eq_false hother (congrArg Prod.fst hkey)

theorem userId_of_messageKey {r u : Receipt} {x : UUID × String} (hr : r.messageKey = some x)
    (hu : u.messageKey = some x) : u.userId = r.userId := by
  obtain ⟨m, -, rfl⟩ := Option.map_eq_some_iff.1 hr
  obtain ⟨m', -, hx⟩ := Option.map_eq_some_iff.1 hu
  exact congrArg Prod.fst hx

theorem userId_of_periodKey {b u : Budget} {x : UUID × ExpenseCategory × BudgetPeriod}
    (hb : b.periodKey = some x) (hu : u.periodKey = some x) : u.userId = b.userId := by
  rw [← hb] at hu
  exact congrArg Prod.fst (Option.some.inj hu)

theorem userId_of_accountKey {c : GmailConnection} {userId : UUID} {googleEmail : String}
    (hc : c.accountKey = some (userId, googleEmail)) : c.userId = userId :=
  congrArg Prod.fst (Option.some.inj hc)

theorem NewExpense.userId_store {e : NewExpense} {now : Timestamp} {row : Expense}
    (h : e.store now = .ok row) : row.userId = e.userId := by
  obtain ⟨merchantName, -, h⟩ := Fallible.bind_eq_ok.1 h
  obtain ⟨amount, -, h⟩ := Fallible.bind_eq_ok.1 h
  obtain ⟨currency, -, h⟩ := Fallible.bind_eq_ok.1 h
  obtain ⟨description, -, h⟩ := Fallible.bind_eq_ok.1 h
  cases h
  rfl

theorem userId_storeAll_expense {e e' : Expense} {cols : List ExpenseColumn}
    (h : storeAll ExpenseColumn.store e cols = .ok e') : e'.userId = e.userId := by
  refine storeAll_keeps Expense.userId (fun {r r' c} hc => ?_) h
  cases c with
  | receiptId v =>
      cases hc
      rfl
  | _ =>
      obtain ⟨a, -, rfl⟩ := Fallible.map_eq_ok.1 hc
      rfl

theorem userId_storeAll_budget {b b' : Budget} {cols : List BudgetColumn}
    (h : storeAll BudgetColumn.store b cols = .ok b') : b'.userId = b.userId := by
  refine storeAll_keeps Budget.userId (fun {r r' c} hc => ?_) h
  cases c <;>
    · obtain ⟨a, -, rfl⟩ := Fallible.map_eq_ok.1 hc
      rfl

/-- **A statement of the user's**, asked of the user's share of the database: its answer is the
same, and so is what it makes of that share. -/
theorem exec_only (h : Apart userId others db) {s : Stmt} (hs : Within userId (Free others) s) :
    s.exec now t (only userId db) = (s.exec now t db).map (fun x => (x.1, only userId x.2)) := by
  cases s with
  | selectUsers params p => rfl
  | selectReceipts params p =>
      have hown : ∀ r ∈ (db.receipts.view t).rows, p r = true →
          decide (r.userId = userId) = true := by
        intro r hr hp
        rcases hs r hp with huser | hfree
        · exact decide_eq_true huser
        · exact h.receipts.own_of_mem hr hfree.1
      exact congrArg (fun x => some (x, only userId db)) (select_only h.receipts hown)
  | selectExpenses params p =>
      have hown : ∀ e ∈ (db.expenses.view t).rows, p e = true →
          decide (e.userId = userId) = true := by
        intro e he hp
        rcases hs e hp with huser | hfree | ⟨k, hlink, hfree⟩
        · exact decide_eq_true huser
        · exact h.expenses.own_of_mem he hfree
        · exact decide_eq_true (h.own_of_link he hlink hfree)
      exact congrArg (fun x => some (x, only userId db)) (select_only h.expenses hown)
  | selectBudgets params p =>
      have hown : ∀ b ∈ (db.budgets.view t).rows, p b = true →
          decide (b.userId = userId) = true := by
        intro b hb hp
        rcases hs b hp with huser | hfree
        · exact decide_eq_true huser
        · exact h.budgets.own_of_mem hb hfree
      exact congrArg (fun x => some (x, only userId db)) (select_only h.budgets hown)
  | selectCorrections params p =>
      exact congrArg (fun x => some (x, only userId db))
        (select_only h.corrections (fun c _ hp => decide_eq_true (hs c hp)))
  | selectConnections params p =>
      have hown : ∀ c ∈ (db.connections.view t).rows, p c = true →
          decide (c.userId = userId) = true := by
        intro c hc hp
        rcases hs c hp with huser | hfree
        · exact decide_eq_true huser
        · exact h.connections.own_of_mem hc hfree
      exact congrArg (fun x => some (x, only userId db)) (select_only h.connections hown)
  | insertReceipt r =>
      have hindex : ∀ x, (r.stamp now).messageKey = some x → ∀ u : Receipt, u.messageKey = some x →
          decide (u.userId = userId) = true :=
        fun x hx u hu => decide_eq_true ((userId_of_messageKey hx hu).trans hs.1)
      show (if _ then (insert (db.receipts.only _) t _ _).map _ else _) = _
      rw [insert_only (v := r.stamp now) h.receipts hs.2.1 hindex, Stmt.exec]
      split
      · rw [Option.map_map, Option.map_map]
        rfl
      · rfl
  | updateReceipt id cols =>
      show (update (db.receipts.only _) t id _).map _ = _
      rw [update_only h.receipts hs.1, Stmt.exec, Option.map_map, Option.map_map]
      rfl
  | deleteReceipt id =>
      have hlinked : ((db.expenses.only (fun e => e.userId = userId)).view t).rows.filter
          (fun e => e.receiptId = some id) =
          (db.expenses.view t).rows.filter (fun e => e.receiptId = some id) :=
        h.expenses.filter_view t (fun e he hp =>
          decide_eq_true (h.own_of_link he (of_decide_eq_true hp) hs))
      have hget : ((db.receipts.only (fun r => r.userId = userId)).view t).get id =
          (db.receipts.view t).get id := h.receipts.get_view t hs.1
      simp only [Stmt.exec, only, hlinked, hget, Store.locked_only]
      split
      · rfl
      · split
        · rfl
        · rw [Option.map_some, Store.only_stageAll]
          rfl
  | insertExpense e =>
      simp only [Stmt.exec]
      split
      · rfl
      · rename_i row hrow
        obtain ⟨hid, hlink, -⟩ := NewExpense.store_ok hrow
        rw [hs.2.2] at hlink
        rw [hlink, Option.all_none, Option.all_none, if_pos rfl, if_pos rfl]
        show (insert (db.expenses.only _) t _ _).map _ = _
        rw [insert_only h.expenses (by rw [hid]; exact hs.2.1)
          (fun x hx => by rw [hlink] at hx; cases hx), Option.map_map, Option.map_map]
        rfl
  | updateExpense id cols =>
      show (update (db.expenses.only _) t id _).map _ = _
      rw [update_only h.expenses hs.1, Stmt.exec, Option.map_map, Option.map_map]
      rfl
  | deleteExpense id =>
      show (delete (db.expenses.only _) t id).map _ = _
      rw [delete_only h.expenses hs, Stmt.exec, Option.map_map, Option.map_map]
      rfl
  | insertBudget b =>
      simp only [Stmt.exec]
      split
      · rename_i amount hamount
        show (insert (db.budgets.only _) t _ _).map _ = _
        rw [insert_only (v := ⟨b.id, b.userId, b.category, amount, b.period, b.alertThresholdPct,
            b.active, now, now⟩) h.budgets hs.2 (fun x hx u hu => decide_eq_true ((userId_of_periodKey hx hu).trans hs.1)),
          Option.map_map, Option.map_map]
        rfl
      · rfl
  | updateBudget id cols =>
      have hget : ((db.budgets.only (fun b => b.userId = userId)).view t).get id =
          (db.budgets.view t).get id := h.budgets.get_view t hs
      simp only [Stmt.exec, only, hget, Store.locked_only]
      split
      · rfl
      · rename_i b hb
        split
        · rfl
        · rename_i b' hb'
          have huser : b'.userId = userId :=
            (userId_storeAll_budget hb').trans (of_decide_eq_true (h.budgets.own_of_get hs hb))
          have hduplicate : b'.periodKey.any (fun x =>
              (db.budgets.only (fun b => b.userId = userId)).duplicate t Budget.periodKey x) =
              b'.periodKey.any (fun x => db.budgets.duplicate t Budget.periodKey x) :=
            h.budgets.duplicate_only t (fun x hx u hu =>
              decide_eq_true ((userId_of_periodKey hx hu).trans huser))
          have hcontended : b'.periodKey.any (fun x =>
              (db.budgets.only (fun b => b.userId = userId)).contended t Budget.periodKey x) =
              b'.periodKey.any (fun x => db.budgets.contended t Budget.periodKey x) :=
            h.budgets.contended_only t b'.periodKey
          simp only [hduplicate, hcontended]
          split
          · rfl
          · split
            · rfl
            · rfl
  | deleteBudget id =>
      show (delete (db.budgets.only _) t id).map _ = _
      rw [delete_only h.budgets hs, Stmt.exec, Option.map_map, Option.map_map]
      rfl
  | upsertCorrection userId' merchant category =>
      obtain rfl := hs
      have hget : ((db.corrections.only (fun c => c.userId = userId')).view t).get
          (userId', merchant) = (db.corrections.view t).get (userId', merchant) :=
        h.corrections.get_view t (h.unused_correction merchant)
      simp only [Stmt.exec, only, hget, Store.locked_only]
      split
      · split
        · rfl
        · rfl
      · rfl
  | upsertConnection id userId' googleEmail encrypted =>
      obtain ⟨rfl, hfree⟩ := hs
      have hfind : ((db.connections.only (fun c => c.userId = userId')).view t).rows.find?
          (fun c => c.accountKey = some (userId', googleEmail)) =
          (db.connections.view t).rows.find?
            (fun c => c.accountKey = some (userId', googleEmail)) := by
        rw [← List.head?_filter, ← List.head?_filter, h.connections.filter_view t
          (fun c _ hp => decide_eq_true (userId_of_accountKey (of_decide_eq_true hp)))]
      have hcontended : (db.connections.only (fun c => c.userId = userId')).contended t
          GmailConnection.accountKey (userId', googleEmail) =
          db.connections.contended t GmailConnection.accountKey (userId', googleEmail) :=
        h.connections.contended_only t (some (userId', googleEmail))
      simp only [Stmt.exec, only, hfind, hcontended, Store.locked_only]
      split
      · split
        · rfl
        · cases (db.connections.view t).rows.find?
            (fun c => c.accountKey = some (userId', googleEmail))
          · have hinsert := insert_only (t := t) (f := GmailConnection.accountKey)
              (v := ⟨id, userId', googleEmail, encrypted, none, now, now⟩)
              h.connections hfree (fun x hx u hu => by
                cases hx
                exact decide_eq_true (userId_of_accountKey hu))
            by_cases huser : db.users.any (fun u => u.id = userId') = true
            · simp only [huser, if_true, hinsert, Option.map_map]
              rfl
            · simp only [huser]
              rfl
          · rename_i c
            by_cases hlock : db.connections.locked t c.id = true
            · simp only [hlock, if_true]
              rfl
            · simp only [hlock]
              rfl
      · rfl
  | updateConnection id lastHistoryId =>
      show (update (db.connections.only _) t id _).map _ = _
      rw [update_only h.connections hs, Stmt.exec, Option.map_map, Option.map_map]
      rfl
  | deleteConnection id =>
      show (delete (db.connections.only _) t id).map _ = _
      rw [delete_only h.connections hs, Stmt.exec, Option.map_map, Option.map_map]
      rfl

/-- **And it leaves the others alone.** -/
theorem exec_apart (h : Apart userId others db) {s : Stmt} (hs : Within userId (Free others) s)
    {x : Except PyExc s.Res × Db Tx} (hx : s.exec now t db = some x) :
    Apart userId others x.2 := by
  cases s with
  | selectUsers params p | selectReceipts params p | selectExpenses params p
  | selectBudgets params p | selectCorrections params p | selectConnections params p =>
      cases hx
      exact h
  | insertReceipt r =>
      simp only [Stmt.exec] at hx
      split at hx
      · obtain ⟨y, hy, rfl⟩ := Option.map_eq_some_iff.1 hx
        exact { h with
          receipts := insert_apart (v := r.stamp now) h.receipts (decide_eq_true hs.1) hs.2.1 hy }
      · cases hx
        exact h
  | updateReceipt id cols =>
      obtain ⟨y, hy, rfl⟩ := Option.map_eq_some_iff.1 hx
      refine { h with receipts := update_apart h.receipts hs.1 (fun r r' hid hown hr => ?_) hy }
      obtain ⟨u, hu, rfl⟩ := Fallible.map_eq_ok.1 hr
      exact ⟨hid, decide_eq_true ((storeAll_receipt hu).2.2.trans (of_decide_eq_true hown))⟩
  | deleteReceipt id =>
      simp only [Stmt.exec] at hx
      split at hx
      · cases hx
        exact h
      · split at hx
        · cases hx
        · cases hx
          refine { h with
            receipts := h.receipts.stage t ⟨hs.1, fun u hu => by cases hu⟩
            expenses := h.expenses.stageAll t (fun y hy => ?_) }
          obtain ⟨e, he, rfl⟩ := List.mem_map.1 hy
          obtain ⟨he, hlink⟩ := List.mem_filter.1 he
          have hown : decide (e.userId = userId) = true :=
            decide_eq_true (h.own_of_link he (of_decide_eq_true hlink) hs)
          have hunused := h.expenses.unused_of_mem he hown
          exact ⟨hunused, fun u hu => by cases hu; exact hown⟩
  | insertExpense e =>
      simp only [Stmt.exec] at hx
      split at hx
      · cases hx
        exact h
      · rename_i row hrow
        split at hx
        · obtain ⟨y, hy, rfl⟩ := Option.map_eq_some_iff.1 hx
          refine { h with expenses := insert_apart h.expenses ?_ ?_ hy }
          · exact decide_eq_true ((NewExpense.userId_store hrow).trans hs.1)
          · rw [(NewExpense.store_ok hrow).1]
            exact hs.2.1
        · cases hx
          exact h
  | updateExpense id cols =>
      obtain ⟨y, hy, rfl⟩ := Option.map_eq_some_iff.1 hx
      refine { h with expenses := update_apart h.expenses hs.1 (fun e e' hid hown he => ?_) hy }
      obtain ⟨u, hu, rfl⟩ := Fallible.map_eq_ok.1 he
      exact ⟨hid, decide_eq_true ((userId_storeAll_expense hu).trans (of_decide_eq_true hown))⟩
  | deleteExpense id =>
      obtain ⟨y, hy, rfl⟩ := Option.map_eq_some_iff.1 hx
      exact { h with expenses := delete_apart h.expenses hs hy }
  | insertBudget b =>
      simp only [Stmt.exec] at hx
      split at hx
      · obtain ⟨y, hy, rfl⟩ := Option.map_eq_some_iff.1 hx
        refine { h with budgets := insert_apart h.budgets ?_ ?_ hy }
        · exact decide_eq_true hs.1
        · exact hs.2
      · cases hx
        exact h
  | updateBudget id cols =>
      simp only [Stmt.exec] at hx
      split at hx
      · cases hx
        exact h
      · rename_i b hb
        split at hx
        · cases hx
          exact h
        · rename_i b' hb'
          split at hx
          · cases hx
          · split at hx
            · cases hx
              exact h
            · cases hx
              have hid : b.id = id := Table.key_of_get hb
              refine { h with budgets := h.budgets.stage t ⟨?_, fun u hu => ?_⟩ }
              · show Table.Unused Budget.id others.budgets b.id
                rw [hid]
                exact hs
              · cases hu
                exact decide_eq_true ((userId_storeAll_budget hb').trans
                  (of_decide_eq_true (h.budgets.own_of_get hs hb)))
  | deleteBudget id =>
      obtain ⟨y, hy, rfl⟩ := Option.map_eq_some_iff.1 hx
      exact { h with budgets := delete_apart h.budgets hs hy }
  | upsertCorrection userId' merchant category =>
      obtain rfl := hs
      simp only [Stmt.exec] at hx
      split at hx
      · split at hx
        · cases hx
        · cases hx
          refine { h with
            corrections := h.corrections.stage t ⟨h.unused_correction merchant, fun u hu => ?_⟩ }
          cases hu
          exact decide_eq_true rfl
      · cases hx
        exact h
  | upsertConnection id userId' googleEmail encrypted =>
      obtain ⟨rfl, hfree⟩ := hs
      simp only [Stmt.exec] at hx
      split at hx
      · split at hx
        · cases hx
        · split at hx
          · rename_i c hc
            split at hx
            · cases hx
            · cases hx
              have hmem := List.mem_of_find?_eq_some hc
              have hfound := List.find?_some hc
              have hown : decide (c.userId = userId') = true :=
                decide_eq_true (userId_of_accountKey (of_decide_eq_true hfound))
              have hunused := h.connections.unused_of_mem hmem hown
              refine { h with
                connections := h.connections.stage t ⟨hunused, fun u hu => ?_⟩ }
              cases hu
              exact hown
          · split at hx
            · obtain ⟨y, hy, rfl⟩ := Option.map_eq_some_iff.1 hx
              refine { h with connections := insert_apart h.connections ?_ ?_ hy }
              · exact decide_eq_true rfl
              · exact hfree
            · cases hx
              exact h
      · cases hx
        exact h
  | updateConnection id lastHistoryId =>
      obtain ⟨y, hy, rfl⟩ := Option.map_eq_some_iff.1 hx
      refine { h with connections := update_apart h.connections hs (fun c c' hid hown hc => ?_) hy }
      obtain ⟨u, -, rfl⟩ := Fallible.map_eq_ok.1 hc
      exact ⟨hid, hown⟩
  | deleteConnection id =>
      obtain ⟨y, hy, rfl⟩ := Option.map_eq_some_iff.1 hx
      exact { h with connections := delete_apart h.connections hs hy }

/-- No expense of the others refers to the receipt, if it is the user's. -/
def Unlinked (userId : UUID) (others : Others) (r : Receipt) : Prop :=
  r.userId = userId → ∀ e ∈ others.expenses, e.receiptId ≠ some r.id

theorem exec_unlinked {s : Stmt} {a : s.Res} {db' : Db Tx}
    (hs : Within userId (Free others) s) (hx : s.exec now t db = some (.ok a, db'))
    (hun : db.receipts.All (Unlinked userId others)) :
    db'.receipts.All (Unlinked userId others) := by
  rcases Stmt.exec_receipts hx with heq | hw
  · rw [heq]
    exact hun
  · generalize db'.receipts = st at hw
    cases hw with
    | insert r hlock hnew hfree => exact hun.put t (fun _ => hs.2.2)
    | update id cols v v' hget hlock hstore =>
        have huser := (storeAll_receipt hstore).2.2
        have hv : Unlinked userId others v := hun.view hget
        exact hun.put t (fun hmine => hv (huser.symm.trans hmine))
    | delete id v hget hlock => exact hun.del t id

/-! ## What a session of the user's may ask for -/

/-- An operation that neither reads nor writes what is not the user's. -/
def May (userId : UUID) (mine : Kind → UUID → Prop) : Op → Prop
  | .sql s => Within userId mine s
  | .getObject _ => False
  | _ => True

theorem May.mono {mine mine' : Kind → UUID → Prop} {o : Op} (h : May userId mine o)
    (hmine : ∀ kind k, mine kind k → mine' kind k) : May userId mine' o := by
  cases o with
  | sql s => exact Within.mono h hmine
  | getObject key => exact h
  | _ => trivial

/-- The identifiers an answer brings: those of the rows that are found, and fresh ones. -/
def Learned (o : Op) (r : Except PyExc o.Res) (mine : Kind → UUID → Prop) : Prop :=
  match o, r with
  | .sql (.selectReceipts _ p), .ok rows => ∀ r ∈ rows, p r = true ∧ mine .receipt r.id
  | .sql (.selectExpenses _ p), .ok rows => ∀ e ∈ rows, p e = true ∧ mine .expense e.id
  | .sql (.selectBudgets _ p), .ok rows => ∀ b ∈ rows, p b = true ∧ mine .budget b.id
  | .sql (.selectConnections _ p), .ok rows => ∀ c ∈ rows, p c = true ∧ mine .connection c.id
  | .sql (.upsertConnection _ _ _ _), .ok c => mine .connection c.id
  | .uuid4, .ok id => ∀ kind, mine kind id
  | _, _ => True

/-- An exception brings none. -/
theorem learned_error (o : Op) (e : PyExc) (mine : Kind → UUID → Prop) :
    Learned o (.error e) mine := by
  cases o with
  | sql s => cases s <;> trivial
  | _ => trivial

/-- How an answer moves what the session knows to be the user's. -/
def Next (mine : Kind → UUID → Prop) (o : Op) (r : Except PyExc o.Res)
    (mine' : Kind → UUID → Prop) : Prop :=
  (∀ kind k, mine kind k → mine' kind k) ∧ Learned o r mine'

/-- The identifiers a statement that takes effect brings are those of the rows it finds, or of the
connection it makes. -/
theorem learned_of_exec {mine : Kind → UUID → Prop} {s : Stmt} {a : s.Res} {db' : Db Tx}
    (hx : s.exec now t db = some (.ok a, db'))
    (hreceipts : ∀ params p, s = .selectReceipts params p → ∀ r ∈ (db.receipts.view t).rows,
      p r = true → mine .receipt r.id)
    (hexpenses : ∀ params p, s = .selectExpenses params p → ∀ e ∈ (db.expenses.view t).rows,
      p e = true → mine .expense e.id)
    (hbudgets : ∀ params p, s = .selectBudgets params p → ∀ b ∈ (db.budgets.view t).rows,
      p b = true → mine .budget b.id)
    (hconnections : ∀ params p, s = .selectConnections params p →
      ∀ c ∈ (db.connections.view t).rows, p c = true → mine .connection c.id)
    (hupsert : ∀ id userId googleEmail encrypted,
      s = .upsertConnection id userId googleEmail encrypted → mine .connection id ∧
        ∀ c ∈ (db.connections.view t).rows, c.userId = userId → mine .connection c.id) :
    Learned (.sql s) (.ok a) mine := by
  cases s with
  | selectReceipts params p =>
      simp only [Stmt.exec, Option.some.injEq, Prod.mk.injEq] at hx
      intro r hr
      rw [select_ok hx.1, List.mem_filter] at hr
      exact ⟨hr.2, hreceipts params p rfl r hr.1 hr.2⟩
  | selectExpenses params p =>
      simp only [Stmt.exec, Option.some.injEq, Prod.mk.injEq] at hx
      intro e he
      rw [select_ok hx.1, List.mem_filter] at he
      exact ⟨he.2, hexpenses params p rfl e he.1 he.2⟩
  | selectBudgets params p =>
      simp only [Stmt.exec, Option.some.injEq, Prod.mk.injEq] at hx
      intro b hb
      rw [select_ok hx.1, List.mem_filter] at hb
      exact ⟨hb.2, hbudgets params p rfl b hb.1 hb.2⟩
  | selectConnections params p =>
      simp only [Stmt.exec, Option.some.injEq, Prod.mk.injEq] at hx
      intro c hc
      rw [select_ok hx.1, List.mem_filter] at hc
      exact ⟨hc.2, hconnections params p rfl c hc.1 hc.2⟩
  | upsertConnection id userId' googleEmail encrypted =>
      obtain ⟨hnew, hold⟩ := hupsert id userId' googleEmail encrypted rfl
      simp only [Stmt.exec] at hx
      split at hx
      · split at hx
        · cases hx
        · split at hx
          · rename_i c hc
            split at hx
            · cases hx
            · cases hx
              have hfound := List.find?_some hc
              have hmine := hold c (List.mem_of_find?_eq_some hc)
                (userId_of_accountKey (of_decide_eq_true hfound))
              exact hmine
          · split at hx
            · obtain ⟨⟨x, st⟩, -, heq⟩ := Option.map_eq_some_iff.1 hx
              obtain ⟨u, -, rfl⟩ := Fallible.map_eq_ok.1 (congrArg Prod.fst heq)
              exact hnew
            · cases hx
      · cases hx
  | _ => trivial

/-- What the user's statements find is the user's. -/
theorem learned_sql (h : Apart userId others db) (hun : db.receipts.All (Unlinked userId others))
    {s : Stmt} {a : s.Res} {db' : Db Tx} (hs : Within userId (Free others) s)
    (hx : s.exec now t db = some (.ok a, db')) : Learned (.sql s) (.ok a) (Free others) := by
  refine learned_of_exec hx ?_ ?_ ?_ ?_ ?_
  · rintro params p rfl r hr hp
    have huser : r.userId = userId := by
      rcases hs r hp with huser | hfree
      · exact huser
      · exact of_decide_eq_true (h.receipts.own_of_mem hr hfree.1)
    exact ⟨h.receipts.unused_of_mem hr (decide_eq_true huser), hun.of_mem_view hr huser⟩
  · rintro params p rfl e he hp
    rcases hs e hp with huser | hfree | ⟨k, hlink, hfree⟩
    · exact h.expenses.unused_of_mem he (decide_eq_true huser)
    · exact hfree
    · exact h.expenses.unused_of_mem he (decide_eq_true (h.own_of_link he hlink hfree))
  · rintro params p rfl b hb hp
    rcases hs b hp with huser | hfree
    · exact h.budgets.unused_of_mem hb (decide_eq_true huser)
    · exact hfree
  · rintro params p rfl c hc hp
    rcases hs c hp with huser | hfree
    · exact h.connections.unused_of_mem hc (decide_eq_true huser)
    · exact hfree
  · rintro id userId' googleEmail encrypted rfl
    obtain ⟨rfl, hfree⟩ := hs
    exact ⟨hfree, fun c hc huser => h.connections.unused_of_mem hc (decide_eq_true huser)⟩

end statements

/-! ## One session in two worlds -/

section sessions

variable [DecidableEq Tx] {env : Env} {userId : UUID} {others : Others} {stop : ℕ} {w v : World Tx}
  {t : Tx}

/-- **The shared world and a world of the user's own**: `v` has the user's share of what `w`
has, and no identifier that is drawn before operation `stop` is one of the others'. -/
structure Isolated (env : Env) (userId : UUID) (others : Others) (stop : ℕ) (w v : World Tx) :
    Prop where
  db : v.db = only userId w.db
  calls : v.calls = w.calls
  failed : v.failed = w.failed
  apart : Apart userId others w.db
  unlinked : w.db.receipts.All (Unlinked userId others)
  fresh : ∀ n, w.calls ≤ n → n < stop → ∀ kind, Free others kind (env.uuid4 n)

theorem Apart.commit {db : Db Tx} (h : Apart userId others db) (t : Tx) :
    Apart userId others (db.commit t) :=
  ⟨h.users, h.receipts.commit t, h.expenses.commit t, h.budgets.commit t, h.corrections.commit t,
    h.connections.commit t⟩

theorem Apart.rollback {db : Db Tx} (h : Apart userId others db) (t : Tx) :
    Apart userId others (db.rollback t) :=
  ⟨h.users, h.receipts.rollback t, h.expenses.rollback t, h.budgets.rollback t, h.corrections.rollback t,
    h.connections.rollback t⟩

theorem Apart.only_commit {db : Db Tx} (h : Apart userId others db) (t : Tx) :
    only userId (db.commit t) = (only userId db).commit t := by
  simp only [only, Db.commit, h.receipts.only_commit, h.expenses.only_commit,
    h.budgets.only_commit, h.corrections.only_commit, h.connections.only_commit]

theorem Isolated.tick (h : Isolated env userId others stop w v) :
    Isolated env userId others stop w.tick v.tick :=
  ⟨h.db, congrArg (· + 1) h.calls, h.failed, h.apart, h.unlinked,
    fun n hn => h.fresh n (Nat.le_of_succ_le hn)⟩

/-- Another database in both worlds. -/
theorem Isolated.move (h : Isolated env userId others stop w v) {db : Db Tx}
    (hapart : Apart userId others db) (hun : db.receipts.All (Unlinked userId others)) :
    Isolated env userId others stop { w with db := db } { v with db := only userId db } :=
  ⟨rfl, h.calls, h.failed, hapart, hun, h.fresh⟩

theorem Isolated.commit (h : Isolated env userId others stop w v) (t : Tx) :
    Isolated env userId others stop { w with db := w.db.commit t } { v with db := v.db.commit t } := by
  rw [h.db, ← h.apart.only_commit]
  exact h.move (h.apart.commit t) (h.unlinked.commit t)

theorem Isolated.abort (h : Isolated env userId others stop w v) (t : Tx) :
    Isolated env userId others stop (w.abort t) (v.abort t) := by
  refine ⟨?_, h.calls, ?_, h.apart.rollback t, h.unlinked.rollback t, h.fresh⟩
  · show v.db.rollback t = _
    rw [h.db]
    rfl
  · show (fun i => if i = t then true else v.failed i) = _
    rw [h.failed]
    rfl

theorem Isolated.close (h : Isolated env userId others stop w v) (t : Tx) :
    Isolated env userId others stop (w.close t) (v.close t) := by
  refine ⟨?_, h.calls, ?_, h.apart.rollback t, h.unlinked.rollback t, h.fresh⟩
  · show v.db.rollback t = _
    rw [h.db]
    rfl
  · show (fun i => if i = t then false else v.failed i) = _
    rw [h.failed]
    rfl

/-- An effect outside the database strikes both worlds alike. -/
theorem Isolated.effect (h : Isolated env userId others stop w v) {w' v' : World Tx}
    (h' : Isolated env userId others stop w' v') (f : Fault) (e : PyExc) :
    ∃ r w₁ v₁, w.effect f e w' = (r, w₁) ∧ v.effect f e v' = (r, v₁) ∧
      Isolated env userId others stop w₁ v₁ := by
  cases f with
  | none => exact ⟨_, _, _, rfl, rfl, h'.tick⟩
  | before => exact ⟨_, _, _, rfl, rfl, h.tick⟩
  | after => exact ⟨_, _, _, rfl, rfl, h'.tick⟩

/-- **One operation**: both worlds answer the same, and stay alike. -/
theorem exec_isolated (h : Isolated env userId others stop w v) {o : Op}
    (ho : May userId (Free others) o) (hstop : ∀ x, exec env t o w = some x → w.calls < stop) :
    exec env t o w = none ∧ exec env t o v = none ∨
      ∃ r w' v', exec env t o w = some (r, w') ∧ exec env t o v = some (r, v') ∧
        Learned o r (Free others) ∧ Isolated env userId others stop w' v' := by
  obtain ⟨db, blobs, queue, calls, failed⟩ := v
  obtain rfl : db = only userId w.db := h.db
  obtain rfl : calls = w.calls := h.calls
  obtain rfl : failed = w.failed := h.failed
  cases o with
  | sql s =>
      simp only [exec]
      split
      · exact Or.inr ⟨_, _, _, rfl, rfl, learned_error _ _ _, h.tick⟩
      · split
        · exact Or.inr ⟨_, _, _, rfl, rfl, learned_error _ _ _, (h.abort t).tick⟩
        · rw [exec_only h.apart ho]
          cases hs : s.exec (env.clock w.calls) t w.db with
          | none => exact Or.inl ⟨rfl, rfl⟩
          | some x =>
              obtain ⟨r, db⟩ := x
              cases r with
              | error e =>
                  exact Or.inr ⟨_, _, _, rfl, rfl, learned_error _ _ _, (h.abort t).tick⟩
              | ok a =>
                  have hmoved := h.move (exec_apart h.apart ho hs)
                    (exec_unlinked ho hs h.unlinked)
                  exact Or.inr ⟨_, _, _, rfl, rfl, learned_sql h.apart h.unlinked ho hs,
                    hmoved.tick⟩
  | commit =>
      simp only [exec]
      split
      · exact Or.inr ⟨_, _, _, rfl, rfl, trivial, h.tick⟩
      · split
        · exact Or.inr ⟨_, _, _, rfl, rfl, trivial, (h.commit t).tick⟩
        · exact Or.inr ⟨_, _, _, rfl, rfl, trivial, (h.abort t).tick⟩
        · exact Or.inr ⟨_, _, _, rfl, rfl, trivial, ((h.commit t).abort t).tick⟩
  | rollback => exact Or.inr ⟨_, _, _, rfl, rfl, trivial, (h.close t).tick⟩
  | putObject key body mime =>
      have h' : Isolated env userId others stop { w with blobs := (key, body) :: w.blobs }
        ⟨only userId w.db, (key, body) :: blobs, queue, w.calls, w.failed⟩ :=
        ⟨h.db, h.calls, h.failed, h.apart, h.unlinked, h.fresh⟩
      obtain ⟨r, w₁, v₁, hw, hv, hrel⟩ := h.effect h' (env.fault w.calls) .storageError
      exact Or.inr ⟨r, w₁, v₁, congrArg some hw, congrArg some hv, trivial, hrel⟩
  | deleteObject key =>
      have h' : Isolated env userId others stop
        { w with blobs := w.blobs.filter (fun b => b.1 ≠ key) }
        ⟨only userId w.db, blobs.filter (fun b => b.1 ≠ key), queue, w.calls, w.failed⟩ :=
        ⟨h.db, h.calls, h.failed, h.apart, h.unlinked, h.fresh⟩
      obtain ⟨r, w₁, v₁, hw, hv, hrel⟩ := h.effect h' (env.fault w.calls) .storageError
      exact Or.inr ⟨r, w₁, v₁, congrArg some hw, congrArg some hv, trivial, hrel⟩
  | delay task =>
      have h' : Isolated env userId others stop { w with queue := w.queue ++ [task] }
        ⟨only userId w.db, blobs, queue ++ [task], w.calls, w.failed⟩ :=
        ⟨h.db, h.calls, h.failed, h.apart, h.unlinked, h.fresh⟩
      obtain ⟨r, w₁, v₁, hw, hv, hrel⟩ := h.effect h' (env.fault w.calls) .brokerError
      exact Or.inr ⟨r, w₁, v₁, congrArg some hw, congrArg some hv, trivial, hrel⟩
  | getObject key => exact absurd ho not_false
  | uuid4 =>
      exact Or.inr ⟨_, _, _, rfl, rfl, fun kind => h.fresh w.calls le_rfl (hstop _ rfl) kind, h.tick⟩
  | today | utcnow | ext x => exact Or.inr ⟨_, _, _, rfl, rfl, trivial, h.tick⟩

end sessions

end Tenancy

end SpendLens
