/-
# What one operation can do

Inversion lemmas for `exec`: how an answered operation changed the world, and what
an answered statement did to a table.  Invariants are derived from these and never
from the definition of `exec`.
-/
import SpendLens.Statement

namespace SpendLens

variable {Tx : Type} [DecidableEq Tx] {env : Env} {t : Tx} {w w' : World Tx}

/-! ## Statements and transaction control -/

/-- A statement fails and leaves at most its transaction rolled back, or takes effect. -/
theorem exec_sql_cases {s : Stmt} {r : Except PyExc s.Res}
    (h : exec env t (.sql s) w = some (r, w')) :
    (w.failed t = true ∧ r = .error .pendingRollback ∧ w' = w.tick) ∨
      (w.failed t = false ∧ (∃ e, r = .error e) ∧ w' = (w.abort t).tick) ∨
      ∃ a db, w.failed t = false ∧ r = .ok a ∧
        s.exec (env.clock w.calls) t w.db = some (.ok a, db) ∧ w' = { w with db := db }.tick := by
  simp only [exec] at h
  split at h
  · rename_i hf
    cases h
    exact Or.inl ⟨hf, rfl, rfl⟩
  · rename_i hf
    rw [Bool.not_eq_true] at hf
    split at h
    · cases h
      exact Or.inr (Or.inl ⟨hf, ⟨_, rfl⟩, rfl⟩)
    · split at h
      · cases h
      · cases h
        exact Or.inr (Or.inl ⟨hf, ⟨_, rfl⟩, rfl⟩)
      · rename_i a db hs
        cases h
        exact Or.inr (Or.inr ⟨a, db, hf, rfl, hs, rfl⟩)

/-- A commit fails, before or after it took effect, or publishes. -/
theorem exec_commit_cases {r : Except PyExc Unit}
    (h : exec env t .commit w = some (r, w')) :
    (w.failed t = true ∧ r = .error .pendingRollback ∧ w' = w.tick) ∨
      (w.failed t = false ∧ r = .ok () ∧ w' = { w with db := w.db.commit t }.tick) ∨
      (w.failed t = false ∧ r = .error .dbapiError ∧ w' = (w.abort t).tick) ∨
      (w.failed t = false ∧ r = .error .dbapiError ∧
        w' = ({ w with db := w.db.commit t }.abort t).tick) := by
  simp only [exec] at h
  split at h
  · rename_i hf
    cases h
    exact Or.inl ⟨hf, rfl, rfl⟩
  · rename_i hf
    rw [Bool.not_eq_true] at hf
    split at h
    · cases h
      exact Or.inr (Or.inl ⟨hf, rfl, rfl⟩)
    · cases h
      exact Or.inr (Or.inr (Or.inl ⟨hf, rfl, rfl⟩))
    · cases h
      exact Or.inr (Or.inr (Or.inr ⟨hf, rfl, rfl⟩))

/-- A commit that does not commit when it raises publishes, or leaves its transaction
rolled back. -/
theorem exec_commit_sound {r : Except PyExc Unit} (hf : env.fault w.calls ≠ .after)
    (h : exec env t .commit w = some (r, w')) :
    (w.failed t = true ∧ r = .error .pendingRollback ∧ w' = w.tick) ∨
      (w.failed t = false ∧ r = .ok () ∧ w' = { w with db := w.db.commit t }.tick) ∨
      (w.failed t = false ∧ r = .error .dbapiError ∧ w' = (w.abort t).tick) := by
  simp only [exec] at h
  split at h
  · rename_i hfailed
    cases h
    exact Or.inl ⟨hfailed, rfl, rfl⟩
  · rename_i hfailed
    rw [Bool.not_eq_true] at hfailed
    split at h
    · cases h
      exact Or.inr (Or.inl ⟨hfailed, rfl, rfl⟩)
    · cases h
      exact Or.inr (Or.inr ⟨hfailed, rfl, rfl⟩)
    · rename_i hafter
      exact absurd hafter hf

/-- What is kept by commits and rollbacks of the session, and by its statements that
take effect, is kept by every operation. -/
theorem exec_db {I : Db Tx → Prop} (hcommit : ∀ db, I db → I (db.commit t))
    (hrollback : ∀ db, I db → I (db.rollback t)) {o : Op} {r : Except PyExc o.Res}
    (h : exec env t o w = some (r, w'))
    (hstmt : ∀ (s : Stmt) (a : s.Res) (db : Db Tx), o = .sql s →
      s.exec (env.clock w.calls) t w.db = some (.ok a, db) → I db)
    (hI : I w.db) : I w'.db := by
  have heffect : ∀ {f : Fault} {e : PyExc} {v : World Tx} {r : Except PyExc Unit},
      w.effect f e v = (r, w') → v.db = w.db → I w'.db := by
    intro f e v r he hv
    have hdb : w'.db = w.db := by
      cases f <;> cases he <;> first | exact hv | rfl
    rw [hdb]
    exact hI
  cases o with
  | sql s =>
      rcases exec_sql_cases h with ⟨-, -, rfl⟩ | ⟨-, -, rfl⟩ | ⟨a, db, -, -, hs, rfl⟩
      · exact hI
      · exact hrollback _ hI
      · exact hstmt s a db rfl hs
  | commit =>
      rcases exec_commit_cases h with ⟨-, -, rfl⟩ | ⟨-, -, rfl⟩ | ⟨-, -, rfl⟩ | ⟨-, -, rfl⟩
      · exact hI
      · exact hcommit _ hI
      · exact hrollback _ hI
      · exact hrollback _ (hcommit _ hI)
  | rollback =>
      cases h
      exact hrollback _ hI
  | putObject key body mime => exact heffect (Option.some.inj h) rfl
  | deleteObject key => exact heffect (Option.some.inj h) rfl
  | delay task => exact heffect (Option.some.inj h) rfl
  | getObject key =>
      simp only [exec] at h
      split at h <;> cases h <;> exact hI
  | uuid4 => cases h; exact hI
  | today => cases h; exact hI
  | utcnow => cases h; exact hI
  | ext x => cases h; exact hI

/-- An operation outside the database leaves it, and the sessions, as they are. -/
theorem exec_outside {o : Op} {r : Except PyExc o.Res} (h : exec env t o w = some (r, w'))
    (hsql : ∀ s, o ≠ .sql s) (hcommit : o ≠ .commit) (hrollback : o ≠ .rollback) :
    w'.db = w.db ∧ w'.failed = w.failed := by
  cases o with
  | sql s => exact absurd rfl (hsql s)
  | commit => exact absurd rfl hcommit
  | rollback => exact absurd rfl hrollback
  | putObject key body mime | deleteObject key | delay task =>
      cases hf : env.fault w.calls <;> simp only [exec, hf, World.effect] at h <;> cases h <;>
        exact ⟨rfl, rfl⟩
  | getObject key =>
      simp only [exec] at h
      split at h <;> cases h <;> exact ⟨rfl, rfl⟩
  | uuid4 | today | utcnow | ext x => cases h; exact ⟨rfl, rfl⟩

/-- Every answered operation is counted. -/
theorem exec_calls {o : Op} {r : Except PyExc o.Res} (h : exec env t o w = some (r, w')) :
    w'.calls = w.calls + 1 := by
  have heffect : ∀ {f : Fault} {e : PyExc} {v : World Tx} {r : Except PyExc Unit},
      w.effect f e v = (r, w') → v.calls = w.calls → w'.calls = w.calls + 1 := by
    intro f e v r he hv
    cases f <;> cases he <;> first | exact congrArg (· + 1) hv | rfl
  cases o with
  | sql s =>
      rcases exec_sql_cases h with ⟨-, -, rfl⟩ | ⟨-, -, rfl⟩ | ⟨a, db, -, -, -, rfl⟩ <;> rfl
  | commit =>
      rcases exec_commit_cases h with ⟨-, -, rfl⟩ | ⟨-, -, rfl⟩ | ⟨-, -, rfl⟩ | ⟨-, -, rfl⟩ <;> rfl
  | putObject key body mime => exact heffect (Option.some.inj h) rfl
  | deleteObject key => exact heffect (Option.some.inj h) rfl
  | delay task => exact heffect (Option.some.inj h) rfl
  | getObject key =>
      simp only [exec] at h
      split at h <;> cases h <;> rfl
  | rollback | uuid4 | today | utcnow | ext x => cases h; rfl

/-- One action answers at most one operation. -/
theorem act_calls_le {α : Type} (c : Config Tx Op.Res PyExc α (World Tx))
    (a : Machine.Action Tx Empty) :
    ((backend env).act c a).shared.calls ≤ c.shared.calls + 1 := by
  cases a with
  | step i =>
      cases hp : c.threads i with
      | ret a =>
          rw [Machine.act_step_ret hp]
          exact Nat.le_succ _
      | raise e =>
          rw [Machine.act_step_raise hp]
          exact Nat.le_succ _
      | call o k =>
          cases hx : (backend env).exec i o c.shared with
          | none =>
              rw [Machine.act_step_blocked hp hx]
              exact Nat.le_succ _
          | some rs =>
              obtain ⟨r, s⟩ := rs
              rw [Machine.act_step_call hp hx]
              exact le_of_eq (exec_calls hx)
  | kill i => exact Nat.le_succ _
  | event e => exact e.elim

/-- A condition on operations that holds up to operation `n` holds along every run that
answers no more. -/
theorem along_of_calls_lt {α : Type} {Ok : Tx → (o : Op) → World Tx → Prop} {mortal : Prop} {n : ℕ}
    (hok : ∀ i o w, w.calls < n → Ok i o w)
    {c : Config Tx Op.Res PyExc α (World Tx)} {as : List (Machine.Action Tx Empty)}
    (hm : ∀ i, .kill i ∈ as → mortal) (hn : c.shared.calls + as.length ≤ n) :
    (backend env).Along (Machine.OpOk Ok mortal) c as := by
  induction as generalizing c with
  | nil => trivial
  | cons a as ih =>
      rw [List.length_cons] at hn
      refine ⟨?_, ih (fun i hi => hm i (List.mem_cons_of_mem _ hi))
        (le_trans (Nat.add_le_add_right (act_calls_le c a) _) (by omega))⟩
      cases a with
      | step i => exact fun o k _ => hok i o c.shared (by omega)
      | kill i => exact hm i List.mem_cons_self
      | event e => exact e.elim

/-! ## Tables -/

section tables

variable {V K X : Type} {key : V → K} [DecidableEq K] [DecidableEq X] {s s' : Store Tx V K key}

/-- The rows a `SELECT` answers with. -/
theorem select_ok {params : List Param} {p : V → Bool} {rows : List V}
    (h : select s t params p = .ok rows) : rows = (s.view t).rows.filter p := by
  unfold select at h
  split at h
  · cases h
    rfl
  · cases h

/-- An `INSERT` that takes effect has found its key and its index entry free. -/
theorem insert_ok {f : V → Option X} {v : V} {a : Unit}
    (h : insert s t f v = some (.ok a, s')) :
    s.locked t (key v) = false ∧ (s.view t).get (key v) = none ∧
      (∀ x, f v = some x → s.contended t f x = false ∧ s.duplicate t f x = false) ∧
      s' = s.stage t (.put v) := by
  unfold insert at h
  split at h
  · cases h
  · rename_i hwait
    split at h
    · cases h
    · rename_i hdup
      cases h
      simp only [Bool.or_eq_true, not_or, Bool.not_eq_true, Option.isSome_eq_false_iff,
        Option.isNone_iff_eq_none] at hwait hdup
      refine ⟨hwait.1, hdup.1, fun x hx => ?_, rfl⟩
      rw [hx, Option.any_some] at hwait hdup
      exact ⟨hwait.2, hdup.2⟩

/-- An ORM `UPDATE` that takes effect has found its row and its lock free. -/
theorem update_ok {k : K} {store : V → Except PyExc V} {a : Unit}
    (h : update s t k store = some (.ok a, s')) :
    ∃ v v', (s.view t).get k = some v ∧ s.locked t k = false ∧ store v = .ok v' ∧
      s' = s.stage t (.put v') := by
  unfold update at h
  split at h
  · cases h
  · rename_i v hv
    split at h
    · cases h
    · rename_i hlock
      rw [Bool.not_eq_true] at hlock
      split at h
      · cases h
      · rename_i v' hstore
        cases h
        exact ⟨v, v', hv, hlock, hstore, rfl⟩

/-- A `DELETE` removes nothing or an unlocked row. -/
theorem delete_ok {k : K} {a : Unit} (h : delete s t k = some (.ok a, s')) :
    ((s.view t).get k = none ∧ s' = s) ∨
      ∃ v, (s.view t).get k = some v ∧ s.locked t k = false ∧ s' = s.stage t (.del k) := by
  unfold delete at h
  split at h
  · rename_i hv
    cases h
    exact Or.inl ⟨hv, rfl⟩
  · rename_i v hv
    split at h
    · cases h
    · rename_i hlock
      rw [Bool.not_eq_true] at hlock
      cases h
      exact Or.inr ⟨v, hv, hlock, rfl⟩

end tables

/-! ## Which statements write which table -/

namespace Stmt

def writesReceipts : Stmt → Bool
  | insertReceipt _ | updateReceipt _ _ | deleteReceipt _ => true
  | _ => false

def writesExpenses : Stmt → Bool
  | insertExpense _ | updateExpense _ _ | deleteExpense _ | deleteReceipt _ => true
  | _ => false

def writesBudgets : Stmt → Bool
  | insertBudget _ | updateBudget _ _ | deleteBudget _ => true
  | _ => false

def writesCorrections : Stmt → Bool
  | upsertCorrection _ _ _ => true
  | _ => false

def writesConnections : Stmt → Bool
  | upsertConnection _ _ _ _ | updateConnection _ _ | deleteConnection _ => true
  | _ => false

/-- The tables a statement does not write are left as they were. -/
structure Frame (s : Stmt) (db db' : Db Tx) : Prop where
  users : db'.users = db.users
  receipts : s.writesReceipts = false → db'.receipts = db.receipts
  expenses : s.writesExpenses = false → db'.expenses = db.expenses
  budgets : s.writesBudgets = false → db'.budgets = db.budgets
  corrections : s.writesCorrections = false → db'.corrections = db.corrections
  connections : s.writesConnections = false → db'.connections = db.connections

omit [DecidableEq Tx] in
theorem Frame.refl (s : Stmt) (db : Db Tx) : s.Frame db db :=
  ⟨rfl, fun _ => rfl, fun _ => rfl, fun _ => rfl, fun _ => rfl, fun _ => rfl⟩

theorem exec_frame {now : Timestamp} {db db' : Db Tx} {s : Stmt} {r : Except PyExc s.Res}
    (h : s.exec now t db = some (r, db')) : s.Frame db db' := by
  -- the new database behind a mapped table operation
  have hmap : ∀ {α β : Type} {x : Option α} {f : α → β} {g : α → Db Tx} {y : β × Db Tx},
      x.map (fun a => (f a, g a)) = some y → ∃ a, y.2 = g a := by
    intro α β x f g y hx
    obtain ⟨a, -, rfl⟩ := Option.map_eq_some_iff.1 hx
    exact ⟨a, rfl⟩
  cases s with
  | selectUsers params p | selectReceipts params p | selectExpenses params p
  | selectBudgets params p | selectCorrections params p | selectConnections params p =>
      obtain ⟨-, rfl⟩ := Prod.mk.inj (Option.some.inj h)
      exact Frame.refl _ _
  | updateReceipt id cols | updateExpense id cols | deleteExpense id | deleteBudget id
  | updateConnection id lastHistoryId | deleteConnection id =>
      obtain ⟨x, rfl⟩ := hmap h
      refine ⟨rfl, ?_, ?_, ?_, ?_, ?_⟩ <;> intro hw <;> first | rfl | cases hw
  | insertReceipt r' =>
      simp only [exec] at h
      split at h
      · obtain ⟨x, rfl⟩ := hmap h
        refine ⟨rfl, ?_, ?_, ?_, ?_, ?_⟩ <;> intro hw <;> first | rfl | cases hw
      · obtain ⟨-, rfl⟩ := Prod.mk.inj (Option.some.inj h)
        exact Frame.refl _ _
  | deleteReceipt id =>
      simp only [exec] at h
      split at h
      · obtain ⟨-, rfl⟩ := Prod.mk.inj (Option.some.inj h)
        exact Frame.refl _ _
      · split at h
        · cases h
        · obtain ⟨-, rfl⟩ := Prod.mk.inj (Option.some.inj h)
          refine ⟨rfl, ?_, ?_, ?_, ?_, ?_⟩ <;> intro hw <;> first | rfl | cases hw
  | insertExpense e =>
      simp only [exec] at h
      split at h
      · obtain ⟨-, rfl⟩ := Prod.mk.inj (Option.some.inj h)
        exact Frame.refl _ _
      · split at h
        · obtain ⟨x, rfl⟩ := hmap h
          refine ⟨rfl, ?_, ?_, ?_, ?_, ?_⟩ <;> intro hw <;> first | rfl | cases hw
        · obtain ⟨-, rfl⟩ := Prod.mk.inj (Option.some.inj h)
          exact Frame.refl _ _
  | insertBudget b =>
      simp only [exec] at h
      split at h
      · obtain ⟨x, rfl⟩ := hmap h
        refine ⟨rfl, ?_, ?_, ?_, ?_, ?_⟩ <;> intro hw <;> first | rfl | cases hw
      · obtain ⟨-, rfl⟩ := Prod.mk.inj (Option.some.inj h)
        exact Frame.refl _ _
  | updateBudget id cols =>
      simp only [exec] at h
      split at h
      · obtain ⟨-, rfl⟩ := Prod.mk.inj (Option.some.inj h)
        exact Frame.refl _ _
      · split at h
        · obtain ⟨-, rfl⟩ := Prod.mk.inj (Option.some.inj h)
          exact Frame.refl _ _
        · split at h
          · cases h
          · split at h
            · obtain ⟨-, rfl⟩ := Prod.mk.inj (Option.some.inj h)
              exact Frame.refl _ _
            · obtain ⟨-, rfl⟩ := Prod.mk.inj (Option.some.inj h)
              refine ⟨rfl, ?_, ?_, ?_, ?_, ?_⟩ <;> intro hw <;> first | rfl | cases hw
  | upsertCorrection userId merchant category =>
      simp only [exec] at h
      split at h
      · split at h
        · cases h
        · obtain ⟨-, rfl⟩ := Prod.mk.inj (Option.some.inj h)
          refine ⟨rfl, ?_, ?_, ?_, ?_, ?_⟩ <;> intro hw <;> first | rfl | cases hw
      · obtain ⟨-, rfl⟩ := Prod.mk.inj (Option.some.inj h)
        exact Frame.refl _ _
  | upsertConnection id userId googleEmail encrypted =>
      simp only [exec] at h
      split at h
      · split at h
        · cases h
        · split at h
          · split at h
            · cases h
            · obtain ⟨-, rfl⟩ := Prod.mk.inj (Option.some.inj h)
              refine ⟨rfl, ?_, ?_, ?_, ?_, ?_⟩ <;> intro hw <;> first | rfl | cases hw
          · split at h
            · obtain ⟨x, rfl⟩ := hmap h
              refine ⟨rfl, ?_, ?_, ?_, ?_, ?_⟩ <;> intro hw <;> first | rfl | cases hw
            · obtain ⟨-, rfl⟩ := Prod.mk.inj (Option.some.inj h)
              exact Frame.refl _ _
      · obtain ⟨-, rfl⟩ := Prod.mk.inj (Option.some.inj h)
        exact Frame.refl _ _

end Stmt

/-! ## The expenses table -/

/-- The ways a statement writes the expenses table. -/
inductive ExpenseWrite (now : Timestamp) (t : Tx) (db : Db Tx) :
    Stmt → Store Tx Expense UUID Expense.id → Prop where
  | insert (e : NewExpense) (row : Expense) (hrow : e.store now = .ok row)
      (hlock : db.expenses.locked t row.id = false)
      (hnew : (db.expenses.view t).get row.id = none)
      (hfree : ∀ x, row.receiptId = some x → db.expenses.contended t Expense.receiptId x = false ∧
        db.expenses.duplicate t Expense.receiptId x = false) :
      ExpenseWrite now t db (.insertExpense e) (db.expenses.stage t (.put row))
  | update (id : UUID) (cols : List ExpenseColumn) (v v' : Expense)
      (hget : (db.expenses.view t).get id = some v) (hlock : db.expenses.locked t id = false)
      (hstore : storeAll ExpenseColumn.store v cols = .ok v') :
      ExpenseWrite now t db (.updateExpense id cols)
        (db.expenses.stage t (.put { v' with id := v.id, updatedAt := now }))
  | delete (id : UUID) (v : Expense) (hget : (db.expenses.view t).get id = some v)
      (hlock : db.expenses.locked t id = false) :
      ExpenseWrite now t db (.deleteExpense id) (db.expenses.stage t (.del id))
  | unlink (id : UUID) (linked : List Expense)
      (hlinked : linked = (db.expenses.view t).rows.filter (fun e => e.receiptId = some id))
      (hlock : ∀ e ∈ linked, db.expenses.locked t e.id = false) :
      ExpenseWrite now t db (.deleteReceipt id)
        (db.expenses.stageAll t (linked.map (fun e => .put { e with receiptId := none })))

/-- A stored expense keeps its key, its link and its category. -/
theorem NewExpense.store_ok {e : NewExpense} {now : Timestamp} {row : Expense}
    (h : e.store now = .ok row) :
    row.id = e.id ∧ row.receiptId = e.receiptId ∧ row.category = e.category := by
  unfold NewExpense.store at h
  cases hm : storeText 255 (some e.merchantName) with
  | error _ => rw [hm] at h; cases h
  | ok m =>
      cases ha : storeAmount (some e.amount) with
      | error _ => rw [hm, ha] at h; cases h
      | ok a =>
          cases hc : storeText 3 (some e.currency) with
          | error _ => rw [hm, ha, hc] at h; cases h
          | ok c =>
              cases hd : storeOptText 1024 e.description with
              | error _ => rw [hm, ha, hc, hd] at h; cases h
              | ok d =>
                  rw [hm, ha, hc, hd] at h
                  cases h
                  exact ⟨rfl, rfl, rfl⟩

/-- A statement that takes effect leaves the expenses table or writes it. -/
theorem Stmt.exec_expenses {now : Timestamp} {db db' : Db Tx} {s : Stmt} {a : s.Res}
    (h : s.exec now t db = some (.ok a, db')) :
    db'.expenses = db.expenses ∨ ExpenseWrite now t db s db'.expenses := by
  by_cases hw : s.writesExpenses = true
  · cases s with
    | insertExpense e =>
        simp only [Stmt.exec] at h
        split at h
        · cases h
        · rename_i row hrow
          split at h
          · rw [Option.map_eq_some_iff] at h
            obtain ⟨⟨r, st⟩, hins, heq⟩ := h
            cases heq
            obtain ⟨hlock, hnew, hfree, rfl⟩ := insert_ok hins
            exact Or.inr (.insert e row hrow hlock hnew hfree)
          · cases h
    | updateExpense id cols =>
        obtain ⟨⟨r, st⟩, hupd, heq⟩ := Option.map_eq_some_iff.1 h
        cases heq
        obtain ⟨v, v', hget, hlock, hstore, rfl⟩ := update_ok hupd
        cases hs : storeAll ExpenseColumn.store v cols with
        | error e =>
            rw [hs] at hstore
            cases hstore
        | ok u =>
            rw [hs] at hstore
            cases hstore
            exact Or.inr (.update id cols v u hget hlock hs)
    | deleteExpense id =>
        obtain ⟨⟨r, st⟩, hdel, heq⟩ := Option.map_eq_some_iff.1 h
        cases heq
        rcases delete_ok hdel with ⟨-, rfl⟩ | ⟨v, hget, hlock, rfl⟩
        · exact Or.inl rfl
        · exact Or.inr (.delete id v hget hlock)
    | deleteReceipt id =>
        simp only [Stmt.exec] at h
        split at h
        · cases h
          exact Or.inl rfl
        · split at h
          · cases h
          · rename_i hlock
            cases h
            rw [Bool.or_eq_true, not_or, List.any_eq_true, not_exists] at hlock
            refine Or.inr (.unlink id _ rfl fun e he => ?_)
            have := hlock.2 e
            rw [not_and, Bool.not_eq_true] at this
            exact this he
    | _ => cases hw
  · exact Or.inl ((Stmt.exec_frame h).expenses (Bool.not_eq_true _ ▸ hw))

/-! ## The receipts table -/

/-- The ways a statement writes the receipts table. -/
inductive ReceiptWrite (now : Timestamp) (t : Tx) (db : Db Tx) :
    Stmt → Store Tx Receipt UUID Receipt.id → Prop where
  | insert (r : Receipt) (hlock : db.receipts.locked t r.id = false)
      (hnew : (db.receipts.view t).get r.id = none)
      (hfree : ∀ x, r.messageKey = some x →
        db.receipts.contended t Receipt.messageKey x = false ∧
          db.receipts.duplicate t Receipt.messageKey x = false) :
      ReceiptWrite now t db (.insertReceipt r) (db.receipts.stage t (.put (r.stamp now)))
  | update (id : UUID) (cols : List ReceiptColumn) (v v' : Receipt)
      (hget : (db.receipts.view t).get id = some v) (hlock : db.receipts.locked t id = false)
      (hstore : storeAll ReceiptColumn.store v cols = .ok v') :
      ReceiptWrite now t db (.updateReceipt id cols)
        (db.receipts.stage t (.put { v' with id := v.id, updatedAt := now }))
  | delete (id : UUID) (v : Receipt) (hget : (db.receipts.view t).get id = some v)
      (hlock : db.receipts.locked t id = false) :
      ReceiptWrite now t db (.deleteReceipt id) (db.receipts.stage t (.del id))

/-- A statement that takes effect leaves the receipts table or writes it. -/
theorem Stmt.exec_receipts {now : Timestamp} {db db' : Db Tx} {s : Stmt} {a : s.Res}
    (h : s.exec now t db = some (.ok a, db')) :
    db'.receipts = db.receipts ∨ ReceiptWrite now t db s db'.receipts := by
  by_cases hw : s.writesReceipts = true
  · cases s with
    | insertReceipt r =>
        simp only [Stmt.exec] at h
        split at h
        · obtain ⟨⟨x, st⟩, hins, heq⟩ := Option.map_eq_some_iff.1 h
          cases heq
          obtain ⟨hlock, hnew, hfree, rfl⟩ := insert_ok hins
          exact Or.inr (.insert r hlock hnew hfree)
        · cases h
    | updateReceipt id cols =>
        obtain ⟨⟨r, st⟩, hupd, heq⟩ := Option.map_eq_some_iff.1 h
        cases heq
        obtain ⟨v, v', hget, hlock, hstore, rfl⟩ := update_ok hupd
        cases hs : storeAll ReceiptColumn.store v cols with
        | error e =>
            rw [hs] at hstore
            cases hstore
        | ok u =>
            rw [hs] at hstore
            cases hstore
            exact Or.inr (.update id cols v u hget hlock hs)
    | deleteReceipt id =>
        simp only [Stmt.exec] at h
        split at h
        · cases h
          exact Or.inl rfl
        · rename_i v hget
          split at h
          · cases h
          · rename_i hlock
            cases h
            rw [Bool.or_eq_true, not_or, Bool.not_eq_true] at hlock
            exact Or.inr (.delete id v hget hlock.1)
    | _ => cases hw
  · exact Or.inl ((Stmt.exec_frame h).receipts (Bool.not_eq_true _ ▸ hw))

/-- An update that takes effect has staged the row. -/
theorem Stmt.exec_updateReceipt {now : Timestamp} {db db' : Db Tx} {id : UUID}
    {cols : List ReceiptColumn} {a : Unit}
    (h : (Stmt.updateReceipt id cols).exec now t db = some (.ok a, db')) :
    ∃ v, db'.receipts.staged t id = some (some v) := by
  obtain ⟨⟨r, st⟩, hupd, heq⟩ := Option.map_eq_some_iff.1 h
  cases heq
  obtain ⟨v, v', hget, -, hstore, rfl⟩ := update_ok hupd
  cases hs : storeAll ReceiptColumn.store v cols with
  | error e =>
      rw [hs] at hstore
      cases hstore
  | ok u =>
      rw [hs] at hstore
      cases hstore
      have hid : v.id = id := Table.key_of_get hget
      exact ⟨_, (Store.staged_stage _ _ _ _ _).trans (if_pos ⟨rfl, hid⟩)⟩

/-- What every single assignment preserves, several preserve. -/
theorem storeAll_preserves {Row Column : Type} {store : Row → Column → Except PyExc Row}
    {P : Row → Prop} {cols : List Column}
    (hP : ∀ c ∈ cols, ∀ r r', P r → store r c = .ok r' → P r') {r r' : Row}
    (h : storeAll store r cols = .ok r') (hr : P r) : P r' := by
  induction cols generalizing r with
  | nil =>
      cases h
      exact hr
  | cons c cols ih =>
      rw [storeAll] at h
      split at h
      · cases h
      · rename_i r₁ hr₁
        have hr₁ : P r₁ := hP c List.mem_cons_self r r₁ hr hr₁
        exact ih (fun c' hc' => hP c' (List.mem_cons_of_mem _ hc')) h hr₁

/-- What no single assignment touches, several do not touch either. -/
theorem storeAll_keeps {Row Column β : Type} {store : Row → Column → Except PyExc Row} (f : Row → β)
    (hf : ∀ {r r' c}, store r c = .ok r' → f r' = f r) {r r' : Row} {cols : List Column}
    (h : storeAll store r cols = .ok r') : f r' = f r :=
  storeAll_preserves (P := fun u => f u = f r) (fun _ _ _ _ hu hc => (hf hc).trans hu) h rfl

/-- A written receipt keeps its key, and its owner. -/
theorem storeAll_receipt {r r' : Receipt} {cols : List ReceiptColumn}
    (h : storeAll ReceiptColumn.store r cols = .ok r') :
    r'.id = r.id ∧ r'.messageKey = r.messageKey ∧ r'.userId = r.userId := by
  have hkeeps := storeAll_keeps (fun r : Receipt => (r.id, r.messageKey, r.userId))
    (fun {r r' c} hc => by
      cases c <;> simp only [ReceiptColumn.store] at hc <;> (try split at hc) <;> cases hc <;> rfl) h
  simpa only [Prod.mk.injEq] using hkeeps

/-! ## The connections table -/

/-- The ways a statement writes the connections table. -/
inductive ConnectionWrite (now : Timestamp) (t : Tx) (db : Db Tx) :
    Stmt → Store Tx GmailConnection UUID GmailConnection.id → Prop where
  | insert (id userId : UUID) (googleEmail encrypted : String)
      (hlock : db.connections.locked t id = false)
      (hnew : (db.connections.view t).get id = none) :
      ConnectionWrite now t db (.upsertConnection id userId googleEmail encrypted)
        (db.connections.stage t (.put ⟨id, userId, googleEmail, encrypted, none, now, now⟩))
  | renew (id userId : UUID) (googleEmail encrypted : String) (c : GmailConnection)
      (hkey : c.userId = userId ∧ c.googleEmail = googleEmail)
      (hget : (db.connections.view t).get c.id = some c)
      (hlock : db.connections.locked t c.id = false) :
      ConnectionWrite now t db (.upsertConnection id userId googleEmail encrypted)
        (db.connections.stage t (.put { c with encryptedRefreshToken := encrypted }))
  | update (id : UUID) (lastHistoryId : String) (c : GmailConnection)
      (hget : (db.connections.view t).get id = some c)
      (hlock : db.connections.locked t id = false) :
      ConnectionWrite now t db (.updateConnection id lastHistoryId)
        (db.connections.stage t
          (.put { c with lastHistoryId := some lastHistoryId, updatedAt := now }))
  | delete (id : UUID) (c : GmailConnection) (hget : (db.connections.view t).get id = some c)
      (hlock : db.connections.locked t id = false) :
      ConnectionWrite now t db (.deleteConnection id) (db.connections.stage t (.del id))

/-- A stored text is the text. -/
theorem storeText_ok {n : ℕ} {a b : String} (h : storeText n (some a) = .ok b) : b = a := by
  unfold storeText at h
  split at h
  · cases h
  · rename_i s hs
    cases hs
    split at h
    · cases h
      rfl
    · cases h

/-- A statement that takes effect leaves the connections table or writes it. -/
theorem Stmt.exec_connections {now : Timestamp} {db db' : Db Tx} {s : Stmt} {a : s.Res}
    (h : s.exec now t db = some (.ok a, db')) :
    db'.connections = db.connections ∨ ConnectionWrite now t db s db'.connections := by
  by_cases hw : s.writesConnections = true
  · cases s with
    | upsertConnection id userId googleEmail encrypted =>
        simp only [Stmt.exec] at h
        split at h
        · split at h
          · cases h
          · split at h
            · rename_i c hfind
              split at h
              · cases h
              · rename_i hlock
                cases h
                rw [Bool.not_eq_true] at hlock
                have hget := Table.get_of_mem (List.mem_of_find?_eq_some hfind)
                have hkey := List.find?_some hfind
                simp only [GmailConnection.accountKey, Option.some.injEq, Prod.mk.injEq,
                  decide_eq_true_eq] at hkey
                exact Or.inr (.renew id userId googleEmail encrypted c hkey hget hlock)
            · split at h
              · obtain ⟨⟨r, st⟩, hins, heq⟩ := Option.map_eq_some_iff.1 h
                cases r with
                | error e => cases heq
                | ok x =>
                    cases heq
                    obtain ⟨hlock, hnew, -, rfl⟩ := insert_ok hins
                    exact Or.inr (.insert id userId googleEmail encrypted hlock hnew)
              · cases h
        · cases h
    | updateConnection id lastHistoryId =>
        obtain ⟨⟨r, st⟩, hupd, heq⟩ := Option.map_eq_some_iff.1 h
        cases heq
        obtain ⟨c, c', hget, hlock, hstore, rfl⟩ := update_ok hupd
        cases hs : storeText 64 (some lastHistoryId) with
        | error e =>
            rw [hs] at hstore
            cases hstore
        | ok u =>
            rw [hs] at hstore
            cases hstore
            rw [storeText_ok hs]
            exact Or.inr (.update id lastHistoryId c hget hlock)
    | deleteConnection id =>
        obtain ⟨⟨r, st⟩, hdel, heq⟩ := Option.map_eq_some_iff.1 h
        cases heq
        rcases delete_ok hdel with ⟨-, rfl⟩ | ⟨c, hget, hlock, rfl⟩
        · exact Or.inl rfl
        · exact Or.inr (.delete id c hget hlock)
    | _ => cases hw
  · exact Or.inl ((Stmt.exec_frame h).connections (Bool.not_eq_true _ ▸ hw))

/-! ## The budgets table -/

/-- The ways a statement writes the budgets table. -/
inductive BudgetWrite (now : Timestamp) (t : Tx) (db : Db Tx) :
    Stmt → Store Tx Budget UUID Budget.id → Prop where
  | insert (b : NewBudget) (amount : Numeric) (hamount : b.amount.toNumeric = some amount)
      (hlock : db.budgets.locked t b.id = false) (hnew : (db.budgets.view t).get b.id = none)
      (hfree : db.budgets.contended t Budget.periodKey (b.userId, b.category, b.period) = false ∧
        db.budgets.duplicate t Budget.periodKey (b.userId, b.category, b.period) = false) :
      BudgetWrite now t db (.insertBudget b)
        (db.budgets.stage t (.put ⟨b.id, b.userId, b.category, amount, b.period,
          b.alertThresholdPct, b.active, now, now⟩))
  | update (id : UUID) (cols : List BudgetColumn) (v v' : Budget)
      (hget : (db.budgets.view t).get id = some v) (hlock : db.budgets.locked t id = false)
      (hstore : storeAll BudgetColumn.store v cols = .ok v')
      (hfree : v'.periodKey ≠ v.periodKey → ∀ x, v'.periodKey = some x →
        db.budgets.contended t Budget.periodKey x = false ∧
          db.budgets.duplicate t Budget.periodKey x = false) :
      BudgetWrite now t db (.updateBudget id cols)
        (db.budgets.stage t (.put { v' with id := v.id, updatedAt := now }))
  | delete (id : UUID) (v : Budget) (hget : (db.budgets.view t).get id = some v)
      (hlock : db.budgets.locked t id = false) :
      BudgetWrite now t db (.deleteBudget id) (db.budgets.stage t (.del id))

theorem storeAmount_ok {d : Decimal} {a : Numeric} :
    storeAmount (some d) = .ok a ↔ d.toNumeric = some a := by
  rw [storeAmount]
  cases d.toNumeric with
  | none => simp
  | some b => simp

/-- A statement that takes effect leaves the budgets table or writes it. -/
theorem Stmt.exec_budgets {now : Timestamp} {db db' : Db Tx} {s : Stmt} {a : s.Res}
    (h : s.exec now t db = some (.ok a, db')) :
    db'.budgets = db.budgets ∨ BudgetWrite now t db s db'.budgets := by
  by_cases hw : s.writesBudgets = true
  · cases s with
    | insertBudget b =>
        simp only [Stmt.exec] at h
        split at h
        · rename_i amount hamount
          obtain ⟨⟨r, st⟩, hins, heq⟩ := Option.map_eq_some_iff.1 h
          cases heq
          obtain ⟨hlock, hnew, hfree, rfl⟩ := insert_ok hins
          exact Or.inr (.insert b amount (storeAmount_ok.1 hamount) hlock hnew (hfree _ rfl))
        · cases h
    | updateBudget id cols =>
        simp only [Stmt.exec] at h
        split at h
        · cases h
        · rename_i v hv
          split at h
          · cases h
          · rename_i v' hstore
            split at h
            · cases h
            · rename_i hwait
              split at h
              · cases h
              · rename_i hdup
                cases h
                simp only [Bool.or_eq_true, not_or, Bool.not_eq_true, Bool.and_eq_true,
                  decide_eq_true_eq, not_and] at hwait hdup
                refine Or.inr (.update id cols v v' hv hwait.1 hstore (fun hne x hx => ?_))
                have hwait := hwait.2
                rw [hx, Option.any_some] at hwait hdup
                rw [hx] at hne
                exact ⟨by simpa [hne] using hwait, hdup hne⟩
    | deleteBudget id =>
        obtain ⟨⟨r, st⟩, hdel, heq⟩ := Option.map_eq_some_iff.1 h
        cases heq
        rcases delete_ok hdel with ⟨-, rfl⟩ | ⟨v, hget, hlock, rfl⟩
        · exact Or.inl rfl
        · exact Or.inr (.delete id v hget hlock)
    | _ => cases hw
  · exact Or.inl ((Stmt.exec_frame h).budgets (Bool.not_eq_true _ ▸ hw))

/-- **One budget per user, category and period**: the index is kept by everything the backend
does. -/
theorem exec_uniqueBudgets {o : Op} {r : Except PyExc o.Res} (h : exec env t o w = some (r, w'))
    (hu : w.db.budgets.UniqueOn Budget.periodKey) :
    w'.db.budgets.UniqueOn Budget.periodKey := by
  refine exec_db (I := fun db => db.budgets.UniqueOn Budget.periodKey) (fun _ hdb => hdb.commit t)
    (fun _ hdb => hdb.rollback t) h (fun s a db ho hs => ?_) hu
  subst ho
  rcases Stmt.exec_budgets hs with heq | hw
  · rw [heq]
    exact hu
  · generalize db.budgets = st at hw
    cases hw with
    | insert b amount hamount hlock hnew hfree =>
        exact hu.stage_of_free (fun v x hv hx => by cases hv; cases hx; exact hfree)
    | update id cols v v' hget hlock hstore hfree =>
        have hid : v.id = id := Table.key_of_get hget
        by_cases hkey : v'.periodKey = v.periodKey
        · refine hu.stage_of_same (u := v) ?_ ?_ hkey
          · show w.db.budgets.locked t v.id = false
            rw [hid, hlock]
          · show (w.db.budgets.view t).get v.id = some v
            rw [hid, hget]
        · exact hu.stage_of_free (fun u x hv hx => by cases hv; exact hfree hkey x hx)
    | delete id v hget hlock => exact hu.stage_none t rfl

/-! ## What other sessions keep -/

/-- An operation leaves the uncommitted receipts of other sessions as they were. -/
theorem exec_staged_of_ne {t' : Tx} {o : Op} {r : Except PyExc o.Res}
    (h : exec env t o w = some (r, w')) (hne : t' ≠ t) (k : UUID) :
    w'.db.receipts.staged t' k = w.db.receipts.staged t' k := by
  refine exec_db (I := fun db => db.receipts.staged t' k = w.db.receipts.staged t' k)
    (fun db hdb => ?_) (fun db hdb => ?_) h (fun s a db ho hs => ?_) rfl
  · exact (Store.staged_commit _ _ _ _).trans ((if_neg hne).trans hdb)
  · exact (Store.staged_rollback _ _ _ _).trans ((if_neg hne).trans hdb)
  · rcases Stmt.exec_receipts hs with heq | hw
    · rw [heq]
    · generalize db.receipts = st at hw
      cases hw <;> rw [Store.staged_stage, if_neg (fun hc => hne hc.1.symm)]

/-- An operation leaves the uncommitted expenses of other sessions as they were. -/
theorem exec_staged_expenses_of_ne {t' : Tx} {o : Op} {r : Except PyExc o.Res}
    (h : exec env t o w = some (r, w')) (hne : t' ≠ t) (k : UUID) :
    w'.db.expenses.staged t' k = w.db.expenses.staged t' k := by
  have hall : ∀ (ws : List (Write Expense UUID)) (st : Store Tx Expense UUID Expense.id),
      (st.stageAll t ws).staged t' k = st.staged t' k := by
    intro ws
    induction ws with
    | nil => intro st; rfl
    | cons x ws ih =>
        intro st
        rw [Store.stageAll, List.foldl_cons, ← Store.stageAll, ih, Store.staged_stage,
          if_neg (fun hc => hne hc.1.symm)]
  refine exec_db (I := fun db => db.expenses.staged t' k = w.db.expenses.staged t' k)
    (fun db hdb => ?_) (fun db hdb => ?_) h (fun s a db ho hs => ?_) rfl
  · exact (Store.staged_commit _ _ _ _).trans ((if_neg hne).trans hdb)
  · exact (Store.staged_rollback _ _ _ _).trans ((if_neg hne).trans hdb)
  · rcases Stmt.exec_expenses hs with heq | hw
    · rw [heq]
    · generalize db.expenses = st at hw
      cases hw
      case unlink => exact hall _ _
      all_goals rw [Store.staged_stage, if_neg (fun hc => hne hc.1.symm)]

/-- An operation breaks and repairs no other session. -/
theorem exec_failed_of_ne {t' : Tx} {o : Op} {r : Except PyExc o.Res}
    (h : exec env t o w = some (r, w')) (hne : t' ≠ t) : w'.failed t' = w.failed t' := by
  have heffect : ∀ {f : Fault} {e : PyExc} {v : World Tx} {r : Except PyExc Unit},
      w.effect f e v = (r, w') → v.failed = w.failed → w'.failed t' = w.failed t' := by
    intro f e v r he hv
    cases f <;> cases he <;> first | exact congrFun hv t' | rfl
  cases o with
  | sql s =>
      rcases exec_sql_cases h with ⟨-, -, rfl⟩ | ⟨-, -, rfl⟩ | ⟨a, db, -, -, hs, rfl⟩
      · rfl
      · exact if_neg hne
      · rfl
  | commit =>
      rcases exec_commit_cases h with ⟨-, -, rfl⟩ | ⟨-, -, rfl⟩ | ⟨-, -, rfl⟩ | ⟨-, -, rfl⟩
      · rfl
      · rfl
      · exact if_neg hne
      · exact if_neg hne
  | rollback =>
      cases h
      exact if_neg hne
  | putObject key body mime => exact heffect (Option.some.inj h) rfl
  | deleteObject key => exact heffect (Option.some.inj h) rfl
  | delay task => exact heffect (Option.some.inj h) rfl
  | getObject key =>
      simp only [exec] at h
      split at h <;> cases h <;> rfl
  | uuid4 | today | utcnow | ext x => cases h; rfl

/-- The same committed receipts and expenses. -/
structure Db.SameCommitted (db db' : Db Tx) : Prop where
  receipts : db.receipts.committed = db'.receipts.committed
  expenses : db.expenses.committed = db'.expenses.committed

/-- Committed rows change only by commits. -/
theorem exec_committed {o : Op} {r : Except PyExc o.Res} (h : exec env t o w = some (r, w')) :
    w'.db.SameCommitted w.db ∨
      (o = .commit ∧ w.failed t = false ∧ w'.db.SameCommitted (w.db.commit t)) := by
  cases o with
  | commit =>
      rcases exec_commit_cases h with ⟨-, -, rfl⟩ | ⟨hf, -, rfl⟩ | ⟨-, -, rfl⟩ | ⟨hf, -, rfl⟩
      · exact Or.inl ⟨rfl, rfl⟩
      · exact Or.inr ⟨rfl, hf, rfl, rfl⟩
      · exact Or.inl ⟨rfl, rfl⟩
      · exact Or.inr ⟨rfl, hf, rfl, rfl⟩
  | sql s =>
      rcases exec_sql_cases h with ⟨-, -, rfl⟩ | ⟨-, -, rfl⟩ | ⟨a, db, -, -, hs, rfl⟩
      · exact Or.inl ⟨rfl, rfl⟩
      · exact Or.inl ⟨rfl, rfl⟩
      · refine Or.inl ⟨?_, ?_⟩
        · show db.receipts.committed = w.db.receipts.committed
          rcases Stmt.exec_receipts hs with heq | hw
          · rw [heq]
          · generalize db.receipts = st at hw
            cases hw <;> rfl
        · show db.expenses.committed = w.db.expenses.committed
          rcases Stmt.exec_expenses hs with heq | hw
          · rw [heq]
          · generalize db.expenses = st at hw
            cases hw with
            | unlink id linked _ _ => exact Store.committed_stageAll _ t _
            | _ => rfl
  | rollback => cases h; exact Or.inl ⟨rfl, rfl⟩
  | _ =>
      have hdb := (exec_outside h (by simp) (by simp) (by simp)).1
      exact Or.inl ⟨by rw [hdb], by rw [hdb]⟩

/-- The committed receipts change only by commits. -/
theorem exec_committed_receipts {o : Op} {r : Except PyExc o.Res}
    (h : exec env t o w = some (r, w')) :
    w'.db.receipts.committed = w.db.receipts.committed ∨
      (o = .commit ∧ w.failed t = false ∧
        w'.db.receipts.committed = (w.db.receipts.commit t).committed) := by
  rcases exec_committed h with hsame | ⟨ho, hf, hsame⟩
  · exact Or.inl hsame.receipts
  · exact Or.inr ⟨ho, hf, hsame.receipts⟩

/-- A `SELECT` answers with rows that meet its condition. -/
def SoundRows : (o : Op) → Except PyExc o.Res → Prop
  | .sql (.selectReceipts _ p), .ok rows => ∀ v ∈ rows, p v = true
  | .sql (.selectExpenses _ p), .ok rows => ∀ v ∈ rows, p v = true
  | _, _ => True

theorem exec_soundRows {o : Op} {r : Except PyExc o.Res} (h : exec env t o w = some (r, w')) :
    SoundRows o r := by
  cases o with
  | sql s =>
      rcases exec_sql_cases h with ⟨-, rfl, -⟩ | ⟨-, ⟨e, rfl⟩, -⟩ | ⟨a, db, -, rfl, hs, -⟩
      · cases s <;> trivial
      · cases s <;> trivial
      · cases s with
        | selectReceipts params p =>
            simp only [Stmt.exec, Option.some.injEq, Prod.mk.injEq] at hs
            intro v hv
            rw [select_ok hs.1, List.mem_filter] at hv
            exact hv.2
        | selectExpenses params p =>
            simp only [Stmt.exec, Option.some.injEq, Prod.mk.injEq] at hs
            intro v hv
            rw [select_ok hs.1, List.mem_filter] at hv
            exact hv.2
        | _ => trivial
  | _ => cases r <;> trivial

/-- The rows a `SELECT` has answered with. -/
theorem exec_selectReceipts {params : List Param} {p : Receipt → Bool} {rows : List Receipt}
    (h : exec env t (.sql (.selectReceipts params p)) w = some (.ok rows, w')) :
    rows = (w.db.receipts.view t).rows.filter p := by
  rcases exec_sql_cases h with ⟨-, hr, -⟩ | ⟨-, ⟨e, hr⟩, -⟩ | ⟨a, db, -, hr, hs, -⟩
  · cases hr
  · cases hr
  · cases hr
    simp only [Stmt.exec, Option.some.injEq, Prod.mk.injEq] at hs
    exact select_ok hs.1

theorem exec_selectExpenses {params : List Param} {p : Expense → Bool} {rows : List Expense}
    (h : exec env t (.sql (.selectExpenses params p)) w = some (.ok rows, w')) :
    rows = (w.db.expenses.view t).rows.filter p := by
  rcases exec_sql_cases h with ⟨-, hr, -⟩ | ⟨-, ⟨e, hr⟩, -⟩ | ⟨a, db, -, hr, hs, -⟩
  · cases hr
  · cases hr
  · cases hr
    simp only [Stmt.exec, Option.some.injEq, Prod.mk.injEq] at hs
    exact select_ok hs.1

/-- No two sessions ever hold the lock on one receipt. -/
theorem exec_exclusive {o : Op} {r : Except PyExc o.Res} (h : exec env t o w = some (r, w'))
    (hex : w.db.receipts.Exclusive) : w'.db.receipts.Exclusive := by
  refine exec_db (I := fun db => db.receipts.Exclusive) (fun _ hdb => hdb.commit t)
    (fun _ hdb => hdb.rollback t) h (fun s a db _ hs => ?_) hex
  rcases Stmt.exec_receipts hs with heq | hw
  · rw [heq]
    exact hex
  · generalize db.receipts = st at hw
    cases hw with
    | insert v hlock hnew hfree => exact hex.stage hlock
    | update id cols v v' hget hlock hstore =>
        refine hex.stage ?_
        show w.db.receipts.locked t v.id = false
        rw [show v.id = id from Table.key_of_get hget, hlock]
    | delete id v hget hlock => exact hex.stage hlock

/-- No two sessions ever hold the lock on one expense. -/
theorem exec_exclusiveExpenses {o : Op} {r : Except PyExc o.Res}
    (h : exec env t o w = some (r, w')) (hex : w.db.expenses.Exclusive) :
    w'.db.expenses.Exclusive := by
  refine exec_db (I := fun db => db.expenses.Exclusive) (fun _ hdb => hdb.commit t)
    (fun _ hdb => hdb.rollback t) h (fun s a db _ hs => ?_) hex
  rcases Stmt.exec_expenses hs with heq | hw
  · rw [heq]
    exact hex
  · generalize db.expenses = st at hw
    cases hw with
    | insert e row hrow hlock hnew hfree => exact hex.stage hlock
    | update id cols v v' hget hlock hstore =>
        refine hex.stage ?_
        show w.db.expenses.locked t v.id = false
        rw [show v.id = id from Table.key_of_get hget, hlock]
    | delete id v hget hlock => exact hex.stage hlock
    | unlink id linked hlinked hlock =>
        refine hex.stageAll (fun x hx => ?_)
        obtain ⟨e, he, rfl⟩ := List.mem_map.1 hx
        exact hlock e he

/-! ## The unique index on `expenses.receipt_id` -/

/-- An update that links an expense to no other receipt. -/
def KeepsLinks : Op → Prop
  | .sql (.updateExpense _ cols) => ∀ id, ExpenseColumn.receiptId (some id) ∉ cols
  | _ => True

/-- Such an update leaves the link or clears it. -/
theorem storeAll_link {e e' : Expense} {cols : List ExpenseColumn}
    (h : storeAll ExpenseColumn.store e cols = .ok e')
    (hcols : ∀ id, ExpenseColumn.receiptId (some id) ∉ cols) :
    e'.receiptId = e.receiptId ∨ e'.receiptId = none := by
  induction cols generalizing e with
  | nil =>
      cases h
      exact Or.inl rfl
  | cons c cols ih =>
      rw [storeAll] at h
      split at h
      · cases h
      · rename_i e₁ he₁
        -- the row behind a checked value
        have hmap : ∀ {β : Type} {x : Except PyExc β} {f : β → Expense}, x.map f = .ok e₁ →
            ∃ a, e₁ = f a := by
          intro β x f hx
          cases x with
          | error e => cases hx
          | ok a =>
              cases hx
              exact ⟨a, rfl⟩
        have hlink : e₁.receiptId = e.receiptId ∨ e₁.receiptId = none := by
          cases c with
          | receiptId v =>
              cases v with
              | none =>
                  cases he₁
                  exact Or.inr rfl
              | some id => exact absurd List.mem_cons_self (hcols id)
          | _ =>
              obtain ⟨a, rfl⟩ := hmap he₁
              exact Or.inl rfl
        rcases ih h (fun id hid => hcols id (List.mem_cons_of_mem _ hid)) with heq | hnone
        · rw [heq]
          exact hlink
        · exact Or.inr hnone

/-- **At most one expense per receipt**: the index is kept by everything the backend does. -/
theorem exec_uniqueExpenses {o : Op} {r : Except PyExc o.Res} (h : exec env t o w = some (r, w'))
    (hkeeps : KeepsLinks o) (hu : w.db.expenses.UniqueOn Expense.receiptId) :
    w'.db.expenses.UniqueOn Expense.receiptId := by
  refine exec_db (I := fun db => db.expenses.UniqueOn Expense.receiptId) (fun _ hdb => hdb.commit t)
    (fun _ hdb => hdb.rollback t) h (fun s a db ho hs => ?_) hu
  subst ho
  rcases Stmt.exec_expenses hs with heq | hw
  · rw [heq]
    exact hu
  · generalize db.expenses = st at hw
    cases hw with
    | insert e row hrow hlock hnew hfree =>
        exact hu.stage_of_free (fun v x hv hx => hfree x (by cases hv; exact hx))
    | update id cols v v' hget hlock hstore =>
        have hid : v.id = id := Table.key_of_get hget
        rcases storeAll_link hstore hkeeps with hlink | hnone
        · refine hu.stage_of_same (u := v) ?_ ?_ hlink
          · show w.db.expenses.locked t v.id = false
            rw [hid, hlock]
          · show (w.db.expenses.view t).get v.id = some v
            rw [hid, hget]
        · exact hu.stage_none t hnone
    | delete id v hget hlock => exact hu.stage_none t rfl
    | unlink id linked hlinked hlock =>
        refine hu.stageAll_none t (fun x hx => ?_)
        obtain ⟨e, -, rfl⟩ := List.mem_map.1 hx
        rfl

/-- No operation touches the users. -/
theorem exec_users {o : Op} {r : Except PyExc o.Res} (h : exec env t o w = some (r, w')) :
    w'.db.users = w.db.users :=
  exec_db (I := fun db => db.users = w.db.users) (fun _ hdb => hdb) (fun _ hdb => hdb) h
    (fun _ _ _ _ hs => (Stmt.exec_frame hs).users) rfl

end SpendLens
